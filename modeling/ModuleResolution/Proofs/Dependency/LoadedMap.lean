import Mathlib.Algebra.Ring.Nat
import ModuleResolution.Dependency.Load
import ModuleResolution.Proofs.Dependency.GraphHistory
import ModuleResolution.Proofs.Dependency.MapGraph

/-!
# Loading a dependency map

Nothing is lost and nothing is invented on the way from a dependency map to an index: the sources of
the loaded graph are the files of the map, the index of the graph holds these files with their own
records, and the summary counts what the map holds (`load_dependencyMap`).

The edges out of a file are grouped by target before its record is made from them, which may change
their order. The record does not depend on it: a reference has one target in a file, so the record
is determined by which edges there are (`get?_foldl_recordEdge`, `mem_grouped`).
-/

set_option autoImplicit false

namespace ModuleResolution.Dependency

/-! ## Records from edges -/

namespace Graph

/-- Adding an edge to a record sets the reference of the edge. -/
theorem get?_recordEdge (record : Record) (e : Edge) (reference : String) :
    (recordEdge record e).get? reference =
      if e.reference = some reference ∧ reference ≠ "" then some e.target
      else record.get? reference := by
  unfold recordEdge
  cases he : e.reference with
  | none => simp
  | some other =>
    by_cases empty : other = ""
    · subst empty
      by_cases h : "" = reference <;> simp [h]
    · by_cases h : other = reference
      · subst h
        simp [empty, Table.get?_insert_self]
      · simp [empty, h, Table.get?_insert_of_ne (Ne.symm h)]

/-- What edges set a reference to when all of them that carry it lead to one target. -/
theorem get?_foldl_recordEdge {reference : String} {t : Target} (edges : List Edge)
    (agree : ∀ e ∈ edges, e.reference = some reference → e.target = t) (record : Record) :
    (edges.foldl recordEdge record).get? reference =
      if reference ≠ "" ∧ ∃ e ∈ edges, e.reference = some reference then some t
      else record.get? reference := by
  induction edges generalizing record with
  | nil => simp
  | cons e rest ih =>
    have agree_rest : ∀ e ∈ rest, e.reference = some reference → e.target = t :=
      fun e he => agree e (List.mem_cons_of_mem _ he)
    rw [List.foldl_cons, ih agree_rest, get?_recordEdge]
    by_cases he : e.reference = some reference
    · have := agree e List.mem_cons_self he
      by_cases empty : reference = "" <;> simp [he, empty, this]
    · simp [he]

theorem distinctTargets_append_singleton (edges : List Edge) (e : Edge) :
    distinctTargets (edges ++ [e]) =
      if (distinctTargets edges).any (Target.same e.target) then distinctTargets edges
      else distinctTargets edges ++ [e.target] := by
  rw [distinctTargets, List.foldl_append]
  rfl

theorem mem_distinctTargets {edges : List Edge}
    (paths : ∀ e ∈ edges, ∃ path, e.target = .path path) {t : Target} :
    t ∈ distinctTargets edges ↔ ∃ e ∈ edges, e.target = t := by
  -- from the last edge, which is compared with the targets found before it
  induction edges using List.reverseRecOn with
  | nil => simp [distinctTargets]
  | append_singleton rest e ih =>
    obtain ⟨path, he⟩ := paths e (by simp)
    have known : (distinctTargets rest).any (Target.same e.target) = true ↔
        e.target ∈ distinctTargets rest := by
      simp [he, Target.same_path_left]
    simp only [List.mem_append, List.mem_singleton, or_and_right, exists_or, exists_eq_left,
      ← ih fun e he => paths e (List.mem_append_left _ he)]
    rw [distinctTargets_append_singleton]
    split
    · rename_i h
      exact ⟨.inl, fun h' => h'.elim id fun h' => h' ▸ known.1 h⟩
    · simp [eq_comm]

/-- Grouping edges to paths by target loses and invents none. -/
theorem mem_grouped {edges : List Edge} (paths : ∀ e ∈ edges, ∃ path, e.target = .path path)
    {e : Edge} : e ∈ grouped edges ↔ e ∈ edges := by
  have same : ∀ e' ∈ edges, ∀ t, Target.same e'.target t = true ↔ t = e'.target := by
    intro e' he' t
    obtain ⟨path, h⟩ := paths e' he'
    simp [h, Target.same_path_left]
  simp only [grouped, List.mem_flatMap, List.mem_map, List.mem_filter, mem_distinctTargets paths]
  constructor
  · rintro ⟨-, ⟨e', he', rfl⟩, old, ⟨hold, h⟩, rfl⟩
    rw [same e' he'] at h
    rwa [← h]
  · intro he
    exact ⟨e.target, ⟨e, he, rfl⟩, e, ⟨he, (same e he _).2 rfl⟩, rfl⟩

end Graph

namespace DependencyMap

variable (D : DependencyMap)

theorem mem_edges {e : Edge} :
    e ∈ D.edges ↔ ∃ file dependencies, (file, dependencies) ∈ D.records ∧
      ∃ dependency ∈ dependencies, e = edge file dependency := by
  simp [edges, eq_comm]

theorem exists_path_of_mem_edges {e : Edge} (he : e ∈ D.edges) :
    ∃ path, e.target = .path path := by
  obtain ⟨-, -, -, dependency, -, rfl⟩ := D.mem_edges.1 he
  exact ⟨dependency.2, rfl⟩

/-- The edges from a file are those for its own dependencies. -/
theorem mem_edges_from {file : String} {dependencies : Table String}
    (h : D.records.get? file = some dependencies) {e : Edge} :
    e ∈ D.edges.filter (·.source = file) ↔
      ∃ dependency ∈ dependencies, e = edge file dependency := by
  have own := (Table.get?_eq_some_iff D.distinct_files).1 h
  simp only [List.mem_filter, decide_eq_true_eq, mem_edges]
  constructor
  · rintro ⟨⟨other, others, hother, dependency, hdep, rfl⟩, rfl⟩
    have := (Table.get?_eq_some_iff D.distinct_files).2 hother
    obtain rfl : others = dependencies := by simpa [edge, this] using h
    exact ⟨dependency, hdep, rfl⟩
  · rintro ⟨dependency, hdep, rfl⟩
    exact ⟨⟨file, dependencies, own, dependency, hdep, rfl⟩, rfl⟩

/-- The record from edges that are, in any order, those for the dependencies of a file. -/
theorem get?_foldl_recordEdge_edge (file : String) {dependencies : Table String}
    (distinct : dependencies.keys.Nodup) {edges : List Edge}
    (links : ∀ e, e ∈ edges ↔ ∃ dependency ∈ dependencies, e = edge file dependency)
    (reference : String) :
    (edges.foldl Graph.recordEdge []).get? reference =
      ((dependencies.erase "").get? reference).map Target.path := by
  have linked : ∀ e ∈ edges, e.reference = some reference →
      ∃ target, dependencies.get? reference = some target ∧ e = edge file (reference, target) := by
    intro e he hr
    obtain ⟨⟨other, target⟩, hdep, rfl⟩ := (links e).1 he
    obtain rfl : other = reference := by simpa [edge] using hr
    exact ⟨target, (Table.get?_eq_some_iff distinct).2 hdep, rfl⟩
  cases found : dependencies.get? reference with
  | none =>
    have unlinked : ¬ ∃ e ∈ edges, e.reference = some reference := by
      rintro ⟨e, he, hr⟩
      obtain ⟨target, h, -⟩ := linked e he hr
      simp [found] at h
    -- no edge carries the reference, so they agree on any target
    rw [Graph.get?_foldl_recordEdge (t := .path "") edges
      fun e he hr => (unlinked ⟨e, he, hr⟩).elim]
    by_cases empty : reference = ""
    · simp [empty, Table.get?_erase_self]
    · simp [unlinked, Table.get?_erase_of_ne empty, found]
  | some target =>
    have agree : ∀ e ∈ edges, e.reference = some reference → e.target = .path target := by
      intro e he hr
      obtain ⟨other, h, rfl⟩ := linked e he hr
      simpa [edge, found, eq_comm] using h
    have present : ∃ e ∈ edges, e.reference = some reference :=
      ⟨_, (links _).2 ⟨_, (Table.get?_eq_some_iff distinct).1 found, rfl⟩, rfl⟩
    rw [Graph.get?_foldl_recordEdge edges agree]
    by_cases empty : reference = ""
    · simp [empty, Table.get?_erase_self]
    · simp only [ne_eq, empty, not_false_eq_true, true_and, if_pos present]
      rw [Table.get?_erase_of_ne empty, found, Option.map_some]

/-- The record that a graph with the edges of a map has for a file: the dependencies of the file
without the one under the empty reference. -/
theorem get?_record {g : Graph} (hedges : g.edges = D.edges) {file : String}
    (hnode : g.hasNode (.path file) = true) {dependencies : Table String}
    (h : D.records.get? file = some dependencies) (reference : String) :
    (g.record file).get? reference =
      ((dependencies.erase "").get? reference).map Target.path := by
  have distinct := D.distinct_references _ ((Table.get?_eq_some_iff D.distinct_files).1 h)
  have own : g.edgesFrom file = Graph.grouped (D.edges.filter (·.source = file)) := by
    simp [Graph.edgesFrom, Graph.selected, hnode, hedges]
  rw [Graph.record, own]
  refine get?_foldl_recordEdge_edge file distinct (fun e => ?_) reference
  rw [Graph.mem_grouped fun e he => D.exists_path_of_mem_edges (List.mem_filter.1 he).1,
    D.mem_edges_from h]

end DependencyMap

/-! ## Loading -/

/-- A path whose text can be read leads to something. -/
theorem kindOf_isSome_of_read {world : World} {path content : String}
    (held : world.fileSystem.read path = .ok content) :
    (world.disk.kindOf (Path.tidy path)).isSome = true := by
  simp only [World.fileSystem, Files.Disk.fileSystem, Files.Disk.readBytes,
    Files.Disk.kindOf] at held ⊢
  cases h : world.disk.locate (Path.tidy path) with
  | error refusal => simp [h, Files.textOf] at held
  | ok found => cases found <;> rfl

namespace Graph

/-- Loading a map whose text can be read gives the graph of the text and shows nothing. -/
theorem run_load {world : World} {path content : String}
    (held : world.fileSystem.read path = .ok content) :
    (load path).run world = ([], ofText (world.nesting .map) (Path.tidy path) content) := by
  obtain ⟨kind, present⟩ := Option.isSome_iff_exists.1 (kindOf_isSome_of_read held)
  have text : Files.textOf (Path.tidy path) (world.disk.readBytes (Path.tidy path)) = .ok content :=
    held
  simp only [load, Script.kindOf, Script.readText, Script.readBytes, Script.nestingOf, bind, pure,
    Script.andThen, Script.run, present, Option.isNone_some, Bool.false_eq_true, if_false, text]

/-- Loading a dependency map and indexing it loses and invents nothing. The sources of the graph and
the indexed files are the files of the map, whether a file is named first as a target or as a file;
the record of a file is its own entry without the empty reference; and the summary counts the files,
the paths that are files or targets, and the dependencies of all files. -/
theorem load_dependencyMap (world : World) (path content : String) (D : DependencyMap)
    (held : world.fileSystem.read path = .ok content)
    (spelled : Json.read (world.nesting .map) content = .ok D.value) :
    ∃ g, (load path).run world = ([], .ok g) ∧
      g.sourceFiles.Nodup ∧ (∀ file, file ∈ g.sourceFiles ↔ file ∈ D.files) ∧
      (∀ file, g.index.has file = true ↔ file ∈ D.files) ∧
      (∀ file dependencies, D.records.get? file = some dependencies →
        ∃ record, g.index.get? file = some record ∧
          ∀ reference, record.get? reference =
            ((dependencies.erase "").get? reference).map Target.path) ∧
      g.summary = ⟨D.files.length, (D.files ++ D.targets).toFinset.card,
        (D.records.map fun (_, dependencies) => dependencies.length).sum⟩ := by
  obtain ⟨g, hg, built⟩ := ofValue_built (Path.tidy path) D
  have sources : ∀ file, file ∈ g.sourceFiles ↔ file ∈ D.files := fun _ => built.mem_sourceFiles
  refine ⟨g, ?_, built.nodup_sourceFiles, sources, fun file => ?_, fun file dependencies h => ?_,
    ?_⟩
  · rw [run_load held, ofText, spelled]
    simp only [hg]
  · rw [Index.has_eq, get?_index, ← sources]
    by_cases hfile : file ∈ g.sourceFiles <;> simp [hfile]
  · have hfile : file ∈ D.files := Table.mem_keys_iff.2 (by simp [h])
    have hnode : g.hasNode (.path file) = true :=
      hasNode_path_iff.2 ((built.mem_reached _).2 ⟨file, List.mem_append_left _ hfile, rfl⟩)
    refine ⟨g.record file, ?_, D.get?_record built.edges_eq hnode h⟩
    rw [get?_index, if_pos ((sources file).2 hfile)]
  · have files : g.sourceFiles.length = D.files.length :=
      ((List.perm_ext_iff_of_nodup built.nodup_sourceFiles D.distinct_files).2 sources).length_eq
    have links : g.edges.length =
        (D.records.map fun (_, dependencies) => dependencies.length).sum := by
      simp [built.edges_eq, DependencyMap.edges, List.length_flatMap]
    rw [summary, files, built.length_nodes, links]

/-- A map with a file that is a target before it is named, a file that is its own target, one target
under several references, and an empty reference. -/
def sharedTargets : DependencyMap where
  records := [("b", [("x", "a"), ("", "a"), ("y", "b"), ("z", "a")]), ("a", [("x", "c")])]
  distinct_files := by decide
  distinct_references := by decide

/-- The text of that map. -/
def sharedText : String :=
  "\x7b\"b\":\x7b\"x\":\"a\",\"\":\"a\",\"y\":\"b\",\"z\":\"a\"\x7d,\"a\":\x7b\"x\":\"c\"\x7d\x7d"

/-- A disk with that text in one file, where JSON may be nested twice. -/
def sharedWorld : World :=
  ⟨⟨[(["m".toList], .file (sharedText.toList.map fun c => UInt8.ofNat c.toNat))], "/"⟩, [],
    fun _ => 2, .universal⟩

theorem load_dependencyMap_sharedTargets :
    sharedWorld.fileSystem.read "/m" = .ok sharedText ∧
      Json.read (sharedWorld.nesting .map) sharedText = .ok sharedTargets.value ∧
      ∃ g, (load "/m").run sharedWorld = ([], .ok g) ∧
        (∀ file, g.index.has file = true ↔ file ∈ ["b", "a"]) ∧
        (∃ record, g.index.get? "b" = some record ∧
          record.get? "x" = some (.path "a") ∧ record.get? "" = none ∧
          record.get? "y" = some (.path "b") ∧ record.get? "z" = some (.path "a")) ∧
        g.summary = ⟨2, 3, 5⟩ := by
  have held : sharedWorld.fileSystem.read "/m" = .ok sharedText := by
    have found : (sharedWorld.fileSystem.read "/m").toOption = some sharedText := by
      decide +kernel
    cases h : sharedWorld.fileSystem.read "/m" with
    | error fault => simp [h, Except.toOption] at found
    | ok content => simpa [h, Except.toOption] using found
  have spelled : Json.read (sharedWorld.nesting .map) sharedText = .ok sharedTargets.value := rfl
  obtain ⟨g, loaded, -, -, indexed, records, sizes⟩ :=
    load_dependencyMap sharedWorld "/m" sharedText sharedTargets held spelled
  obtain ⟨record, hrecord, targets⟩ := records "b" _ rfl
  exact ⟨held, spelled, g, loaded, indexed,
    ⟨record, hrecord, targets "x", targets "", targets "y", targets "z"⟩, sizes⟩

end Graph

end ModuleResolution.Dependency
