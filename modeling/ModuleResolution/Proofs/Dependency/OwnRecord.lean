import ModuleResolution.Proofs.Dependency.LoadedMap
import ModuleResolution.Proofs.Text.FirstPlaces

/-!
# Records of files and of other names

The record of a file that is a node of a graph is read off the edges out of this file (`OwnRecord`):
each of its entries stands for one of them, and every reference on one of them has an entry.

A record can be asked for under any name. A name that is no node selects those of its characters
that are, so that its record is read off their edges (`get?_record`). Nothing leads out of such a
name, and its record should be empty; it is so only if no edge with a reference leaves a node that
is one of the characters (`ownRecord_iff`, `not_record_own`).
-/

set_option autoImplicit false

namespace ModuleResolution.Dependency

namespace Graph

/-- A graph of paths whose edges join nodes. -/
structure Linked (g : Graph) : Prop where
  paths : ∀ t ∈ g.reached, ∃ path, t = .path path
  sources : ∀ e ∈ g.edges, .path e.source ∈ g.reached
  targets : ∀ e ∈ g.edges, e.target ∈ g.reached

/-- The record of a name is that of a file: it has an entry for every reference on an edge out of
the file, and no others. -/
structure OwnRecord (g : Graph) (file : String) : Prop where
  linked : ∀ reference t, (g.record file).get? reference = some t →
    reference ≠ "" ∧ ⟨file, t, some reference⟩ ∈ g.edges
  recorded : ∀ reference t, reference ≠ "" → ⟨file, t, some reference⟩ ∈ g.edges →
    ((g.record file).get? reference).isSome = true

/-! ## Graphs that are built from paths -/

section Building

variable {g : Graph}

theorem Linked.empty (parallel : Bool) : (Graph.empty parallel).Linked where
  paths := by simp [Graph.empty, reached]
  sources := by simp [Graph.empty]
  targets := by simp [Graph.empty]

theorem Linked.addNode (linked : g.Linked) (path : String) (mark : Option Bool) :
    (g.addNode (.path path) mark).Linked where
  paths t member := by
    rcases mem_reached_addNode.1 member with before | rfl
    · exact linked.paths t before
    · exact ⟨path, rfl⟩
  sources e member := by
    rw [edges_addNode] at member
    exact mem_reached_addNode.2 (.inl (linked.sources e member))
  targets e member := by
    rw [edges_addNode] at member
    exact mem_reached_addNode.2 (.inl (linked.targets e member))

/-- An edge takes the place of one between the same nodes or is new. -/
theorem mem_addToEdges {parallel : Bool} {edges : List Edge} {e other : Edge}
    (member : other ∈ addToEdges parallel e edges) :
    other = e ∨ ∃ old ∈ edges, other.source = old.source ∧ other.target = old.target := by
  rw [addToEdges] at member
  split at member
  · obtain ⟨old, known, rfl⟩ := List.mem_map.1 member
    refine .inr ⟨old, known, ?_⟩
    split <;> exact ⟨rfl, rfl⟩
  · rcases List.mem_append.1 member with old | new
    · exact .inr ⟨other, old, rfl, rfl⟩
    · exact .inl (List.mem_singleton.1 new)

theorem Linked.addEdge (linked : g.Linked) (source target : String) (reference : Option String) :
    (g.addEdge ⟨source, .path target, reference⟩).Linked := by
  have joined := (linked.addNode source none).addNode target none
  have here : .path source ∈
      ((g.addNode (.path source) none).addNode (.path target) none).reached :=
    mem_reached_addNode.2 (.inl (mem_reached_addNode.2 (.inr rfl)))
  have there : .path target ∈
      ((g.addNode (.path source) none).addNode (.path target) none).reached :=
    mem_reached_addNode.2 (.inr rfl)
  refine ⟨joined.paths, fun e member => ?_, fun e member => ?_⟩
  · rcases mem_addToEdges member with rfl | ⟨old, known, source_eq, -⟩
    · exact here
    · rw [source_eq]
      exact joined.sources old known
  · rcases mem_addToEdges member with rfl | ⟨old, known, -, target_eq⟩
    · exact there
    · rw [target_eq]
      exact joined.targets old known

end Building

/-! ## Which edges make a record -/

section Record

variable {g : Graph} {file source reference : String}

/-- Of the edges with a reference the last one sets it. -/
theorem get?_foldl_recordEdge_last (edges : List Edge) (given : reference ≠ "") :
    (edges.foldl recordEdge []).get? reference =
      (edges.reverse.find? fun e => e.reference = some reference).map Edge.target := by
  induction edges using List.reverseRecOn with
  | nil => rfl
  | append_singleton edges e ih =>
    rw [List.foldl_append, List.foldl_cons, List.foldl_nil, get?_recordEdge, List.reverse_append]
    by_cases carries : e.reference = some reference
    · simp [carries, given]
    · simp [carries, ih]

/-- Nothing is recorded under the empty reference. -/
theorem get?_foldl_recordEdge_empty (edges : List Edge) :
    (edges.foldl recordEdge []).get? "" = none := by
  induction edges using List.reverseRecOn with
  | nil => rfl
  | append_singleton edges e ih =>
    rw [List.foldl_append, List.foldl_cons, List.foldl_nil, get?_recordEdge, ih]
    simp

/-- A node selects itself, any other name those of its characters that are nodes. -/
theorem mem_selected :
    source ∈ g.selected file ↔
      if g.hasNode (.path file) then source = file
      else (∃ c ∈ file.toList, source = String.singleton c) ∧ g.hasNode (.path source) = true := by
  rw [selected]
  split
  · exact List.mem_singleton
  · rw [Text.foldl_addNew, List.mem_eraseDups, List.mem_filter, List.mem_map]
    simp only [eq_comm]

theorem mem_edgesFrom (linked : g.Linked) {e : Edge} :
    e ∈ g.edgesFrom file ↔ e ∈ g.edges ∧ e.source ∈ g.selected file := by
  have paths (source : String) :
      ∀ e ∈ g.edges.filter (·.source = source), ∃ path, e.target = .path path := fun e member =>
    linked.paths _ (linked.targets e (List.mem_filter.1 member).1)
  rw [edgesFrom, List.mem_flatMap]
  constructor
  · rintro ⟨source, chosen, member⟩
    rw [mem_grouped (paths source), List.mem_filter, decide_eq_true_eq] at member
    obtain ⟨known, rfl⟩ := member
    exact ⟨known, chosen⟩
  · rintro ⟨known, chosen⟩
    refine ⟨e.source, chosen, ?_⟩
    rw [mem_grouped (paths e.source), List.mem_filter]
    exact ⟨known, decide_eq_true rfl⟩

/-- A record has its entries from the edges out of what its name selects. -/
theorem edge_of_get?_record (linked : g.Linked) {t : Target}
    (entry : (g.record file).get? reference = some t) :
    reference ≠ "" ∧ ∃ source ∈ g.selected file, ⟨source, t, some reference⟩ ∈ g.edges := by
  rw [record] at entry
  have given : reference ≠ "" := by
    rintro rfl
    rw [get?_foldl_recordEdge_empty] at entry
    cases entry
  rw [get?_foldl_recordEdge_last _ given, Option.map_eq_some_iff] at entry
  obtain ⟨e, last, rfl⟩ := entry
  have carries : e.reference = some reference := by simpa using List.find?_some last
  have member : e ∈ g.edgesFrom file := List.mem_reverse.1 (List.mem_of_find?_eq_some last)
  obtain ⟨known, chosen⟩ := (mem_edgesFrom linked).1 member
  rw [← carries]
  exact ⟨given, e.source, chosen, known⟩

/-- A record has an entry for every reference on those edges. -/
theorem isSome_get?_record (linked : g.Linked) {t : Target} (given : reference ≠ "")
    (chosen : source ∈ g.selected file) (known : ⟨source, t, some reference⟩ ∈ g.edges) :
    ((g.record file).get? reference).isSome = true := by
  have member := (mem_edgesFrom linked).2 ⟨known, chosen⟩
  rw [record, get?_foldl_recordEdge_last _ given, Option.isSome_map, List.find?_isSome]
  exact ⟨_, List.mem_reverse.2 member, decide_eq_true rfl⟩

theorem record_eq_nil_iff :
    g.record file = [] ↔ ∀ reference, (g.record file).get? reference = none := by
  constructor
  · intro empty reference
    rw [empty]
    rfl
  · intro unknown
    cases h : g.record file with
    | nil => rfl
    | cons entry rest =>
      have first := unknown entry.1
      rw [h, Table.get?, if_pos rfl] at first
      cases first

theorem hasNode_of_mem_edges (linked : g.Linked) {t : Target} {carried : Option String}
    (known : ⟨source, t, carried⟩ ∈ g.edges) : g.hasNode (.path source) = true :=
  hasNode_path_iff.2 (linked.sources _ known)

/-- The record under a node is the record of this file. -/
theorem OwnRecord.of_hasNode (linked : g.Linked) (node : g.hasNode (.path file) = true) :
    OwnRecord g file where
  linked reference t entry := by
    obtain ⟨given, source, chosen, known⟩ := edge_of_get?_record linked entry
    rw [mem_selected, if_pos node] at chosen
    rw [chosen] at known
    exact ⟨given, known⟩
  recorded reference t given known := by
    have itself : file ∈ g.selected file := by rw [mem_selected, if_pos node]
    exact isSome_get?_record linked given itself known

/-- An empty record is that of its file: an edge with a reference out of the file would have an
entry. -/
theorem OwnRecord.of_record_eq_nil (linked : g.Linked) (empty : g.record file = []) :
    OwnRecord g file where
  linked reference t entry := by
    rw [empty] at entry
    cases entry
  recorded reference t given known :=
    (of_hasNode linked (hasNode_of_mem_edges linked known)).recorded reference t given known

/-- Nothing leads out of a name that is no node. -/
theorem OwnRecord.record_eq_nil (own : OwnRecord g file) (linked : g.Linked)
    (absent : g.hasNode (.path file) = false) : g.record file = [] := by
  refine record_eq_nil_iff.2 fun reference => ?_
  by_contra entry
  obtain ⟨t, entry⟩ := Option.ne_none_iff_exists'.1 entry
  have known := (own.linked reference t entry).2
  rw [hasNode_of_mem_edges linked known] at absent
  cases absent

/-- The record under a name that is no node has the references on the edges out of its
characters. -/
theorem isSome_get?_record_of_absent (linked : g.Linked)
    (absent : g.hasNode (.path file) = false) :
    ((g.record file).get? reference).isSome = true ↔
      reference ≠ "" ∧ ∃ c ∈ file.toList, ∃ t,
        ⟨String.singleton c, t, some reference⟩ ∈ g.edges := by
  constructor
  · intro entry
    obtain ⟨t, entry⟩ := Option.isSome_iff_exists.1 entry
    obtain ⟨given, source, chosen, known⟩ := edge_of_get?_record linked entry
    rw [mem_selected, absent] at chosen
    obtain ⟨⟨c, member, rfl⟩, -⟩ := chosen
    exact ⟨given, c, member, t, known⟩
  · rintro ⟨given, c, member, t, known⟩
    have chosen : String.singleton c ∈ g.selected file := by
      rw [mem_selected, absent]
      exact ⟨⟨c, member, rfl⟩, hasNode_of_mem_edges linked known⟩
    exact isSome_get?_record linked given chosen known

end Record

/-- When the record under a name is the record of a file. It is so for every node. For a name that
is no node it is so only if the record is empty, whereas the record has an entry for every reference
on an edge out of a node that is a character of the name. -/
theorem ownRecord_iff {g : Graph} (linked : g.Linked) (file : String) :
    (OwnRecord g file ↔ g.hasNode (.path file) = true ∨ g.record file = []) ∧
      (g.hasNode (.path file) = false → ∀ reference,
        ((g.record file).get? reference).isSome = true ↔
          reference ≠ "" ∧ ∃ c ∈ file.toList, ∃ t,
            ⟨String.singleton c, t, some reference⟩ ∈ g.edges) := by
  refine ⟨⟨fun own => ?_, ?_⟩, fun absent _ => isSome_get?_record_of_absent linked absent⟩
  · cases node : g.hasNode (.path file) with
    | true => exact .inl rfl
    | false => exact .inr (own.record_eq_nil linked node)
  · rintro (node | empty)
    · exact .of_hasNode linked node
    · exact .of_record_eq_nil linked empty

/-- A graph with one link between two files of one letter. -/
def letters : Graph :=
  (Graph.empty true).addEdge ⟨"a", .path "b", some "x"⟩

theorem linked_letters : letters.Linked :=
  (Linked.empty true).addEdge "a" "b" (some "x")

theorem ownRecord_iff_letters :
    letters.Linked ∧ OwnRecord letters "a" ∧ OwnRecord letters "cd" ∧ ¬ OwnRecord letters "ca" ∧
      ((letters.record "ca").get? "x").isSome = true := by
  have named : letters.hasNode (.path "a") = true := by decide +kernel
  have absent : letters.hasNode (.path "ca") = false := by decide +kernel
  obtain ⟨other, entries⟩ := ownRecord_iff linked_letters "ca"
  have entry := (entries absent "x").2 ⟨by decide, 'a', by decide, .path "b", by decide +kernel⟩
  refine ⟨linked_letters, (ownRecord_iff linked_letters "a").1.2 (.inl named),
    (ownRecord_iff linked_letters "cd").1.2 (.inr (by decide +kernel)), fun own => ?_, entry⟩
  rcases other.1 own with node | empty
  · rw [absent] at node
    cases node
  · rw [empty] at entry
    cases entry

/-- The record under a name that is no node can be that of other files. -/
theorem not_record_own : ¬ ∀ (g : Graph) (file : String), g.Linked → OwnRecord g file := by
  intro own
  have entry : (letters.record "ca").get? "x" = some (.path "b") := by decide +kernel
  have known := ((own letters "ca" linked_letters).linked "x" _ entry).2
  have unknown : (⟨"ca", .path "b", some "x"⟩ : Edge) ∉ letters.edges := by decide +kernel
  exact unknown known

end Graph

end ModuleResolution.Dependency
