import Mathlib.Data.Finset.Card
import Mathlib.Data.Finset.Dedup
import ModuleResolution.Dependency.Map
import ModuleResolution.Proofs.Dependency.Sameness

/-!
# The graph of a dependency map

A dependency map names for every file the targets of its references. Its graph has files and targets
in one set of nodes, marks the files and links a file to a target once for every reference.

`Built` says this of a graph while a map is read: for the files and targets read so far, the graph
has exactly these nodes, each once, and exactly the files are marked as sources. Every step of the
reading keeps it: the name of a file, whether it was a target before or not (`Built.addFile`), a
target, whether it is a file or not (`Built.addTarget`), and a link (`Built.addEdge`). Hence the graph
of a whole map is built from the files, targets and dependencies of the map (`ofValue_built`).
-/

set_option autoImplicit false

namespace ModuleResolution.Dependency

/-! ## Dependency maps -/

/-- A dependency map: the targets of the references in each file. A file is named once, and so is a
reference in a file. -/
structure DependencyMap where
  records : Table (Table String)
  distinct_files : records.keys.Nodup
  distinct_references : ∀ record ∈ records, record.2.keys.Nodup

namespace DependencyMap

/-- The files of a map. -/
def files (D : DependencyMap) : List String :=
  D.records.keys

/-- The targets of all files, each as often as it is named. -/
def targets (D : DependencyMap) : List String :=
  D.records.flatMap fun (_, dependencies) => dependencies.map Prod.snd

/-- The JSON object for the dependencies of one file. -/
def entryValue (dependencies : Table String) : Json.Value :=
  .object (dependencies.map fun (reference, target) => (reference, .text target))

/-- The JSON object that a map is written as: an object of objects of texts. -/
def value (D : DependencyMap) : Json.Value :=
  .object (D.records.map fun (file, dependencies) => (file, entryValue dependencies))

/-- The link for one dependency of a file. -/
def edge (file : String) (dependency : String × String) : Edge :=
  ⟨file, .path dependency.2, some dependency.1⟩

/-- One link for every dependency. -/
def edges (D : DependencyMap) : List Edge :=
  D.records.flatMap fun (file, dependencies) => dependencies.map (edge file)

end DependencyMap

namespace Graph

/-! ## Nodes -/

/-- The targets that are nodes. -/
def reached (g : Graph) : List Target :=
  g.nodes.map Node.target

section Nodes

variable {g : Graph} {path : String}

theorem hasNode_path_iff : g.hasNode (.path path) = true ↔ .path path ∈ g.reached := by
  simp [hasNode, reached, Target.same_path_left]

theorem reached_markNodes (t : Target) (mark : Option Bool) (nodes : List Node) :
    (markNodes t mark nodes).map Node.target = nodes.map Node.target := by
  rw [markNodes, List.map_map]
  refine List.map_congr_left fun node _ => ?_
  simp only [Function.comp_apply]
  split <;> rfl

theorem reached_addNode (mark : Option Bool) :
    (g.addNode (.path path) mark).reached =
      if .path path ∈ g.reached then g.reached else g.reached ++ [.path path] := by
  by_cases h : .path path ∈ g.reached
  · simp only [addNode, hasNode_path_iff.2 h, if_pos, h]
    exact reached_markNodes _ mark g.nodes
  · simp only [addNode, mt hasNode_path_iff.1 h, Bool.false_eq_true, if_false, h]
    simp [reached]

theorem mem_reached_addNode {mark : Option Bool} {t : Target} :
    t ∈ (g.addNode (.path path) mark).reached ↔ t ∈ g.reached ∨ t = .path path := by
  rw [reached_addNode]
  split
  · constructor
    · exact .inl
    · rintro (h | rfl) <;> assumption
  · simp

/-- A target becomes a node only if it is none yet. -/
theorem nodup_reached_addNode (distinct : g.reached.Nodup) {t : Target} (mark : Option Bool) :
    (g.addNode t mark).reached.Nodup := by
  unfold addNode
  split
  · rw [reached, reached_markNodes]
    exact distinct
  · rename_i fresh
    have absent : t ∉ g.reached := by
      intro member
      obtain ⟨node, hnode, rfl⟩ := List.mem_map.1 member
      exact fresh (List.any_eq_true.2 ⟨node, hnode, Target.same_self node.target⟩)
    have longer : (g.nodes ++ [Node.mk t mark]).map Node.target = g.reached.concat t := by
      simp [reached]
    rw [reached, longer]
    exact distinct.concat absent

/-- After a path has been marked, its node has that mark, and the other nodes are old ones. -/
theorem mem_nodes_addNode {isSource : Bool} {node : Node}
    (h : node ∈ (g.addNode (.path path) (some isSource)).nodes) :
    node = ⟨.path path, some isSource⟩ ∨ node ∈ g.nodes ∧ node.target ≠ .path path := by
  by_cases present : .path path ∈ g.reached
  · simp only [addNode, hasNode_path_iff.2 present, if_true, markNodes, List.mem_map] at h
    obtain ⟨old, hold, rfl⟩ := h
    by_cases he : old.target = .path path
    · simp [Target.same_path_left, he]
    · exact .inr (by simpa [Target.same_path_left, he] using hold)
  · simp only [addNode, mt hasNode_path_iff.1 present, Bool.false_eq_true, if_false,
      List.mem_append, List.mem_singleton] at h
    rcases h with h | rfl
    · exact .inr ⟨h, fun he => present (List.mem_map.2 ⟨node, h, he⟩)⟩
    · exact .inl rfl

theorem addNode_none (h : .path path ∈ g.reached) : g.addNode (.path path) none = g := by
  have kept : markNodes (.path path) none g.nodes = g.nodes := by simp [markNodes]
  simp [addNode, hasNode_path_iff.2 h, kept]

theorem parallel_addNode (t : Target) (mark : Option Bool) :
    (g.addNode t mark).parallel = g.parallel := by
  unfold addNode
  split <;> rfl

theorem edges_addNode (t : Target) (mark : Option Bool) : (g.addNode t mark).edges = g.edges := by
  unfold addNode
  split <;> rfl

theorem mem_sourceFiles_iff {file : String} :
    file ∈ g.sourceFiles ↔
      ∃ node ∈ g.nodes, node.target = .path file ∧ node.isSource.getD true = true := by
  rw [sourceFiles, List.mem_filterMap]
  refine exists_congr fun node => and_congr_right fun _ => ?_
  cases node.target <;> simp [and_comm]

theorem sourceFiles_sublist (g : Graph) : (g.sourceFiles.map Target.path).Sublist g.reached := by
  obtain ⟨parallel, nodes, edges⟩ := g
  induction nodes with
  | nil => exact .slnil
  | cons node rest ih =>
    obtain ⟨target, isSource⟩ := node
    simp only [sourceFiles, reached, List.filterMap_cons, List.map_cons] at ih ⊢
    cases target with
    | path file =>
      by_cases source : isSource.getD true = true
      · simpa [source] using ih
      · simpa [source] using ih.cons _
    | _ => exact ih.cons _

end Nodes

/-! ## Reading a map -/

/-- A graph while a map is read, after some files, targets and links. -/
structure Built (files targets : List String) (edges : List Edge) (g : Graph) : Prop where
  parallel : g.parallel = true
  edges_eq : g.edges = edges
  distinct : g.reached.Nodup
  mem_reached : ∀ t, t ∈ g.reached ↔ ∃ path ∈ files ++ targets, t = .path path
  marked : ∀ node ∈ g.nodes,
    node.isSource = some (decide (∃ file ∈ files, node.target = .path file))

namespace Built

open DependencyMap (edge entryValue)

variable {files targets : List String} {edges : List Edge} {g : Graph}

theorem empty : Built [] [] [] (Graph.empty true) where
  parallel := rfl
  edges_eq := rfl
  distinct := List.nodup_nil
  mem_reached := by simp [reached, Graph.empty]
  marked := by simp [Graph.empty]

/-- The order of the files does not matter, nor how often a file is named. -/
theorem congr_files (built : Built files targets edges g) {files' : List String}
    (h : ∀ file, file ∈ files' ↔ file ∈ files) : Built files' targets edges g := by
  refine { built with mem_reached := fun t => ?_, marked := fun node hnode => ?_ }
  · rw [built.mem_reached]
    simp [h]
  · rw [built.marked node hnode]
    simp [h]

/-- The name of a file is marked, also if it has been a target before. -/
theorem addFile (built : Built files targets edges g) (file : String) :
    Built (files ++ [file]) targets edges (g.addNode (.path file) (some true)) where
  parallel := by rw [parallel_addNode, built.parallel]
  edges_eq := by rw [edges_addNode, built.edges_eq]
  distinct := nodup_reached_addNode built.distinct _
  mem_reached t := by
    rw [mem_reached_addNode, built.mem_reached]
    simp only [List.mem_append, List.mem_singleton]
    grind
  marked node hnode := by
    rcases mem_nodes_addNode hnode with rfl | ⟨hold, ne⟩
    · simp
    · simp [built.marked node hold, or_and_right, exists_or, ne]

/-- A target that is a node keeps its mark; any other one is added and is no source. -/
theorem addTarget (built : Built files targets edges g) (target : String) :
    Built files (targets ++ [target]) edges
      (if g.hasNode (.path target) then g else g.addNode (.path target) (some false)) := by
  by_cases h : .path target ∈ g.reached
  · rw [if_pos (hasNode_path_iff.2 h)]
    have known := (built.mem_reached _).1 h
    refine { built with mem_reached := fun t => ?_ }
    rw [built.mem_reached]
    grind
  · rw [if_neg (mt hasNode_path_iff.1 h)]
    refine ⟨?_, ?_, ?_, fun t => ?_, fun node hnode => ?_⟩
    · rw [parallel_addNode, built.parallel]
    · rw [edges_addNode, built.edges_eq]
    · exact nodup_reached_addNode built.distinct _
    · rw [mem_reached_addNode, built.mem_reached]
      grind
    · rcases mem_nodes_addNode hnode with rfl | ⟨hold, -⟩
      -- the files read so far are nodes, so a fresh target is none of them
      · have fresh : target ∉ files := fun hmem =>
          h ((built.mem_reached _).2 ⟨target, List.mem_append_left _ hmem, rfl⟩)
        simp [fresh]
      · exact built.marked node hold

/-- A link between nodes is added behind the others, also beside one between the same nodes. -/
theorem addEdge (built : Built files targets edges g) {e : Edge} (hsource : e.source ∈ files)
    {target : String} (htarget : target ∈ targets) (he : e.target = .path target) :
    Built files targets (edges ++ [e]) (g.addEdge e) := by
  have source : .path e.source ∈ g.reached :=
    (built.mem_reached _).2 ⟨_, List.mem_append_left _ hsource, rfl⟩
  have present : .path target ∈ g.reached :=
    (built.mem_reached _).2 ⟨_, List.mem_append_right _ htarget, rfl⟩
  have step : g.addEdge e = { g with edges := g.edges ++ [e] } := by
    simp [Graph.addEdge, addNode_none source, he, addNode_none present, addToEdges, built.parallel]
  rw [step]
  exact { built with edges_eq := by simp [built.edges_eq] }

/-- Reading one dependency of a file. -/
theorem addDependency (built : Built files targets edges g) {file : String} (hfile : file ∈ files)
    (reference target : String) :
    ∃ g', Graph.addDependency file g (.ofString reference, .text target) = .ok g' ∧
      Built files (targets ++ [target]) (edges ++ [edge file (reference, target)]) g' := by
  refine ⟨_, ?_, (built.addTarget target).addEdge hfile (by simp) rfl⟩
  simp only [Graph.addDependency, Target.ofValue, LooseText.string_ofString]
  rfl

/-- Reading the dependencies of a file. -/
theorem addDependencies (built : Built files targets edges g) {file : String} (hfile : file ∈ files)
    (dependencies : Table String) :
    ∃ g', (dependencies.map fun (reference, target) =>
        (LooseText.ofString reference, Json.Value.text target)).foldlM
          (Graph.addDependency file) g = .ok g' ∧
      Built files (targets ++ dependencies.map Prod.snd) (edges ++ dependencies.map (edge file))
        g' := by
  induction dependencies generalizing targets edges g with
  | nil => exact ⟨g, rfl, by simpa using built⟩
  | cons dependency rest ih =>
    obtain ⟨reference, target⟩ := dependency
    obtain ⟨h, hstep, next⟩ := built.addDependency hfile reference target
    obtain ⟨g', hrest, done⟩ := ih next
    refine ⟨g', ?_, by simpa using done⟩
    rw [List.map_cons, List.foldlM_cons, hstep]
    exact hrest

/-- Reading the entry of a file. -/
theorem addEntry (built : Built files targets edges g) (mapPath file : String)
    (dependencies : Table String) :
    ∃ g', Graph.addEntry mapPath g (.ofString file, entryValue dependencies) = .ok g' ∧
      Built (files ++ [file]) (targets ++ dependencies.map Prod.snd)
        (edges ++ dependencies.map (edge file)) g' := by
  have known : file ∈ files ++ [file] := by simp
  obtain ⟨g', read, done⟩ := (built.addFile file).addDependencies known dependencies
  refine ⟨g', ?_, done⟩
  simp only [Graph.addEntry, entryValue, Json.Value.fields?, LooseText.string_ofString]
  exact read

/-- Reading the entries of several files. -/
theorem addEntries (built : Built files targets edges g) (mapPath : String)
    (records : Table (Table String)) :
    ∃ g', (records.map fun (file, dependencies) =>
        (LooseText.ofString file, entryValue dependencies)).foldlM
          (Graph.addEntry mapPath) g = .ok g' ∧
      Built (files ++ records.keys)
        (targets ++ records.flatMap fun (_, dependencies) => dependencies.map Prod.snd)
        (edges ++ records.flatMap fun (file, dependencies) => dependencies.map (edge file)) g' := by
  induction records generalizing files targets edges g with
  | nil => exact ⟨g, rfl, by simpa [Table.keys] using built⟩
  | cons record rest ih =>
    obtain ⟨file, dependencies⟩ := record
    obtain ⟨h, hstep, next⟩ := built.addEntry mapPath file dependencies
    obtain ⟨g', hrest, done⟩ := ih next
    refine ⟨g', ?_, by simpa [Table.keys] using done⟩
    rw [List.map_cons, List.foldlM_cons, hstep]
    exact hrest

/-- Marking files that have been read changes nothing. -/
theorem markFiles (built : Built files targets edges g) (again : List String) (h : again ⊆ files) :
    Built files targets edges
      (again.foldl (fun g file => g.addNode (.path file) (some true)) g) := by
  induction again generalizing g with
  | nil => exact built
  | cons file rest ih =>
    obtain ⟨known, rest_known⟩ := List.cons_subset.1 h
    refine ih ((built.addFile file).congr_files fun other => ?_) rest_known
    simp +contextual [or_iff_left_of_imp, known]

/-! ## What has been read -/

theorem mem_sourceFiles (built : Built files targets edges g) {file : String} :
    file ∈ g.sourceFiles ↔ file ∈ files := by
  rw [mem_sourceFiles_iff]
  constructor
  · rintro ⟨node, hnode, target, source⟩
    simpa [built.marked node hnode, target] using source
  · intro hfile
    obtain ⟨node, hnode, target⟩ := List.mem_map.1
      ((built.mem_reached _).2 ⟨file, List.mem_append_left _ hfile, rfl⟩)
    exact ⟨node, hnode, target, by simpa [built.marked node hnode, target] using hfile⟩

theorem nodup_sourceFiles (built : Built files targets edges g) : g.sourceFiles.Nodup :=
  (built.distinct.sublist g.sourceFiles_sublist).of_map

theorem length_nodes (built : Built files targets edges g) :
    g.nodes.length = (files ++ targets).toFinset.card := by
  have spelled : g.reached.toFinset = (files ++ targets).toFinset.image Target.path := by
    ext t
    simp only [List.mem_toFinset, built.mem_reached, Finset.mem_image, eq_comm]
  have injective : Function.Injective Target.path := fun _ _ h => Target.path.inj h
  calc g.nodes.length = g.reached.length := (List.length_map _).symm
    _ = g.reached.toFinset.card := (List.toFinset_card_of_nodup built.distinct).symm
    _ = (files ++ targets).toFinset.card := by
      rw [spelled, Finset.card_image_of_injective _ injective]

end Built

/-- The graph of a dependency map has its files, targets and dependencies. -/
theorem ofValue_built (mapPath : String) (D : DependencyMap) :
    ∃ g, ofValue mapPath D.value = .ok g ∧ Built D.files D.targets D.edges g := by
  obtain ⟨g, hread, built⟩ := Built.empty.addEntries mapPath D.records
  have built : Built D.files D.targets D.edges g := built
  refine ⟨_, ?_, built.markFiles D.files (List.Subset.refl _)⟩
  simp only [ofValue, DependencyMap.value, Json.Value.fields?]
  rw [hread]
  simp [DependencyMap.files, Table.keys, List.foldl_map]

end Graph

end ModuleResolution.Dependency
