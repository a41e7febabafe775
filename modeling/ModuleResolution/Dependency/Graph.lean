import ModuleResolution.Dependency.Index

/-!
# Dependency graphs

The nodes of a graph are files and other targets; a node may be marked as a source
file or as not being one. An edge leads from a file to a target and carries the
reference by which the file names it. Edges between the same two nodes are either
kept in parallel or merged into one. The record of a file is read off its
outgoing edges, grouped by target.
-/

set_option autoImplicit false

namespace ModuleResolution.Dependency

/-- A link from a file to a target. -/
structure Edge where
  source : String
  target : Target
  reference : Option String
  deriving DecidableEq, Repr

/-- A node with its mark as a source file, if it has one. -/
structure Node where
  target : Target
  isSource : Option Bool
  deriving DecidableEq, Repr

/-- Files, targets and the links between them, each in the order of its creation. -/
structure Graph where
  parallel : Bool
  nodes : List Node
  edges : List Edge
  deriving Repr

namespace Graph

/-- A graph without nodes. -/
def empty (parallel : Bool) : Graph := ⟨parallel, [], []⟩

/-- Whether a target is a node. -/
def hasNode (g : Graph) (t : Target) : Bool :=
  g.nodes.any fun node => Target.same t node.target

/-! ## Building -/

/-- Marks the node of a target, if a mark is given. -/
def markNodes (t : Target) (mark : Option Bool) (nodes : List Node) : List Node :=
  nodes.map fun node =>
    if Target.same t node.target then { node with isSource := mark.or node.isSource } else node

/-- Adds a node, or marks it if it is there. -/
def addNode (g : Graph) (t : Target) (mark : Option Bool) : Graph :=
  if g.hasNode t then { g with nodes := markNodes t mark g.nodes }
  else { g with nodes := g.nodes ++ [⟨t, mark⟩] }

/-- Whether two edges join the same nodes. -/
def Edge.joinsSame (e f : Edge) : Bool :=
  e.source = f.source && Target.same e.target f.target

/-- Adds an edge to the edges of a graph. Without parallel edges, an edge between
the same nodes takes over the reference instead. -/
def addToEdges (parallel : Bool) (e : Edge) (edges : List Edge) : List Edge :=
  if !parallel && edges.any (Edge.joinsSame e) then
    edges.map fun old =>
      if Edge.joinsSame e old then { old with reference := e.reference.or old.reference } else old
  else edges ++ [e]

/-- Adds an edge and the nodes that it joins. -/
def addEdge (g : Graph) (e : Edge) : Graph :=
  let g := (g.addNode (.path e.source) none).addNode e.target none
  { g with edges := addToEdges g.parallel e g.edges }

/-! ## Reading -/

/-- The files that count as sources: those not marked otherwise. -/
def sourceFiles (g : Graph) : List String :=
  g.nodes.filterMap fun node =>
    match node.target with
    | .path file => if node.isSource.getD true then some file else none
    | _ => none

/-- The targets of edges, each once, in the order in which they were first linked. -/
def distinctTargets (edges : List Edge) : List Target :=
  edges.foldl
    (fun found e => if found.any (Target.same e.target) then found else found ++ [e.target]) []

/-- Edges of one file, grouped by target. -/
def grouped (edges : List Edge) : List Edge :=
  (distinctTargets edges).flatMap fun t =>
    (edges.filter fun e => Target.same t e.target).map fun e => { e with target := t }

/-- The files that a name selects: itself if it is a node, and otherwise those of
its characters that are nodes. -/
def selected (g : Graph) (file : String) : List String :=
  if g.hasNode (.path file) then [file]
  else
    ((file.toList.map String.singleton).filter fun c => g.hasNode (.path c)).foldl
      (fun found c => if found.contains c then found else found ++ [c]) []

/-- The edges out of the files that a name selects. -/
def edgesFrom (g : Graph) (file : String) : List Edge :=
  (g.selected file).flatMap fun source => grouped (g.edges.filter (·.source = source))

/-- A record with the entry of one more edge. An edge without a reference adds nothing. -/
def recordEdge (record : Record) (e : Edge) : Record :=
  match e.reference with
  | some reference => if reference = "" then record else record.insert reference e.target
  | none => record

/-- The record of a file; of two edges with one reference the later one counts. -/
def record (g : Graph) (file : String) : Record :=
  (g.edgesFrom file).foldl recordEdge []

/-- The sizes of a graph. -/
structure Summary where
  files : Nat
  targets : Nat
  edges : Nat
  deriving DecidableEq, Repr

/-- How many source files, nodes and edges a graph has. -/
def summary (g : Graph) : Summary :=
  ⟨g.sourceFiles.length, g.nodes.length, g.edges.length⟩

end Graph

end ModuleResolution.Dependency
