import ModuleResolution.Text.Blank
import ModuleResolution.Text.Utf8

/-!
# Imports in a syntax tree

A syntax tree spans a range of the bytes of a source file. `imports` collects the
modules that the nodes of a tree import: the sources of import and export
statements and the first arguments of `require` and `import` calls. The nodes are
visited parents first and children from left to right, by a stack of the nodes
that are still to be visited; `preorder` lists them by recursion.
-/

set_option autoImplicit false

namespace ModuleResolution.Source

open Text (Utf8.Error)

/-- A node of a syntax tree: its kind, its range of bytes, its children, and the nodes
that play a named part in it, which need not be among the children. -/
inductive Tree where
  | node (kind : String) (start stop : Int) (children : List Tree) (fields : List (String × Tree))
  deriving Inhabited

namespace Tree

/-- The kind of a node. -/
def kind : Tree → String
  | node kind _ _ _ _ => kind

/-- The children of a node. -/
def children : Tree → List Tree
  | node _ _ _ children _ => children

/-- The node that plays a named part. -/
def field? : Tree → String → Option Tree
  | node _ _ _ _ fields, name => fields.lookup name

/-! ## Text of a node -/

/-- How many elements stand before a position; a negative position counts from the end. -/
def countBefore (bytes : List UInt8) (position : Int) : Nat :=
  if 0 ≤ position then position.toNat else (bytes.length + position).toNat

/-- The elements from one position to another, as far as there are any. -/
def slice (bytes : List UInt8) (start stop : Int) : List UInt8 :=
  let first := countBefore bytes start
  (bytes.drop first).take (countBefore bytes stop - first)

/-- The text of a node. -/
def text (bytes : List UInt8) : Tree → Except Text.Utf8.Error String
  | node _ start stop _ _ => Text.Utf8.decode (slice bytes start stop)

/-! ## Import names -/

/-- The characters that can stand around a module name. -/
def isQuoteMark (c : Char) : Bool := c = '"' || c = '\'' || c = '\x60'

/-- The module name in the text of a string: what is left without quotes at its ends,
unless nothing is. -/
def moduleName (s : String) : Option String :=
  let name := Text.stripWhile isQuoteMark s.toList
  if name = [] then none else some (String.ofList name)

/-- A string, or a template that nothing is substituted into. -/
def isPlainString (t : Tree) : Bool :=
  (t.kind = "string" || t.kind = "template_string")
    && !t.children.any (·.kind = "template_substitution")

/-- The module name that a node spells, if it is a plain string. -/
def stringName (bytes : List UInt8) (t : Tree) : Except Text.Utf8.Error (Option String) :=
  if t.isPlainString then moduleName <$> t.text bytes else .ok none

/-- Whether a call of a function imports a module. -/
def isImportFunction (bytes : List UInt8) (function : Tree) : Except Text.Utf8.Error Bool :=
  if function.kind = "import" then .ok true
  else (fun s => decide (s = "require")) <$> function.text bytes

/-- The module that a node itself imports. -/
def importName (bytes : List UInt8) (t : Tree) : Except Text.Utf8.Error (Option String) :=
  if t.kind = "import_statement" || t.kind = "export_statement"
      || t.kind = "import_require_clause" then
    match t.field? "source" with
    | some source => stringName bytes source
    | none => .ok none
  else if t.kind = "call_expression" then
    match t.field? "function", t.field? "arguments" with
    | some function, some arguments =>
      match arguments.children with
      | first :: _ => do
        if ← isImportFunction bytes function then stringName bytes first else return none
      | [] => .ok none
    | _, _ => .ok none
  else .ok none

/-! ## Visiting all nodes -/

mutual

/-- How many nodes a tree has. -/
def size : Tree → Nat
  | node _ _ _ children _ => 1 + sizeAll children

/-- How many nodes trees have together. -/
def sizeAll : List Tree → Nat
  | [] => 0
  | t :: ts => t.size + sizeAll ts

end

mutual

/-- The nodes of a tree, parents first and children from left to right. -/
def preorder : Tree → List Tree
  | node kind start stop children fields =>
    node kind start stop children fields :: preorderAll children

/-- The nodes of trees, one tree after the other. -/
def preorderAll : List Tree → List Tree
  | [] => []
  | t :: ts => t.preorder ++ preorderAll ts

end

/-- A list of names with one more at its end, unless it is there. -/
def addName (names : List String) : Option String → List String
  | some name => if names.contains name then names else names ++ [name]
  | none => names

/-- Visits the nodes on a stack, at most `steps` of them. -/
def visit (bytes : List UInt8) : Nat → List Tree → List String →
    Except Text.Utf8.Error (List String)
  | 0, _, names => .ok names
  | _ + 1, [], names => .ok names
  | steps + 1, t :: stack, names => do
    let found ← importName bytes t
    visit bytes steps (t.children ++ stack) (addName names found)

/-- The modules that a tree imports, each once, in the order of their first import. -/
def imports (bytes : List UInt8) (t : Tree) : Except Text.Utf8.Error (List String) :=
  visit bytes t.size [t] []

end Tree

end ModuleResolution.Source
