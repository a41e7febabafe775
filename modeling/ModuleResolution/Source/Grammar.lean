import ModuleResolution.Source.Cursor
import ModuleResolution.Source.Dialect
import ModuleResolution.Source.Tree

/-!
# Grammars

A parser reads a piece of source text at a cursor; it fails where the text is of another
form, and an alternative can then be tried. The rules of a grammar refer to each other
by the goals that they serve, so that every rule is a plain function of the grammar.
Kinds of nodes are kept only as far as they matter to what a file imports.
-/

set_option autoImplicit false

namespace ModuleResolution.Source

/-- A reader of source text. -/
abbrev Parser (α : Type) := StateT Cursor Option α

/-- What restricts an expression: the head of a loop may keep `in` from being an operator,
and a colon behind parameters may belong to what surrounds the expression rather than
to a return type. -/
structure Mode where
  noIn : Bool
  noReturnType : Bool
  deriving DecidableEq, Repr

/-- No restriction. -/
def Mode.free : Mode := ⟨false, false⟩

/-- What a piece of text is to be read as. -/
inductive Goal where
  | statement
  | block
  | expression (mode : Mode)
  | assignment (mode : Mode)
  | operand (mode : Mode)
  | callee
  | target
  | arguments
  | parameters
  | functionTail
  | classTail
  | element
  | type
  | typeParameters
  | typeArguments
  | objectType
  deriving DecidableEq, Repr

/-- A grammar: a dialect, a bound on the length of lists, and the parser of each goal. -/
structure Grammar where
  dialect : Dialect
  steps : Nat
  parse : Goal → Parser Tree

/-- Whether a dialect has types. -/
def Grammar.typed (g : Grammar) : Bool := g.dialect ≠ .javascript

namespace Parser

/-! ## Tokens -/

/-- Goes on only if a condition holds. -/
def demand (condition : Bool) : Parser Unit := if condition then pure () else failure

/-- Reads a token of some length. -/
def advance (n : Nat) : Parser Unit := modify (Cursor.next n)

/-- Where the next token starts. -/
def here : Parser Nat := (·.offset) <$> get

/-- Whether a glyph is next. -/
def sees (g : Char) : Parser Bool := do return (← get).head? = some g

/-- Whether a word is next. -/
def seesWord (text : String) : Parser Bool := do return (← get).word = text

/-- Reads a token of one glyph. -/
def glyph (g : Char) : Parser Unit := do
  demand (← sees g)
  advance 1

/-- Reads an operator. -/
def operator (text : String) : Parser Unit := do
  demand ((← get).operator = text)
  advance text.length

/-- Reads a certain word. -/
def keyword (text : String) : Parser Unit := do
  demand (← seesWord text)
  advance text.length

/-- Reads any word. -/
def word : Parser String := do
  let w := (← get).word
  demand (w ≠ "")
  advance w.length
  return w

/-- Goes on only if no line ends before the next token. -/
def sameLine : Parser Unit := do demand (!(← get).newline)

/-- Skips comments of pages, which may stand where an operand or a statement may. -/
def skipPageComments : Parser Unit := modify Cursor.skipPageComments

/-! ## Alternatives and repetitions -/

/-- Reads something that may be missing and has no nodes. -/
def maybe {α : Type} (p : Parser α) : Parser Unit := discard p <|> pure ()

/-- Reads nodes that may be missing. -/
def orNone (p : Parser (List Tree)) : Parser (List Tree) := p <|> pure []

/-- Looks ahead whether a parser succeeds. -/
def succeeds {α : Type} (p : Parser α) : Parser Bool := do return (p.run (← get)).isSome

/-- Repeats a parser as long as it succeeds and moves on. -/
def manyFrom {α : Type} (p : Parser α) : Nat → List α → Parser (List α)
  | 0, found => return found.reverse
  | steps + 1, found => fun c =>
    match p c with
    | none => some (found.reverse, c)
    | some (a, next) =>
      if next.offset ≤ c.offset then some (found.reverse, c)
      else manyFrom p steps (a :: found) next

/-- Repeats a parser as long as it succeeds, at most `steps` times. -/
def many {α : Type} (steps : Nat) (p : Parser α) : Parser (List α) := manyFrom p steps []

/-- Reads things between commas up to a closing bracket; places may be left empty. -/
def listFrom {α : Type} (p : Parser α) (close : Char) : Nat → List α → Parser (List α)
  | 0, _ => failure
  | steps + 1, found => do
    if ← sees close then
      advance 1
      return found.reverse
    else if ← sees ',' then
      advance 1
      listFrom p close steps found
    else
      let a ← p
      demand ((← sees ',') || (← sees close))
      listFrom p close steps (a :: found)

/-- Reads a bracketed list of things between commas. -/
def list {α : Type} (steps : Nat) (opening : Char) (p : Parser α) (close : Char) :
    Parser (List α) := do
  glyph opening
  listFrom p close steps []

/-- Reads one or more things between commas. -/
def commaSeparated {α : Type} (steps : Nat) (p : Parser α) : Parser (List α) := do
  let first ← p
  let rest ← many steps (do glyph ','; p)
  return first :: rest

/-! ## Nodes -/

/-- A node from a place on up to the end of the last token. -/
def node (kind : String) (start : Nat) (children : List Tree)
    (fields : List (String × Tree)) : Parser Tree := do
  return .node kind start (← get).stop children fields

/-- A node around others, unless a single one is as long. -/
def enclose (start : Nat) (children : List Tree) : Parser Tree := do
  match children with
  | [.node kind first last inner fields] =>
    if first = start && last = (← get).stop then return .node kind first last inner fields
    else node "group" start children []
  | _ => node "group" start children []

/-- A node around what a parser reads. -/
def group (p : Parser (List Tree)) : Parser Tree := do
  let start ← here
  enclose start (← p)

/-- A node without parts for what a parser reads. -/
def leaf (kind : String) (p : Parser Unit) : Parser Tree := do
  let start ← here
  p
  node kind start [] []

/-- The end of a statement: a semicolon, which may be left out at the end of a line. -/
def semicolon : Parser Unit := do
  let c ← get
  if c.head? = some ';' then advance 1
  else demand (c.newline || c.rest.isEmpty || c.head? = some '\x7d')

/-! ## Literals -/

/-- Reads a string. -/
def string : Parser Tree := leaf "string" do
  match Lexeme.stringLength (← get).rest with
  | some n => advance n
  | none => failure

/-- Reads a number. -/
def number : Parser Tree := leaf "number" do
  match Lexeme.numberLength (← get).rest with
  | some n => advance n
  | none => failure

/-- Reads a pattern. -/
def pattern : Parser Tree := leaf "regex" do
  match Lexeme.patternLength (← get).rest with
  | some n => advance n
  | none => failure

/-- Reads a word as a name. -/
def name : Parser Tree := leaf "identifier" (discard word)

/-- Reads a name that only the class it belongs to can use. -/
def privateName : Parser Tree := leaf "identifier" do
  demand (← sees '#')
  let c ← get
  advance (1 + Lexeme.wordLength c.rest.tail)

/-- Reads the text of a template up to a substitution or the closing mark. -/
def templateText : Parser (List Tree) := do
  let c ← get
  let n := Lexeme.templateTextLength 0 c.rest
  set (c.bump n)
  if n = 0 then return [] else return [← node "string_fragment" c.offset [] []]

/-- Reads the parts of a template, the inside of a substitution by a parser of its own, and
the closing mark. -/
def templateParts (inside : Parser Tree) : Nat → List Tree → Parser (List Tree)
  | 0, _ => failure
  | steps + 1, found => do
    let found := found ++ (← templateText)
    if ← sees '\x60' then
      modify (Cursor.bump 1)
      return found
    else
      let start ← here
      operator "$"
      glyph '\x7b'
      let t ← inside
      demand (← sees '\x7d')
      modify (Cursor.bump 1)
      let found := found ++ [← node "template_substitution" start [t] []]
      templateParts inside steps found

/-- Reads a template. -/
def template (steps : Nat) (inside : Parser Tree) : Parser Tree := do
  let start ← here
  demand (← sees '\x60')
  modify (Cursor.bump 1)
  let parts ← templateParts inside steps []
  let t ← node "template_string" start parts []
  modify Cursor.skip
  return t

end Parser

end ModuleResolution.Source
