import ModuleResolution.Source.Element
import ModuleResolution.Source.Statement

/-!
# Reading source files

Ties the rules of the grammar together and reads whole files. Where no statement can be
read, one token is left out and reading goes on behind it, so that every file has a
tree.
-/

set_option autoImplicit false

namespace ModuleResolution.Source

open Source.Parser

/-- The rule that serves a goal. -/
def Grammar.rule (g : Grammar) : Goal → Parser Tree
  | .statement => Rule.statement g
  | .block => Rule.block g
  | .expression mode => Rule.expression g mode
  | .assignment mode => Rule.assignment g mode
  | .operand mode => Rule.operand g mode
  | .callee => Rule.callee g
  | .target => Rule.target g
  | .arguments => Rule.arguments g
  | .parameters => Rule.parameters g
  | .functionTail => Rule.functionTail g
  | .classTail => Rule.classTail g
  | .element => Rule.element g
  | .type => Rule.type g
  | .typeParameters => Rule.typeParameters g
  | .typeArguments => Rule.typeArguments g
  | .objectType => Rule.objectType g

/-- The grammar of a dialect for texts whose parts are nested at most so deep. -/
def Grammar.ofDepth (d : Dialect) (steps : Nat) : Nat → Grammar
  | 0 => ⟨d, steps, fun _ => failure⟩
  | depth + 1 => ⟨d, steps, fun goal => (Grammar.ofDepth d steps depth).rule goal⟩

/-- The grammar of a dialect for texts of some length. A glyph opens at most three goals
within each other. -/
def Grammar.ofLength (d : Dialect) (n : Nat) : Grammar := Grammar.ofDepth d (n + 1) (4 * n + 16)

/-- Leaves out a token. -/
def Parser.skipToken : Parser Unit :=
  discard string <|> discard word <|> discard number <|> advance 1

/-- Reads statements up to the end of a file. -/
def Parser.programFrom (g : Grammar) : Nat → List Tree → Parser (List Tree)
  | 0, found => return found.reverse
  | steps + 1, found => do
    skipPageComments
    if (← get).rest.isEmpty then return found.reverse
    else
      let read ← (some <$> g.parse .statement) <|> (do
        skipToken
        return none)
      Parser.programFrom g steps (read.toList ++ found)

/-- The syntax tree of a file, given by its bytes. -/
def parse (d : Dialect) (bytes : List UInt8) : Tree :=
  let glyphs := Text.Utf8.glyphs bytes
  let g := Grammar.ofLength d glyphs.length
  match (programFrom g glyphs.length []).run (Cursor.start glyphs) with
  | some (statements, _) => .node "program" 0 bytes.length statements []
  | none => .node "program" 0 bytes.length [] []

/-- The modules that a file imports, given by its bytes, each once, in the order of their
first import. -/
def imports (d : Dialect) (bytes : List UInt8) : Except Text.Utf8.Error (List String) :=
  (parse d bytes).imports bytes

end ModuleResolution.Source
