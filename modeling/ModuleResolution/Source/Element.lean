import ModuleResolution.Source.Expression

/-!
# Elements

The rules for elements, whose tags stand among the text of the element. Between tags
nothing is skipped: blanks and what looks like a comment belong to the text.
-/

set_option autoImplicit false

namespace ModuleResolution.Source.Rule

open Source.Parser

/-! ## Names -/

/-- Reads a part of the name of a tag or an attribute; it may hold dashes. -/
def tagWord : Parser Unit := do
  let c ← get
  demand (c.word ≠ "")
  advance (c.rest.takeWhile fun g => Lexeme.continuesWord g || g = '-').length

/-- Reads the name of a tag or an attribute. -/
def tagName (g : Grammar) : Parser Unit := do
  tagWord
  discard (many g.steps do
    glyph '.' <|> glyph ':'
    tagWord)

/-! ## Attributes -/

/-- Counts the glyphs of a quoted text with its quotes; nothing is escaped in it. -/
def quotedLength : List Char → Option Nat
  | q :: cs =>
    let inside := cs.takeWhile (· ≠ q)
    if (q = '"' || q = '\'') && inside.length < cs.length then some (inside.length + 2) else none
  | [] => none

/-- Reads a quoted text in a tag. -/
def attributeText : Parser Tree := leaf "string" do
  match quotedLength (← get).rest with
  | some n => advance n
  | none => failure

/-- Reads an expression in braces up to the closing one; there may be none. -/
def bracedInside (g : Grammar) : Parser (List Tree) := do
  glyph '\x7b'
  maybe (operator "...")
  let found ← if ← sees '\x7d' then pure [] else (do return [← g.parse (.expression .free)])
  demand (← sees '\x7d')
  return found

/-- Reads an expression in braces in a tag. -/
def bracedAttribute (g : Grammar) : Parser (List Tree) := do
  let found ← bracedInside g
  advance 1
  return found

/-- Reads the value of an attribute. -/
def attributeValue (g : Grammar) : Parser (List Tree) := do
  glyph '='
  if ← sees '\x7b' then bracedAttribute g
  else if ← sees '<' then return [← wholeElement g]
  else return [← attributeText]

/-- Reads an attribute. -/
def tagAttribute (g : Grammar) : Parser Tree := group do
  if ← sees '\x7b' then bracedAttribute g
  else
    tagName g
    if ← sees '=' then attributeValue g else return []

/-! ## Tags and text -/

/-- Reads what follows the bracket of an opening tag. An element without a name stands only
for its content. -/
def openingTag (g : Grammar) : Parser (List Tree) := do
  if ← sees '>' then return []
  else
    tagName g
    let types ← if g.typed then typeArgumentsIfAny g else pure []
    return types ++ (← many g.steps (tagAttribute g))

/-- A glyph that ends the text between tags. -/
def endsText (g : Char) : Bool := g = '<' || g = '>' || g = '\x7b' || g = '\x7d'

/-- Skips the text between tags. -/
def elementText : Parser Unit :=
  modify fun c => c.bump (c.rest.takeWhile (!endsText ·)).length

/-- Reads a closing tag up to its last bracket. -/
def closingTag (g : Grammar) : Parser Unit := do
  glyph '<'
  glyph '/'
  maybe (tagName g)

/-- Reads the last bracket of a tag. Nothing behind it is skipped. -/
def tagEnd : Parser Unit := do
  demand (← sees '>')
  modify (Cursor.bump 1)

/-- Reads the content of an element up to the end of its closing tag. -/
def content (g : Grammar) : Nat → List Tree → Parser (List Tree)
  | 0, _ => failure
  | steps + 1, found => do
    elementText
    let c ← get
    if c.head? = some '\x7b' then
      let inside ← bracedInside g
      modify (Cursor.bump 1)
      content g steps (found ++ inside)
    else if (c.next 1).head? = some '/' then
      closingTag g
      tagEnd
      return found
    else
      let t ← g.parse .element
      content g steps (found ++ [t])

/-- Reads an element. Nothing behind it is skipped, since text of another element may
follow. -/
def element (g : Grammar) : Parser Tree := group do
  glyph '<'
  let found ← openingTag g
  if ← sees '/' then
    glyph '/'
    tagEnd
    return found
  else
    tagEnd
    content g g.steps found

end ModuleResolution.Source.Rule
