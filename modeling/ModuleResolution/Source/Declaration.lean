import ModuleResolution.Source.Expression

/-!
# Functions and classes

The rules for functions and classes, which may be declared by a statement or stand for
their value in an expression, and for the variables that a statement declares.
-/

set_option autoImplicit false

namespace ModuleResolution.Source.Rule

open Source.Parser

/-! ## Functions -/

/-- Reads a parameter of a function. -/
def parameter (g : Grammar) : Parser Tree := group do
  let found ← decorators g
  memberModifiers g
  maybe (operator "...")
  let t ← target g
  maybe (operator "?")
  let types ← orNone (declaredType g)
  let default ← orNone do
    operator "="
    return [← g.parse (.assignment .free)]
  return found ++ t :: types ++ default

/-- Reads the parameters of a function. -/
def parameters (g : Grammar) : Parser Tree := group (list g.steps '(' (parameter g) ')')

/-- Reads what follows the word `function`. Where there are types, the body may be missing. -/
def functionTail (g : Grammar) : Parser Tree := group do
  maybe (glyph '*')
  maybe name
  let types ← signature g
  if ← sees '\x7b' then return types ++ [← g.parse .block]
  else
    demand g.typed
    semicolon
    return types

/-! ## Classes -/

/-- Reads the statements of a class that run when it is made. -/
def staticBlock (g : Grammar) : Parser (List Tree) := do
  keyword "static"
  return [← g.parse .block]

/-- Reads the end of a member of a class. -/
def memberEnd : Parser Unit := do
  let c ← get
  demand (c.newline || [some ';', some '\x7d'].contains c.head?)

/-- Reads a method or a field of a class. -/
def method (g : Grammar) : Parser (List Tree) := do
  memberModifiers g
  maybe (glyph '*')
  let key ← propertyName g
  maybe (operator "?" <|> operator "!")
  if ← seesSignature g then
    let types ← signature g
    if ← sees '\x7b' then return key :: types ++ [← g.parse .block]
    else
      memberEnd
      return key :: types
  else
    let types ← orNone (declaredType g)
    let value ← orNone do
      operator "="
      return [← g.parse (.assignment .free)]
    memberEnd
    return key :: types ++ value

/-- Reads a member of a class. -/
def classMember (g : Grammar) : Parser Tree := group do
  let found ← decorators g
  return found ++ (← staticBlock g <|> method g)

/-- Reads the members of a class up to the closing brace. -/
def classMembers (g : Grammar) : Nat → List Tree → Parser (List Tree)
  | 0, _ => failure
  | steps + 1, found => do
    skipPageComments
    if ← sees '\x7d' then
      advance 1
      return found.reverse
    else if ← sees ';' then
      advance 1
      classMembers g steps found
    else
      let t ← classMember g
      classMembers g steps (t :: found)

/-- Reads a class that another one extends. -/
def baseClass (g : Grammar) : Parser Tree := group do
  let t ← g.parse (.operand .free)
  return t :: (← if g.typed then typeArgumentsIfAny g else pure [])

/-- Reads what a class extends and implements. -/
def heritage (g : Grammar) : Parser (List Tree) := do
  let bases ← orNone do
    keyword "extends"
    commaSeparated g.steps (baseClass g)
  let types ← orNone do
    keyword "implements"
    commaSeparated g.steps (g.parse .type)
  return bases ++ types

/-- Reads the name of a class, which may be missing. -/
def classNameIfAny : Parser Unit := maybe do
  demand (!(["extends", "implements"].contains (← get).word))
  discard word

/-- Reads what follows the word `class`. -/
def classTail (g : Grammar) : Parser Tree := group do
  classNameIfAny
  let types ← typeParametersIfAny g
  let bases ← heritage g
  glyph '\x7b'
  let members ← classMembers g g.steps []
  return types ++ bases ++ members

/-! ## Variables -/

/-- Reads a variable with its value. -/
def variableDeclared (g : Grammar) (mode : Mode) : Parser Tree := group do
  let t ← target g
  if g.typed then maybe (operator "!")
  let types ← orNone (declaredType g)
  let value ← orNone do
    operator "="
    return [← g.parse (.assignment mode)]
  return t :: types ++ value

/-- Whether the word `of` at a cursor names a variable rather than being part of the head
of a loop. -/
def namesVariable (c : Cursor) : Bool :=
  let behind := c.afterWord
  behind.newline || ["of", "in"].contains behind.word
    || ["", "=", ";", ",", ":", "!", ")"].contains behind.operator

/-- Whether a word at a cursor starts the declaration of variables. -/
def startsVariables (c : Cursor) : Bool :=
  let behind := c.afterWord
  let named := behind.word ≠ "" && !(["in", "instanceof"].contains behind.word)
  match c.word with
  | "var" | "const" => true
  | "let" =>
    behind.head? = some '[' || behind.head? = some '\x7b'
      || (named && (behind.word ≠ "of" || namesVariable behind))
  | "using" =>
    named && !behind.newline && !(["of", "as"].contains behind.word)
  | "await" =>
    let second := behind.afterWord
    behind.word = "using" && !behind.newline && second.word ≠ "" && !second.newline
      && !(["in", "instanceof"].contains second.word)
  | _ => false

/-- Reads the declaration of variables. -/
def variableList (g : Grammar) (mode : Mode) : Parser (List Tree) := do
  demand (startsVariables (← get))
  if ← seesWord "await" then keyword "await"
  discard word
  commaSeparated g.steps (variableDeclared g mode)

end ModuleResolution.Source.Rule
