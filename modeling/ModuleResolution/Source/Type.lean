import ModuleResolution.Source.Grammar

/-!
# Types

The rules for types. A type is read as a flat sequence of operands and the operators
between them: what a type says does not matter, but where it ends does, and so do the
calls in it.
-/

set_option autoImplicit false

namespace ModuleResolution.Source.Rule

open Source.Parser

/-! ## Names and calls -/

/-- The words that cannot be names. -/
def reservedWords : List String :=
  ["break", "case", "catch", "class", "const", "continue", "debugger", "default", "delete", "do",
   "else", "enum", "export", "extends", "finally", "for", "function", "if", "import", "in",
   "instanceof", "new", "return", "switch", "throw", "try", "typeof", "var", "void", "while",
   "with"]

/-- Reads a word that is not reserved as a name. -/
def freeName : Parser Tree := do
  demand (!reservedWords.contains (← get).word)
  name

/-- Reads a reserved word that serves as a name. -/
def reservedName (text : String) : Parser Tree := leaf "identifier" (keyword text)

/-- Reads the name of a member. -/
def memberName : Parser Tree := name <|> privateName

/-- A call of a function with arguments; type arguments may stand between the two. -/
def call (start : Nat) (function : Tree) (types : List Tree) (arguments : Tree) : Parser Tree :=
  node "call_expression" start (function :: types ++ [arguments])
    [("function", function), ("arguments", arguments)]

/-- Reads a call of the function that imports a module. -/
def importCall (g : Grammar) : Parser Tree := do
  let start ← here
  let function ← leaf "import" (keyword "import")
  call start function [] (← g.parse .arguments)

/-- Reads a colon and a type, in a dialect that has types. -/
def declaredType (g : Grammar) : Parser (List Tree) := do
  demand g.typed
  operator ":"
  return [← g.parse .type]

/-- Reads type parameters, if there are any. -/
def typeParametersIfAny (g : Grammar) : Parser (List Tree) := do
  if g.typed && (← sees '<') then return [← g.parse .typeParameters] else return []

/-- Reads what a function takes and what it returns. -/
def signature (g : Grammar) : Parser (List Tree) := do
  let types ← typeParametersIfAny g
  let parameters ← g.parse .parameters
  let result ← orNone (declaredType g)
  return types ++ parameters :: result

/-! ## Operands -/

/-- Reads the type of a function. -/
def functionType (g : Grammar) : Parser (List Tree) := do
  let types ← typeParametersIfAny g
  let parameters ← g.parse .parameters
  operator "=>"
  return types ++ [parameters, ← g.parse .type]

/-- Reads a type in parentheses. -/
def parenthesizedType (g : Grammar) : Parser (List Tree) := do
  glyph '('
  let t ← g.parse .type
  glyph ')'
  return [t]

/-- Reads an element of a tuple type, which may have a label. -/
def tupleElement (g : Grammar) : Parser Tree := group do
  maybe (operator "...")
  maybe do
    discard word
    maybe (operator "?")
    operator ":"
  let t ← g.parse .type
  maybe (operator "?")
  return [t]

/-- Reads the members behind a name. -/
def memberNames (g : Grammar) : Parser (List Tree) := many g.steps (do operator "."; memberName)

/-- Reads type arguments, if there are any. -/
def typeArgumentsIfAny (g : Grammar) : Parser (List Tree) := do
  if ← sees '<' then (do return [← g.parse .typeArguments]) <|> return [] else return []

/-- The names of types that take no arguments. -/
def plainTypes : List String :=
  ["void", "const", "any", "number", "boolean", "string", "symbol", "unknown", "never", "object",
   "undefined", "null", "true", "false", "this"]

/-- Reads a named type, which may belong to a module that it imports. -/
def namedType (g : Grammar) : Parser (List Tree) := do
  let isPlain := plainTypes.contains (← get).word
  let first ← importCall g <|> reservedName "void" <|> reservedName "const" <|> freeName
  let members ← memberNames g
  if isPlain && members.isEmpty then return [first]
  else return first :: members ++ (← typeArgumentsIfAny g)

/-- Reads what may follow the value in the type of a value: members, calls and type
arguments. -/
def valueTypeSuffixes (g : Grammar) (start : Nat) : Nat → Tree → Parser Tree
  | 0, t => return t
  | steps + 1, t => do
    let c ← get
    if c.operator = "." then
      operator "."
      discard memberName
      valueTypeSuffixes g start steps (← enclose start [t])
    else if c.head? = some '(' && !c.newline then
      valueTypeSuffixes g start steps (← call start t [] (← g.parse .arguments))
    else if c.head? = some '<' then
      match ← typeArgumentsIfAny g with
      | [] => return t
      | types => valueTypeSuffixes g start steps (← enclose start (t :: types))
    else return t

/-- Reads the type of a value. -/
def valueType (g : Grammar) : Parser (List Tree) := do
  keyword "typeof"
  let start ← here
  let value ← importCall g <|> freeName
  return [← valueTypeSuffixes g start g.steps value]

/-- Reads a number that may have a sign. -/
def signedNumber : Parser (List Tree) := do
  maybe (operator "-" <|> operator "+")
  return [← number]

/-- Reads an operand of a type. -/
def typeOperand (g : Grammar) : Parser (List Tree) := do
  let c ← get
  match c.head? with
  | some '(' => functionType g <|> parenthesizedType g
  | some '<' => functionType g
  | some '[' => list g.steps '[' (tupleElement g) ']'
  | some '\x7b' => return [← g.parse .objectType]
  | some '\x60' => return [← template g.steps (g.parse .type)]
  | some '"' | some '\'' => return [← string]
  | some '*' => do operator "*"; return []
  | _ =>
    if c.word = "" then signedNumber
    else if c.word = "typeof" then valueType g
    else if c.word = "new" then do keyword "new"; functionType g
    else if c.word = "abstract" && c.afterWord.word = "new" then
      do keyword "abstract"; keyword "new"; functionType g
    else namedType g

/-- Reads brackets behind a type on the same line, which make arrays of it or look up a
member. -/
def typeBrackets (g : Grammar) : Parser Tree := group do
  sameLine
  glyph '['
  if ← sees ']' then
    advance 1
    return []
  else
    let t ← g.parse .type
    glyph ']'
    return [t]

/-! ## Whole types -/

/-- The words that stand before an operand of a type. -/
def typeWords : List String := ["keyof", "unique", "readonly", "infer", "asserts"]

/-- Whether an operand of a type may start at a cursor. -/
def startsType (c : Cursor) : Bool :=
  (c.word ≠ "" && !(["extends", "in", "as"].contains c.word))
    || ["(", "[", "\x7b", "\"", "'", "\x60", "-"].contains c.operator
    || (Lexeme.numberLength c.rest).isSome

/-- Whether a word stands before an operand of a type rather than being one. -/
def isTypeWord (c : Cursor) : Bool :=
  let behind := c.afterWord
  typeWords.contains c.word && startsType behind && !behind.newline
    && !(c.word = "asserts" && behind.word = "is")

/-- Reads the branches of a type that depends on a condition. -/
def typeBranches (g : Grammar) : Parser (List Tree) := do
  operator "?"
  let t ← g.parse .type
  operator ":"
  return [t, ← g.parse .type]

/-- Reads operands of a type and the operators between them. -/
def typeFrom (g : Grammar) : Nat → List Tree → Parser (List Tree)
  | 0, _ => failure
  | steps + 1, found => do
    let c ← get
    if isTypeWord c then
      discard word
      typeFrom g steps found
    else if c.operator = "?" then
      operator "?"
      typeFrom g steps found
    else
      let operand ← typeOperand g
      let brackets ← many g.steps (typeBrackets g)
      let found := found ++ operand ++ brackets
      let c ← get
      if c.operator = "|" || c.operator = "&" then
        advance 1
        typeFrom g steps found
      else if c.word = "is" && !c.newline then
        keyword "is"
        return found ++ [← g.parse .type]
      else if c.word = "extends" then
        keyword "extends"
        let bound ← g.parse .type
        return found ++ bound :: (← orNone (typeBranches g))
      else return found

/-- Reads a type. -/
def type (g : Grammar) : Parser Tree := group do
  maybe (operator "|" <|> operator "&")
  typeFrom g g.steps []

/-- The words that may stand before a type parameter. -/
def variances : List String := ["const", "in", "out"]

/-- Reads a type parameter. -/
def typeParameter (g : Grammar) : Parser Tree := group do
  discard (many g.steps do
    let c ← get
    demand (variances.contains c.word && c.afterWord.word ≠ "" && c.afterWord.word ≠ "extends")
    word)
  discard name
  let bound ← orNone do
    keyword "extends"
    return [← g.parse .type]
  let default ← orNone do
    operator "="
    return [← g.parse .type]
  return bound ++ default

/-- Reads type parameters. -/
def typeParameters (g : Grammar) : Parser Tree := group do
  let found ← list g.steps '<' (typeParameter g) '>'
  demand (!found.isEmpty)
  return found

/-- Reads type arguments. -/
def typeArguments (g : Grammar) : Parser Tree := group do
  let found ← list g.steps '<' (g.parse .type) '>'
  demand (!found.isEmpty)
  return found

/-! ## Object types -/

/-- The words that may stand before a member of an object type or a class. -/
def modifiers : List String :=
  ["static", "get", "set", "async", "accessor", "public", "private", "protected", "readonly",
   "declare", "abstract", "override"]

/-- Whether a member may start at a cursor. -/
def startsMember (c : Cursor) : Bool :=
  c.word ≠ "" || ["\"", "'", "[", "#", "*"].contains c.operator
    || (Lexeme.numberLength c.rest).isSome

/-- Whether a word only modifies the member behind it. Of the modifiers, three may end a
line. -/
def isModifier (g : Grammar) (c : Cursor) : Bool :=
  modifiers.contains c.word && startsMember c.afterWord
    && (!c.afterWord.newline || ["static", "get", "set"].contains c.word)
    && (g.typed || ["static", "get", "set", "async", "accessor"].contains c.word)

/-- Reads the modifiers of a member. -/
def memberModifiers (g : Grammar) : Parser Unit :=
  discard (many g.steps do
    demand (isModifier g (← get))
    word)

/-- Reads what stands in brackets for the name of a member: a key with its type, a key
that runs over a type, or an expression. -/
def bracketedName (g : Grammar) : Parser Tree := group do
  glyph '['
  let inside ← (do
      demand g.typed
      discard word
      operator ":"
      let t ← g.parse .type
      glyph ']'
      return [t])
    <|> (do
      demand g.typed
      discard word
      keyword "in"
      let t ← g.parse .type
      let renamed ← orNone do
        keyword "as"
        return [← g.parse .type]
      glyph ']'
      return t :: renamed)
    <|> (do
      let t ← g.parse (.expression .free)
      glyph ']'
      return [t])
  return inside

/-- Reads the name of a member of an object, a class or an object type. -/
def propertyName (g : Grammar) : Parser Tree := do
  match (← get).head? with
  | some '[' => bracketedName g
  | some '"' | some '\'' => string
  | some '#' => privateName
  | _ => name <|> number

/-- Whether the parameters of a function are next. -/
def seesSignature (g : Grammar) : Parser Bool := do
  return (← sees '(') || (g.typed && (← sees '<'))

/-- Reads something that a sign may grant or take away. -/
def signed (p : Parser Unit) : Parser Unit := do
  maybe (operator "+" <|> operator "-")
  p

/-- Reads a member of an object type. -/
def typeMember (g : Grammar) : Parser Tree := group do
  maybe do
    operator "+" <|> operator "-"
    keyword "readonly"
  memberModifiers g
  let c ← get
  if c.word = "new" && [some '(', some '<'].contains c.afterWord.head? then keyword "new"
  if ← seesSignature g then signature g
  else
    let key ← propertyName g
    maybe (signed (operator "?"))
    if ← seesSignature g then
      return key :: (← signature g)
    else return key :: (← orNone (declaredType g))

/-- Reads members with signs between them that may be left out at the end of a line. -/
def typeMembers (g : Grammar) : Parser (List Tree) :=
  many g.steps do
    discard (many g.steps (glyph ';' <|> glyph ','))
    let t ← typeMember g
    let c ← get
    demand (c.newline || [some ';', some ',', some '\x7d'].contains c.head?)
    return t

/-- Reads an object type. -/
def objectType (g : Grammar) : Parser Tree := group do
  glyph '\x7b'
  let found ← typeMembers g
  discard (many g.steps (glyph ';' <|> glyph ','))
  glyph '\x7d'
  return found

end ModuleResolution.Source.Rule
