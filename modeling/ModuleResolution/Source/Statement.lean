import ModuleResolution.Source.Declaration

/-!
# Statements

The rules for statements. The statements that import from other modules, or export from
them, keep the string that names the module as their source.
-/

set_option autoImplicit false

namespace ModuleResolution.Source.Rule

open Source.Parser

/-! ## Importing and exporting -/

/-- Reads an object of attributes behind the name of a module. -/
def importAttributes (g : Grammar) : Parser (List Tree) := orNone do
  keyword "with" <|> keyword "assert"
  return [← group (object g)]

/-- Reads the name of a module, with attributes and the end of the statement. -/
def moduleSource (g : Grammar) : Parser Tree := do
  let source ← string
  discard (importAttributes g)
  semicolon
  return source

/-- Reads the word `from` and the name of a module. -/
def fromSource (g : Grammar) : Parser Tree := do
  keyword "from"
  moduleSource g

/-- Reads a name among those that are imported or exported: words and strings. -/
def listedName : Parser Unit :=
  discard (many 4 (discard word <|> discard string))

/-- Reads names in braces. -/
def listedNames (g : Grammar) : Parser Unit := discard (list g.steps '\x7b' listedName '\x7d')

/-- Reads a star, which may be given a name. -/
def starName : Parser Unit := do
  operator "*"
  maybe do
    keyword "as"
    discard word <|> discard string

/-- Reads the names that a statement imports. -/
def importedNames (g : Grammar) : Parser Unit :=
  listedNames g <|> starName <|> do
    discard word
    maybe do
      glyph ','
      listedNames g <|> starName

/-- The words that tell what kind of names a statement imports. -/
def kindWords : List String := ["type", "typeof"]

/-- Reads a statement that imports from a module. -/
def importFrom (g : Grammar) : Parser (Option Tree) := do
  return some (← moduleSource g <|> (do importedNames g; fromSource g) <|> (do
    demand (kindWords.contains (← word))
    importedNames g
    fromSource g))

/-- Reads the call by which a module is required under a name. -/
def requireClause : Parser Tree := do
  let start ← here
  keyword "require"
  glyph '('
  let source ← string
  glyph ')'
  node "import_require_clause" start [source] [("source", source)]

/-- Reads a statement that gives a name to a module or to a part of one. -/
def importEquals (g : Grammar) : Parser (List Tree) := do
  let named : Parser Unit := do
    discard word
    operator "="
  named <|> (do keyword "type"; named)
  let found ← (do return [← requireClause]) <|> (do
    discard word
    memberNames g)
  semicolon
  return found

/-- A node of a statement that may name a module. -/
def sourced (kind : String) (start : Nat) (source : Option Tree) (children : List Tree) :
    Parser Tree :=
  node kind start (children ++ source.toList) (source.toList.map ("source", ·))

/-- Reads a statement that starts with the word `import`. -/
def importStatement (g : Grammar) : Parser Tree := do
  let start ← here
  keyword "import"
  (do
    let source ← importFrom g
    sourced "import_statement" start source [])
  <|> (do
    demand g.typed
    let found ← importEquals g
    sourced "import_statement" start none found)

/-- Reads a list of names behind the word `export`, which may come from a module. -/
def exportNames (g : Grammar) : Parser (Option Tree) := do
  if g.typed then maybe do
    keyword "type"
    demand ((← sees '\x7b') || (← sees '*'))
  if ← sees '*' then
    starName
    return some (← fromSource g)
  else
    listedNames g
    (some <$> fromSource g) <|> (do
      semicolon
      return none)

/-- Whether a word at a cursor starts the declaration of a function with a name, rather
than a function that stands for its value. -/
def declaresFunction (c : Cursor) : Bool :=
  let behind := if c.word = "async" then c.afterWord else c
  let named := behind.afterWord
  behind.word = "function" && (behind.newline = false || c.word = "function")
    && (named.word ≠ "" || (named.head? = some '*' && (named.next 1).word ≠ ""))

/-- Whether a word at a cursor starts the declaration of a class with a name. -/
def declaresClass (c : Cursor) : Bool :=
  c.word = "class" && !(["", "extends", "implements"].contains c.afterWord.word)

/-- The words that start a declaration where a module exports its value. -/
def declarationWords : List String := ["abstract", "interface"]

/-- Reads the value that a module stands for. A function or a class without a name needs
no semicolon. -/
def exportDefault (g : Grammar) : Parser (List Tree) := do
  keyword "default"
  let c ← get
  if declarationWords.contains c.word || c.head? = some '@' || declaresFunction c
      || declaresClass c then
    return [← g.parse .statement]
  else
    let t ← g.parse (.expression .free)
    if ["function", "class", "async"].contains c.word then maybe semicolon else semicolon
    return [t]

/-- Reads the ways to export that only typed dialects have. -/
def typedExport (g : Grammar) : Parser (List Tree) := do
  demand g.typed
  if (← get).operator = "=" then
    operator "="
    let t ← g.parse (.expression .free)
    semicolon
    return [t]
  else
    keyword "as"
    keyword "namespace"
    discard word
    semicolon
    return []

/-- Reads a statement that starts with the word `export`. -/
def exportStatement (g : Grammar) : Parser Tree := do
  let start ← here
  keyword "export"
  (do
    let source ← exportNames g
    sourced "export_statement" start source [])
  <|> (do
    let found ← exportDefault g <|> typedExport g <|> (do return [← g.parse .statement])
    sourced "export_statement" start none found)

/-! ## Loops and branches -/

/-- Reads an expression in parentheses. -/
def condition (g : Grammar) : Parser Tree := do
  glyph '('
  let t ← g.parse (.expression .free)
  glyph ')'
  return t

/-- Reads a statement that runs on a condition. -/
def conditional (g : Grammar) : Parser (List Tree) := do
  keyword "if"
  let test ← condition g
  let t ← g.parse .statement
  let other ← orNone do
    keyword "else"
    return [← g.parse .statement]
  return test :: t :: other

/-- Reads a statement that is repeated or that runs in the scope of an object. -/
def headed (g : Grammar) : Parser (List Tree) := do
  keyword "while" <|> keyword "with"
  let test ← condition g
  return [test, ← g.parse .statement]

/-- Reads a loop whose condition comes last. -/
def doLoop (g : Grammar) : Parser (List Tree) := do
  keyword "do"
  let t ← g.parse .statement
  keyword "while"
  let test ← condition g
  maybe (glyph ';')
  return [t, test]

/-- Reads an expression that may be missing, and a sign. -/
def expressionUpTo (g : Grammar) (sign : Char) : Parser (List Tree) := do
  if ← sees sign then
    advance 1
    return []
  else
    let t ← g.parse (.expression .free)
    glyph sign
    return [t]

/-- Reads the head of a loop, from the opening parenthesis to the closing one. -/
def loopHead (g : Grammar) : Parser (List Tree) := do
  glyph '('
  let noIn : Mode := ⟨true, false⟩
  let first ← if ← sees ';' then pure []
    else if startsVariables (← get) then variableList g noIn
    else (do return [← g.parse (.expression noIn)])
  if ← sees ';' then
    advance 1
    let test ← expressionUpTo g ';'
    let step ← expressionUpTo g ')'
    return first ++ test ++ step
  else
    keyword "of" <|> keyword "in"
    let t ← g.parse (.expression .free)
    glyph ')'
    return first ++ [t]

/-- Reads a loop with a head of its own. -/
def forLoop (g : Grammar) : Parser (List Tree) := do
  keyword "for"
  maybe (keyword "await")
  let found ← loopHead g
  return found ++ [← g.parse .statement]

/-- Reads what one of several cases is for. -/
def caseLabel (g : Grammar) : Parser (List Tree) :=
  (do
    keyword "default"
    operator ":"
    return [])
  <|> (do
    keyword "case"
    let label (mode : Mode) : Parser Tree := do
      let t ← g.parse (.expression mode)
      operator ":"
      return t
    return [← label .free <|> label ⟨false, true⟩])

/-- Reads labels of cases and statements up to the closing brace. -/
def cases (g : Grammar) : Nat → List Tree → Parser (List Tree)
  | 0, _ => failure
  | steps + 1, found => do
    if ← sees '\x7d' then
      advance 1
      return found.reverse
    else if (← seesWord "case") || (← seesWord "default") then
      let t ← group (caseLabel g)
      cases g steps (t :: found)
    else
      let t ← g.parse .statement
      cases g steps (t :: found)

/-- Reads a statement that chooses among cases. -/
def switch (g : Grammar) : Parser (List Tree) := do
  keyword "switch"
  let t ← condition g
  glyph '\x7b'
  return t :: (← cases g g.steps [])

/-- Reads a block that may fail and what is done then. -/
def guarded (g : Grammar) : Parser (List Tree) := do
  keyword "try"
  let t ← g.parse .block
  let handler ← orNone do
    keyword "catch"
    let caught ← orNone (list g.steps '(' (variableDeclared g .free) ')')
    return caught ++ [← g.parse .block]
  let last ← orNone do
    keyword "finally"
    return [← g.parse .block]
  return t :: handler ++ last

/-- Reads a statement that leaves a function, a loop or a case. -/
def leaving (g : Grammar) : Parser (List Tree) := do
  let w ← word
  let c ← get
  if w = "return" || w = "throw" then
    if c.newline || [none, some ';', some '\x7d'].contains c.head? then
      semicolon
      return []
    else
      let t ← g.parse (.expression .free)
      semicolon
      return [t]
  else
    if !c.newline then maybe word
    semicolon
    return []

/-! ## Declarations of types -/

/-- Reads the name of a type and its parameters. -/
def typeHead (g : Grammar) : Parser (List Tree) := do
  discard word
  typeParametersIfAny g

/-- Reads another name for a type. -/
def typeAlias (g : Grammar) : Parser (List Tree) := do
  keyword "type"
  sameLine
  let types ← typeHead g
  operator "="
  let t ← g.parse .type
  semicolon
  return types ++ [t]

/-- Reads an interface. -/
def interface (g : Grammar) : Parser (List Tree) := do
  keyword "interface"
  sameLine
  let types ← typeHead g
  let bases ← orNone do
    keyword "extends"
    commaSeparated g.steps (g.parse .type)
  return types ++ bases ++ [← g.parse .objectType]

/-- Reads a member of an enumeration. -/
def enumMember (g : Grammar) : Parser Tree := group do
  let key ← propertyName g
  let value ← orNone do
    operator "="
    return [← g.parse (.assignment .free)]
  return key :: value

/-- Reads an enumeration. -/
def enumeration (g : Grammar) : Parser (List Tree) := do
  maybe (keyword "const")
  keyword "enum"
  discard word
  list g.steps '\x7b' (enumMember g) '\x7d'

/-- Reads a namespace, or the declaration of a module; the declaration may lack a body. -/
def namespaceBlock (g : Grammar) : Parser (List Tree) := do
  if ← seesWord "global" then
    keyword "global"
    return [← g.parse .block]
  else
    keyword "namespace" <|> keyword "module"
    sameLine
    (do
      discard word
      discard (memberNames g)) <|> discard string
    if ← sees '\x7b' then return [← g.parse .block]
    else
      semicolon
      return []

/-- Reads a statement behind a word that only says how it is meant. -/
def qualified (g : Grammar) : Parser (List Tree) := do
  keyword "declare" <|> keyword "abstract"
  sameLine
  demand ((← get).word ≠ "" && !(["in", "instanceof", "as", "satisfies"].contains (← get).word))
  return [← g.parse .statement]

/-- Reads a statement that only typed dialects have. -/
def typedStatement (g : Grammar) : Parser (List Tree) := do
  demand g.typed
  typeAlias g <|> interface g <|> enumeration g <|> namespaceBlock g <|> qualified g

/-! ## All statements -/

/-- Reads statements up to the closing brace. -/
def blockFrom (g : Grammar) : Nat → List Tree → Parser (List Tree)
  | 0, _ => failure
  | steps + 1, found => do
    skipPageComments
    if ← sees '\x7d' then
      advance 1
      return found.reverse
    else
      let t ← g.parse .statement
      blockFrom g steps (t :: found)

/-- Reads a block. -/
def block (g : Grammar) : Parser Tree := group do
  glyph '\x7b'
  blockFrom g g.steps []

/-- Reads the declaration of variables with its end. -/
def variableStatement (g : Grammar) : Parser (List Tree) := do
  let found ← variableList g .free
  semicolon
  return found

/-- Reads the declaration of a function. -/
def functionStatement (g : Grammar) : Parser (List Tree) := do
  maybe (keyword "async")
  keyword "function"
  return [← g.parse .functionTail]

/-- Reads the declaration of a class. -/
def classStatement (g : Grammar) : Parser (List Tree) := do
  keyword "class"
  return [← g.parse .classTail]

/-- Reads decorators and what they decorate. -/
def decorated (g : Grammar) : Parser (List Tree) := do
  let found ← decorators g
  demand (!found.isEmpty)
  return found ++ [← g.parse .statement]

/-- Reads a label and the statement that it belongs to. -/
def labelled (g : Grammar) : Parser (List Tree) := do
  discard freeName
  operator ":"
  return [← g.parse .statement]

/-- Reads an expression that stands as a statement. -/
def expressionStatement (g : Grammar) : Parser (List Tree) := do
  let t ← g.parse (.expression .free)
  semicolon
  return [t]

/-- Reads a statement that the word at a cursor starts. -/
def wordStatement (g : Grammar) (c : Cursor) : Parser (List Tree) :=
  match c.word with
  | "var" => variableStatement g
  | "const" => variableStatement g <|> typedStatement g
  | "let" | "using" | "await" => variableStatement g <|> labelled g <|> expressionStatement g
  | "function" => if declaresFunction c then functionStatement g else expressionStatement g
  | "async" =>
    if declaresFunction c then functionStatement g else labelled g <|> expressionStatement g
  | "class" => if declaresClass c then classStatement g else expressionStatement g
  | "if" => conditional g
  | "for" => forLoop g
  | "while" | "with" => headed g
  | "do" => doLoop g
  | "switch" => switch g
  | "try" => guarded g
  | "return" | "throw" | "break" | "continue" | "debugger" => leaving g
  | "import" => (do return [← importStatement g]) <|> expressionStatement g
  | "export" => do return [← exportStatement g]
  | _ => typedStatement g <|> labelled g <|> expressionStatement g

/-- Reads a statement without the comments of pages around it. A brace opens a block
rather than an object if it can. -/
def bareStatement (g : Grammar) : Parser (List Tree) := do
  let c ← get
  match c.head? with
  | some ';' => do
    advance 1
    return []
  | some '\x7b' => (do return [← g.parse .block]) <|> expressionStatement g
  | some '@' => decorated g <|> expressionStatement g
  | _ => if c.word = "" then expressionStatement g else wordStatement g c

/-- Reads a statement. -/
def statement (g : Grammar) : Parser Tree := group do
  skipPageComments
  let found ← bareStatement g
  skipPageComments
  return found

end ModuleResolution.Source.Rule
