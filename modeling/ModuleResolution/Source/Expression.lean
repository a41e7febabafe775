import ModuleResolution.Source.Type

/-!
# Expressions

The rules for expressions. Operands are read with everything that binds tighter than an
operator between two of them; the operators are read as a flat sequence, since their
ranks do not matter.
-/

set_option autoImplicit false

namespace ModuleResolution.Source.Rule

open Source.Parser

/-! ## Functions -/

/-- Reads the body of a function that is written with an arrow. -/
def arrowBody (g : Grammar) (mode : Mode) : Parser Tree := do
  operator "=>"
  if ← sees '\x7b' then g.parse .block else g.parse (.assignment mode)

/-- Reads what follows the parameters of a function that is written with an arrow. -/
def arrowTail (g : Grammar) (mode : Mode) : Parser (List Tree) := do
  let result ← if mode.noReturnType then pure [] else orNone (declaredType g)
  return result ++ [← arrowBody g mode]

/-- Reads a function with an arrow behind a single name. -/
def namedArrow (g : Grammar) (mode : Mode) : Parser (List Tree) := do
  let parameter ← freeName
  return [parameter, ← arrowBody g mode]

/-- Reads one of the things between parentheses, which may turn out to be the parameter
of a function. -/
def coverItem (g : Grammar) : Parser Tree := group do
  maybe (operator "...")
  let t ← g.parse (.assignment .free)
  maybe (operator "?")
  let types ← orNone (declaredType g)
  let default ← orNone do
    operator "="
    return [← g.parse (.assignment .free)]
  return t :: types ++ default

/-- Reads what stands in parentheses, and the rest of a function if it was its parameters. -/
def parenthesized (g : Grammar) (mode : Mode) : Parser (List Tree) := do
  let items ← list g.steps '(' (coverItem g) ')'
  (do return items ++ (← arrowTail g mode)) <|> (do
    demand (!items.isEmpty)
    return items)

/-- Reads a function with an arrow and type parameters. -/
def genericArrow (g : Grammar) (mode : Mode) : Parser (List Tree) := do
  demand g.typed
  let types ← g.parse .typeParameters
  let parameters ← g.parse .parameters
  return types :: parameters :: (← arrowTail g mode)

/-! ## Arrays and objects -/

/-- Reads an element of an array or an argument, which may be spread. -/
def spreadable (g : Grammar) : Parser Tree := group do
  maybe (operator "...")
  return [← g.parse (.assignment .free)]

/-- Reads an array, or a pattern that takes one apart. -/
def array (g : Grammar) : Parser (List Tree) := list g.steps '[' (spreadable g) ']'

/-- Reads the body of a function, or nothing where it is only declared. -/
def bodyIfAny (g : Grammar) : Parser (List Tree) := do
  if ← sees '\x7b' then return [← g.parse .block] else return []

/-- Reads a property of an object. It may have a default, as patterns have. -/
def property (g : Grammar) : Parser Tree := group do
  if (← get).operator = "..." then
    operator "..."
    return [← g.parse (.assignment .free)]
  else
    memberModifiers g
    maybe (operator "*")
    let key ← propertyName g
    maybe (operator "?")
    if ← seesSignature g then
      let types ← signature g
      return key :: types ++ [← g.parse .block]
    else
      let value ← orNone do
        operator ":" <|> operator "="
        return [← g.parse (.assignment .free)]
      let default ← orNone do
        operator "="
        return [← g.parse (.assignment .free)]
      return key :: value ++ default

/-- Reads an object, or a pattern that takes one apart. -/
def object (g : Grammar) : Parser (List Tree) := list g.steps '\x7b' (property g) '\x7d'

/-- Reads what a value is bound to: a name, or a pattern. -/
def target (g : Grammar) : Parser Tree := do
  match (← get).head? with
  | some '[' => group (array g)
  | some '\x7b' => group (object g)
  | _ => freeName

/-! ## Calls -/

/-- A node for a comment that stands before an argument. -/
def leadingComment : Parser (List Tree) := do
  let c ← get
  if c.comment then return [.node "comment" c.stop c.offset [] []] else return []

/-- Reads the arguments of a call. A comment before the first one counts as one. -/
def arguments (g : Grammar) : Parser Tree := do
  let start ← here
  glyph '('
  skipPageComments
  let comment ← leadingComment
  let found ← listFrom (spreadable g) ')' g.steps []
  node "arguments" start (comment ++ found) []

/-- Reads a template in an expression. -/
def templateLiteral (g : Grammar) : Parser Tree := template g.steps (g.parse (.expression .free))

/-- The words between operands. -/
def middleWords : List String := ["in", "instanceof", "as", "satisfies"]

/-- Whether an operand is next, or an operator that is taken to compare or to add. Angle
brackets before it then were operators, too, and held no type arguments. -/
def refusesTypeArguments (c : Cursor) : Bool :=
  ["<", ">", "+", "-"].contains c.operator
    || !c.newline && ((c.word ≠ "" && !middleWords.contains c.word)
      || ["(", "[", "\x7b", "\"", "'", "!", "~", "++", "--", "@", "#"].contains c.operator
      || (Lexeme.numberLength c.rest).isSome)

/-- Reads what follows type arguments: the arguments of a call, or a template, or the type
arguments stand alone. -/
def afterTypeArguments (g : Grammar) (start : Nat) (t types : Tree) : Parser Tree := do
  let c ← get
  if c.head? = some '(' then call start t [types] (← g.parse .arguments)
  else if c.head? = some '\x60' then call start t [types] (← templateLiteral g)
  else
    demand (!refusesTypeArguments c)
    enclose start [t, types]

/-- Reads one thing behind an operand that binds to it. Calls may be excluded, as they are
behind `new`. -/
def suffix (g : Grammar) (calls : Bool) (start : Nat) (t : Tree) : Parser Tree := do
  let c ← get
  match c.operator with
  | "." => do
    operator "."
    discard memberName
    enclose start [t]
  | "?." => do
    demand calls
    operator "?."
    if ← sees '(' then call start t [] (← g.parse .arguments)
    else if ← sees '[' then enclose start [t]
    else if g.typed && (← sees '<') then
      let types ← g.parse .typeArguments
      call start t [types] (← g.parse .arguments)
    else
      discard memberName
      enclose start [t]
  | "[" => do
    glyph '['
    let index ← g.parse (.expression .free)
    glyph ']'
    enclose start [t, index]
  | "(" => do
    demand calls
    call start t [] (← g.parse .arguments)
  | "\x60" => do call start t [] (← templateLiteral g)
  | "!" => do
    demand (g.typed && !c.newline)
    operator "!"
    enclose start [t]
  | "<" => do
    demand (g.typed && calls)
    let types ← g.parse .typeArguments
    afterTypeArguments g start t types
  | _ => failure

/-- Reads everything behind an operand that binds to it. -/
def suffixes (g : Grammar) (calls : Bool) (start : Nat) : Nat → Tree → Parser Tree
  | 0, t => return t
  | steps + 1, t => fun c =>
    match suffix g calls start t c with
    | some (longer, next) => suffixes g calls start steps longer next
    | none => some (t, c)

/-- Reads the mark of a step up or down behind an operand. -/
def countingMark (start : Nat) (t : Tree) : Parser Tree := do
  if ["++", "--"].contains (← get).operator && !(← get).newline then
    advance 2
    enclose start [t]
  else return t

/-! ## Operands -/

/-- Reads a decorator. -/
def decorator (g : Grammar) : Parser Tree := do
  glyph '@'
  let start ← here
  let first ← if ← sees '(' then group (parenthesized g .free) else name
  let members ← memberNames g
  let value ← enclose start (first :: members)
  let types ← if g.typed then typeArgumentsIfAny g else pure []
  if ← sees '(' then call start value types (← g.parse .arguments)
  else enclose start (value :: types)

/-- Reads decorators. -/
def decorators (g : Grammar) : Parser (List Tree) := many g.steps (decorator g)

/-! ## Asynchronous functions -/

/-- Reads what may follow the word `async` in parentheses: parameters with the rest of
a function, or else the arguments of a call of what the word then names. -/
def asyncParentheses (g : Grammar) (mode : Mode) (start : Nat) (function : Tree) :
    Parser Tree := do
  let opening ← here
  let items ← list g.steps '(' (coverItem g) ')'
  let arguments ← node "arguments" opening items []
  (do enclose start (items ++ (← arrowTail g mode))) <|> call start function [] arguments

/-- Reads a function that runs asynchronously, or a call of something named `async`. -/
def asyncFunction (g : Grammar) (mode : Mode) : Parser Tree := do
  let start ← here
  let function ← leaf "identifier" (keyword "async")
  sameLine
  if ← seesWord "function" then
    keyword "function"
    enclose start [← g.parse .functionTail]
  else if ← sees '(' then asyncParentheses g mode start function
  else
    let found ← namedArrow g mode <|> genericArrow g mode
    enclose start found

/-! ## Operands that start with a word -/

/-- Reads the word `import` where it starts a call or names the module at hand. -/
def importWord (g : Grammar) : Parser Tree := do
  let t ← leaf "import" (keyword "import")
  demand ((← sees '(') || (← sees '.') || (g.typed && (← sees '<')))
  return t

/-- Reads a class and its arguments behind the word `new`, or the name of what is built. -/
def construction (g : Grammar) : Parser (List Tree) := do
  keyword "new"
  if ← sees '.' then
    glyph '.'
    return [← name]
  else
    let callee ← g.parse .callee
    let types ← orNone do
      demand g.typed
      let types ← g.parse .typeArguments
      let c ← get
      demand (c.head? = some '(' || !refusesTypeArguments c)
      return [types]
    let arguments ← if ← sees '(' then (do return [← g.parse .arguments]) else pure []
    return callee :: types ++ arguments

/-- Reads an operand that starts with a word. -/
def wordOperand (g : Grammar) (mode : Mode) (text : String) : Parser Tree :=
  match text with
  | "function" => group (do keyword "function"; return [← g.parse .functionTail])
  | "class" => group (do keyword "class"; return [← g.parse .classTail])
  | "new" => group (construction g)
  | "import" => importWord g
  | "async" => asyncFunction g mode <|> group (namedArrow g mode) <|> freeName
  | _ => group (namedArrow g mode) <|> freeName

/-- Reads an element and skips what follows it. -/
def wholeElement (g : Grammar) : Parser Tree := do
  let t ← g.parse .element
  modify Cursor.skip
  return t

/-- Reads an operand that an angle bracket opens: a function with type parameters, or an
element in a dialect that has elements. -/
def angledOperand (g : Grammar) (mode : Mode) : Parser Tree :=
  match g.dialect with
  | .javascript => wholeElement g
  | .typescript => group (genericArrow g mode)
  | .tsx => group (genericArrow g mode) <|> wholeElement g

/-- Reads an operand without anything that binds to it. -/
def bareOperand (g : Grammar) (mode : Mode) : Parser Tree := do
  let c ← get
  match c.head? with
  | some '(' => group (parenthesized g mode)
  | some '[' => group (array g)
  | some '\x7b' => group (object g)
  | some '\x60' => templateLiteral g
  | some '"' | some '\'' => string
  | some '/' => pattern
  | some '<' => angledOperand g mode
  | some '#' => privateName
  | some '@' => group do
    let found ← decorators g
    keyword "class"
    return found ++ [← g.parse .classTail]
  | _ => if c.word = "" then number else wordOperand g mode c.word

/-- Reads what is built behind the word `new`, up to its arguments. -/
def callee (g : Grammar) : Parser Tree := do
  let start ← here
  let t ← bareOperand g .free
  suffixes g false start g.steps t

/-- Reads an operand with everything behind it that binds to it. -/
def suffixedOperand (g : Grammar) (mode : Mode) : Parser Tree := do
  let start ← here
  let t ← bareOperand g mode
  let t ← suffixes g true start g.steps t
  countingMark start t

/-- The operators that stand before an operand. -/
def leadingOperators : List String := ["!", "~", "+", "-", "++", "--"]

/-- The words that stand before an operand as operators do. -/
def leadingWords : List String := ["typeof", "void", "delete"]

/-- Reads an operand that is taken for a value of a type. -/
def assertion (g : Grammar) (mode : Mode) : Parser (List Tree) := do
  demand (g.dialect = .typescript)
  let types ← g.parse .typeArguments
  return [types, ← g.parse (.operand mode)]

/-- Reads an operand with the operators before it. -/
def operand (g : Grammar) (mode : Mode) : Parser Tree := do
  skipPageComments
  let c ← get
  let behind (n : Nat) : Parser Tree := group do
    advance n
    return [← g.parse (.operand mode)]
  if leadingOperators.contains c.operator then behind c.operator.length
  else if leadingWords.contains c.word then behind c.word.length
  else if c.word = "await" then behind c.word.length <|> suffixedOperand g mode
  else if c.head? = some '<' then suffixedOperand g mode <|> group (assertion g mode)
  else suffixedOperand g mode

/-! ## Operators between operands -/

/-- The operators between operands. -/
def middleOperators : List String :=
  ["+", "-", "*", "/", "%", "**", "==", "!=", "===", "!==", "<", ">", "<=", ">=", "<<", ">>",
   ">>>", "&", "|", "^", "&&", "||", "??"]

/-- The operators that assign a value. -/
def assigningOperators : List String :=
  ["=", "+=", "-=", "*=", "/=", "%=", "**=", "<<=", ">>=", ">>>=", "&=", "|=", "^=", "&&=",
   "||=", "??="]

/-- What may go on with an expression behind an operand. -/
inductive Continuation where
  | operand (length : Nat)
  | type (length : Nat)
  | value (length : Nat)
  | branches
  | nothing
  deriving DecidableEq, Repr

/-- What goes on with an expression at a cursor. -/
def continuation (g : Grammar) (mode : Mode) (c : Cursor) : Continuation :=
  let op := c.operator
  if middleOperators.contains op then .operand op.length
  else if assigningOperators.contains op then .value op.length
  else if op = "?" then .branches
  else if c.word = "instanceof" || (c.word = "in" && !mode.noIn) then .operand c.word.length
  else if g.typed && !c.newline && ["as", "satisfies"].contains c.word then .type c.word.length
  else .nothing

/-- Whether a question mark at a cursor makes a parameter optional, and no choice. -/
def marksOptional (c : Cursor) : Bool :=
  [":", ",", ")", "="].contains (c.next 1).operator

/-- Reads the two branches of a choice. What looks like a return type in the first one may
be the second one. -/
def branches (g : Grammar) (mode : Mode) : Parser (List Tree) := do
  operator "?"
  let first (mode : Mode) : Parser Tree := do
    let t ← g.parse (.assignment mode)
    operator ":"
    return t
  let t ← first .free <|> first ⟨false, true⟩
  return [t, ← g.parse (.assignment mode)]

/-- Reads what goes on with an expression behind an operand. -/
def continuations (g : Grammar) (mode : Mode) : Nat → List Tree → Parser (List Tree)
  | 0, _ => failure
  | steps + 1, found => do
    let c ← get
    match continuation g mode c with
    | .operand n =>
      advance n
      let t ← g.parse (.operand mode)
      continuations g mode steps (t :: found)
    | .type n =>
      advance n
      let t ← reservedName "const" <|> g.parse .type
      continuations g mode steps (t :: found)
    | .value n =>
      advance n
      let t ← g.parse (.assignment mode)
      return (t :: found).reverse
    | .branches =>
      if marksOptional c then return found.reverse
      else return found.reverse ++ (← branches g mode)
    | .nothing => return found.reverse

/-- Reads what a generator hands over. -/
def yielded (g : Grammar) (mode : Mode) : Parser (List Tree) := do
  keyword "yield"
  if ← sees '*' then
    glyph '*'
    return [← g.parse (.assignment mode)]
  else if (← get).newline then return []
  else orNone do return [← g.parse (.assignment mode)]

/-- Reads an expression without commas. -/
def assignment (g : Grammar) (mode : Mode) : Parser Tree := do
  skipPageComments
  group do
    let found ← if ← seesWord "yield" then yielded g mode
      else (do return [← g.parse (.operand mode)])
    continuations g mode g.steps found

/-- Reads an expression. -/
def expression (g : Grammar) (mode : Mode) : Parser Tree :=
  group (commaSeparated g.steps (g.parse (.assignment mode)))

end ModuleResolution.Source.Rule
