import ModuleResolution.Text.Blank

/-!
# Lexical elements

The words, operators and literals at the head of a source text. Functions that measure
an element count its characters; what the counted characters mean is left to the parser,
which knows whether a slash divides or opens a pattern.
-/

set_option autoImplicit false

namespace ModuleResolution.Source.Lexeme

/-! ## Characters -/

/-- A character between tokens. -/
def isSpace (c : Char) : Bool :=
  Text.isBlank c || c = '\uFEFF' || c = '\u200B' || c = '\u2060'

/-- A character that ends a line comment. -/
def endsLine (c : Char) : Bool :=
  c = '\n' || c = '\r' || c = '\u2028' || c = '\u2029'

/-- A character that separates lines, so that a statement may end before it. -/
def separatesLines (c : Char) : Bool :=
  c = '\n' || c = '\u2028' || c = '\u2029'

/-- A character that a word can start with. -/
def startsWord (c : Char) : Bool :=
  c.isAlpha || c = '_' || c = '$' || c = '\\' || (0x80 ≤ c.toNat && !isSpace c)

/-- A character inside a word. -/
def continuesWord (c : Char) : Bool :=
  startsWord c || c.isDigit || c = '\u200C' || c = '\u200D'

/-! ## Words and operators -/

/-- Counts the characters of a word from the `n`-th on. Braces belong to a word where they
hold the code of an escaped character. -/
def wordLengthFrom : Nat → Bool → List Char → Nat
  | n, _, [] => n
  | n, _, '\\' :: 'u' :: '\x7b' :: cs => wordLengthFrom (n + 3) true cs
  | n, inBraces, c :: cs =>
    if continuesWord c || (inBraces && c = '\x7d') then
      wordLengthFrom (n + 1) (inBraces && c ≠ '\x7d') cs
    else n

/-- How long the word at the head of a text is. -/
def wordLength (cs : List Char) : Nat :=
  if cs.head?.any startsWord then wordLengthFrom 0 false cs else 0

/-- The operators of more than one character, longer ones first. -/
def longOperators : List String :=
  [">>>=", "...", "===", "!==", "**=", "<<=", ">>=", ">>>", "&&=", "||=", "??=", "=>", "==",
   "!=", "<=", ">=", "&&", "||", "??", "?.", "++", "--", "+=", "-=", "*=", "/=", "%=", "&=",
   "|=", "^=", "<<", ">>", "**"]

/-- The operator at the head of a text, or the bracket or other character there. A point
before a digit belongs to a number and not to the mark of an optional access. -/
def operatorAt (cs : List Char) : String :=
  let found := longOperators.find? fun op =>
    op.toList.isPrefixOf cs && !(op = "?." && (cs.drop 2).head?.any Char.isDigit)
  found.getD (String.ofList (cs.take 1))

/-! ## Literals -/

/-- Counts the characters from the `n`-th on up to the quote that closes a string, which
must not run over the end of a line. -/
def stringLengthFrom (quote : Char) : Nat → List Char → Option Nat
  | _, [] => none
  | n, '\\' :: '\r' :: '\n' :: cs => stringLengthFrom quote (n + 3) cs
  | n, '\\' :: _ :: cs => stringLengthFrom quote (n + 2) cs
  | n, c :: cs =>
    if c = quote then some (n + 1)
    else if c = '\n' || c = '\r' then none
    else stringLengthFrom quote (n + 1) cs

/-- How long the string at the head of a text is. -/
def stringLength : List Char → Option Nat
  | '"' :: cs => stringLengthFrom '"' 1 cs
  | '\'' :: cs => stringLengthFrom '\'' 1 cs
  | _ => none

/-- Counts the characters of template text up to a substitution or the closing mark. -/
def templateTextLength : Nat → List Char → Nat
  | n, [] => n
  | n, '\\' :: _ :: cs => templateTextLength (n + 2) cs
  | n, '$' :: '\x7b' :: _ => n
  | n, c :: cs => if c = '\x60' then n else templateTextLength (n + 1) cs

/-- Counts the characters of a pattern up to the slash that closes it on the same line; one
in a character class does not close it. -/
def patternLengthFrom : Nat → Bool → List Char → Option Nat
  | _, _, [] => none
  | n, inClass, '\\' :: c :: cs =>
    if c = '\n' then none else patternLengthFrom (n + 2) inClass cs
  | n, inClass, c :: cs =>
    if c = '\n' then none
    else if c = '/' && !inClass then some (n + 1)
    else patternLengthFrom (n + 1) (c = '[' || (inClass && c ≠ ']')) cs

/-- How long the pattern with its flags at the head of a text is. -/
def patternLength : List Char → Option Nat
  | '/' :: cs =>
    (patternLengthFrom 1 false cs).map fun n => wordLengthFrom n false (cs.drop (n - 1))
  | _ => none

/-- A digit or the mark that groups digits. -/
def isDigitOrMark (c : Char) : Bool := c.isDigit || c = '_'

/-- How long the exponent at the head of a text is. -/
def exponentLength : List Char → Nat
  | 'e' :: cs | 'E' :: cs =>
    let sign := if cs.head? = some '+' || cs.head? = some '-' then 1 else 0
    let digits := ((cs.drop sign).takeWhile isDigitOrMark).length
    if digits = 0 then 0 else 1 + sign + digits
  | _ => 0

/-- How long the decimal number at the head of a text is. -/
def decimalLength (cs : List Char) : Nat :=
  let whole := (cs.takeWhile isDigitOrMark).length
  let fraction := match cs.drop whole with
    | '.' :: rest => 1 + (rest.takeWhile isDigitOrMark).length
    | _ => 0
  let n := whole + fraction
  let n := n + exponentLength (cs.drop n)
  if (cs.drop n).head? = some 'n' then n + 1 else n

/-- How long the number at the head of a text is. -/
def numberLength : List Char → Option Nat
  | '0' :: c :: cs =>
    if ['x', 'X', 'o', 'O', 'b', 'B'].contains c then
      some (2 + (cs.takeWhile fun c => c.isAlphanum || c = '_').length)
    else some (decimalLength ('0' :: c :: cs))
  | '.' :: c :: cs => if c.isDigit then some (decimalLength ('.' :: c :: cs)) else none
  | c :: cs => if c.isDigit then some (decimalLength (c :: cs)) else none
  | [] => none

end ModuleResolution.Source.Lexeme
