import ModuleResolution.Json.Value

/-!
# JSON tokens

`tokens` cuts a text into JSON tokens, each with the position of its first
character. Cutting stops at the first place where no token can be read; a string
that breaks off or holds a forbidden character is reported as a broken token
with the fault and its position, so that the reader can decide whether the fault
or the place of the string matters first.
-/

set_option autoImplicit false

namespace ModuleResolution.Json

/-- What can be wrong with a JSON text at some position. -/
inductive Fault where
  | value
  | propertyName
  | colon
  | comma
  | extraData
  | unterminatedString
  | controlCharacter
  | escape
  | unicodeEscape
  | byteOrderMark
  deriving DecidableEq, Repr

/-- The wording of a fault. -/
def Fault.message : Fault → String
  | .value => "Expecting value"
  | .propertyName => "Expecting property name enclosed in double quotes"
  | .colon => "Expecting ':' delimiter"
  | .comma => "Expecting ',' delimiter"
  | .extraData => "Extra data"
  | .unterminatedString => "Unterminated string starting at"
  | .controlCharacter => "Invalid control character at"
  | .escape => "Invalid \\escape"
  | .unicodeEscape => "Invalid \\uXXXX escape"
  | .byteOrderMark => "Unexpected UTF-8 BOM (decode using utf-8-sig)"

/-- A JSON token. -/
inductive Token where
  | openBrace
  | closeBrace
  | openBracket
  | closeBracket
  | colon
  | comma
  | scalar (v : Value)
  | oversized (digits : Nat)
  | text (s : LooseText)
  | broken (fault : Fault) (position : Nat)
  | unknown
  deriving Repr

/-- A token with the position of its first character. -/
structure Located where
  position : Nat
  token : Token
  deriving Repr

/-! ## Numbers -/

/-- The most digits that an integer may have. -/
def digitLimit : Nat := 4300

/-- The number that decimal digits spell. -/
def digitsValue (cs : List Char) : Nat :=
  cs.foldl (fun n c => 10 * n + (c.toNat - 48)) 0

/-- The leading decimal digits of a text and what follows them. -/
def takeDigits (cs : List Char) : List Char × List Char :=
  (cs.takeWhile Char.isDigit, cs.dropWhile Char.isDigit)

/-- The digits of the integral part: a single zero, or digits that start with another one. -/
def integralDigits : List Char → Option (List Char × List Char)
  | '0' :: cs => some (['0'], cs)
  | c :: cs => if c.isDigit then some (takeDigits (c :: cs)) else none
  | [] => none

/-- The digits behind a decimal point, if a point with digits follows. -/
def fractionDigits : List Char → Option (List Char × List Char)
  | '.' :: cs =>
    match takeDigits cs with
    | ([], _) => none
    | found => some found
  | _ => none

/-- The exponent, its length in characters and what follows, if one is written. -/
def exponentPart : List Char → Option (Int × Nat × List Char)
  | c :: cs =>
    if c = 'e' || c = 'E' then
      let (sign, signLength, cs) : Int × Nat × List Char :=
        match cs with
        | '-' :: rest => (-1, 1, rest)
        | '+' :: rest => (1, 1, rest)
        | _ => (1, 0, cs)
      match takeDigits cs with
      | ([], _) => none
      | (ds, rest) => some (sign * digitsValue ds, 1 + signLength + ds.length, rest)
    else none
  | [] => none

/-- A number without its sign: the token, its length and what follows. -/
def unsignedNumber (negative : Bool) (cs : List Char) : Option (Token × Nat × List Char) := do
  let (whole, rest) ← integralDigits cs
  let (fraction, fractionLength, rest) : List Char × Nat × List Char :=
    match fractionDigits rest with
    | some (ds, rest) => (ds, ds.length + 1, rest)
    | none => ([], 0, rest)
  let (power, powerLength, rest) : Int × Nat × List Char :=
    match exponentPart rest with
    | some found => found
    | none => (0, 0, rest)
  let length := whole.length + fractionLength + powerLength
  let token : Token :=
    if fractionLength + powerLength = 0 then
      if digitLimit < whole.length then .oversized whole.length
      else
        let n : Int := digitsValue whole
        .scalar (.integer (if negative then -n else n))
    else
      .scalar (.decimal ⟨negative, digitsValue (whole ++ fraction), power - fraction.length⟩)
  return (token, length, rest)

/-! ## Strings -/

/-- The number that a hexadecimal digit stands for. -/
def hexValue (c : Char) : Option Nat :=
  if c.isDigit then some (c.toNat - 48)
  else if 'a' ≤ c && c ≤ 'f' then some (c.toNat - 87)
  else if 'A' ≤ c && c ≤ 'F' then some (c.toNat - 55)
  else none

/-- The code that four hexadecimal digits spell. -/
def hexCode (a b c d : Char) : Option Nat := do
  return ((← hexValue a) * 16 + (← hexValue b)) * 256 + ((← hexValue c) * 16 + (← hexValue d))

/-- The character that a one-letter escape stands for. -/
def shortEscape : Char → Option Char
  | '"' => some '"'
  | '\\' => some '\\'
  | '/' => some '/'
  | 'b' => some '\x08'
  | 'f' => some '\x0c'
  | 'n' => some '\n'
  | 'r' => some '\r'
  | 't' => some '\t'
  | _ => none

/-- The first half of a character that is written as two codes. -/
def isHighHalf (n : Nat) : Bool := 0xD800 ≤ n && n < 0xDC00

/-- The second half of a character that is written as two codes. -/
def isLowHalf (n : Nat) : Bool := 0xDC00 ≤ n && n < 0xE000

/-- The character with a code, or the half of one. -/
def codeChar (n : Nat) : LooseChar :=
  if isHighHalf n || isLowHalf n then .half n else .char (Char.ofNat n)

/-- The characters that codes spell: a first and a second half in a row make up one
character, and any other half stays alone. -/
def joinHalves : List Nat → List LooseChar
  | [] => []
  | [n] => [codeChar n]
  | n :: m :: rest =>
    if isHighHalf n && isLowHalf m then
      .char (Char.ofNat (0x10000 + (n - 0xD800) * 0x400 + (m - 0xDC00))) :: joinHalves rest
    else codeChar n :: joinHalves (m :: rest)

/-- A string read to its closing quote: its codes, the position behind it and what
follows; or the fault in it and its position. -/
abbrev StringRead := Except (Fault × Nat) (List Nat × Nat × List Char)

/-- A string read with one more code in front. -/
def StringRead.cons (code : Nat) (r : StringRead) : StringRead :=
  r.map fun (codes, found) => (code :: codes, found)

/-- Reads the rest of a string whose opening quote stands at `start`. An escaped
code needs its four digits and at least one character behind them. -/
def stringFrom (start pos : Nat) : List Char → StringRead
  | [] => .error (.unterminatedString, start)
  | '"' :: cs => .ok ([], pos + 1, cs)
  | '\\' :: [] => .error (.unterminatedString, start)
  | '\\' :: 'u' :: a :: b :: c :: d :: cs =>
    match if cs.isEmpty then none else hexCode a b c d with
    | none => .error (.unicodeEscape, pos + 1)
    | some code => StringRead.cons code (stringFrom start (pos + 6) cs)
  | '\\' :: 'u' :: _ => .error (.unicodeEscape, pos + 1)
  | '\\' :: c :: cs =>
    match shortEscape c with
    | some c => StringRead.cons c.toNat (stringFrom start (pos + 2) cs)
    | none => .error (.escape, pos)
  | c :: cs =>
    if c.toNat < 0x20 then .error (.controlCharacter, pos)
    else StringRead.cons c.toNat (stringFrom start (pos + 1) cs)

/-! ## Tokens -/

/-- What a word at the head of a text leaves, if the text starts with it. -/
def dropWord (word : String) (cs : List Char) : Option (List Char) :=
  if word.toList.isPrefixOf cs then some (cs.drop word.toList.length) else none

/-- The words that stand for values. -/
def wordValues : List (String × Value) :=
  [("null", .null), ("true", .bool true), ("false", .bool false), ("NaN", .notANumber),
   ("Infinity", .infinity false), ("-Infinity", .infinity true)]

/-- A word that stands for a value: the token, its length and what follows. -/
def wordToken (cs : List Char) : Option (Token × Nat × List Char) :=
  wordValues.findSome? fun (word, v) =>
    (dropWord word cs).map fun rest => (.scalar v, word.toList.length, rest)

/-- A number, its length and what follows. -/
def numberToken : List Char → Option (Token × Nat × List Char)
  | '-' :: cs => (unsignedNumber true cs).map fun (t, n, rest) => (t, n + 1, rest)
  | cs => unsignedNumber false cs

/-- The white space between tokens. -/
def isSpace (c : Char) : Bool :=
  c = ' ' || c = '\t' || c = '\n' || c = '\r'

/-- The punctuation of JSON. -/
def punctuation : Char → Option Token
  | '\x7b' => some .openBrace
  | '\x7d' => some .closeBrace
  | '[' => some .openBracket
  | ']' => some .closeBracket
  | ':' => some .colon
  | ',' => some .comma
  | _ => none

/-- The tokens from a position on. Each step uses up a character, so `steps` may be
the length of the text. -/
def tokensFrom : Nat → Nat → List Char → List Located
  | 0, _, _ => []
  | _ + 1, _, [] => []
  | steps + 1, pos, c :: cs =>
    if isSpace c then tokensFrom steps (pos + 1) cs
    else match punctuation c with
      | some token => ⟨pos, token⟩ :: tokensFrom steps (pos + 1) cs
      | none =>
        if c = '"' then
          match stringFrom pos (pos + 1) cs with
          | .ok (codes, next, rest) =>
            ⟨pos, .text ⟨joinHalves codes⟩⟩ :: tokensFrom steps next rest
          | .error (fault, place) => [⟨pos, .broken fault place⟩]
        else
          match (wordToken (c :: cs)).or (numberToken (c :: cs)) with
          | some (token, length, rest) => ⟨pos, token⟩ :: tokensFrom steps (pos + length) rest
          | none => [⟨pos, .unknown⟩]

/-- The tokens of a text. -/
def tokens (cs : List Char) : List Located :=
  tokensFrom cs.length 0 cs

end ModuleResolution.Json
