import ModuleResolution.Text.Blank
import ModuleResolution.Text.Utf8

/-!
# Type directives in a source text

A type directive is a comment of three slashes that starts a line, apart from
blanks, and holds a `reference` tag with a `types` attribute. Blanks, line ends
included, may stand between the parts of a directive.
-/

set_option autoImplicit false

namespace ModuleResolution.Directive

open Text (isBlank)

/-- What follows a word at the head of a text. -/
def afterWord (word : String) (cs : List Char) : Option (List Char) :=
  if word.toList.isPrefixOf cs then some (cs.drop word.toList.length) else none

/-- What follows the blanks at the head of a text. -/
def afterBlanks (cs : List Char) : List Char :=
  cs.dropWhile isBlank

/-- What follows at least one blank at the head of a text. -/
def afterSomeBlanks : List Char → Option (List Char)
  | c :: cs => if isBlank c then some (afterBlanks cs) else none
  | [] => none

/-- A single or double quote. -/
def isQuote (c : Char) : Bool := c = '"' || c = '\''

/-- A name that is not empty between two quotes, and what follows it. -/
def quotedName : List Char → Option (List Char × List Char)
  | [] => none
  | q :: cs =>
    if isQuote q then
      match cs.takeWhile (!isQuote ·), cs.dropWhile (!isQuote ·) with
      | [], _ => none
      | _, [] => none
      | name, _ :: rest => some (name, rest)
    else none

/-- What follows the end of a tag, which may close itself. -/
def afterTagEnd (cs : List Char) : Option (List Char) :=
  (afterWord "/>" cs).or (afterWord ">" cs)

/-- The name in a directive at the head of a text, and what follows the directive. -/
def directiveAt (cs : List Char) : Option (List Char × List Char) := do
  let cs ← afterWord "///" (afterBlanks cs)
  let cs ← afterWord "<reference" (afterBlanks cs)
  let cs ← afterWord "types" (← afterSomeBlanks cs)
  let cs ← afterWord "=" (afterBlanks cs)
  let (name, cs) ← quotedName (afterBlanks cs)
  let cs ← afterTagEnd (afterBlanks cs)
  return (name, cs)

/-- The names of the directives in a text, in order. A directive can start where a
line starts; each step uses up a character, so `steps` may be the length of the text. -/
def namesFrom : Nat → Bool → List Char → List String
  | 0, _, _ => []
  | _ + 1, _, [] => []
  | steps + 1, lineStart, c :: cs =>
    match if lineStart then directiveAt (c :: cs) else none with
    | some (name, rest) => String.ofList name :: namesFrom steps false rest
    | none => namesFrom steps (c = '\n') cs

/-- A list with every element only at its first place. -/
def keepFirst (names : List String) : List String :=
  names.foldl (fun found name => if found.contains name then found else found ++ [name]) []

/-- The names of the type directives in a source text, each once. -/
def scan (source : String) : List String :=
  keepFirst (namesFrom source.toList.length true source.toList)

/-- The names of the type directives in a source file given by its bytes. -/
def scanBytes (bytes : List UInt8) : Except Text.Utf8.Error (List String) :=
  scan <$> Text.Utf8.decode bytes

end ModuleResolution.Directive
