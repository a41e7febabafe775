import ModuleResolution.Outcome

/-!
# Terminals

A terminal reports its encoding; failing that the encoding of the locale counts. A
terminal that cannot show all of Unicode gets plain replacements for the icons in the
output.
-/

set_option autoImplicit false

namespace ModuleResolution.Terminal

/-- The encodings that are reported: by the terminal, which may report none, and by the
locale, which may be impossible to ask. -/
structure Encodings where
  output : Option String
  locale : Option String
  deriving DecidableEq, Repr

/-- The encoding that counts where neither terminal nor locale reports one. -/
def lastEncoding : String := "ascii"

/-- The encoding that counts for a terminal, in lower case. A terminal that reports an
empty name reports none. -/
def encoding (reported : Encodings) : String :=
  match reported.output.filter (· ≠ ""), reported.locale with
  | some name, _ => lowerCase name
  | none, some name => lowerCase name
  | none, none => lastEncoding

/-- The names of the encoding that can show every character. -/
def universalNames : List String := ["utf-8", "utf8", "utf_8"]

/-- Whether a terminal can show every character. -/
def isUniversal (reported : Encodings) : Bool :=
  universalNames.contains (encoding reported)

/-- The icons and their plain replacements. -/
def icons : List (Char × String) :=
  [('→', "->"), ('←', "<-"), ('✓', "[OK]"), ('✗', "[FAIL]"), ('⚠', "[WARN]"), ('…', "..."),
   ('•', "*")]

/-- Replaces one icon everywhere in a text. -/
def replaceIcon (cs : List Char) (icon : Char × String) : List Char :=
  cs.flatMap fun c => if c = icon.1 then icon.2.toList else [c]

/-- Replaces the icons in a text, one after the other. -/
def withoutIcons (s : String) : String :=
  String.ofList (icons.foldl replaceIcon s.toList)

/-- The plain form of a character: the replacement of an icon, and any other
character itself. -/
def plainChar (c : Char) : List Char :=
  match icons.lookup c with
  | some replacement => replacement.toList
  | none => [c]

/-- A text as a terminal can show it. -/
def display (reported : Encodings) (s : String) : String :=
  if isUniversal reported then s else withoutIcons s

/-- What a terminal shows when texts are printed on one line. -/
def printed (reported : Encodings) (texts : List String) : String :=
  " ".intercalate (texts.map (display reported)) ++ "\n"

/-! ## Devices -/

/-- A terminal as a program meets it: the encodings that count for it, and the characters that
it can write. A text with any other character, or with half a character, is not written at all. -/
structure Device where
  encodings : Encodings
  writes : Char → Bool

/-- The terminal that can write every character. -/
def Device.universal : Device := ⟨⟨some "utf-8", none⟩, fun _ => true⟩

end ModuleResolution.Terminal
