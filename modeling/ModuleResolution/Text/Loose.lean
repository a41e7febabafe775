/-!
# Loose texts

Some notations spell a character beyond the first 65536 ones as two codes, and they can also spell
one of the two alone. Such a half is no character. A loose text may hold halves; one without any is
an ordinary text.
-/

set_option autoImplicit false

namespace ModuleResolution

/-- A character, or the code of one half of a character. -/
inductive LooseChar where
  | char (c : Char)
  | half (code : Nat)
  deriving DecidableEq, Repr

/-- A text that may hold half characters. -/
structure LooseText where
  chars : List LooseChar
  deriving DecidableEq, Repr

/-- The character, if it is one. -/
def LooseChar.char? : LooseChar → Option Char
  | .char c => some c
  | .half _ => none

/-- The character by which a loose one is replaced in an ordinary text. -/
def LooseChar.replaced (c : LooseChar) : Char :=
  c.char?.getD '\uFFFD'

namespace LooseText

/-- An ordinary text. -/
def ofString (s : String) : LooseText := ⟨s.toList.map .char⟩

instance : Coe String LooseText := ⟨ofString⟩

instance : Append LooseText := ⟨fun s t => ⟨s.chars ++ t.chars⟩⟩

/-- The ordinary text, if no half character is in it. -/
def string? (s : LooseText) : Option String :=
  (s.chars.mapM LooseChar.char?).map String.ofList

/-- The text with the replacement character in the place of each half. -/
def string (s : LooseText) : String :=
  String.ofList (s.chars.map LooseChar.replaced)

theorem string_eq_empty_iff {s : LooseText} : s.string = "" ↔ s.chars.isEmpty = true := by
  rw [string, ← String.toList_eq_nil_iff, String.toList_ofList, List.map_eq_nil_iff,
    List.isEmpty_iff]

@[simp] theorem string_ofString (s : String) : (ofString s).string = s := by
  have chars : s.toList.map (LooseChar.replaced ∘ LooseChar.char) = s.toList := List.map_id _
  rw [string, ofString, List.map_map, chars, String.ofList_toList]

theorem mapM_char? (cs : List Char) : (cs.map LooseChar.char).mapM LooseChar.char? = some cs := by
  induction cs with
  | nil => rfl
  | cons c cs ih => simp [List.mapM_cons, LooseChar.char?, ih]

@[simp] theorem string?_ofString (s : String) : (ofString s).string? = some s := by
  rw [string?, ofString, mapM_char?, Option.map_some, String.ofList_toList]

theorem ofString_injective : Function.Injective ofString := by
  intro s t same
  rw [← string_ofString s, same, string_ofString]

@[simp] theorem ofString_inj {s t : String} : ofString s = ofString t ↔ s = t :=
  ofString_injective.eq_iff

end LooseText

end ModuleResolution
