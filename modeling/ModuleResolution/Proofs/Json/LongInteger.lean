import Mathlib.Data.List.TakeWhile
import ModuleResolution.Json.Reader

/-!
# Integers of many digits

The reader converts no integer of more than `digitLimit` digits. A text that is nothing but such an
integer is well-formed JSON all the same: what stops the reader is no fault of the text, and it is
reported as a reason of its own (`read_of_digits`).
-/

set_option autoImplicit false

namespace ModuleResolution.Json

theorem takeDigits_of_digits {cs : List Char} (digits : ∀ d ∈ cs, d.isDigit = true) :
    takeDigits cs = (cs, []) := by
  rw [takeDigits, List.takeWhile_eq_self_iff.2 digits, List.dropWhile_eq_nil_iff.2 digits]

theorem tokensFrom_nil (steps pos : Nat) : tokensFrom steps pos [] = [] := by
  cases steps <;> rfl

section Digits

variable {c : Char}

theorem ne_of_isDigit {d : Char} (digit : c.isDigit = true) (h : d.isDigit = false) : c ≠ d := by
  rintro rfl
  rw [digit] at h
  cases h

theorem isSpace_of_isDigit (digit : c.isDigit = true) : isSpace c = false := by
  have blank : c ≠ ' ' := ne_of_isDigit digit (by decide)
  have tab : c ≠ '\t' := ne_of_isDigit digit (by decide)
  have line : c ≠ '\n' := ne_of_isDigit digit (by decide)
  have feed : c ≠ '\r' := ne_of_isDigit digit (by decide)
  simp [isSpace, blank, tab, line, feed]

theorem punctuation_of_isDigit (digit : c.isDigit = true) : punctuation c = none := by
  unfold punctuation
  split
  case h_7 => rfl
  all_goals exact absurd rfl (ne_of_isDigit digit (by decide))

/-- No word starts with a digit. -/
theorem wordToken_of_isDigit (digit : c.isDigit = true) (cs : List Char) :
    wordToken (c :: cs) = none := by
  have n : 'n' ≠ c := (ne_of_isDigit digit (by decide)).symm
  have t : 't' ≠ c := (ne_of_isDigit digit (by decide)).symm
  have f : 'f' ≠ c := (ne_of_isDigit digit (by decide)).symm
  have upperN : 'N' ≠ c := (ne_of_isDigit digit (by decide)).symm
  have upperI : 'I' ≠ c := (ne_of_isDigit digit (by decide)).symm
  have minus : '-' ≠ c := (ne_of_isDigit digit (by decide)).symm
  simp [wordToken, wordValues, dropWord, n, t, f, upperN, upperI, minus]

variable {cs : List Char} (digits : ∀ d ∈ c :: cs, d.isDigit = true) (lead : c ≠ '0')
  (long : digitLimit < (c :: cs).length)
include digits lead long

theorem numberToken_of_digits :
    numberToken (c :: cs) = some (.oversized (c :: cs).length, (c :: cs).length, []) := by
  have digit : c.isDigit = true := digits c List.mem_cons_self
  have whole : integralDigits (c :: cs) = some (c :: cs, []) := by
    rw [integralDigits, if_pos digit, takeDigits_of_digits digits]
    exact lead
  have unsigned : unsignedNumber false (c :: cs) =
      some (.oversized (c :: cs).length, (c :: cs).length, []) := by
    simp only [List.length_cons] at long
    simp [unsignedNumber, whole, fractionDigits, exponentPart, long]
  rw [numberToken, unsigned]
  exact fun _ h => ne_of_isDigit digit (by decide) (List.cons.inj h).1

theorem tokens_of_digits : tokens (c :: cs) = [⟨0, .oversized (c :: cs).length⟩] := by
  have digit : c.isDigit = true := digits c List.mem_cons_self
  have quote : c ≠ '"' := ne_of_isDigit digit (by decide)
  rw [tokens, List.length_cons, tokensFrom, isSpace_of_isDigit digit, punctuation_of_isDigit digit]
  simp only [Bool.false_eq_true, if_false, if_neg quote, wordToken_of_isDigit digit, Option.none_or,
    numberToken_of_digits digits lead long, tokensFrom_nil, List.length_cons]

/-- An integer of too many digits is not read, whatever room there is. -/
theorem read_of_digits (room : Nat) :
    read room (String.ofList (c :: cs)) = .error (.integerTooLong (c :: cs).length) := by
  have mark : c ≠ '\uFEFF' := ne_of_isDigit (digits c List.mem_cons_self) (by decide)
  have start : (c :: cs).head? ≠ some '\uFEFF' := by simpa using mark
  rw [read, String.toList_ofList, readChars, if_neg start, tokens_of_digits digits lead long]
  rfl

end Digits

end ModuleResolution.Json
