import Mathlib.Data.List.TakeWhile
import ModuleResolution.Json.Token
import ModuleResolution.Text.Blank

/-!
# Numbers and words in JSON

A token that is a number or a word is a run of characters of one class, `isScalarChar`: no quote, no
slash, no comma and no blank is among them (`scalarBefore_of_token`). What follows the next quote
has no part in it: with a quote and anything behind it a text starts with the same number or word
(`scalarToken_append_quote`).

The parts of a number that have a sign or may be missing are named here, so that a number can be
taken apart: `unsignedNumber_eq` and `exponentPart_cons` put it together again.
-/

set_option autoImplicit false

namespace ModuleResolution.Json

/-- Characters that a class of characters tells apart. -/
theorem ne_of_class {p : Char → Bool} {c d : Char} (hc : p c = true) (hd : p d = false) :
    c ≠ d := by
  rintro rfl
  rw [hc] at hd
  cases hd

/-! ## Runs of scalar characters -/

/-- A character of a number or of a word that stands for a value. -/
def isScalarChar (c : Char) : Bool :=
  c.isAlphanum || c = '+' || c = '-' || c = '.'

/-- Scalar characters lie between `+` and `z`. -/
theorem toNat_of_isScalarChar {c : Char} (h : isScalarChar c = true) :
    0x2B ≤ c.toNat ∧ c.toNat ≤ 0x7A := by
  have spelled : isScalarChar c =
      (decide ('A'.val ≤ c.val ∧ c.val ≤ 'Z'.val) ||
        (decide ('a'.val ≤ c.val) && decide (c.val ≤ 'z'.val)) ||
        (decide ('0'.val ≤ c.val) && decide (c.val ≤ '9'.val)) ||
        c = '+' || c = '-' || c = '.') := rfl
  simp only [spelled, Bool.or_eq_true, Bool.and_eq_true, decide_eq_true_eq,
    UInt32.le_iff_toNat_le] at h
  have range {low high : Nat} (h : low ≤ c.toNat ∧ c.toNat ≤ high) (hlow : 0x2B ≤ low)
      (hhigh : high ≤ 0x7A) : 0x2B ≤ c.toNat ∧ c.toNat ≤ 0x7A :=
    ⟨Nat.le_trans hlow h.1, Nat.le_trans h.2 hhigh⟩
  rcases h with ((((upper | lower) | digit) | rfl) | rfl) | rfl
  · exact range upper (by decide) (by decide)
  · exact range lower (by decide) (by decide)
  · exact range digit (by decide) (by decide)
  · decide
  · decide
  · decide

theorem isScalarChar_of_isBlank {c : Char} (blank : Text.isBlank c = true) :
    isScalarChar c = false := by
  by_contra scalar
  have range := toNat_of_isScalarChar (Bool.not_eq_false _ ▸ scalar)
  simp only [Text.isBlank, Bool.or_eq_true, Bool.and_eq_true, decide_eq_true_eq,
    beq_iff_eq] at blank
  omega

theorem isScalarChar_of_isDigit {c : Char} (h : c.isDigit = true) : isScalarChar c = true := by
  simp [isScalarChar, Char.isAlphanum, h]

/-- A text that starts with scalar characters, the given number of them, and goes on with a rest. -/
def ScalarBefore (length : Nat) (cs rest : List Char) : Prop :=
  ∃ w, cs = w ++ rest ∧ w.length = length ∧ ∀ d ∈ w, isScalarChar d = true

namespace ScalarBefore

variable {m n : Nat} {cs rest rest' : List Char}

theorem refl (cs : List Char) : ScalarBefore 0 cs cs :=
  ⟨[], rfl, rfl, by simp⟩

theorem trans (h : ScalarBefore m cs rest) (h' : ScalarBefore n rest rest') :
    ScalarBefore (m + n) cs rest' := by
  obtain ⟨w, rfl, rfl, scalar⟩ := h
  obtain ⟨w', rfl, rfl, scalar'⟩ := h'
  refine ⟨w ++ w', by simp, by simp, ?_⟩
  intro d hd
  rcases List.mem_append.1 hd with hd | hd
  · exact scalar d hd
  · exact scalar' d hd

theorem congr (h : ScalarBefore m cs rest) (eq : m = n) : ScalarBefore n cs rest :=
  eq ▸ h

theorem cons {c : Char} (hc : isScalarChar c = true) (h : ScalarBefore n cs rest) :
    ScalarBefore (n + 1) (c :: cs) rest := by
  obtain ⟨w, rfl, rfl, scalar⟩ := h
  exact ⟨c :: w, rfl, rfl, List.forall_mem_cons.2 ⟨hc, scalar⟩⟩

/-- The first character is a scalar character, and the rest is shorter. -/
theorem head {c : Char} (h : ScalarBefore n (c :: cs) rest) (pos : 0 < n) :
    isScalarChar c = true ∧ rest.length ≤ cs.length := by
  obtain ⟨w, split, rfl, scalar⟩ := h
  cases w with
  | nil => cases pos
  | cons d w =>
    obtain ⟨rfl, rfl⟩ := List.cons.inj split
    exact ⟨scalar c List.mem_cons_self, by simp⟩

end ScalarBefore

/-! ## The parts of a number -/

/-- The sign that may stand before the digits of an exponent, its length and what follows. -/
def exponentSign : List Char → Int × Nat × List Char
  | '-' :: rest => (-1, 1, rest)
  | '+' :: rest => (1, 1, rest)
  | cs => (1, 0, cs)

theorem exponentPart_cons (c : Char) (cs : List Char) :
    exponentPart (c :: cs) =
      if c = 'e' || c = 'E' then
        match takeDigits (exponentSign cs).2.2 with
        | ([], _) => none
        | (ds, rest) =>
          some ((exponentSign cs).1 * digitsValue ds, 1 + (exponentSign cs).2.1 + ds.length, rest)
      else none := by
  have sign : (match cs with
      | '-' :: rest => ((-1 : Int), 1, rest)
      | '+' :: rest => (1, 1, rest)
      | _ => (1, 0, cs)) = exponentSign cs := by
    cases cs with
    | nil => rfl
    | cons d cs =>
      by_cases minus : d = '-'
      · subst minus
        rfl
      · by_cases plus : d = '+'
        · subst plus
          rfl
        · simp [exponentSign, minus, plus]
  rw [← sign]
  rfl

/-- The digits behind a decimal point, their length with the point and what follows. -/
def fractionOf (cs : List Char) : List Char × Nat × List Char :=
  match fractionDigits cs with
  | some (ds, rest) => (ds, ds.length + 1, rest)
  | none => ([], 0, cs)

/-- The exponent, its length and what follows. -/
def exponentOf (cs : List Char) : Int × Nat × List Char :=
  match exponentPart cs with
  | some found => found
  | none => (0, 0, cs)

/-- The token of a number that has been cut into its parts. -/
def numberOf (negative : Bool) (whole fraction : List Char) (power : Int) (length : Nat) : Token :=
  if length = 0 then
    if digitLimit < whole.length then .oversized whole.length
    else
      let n : Int := digitsValue whole
      .scalar (.integer (if negative then -n else n))
  else
    .scalar (.decimal ⟨negative, digitsValue (whole ++ fraction), power - fraction.length⟩)

theorem unsignedNumber_eq (negative : Bool) (cs : List Char) :
    unsignedNumber negative cs = do
      let (whole, rest) ← integralDigits cs
      let (fraction, fractionLength, rest) := fractionOf rest
      let (power, powerLength, rest) := exponentOf rest
      return (numberOf negative whole fraction power (fractionLength + powerLength),
        whole.length + fractionLength + powerLength, rest) := by
  rfl

/-! ## Tokens are runs of scalar characters -/

section Scalars

variable {cs rest ds : List Char}

theorem scalarBefore_takeDigits (cs : List Char) :
    ScalarBefore (takeDigits cs).1.length cs (takeDigits cs).2 :=
  ⟨(takeDigits cs).1, (List.takeWhile_append_dropWhile).symm, rfl,
    fun _ hd => isScalarChar_of_isDigit (List.mem_takeWhile_imp hd)⟩

theorem scalarBefore_integralDigits (h : integralDigits cs = some (ds, rest)) :
    ScalarBefore ds.length cs rest := by
  unfold integralDigits at h
  split at h
  · cases h
    exact .cons (by decide) (.refl _)
  · split at h
    · cases h
      exact scalarBefore_takeDigits _
    · cases h
  · cases h

theorem length_integralDigits (h : integralDigits cs = some (ds, rest)) : 0 < ds.length := by
  unfold integralDigits at h
  split at h
  · cases h
    decide
  · split at h
    · rename_i digit
      cases h
      simp [digit]
    · cases h
  · cases h

theorem scalarBefore_fractionDigits (h : fractionDigits cs = some (ds, rest)) :
    ScalarBefore (ds.length + 1) cs rest := by
  unfold fractionDigits at h
  split at h
  · rename_i cs
    split at h
    · cases h
    · have digits := scalarBefore_takeDigits cs
      rw [Option.some.inj h] at digits
      exact digits.cons (by decide)
  · cases h

theorem scalarBefore_exponentSign (cs : List Char) :
    ScalarBefore (exponentSign cs).2.1 cs (exponentSign cs).2.2 := by
  unfold exponentSign
  split
  · exact .cons (by decide) (.refl _)
  · exact .cons (by decide) (.refl _)
  · exact .refl _

theorem scalarBefore_exponentPart {power : Int} {n : Nat}
    (h : exponentPart cs = some (power, n, rest)) : ScalarBefore n cs rest := by
  cases cs with
  | nil => cases h
  | cons c cs =>
    rw [exponentPart_cons] at h
    split at h
    · rename_i letter
      have letter : isScalarChar c = true := by
        simp only [Bool.or_eq_true, decide_eq_true_eq] at letter
        rcases letter with rfl | rfl <;> decide
      split at h
      · cases h
      · rename_i ds after _ spelled
        have digits := scalarBefore_takeDigits (exponentSign cs).2.2
        rw [spelled] at digits
        cases h
        have front := ((scalarBefore_exponentSign cs).trans digits).cons letter
        exact front.congr (by simp only; omega)
    · cases h

theorem scalarBefore_fractionOf (cs : List Char) :
    ScalarBefore (fractionOf cs).2.1 cs (fractionOf cs).2.2 := by
  unfold fractionOf
  split
  · rename_i h
    exact scalarBefore_fractionDigits h
  · exact .refl cs

theorem scalarBefore_exponentOf (cs : List Char) :
    ScalarBefore (exponentOf cs).2.1 cs (exponentOf cs).2.2 := by
  unfold exponentOf
  split
  · rename_i h
    exact scalarBefore_exponentPart h
  · exact .refl cs

section Tokens

variable {token : Token} {n : Nat}

theorem scalarBefore_unsignedNumber {negative : Bool}
    (h : unsignedNumber negative cs = some (token, n, rest)) : 0 < n ∧ ScalarBefore n cs rest := by
  rw [unsignedNumber_eq] at h
  obtain ⟨⟨whole, after⟩, integral, h⟩ := Option.bind_eq_some_iff.1 h
  cases h
  have digits := length_integralDigits integral
  refine ⟨by omega, ?_⟩
  exact ((scalarBefore_integralDigits integral).trans (scalarBefore_fractionOf _)).trans
    (scalarBefore_exponentOf _)

theorem scalarBefore_numberToken (h : numberToken cs = some (token, n, rest)) :
    0 < n ∧ ScalarBefore n cs rest := by
  unfold numberToken at h
  split at h
  · obtain ⟨⟨token', m, rest'⟩, unsigned, h⟩ := Option.map_eq_some_iff.1 h
    cases h
    exact ⟨Nat.succ_pos m, (scalarBefore_unsignedNumber unsigned).2.cons (by decide)⟩
  · exact scalarBefore_unsignedNumber h

/-- The words that stand for values are made of scalar characters. -/
theorem isScalarChar_of_mem_wordValues :
    ∀ entry ∈ wordValues, 0 < entry.1.toList.length ∧
      ∀ d ∈ entry.1.toList, isScalarChar d = true := by
  have checked : (wordValues.all fun entry =>
      0 < entry.1.toList.length && entry.1.toList.all isScalarChar) = true := by rfl
  simpa using checked

theorem scalarBefore_wordToken (h : wordToken cs = some (token, n, rest)) :
    0 < n ∧ ScalarBefore n cs rest := by
  obtain ⟨⟨word, v⟩, known, h⟩ := List.exists_of_findSome?_eq_some h
  obtain ⟨after, dropped, h⟩ := Option.map_eq_some_iff.1 h
  cases h
  obtain ⟨long, scalar⟩ := isScalarChar_of_mem_wordValues _ known
  unfold dropWord at dropped
  split at dropped
  · rename_i front
    cases dropped
    obtain ⟨after, rfl⟩ := List.isPrefixOf_iff_prefix.1 front
    exact ⟨long, word.toList, by simp, rfl, scalar⟩
  · cases dropped

/-- A word or a number is a run of scalar characters that is not empty. -/
theorem scalarBefore_of_token (h : (wordToken cs).or (numberToken cs) = some (token, n, rest)) :
    0 < n ∧ ScalarBefore n cs rest := by
  rcases Option.or_eq_some_iff.1 h with word | ⟨-, number⟩
  · exact scalarBefore_wordToken word
  · exact scalarBefore_numberToken number

end Tokens

end Scalars

/-! ## What stands behind a quote has no part in a number or a word -/

section Quote

variable (p q : List Char)

theorem takeDigits_append_quote :
    takeDigits (p ++ '"' :: q) = ((takeDigits p).1, (takeDigits p).2 ++ '"' :: q) := by
  induction p with
  | nil => rfl
  | cons c p ih =>
    cases digit : c.isDigit with
    | true =>
      simp only [takeDigits, Prod.mk.injEq] at ih ⊢
      simpa [digit] using ih
    | false => simp [takeDigits, digit]

theorem integralDigits_append_quote :
    integralDigits (p ++ '"' :: q) =
      (integralDigits p).map fun (ds, rest) => (ds, rest ++ '"' :: q) := by
  cases p with
  | nil => rfl
  | cons c p =>
    by_cases zero : c = '0'
    · subst zero
      rfl
    · have whole := takeDigits_append_quote (c :: p) q
      rw [List.cons_append] at whole ⊢
      rw [integralDigits, integralDigits, whole]
      · split <;> rfl
      · exact zero
      · exact zero

theorem fractionDigits_append_quote :
    fractionDigits (p ++ '"' :: q) =
      (fractionDigits p).map fun (ds, rest) => (ds, rest ++ '"' :: q) := by
  cases p with
  | nil => rfl
  | cons c p =>
    by_cases point : c = '.'
    · subst point
      rw [List.cons_append, fractionDigits, fractionDigits, takeDigits_append_quote]
      obtain ⟨ds, rest⟩ := takeDigits p
      cases ds <;> rfl
    · simp [fractionDigits, point]

theorem exponentSign_append_quote :
    exponentSign (p ++ '"' :: q) =
      ((exponentSign p).1, (exponentSign p).2.1, (exponentSign p).2.2 ++ '"' :: q) := by
  cases p with
  | nil => rfl
  | cons c p =>
    by_cases minus : c = '-'
    · subst minus
      rfl
    · by_cases plus : c = '+'
      · subst plus
        rfl
      · simp [exponentSign, minus, plus]

theorem exponentPart_append_quote :
    exponentPart (p ++ '"' :: q) =
      (exponentPart p).map fun (power, n, rest) => (power, n, rest ++ '"' :: q) := by
  cases p with
  | nil => rfl
  | cons c p =>
    rw [List.cons_append, exponentPart_cons, exponentPart_cons, exponentSign_append_quote]
    simp only [takeDigits_append_quote]
    obtain ⟨ds, rest⟩ := takeDigits (exponentSign p).2.2
    cases ds <;> (simp only; split <;> rfl)

theorem fractionOf_append_quote :
    fractionOf (p ++ '"' :: q) =
      ((fractionOf p).1, (fractionOf p).2.1, (fractionOf p).2.2 ++ '"' :: q) := by
  unfold fractionOf
  rw [fractionDigits_append_quote]
  cases fractionDigits p <;> rfl

theorem exponentOf_append_quote :
    exponentOf (p ++ '"' :: q) =
      ((exponentOf p).1, (exponentOf p).2.1, (exponentOf p).2.2 ++ '"' :: q) := by
  unfold exponentOf
  rw [exponentPart_append_quote]
  cases exponentPart p <;> rfl

theorem unsignedNumber_append_quote (negative : Bool) :
    unsignedNumber negative (p ++ '"' :: q) =
      (unsignedNumber negative p).map fun (token, n, rest) => (token, n, rest ++ '"' :: q) := by
  rw [unsignedNumber_eq, unsignedNumber_eq, integralDigits_append_quote]
  cases integralDigits p with
  | none => rfl
  | some found =>
    simp only [Option.map_some, Option.bind_eq_bind, Option.bind_some, fractionOf_append_quote,
      exponentOf_append_quote]
    rfl

theorem numberToken_append_quote :
    numberToken (p ++ '"' :: q) =
      (numberToken p).map fun (token, n, rest) => (token, n, rest ++ '"' :: q) := by
  cases p with
  | nil => rfl
  | cons c p =>
    by_cases minus : c = '-'
    · subst minus
      rw [List.cons_append, numberToken, numberToken, unsignedNumber_append_quote]
      cases unsignedNumber true p <;> rfl
    · have differs (cs rest : List Char) : c :: cs ≠ '-' :: rest :=
        fun h => minus (List.cons.inj h).1
      rw [numberToken, numberToken, unsignedNumber_append_quote]
      · exact fun rest => differs p rest
      · exact fun rest => differs (p ++ '"' :: q) rest

theorem isPrefixOf_append_quote {word : List Char} (plain : '"' ∉ word) :
    word.isPrefixOf (p ++ '"' :: q) = word.isPrefixOf p := by
  induction word generalizing p with
  | nil => rfl
  | cons d word ih =>
    simp only [List.mem_cons, not_or] at plain
    cases p with
    | nil => simp [List.isPrefixOf, Ne.symm plain.1]
    | cons c p => simp [List.isPrefixOf, ih p plain.2]

theorem dropWord_append_quote {word : String} (plain : '"' ∉ word.toList) :
    dropWord word (p ++ '"' :: q) = (dropWord word p).map (· ++ '"' :: q) := by
  rw [dropWord, dropWord, isPrefixOf_append_quote p q plain]
  split
  · rename_i front
    have short := (List.isPrefixOf_iff_prefix.1 front).length_le
    simp [List.drop_append_of_le_length short]
  · rfl

theorem wordToken_append_quote :
    wordToken (p ++ '"' :: q) =
      (wordToken p).map fun (token, n, rest) => (token, n, rest ++ '"' :: q) := by
  unfold wordToken
  have plain : ∀ entry ∈ wordValues, '"' ∉ entry.1.toList := by
    have checked : (wordValues.all fun entry => !entry.1.toList.contains '"') = true := by rfl
    simpa using checked
  generalize wordValues = entries at plain ⊢
  induction entries with
  | nil => rfl
  | cons entry entries ih =>
    obtain ⟨first, others⟩ := List.forall_mem_cons.1 plain
    obtain ⟨word, v⟩ := entry
    simp only [List.findSome?_cons, dropWord_append_quote p q first]
    cases dropWord word p with
    | none => exact ih others
    | some rest => rfl

/-- The number or word at the head of a text, whatever follows the next quote. -/
theorem scalarToken_append_quote :
    (wordToken (p ++ '"' :: q)).or (numberToken (p ++ '"' :: q)) =
      ((wordToken p).or (numberToken p)).map
        fun (token, n, rest) => (token, n, rest ++ '"' :: q) := by
  rw [wordToken_append_quote, numberToken_append_quote]
  cases wordToken p <;> rfl

end Quote

end ModuleResolution.Json
