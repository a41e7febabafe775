import Mathlib.Data.List.Chain
import ModuleResolution.Json.Commented
import ModuleResolution.Proofs.Json.Scalar
import ModuleResolution.Proofs.Json.WellFormed

/-!
# JSON texts cut at their string literals

`LiteralBody` says what may stand between the quotes of a string literal; the reader takes a literal
to its end exactly if that holds (`literalBody_of_stringFrom`, `stringFrom_of_literalBody`). A text
is `Legible` if it is made of literals and of other characters that open neither a literal nor a
comment, with no comma before a closing bracket among them. Every JSON text is
(`legible_of_wellFormed`): this is all that the removal of comments and trailing commas depends on.
-/

set_option autoImplicit false

namespace ModuleResolution.Json

/-! ## String literals -/

/-- What stands between the quotes of a string literal. -/
inductive LiteralBody : List Char → Prop
  | nil : LiteralBody []
  | unicode {a b c d : Char} {code : Nat} {cs : List Char} (digits : hexCode a b c d = some code)
      (rest : LiteralBody cs) : LiteralBody ('\\' :: 'u' :: a :: b :: c :: d :: cs)
  | escaped {c e : Char} {cs : List Char} (short : shortEscape c = some e)
      (rest : LiteralBody cs) : LiteralBody ('\\' :: c :: cs)
  | plain {c : Char} {cs : List Char} (quote : c ≠ '"') (backslash : c ≠ '\\')
      (printable : ¬ c.toNat < 0x20) (rest : LiteralBody cs) : LiteralBody (c :: cs)

theorem StringRead.cons_eq_ok {code : Nat} {r : StringRead} {codes : List Nat}
    {found : Nat × List Char} :
    StringRead.cons code r = .ok (codes, found) ↔
      ∃ tail, r = .ok (tail, found) ∧ codes = code :: tail := by
  cases r with
  | error fault => simp [StringRead.cons, Except.map]
  | ok read =>
    simp only [StringRead.cons, Except.map, Except.ok.injEq, Prod.ext_iff]
    grind

section Read

variable {start pos : Nat} {cs rest body : List Char}

theorem literalBody_of_stringFrom {codes : List Nat} {next : Nat}
    (h : stringFrom start pos cs = .ok (codes, next, rest)) :
    ∃ body, cs = body ++ '"' :: rest ∧ LiteralBody body := by
  fun_induction stringFrom start pos cs generalizing codes with
  | case2 pos cs =>
    cases h
    exact ⟨[], rfl, .nil⟩
  | case5 pos a b c d cs code hex ih =>
    obtain ⟨tail, read, -⟩ := StringRead.cons_eq_ok.1 h
    obtain ⟨body, rfl, inside⟩ := ih read
    have digits : hexCode a b c d = some code := by
      split at hex
      · cases hex
      · exact hex
    exact ⟨_, rfl, .unicode digits inside⟩
  | case7 pos c cs _ _ e short ih =>
    obtain ⟨tail, read, -⟩ := StringRead.cons_eq_ok.1 h
    obtain ⟨body, rfl, inside⟩ := ih read
    exact ⟨_, rfl, .escaped short inside⟩
  | case10 pos c cs quote _ _ _ escape printable ih =>
    obtain ⟨tail, read, -⟩ := StringRead.cons_eq_ok.1 h
    obtain ⟨body, rfl, inside⟩ := ih read
    -- a backslash with a character behind it is no plain character
    have backslash : c ≠ '\\' := by
      intro backslash
      cases body with
      | nil => exact escape _ _ backslash rfl
      | cons d body => exact escape _ _ backslash rfl
    exact ⟨c :: body, rfl, .plain quote backslash printable inside⟩
  | _ => cases h

theorem stringFrom_of_literalBody (inside : LiteralBody body) (start pos : Nat)
    (rest : List Char) :
    ∃ codes next, stringFrom start pos (body ++ '"' :: rest) = .ok (codes, next, rest) := by
  induction inside generalizing pos with
  | nil => exact ⟨_, _, rfl⟩
  | @unicode a b c d code cs digits _ ih =>
    obtain ⟨codes, next, read⟩ := ih (pos + 6)
    have behind : (cs ++ '"' :: rest).isEmpty = false := by simp
    refine ⟨code :: codes, next, ?_⟩
    simp only [List.cons_append, stringFrom, behind, digits, read]
    rfl
  | @escaped c e cs short _ ih =>
    obtain ⟨codes, next, read⟩ := ih (pos + 2)
    have other : c ≠ 'u' := by
      rintro rfl
      cases short
    refine ⟨e.toNat :: codes, next, ?_⟩
    rw [List.cons_append, List.cons_append, stringFrom, short, read]
    · rfl
    · exact fun _ _ _ _ _ h => absurd h other
    · exact other
  | @plain c cs quote backslash printable _ ih =>
    obtain ⟨codes, next, read⟩ := ih (pos + 1)
    refine ⟨c.toNat :: codes, next, ?_⟩
    rw [List.cons_append, stringFrom, if_neg printable, read]
    · rfl
    · exact quote
    all_goals simp [backslash]

end Read

/-! ## Texts cut at their string literals -/

open Commented (closesNext)

/-- A text of string literals and, outside of them, of characters that open no comment. No comma
outside of the literals stands before a closing bracket. -/
inductive Legible : List Char → Prop
  | nil : Legible []
  | code {c : Char} {cs : List Char} (quote : c ≠ '"') (slash : c ≠ '/')
      (comma : c = ',' → closesNext cs = false) (rest : Legible cs) : Legible (c :: cs)
  | literal {body cs : List Char} (inside : LiteralBody body) (rest : Legible cs) :
      Legible ('"' :: (body ++ '"' :: cs))

theorem Legible.code_inv {c : Char} {cs : List Char} (legible : Legible (c :: cs))
    (quote : c ≠ '"') : c ≠ '/' ∧ (c = ',' → closesNext cs = false) ∧ Legible cs := by
  generalize split : c :: cs = text at legible
  cases legible with
  | nil => cases split
  | code _ slash comma rest =>
    obtain ⟨rfl, rfl⟩ := List.cons.inj split
    exact ⟨slash, comma, rest⟩
  | literal => exact absurd (List.cons.inj split).1 quote

theorem Legible.scalarBefore {n : Nat} {cs rest : List Char} (h : ScalarBefore n cs rest)
    (legible : Legible rest) : Legible cs := by
  obtain ⟨w, rfl, rfl, scalar⟩ := h
  induction w with
  | nil => exact legible
  | cons c w ih =>
    obtain ⟨first, others⟩ := List.forall_mem_cons.1 scalar
    apply Legible.code (ne_of_class first (by decide)) (ne_of_class first (by decide))
    · intro comma
      exact absurd comma (ne_of_class first (by decide))
    · exact ih others

/-- Behind characters that are no quotes a legible text is legible. -/
theorem Legible.of_append {w rest : List Char} (plain : '"' ∉ w) (legible : Legible (w ++ rest)) :
    Legible rest := by
  induction w with
  | nil => exact legible
  | cons c w ih =>
    simp only [List.mem_cons, not_or] at plain
    exact ih plain.2 (legible.code_inv (Ne.symm plain.1)).2.2

theorem Legible.behindScalar {n : Nat} {cs rest : List Char} (legible : Legible cs)
    (h : ScalarBefore n cs rest) : Legible rest := by
  obtain ⟨w, rfl, rfl, scalar⟩ := h
  exact legible.of_append fun quoted => absurd (scalar _ quoted) (by decide)

/-! ## The tokens of a text -/

section TokensFrom

variable {steps pos : Nat} {c : Char} {cs : List Char}

theorem tokensFrom_of_isSpace (space : isSpace c = true) :
    tokensFrom (steps + 1) pos (c :: cs) = tokensFrom steps (pos + 1) cs := by
  rw [tokensFrom, if_pos space]

theorem tokensFrom_of_punctuation (space : isSpace c = false) {token : Token}
    (mark : punctuation c = some token) :
    tokensFrom (steps + 1) pos (c :: cs) = ⟨pos, token⟩ :: tokensFrom steps (pos + 1) cs := by
  rw [tokensFrom, space, mark]
  rfl

theorem tokensFrom_quote :
    tokensFrom (steps + 1) pos ('"' :: cs) =
      match stringFrom pos (pos + 1) cs with
      | .ok (codes, next, rest) =>
        ⟨pos, .text ⟨joinHalves codes⟩⟩ :: tokensFrom steps next rest
      | .error (fault, place) => [⟨pos, .broken fault place⟩] :=
  rfl

theorem tokensFrom_of_scalar (space : isSpace c = false) (mark : punctuation c = none)
    (quote : c ≠ '"') :
    tokensFrom (steps + 1) pos (c :: cs) =
      match (wordToken (c :: cs)).or (numberToken (c :: cs)) with
      | some (token, length, rest) => ⟨pos, token⟩ :: tokensFrom steps (pos + length) rest
      | none => [⟨pos, .unknown⟩] := by
  rw [tokensFrom, space, mark, if_neg quote]
  rfl

/-- A blank that is no white space of JSON starts no token. -/
theorem tokensFrom_of_isBlank (space : isSpace c = false) (blank : Text.isBlank c = true) :
    tokensFrom (steps + 1) pos (c :: cs) = [⟨pos, .unknown⟩] := by
  have mark : punctuation c = none := by
    unfold punctuation
    split
    case h_7 => rfl
    all_goals cases blank
  have scalar : (wordToken (c :: cs)).or (numberToken (c :: cs)) = none := by
    rw [Option.eq_none_iff_forall_ne_some]
    rintro ⟨token, n, rest⟩ h
    obtain ⟨long, front⟩ := scalarBefore_of_token h
    have first := (front.head long).1
    rw [isScalarChar_of_isBlank blank] at first
    cases first
  rw [tokensFrom_of_scalar space mark (ne_of_class blank (by decide)), scalar]

/-- Where the next character that is not blank closes an array or an object, so does the next token,
unless it is none. -/
theorem tokensFrom_of_closesNext (pos : Nat) (enough : cs.length ≤ steps)
    (h : closesNext cs = true) :
    ∃ t ts, tokensFrom steps pos cs = t :: ts ∧
      (t.token.isClosing = true ∨ t.token = .unknown) := by
  induction cs generalizing steps pos with
  | nil => cases h
  | cons c cs ih =>
    obtain ⟨steps, rfl⟩ : ∃ n, steps = n + 1 := ⟨steps - 1, by simp at enough; omega⟩
    simp only [closesNext, Bool.or_eq_true, Bool.and_eq_true, decide_eq_true_eq] at h
    rcases h with (rfl | rfl) | ⟨blank, h⟩
    · exact ⟨_, _, rfl, .inl rfl⟩
    · exact ⟨_, _, rfl, .inl rfl⟩
    · cases space : isSpace c with
      | true =>
        rw [tokensFrom_of_isSpace space]
        exact ih (pos + 1) (by simpa using enough) h
      | false => exact ⟨_, _, tokensFrom_of_isBlank space blank, .inr rfl⟩

theorem closesNext_eq_false (pos : Nat) (enough : cs.length ≤ steps)
    (readable : ∀ t ∈ tokensFrom steps pos cs, t.token.unlimited.isReadable = true)
    (first : ∀ t ∈ (tokensFrom steps pos cs).head?, t.token.isClosing = false) :
    closesNext cs = false := by
  by_contra closes
  obtain ⟨t, ts, next, h⟩ := tokensFrom_of_closesNext pos enough (Bool.not_eq_false _ ▸ closes)
  rw [next] at readable first
  rcases h with closing | unknown
  · rw [first t rfl] at closing
    cases closing
  · have sound := readable t List.mem_cons_self
    rw [unknown] at sound
    cases sound

/-- What the reader of tokens does at the head of a text that it can read: white space is left out,
and a punctuation mark, a string literal, or a number or word gives a token. -/
inductive HeadRead (steps pos : Nat) (c : Char) (cs : List Char) : Prop
  | space (space : isSpace c = true)
      (read : tokensFrom (steps + 1) pos (c :: cs) = tokensFrom steps (pos + 1) cs) :
      HeadRead steps pos c cs
  | mark {token : Token} (space : isSpace c = false) (mark : punctuation c = some token)
      (read : tokensFrom (steps + 1) pos (c :: cs) =
        ⟨pos, token⟩ :: tokensFrom steps (pos + 1) cs) :
      HeadRead steps pos c cs
  | literal {body rest : List Char} {next : Nat} {text : LooseText} (quote : c = '"')
      (split : cs = body ++ '"' :: rest) (inside : LiteralBody body)
      (read : tokensFrom (steps + 1) pos (c :: cs) =
        ⟨pos, .text text⟩ :: tokensFrom steps next rest) :
      HeadRead steps pos c cs
  | scalar {token : Token} {n : Nat} {rest : List Char} (space : isSpace c = false)
      (mark : punctuation c = none) (quote : c ≠ '"')
      (scalar : (wordToken (c :: cs)).or (numberToken (c :: cs)) = some (token, n, rest))
      (read : tokensFrom (steps + 1) pos (c :: cs) =
        ⟨pos, token⟩ :: tokensFrom steps (pos + n) rest) :
      HeadRead steps pos c cs

theorem headRead_of_isReadable
    (readable : ∀ t ∈ tokensFrom (steps + 1) pos (c :: cs), t.token.unlimited.isReadable = true) :
    HeadRead steps pos c cs := by
  cases space : isSpace c with
  | true => exact .space space (tokensFrom_of_isSpace space)
  | false =>
    cases mark : punctuation c with
    | some token => exact .mark space mark (tokensFrom_of_punctuation space mark)
    | none =>
      by_cases quote : c = '"'
      · subst quote
        have read := @tokensFrom_quote steps pos cs
        cases literal : stringFrom pos (pos + 1) cs with
        | error found =>
          rw [read, literal] at readable
          cases readable _ List.mem_cons_self
        | ok found =>
          obtain ⟨codes, next, rest⟩ := found
          obtain ⟨body, split, inside⟩ := literalBody_of_stringFrom literal
          rw [literal] at read
          exact .literal rfl split inside read
      · have read := @tokensFrom_of_scalar steps pos c cs space mark quote
        cases scalar : (wordToken (c :: cs)).or (numberToken (c :: cs)) with
        | none =>
          rw [read, scalar] at readable
          cases readable _ List.mem_cons_self
        | some found =>
          rw [scalar] at read
          exact .scalar space mark quote scalar read

/-- A text whose tokens can stand in a JSON text, none of them a closing one behind a comma, is
legible. -/
theorem legible_of_tokensFrom (pos : Nat) (enough : cs.length ≤ steps)
    (readable : ∀ t ∈ tokensFrom steps pos cs, t.token.unlimited.isReadable = true)
    (chain : (tokensFrom steps pos cs).IsChain
      fun a b => a.token = .comma → b.token.isClosing = false) : Legible cs := by
  induction steps generalizing pos cs with
  | zero =>
    rw [List.eq_nil_of_length_eq_zero (Nat.le_zero.1 enough)]
    exact .nil
  | succ steps ih =>
    cases cs with
    | nil => exact .nil
    | cons c cs =>
      have shorter : cs.length ≤ steps := by simpa using enough
      cases headRead_of_isReadable readable with
      | space space read =>
        rw [read] at readable chain
        apply Legible.code (ne_of_class space (by decide)) (ne_of_class space (by decide))
        · intro comma
          exact absurd comma (ne_of_class space (by decide))
        · exact ih (pos + 1) shorter readable chain
      | @mark token _ mark read =>
        rw [read] at readable chain
        obtain ⟨-, others⟩ := List.forall_mem_cons.1 readable
        obtain ⟨apart, chain⟩ := List.isChain_cons.1 chain
        have differs {d : Char} (h : punctuation d = none) : c ≠ d := by
          rintro rfl
          rw [mark] at h
          cases h
        apply Legible.code (differs rfl) (differs rfl)
        · intro comma
          subst comma
          cases mark
          exact closesNext_eq_false (pos + 1) shorter others fun t ht => apart t ht rfl
        · exact ih (pos + 1) shorter others chain
      | @literal body rest next _ quote split inside read =>
        subst quote split
        rw [read] at readable chain
        obtain ⟨-, others⟩ := List.forall_mem_cons.1 readable
        simp only [List.length_append, List.length_cons] at shorter
        exact .literal inside (ih next (by omega) others chain.of_cons)
      | @scalar _ n rest _ _ _ scalar read =>
        rw [read] at readable chain
        obtain ⟨-, others⟩ := List.forall_mem_cons.1 readable
        obtain ⟨long, front⟩ := scalarBefore_of_token scalar
        have taken := (front.head long).2
        exact .scalarBefore front (ih (pos + n) (by omega) others chain.of_cons)

/-- A text that is JSON is legible. -/
theorem legible_of_wellFormed {s : String} (h : WellFormed s) : Legible s.toList := by
  obtain ⟨room, v, run⟩ := h
  have readable := State.isReadable_of_run run
  have chain := State.isChain_of_run run
  apply legible_of_tokensFrom 0 (Nat.le_refl _)
  · intro t ht
    exact readable ⟨t.position, t.token.unlimited⟩ (List.mem_map_of_mem ht)
  · rw [List.isChain_map] at chain
    apply chain.imp
    intro a b h comma
    have closing := h (by rw [comma]; rfl)
    cases hb : b.token with
    | closeBracket | closeBrace =>
      rw [hb] at closing
      cases closing
    | _ => rfl

end TokensFrom

end ModuleResolution.Json
