import Mathlib.Data.List.Chain
import ModuleResolution.Json.Reader

/-!
# Well-formed JSON

`WellFormed` holds of the texts that are JSON, with integers of any length and nested however deep:
the reader takes their tokens if every integer counts as a value and there is room enough. A text
that is read is one of them (`wellFormed_of_read`). What a run of the reader tells about its tokens
is stated here, without the values: all of them can stand in a JSON text
(`State.isReadable_of_run`), none that closes an array or an object stands directly behind a comma
(`State.isChain_of_run`), and which texts the strings hold does not matter for whether the run ends
well (`State.Alike.run`).
-/

set_option autoImplicit false

namespace ModuleResolution.Json

/-! ## Texts that are JSON -/

/-- A token in which an integer of any length counts as a value. -/
def Token.unlimited : Token → Token
  | .oversized _ => .scalar .null
  | token => token

/-- A text that is JSON. Integers may be of any length, also of one that the reader does not
convert, and arrays and objects may be nested however deep. -/
def WellFormed (s : String) : Prop :=
  ∃ room v, (State.value []).run room s.toList.length
    ((tokens s.toList).map fun t => ⟨t.position, t.token.unlimited⟩) = .ok v

/-- A token that can stand in a JSON text. -/
def Token.isReadable : Token → Bool
  | .oversized _ | .broken .. | .unknown => false
  | _ => true

/-- A token that closes an array or an object. -/
def Token.isClosing : Token → Bool
  | .closeBracket | .closeBrace => true
  | _ => false

namespace State

variable {s s' : State} {t : Located} {ts : List Located} {room position : Nat} {v : Value}

/-- Whether there is room for what has been opened last. -/
def Fits (room : Nat) : State → Prop
  | .firstItem stack | .firstName stack => stack.length < room
  | _ => True

theorem within_eq_ok_iff : s.within room = .ok s' ↔ s' = s ∧ s.Fits room := by
  cases s with
  | firstItem stack | firstName stack =>
    by_cases fits : stack.length < room <;> simp [within, Fits, fits, eq_comm]
  | _ => simp [within, Fits, eq_comm]

theorem run_cons_eq_ok :
    s.run room position (t :: ts) = .ok v ↔
      ∃ s', s.step t = .ok s' ∧ s'.Fits room ∧ s'.run room position ts = .ok v := by
  rw [State.run]
  cases s.step t with
  | error stop => simp [bind, Except.bind]
  | ok s' =>
    cases inside : s'.within room with
    | error stop =>
      have full : ¬ s'.Fits room := by
        intro fits
        rw [within_eq_ok_iff.2 ⟨rfl, fits⟩] at inside
        cases inside
      simp [bind, Except.bind, inside, full]
    | ok s'' =>
      obtain ⟨rfl, fits⟩ := within_eq_ok_iff.1 inside
      simp [bind, Except.bind, inside, fits]

/-- In no state is a token taken that cannot stand in a JSON text. -/
theorem isReadable_of_step (h : s.step t = .ok s') : t.token.isReadable = true := by
  obtain ⟨place, token⟩ := t
  by_contra unreadable
  have refused : ∃ stop, s.step ⟨place, token⟩ = .error stop := by
    cases token with
    | oversized | broken | unknown =>
      cases s with
      | afterValue v stack =>
        cases stack with
        | nil => exact ⟨_, rfl⟩
        | cons frame stack => cases frame <;> exact ⟨_, rfl⟩
      | _ => exact ⟨_, rfl⟩
    | _ => exact absurd rfl unreadable
  obtain ⟨stop, refused⟩ := refused
  rw [refused] at h
  cases h

theorem isReadable_of_run (h : s.run room position ts = .ok v) :
    ∀ t ∈ ts, t.token.isReadable = true := by
  induction ts generalizing s with
  | nil => simp
  | cons t ts ih =>
    obtain ⟨next, taken, -, rest⟩ := run_cons_eq_ok.1 h
    exact List.forall_mem_cons.2 ⟨isReadable_of_step taken, ih rest⟩

/-- Behind a comma comes a value or the name of a field. -/
theorem step_comma {place : Nat} (h : s.step ⟨place, .comma⟩ = .ok s') :
    (∃ stack, s' = .value stack) ∨ ∃ done stack, s' = .nextName done stack := by
  cases s with
  | afterValue v stack =>
    cases stack with
    | nil => cases h
    | cons frame stack =>
      cases frame with
      | array done =>
        cases h
        exact .inl ⟨_, rfl⟩
      | object done name =>
        cases h
        exact .inr ⟨_, _, rfl⟩
  | _ => cases h

/-- No array or object is closed directly behind a comma. -/
theorem isClosing_of_comma {a b : Located} (comma : a.token = .comma)
    (h : s.run room position (a :: b :: ts) = .ok v) : b.token.isClosing = false := by
  obtain ⟨place, token⟩ := a
  obtain ⟨next, closing⟩ := b
  cases comma
  obtain ⟨s₁, taken, -, rest⟩ := run_cons_eq_ok.1 h
  obtain ⟨s₂, closed, -⟩ := run_cons_eq_ok.1 rest
  cases closing with
  | closeBracket | closeBrace =>
    rcases step_comma taken with ⟨stack, rfl⟩ | ⟨done, stack, rfl⟩ <;> cases closed
  | _ => rfl

/-- What the tokens of a text that is read keep to. -/
theorem isChain_of_run (h : s.run room position ts = .ok v) :
    ts.IsChain fun a b => a.token = .comma → b.token.isClosing = false := by
  induction ts generalizing s with
  | nil => exact .nil
  | cons a ts ih =>
    cases ts with
    | nil => exact .singleton a
    | cons b ts =>
      obtain ⟨s₁, -, -, rest⟩ := run_cons_eq_ok.1 h
      exact List.isChain_cons_cons.2 ⟨fun comma => isClosing_of_comma comma h, ih rest⟩

end State

theorem Token.unlimited_of_isReadable {t : Token} (h : t.isReadable = true) : t.unlimited = t := by
  cases t with
  | oversized digits => cases h
  | _ => rfl

/-- A text that the reader reads is JSON. -/
theorem wellFormed_of_read {room : Nat} {s : String} {v : Value} (h : read room s = .ok v) :
    WellFormed s := by
  unfold read at h
  cases run : readChars room s.toList with
  | error stop => simp [run, Except.mapError] at h
  | ok w =>
    unfold readChars at run
    split at run
    · cases run
    · have same : ((tokens s.toList).map fun t => (⟨t.position, t.token.unlimited⟩ : Located)) =
          tokens s.toList := by
        refine (List.map_congr_left ?_).trans (List.map_id _)
        intro t ht
        rw [Token.unlimited_of_isReadable (State.isReadable_of_run run t ht), id]
      exact ⟨room, w, by rw [same, run]⟩

/-! ## Runs that differ in the texts of strings -/

/-- Tokens that differ at most in the text of a string. -/
inductive Token.Alike : Token → Token → Prop
  | refl (token : Token) : Alike token token
  | text (s s' : LooseText) : Alike (.text s) (.text s')

theorem Token.Alike.eq_iff {t t' u : Token} (h : Alike t t') (plain : ∀ s, u ≠ .text s) :
    t = u ↔ t' = u := by
  cases h with
  | refl => exact Iff.rfl
  | text s s' => exact ⟨fun eq => absurd eq.symm (plain s), fun eq => absurd eq.symm (plain s')⟩

theorem Token.Alike.unlimited {t t' : Token} (h : Alike t t') : Alike t.unlimited t'.unlimited := by
  cases h with
  | refl => exact .refl _
  | text s s' => exact .text s s'

/-- Whether an open value is an array. -/
def Frame.isArray : Frame → Bool
  | .array _ => true
  | .object _ _ => false

namespace State

/-- Open values of the same kinds, from the innermost one on. -/
abbrev SameKinds (stack stack' : List Frame) : Prop :=
  stack.map Frame.isArray = stack'.map Frame.isArray

/-- States that differ at most in the values and names that have been read. -/
inductive Alike : State → State → Prop
  | value {stack stack' : List Frame} (same : SameKinds stack stack') :
      Alike (.value stack) (.value stack')
  | firstItem {stack stack' : List Frame} (same : SameKinds stack stack') :
      Alike (.firstItem stack) (.firstItem stack')
  | firstName {stack stack' : List Frame} (same : SameKinds stack stack') :
      Alike (.firstName stack) (.firstName stack')
  | nextName {done done' : List (LooseText × Value)} {stack stack' : List Frame}
      (same : SameKinds stack stack') : Alike (.nextName done stack) (.nextName done' stack')
  | colon {done done' : List (LooseText × Value)} {name name' : LooseText}
      {stack stack' : List Frame}
      (same : SameKinds stack stack') : Alike (.colon done name stack) (.colon done' name' stack')
  | afterValue {v v' : Value} {stack stack' : List Frame} (same : SameKinds stack stack') :
      Alike (.afterValue v stack) (.afterValue v' stack')

section Step

variable {stack : List Frame} {done : List (LooseText × Value)} {name : LooseText} {t : Located}

theorem step_firstItem_of_eq (h : t.token = .closeBracket) :
    (firstItem stack).step t = .ok (.afterValue (.array []) stack) := by
  rw [step, h]

theorem step_firstItem_of_ne (h : t.token ≠ .closeBracket) :
    (firstItem stack).step t = State.startValue (.array [] :: stack) t := by
  rw [step]
  split
  · exact absurd ‹_› h
  · rfl

theorem step_firstName_of_eq (h : t.token = .closeBrace) :
    (firstName stack).step t = .ok (.afterValue (.object []) stack) := by
  rw [step, h]

theorem step_firstName_of_ne (h : t.token ≠ .closeBrace) :
    (firstName stack).step t = State.startName [] stack t := by
  rw [step]
  split
  · exact absurd ‹_› h
  · rfl

theorem step_colon_of_eq (h : t.token = .colon) :
    (colon done name stack).step t = .ok (.value (.object done name :: stack)) := by
  rw [step, h]

theorem step_colon_of_ne (h : t.token ≠ .colon) :
    (colon done name stack).step t = .error (.misplaced .colon t.position) := by
  rw [step]
  split
  · exact absurd ‹_› h
  · rfl

end Step

namespace Alike

variable {s s' s₁ : State} {t t' : Located} {ts ts' : List Located} {stack stack' : List Frame}
  {room position position' : Nat} {v : Value}

theorem startValue (kinds : SameKinds stack stack')
    (same : t.token.Alike t'.token) (taken : State.startValue stack t = .ok s₁) :
    ∃ s₂, State.startValue stack' t' = .ok s₂ ∧ Alike s₁ s₂ := by
  obtain ⟨place, token⟩ := t
  obtain ⟨place', token'⟩ := t'
  cases same with
  | refl =>
    cases token with
    | openBrace =>
      cases taken
      exact ⟨_, rfl, .firstName kinds⟩
    | openBracket =>
      cases taken
      exact ⟨_, rfl, .firstItem kinds⟩
    | scalar | text =>
      cases taken
      exact ⟨_, rfl, .afterValue kinds⟩
    | _ => cases taken
  | text s s' =>
    cases taken
    exact ⟨_, rfl, .afterValue kinds⟩

theorem startName {done done' : List (LooseText × Value)}
    (kinds : SameKinds stack stack')
    (same : t.token.Alike t'.token) (taken : State.startName done stack t = .ok s₁) :
    ∃ s₂, State.startName done' stack' t' = .ok s₂ ∧ Alike s₁ s₂ := by
  obtain ⟨place, token⟩ := t
  obtain ⟨place', token'⟩ := t'
  cases same with
  | refl =>
    cases token with
    | text =>
      cases taken
      exact ⟨_, rfl, .colon kinds⟩
    | _ => cases taken
  | text s s' =>
    cases taken
    exact ⟨_, rfl, .colon kinds⟩

theorem afterToken {v v' : Value} (kinds : SameKinds stack stack')
    (same : t.token.Alike t'.token) (taken : State.afterToken v stack t = .ok s₁) :
    ∃ s₂, State.afterToken v' stack' t' = .ok s₂ ∧ Alike s₁ s₂ := by
  obtain ⟨place, token⟩ := t
  obtain ⟨place', token'⟩ := t'
  cases stack with
  | nil => cases taken
  | cons frame stack =>
    cases stack' with
    | nil => cases kinds
    | cons frame' stack' =>
      obtain ⟨kind, below⟩ := List.cons.inj kinds
      cases same with
      | text s s' => cases frame <;> cases taken
      | refl =>
        cases frame <;> cases frame' <;> cases kind <;> cases token <;> cases taken
        · exact ⟨_, rfl, .afterValue below⟩
        · exact ⟨_, rfl, .value (congrArg (true :: ·) below)⟩
        · exact ⟨_, rfl, .afterValue below⟩
        · exact ⟨_, rfl, .nextName below⟩

/-- Alike tokens lead from alike states to alike states. -/
theorem step (h : Alike s s') (same : t.token.Alike t'.token) (taken : s.step t = .ok s₁) :
    ∃ s₂, s'.step t' = .ok s₂ ∧ Alike s₁ s₂ := by
  cases h with
  | value kinds => exact startValue kinds same taken
  | nextName kinds => exact startName kinds same taken
  | afterValue kinds => exact afterToken kinds same taken
  | @firstItem stack stack' kinds =>
    by_cases closing : t.token = .closeBracket
    · rw [step_firstItem_of_eq closing] at taken
      cases taken
      exact ⟨_, step_firstItem_of_eq ((same.eq_iff (by simp)).1 closing), .afterValue kinds⟩
    · rw [step_firstItem_of_ne closing] at taken
      rw [step_firstItem_of_ne (mt (same.eq_iff (by simp)).2 closing)]
      have within : SameKinds (.array [] :: stack) (.array [] :: stack') :=
        congrArg (true :: ·) kinds
      exact startValue within same taken
  | @firstName stack stack' kinds =>
    by_cases closing : t.token = .closeBrace
    · rw [step_firstName_of_eq closing] at taken
      cases taken
      exact ⟨_, step_firstName_of_eq ((same.eq_iff (by simp)).1 closing), .afterValue kinds⟩
    · rw [step_firstName_of_ne closing] at taken
      rw [step_firstName_of_ne (mt (same.eq_iff (by simp)).2 closing)]
      exact startName kinds same taken
  | @colon done done' name name' stack stack' kinds =>
    by_cases mark : t.token = .colon
    · rw [step_colon_of_eq mark] at taken
      cases taken
      have mark' := (same.eq_iff (by simp)).1 mark
      exact ⟨_, step_colon_of_eq mark', .value (congrArg (false :: ·) kinds)⟩
    · rw [step_colon_of_ne mark] at taken
      cases taken

/-- Alike states have the same room. -/
theorem fits (h : Alike s s') (inside : s.Fits room) : s'.Fits room := by
  cases h with
  | firstItem kinds | firstName kinds =>
    have lengths := congrArg List.length kinds
    rw [List.length_map, List.length_map] at lengths
    rw [Fits] at inside ⊢
    omega
  | _ => trivial

theorem finish (h : Alike s s') (ended : s.finish position = .ok v) :
    ∃ v', s'.finish position' = .ok v' := by
  cases h with
  | afterValue kinds =>
    rename_i stack stack'
    cases stack with
    | cons => cases ended
    | nil =>
      cases stack' with
      | nil => exact ⟨_, rfl⟩
      | cons => cases kinds
  | _ => cases ended

/-- Whether a run ends well does not depend on the texts of the strings. -/
theorem run (h : Alike s s') (same : List.Forall₂ (fun t t' => t.token.Alike t'.token) ts ts')
    (ended : s.run room position ts = .ok v) : ∃ v', s'.run room position' ts' = .ok v' := by
  induction same generalizing s s' with
  | nil => exact h.finish ended
  | cons first _ ih =>
    obtain ⟨s₁, taken, inside, rest⟩ := run_cons_eq_ok.1 ended
    obtain ⟨s₂, taken', next⟩ := h.step first taken
    obtain ⟨v', ended'⟩ := ih next rest
    exact ⟨v', run_cons_eq_ok.2 ⟨s₂, taken', next.fits inside, ended'⟩⟩

end Alike

end State

end ModuleResolution.Json
