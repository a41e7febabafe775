import ModuleResolution.Json.Reader

/-!
# Nested JSON

The reader gives up on a text that opens more arrays and objects inside one another than it has room
for. `NestsBeyond` says so of a text without the limit: some of its first tokens can all be read,
and behind them too many arrays and objects are open. Whatever follows does not matter then, and an
earlier fault of the text is reported instead (`exists_tooDeep_iff`). Every limit is exceeded by
some text (`nestsBeyond_openings`).
-/

set_option autoImplicit false

namespace ModuleResolution.Json

namespace State

/-- How many arrays and objects are open. -/
def depth : State → Nat
  | .value stack | .afterValue _ stack => stack.length
  | .firstItem stack | .firstName stack | .nextName _ stack | .colon _ _ stack => stack.length + 1

/-- Whether an array or an object has just been opened. -/
def isOpening : State → Bool
  | .firstItem _ | .firstName _ => true
  | _ => false

/-- The state behind tokens, if all of them can be read; there is no limit to the depth. -/
def after (s : State) : List Located → Except Stop State
  | [] => .ok s
  | t :: ts => do (← s.step t).after ts

variable {s s' : State} {t : Located} {stack : List Frame} {room position : Nat}

/-! ## One token -/

theorem depth_startValue (taken : startValue stack t = .ok s') :
    s'.isOpening = true ∨ s'.depth = stack.length := by
  unfold startValue at taken
  split at taken <;> cases taken
  · exact .inl rfl
  · exact .inl rfl
  · exact .inr rfl
  · exact .inr rfl

theorem depth_startName {done : List (LooseText × Value)}
    (taken : startName done stack t = .ok s') : s'.depth = stack.length + 1 := by
  unfold startName at taken
  split at taken <;> cases taken
  rfl

theorem depth_afterToken {v : Value} (taken : afterToken v stack t = .ok s') :
    s'.depth ≤ stack.length := by
  unfold afterToken at taken
  split at taken
  · cases taken
  · split at taken <;> cases taken
    · exact Nat.le_succ _
    · exact Nat.le_refl _
  · split at taken <;> cases taken
    · exact Nat.le_succ _
    · exact Nat.le_refl _

/-- A token that opens nothing leads no deeper. -/
theorem depth_step (taken : s.step t = .ok s') : s'.isOpening = true ∨ s'.depth ≤ s.depth := by
  cases s with
  | value stack => exact (depth_startValue taken).imp_right Nat.le_of_eq
  | firstItem stack =>
    rw [step] at taken
    split at taken
    · cases taken
      exact .inr (Nat.le_succ _)
    · exact (depth_startValue taken).imp_right Nat.le_of_eq
  | firstName stack =>
    rw [step] at taken
    split at taken
    · cases taken
      exact .inr (Nat.le_succ _)
    · exact .inr (Nat.le_of_eq (depth_startName taken))
  | nextName done stack => exact .inr (Nat.le_of_eq (depth_startName taken))
  | colon done name stack =>
    rw [step] at taken
    split at taken <;> cases taken
    exact .inr (Nat.le_refl _)
  | afterValue v stack => exact .inr (depth_afterToken taken)

/-- No token is itself too deep. -/
theorem step_ne_tooDeep (opening : Opening) : s.step t ≠ .error (.tooDeep opening) := by
  intro refused
  cases s with
  | value stack | firstItem stack | firstName stack | nextName done stack | colon done name stack =>
    simp only [step, startValue, startName] at refused
    repeat' split at refused
    all_goals cases refused
  | afterValue v stack =>
    simp only [step, afterToken] at refused
    repeat' split at refused
    all_goals cases refused

/-- A state is refused exactly if it has just opened something for which there is no room. -/
theorem within_cases (s : State) (room : Nat) :
    (s.within room = .ok s ∧ (s.isOpening = true → s.depth ≤ room)) ∨
      ∃ opening, s.within room = .error (.tooDeep opening) ∧ room < s.depth := by
  cases s with
  | firstItem stack | firstName stack =>
    by_cases fits : stack.length < room
    · exact .inl ⟨by rw [within, if_pos fits], fun _ => fits⟩
    · exact .inr ⟨_, by rw [within, if_neg fits], Nat.lt_succ_of_le (Nat.le_of_not_lt fits)⟩
  | _ => exact .inl ⟨rfl, fun opened => by cases opened⟩

/-! ## All tokens -/

/-- The reader gives up at the first state that is too deep. -/
theorem exists_run_tooDeep_iff {ts : List Located} (shallow : s.depth ≤ room) :
    (∃ opening, s.run room position ts = .error (.tooDeep opening)) ↔
      ∃ before behind s', ts = before ++ behind ∧ s.after before = .ok s' ∧ room < s'.depth := by
  induction ts generalizing s with
  | nil =>
    refine iff_of_false ?_ ?_
    · rintro ⟨opening, ended⟩
      unfold run finish at ended
      split at ended <;> cases ended
    · rintro ⟨before, behind, s', split, led, deep⟩
      obtain ⟨rfl, rfl⟩ := List.append_eq_nil_iff.1 split.symm
      cases led
      omega
  | cons t ts ih =>
    -- a state that is too deep is not the first one
    have later : (∃ before behind s', t :: ts = before ++ behind ∧ s.after before = .ok s' ∧
          room < s'.depth) ↔
        ∃ before behind s', ts = before ++ behind ∧ s.after (t :: before) = .ok s' ∧
          room < s'.depth := by
      constructor
      · rintro ⟨before, behind, s', split, led, deep⟩
        cases before with
        | nil =>
          cases led
          omega
        | cons u before =>
          obtain ⟨rfl, rest⟩ := List.cons.inj split
          exact ⟨before, behind, s', rest, led, deep⟩
      · rintro ⟨before, behind, s', split, led, deep⟩
        exact ⟨t :: before, behind, s', by rw [split, List.cons_append], led, deep⟩
    rw [later, run]
    cases taken : s.step t with
    | error stop =>
      refine iff_of_false ?_ ?_
      · rintro ⟨opening, ended⟩
        cases ended
        exact step_ne_tooDeep opening taken
      · rintro ⟨before, behind, s', -, led, -⟩
        rw [after, taken] at led
        cases led
    | ok next =>
      have led (before : List Located) : s.after (t :: before) = next.after before := by
        rw [after, taken]
        rfl
      simp only [led]
      rcases within_cases next room with ⟨inside, fits⟩ | ⟨opening, refused, deep⟩
      · have shallow' : next.depth ≤ room := by
          rcases depth_step taken with opened | lower
          · exact fits opened
          · exact Nat.le_trans lower shallow
        rw [← ih shallow']
        show (∃ opening, (next.within room >>= fun s => s.run room position ts) = _) ↔ _
        rw [inside]
        rfl
      · refine iff_of_true ⟨opening, ?_⟩ ⟨[], ts, next, rfl, rfl, deep⟩
        show (next.within room >>= fun s => s.run room position ts) = _
        rw [refused]
        rfl

end State

/-! ## Texts -/

/-- A text that opens more arrays and objects inside one another than there is room for, before
anything else is wrong with it. -/
def NestsBeyond (room : Nat) (s : String) : Prop :=
  ∃ before behind state, tokens s.toList = before ++ behind ∧
    (State.value []).after before = .ok state ∧ room < state.depth

/-- A byte order mark is no token, nor does it start one. -/
theorem tokens_byteOrderMark (cs : List Char) : tokens ('\uFEFF' :: cs) = [⟨0, .unknown⟩] := by
  have word : wordToken ('\uFEFF' :: cs) = none := by
    simp [wordToken, wordValues, dropWord]
  have number : numberToken ('\uFEFF' :: cs) = none := by
    simp [numberToken, unsignedNumber, integralDigits]
  rw [tokens, List.length_cons, tokensFrom]
  simp [isSpace, punctuation, word, number]

/-- The reader gives up on exactly the texts that are nested beyond its room. -/
theorem exists_tooDeep_iff (room : Nat) (s : String) :
    (∃ opening, read room s = .error (.tooDeep opening)) ↔ NestsBeyond room s := by
  have located (opening : Opening) : read room s = .error (.tooDeep opening) ↔
      readChars room s.toList = .error (.tooDeep opening) := by
    rw [read]
    cases readChars room s.toList with
    | ok v => exact iff_of_false (fun h => by cases h) (fun h => by cases h)
    | error stop =>
      -- a stop keeps its kind when it is located
      have kind : (Except.error stop : Except Stop Value).mapError (Stop.locate s.toList) =
          .error (stop.locate s.toList) := rfl
      cases stop <;> simp [kind, Stop.locate]
  simp only [located, readChars]
  by_cases mark : s.toList.head? = some '\uFEFF'
  · refine iff_of_false ?_ ?_
    · rintro ⟨opening, ended⟩
      rw [if_pos mark] at ended
      cases ended
    · obtain ⟨cs, chars⟩ := List.head?_eq_some_iff.1 mark
      rintro ⟨before, behind, state, split, led, deep⟩
      rw [chars, tokens_byteOrderMark] at split
      cases before with
      | nil =>
        cases led
        cases deep
      | cons t before =>
        obtain ⟨rfl, -⟩ := List.cons.inj split
        cases led
  · simp only [if_neg mark]
    exact State.exists_run_tooDeep_iff (Nat.zero_le _)

/-! ## A text beyond every limit -/

/-- So many arrays opened inside one another, and nothing else. -/
def openings (count : Nat) : String :=
  String.ofList (List.replicate count '[')

theorem tokensFrom_openings (count pos : Nat) :
    tokensFrom count pos (List.replicate count '[') =
      (List.range' pos count).map (⟨·, .openBracket⟩) := by
  induction count generalizing pos with
  | zero => rfl
  | succ count ih =>
    rw [List.replicate_succ, List.range'_succ, List.map_cons, ← ih]
    rfl

/-- Behind the opening of an array, every further one leads one level deeper. -/
theorem State.after_openings (positions : List Nat) (stack : List Frame) :
    ∃ deeper : List Frame, deeper.length = stack.length + positions.length ∧
      (State.firstItem stack).after (positions.map (⟨·, .openBracket⟩)) =
        .ok (.firstItem deeper) := by
  induction positions generalizing stack with
  | nil => exact ⟨stack, rfl, rfl⟩
  | cons position positions ih =>
    obtain ⟨deeper, length, led⟩ := ih (.array [] :: stack)
    refine ⟨deeper, ?_, led⟩
    rw [length, List.length_cons, List.length_cons]
    omega

theorem nestsBeyond_openings (room : Nat) : NestsBeyond room (openings (room + 1)) := by
  obtain ⟨deeper, length, led⟩ := State.after_openings (List.range' 1 room) []
  refine ⟨(List.range' 0 (room + 1)).map (⟨·, .openBracket⟩), [], .firstItem deeper, ?_, led, ?_⟩
  · rw [openings, String.toList_ofList, tokens, List.length_replicate, tokensFrom_openings,
      List.append_nil]
  · rw [State.depth, length, List.length_range']
    simp

end ModuleResolution.Json
