import ModuleResolution.Proofs.Json.Literal

/-!
# The two passes over a text with comments

What the pass that removes comments and the pass that removes trailing commas do, piece by piece.
The first one knows literals: it copies them (`dropComments_literal`), skips comments
(`dropComments_block`, `dropComments_line`) and leaves a legible text as it is
(`dropComments_of_legible`). The second one knows none. It drops a comma exactly if blanks and a
closing bracket follow (`closesNext_eq_true_iff`), and a quote is a bound that it does not look
across (`dropTrailingCommas_append_quote`).
-/

set_option autoImplicit false

namespace ModuleResolution.Json.Commented

/-! ## Comments -/

/-- The inside of a literal as the removal of comments sees it: a backslash takes the next character
along, and no other character is a quote. -/
inductive Pairs : List Char → Prop
  | nil : Pairs []
  | pair (c : Char) {cs : List Char} (rest : Pairs cs) : Pairs ('\\' :: c :: cs)
  | single {c : Char} {cs : List Char} (quote : c ≠ '"') (backslash : c ≠ '\\')
      (rest : Pairs cs) : Pairs (c :: cs)

theorem pairs_of_literalBody {body : List Char} (inside : LiteralBody body) : Pairs body := by
  induction inside with
  | nil => exact .nil
  | @unicode a b c d code cs digits _ ih =>
    simp only [hexCode, Option.bind_eq_bind, Option.bind_eq_some_iff] at digits
    obtain ⟨_, ha, _, hb, _, hc, _, hd, -⟩ := digits
    have digit {e : Char} {n : Nat} (he : hexValue e = some n) {cs : List Char} (h : Pairs cs) :
        Pairs (e :: cs) := by
      refine .single ?_ ?_ h <;> rintro rfl <;> cases he
    exact .pair 'u' (digit ha (digit hb (digit hc (digit hd ih))))
  | escaped _ _ ih => exact .pair _ ih
  | plain quote backslash _ _ ih => exact .single quote backslash ih

section Comments

variable {c : Char} {cs body : List Char}

theorem closesString_of_pairs (inside : Pairs body) (cs : List Char) :
    closesString (body ++ '"' :: cs) = true := by
  induction inside with
  | nil => rfl
  | pair c _ ih => exact ih
  | single quote backslash _ ih =>
    rw [List.cons_append, closesString]
    · exact ih
    · exact quote
    · simp [backslash]
    · simp [backslash]

theorem dropCommentsFrom_string (inside : Pairs body) (cs : List Char) :
    dropCommentsFrom .string (body ++ '"' :: cs) = body ++ '"' :: dropComments cs := by
  induction inside with
  | nil => rfl
  | pair c _ ih => exact congrArg ('\\' :: c :: ·) ih
  | single quote backslash _ ih =>
    rw [List.cons_append, dropCommentsFrom, ih]
    · rfl
    · exact quote
    · simp [backslash]

/-- A literal is copied, whatever it holds. -/
theorem dropComments_literal (inside : LiteralBody body) (cs : List Char) :
    dropComments ('"' :: (body ++ '"' :: cs)) = '"' :: (body ++ '"' :: dropComments cs) := by
  have pairs := pairs_of_literalBody inside
  rw [dropComments, dropCommentsFrom, if_pos (closesString_of_pairs pairs cs),
    dropCommentsFrom_string pairs]

theorem dropComments_cons (quote : c ≠ '"') (slash : c ≠ '/') (cs : List Char) :
    dropComments (c :: cs) = c :: dropComments cs := by
  rw [dropComments, dropCommentsFrom]
  · rfl
  · exact quote
  · simp [slash]
  · simp [slash]

theorem dropComments_of_legible (legible : Legible cs) : dropComments cs = cs := by
  induction legible with
  | nil => rfl
  | code quote slash _ _ ih => rw [dropComments_cons quote slash, ih]
  | literal inside _ ih => rw [dropComments_literal inside, ih]

theorem closesComment_cons (h : closesComment cs = true) : closesComment (c :: cs) = true := by
  unfold closesComment
  split
  · rfl
  · rename_i split
    cases split
    exact h
  · rename_i split
    cases split

theorem closesComment_append (body cs : List Char) :
    closesComment (body ++ '*' :: '/' :: cs) = true := by
  induction body with
  | nil => rfl
  | cons c body ih => exact closesComment_cons ih

theorem dropCommentsFrom_block (body_open : ¬ ['*', '/'] <:+: body) (cs : List Char) :
    dropCommentsFrom .blockComment (body ++ '*' :: '/' :: cs) = dropComments cs := by
  induction body with
  | nil => rfl
  | cons c body ih =>
    have rest := ih fun h => body_open (h.trans (List.suffix_cons c body).isInfix)
    -- the end of the comment is not in front: that would close it inside the body
    have within (after : List Char) (star : c = '*') : body ++ '*' :: '/' :: cs ≠ '/' :: after := by
      subst star
      intro front
      cases body with
      | nil => cases front
      | cons d body =>
        obtain ⟨rfl, -⟩ := List.cons.inj front
        exact body_open ⟨[], body, rfl⟩
    rw [List.cons_append, dropCommentsFrom]
    · exact rest
    · exact within

/-- A block comment leaves nothing behind. -/
theorem dropComments_block (body_open : ¬ ['*', '/'] <:+: body) (cs : List Char) :
    dropComments ('/' :: '*' :: (body ++ '*' :: '/' :: cs)) = dropComments cs := by
  rw [dropComments, dropCommentsFrom, if_pos (closesComment_append body cs),
    dropCommentsFrom_block body_open]

theorem dropCommentsFrom_line (one_line : '\n' ∉ body) (cs : List Char) :
    dropCommentsFrom .lineComment (body ++ '\n' :: cs) = '\n' :: dropComments cs := by
  induction body with
  | nil => rfl
  | cons c body ih =>
    simp only [List.mem_cons, not_or] at one_line
    rw [List.cons_append, dropCommentsFrom]
    · exact ih one_line.2
    · exact Ne.symm one_line.1

/-- Of a line comment the line end stays. -/
theorem dropComments_line (one_line : '\n' ∉ body) (cs : List Char) :
    dropComments ('/' :: '/' :: (body ++ '\n' :: cs)) = '\n' :: dropComments cs :=
  dropCommentsFrom_line one_line cs

theorem dropComments_lastLine (one_line : '\n' ∉ body) :
    dropComments ('/' :: '/' :: body) = [] := by
  show dropCommentsFrom .lineComment body = []
  induction body with
  | nil => rfl
  | cons c body ih =>
    simp only [List.mem_cons, not_or] at one_line
    rw [dropCommentsFrom]
    · exact ih one_line.2
    · exact Ne.symm one_line.1

end Comments

/-! ## Trailing commas -/

section Commas

variable {c : Char} {cs : List Char}

theorem closesNext_eq_true_iff :
    closesNext cs = true ↔ ∃ blanks bracket after, cs = blanks ++ bracket :: after ∧
      (∀ b ∈ blanks, Text.isBlank b = true) ∧ (bracket = ']' ∨ bracket = '\x7d') := by
  induction cs with
  | nil => simp [closesNext]
  | cons c cs ih =>
    simp only [closesNext, Bool.or_eq_true, Bool.and_eq_true, decide_eq_true_eq, ih]
    constructor
    · rintro ((rfl | rfl) | ⟨blank, blanks, bracket, after, rfl, all, closing⟩)
      · exact ⟨[], _, cs, rfl, by simp, .inr rfl⟩
      · exact ⟨[], _, cs, rfl, by simp, .inl rfl⟩
      · exact ⟨c :: blanks, bracket, after, rfl, List.forall_mem_cons.2 ⟨blank, all⟩, closing⟩
    · rintro ⟨blanks, bracket, after, split, all, closing⟩
      cases blanks with
      | nil =>
        obtain ⟨rfl, rfl⟩ := List.cons.inj split
        exact .inl closing.symm
      | cons b blanks =>
        obtain ⟨rfl, rfl⟩ := List.cons.inj split
        obtain ⟨blank, all⟩ := List.forall_mem_cons.1 all
        exact .inr ⟨blank, blanks, bracket, after, rfl, all, closing⟩

theorem closesNext_append_quote (cs rest : List Char) :
    closesNext (cs ++ '"' :: rest) = closesNext cs := by
  induction cs with
  | nil => rfl
  | cons c cs ih => simp only [List.cons_append, closesNext, ih]

theorem dropTrailingCommas_append_quote (cs rest : List Char) :
    dropTrailingCommas (cs ++ '"' :: rest) =
      dropTrailingCommas cs ++ '"' :: dropTrailingCommas rest := by
  induction cs with
  | nil => rfl
  | cons c cs ih =>
    simp only [List.cons_append, dropTrailingCommas, closesNext_append_quote, ih]
    split <;> rfl

/-- A character other than a comma before a closing bracket stays. -/
theorem dropTrailingCommas_cons (comma : c = ',' → closesNext cs = false) :
    dropTrailingCommas (c :: cs) = c :: dropTrailingCommas cs := by
  rw [dropTrailingCommas, if_neg]
  rw [Bool.and_eq_true, decide_eq_true_eq]
  rintro ⟨rfl, closes⟩
  rw [comma rfl] at closes
  cases closes

/-- Characters that are no commas stay, whatever follows them. -/
theorem dropTrailingCommas_append {w : List Char} (plain : ',' ∉ w) (cs : List Char) :
    dropTrailingCommas (w ++ cs) = w ++ dropTrailingCommas cs := by
  induction w with
  | nil => rfl
  | cons c w ih =>
    simp only [List.mem_cons, not_or] at plain
    have other : c ≠ ',' := Ne.symm plain.1
    rw [List.cons_append, dropTrailingCommas_cons fun comma => absurd comma other, ih plain.2]
    rfl

theorem dropTrailingCommas_literal (body cs : List Char) :
    dropTrailingCommas ('"' :: (body ++ '"' :: cs)) =
      '"' :: (dropTrailingCommas body ++ '"' :: dropTrailingCommas cs) := by
  rw [dropTrailingCommas_cons (by simp), dropTrailingCommas_append_quote]

end Commas

end ModuleResolution.Json.Commented
