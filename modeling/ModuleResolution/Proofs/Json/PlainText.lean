import ModuleResolution.Proofs.Json.Comments

/-!
# What becomes of plain JSON

Nothing has to be removed from a text that is JSON already, without comments and trailing commas.
The pass that removes comments keeps to that, but the one that removes trailing commas looks into
the string literals as well. `plain_of_wellFormed` says what is left of a JSON text: it is JSON
again, its literals have lost every comma that blanks and a closing bracket follow, and it is the
same text exactly if no literal holds such a comma.
-/

set_option autoImplicit false

namespace ModuleResolution.Json.Commented

/-! ## Commas that are lost -/

/-- A text with a comma that blanks and a closing bracket follow. -/
def HidesComma (cs : List Char) : Prop :=
  ∃ front blanks bracket after, cs = front ++ ',' :: (blanks ++ bracket :: after) ∧
    (∀ b ∈ blanks, Text.isBlank b = true) ∧ (bracket = ']' ∨ bracket = '\x7d')

theorem hidesComma_cons {c : Char} {cs : List Char} :
    HidesComma (c :: cs) ↔ (c = ',' ∧ closesNext cs = true) ∨ HidesComma cs := by
  rw [closesNext_eq_true_iff]
  constructor
  · rintro ⟨front, blanks, bracket, after, split, rest⟩
    cases front with
    | nil =>
      obtain ⟨rfl, rfl⟩ := List.cons.inj split
      exact .inl ⟨rfl, blanks, bracket, after, rfl, rest⟩
    | cons d front =>
      obtain ⟨rfl, rfl⟩ := List.cons.inj split
      exact .inr ⟨front, blanks, bracket, after, rfl, rest⟩
  · rintro (⟨rfl, blanks, bracket, after, rfl, rest⟩ | ⟨front, blanks, bracket, after, rfl, rest⟩)
    · exact ⟨[], blanks, bracket, after, rfl, rest⟩
    · exact ⟨c :: front, blanks, bracket, after, rfl, rest⟩

theorem dropTrailingCommas_sublist (cs : List Char) : (dropTrailingCommas cs).Sublist cs := by
  induction cs with
  | nil => exact .slnil
  | cons c cs ih =>
    rw [dropTrailingCommas]
    split
    · exact ih.cons c
    · exact ih.cons_cons c

/-- A text that no comma is removed from. -/
theorem dropTrailingCommas_eq_self_iff {cs : List Char} :
    dropTrailingCommas cs = cs ↔ ¬ HidesComma cs := by
  induction cs with
  | nil =>
    refine iff_of_true rfl ?_
    rintro ⟨front, blanks, bracket, after, split, -⟩
    cases front <;> cases split
  | cons c cs ih =>
    rw [hidesComma_cons, not_or, ← ih, dropTrailingCommas]
    simp only [Bool.and_eq_true, decide_eq_true_eq]
    by_cases lost : c = ',' ∧ closesNext cs = true
    · rw [if_pos lost]
      constructor
      -- a text that has lost a character is shorter
      · intro same
        have shorter := (dropTrailingCommas_sublist cs).length_le
        rw [same, List.length_cons] at shorter
        omega
      · rintro ⟨kept, -⟩
        exact absurd lost kept
    · rw [if_neg lost, List.cons_inj_right]
      exact (and_iff_right lost).symm

theorem dropTrailingCommas_append_quote_eq_self_iff {body cs : List Char} :
    dropTrailingCommas (body ++ '"' :: cs) = body ++ '"' :: cs ↔
      dropTrailingCommas body = body ∧ dropTrailingCommas cs = cs := by
  rw [dropTrailingCommas_append_quote]
  constructor
  · intro same
    have lengths := congrArg List.length same
    simp only [List.length_append, List.length_cons] at lengths
    have front := (dropTrailingCommas_sublist body).length_le
    have back := (dropTrailingCommas_sublist cs).length_le
    exact ⟨(dropTrailingCommas_sublist body).eq_of_length (by omega),
      (dropTrailingCommas_sublist cs).eq_of_length (by omega)⟩
  · rintro ⟨front, back⟩
    rw [front, back]

theorem hexValue_comma : hexValue ',' = none := by decide

/-- A literal that loses commas is a literal still. -/
theorem literalBody_dropTrailingCommas {body : List Char} (inside : LiteralBody body) :
    LiteralBody (dropTrailingCommas body) := by
  induction inside with
  | nil => exact .nil
  | @unicode a b c d code cs digits _ ih =>
    have spelled := digits
    simp only [hexCode, Option.bind_eq_bind, Option.bind_eq_some_iff] at digits
    obtain ⟨_, ha, _, hb, _, hc, _, hd, -⟩ := digits
    have digit {e : Char} {n : Nat} (he : hexValue e = some n) (cs : List Char) :
        dropTrailingCommas (e :: cs) = e :: dropTrailingCommas cs := by
      apply dropTrailingCommas_cons
      intro comma
      rw [comma, hexValue_comma] at he
      cases he
    rw [dropTrailingCommas_cons (by simp), dropTrailingCommas_cons (by simp), digit ha, digit hb,
      digit hc, digit hd]
    exact .unicode spelled ih
  | @escaped c e cs short _ ih =>
    have other : c ≠ ',' := by
      rintro rfl
      cases short
    rw [dropTrailingCommas_cons (by simp), dropTrailingCommas_cons fun h => absurd h other]
    exact .escaped short ih
  | plain quote backslash printable _ ih =>
    rw [dropTrailingCommas]
    split
    · exact ih
    · exact .plain quote backslash printable ih

/-! ## The pieces of a text -/

/-- A piece of a text: a string literal, or a character outside of the literals. -/
inductive Piece where
  | code (c : Char)
  | literal (body : List Char)
  deriving DecidableEq, Repr

/-- The pieces of the text at hand. Of a literal that has been opened, what has been met so far is
given, last character first. -/
def piecesFrom : Option (List Char) → List Char → List Piece
  | none, [] => []
  | none, '"' :: cs => piecesFrom (some []) cs
  | none, c :: cs => .code c :: piecesFrom none cs
  | some met, [] => [.literal met.reverse]
  | some met, '"' :: cs => .literal met.reverse :: piecesFrom none cs
  | some met, '\\' :: c :: cs => piecesFrom (some (c :: '\\' :: met)) cs
  | some met, c :: cs => piecesFrom (some (c :: met)) cs

/-- A text cut into its string literals and the characters outside of them. -/
def pieces (cs : List Char) : List Piece :=
  piecesFrom none cs

/-- What the removal of trailing commas leaves of a piece. -/
def Piece.thinned : Piece → Piece
  | .code c => .code c
  | .literal body => .literal (dropTrailingCommas body)

section Pieces

variable {c : Char} {cs body : List Char}

theorem pieces_cons (quote : c ≠ '"') (cs : List Char) :
    pieces (c :: cs) = .code c :: pieces cs := by
  rw [pieces, piecesFrom]
  · rfl
  · exact quote

theorem piecesFrom_of_pairs (inside : Pairs body) (met cs : List Char) :
    piecesFrom (some met) (body ++ '"' :: cs) = .literal (met.reverse ++ body) :: pieces cs := by
  induction inside generalizing met with
  | nil =>
    rw [List.append_nil]
    rfl
  | pair c _ ih =>
    refine (ih (c :: '\\' :: met)).trans ?_
    simp
  | @single c body quote backslash _ ih =>
    rw [List.cons_append, piecesFrom, ih]
    · simp
    · exact quote
    · simp [backslash]

theorem pieces_literal (inside : LiteralBody body) (cs : List Char) :
    pieces ('"' :: (body ++ '"' :: cs)) = .literal body :: pieces cs :=
  piecesFrom_of_pairs (pairs_of_literalBody inside) [] cs

/-- What stands behind a literal at the head of a legible text is legible, as the text has only one
cut into pieces. -/
theorem legible_of_literal (legible : Legible ('"' :: (body ++ '"' :: cs)))
    (inside : LiteralBody body) : Legible cs := by
  generalize split : '"' :: (body ++ '"' :: cs) = text at legible
  cases legible with
  | nil => cases split
  | code quote => exact absurd (List.cons.inj split).1.symm quote
  | literal inside' rest =>
    have cut := congrArg pieces split
    rw [pieces_literal inside, pieces_literal inside'] at cut
    cases (List.cons.inj cut).1
    cases List.append_cancel_left (List.cons.inj split).2
    exact rest

/-- Outside of the literals nothing is removed from a legible text. -/
theorem pieces_dropTrailingCommas (legible : Legible cs) :
    pieces (dropTrailingCommas cs) = (pieces cs).map Piece.thinned := by
  induction legible with
  | nil => rfl
  | code quote _ comma _ ih =>
    rw [dropTrailingCommas_cons comma, pieces_cons quote, pieces_cons quote, ih]
    rfl
  | literal inside _ ih =>
    rw [dropTrailingCommas_literal, pieces_literal (literalBody_dropTrailingCommas inside),
      pieces_literal inside, ih]
    rfl

theorem dropTrailingCommas_eq_self_iff_of_legible (legible : Legible cs) :
    dropTrailingCommas cs = cs ↔ ∀ body, .literal body ∈ pieces cs → ¬ HidesComma body := by
  induction legible with
  | nil => simp [dropTrailingCommas, pieces, piecesFrom]
  | code quote _ comma _ ih =>
    rw [dropTrailingCommas_cons comma, List.cons_inj_right, ih, pieces_cons quote]
    simp
  | @literal body cs inside _ ih =>
    rw [dropTrailingCommas_cons (by simp), List.cons_inj_right,
      dropTrailingCommas_append_quote_eq_self_iff, ih, dropTrailingCommas_eq_self_iff,
      pieces_literal inside]
    simp

end Pieces

/-! ## The tokens of the text that is left -/

section Tokens

variable {cs : List Char}

/-- Up to the first quote of a legible text nothing is removed. -/
theorem exists_before_quote (legible : Legible cs) :
    ∃ p, dropTrailingCommas p = p ∧ (cs = p ∨ ∃ q, cs = p ++ '"' :: q) := by
  induction legible with
  | nil => exact ⟨[], rfl, .inl rfl⟩
  | literal => exact ⟨[], rfl, .inr ⟨_, rfl⟩⟩
  | @code c cs _ _ comma _ ih =>
    obtain ⟨p, kept, rfl | ⟨q, rfl⟩⟩ := ih
    · exact ⟨c :: cs, by rw [dropTrailingCommas_cons comma, kept], .inl rfl⟩
    · rw [closesNext_append_quote] at comma
      exact ⟨c :: p, by rw [dropTrailingCommas_cons comma, kept], .inr ⟨q, rfl⟩⟩

/-- The number or word at the head of a legible text is there still. -/
theorem scalarToken_dropTrailingCommas {token : Token} {n : Nat} {rest : List Char}
    (legible : Legible cs) (h : (wordToken cs).or (numberToken cs) = some (token, n, rest)) :
    (wordToken (dropTrailingCommas cs)).or (numberToken (dropTrailingCommas cs)) =
      some (token, n, dropTrailingCommas rest) := by
  -- behind a number or a word that nothing is removed from, nothing is removed either
  have kept_rest {p r : List Char} (kept : dropTrailingCommas p = p)
      (found : (wordToken p).or (numberToken p) = some (token, n, r)) :
      dropTrailingCommas r = r := by
    obtain ⟨w, rfl, -, scalar⟩ := (scalarBefore_of_token found).2
    have plain : ',' ∉ w := fun comma => absurd (scalar _ comma) (by decide)
    rw [dropTrailingCommas_append plain] at kept
    exact List.append_cancel_left kept
  obtain ⟨p, kept, rfl | ⟨q, rfl⟩⟩ := exists_before_quote legible
  · rw [kept, h, kept_rest kept h]
  · rw [scalarToken_append_quote] at h
    obtain ⟨⟨token', n', r⟩, found, h⟩ := Option.map_eq_some_iff.1 h
    cases h
    rw [dropTrailingCommas_append_quote, kept, scalarToken_append_quote, found,
      dropTrailingCommas_append_quote, kept_rest kept found]
    rfl

/-- The tokens of a legible text are there still, the strings among them thinned. -/
theorem tokensFrom_dropTrailingCommas {steps steps' : Nat} (pos pos' : Nat) (legible : Legible cs)
    (enough : cs.length ≤ steps) (enough' : (dropTrailingCommas cs).length ≤ steps')
    (readable : ∀ t ∈ tokensFrom steps pos cs, t.token.unlimited.isReadable = true) :
    List.Forall₂ (fun t t' => t.token.Alike t'.token) (tokensFrom steps pos cs)
      (tokensFrom steps' pos' (dropTrailingCommas cs)) := by
  induction steps generalizing pos pos' steps' cs with
  | zero =>
    cases List.eq_nil_of_length_eq_zero (Nat.le_zero.1 enough)
    cases steps' <;> exact .nil
  | succ steps ih =>
    cases legible with
    | nil => cases steps' <;> exact .nil
    | @code c cs quote slash comma rest =>
      have whole := Legible.code quote slash comma rest
      have thinned := dropTrailingCommas_cons comma
      rw [thinned] at enough' ⊢
      obtain ⟨steps', rfl⟩ : ∃ n, steps' = n + 1 := ⟨steps' - 1, by simp at enough'; omega⟩
      simp only [List.length_cons, Nat.add_le_add_iff_right] at enough enough'
      cases headRead_of_isReadable readable with
      | space space read =>
        rw [read] at readable ⊢
        rw [tokensFrom_of_isSpace space]
        exact ih _ _ rest enough enough' readable
      | @mark token space mark read =>
        rw [read] at readable ⊢
        rw [tokensFrom_of_punctuation space mark]
        obtain ⟨-, others⟩ := List.forall_mem_cons.1 readable
        exact .cons (.refl token) (ih _ _ rest enough enough' others)
      | literal is_quote => exact absurd is_quote quote
      | @scalar token n after space mark _ scalar read =>
        have scalar' := scalarToken_dropTrailingCommas whole scalar
        rw [thinned] at scalar'
        rw [read] at readable ⊢
        rw [tokensFrom_of_scalar space mark quote, scalar']
        obtain ⟨-, others⟩ := List.forall_mem_cons.1 readable
        obtain ⟨long, front⟩ := scalarBefore_of_token scalar
        obtain ⟨long', front'⟩ := scalarBefore_of_token scalar'
        have shorter := (front.head long).2
        have shorter' := (front'.head long').2
        exact .cons (.refl token)
          (ih _ _ (whole.behindScalar front) (by omega) (by omega) others)
    | @literal body cs inside rest =>
      have thinned := dropTrailingCommas_literal body cs
      rw [thinned] at enough' ⊢
      obtain ⟨steps', rfl⟩ : ∃ n, steps' = n + 1 := ⟨steps' - 1, by simp at enough'; omega⟩
      simp only [List.length_cons, List.length_append] at enough enough'
      obtain ⟨codes, next, read⟩ := stringFrom_of_literalBody inside pos (pos + 1) cs
      obtain ⟨codes', next', read'⟩ := stringFrom_of_literalBody
        (literalBody_dropTrailingCommas inside) pos' (pos' + 1) (dropTrailingCommas cs)
      rw [tokensFrom_quote, read] at readable ⊢
      rw [tokensFrom_quote, read']
      exact .cons (.text _ _) (ih _ _ rest (by omega) (by omega)
        fun t ht => readable t (List.mem_cons_of_mem _ ht))

end Tokens

/-! ## The text that is left -/

theorem toList_plain_of_legible {s : String} (legible : Legible s.toList) :
    (plain s).toList = dropTrailingCommas s.toList := by
  rw [plain, String.toList_ofList, dropComments_of_legible legible]

/-- A JSON text is JSON still. -/
theorem wellFormed_plain {s : String} (h : WellFormed s) : WellFormed (plain s) := by
  have legible := legible_of_wellFormed h
  obtain ⟨room, v, run⟩ := h
  have readable := State.isReadable_of_run run
  have alike := tokensFrom_dropTrailingCommas 0 0 legible (Nat.le_refl _) (Nat.le_refl _)
    fun t ht => readable ⟨t.position, t.token.unlimited⟩ (List.mem_map_of_mem ht)
  have unlimited : List.Forall₂ (fun t t' : Located => t.token.Alike t'.token)
      ((tokens s.toList).map fun t => ⟨t.position, t.token.unlimited⟩)
      ((tokens (dropTrailingCommas s.toList)).map fun t => ⟨t.position, t.token.unlimited⟩) := by
    rw [List.forall₂_map_left_iff, List.forall₂_map_right_iff]
    exact alike.imp fun t t' same => same.unlimited
  obtain ⟨v', run'⟩ := State.Alike.run (@State.Alike.value [] [] rfl) unlimited run
  exact ⟨room, v', by rw [toList_plain_of_legible legible]; exact run'⟩

/-- What becomes of a JSON text. It is JSON still, and outside of its string literals it is the same
text. From a literal every comma is removed that blanks and a closing bracket follow inside of it,
so that the text is left as it is exactly if no literal holds such a comma. -/
theorem plain_of_wellFormed (s : String) (h : WellFormed s) :
    WellFormed (plain s) ∧
    pieces (plain s).toList = (pieces s.toList).map Piece.thinned ∧
    (plain s = s ↔ ∀ body, .literal body ∈ pieces s.toList → ¬ HidesComma body) := by
  have legible := legible_of_wellFormed h
  have text := toList_plain_of_legible legible
  refine ⟨wellFormed_plain h, ?_, ?_⟩
  · rw [text, pieces_dropTrailingCommas legible]
  · rw [← dropTrailingCommas_eq_self_iff_of_legible legible, ← text, String.toList_inj]

/-- The text of an array with one string, which holds a comma and a closing bracket. -/
theorem plain_of_wellFormed_comma :
    WellFormed "[\",]\"]" ∧ WellFormed (plain "[\",]\"]") ∧
    pieces (plain "[\",]\"]").toList = [.code '[', .literal [']'], .code ']'] ∧
    plain "[\",]\"]" ≠ "[\",]\"]" := by
  have json : WellFormed "[\",]\"]" := ⟨1, .array [.text ",]"], by rfl⟩
  obtain ⟨left, cut, same⟩ := plain_of_wellFormed "[\",]\"]" json
  refine ⟨json, left, cut, ?_⟩
  intro unchanged
  exact same.1 unchanged [',', ']'] (by decide) ⟨[], [], ']', [], rfl, by simp, .inl rfl⟩

/-- Not every JSON text keeps its value. -/
theorem not_plain_keeps_value :
    ¬ ∀ room s v, read room s = .ok v → read room (plain s) = .ok v := by
  intro keeps
  have value : read 1 "[\",]\"]" = .ok (.array [.text ",]"]) := by rfl
  have left : read 1 (plain "[\",]\"]") = .ok (.array [.text "]"]) := by rfl
  rw [keeps _ _ _ value] at left
  exact absurd left (by simp)

end ModuleResolution.Json.Commented
