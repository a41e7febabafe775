import ModuleResolution.Proofs.Json.PlainText

/-!
# JSON decorated with comments and trailing commas

`Decorated t d` holds if `d` is the text `t` with comments and trailing commas inserted: block
comments anywhere outside of the string literals, line comments directly before a line end or at the
end of the text, and a comma where only white space, itself with comments, stands before a closing
bracket. `plain_of_decorated` states that `plain` undoes the decorations of a JSON text.

The commas of the text itself are the delicate ones. A comment that is removed must not bring one of
them before a bracket: `DecorationRemoved` carries along that the decorated text closes an array or
an object only where the other one does.
-/

set_option autoImplicit false

namespace ModuleResolution.Json.Commented

/-! ## Insertions -/

/-- White space, and the same white space with comments inserted: block comments anywhere, line
comments directly before a line end. -/
inductive Padded : List Char → List Char → Prop
  | nil : Padded [] []
  | space {c : Char} {g g' : List Char} (space : isSpace c = true) (rest : Padded g g') :
      Padded (c :: g) (c :: g')
  | block {body g g' : List Char} (body_open : ¬ ['*', '/'] <:+: body) (rest : Padded g g') :
      Padded g ('/' :: '*' :: (body ++ '*' :: '/' :: g'))
  | line {body g g' : List Char} (one_line : '\n' ∉ body) (rest : Padded g g') :
      Padded ('\n' :: g) ('/' :: '/' :: (body ++ '\n' :: g'))

/-- A text, and the same text with comments and trailing commas inserted outside of the string
literals. -/
inductive Decorated : List Char → List Char → Prop
  | nil : Decorated [] []
  | lastLine {body : List Char} (one_line : '\n' ∉ body) : Decorated [] ('/' :: '/' :: body)
  | gap {g g' t d : List Char} (padded : Padded g g') (rest : Decorated t d) :
      Decorated (g ++ t) (g' ++ d)
  | code {c : Char} {t d : List Char} (quote : c ≠ '"') (rest : Decorated t d) :
      Decorated (c :: t) (c :: d)
  | literal {body t d : List Char} (inside : LiteralBody body) (rest : Decorated t d) :
      Decorated ('"' :: (body ++ '"' :: t)) ('"' :: (body ++ '"' :: d))
  | comma {c : Char} {g g' t d : List Char} (padded : Padded g g') (closing : c = ']' ∨ c = '\x7d')
      (rest : Decorated t d) : Decorated (g ++ c :: t) (',' :: (g' ++ c :: d))

/-! ## White space -/

section Padded

variable {g g' cs : List Char}

theorem isSpace_of_padded (padded : Padded g g') : ∀ c ∈ g, isSpace c = true := by
  induction padded with
  | nil => simp
  | space space _ ih => exact List.forall_mem_cons.2 ⟨space, ih⟩
  | block _ _ ih => exact ih
  | line _ _ ih => exact List.forall_mem_cons.2 ⟨rfl, ih⟩

theorem isBlank_of_isSpace {c : Char} (space : isSpace c = true) : Text.isBlank c = true := by
  simp only [isSpace, Bool.or_eq_true, decide_eq_true_eq] at space
  rcases space with ((rfl | rfl) | rfl) | rfl <;> decide

/-- Of white space with comments the white space stays. -/
theorem dropComments_padded (padded : Padded g g') (cs : List Char) :
    dropComments (g' ++ cs) = g ++ dropComments cs := by
  induction padded with
  | nil => rfl
  | @space c g g' space _ ih =>
    rw [List.cons_append, dropComments_cons (ne_of_class space (by decide))
      (ne_of_class space (by decide)), ih]
    rfl
  | @block body g g' body_open _ ih =>
    have read := dropComments_block body_open (g' ++ cs)
    simpa using read.trans ih
  | @line body g g' one_line _ ih =>
    have read := dropComments_line one_line (g' ++ cs)
    rw [ih] at read
    simpa using read

theorem closesNext_of_isSpace (space : ∀ c ∈ g, isSpace c = true) (cs : List Char) :
    closesNext (g ++ cs) = closesNext cs := by
  induction g with
  | nil => rfl
  | cons c g ih =>
    obtain ⟨first, others⟩ := List.forall_mem_cons.1 space
    have brace : c ≠ '\x7d' := ne_of_class first (by decide)
    have bracket : c ≠ ']' := ne_of_class first (by decide)
    simp [closesNext, brace, bracket, isBlank_of_isSpace first, ih others]

theorem closesNext_of_closing {c : Char} (closing : c = ']' ∨ c = '\x7d') (cs : List Char) :
    closesNext (c :: cs) = true := by
  rcases closing with rfl | rfl <;> rfl

/-- What is no white space does not stand in white space. -/
theorem notMem_of_isSpace {c : Char} (space : ∀ c ∈ g, isSpace c = true)
    (other : isSpace c = false) : c ∉ g := by
  intro member
  rw [space c member] at other
  cases other

end Padded

/-! ## Decorations are removed -/

/-- What is left of a decorated text, compared with the text itself: the same without trailing
commas, and no closing bracket comes next where none does in the text. -/
structure DecorationRemoved (t d : List Char) : Prop where
  same : dropTrailingCommas (dropComments d) = dropTrailingCommas t
  closes : closesNext (dropComments d) = true → closesNext t = true

namespace DecorationRemoved

variable {c : Char} {g g' body t d : List Char}

theorem gap (padded : Padded g g') (h : DecorationRemoved t d) :
    DecorationRemoved (g ++ t) (g' ++ d) := by
  have space := isSpace_of_padded padded
  have plain : ',' ∉ g := notMem_of_isSpace space (by decide)
  constructor
  · rw [dropComments_padded padded, dropTrailingCommas_append plain,
      dropTrailingCommas_append plain, h.same]
  · rw [dropComments_padded padded, closesNext_of_isSpace space, closesNext_of_isSpace space]
    exact h.closes

theorem code (quote : c ≠ '"') (slash : c ≠ '/') (comma : c = ',' → closesNext t = false)
    (h : DecorationRemoved t d) : DecorationRemoved (c :: t) (c :: d) := by
  have comma' (is_comma : c = ',') : closesNext (dropComments d) = false := by
    by_contra closes
    have closes' := h.closes (Bool.not_eq_false _ ▸ closes)
    rw [comma is_comma] at closes'
    cases closes'
  constructor
  · rw [dropComments_cons quote slash, dropTrailingCommas_cons comma,
      dropTrailingCommas_cons comma', h.same]
  · rw [dropComments_cons quote slash]
    simp only [closesNext, Bool.or_eq_true, Bool.and_eq_true]
    exact Or.imp_right (And.imp_right h.closes)

theorem literal (inside : LiteralBody body) (h : DecorationRemoved t d) :
    DecorationRemoved ('"' :: (body ++ '"' :: t)) ('"' :: (body ++ '"' :: d)) := by
  constructor
  · rw [dropComments_literal inside, dropTrailingCommas_literal, dropTrailingCommas_literal, h.same]
  · rw [dropComments_literal inside]
    intro closes
    cases closes

/-- The inserted comma is the one that is removed. -/
theorem comma (padded : Padded g g') (closing : c = ']' ∨ c = '\x7d') (h : DecorationRemoved t d) :
    DecorationRemoved (g ++ c :: t) (',' :: (g' ++ c :: d)) := by
  have space := isSpace_of_padded padded
  have quote : c ≠ '"' := by rcases closing with rfl | rfl <;> decide
  have slash : c ≠ '/' := by rcases closing with rfl | rfl <;> decide
  have other : c ≠ ',' := by rcases closing with rfl | rfl <;> decide
  have plain : ',' ∉ g := notMem_of_isSpace space (by decide)
  have read : dropComments (',' :: (g' ++ c :: d)) = ',' :: (g ++ c :: dropComments d) := by
    rw [dropComments_cons (by decide) (by decide), dropComments_padded padded,
      dropComments_cons quote slash]
  have bracket (cs : List Char) : dropTrailingCommas (c :: cs) = c :: dropTrailingCommas cs :=
    dropTrailingCommas_cons fun comma => absurd comma other
  have removed : closesNext (g ++ c :: dropComments d) = true := by
    rw [closesNext_of_isSpace space, closesNext_of_closing closing]
  constructor
  · rw [read, dropTrailingCommas, removed, dropTrailingCommas_append plain,
      dropTrailingCommas_append plain, bracket, bracket, h.same]
    rfl
  · rw [read]
    intro closes
    cases closes

end DecorationRemoved

theorem decorationRemoved_of_decorated {t d : List Char} (legible : Legible t)
    (decorated : Decorated t d) : DecorationRemoved t d := by
  induction decorated with
  | nil => exact ⟨rfl, id⟩
  | lastLine one_line =>
    constructor
    · rw [dropComments_lastLine one_line]
    · rw [dropComments_lastLine one_line]
      exact id
  | @gap g _ _ _ padded _ ih =>
    have plain : '"' ∉ g := notMem_of_isSpace (isSpace_of_padded padded) (by decide)
    exact .gap padded (ih (legible.of_append plain))
  | code quote _ ih =>
    obtain ⟨slash, comma, rest⟩ := legible.code_inv quote
    exact .code quote slash comma (ih rest)
  | literal inside _ ih => exact .literal inside (ih (legible_of_literal legible inside))
  | @comma c g g' t d padded closing _ ih =>
    have plain : '"' ∉ g := notMem_of_isSpace (isSpace_of_padded padded) (by decide)
    have bracket : '"' ∉ [c] := by rcases closing with rfl | rfl <;> decide
    exact .comma padded closing (ih ((legible.of_append plain).of_append bracket))

/-- Decorations of a JSON text are removed without a trace. -/
theorem plain_of_decorated (t d : String) (json : WellFormed t)
    (decorated : Decorated t.toList d.toList) : plain d = plain t := by
  have legible := legible_of_wellFormed json
  have removed := decorationRemoved_of_decorated legible decorated
  rw [plain, plain, removed.same, dropComments_of_legible legible]

/-- An array of one number, with a comma behind it and comments of both kinds, one of which looks
like the start of a string. -/
theorem plain_of_decorated_array :
    WellFormed "[1\n]" ∧ Decorated "[1\n]".toList "[1,/*\"*/// ]\n]//".toList ∧
    plain "[1,/*\"*/// ]\n]//" = plain "[1\n]" ∧ plain "[1,/*\"*/// ]\n]//" = "[1\n]" := by
  have json : WellFormed "[1\n]" := ⟨1, .array [.integer 1], by rfl⟩
  have gap : Padded ['\n'] ("/*\"*/".toList ++ "// ]\n".toList) :=
    @Padded.block ['"'] _ _ (by decide) (@Padded.line [' ', ']'] _ _ (by decide) .nil)
  have decorated : Decorated "[1\n]".toList "[1,/*\"*/// ]\n]//".toList :=
    .code (by decide) (.code (by decide) (.comma gap (.inl rfl) (.lastLine (by simp))))
  have same := plain_of_decorated _ _ json decorated
  have left : plain "[1\n]" = "[1\n]" := by decide +kernel
  exact ⟨json, decorated, same, same.trans left⟩

end ModuleResolution.Json.Commented
