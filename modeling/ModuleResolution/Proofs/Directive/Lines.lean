import ModuleResolution.Proofs.Directive.Spelling
import ModuleResolution.Proofs.Text.FirstPlaces
import ModuleResolution.Text.Split

/-!
# Type directives line by line

A source text is cut into its directives and the characters outside of them (`Cut`, `pieces`). The
scan finds the names in these pieces (`scan_eq`). It does not look for the end of a line inside of a
directive: blanks between the parts of a directive may be line feeds, and its name may hold some.

So a line feed separates two texts unless a directive holds it (`Straddles`). All other directives
are found line by line, and those of the first text are found in any case, since no directive is a
proper part of another one (`scan_append_line`).
-/

set_option autoImplicit false

namespace ModuleResolution.Directive

open Text (isBlank splitOn)

/-! ## Pieces of a source text -/

/-- A piece of a source text: a character outside of all directives, or a directive as written. -/
inductive Piece where
  | plain (c : Char)
  | directive (name text : List Char)
  deriving DecidableEq, Repr

namespace Piece

/-- The characters of a piece. -/
def chars : Piece → List Char
  | plain c => [c]
  | directive _ text => text

/-- The name in a piece that is a directive. -/
def name? : Piece → Option String
  | plain _ => none
  | directive name _ => some (String.ofList name)

end Piece

/-- The characters of pieces. -/
def chars (ps : List Piece) : List Char := ps.flatMap Piece.chars

/-- The names in pieces. -/
def names (ps : List Piece) : List String := ps.filterMap Piece.name?

section Simp

variable (c : Char) (name text : List Char) (ps qs : List Piece)

@[simp] theorem chars_nil : chars [] = [] := rfl

@[simp] theorem chars_plain_cons : chars (.plain c :: ps) = c :: chars ps := rfl

@[simp] theorem chars_directive_cons : chars (.directive name text :: ps) = text ++ chars ps := rfl

@[simp] theorem chars_append : chars (ps ++ qs) = chars ps ++ chars qs := List.flatMap_append

@[simp] theorem names_plain_cons : names (.plain c :: ps) = names ps := rfl

@[simp] theorem names_directive_cons :
    names (.directive name text :: ps) = String.ofList name :: names ps := rfl

@[simp] theorem names_append : names (ps ++ qs) = names ps ++ names qs := List.filterMap_append

end Simp

/-- Whether a directive can start behind a character: behind a line feed, or behind a blank where
one can start. -/
def staysOpen (opened : Bool) (c : Char) : Bool := c = '\n' || opened && isBlank c

/-- A text that begins with a directive. -/
def Begins (cs : List Char) : Prop := ∃ name text rest, Spells name text ∧ cs = text ++ rest

/-- A text is cut into pieces, from the left. Where a directive can start and the text begins with
one, that is the next piece. -/
inductive Cut : Bool → List Char → List Piece → Prop
  | done {opened : Bool} : Cut opened [] []
  | plain {opened : Bool} {c : Char} {cs : List Char} {ps : List Piece}
      (free : opened = true → ¬ Begins (c :: cs)) (others : Cut (staysOpen opened c) cs ps) :
      Cut opened (c :: cs) (.plain c :: ps)
  | directive {name text rest : List Char} {ps : List Piece} (spelled : Spells name text)
      (others : Cut false rest ps) : Cut true (text ++ rest) (.directive name text :: ps)

/-- The pieces of a text; each step uses up a character, so `steps` may be its length. -/
def piecesFrom : Nat → Bool → List Char → List Piece
  | 0, _, _ => []
  | _ + 1, _, [] => []
  | steps + 1, opened, c :: cs =>
    match if opened && !isBlank c then directiveAt (c :: cs) else none with
    | some (name, rest) =>
      .directive name ((c :: cs).take ((c :: cs).length - rest.length)) ::
        piecesFrom steps false rest
    | none => .plain c :: piecesFrom steps (staysOpen opened c) cs

/-- The pieces of a source text. -/
def pieces (source : String) : List Piece :=
  piecesFrom source.toList.length true source.toList

section Begins

variable {c : Char} {cs name rest : List Char}

/-- The reader finds the directive that a text begins with. -/
theorem directiveAt_cons_iff (solid : isBlank c = false) :
    directiveAt (c :: cs) = some (name, rest) ↔
      ∃ text, Spells name text ∧ c :: cs = text ++ rest := by
  rw [directiveAt_eq_some_iff]
  constructor
  · rintro ⟨bs, text, blank, spelled, whole⟩
    cases bs with
    | nil => exact ⟨text, spelled, whole⟩
    | cons b bs =>
      obtain ⟨rfl, -⟩ := List.cons.inj whole
      rw [blank c List.mem_cons_self] at solid
      cases solid
  · rintro ⟨text, spelled, whole⟩
    exact ⟨[], text, by simp [Blank], spelled, whole⟩

theorem directiveAt_eq_none (solid : isBlank c = false) (free : ¬ Begins (c :: cs)) :
    directiveAt (c :: cs) = none := by
  rw [Option.eq_none_iff_forall_ne_some]
  rintro ⟨name, rest⟩ read
  obtain ⟨text, spelled, whole⟩ := (directiveAt_cons_iff solid).1 read
  exact free ⟨name, text, rest, spelled, whole⟩

/-- Blanks before a directive are passed over. -/
theorem directiveAt_blank_cons (blank : isBlank c = true) :
    directiveAt (c :: cs) = directiveAt cs := by
  have skipped : afterBlanks (c :: cs) = afterBlanks cs := by
    rw [afterBlanks, List.dropWhile_cons_of_pos blank, afterBlanks]
  unfold directiveAt
  rw [skipped]

end Begins

namespace Cut

variable {opened : Bool} {c : Char} {cs name text rest : List Char} {ps : List Piece}

theorem chars_eq (cut : Cut opened cs ps) : chars ps = cs := by
  induction cut with
  | done => rfl
  | plain free others ih => exact congrArg (_ :: ·) ih
  | directive spelled others ih => exact congrArg (_ ++ ·) ih

theorem nil_iff : Cut opened [] ps ↔ ps = [] := by
  constructor
  · intro cut
    cases ps with
    | nil => rfl
    | cons p ps =>
      have none := cut.chars_eq
      generalize whole : ([] : List Char) = cs at cut
      cases cut with
      | plain free others => cases whole
      | directive spelled others =>
        obtain ⟨rest, rfl⟩ := spelled.exists_slash
        cases whole
  · rintro rfl
    exact .done

/-- Where no directive begins, a text is cut behind its first character. -/
theorem plain_iff (free : opened = true → ¬ Begins (c :: cs)) :
    Cut opened (c :: cs) ps ↔
      ∃ others, ps = .plain c :: others ∧ Cut (staysOpen opened c) cs others := by
  constructor
  · intro cut
    generalize whole : c :: cs = all at cut
    cases cut with
    | done => cases whole
    | plain free others =>
      obtain ⟨rfl, rfl⟩ := List.cons.inj whole
      exact ⟨_, rfl, others⟩
    | directive spelled others => exact absurd ⟨_, _, _, spelled, whole⟩ (free rfl)
  · rintro ⟨others, rfl, cut⟩
    exact .plain free cut

/-- Where a directive begins, a text is cut behind it. -/
theorem directive_iff (spelled : Spells name text) :
    Cut true (text ++ rest) ps ↔ ∃ others, ps = .directive name text :: others ∧
      Cut false rest others := by
  constructor
  · intro cut
    generalize whole : text ++ rest = all at cut
    cases cut with
    | done =>
      obtain ⟨behind, rfl⟩ := spelled.exists_slash
      cases whole
    | plain free others => exact absurd ⟨name, text, rest, spelled, whole.symm⟩ (free rfl)
    | directive spelled' others =>
      obtain ⟨rfl, rfl, rfl⟩ := spelled.unique spelled' whole
      exact ⟨_, rfl, others⟩
  · rintro ⟨others, rfl, cut⟩
    exact .directive spelled cut

/-- A text is cut in one way. -/
theorem unique {ps' : List Piece} (cut : Cut opened cs ps) (cut' : Cut opened cs ps') :
    ps = ps' := by
  induction cut generalizing ps' with
  | done => exact (nil_iff.1 cut').symm
  | plain free others ih =>
    obtain ⟨others', rfl, shorter⟩ := (plain_iff free).1 cut'
    rw [ih shorter]
  | directive spelled others ih =>
    obtain ⟨others', rfl, shorter⟩ := (directive_iff spelled).1 cut'
    rw [ih shorter]

end Cut

section PiecesFrom

variable {steps : Nat} {opened : Bool} {c : Char} {cs name text : List Char}

theorem piecesFrom_plain (free : opened = true → ¬ Begins (c :: cs)) :
    piecesFrom (steps + 1) opened (c :: cs) =
      .plain c :: piecesFrom steps (staysOpen opened c) cs := by
  have passed : (if opened && !isBlank c then directiveAt (c :: cs) else none) = none := by
    split
    · rename_i start
      rw [Bool.and_eq_true, Bool.not_eq_true'] at start
      exact directiveAt_eq_none start.2 (free start.1)
    · rfl
  rw [piecesFrom, passed]

theorem piecesFrom_directive (spelled : Spells name text) (rest : List Char) :
    piecesFrom (steps + 1) true (text ++ rest) =
      .directive name text :: piecesFrom steps false rest := by
  have read := spelled.directiveAt rest
  have cutOff : (text ++ rest).take ((text ++ rest).length - rest.length) = text := by
    rw [List.length_append, Nat.add_sub_cancel, List.take_left]
  obtain ⟨behind, rfl⟩ := spelled.exists_slash
  rw [List.cons_append] at read cutOff ⊢
  rw [piecesFrom, if_pos (by decide), read]
  exact congrArg (Piece.directive name · :: _) cutOff

/-- The pieces of a text are those that it is cut into. -/
theorem cut_piecesFrom (enough : cs.length ≤ steps) :
    Cut opened cs (piecesFrom steps opened cs) := by
  induction steps generalizing opened cs with
  | zero =>
    obtain rfl := List.length_eq_zero_iff.1 (Nat.le_zero.1 enough)
    exact .done
  | succ steps ih =>
    cases cs with
    | nil => exact .done
    | cons c cs =>
      by_cases free : opened = true → ¬ Begins (c :: cs)
      · rw [List.length_cons] at enough
        rw [piecesFrom_plain free]
        exact .plain free (ih (by omega))
      · obtain ⟨rfl, begins⟩ := Classical.not_imp.1 free
        obtain ⟨name, text, rest, spelled, whole⟩ := Classical.not_not.1 begins
        obtain ⟨behind, start⟩ := spelled.exists_slash
        rw [whole, start, List.length_append, List.length_cons] at enough
        rw [whole, piecesFrom_directive spelled]
        exact .directive spelled (ih (by omega))

end PiecesFrom

theorem cut_pieces (source : String) : Cut true source.toList (pieces source) :=
  cut_piecesFrom (Nat.le_refl _)

theorem chars_pieces (source : String) : chars (pieces source) = source.toList :=
  (cut_pieces source).chars_eq

/-! ## The scan finds the names in the pieces -/

theorem namesFrom_cons (steps : Nat) (lineStart : Bool) {c : Char} {cs : List Char}
    (passed : lineStart = true → directiveAt (c :: cs) = none) :
    namesFrom (steps + 1) lineStart (c :: cs) = namesFrom steps (c = '\n') cs := by
  have none_here : (if lineStart then directiveAt (c :: cs) else none) = none := by
    split
    · rename_i start
      exact passed start
    · rfl
  rw [namesFrom, none_here]

theorem namesFrom_of_directiveAt {steps : Nat} {cs name rest : List Char}
    (read : directiveAt cs = some (name, rest)) :
    namesFrom (steps + 1) true cs = String.ofList name :: namesFrom steps false rest := by
  cases cs with
  | nil => cases read
  | cons c cs => rw [namesFrom, if_pos rfl, read]

/-- The scan finds the names in the pieces. It looks for a directive behind all blanks when it is at
the start of a line. So in the blanks of a line, where the cut still expects a directive, it has
found out that there is none. -/
theorem Cut.namesFrom_eq {opened lineStart : Bool} {cs : List Char} {ps : List Piece}
    (cut : Cut opened cs ps) {steps : Nat} (enough : cs.length ≤ steps)
    (start : lineStart = opened ∨ opened = true ∧ directiveAt cs = none) :
    namesFrom steps lineStart cs = names ps := by
  induction cut generalizing steps lineStart with
  | done => cases steps <;> rfl
  | @plain opened c cs ps free others ih =>
    rw [List.length_cons] at enough
    cases steps with
    | zero => omega
    | succ steps =>
      change namesFrom (steps + 1) lineStart (c :: cs) = names ps
      have unread : opened = true → isBlank c = false → directiveAt (c :: cs) = none :=
        fun start solid => directiveAt_eq_none solid (free start)
      by_cases passed : lineStart = true → directiveAt (c :: cs) = none
      · rw [namesFrom_cons steps lineStart passed]
        apply ih (by omega)
        by_cases inBlanks : opened = true ∧ isBlank c = true
        -- the blanks go on, and what is behind them is not a directive
        · obtain ⟨rfl, blank⟩ := inBlanks
          have behind : directiveAt cs = none := by
            rw [← directiveAt_blank_cons blank]
            rcases start with rfl | ⟨-, unread⟩
            · exact passed rfl
            · exact unread
          exact .inr ⟨by simp [staysOpen, blank], behind⟩
        · left
          rw [← Bool.and_eq_true, Bool.not_eq_true] at inBlanks
          rw [staysOpen, inBlanks, Bool.or_false]
      -- the scan reads a directive behind blanks, which the cut takes one by one
      · obtain ⟨rfl, read⟩ := Classical.not_imp.1 passed
        obtain rfl : opened = true := by
          rcases start with same | ⟨open', unread⟩
          · exact same.symm
          · exact absurd unread read
        have blank : isBlank c = true := by
          cases solid : isBlank c with
          | true => rfl
          | false => exact absurd (unread rfl solid) read
        obtain ⟨⟨name, rest⟩, found⟩ := Option.ne_none_iff_exists'.1 read
        rw [namesFrom_of_directiveAt found]
        rw [directiveAt_blank_cons blank] at found
        rw [← namesFrom_of_directiveAt found]
        exact ih (by omega) (.inl (by simp [staysOpen, blank]))
  | @directive name text rest ps spelled others ih =>
    have read := spelled.directiveAt rest
    obtain ⟨behind, first⟩ := spelled.exists_slash
    rw [first, List.length_append, List.length_cons] at enough
    obtain rfl : lineStart = true := by
      rcases start with same | ⟨-, unread⟩
      · exact same
      · rw [read] at unread
        cases unread
    cases steps with
    | zero => omega
    | succ steps =>
      rw [namesFrom_of_directiveAt read, ih (by omega) (.inl rfl)]
      rfl

/-- The scan finds the names in the pieces of a source text, each at its first place. -/
theorem scan_eq (source : String) : scan source = (names (pieces source)).eraseDups := by
  rw [scan, keepFirst, Text.foldl_addNew,
    (cut_pieces source).namesFrom_eq (Nat.le_refl _) (.inl rfl)]

/-! ## A text and what is put behind it -/

theorem Begins.append {cs : List Char} (begins : Begins cs) (more : List Char) :
    Begins (cs ++ more) := by
  obtain ⟨name, text, rest, spelled, rfl⟩ := begins
  exact ⟨name, text, rest ++ more, spelled, List.append_assoc _ _ _⟩

namespace Cut

variable {opened : Bool} {c : Char} {cs a b name text : List Char} {ps whole part : List Piece}

theorem of_plain_cons (cut : Cut opened cs (.plain c :: ps)) :
    ∃ rest, cs = c :: rest ∧ (opened = true → ¬ Begins cs) ∧
      Cut (staysOpen opened c) rest ps := by
  cases cut with
  | plain free others => exact ⟨_, rfl, free, others⟩

theorem of_directive_cons (cut : Cut opened cs (.directive name text :: ps)) :
    ∃ rest, cs = text ++ rest ∧ opened = true ∧ Spells name text ∧ Cut false rest ps := by
  cases cut with
  | directive spelled others => exact ⟨_, rfl, rfl, spelled, others⟩

theorem spells (cut : Cut opened cs ps) (member : .directive name text ∈ ps) :
    Spells name text := by
  induction cut with
  | done => cases member
  | plain free others ih =>
    rcases List.mem_cons.1 member with same | member
    · cases same
    · exact ih member
  | directive spelled others ih =>
    rcases List.mem_cons.1 member with same | member
    · obtain ⟨rfl, rfl⟩ := Piece.directive.inj same
      exact spelled
    · exact ih member

/-- There is no directive in the beginning of a directive. -/
theorem names_eq_nil (cut : Cut opened a part) {t : List Char} (spelled : Spells name (a ++ t))
    (proper : t ≠ []) : names part = [] := by
  refine List.filterMap_eq_nil_iff.2 fun p member => ?_
  cases p with
  | plain c => rfl
  | directive name' text' =>
    obtain ⟨before, after, rfl⟩ := List.append_of_mem member
    have inside : a ++ t = chars before ++ (text' ++ (chars after ++ t)) := by
      rw [← cut.chars_eq]
      simp
    obtain ⟨-, none_behind⟩ := spelled.eq_of_infix (cut.spells member) inside
    exact absurd (List.append_eq_nil_iff.1 none_behind).2 proper

/-- The names in a text are still found if more is put behind it. -/
theorem names_prefix (cut : Cut opened (a ++ b) whole) (cut' : Cut opened a part) :
    names part <+: names whole := by
  generalize joined : a ++ b = cs at cut
  -- on the cut of both texts; the first text is cut alike until it ends
  induction cut generalizing a part with
  | done =>
    obtain ⟨rfl, -⟩ := List.append_eq_nil_iff.1 joined
    obtain rfl := nil_iff.1 cut'
    exact List.nil_prefix
  | @plain opened c cs ps free others ih =>
    cases a with
    | nil =>
      obtain rfl := nil_iff.1 cut'
      exact List.nil_prefix
    | cons d a =>
      obtain ⟨rfl, rfl⟩ := List.cons.inj joined
      have free' : opened = true → ¬ Begins (d :: a) := fun start begins =>
        free start (begins.append b)
      obtain ⟨others', rfl, shorter⟩ := (plain_iff free').1 cut'
      rw [names_plain_cons, names_plain_cons]
      exact ih shorter rfl
  | @directive name text rest ps spelled others ih =>
    -- the directive ends in the first text, or it goes on behind that
    have ends : (∃ a', a = text ++ a' ∧ rest = a' ++ b) ∨ ∃ t, t ≠ [] ∧ text = a ++ t := by
      rcases List.append_eq_append_iff.1 joined with ⟨t, longer, rfl⟩ | ⟨a', rfl, rfl⟩
      · cases t with
        | nil => exact .inl ⟨[], by rw [longer, List.append_nil, List.append_nil], rfl⟩
        | cons c t => exact .inr ⟨c :: t, List.cons_ne_nil _ _, longer⟩
      · exact .inl ⟨a', rfl, rfl⟩
    rcases ends with ⟨a', rfl, rfl⟩ | ⟨t, proper, rfl⟩
    · obtain ⟨others', rfl, shorter⟩ := (directive_iff spelled).1 cut'
      exact (List.prefix_cons_inj _).2 (ih shorter rfl)
    · rw [cut'.names_eq_nil spelled proper]
      exact List.nil_prefix

end Cut

/-- The names in a text are still found if more is put behind it. -/
theorem scan_prefix (a b : String) : scan a <+: scan (a ++ b) := by
  have cut := cut_pieces (a ++ b)
  rw [String.toList_append] at cut
  obtain ⟨more, whole⟩ := cut.names_prefix (cut_pieces a)
  rw [scan_eq, scan_eq, ← whole, Text.eraseDups_append_eq_filter]
  exact List.prefix_append _ _

/-! ## The line feed between two texts -/

/-- A given character of two joined texts stands in the second one or in the first one. -/
theorem append_eq_append_cons {xs ys a b : List Char} {c : Char} (joined : xs ++ ys = a ++ c :: b) :
    (∃ a', a = xs ++ a' ∧ ys = a' ++ c :: b) ∨ ∃ y, xs = a ++ c :: y ∧ y ++ ys = b := by
  rcases List.append_eq_append_iff.1 joined with ⟨a', whole, behind⟩ | ⟨t, whole, behind⟩
  · exact .inl ⟨a', whole, behind⟩
  · cases t with
    | nil => exact .inl ⟨[], by rw [whole, List.append_nil, List.append_nil], behind.symm⟩
    | cons d t =>
      obtain ⟨rfl, rfl⟩ := List.cons.inj behind
      exact .inr ⟨t, whole, rfl⟩

/-- A given character is a piece or stands in a directive. -/
theorem plain_or_inside {ps : List Piece} {a b : List Char} {c : Char}
    (whole : chars ps = a ++ c :: b) :
    (∃ before after, ps = before ++ .plain c :: after ∧ chars before = a) ∨
      ∃ before name x y after, ps = before ++ .directive name (x ++ c :: y) :: after ∧
        chars before ++ x = a ∧ y ++ chars after = b := by
  induction ps generalizing a with
  | nil => simp at whole
  | cons p ps ih =>
    rcases append_eq_append_cons (show p.chars ++ chars ps = a ++ c :: b from whole) with
      ⟨a', rfl, behind⟩ | ⟨y, here, rfl⟩
    · rcases ih behind with ⟨before, after, rfl, rfl⟩ | ⟨before, name, x, y, after, rfl, rfl, rfl⟩
      · exact .inl ⟨p :: before, after, rfl, rfl⟩
      · exact .inr ⟨p :: before, name, x, y, after, rfl, List.append_assoc _ _ _, rfl⟩
    · cases p with
      | plain d =>
        rcases List.append_eq_singleton_iff.1 here.symm with ⟨rfl, only⟩ | ⟨-, empty⟩
        · obtain ⟨rfl, rfl⟩ := List.cons.inj only
          exact .inl ⟨[], ps, rfl, rfl⟩
        · cases empty
      | directive name text => exact .inr ⟨[], name, a, y, ps, by rw [← here]; rfl, rfl, rfl⟩

/-- A character is not both a piece and inside of a directive. -/
theorem not_plain_and_inside {before before' after after' : List Piece} {c : Char}
    {name x y : List Char} (starts : chars before = chars before' ++ x) :
    before ++ .plain c :: after ≠ before' ++ .directive name (x ++ c :: y) :: after' := by
  intro same
  -- neither list of pieces can be a part of the other one
  rcases List.append_eq_append_iff.1 same with ⟨t, rfl, behind⟩ | ⟨t, rfl, behind⟩
  · cases t with
    | nil => cases behind
    | cons p t =>
      obtain ⟨rfl, -⟩ := List.cons.inj behind
      have length := congrArg List.length starts
      simp at length
  · cases t with
    | nil => cases behind
    | cons p t =>
      obtain ⟨rfl, -⟩ := List.cons.inj behind
      have length := congrArg List.length starts
      simp at length

/-- If a line feed is a piece, the texts before and behind it are cut on their own. -/
theorem Cut.of_append_line {opened : Bool} {b : List Char} {before after : List Piece}
    (cut : Cut opened (chars before ++ '\n' :: b) (before ++ .plain '\n' :: after)) :
    Cut opened (chars before) before ∧ Cut true b after := by
  induction before generalizing opened with
  | nil =>
    obtain ⟨rest, same, -, behind⟩ := cut.of_plain_cons
    obtain ⟨-, rfl⟩ := List.cons.inj same
    exact ⟨.done, behind⟩
  | cons p before ih =>
    cases p with
    | plain c =>
      obtain ⟨rest, same, free, behind⟩ := cut.of_plain_cons
      obtain ⟨-, rfl⟩ := List.cons.inj same
      obtain ⟨front, back⟩ := ih behind
      exact ⟨.plain (fun start begins => free start (begins.append _)) front, back⟩
    | directive name text =>
      obtain ⟨rest, same, rfl, spelled, behind⟩ := cut.of_directive_cons
      rw [chars_directive_cons, List.append_assoc] at same
      rw [← List.append_cancel_left same] at behind
      obtain ⟨front, back⟩ := ih behind
      exact ⟨.directive spelled front, back⟩

section Joined

variable (a b : String)

theorem toList_joined : (a ++ "\n" ++ b).toList = a.toList ++ '\n' :: b.toList := by
  rw [String.toList_append, String.toList_append, List.append_assoc]
  rfl

/-- A directive of two joined texts holds the line feed between them. -/
def Straddles : Prop :=
  ∃ before name x y after,
    pieces (a ++ "\n" ++ b) = before ++ .directive name (x ++ '\n' :: y) :: after ∧
      chars before ++ x = a.toList ∧ y ++ chars after = b.toList

/-- Joined texts are cut line by line exactly if no directive holds the line feed between them. -/
theorem pieces_append_line_iff :
    pieces (a ++ "\n" ++ b) = pieces a ++ .plain '\n' :: pieces b ↔ ¬ Straddles a b := by
  constructor
  · rintro apart ⟨before, name, x, y, after, whole, front, -⟩
    rw [apart] at whole
    exact not_plain_and_inside (by rw [chars_pieces, front]) whole
  · intro free
    have whole := chars_pieces (a ++ "\n" ++ b)
    rw [toList_joined] at whole
    rcases plain_or_inside whole with ⟨before, after, apart, front⟩ | inside
    · have cut := cut_pieces (a ++ "\n" ++ b)
      rw [toList_joined, apart, ← front] at cut
      obtain ⟨first, second⟩ := cut.of_append_line
      rw [front] at first
      rw [apart, first.unique (cut_pieces a), second.unique (cut_pieces b)]
    · exact absurd inside free

/-- Then the names are those of the first text and those of the second one that are new. -/
theorem scan_of_apart (apart : ¬ Straddles a b) :
    scan (a ++ "\n" ++ b) = scan a ++ (scan b).filter (· ∉ scan a) := by
  rw [scan_eq, (pieces_append_line_iff a b).2 apart, names_append, names_plain_cons,
    Text.eraseDups_append_eq_filter, ← scan_eq, ← scan_eq]
  simp

end Joined

/-! ## The line of a directive -/

/-- A directive that holds no line feed stands in one line, behind blanks. -/
theorem Cut.exists_line {opened : Bool} {cs name text : List Char} {ps : List Piece}
    (lead : List Char) (cut : Cut opened cs ps) (member : .directive name text ∈ ps)
    (inline : '\n' ∉ text) (blank : opened = true → Blank lead ∧ '\n' ∉ lead) :
    ∃ line ∈ splitOn '\n' (lead ++ cs), ∃ bs tail, Blank bs ∧ line = bs ++ (text ++ tail) := by
  -- on the cut; `lead` is what the line holds before the rest of the text
  induction cut generalizing lead with
  | done => cases member
  | @plain opened c cs ps free others ih =>
    have member' : .directive name text ∈ ps := by simpa using member
    by_cases feed : c = '\n'
    · rw [feed, Text.splitOn_append]
      obtain ⟨line, inside, parts⟩ := ih [] member' fun _ => ⟨by simp [Blank], by simp⟩
      exact ⟨line, List.mem_append_right _ inside, parts⟩
    -- the character is one more blank before the directive
    · have longer := ih (lead ++ [c]) member' fun start => by
        rw [staysOpen, decide_eq_false feed, Bool.false_or, Bool.and_eq_true] at start
        obtain ⟨blanks, plain⟩ := blank start.1
        refine ⟨?_, by simp [plain, Ne.symm feed]⟩
        intro d inside
        rcases List.mem_append.1 inside with old | new
        · exact blanks d old
        · rw [List.mem_singleton.1 new]
          exact start.2
      rwa [List.append_assoc] at longer
  | @directive name' text' rest ps spelled others ih =>
    rcases List.mem_cons.1 member with same | member
    · obtain ⟨rfl, rfl⟩ := Piece.directive.inj same
      obtain ⟨blanks, plain⟩ := blank rfl
      cases split : splitOn '\n' rest with
      | nil => exact absurd split (Text.splitOn_ne_nil _ _)
      | cons tail lines =>
        have whole : splitOn '\n' (lead ++ (text ++ rest)) = (lead ++ (text ++ tail)) :: lines :=
          Text.splitOn_plain_append plain (Text.splitOn_plain_append inline split)
        rw [whole]
        exact ⟨_, List.mem_cons_self, lead, tail, blanks, rfl⟩
    · rw [← List.append_assoc]
      exact ih _ member fun start => by cases start

/-- Without a line feed no directive starts behind one that was read. -/
theorem namesFrom_of_notMem {steps : Nat} {cs : List Char} (plain : '\n' ∉ cs) :
    namesFrom steps false cs = [] := by
  induction steps generalizing cs with
  | zero => rfl
  | succ steps ih =>
    cases cs with
    | nil => rfl
    | cons c cs =>
      obtain ⟨other, plain⟩ := not_or.1 (fun member => plain (List.mem_cons.2 member))
      rw [namesFrom_cons steps false (fun start => by cases start),
        decide_eq_false (Ne.symm other)]
      exact ih plain

/-- A line that begins with blanks and a directive has the name of that directive. -/
theorem scan_line {line bs name text tail : List Char} (plain : '\n' ∉ line) (blank : Blank bs)
    (spelled : Spells name text) (parts : line = bs ++ (text ++ tail)) :
    scan (.ofList line) = [.ofList name] := by
  have read : directiveAt line = some (name, tail) :=
    directiveAt_eq_some_iff.2 ⟨bs, text, blank, spelled, parts⟩
  have none_behind : '\n' ∉ tail := by
    intro inside
    apply plain
    rw [parts]
    simp [inside]
  rw [scan, String.toList_ofList]
  cases line with
  | nil => cases read
  | cons c cs =>
    rw [List.length_cons, namesFrom_of_directiveAt read, namesFrom_of_notMem none_behind]
    rfl

/-! ## Recognition line by line -/

/-- Type directives are recognised line by line, except for those that hold a line feed themselves.
If none holds the line feed between two texts, then these are cut into pieces on their own, and the
names are those of the first text and those of the second one that are new. In any case the names of
the first text come first, and every name is found in a directive, which stands in a line of its own
if it holds no line feed. -/
theorem scan_append_line (a b : String) :
    (¬ Straddles a b ↔ pieces (a ++ "\n" ++ b) = pieces a ++ .plain '\n' :: pieces b) ∧
    (¬ Straddles a b → scan (a ++ "\n" ++ b) = scan a ++ (scan b).filter (· ∉ scan a)) ∧
    scan a <+: scan (a ++ "\n" ++ b) ∧
    ∀ source, (scan source).Nodup ∧ ∀ name, name ∈ scan source ↔
      ∃ text, .directive name.toList text ∈ pieces source ∧ Spells name.toList text ∧
        ('\n' ∉ text → ∃ line ∈ splitOn '\n' source.toList, scan (.ofList line) = [name]) := by
  refine ⟨(pieces_append_line_iff a b).symm, scan_of_apart a b, ?_, fun source => ⟨?_, ?_⟩⟩
  · rw [String.append_assoc]
    exact scan_prefix a ("\n" ++ b)
  · rw [scan_eq]
    exact Text.nodup_eraseDups _
  · intro name
    rw [scan_eq, List.mem_eraseDups, names, List.mem_filterMap]
    constructor
    · rintro ⟨p, member, named⟩
      cases p with
      | plain c => cases named
      | directive cs text =>
        obtain rfl := Option.some.inj named
        rw [String.toList_ofList]
        have spelled := (cut_pieces source).spells member
        refine ⟨text, member, spelled, fun inline => ?_⟩
        obtain ⟨line, inside, bs, tail, blank, parts⟩ := (cut_pieces source).exists_line [] member
          inline fun _ => ⟨by simp [Blank], by simp⟩
        exact ⟨line, inside, scan_line (Text.not_mem_of_mem_splitOn inside) blank spelled parts⟩
    · rintro ⟨text, member, -, -⟩
      exact ⟨_, member, by simp [Piece.name?]⟩

theorem scan_append_line_directives :
    ¬ Straddles "/// <reference types=\"node\" />" "/// <reference types='jest'/>" ∧
    scan ("/// <reference types=\"node\" />" ++ "\n" ++ "/// <reference types='jest'/>") =
      ["node", "jest"] := by
  obtain ⟨cut, joined, -⟩ :=
    scan_append_line "/// <reference types=\"node\" />" "/// <reference types='jest'/>"
  have apart := cut.2 (by decide +kernel)
  refine ⟨apart, ?_⟩
  rw [joined apart]
  decide +kernel

/-- Texts are not always scanned line by line: the parts of a directive may stand in two lines. -/
theorem not_scan_by_line :
    ¬ ∀ a b : String,
      scan (a ++ "\n" ++ b) = scan a ++ (scan b).filter (· ∉ scan a) := by
  intro apart
  have joined : scan ("/// <reference" ++ "\n" ++ "types=\"node\" />") = ["node"] := by
    decide +kernel
  have first : scan "/// <reference" = [] := by decide +kernel
  have second : scan "types=\"node\" />" = [] := by decide +kernel
  have none_found := apart "/// <reference" "types=\"node\" />"
  rw [joined, first, second] at none_found
  cases none_found

end ModuleResolution.Directive
