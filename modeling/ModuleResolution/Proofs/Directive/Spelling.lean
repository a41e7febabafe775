import Mathlib.Data.List.TakeWhile
import ModuleResolution.Directive.Scan

/-!
# How a type directive is written

The reader of a directive is taken apart into the texts that it accepts (`Spells`). The grammar does
not mention the reader, and the reader accepts a text exactly if it begins with blanks and a
directive (`directiveAt_eq_some_iff`). So what follows a directive has no influence on it.

A directive has exactly two quotes, and three slashes before the first of them. Hence no directive
is a proper part of another one (`Spells.eq_of_infix`).
-/

set_option autoImplicit false

namespace ModuleResolution.Directive

open Text (isBlank)

/-! ## The grammar -/

/-- A text of blanks only. -/
def Blank (cs : List Char) : Prop := ∀ c ∈ cs, isBlank c = true

/-- A directive is written with a name. -/
inductive Spells (name : List Char) : List Char → Prop
  | mk {b₁ b₂ b₃ b₄ b₅ : List Char} {q q' : Char} {ending : String}
      (slashes : Blank b₁) (tag : Blank b₂) (tagged : b₂ ≠ []) (types : Blank b₃)
      (equals : Blank b₄) (opened : isQuote q = true) (named : name ≠ [])
      (plain : ∀ c ∈ name, isQuote c = false) (closed : isQuote q' = true) (value : Blank b₅)
      (ends : ending = "/>" ∨ ending = ">") :
      Spells name ("///".toList ++ (b₁ ++ ("<reference".toList ++ (b₂ ++ ("types".toList ++
        (b₃ ++ ("=".toList ++ (b₄ ++ (q :: (name ++ q' :: (b₅ ++ ending.toList)))))))))))

/-! ## The parts of the reader -/

section Parts

variable {cs rest bs name : List Char} {word : String}

theorem afterWord_eq_some_iff : afterWord word cs = some rest ↔ cs = word.toList ++ rest := by
  constructor
  · intro read
    rw [afterWord] at read
    split at read
    · rename_i first
      obtain ⟨others, rfl⟩ := List.isPrefixOf_iff_prefix.1 first
      rw [List.drop_left, Option.some.injEq] at read
      rw [read]
    · cases read
  · rintro rfl
    have first : word.toList.isPrefixOf (word.toList ++ rest) = true :=
      List.isPrefixOf_iff_prefix.2 (List.prefix_append _ _)
    rw [afterWord, if_pos first, List.drop_left]

theorem afterTagEnd_eq_some_iff :
    afterTagEnd cs = some rest ↔ ∃ ending, (ending = "/>" ∨ ending = ">") ∧
      cs = ending.toList ++ rest := by
  rw [afterTagEnd, Option.or_eq_some_iff, afterWord_eq_some_iff, afterWord_eq_some_iff]
  constructor
  · rintro (rfl | ⟨-, rfl⟩)
    · exact ⟨"/>", .inl rfl, rfl⟩
    · exact ⟨">", .inr rfl, rfl⟩
  · rintro ⟨ending, rfl | rfl, rfl⟩
    · exact .inl rfl
    · exact .inr ⟨rfl, rfl⟩

theorem quotedName_eq_some_iff :
    quotedName cs = some (name, rest) ↔
      ∃ q q', isQuote q = true ∧ name ≠ [] ∧ (∀ c ∈ name, isQuote c = false) ∧
        isQuote q' = true ∧ cs = q :: (name ++ q' :: rest) := by
  constructor
  · intro read
    cases cs with
    | nil => cases read
    | cons q cs =>
      rw [quotedName] at read
      split at read
      · rename_i opened
        split at read
        · cases read
        · cases read
        · rename_i q' behind split nonempty
          obtain ⟨rfl, rfl⟩ := Prod.mk.inj (Option.some.inj read)
          have plain (c : Char) (member : c ∈ cs.takeWhile (!isQuote ·)) : isQuote c = false := by
            simpa using List.mem_takeWhile_imp member
          have closed : isQuote q' = true := by
            have head := List.head?_dropWhile_not (!isQuote ·) cs
            rw [split] at head
            simpa using head
          have whole : cs = cs.takeWhile (!isQuote ·) ++ q' :: behind := by
            rw [← split, List.takeWhile_append_dropWhile]
          exact ⟨q, q', opened, nonempty, plain, closed, congrArg _ whole⟩
      · cases read
  · rintro ⟨q, q', opened, named, plain, closed, rfl⟩
    have inside : (name ++ q' :: rest).takeWhile (!isQuote ·) = name := by
      rw [List.takeWhile_append_of_pos (by simpa using plain)]
      simp [closed]
    have behind : (name ++ q' :: rest).dropWhile (!isQuote ·) = q' :: rest := by
      rw [List.dropWhile_append_of_pos (by simpa using plain)]
      simp [closed]
    rw [quotedName, if_pos opened, inside, behind]
    cases name with
    | nil => exact absurd rfl named
    | cons c name => rfl

/-! ## Blanks between the parts -/

/-- Blanks are skipped up to a character that is none. -/
theorem afterBlanks_append (blank : Blank bs) (solid : ∀ c ∈ cs.head?, isBlank c = false) :
    afterBlanks (bs ++ cs) = cs := by
  rw [afterBlanks, List.dropWhile_append_of_pos blank]
  cases cs with
  | nil => rfl
  | cons c cs => exact List.dropWhile_cons_of_neg (by simpa using solid c rfl)

theorem exists_blanks (cs : List Char) : ∃ bs, Blank bs ∧ cs = bs ++ afterBlanks cs :=
  ⟨cs.takeWhile isBlank, fun _ => List.mem_takeWhile_imp, List.takeWhile_append_dropWhile.symm⟩

/-- A reader of texts that do not begin with a blank reads them behind blanks if these are skipped
first. -/
theorem skipping_iff {α : Type} {read : List Char → Option α} {a : α}
    (solid : ∀ cs, read cs = some a → ∀ c ∈ cs.head?, isBlank c = false) :
    read (afterBlanks cs) = some a ↔
      ∃ bs rest, Blank bs ∧ read rest = some a ∧ cs = bs ++ rest := by
  constructor
  · intro done
    obtain ⟨bs, blank, whole⟩ := exists_blanks cs
    exact ⟨bs, afterBlanks cs, blank, done, whole⟩
  · rintro ⟨bs, rest, blank, done, rfl⟩
    rwa [afterBlanks_append blank (solid _ done)]

theorem afterWord_afterBlanks_iff (solid : word.toList.head?.any (!isBlank ·) = true) :
    afterWord word (afterBlanks cs) = some rest ↔
      ∃ bs, Blank bs ∧ cs = bs ++ (word.toList ++ rest) := by
  rw [skipping_iff]
  · simp [afterWord_eq_some_iff]
  · intro cs read c first
    cases spelled : word.toList with
    | nil => simp [spelled] at solid
    | cons d word =>
      rw [afterWord_eq_some_iff.1 read, spelled] at first
      obtain rfl : d = c := by simpa using first
      simpa [spelled] using solid

theorem afterWord_afterSomeBlanks_iff (solid : word.toList.head?.any (!isBlank ·) = true) :
    (afterSomeBlanks cs).bind (afterWord word) = some rest ↔
      ∃ bs, Blank bs ∧ bs ≠ [] ∧ cs = bs ++ (word.toList ++ rest) := by
  constructor
  · intro read
    obtain ⟨middle, skipped, read⟩ := Option.bind_eq_some_iff.1 read
    cases cs with
    | nil => cases skipped
    | cons c cs =>
      rw [afterSomeBlanks] at skipped
      split at skipped
      · rename_i first
        obtain rfl := Option.some.inj skipped
        obtain ⟨bs, blank, rfl⟩ := (afterWord_afterBlanks_iff solid).1 read
        exact ⟨c :: bs, List.forall_mem_cons.2 ⟨first, blank⟩, List.cons_ne_nil _ _, rfl⟩
      · cases skipped
  · rintro ⟨bs, blank, nonempty, rfl⟩
    cases bs with
    | nil => exact absurd rfl nonempty
    | cons b bs =>
      obtain ⟨first, others⟩ := List.forall_mem_cons.1 blank
      rw [List.cons_append, afterSomeBlanks, if_pos first, Option.bind_some]
      exact (afterWord_afterBlanks_iff solid).2 ⟨bs, others, rfl⟩

theorem solid_of_isQuote {c : Char} (quote : isQuote c = true) : isBlank c = false := by
  rw [isQuote, Bool.or_eq_true, decide_eq_true_eq, decide_eq_true_eq] at quote
  rcases quote with rfl | rfl <;> decide

theorem quotedName_afterBlanks_iff :
    quotedName (afterBlanks cs) = some (name, rest) ↔
      ∃ bs q q', Blank bs ∧ isQuote q = true ∧ name ≠ [] ∧ (∀ c ∈ name, isQuote c = false) ∧
        isQuote q' = true ∧ cs = bs ++ q :: (name ++ q' :: rest) := by
  rw [skipping_iff]
  · simp only [quotedName_eq_some_iff]
    constructor
    · rintro ⟨bs, _, blank, ⟨q, q', opened, named, plain, closed, rfl⟩, whole⟩
      exact ⟨bs, q, q', blank, opened, named, plain, closed, whole⟩
    · rintro ⟨bs, q, q', blank, opened, named, plain, closed, whole⟩
      exact ⟨bs, _, blank, ⟨q, q', opened, named, plain, closed, rfl⟩, whole⟩
  · intro cs read c first
    obtain ⟨q, q', opened, -, -, -, rfl⟩ := quotedName_eq_some_iff.1 read
    obtain rfl : q = c := by simpa using first
    exact solid_of_isQuote opened

theorem afterTagEnd_afterBlanks_iff :
    afterTagEnd (afterBlanks cs) = some rest ↔
      ∃ bs ending, Blank bs ∧ (ending = "/>" ∨ ending = ">") ∧
        cs = bs ++ (ending.toList ++ rest) := by
  rw [skipping_iff]
  · simp only [afterTagEnd_eq_some_iff]
    constructor
    · rintro ⟨bs, _, blank, ⟨ending, ends, rfl⟩, whole⟩
      exact ⟨bs, ending, blank, ends, whole⟩
    · rintro ⟨bs, ending, blank, ends, whole⟩
      exact ⟨bs, _, blank, ⟨ending, ends, rfl⟩, whole⟩
  · intro cs read c first
    obtain ⟨ending, rfl | rfl, rfl⟩ := afterTagEnd_eq_some_iff.1 read
    · obtain rfl : '/' = c := by simpa using first
      decide
    · obtain rfl : '>' = c := by simpa using first
      decide

/-! ## The reader -/

/-- The reader of a directive accepts the texts that begin with blanks and a directive. -/
theorem directiveAt_eq_some_iff :
    directiveAt cs = some (name, rest) ↔
      ∃ bs text, Blank bs ∧ Spells name text ∧ cs = bs ++ (text ++ rest) := by
  constructor
  · intro read
    unfold directiveAt at read
    simp only [Option.bind_eq_bind] at read
    -- each step of the reader leaves a rest, and the next one starts there
    obtain ⟨cs₁, slashes, read⟩ := Option.bind_eq_some_iff.1 read
    obtain ⟨cs₂, tag, read⟩ := Option.bind_eq_some_iff.1 read
    obtain ⟨cs₃, skipped, read⟩ := Option.bind_eq_some_iff.1 read
    obtain ⟨cs₄, types, read⟩ := Option.bind_eq_some_iff.1 read
    obtain ⟨cs₅, equals, read⟩ := Option.bind_eq_some_iff.1 read
    obtain ⟨⟨inside, cs₆⟩, value, read⟩ := Option.bind_eq_some_iff.1 read
    obtain ⟨cs₇, finish, read⟩ := Option.bind_eq_some_iff.1 read
    obtain ⟨rfl, rfl⟩ := Prod.mk.inj (Option.some.inj read)
    obtain ⟨bs, blank, rfl⟩ := (afterWord_afterBlanks_iff (by decide)).1 slashes
    obtain ⟨b₁, hb₁, rfl⟩ := (afterWord_afterBlanks_iff (by decide)).1 tag
    obtain ⟨b₂, hb₂, tagged, rfl⟩ := (afterWord_afterSomeBlanks_iff (by decide)).1
      (Option.bind_eq_some_iff.2 ⟨cs₃, skipped, types⟩)
    obtain ⟨b₃, hb₃, rfl⟩ := (afterWord_afterBlanks_iff (by decide)).1 equals
    obtain ⟨b₄, q, q', hb₄, opened, named, plain, closed, rfl⟩ :=
      quotedName_afterBlanks_iff.1 value
    obtain ⟨b₅, ending, hb₅, ends, rfl⟩ := afterTagEnd_afterBlanks_iff.1 finish
    refine ⟨bs, _, blank, .mk hb₁ hb₂ tagged hb₃ hb₄ opened named plain closed hb₅ ends, ?_⟩
    simp only [List.append_assoc, List.cons_append]
  · rintro ⟨bs, text, blank, spelled, rfl⟩
    cases spelled with
    | @mk b₁ b₂ b₃ b₄ b₅ q q' ending hb₁ hb₂ tagged hb₃ hb₄ opened named plain closed hb₅ ends =>
    simp only [List.append_assoc, List.cons_append]
    have solid : "types".toList.head?.any (!isBlank ·) = true := by decide
    -- the blanks behind the tag are a step of their own, since there has to be one
    obtain ⟨cs₃, skipped, types⟩ := Option.bind_eq_some_iff.1
      ((afterWord_afterSomeBlanks_iff solid).2 ⟨b₂, hb₂, tagged, rfl⟩)
    unfold directiveAt
    simp only [Option.bind_eq_bind]
    rw [(afterWord_afterBlanks_iff (by decide)).2 ⟨bs, blank, rfl⟩, Option.bind_some,
      (afterWord_afterBlanks_iff (by decide)).2 ⟨b₁, hb₁, rfl⟩, Option.bind_some,
      skipped, Option.bind_some, types, Option.bind_some,
      (afterWord_afterBlanks_iff (by decide)).2 ⟨b₃, hb₃, rfl⟩, Option.bind_some,
      quotedName_afterBlanks_iff.2 ⟨b₄, q, q', hb₄, opened, named, plain, closed, rfl⟩,
      Option.bind_some, afterTagEnd_afterBlanks_iff.2 ⟨b₅, ending, hb₅, ends, rfl⟩,
      Option.bind_some]
    rfl

end Parts

/-! ## Directives inside directives -/

section Inside

variable {name name' text text' rest rest' cs : List Char}

theorem countP_quote_of_blank {bs : List Char} (blank : Blank bs) : bs.countP isQuote = 0 := by
  rw [List.countP_eq_zero]
  intro c member quote
  exact Bool.eq_false_iff.1 (solid_of_isQuote quote) (blank c member)

theorem count_slash_of_blank {bs : List Char} (blank : Blank bs) : bs.count '/' = 0 := by
  rw [List.count_eq_zero]
  intro member
  exact absurd (blank _ member) (by decide)

/-- A text is plain up to its first quote. -/
theorem takeWhile_of_countP_eq_zero {head : List Char} {q : Char} (plain : head.countP isQuote = 0)
    (quote : isQuote q = true) (tail : List Char) :
    (head ++ q :: tail).takeWhile (!isQuote ·) = head := by
  rw [List.takeWhile_append_of_pos, List.takeWhile_cons_of_neg, List.append_nil]
  · simp [quote]
  · simpa using List.countP_eq_zero.1 plain

namespace Spells

/-- A directive is read whatever follows it. -/
theorem directiveAt (spelled : Spells name text) (rest : List Char) :
    directiveAt (text ++ rest) = some (name, rest) :=
  directiveAt_eq_some_iff.2 ⟨[], text, by simp [Blank], spelled, rfl⟩

/-- A text begins with one directive at most. -/
theorem unique (spelled : Spells name text) (spelled' : Spells name' text')
    (same : text ++ rest = text' ++ rest') : name = name' ∧ text = text' ∧ rest = rest' := by
  have read := spelled.directiveAt rest
  rw [same, spelled'.directiveAt rest'] at read
  obtain ⟨rfl, rfl⟩ := Prod.mk.inj (Option.some.inj read)
  exact ⟨rfl, List.append_cancel_right same, rfl⟩

theorem exists_slash (spelled : Spells name text) : ∃ cs, text = '/' :: cs := by
  cases spelled
  exact ⟨_, rfl⟩

/-- There are three slashes before the first quote of a directive, and one more quote behind it. -/
theorem exists_head (spelled : Spells name text) :
    ∃ head q tail, text = head ++ q :: tail ∧ isQuote q = true ∧ head.countP isQuote = 0 ∧
      head.count '/' = 3 ∧ tail.countP isQuote = 1 := by
  cases spelled with
  | @mk b₁ b₂ b₃ b₄ b₅ q q' ending hb₁ hb₂ tagged hb₃ hb₄ opened named plain closed hb₅ ends =>
  refine ⟨"///".toList ++ (b₁ ++ ("<reference".toList ++ (b₂ ++ ("types".toList ++
    (b₃ ++ ("=".toList ++ b₄)))))), q, name ++ q' :: (b₅ ++ ending.toList), ?_, opened, ?_, ?_, ?_⟩
  · simp only [List.append_assoc]
  · simp only [List.countP_append, countP_quote_of_blank hb₁, countP_quote_of_blank hb₂,
      countP_quote_of_blank hb₃, countP_quote_of_blank hb₄]
    decide
  · simp only [List.count_append, count_slash_of_blank hb₁, count_slash_of_blank hb₂,
      count_slash_of_blank hb₃, count_slash_of_blank hb₄]
    decide
  · have inside : name.countP isQuote = 0 := by
      rw [List.countP_eq_zero]
      intro c member
      simp [plain c member]
    have behind : ending.toList.countP isQuote = 0 := by
      rcases ends with rfl | rfl <;> decide
    rw [List.countP_append, List.countP_cons_of_pos closed, List.countP_append, inside,
      countP_quote_of_blank hb₅, behind]

/-- A directive that lies in another one is all of it. -/
theorem eq_of_infix {before behind : List Char} (spelled : Spells name text)
    (spelled' : Spells name' text') (inside : text = before ++ (text' ++ behind)) :
    before = [] ∧ behind = [] := by
  obtain ⟨head, q, tail, parts, quote, plain, slashes, quotes⟩ := spelled.exists_head
  obtain ⟨head', q', tail', parts', quote', plain', slashes', quotes'⟩ := spelled'.exists_head
  -- both have two quotes, so the text before the first of them is the same
  have none_before : before.countP isQuote = 0 := by
    have all := congrArg (List.countP isQuote) inside
    rw [parts, parts'] at all
    simp only [List.countP_append, List.countP_cons_of_pos quote,
      List.countP_cons_of_pos quote'] at all
    omega
  have heads : head = before ++ head' := by
    have plain_before : (before ++ head').countP isQuote = 0 := by
      rw [List.countP_append, none_before, plain']
    have whole : head ++ q :: tail = (before ++ head') ++ q' :: (tail' ++ behind) := by
      rw [← parts, inside, parts']
      simp only [List.append_assoc, List.cons_append]
    rw [← takeWhile_of_countP_eq_zero plain quote tail, whole,
      takeWhile_of_countP_eq_zero plain_before quote']
  -- and all slashes there belong to the inner directive, also the one at the start
  have start : before = [] := by
    rw [heads, List.count_append] at slashes
    obtain ⟨rest, first⟩ := spelled.exists_slash
    cases before with
    | nil => rfl
    | cons c before =>
      rw [first, List.cons_append] at inside
      obtain ⟨rfl, -⟩ := List.cons.inj inside
      rw [List.count_cons_self] at slashes
      omega
  have whole : text ++ [] = text' ++ behind := by
    rw [List.append_nil, inside, start, List.nil_append]
  obtain ⟨-, -, finish⟩ := spelled.unique spelled' whole
  exact ⟨start, finish.symm⟩

end Spells

end Inside

end ModuleResolution.Directive
