import Mathlib.Data.List.Forall2
import Mathlib.Data.List.TakeWhile
import ModuleResolution.Proofs.Text.FirstPlaces
import ModuleResolution.Source.Tree

/-!
# The imports of a syntax tree in preorder

The scan of a syntax tree works on a stack of trees that are still to be visited. It finds what a
plain recursion finds, which takes the nodes in preorder (`Tree.preorder`), collects the module that
each of them names, and keeps every module at its first place (`imports_preorder`).

What a node names is said apart from the scan. `Names` is the node that has to spell the module, the
source of a statement or the first argument of a call, `IsPlain` and `Stripped` say when and how it
spells one, and `Demands` lists the nodes whose text is needed for this. A text that is not UTF-8
ends the scan if a node demands it and no node before it in preorder demands another such text.

The stack is related to the recursion by `visit_eq`: the nodes that are still to be visited are the
nodes of the trees on the stack in preorder.
-/

set_option autoImplicit false

namespace ModuleResolution.Source.Tree

open Text (Utf8.Error)

/-! ## What a node names -/

/-- A statement that may name a module as its source. -/
inductive IsStatement (t : Tree) : Prop
  | importing (kind : t.kind = "import_statement")
  | exporting (kind : t.kind = "export_statement")
  | requiring (kind : t.kind = "import_require_clause")

/-- A call, with its function and its first argument. -/
structure Calls (t function first : Tree) : Prop where
  kind : t.kind = "call_expression"
  function : t.field? "function" = some function
  arguments : ∃ arguments rest, t.field? "arguments" = some arguments ∧
    arguments.children = first :: rest

/-- A function that imports modules: `import` itself, or one that reads `require`. -/
inductive IsImporter (bytes : List UInt8) (function : Tree) : Prop
  | keyword (kind : function.kind = "import")
  | require (reads : function.text bytes = .ok "require")

/-- The node that has to spell the module that a node imports: the source of a statement, or the
first argument of a call of a function that imports modules. -/
inductive Names (bytes : List UInt8) (t : Tree) : Tree → Prop
  | source {source : Tree} (statement : IsStatement t) (field : t.field? "source" = some source) :
      Names bytes t source
  | argument {function first : Tree} (call : Calls t function first)
      (importer : IsImporter bytes function) : Names bytes t first

/-- A string, or a template without substitutions. -/
def IsPlain (t : Tree) : Prop :=
  (t.kind = "string" ∨ t.kind = "template_string") ∧
    ∀ child ∈ t.children, child.kind ≠ "template_substitution"

/-- A text without the quotes at its two ends. -/
def Stripped (text name : List Char) : Prop :=
  ∃ before after, text = before ++ name ++ after ∧
    (∀ c ∈ before, isQuoteMark c = true) ∧ (∀ c ∈ after, isQuoteMark c = true) ∧
    (∀ c ∈ name.head?, isQuoteMark c = false) ∧ ∀ c ∈ name.getLast?, isQuoteMark c = false

/-- A plain node spells a name that is not empty, in quotes. -/
def Spells (bytes : List UInt8) (literal : Tree) (name : String) : Prop :=
  literal.IsPlain ∧ name ≠ "" ∧
    ∃ text, literal.text bytes = .ok text ∧ Stripped text.toList name.toList

/-- The node that has to spell the module that a node imports spells a name. -/
def Contributes (bytes : List UInt8) (t : Tree) (name : String) : Prop :=
  ∃ literal, Names bytes t literal ∧ Spells bytes literal name

/-- The nodes whose text a node demands: the function of a call that has an argument, unless its
kind tells that it is `import`, and the plain node that has to spell the module. -/
inductive Demands (bytes : List UInt8) (t : Tree) : Tree → Prop
  | function {function first : Tree} (call : Calls t function first)
      (kind : function.kind ≠ "import") : Demands bytes t function
  | literal {literal : Tree} (names : Names bytes t literal) (plain : literal.IsPlain) :
      Demands bytes t literal

/-- All texts that a node demands are UTF-8. -/
def Legible (bytes : List UInt8) (t : Tree) : Prop :=
  ∀ s, Demands bytes t s → ∃ text, s.text bytes = .ok text

/-- A node demands a text that is not UTF-8. -/
def Illegible (bytes : List UInt8) (t : Tree) (e : Text.Utf8.Error) : Prop :=
  ∃ s, Demands bytes t s ∧ s.text bytes = .error e

/-! ## Names and quotes -/

theorem not_mark_head {cs : List Char} {c : Char}
    (h : (cs.dropWhile isQuoteMark).head? = some c) : isQuoteMark c = false := by
  have first := List.head?_dropWhile_not isQuoteMark cs
  rwa [h] at first

theorem stripped_stripWhile (text : List Char) :
    Stripped text (Text.stripWhile isQuoteMark text) := by
  -- the text behind the quotes at its start, and that from its end
  generalize hrest : text.dropWhile isQuoteMark = rest
  have behind : text = text.takeWhile isQuoteMark ++ rest := by
    rw [← hrest, List.takeWhile_append_dropWhile]
  generalize hname : (rest.reverse.dropWhile isQuoteMark).reverse = name
  have ahead : rest = name ++ (rest.reverse.takeWhile isQuoteMark).reverse := by
    rw [← hname, ← List.reverse_append, List.takeWhile_append_dropWhile, List.reverse_reverse]
  have stripped : Text.stripWhile isQuoteMark text = name := by
    rw [Text.stripWhile, Text.dropEndWhile, hrest, hname]
  rw [stripped]
  refine ⟨text.takeWhile isQuoteMark, (rest.reverse.takeWhile isQuoteMark).reverse, ?_, ?_, ?_, ?_,
    ?_⟩
  · rw [List.append_assoc, ← ahead, ← behind]
  · intro c hc
    exact List.mem_takeWhile_imp hc
  · intro c hc
    exact List.mem_takeWhile_imp (List.mem_reverse.1 hc)
  · intro c hc
    have first : rest.head? = some c := by
      rw [ahead, List.head?_append, Option.mem_def.1 hc]
      rfl
    rw [← hrest] at first
    exact not_mark_head first
  · intro c hc
    rw [← hname, List.getLast?_reverse] at hc
    exact not_mark_head hc

/-- A text that is no quotes only can be stripped in one way. -/
theorem Stripped.eq_stripWhile {text name : List Char} (h : Stripped text name) (some : name ≠ []) :
    name = Text.stripWhile isQuoteMark text := by
  obtain ⟨before, after, rfl, hbefore, hafter, hhead, hlast⟩ := h
  have start : (name ++ after).dropWhile isQuoteMark = name ++ after := by
    cases name with
    | nil => exact absurd rfl some
    | cons c cs => exact List.dropWhile_cons_of_neg (by simp [hhead c rfl])
  have finish : name.reverse.dropWhile isQuoteMark = name.reverse := by
    cases hreverse : name.reverse with
    | nil => rfl
    | cons c cs =>
      have last : name.getLast? = Option.some c := by
        rw [← List.head?_reverse, hreverse]
        rfl
      exact List.dropWhile_cons_of_neg (by simp [hlast c last])
  have marks : ∀ c ∈ after.reverse, isQuoteMark c = true := by
    intro c hc
    exact hafter c (List.mem_reverse.1 hc)
  rw [Text.stripWhile, Text.dropEndWhile, List.append_assoc, List.dropWhile_append_of_pos hbefore,
    start, List.reverse_append, List.dropWhile_append_of_pos marks, finish, List.reverse_reverse]

theorem moduleName_eq_some_iff {text name : String} :
    moduleName text = some name ↔ Stripped text.toList name.toList ∧ name ≠ "" := by
  rw [moduleName]
  constructor
  · intro spelled
    split at spelled
    · cases spelled
    · rename_i nonempty
      obtain rfl := Option.some.inj spelled
      rw [String.toList_ofList]
      refine ⟨stripped_stripWhile text.toList, fun empty => nonempty ?_⟩
      rw [← String.toList_ofList (l := Text.stripWhile isQuoteMark text.toList), empty]
      rfl
  · rintro ⟨stripped, nonempty⟩
    have some : name.toList ≠ [] := fun nil => nonempty (String.toList_eq_nil_iff.1 nil)
    rw [← stripped.eq_stripWhile some, if_neg some, String.ofList_toList]

theorem isPlainString_iff (t : Tree) : t.isPlainString = true ↔ t.IsPlain := by
  simp [isPlainString, IsPlain]

/-! ## The name of one node -/

section ImportName

variable {bytes : List UInt8} {t : Tree}

/-- A node that has to spell a module fails with its text, unless it is not plain. -/
theorem stringName_eq_error_iff {e : Text.Utf8.Error} :
    stringName bytes t = .error e ↔ t.IsPlain ∧ t.text bytes = .error e := by
  rw [stringName, ← isPlainString_iff]
  cases t.isPlainString with
  | false => simp
  | true => cases t.text bytes <;> simp [Functor.map, Except.map]

/-- The name that is read of such a node is the one that it spells. -/
theorem stringName_eq_some_iff {found : Option String} (h : stringName bytes t = .ok found)
    (name : String) : found = some name ↔ Spells bytes t name := by
  rw [stringName] at h
  cases plain : t.isPlainString with
  | false =>
    rw [plain] at h
    cases h
    refine iff_of_false (by simp) fun spells => ?_
    rw [(isPlainString_iff t).2 spells.1] at plain
    cases plain
  | true =>
    rw [plain, if_pos rfl] at h
    cases text : t.text bytes with
    | error e =>
      rw [text] at h
      cases h
    | ok content =>
      rw [text] at h
      cases h
      rw [moduleName_eq_some_iff]
      constructor
      · rintro ⟨stripped, nonempty⟩
        exact ⟨(isPlainString_iff t).1 plain, nonempty, content, text, stripped⟩
      · rintro ⟨-, nonempty, other, read, stripped⟩
        obtain rfl := Except.ok.inj (text.symm.trans read)
        exact ⟨stripped, nonempty⟩

/-- How the scan reads the name of a node, by the shape of the node. -/
inductive NameRead (bytes : List UInt8) (t : Tree) : Except Text.Utf8.Error (Option String) → Prop
  | statement {source : Tree} (statement : IsStatement t)
      (field : t.field? "source" = some source) : NameRead bytes t (stringName bytes source)
  | call {function first : Tree} (call : Calls t function first) :
      NameRead bytes t (do
        if ← isImportFunction bytes function then stringName bytes first else return none)
  | neither (statement : IsStatement t → t.field? "source" = none)
      (call : ∀ function first, ¬ Calls t function first) : NameRead bytes t (.ok none)

theorem isImportFunction_eq_error_iff {e : Text.Utf8.Error} :
    isImportFunction bytes t = .error e ↔ t.kind ≠ "import" ∧ t.text bytes = .error e := by
  rw [isImportFunction]
  by_cases kind : t.kind = "import"
  · simp [kind]
  · cases t.text bytes <;> simp [kind, Functor.map, Except.map]

theorem isImportFunction_eq_ok {b : Bool} (h : isImportFunction bytes t = .ok b) :
    b = true ↔ IsImporter bytes t := by
  rw [isImportFunction] at h
  by_cases kind : t.kind = "import"
  · rw [if_pos kind] at h
    cases h
    exact iff_of_true rfl (.keyword kind)
  · rw [if_neg kind] at h
    cases text : t.text bytes with
    | error e =>
      rw [text] at h
      cases h
    | ok text =>
      rw [text] at h
      cases h
      rw [decide_eq_true_iff]
      constructor
      · rintro rfl
        exact .require text
      · rintro (other | reads)
        · exact absurd other kind
        · exact Except.ok.inj (text.symm.trans reads)

theorem IsStatement.not_calls (statement : IsStatement t) (function first : Tree) :
    ¬ Calls t function first := by
  rintro ⟨kind, -, -⟩
  cases statement with
  | importing other => simp [kind] at other
  | exporting other => simp [kind] at other
  | requiring other => simp [kind] at other

theorem nameRead_importName : NameRead bytes t (importName bytes t) := by
  rw [importName]
  split
  · rename_i kind
    have statement : IsStatement t := by
      simp only [Bool.or_eq_true, decide_eq_true_eq] at kind
      rcases kind with (kind | kind) | kind
      · exact .importing kind
      · exact .exporting kind
      · exact .requiring kind
    split
    · rename_i source field
      exact .statement statement field
    · rename_i field
      exact .neither (fun _ => field) statement.not_calls
  · rename_i kind
    have no_statement : ¬ IsStatement t := by
      intro statement
      apply kind
      cases statement with
      | importing kind => simp [kind]
      | exporting kind => simp [kind]
      | requiring kind => simp [kind]
    split
    · rename_i call
      -- a call without a function or without an argument imports nothing
      split
      · rename_i function arguments hfunction harguments
        split
        · rename_i first rest hchildren
          exact .call ⟨call, hfunction, arguments, rest, harguments, hchildren⟩
        · rename_i hchildren
          refine .neither (fun statement => absurd statement no_statement)
            fun other first calls => ?_
          obtain ⟨-, -, given, rest, field, children⟩ := calls
          rw [harguments, Option.some.injEq] at field
          rw [← field, hchildren] at children
          cases children
      · rename_i missing
        refine .neither (fun statement => absurd statement no_statement) fun other first calls => ?_
        obtain ⟨-, hfunction, given, rest, field, -⟩ := calls
        exact missing other given hfunction field
    · rename_i call
      exact .neither (fun statement => absurd statement no_statement)
        fun function first calls => call calls.kind

theorem Calls.unique {function first other argument : Tree} (h : Calls t function first)
    (h' : Calls t other argument) : other = function ∧ argument = first := by
  obtain ⟨-, hfunction, arguments, rest, field, children⟩ := h
  obtain ⟨-, hother, given, rest', field', children'⟩ := h'
  rw [hfunction, Option.some.injEq] at hother
  rw [field, Option.some.injEq] at field'
  rw [← field', children, List.cons.injEq] at children'
  exact ⟨hother.symm, children'.1.symm⟩

/-! The nodes that a node names and demands, by its shape. -/

theorem names_of_statement {source s : Tree} (statement : IsStatement t)
    (field : t.field? "source" = some source) : Names bytes t s ↔ s = source := by
  constructor
  · rintro (⟨-, other⟩ | ⟨call, -⟩)
    · exact Option.some.inj (other.symm.trans field)
    · exact absurd call (statement.not_calls _ _)
  · rintro rfl
    exact .source statement field

theorem names_of_call {function first s : Tree} (call : Calls t function first) :
    Names bytes t s ↔ s = first ∧ IsImporter bytes function := by
  constructor
  · rintro (⟨statement, -⟩ | ⟨other, importer⟩)
    · exact absurd call (statement.not_calls _ _)
    · obtain ⟨rfl, rfl⟩ := call.unique other
      exact ⟨rfl, importer⟩
  · rintro ⟨rfl, importer⟩
    exact .argument call importer

theorem illegible_of_statement {source : Tree} {e : Text.Utf8.Error} (statement : IsStatement t)
    (field : t.field? "source" = some source) :
    Illegible bytes t e ↔ source.IsPlain ∧ source.text bytes = .error e := by
  constructor
  · rintro ⟨s, ⟨call, -⟩ | ⟨names, plain⟩, failed⟩
    · exact absurd call (statement.not_calls _ _)
    · obtain rfl := (names_of_statement statement field).1 names
      exact ⟨plain, failed⟩
  · rintro ⟨plain, failed⟩
    exact ⟨source, .literal ((names_of_statement statement field).2 rfl) plain, failed⟩

theorem illegible_of_call {function first : Tree} {e : Text.Utf8.Error}
    (call : Calls t function first) :
    Illegible bytes t e ↔
      (function.kind ≠ "import" ∧ function.text bytes = .error e) ∨
        (IsImporter bytes function ∧ first.IsPlain ∧ first.text bytes = .error e) := by
  constructor
  · rintro ⟨s, ⟨other, kind⟩ | ⟨names, plain⟩, failed⟩
    · obtain ⟨rfl, rfl⟩ := call.unique other
      exact .inl ⟨kind, failed⟩
    · obtain ⟨rfl, importer⟩ := (names_of_call call).1 names
      exact .inr ⟨importer, plain, failed⟩
  · rintro (⟨kind, failed⟩ | ⟨importer, plain, failed⟩)
    · exact ⟨function, .function call kind, failed⟩
    · exact ⟨first, .literal (.argument call importer) plain, failed⟩

/-- The name of a node cannot be read exactly when the node demands a text that is not UTF-8. -/
theorem importName_eq_error_iff {e : Text.Utf8.Error} :
    importName bytes t = .error e ↔ Illegible bytes t e := by
  have read : NameRead bytes t (importName bytes t) := nameRead_importName
  generalize importName bytes t = result at read
  cases read with
  | statement statement field =>
    rw [illegible_of_statement statement field, stringName_eq_error_iff]
  | @call function first call =>
    -- the function is read first, and the argument only if the function imports modules
    rw [illegible_of_call call, ← isImportFunction_eq_error_iff, ← stringName_eq_error_iff]
    cases function_read : isImportFunction bytes function with
    | error e' =>
      have unread : ¬ IsImporter bytes function := by
        intro importer
        obtain ⟨kind, failed⟩ := isImportFunction_eq_error_iff.1 function_read
        cases importer with
        | keyword other => exact kind other
        | require reads => rw [reads] at failed; cases failed
      simp [unread, bind, Except.bind]
    | ok b =>
      rw [← isImportFunction_eq_ok function_read]
      cases b <;> simp [bind, Except.bind, pure, Except.pure]
  | neither statement call =>
    refine iff_of_false (by simp) ?_
    rintro ⟨s, ⟨other, -⟩ | ⟨names, -⟩, -⟩
    · exact call _ _ other
    · cases names with
      | source other field => simp [statement other] at field
      | argument other importer => exact call _ _ other

/-- The name that is read of a node is the one that the node contributes. -/
theorem importName_eq_some_iff {found : Option String} (h : importName bytes t = .ok found)
    (name : String) : found = some name ↔ Contributes bytes t name := by
  have read : NameRead bytes t (importName bytes t) := nameRead_importName
  rw [h] at read
  generalize hresult : (Except.ok found : Except Text.Utf8.Error (Option String)) = result at read
  cases read with
  | statement statement field =>
    rw [stringName_eq_some_iff hresult.symm]
    constructor
    · intro spells
      exact ⟨_, .source statement field, spells⟩
    · rintro ⟨literal, names, spells⟩
      rwa [(names_of_statement statement field).1 names] at spells
  | @call function first call =>
    cases function_read : isImportFunction bytes function with
    | error e =>
      rw [function_read] at hresult
      cases hresult
    | ok b =>
      have importer := isImportFunction_eq_ok function_read
      rw [function_read] at hresult
      cases b with
      | true =>
        rw [stringName_eq_some_iff hresult.symm]
        constructor
        · intro spells
          exact ⟨first, .argument call (importer.1 rfl), spells⟩
        · rintro ⟨literal, names, spells⟩
          rwa [((names_of_call call).1 names).1] at spells
      | false =>
        cases hresult
        refine iff_of_false (by simp) ?_
        rintro ⟨literal, names, -⟩
        exact absurd (importer.2 ((names_of_call call).1 names).2) (by simp)
  | neither statement call =>
    cases hresult
    refine iff_of_false (by simp) ?_
    rintro ⟨literal, ⟨other, field⟩ | ⟨other, -⟩, -⟩
    · rw [statement other] at field
      cases field
    · exact call _ _ other

end ImportName

/-! ## Nodes in order -/

section Along

variable {α β : Type} {f : α → Except Text.Utf8.Error β}

theorem mapM_eq_ok_iff {as : List α} {bs : List β} :
    as.mapM f = .ok bs ↔ List.Forall₂ (fun a b => f a = .ok b) as bs := by
  induction as generalizing bs with
  | nil => cases bs <;> simp [pure, Except.pure]
  | cons a as ih =>
    rw [List.mapM_cons]
    cases first : f a with
    | error e => cases bs <;> simp [first, bind, Except.bind]
    | ok b =>
      cases others : as.mapM f with
      | error e => cases bs <;> simp [first, ← ih, others, bind, Except.bind]
      | ok rest => cases bs <;> simp [first, ← ih, others, bind, Except.bind, pure, Except.pure]

/-- The first element that fails decides. -/
theorem mapM_eq_error_iff {as : List α} {e : Text.Utf8.Error} :
    as.mapM f = .error e ↔
      ∃ before a after, as = before ++ a :: after ∧ (∀ other ∈ before, ∃ b, f other = .ok b) ∧
        f a = .error e := by
  -- a head that fails is the first to fail, and one that does not is one more element before it
  induction as with
  | nil => simp [pure, Except.pure]
  | cons a as ih =>
    rw [List.mapM_cons]
    cases first : f a with
    | error e' =>
      constructor
      · rintro ⟨⟩
        exact ⟨[], a, as, rfl, by simp, first⟩
      · rintro ⟨before, a', after, split, fine, failed⟩
        cases before with
        | nil =>
          obtain ⟨rfl, rfl⟩ := List.cons.inj split
          rw [first] at failed
          cases failed
          rfl
        | cons other before =>
          obtain ⟨rfl, rfl⟩ := List.cons.inj split
          obtain ⟨b, answered⟩ := fine a List.mem_cons_self
          rw [first] at answered
          cases answered
    | ok b =>
      have rest : (do let bs ← as.mapM f; pure (b :: bs) : Except Text.Utf8.Error (List β)) =
          .error e ↔ as.mapM f = .error e := by
        cases as.mapM f <;> simp [bind, Except.bind, pure, Except.pure]
      refine rest.trans (ih.trans ⟨?_, ?_⟩)
      · rintro ⟨before, a', after, rfl, fine, failed⟩
        refine ⟨a :: before, a', after, rfl, ?_, failed⟩
        intro other hother
        rcases List.mem_cons.1 hother with rfl | hother
        · exact ⟨b, first⟩
        · exact fine other hother
      · rintro ⟨before, a', after, split, fine, failed⟩
        cases before with
        | nil =>
          obtain ⟨rfl, rfl⟩ := List.cons.inj split
          rw [first] at failed
          cases failed
        | cons other before =>
          obtain ⟨rfl, rfl⟩ := List.cons.inj split
          exact ⟨before, a', after, rfl, fun x hx => fine x (List.mem_cons_of_mem _ hx), failed⟩

end Along

theorem preorder_eq (t : Tree) : t.preorder = t :: preorderAll t.children := by
  cases t
  rfl

theorem size_eq (t : Tree) : t.size = 1 + sizeAll t.children := by
  cases t
  rfl

theorem preorderAll_append (ts us : List Tree) :
    preorderAll (ts ++ us) = preorderAll ts ++ preorderAll us := by
  induction ts with
  | nil => rfl
  | cons t ts ih => simp [preorderAll, ih]

theorem sizeAll_append (ts us : List Tree) : sizeAll (ts ++ us) = sizeAll ts + sizeAll us := by
  induction ts with
  | nil => simp [sizeAll]
  | cons t ts ih => simp [sizeAll, ih, Nat.add_assoc]

/-- The nodes that are still to be visited, when the tree on top of the stack is replaced by its
children. -/
theorem preorderAll_cons (t : Tree) (stack : List Tree) :
    preorderAll (t :: stack) = t :: preorderAll (t.children ++ stack) := by
  rw [preorderAll, preorder_eq, List.cons_append, preorderAll_append]

/-- Visiting the trees on a stack takes their nodes in preorder. -/
theorem visit_eq (bytes : List UInt8) {steps : Nat} {stack : List Tree}
    (enough : sizeAll stack ≤ steps) (names : List String) :
    visit bytes steps stack names =
      ((preorderAll stack).mapM (importName bytes)).map fun found => found.foldl addName names := by
  -- on the steps; each of them takes one node from the stack and adds its name
  induction steps generalizing stack names with
  | zero =>
    cases stack with
    | nil => rfl
    | cons t stack =>
      rw [sizeAll, size_eq] at enough
      omega
  | succ steps ih =>
    cases stack with
    | nil => rfl
    | cons t stack =>
      have less : sizeAll (t.children ++ stack) ≤ steps := by
        rw [sizeAll, size_eq] at enough
        rw [sizeAll_append]
        omega
      rw [visit, preorderAll_cons, List.mapM_cons]
      cases importName bytes t with
      | error e => rfl
      | ok own =>
        refine (ih less (addName names own)).trans ?_
        cases (preorderAll (t.children ++ stack)).mapM (importName bytes) <;> rfl

theorem foldl_addName (found : List (Option String)) (names : List String) :
    found.foldl addName names =
      (found.filterMap id).foldl
        (fun names name => if names.contains name then names else names ++ [name]) names := by
  induction found generalizing names with
  | nil => rfl
  | cons own found ih =>
    cases own with
    | none => exact ih names
    | some name => exact ih (addName names (some name))

/-- The scan reads the names of the nodes in preorder and keeps each at its first place. -/
theorem imports_eq (bytes : List UInt8) (t : Tree) :
    t.imports bytes =
      (t.preorder.mapM (importName bytes)).map fun found => (found.filterMap id).eraseDups := by
  have all : preorderAll [t] = t.preorder := by
    rw [preorderAll, preorderAll, List.append_nil]
  rw [imports, visit_eq bytes (by simp [sizeAll]), all]
  congr 1
  funext found
  rw [foldl_addName, Text.foldl_addNew]

/-! ## The scan -/

/-- What a node contributes: its texts are UTF-8, and `own` is the module that it imports. -/
def Contribution (bytes : List UInt8) (node : Tree) (own : Option String) : Prop :=
  Legible bytes node ∧ ∀ name, own = some name ↔ Contributes bytes node name

theorem exists_importName_iff {bytes : List UInt8} {node : Tree} :
    (∃ own, importName bytes node = .ok own) ↔ Legible bytes node := by
  constructor
  · rintro ⟨own, read⟩ s demanded
    cases text : s.text bytes with
    | ok content => exact ⟨content, rfl⟩
    | error e =>
      have failed := importName_eq_error_iff.2 ⟨s, demanded, text⟩
      rw [read] at failed
      cases failed
  · intro legible
    cases read : importName bytes node with
    | ok own => exact ⟨own, rfl⟩
    | error e =>
      obtain ⟨s, demanded, failed⟩ := importName_eq_error_iff.1 read
      obtain ⟨text, decoded⟩ := legible s demanded
      rw [decoded] at failed
      cases failed

theorem importName_eq_ok_iff {bytes : List UInt8} {node : Tree} {own : Option String} :
    importName bytes node = .ok own ↔ Contribution bytes node own := by
  constructor
  · intro read
    exact ⟨exists_importName_iff.1 ⟨own, read⟩, importName_eq_some_iff read⟩
  · rintro ⟨legible, contributes⟩
    obtain ⟨other, read⟩ := exists_importName_iff.2 legible
    have same : other = own := by
      ext name
      exact (importName_eq_some_iff read name).trans (contributes name).symm
    rw [read, same]

/-- The scan finds what the nodes contribute, in preorder and each module at its first place. -/
theorem imports_eq_ok_iff {bytes : List UInt8} {t : Tree} {names : List String} :
    t.imports bytes = .ok names ↔
      ∃ found, List.Forall₂ (Contribution bytes) t.preorder found ∧
        names = (found.filterMap id).eraseDups := by
  have read (found : List (Option String)) :
      List.Forall₂ (Contribution bytes) t.preorder found ↔
        t.preorder.mapM (importName bytes) = .ok found := by
    simp only [mapM_eq_ok_iff, importName_eq_ok_iff]
  simp only [read, imports_eq]
  cases t.preorder.mapM (importName bytes) <;> simp [Except.map, eq_comm]

/-- The scan fails at the first node that demands a text that is not UTF-8. -/
theorem imports_eq_error_iff {bytes : List UInt8} {t : Tree} {e : Text.Utf8.Error} :
    t.imports bytes = .error e ↔
      ∃ before node after, t.preorder = before ++ node :: after ∧
        (∀ earlier ∈ before, Legible bytes earlier) ∧ Illegible bytes node e := by
  have failed : t.imports bytes = .error e ↔ t.preorder.mapM (importName bytes) = .error e := by
    rw [imports_eq]
    cases t.preorder.mapM (importName bytes) <;> simp [Except.map]
  simp only [failed, mapM_eq_error_iff, exists_importName_iff, importName_eq_error_iff]

/-- The scan of a tree finds the modules that the nodes of the tree import, in preorder and each at
its first place, unless a node demands a text that is not UTF-8. The first such node in preorder
ends the scan with its fault. -/
theorem imports_preorder (bytes : List UInt8) (t : Tree) :
    ((∃ names, t.imports bytes = .ok names) ↔ ∀ node ∈ t.preorder, Legible bytes node) ∧
    (∀ names, t.imports bytes = .ok names ↔
      ∃ found, List.Forall₂ (Contribution bytes) t.preorder found ∧
        names = (found.filterMap id).eraseDups ∧ names.Nodup ∧
        names.Pairwise fun x y => (found.filterMap id).idxOf x < (found.filterMap id).idxOf y) ∧
    ∀ e, t.imports bytes = .error e ↔
      ∃ before node after, t.preorder = before ++ node :: after ∧
        (∀ earlier ∈ before, Legible bytes earlier) ∧ Illegible bytes node e := by
  refine ⟨⟨?_, ?_⟩, fun names => ⟨?_, ?_⟩, fun e => imports_eq_error_iff⟩
  · rintro ⟨names, scanned⟩
    obtain ⟨found, contributed, -⟩ := imports_eq_ok_iff.1 scanned
    exact ((List.forall₂_and_left _ _).1 contributed).1
  · intro legible
    cases scanned : t.imports bytes with
    | ok names => exact ⟨names, rfl⟩
    | error e =>
      obtain ⟨before, node, after, split, -, s, demanded, failed⟩ := imports_eq_error_iff.1 scanned
      obtain ⟨content, decoded⟩ := legible node (by simp [split]) s demanded
      rw [decoded] at failed
      cases failed
  · intro scanned
    obtain ⟨found, contributed, rfl⟩ := imports_eq_ok_iff.1 scanned
    exact ⟨found, contributed, rfl, Text.nodup_eraseDups _, Text.pairwise_idxOf_eraseDups _⟩
  · rintro ⟨found, contributed, kept, -⟩
    exact imports_eq_ok_iff.2 ⟨found, contributed, kept⟩

/-- A call that imports `a`, below a statement that imports `b`. The function and the arguments of
the call stand outside of its children. -/
def callBelowStatement : Tree :=
  let a : Tree := .node "string" 0 3 [] []
  let b : Tree := .node "string" 3 6 [] []
  let call : Tree := .node "call_expression" 0 3 []
    [("function", .node "import" 0 0 [] []), ("arguments", .node "arguments" 0 3 [a] [])]
  .node "import_statement" 0 6 [call, b] [("source", b)]

/-- The bytes of the two names, each in quotes. -/
def quotedNames : List UInt8 := [39, 97, 39, 39, 98, 39]

/-- The statement comes before the call in it. -/
theorem imports_preorder_call :
    callBelowStatement.imports quotedNames = .ok ["b", "a"] ∧
    (∀ node ∈ callBelowStatement.preorder, Legible quotedNames node) ∧
    ∃ found, List.Forall₂ (Contribution quotedNames) callBelowStatement.preorder found ∧
      ["b", "a"] = (found.filterMap id).eraseDups := by
  have scanned : callBelowStatement.imports quotedNames = .ok ["b", "a"] := by rfl
  obtain ⟨legible, contributed, -⟩ := imports_preorder quotedNames callBelowStatement
  obtain ⟨found, contributions, kept, -⟩ := (contributed ["b", "a"]).1 scanned
  exact ⟨scanned, legible.1 ⟨_, scanned⟩, found, contributions, kept⟩

end ModuleResolution.Source.Tree
