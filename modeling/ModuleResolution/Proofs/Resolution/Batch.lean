import Mathlib.Algebra.Ring.Nat
import Mathlib.Data.List.Forall2
import ModuleResolution.Proofs.Lookup.Questions
import ModuleResolution.Resolution

/-!
# Batches of names

A request for several names of a file does the same as requests for one name after the other. The
names of a file are resolved by one rule that depends on the file alone (`rule`), so a batch is
that rule carried along a list (`answer_resolve`, `questions_resolve`). A list of names that all
have an outcome gives these outcomes in order and asks the questions of all of them
(`answer_each_iff`, `questions_each`). Two lists in a row are the first list and, unless a name in it
has no outcome, the second one (`answer_each_append`, `questions_each_append`).

`Session.resolve` is a request made to an index and to files that count their questions. The laws of
batches are stated for it (`resolve_batch`).
-/

set_option autoImplicit false

namespace ModuleResolution.Resolution

open Dependency (Index)

/-! ## Names along a list -/

section Each

variable (fs : FileSystem) (resolve : String → Lookup Outcome)

theorem answer_each_cons (name : String) (names : List String) :
    (each resolve (name :: names)).answer fs =
      ((resolve name).answer fs >>= fun outcome =>
        (each resolve names).answer fs >>= fun outcomes => .ok (outcome :: outcomes)) := by
  simp [each]

theorem questions_each_cons (name : String) (names : List String) :
    (each resolve (name :: names)).questions fs =
      (resolve name).questions fs +
        match (resolve name).answer fs with
        | .ok _ => (each resolve names).questions fs
        | .error _ => 0 := by
  rw [each, Lookup.questions_bind]
  cases (resolve name).answer fs with
  | error failure => rfl
  | ok outcome =>
    -- putting the outcome in front asks nothing more
    simp only [Lookup.questions_bind, Lookup.questions_pure]
    cases (each resolve names).answer fs <;> simp

/-- A list of names has outcomes just when every name has its own. -/
theorem answer_each_iff {names : List String} {outcomes : List Outcome} :
    (each resolve names).answer fs = .ok outcomes ↔
      List.Forall₂ (fun name outcome => (resolve name).answer fs = .ok outcome) names outcomes := by
  induction names generalizing outcomes with
  | nil => cases outcomes <;> simp [each]
  | cons name names ih =>
    rw [answer_each_cons]
    cases h : (resolve name).answer fs with
    | error failure => cases outcomes <;> simp [h]
    | ok first =>
      cases hs : (each resolve names).answer fs with
      | error failure => cases outcomes <;> simp [h, ← ih, hs]
      | ok rest => cases outcomes <;> simp [h, ← ih, hs]

/-- Names that all have an outcome ask the questions of all of them. -/
theorem questions_each {names : List String}
    (h : ∀ name ∈ names, ∃ outcome, (resolve name).answer fs = .ok outcome) :
    (each resolve names).questions fs =
      (names.map fun name => (resolve name).questions fs).sum := by
  induction names with
  | nil => rfl
  | cons name names ih =>
    obtain ⟨outcome, hname⟩ := h name List.mem_cons_self
    rw [questions_each_cons, hname, List.map_cons, List.sum_cons,
      ← ih fun other hother => h other (List.mem_cons_of_mem name hother)]

theorem exists_outcomes {names : List String}
    (h : ∀ name ∈ names, ∃ outcome, (resolve name).answer fs = .ok outcome) :
    ∃ outcomes, (each resolve names).answer fs = .ok outcomes := by
  induction names with
  | nil => exact ⟨[], rfl⟩
  | cons name names ih =>
    obtain ⟨outcome, hname⟩ := h name List.mem_cons_self
    obtain ⟨outcomes, hnames⟩ := ih fun other hother => h other (List.mem_cons_of_mem name hother)
    exact ⟨outcome :: outcomes, by rw [answer_each_cons, hname, hnames]; rfl⟩

/-- Two lists of names in a row. -/
theorem answer_each_append (xs ys : List String) :
    (each resolve (xs ++ ys)).answer fs =
      ((each resolve xs).answer fs >>= fun before =>
        (each resolve ys).answer fs >>= fun after => .ok (before ++ after)) := by
  induction xs with
  | nil =>
    cases h : (each resolve ys).answer fs <;> simp [each, h]
  | cons name xs ih =>
    rw [List.cons_append, answer_each_cons, answer_each_cons, ih]
    cases (resolve name).answer fs with
    | error failure => rfl
    | ok outcome =>
      cases (each resolve xs).answer fs with
      | error failure => rfl
      | ok before => cases (each resolve ys).answer fs <;> rfl

theorem questions_each_append (xs ys : List String) :
    (each resolve (xs ++ ys)).questions fs =
      (each resolve xs).questions fs +
        match (each resolve xs).answer fs with
        | .ok _ => (each resolve ys).questions fs
        | .error _ => 0 := by
  induction xs with
  | nil => simp [each]
  | cons name xs ih =>
    rw [List.cons_append, questions_each_cons, questions_each_cons, answer_each_cons, ih]
    cases (resolve name).answer fs with
    | error failure => simp
    | ok outcome =>
      cases (each resolve xs).answer fs with
      | error failure => simp
      | ok before => simp [Nat.add_assoc]

end Each

/-! ## The names of one file -/

/-- How a name of a file is resolved: the same way for every name of the file. -/
def rule (index : Index) (file : String) : String → Lookup Outcome :=
  match index.get? file with
  | some record => fromRecord record
  | none =>
    if isDeclarationFile file then fromDisk file
    else fun _ => pure (.unresolved .unknownContainingFile)

theorem answer_each_unknown (fs : FileSystem) (outcome : Outcome) (names : List String) :
    (each (fun _ => pure outcome) names).answer fs = .ok (names.map fun _ => outcome) := by
  rw [answer_each_iff]
  induction names with
  | nil => exact .nil
  | cons name names ih => exact .cons rfl ih

theorem questions_each_unknown (fs : FileSystem) (outcome : Outcome) (names : List String) :
    (each (fun _ => pure outcome) names).questions fs = 0 := by
  rw [questions_each fs _ fun _ _ => ⟨outcome, rfl⟩]
  simp

variable (fs : FileSystem) (index : Index) (file : String) (names : List String)

/-- A request carries the rule of the file along its names. -/
theorem answer_resolve :
    (resolve index file (.list names)).answer fs = (each (rule index file) names).answer fs := by
  have all : (resolve index file (.list names)).answer fs =
      (resolveAll index file names).answer fs := rfl
  rw [all, resolveAll, rule]
  cases index.get? file with
  | some record => simp
  | none =>
    cases isDeclarationFile file with
    | true => simp
    | false => simp [answer_each_unknown]

/-- A request asks what the rule of the file asks for its names. -/
theorem questions_resolve :
    (resolve index file (.list names)).questions fs =
      (each (rule index file) names).questions fs := by
  have all : (resolve index file (.list names)).questions fs =
      (resolveAll index file names).questions fs := by
    rw [resolve, Lookup.questions_bind_ok (a := names) rfl]
    exact Nat.zero_add _
  rw [all, resolveAll, rule, Lookup.questions_bind_ok (a := ()) rfl]
  cases index.get? file with
  | some record => simp
  | none =>
    cases isDeclarationFile file with
    | true => simp
    | false => simp [questions_each_unknown, Lookup.questions_bind]

/-- A request for a single name has the outcome of that name. -/
theorem answer_resolve_singleton (name : String) :
    (resolve index file (.list [name])).answer fs =
      ((rule index file name).answer fs).map fun outcome => [outcome] := by
  rw [answer_resolve, answer_each_cons]
  cases (rule index file name).answer fs <;> rfl

theorem questions_resolve_singleton (name : String) :
    (resolve index file (.list [name])).questions fs = (rule index file name).questions fs := by
  rw [questions_resolve, questions_each_cons]
  cases (rule index file name).answer fs <;> rfl

/-! ## Requests to counting files -/

/-- An index, and files that count what they are asked. -/
structure Session where
  index : Index
  files : Files.Counted

namespace Session

/-- The same session after some more questions about its files. -/
def after (s : Session) (questions : Nat) : Session :=
  { s with files := s.files.after questions }

/-- Carries out a request for names of a file. -/
def resolve (s : Session) (file : String) (names : List String) :
    Except Failure (List Outcome) × Session :=
  let (result, files) := (Resolution.resolve s.index file (.list names)).carryOut s.files
  (result, { s with files })

/-- How many questions a request for a single name asks. -/
def cost (s : Session) (file name : String) : Nat :=
  (Resolution.resolve s.index file (.list [name])).questions s.files.fileSystem

variable (s : Session) (file : String)

/-- A request leaves the index and the files as they were, with the questions counted. -/
theorem resolve_eq (names : List String) :
    s.resolve file names =
      ((each (rule s.index file) names).answer s.files.fileSystem,
        s.after ((each (rule s.index file) names).questions s.files.fileSystem)) := by
  rw [resolve, Lookup.carryOut_eq, answer_resolve, questions_resolve]
  rfl

/-- A name alone has the outcome that the rule of the file gives it. -/
theorem resolve_singleton (name : String) :
    (s.resolve file [name]).1 =
      ((rule s.index file name).answer s.files.fileSystem).map fun outcome => [outcome] := by
  rw [← answer_resolve_singleton, resolve, Lookup.carryOut_eq]

theorem resolve_singleton_eq_ok {name : String} {outcomes : List Outcome} :
    (s.resolve file [name]).1 = .ok outcomes ↔
      ∃ outcome, (rule s.index file name).answer s.files.fileSystem = .ok outcome ∧
        outcomes = [outcome] := by
  rw [resolve_singleton]
  cases (rule s.index file name).answer s.files.fileSystem <;> simp [Except.map, eq_comm]

theorem resolve_singleton_eq_error {name : String} {failure : Failure} :
    (s.resolve file [name]).1 = .error failure ↔
      (rule s.index file name).answer s.files.fileSystem = .error failure := by
  rw [resolve_singleton]
  cases (rule s.index file name).answer s.files.fileSystem <;> simp [Except.map]

theorem cost_eq (name : String) :
    s.cost file name = (rule s.index file name).questions s.files.fileSystem :=
  questions_resolve_singleton _ _ _ _

/-- Names that each have an outcome alone have outcomes under the rule of the file. -/
theorem exists_rule_outcome {names : List String}
    (h : ∀ name ∈ names, ∃ outcomes, (s.resolve file [name]).1 = .ok outcomes) :
    ∀ name ∈ names,
      ∃ outcome, (rule s.index file name).answer s.files.fileSystem = .ok outcome := by
  intro name hname
  obtain ⟨outcomes, halone⟩ := h name hname
  obtain ⟨outcome, ruled, -⟩ := (s.resolve_singleton_eq_ok file).1 halone
  exact ⟨outcome, ruled⟩

/-- Names that each have an outcome alone have these outcomes together, at the cost of all. -/
theorem resolve_of_singletons {names : List String}
    (h : ∀ name ∈ names, ∃ outcomes, (s.resolve file [name]).1 = .ok outcomes) :
    ∃ outcomes,
      s.resolve file names = (.ok outcomes, s.after (names.map (s.cost file)).sum) ∧
        List.Forall₂ (fun name outcome => (s.resolve file [name]).1 = .ok [outcome])
          names outcomes := by
  have ruled := exists_rule_outcome s file h
  obtain ⟨outcomes, hall⟩ := exists_outcomes _ _ ruled
  refine ⟨outcomes, ?_, ?_⟩
  · rw [resolve_eq, hall, questions_each _ _ ruled, funext (s.cost_eq file)]
  · exact ((answer_each_iff _ _).1 hall).imp fun name outcome ruled =>
      (s.resolve_singleton_eq_ok file).2 ⟨outcome, ruled, rfl⟩

/-- Names in two parts are the first part and then, unless it fails, the second part. -/
theorem resolve_append (xs ys : List String) :
    s.resolve file (xs ++ ys) =
      match s.resolve file xs with
      | (.error failure, s') => (.error failure, s')
      | (.ok before, s') =>
        ((s'.resolve file ys).1.map (before ++ ·), (s'.resolve file ys).2) := by
  rw [resolve_eq, resolve_eq, answer_each_append, questions_each_append]
  cases (each (rule s.index file) xs).answer s.files.fileSystem with
  | error failure => rfl
  | ok before =>
    -- the first part leaves the same index and the same files to the second one
    have same : (s.files.after ((each (rule s.index file) xs).questions
        s.files.fileSystem)).fileSystem = s.files.fileSystem := rfl
    simp only [resolve_eq, after, same, Files.Counted.after_after, Lookup.ok_bind]
    cases (each (rule s.index file) ys).answer s.files.fileSystem with
    | error failure => rfl
    | ok rest => rfl

/-- The first name that fails ends a request: no question is asked for the names behind it. -/
theorem resolve_of_first_error {before : List String} {name : String} {failure : Failure}
    (h : ∀ earlier ∈ before, ∃ outcomes, (s.resolve file [earlier]).1 = .ok outcomes)
    (hname : (s.resolve file [name]).1 = .error failure) (rest : List String) :
    s.resolve file (before ++ name :: rest) =
      (.error failure, s.after ((before ++ [name]).map (s.cost file)).sum) := by
  have ruled := exists_rule_outcome s file h
  obtain ⟨outcomes, hbefore⟩ := exists_outcomes _ _ ruled
  have failed := (s.resolve_singleton_eq_error file).1 hname
  rw [resolve_eq, answer_each_append, questions_each_append, answer_each_cons,
    questions_each_cons, hbefore, failed, questions_each _ _ ruled, funext (s.cost_eq file)]
  simp

/-- A batch is its names one after the other. When every name alone has an outcome, the batch has
exactly these outcomes in order and asks as many questions as the names alone; two batches in a row
are one batch; and the first name that fails alone ends the batch with its failure, after the
questions for the names up to this one. The index and the files are the same afterwards. -/
theorem resolve_batch :
    (∀ name, (s.resolve file [name]).2 = s.after (s.cost file name)) ∧
      (∀ names, (∀ name ∈ names, ∃ outcomes, (s.resolve file [name]).1 = .ok outcomes) →
        ∃ outcomes,
          s.resolve file names = (.ok outcomes, s.after (names.map (s.cost file)).sum) ∧
            outcomes.length = names.length ∧
            List.Forall₂ (fun name outcome => (s.resolve file [name]).1 = .ok [outcome])
              names outcomes) ∧
      (∀ xs ys, s.resolve file (xs ++ ys) =
        match s.resolve file xs with
        | (.error failure, s') => (.error failure, s')
        | (.ok before, s') =>
          ((s'.resolve file ys).1.map (before ++ ·), (s'.resolve file ys).2)) ∧
      ∀ before name rest failure,
        (∀ earlier ∈ before, ∃ outcomes, (s.resolve file [earlier]).1 = .ok outcomes) →
        (s.resolve file [name]).1 = .error failure →
        s.resolve file (before ++ name :: rest) =
          (.error failure, s.after ((before ++ [name]).map (s.cost file)).sum) := by
  refine ⟨fun name => ?_, fun names h => ?_, s.resolve_append file,
    fun before name rest failure h hname => s.resolve_of_first_error file h hname rest⟩
  · rw [resolve, Lookup.carryOut_eq]
    rfl
  · obtain ⟨outcomes, hall, alone⟩ := s.resolve_of_singletons file h
    exact ⟨outcomes, hall, alone.length_eq.symm, alone⟩

/-- Two packages installed in `/p`: one with declarations, and one whose manifest is broken. -/
def onePackageBroken : Session where
  index := .empty
  files :=
    ⟨.ofList [("/p/package.json", "\x7b\x7d"), ("/p/node_modules/good/package.json", "\x7b\x7d"),
      ("/p/node_modules/good/index.d.ts", ""), ("/p/node_modules/bad/package.json", "nope")],
      1, 0⟩

/-- What is wrong with the broken package. -/
def brokenManifest : Failure :=
  .manifest "/p/node_modules/bad/package.json" (.malformed .value 1 1 0)

theorem resolve_batch_onePackageBroken :
    (∀ earlier ∈ ["fs", "good"],
        ∃ outcomes, (onePackageBroken.resolve "/p/a.d.ts" [earlier]).1 = .ok outcomes) ∧
      (onePackageBroken.resolve "/p/a.d.ts" ["bad"]).1 = .error brokenManifest ∧
      (∃ outcomes, onePackageBroken.resolve "/p/a.d.ts" ["fs", "good"] =
        (.ok outcomes, onePackageBroken.after 4) ∧ outcomes.length = 2) ∧
      onePackageBroken.resolve "/p/a.d.ts" ["fs", "good", "bad", "good"] =
        (.error brokenManifest, onePackageBroken.after 7) := by
  have alone : ∀ earlier ∈ ["fs", "good"],
      ∃ outcomes, (onePackageBroken.resolve "/p/a.d.ts" [earlier]).1 = .ok outcomes := by
    intro earlier hearlier
    rcases List.mem_pair.1 hearlier with rfl | rfl
    · exact ⟨[.unresolved .builtin], by decide +kernel⟩
    · exact ⟨[.resolved "/p/node_modules/good/index.d.ts"], by decide +kernel⟩
  have broken : (onePackageBroken.resolve "/p/a.d.ts" ["bad"]).1 = .error brokenManifest := by
    decide +kernel
  obtain ⟨-, whole, -, ended⟩ := resolve_batch onePackageBroken "/p/a.d.ts"
  obtain ⟨outcomes, together, count, -⟩ := whole ["fs", "good"] alone
  have four : (["fs", "good"].map (onePackageBroken.cost "/p/a.d.ts")).sum = 4 := by decide +kernel
  have seven : ((["fs", "good"] ++ ["bad"]).map (onePackageBroken.cost "/p/a.d.ts")).sum = 7 := by
    decide +kernel
  exact ⟨alone, broken, ⟨outcomes, four ▸ together, count⟩,
    seven ▸ ended ["fs", "good"] "bad" ["good"] brokenManifest alone broken⟩

end Session

end ModuleResolution.Resolution
