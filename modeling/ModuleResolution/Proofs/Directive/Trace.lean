import ModuleResolution.Proofs.Directive.Candidates
import ModuleResolution.Proofs.Resolution.Trace

/-!
# The trace of a request

The trace tells exactly what a request gave, for modules as well as for type directives: a line for
the file, and behind it one line for each name that has an answer, in order (`trace_tells`). A name
without an answer ends the request, and neither it nor a name behind it has a line.

For directives this holds of every way to resolve one of them. It is used once for each name, up to
the first one that fails, and its answers are handed on as they are. A resolver has no access to the
trace, so it is taken to be silent, as that of this library is (`Directive.silent_resolveOne`). In
general the lines that a resolver writes stand before the line of the name
(`Directive.run_resolve`).
-/

set_option autoImplicit false

namespace ModuleResolution

open Lookup (Silent Course inTurn told written)

namespace Directive

open Resolution (decisionLine)

/-! ## The search for a directive is silent -/

theorem silent_firstOf (paths : List String) : Silent (firstOf paths) := by
  induction paths with
  | nil => exact .pure (none, [])
  | cons path paths ih =>
    refine .bind (.exists? path) fun found => ?_
    cases found with
    | true => exact .pure (some path, [])
    | false => exact .bind ih fun result => .pure _

theorem silent_tryFields (dir : String) (manifest : Package.Manifest) (fields : List String) :
    Silent (tryFields dir manifest fields) := by
  induction fields with
  | nil => exact .pure (none, [])
  | cons field fields ih =>
    rw [tryFields_cons]
    cases Package.textField manifest field with
    | none => exact ih
    | some value =>
      refine .bind (.exists? _) fun found => ?_
      cases found with
      | true => exact .pure _
      | false => exact .bind ih fun result => .pure _

theorem silent_orElse {x y : Lookup Search} (hx : Silent x) (hy : Silent y) :
    Silent (orElse x y) := by
  refine .bind hx fun result => ?_
  obtain ⟨found, failed⟩ := result
  cases found with
  | some path => exact .pure (some path, failed)
  | none => exact .bind hy fun further => .pure _

theorem silent_tryNamed (dir : String) : Silent (tryNamed dir) := by
  refine .bind (.exists? _) fun found => ?_
  cases found with
  | true =>
    exact .bind (Package.silent_readManifest _) fun manifest => silent_tryFields dir manifest _
  | false => exact .pure _

theorem silent_tryPackage (dir : String) : Silent (tryPackage dir) :=
  silent_orElse (silent_tryNamed dir) (silent_firstOf _)

theorem silent_firstFound {α : Type} {search : α → Lookup Search} (h : ∀ a, Silent (search a))
    (as : List α) : Silent (firstFound search as) := by
  induction as with
  | nil => exact .pure (none, [])
  | cons a as ih => exact silent_orElse (h a) ih

theorem silent_existing (paths : List String) : Silent (existing paths) := by
  induction paths with
  | nil => exact .pure []
  | cons path paths ih => exact .bind (.exists? path) fun here => .bind ih fun further => .pure _

theorem silent_typeRoots (options : Options) (dir : String) : Silent (typeRoots options dir) := by
  unfold typeRoots
  cases options.typeRoots with
  | some roots => exact .pure roots
  | none => cases options.configDir <;> exact silent_existing _

theorem silent_tryInstalled (name dir : String) : Silent (tryInstalled name dir) := by
  unfold tryInstalled
  split
  · exact .pure (none, [])
  · refine .bind (.exists? _) fun found => ?_
    cases found with
    | false => exact .pure (none, [])
    | true => exact silent_orElse (silent_firstOf _) (silent_firstFound silent_tryPackage _)

theorem silent_resolveOne (options : Options) (file name : String) :
    Silent (resolveOne options file name) := by
  refine .bind (silent_typeRoots options _) fun roots => ?_
  refine .bind (silent_firstFound (fun root => silent_tryPackage _) roots) fun result => ?_
  obtain ⟨found, failed⟩ := result
  cases found with
  | some path => exact .pure _
  | none => exact .bind (silent_firstFound (silent_tryInstalled name) _) fun further => .pure _

/-! ## The line of a directive -/

/-- The line that tells what became of a directive, word by word: the hit with its flag, or all
locations where the search failed. -/
def answerLine (name : String) (answer : Answer) : String :=
  match answer.hit with
  | some ⟨path, true⟩ => "   " ++ name ++ " → P " ++ path
  | some ⟨path, false⟩ => "   " ++ name ++ " → !P " ++ path
  | none => "   " ++ name ++ " → FAILED: " ++ ", ".intercalate answer.failed

theorem decisionLine_eq (name : String) (answer : Answer) :
    decisionLine name (decision answer) = answerLine name answer := by
  obtain ⟨hit, failed⟩ := answer
  cases hit with
  | none => exact Resolution.decisionLine_append rfl name _
  | some hit =>
    obtain ⟨path, primary⟩ := hit
    cases primary with
    | true => exact Resolution.decisionLine_append rfl name path
    | false => exact Resolution.decisionLine_append rfl name path

/-- A directive is resolved, and then the line of its answer is written. -/
def announced (resolve : String → Lookup Answer) (name : String) : Lookup Answer := do
  let answer ← resolve name
  Lookup.trace (decisionLine name (decision answer))
  return answer

theorem each_eq_inTurn (resolve : String → Lookup Answer) (names : List String) :
    each resolve names = inTurn (announced resolve) names := by
  induction names with
  | nil => rfl
  | cons name names ih =>
    rw [each, inTurn, announced, Lookup.bind_assoc, ih]
    rfl

section Announced

variable (fs : FileSystem) (resolve : String → Lookup Answer) (name : String)

theorem answer_announced : (announced resolve name).answer fs = (resolve name).answer fs := by
  rw [announced, Lookup.answer_bind]
  cases (resolve name).answer fs <;> rfl

theorem questions_announced :
    (announced resolve name).questions fs = (resolve name).questions fs := by
  rw [announced, Lookup.questions_bind]
  cases (resolve name).answer fs <;> rfl

theorem lines_announced :
    (announced resolve name).lines fs =
      (resolve name).lines fs ++ told (answerLine name) ((resolve name).answer fs) := by
  rw [announced, Lookup.lines_bind]
  cases (resolve name).answer fs with
  | error failure => rfl
  | ok answer => exact congrArg (_ ++ [·]) (decisionLine_eq name answer)

end Announced

/-- The line that stands before those of the directives of a file. -/
def headLine (file : String) : String := "resolveType: " ++ file

theorem run_resolve {fs : FileSystem} {resolver : Resolver} {options : Options} {file : String}
    {names answered : List String} {answers : List Answer} {stop : Option (String × Failure)}
    (course : Course (fun name => (resolver options file name).answer fs)
      names answered answers stop) :
    (resolve resolver options file (.list names)).run fs =
      ⟨Course.result answers stop,
        ((Course.asked answered stop).map fun name =>
          (resolver options file name).questions fs).sum,
        headLine file :: (Course.asked answered stop).flatMap fun name =>
          (resolver options file name).lines fs ++
            told (answerLine name) ((resolver options file name).answer fs)⟩ := by
  have all : resolve resolver options file (.list names) =
      Lookup.trace (headLine file) >>= fun _ => each (resolver options file) names := rfl
  have same : (fun name => (announced (resolver options file) name).answer fs) =
      fun name => (resolver options file name).answer fs := funext (answer_announced fs _)
  rw [← same] at course
  rw [all, each_eq_inTurn, Lookup.run_bind, Lookup.run_inTurn course]
  simp only [questions_announced, lines_announced]
  show Report.mk _ (0 + _) _ = _
  rw [Nat.zero_add]
  rfl

end Directive

/-! ## The trace of a request -/

section Trace

open Resolution (IsKnown outcomeLine rule)
open Directive (answerLine headLine)

/-- The trace of a request tells what was returned, on every terminal. In an indexed file or a
declaration file the lines are the file and a line for each name, with its outcome; if a name fails,
these are the names before it. In any other file there are two lines, whatever the names are. For
directives a resolver is used for each name up to the first one that fails, and asks and writes what
it does for these; a silent resolver leaves the line of the file and a line for each answer. -/
theorem trace_tells (reported : Terminal.Encodings) (fs : FileSystem) (file : String)
    (names : List String) :
    (∀ index, IsKnown index file →
      (∀ outcomes, (Resolution.resolve index file (.list names)).answer fs = .ok outcomes →
        outcomes.length = names.length ∧
          written reported fs (Resolution.resolve index file (.list names)) =
            (file :: List.zipWith outcomeLine names outcomes).map (Terminal.display reported)) ∧
      ∀ answered outcomes stop,
        Course (fun name => (rule index file name).answer fs) names answered outcomes stop →
        (Resolution.resolve index file (.list names)).answer fs = Course.result outcomes stop ∧
          written reported fs (Resolution.resolve index file (.list names)) =
            (file :: List.zipWith outcomeLine answered outcomes).map
              (Terminal.display reported)) ∧
    (∀ index, ¬ IsKnown index file →
      (Resolution.resolve index file (.list names)).answer fs =
          .ok (names.map fun _ => .unresolved .unknownContainingFile) ∧
        written reported fs (Resolution.resolve index file (.list names)) =
          [file, "   * → NO RESOLUTION: containing file not in list"].map
            (Terminal.display reported)) ∧
    ∀ (resolver : Directive.Resolver) (options : Options) answered answers stop,
      Course (fun name => (resolver options file name).answer fs) names answered answers stop →
      (Directive.resolve resolver options file (.list names)).run fs =
          ⟨Course.result answers stop,
            ((Course.asked answered stop).map fun name =>
              (resolver options file name).questions fs).sum,
            headLine file :: (Course.asked answered stop).flatMap fun name =>
              (resolver options file name).lines fs ++
                told (answerLine name) ((resolver options file name).answer fs)⟩ ∧
        ((∀ name ∈ names, (resolver options file name).lines fs = []) →
          written reported fs (Directive.resolve resolver options file (.list names)) =
            (headLine file :: List.zipWith answerLine answered answers).map
              (Terminal.display reported)) := by
  refine ⟨fun index known => ⟨fun outcomes returned => ?_, fun answered outcomes stop course => ?_⟩,
    fun index unknown => ?_, fun resolver options answered answers stop course => ?_⟩
  · obtain ⟨answered, outcomes', stop, course⟩ :=
      Lookup.exists_course (fun name => (rule index file name).answer fs) names
    obtain ⟨result, told⟩ := Resolution.run_resolve_of_known known course
    rw [returned] at result
    cases stop with
    | some stop => cases result
    | none =>
      obtain rfl := Except.ok.inj result
      obtain rfl := course.answered_eq
      exact ⟨course.length_eq, congrArg (List.map _) told⟩
  · obtain ⟨result, told⟩ := Resolution.run_resolve_of_known known course
    exact ⟨result, congrArg (List.map _) told⟩
  · obtain ⟨result, told⟩ := Resolution.run_resolve_of_unknown unknown fs names
    exact ⟨result, congrArg (List.map _) told⟩
  · have run := Directive.run_resolve course
    refine ⟨run, fun silent => ?_⟩
    have lines := congrArg Report.lines run
    have told_only : (Course.asked answered stop).flatMap (fun name =>
        (resolver options file name).lines fs ++
          told (answerLine name) ((resolver options file name).answer fs)) =
        List.zipWith answerLine answered answers := by
      rw [← course.flatMap_told answerLine]
      refine List.flatMap_congr fun name asked => ?_
      rw [silent name (course.asked_prefix.subset asked), List.nil_append]
    rw [told_only] at lines
    exact congrArg (List.map _) lines

/-- A package with declarations and one with a broken manifest, installed in `/p`. -/
def twoPackages : FileSystem where
  exists? path :=
    ["/p/package.json", "/p/node_modules", "/p/node_modules/good/package.json",
      "/p/node_modules/good/index.d.ts", "/p/node_modules/bad/package.json"].contains path
  read path := if path = "/p/node_modules/bad/package.json" then .ok "nope" else .ok "\x7b\x7d"
  nesting := 1

/-- A terminal that reports no encoding, so that the one of the locale counts. -/
def fromLocale : Terminal.Encodings := ⟨none, some "UTF-8"⟩

/-- What is wrong with the broken package. -/
def badManifest : Failure :=
  .manifest "/p/node_modules/bad/package.json" (.malformed .value 1 1 0)

theorem trace_tells_twoPackages :
    (IsKnown .empty "/p/a.d.ts" ∧ ¬ IsKnown .empty "/p/a.ts") ∧
    written ⟨some "ascii", none⟩ twoPackages
        (Resolution.resolve .empty "/p/a.d.ts" (.list ["fs", "good", "bad", "fs"])) =
      ["/p/a.d.ts", "   fs -> IGNORED: built-in module",
        "   good -> /p/node_modules/good/index.d.ts"] ∧
    written fromLocale twoPackages (Resolution.resolve .empty "/p/a.d.ts" (.list ["lib", "fs"])) =
      ["/p/a.d.ts", "   lib → NO RESOLUTION: cannot find .d.ts file",
        "   fs → IGNORED: built-in module"] ∧
    written fromLocale twoPackages
        (Resolution.resolve .empty "/p/a.ts" (.list ["fs", "good", "bad"])) =
      ["/p/a.ts", "   * → NO RESOLUTION: containing file not in list"] ∧
    written fromLocale twoPackages
        (Directive.resolve Directive.resolveOne .none "/p/a.ts" (.list ["good", "bad", "good"])) =
      ["resolveType: /p/a.ts", "   good → !P /p/node_modules/good/index.d.ts"] := by
  have known : IsKnown .empty "/p/a.d.ts" := .inr (by decide +kernel)
  have unknown : ¬ IsKnown .empty "/p/a.ts" := by
    unfold IsKnown
    decide +kernel
  refine ⟨⟨known, unknown⟩, ?_, ?_, ?_, ?_⟩
  · obtain ⟨here, -⟩ :=
      trace_tells ⟨some "ascii", none⟩ twoPackages "/p/a.d.ts" ["fs", "good", "bad", "fs"]
    have course : Course (fun name => (rule .empty "/p/a.d.ts" name).answer twoPackages)
        ["fs", "good", "bad", "fs"] ["fs", "good"]
        [.unresolved .builtin, .resolved "/p/node_modules/good/index.d.ts"]
        (some ("bad", badManifest)) :=
      .next (by decide +kernel) (.next (by decide +kernel) (.stop (by decide +kernel)))
    rw [((here .empty known).2 _ _ _ course).2]
    decide +kernel
  · obtain ⟨here, -⟩ := trace_tells fromLocale twoPackages "/p/a.d.ts" ["lib", "fs"]
    rw [((here .empty known).1 [.unresolved .noDeclaration, .unresolved .builtin]
      (by decide +kernel)).2]
    decide +kernel
  · obtain ⟨-, elsewhere, -⟩ := trace_tells fromLocale twoPackages "/p/a.ts" ["fs", "good", "bad"]
    rw [(elsewhere .empty unknown).2]
    decide +kernel
  · obtain ⟨-, -, directives⟩ :=
      trace_tells fromLocale twoPackages "/p/a.ts" ["good", "bad", "good"]
    have course : Course
        (fun name => (Directive.resolveOne .none "/p/a.ts" name).answer twoPackages)
        ["good", "bad", "good"] ["good"]
        [⟨some ⟨"/p/node_modules/good/index.d.ts", false⟩, ["/p/node_modules/good.d.ts"]⟩]
        (some ("bad", badManifest)) :=
      .next (by decide +kernel) (.stop (by decide +kernel))
    rw [(directives Directive.resolveOne .none _ _ _ course).2 fun name _ =>
      (Directive.silent_resolveOne _ _ name).lines_eq_nil _]
    decide +kernel

end Trace

end ModuleResolution
