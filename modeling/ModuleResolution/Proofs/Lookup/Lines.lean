import Mathlib.Algebra.Ring.Nat
import Mathlib.Data.List.Forall2
import ModuleResolution.Proofs.Lookup.Questions
import ModuleResolution.Script
import ModuleResolution.Terminal

/-!
# The lines of a lookup

`Lookup.lines` lists the trace lines of a lookup on a file system. A sequence writes the lines of
its first lookup and, unless that fails, those of the rest (`lines_bind`). They are what a script
shows that runs a lookup with its trace enabled (`Script.run_ofLookup`). `Lookup.Silent` holds of a
lookup that writes no line, whatever it is answered.

`inTurn` asks one lookup after the other. How far it comes is said by `Course`: some items are
answered, and then either there are no more items or the next one fails. Every list of items has a
course (`exists_course`), and the whole has the answers, the questions and the lines of the items on
its course (`run_inTurn`).
-/

set_option autoImplicit false

namespace ModuleResolution

variable {α β : Type}

namespace Lookup

/-! ## Lines -/

/-- The trace lines of a lookup, in order. -/
def lines (fs : FileSystem) (x : Lookup α) : List String :=
  (x.run fs).lines

theorem run_eq (fs : FileSystem) (x : Lookup α) :
    x.run fs = ⟨x.answer fs, x.questions fs, x.lines fs⟩ :=
  rfl

@[simp] theorem lines_trace (fs : FileSystem) (line : String) :
    (trace line).lines fs = [line] :=
  rfl

/-- A sequence writes the lines of its first lookup and, unless that fails, those of the rest. -/
theorem lines_bind (fs : FileSystem) (x : Lookup α) (f : α → Lookup β) :
    (x >>= f).lines fs =
      x.lines fs ++
        match x.answer fs with
        | .ok a => (f a).lines fs
        | .error _ => [] := by
  unfold lines answer
  rw [run_bind, Report.andThen]
  cases (x.run fs).result with
  | error failure => simp
  | ok a => rfl

theorem lines_bind_of_ok {fs : FileSystem} {x : Lookup α} {a : α} (h : x.answer fs = .ok a)
    (f : α → Lookup β) : (x >>= f).lines fs = x.lines fs ++ (f a).lines fs := by
  rw [lines_bind, h]

/-- Sequencing is associative. -/
theorem bind_assoc {γ : Type} (x : Lookup α) (f : α → Lookup β) (g : β → Lookup γ) :
    (x >>= f) >>= g = x >>= fun a => f a >>= g := by
  induction x with
  | done a => rfl
  | fail failure => rfl
  | probe path next ih => exact congrArg (Lookup.probe path) (funext ih)
  | text path next ih => exact congrArg (Lookup.text path) (funext ih)
  | nesting next ih => exact congrArg Lookup.nesting (funext ih)
  | note line next ih => exact congrArg (Lookup.note line) ih

/-- What an enabled trace writes to a terminal: the lines in order, each as the terminal can show
it. -/
def written (reported : Terminal.Encodings) (fs : FileSystem) (x : Lookup α) : List String :=
  (x.lines fs).map (Terminal.display reported)

/-! ## Silent lookups -/

/-- A lookup that writes no line, whatever it is answered. -/
inductive Silent : Lookup α → Prop
  | done (a : α) : Silent (.done a)
  | fail (failure : Failure) : Silent (.fail failure)
  | probe {path : String} {next : Bool → Lookup α} (h : ∀ b, Silent (next b)) :
      Silent (.probe path next)
  | text {path : String} {next : Except Files.Fault String → Lookup α}
      (h : ∀ content, Silent (next content)) : Silent (.text path next)
  | nesting {next : Nat → Lookup α} (h : ∀ room, Silent (next room)) : Silent (.nesting next)

namespace Silent

theorem pure (a : α) : Silent (Pure.pure a : Lookup α) :=
  .done a

theorem exists? (path : String) : Silent (exists? path) :=
  .probe fun b => .done b

theorem read (path : String) : Silent (read path) := by
  refine .text fun content => ?_
  cases content with
  | error fault => exact .fail _
  | ok content => exact .done content

theorem room : Silent room :=
  .nesting fun room => .done room

theorem ofExcept (r : Except Failure α) : Silent (ofExcept r) := by
  cases r with
  | error failure => exact .fail failure
  | ok a => exact .done a

/-- Sequencing keeps a lookup silent. -/
theorem bind {x : Lookup α} {f : α → Lookup β} (hx : Silent x) (hf : ∀ a, Silent (f a)) :
    Silent (x >>= f) := by
  -- on the derivation for the first lookup; the second one stands at its leaves
  induction hx with
  | done a => exact hf a
  | fail failure => exact .fail failure
  | probe _ ih => exact .probe ih
  | text _ ih => exact .text ih
  | nesting _ ih => exact .nesting ih

theorem lines_eq_nil {x : Lookup α} (hx : Silent x) (fs : FileSystem) : x.lines fs = [] := by
  induction hx with
  | done a => rfl
  | fail failure => rfl
  | probe _ ih => exact ih _
  | text _ ih => exact ih _
  | nesting _ ih => exact ih _

end Silent

/-! ## Lookups in turn -/

/-- What is told of an answer; nothing of a failure. -/
def told (tell : β → String) : Except Failure β → List String
  | .ok b => [tell b]
  | .error _ => []

/-- How far a list of items comes that are asked one after the other: the items that are answered,
their answers, and the item that fails, if there is one. -/
inductive Course (ask : α → Except Failure β) :
    List α → List α → List β → Option (α × Failure) → Prop
  | done : Course ask [] [] [] none
  | stop {a : α} {rest : List α} {failure : Failure} (failed : ask a = .error failure) :
      Course ask (a :: rest) [] [] (some (a, failure))
  | next {a : α} {rest answered : List α} {b : β} {answers : List β} {stop : Option (α × Failure)}
      (here : ask a = .ok b) (others : Course ask rest answered answers stop) :
      Course ask (a :: rest) (a :: answered) (b :: answers) stop

/-- The items that are asked: those that are answered, and the one that fails. -/
def Course.asked (answered : List α) (stop : Option (α × Failure)) : List α :=
  answered ++ stop.toList.map Prod.fst

/-- What a list of items gives, by its course. -/
def Course.result (answers : List β) : Option (α × Failure) → Except Failure (List β)
  | none => .ok answers
  | some (_, failure) => .error failure

/-- Every list of items has a course. -/
theorem exists_course (ask : α → Except Failure β) (items : List α) :
    ∃ answered answers stop, Course ask items answered answers stop := by
  induction items with
  | nil => exact ⟨[], [], none, .done⟩
  | cons a rest ih =>
    cases here : ask a with
    | error failure => exact ⟨[], [], some (a, failure), .stop here⟩
    | ok b =>
      obtain ⟨answered, answers, stop, others⟩ := ih
      exact ⟨a :: answered, b :: answers, stop, .next here others⟩

namespace Course

variable {ask : α → Except Failure β} {items answered : List α} {answers : List β}
  {stop : Option (α × Failure)}

/-- Without a failure all items are answered. -/
theorem answered_eq (course : Course ask items answered answers none) : answered = items := by
  generalize ended : (none : Option (α × Failure)) = stop at course
  induction course with
  | done => rfl
  | stop failed => cases ended
  | next here others ih => rw [ih ended]

theorem length_eq (course : Course ask items answered answers stop) :
    answers.length = answered.length := by
  induction course with
  | done => rfl
  | stop failed => rfl
  | next here others ih => rw [List.length_cons, List.length_cons, ih]

/-- The items that are asked are the first ones. -/
theorem asked_prefix (course : Course ask items answered answers stop) :
    asked answered stop <+: items := by
  induction course with
  | done => exact List.prefix_rfl
  | @stop a rest failure failed => exact ⟨rest, rfl⟩
  | @next a rest answered b answers stop here others ih =>
    exact (List.prefix_cons_inj a).2 ih

/-- What is told of each answer, along the items that are asked. -/
theorem flatMap_told (tell : α → β → String) (course : Course ask items answered answers stop) :
    (asked answered stop).flatMap (fun a => told (tell a) (ask a)) =
      List.zipWith tell answered answers := by
  induction course with
  | done => rfl
  | stop failed => simp [asked, failed, told]
  | next here others ih =>
    rw [asked, List.cons_append, List.flatMap_cons, here]
    exact congrArg (_ :: ·) ih

end Course

/-- Asks for one item after the other. -/
def inTurn (step : α → Lookup β) : List α → Lookup (List β)
  | [] => pure []
  | a :: rest => do
    let b ← step a
    let bs ← inTurn step rest
    return b :: bs

/-- Lookups in turn have the answers, the questions and the lines of the items on their course. -/
theorem run_inTurn {fs : FileSystem} {step : α → Lookup β} {items answered : List α}
    {answers : List β} {stop : Option (α × Failure)}
    (course : Course (fun a => (step a).answer fs) items answered answers stop) :
    (inTurn step items).run fs =
      ⟨Course.result answers stop,
        ((Course.asked answered stop).map fun a => (step a).questions fs).sum,
        (Course.asked answered stop).flatMap fun a => (step a).lines fs⟩ := by
  induction course with
  | done => rfl
  | @stop a rest failure failed =>
    rw [inTurn, run_bind, run_eq, Report.andThen, failed]
    simp [Course.result, Course.asked]
  | @next a rest answered b answers stop here others ih =>
    rw [inTurn, run_bind, run_eq, Report.andThen, here]
    simp only [run_bind, ih]
    -- putting the answer in front asks and writes nothing more
    cases stop <;> simp [Course.result, Course.asked, Report.andThen]

end Lookup

/-! ## Lines of a script -/

/-- A path exists if there is something at it, whatever that is. -/
theorem World.exists?_fileSystem (world : World) (path : String) :
    world.fileSystem.exists? path = (world.disk.kindOf path).isSome := by
  show world.disk.exists? path = _
  rw [Files.Disk.exists?, Files.Disk.kindOf]
  cases world.disk.locate path with
  | error refusal => rfl
  | ok found => cases found <;> rfl

/-- Shows a line, and stops if the terminal cannot write it. -/
def Script.showLine {ε : Type} (stop : ε) (line : String) : ExceptT ε Script Unit := do
  unless ← ExceptT.lift (display (.line line)) do throw stop

/-- A script shows the lines of a lookup, each once and in order, and nothing else, and goes on with
the answer of the lookup; if there are lines that the terminal cannot write, it ends at the first of
them. -/
theorem Script.run_ofLookup {ε : Type} (world : World) (stop : ε) (x : Lookup α) :
    (ofLookup (showLine stop) x).run.run world =
      let canShow (line : String) : Bool := world.terminal.canShow (.line line)
      let lines := x.lines world.fileSystem
      ((lines.takeWhile canShow).map Display.line,
        if lines.all canShow then .ok (x.answer world.fileSystem) else .error stop) := by
  induction x with
  | done a => rfl
  | fail failure => rfl
  | probe path next ih =>
    have there := world.exists?_fileSystem path
    have lines : (Lookup.probe path next).lines world.fileSystem =
        (next (world.disk.kindOf path).isSome).lines world.fileSystem := by
      rw [← there]
      rfl
    have answer : (Lookup.probe path next).answer world.fileSystem =
        (next (world.disk.kindOf path).isSome).answer world.fileSystem := by
      rw [← there]
      rfl
    rw [lines, answer]
    exact ih _
  | text path next ih => exact ih _
  | nesting next ih => exact ih _
  | note line next ih =>
    have lines : (Lookup.note line next).lines world.fileSystem =
        line :: next.lines world.fileSystem := rfl
    have answer : (Lookup.note line next).answer world.fileSystem =
        next.answer world.fileSystem := rfl
    have shown : (ofLookup (showLine stop) (.note line next)).run = .output (.line line)
        fun written => if written then (ofLookup (showLine stop) next).run
          else .done (.error stop) := by
      refine congrArg (Script.output (.line line)) (funext fun written => ?_)
      cases written <;> rfl
    rw [lines, answer, shown, run]
    by_cases writable : world.terminal.canShow (.line line) = true
    · simp only [writable, if_true, ih]
      simp [writable]
    · simp [writable, run]

end ModuleResolution
