import ModuleResolution.Proofs.Directive.Candidates
import ModuleResolution.Proofs.Json.LongInteger
import ModuleResolution.Proofs.Json.Nesting
import ModuleResolution.Proofs.Package.Consulted
import ModuleResolution.Proofs.Resolution.Found

/-!
# Failures of a request

Both lookups, that of names and that of type directives, read manifests only. On files in memory a
request therefore fails with the failure of a manifest that it has consulted, and with no other one
unless the record of the file has a target that is no path (`request_reportsBroken`).

The failure is the fault of a manifest, and names it, in two of the five cases of `BrokenManifest`
only. A directory may have the name of a manifest, because nothing but its existence is asked before
it is read; and an integer of too many digits ends the lookup with a failure that names no file, as
do more arrays and objects inside one another than the reader has room for
(`not_namesBrokenManifests`).
-/

set_option autoImplicit false

namespace ModuleResolution

open Package

/-! ## Names in a file -/

namespace Resolution

open Dependency (Index Record Target)

variable {fs : FileSystem} {others : Failure → Prop}

theorem reportsManifests_decided (name : String) (outcome : Outcome) :
    ReportsManifests fs others (decided name outcome) :=
  .bind (.trace _) fun _ _ => .pure outcome

theorem reportsManifests_typedCounterpart (name script : String) :
    ReportsManifests fs others (typedCounterpart name script) := by
  refine .bind (reportsManifests_firstExisting _) fun found _ => ?_
  cases found with
  | some path => exact .pure (some path)
  | none =>
    -- community types are searched for a reference that names a package only
    cases named : (Reference.parse name).isNamed with
    | false => simpa [named] using ReportsManifests.pure none
    | true =>
      simpa [named] using
        reportsManifests_findDeclaration named (scope_parse_ne name) (Path.parent script) .community

theorem reportsManifests_upgraded (name path : String) :
    ReportsManifests fs others (upgraded name path) := by
  unfold upgraded
  split
  · exact .bind (reportsManifests_typedCounterpart name path) fun found _ => .pure (found.getD path)
  · exact .pure path

/-- A recorded target that is no path. -/
def RecordedNoPath (record : Record) (name : String) (failure : Failure) : Prop :=
  ∃ target, record.get? name = some target ∧ (∀ path, target ≠ .path path) ∧
    failure = .targetIsNoPath target.kind

theorem reportsManifests_fromRecord {record : Record} {name : String}
    (h : ∀ failure, RecordedNoPath record name failure → others failure) :
    ReportsManifests fs others (fromRecord record name) := by
  unfold fromRecord
  split
  · exact reportsManifests_decided name _
  · cases recorded : record.get? name with
    | none => exact reportsManifests_decided name _
    | some target =>
      cases target with
      | path path =>
        exact .bind (reportsManifests_upgraded name path) fun file _ =>
          reportsManifests_decided name _
      -- every other target is no path
      | _ => exact .fail (h _ ⟨_, recorded, by simp, rfl⟩)

theorem reportsManifests_diskDeclaration (dir name : String) :
    ReportsManifests fs others (diskDeclaration dir (.parse name)) := by
  unfold diskDeclaration
  have search (variant : Variant) (named : (Reference.parse name).isNamed = true) :
      ReportsManifests fs others (findDeclaration (.parse name) dir variant) :=
    reportsManifests_findDeclaration named (scope_parse_ne name) dir variant
  split
  · rename_i named
    refine .bind (search .own named) fun found _ => ?_
    cases found with
    | some path => exact .pure (some path)
    | none => exact search .community named
  · cases (Reference.parse name).subpath with
    | some subpath => exact reportsManifests_firstExisting _
    | none => exact .pure none

theorem reportsManifests_fromDisk (file name : String) :
    ReportsManifests fs others (fromDisk file name) := by
  unfold fromDisk
  split
  · exact reportsManifests_decided name _
  · refine .bind (reportsManifests_diskDeclaration _ name) fun found _ => ?_
    cases found with
    | some path => exact reportsManifests_decided name _
    | none => exact reportsManifests_decided name _

theorem reportsManifests_each {resolve : String → Lookup Outcome} {names : List String}
    (h : ∀ name ∈ names, ReportsManifests fs others (resolve name)) :
    ReportsManifests fs others (each resolve names) := by
  induction names with
  | nil => exact .pure []
  | cons name names ih =>
    refine .bind (h name List.mem_cons_self) fun outcome _ => ?_
    refine .bind (ih fun other hother => h other (List.mem_cons_of_mem name hother))
      fun outcomes _ => ?_
    exact .pure (outcome :: outcomes)

/-- A recorded target of one of the names that is no path. -/
def TargetNoPath (index : Index) (file : String) (names : List String) (failure : Failure) : Prop :=
  ∃ record, index.get? file = some record ∧ ∃ name ∈ names, RecordedNoPath record name failure

/-- The lookup of names reports the manifests that it consults. -/
theorem reportsManifests_resolve (index : Index) (file : String) (names : List String) :
    ReportsManifests fs (TargetNoPath index file names) (resolve index file (.list names)) := by
  have all : resolve index file (.list names) = resolveAll index file names := rfl
  rw [all]
  refine .bind (.trace file) fun _ _ => ?_
  cases indexed : index.get? file with
  | some record =>
    refine reportsManifests_each fun name hname => reportsManifests_fromRecord fun failure h => ?_
    exact ⟨record, indexed, name, hname, h⟩
  | none =>
    cases isDeclarationFile file with
    | true => exact reportsManifests_each fun name _ => reportsManifests_fromDisk file name
    | false => exact .bind (.trace _) fun _ _ => .pure _

end Resolution

/-! ## Type directives -/

namespace Directive

variable {fs : FileSystem} {others : Failure → Prop}

theorem reportsManifests_firstOf (paths : List String) :
    ReportsManifests fs others (firstOf paths) := by
  induction paths with
  | nil => exact .pure (none, [])
  | cons path paths ih =>
    refine .bind (.exists? path) fun found _ => ?_
    cases found with
    | true => exact .pure (some path, [])
    | false => exact .bind ih fun result _ => .pure _

theorem reportsManifests_tryFields (dir : String) (manifest : Manifest) (fields : List String) :
    ReportsManifests fs others (tryFields dir manifest fields) := by
  induction fields with
  | nil => exact .pure (none, [])
  | cons field fields ih =>
    rw [tryFields_cons]
    cases textField manifest field with
    | none => exact ih
    | some value =>
      refine .bind (.exists? _) fun found _ => ?_
      cases found with
      | true => exact .pure _
      | false => exact .bind ih fun result _ => .pure _

theorem reportsManifests_orElse {x y : Lookup Search} (hx : ReportsManifests fs others x)
    (hy : ReportsManifests fs others y) : ReportsManifests fs others (orElse x y) := by
  refine .bind hx fun result _ => ?_
  obtain ⟨found, failed⟩ := result
  cases found with
  | some path => exact .pure (some path, failed)
  | none => exact .bind hy fun further _ => .pure _

theorem reportsManifests_tryNamed (dir : String) :
    ReportsManifests fs others (tryNamed dir) := by
  refine .bind (.exists? _) fun found answered => ?_
  cases found with
  | true =>
    -- the manifest is read only behind this answer
    rw [Lookup.answer_exists?, Except.ok.injEq] at answered
    exact .bind (reportsManifests_readManifest ⟨dir, rfl⟩ answered) fun manifest _ =>
      reportsManifests_tryFields dir manifest _
  | false => exact .pure _

theorem reportsManifests_tryPackage (dir : String) :
    ReportsManifests fs others (tryPackage dir) :=
  reportsManifests_orElse (reportsManifests_tryNamed dir) (reportsManifests_firstOf _)

theorem reportsManifests_firstFound {α : Type} {search : α → Lookup Search}
    (h : ∀ a, ReportsManifests fs others (search a)) (as : List α) :
    ReportsManifests fs others (firstFound search as) := by
  induction as with
  | nil => exact .pure (none, [])
  | cons a as ih => exact reportsManifests_orElse (h a) ih

theorem reportsManifests_existing (paths : List String) :
    ReportsManifests fs others (existing paths) := by
  induction paths with
  | nil => exact .pure []
  | cons path paths ih =>
    exact .bind (.exists? path) fun here _ => .bind ih fun further _ => .pure _

theorem reportsManifests_typeRoots (options : Options) (dir : String) :
    ReportsManifests fs others (typeRoots options dir) := by
  unfold typeRoots
  cases options.typeRoots with
  | some roots => exact .pure roots
  | none => cases options.configDir <;> exact reportsManifests_existing _

theorem reportsManifests_tryInstalled (name dir : String) :
    ReportsManifests fs others (tryInstalled name dir) := by
  unfold tryInstalled
  split
  · exact .pure (none, [])
  · refine .bind (.exists? _) fun found _ => ?_
    cases found with
    | false => exact .pure (none, [])
    | true =>
      exact reportsManifests_orElse (reportsManifests_firstOf _)
        (reportsManifests_firstFound reportsManifests_tryPackage _)

theorem reportsManifests_resolveOne (options : Options) (file name : String) :
    ReportsManifests fs others (resolveOne options file name) := by
  refine .bind (reportsManifests_typeRoots options _) fun roots _ => ?_
  refine .bind (reportsManifests_firstFound (fun root => reportsManifests_tryPackage _) roots)
    fun result _ => ?_
  obtain ⟨found, failed⟩ := result
  cases found with
  | some path => exact .pure _
  | none =>
    exact .bind (reportsManifests_firstFound (reportsManifests_tryInstalled name) _)
      fun further _ => .pure _

theorem reportsManifests_each {resolve : String → Lookup Answer}
    (h : ∀ name, ReportsManifests fs others (resolve name)) (names : List String) :
    ReportsManifests fs others (each resolve names) := by
  induction names with
  | nil => exact .pure []
  | cons name names ih =>
    refine .bind (h name) fun answer _ => .bind (.trace _) fun _ _ => ?_
    exact .bind ih fun answers _ => .pure (answer :: answers)

/-- The lookup of type directives reports the manifests that it consults. -/
theorem reportsManifests_resolve (options : Options) (file : String) (names : List String) :
    ReportsManifests fs others (resolve resolveOne options file (.list names)) := by
  have all : resolve resolveOne options file (.list names) =
      resolveAll resolveOne options file names := rfl
  rw [all]
  exact .bind (.trace _) fun _ _ => reportsManifests_each (reportsManifests_resolveOne options file)
    names

end Directive

/-! ## Broken manifests in memory -/

/-- A path of a memory where a manifest is looked for and which holds no JSON object that can be
read, with the failure that this ends a lookup with. -/
inductive BrokenManifest (m : Files.Memory) (nesting : Nat) (path : String) : Failure → Prop
  | malformed {content : String} {fault : Json.Fault} {line column position : Nat}
      (held : m.read path = .ok content)
      (unread : Json.read nesting content = .error (.malformed fault line column position)) :
      BrokenManifest m nesting path (.manifest path (.malformed fault line column position))
  | notAnObject {content : String} {value : Json.Value} (held : m.read path = .ok content)
      (spelled : Json.read nesting content = .ok value) (other : value.fields? = none) :
      BrokenManifest m nesting path (.manifest path .notAnObject)
  | integerTooLong {content : String} {digits : Nat} (held : m.read path = .ok content)
      (unread : Json.read nesting content = .error (.integerTooLong digits)) :
      BrokenManifest m nesting path (.integerTooLong digits)
  | tooDeep {content : String} {opening : Json.Opening} (held : m.read path = .ok content)
      (unread : Json.read nesting content = .error (.tooDeep opening)) :
      BrokenManifest m nesting path (.tooDeep opening)
  | directory (nested : m.isDirectory path = true) (unheld : m.isFile path = false) :
      BrokenManifest m nesting path (.unreadable (.notInMemory (Path.normalize path)))

namespace Files.Memory

theorem read_of_isFile {m : Memory} {path : String} (h : m.isFile path = true) :
    ∃ content, m.read path = .ok content := by
  cases found : m.files.get? (Path.normalize path) with
  | some content => exact ⟨content, by rw [read, found]⟩
  | none =>
    rw [isFile, Table.has, found] at h
    cases h

theorem read_of_not_isFile {m : Memory} {path : String} (h : m.isFile path = false) :
    m.read path = .error (.notInMemory (Path.normalize path)) := by
  cases found : m.files.get? (Path.normalize path) with
  | some content =>
    rw [isFile, Table.has, found] at h
    cases h
  | none => rw [read, found]

theorem read_write (m : Memory) (path content : String) :
    (m.write path content).read path = .ok content := by
  rw [read, write, Table.get?_insert_self]

end Files.Memory

namespace Package

variable {m : Files.Memory} {nesting : Nat} {path : String}

theorem answer_readManifest_of_read {content : String} (held : m.read path = .ok content) :
    (readManifest path).answer (m.fileSystem nesting) = Manifest.parse nesting path content := by
  have answered : (m.fileSystem nesting).read path = .ok content := held
  rw [answer_readManifest, answered]
  rfl

theorem answer_readManifest_of_not_isFile (unheld : m.isFile path = false) :
    (readManifest path).answer (m.fileSystem nesting) =
      .error (.unreadable (.notInMemory (Path.normalize path))) := by
  have answered : (m.fileSystem nesting).read path = .error (.notInMemory (Path.normalize path)) :=
    Files.Memory.read_of_not_isFile unheld
  rw [answer_readManifest, answered]

/-- A file is a JSON object or a broken manifest. -/
theorem parse_manifest_cases {content : String} (held : m.read path = .ok content) :
    (∃ fields, Json.read nesting content = .ok (.object fields) ∧
      Manifest.parse nesting path content = .ok fields) ∨
    ∃ failure, BrokenManifest m nesting path failure ∧
      Manifest.parse nesting path content = .error failure := by
  unfold Manifest.parse
  cases spelled : Json.read nesting content with
  | error error =>
    cases error with
    | malformed fault line column position => exact .inr ⟨_, .malformed held spelled, rfl⟩
    | integerTooLong digits => exact .inr ⟨_, .integerTooLong held spelled, rfl⟩
    | tooDeep opening => exact .inr ⟨_, .tooDeep held spelled, rfl⟩
  | ok value =>
    cases value with
    | object fields => exact .inl ⟨fields, rfl, rfl⟩
    | _ => exact .inr ⟨_, .notAnObject held spelled rfl, rfl⟩

/-- What stands at the path of a manifest is a JSON object or broken. -/
theorem readManifest_cases (there : (m.fileSystem nesting).exists? path = true) :
    (∃ content fields, m.read path = .ok content ∧
      Json.read nesting content = .ok (.object fields) ∧
      (readManifest path).answer (m.fileSystem nesting) = .ok fields) ∨
    ∃ failure, BrokenManifest m nesting path failure ∧
      (readManifest path).answer (m.fileSystem nesting) = .error failure := by
  cases file : m.isFile path with
  | true =>
    obtain ⟨content, held⟩ := Files.Memory.read_of_isFile file
    rw [answer_readManifest_of_read held]
    rcases parse_manifest_cases held with ⟨fields, spelled, parsed⟩ | broken
    · exact .inl ⟨content, fields, held, spelled, parsed⟩
    · exact .inr broken
  | false =>
    have nested : m.isDirectory path = true := by
      rwa [Files.Memory.exists?_eq, file, Bool.false_or] at there
    exact .inr ⟨_, .directory nested file, answer_readManifest_of_not_isFile file⟩

theorem answer_readManifest_of_broken {failure : Failure}
    (broken : BrokenManifest m nesting path failure) :
    (readManifest path).answer (m.fileSystem nesting) = .error failure := by
  cases broken with
  | malformed held unread => rw [answer_readManifest_of_read held, Manifest.parse, unread]
  | notAnObject held spelled other =>
    rw [answer_readManifest_of_read held, Manifest.parse, spelled]
    simp [other]
  | integerTooLong held unread => rw [answer_readManifest_of_read held, Manifest.parse, unread]
  | tooDeep held unread => rw [answer_readManifest_of_read held, Manifest.parse, unread]
  | directory nested unheld => exact answer_readManifest_of_not_isFile unheld

/-- The manifest at a path that is there ends a lookup exactly with the failure of a broken one. -/
theorem answer_readManifest_eq_error_iff (there : (m.fileSystem nesting).exists? path = true)
    {failure : Failure} :
    (readManifest path).answer (m.fileSystem nesting) = .error failure ↔
      BrokenManifest m nesting path failure := by
  constructor
  · intro ended
    rcases readManifest_cases there with ⟨content, fields, _, _, parsed⟩ | ⟨other, broken, parsed⟩
    · rw [parsed] at ended
      cases ended
    · rw [parsed] at ended
      cases ended
      exact broken
  · exact answer_readManifest_of_broken

end Package

/-- A lookup that fails with the failures of broken manifests, and with all that it consults. It may
end with other failures too, as far as `others` allows them. -/
structure ReportsBroken {α : Type} (m : Files.Memory) (nesting : Nat) (others : Failure → Prop)
    (x : Lookup α) : Prop where
  consulted : ∀ path ∈ x.reads (m.fileSystem nesting), IsManifestPath path ∧
    ((∃ content fields, m.read path = .ok content ∧
        Json.read nesting content = .ok (.object fields)) ∨
      ∃ failure, BrokenManifest m nesting path failure)
  raised : ∀ failure, x.answer (m.fileSystem nesting) = .error failure →
    (∃ path ∈ x.reads (m.fileSystem nesting), BrokenManifest m nesting path failure) ∨
      others failure
  reported : ∀ path ∈ x.reads (m.fileSystem nesting), ∀ failure,
    BrokenManifest m nesting path failure → x.answer (m.fileSystem nesting) = .error failure

theorem Package.ReportsManifests.reportsBroken {α : Type} {m : Files.Memory} {nesting : Nat}
    {others : Failure → Prop} {x : Lookup α}
    (h : ReportsManifests (m.fileSystem nesting) others x) : ReportsBroken m nesting others x where
  consulted path consulted := by
    obtain ⟨manifest, there⟩ := h.consulted path consulted
    refine ⟨manifest, ?_⟩
    rcases readManifest_cases there with ⟨content, fields, held, spelled, _⟩ | ⟨failure, broken, _⟩
    · exact .inl ⟨content, fields, held, spelled⟩
    · exact .inr ⟨failure, broken⟩
  raised failure failed := by
    rcases h.raised failure failed with ⟨path, consulted, ended⟩ | foreign
    · obtain ⟨-, there⟩ := h.consulted path consulted
      exact .inl ⟨path, consulted, (answer_readManifest_eq_error_iff there).1 ended⟩
    · exact .inr foreign
  reported path consulted failure broken :=
    h.reported path consulted failure (answer_readManifest_of_broken broken)

/-- On files in memory, however deep JSON may be nested, a request for names or for type directives
fails with the failure of a broken manifest that it has consulted, and with that of every one. The
only other failure is that of a recorded target that is no path. -/
theorem request_reportsBroken (m : Files.Memory) (nesting : Nat) (index : Dependency.Index)
    (options : Options) (file : String) (names : List String) :
    ReportsBroken m nesting (Resolution.TargetNoPath index file names)
        (Resolution.resolve index file (.list names)) ∧
      ReportsBroken m nesting (fun _ => False)
        (Directive.resolve Directive.resolveOne options file (.list names)) ∧
      ∀ name, ReportsBroken m nesting (fun _ => False)
        (Directive.resolveOne options file name) :=
  ⟨(Resolution.reportsManifests_resolve index file names).reportsBroken,
    (Directive.reportsManifests_resolve options file names).reportsBroken,
    fun name => (Directive.reportsManifests_resolveOne options file name).reportsBroken⟩

/-! ## Broken manifests that are not named -/

/-- A memory on which a request for names fails with the fault of a manifest only, and names it. -/
def NamesBrokenManifests (m : Files.Memory) (nesting : Nat) : Prop :=
  ∀ (index : Dependency.Index) (file : String) (names : List String) (failure : Failure),
    (Resolution.resolve index file (.list names)).answer (m.fileSystem nesting) = .error failure →
      ∃ path fault, failure = .manifest path fault

/-- A project with one installed file. -/
def oneInstalled (path content : String) : Files.Memory :=
  .ofList [("/p/package.json", "\x7b\x7d"), (path, content)]

/-- An integer of one digit more than the reader converts. -/
def longInteger : String := String.ofList (List.replicate (Json.digitLimit + 1) '1')

theorem read_longInteger (room : Nat) :
    Json.read room longInteger = .error (.integerTooLong (Json.digitLimit + 1)) := by
  have ones : ∀ c ∈ '1' :: List.replicate Json.digitLimit '1', c.isDigit = true := by
    intro c hc
    rw [← List.replicate_succ] at hc
    rw [List.eq_of_mem_replicate hc]
    rfl
  have unread := Json.read_of_digits ones (by decide) (by simp) room
  rwa [← List.replicate_succ, List.length_replicate] at unread

/-- The manifest of an installed package is consulted for the declaration file of the package, and
it ends the lookup if it is broken. -/
theorem not_namesBrokenManifests_oneInstalled {content : String} {nesting : Nat}
    {failure : Failure}
    (consulted : "/p/node_modules/lib/package.json" ∈
      (Resolution.resolve .empty "/p/a.d.ts" (.list ["lib"])).reads
        ((oneInstalled "/p/node_modules/lib/package.json" content).fileSystem nesting))
    (broken : BrokenManifest (oneInstalled "/p/node_modules/lib/package.json" content) nesting
      "/p/node_modules/lib/package.json" failure)
    (unnamed : ∀ path fault, failure ≠ .manifest path fault) :
    ¬ NamesBrokenManifests (oneInstalled "/p/node_modules/lib/package.json" content) nesting := by
  intro h
  have failed := (Resolution.reportsManifests_resolve .empty "/p/a.d.ts" ["lib"]).reported _
    consulted _ (answer_readManifest_of_broken broken)
  obtain ⟨path, fault, named⟩ := h .empty "/p/a.d.ts" ["lib"] _ failed
  exact unnamed path fault named

/-- A directory with the name of a manifest, a manifest that is an integer of too many digits, and
one that opens more arrays inside one another than there is room for: each of them ends the lookup,
and no failure names it as a manifest. -/
theorem not_namesBrokenManifests :
    ¬ NamesBrokenManifests (oneInstalled "/p/node_modules/lib/package.json/x" "") 900 ∧
      ¬ NamesBrokenManifests (oneInstalled "/p/node_modules/lib/package.json" longInteger) 900 ∧
      ¬ NamesBrokenManifests
        (oneInstalled "/p/node_modules/lib/package.json" (Json.openings 901)) 900 := by
  -- the texts of the manifests are too long to be read by evaluation
  have held (content : String) : (oneInstalled "/p/node_modules/lib/package.json" content).read
      "/p/node_modules/lib/package.json" = .ok content :=
    Files.Memory.read_write _ _ _
  refine ⟨fun h => ?_, ?_, ?_⟩
  · have failed : (Resolution.resolve .empty "/p/a.d.ts" (.list ["lib"])).answer
        ((oneInstalled "/p/node_modules/lib/package.json/x" "").fileSystem 900) =
          .error (.unreadable (.notInMemory "/p/node_modules/lib/package.json")) := by
      decide +kernel
    obtain ⟨path, fault, named⟩ := h .empty "/p/a.d.ts" ["lib"] _ failed
    cases named
  · exact not_namesBrokenManifests_oneInstalled (by decide +kernel)
      (.integerTooLong (held longInteger) (read_longInteger 900)) (by simp)
  · obtain ⟨opening, unread⟩ := (Json.exists_tooDeep_iff 900 _).2 (Json.nestsBeyond_openings 900)
    exact not_namesBrokenManifests_oneInstalled (by decide +kernel)
      (.tooDeep (held (Json.openings 901)) unread) (by simp)

end ModuleResolution
