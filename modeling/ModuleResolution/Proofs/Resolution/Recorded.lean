import ModuleResolution.Proofs.Package.Search
import ModuleResolution.Proofs.Resolution.Batch

/-!
# Names with a recorded target

In an indexed file a name leads to the file that `recordedFile` gives for its recorded target: to
the target itself, unless that is a plain script. A script gives way to the first typed file that
stands beside it and, for a name of a package, to the community types of that package as seen from
the directory of the script.

The definition does not go through the lookup. It speaks of the first existing path of a list and of
the search for a declaration file as `declarationOf` states it, and the lookup answers exactly that
(`resolve_recorded`). The containing file does not occur in it, so files that record the same target
for a name resolve it alike.
-/

set_option autoImplicit false

namespace ModuleResolution.Resolution

open Dependency (Index Record)
open Package (declarationOf)

/-- A plain script, by the lower case of its extension. -/
def isScript (path : String) : Bool :=
  lowerCase (Path.suffix path) = ".js" || lowerCase (Path.suffix path) = ".jsx"

/-- The typed files that may stand beside a script, the preferred one first. -/
def typedSiblings (script : String) : List String :=
  [Path.stem script ++ ".ts", Path.stem script ++ ".tsx", Path.stem script ++ ".d.ts"]

/-- The typed file that stands in for a script, if there is one. -/
def typedFile (fs : FileSystem) (name script : String) : Except Failure (Option String) :=
  match (typedSiblings script).find? fs.exists? with
  | some sibling => .ok (some sibling)
  | none =>
    if (Reference.parse name).isNamed then
      declarationOf fs (.parse name) (Path.parent script) .community
    else .ok none

/-- The file that a name with a recorded target leads to. -/
def recordedFile (fs : FileSystem) (name target : String) : Except Failure String :=
  if isScript target then (typedFile fs name target).map (·.getD target) else .ok target

/-! ## The lookup -/

theorem isScript_eq (path : String) :
    scriptSuffixes.contains (lowerCase (Path.suffix path)) = isScript path := by
  simp [scriptSuffixes, isScript]

theorem answer_typedCounterpart (fs : FileSystem) (name script : String) :
    (typedCounterpart name script).answer fs = typedFile fs name script := by
  have siblings : siblingSuffixes.map (Path.stem script ++ ·) = typedSiblings script := rfl
  rw [typedCounterpart, typedFile, siblings, Lookup.answer_bind, Package.answer_firstExisting]
  cases (typedSiblings script).find? fs.exists? with
  | some sibling => rfl
  | none =>
    cases named : (Reference.parse name).isNamed with
    | false => simp [named]
    | true =>
      have search := Package.answer_findDeclaration fs named (Package.scope_parse_ne name)
        (Path.parent script) .community
      simp [named, search]

theorem answer_upgraded (fs : FileSystem) (name target : String) :
    (upgraded name target).answer fs = recordedFile fs name target := by
  rw [upgraded, recordedFile, isScript_eq]
  cases isScript target with
  | false => rfl
  | true =>
    simp only [if_true, Lookup.answer_bind, answer_typedCounterpart]
    cases typedFile fs name target <;> rfl

/-- A target that is no script is taken as it is. -/
theorem upgraded_of_not_isScript {target : String} (h : isScript target = false) (name : String) :
    upgraded name target = pure target := by
  rw [upgraded, isScript_eq, h]
  rfl

@[simp] theorem answer_decided (fs : FileSystem) (name : String) (outcome : Outcome) :
    (decided name outcome).answer fs = .ok outcome :=
  rfl

section Record

variable {name : String} (ordinary : Builtin.contains name = false) {record : Record}
include ordinary

theorem fromRecord_of_missing (h : record.get? name = none) :
    fromRecord record name = decided name (.unresolved .notInIndex) := by
  simp [fromRecord, ordinary, h]

theorem fromRecord_of_path {target : String} (h : record.get? name = some (.path target)) :
    fromRecord record name =
      upgraded name target >>= fun path => decided name (.resolved path) := by
  simp [fromRecord, ordinary, h]

end Record

/-! ## Requests -/

variable {index : Index} {file : String} {record : Record} {name : String}

/-- The rule of an indexed file is to look into its record. -/
theorem rule_of_indexed (indexed : index.get? file = some record) :
    rule index file = fromRecord record := by
  rw [rule, indexed]

/-- A name that is no built-in module, asked for in an indexed file. Without a target it is not
resolved, and nothing is asked. With one it is resolved to the file that `recordedFile` gives, unless
the search for community types fails; for a target that is no script nothing is asked. Any other
indexed file that records this target resolves the name alike, with as many questions. -/
theorem resolve_recorded (fs : FileSystem) (indexed : index.get? file = some record)
    (ordinary : Builtin.contains name = false) :
    (record.get? name = none →
        (resolve index file (.list [name])).answer fs = .ok [.unresolved .notInIndex] ∧
          (resolve index file (.list [name])).questions fs = 0) ∧
      ∀ target, record.get? name = some (.path target) →
        (resolve index file (.list [name])).answer fs =
            (recordedFile fs name target).map (fun path => [.resolved path]) ∧
          (isScript target = false →
            (resolve index file (.list [name])).answer fs = .ok [.resolved target] ∧
              (resolve index file (.list [name])).questions fs = 0) ∧
          ∀ (index' : Index) (file' : String) (record' : Record),
            index'.get? file' = some record' → record'.get? name = some (.path target) →
            (resolve index' file' (.list [name])).answer fs =
                (resolve index file (.list [name])).answer fs ∧
              (resolve index' file' (.list [name])).questions fs =
                (resolve index file (.list [name])).questions fs := by
  simp only [answer_resolve_singleton, questions_resolve_singleton, rule_of_indexed indexed]
  constructor
  · intro missing
    rw [fromRecord_of_missing ordinary missing]
    exact ⟨rfl, rfl⟩
  · intro target recorded
    rw [fromRecord_of_path ordinary recorded]
    refine ⟨?_, fun plain => ?_, fun index' file' record' indexed' recorded' => ?_⟩
    · rw [Lookup.answer_bind, answer_upgraded]
      cases recordedFile fs name target <;> rfl
    · rw [upgraded_of_not_isScript plain]
      exact ⟨rfl, rfl⟩
    · rw [rule_of_indexed indexed', fromRecord_of_path ordinary recorded']
      exact ⟨rfl, rfl⟩

/-- A scoped package in `/r` that has a script only, with community types beside it. -/
def communityTypes : FileSystem where
  exists? path :=
    ["/r/node_modules/@a/b/package.json", "/r/node_modules/@types/a__b/package.json",
      "/r/node_modules/@types/a__b/index.d.ts"].contains path
  read path :=
    if path = "/r/node_modules/@types/a__b/package.json" then .ok "\x7b\x7d"
    else .error (.notInMemory path)
  nesting := 1

/-- The script of the package under its name. -/
def scriptOnly : Record :=
  [("@a/b", .path "/r/node_modules/@a/b/b.min.JS")]

/-- Two files far apart that record the same script. -/
def importers : Index :=
  ⟨[("/app/i.js", scriptOnly), ("/lib/d/o.js", scriptOnly)]⟩

theorem resolve_recorded_scoped :
    importers.get? "/app/i.js" = some scriptOnly ∧
      Builtin.contains "@a/b" = false ∧
      (resolve importers "/app/i.js" (.list ["@a/b"])).answer communityTypes =
        .ok [.resolved "/r/node_modules/@types/a__b/index.d.ts"] ∧
      (resolve importers "/lib/d/o.js" (.list ["@a/b"])).answer communityTypes =
        (resolve importers "/app/i.js" (.list ["@a/b"])).answer communityTypes ∧
      (resolve importers "/app/i.js" (.list ["lodash"])).answer communityTypes =
        .ok [.unresolved .notInIndex] := by
  have indexed : importers.get? "/app/i.js" = some scriptOnly := rfl
  have ordinary : Builtin.contains "@a/b" = false := by decide +kernel
  have ordinary' : Builtin.contains "lodash" = false := by decide +kernel
  obtain ⟨-, recorded⟩ := resolve_recorded communityTypes indexed ordinary
  obtain ⟨missing, -⟩ := resolve_recorded communityTypes indexed ordinary'
  obtain ⟨answered, -, alike⟩ := recorded _ rfl
  have types : recordedFile communityTypes "@a/b" "/r/node_modules/@a/b/b.min.JS" =
      .ok "/r/node_modules/@types/a__b/index.d.ts" := by
    decide +kernel
  rw [types] at answered
  exact ⟨indexed, ordinary, answered, (alike importers "/lib/d/o.js" scriptOnly rfl rfl).1,
    (missing rfl).1⟩

end ModuleResolution.Resolution
