import ModuleResolution.Text.Blank
import ModuleResolution.Text.Split

/-!
# Slash-separated paths

Paths are texts; the operations here only look at the text and never at a disk.
`normalize` removes empty, `.` and resolvable `..` segments, `parent` and `name`
cut at the last slash, `join` appends a path to a directory, and `stem` and
`suffix` cut off an extension. A path keeps exactly two leading slashes when it
has exactly two; any other number of them counts as one.
-/

set_option autoImplicit false

namespace ModuleResolution.Path

open Text (splitOn joinWith dropEndWhile)

/-- One piece of a path, free of slashes. -/
abbrev Segment := List Char

/-! ## Normal form -/

/-- How many leading slashes the normal form of a path keeps. -/
def rootSlashes : List Char → Nat
  | '/' :: '/' :: '/' :: _ => 1
  | '/' :: '/' :: _ => 2
  | '/' :: _ => 1
  | _ => 0

/-- A path that starts at the root. -/
def isAbsolute (path : String) : Bool :=
  path.toList.head? == some '/'

/-- The segment `..`. -/
def parentSegment : Segment := ['.', '.']

/-- Adds one segment to the segments read so far, innermost first. -/
def pushSegment (rooted : Bool) (done : List Segment) (seg : Segment) : List Segment :=
  if seg = [] || seg = ['.'] then done
  else if seg = parentSegment then
    match done with
    | [] => if rooted then [] else [seg]
    | top :: below => if top = parentSegment then seg :: done else below
  else seg :: done

/-- The segments of the normal form, outermost first. -/
def normalSegments (cs : List Char) : List Segment :=
  ((splitOn '/' cs).foldl (pushSegment (rootSlashes cs != 0)) []).reverse

/-- The normal form of a path given by its characters. -/
def normalizeChars (cs : List Char) : List Char :=
  let text := List.replicate (rootSlashes cs) '/' ++ joinWith '/' (normalSegments cs)
  if text = [] then ['.'] else text

/-- A path without empty and `.` segments and with `..` resolved where it can be;
the empty path becomes `.`. -/
def normalize (path : String) : String :=
  String.ofList (normalizeChars path.toList)

/-! ## Cutting at the last slash -/

/-- A path cut behind its last slash. -/
def splitName : List Char → List Char × List Char
  | [] => ([], [])
  | c :: cs =>
    let (before, after) := splitName cs
    if before = [] && c != '/' then ([], c :: after) else (c :: before, after)

/-- A directory part without its closing slashes, unless it is all slashes. -/
def dropClosingSlashes (cs : List Char) : List Char :=
  if cs.all (· == '/') then cs else dropEndWhile (· == '/') cs

/-- The directory part of a path given by its characters. -/
def parentChars (cs : List Char) : List Char :=
  dropClosingSlashes (splitName cs).1

/-- The directory part of a path: all before its last slash. -/
def parent (path : String) : String :=
  String.ofList (parentChars path.toList)

/-- The last segment of a path: all behind its last slash. -/
def name (path : String) : String :=
  String.ofList (splitName path.toList).2

/-! ## Joining -/

/-- A path given by its characters, appended to another. -/
def joinChars (base rest : List Char) : List Char :=
  if rest.head? = some '/' then rest
  else if base = [] || base.getLast? = some '/' then base ++ rest
  else base ++ '/' :: rest

/-- A path appended to a base; an absolute path replaces the base. -/
def join (base rest : String) : String :=
  String.ofList (joinChars base.toList rest.toList)

/-- Several paths appended to a base one after the other. -/
def joinAll (base : String) (parts : List String) : String :=
  parts.foldl join base

/-! ## Extensions -/

/-- A text cut before its last dot, if it has one. -/
def splitLastDot : List Char → Option (List Char × List Char)
  | [] => none
  | c :: cs =>
    match splitLastDot cs with
    | some (before, after) => some (c :: before, after)
    | none => if c = '.' then some ([], c :: cs) else none

/-- The stem and the extension of a path given by its characters. The leading
dots of the last segment never open an extension. -/
def splitSuffix (cs : List Char) : List Char × List Char :=
  let (dir, file) := splitName cs
  let dots := file.takeWhile (· == '.')
  match splitLastDot (file.dropWhile (· == '.')) with
  | some (before, after) => (dir ++ dots ++ before, after)
  | none => (cs, [])

/-- A path without its extension. -/
def stem (path : String) : String :=
  String.ofList (splitSuffix path.toList).1

/-- The extension of a path with its dot, or the empty text. -/
def suffix (path : String) : String :=
  String.ofList (splitSuffix path.toList).2

/-! ## First facts -/

theorem splitName_append (cs : List Char) : (splitName cs).1 ++ (splitName cs).2 = cs := by
  induction cs with
  | nil => rfl
  | cons c cs ih =>
    simp only [splitName]
    split
    · rename_i h
      have : (splitName cs).1 = [] := by simp_all
      simpa [this] using ih
    · simpa using ih

theorem length_splitName_le (cs : List Char) : (splitName cs).1.length ≤ cs.length := by
  have := congrArg List.length (splitName_append cs)
  simp only [List.length_append] at this
  omega

theorem length_dropEndWhile_le (p : Char → Bool) (cs : List Char) :
    (dropEndWhile p cs).length ≤ cs.length := by
  simpa [dropEndWhile] using (List.dropWhile_sublist p (l := cs.reverse)).length_le

theorem length_parentChars_le (cs : List Char) : (parentChars cs).length ≤ cs.length := by
  refine Nat.le_trans ?_ (length_splitName_le cs)
  simp only [parentChars, dropClosingSlashes]
  split
  · exact Nat.le_refl _
  · exact length_dropEndWhile_le _ _

end ModuleResolution.Path
