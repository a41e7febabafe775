import ModuleResolution.Text.Blank

/-!
# JSON with comments

Configuration files may hold line comments, block comments and a comma before a
closing bracket. `plain` removes them: comments by one pass that knows when it is
inside a string, trailing commas by a second pass over what is left.
-/

set_option autoImplicit false

namespace ModuleResolution.Json.Commented

/-- Whether a string that has been opened is closed further on. -/
def closesString : List Char → Bool
  | [] => false
  | '"' :: _ => true
  | '\\' :: [] => false
  | '\\' :: _ :: cs => closesString cs
  | _ :: cs => closesString cs

/-- Whether a block comment that has been opened is closed further on. -/
def closesComment : List Char → Bool
  | '*' :: '/' :: _ => true
  | _ :: cs => closesComment cs
  | [] => false

/-- What the text at hand belongs to. -/
inductive Mode where
  | code
  | string
  | lineComment
  | blockComment
  deriving DecidableEq, Repr

/-- Removes comments from a text that starts in a mode. A quote that no other one
closes and a comment opener without an end are ordinary characters. -/
def dropCommentsFrom : Mode → List Char → List Char
  | _, [] => []
  | .code, '"' :: cs => '"' :: dropCommentsFrom (if closesString cs then .string else .code) cs
  | .code, '/' :: '/' :: cs => dropCommentsFrom .lineComment cs
  | .code, '/' :: '*' :: cs =>
    if closesComment cs then dropCommentsFrom .blockComment cs
    else '/' :: '*' :: dropCommentsFrom .code cs
  | .code, c :: cs => c :: dropCommentsFrom .code cs
  | .string, '"' :: cs => '"' :: dropCommentsFrom .code cs
  | .string, '\\' :: c :: cs => '\\' :: c :: dropCommentsFrom .string cs
  | .string, c :: cs => c :: dropCommentsFrom .string cs
  | .lineComment, '\n' :: cs => '\n' :: dropCommentsFrom .code cs
  | .lineComment, _ :: cs => dropCommentsFrom .lineComment cs
  | .blockComment, '*' :: '/' :: cs => dropCommentsFrom .code cs
  | .blockComment, _ :: cs => dropCommentsFrom .blockComment cs

/-- A text without its comments. -/
def dropComments (cs : List Char) : List Char :=
  dropCommentsFrom .code cs

/-- Whether the first character that is not blank closes an array or object. -/
def closesNext : List Char → Bool
  | [] => false
  | c :: cs => c = '\x7d' || c = ']' || (Text.isBlank c && closesNext cs)

/-- A text without the commas that stand directly before a closing bracket. -/
def dropTrailingCommas : List Char → List Char
  | [] => []
  | c :: cs =>
    if c = ',' && closesNext cs then dropTrailingCommas cs else c :: dropTrailingCommas cs

/-- The plain JSON behind a text with comments and trailing commas. -/
def plain (s : String) : String :=
  String.ofList (dropTrailingCommas (dropComments s.toList))

end ModuleResolution.Json.Commented
