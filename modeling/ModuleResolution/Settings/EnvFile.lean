import ModuleResolution.Text.Blank
import ModuleResolution.Table

/-!
# Environment files

An environment file assigns values to names, one binding after the other. A name may
be quoted and may follow the word `export`; a value may be bare, or quoted by single
or double quotes and then run over several lines; comments start with a number sign.
A binding that is not well-formed is skipped up to the end of its line. A value may
refer to other names as `$\{NAME}` or `$\{NAME:-default}`.
-/

set_option autoImplicit false

namespace ModuleResolution.EnvFile

open Text (isBlank isInlineBlank)

/-- A name with its value; a name that is only mentioned has none. -/
structure Binding where
  name : String
  value : Option String
  deriving DecidableEq, Repr

/-! ## Quoted values -/

/-- The inside of a quoted text whose opening quote has been read, and what follows
the closing one. A backslash keeps the character behind it from closing the text. -/
def insideQuotes (quote : Char) : List Char → Option (List Char × List Char)
  | [] => none
  | '\\' :: c :: cs =>
    (insideQuotes quote cs).map fun (inside, rest) => ('\\' :: c :: inside, rest)
  | c :: cs =>
    if c = quote then some ([], cs)
    else (insideQuotes quote cs).map fun (inside, rest) => (c :: inside, rest)

/-- What a backslash and a letter stand for between single quotes. -/
def singleEscape : Char → Option Char
  | '\\' => some '\\'
  | '\'' => some '\''
  | _ => none

/-- What a backslash and a letter stand for between double quotes. -/
def doubleEscape : Char → Option Char
  | '\\' => some '\\'
  | '\'' => some '\''
  | '"' => some '"'
  | 'a' => some '\x07'
  | 'b' => some '\x08'
  | 'f' => some '\x0c'
  | 'n' => some '\n'
  | 'r' => some '\r'
  | 't' => some '\t'
  | 'v' => some '\x0b'
  | _ => none

/-- A text with its escapes replaced; a backslash before any other letter stays. -/
def unescape (escape : Char → Option Char) : List Char → List Char
  | [] => []
  | '\\' :: c :: cs =>
    match escape c with
    | some e => e :: unescape escape cs
    | none => '\\' :: unescape escape (c :: cs)
  | c :: cs => c :: unescape escape cs

/-! ## Bare values -/

/-- Whether a text is a comment behind at least one blank. -/
def startsComment : List Char → Bool
  | [] => false
  | c :: cs => isBlank c && ((cs.dropWhile isBlank).head? == some '#')

/-- A text up to the first comment behind a blank. -/
def dropComment : List Char → List Char
  | [] => []
  | c :: cs => if startsComment (c :: cs) then [] else c :: dropComment cs

/-- Whether a character ends a line. -/
def endsLine (c : Char) : Bool := c = '\n' || c = '\r'

/-- A bare value, which runs to the end of the line, and what follows. -/
def bareValue (cs : List Char) : List Char × List Char :=
  (Text.dropEndWhile isBlank (dropComment (cs.takeWhile (!endsLine ·))),
    cs.dropWhile (!endsLine ·))

/-! ## Bindings -/

/-- What is left of the text, and a binding if one has been read. -/
structure Reading where
  binding : Option Binding
  rest : List Char

/-- What follows the blanks of a line. -/
def afterInline (cs : List Char) : List Char := cs.dropWhile isInlineBlank

/-- What follows the word `export`, if it is there and blanks follow it. -/
def afterExport (cs : List Char) : List Char :=
  let word := "export".toList
  if word.isPrefixOf cs && (cs.drop word.length).head?.any isInlineBlank then
    afterInline (cs.drop word.length)
  else cs

/-- A character of a name that is not quoted. -/
def isNameChar (c : Char) : Bool := c != '=' && c != '#' && !isBlank c

/-- The name at the head of a text: none before a comment, and no reading at all where
neither a name nor a comment starts. -/
def readName : List Char → Option (Option (List Char) × List Char)
  | '#' :: cs => some (none, '#' :: cs)
  | '\'' :: cs =>
    match cs.takeWhile (· != '\''), cs.dropWhile (· != '\'') with
    | [], _ => none
    | _, [] => none
    | name, _ :: rest => some (some name, rest)
  | cs =>
    match cs.takeWhile isNameChar with
    | [] => none
    | name => some (some name, cs.dropWhile isNameChar)

/-- The value at the head of a text. -/
def readValue : List Char → Option (List Char × List Char)
  | '\'' :: cs =>
    (insideQuotes '\'' cs).map fun (inside, rest) => (unescape singleEscape inside, rest)
  | '"' :: cs =>
    (insideQuotes '"' cs).map fun (inside, rest) => (unescape doubleEscape inside, rest)
  | cs => some (bareValue cs)

/-- What follows a comment, if one is next. -/
def afterComment (cs : List Char) : List Char :=
  match afterInline cs with
  | '#' :: rest => rest.dropWhile (!endsLine ·)
  | _ => cs

/-- What follows the end of the line, if nothing else is next. -/
def afterLineEnd (cs : List Char) : Option (List Char) :=
  match afterInline cs with
  | [] => some []
  | '\r' :: '\n' :: rest => some rest
  | '\n' :: rest => some rest
  | '\r' :: rest => some rest
  | _ => none

/-- What follows the line at hand, whatever it holds. -/
def afterLine (cs : List Char) : List Char :=
  match cs.dropWhile (!endsLine ·) with
  | [] => []
  | _ :: rest => rest

/-- A line given up at some point. -/
def skipped (cs : List Char) : Reading := ⟨none, afterLine cs⟩

/-- The end of a binding: a comment may stand there and the line has to end. -/
def closeBinding (name : Option (List Char)) (value : Option (List Char)) (cs : List Char) :
    Reading :=
  let cs := afterComment cs
  match afterLineEnd cs with
  | none => skipped cs
  | some rest => ⟨name.map fun name => ⟨String.ofList name, value.map String.ofList⟩, rest⟩

/-- Reads one binding; the text has something other than blanks. Behind the equals sign,
blanks and a number sign start a comment. -/
def readBinding (cs : List Char) : Reading :=
  let cs := afterExport cs
  match readName cs with
  | none => skipped cs
  | some (name, cs) =>
    match afterInline cs with
    | '=' :: cs =>
      let start := afterInline cs
      match readValue start with
      | none => skipped start
      | some (value, rest) =>
        if start.head? = some '#' && cs.head? ≠ some '#' then closeBinding name (some []) start
        else closeBinding name (some value) rest
    | cs => closeBinding name none cs

/-- Reads bindings; each one uses up a character, so `steps` may be the length of the
text. -/
def bindingsFrom : Nat → List Char → List Binding
  | 0, _ => []
  | steps + 1, cs =>
    match cs.dropWhile isBlank with
    | [] => []
    | cs =>
      let reading := readBinding cs
      reading.binding.toList ++ bindingsFrom steps reading.rest

/-- A text without the mark that may start a Unicode file. -/
def dropByteOrderMark : List Char → List Char
  | '\uFEFF' :: cs => cs
  | cs => cs

/-- The bindings of a file in order. -/
def bindings (content : String) : List Binding :=
  let cs := dropByteOrderMark content.toList
  bindingsFrom cs.length cs

/-! ## References to other names -/

/-- A piece of a value: literal text, or a reference with an optional default. -/
inductive Piece where
  | literal (text : List Char)
  | reference (name : List Char) (default : Option (List Char))
  deriving DecidableEq, Repr

/-- The default and the closing brace of a reference. -/
def readDefault : List Char → Option (Option (List Char) × List Char)
  | '\x7d' :: rest => some (none, rest)
  | ':' :: '-' :: cs =>
    match cs.dropWhile (· != '\x7d') with
    | [] => none
    | _ :: rest => some (some (cs.takeWhile (· != '\x7d')), rest)
  | _ => none

/-- A reference whose opening brace has been read. -/
def readReference (cs : List Char) : Option (Piece × List Char) :=
  let inName (c : Char) : Bool := c != '\x7d' && c != ':'
  (readDefault (cs.dropWhile inName)).map fun (default, rest) =>
    (.reference (cs.takeWhile inName) default, rest)

/-- The pieces of a value; each uses up a character, so `steps` may be its length. -/
def piecesFrom : Nat → List Char → List Piece
  | 0, _ => []
  | _ + 1, [] => []
  | steps + 1, c :: cs =>
    let plain := Piece.literal [c] :: piecesFrom steps cs
    match c, cs with
    | '$', '\x7b' :: inside =>
      match readReference inside with
      | some (piece, rest) => piece :: piecesFrom steps rest
      | none => plain
    | _, _ => plain

/-- The pieces of a value. -/
def pieces (value : String) : List Piece :=
  piecesFrom value.toList.length value.toList

/-- The names that the values of bindings refer to. -/
def referenced (bindings : List Binding) : List String :=
  bindings.flatMap fun b =>
    (b.value.map pieces).getD [] |>.filterMap fun
      | .reference name _ => some (String.ofList name)
      | .literal _ => none

/-- The text of a piece. A name that has been mentioned without a value is empty. -/
def Piece.text (find : String → Option (Option String)) : Piece → List Char
  | .literal cs => cs
  | .reference name default =>
    match find (String.ofList name) with
    | some value => (value.getD "").toList
    | none => default.getD []

/-- A value with its references replaced. -/
def expand (find : String → Option (Option String)) (value : String) : String :=
  String.ofList ((pieces value).flatMap (Piece.text find))

/-- The values that the bindings of a file give, each name once. A reference finds the
surrounding environment first and then the bindings before it. -/
def assignments (environment : Table String) (bindings : List Binding) :
    Table (Option String) :=
  bindings.foldl
    (fun known b =>
      let find (name : String) : Option (Option String) :=
        match environment.get? name with
        | some value => some (some value)
        | none => known.get? name
      known.insert b.name (b.value.map (expand find)))
    []

/-- The environment with the values of a file added for names that it lacks. -/
def extend (environment : Table String) (bindings : List Binding) : Table String :=
  (assignments environment bindings).foldl
    (fun env (name, value) =>
      match value with
      | some value => if environment.has name then env else env.insert name value
      | none => env)
    environment

/-- Why an environment cannot hold a value under a name. -/
inductive Unfit where
  | nullCharacter
  | equalsInName
  deriving DecidableEq, Repr

/-- Whether an environment cannot hold a value under a name: a null character would end
either of them, and an equals sign would end the name. -/
def unfit? (name value : String) : Option Unfit :=
  if name.toList.contains '\x00' || value.toList.contains '\x00' then some .nullCharacter
  else if name.toList.contains '=' then some .equalsInName
  else none

/-- Why the environment cannot hold the first unfit binding that it has to add. -/
def firstUnfit (environment : Table String) (bindings : List Binding) : Option Unfit :=
  (assignments environment bindings).findSome? fun (name, value) =>
    match value with
    | some value => if environment.has name then none else unfit? name value
    | none => none

end ModuleResolution.EnvFile
