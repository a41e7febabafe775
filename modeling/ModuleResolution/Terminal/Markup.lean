import ModuleResolution.Terminal.Emoji
import ModuleResolution.Text.Blank
import ModuleResolution.Text.LowerCase

/-!
# Markup of terminal texts

A text for a terminal may hold tags in square brackets that set its style, and emoji by
name. `plain` is the text as it reads without styles. `escape` protects a text that is
not meant to hold tags: an odd number of backslashes keeps a bracket from opening a tag.
-/

set_option autoImplicit false

namespace ModuleResolution.Terminal.Markup

/-! ## Tags -/

/-- A tag with the number of backslashes before it, and the text behind it. -/
structure Tagged where
  slashes : Nat
  content : List Char
  rest : List Char
  deriving DecidableEq, Repr

/-- A character that the content of a tag can start with. -/
def startsTag (c : Char) : Bool :=
  c.isLower || c = '#' || c = '/' || c = '@'

/-- The content of a tag and what follows it, where its bracket has been opened. -/
def tagContent : List Char → Option (List Char × List Char)
  | [] => none
  | c :: cs =>
    let inside := cs.takeWhile fun c => c ≠ '[' && c ≠ ']'
    match startsTag c, cs.dropWhile fun c => c ≠ '[' && c ≠ ']' with
    | true, ']' :: rest => some (c :: inside, rest)
    | _, _ => none

/-- The tag at the head of a text, where backslashes may stand before it. -/
def tagAt (cs : List Char) : Option Tagged :=
  match cs.dropWhile (· = '\\') with
  | '[' :: rest =>
    (tagContent rest).map fun (content, rest) =>
      ⟨(cs.takeWhile (· = '\\')).length, content, rest⟩
  | _ => none

/-- The text before the first tag, and that tag. -/
def toTag : List Char → List Char × Option Tagged
  | [] => ([], none)
  | c :: cs =>
    match tagAt (c :: cs) with
    | some tagged => ([], some tagged)
    | none =>
      let (text, tagged) := toTag cs
      (c :: text, tagged)

/-- A tag as it is written. -/
def Tagged.written (t : Tagged) : List Char := '[' :: t.content ++ [']']

/-! ## Protecting a text -/

/-- Puts a backslash before each tag, and doubles those that stand there. Each step uses
up a character, so `steps` may be the length of the text. -/
def escapeTags : Nat → List Char → List Char
  | 0, cs => cs
  | steps + 1, cs =>
    match toTag cs with
    | (text, none) => text
    | (text, some t) =>
      text ++ List.replicate (2 * t.slashes + 1) '\\' ++ t.written ++ escapeTags steps t.rest

/-- A text in a form in which its brackets open no tags. A lone backslash at the end is
doubled, so that it protects nothing that is put behind it. -/
def escape (s : String) : String :=
  let cs := escapeTags s.toList.length s.toList
  match cs.reverse with
  | '\\' :: '\\' :: _ => String.ofList cs
  | '\\' :: _ => String.ofList (cs ++ ['\\'])
  | _ => String.ofList cs

/-! ## Emoji -/

/-- The words that choose how an emoji is shown, and the mark that stands for each. -/
def variants : List (List Char × Char) :=
  [("-emoji".toList, '\uFE0F'), ("-text".toList, '\uFE0E')]

/-- The emoji that a name stands for; the name may end with the word for a variant. -/
def emojiOf (name : List Char) : Option (List Char) :=
  match variants.find? fun v => v.1.isSuffixOf name with
  | some (word, mark) =>
    (Emoji.find? (Text.lower (name.take (name.length - word.length)))).map (· ++ [mark])
  | none => Emoji.find? (Text.lower name)

/-- A text with the names of emoji between colons replaced. Each step uses up a
character, so `steps` may be the length of the text. -/
def replaceEmoji : Nat → List Char → List Char
  | 0, cs => cs
  | _ + 1, [] => []
  | steps + 1, c :: cs =>
    let inName (c : Char) : Bool := c ≠ ':' && !Text.isBlank c
    let name := cs.takeWhile inName
    match c, cs.dropWhile inName with
    | ':', ':' :: rest =>
      (emojiOf name).getD (':' :: name ++ [':']) ++ replaceEmoji steps rest
    | _, _ => c :: replaceEmoji steps cs

/-! ## Plain text -/

/-- The control characters that a terminal text does not keep. -/
def isDropped (c : Char) : Bool :=
  c = '\x07' || c = '\x08' || c = '\x0b' || c = '\x0c' || c = '\r'

/-- A text without the backslashes before its opening brackets. -/
def unescapeBrackets : List Char → List Char
  | [] => []
  | '\\' :: '[' :: cs => '[' :: unescapeBrackets cs
  | c :: cs => c :: unescapeBrackets cs

/-- A stretch of text between tags, as it reads. -/
def shown (cs : List Char) : List Char :=
  let cs := unescapeBrackets cs
  (replaceEmoji cs.length cs).filter (!isDropped ·)

/-- What a tag with its backslashes reads like: half of the backslashes, and the tag
itself if their number is odd. -/
def Tagged.shown (t : Tagged) : List Char :=
  List.replicate (t.slashes / 2) '\\'
    ++ (if t.slashes % 2 = 1 then Markup.shown t.written else [])

/-- The characters of a text as they read without styles. Each step uses up a character,
so `steps` may be the length of the text. -/
def plainFrom : Nat → List Char → List Char
  | 0, _ => []
  | steps + 1, cs =>
    match toTag cs with
    | (text, none) => shown text
    | (text, some t) => shown text ++ t.shown ++ plainFrom steps t.rest

/-- A text as it reads without styles. -/
def plain (s : String) : String :=
  String.ofList (plainFrom (s.toList.length + 1) s.toList)

end ModuleResolution.Terminal.Markup
