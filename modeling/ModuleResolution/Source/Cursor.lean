import ModuleResolution.Source.Lexeme
import ModuleResolution.Text.Utf8

/-!
# Positions in a source text

A cursor is a position in the glyphs of a source file, in front of a token. Moving it
past a token skips the blanks and comments that follow; whether there was the end of a
line or a comment among them is kept, since both can matter to what the token means.
-/

set_option autoImplicit false

namespace ModuleResolution.Source

/-- A position in a source file: the glyphs from there on, how many bytes stand before it
and before the end of the last token, and whether the end of a line or a comment stands
between the two. -/
structure Cursor where
  rest : List Char
  offset : Nat
  stop : Nat
  newline : Bool
  comment : Bool
  deriving DecidableEq, Repr

namespace Cursor

/-! ## Blanks and comments -/

/-- What is being skipped. -/
inductive Skipping where
  | blanks
  | line
  | block
  deriving DecidableEq, Repr

/-- Skips blanks and comments; `stop` is the end of the last token. -/
def skipFrom (stop : Nat) : Skipping → Nat → Bool → Bool → List Char → Cursor
  | _, offset, newline, comment, [] => ⟨[], offset, stop, newline, comment⟩
  | .blanks, offset, newline, _, '/' :: '/' :: cs =>
    skipFrom stop .line (offset + 2) newline true cs
  | .blanks, offset, newline, _, '/' :: '*' :: cs =>
    skipFrom stop .block (offset + 2) newline true cs
  | .blanks, offset, newline, comment, c :: cs =>
    if Lexeme.isSpace c then
      skipFrom stop .blanks (offset + Text.Utf8.width c) (newline || Lexeme.separatesLines c)
        comment cs
    else ⟨c :: cs, offset, stop, newline, comment⟩
  | .line, offset, newline, comment, c :: cs =>
    skipFrom stop (if Lexeme.endsLine c then .blanks else .line) (offset + Text.Utf8.width c)
      (newline || Lexeme.separatesLines c) comment cs
  | .block, offset, newline, comment, '*' :: '/' :: cs =>
    skipFrom stop .blanks (offset + 2) newline comment cs
  | .block, offset, newline, comment, c :: cs =>
    skipFrom stop .block (offset + Text.Utf8.width c) (newline || Lexeme.separatesLines c)
      comment cs

/-- Skips the blanks and comments behind a token. -/
def skip (c : Cursor) : Cursor := skipFrom c.stop .blanks c.offset false false c.rest

/-- The text by which a comment of a page opens, and that by which it closes. Either of
them hides the rest of its line. -/
def pageCommentMarks : List (List Char) := ["<!--".toList, "-->".toList]

/-- Whether a comment of a page is next. -/
def seesPageComment (c : Cursor) : Bool := pageCommentMarks.any (·.isPrefixOf c.rest)

/-- Skips a comment of a page and what follows it. -/
def skipPageComment (c : Cursor) : Cursor :=
  let line := c.rest.takeWhile (!Lexeme.separatesLines ·)
  let offset := line.foldl (fun offset g => offset + Text.Utf8.width g) c.offset
  skipFrom c.stop .blanks offset c.newline true (c.rest.drop line.length)

/-- Skips at most `steps` comments of pages. -/
def skipPageCommentsFrom : Nat → Cursor → Cursor
  | 0, c => c
  | steps + 1, c => if c.seesPageComment then skipPageCommentsFrom steps c.skipPageComment else c

/-- Skips all comments of pages. -/
def skipPageComments (c : Cursor) : Cursor :=
  if c.seesPageComment then skipPageCommentsFrom c.rest.length c else c

/-! ## Moving on -/

/-- The cursor directly behind some more glyphs, which are part of a token. -/
def bump : Nat → Cursor → Cursor
  | 0, c => c
  | n + 1, c =>
    match c.rest with
    | [] => c
    | g :: rest =>
      let offset := c.offset + Text.Utf8.width g
      bump n ⟨rest, offset, offset, false, false⟩

/-- The cursor in front of the next token, behind a token of some length. -/
def next (n : Nat) (c : Cursor) : Cursor := (c.bump n).skip

/-- The cursor in front of the first token of a text. A line at the start may name an
interpreter. -/
def start (glyphs : List Char) : Cursor :=
  let c : Cursor := ⟨glyphs, 0, 0, false, false⟩
  let c := if c.rest.head? = some '\uFEFF' then c.bump 1 else c
  match c.rest with
  | '#' :: '!' :: _ => (c.bump (c.rest.takeWhile (!Lexeme.endsLine ·)).length).skip
  | _ => c.skip

/-! ## Looking at the next token -/

/-- The next glyph. -/
def head? (c : Cursor) : Option Char := c.rest.head?

/-- The next word; it is empty if there is none. -/
def word (c : Cursor) : String := String.ofList (c.rest.take (Lexeme.wordLength c.rest))

/-- The next operator. -/
def operator (c : Cursor) : String := Lexeme.operatorAt c.rest

/-- The cursor behind the next word. -/
def afterWord (c : Cursor) : Cursor := c.next (Lexeme.wordLength c.rest)

end Cursor

end ModuleResolution.Source
