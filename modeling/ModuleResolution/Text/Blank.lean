/-!
# Blank characters

The blank characters of Unicode text: the ASCII blanks, the four information
separators, and the space characters of the higher planes. `trim` removes them
from both ends of a text.
-/

set_option autoImplicit false

namespace ModuleResolution.Text

/-- A character that counts as white space. -/
def isBlank (c : Char) : Bool :=
  let n := c.toNat
  (9 ≤ n && n ≤ 13) || (28 ≤ n && n ≤ 32) || n == 0x85 || n == 0xA0 || n == 0x1680
    || (0x2000 ≤ n && n ≤ 0x200A) || n == 0x2028 || n == 0x2029 || n == 0x202F
    || n == 0x205F || n == 0x3000

/-- A blank that does not end a line: neither a line feed nor a carriage return. -/
def isInlineBlank (c : Char) : Bool :=
  isBlank c && c != '\n' && c != '\r'

/-- Removes the characters satisfying `p` from the end of a text. -/
def dropEndWhile (p : Char → Bool) (cs : List Char) : List Char :=
  (cs.reverse.dropWhile p).reverse

/-- Removes the characters satisfying `p` from both ends of a text. -/
def stripWhile (p : Char → Bool) (cs : List Char) : List Char :=
  dropEndWhile p (cs.dropWhile p)

/-- A text without its leading and trailing blanks. -/
def trim (s : String) : String :=
  String.ofList (stripWhile isBlank s.toList)

@[simp] theorem dropEndWhile_nil (p : Char → Bool) : dropEndWhile p [] = [] := rfl

@[simp] theorem stripWhile_nil (p : Char → Bool) : stripWhile p [] = [] := rfl

end ModuleResolution.Text
