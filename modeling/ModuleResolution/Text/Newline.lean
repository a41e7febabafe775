/-!
# Line endings of text files

A text file may end its lines by a line feed, a carriage return or both;
`unifyNewlines` turns each of them into one line feed.
-/

set_option autoImplicit false

namespace ModuleResolution.Text

/-- A text with every line ending written as one line feed. -/
def unifyNewlines : List Char → List Char
  | [] => []
  | '\r' :: '\n' :: cs => '\n' :: unifyNewlines cs
  | '\r' :: cs => '\n' :: unifyNewlines cs
  | c :: cs => c :: unifyNewlines cs

end ModuleResolution.Text
