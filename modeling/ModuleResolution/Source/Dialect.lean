import ModuleResolution.Outcome
import ModuleResolution.Path.Tidy

/-!
# Source dialects

The dialects in which a source file can be written. The extension of a file tells
its dialect.
-/

set_option autoImplicit false

namespace ModuleResolution.Source

/-- A dialect of source files. -/
inductive Dialect where
  | javascript
  | typescript
  | tsx
  deriving DecidableEq, Repr

namespace Dialect

/-- The name of a dialect. -/
def name : Dialect → String
  | .javascript => "javascript"
  | .typescript => "typescript"
  | .tsx => "tsx"

/-- The dialect with a name. -/
def named? (word : String) : Option Dialect :=
  [Dialect.javascript, .typescript, .tsx].find? (·.name = word)

/-- The report on a name that no dialect has. -/
def unsupportedMessage (word : String) : String := s!"Unsupported language: {word}"

/-- The extensions of source files and their dialects. -/
def suffixes : List (String × Dialect) :=
  [(".js", .javascript), (".jsx", .javascript), (".mjs", .javascript), (".cjs", .javascript),
   (".ts", .typescript), (".mts", .typescript), (".cts", .typescript), (".tsx", .tsx)]

/-- The dialect of a file, by its extension. -/
def ofFile? (file : String) : Option Dialect :=
  suffixes.lookup (lowerCase (Path.tidySuffix file))

end Dialect

end ModuleResolution.Source
