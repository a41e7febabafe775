import ModuleResolution.Text.Loose

/-!
# JSON values

The values that a JSON text can hold. An object keeps its fields in the order in
which they were first named, each name once; a later field of the same name
replaces the value. Numbers with a point or an exponent stay as the decimal they
were written as. Texts and names are loose texts, as an escape may spell half of a
character.
-/

set_option autoImplicit false

namespace ModuleResolution.Json

/-- A decimal number: `digits` times ten to the `exponent`, with its sign. -/
structure Decimal where
  negative : Bool
  digits : Nat
  exponent : Int
  deriving DecidableEq, Repr

/-- A JSON value. -/
inductive Value where
  | null
  | bool (b : Bool)
  | integer (n : Int)
  | decimal (d : Decimal)
  | notANumber
  | infinity (negative : Bool)
  | text (s : LooseText)
  | array (items : List Value)
  | object (fields : List (LooseText × Value))
  deriving Repr, Inhabited

/-! ## Reading values -/

/-- The text in a text value. -/
def Value.text? : Value → Option LooseText
  | .text s => some s
  | _ => none

/-- The fields of an object. -/
def Value.fields? : Value → Option (List (LooseText × Value))
  | .object fields => some fields
  | _ => none

/-- A decimal so close to zero that it rounds to zero: at most half the least
positive binary number of double precision. -/
def Decimal.vanishes (d : Decimal) : Bool :=
  d.digits = 0 ||
    match d.exponent with
    | .ofNat _ => false
    | .negSucc n =>
      -- beyond this bound the power of ten alone decides
      d.digits.log2 + 1076 < 3 * (n + 1) || d.digits * Nat.pow 2 1075 ≤ Nat.pow 10 (n + 1)

/-- Whether a value counts as present: null, false, zero and empty values do not. -/
def Value.isPresent : Value → Bool
  | .null => false
  | .bool b => b
  | .integer n => n ≠ 0
  | .decimal d => !d.vanishes
  | .notANumber => true
  | .infinity _ => true
  | .text s => !s.chars.isEmpty
  | .array items => !items.isEmpty
  | .object fields => !fields.isEmpty

/-- The word by which a message names the kind of a value. -/
def Value.kind : Value → String
  | .null => "NoneType"
  | .bool _ => "bool"
  | .integer _ => "int"
  | .decimal _ | .notANumber | .infinity _ => "float"
  | .text _ => "str"
  | .array _ => "list"
  | .object _ => "dict"

end ModuleResolution.Json
