import ModuleResolution.Json.Token
import ModuleResolution.Table

/-!
# Reading JSON

`read` turns a text into a value. The reader goes through the tokens once, from
left to right, with a stack of the arrays and objects that are still open; it
reports the first token that cannot stand where it does, by line and column. It
has room for so many open arrays and objects only, and gives up where a text opens
one more.
-/

set_option autoImplicit false

namespace ModuleResolution.Json

/-- What a text opens. -/
inductive Opening where
  | array
  | object
  deriving DecidableEq, Repr

/-- The word by which a message names what is opened. -/
def Opening.word : Opening → String
  | .array => "array"
  | .object => "object"

/-- Why no value is read from a text. -/
inductive ReadError where
  | malformed (fault : Fault) (line column position : Nat)
  | integerTooLong (digits : Nat)
  | tooDeep (opening : Opening)
  deriving DecidableEq, Repr

/-- The report on a text from which no value is read. -/
def ReadError.message : ReadError → String
  | .malformed fault line column position =>
    s!"{fault.message}: line {line} column {column} (char {position})"
  | .integerTooLong digits =>
    s!"Exceeds the limit ({digitLimit} digits) for integer string conversion: value has {digits} "
      ++ "digits; use sys.set_int_max_str_digits() to increase the limit"
  | .tooDeep opening =>
    s!"maximum recursion depth exceeded while decoding a JSON {opening.word} from a unicode string"

/-! ## The stack of open values -/

/-- An array or object that is still open; an object knows the name of its next field. -/
inductive Frame where
  | array (done : List Value)
  | object (done : List (LooseText × Value)) (name : LooseText)

/-- What the reader waits for. -/
inductive State where
  | value (stack : List Frame)
  | firstItem (stack : List Frame)
  | firstName (stack : List Frame)
  | nextName (done : List (LooseText × Value)) (stack : List Frame)
  | colon (done : List (LooseText × Value)) (name : LooseText) (stack : List Frame)
  | afterValue (v : Value) (stack : List Frame)

/-- A stop of the reader before lines and columns are counted. -/
inductive Stop where
  | misplaced (fault : Fault) (position : Nat)
  | integerTooLong (digits : Nat)
  | tooDeep (opening : Opening)
  deriving DecidableEq, Repr

/-- A token where a value has to start. -/
def State.startValue (stack : List Frame) (t : Located) : Except Stop State :=
  match t.token with
  | .openBrace => .ok (.firstName stack)
  | .openBracket => .ok (.firstItem stack)
  | .scalar v => .ok (.afterValue v stack)
  | .text s => .ok (.afterValue (.text s) stack)
  | .oversized digits => .error (.integerTooLong digits)
  | .broken fault position => .error (.misplaced fault position)
  | _ => .error (.misplaced .value t.position)

/-- A token where the name of a field has to stand. -/
def State.startName (done : List (LooseText × Value)) (stack : List Frame) (t : Located) :
    Except Stop State :=
  match t.token with
  | .text s => .ok (.colon done s stack)
  | .broken fault position => .error (.misplaced fault position)
  | _ => .error (.misplaced .propertyName t.position)

/-- A token behind a value. -/
def State.afterToken (v : Value) (stack : List Frame) (t : Located) : Except Stop State :=
  match stack with
  | [] => .error (.misplaced .extraData t.position)
  | .array done :: stack =>
    match t.token with
    | .closeBracket => .ok (.afterValue (.array (v :: done).reverse) stack)
    | .comma => .ok (.value (.array (v :: done) :: stack))
    | _ => .error (.misplaced .comma t.position)
  | .object done name :: stack =>
    match t.token with
    | .closeBrace => .ok (.afterValue (.object (Table.insert done name v)) stack)
    | .comma => .ok (.nextName (Table.insert done name v) stack)
    | _ => .error (.misplaced .comma t.position)

/-- One token read. -/
def State.step (t : Located) : State → Except Stop State
  | .value stack => startValue stack t
  | .firstItem stack =>
    match t.token with
    | .closeBracket => .ok (.afterValue (.array []) stack)
    | _ => startValue (.array [] :: stack) t
  | .firstName stack =>
    match t.token with
    | .closeBrace => .ok (.afterValue (.object []) stack)
    | _ => startName [] stack t
  | .nextName done stack => startName done stack t
  | .colon done name stack =>
    match t.token with
    | .colon => .ok (.value (.object done name :: stack))
    | _ => .error (.misplaced .colon t.position)
  | .afterValue v stack => afterToken v stack t

/-- A state as it is, unless what has been opened last finds no room: `room` arrays and
objects may be open at a time. -/
def State.within (room : Nat) (s : State) : Except Stop State :=
  match s with
  | .firstItem stack => if stack.length < room then .ok s else .error (.tooDeep .array)
  | .firstName stack => if stack.length < room then .ok s else .error (.tooDeep .object)
  | _ => .ok s

/-- The value read, when the text ends at a position. -/
def State.finish (position : Nat) : State → Except Stop Value
  | .value _ | .firstItem _ => .error (.misplaced .value position)
  | .firstName _ | .nextName _ _ => .error (.misplaced .propertyName position)
  | .colon _ _ _ => .error (.misplaced .colon position)
  | .afterValue v [] => .ok v
  | .afterValue _ (_ :: _) => .error (.misplaced .comma position)

/-- All tokens read from a state on. -/
def State.run (room position : Nat) (s : State) : List Located → Except Stop Value
  | [] => s.finish position
  | t :: ts => do (← (← s.step t).within room).run room position ts

/-! ## Texts -/

/-- The line and the column of a position, both counted from one. -/
def lineColumn (cs : List Char) (position : Nat) : Nat × Nat :=
  let before := cs.take position
  (before.count '\n' + 1, (before.reverse.takeWhile (· ≠ '\n')).length + 1)

/-- A stop of the reader with its place in the text. -/
def Stop.locate (cs : List Char) : Stop → ReadError
  | .misplaced fault position =>
    let (line, column) := lineColumn cs position
    .malformed fault line column position
  | .integerTooLong digits => .integerTooLong digits
  | .tooDeep opening => .tooDeep opening

/-- The value that the characters of a text spell. -/
def readChars (room : Nat) (cs : List Char) : Except Stop Value :=
  if cs.head? = some '\uFEFF' then .error (.misplaced .byteOrderMark 0)
  else (State.value []).run room cs.length (tokens cs)

/-- The JSON value that a text spells, read with room for so many open arrays and
objects. -/
def read (room : Nat) (s : String) : Except ReadError Value :=
  (readChars room s.toList).mapError (Stop.locate s.toList)

end ModuleResolution.Json
