/-!
# Reading UTF-8

`decode` reads a byte sequence as UTF-8 text or says where and why that is
impossible. A sequence is rejected at its first ill-formed character; the
reported range holds the bytes up to the one that cannot continue it, or all
that is left when the text ends too early.
-/

set_option autoImplicit false

namespace ModuleResolution.Text.Utf8

/-- What is wrong with an ill-formed byte sequence. -/
inductive Fault where
  | startByte
  | continuationByte
  | endOfData
  deriving DecidableEq, Repr

/-- An ill-formed sequence: its first byte, where it starts, how long it is and what is wrong. -/
structure Error where
  byte : UInt8
  start : Nat
  length : Nat
  fault : Fault
  deriving DecidableEq, Repr

/-- The wording of a fault. -/
def Fault.message : Fault → String
  | .startByte => "invalid start byte"
  | .continuationByte => "invalid continuation byte"
  | .endOfData => "unexpected end of data"

/-- A byte in two lower-case hexadecimal digits. -/
def hexByte (b : UInt8) : String :=
  let digit (n : Nat) : Char := Nat.digitChar n
  String.ofList [digit (b.toNat / 16), digit (b.toNat % 16)]

/-- The report on an ill-formed sequence. -/
def Error.message (e : Error) : String :=
  if e.length ≤ 1 then
    s!"'utf-8' codec can't decode byte 0x{hexByte e.byte} in position {e.start}: {e.fault.message}"
  else
    let last := e.start + e.length - 1
    s!"'utf-8' codec can't decode bytes in position {e.start}-{last}: {e.fault.message}"

/-- A byte that may stand after the first byte of a character. -/
def isContinuation (b : UInt8) : Bool := 0x80 ≤ b && b < 0xC0

/-- The second byte of a three-byte character: neither an overlong form nor a surrogate. -/
def isSecondOfThree (first second : UInt8) : Bool :=
  isContinuation second && (first != 0xE0 || 0xA0 ≤ second) && (first != 0xED || second < 0xA0)

/-- The second byte of a four-byte character: neither an overlong form nor beyond the last plane. -/
def isSecondOfFour (first second : UInt8) : Bool :=
  isContinuation second && (first != 0xF0 || 0x90 ≤ second) && (first != 0xF4 || second < 0x90)

/-- The six payload bits of a continuation byte. -/
def payload (b : UInt8) : Nat := b.toNat % 64

/-- Reads the bytes from position `pos` on. -/
def decodeFrom (pos : Nat) : List UInt8 → Except Error (List Char)
  | [] => .ok []
  | a :: rest =>
    let bad (length : Nat) (fault : Fault) : Except Error (List Char) :=
      .error ⟨a, pos, length, fault⟩
    if a < 0x80 then
      (Char.ofNat a.toNat :: ·) <$> decodeFrom (pos + 1) rest
    else if a < 0xC2 || 0xF5 ≤ a then bad 1 .startByte
    else match rest with
      | [] => bad 1 .endOfData
      | b :: rest =>
        if a < 0xE0 then
          if !isContinuation b then bad 1 .continuationByte
          else (Char.ofNat (a.toNat % 32 * 64 + payload b) :: ·) <$> decodeFrom (pos + 2) rest
        else if a < 0xF0 then
          if !isSecondOfThree a b then bad 1 .continuationByte
          else match rest with
            | [] => bad 2 .endOfData
            | c :: rest =>
              if !isContinuation c then bad 2 .continuationByte
              else
                let code := (a.toNat % 16 * 64 + payload b) * 64 + payload c
                (Char.ofNat code :: ·) <$> decodeFrom (pos + 3) rest
        else
          if !isSecondOfFour a b then bad 1 .continuationByte
          else match rest with
            | [] => bad 2 .endOfData
            | c :: rest =>
              if !isContinuation c then bad 2 .continuationByte
              else match rest with
                | [] => bad 3 .endOfData
                | d :: rest =>
                  if !isContinuation d then bad 3 .continuationByte
                  else
                    let code := ((a.toNat % 8 * 64 + payload b) * 64 + payload c) * 64 + payload d
                    (Char.ofNat code :: ·) <$> decodeFrom (pos + 4) rest

/-- The text that a byte sequence spells, or the first ill-formed sequence in it. -/
def decode (bytes : List UInt8) : Except Error String :=
  String.ofList <$> decodeFrom 0 bytes

/-- The bytes that spell a text. -/
def encode (s : String) : List UInt8 := s.toUTF8.toList

/-! ## Texts with stray bytes

A file with bytes that belong to no character can still be cut into pieces. Its glyphs
are its characters, with a mark in the place of each stray byte. The mark is a code
point that is no character; where a file spells that code point itself, each of its
three bytes counts as a stray byte, so that the widths of the glyphs tell where they
stand in the file.
-/

/-- The mark of a byte that belongs to no character. -/
def strayMark : Char := '\uFFFF'

/-- How many bytes of a file a glyph takes up. -/
def width (c : Char) : Nat := if c = strayMark then 1 else c.utf8Size

/-- The glyphs of a character. -/
def glyphsOfChar (c : Char) : List Char :=
  if c = strayMark then List.replicate c.utf8Size strayMark else [c]

/-- The glyphs of a file; `steps` may be the number of bytes. -/
def glyphsFrom : Nat → List UInt8 → List Char
  | 0, _ => []
  | steps + 1, bytes =>
    match decodeFrom 0 bytes with
    | .ok cs => cs.flatMap glyphsOfChar
    | .error e =>
      let sound := (decodeFrom 0 (bytes.take e.start)).toOption.getD []
      sound.flatMap glyphsOfChar ++ List.replicate e.length strayMark
        ++ glyphsFrom steps (bytes.drop (e.start + e.length))

/-- The glyphs of a file, given by its bytes. -/
def glyphs (bytes : List UInt8) : List Char := glyphsFrom (bytes.length + 1) bytes

end ModuleResolution.Text.Utf8
