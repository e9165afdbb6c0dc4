import Chip8.Text.Hexadecimal

/-! # Text files

The text of a file is its bytes read as UTF-8, in which every line ends with a line feed: the other
line ends in use, a carriage return with or without a line feed, are replaced.
-/

namespace Chip8.Text

/-- What is wrong with bytes that are not UTF-8. -/
inductive EncodingFlaw where
  | invalidStart
  | invalidContinuation
  | endOfData
deriving DecidableEq, Repr

def EncodingFlaw.message : EncodingFlaw → String
  | .invalidStart => "invalid start byte"
  | .invalidContinuation => "invalid continuation byte"
  | .endOfData => "unexpected end of data"

/-- Bytes that belong together and stand for no character, with the position of the first. -/
structure EncodingError where
  position : Nat
  bytes : List UInt8
  flaw : EncodingFlaw
deriving DecidableEq, Repr

/-- The text that describes bytes that stand for no character. -/
def EncodingError.message (error : EncodingError) : String :=
  let place := match error.bytes with
    | [byte] => s!"byte {lowerHex (byte.toNat : Int)} in position {error.position}"
    | bytes => s!"bytes in position {error.position}-{error.position + bytes.length - 1}"
  s!"'utf-8' codec can't decode {place}: {error.flaw.message}"

/-- The ranges of the bytes that must follow a first byte, unless no character starts with it. -/
def followers? (first : UInt8) : Option (List (UInt8 × UInt8)) :=
  if first < 0x80 then some []
  else if first < 0xC2 then none
  else if first < 0xE0 then some [(0x80, 0xBF)]
  else if first < 0xF0 then
    some [(if first = 0xE0 then 0xA0 else 0x80, if first = 0xED then 0x9F else 0xBF), (0x80, 0xBF)]
  else if first < 0xF5 then
    some [(if first = 0xF0 then 0x90 else 0x80, if first = 0xF4 then 0x8F else 0xBF), (0x80, 0xBF),
      (0x80, 0xBF)]
  else none

/-- The first bytes that stand for no character. The bytes `begun` belong to a character of which
bytes in the ranges `expected` are still to come. -/
def findFlaw (position : Nat) (begun : List UInt8) (expected : List (UInt8 × UInt8)) :
    List UInt8 → Option EncodingError
  | [] =>
    if expected.isEmpty then none else some ⟨position - begun.length, begun, .endOfData⟩
  | byte :: rest =>
    match expected with
    | [] =>
      match followers? byte with
      | none => some ⟨position, [byte], .invalidStart⟩
      | some ranges => findFlaw (position + 1) [byte] ranges rest
    | (low, high) :: ranges =>
      if low ≤ byte ∧ byte ≤ high then findFlaw (position + 1) (begun ++ [byte]) ranges rest
      else some ⟨position - begun.length, begun, .invalidContinuation⟩

/-- The characters with every line end replaced by a line feed. -/
def unifyLineEnds : List Char → List Char
  | '\r' :: '\n' :: rest => '\n' :: unifyLineEnds rest
  | '\r' :: rest => '\n' :: unifyLineEnds rest
  | c :: rest => c :: unifyLineEnds rest
  | [] => []

def decodeFile (bytes : List UInt8) : Except EncodingError String :=
  match String.fromUTF8? (ByteArray.mk bytes.toArray) with
  | some text => .ok (String.ofList (unifyLineEnds text.toList))
  | none => .error ((findFlaw 0 [] [] bytes).getD ⟨0, [], .endOfData⟩)

end Chip8.Text
