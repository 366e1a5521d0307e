import SearchKit.Text.Basic

/-!
Addresses as hosts. One of version 4 is written as up to four numbers between full stops, each
decimal, octal or hexadecimal, of which the last one fills all bytes that are left. One of version 6
is written as eight pieces of 16 bits in hexadecimal digits between colons: two colons stand for as
many zeros as are missing, and the last two pieces may be the four bytes of an address of version 4.
-/

namespace SearchKit.Url

set_option autoImplicit false

namespace Ipv4

/-- A number with the mark of its base: `0x` for hexadecimal and `0` for octal. A mark alone is
zero. -/
def numberOf? (part : List Char) : Option Nat :=
  match part with
  | [] => none
  | '0' :: 'x' :: digits | '0' :: 'X' :: digits => Text.number? 16 digits
  | '0' :: digit :: digits => Text.number? 8 (digit :: digits)
  | _ => Text.number? 10 part

def partsOf (name : List Char) : List (List Char) :=
  let parts := Text.splitChars '.' name
  if 1 < parts.length ∧ parts.getLast? = some [] then parts.dropLast else parts

/-- A name is meant as an address when its last part is a number. -/
def isMeantBy (name : List Char) : Bool :=
  match (partsOf name).getLast? with
  | some part =>
      (part ≠ [] && part.all Text.isDigit) || (numberOf? part).isSome
  | none => false

/-- The value of numbers of which each but the last is one byte, in a place of some bytes. -/
def combine : Nat → List Nat → Option Nat
  | _, [] | 0, _ => none
  | place, [last] => if last < Nat.pow 256 place then some last else none
  | lower + 1, byte :: more =>
      if byte < 256 then (combine lower more).map (byte * Nat.pow 256 lower + ·) else none

def address? (name : List Char) : Option UInt32 := do
  let numbers ← (partsOf name).mapM numberOf?
  let value ← combine 4 numbers
  return UInt32.ofNat value

def text (address : UInt32) : List Char :=
  let value := address.toNat
  let byte (place : Nat) := Nat.toDigits 10 (value / Nat.pow 256 place % 256)
  byte 3 ++ '.' :: byte 2 ++ '.' :: byte 1 ++ '.' :: byte 0

end Ipv4

namespace Ipv6

def piece? (digits : List Char) : Option UInt16 :=
  if 0 < digits.length ∧ digits.length ≤ 4 then (Text.number? 16 digits).map UInt16.ofNat
  else none

def byte? (digits : List Char) : Option Nat :=
  match digits with
  | [] => none
  | '0' :: _ :: _ => none
  | _ => (Text.number? 10 digits).filter (· < 256)

def dottedPieces? (text : List Char) : Option (List UInt16) := do
  match (← (Text.splitChars '.' text).mapM byte?) with
  | [first, second, third, fourth] =>
      return [UInt16.ofNat (first * 256 + second), UInt16.ofNat (third * 256 + fourth)]
  | _ => none

/-- The pieces of the parts between colons. Only the last part may be dotted. -/
def piecesOf? (dottedEnd : Bool) : List (List Char) → Option (List UInt16)
  | [] => some []
  | [last] =>
      if dottedEnd ∧ '.' ∈ last then dottedPieces? last else (piece? last).map ([·])
  | part :: more => do
      let piece ← piece? part
      let pieces ← piecesOf? dottedEnd more
      return piece :: pieces

/-- The pieces of a side of the two colons, which may be empty. -/
def side? (dottedEnd : Bool) (text : List Char) : Option (List UInt16) :=
  if text = [] then some [] else piecesOf? dottedEnd (Text.splitChars ':' text)

/-- The text before and after the first two colons in a row. -/
def splitGap : List Char → Option (List Char × List Char)
  | ':' :: ':' :: rest => some ([], rest)
  | character :: rest => (splitGap rest).map fun sides => (character :: sides.1, sides.2)
  | [] => none

def address? (text : List Char) : Option (List UInt16) :=
  match splitGap text with
  | none => (side? true text).filter (·.length = 8)
  | some (before, after) => do
      let front ← side? false before
      let back ← side? true after
      let known := front.length + back.length
      if known < 8 then return front ++ List.replicate (8 - known) 0 ++ back else none

/-! ## Text -/

def leadingZeros (pieces : List UInt16) : Nat := (pieces.takeWhile (· == 0)).length

/-- Where the longest run of zeros starts and how long it is, the first of several. -/
def longestRun : Nat → List UInt16 → Nat × Nat
  | place, [] => (place, 0)
  | place, piece :: rest =>
      let here := leadingZeros (piece :: rest)
      let later := longestRun (place + 1) rest
      if later.2 ≤ here then (place, here) else later

def pieceText (piece : UInt16) : List Char := Nat.toDigits 16 piece.toNat

def piecesText (pieces : List UInt16) : List Char :=
  [':'].intercalate (pieces.map pieceText)

/-- The shortest text: the longest run of two zeros or more becomes two colons. -/
def text (pieces : List UInt16) : List Char :=
  let (start, count) := longestRun 0 pieces
  if count < 2 then piecesText pieces
  else piecesText (pieces.take start) ++ ':' :: ':' :: piecesText (pieces.drop (start + count))

end Ipv6

end SearchKit.Url
