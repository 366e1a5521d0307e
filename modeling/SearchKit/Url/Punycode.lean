import SearchKit.Text.Basic

/-!
Punycode: a label with characters beyond ASCII written in letters and digits. The ASCII characters
come first; then, in the order of their code points, each further character is a count of the places
and code points passed over since the one before it, in digits of varying weight.
-/

namespace SearchKit.Url

set_option autoImplicit false

namespace Punycode

def initialBias : Nat := 72

def firstCode : Nat := 0x80

/-- The digits are the letters, and then the decimal digits. -/
def digit (value : Nat) : Char :=
  Char.ofNat (if value < 26 then 'a'.toNat + value else '0'.toNat + (value - 26))

def digitValue? (character : Char) : Option Nat :=
  if 'a' ≤ character ∧ character ≤ 'z' then some (character.toNat - 'a'.toNat)
  else if 'A' ≤ character ∧ character ≤ 'Z' then some (character.toNat - 'A'.toNat)
  else (Text.digitValue? character).map (· + 26)

/-- A digit below the threshold of its position is the last one of its count. -/
def threshold (position bias : Nat) : Nat := max 1 (min 26 (position - bias))

theorem threshold_pos (position bias : Nat) : 0 < threshold position bias := by
  unfold threshold
  omega

theorem threshold_le (position bias : Nat) : threshold position bias ≤ 26 := by
  unfold threshold
  omega

def settle (bias count : Nat) : Nat :=
  if 455 < count then settle (bias + 36) (count / 35) else bias + 36 * count / (count + 38)
termination_by count
decreasing_by omega

/-- The bias for the next count, after one that was written with so many characters in place. -/
def adapt (isFirst : Bool) (count placed : Nat) : Nat :=
  let scaled := if isFirst then count / 700 else count / 2
  settle 0 (scaled + scaled / placed)

def digits (bias position count : Nat) : List Char :=
  let limit := threshold position bias
  if count < limit then [digit count]
  else
    digit (limit + (count - limit) % (36 - limit))
      :: digits bias (position + 36) ((count - limit) / (36 - limit))
termination_by count
decreasing_by
  have positive := threshold_pos position bias
  have small := threshold_le position bias
  have shrinks := Nat.div_le_self (count - threshold position bias)
    (36 - threshold position bias)
  omega

structure Encoding where
  written : List Char
  count : Nat
  placed : Nat
  bias : Nat
  isFirst : Bool

/-- Passes one character of the label while characters of a code point are written. -/
def Encoding.pass (code : Nat) (state : Encoding) (character : Char) : Encoding :=
  if character.toNat < code then { state with count := state.count + 1 }
  else if character.toNat = code then
    { written := state.written ++ digits state.bias 36 state.count
      count := 0
      placed := state.placed + 1
      bias := adapt state.isFirst state.count (state.placed + 1)
      isFirst := false }
  else state

/-- Writes the characters of each code point in turn, of which the next is at least `least`. -/
def writeCodes (label : List Char) : Nat → List Nat → Encoding → Encoding
  | _, [], state => state
  | least, code :: more, state =>
      let skipped := { state with count := state.count + (code - least) * (state.placed + 1) }
      let passed := label.foldl (Encoding.pass code) skipped
      writeCodes label (code + 1) more { passed with count := passed.count + 1 }

def encode (label : List Char) : List Char :=
  let plain := label.filter (·.toNat < firstCode)
  let codes := ((label.map Char.toNat).filter (firstCode ≤ ·)).mergeSort.eraseDups
  let start := if plain = [] then [] else plain ++ ['-']
  (writeCodes label firstCode codes ⟨start, 0, plain.length, initialBias, true⟩).written

/-- A label in the making: its characters, where and what the next one is, and the count so far. -/
structure Decoding where
  characters : List Char
  code : Nat
  place : Nat
  bias : Nat
  isFirst : Bool
  count : Nat
  weight : Nat
  position : Nat

/-- A character that can be put into a label by its code point. -/
def characterOf? (code : Nat) : Option Char :=
  if code.isValidChar then some (Char.ofNat code) else none

/-- Reads one digit, and at the last digit of a count puts its character in place. -/
def Decoding.read (state : Decoding) (character : Char) : Option Decoding := do
  let value ← digitValue? character
  let count := state.count + value * state.weight
  let limit := threshold state.position state.bias
  if value < limit then
    let size := state.characters.length + 1
    let reached := state.place + count
    let code := state.code + reached / size
    let place := reached % size
    let placed ← characterOf? code
    return {
      characters := state.characters.take place ++ placed :: state.characters.drop place
      code
      place := place + 1
      bias := adapt state.isFirst count size
      isFirst := false
      count := 0
      weight := 1
      position := 36 }
  else
    return { state with
      count
      weight := state.weight * (36 - limit)
      position := state.position + 36 }

/-- The label of a text whose ASCII characters, if any, stand before its last hyphen. -/
def decode? (text : List Char) : Option (List Char) := do
  let coded := (text.reverse.takeWhile (· ≠ '-')).reverse
  let plain := (text.take (text.length - coded.length)).dropLast
  let final ← coded.foldlM Decoding.read ⟨plain, firstCode, 0, initialBias, true, 0, 1, 36⟩
  if final.position = 36 then return final.characters else none

end Punycode

end SearchKit.Url
