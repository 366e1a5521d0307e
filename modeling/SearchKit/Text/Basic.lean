/-!
Texts as lists of characters: digits and the numbers they write, white space and trimming, cutting
at a separator, bytes as characters, and sets and maps of characters by their code points.
-/

namespace SearchKit.Text

set_option autoImplicit false

/-! ## Digits -/

def digitValue? (character : Char) : Option Nat :=
  if '0' ≤ character ∧ character ≤ '9' then some (character.toNat - '0'.toNat) else none

def isDigit (character : Char) : Bool := (digitValue? character).isSome

def hexValue? (character : Char) : Option Nat :=
  if '0' ≤ character ∧ character ≤ '9' then some (character.toNat - '0'.toNat)
  else if 'a' ≤ character ∧ character ≤ 'f' then some (character.toNat - 'a'.toNat + 10)
  else if 'A' ≤ character ∧ character ≤ 'F' then some (character.toNat - 'A'.toNat + 10)
  else none

def isHexDigit (character : Char) : Bool := (hexValue? character).isSome

def upperHexDigit (value : Nat) : Char :=
  Char.ofNat (if value < 10 then '0'.toNat + value else 'A'.toNat + (value - 10))

theorem hexValue_upperHexDigit {value : Nat} (small : value < 16) :
    hexValue? (upperHexDigit value) = some value := by
  have all : ∀ digit ∈ List.range 16, hexValue? (upperHexDigit digit) = some digit := by decide
  exact all value (List.mem_range.mpr small)

/-- The number that digits write in a base. Every digit has to be one of that base. -/
def number? (base : Nat) (digits : List Char) : Option Nat :=
  digits.foldl
    (fun read character => do
      let value ← read
      let digit ← hexValue? character
      if digit < base then some (value * base + digit) else none)
    (some 0)

def isAsciiLetter (character : Char) : Bool :=
  ('a' ≤ character && character ≤ 'z') || ('A' ≤ character && character ≤ 'Z')

/-! ## White space -/

/-- The characters with the property White_Space. -/
def isBlank (character : Char) : Bool :=
  let code := character.toNat
  (9 ≤ code && code ≤ 13) || code == 0x20 || code == 0x85 || code == 0xA0 || code == 0x1680 ||
    (0x2000 ≤ code && code ≤ 0x200A) || code == 0x2028 || code == 0x2029 || code == 0x202F ||
    code == 0x205F || code == 0x3000

/-- Removes every character of a class at both ends. -/
def trimBy (dropped : Char → Bool) (text : List Char) : List Char :=
  ((text.dropWhile dropped).reverse.dropWhile dropped).reverse

def trimEnd (dropped : Char) (text : List Char) : List Char :=
  (text.reverse.dropWhile (· == dropped)).reverse

def trim (text : String) : String :=
  String.ofList (trimBy isBlank text.toList)

def isBlankText (text : String) : Bool :=
  text.toList.all isBlank

/-! ## Cutting and joining -/

/-- The parts between the separators: one more than there are separators, empty ones included. -/
def splitChars (separator : Char) : List Char → List (List Char)
  | [] => [[]]
  | character :: rest =>
      if character = separator then [] :: splitChars separator rest
      else
        match splitChars separator rest with
        | [] => [[character]]
        | part :: parts => (character :: part) :: parts

def split (separator : Char) (text : String) : List String :=
  (splitChars separator text.toList).map String.ofList

/-- The text before and after the last separator, when there is one. -/
def splitLastChars (separator : Char) : List Char → Option (List Char × List Char)
  | [] => none
  | character :: rest =>
      match splitLastChars separator rest with
      | some (before, after) => some (character :: before, after)
      | none => if character = separator then some ([], rest) else none

def splitLast (separator : Char) (text : String) : Option (String × String) :=
  (splitLastChars separator text.toList).map fun parts =>
    (String.ofList parts.1, String.ofList parts.2)

def join (separator : String) (parts : List String) : String :=
  separator.intercalate parts

/-- At most the first `limit` characters, with three dots where something was cut off. -/
def abbreviate (limit : Nat) (text : String) : String :=
  if text.toList.length ≤ limit then text
  else String.ofList (text.toList.take limit ++ ['.', '.', '.'])

/-! ## Base64

Three bytes as four characters of an alphabet of 64, filled up with equals signs at the end. -/

def sextet (value : Nat) : Char :=
  Char.ofNat (
    if value < 26 then 'A'.toNat + value
    else if value < 52 then 'a'.toNat + (value - 26)
    else if value < 62 then '0'.toNat + (value - 52)
    else if value = 62 then '+'.toNat
    else '/'.toNat)

def base64 : List UInt8 → List Char
  | [] => []
  | [first] =>
      let bits := first.toNat * 16
      [sextet (bits / 64), sextet (bits % 64), '=', '=']
  | [first, second] =>
      let bits := (first.toNat * 256 + second.toNat) * 4
      [sextet (bits / 4096), sextet (bits / 64 % 64), sextet (bits % 64), '=']
  | first :: second :: third :: rest =>
      let bits := (first.toNat * 256 + second.toNat) * 256 + third.toNat
      sextet (bits / 262144) :: sextet (bits / 4096 % 64) :: sextet (bits / 64 % 64)
        :: sextet (bits % 64) :: base64 rest

/-! ## Ranges

Data on characters by their code points: sets given as closed ranges, and maps given as runs with
one offset or as stretches of listed images, all in increasing order. -/

/-- A character is in the set when one of the ranges holds its code point. -/
def inRanges (ranges : List (Nat × Nat)) (character : Char) : Bool :=
  ranges.any fun range => range.1 ≤ character.toNat && character.toNat ≤ range.2

/-- Every `stride`-th code point from `first` to `last` has its image `offset` further on. -/
structure MappedRun where
  first : Nat
  last : Nat
  stride : Nat
  offset : Int

def MappedRun.covers (run : MappedRun) (code : Nat) : Bool :=
  run.first ≤ code && code ≤ run.last && (code - run.first) % run.stride == 0

/-- The image of a character in the first run that covers it. -/
def runImage? (runs : List MappedRun) (character : Char) : Option Char :=
  (runs.find? (·.covers character.toNat)).map fun run =>
    Char.ofNat (Int.toNat (character.toNat + run.offset))

/-- The images of consecutive code points, each a text. -/
structure Stretch where
  first : Nat
  images : List (List Nat)

def Stretch.image? (stretch : Stretch) (code : Nat) : Option (List Nat) :=
  if stretch.first ≤ code then stretch.images[code - stretch.first]? else none

/-- The image of a character in the first stretch that holds it. -/
def stretchImage? (stretches : List Stretch) (character : Char) : Option (List Char) :=
  (stretches.findSome? (·.image? character.toNat)).map (·.map Char.ofNat)

/-- The first code point with this image. -/
def Stretch.code? (stretch : Stretch) (image : List Nat) : Option Nat :=
  (stretch.images.findIdx? (· == image)).map (stretch.first + ·)

end SearchKit.Text
