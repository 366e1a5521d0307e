import SearchKit.Text.Basic
import SearchKit.Toml.Basic

/-!
TOML values that are written as a single word: truth values, numbers, dates and times.
-/

namespace SearchKit.Toml

set_option autoImplicit false

/-! ## Numbers -/

/-- Digits of which any two may have an underscore between them. -/
def groupedDigits? (isDigit : Char → Bool) (word : List Char) : Option (List Char) :=
  let groups := Text.splitChars '_' word
  if groups.all fun group => group ≠ [] && group.all isDigit then some groups.flatten else none

def signOf : List Char → Bool × List Char
  | '+' :: rest => (false, rest)
  | '-' :: rest => (true, rest)
  | rest => (false, rest)

def wholeDigits? (word : List Char) : Option (List Char) := do
  let digits ← groupedDigits? Text.isDigit word
  if 1 < digits.length ∧ digits.head? = some '0' then none else some digits

/-- Integers have 64 bits. -/
def checkedInteger (value : Int) : Option Toml :=
  if -0x8000000000000000 ≤ value ∧ value < 0x8000000000000000 then some (.integer value) else none

def isBaseDigit (base : Nat) (character : Char) : Bool :=
  (Text.hexValue? character).any (· < base)

def basedInteger? (base : Nat) (word : List Char) : Option Toml := do
  let digits ← groupedDigits? (isBaseDigit base) word
  checkedInteger (← Text.number? base digits)

def decimalInteger? (word : List Char) : Option Toml := do
  let (negative, rest) := signOf word
  let value ← Text.number? 10 (← wholeDigits? rest)
  checkedInteger (if negative then -value else value)

def integer? : List Char → Option Toml
  | '0' :: 'x' :: digits => basedInteger? 16 digits
  | '0' :: 'o' :: digits => basedInteger? 8 digits
  | '0' :: 'b' :: digits => basedInteger? 2 digits
  | word => decimalInteger? word

/-- The least number that rounds to infinity in binary64. -/
def floatLimit : Nat := Nat.pow 2 1024 - Nat.pow 2 970

/-- Digits with a power of ten stay below a limit. Far from it their count decides. -/
def isBelowLimit (digits : List Char) (scale : Int) : Bool :=
  let significant := digits.dropWhile (· == '0')
  let magnitude : Int := significant.length + scale
  if significant = [] ∨ magnitude < 300 then true
  else if 320 < magnitude then false
  else
    match Text.number? 10 significant with
    | some value => value * Nat.pow 10 scale.toNat < floatLimit * Nat.pow 10 (-scale).toNat
    | none => false

def exponent? (word : List Char) : Option Int := do
  let (negative, rest) := signOf word
  let value ← Text.number? 10 (← groupedDigits? Text.isDigit rest)
  return if negative then -value else value

def isSpecialFloat (word : List Char) : Bool :=
  (signOf word).2 ∈ ["inf".toList, "nan".toList]

def isScaledFloat (word : List Char) : Bool :=
  let (negative, rest) := signOf word
  let (mantissa, exponentText) := rest.span fun character => character ≠ 'e' && character ≠ 'E'
  let (whole, fractionText) := mantissa.span (· ≠ '.')
  let parts : Option (List Char × List Char × Int) := do
    let wholeDigits ← wholeDigits? whole
    let fraction ← match fractionText with
      | [] => some []
      | _ :: digits => groupedDigits? Text.isDigit digits
    let exponent ← match exponentText with
      | [] => some 0
      | _ :: digits => exponent? digits
    return (wholeDigits, fraction, exponent)
  match parts with
  | none => false
  | some (wholeDigits, fraction, exponent) =>
      (fractionText ≠ [] || exponentText ≠ []) &&
        (negative || isBelowLimit (wholeDigits ++ fraction) (exponent - fraction.length))

/-! ## Dates and times -/

/-- A number of exactly so many digits within limits, and what follows it. -/
def readNumber (count least greatest : Nat) (text : List Char) : Option (Nat × List Char) := do
  let digits := text.take count
  if digits.length = count ∧ digits.all Text.isDigit then
    let value ← Text.number? 10 digits
    if least ≤ value ∧ value ≤ greatest then some (value, text.drop count) else none
  else none

def readMark (mark : Char) : List Char → Option (List Char)
  | character :: rest => if character = mark then some rest else none
  | [] => none

def isLeapYear (year : Nat) : Bool :=
  year % 4 == 0 && (year % 100 != 0 || year % 400 == 0)

def daysIn (year month : Nat) : Nat :=
  if month = 2 then (if isLeapYear year then 29 else 28)
  else if month ∈ [4, 6, 9, 11] then 30
  else 31

def readDate (text : List Char) : Option (List Char) := do
  let (year, rest) ← readNumber 4 0 9999 text
  let (month, rest) ← readNumber 2 1 12 (← readMark '-' rest)
  let (_, rest) ← readNumber 2 1 (daysIn year month) (← readMark '-' rest)
  return rest

/-- What follows a time of day. Seconds may have a fraction and may be leap seconds. -/
def readTime (text : List Char) : Option (List Char) := do
  let (_, rest) ← readNumber 2 0 23 text
  let (_, rest) ← readNumber 2 0 59 (← readMark ':' rest)
  let (_, rest) ← readNumber 2 0 60 (← readMark ':' rest)
  match rest with
  | '.' :: fraction =>
      if fraction.head?.any Text.isDigit then return fraction.dropWhile Text.isDigit else none
  | _ => return rest

def readOffset : List Char → Option (List Char)
  | 'Z' :: rest | 'z' :: rest => some rest
  | '+' :: rest | '-' :: rest => do
      let (_, rest) ← readNumber 2 0 23 rest
      let (_, rest) ← readNumber 2 0 59 (← readMark ':' rest)
      return rest
  | rest => some rest

def isTimeMark (character : Char) : Bool := character ∈ ['T', 't', ' ']

def isDate (word : List Char) : Bool := readDate word = some []

/-- A date, a time, or both with or without a difference from universal time. -/
def isMoment (word : List Char) : Bool :=
  match readDate word with
  | some [] => true
  | some (mark :: rest) => isTimeMark mark && (readTime rest).bind readOffset = some []
  | none => readTime word = some []

/-! ## Words -/

def isWordCharacter (character : Char) : Bool :=
  Text.isAsciiLetter character || Text.isDigit character ||
    character ∈ ['_', '+', '-', '.', ':']

def ofWord? (word : List Char) : Option Toml :=
  let text := String.ofList word
  if text = "true" then some (.boolean true)
  else if text = "false" then some (.boolean false)
  else if isMoment word then some (.moment text)
  else if isSpecialFloat word || isScaledFloat word then some (.float text)
  else integer? word

/-- Reads a word. A date goes on over one space when a digit follows it. -/
def readWord (text : List Char) : Option (Toml × List Char) := do
  let (word, rest) := text.span isWordCharacter
  match rest with
  | ' ' :: digit :: more =>
      if isDate word && Text.isDigit digit then
        let (time, after) := (digit :: more).span isWordCharacter
        return (← ofWord? (word ++ ' ' :: time), after)
      else return (← ofWord? word, rest)
  | _ => return (← ofWord? word, rest)

end SearchKit.Toml
