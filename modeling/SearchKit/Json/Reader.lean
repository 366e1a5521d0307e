import SearchKit.Json.Basic
import SearchKit.Text.Basic

/-!
Reading JSON text. Every reading function takes the characters that are left and gives back a value
with the characters after it, or stops with a cause. A stop remembers how many bytes were left, from
which its line and column are computed at the end. Nesting is bounded by the depth that is left, and
the loops over items, members and digits by the characters that are left.
-/

namespace SearchKit.Json

open Text (digitValue? isDigit hexValue?)

set_option autoImplicit false

inductive TextFault.Cause where
  | endInValue
  | endInList
  | endInObject
  | endInString
  | valueExpected
  | wordExpected
  | colonExpected
  | listSeparatorExpected
  | objectSeparatorExpected
  | nameExpected
  | trailingComma
  | trailingCharacters
  | invalidNumber
  | numberOutOfRange
  | invalidEscape
  | loneSurrogate
  | unfinishedSurrogate
  | controlCharacter
  | nestingTooDeep
deriving DecidableEq, Repr

/-- A cause with the line, and the bytes of that line, that lie before it. -/
structure TextFault where
  cause : TextFault.Cause
  line : Nat
  column : Nat
deriving DecidableEq, Repr

def TextFault.Cause.message : TextFault.Cause → String
  | .endInValue => "EOF while parsing a value"
  | .endInList => "EOF while parsing a list"
  | .endInObject => "EOF while parsing an object"
  | .endInString => "EOF while parsing a string"
  | .valueExpected => "expected value"
  | .wordExpected => "expected ident"
  | .colonExpected => "expected `:`"
  | .listSeparatorExpected => "expected `,` or `]`"
  | .objectSeparatorExpected => "expected `,` or `\x7d`"
  | .nameExpected => "key must be a string"
  | .trailingComma => "trailing comma"
  | .trailingCharacters => "trailing characters"
  | .invalidNumber => "invalid number"
  | .numberOutOfRange => "number out of range"
  | .invalidEscape => "invalid escape"
  | .loneSurrogate => "lone leading surrogate in hex escape"
  | .unfinishedSurrogate => "unexpected end of hex escape"
  | .controlCharacter => "control character (\\u0000-\\u001F) found while parsing a string"
  | .nestingTooDeep => "recursion limit exceeded"

def TextFault.message (fault : TextFault) : String :=
  fault.cause.message ++ " at line " ++ toString fault.line ++ " column " ++ toString fault.column

/-- A cause with the count of bytes that follow the place it is reported at. -/
structure Stop where
  cause : TextFault.Cause
  bytesLeft : Nat
deriving DecidableEq, Repr

abbrev Reading (α : Type) := Except Stop (α × List Char)

def byteCount : List Char → Nat
  | [] => 0
  | character :: rest => character.utf8Size + byteCount rest

/-- Stops in front of the characters that are left. -/
def stop {α : Type} (cause : TextFault.Cause) (left : List Char) : Except Stop α :=
  .error ⟨cause, byteCount left⟩

/-- Stops after the next byte, when there is one. -/
def stopAfter {α : Type} (cause : TextFault.Cause) (left : List Char) : Except Stop α :=
  .error ⟨cause, byteCount left - 1⟩

def isSpace (character : Char) : Bool :=
  character == ' ' || character == '\n' || character == '\t' || character == '\r'

def skipSpaces (characters : List Char) : List Char := characters.dropWhile isSpace

/-- Reads the rest of a word whose first letter was read. -/
def readWord (value : Json) : List Char → List Char → Reading Json
  | [], left => .ok (value, left)
  | _ :: _, [] => stop .endInValue []
  | expected :: more, character :: left =>
      if character = expected then readWord value more left
      else stopAfter .wordExpected (character :: left)

/-! ## Numbers -/

/-- Appends digits to a significand as long as it fits 64 bits, and counts them. -/
def takeDigits (significand count : Nat) : List Char → Nat × Nat × List Char
  | [] => (significand, count, [])
  | character :: left =>
      match digitValue? character with
      | none => (significand, count, character :: left)
      | some digit =>
          if 0x10000000000000000 ≤ significand * 10 + digit then
            (significand, count, character :: left)
          else takeDigits (significand * 10 + digit) (count + 1) left

def finishFloat (negative : Bool) (significand : Nat) (exponent : Int) (left : List Char) :
    Reading Number :=
  match Binary64.ofScaled significand exponent with
  | some value => .ok (.float (if negative then value.negate else value), left)
  | none => stop .numberOutOfRange left

/-- The digits of an exponent. The flag says that they went beyond 31 bits, and then the characters
left are those after the digit at which that happened. -/
def takeExponent (exponent : Nat) : List Char → Nat × Bool × List Char
  | [] => (exponent, false, [])
  | character :: left =>
      match digitValue? character with
      | none => (exponent, false, character :: left)
      | some digit =>
          if 0x80000000 ≤ exponent * 10 + digit then (exponent, true, left)
          else takeExponent (exponent * 10 + digit) left

def readExponent (negative : Bool) (significand : Nat) (scale : Int) (left : List Char) :
    Reading Number :=
  let (down, left) :=
    match left with
    | '+' :: more => (false, more)
    | '-' :: more => (true, more)
    | _ => (false, left)
  match left with
  | [] => stop .endInValue []
  | first :: more =>
      match digitValue? first with
      | none => stopAfter .invalidNumber left
      | some digit =>
          let (exponent, beyond, left) := takeExponent digit more
          if beyond then
            if significand ≠ 0 ∧ down = false then stop .numberOutOfRange left
            else .ok (.float (.zero negative), left.dropWhile isDigit)
          else
            finishFloat negative significand (if down then scale - exponent else scale + exponent)
              left

/-- Goes on after the digits of a significand: with an exponent, or with the end of the number. -/
def readScaled (negative : Bool) (significand : Nat) (scale : Int) (left : List Char) :
    Reading Number :=
  match left with
  | 'e' :: more | 'E' :: more => readExponent negative significand scale more
  | _ => finishFloat negative significand scale left

/-- Reads the digits after a point. Those that no longer fit the significand are dropped. -/
def readFraction (negative : Bool) (significand : Nat) (scale : Int) (left : List Char) :
    Reading Number :=
  let (extended, count, after) := takeDigits significand 0 left
  let beyond := after.dropWhile isDigit
  if count = 0 ∧ beyond.length = after.length then stopAfter
    (if after = [] then .endInValue else .invalidNumber) after
  else readScaled negative extended (scale - count) beyond

def finishInteger (negative : Bool) (significand : Nat) (left : List Char) : Reading Number :=
  if negative then
    if inRange : 0 < significand ∧ significand ≤ 0x8000000000000000 then
      .ok (.integer (-significand) (by omega), left)
    else finishFloat true significand 0 left
  else if inRange : significand < 0x10000000000000000 then
    .ok (.integer significand (by omega), left)
  else finishFloat false significand 0 left

/-- Goes on after the whole digits, of which `dropped` did not fit the significand. -/
def readAfterWhole (negative : Bool) (significand dropped : Nat) (left : List Char) :
    Reading Number :=
  match left with
  | '.' :: more => readFraction negative significand dropped more
  | 'e' :: more | 'E' :: more => readExponent negative significand dropped more
  | _ =>
      if dropped = 0 then finishInteger negative significand left
      else finishFloat negative significand dropped left

def readNumber (negative : Bool) (left : List Char) : Reading Number :=
  match left with
  | [] => stop .endInValue []
  | first :: more =>
      match digitValue? first with
      | none => stopAfter .invalidNumber left
      | some 0 =>
          match more with
          | next :: _ =>
              if isDigit next then stopAfter .invalidNumber more
              else readAfterWhole negative 0 0 more
          | [] => readAfterWhole negative 0 0 more
      | some digit =>
          let (significand, _, after) := takeDigits digit 0 more
          let dropped := (after.takeWhile isDigit).length
          readAfterWhole negative significand dropped (after.dropWhile isDigit)

/-! ## Strings -/

/-- Four hexadecimal digits. Other characters are passed over by the byte. -/
def readHex (left : List Char) : Reading Nat :=
  if byteCount (left.take 4) < 4 then stop .endInString []
  else
    match left with
    | first :: second :: third :: fourth :: rest =>
        match hexValue? first, hexValue? second, hexValue? third, hexValue? fourth with
        | some a, some b, some c, some d => .ok (((a * 16 + b) * 16 + c) * 16 + d, rest)
        | _, _, _, _ => .error ⟨.invalidEscape, byteCount left - 4⟩
    | _ => .error ⟨.invalidEscape, byteCount left - 4⟩

def isHighSurrogate (unit : Nat) : Bool := 0xD800 ≤ unit && unit ≤ 0xDBFF

def isLowSurrogate (unit : Nat) : Bool := 0xDC00 ≤ unit && unit ≤ 0xDFFF

/-- Reads a character given by its code, or by two surrogates, after the letter of the escape. -/
def readCode (left : List Char) : Reading Char :=
  match readHex left with
  | .error fault => .error fault
  | .ok (unit, after) =>
      if isLowSurrogate unit then stop .loneSurrogate after
      else if isHighSurrogate unit then
        match after with
        | '\\' :: 'u' :: more =>
            match readHex more with
            | .error fault => .error fault
            | .ok (low, rest) =>
                if isLowSurrogate low then
                  .ok (Char.ofNat (0x10000 + (unit - 0xD800) * 0x400 + (low - 0xDC00)), rest)
                else stop .loneSurrogate rest
        | ['\\'] | [] => stop .endInString []
        | '\\' :: more => stopAfter .unfinishedSurrogate more
        | _ => stopAfter .unfinishedSurrogate after
      else .ok (Char.ofNat unit, after)

/-- Reads the character that an escape stands for, after its backslash. -/
def readEscape : List Char → Reading Char
  | [] => stop .endInString []
  | '"' :: left => .ok ('"', left)
  | '\\' :: left => .ok ('\\', left)
  | '/' :: left => .ok ('/', left)
  | 'b' :: left => .ok ('\x08', left)
  | 'f' :: left => .ok ('\x0c', left)
  | 'n' :: left => .ok ('\n', left)
  | 'r' :: left => .ok ('\r', left)
  | 't' :: left => .ok ('\t', left)
  | 'u' :: left => readCode left
  | other => stopAfter .invalidEscape other

theorem readHex_shortens {left rest : List Char} {unit : Nat}
    (read : readHex left = .ok (unit, rest)) : rest.length < left.length := by
  unfold readHex at read
  split at read
  · simp [stop] at read
  · split at read
    · split at read
      · simp only [Except.ok.injEq, Prod.mk.injEq] at read
        obtain ⟨_, rfl⟩ := read
        simp
        omega
      · simp at read
    · simp at read

theorem readCode_shortens {left rest : List Char} {character : Char}
    (read : readCode left = .ok (character, rest)) : rest.length < left.length := by
  unfold readCode at read
  split at read
  · simp at read
  · rename_i unit after first
    have shorter := readHex_shortens first
    split at read
    · simp [stop] at read
    · split at read
      · split at read
        · rename_i more
          split at read
          · simp at read
          · rename_i low further second
            have shorterStill := readHex_shortens second
            split at read
            · simp only [Except.ok.injEq, Prod.mk.injEq] at read
              obtain ⟨_, rfl⟩ := read
              simp at shorter
              omega
            · simp [stop] at read
        · simp [stop] at read
        · simp [stop] at read
        · simp [stopAfter] at read
        · simp [stopAfter] at read
      · simp only [Except.ok.injEq, Prod.mk.injEq] at read
        obtain ⟨_, rfl⟩ := read
        exact shorter

theorem readEscape_shortens {left rest : List Char} {character : Char}
    (read : readEscape left = .ok (character, rest)) : rest.length < left.length := by
  unfold readEscape at read
  split at read <;>
    first
    | (simp only [Except.ok.injEq, Prod.mk.injEq] at read
       obtain ⟨_, rfl⟩ := read
       simp)
    | (simp [stop, stopAfter] at read; done)
    | (have shorter := readCode_shortens read
       simp only [List.length_cons]
       omega)

/-- Reads a string after its opening quote. The characters read so far are kept backwards. -/
def readString (read : List Char) (left : List Char) : Reading String :=
  match left with
  | [] => stop .endInString []
  | '"' :: rest => .ok (String.ofList read.reverse, rest)
  | '\\' :: rest =>
      match _taken : readEscape rest with
      | .error fault => .error fault
      | .ok (character, after) => readString (character :: read) after
  | character :: rest =>
      if character.toNat < 0x20 then stopAfter .controlCharacter left
      else readString (character :: read) rest
termination_by left.length
decreasing_by
  · have shorter := readEscape_shortens _taken
    simp only [List.length_cons]
    omega
  · simp

/-! ## Values -/

/-- Reads the items that follow a first one, and the closing bracket. -/
def readFurtherItems (readItem : List Char → Reading Json) :
    Nat → List Json → List Char → Reading (List Json)
  | 0, _, _ => stop .endInList []
  | bound + 1, items, left =>
      match skipSpaces left with
      | [] => stop .endInList []
      | ']' :: rest => .ok (items.reverse, rest)
      | ',' :: rest =>
          match skipSpaces rest with
          | [] => stop .endInValue []
          | ']' :: more => stopAfter .trailingComma (']' :: more)
          | next =>
              match readItem next with
              | .error fault => .error fault
              | .ok (item, after) => readFurtherItems readItem bound (item :: items) after
      | other => stopAfter .listSeparatorExpected other

def readItems (readItem : List Char → Reading Json) (left : List Char) : Reading (List Json) :=
  match skipSpaces left with
  | [] => stop .endInList []
  | ']' :: rest => .ok ([], rest)
  | next =>
      match readItem next with
      | .error fault => .error fault
      | .ok (item, after) => readFurtherItems readItem (after.length + 1) [item] after

/-- Reads a member after the opening quote of its name. -/
def readMember (readItem : List Char → Reading Json) (left : List Char) :
    Reading (String × Json) :=
  match readString [] left with
  | .error fault => .error fault
  | .ok (name, after) =>
      match skipSpaces after with
      | [] => stop .endInObject []
      | ':' :: rest =>
          match readItem rest with
          | .error fault => .error fault
          | .ok (value, more) => .ok ((name, value), more)
      | other => stopAfter .colonExpected other

/-- Reads the members that follow a first one, and the closing brace. A name that comes again gives
its place a new value. -/
def readFurtherMembers (readItem : List Char → Reading Json) :
    Nat → List (String × Json) → List Char → Reading (List (String × Json))
  | 0, _, _ => stop .endInObject []
  | bound + 1, members, left =>
      match skipSpaces left with
      | [] => stop .endInObject []
      | '\x7d' :: rest => .ok (members, rest)
      | ',' :: rest =>
          match skipSpaces rest with
          | [] => stop .endInValue []
          | '"' :: more =>
              match readMember readItem more with
              | .error fault => .error fault
              | .ok ((name, value), after) =>
                  readFurtherMembers readItem bound (Entries.put name value members) after
          | '\x7d' :: more => stopAfter .trailingComma ('\x7d' :: more)
          | other => stopAfter .nameExpected other
      | other => stopAfter .objectSeparatorExpected other

def readMembers (readItem : List Char → Reading Json) (left : List Char) :
    Reading (List (String × Json)) :=
  match skipSpaces left with
  | [] => stop .endInObject []
  | '\x7d' :: rest => .ok ([], rest)
  | '"' :: more =>
      match readMember readItem more with
      | .error fault => .error fault
      | .ok (member, after) => readFurtherMembers readItem (after.length + 1) [member] after
  | other => stopAfter .nameExpected other

def Reading.map {α β : Type} (change : α → β) (reading : Reading α) : Reading β :=
  match reading with
  | .error fault => .error fault
  | .ok (value, left) => .ok (change value, left)

/-- Reads a value in which arrays and objects nest at most `depth` levels. -/
def readValue (depth : Nat) (left : List Char) : Reading Json :=
  match skipSpaces left with
  | [] => stop .endInValue []
  | 'n' :: rest => readWord .null ['u', 'l', 'l'] rest
  | 't' :: rest => readWord (.bool true) ['r', 'u', 'e'] rest
  | 'f' :: rest => readWord (.bool false) ['a', 'l', 's', 'e'] rest
  | '-' :: rest => (readNumber true rest).map .number
  | '"' :: rest => (readString [] rest).map .string
  | '[' :: rest =>
      match depth with
      | 0 => stopAfter .nestingTooDeep ('[' :: rest)
      | inner + 1 => (readItems (readValue inner) rest).map .array
  | '\x7b' :: rest =>
      match depth with
      | 0 => stopAfter .nestingTooDeep ('\x7b' :: rest)
      | inner + 1 => (readMembers (readValue inner) rest).map .object
  | character :: rest =>
      if isDigit character then (readNumber false (character :: rest)).map .number
      else stopAfter .valueExpected (character :: rest)

/-- Reads a text that holds one value and nothing else. -/
def readDocument (depth : Nat) (characters : List Char) : Except Stop Json :=
  match readValue depth characters with
  | .error fault => .error fault
  | .ok (value, left) =>
      match skipSpaces left with
      | [] => .ok value
      | other => stopAfter .trailingCharacters other

/-- The line, counted from one, and the bytes of that line before a byte offset. -/
def placeOf (line column offset : Nat) : List Char → Nat × Nat
  | [] => (line, column)
  | character :: rest =>
      if offset < character.utf8Size then (line, column + offset)
      else if character = '\n' then placeOf (line + 1) 0 (offset - 1) rest
      else placeOf line (column + character.utf8Size) (offset - character.utf8Size) rest

def Stop.fault (characters : List Char) (halt : Stop) : TextFault :=
  let place := placeOf 1 0 (byteCount characters - halt.bytesLeft) characters
  ⟨halt.cause, place.1, place.2⟩

/-- Arrays and objects may nest this deep in a text that is read. -/
def nestingLimit : Nat := 127

def ofText (text : String) : Except TextFault Json :=
  (readDocument nestingLimit text.toList).mapError (Stop.fault text.toList)

end SearchKit.Json
