import SearchKit.Binary64.Shortest
import SearchKit.Json.Basic

/-!
The text of a JSON value: the compact form on one line, and the form that is indented by two spaces
a level.
-/

namespace SearchKit.Json

set_option autoImplicit false

/-- Floating point numbers are written positionally from `1e-5` up to, not including, `1e16`. -/
def numberLayout : Decimal.Layout := ⟨-5, 16⟩

namespace Number

def integerChars (value : Int) : List Char :=
  if value < 0 then '-' :: Nat.toDigits 10 value.natAbs else Nat.toDigits 10 value.natAbs

def floatChars (value : Binary64) : List Char :=
  (if value.negative then ['-'] else []) ++ value.shortest.text numberLayout

def chars : Number → List Char
  | .integer value _ => integerChars value
  | .float value => floatChars value

end Number

def hexDigit (value : Nat) : Char := Nat.digitChar (value % 16)

/-- Only the quote, the backslash and the control characters are escaped. -/
def escapeChar (character : Char) : List Char :=
  match character with
  | '"' => ['\\', '"']
  | '\\' => ['\\', '\\']
  | '\n' => ['\\', 'n']
  | '\r' => ['\\', 'r']
  | '\t' => ['\\', 't']
  | '\x08' => ['\\', 'b']
  | '\x0c' => ['\\', 'f']
  | other =>
      if other.toNat < 0x20 then
        ['\\', 'u', '0', '0', hexDigit (other.toNat / 16), hexDigit other.toNat]
      else [other]

def stringChars (text : String) : List Char :=
  '"' :: (text.toList.flatMap escapeChar ++ ['"'])

mutual

def chars : Json → List Char
  | .null => ['n', 'u', 'l', 'l']
  | .bool true => ['t', 'r', 'u', 'e']
  | .bool false => ['f', 'a', 'l', 's', 'e']
  | .number value => value.chars
  | .string text => stringChars text
  | .array items => '[' :: (itemsChars items ++ [']'])
  | .object members => '\x7b' :: (membersChars members ++ ['\x7d'])

def itemsChars : List Json → List Char
  | [] => []
  | first :: rest => chars first ++ furtherItemsChars rest

def furtherItemsChars : List Json → List Char
  | [] => []
  | item :: rest => ',' :: (chars item ++ furtherItemsChars rest)

def membersChars : List (String × Json) → List Char
  | [] => []
  | (name, value) :: rest =>
      stringChars name ++ ':' :: (chars value ++ furtherMembersChars rest)

def furtherMembersChars : List (String × Json) → List Char
  | [] => []
  | (name, value) :: rest =>
      ',' :: (stringChars name ++ ':' :: (chars value ++ furtherMembersChars rest))

end

def text (json : Json) : String := String.ofList json.chars

def lineStart (level : Nat) : List Char := '\n' :: List.replicate (2 * level) ' '

mutual

/-- The indented text of a value whose own lines start at the given level. -/
def indentedChars (level : Nat) : Json → List Char
  | .array (first :: rest) =>
      '[' :: (lineStart (level + 1) ++ indentedChars (level + 1) first
        ++ indentedItems (level + 1) rest ++ lineStart level ++ [']'])
  | .object ((name, value) :: rest) =>
      '\x7b' :: (lineStart (level + 1) ++ stringChars name ++ [':', ' ']
        ++ indentedChars (level + 1) value
        ++ indentedMembers (level + 1) rest ++ lineStart level ++ ['\x7d'])
  | .array [] => ['[', ']']
  | .object [] => ['\x7b', '\x7d']
  | .null => chars .null
  | .bool value => chars (.bool value)
  | .number value => value.chars
  | .string text => stringChars text

def indentedItems (level : Nat) : List Json → List Char
  | [] => []
  | item :: rest => ',' :: (lineStart level ++ indentedChars level item ++ indentedItems level rest)

def indentedMembers (level : Nat) : List (String × Json) → List Char
  | [] => []
  | (name, value) :: rest =>
      ',' :: (lineStart level ++ stringChars name ++ [':', ' '] ++ indentedChars level value
        ++ indentedMembers level rest)

end

def indentedText (json : Json) : String := String.ofList (json.indentedChars 0)

end SearchKit.Json
