import SearchKit.Binary64.Basic
import SearchKit.Json.Entries

/-!
JSON values. Numbers are exact: an integer that fits 64 bits stays an integer, every other number is
a binary64 one. Objects keep the order of their members.
-/

namespace SearchKit

set_option autoImplicit false

/-- Integers reach from the least signed to the greatest unsigned number of 64 bits. -/
inductive Json.Number where
  | integer (value : Int) (inRange : -0x8000000000000000 ≤ value ∧ value < 0x10000000000000000)
  | float (value : Binary64)
deriving DecidableEq, Repr

inductive Json where
  | null
  | bool (value : Bool)
  | number (value : Json.Number)
  | string (text : String)
  | array (items : List Json)
  | object (members : List (String × Json))
deriving Inhabited, Repr

namespace Json

mutual

def decideEq : (left right : Json) → Decidable (left = right)
  | .null, .null => isTrue rfl
  | .bool left, .bool right =>
      if same : left = right then isTrue (same ▸ rfl)
      else isFalse (by intro equal; injection equal; contradiction)
  | .number left, .number right =>
      if same : left = right then isTrue (same ▸ rfl)
      else isFalse (by intro equal; injection equal; contradiction)
  | .string left, .string right =>
      if same : left = right then isTrue (same ▸ rfl)
      else isFalse (by intro equal; injection equal; contradiction)
  | .array left, .array right =>
      match decideEqItems left right with
      | isTrue same => isTrue (same ▸ rfl)
      | isFalse different => isFalse (by intro equal; injection equal; contradiction)
  | .object left, .object right =>
      match decideEqMembers left right with
      | isTrue same => isTrue (same ▸ rfl)
      | isFalse different => isFalse (by intro equal; injection equal; contradiction)
  | .null, .bool _ | .null, .number _ | .null, .string _ | .null, .array _ | .null, .object _
  | .bool _, .null | .bool _, .number _ | .bool _, .string _ | .bool _, .array _
  | .bool _, .object _ | .number _, .null | .number _, .bool _ | .number _, .string _
  | .number _, .array _ | .number _, .object _ | .string _, .null | .string _, .bool _
  | .string _, .number _ | .string _, .array _ | .string _, .object _ | .array _, .null
  | .array _, .bool _ | .array _, .number _ | .array _, .string _ | .array _, .object _
  | .object _, .null | .object _, .bool _ | .object _, .number _ | .object _, .string _
  | .object _, .array _ => isFalse (by intro equal; cases equal)

def decideEqItems : (left right : List Json) → Decidable (left = right)
  | [], [] => isTrue rfl
  | [], _ :: _ => isFalse (by intro equal; cases equal)
  | _ :: _, [] => isFalse (by intro equal; cases equal)
  | left :: lefts, right :: rights =>
      match decideEq left right, decideEqItems lefts rights with
      | isTrue same, isTrue sameRest => isTrue (same ▸ sameRest ▸ rfl)
      | isFalse different, _ => isFalse (by intro equal; injection equal; contradiction)
      | _, isFalse different => isFalse (by intro equal; injection equal; contradiction)

def decideEqMembers : (left right : List (String × Json)) → Decidable (left = right)
  | [], [] => isTrue rfl
  | [], _ :: _ => isFalse (by intro equal; cases equal)
  | _ :: _, [] => isFalse (by intro equal; cases equal)
  | (leftName, left) :: lefts, (rightName, right) :: rights =>
      match decideEq left right, decideEqMembers lefts rights with
      | isTrue same, isTrue sameRest =>
          if sameName : leftName = rightName then isTrue (same ▸ sameRest ▸ sameName ▸ rfl)
          else isFalse (by intro equal; injection equal with head; injection head; contradiction)
      | isFalse different, _ =>
          isFalse (by intro equal; injection equal with head; injection head; contradiction)
      | _, isFalse different => isFalse (by intro equal; injection equal; contradiction)

end

instance : DecidableEq Json := decideEq

/-- The member of an object with the given name. No other value has members. -/
def member? (name : String) : Json → Option Json
  | .object members => Entries.find? name members
  | _ => none

def asString? : Json → Option String
  | .string text => some text
  | _ => none

def asBool? : Json → Option Bool
  | .bool value => some value
  | _ => none

def asArray? : Json → Option (List Json)
  | .array items => some items
  | _ => none

/-- A number that is written as an integer from 0 to the greatest unsigned one of 64 bits. -/
def asUnsigned? : Json → Option UInt64
  | .number (.integer value inRange) =>
      if nonnegative : 0 ≤ value then
        some (UInt64.ofNatLT value.toNat (by
          have upper : value.toNat < 0x10000000000000000 := by omega
          simpa using upper))
      else none
  | _ => none

def isObject : Json → Bool
  | .object _ => true
  | _ => false

def ofUInt64 (word : UInt64) : Json :=
  .number (.integer word.toNat (by have upper := word.toNat_lt; omega))

def ofUInt32 (word : UInt32) : Json :=
  .number (.integer word.toNat (by have upper := word.toNat_lt; omega))

def strings (texts : List String) : Json := .array (texts.map .string)

def emptyObject : Json := .object []

def single (name : String) (value : Json) : Json := .object [(name, value)]

end Json

end SearchKit
