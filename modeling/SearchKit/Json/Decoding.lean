import SearchKit.Json.Printer
import SearchKit.Json.Reader
import SearchKit.Text.Quoted

/-!
Decoding JSON values into typed ones. A value of the wrong shape is refused with a mismatch that
says what was found and what was expected there.
-/

namespace SearchKit.Json

set_option autoImplicit false

/-- What a value looks like in a message. -/
inductive Found where
  | null
  | bool (value : Bool)
  | number (value : Number)
  | string (text : String)
  | sequence
  | map
deriving DecidableEq, Repr

def found : Json → Found
  | .null => .null
  | .bool value => .bool value
  | .number value => .number value
  | .string text => .string text
  | .array _ => .sequence
  | .object _ => .map

def Found.message : Found → String
  | .null => "null"
  | .bool value => "boolean `" ++ (if value then "true" else "false") ++ "`"
  | .number (.integer value _) => "integer `" ++ String.ofList (Number.integerChars value) ++ "`"
  | .number (.float value) => "floating point `" ++ String.ofList (Number.floatChars value) ++ "`"
  | .string text => "string " ++ Text.quote text
  | .sequence => "sequence"
  | .map => "map"

inductive Mismatch where
  | wrongType (found : Found) (expected : String)
  | wrongValue (found : Found) (expected : String)
  | wrongLength (count : Nat) (expected : String)
  | missingField (name : String)
  | unknownVariant (name : String) (known : List String)
deriving DecidableEq, Repr

def Mismatch.message : Mismatch → String
  | .wrongType found expected => "invalid type: " ++ found.message ++ ", expected " ++ expected
  | .wrongValue found expected => "invalid value: " ++ found.message ++ ", expected " ++ expected
  | .wrongLength count expected =>
      "invalid length " ++ toString count ++ ", expected " ++ expected
  | .missingField name => "missing field `" ++ name ++ "`"
  | .unknownVariant name known =>
      "unknown variant `" ++ name ++ "`, expected one of "
        ++ ", ".intercalate (known.map fun word => "`" ++ word ++ "`")

inductive Fault where
  | text (fault : TextFault)
  | mismatch (fault : Mismatch)
deriving DecidableEq, Repr

def Fault.message : Fault → String
  | .text fault => fault.message
  | .mismatch fault => fault.message

abbrev Decoder (α : Type) := Json → Except Mismatch α

namespace Decoder

def string : Decoder String
  | .string text => .ok text
  | other => .error (.wrongType other.found "a string")

def bool : Decoder Bool
  | .bool value => .ok value
  | other => .error (.wrongType other.found "a boolean")

/-- An integer from `least` up to, not including, `bound`, called `kind` in messages. -/
def integer (kind : String) (least bound : Int) :
    Decoder { value : Int // least ≤ value ∧ value < bound }
  | .number (.integer value inRange) =>
      if within : least ≤ value ∧ value < bound then .ok ⟨value, within⟩
      else .error (.wrongValue (.number (.integer value inRange)) kind)
  | other => .error (.wrongType other.found kind)

def signed64 : Decoder Int := fun json =>
  (integer "i64" (-0x8000000000000000) 0x8000000000000000 json).map Subtype.val

def unsigned64 : Decoder UInt64 := fun json => do
  let ⟨value, within⟩ ← integer "u64" 0 0x10000000000000000 json
  return UInt64.ofNatLT value.toNat (by
    have size : UInt64.size = 0x10000000000000000 := rfl
    omega)

def unsigned32 : Decoder UInt32 := fun json => do
  let ⟨value, within⟩ ← integer "u32" 0 0x100000000 json
  return UInt32.ofNatLT value.toNat (by
    have size : UInt32.size = 0x100000000 := rfl
    omega)

/-- Null stands for an absent value. -/
def optional {α : Type} (decode : Decoder α) : Decoder (Option α)
  | .null => .ok none
  | other => (decode other).map some

def any : Decoder Json := .ok

def list {α : Type} (decode : Decoder α) : Decoder (List α)
  | .array items => items.mapM decode
  | other => .error (.wrongType other.found "a sequence")

/-- The name of a variant, with a payload when it is the only member of an object. The payload is
looked at after the name is known. -/
def variant {α : Type} (parse : String → Except Mismatch α)
    (payload : Json → Except Mismatch Unit) :
    Decoder α
  | .string name => parse name
  | .object [(name, value)] => do
      let chosen ← parse name
      payload value
      return chosen
  | .object _ => .error (.wrongValue .map "map with a single key")
  | other => .error (.wrongType other.found "string or map")

def noPayload : Json → Except Mismatch Unit
  | .null => .ok ()
  | other => .error (.wrongType other.found "unit")

/-- The field of a record given as an array, or its default where the array has ended. -/
def element {α : Type} (items : List Json) (index : Nat) (decode : Decoder α) (default : α) :
    Except Mismatch α :=
  match items[index]? with
  | some item => decode item
  | none => .ok default

/-- The field of a record given as an array, which must reach that far. -/
def requiredElement {α : Type} (items : List Json) (index : Nat) (decode : Decoder α)
    (expected : String) : Except Mismatch α :=
  match items[index]? with
  | some item => decode item
  | none => .error (.wrongLength index expected)

/-- No element is left over after the fields of a record. -/
def noFurther (items : List Json) (fields : Nat) : Except Mismatch Unit :=
  if items.length ≤ fields then .ok ()
  else .error (.wrongLength items.length "fewer elements in array")

def required {α : Type} (name : String) : Option α → Except Mismatch α
  | some value => .ok value
  | none => .error (.missingField name)

end Decoder

def decodeText {α : Type} (decode : Decoder α) (text : String) : Except Fault α :=
  match ofText text with
  | .error fault => .error (.text fault)
  | .ok json => (decode json).mapError .mismatch

end SearchKit.Json
