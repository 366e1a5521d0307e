import SearchKit.Refusal
import SearchKit.Text.Basic

/-!
Sort keys: the name of a field and a direction, written `name`, `name:asc` or `name:desc`.
-/

namespace SearchKit

set_option autoImplicit false

inductive Direction where
  | ascending
  | descending
deriving DecidableEq, Repr

namespace Direction

def word : Direction → String
  | .ascending => "asc"
  | .descending => "desc"

/-- The words that a request may use, in the order in which messages list them. -/
def words : List String := ["ASC", "asc", "DESC", "desc"]

def ofWord (word : String) : Except Json.Mismatch Direction :=
  match word with
  | "asc" | "ASC" => .ok .ascending
  | "desc" | "DESC" => .ok .descending
  | other => .error (.unknownVariant other words)

def decode : Json.Decoder Direction := Json.Decoder.variant ofWord Json.Decoder.noPayload

end Direction

structure Order where
  name : String
  direction : Direction
deriving DecidableEq, Repr

namespace Order

def lowerAscii (text : String) : String := String.ofList (text.toList.map Char.toLower)

/-- The part after the last colon is a direction, in any ASCII case; without a colon the order is
ascending. -/
def ofText (text : String) : Except Refusal Order :=
  match Text.splitLast ':' text with
  | none => if text.isEmpty then .error .orderNameMissing else .ok ⟨text, .ascending⟩
  | some (name, word) =>
      match lowerAscii word with
      | "asc" => if name.isEmpty then .error .orderNameMissing else .ok ⟨name, .ascending⟩
      | "desc" => if name.isEmpty then .error .orderNameMissing else .ok ⟨name, .descending⟩
      | other => .error (.unknownDirection other)

def toJson (order : Order) : Json :=
  .object [("name", .string order.name), ("sort", .string order.direction.word)]

structure Draft where
  name : Option String
  direction : Option Direction

def Draft.read (draft : Draft) (member : String × Json) : Except Json.Mismatch Draft :=
  match member.1 with
  | "name" => do
      let name ← Json.Decoder.string member.2
      return { draft with name := some name }
  | "sort" => do
      let direction ← Direction.decode member.2
      return { draft with direction := some direction }
  | _ => .ok draft

def decode : Json.Decoder Order
  | .object members => do
      let draft ← members.foldlM Draft.read ⟨none, none⟩
      let name ← Json.Decoder.required "name" draft.name
      return ⟨name, draft.direction.getD .ascending⟩
  | .array items => do
      let name ← Json.Decoder.requiredElement items 0 Json.Decoder.string
        "struct OrderSpec with 2 elements"
      let direction ← Json.Decoder.element items 1 Direction.decode .ascending
      Json.Decoder.noFurther items 2
      return ⟨name, direction⟩
  | other => .error (.wrongType other.found "struct OrderSpec")

end Order

end SearchKit
