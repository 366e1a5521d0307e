import SearchKit.Json.Decoding

/-!
Highlighting of the matches in one field, by a tag before and a tag after each.
-/

namespace SearchKit

set_option autoImplicit false

structure Highlight where
  enabled : Bool
  preTag : String
  postTag : String
  field : Option String
deriving DecidableEq, Repr

namespace Highlight

/-- Highlighting that is switched off, with the tags of bold text. -/
def plain : Highlight := ⟨false, "<b>", "</b>", none⟩

def ofField (field : Option String) : Highlight := { plain with enabled := true, field }

def withTags (highlight : Highlight) (preTag postTag : String) : Highlight :=
  { highlight with preTag, postTag }

def activeField (highlight : Highlight) : Option String :=
  if highlight.enabled then highlight.field else none

def toJson (highlight : Highlight) : Json :=
  .object <|
    [("enable", .bool highlight.enabled),
      ("preTag", .string highlight.preTag),
      ("postTag", .string highlight.postTag)]
      ++ Entries.ofPresent [("highlightFieldName", highlight.field.map Json.string)]

def readMember (highlight : Highlight) (member : String × Json) : Except Json.Mismatch Highlight :=
  match member.1 with
  | "enable" => do
      let enabled ← Json.Decoder.bool member.2
      return { highlight with enabled }
  | "preTag" => do
      let preTag ← Json.Decoder.string member.2
      return { highlight with preTag }
  | "postTag" => do
      let postTag ← Json.Decoder.string member.2
      return { highlight with postTag }
  | "highlightFieldName" => do
      let field ← Json.Decoder.optional Json.Decoder.string member.2
      return { highlight with field }
  | _ => .ok highlight

def decode : Json.Decoder Highlight
  | .object members => members.foldlM readMember plain
  | .array items => do
      let enabled ← Json.Decoder.element items 0 Json.Decoder.bool plain.enabled
      let preTag ← Json.Decoder.element items 1 Json.Decoder.string plain.preTag
      let postTag ← Json.Decoder.element items 2 Json.Decoder.string plain.postTag
      let field ← Json.Decoder.element items 3 (Json.Decoder.optional Json.Decoder.string)
        plain.field
      Json.Decoder.noFurther items 4
      return ⟨enabled, preTag, postTag, field⟩
  | other => .error (.wrongType other.found "struct HighlightSpec")

end Highlight

end SearchKit
