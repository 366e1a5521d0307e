import SearchKit.Proofs.Engine.SearchPayload

/-!
Where a search looks, as it is read from the two places that say so. In the path of a single search
the names of a list are joined by commas, and which list is which is told by their number. In the
header of a search in a batch the lists stand under their own names, and a list that is missing
restricts nothing. Whatever the names are, both say the same.
-/

namespace SearchKit

set_option autoImplicit false

/-- The names of the indices and of the types to look in, where these are restricted. -/
structure Scope where
  indices : Option (List String)
  types : Option (List String)
deriving DecidableEq, Repr

namespace Scope

/-- A text may hold several names, with commas between them. -/
def namesIn (texts : List String) : List String := texts.flatMap (Text.split ',')

/-- The lone name `_all` is no restriction. -/
def restriction (names : List String) : Option (List String) :=
  if names = ["_all"] then none else some names

def ofPath? : List String → Option Scope
  | [] => some ⟨none, none⟩
  | [indices] => some ⟨restriction (Text.split ',' indices), none⟩
  | [indices, types] =>
      some ⟨restriction (Text.split ',' indices), restriction (Text.split ',' types)⟩
  | _ => none

def ofMember? : Option Json → Option (Option (List String))
  | none => some none
  | some (.array items) => (items.mapM Json.asString?).map (restriction ∘ namesIn)
  | some _ => none

def ofHeader? : Json → Option Scope
  | .object members => do
      let indices ← ofMember? (Entries.find? "index" members)
      let types ← ofMember? (Entries.find? "type" members)
      return ⟨indices, types⟩
  | _ => none

def ofTexts (texts : List String) : Option (List String) :=
  if texts = [] then none else restriction (namesIn texts)

theorem of_texts_some {texts : List String} (some : texts ≠ []) :
    ofTexts texts = restriction (namesIn texts) := if_neg some

theorem split_joined {texts : List String} (some : texts ≠ []) :
    Text.split ',' (Text.join "," texts) = namesIn texts := Text.split_join ',' some

theorem of_scope_member (texts : List String) :
    ofMember? (Search.scopeMember texts) = some (ofTexts texts) := by
  by_cases none : texts = []
  · rw [none]
    rfl
  · rw [Search.scopeMember, if_neg none, of_texts_some none, Json.strings, ofMember?,
      Json.Decoder.texts_of_strings]
    rfl

end Scope

namespace Search

def scope (search : Search) : Scope := ⟨Scope.ofTexts search.indices, Scope.ofTexts search.types⟩

theorem scope_of_header (search : Search) {members : Entries Json}
    (indices : Entries.find? "index" members = scopeMember search.indices)
    (types : Entries.find? "type" members = scopeMember search.types) :
    Scope.ofHeader? (.object members) = some search.scope := by
  rw [Scope.ofHeader?, indices, types, Scope.of_scope_member, Scope.of_scope_member]
  rfl

/-- A path has no place for types alone. The name `_all` stands in for the indices there, and is
read as no restriction. -/
theorem scope_of_path (search : Search) :
    Scope.ofPath? search.scopeSegments = some search.scope := by
  rcases search with ⟨indices, types, body⟩
  simp only [scopeSegments, scope, List.isEmpty_iff]
  by_cases noIndices : indices = [] <;> by_cases noTypes : types = []
  · simp [noIndices, noTypes, Scope.ofPath?, Scope.ofTexts]
  · have everywhere : Scope.restriction (Text.split ',' "_all") = none := by decide +kernel
    simp [noIndices, noTypes, Scope.ofPath?, Scope.ofTexts, everywhere, Scope.split_joined]
  · simp [noIndices, noTypes, Scope.ofPath?, Scope.ofTexts, Scope.split_joined]
  · simp [noIndices, noTypes, Scope.ofPath?, Scope.ofTexts, Scope.split_joined]

end Search

/-- A search looks in the same place alone and in a batch. The path of the single search ends with
`_search`, and what is before that says the same scope as the header at the search's place among the
lines of a batch: the names of the indices and those of the types, in their order. Types without
indices are never read as indices. -/
theorem scope_is_same_alone_and_in_batch (search : Search) (before after : List Search) :
    ∃ path text line header scope,
      (Action.search search).segments = path ++ ["_search"] ∧
      (Action.multiSearch (before ++ search :: after)).body = some text ∧
      (Action.linesOf text)[2 * before.length]? = some line ∧ Json.ofText line = .ok header ∧
      Scope.ofPath? path = some scope ∧ Scope.ofHeader? header = some scope ∧
      scope.indices = (if search.indices = [] then none
        else Scope.restriction (search.indices.flatMap (Text.split ','))) ∧
      scope.types = (if search.types = [] then none
        else Scope.restriction (search.types.flatMap (Text.split ','))) := by
  have inside : before.length < (before ++ search :: after).length := by simp
  have atPlace : (before ++ search :: after)[before.length] = search := by simp
  obtain ⟨-, line, members, there, read, indices, types⟩ := lines_of_batch_at rfl inside
  rw [atPlace] at indices types
  exact ⟨search.scopeSegments, _, line, .object members, search.scope, rfl, rfl, there, read,
    search.scope_of_path, search.scope_of_header indices types, rfl, rfl⟩

example : Scope.ofPath? (Search.mk [] ["a,b", ""] .null).scopeSegments =
    some ⟨none, some ["a", "b", ""]⟩ := by decide +kernel

end SearchKit
