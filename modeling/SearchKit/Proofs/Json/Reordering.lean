import Mathlib.Data.List.Forall2
import SearchKit.Proofs.Json.Entries
import SearchKit.Proofs.Json.Unambiguous

/-!
Equality of values that does not regard the order in which objects list their members. As long as no
name comes twice, what is found under a name does not depend on that order.
-/

namespace SearchKit

set_option autoImplicit false

namespace Json

/-- Values that are equal when the order of the members of objects does not count. -/
inductive SameUpToOrder : Json → Json → Prop
  | null : SameUpToOrder .null .null
  | bool (value : Bool) : SameUpToOrder (.bool value) (.bool value)
  | number (value : Number) : SameUpToOrder (.number value) (.number value)
  | string (text : String) : SameUpToOrder (.string text) (.string text)
  | array {left right : List Json} (each : List.Forall₂ SameUpToOrder left right) :
      SameUpToOrder (.array left) (.array right)
  | object {left listed right : Entries Json} (order : left.Perm listed)
      (names : listed.names = right.names)
      (each : List.Forall₂ (fun member other => SameUpToOrder member.2 other.2) listed right) :
      SameUpToOrder (.object left) (.object right)

namespace SameUpToOrder

theorem refl (json : Json) : json.SameUpToOrder json := by
  induction json using inside_induction with
  | null => exact .null
  | bool value => exact .bool value
  | number value => exact .number value
  | string text => exact .string text
  | array items ih => exact .array (List.forall₂_same.mpr ih)
  | object members ih => exact .object (.refl members) rfl (List.forall₂_same.mpr ih)

theorem single (name : String) {value other : Json} (same : SameUpToOrder value other) :
    SameUpToOrder (.single name value) (.single name other) :=
  .object (.refl _) rfl (.cons same .nil)

theorem swapped (firstName secondName : String) {first second otherFirst otherSecond : Json}
    (sameFirst : SameUpToOrder first otherFirst) (sameSecond : SameUpToOrder second otherSecond) :
    SameUpToOrder (.object [(firstName, first), (secondName, second)])
      (.object [(secondName, otherSecond), (firstName, otherFirst)]) :=
  .object (.swap _ _ _) rfl (.cons sameSecond (.cons sameFirst .nil))

theorem eq_string {text : String} {json : Json} (same : SameUpToOrder (.string text) json) :
    json = .string text := by
  cases same
  rfl

theorem eq_array {items : List Json} {json : Json} (same : SameUpToOrder (.array items) json) :
    ∃ others, json = .array others ∧ List.Forall₂ SameUpToOrder items others := by
  cases same with
  | array each => exact ⟨_, rfl, each⟩

theorem eq_strings {texts : List String} {json : Json}
    (same : SameUpToOrder (.strings texts) json) : json = .strings texts := by
  obtain ⟨others, rfl, each⟩ := same.eq_array
  have equal : List.Forall₂ (fun text json => .string text = json) texts others :=
    (List.forall₂_map_left_iff.mp each).imp fun _ _ same => same.eq_string.symm
  have listed : texts.map Json.string = others := by
    rw [← List.forall₂_eq_eq_eq, List.forall₂_map_left_iff]
    exact equal
  rw [strings, listed]

theorem eq_object {members : Entries Json} {json : Json}
    (same : SameUpToOrder (.object members) json) (distinct : members.names.Nodup) :
    ∃ others, json = .object others ∧ ∀ name,
      Option.Rel SameUpToOrder (Entries.find? name members) (Entries.find? name others) := by
  cases same with
  | @object _ listed others order names each =>
      refine ⟨others, rfl, fun name => ?_⟩
      rw [Entries.find_of_perm order distinct]
      clear order distinct
      induction each with
      | nil => exact .none
      | @cons member other rest further value later ih =>
          obtain ⟨memberName, memberValue⟩ := member
          obtain ⟨otherName, otherValue⟩ := other
          simp only [Entries.names, List.map_cons, List.cons.injEq] at names
          obtain ⟨rfl, names⟩ := names
          rw [Entries.find?, Entries.find?]
          split
          · exact .some value
          · exact ih names

theorem member_eq_some {members : Entries Json} {json value : Json} {name : String}
    (same : SameUpToOrder (.object members) json) (distinct : members.names.Nodup)
    (found : Entries.find? name members = some value) :
    ∃ other, json.member? name = some other ∧ SameUpToOrder value other := by
  obtain ⟨others, rfl, each⟩ := same.eq_object distinct
  have related := each name
  rw [found] at related
  rw [member?]
  cases foundOther : Entries.find? name others with
  | none => rw [foundOther] at related; contradiction
  | some other =>
      rw [foundOther, Option.rel_some_some] at related
      exact ⟨other, rfl, related⟩

theorem eq_single {name : String} {value json : Json}
    (same : SameUpToOrder (.single name value) json) :
    ∃ other, json = .single name other ∧ SameUpToOrder value other := by
  cases same with
  | object order names each =>
      obtain rfl := List.singleton_perm.mp order
      obtain ⟨member, rest, inside, alone, rfl⟩ := List.forall₂_cons_left_iff.mp each
      obtain rfl := List.forall₂_nil_left_iff.mp alone
      obtain ⟨other, json⟩ := member
      simp only [Entries.names, List.map_cons, List.map_nil, List.cons.injEq, and_true] at names
      subst names
      exact ⟨json, rfl, inside⟩

end SameUpToOrder

end Json

end SearchKit
