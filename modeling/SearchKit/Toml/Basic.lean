import SearchKit.Json.Entries

/-!
TOML values, and tables built up by the statements of a document. A table can be defined once: what
one statement may still add to depends on how the table came up.
-/

namespace SearchKit

set_option autoImplicit false

namespace Toml

inductive TableKind where
  /-- Written between braces, or the table of a whole document. -/
  | inline
  /-- Named by a header of its own. -/
  | header
  /-- Passed through by a header for a table inside of it. -/
  | implicit
  /-- Passed through by a dotted key. -/
  | dotted
deriving DecidableEq, Repr

end Toml

/-- Numbers that are not integers, and dates and times, keep their text. -/
inductive Toml where
  | string (text : String)
  | integer (value : Int)
  | float (text : String)
  | boolean (value : Bool)
  | moment (text : String)
  | array (items : List Toml)
  | table (kind : Toml.TableKind) (entries : List (String × Toml))
  | tables (elements : List (List (String × Toml)))

namespace Toml

/-- The way to a table: by a header or by a dotted key. -/
inductive Route where
  | header
  | dotted
deriving DecidableEq, Repr

def Route.made : Route → TableKind
  | .header => .implicit
  | .dotted => .dotted

/-- A route may lead through a table of this kind. -/
def Route.enters : Route → TableKind → Bool
  | .header, kind => kind != .inline
  | .dotted, kind => kind == .implicit || kind == .dotted

/-- Changes the table that keys lead to, making the tables that are missing on the way. Of an array
of tables the last one is meant. -/
def change (route : Route) (final : TableKind → Entries Toml → Option (Entries Toml)) :
    List String → TableKind → Entries Toml → Option (Entries Toml)
  | [], kind, entries => final kind entries
  | key :: more, _, entries =>
      match Entries.find? key entries with
      | none => do
          let made ← change route final more route.made []
          return Entries.put key (.table route.made made) entries
      | some (.table kind inner) =>
          if route.enters kind then do
            let changed ← change route final more kind inner
            return Entries.put key (.table kind changed) entries
          else none
      | some (.tables elements) => do
          let last ← elements.getLast?
          let changed ← change route final more .header last
          return Entries.put key (.tables (elements.dropLast ++ [changed])) entries
      | some _ => none

/-- Adds a value under a new key. Keys with dots lead to tables that only such keys have made. -/
def addValue (path : List String) (key : String) (value : Toml) :
    TableKind → Entries Toml → Option (Entries Toml) :=
  change .dotted
    (fun kind entries =>
      if (kind == .dotted) == path.isEmpty then none
      else if (Entries.find? key entries).isSome then none
      else some (Entries.put key value entries))
    path

/-- Opens the table of a header, which is new or has only been passed through. -/
def openTable (key : String) (_ : TableKind) (entries : Entries Toml) : Option (Entries Toml) :=
  match Entries.find? key entries with
  | none => some (Entries.put key (.table .header []) entries)
  | some (.table .implicit inner) => some (Entries.put key (.table .header inner) entries)
  | some _ => none

def openElement (key : String) (_ : TableKind) (entries : Entries Toml) : Option (Entries Toml) :=
  match Entries.find? key entries with
  | none => some (Entries.put key (.tables [[]]) entries)
  | some (.tables elements) => some (Entries.put key (.tables (elements ++ [[]])) entries)
  | some _ => none

structure Pair where
  path : List String
  key : String
  value : Toml

inductive Statement where
  | pair (pair : Pair)
  | header (path : List String) (key : String)
  | element (path : List String) (key : String)

/-- A document in the making, and the keys of the table that its last header opened. -/
structure Draft where
  entries : Entries Toml
  current : List String

def Draft.add (draft : Draft) : Statement → Option Draft
  | .pair pair => do
      let entries ← change .header (addValue pair.path pair.key pair.value) draft.current .header
        draft.entries
      return { draft with entries }
  | .header path key => do
      let entries ← change .header (openTable key) path .header draft.entries
      return ⟨entries, path ++ [key]⟩
  | .element path key => do
      let entries ← change .header (openElement key) path .header draft.entries
      return ⟨entries, path ++ [key]⟩

def ofStatements (statements : List Statement) : Option (Entries Toml) :=
  (statements.foldlM Draft.add ⟨[], []⟩).map Draft.entries

def ofPairs (pairs : List Pair) : Option (Entries Toml) :=
  pairs.foldlM (fun entries pair => addValue pair.path pair.key pair.value .inline entries) []

end Toml

end SearchKit
