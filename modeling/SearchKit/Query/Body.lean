import SearchKit.Query.Node
import SearchKit.Request.Order

/-!
The body of a search: a base object on which the parts that were set are laid. A part that the base
has already takes its place there; the others are appended in a fixed order.
-/

namespace SearchKit

set_option autoImplicit false

structure Marking where
  field : String
  preTag : String
  postTag : String
deriving DecidableEq, Repr

def Marking.toJson (marking : Marking) : Json :=
  .object [("pre_tags", .strings [marking.preTag]), ("post_tags", .strings [marking.postTag]),
    ("fields", .single marking.field .emptyObject)]

def Order.sortKey (order : Order) : Json :=
  .single order.name (.single "order" (.string order.direction.word))

/-- The parts of a body that can be set. -/
structure Overlay where
  start : Option UInt64
  size : Option UInt32
  query : Option Query
  sort : List Order
  marking : Option Marking

/-- One setting of a part. Sort keys gather; every other part keeps its last setting. -/
inductive Overlay.Step where
  | start (value : UInt64)
  | size (value : UInt32)
  | query (value : Query)
  | sort (order : Order)
  | marking (value : Marking)

namespace Overlay

def none : Overlay := ⟨.none, .none, .none, [], .none⟩

def set (overlay : Overlay) : Step → Overlay
  | .start value => { overlay with start := some value }
  | .size value => { overlay with size := some value }
  | .query value => { overlay with query := some value }
  | .sort order => { overlay with sort := overlay.sort ++ [order] }
  | .marking value => { overlay with marking := some value }

def ofSteps (steps : List Step) : Overlay := steps.foldl set none

/-- The parts that are set, in the order in which they are appended. -/
def entries (overlay : Overlay) : Entries Json :=
  Entries.ofPresent
    [("from", overlay.start.map Json.ofUInt64),
      ("size", overlay.size.map Json.ofUInt32),
      ("query", overlay.query.map Query.toJson),
      ("sort",
        if overlay.sort.isEmpty then .none else some (.array (overlay.sort.map Order.sortKey))),
      ("highlight", overlay.marking.map Marking.toJson)]

def onto (overlay : Overlay) (base : Entries Json) : Entries Json :=
  overlay.entries.foldl (fun members entry => Entries.put entry.1 entry.2 members) base

def body (overlay : Overlay) (base : Entries Json) : Json := .object (overlay.onto base)

end Overlay

end SearchKit
