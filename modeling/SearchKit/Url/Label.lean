import SearchKit.Text.Canonical
import SearchKit.Text.Script

/-!
Which labels a domain name may have: no label starts with a mark, joiners stand only where scripts
need them, and in a name with text that is written from right to left every label can be told apart
from its neighbours.
-/

namespace SearchKit.Url

set_option autoImplicit false

namespace Label

open Text (WritingDirection)

def isAscii (label : List Char) : Bool := label.all (·.toNat < 0x80)

/-- Labels beyond ASCII have at most this many characters. -/
def lengthLimit : Nat := 1000

/-! ## Joiners -/

def nonJoiner : Char := '\u200c'

def isJoiner (character : Char) : Bool := character == nonJoiner || character == '\u200d'

def silencerClass : Nat := 9

/-- The first character across which letters do not join is of a class. -/
def meets (isWanted : Char → Bool) : List Char → Bool
  | [] => false
  | character :: rest =>
      if Text.isJoinedAcross character then meets isWanted rest else isWanted character

/-- A joiner follows a mark that silences a vowel. The one that keeps letters apart may also stand
between letters that would join. The text before it is given backwards. -/
def isJoinerPlaced (joiner : Char) (before after : List Char) : Bool :=
  match before with
  | [] => false
  | last :: _ =>
      Text.markClass last == silencerClass ||
        (joiner == nonJoiner && meets Text.joinsAfter before && meets Text.joinsBefore after)

/-- All joiners are in place, after a text that is given backwards. -/
def areJoinersPlaced (before : List Char) : List Char → Bool
  | [] => true
  | character :: rest =>
      (!isJoiner character || isJoinerPlaced character before rest) &&
        areJoinersPlaced (character :: before) rest

def isAllowed (label : List Char) : Bool :=
  !(label.head?.any Text.isMark) && areJoinersPlaced [] label &&
    (isAscii label || label.length ≤ lengthLimit)

/-! ## Direction -/

/-- Characters that make all labels of a name keep to one direction. -/
def isRightToLeft (character : Char) : Bool :=
  match WritingDirection.of character with
  | .rightToLeft | .arabicDigit => true
  | _ => false

/-- The directions after a first one allow a label that is written from left to right. -/
def runsRight (inner : List WritingDirection) : Bool :=
  inner.getLast?.all (fun last => last == .leftToRight || last == .europeanDigit) &&
    inner.all fun direction => direction != .rightToLeft && direction != .arabicDigit

/-- The directions after a first one allow a label that is written from right to left. Its digits
are of one kind. -/
def runsLeft (inner : List WritingDirection) : Bool :=
  inner.getLast?.all (fun last =>
      last == .rightToLeft || last == .europeanDigit || last == .arabicDigit) &&
    inner.all (· != .leftToRight) &&
    !(inner.contains .europeanDigit && inner.contains .arabicDigit)

/-- The label starts with a letter and keeps to its direction. Marks at the end do not count. -/
def keepsDirection (label : List Char) : Bool :=
  match label.map WritingDirection.of with
  | [] => true
  | first :: rest =>
      let inner := (rest.reverse.dropWhile (· == .mark)).reverse
      match first with
      | .leftToRight => runsRight inner
      | .rightToLeft => runsLeft inner
      | _ => false

def areAllowed (labels : List (List Char)) : Bool :=
  labels.all isAllowed &&
    (!(labels.any (·.any isRightToLeft)) || labels.all keepsDirection)

end Label

end SearchKit.Url
