import SearchKit.Url.Percent
import SearchKit.Url.Scheme

/-!
Paths of URLs as lists of encoded segments. The path `/` is the list with one empty segment, and a
path without a slash is the empty list. Segments of dots are never kept: one dot stands for the
directory reached so far and two dots for the one above it. In the root of a file's path a segment
may be a drive.
-/

namespace SearchKit.Url

set_option autoImplicit false

abbrev Path := List (List Char)

namespace Path

def root : Path := [[]]

/-! ## What a segment means -/

/-- One dot, possibly percent-encoded. -/
def isHere (segment : List Char) : Bool :=
  match segment.map Char.toLower with
  | ['.'] | ['%', '2', 'e'] => true
  | _ => false

/-- Two dots, possibly percent-encoded. -/
def isAbove (segment : List Char) : Bool :=
  match segment.map Char.toLower with
  | ['.', '.'] | ['.', '%', '2', 'e'] | ['%', '2', 'e', '.'] | ['%', '2', 'e', '%', '2', 'e'] =>
      true
  | _ => false

/-- The letter of a drive: a letter with a colon or a bar after it. -/
def driveLetter? : List Char → Option Char
  | [letter, mark] =>
      if Text.isAsciiLetter letter && (mark == ':' || mark == '|') then some letter else none
  | _ => none

def isDrive (segment : List Char) : Bool := (driveLetter? segment).isSome

/-- The letter of a drive and the text after it, which characters that vanish keep apart. -/
def splitDrive? (text : List Char) : Option (Char × List Char) :=
  match text.span (· ≠ ':') with
  | (before, ':' :: rest) =>
      match visible before with
      | [letter] =>
          if Text.isAsciiLetter letter && rest.head?.any isDropped && visible rest ≠ [] then
            some (letter, visible rest)
          else none
      | _ => none
  | _ => none

/-- What a segment means in the directory where it is read. -/
inductive Step where
  | above
  | here
  | drive (letter : Char)
  /-- A drive and a name in it, from one segment. -/
  | driveAndName (letter : Char) (segment : List Char)
  | name (segment : List Char)
deriving DecidableEq, Repr

namespace Step

def ofSegment (segment : List Char) : Step :=
  if isAbove segment then .above else if isHere segment then .here else .name segment

/-- The step of a segment in the root of a file's path. -/
def ofRootText (reserved : Char → Bool) (text : List Char) : Step :=
  match driveLetter? (visible text), splitDrive? text with
  | some letter, _ => .drive letter
  | none, some (letter, rest) => .driveAndName letter (encode reserved rest)
  | none, none => ofSegment (encode reserved (visible text))

/-- The step of a segment as it is written. Only files have drives, and only in the root. -/
def ofText (kind : SchemeKind) (reserved : Char → Bool) (directory : Path) (text : List Char) :
    Step :=
  if kind = .file ∧ directory = [] then ofRootText reserved text
  else ofSegment (encode reserved (visible text))

def isDrive : Step → Bool
  | .drive _ => true
  | _ => false

end Step

/-! ## Following segments -/

/-- The directory above one. The root and a drive have none. -/
def above (directory : Path) : Path :=
  if directory.getLast?.any isDrive then directory else directory.dropLast

/-- The directory that a step leads to when a slash follows. A drive is written with a colon. -/
def enter (directory : Path) : Step → Path
  | .above => above directory
  | .here => directory
  | .drive letter => directory ++ [[letter, ':']]
  | .driveAndName letter segment => directory ++ [[letter, ':'], segment]
  | .name segment => directory ++ [segment]

def close (directory : Path) : Step → Path
  | .above => above directory ++ [[]]
  | .here => directory ++ [[]]
  | step => enter directory step

def follow (kind : SchemeKind) (reserved : Char → Bool) (directory : Path) :
    List (List Char) → Path
  | [] => directory
  | [last] => close directory (.ofText kind reserved directory last)
  | text :: more =>
      follow kind reserved (enter directory (.ofText kind reserved directory text)) more

/-- Segments of a file's path meet a drive on the way from a directory. -/
def meetsDrive (directory : Path) : List (List Char) → Bool
  | [] => false
  | text :: more =>
      let step := Step.ofText .file pathReserved directory text
      step.isDrive || meetsDrive (enter directory step) more

/-! ## Paths -/

/-- Drops the empty segments at the front, keeping at least one segment. -/
def trimRoot (path : Path) : Path :=
  match path.dropWhile (· == []) with
  | [] => root
  | trimmed => trimmed

/-- Paths of files have no empty segments at the front. -/
def settle (kind : SchemeKind) (path : Path) : Path :=
  if kind = .file then path.trimRoot else path

def ofTexts (kind : SchemeKind) (texts : List (List Char)) : Path :=
  settle kind (follow kind pathReserved [] texts)

/-- The directory to which the next segment is added. The root adds nothing. -/
def directory (path : Path) : Path := if path = root then [] else path

def push (kind : SchemeKind) (reserved : Char → Bool) (path : Path) (text : List Char) : Path :=
  settle kind (close path.directory (.ofText kind reserved path.directory text))

/-- Drops an empty segment at the end, but for the one of the root. -/
def dropTrailing (path : Path) : Path :=
  match path.getLast? with
  | some [] => if path.length ≤ 1 then path else path.dropLast
  | _ => path

def startsEmpty (path : Path) : Bool := path.head? == some [] && path ≠ root

def text (path : Path) : List Char := path.flatMap fun segment => '/' :: segment

end Path

end SearchKit.Url
