import SearchKit.Text.Basic

/-!
Schemes of URLs and what they mean for the rest of one.
-/

namespace SearchKit.Url

set_option autoImplicit false

/-- What a scheme means for the rest of a URL. -/
inductive SchemeKind where
  | file
  | special
  | other
deriving DecidableEq, Repr

namespace SchemeKind

def ofScheme (scheme : List Char) : SchemeKind :=
  match String.ofList scheme with
  | "file" => .file
  | "http" | "https" | "ws" | "wss" | "ftp" => .special
  | _ => .other

def isSpecial : SchemeKind → Bool
  | .other => false
  | .file | .special => true

end SchemeKind

def isSchemeCharacter (character : Char) : Bool :=
  Text.isAsciiLetter character || Text.isDigit character || character ∈ ['+', '-', '.']

def defaultPort? (scheme : List Char) : Option UInt16 :=
  match String.ofList scheme with
  | "http" | "ws" => some 80
  | "https" | "wss" => some 443
  | "ftp" => some 21
  | _ => none

def isSlash (kind : SchemeKind) (character : Char) : Bool :=
  character == '/' || (kind.isSpecial && character == '\\')

/-- Characters that vanish from a URL wherever they stand. -/
def isDropped (character : Char) : Bool := character ∈ ['\t', '\n', '\r']

def visible (text : List Char) : List Char := text.filter fun character => !isDropped character

/-- What follows a slash at the front of a text. -/
def afterSlash? (kind : SchemeKind) (text : List Char) : Option (List Char) :=
  match text.dropWhile isDropped with
  | character :: rest => if isSlash kind character then some rest else none
  | [] => none

end SearchKit.Url
