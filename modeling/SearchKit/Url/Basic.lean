import SearchKit.Url.Host
import SearchKit.Url.Path

/-!
URLs with a path of segments, their text, and the addition of segments to the path. A URL keeps all
its parts in encoded form.
-/

namespace SearchKit

set_option autoImplicit false

structure Url where
  scheme : List Char
  username : List Char
  password : Option (List Char)
  /-- Without an authority there is no host. -/
  host : Option Url.Host
  port : Option UInt16
  /-- A dot stands before the path, so that two slashes at its start open no authority. -/
  setApart : Bool
  path : Url.Path
  query : Option (List Char)
  fragment : Option (List Char)
deriving DecidableEq, Repr

namespace Url

def kind (url : Url) : SchemeKind := .ofScheme url.scheme

/-! ## Text -/

def decimal (value : Nat) : List Char := Nat.toDigits 10 value

/-- Name and password with a sign after them, when there are any. -/
def userinfoText (url : Url) : List Char :=
  match url.username, url.password with
  | [], none => []
  | username, none => username ++ ['@']
  | username, some password => username ++ ':' :: (password ++ ['@'])

def authorityText (url : Url) : List Char :=
  match url.host with
  | some host =>
      '/' :: '/' :: (url.userinfoText ++ host.text
        ++ (match url.port with
          | some port => ':' :: decimal port.toNat
          | none => []))
  | none => if url.setApart then ['/', '.'] else []

def markedText (mark : Char) : Option (List Char) → List Char
  | some part => mark :: part
  | none => []

def text (url : Url) : String :=
  String.ofList (url.scheme ++ ':' :: (url.authorityText ++ url.path.text
    ++ markedText '?' url.query ++ markedText '#' url.fragment))

/-! ## Adding segments -/

/-- What is reserved in a segment that is added. -/
def SchemeKind.segmentReserved (kind : SchemeKind) : Char → Bool :=
  if kind.isSpecial then Url.specialSegmentReserved else Url.segmentReserved

/-- Adds a segment to a path. Segments that are one dot or two are left out. -/
def pushSegment (kind : SchemeKind) (path : Path) (segment : String) : Path :=
  if segment = "." ∨ segment = ".." then path
  else path.push kind kind.segmentReserved segment.toList

/-- Adds segments at the end of the path, from which an empty segment at its end is dropped. -/
def withSegments (url : Url) (segments : List String) : Url :=
  { url with path := segments.foldl (pushSegment url.kind) url.path.dropTrailing }

/-! ## Requests -/

def withoutCredentials (url : Url) : Url := { url with username := [], password := none }

def isReadable (part : List Char) : Bool :=
  (String.fromUTF8? ⟨(decode part).toArray⟩).isSome

def hasCredentials (url : Url) : Bool :=
  isReadable url.username && (url.username ≠ [] || url.password.any isReadable)

/-- The URL that a request is sent to. Name and password go into a header instead. -/
def requestUrl (url : Url) : Url :=
  if url.hasCredentials then url.withoutCredentials else url

def credentials? (url : Url) : Option (List UInt8) :=
  if url.hasCredentials then
    some (decode url.username ++ 0x3A :: decode ((url.password.filter isReadable).getD []))
  else none

def isAddressCharacter (character : Char) : Bool :=
  Text.isAsciiLetter character || Text.isDigit character ||
    character ∈ ['!', '#', '$', '%', '&', '\x27', '(', ')', '*', '+', ',', '-', '.', '/', ':', ';',
      '=', '?', '@', '[', ']', '_', '~']

def addressLimit : Nat := 65534

def isAddressable (url : Url) : Bool :=
  String.ofList url.scheme ∈ ["http", "https"] && url.host.isSome &&
    url.authorityText.all isAddressCharacter && url.text.length ≤ addressLimit

end Url

end SearchKit
