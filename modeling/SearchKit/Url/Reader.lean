import SearchKit.Text.Basic
import SearchKit.Url.Basic

/-!
Reading URLs: scheme, name and password, host, port, path, query and fragment, in this order.
-/

namespace SearchKit.Url

set_option autoImplicit false

def trimmed (text : String) : List Char := Text.trimBy (·.toNat ≤ 0x20) text.toList

def readScheme (text : List Char) : Option (List Char × List Char) :=
  if text.head?.any Text.isAsciiLetter then
    match text.span isSchemeCharacter with
    | (scheme, ':' :: rest) => some (scheme.map Char.toLower, rest)
    | _ => none
  else none

def endsPath (character : Char) : Bool := character == '?' || character == '#'

def endsAuthority (kind : SchemeKind) (character : Char) : Bool :=
  isSlash kind character || endsPath character

/-! ## The authority -/

/-- Name and password, encoded. A password that is empty is none. -/
def readCredentials (userinfo : List Char) : List Char × Option (List Char) :=
  match userinfo.span (· ≠ ':') with
  | (name, ':' :: password) =>
      (encode userinfoReserved name,
        if password = [] then none else some (encode userinfoReserved password))
  | (name, _) => (encode userinfoReserved name, none)

/-- The text of a host, which ends at a colon outside of brackets, and the text after it. -/
def splitHost (inBrackets : Bool) : List Char → List Char × List Char
  | [] => ([], [])
  | character :: rest =>
      if character = ':' ∧ inBrackets = false then ([], character :: rest)
      else
        let (host, after) :=
          splitHost (character == '[' || (inBrackets && character != ']')) rest
        (character :: host, after)

def readPort (scheme : List Char) (text : List Char) : Except Fault (Option UInt16 × List Char) :=
  let (digits, rest) := text.span Text.isDigit
  match Text.number? 10 digits with
  | none => .error .invalidPort
  | some port =>
      if 65535 < port then .error .invalidPort
      else if rest.head?.any (· ≠ '\\') then .error .invalidPort
      else if digits = [] ∨ some (UInt16.ofNat port) = defaultPort? scheme then .ok (none, rest)
      else .ok (some (UInt16.ofNat port), rest)

structure Authority where
  username : List Char
  password : Option (List Char)
  host : Host
  port : Option UInt16

def readHostAndPort (scheme text : List Char) :
    Except Fault (Host × Option UInt16 × List Char) := do
  let kind := SchemeKind.ofScheme scheme
  let (hostText, after) := splitHost false text
  let host ← Host.ofText kind.isSpecial hostText
  match after with
  | ':' :: portText =>
      if host = .empty then throw .emptyHost
      else
        let (port, rest) ← readPort scheme portText
        return (host, port, rest)
  | rest => return (host, none, rest)

/-- Reads what follows two slashes: the authority, and the text after it. -/
def readAuthority (scheme text : List Char) : Except Fault (Authority × List Char) := do
  let (authority, after) := text.span fun character =>
    !endsAuthority (SchemeKind.ofScheme scheme) character
  let (userinfo, address) :=
    match Text.splitLastChars '@' authority with
    | some (userinfo, address) => (some userinfo, address)
    | none => (none, authority)
  if userinfo = some [] ∧ address = [] ∧ after ≠ [] then throw .emptyHost
  let (username, password) := readCredentials (userinfo.getD [])
  let (host, port, rest) ← readHostAndPort scheme address
  if host = .empty ∧ (username ≠ [] ∨ password ≠ none) then throw .emptyHost
  return (⟨username, password, host, port⟩, rest ++ after)

/-! ## Path, query and fragment -/

def splitSegments (kind : SchemeKind) (text : List Char) : List (List Char) :=
  Text.splitChars '/'
    (text.map fun character => if isSlash kind character then '/' else character)

/-- The path of a text after the authority. Only special URLs always have one. -/
def readPath (kind : SchemeKind) (text : List Char) : Path :=
  if text = [] ∧ kind = .other then []
  else .ofTexts kind (splitSegments kind ((afterSlash? kind text).getD text))

/-- The text of a path, and query and fragment after it. -/
structure Ending where
  path : List Char
  query : Option (List Char)
  fragment : Option (List Char)

def Ending.ofText (kind : SchemeKind) (text : List Char) : Ending :=
  let (path, after) := text.span fun character => !endsPath character
  let (query, fragment) := after.span (· ≠ '#')
  let reserved := if kind.isSpecial then specialQueryReserved else queryReserved
  ⟨path,
    match query with
    | '?' :: query => some (encode reserved (visible query))
    | _ => none,
    match fragment with
    | '#' :: fragment => some (encode fragmentReserved (visible fragment))
    | _ => none⟩

/-! ## Whole URLs -/

def ofAuthority (scheme text : List Char) : Except Fault Url := do
  let (authority, after) ← readAuthority scheme text
  let kind := SchemeKind.ofScheme scheme
  let ending := Ending.ofText kind after
  return ⟨scheme, authority.username, authority.password, some authority.host, authority.port,
    false, readPath kind ending.path, ending.query, ending.fragment⟩

/-- The host of a file, which is empty when it is this machine. -/
def readFileHost (text : List Char) : Except Fault Host :=
  if text = [] then .ok .empty
  else
    (Host.ofText true text).map fun host =>
      if host.text = "localhost".toList then .empty else host

/-- The URL of a file from the text after its root. A drive in the root leaves no host. -/
def ofFileParts (host : Host) (text : List Char) : Url :=
  let ending := Ending.ofText .file text
  let segments := splitSegments .file ending.path
  ⟨"file".toList, [], none, some (if Path.meetsDrive [] segments then .empty else host), none,
    false, .ofTexts .file segments, ending.query, ending.fragment⟩

/-- The URL of a file from the text after two slashes. A drive where the host would be belongs to
the path. The slash after a host ends the host; without one it is the first of the path. -/
def ofFileHost (text : List Char) : Except Fault Url := do
  let (hostText, after) := text.span fun character => !endsAuthority .file character
  if Path.isDrive (visible hostText) then return ofFileParts .empty text
  let host ← readFileHost (visible hostText)
  if host = .empty then return ofFileParts .empty after
  return ofFileParts host ((afterSlash? .file after).getD after)

def ofFile (text : List Char) : Except Fault Url :=
  match afterSlash? .file text with
  | none => .ok (ofFileParts .empty text)
  | some inRoot =>
      match afterSlash? .file inRoot with
      | none => .ok (ofFileParts .empty inRoot)
      | some afterTwo => ofFileHost afterTwo

/-- A URL whose scheme has no meaning. Without a slash after the scheme it has no path of segments
and is none. -/
def ofOther (scheme text : List Char) : Except Fault (Option Url) :=
  match text with
  | '/' :: '/' :: rest => (ofAuthority scheme rest).map some
  | '/' :: _ =>
      let ending := Ending.ofText .other text
      let path := readPath .other ending.path
      .ok (some ⟨scheme, [], none, none, none, path.startsEmpty, path, ending.query,
        ending.fragment⟩)
  | _ => .ok none

/-- The URL of a text, or none when the text is a URL without a path of segments. -/
def ofText (text : String) : Except Fault (Option Url) :=
  match readScheme (visible (trimmed text)) with
  | none => .error .relativeWithoutBase
  | some (scheme, rest) =>
      match SchemeKind.ofScheme scheme with
      | .file => (ofFile ((trimmed text).dropWhile (· ≠ ':')).tail).map some
      | .special => (ofAuthority scheme (rest.dropWhile (isSlash .special))).map some
      | .other => ofOther scheme rest

end SearchKit.Url
