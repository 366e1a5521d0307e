import SearchKit.Url.Domain
import SearchKit.Url.Fault
import SearchKit.Url.Address
import SearchKit.Url.Percent

/-!
Hosts of URLs: names and addresses.
-/

namespace SearchKit.Url

set_option autoImplicit false

inductive Host where
  | name (text : List Char)
  | ipv4 (address : UInt32)
  | ipv6 (pieces : List UInt16)
deriving DecidableEq, Repr

namespace Host

def empty : Host := .name []

def text : Host → List Char
  | .name text => text
  | .ipv4 address => Ipv4.text address
  | .ipv6 pieces => '[' :: (Ipv6.text pieces ++ [']'])

def ofBrackets (inner : List Char) : Except Fault Host :=
  if inner.getLast? = some ']' then
    match Ipv6.address? inner.dropLast with
    | some pieces => .ok (.ipv6 pieces)
    | none => .error .invalidIpv6
  else .error .invalidIpv6

/-- A host that is a domain or an address, possibly percent-encoded. -/
def ofDomain (text : List Char) : Except Fault Host :=
  match String.fromUTF8? ⟨(decode text).toArray⟩ with
  | none => .error .invalidInternationalDomain
  | some decoded =>
      match Domain.ascii? decoded.toList with
      | none => .error .invalidInternationalDomain
      | some [] => .error .emptyHost
      | some domain =>
          if Ipv4.isMeantBy domain then
            match Ipv4.address? domain with
            | some address => .ok (.ipv4 address)
            | none => .error .invalidIpv4
          else .ok (.name domain)

/-- Characters that a host may not hold when its scheme gives it no meaning. -/
def isForbidden (character : Char) : Bool :=
  character ∈ ['\x00', '\t', '\n', '\r', ' ', '#', '/', ':', '<', '>', '?', '@', '[', '\\', ']',
    '^', '|']

def ofOpaque (text : List Char) : Except Fault Host :=
  if text.any isForbidden then .error .invalidDomainCharacter
  else .ok (.name (encode controlReserved text))

/-- The host of a URL, which is a domain or an address when its scheme is a special one. -/
def ofText (isSpecial : Bool) (text : List Char) : Except Fault Host :=
  match text with
  | '[' :: inner => ofBrackets inner
  | _ =>
      if isSpecial then
        if text = [] then .error .emptyHost else ofDomain text
      else ofOpaque text

end Host

end SearchKit.Url
