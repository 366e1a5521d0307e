import SearchKit.Text.LowerCase
import SearchKit.Text.Basic
import SearchKit.Url.DomainTable
import SearchKit.Url.Label
import SearchKit.Url.Punycode

/-!
Domain names in their ASCII form: every character is written plainly and in lower case, the name is
composed, and labels with characters beyond ASCII are written in Punycode.
-/

namespace SearchKit.Url

set_option autoImplicit false

namespace Domain

def plainForm? (character : Char) : Option (List Char) :=
  if character.toNat < 0x80 then some [character.toLower]
  else if Label.isJoiner character then some [character]
  else if Text.inRanges DomainTable.vanishing character then some []
  else
    let listed := (Text.runImage? DomainTable.plainRuns character).map ([·])
    match listed.or (Text.stretchImage? DomainTable.plainForms character) with
    | some plain => some plain
    | none =>
        if Text.isPrintable character && !Text.inRanges DomainTable.refused character then
          some (Text.lowerCharacter character)
        else none

def plainName? (name : List Char) : Option (List Char) :=
  (name.mapM plainForm?).map fun forms => Text.composed forms.flatten

def isForbidden (character : Char) : Bool :=
  character.toNat ≤ 0x20 || character.toNat == 0x7F ||
    character ∈ ['%', '#', '/', ':', '<', '>', '?', '@', '[', '\\', ']', '^', '|']

/-! ## Labels in Punycode -/

def codedMark : List Char := ['x', 'n', '-', '-']

/-- Labels in Punycode have at most this many characters behind the mark. -/
def codedLimit : Nat := 2000

/-- The label that is meant. What stands behind the mark has to be the Punycode of a label that is
in plain form and needs it. -/
def meaning? (label : List Char) : Option (List Char) :=
  if codedMark.isPrefixOf label then
    let coded := label.drop codedMark.length
    if Label.isAscii coded && label.getLast? != some '-' && coded.length ≤ codedLimit then
      (Punycode.decode? coded).filter fun meant => plainName? meant == some meant
    else none
  else some label

def asciiLabel (label : List Char) : List Char :=
  if Label.isAscii label then label else codedMark ++ Punycode.encode label

/-- The ASCII form of a name, unless a character or a label of it is not allowed. -/
def ascii? (name : List Char) : Option (List Char) := do
  let plain ← plainName? name
  if plain.any isForbidden then none
  else
    let labels ← (Text.splitChars '.' plain).mapM meaning?
    if Label.areAllowed labels then some (['.'].intercalate (labels.map asciiLabel)) else none

end Domain

end SearchKit.Url
