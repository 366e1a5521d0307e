import SearchKit.Text.CanonicalTable

/-!
The composed canonical form of text: texts that differ only in how marked characters are put
together have the same form. Every character is taken apart, marks that follow each other are put in
the order of their classes, and then characters are put together again.
-/

namespace SearchKit.Text

open CanonicalTable

set_option autoImplicit false

/-- The class of a mark. Everything else has class zero and marks do not move past it. -/
def markClass (character : Char) : Nat :=
  if character.toNat < 0x300 then 0
  else ((classes.find? fun marks => inRanges marks.2 character).map Prod.fst).getD 0

/-! ## Hangul syllables -/

namespace Hangul

def leads : Nat := 0x1100

def vowels : Nat := 0x1161

/-- The code point before the first of the 27 trailing consonants. -/
def trails : Nat := 0x11A7

/-- The first of the syllables. They are in order of lead, vowel and trail, and in each group of 28
the first one has no trail. -/
def syllables : Nat := 0xAC00

def isSyllable (code : Nat) : Bool := syllables ≤ code && code < syllables + 19 * 21 * 28

def takeApart (code : Nat) : List Nat :=
  let index := code - syllables
  let syllable := [leads + index / (21 * 28), vowels + index % (21 * 28) / 28]
  if index % 28 = 0 then syllable else syllable ++ [trails + index % 28]

def putTogether? (first second : Nat) : Option Nat :=
  if leads ≤ first ∧ first < leads + 19 ∧ vowels ≤ second ∧ second < vowels + 21 then
    some (syllables + ((first - leads) * 21 + (second - vowels)) * 28)
  else if isSyllable first ∧ (first - syllables) % 28 = 0 ∧
      trails < second ∧ second < trails + 28 then
    some (first + (second - trails))
  else none

end Hangul

/-! ## Taking apart -/

/-- The canonical decomposition of a character, in at most so many steps. -/
def takeApartIn : Nat → Char → List Char
  | 0, character => [character]
  | steps + 1, character =>
      match stretchImage? decompositions character with
      | some parts => parts.flatMap (takeApartIn steps)
      | none => [character]

/-- The full canonical decomposition of a character, which takes three steps at most. -/
def takeApart (character : Char) : List Char :=
  if character.toNat < 0xC0 then [character]
  else if Hangul.isSyllable character.toNat then
    (Hangul.takeApart character.toNat).map Char.ofNat
  else takeApartIn 3 character

/-! ## Ordering marks -/

/-- Adds a character to a text that is given backwards. A mark goes before the marks of higher
classes. -/
def addInOrder (character : Char) : List Char → List Char
  | [] => [character]
  | last :: before =>
      if 0 < markClass character ∧ markClass character < markClass last then
        last :: addInOrder character before
      else character :: last :: before

def orderMarks (text : List Char) : List Char :=
  (text.foldl (fun ordered character => addInOrder character ordered) []).reverse

/-! ## Putting together -/

/-- The character that two characters make up. -/
def putTogether? (first second : Char) : Option Char :=
  if second.toNat < 0x300 then none
  else
    let listed := decompositions.findSome? (·.code? [first.toNat, second.toNat])
    ((Hangul.putTogether? first.toNat second.toNat).or listed).map Char.ofNat
      |>.filter fun whole => !inRanges uncomposed whole

/-- A text in the making: what is finished, given backwards, a character that may take up more, and
the characters after it that it did not take up, given backwards too. -/
structure Composing where
  finished : List Char
  base : Option Char
  waiting : List Char

namespace Composing

def all (state : Composing) : List Char :=
  state.waiting ++ state.base.toList ++ state.finished

/-- A character is within reach when none of its own class, and none that is no mark, stands between
it and the base. -/
def reaches (state : Composing) (character : Char) : Bool :=
  match state.waiting with
  | [] => true
  | last :: _ => markClass last < markClass character

def add (state : Composing) (character : Char) : Composing :=
  let whole := if state.reaches character then
    state.base.bind fun base => putTogether? base character else none
  match whole with
  | some whole => { state with base := some whole }
  | none =>
      if markClass character = 0 then ⟨state.all, some character, []⟩
      else { state with waiting := character :: state.waiting }

end Composing

def compose (text : List Char) : List Char :=
  (text.foldl Composing.add ⟨[], none, []⟩).all.reverse

def composed (text : List Char) : List Char :=
  compose (orderMarks (text.flatMap takeApart))

end SearchKit.Text
