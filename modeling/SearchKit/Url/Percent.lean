import SearchKit.Text.Basic

/-!
Percent encoding. A character that is reserved in its part of a URL is written as its UTF-8 bytes,
each as a percent sign and two hexadecimal digits. Main statement: decoding what was encoded gives
the bytes of the text again, whatever else is reserved beside the percent sign.
-/

namespace SearchKit.Url

open Text (hexValue? upperHexDigit hexValue_upperHexDigit)

set_option autoImplicit false

/-! ## What is reserved in each part -/

def controlReserved (character : Char) : Bool :=
  character.toNat < 0x20 || 0x7E < character.toNat

def queryReserved (character : Char) : Bool :=
  controlReserved character || character ∈ [' ', '"', '#', '<', '>']

/-- Queries of the schemes with a fixed meaning reserve the apostrophe too. -/
def specialQueryReserved (character : Char) : Bool :=
  queryReserved character || character == '\x27'

def fragmentReserved (character : Char) : Bool :=
  controlReserved character || character ∈ [' ', '"', '<', '>', '\x60']

def pathReserved (character : Char) : Bool :=
  fragmentReserved character || character ∈ ['#', '?', '\x7b', '\x7d']

/-- What is reserved within one segment of a path, so that it stays one segment. -/
def segmentReserved (character : Char) : Bool :=
  pathReserved character || character ∈ ['/', '%']

def specialSegmentReserved (character : Char) : Bool :=
  segmentReserved character || character == '\\'

def userinfoReserved (character : Char) : Bool :=
  pathReserved character || character ∈ ['/', ':', ';', '=', '@', '[', '\\', ']', '^', '|']

/-! ## Encoding and decoding -/

def encodeByte (byte : UInt8) : List Char :=
  ['%', upperHexDigit (byte.toNat / 16), upperHexDigit (byte.toNat % 16)]

def utf8 (text : List Char) : List UInt8 := text.flatMap String.utf8EncodeChar

def encode (reserved : Char → Bool) (text : List Char) : List Char :=
  text.flatMap fun character =>
    if reserved character then (String.utf8EncodeChar character).flatMap encodeByte
    else [character]

/-- The bytes of an encoded text. A percent sign without two digits after it stands for itself. -/
def decode : List Char → List UInt8
  | [] => []
  | '%' :: high :: low :: rest =>
      match hexValue? high, hexValue? low with
      | some first, some second => UInt8.ofNat (first * 16 + second) :: decode rest
      | _, _ => 0x25 :: decode (high :: low :: rest)
  | character :: rest => String.utf8EncodeChar character ++ decode rest

theorem decode_encodeByte (byte : UInt8) (rest : List Char) :
    decode (encodeByte byte ++ rest) = byte :: decode rest := by
  have bound : byte.toNat < 256 := byte.toNat_lt
  simp only [encodeByte, List.cons_append, List.nil_append, decode,
    hexValue_upperHexDigit (show byte.toNat / 16 < 16 by omega),
    hexValue_upperHexDigit (show byte.toNat % 16 < 16 by omega)]
  rw [show byte.toNat / 16 * 16 + byte.toNat % 16 = byte.toNat by omega, UInt8.ofNat_toNat]

theorem decode_encodeBytes (bytes : List UInt8) (rest : List Char) :
    decode (bytes.flatMap encodeByte ++ rest) = bytes ++ decode rest := by
  induction bytes with
  | nil => rfl
  | cons byte more ih => simp [List.append_assoc, decode_encodeByte, ih]

theorem decode_cons {character : Char} (plain : character ≠ '%') (rest : List Char) :
    decode (character :: rest) = String.utf8EncodeChar character ++ decode rest := by
  rw [decode]
  intro _ _ _ same _
  exact plain same

theorem decode_encode (reserved : Char → Bool) (percent : reserved '%' = true)
    (text : List Char) : decode (encode reserved text) = utf8 text := by
  induction text with
  | nil => rfl
  | cons character rest ih =>
      simp only [encode, utf8, List.flatMap_cons] at ih ⊢
      by_cases isReserved : reserved character = true
      · rw [if_pos isReserved, decode_encodeBytes, ih]
      · rw [if_neg isReserved, List.cons_append, List.nil_append, decode_cons, ih]
        intro same
        exact isReserved (same ▸ percent)

end SearchKit.Url
