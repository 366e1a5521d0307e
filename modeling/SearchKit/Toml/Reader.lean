import SearchKit.Toml.Scalar

/-!
Reading TOML documents, of which only those without any fault are read. Every reading function takes
the characters that are left and gives back a value with the characters after it. Nesting is bounded
by the depth that is left, and the loops over items, keys and lines by the characters that are left.
-/

namespace SearchKit.Toml

set_option autoImplicit false

def isSpace (character : Char) : Bool := character == ' ' || character == '\t'

def skipSpaces (text : List Char) : List Char := text.dropWhile isSpace

/-- What may stand in comments and strings: everything but control characters, of which the tab is
let through. -/
def isTextCharacter (character : Char) : Bool :=
  character == '\t' || (0x20 ≤ character.toNat && character.toNat != 0x7F)

def readLineBreak : List Char → Option (List Char)
  | '\n' :: rest => some rest
  | '\r' :: '\n' :: rest => some rest
  | _ => none

/-- Reads the rest of a line that holds nothing more but a comment. -/
def readLineEnd (text : List Char) : Option (List Char) :=
  let afterComment := match skipSpaces text with
    | '#' :: comment => comment.dropWhile isTextCharacter
    | rest => rest
  if afterComment = [] then some [] else readLineBreak afterComment

def skipFiller (inComment : Bool) : List Char → List Char
  | [] => []
  | '\n' :: rest => skipFiller false rest
  | '\r' :: '\n' :: rest => skipFiller false rest
  | character :: rest =>
      if inComment then
        if isTextCharacter character then skipFiller true rest else character :: rest
      else if isSpace character then skipFiller false rest
      else if character = '#' then skipFiller true rest
      else character :: rest

/-! ## Strings -/

/-- A character given by its code in so many hexadecimal digits. -/
def readCode (count : Nat) (text : List Char) : Option (Char × List Char) := do
  let digits := text.take count
  if digits.length = count then
    let code ← Text.number? 16 digits
    if code.isValidChar then some (Char.ofNat code, text.drop count) else none
  else none

/-- Reads the character that an escape stands for, after its backslash. -/
def readEscape : List Char → Option (Char × List Char)
  | 'b' :: rest => some ('\x08', rest)
  | 't' :: rest => some ('\t', rest)
  | 'n' :: rest => some ('\n', rest)
  | 'f' :: rest => some ('\x0c', rest)
  | 'r' :: rest => some ('\r', rest)
  | '"' :: rest => some ('"', rest)
  | '\\' :: rest => some ('\\', rest)
  | 'u' :: rest => readCode 4 rest
  | 'U' :: rest => readCode 8 rest
  | _ => none

def finishString (read rest : List Char) : Option (String × List Char) :=
  some (String.ofList read.reverse, rest)

/-- Reads a string after its quote. The characters read so far are kept backwards. -/
def readBasic : Nat → List Char → List Char → Option (String × List Char)
  | 0, _, _ => none
  | bound + 1, read, text =>
      match text with
      | [] => none
      | '"' :: rest => finishString read rest
      | '\\' :: rest => do
          let (character, after) ← readEscape rest
          readBasic bound (character :: read) after
      | character :: rest =>
          if isTextCharacter character then readBasic bound (character :: read) rest else none

def readLiteral (text : List Char) : Option (String × List Char) :=
  match text.span fun character => character ≠ '\x27' && isTextCharacter character with
  | (read, '\x27' :: rest) => some (String.ofList read, rest)
  | _ => none

/-- The quotes of a string that stand directly before the three at its end, of which there are at
most two. -/
def readClosing (quote : Char) (read rest : List Char) : Option (String × List Char) :=
  let more := (rest.take 2).takeWhile (· == quote)
  finishString (more ++ read) (rest.drop more.length)

def skipBreaks : List Char → List Char
  | [] => []
  | '\r' :: '\n' :: rest => skipBreaks rest
  | character :: rest =>
      if isSpace character || character == '\n' then skipBreaks rest else character :: rest

/-- Skips what a backslash at the end of a line joins: all space up to the next text. -/
def readJoint (text : List Char) : Option (List Char) :=
  (readLineBreak (skipSpaces text)).map skipBreaks

/-- Reads a string of several lines after its three quotes. -/
def readBasicLines : Nat → List Char → List Char → Option (String × List Char)
  | 0, _, _ => none
  | bound + 1, read, text =>
      match text with
      | [] => none
      | '"' :: '"' :: '"' :: rest => readClosing '"' read rest
      | '\\' :: rest =>
          match readJoint rest with
          | some after => readBasicLines bound read after
          | none => do
              let (character, after) ← readEscape rest
              readBasicLines bound (character :: read) after
      | character :: rest =>
          match readLineBreak text with
          | some after => readBasicLines bound ('\n' :: read) after
          | none =>
              if isTextCharacter character then readBasicLines bound (character :: read) rest
              else none

/-- Reads a string of several lines without escapes after its three apostrophes. -/
def readLiteralLines (read : List Char) : List Char → Option (String × List Char)
  | [] => none
  | '\x27' :: '\x27' :: '\x27' :: rest => readClosing '\x27' read rest
  | '\n' :: rest => readLiteralLines ('\n' :: read) rest
  | '\r' :: '\n' :: rest => readLiteralLines ('\n' :: read) rest
  | character :: rest =>
      if isTextCharacter character then readLiteralLines (character :: read) rest else none

/-- A line break directly after three opening quotes is not part of the string. -/
def skipFirstBreak (text : List Char) : List Char := (readLineBreak text).getD text

/-! ## Keys -/

def isBareKeyCharacter (character : Char) : Bool :=
  Text.isAsciiLetter character || Text.isDigit character || character == '_' || character == '-'

def readKeyPart : List Char → Option (String × List Char)
  | '"' :: rest => readBasic (rest.length + 1) [] rest
  | '\x27' :: rest => readLiteral rest
  | text =>
      match text.span isBareKeyCharacter with
      | ([], _) => none
      | (part, rest) => some (String.ofList part, rest)

/-- Arrays, tables between braces and the parts of keys nest less deep than this. -/
def nestingBound : Nat := 80

/-- Reads the parts of a key between full stops, of which there are at most so many. -/
def readKeyParts : Nat → List Char → Option (List String × List Char)
  | 0, _ => none
  | bound + 1, text => do
      let (part, rest) ← readKeyPart (skipSpaces text)
      match skipSpaces rest with
      | '.' :: more => do
          let (parts, after) ← readKeyParts bound more
          return (part :: parts, after)
      | after => return ([part], after)

/-- Reads a key as the parts that lead to a table and the part in it. -/
def readKey (text : List Char) : Option ((List String × String) × List Char) := do
  let (parts, rest) ← readKeyParts (nestingBound - 1) text
  let last ← parts.getLast?
  return ((parts.dropLast, last), rest)

/-! ## Values -/

def readPair (value : List Char → Option (Toml × List Char)) (text : List Char) :
    Option (Pair × List Char) := do
  let ((path, key), rest) ← readKey text
  let (read, after) ← value (skipSpaces (← readMark '=' rest))
  return (⟨path, key, read⟩, after)

def readItems (value : List Char → Option (Toml × List Char)) :
    Nat → List Char → Option (List Toml × List Char)
  | 0, _ => none
  | bound + 1, text =>
      match skipFiller false text with
      | ']' :: rest => some ([], rest)
      | next => do
          let (item, rest) ← value next
          match skipFiller false rest with
          | ']' :: after => return ([item], after)
          | ',' :: more => do
              let (items, after) ← readItems value bound more
              return (item :: items, after)
          | _ => none

/-- Reads the pairs of a table between braces, of which there is at least one. -/
def readPairs (value : List Char → Option (Toml × List Char)) :
    Nat → List Char → Option (List Pair × List Char)
  | 0, _ => none
  | bound + 1, text => do
      let (pair, rest) ← readPair value text
      match skipSpaces rest with
      | '\x7d' :: after => return ([pair], after)
      | ',' :: more => do
          let (pairs, after) ← readPairs value bound more
          return (pair :: pairs, after)
      | _ => none

def readInlineTable (value : List Char → Option (Toml × List Char)) (text : List Char) :
    Option (Toml × List Char) :=
  match skipSpaces text with
  | '\x7d' :: rest => some (.table .inline [], rest)
  | next => do
      let (pairs, rest) ← readPairs value (next.length + 1) next
      return (.table .inline (← ofPairs pairs), rest)

/-- Reads a value in which arrays and tables nest less deep than `depth`. -/
def readValue (depth : Nat) (text : List Char) : Option (Toml × List Char) :=
  match text with
  | '"' :: '"' :: '"' :: rest =>
      (readBasicLines (rest.length + 1) [] (skipFirstBreak rest)).map fun (read, after) =>
        (.string read, after)
  | '"' :: rest =>
      (readBasic (rest.length + 1) [] rest).map fun (read, after) => (.string read, after)
  | '\x27' :: '\x27' :: '\x27' :: rest =>
      (readLiteralLines [] (skipFirstBreak rest)).map fun (read, after) => (.string read, after)
  | '\x27' :: rest => (readLiteral rest).map fun (read, after) => (.string read, after)
  | '[' :: rest =>
      match depth with
      | 0 | 1 => none
      | inner + 2 =>
          (readItems (readValue (inner + 1)) (rest.length + 1) rest).map fun (items, after) =>
            (.array items, after)
  | '\x7b' :: rest =>
      match depth with
      | 0 | 1 => none
      | inner + 2 => readInlineTable (readValue (inner + 1)) rest
  | _ => readWord text
termination_by structural depth

/-! ## Documents -/

def readHeader (closing text : List Char) :
    Option ((List String × String) × List Char) := do
  let (key, rest) ← readKey text
  if closing.isPrefixOf rest then some (key, rest.drop closing.length) else none

def readStatement : List Char → Option (Statement × List Char)
  | '[' :: '[' :: rest => do
      let ((path, key), after) ← readHeader [']', ']'] rest
      return (.element path key, after)
  | '[' :: rest => do
      let ((path, key), after) ← readHeader [']'] rest
      return (.header path key, after)
  | text => do
      let (pair, after) ← readPair (readValue nestingBound) text
      return (.pair pair, after)

def readStatements : Nat → List Char → Option (List Statement)
  | 0, _ => none
  | bound + 1, text =>
      match skipSpaces text with
      | [] => some []
      | '#' :: comment => do readStatements bound (← readLineEnd ('#' :: comment))
      | next =>
          match readLineBreak next with
          | some rest => readStatements bound rest
          | none => do
              let (statement, rest) ← readStatement next
              let statements ← readStatements bound (← readLineEnd rest)
              return statement :: statements

/-- A mark of the byte order at the start of a text says nothing. -/
def withoutMark : List Char → List Char
  | '\uFEFF' :: rest => rest
  | text => text

def ofText (text : String) : Option (Entries Toml) := do
  let characters := withoutMark text.toList
  ofStatements (← readStatements (characters.length + 1) characters)

end SearchKit.Toml
