import SearchKit.Command.Basic
import SearchKit.Text.Basic

/-!
Reading of the words of a command line. Words choose a command from a tree of menus; options stand
anywhere after the menu that they belong to, and those of the whole program stand in every menu. All
words after two lone dashes are positional.
-/

namespace SearchKit

set_option autoImplicit false

namespace Arguments

/-- Why no command is run. -/
inductive Halt where
  | misuse
  | help
  | version
deriving DecidableEq, Repr

inductive ValueKind where
  | flag
  | text
  | path
  | integer
deriving DecidableEq, Repr

structure OptionSpec where
  name : String
  letter : Option Char
  kind : ValueKind
  repeats : Bool
deriving DecidableEq, Repr

/-- The options that have been given, each with its values in order. -/
abbrev Given := Entries (List String)

namespace Given

def many (name : String) (given : Given) : List String := (Entries.find? name given).getD []

def single? (name : String) (given : Given) : Option String := (given.many name).head?

def has (name : String) (given : Given) : Bool := (Entries.find? name given).isSome

/-- The options of an outer menu, with those of an inner one before them. -/
def under (outer inner : Given) : Given :=
  inner.foldl (fun all entry => Entries.put entry.1 entry.2 all) outer

end Given

def signedOf? (word : String) : Option Int := do
  let (negative, digits) := match word.toList with
    | '-' :: digits => (true, digits)
    | '+' :: digits => (false, digits)
    | digits => (false, digits)
  if digits = [] then none
  else
    let size ← Text.number? 10 digits
    let value : Int := if negative then -size else size
    if -0x8000000000000000 ≤ value ∧ value < 0x8000000000000000 then some value else none

def ValueKind.accepts : ValueKind → String → Bool
  | .flag, _ | .text, _ => true
  | .path, word => !word.isEmpty
  | .integer, word => (signedOf? word).isSome

/-- The positional words that a command takes. -/
structure WordSpec where
  /-- At most so many words, or any number of them. -/
  capacity : Option Nat
  accepts : String → Bool

def upTo (count : Nat) : WordSpec := ⟨some count, fun _ => true⟩

def anyNumber : WordSpec := ⟨none, fun _ => true⟩

/-! ## Menus -/

inductive Menu where
  | group (choices : List (String × Menu))
  | command (options : List OptionSpec) (words : WordSpec)
      (build : Given → List String → Option Command)

def textOption (name : String) : OptionSpec := ⟨name, none, .text, false⟩

def repeatedOption (name : String) : OptionSpec := ⟨name, none, .text, true⟩

def generalOptions : List OptionSpec :=
  [⟨"config", none, .path, false⟩, ⟨"verbose", some 'v', .flag, false⟩,
    ⟨"json", none, .flag, false⟩]

def requestMenu (build : String → Command) : Menu :=
  .command [⟨"request", some 'r', .text, false⟩] (upTo 0) fun given _ =>
    (given.single? "request").map build

def rawMenu : Menu :=
  .command
    [textOption "query", repeatedOption "index", repeatedOption "type",
      ⟨"page-num", none, .integer, false⟩, ⟨"page-size", none, .integer, false⟩,
      repeatedOption "order"]
    (upTo 0) fun given _ => do
      let query ← given.single? "query"
      return .withEngine <| .raw
        { query
          indices := given.many "index"
          types := given.many "type"
          pageNumber := (given.single? "page-num").bind signedOf?
          pageSize := (given.single? "page-size").bind signedOf?
          order := given.many "order" }

def getMenu : Menu :=
  .command [] (upTo 3) fun _ words =>
    match words with
    | [index, docType, id] => some (.withEngine (.get ⟨index, docType, id⟩))
    | _ => none

def multiGetMenu : Menu :=
  .command [] anyNumber fun _ words =>
    match words with
    | index :: docType :: ids => some (.withEngine (.multiGet index docType ids))
    | _ => none

def ofIndex (command : IndexCommand) : Command := .withEngine (.index command)

def ofDocument (command : DocumentCommand) : Command := .withEngine (.document command)

def indexMenu : Menu :=
  .group
    [("create",
        .command [textOption "settings", textOption "type", textOption "mappings"] (upTo 1)
          fun given words =>
            match words with
            | [index] =>
                some (ofIndex (.create index (given.single? "settings") (given.single? "type")
                  (given.single? "mappings")))
            | _ => none),
      ("exists",
        .command [] (upTo 1) fun _ words =>
          match words with
          | [index] => some (ofIndex (.exists index))
          | _ => none),
      ("delete",
        .command [] (upTo 1) fun _ words =>
          match words with
          | [index] => some (ofIndex (.delete index))
          | _ => none),
      ("mapping",
        .command [textOption "mapping"] (upTo 2) fun given words =>
          match words, given.single? "mapping" with
          | [index, docType], some mapping => some (ofIndex (.mapping index docType mapping))
          | _, _ => none)]

def documentMenu : Menu :=
  .group
    [("save",
        .command [textOption "data", textOption "id", ⟨"bulk", none, .flag, false⟩] (upTo 2)
          fun given words =>
            match words, given.single? "data" with
            | [index, docType], some data =>
                some (ofDocument
                  (.save index docType data (given.single? "id") (given.has "bulk")))
            | _, _ => none),
      ("update",
        .command [textOption "data"] (upTo 3) fun given words =>
          match words, given.single? "data" with
          | [index, docType, id], some data =>
              some (ofDocument (.update ⟨index, docType, id⟩ data))
          | _, _ => none),
      ("delete",
        .command [] (upTo 3) fun _ words =>
          match words with
          | [index, docType, id] => some (ofDocument (.delete ⟨index, docType, id⟩))
          | _ => none),
      ("delete-by-query",
        .command [textOption "query"] (upTo 2) fun given words =>
          match words, given.single? "query" with
          | [index, docType], some query =>
              some (ofDocument (.deleteByQuery index docType query))
          | _, _ => none)]

def completionsMenu : Menu :=
  .command [] ⟨some 1, fun word => (Shell.ofWord? word).isSome⟩ fun _ words =>
    match words with
    | [word] => (Shell.ofWord? word).map fun shell => .onItsOwn (.completions shell)
    | _ => none

def mainMenu : Menu :=
  .group
    [("compile", requestMenu fun request => .onItsOwn (.compile request)),
      ("search", requestMenu fun request => .withEngine (.search request)), ("raw", rawMenu),
      ("get", getMenu), ("mget", multiGetMenu), ("index", indexMenu), ("doc", documentMenu),
      ("completions", completionsMenu)]

namespace Menu

def choose? (word : String) : Menu → Option Menu
  | .group choices => Entries.find? word choices
  | .command _ _ _ => none

def isGroup : Menu → Bool
  | .group _ => true
  | .command _ _ _ => false

def options : Menu → List OptionSpec
  | .group _ => generalOptions
  | .command own _ _ => own ++ generalOptions

end Menu

/-! ## Reading -/

structure State where
  menu : Menu
  isOutermost : Bool
  /-- The options of the menus passed through. -/
  outer : Given
  own : Given
  positional : List String
  /-- Only positional words follow. -/
  literal : Bool

def State.initial : State := ⟨mainMenu, true, [], [], [], false⟩

namespace State

def given (state : State) : Given := state.outer.under state.own

def enter (state : State) (menu : Menu) : State :=
  ⟨menu, false, state.given, [], [], false⟩

/-- Takes over a value of an option. An option that does not repeat is given once in a menu. -/
def record (state : State) (spec : OptionSpec) (value : String) : Except Halt State :=
  if spec.kind.accepts value then
    match Entries.find? spec.name state.own with
    | none => .ok { state with own := Entries.put spec.name [value] state.own }
    | some values =>
        if spec.repeats then
          .ok { state with own := Entries.put spec.name (values ++ [value]) state.own }
        else .error .misuse
  else .error .misuse

def addPositional (state : State) (word : String) : Except Halt State :=
  match state.menu with
  | .group _ => .error .misuse
  | .command _ words _ =>
      if words.capacity.any (· ≤ state.positional.length) || !words.accepts word then
        .error .misuse
      else .ok { state with positional := state.positional ++ [word] }

/-- Reads an option by its name, which may have a value attached to it. Gives the option when its
value is to follow. -/
def readNamed (state : State) (text : List Char) : Except Halt (State × Option OptionSpec) :=
  let (nameText, attached) := text.span (· ≠ '=')
  let name := String.ofList nameText
  match state.menu.options.find? fun spec => spec.name == name, attached with
  | some spec, [] =>
      if spec.kind = .flag then (state.record spec "").map fun next => (next, none)
      else .ok (state, some spec)
  | some spec, _ :: value =>
      if spec.kind = .flag then .error .misuse
      else (state.record spec (String.ofList value)).map fun next => (next, none)
  | none, [] =>
      if name = "help" then .error .help
      else if name = "version" ∧ state.isOutermost then .error .version
      else .error .misuse
  | none, _ => .error .misuse

/-- Reads options by their letters. The rest after the letter of an option with a value is its
value. -/
def readLetters (state : State) : List Char → Except Halt (State × Option OptionSpec)
  | [] => .ok (state, none)
  | letter :: rest =>
      match state.menu.options.find? fun spec => spec.letter == some letter with
      | some spec =>
          if spec.kind = .flag then
            match state.record spec "" with
            | .ok next => readLetters next rest
            | .error halt => .error halt
          else
            match rest with
            | [] => .ok (state, some spec)
            | '=' :: value | value =>
                (state.record spec (String.ofList value)).map fun next => (next, none)
      | none =>
          if letter = 'h' then .error .help
          else if letter = 'V' ∧ state.isOutermost then .error .version
          else .error .misuse

/-- Reads one word. Gives the option whose value is to follow, if there is one. -/
def step (state : State) (word : String) : Except Halt (State × Option OptionSpec) :=
  if state.literal then (state.addPositional word).map fun next => (next, none)
  else
    match state.menu.choose? word with
    | some menu => .ok (state.enter menu, none)
    | none =>
        match word.toList with
        | ['-', '-'] => .ok ({ state with literal := true }, none)
        | '-' :: '-' :: text => state.readNamed text
        | '-' :: letter :: letters => state.readLetters (letter :: letters)
        | _ => (state.addPositional word).map fun next => (next, none)

def finish (state : State) : Except Halt Invocation :=
  match state.menu with
  | .group _ => .error .misuse
  | .command _ _ build =>
      let given := state.given
      match build given state.positional with
      | some command =>
          .ok ⟨command, given.single? "config", given.has "verbose", given.has "json"⟩
      | none => .error .misuse

end State

def helpWord : String := "help"

def helpOn (menu : Menu) : List String → Halt
  | [] => .help
  | word :: rest =>
      match menu.choose? word with
      | some inner => helpOn inner rest
      | none => if menu.isGroup ∧ word = helpWord ∧ rest = [] then .help else .misuse

/-- A word that is no value of an option before it. One dash alone is a value. -/
def looksLikeOption (word : String) : Bool :=
  match word.toList with
  | '-' :: _ :: _ => true
  | _ => false

def readWords (state : State) : List String → Except Halt Invocation
  | [] => state.finish
  | word :: rest =>
      if word = helpWord ∧ state.literal = false ∧ state.menu.isGroup then
        .error (helpOn state.menu rest)
      else
        match state.step word with
        | .error halt => .error halt
        | .ok (next, none) => readWords next rest
        | .ok (next, some spec) =>
            match rest with
            | [] => .error .misuse
            | value :: more =>
                if looksLikeOption value then .error .misuse
                else
                  match next.record spec value with
                  | .error halt => .error halt
                  | .ok recorded => readWords recorded more

def read (words : List String) : Except Halt Invocation := readWords State.initial words

end Arguments

/-! ## Scripts that complete the first word of a command line in a shell -/

def firstWords : List String :=
  match Arguments.mainMenu with
  | .group choices => choices.map Prod.fst
  | .command _ _ _ => []

def Shell.script : Shell → String
  | .bash => "complete -W \"" ++ Text.join " " firstWords ++ "\" sift\n"
  | .elvish =>
      "set edit:completion:arg-completer[sift] = \x7b|@words| put " ++ Text.join " " firstWords
        ++ " \x7d\n"
  | .fish => "complete -c sift -f -a \"" ++ Text.join " " firstWords ++ "\"\n"
  | .powershell =>
      "Register-ArgumentCompleter -Native -CommandName sift -ScriptBlock \x7b "
        ++ Text.quoteList firstWords ++ " \x7d\n"
  | .zsh => "#compdef sift\ncompadd " ++ Text.join " " firstWords ++ "\n"

end SearchKit
