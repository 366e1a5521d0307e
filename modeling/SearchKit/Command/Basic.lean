import SearchKit.Engine.Action

/-!
Commands of the command line as they are asked for. Texts that may name a file are kept as given.
-/

namespace SearchKit

set_option autoImplicit false

inductive Shell where
  | bash
  | elvish
  | fish
  | powershell
  | zsh
deriving DecidableEq, Repr

def Shell.ofWord? : String → Option Shell
  | "bash" => some .bash
  | "elvish" => some .elvish
  | "fish" => some .fish
  | "powershell" => some .powershell
  | "zsh" => some .zsh
  | _ => none

inductive IndexCommand where
  | create (index : String) (settings docType mappings : Option String)
  | exists (index : String)
  | delete (index : String)
  | mapping (index docType mapping : String)
deriving DecidableEq, Repr

inductive DocumentCommand where
  | save (index docType data : String) (id : Option String) (bulk : Bool)
  | update (target : DocumentRef) (data : String)
  | delete (target : DocumentRef)
  | deleteByQuery (index docType query : String)
deriving DecidableEq, Repr

/-- A query of the caller's own, with what goes around it. -/
structure RawSearch where
  query : String
  indices : List String
  types : List String
  pageNumber : Option Int
  pageSize : Option Int
  order : List String
deriving DecidableEq, Repr

inductive LocalCommand where
  | compile (request : String)
  | completions (shell : Shell)
deriving DecidableEq, Repr

inductive EngineCommand where
  | search (request : String)
  | raw (search : RawSearch)
  | get (document : DocumentRef)
  | multiGet (index docType : String) (ids : List String)
  | index (command : IndexCommand)
  | document (command : DocumentCommand)
deriving DecidableEq, Repr

inductive Command where
  | onItsOwn (command : LocalCommand)
  | withEngine (command : EngineCommand)
deriving DecidableEq, Repr

structure Invocation where
  command : Command
  settingsPath : Option String
  verbose : Bool
  asJson : Bool
deriving DecidableEq, Repr

end SearchKit
