import SearchKit.Settings.Basic
import SearchKit.Toml.Reader

/-!
Settings files: where they are looked for and what they say. A setting that is not there has its
default, and what is no setting is passed over.
-/

namespace SearchKit

set_option autoImplicit false

abbrev FileAccess := String → Except ReadFault String

/-- What is said of the text of a settings file that is refused. The wording belongs to the reader
of the format. -/
abbrev Diagnosis := String → String

namespace Settings

def stringsOf? : Toml → Option (List String)
  | .array items =>
      items.mapM fun item =>
        match item with
        | .string text => some text
        | _ => none
  | _ => none

def millisecondsOf? : Toml → Option UInt64
  | .integer value => if 0 ≤ value then some (UInt64.ofNat value.toNat) else none
  | _ => none

def logFormatOfWord? : String → Option LogFormat
  | "text" => some .text
  | "json" => some .json
  | _ => none

def isEmptyValue : Toml → Bool
  | .array items => items.isEmpty
  | .table _ entries => entries.isEmpty
  | _ => false

/-- The form of the log by its name, which may also be the only key of a table. -/
def logFormatOf? : Toml → Option LogFormat
  | .string word => logFormatOfWord? word
  | .table _ [(word, value)] =>
      if isEmptyValue value then logFormatOfWord? word else none
  | _ => none

def read (settings : Settings) (entry : String × Toml) : Option Settings :=
  match entry.1 with
  | "hosts" => (stringsOf? entry.2).map fun hosts => { settings with hosts }
  | "read_timeout_ms" =>
      (millisecondsOf? entry.2).map fun readTimeoutMs => { settings with readTimeoutMs }
  | "connect_timeout_ms" =>
      (millisecondsOf? entry.2).map fun connectTimeoutMs => { settings with connectTimeoutMs }
  | "log_format" => (logFormatOf? entry.2).map fun logFormat => { settings with logFormat }
  | _ => some settings

def ofText (diagnosis : Diagnosis) (text : String) : Except String Settings :=
  match (Toml.ofText text).bind (·.foldlM read default) with
  | some settings => .ok settings
  | none => .error (diagnosis text)

/-! ## Loading -/

def ofFile (files : FileAccess) (diagnosis : Diagnosis) (path : String) :
    Except Failure Settings :=
  match files path with
  | .error fault => .error (.read fault)
  | .ok text =>
      (ofText diagnosis text).mapError fun said => .configuration (.unreadableSettings path said)

/-- The settings of a file, or the default ones when it is not there. -/
def ofFileOrDefault (files : FileAccess) (diagnosis : Diagnosis) (path : Option String) :
    Except Failure Settings :=
  match path with
  | none => .ok default
  | some path =>
      match files path with
      | .error fault => if fault.isAbsence then .ok default else .error (.read fault)
      | .ok _ => ofFile files diagnosis path

/-- The valid settings of a file that was asked for, or else of the general one. -/
def load (files : FileAccess) (diagnosis : Diagnosis) (general asked : Option String) :
    Except Failure Settings := do
  let settings ← match asked with
    | some path => ofFile files diagnosis path
    | none => ofFileOrDefault files diagnosis general
  (settings.validate).mapError .configuration
  return settings

/-! ## Paths -/

def below (directory name : String) : String :=
  if directory.isEmpty ∨ directory.endsWith "/" then directory ++ name
  else directory ++ "/" ++ name

/-- The general settings file, in the directory for settings if there is one, else below the home
directory. -/
def generalPath (settingsDirectory home : Option String) : Option String :=
  let directory := settingsDirectory.or (home.map (below · ".config"))
  directory.map fun directory => below (below directory "sift") "sift.toml"

end Settings

end SearchKit
