import BoundSql.Config
import BoundSql.Document

/-!
# Configurations from documents

`Config.parse` makes a configuration of the settings in a document and validates it.  The
document may set each of the three settings once; a setting that it leaves out has its
default.  `Config.load` does the same with what has come of reading a file, and names the
file in its messages.

How the settings are read is a parameter of both.  `Config.ofDocument` and `Config.ofFile`
read them with `Document.settings?`.
-/

namespace BoundSql

/-- What reads the settings in a document, each with its key.  There are none in a malformed
document. -/
abbrev SettingsReader := String → Option (List (String × Document.Scalar))

/-- Why a file has no text. -/
inductive FileFault where
  | missing
  | notUtf8
  /-- Anything else that the system reports. -/
  | other (report : String)
deriving DecidableEq

/-- Why there is no configuration. -/
inductive ConfigError where
  /-- The document is no settings document of a configuration. -/
  | malformed
  /-- The configuration is refused. -/
  | invalid (fault : ConfigFault)
  /-- The configuration in a file is refused. -/
  | invalidFile (path : String) (fault : ConfigFault)
  /-- A file cannot be read. -/
  | unreadable (path : String) (fault : FileFault)
deriving DecidableEq

namespace FileFault

/-- The message of a fault. -/
def message : FileFault → String
  | .missing => "No such file or directory (os error 2)"
  | .notUtf8 => "stream did not contain valid UTF-8"
  | .other report => report

end FileFault

namespace ConfigError

/-- What an error says, for those that say more than that the document is malformed. -/
def detail? : ConfigError → Option String
  | .malformed => none
  | .invalid fault => some fault.message
  | .invalidFile path fault =>
    some ("failed to parse config file " ++ path ++ ": " ++ fault.message)
  | .unreadable path fault =>
    some ("failed to read config file " ++ path ++ ": " ++ fault.message)

/-- The message of an error. -/
def message? (error : ConfigError) : Option String :=
  error.detail?.map ("Config error: " ++ ·)

end ConfigError

namespace Config

/-- The keys of the settings of a configuration. -/
def keys : List String := ["placeholder_prefix", "first_id", "max_placeholders"]

/-- The text of a setting, or its default. -/
def textSetting (default : String) : Option Document.Scalar → Option String
  | none => some default
  | some (.text s) => some s
  | some (.number _) => none

/-- The number of a setting, or its default. -/
def numberSetting (default : UInt32) : Option Document.Scalar → Option UInt32
  | none => some default
  | some (.text _) => none
  | some (.number n) =>
    if 0 ≤ n ∧ n.toNat < UInt32.size then some (.ofNat n.toNat) else none

/-- The configuration with the given settings, not yet validated. -/
def ofSettings? (settings : List (String × Document.Scalar)) : Option Config := do
  let names := settings.map Prod.fst
  guard (names.all keys.contains && decide names.Nodup)
  let standard : Config := {}
  let sigil ← textSetting standard.sigil (settings.lookup "placeholder_prefix")
  let firstId ← numberSetting standard.firstId (settings.lookup "first_id")
  let capacity ← numberSetting standard.capacity (settings.lookup "max_placeholders")
  pure ⟨sigil, firstId, capacity⟩

/-- The valid configuration that a settings document gives. -/
def parse (settings? : SettingsReader) (document : String) : Except ConfigError Config :=
  match (settings? document).bind ofSettings? with
  | none => .error .malformed
  | some config =>
    match config.fault? with
    | some fault => .error (.invalid fault)
    | none => .ok config

/-- The valid configuration in a file, of which the text or a fault has been read. -/
def load (settings? : SettingsReader) (path : String) (reading : Except FileFault String) :
    Except ConfigError Config :=
  match reading with
  | .error fault => .error (.unreadable path fault)
  | .ok document =>
    match parse settings? document with
    | .error (.invalid fault) => .error (.invalidFile path fault)
    | result => result

/-- What comes of reading a file, whose contents are absent when there is no such file. -/
def readContents : Option ByteArray → Except FileFault String
  | none => .error .missing
  | some bytes =>
    match String.fromUTF8? bytes with
    | none => .error .notUtf8
    | some document => .ok document

/-- The valid configuration that a settings document gives. -/
def ofDocument (document : String) : Except ConfigError Config :=
  parse Document.settings? document

/-- The valid configuration in a file with the given contents. -/
def ofFile (path : String) (contents : Option ByteArray) : Except ConfigError Config :=
  load Document.settings? path (readContents contents)

end Config

end BoundSql
