import Mathlib.Data.List.AList

/-! # The settings and their validation

What `SettingsParser` leaves in `settings_`, and the checks that `parseSettings` makes
of it. A check that fails prints a line; the settings are correct when nothing is printed.
-/
namespace ModuleGateway.Structures

/-- `logging::LoggerVerbosity`. -/
inductive LoggerVerbosity where
  | Debug
  | Info
  | Warning
  | Error
  | Critical
deriving DecidableEq

structure ConsoleSettings where
  use : Bool
  level : LoggerVerbosity

structure FileSettings where
  use : Bool
  level : LoggerVerbosity
  path : String

structure LoggingSettings where
  console : ConsoleSettings
  file : FileSettings

inductive ProtocolType where
  | INVALID
  | MQTT
  | QUIC
  | DUMMY
deriving DecidableEq

structure ExternalConnectionSettings where
  protocolType : ProtocolType
  protocolSettings : AList fun _ : String => String
  serverIp : String
  port : UInt16
  modules : List ℤ

structure Settings where
  port : UInt16
  company : String
  vehicleName : String
  modulePaths : AList fun _ : ℤ => String
  moduleBinaryPath : String
  externalConnectionSettingsList : List ExternalConnectionSettings
  loggingSettings : LoggingSettings

/-- A path as the streams print it. -/
def quoted (path : String) : String :=
  "\"" ++ String.join (path.toList.map fun c => if c = '"' ∨ c = '\\' then "\\" ++ c.toString else c.toString) ++ "\""

/-- `std::regex_match` with `^[a-z0-9_]+$`. -/
def isName (name : String) : Bool :=
  !name.isEmpty && name.toList.all fun c => c.isLower || c.isDigit || c = '_'

/-- The lines `areSettingsCorrect` prints; `exists_` is `std::filesystem::exists`. -/
def settingsErrors (exists_ : String → Bool) (settings_ : Settings) : List String :=
  let file := settings_.loggingSettings.file
  (if file.use && !exists_ file.path then
    ["Given log path (" ++ quoted file.path ++ ") does not exist."] else []) ++
  (if settings_.modulePaths.keys.isEmpty then ["No shared module library provided."] else []) ++
  (if !settings_.moduleBinaryPath.isEmpty && !exists_ settings_.moduleBinaryPath then
    ["Given module binary path (" ++ quoted settings_.moduleBinaryPath ++ ") does not exist."] else []) ++
  (if !isName settings_.company then
    ["Company name (" ++ settings_.company ++ ") is not valid."] else []) ++
  (if !isName settings_.vehicleName then
    ["Vehicle name (" ++ settings_.vehicleName ++ ") is not valid."] else []) ++
  settings_.externalConnectionSettingsList.flatMap fun externalConnectionSettings =>
    (externalConnectionSettings.modules.filter (· ∉ settings_.modulePaths)).map fun externalModuleId =>
      "Module " ++ toString externalModuleId ++ " is defined in external-connection endpoint modules but is not " ++
        "specified in module-paths"

def areSettingsCorrect (exists_ : String → Bool) (settings_ : Settings) : Bool :=
  (settingsErrors exists_ settings_).isEmpty

/-- Every module of an endpoint has a path. -/
theorem mem_modulePaths_of_areSettingsCorrect {exists_ : String → Bool} {settings_ : Settings}
    (h : areSettingsCorrect exists_ settings_ = true) {connection : ExternalConnectionSettings}
    (hconnection : connection ∈ settings_.externalConnectionSettingsList) {number : ℤ}
    (hnumber : number ∈ connection.modules) : number ∈ settings_.modulePaths := by
  unfold areSettingsCorrect settingsErrors at h
  simp only [List.isEmpty_iff, List.append_eq_nil_iff, List.flatMap_eq_nil_iff, List.map_eq_nil_iff] at h
  have hnone := h.2 connection hconnection
  by_contra hno
  exact List.filter_eq_nil_iff.mp hnone number hnumber (decide_eq_true hno)

end ModuleGateway.Structures
