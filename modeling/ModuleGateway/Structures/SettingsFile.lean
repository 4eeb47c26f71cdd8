import Mathlib.Algebra.Group.Int.Defs
import ModuleGateway.Library.Json
import ModuleGateway.Structures.SettingsParser

/-! # The configuration file

How `SettingsParser` fills the settings from the command line and from a configuration file, and the text that
it makes of them. What the option library found on the command line is `CmdArguments`, `parse` is the parser of
the JSON library, and `JsonLibrary` what else is left to it.
-/
namespace ModuleGateway.Structures

namespace Constants

abbrev CONFIG_PATH := "config-path"
abbrev PORT := "port"
abbrev LOGGING := "logging"
abbrev LOGGING_CONSOLE := "console"
abbrev LOGGING_FILE := "file"
abbrev LOG_LEVEL := "level"
abbrev LOG_USE := "use"
abbrev LOG_PATH := "path"
abbrev LOG_LEVEL_DEBUG := "DEBUG"
abbrev LOG_LEVEL_INFO := "INFO"
abbrev LOG_LEVEL_WARNING := "WARNING"
abbrev LOG_LEVEL_ERROR := "ERROR"
abbrev LOG_LEVEL_CRITICAL := "CRITICAL"
abbrev MODULE_PATHS := "module-paths"
abbrev MODULE_BINARY_PATH := "module-binary-path"
abbrev INTERNAL_SERVER_SETTINGS := "internal-server-settings"
abbrev EXTERNAL_CONNECTION := "external-connection"
abbrev VEHICLE_NAME := "vehicle-name"
abbrev COMPANY := "company"
abbrev EXTERNAL_ENDPOINTS := "endpoints"
abbrev SERVER_IP := "server-ip"
abbrev PROTOCOL_TYPE := "protocol-type"
abbrev MQTT := "MQTT"
abbrev QUIC := "QUIC"
abbrev DUMMY := "DUMMY"
abbrev MQTT_SETTINGS := "mqtt-settings"
abbrev QUIC_SETTINGS := "quic-settings"
abbrev MODULES := "modules"

end Constants

open Constants

/-- What the parser throws. `assertion` is `operator[]` of a constant object that lacks the key, which the JSON
library does not define; `key_not_found` is `at` in the same case. -/
inductive SettingsError where
  | parse_error
  | type_error
  | assertion (key : String)
  | key_not_found (key : String)
  | invalid_argument (what : String)
  | out_of_range (what : String)
deriving DecidableEq

/-- The JSON library: the conversions of a number that is no integer, which are not defined when it does not fit,
and the text of a value, on one line or with an indentation. -/
class JsonLibrary (φ : Type) where
  toUnsignedShort : φ → UInt16
  toInt : φ → Int32
  dump : Option ℕ → Json φ → String

/-! ## Enumerations -/

def toupper (s : String) : String := s.map Char.toUpper

def stringToProtocolType (toEnum : String) : ProtocolType :=
  if toupper toEnum = MQTT then .MQTT
  else if toupper toEnum = QUIC then .QUIC
  else if toupper toEnum = DUMMY then .DUMMY
  else .INVALID

def protocolTypeToString : ProtocolType → String
  | .MQTT => MQTT
  | .QUIC => QUIC
  | .DUMMY => DUMMY
  | .INVALID => ""

def stringToLoggerVerbosity (toEnum : String) : LoggerVerbosity :=
  if toupper toEnum = LOG_LEVEL_DEBUG then .Debug
  else if toupper toEnum = LOG_LEVEL_INFO then .Info
  else if toupper toEnum = LOG_LEVEL_WARNING then .Warning
  else if toupper toEnum = LOG_LEVEL_ERROR then .Error
  else if toupper toEnum = LOG_LEVEL_CRITICAL then .Critical
  else .Debug

def loggerVerbosityToString : LoggerVerbosity → String
  | .Debug => LOG_LEVEL_DEBUG
  | .Info => LOG_LEVEL_INFO
  | .Warning => LOG_LEVEL_WARNING
  | .Error => LOG_LEVEL_ERROR
  | .Critical => LOG_LEVEL_CRITICAL

/-- The name of the settings of a protocol; `fillSettings` skips endpoints that have no valid one. -/
def settingsName : ProtocolType → String
  | .MQTT => MQTT_SETTINGS
  | .QUIC => QUIC_SETTINGS
  | .DUMMY => ""
  | .INVALID => "INVALID"

/-! ## Access to JSON values -/

section Access
variable {φ : Type}

/-- `operator[]` of a constant value. -/
def index (j : Json φ) (key : String) : Except SettingsError (Json φ) :=
  match j with
  | .object members => ((members.lookup key).map .ok).getD (.error (.assertion key))
  | _ => .error .type_error

/-- `at`. -/
def «at» (j : Json φ) (key : String) : Except SettingsError (Json φ) :=
  match j with
  | .object members => ((members.lookup key).map .ok).getD (.error (.key_not_found key))
  | _ => .error .type_error

def getBool : Json φ → Except SettingsError Bool
  | .boolean b => .ok b
  | _ => .error .type_error

def getString : Json φ → Except SettingsError String
  | .string s => .ok s
  | _ => .error .type_error

variable [JsonLibrary φ]

/-- The conversion to `unsigned short`, as the JSON library makes it for every arithmetic type. -/
def getUnsignedShort : Json φ → Except SettingsError UInt16
  | .integer n => .ok (UInt16.ofInt n)
  | .float x => .ok (JsonLibrary.toUnsignedShort x)
  | .boolean b => .ok (if b then 1 else 0)
  | _ => .error .type_error

/-- The conversion to `int`. -/
def getInt : Json φ → Except SettingsError ℤ
  | .integer n => .ok (Int32.ofInt n).toInt
  | .float x => .ok (JsonLibrary.toInt x).toInt
  | .boolean b => .ok (if b then 1 else 0)
  | _ => .error .type_error

/-- The conversion to `std::vector<int>`. -/
def getInts : Json φ → Except SettingsError (List ℤ)
  | .array elements => elements.mapM getInt
  | _ => .error .type_error

/-- `to_string`, for what is no string itself. -/
def settingText : Json φ → String
  | .string s => s
  | j => JsonLibrary.dump none j

end Access

/-! ## Module numbers -/

inductive StoiError where
  | invalid_argument
  | out_of_range
deriving DecidableEq

def isspace (c : Char) : Bool := c = ' ' || (9 ≤ c.toNat && c.toNat ≤ 13)

/-- A number of type `int`. -/
def IsInt (number : ℤ) : Prop := -2^31 ≤ number ∧ number < 2^31

instance (number : ℤ) : Decidable (IsInt number) := inferInstanceAs (Decidable (_ ∧ _))

/-- A number of any size, taken for an `int`. -/
def checkedInt (number : ℤ) : Except StoiError ℤ :=
  if IsInt number then .ok number else .error .out_of_range

/-- The digits at the front of a text. -/
def stoiDigits (negative : Bool) (text : List Char) : Except StoiError ℤ :=
  let digits := text.takeWhile Char.isDigit
  let number : ℤ := Nat.ofDigitChars 10 digits 0
  if digits.isEmpty then .error .invalid_argument else checkedInt (if negative then -number else number)

/-- `std::stoi`: blanks, a sign and digits; what comes after them is ignored. -/
def stoi (text : String) : Except StoiError ℤ :=
  match text.toList.dropWhile isspace with
  | '-' :: rest => stoiDigits true rest
  | '+' :: rest => stoiDigits false rest
  | rest => stoiDigits false rest

def moduleNumber (key : String) : Except SettingsError ℤ :=
  match stoi key with
  | .ok number => .ok number
  | .error .invalid_argument =>
    .error (.invalid_argument ("Module path key '" ++ key ++ "' is not a valid integer module number"))
  | .error .out_of_range => .error (.out_of_range ("Module path key '" ++ key ++ "' is out of integer range"))

/-! ## The command line -/

/-- What was found of each option, `port` being numbers already. -/
structure CmdArguments where
  argc : ℕ
  help : ℕ
  configPath : List String
  port : List ℤ
  unmatched : List String

/-- The lines `areCmdArgumentsCorrect` prints. The option that is required is looked at twice. -/
def cmdArgumentErrors (cmdArguments_ : CmdArguments) : List String :=
  let duplicate (param : String) (count : ℕ) : List String :=
    if count > 1 then ["[ERROR] Found duplicate --" ++ param ++ " cmdline parameter!"] else []
  duplicate CONFIG_PATH cmdArguments_.configPath.length ++ duplicate PORT cmdArguments_.port.length ++
  duplicate CONFIG_PATH cmdArguments_.configPath.length ++
  (if !cmdArguments_.unmatched.isEmpty then
    ["[ERROR] Unmatched arguments! use -h to see arguments, arguments should be in format -<short name> <value> " ++
      "or --<long name>=<value>, unmatched arguments: " ++
        String.join (cmdArguments_.unmatched.map (· ++ " "))] else []) ++
  (if cmdArguments_.configPath.length < 1 then ["Please provide " ++ CONFIG_PATH ++ " argument"] else [])

def areCmdArgumentsCorrect (cmdArguments_ : CmdArguments) : Bool := (cmdArgumentErrors cmdArguments_).isEmpty

/-! ## Reading the file -/

section Fill
variable {φ : Type} [JsonLibrary φ]

def fillLoggingSettings (file : Json φ) : Except SettingsError LoggingSettings := do
  let consoleLogging ← index (← index file LOGGING) LOGGING_CONSOLE
  let fileLogging ← index (← index file LOGGING) LOGGING_FILE
  let consoleUse ← getBool (← index consoleLogging LOG_USE)
  let consoleLevel ← getString (← index consoleLogging LOG_LEVEL)
  let fileUse ← getBool (← index fileLogging LOG_USE)
  let fileLevel ← getString (← index fileLogging LOG_LEVEL)
  let filePath ← getString (← index fileLogging LOG_PATH)
  return ⟨⟨consoleUse,stringToLoggerVerbosity consoleLevel⟩,⟨fileUse,stringToLoggerVerbosity fileLevel,filePath⟩⟩

def fillInternalServerSettings (cmdArguments_ : CmdArguments) (file : Json φ) : Except SettingsError UInt16 :=
  match cmdArguments_.port.getLast? with
  | some port => .ok (UInt16.ofInt port)
  | none => do getUnsignedShort (← index (← index file INTERNAL_SERVER_SETTINGS) PORT)

section ReadMap
variable {κ ν : Type} [DecidableEq κ]

omit [JsonLibrary φ] in
/-- A map is filled item by item, the value of an item being read before its key. -/
def addItems (readKey : String → Except SettingsError κ) (readValue : Json φ → Except SettingsError ν)
    (items : List (String × Json φ)) (map : AList fun _ : κ => ν) : Except SettingsError (AList fun _ : κ => ν) :=
  items.foldlM (fun map item => do
    let value ← readValue item.2
    let key ← readKey item.1
    return map.insert key value) map

omit [JsonLibrary φ] in
def readMap (readKey : String → Except SettingsError κ) (readValue : Json φ → Except SettingsError ν)
    (items : List (String × Json φ)) : Except SettingsError (AList fun _ : κ => ν) :=
  addItems readKey readValue items ∅

end ReadMap

/-- The module paths and the path of the module binary. -/
def fillModulePathsSettings (file : Json φ) : Except SettingsError ((AList fun _ : ℤ => String) × String) := do
  let modulePaths ← readMap moduleNumber getString (← index file MODULE_PATHS).items
  match file.find? MODULE_BINARY_PATH with
  | some moduleBinaryPath => return (modulePaths,← getString moduleBinaryPath)
  | none => return (modulePaths,"")

def fillProtocolSettings (protocolType : ProtocolType) (endpoint : Json φ) :
    Except SettingsError (AList fun _ : String => String) :=
  if settingsName protocolType = "" then .ok ∅
  else
    match endpoint.find? (settingsName protocolType) with
    | none => .ok ∅
    | some protocolSettings => readMap .ok (fun val => .ok (settingText val)) protocolSettings.items

/-- One endpoint; one without a valid protocol is skipped. -/
def fillEndpoint (endpoint : Json φ) : Except SettingsError (Option ExternalConnectionSettings) := do
  let protocolType := stringToProtocolType (← getString (← index endpoint PROTOCOL_TYPE))
  if protocolType = .INVALID then return none
  else
    let serverIp ← getString (← «at» endpoint SERVER_IP)
    let port ← getUnsignedShort (← index endpoint PORT)
    let modules ← getInts (← index endpoint MODULES)
    let protocolSettings ← fillProtocolSettings protocolType endpoint
    return some ⟨protocolType,protocolSettings,serverIp,port,modules⟩

def fillEndpoints : List (Json φ) → Except SettingsError (List ExternalConnectionSettings)
  | [] => .ok []
  | endpoint :: endpoints => do
    let externalConnectionSettings ← fillEndpoint endpoint
    return externalConnectionSettings.toList ++ (← fillEndpoints endpoints)

/-- The vehicle name, the company and the endpoints. -/
def fillExternalConnectionSettings (file : Json φ) :
    Except SettingsError (String × String × List ExternalConnectionSettings) := do
  let vehicleName ← getString (← «at» (← «at» file EXTERNAL_CONNECTION) VEHICLE_NAME)
  let company ← getString (← «at» (← «at» file EXTERNAL_CONNECTION) COMPANY)
  let endpoints ← index (← index file EXTERNAL_CONNECTION) EXTERNAL_ENDPOINTS
  return (vehicleName,company,← fillEndpoints endpoints.elements)

variable (parse : String → Option (Json φ))

/-- `fillSettings` with the text of the configuration file. -/
def fillSettings (cmdArguments_ : CmdArguments) (text : String) : Except SettingsError Settings :=
  match parse text with
  | none => .error .parse_error
  | some file => do
    let loggingSettings ← fillLoggingSettings file
    let port ← fillInternalServerSettings cmdArguments_ file
    let (modulePaths,moduleBinaryPath) ← fillModulePathsSettings file
    let (vehicleName,company,externalConnectionSettingsList) ← fillExternalConnectionSettings file
    return ⟨port,company,vehicleName,modulePaths,moduleBinaryPath,externalConnectionSettingsList,loggingSettings⟩

/-- `files` are the files with their texts; without settings only the help was asked for. -/
def parseSettings (files : String → String) (exists_ : String → Bool) (cmdArguments_ : CmdArguments) :
    Except SettingsError (Option Settings) :=
  if cmdArguments_.help ≠ 0 ∨ cmdArguments_.argc = 1 then .ok none
  else if !areCmdArgumentsCorrect cmdArguments_ then
    .error (.invalid_argument "Cmd arguments are not correct.")
  else
    match fillSettings parse cmdArguments_ (files (cmdArguments_.configPath.getLastD "")) with
    | .error e => .error e
    | .ok settings_ =>
      if areSettingsCorrect exists_ settings_ then .ok (some settings_)
      else .error (.invalid_argument "Arguments are not correct.")

/-! ## Writing the settings -/

/-- A text that the JSON library accepts is taken for a value. -/
def settingValue (val : String) : Json φ := (parse val).getD (.string val)

def endpointAsJson (endpoint : ExternalConnectionSettings) : Json φ :=
  let j := Json.null.set [SERVER_IP] (.string endpoint.serverIp)
  let j := j.set [PORT] (.integer endpoint.port.toNat)
  let j := j.set [Constants.MODULES] (.array (endpoint.modules.map .integer))
  let j := j.set [PROTOCOL_TYPE] (.string (protocolTypeToString endpoint.protocolType))
  endpoint.protocolSettings.entries.foldl (fun j setting =>
    j.set [settingsName endpoint.protocolType,setting.1] (settingValue parse setting.2)) j

def settingsAsJson (settings_ : Settings) : Json φ :=
  let j := Json.null.set [LOGGING,LOGGING_CONSOLE,LOG_USE] (.boolean settings_.loggingSettings.console.use)
  let j := j.set [LOGGING,LOGGING_CONSOLE,LOG_LEVEL]
    (.string (loggerVerbosityToString settings_.loggingSettings.console.level))
  let j := j.set [LOGGING,LOGGING_FILE,LOG_USE] (.boolean settings_.loggingSettings.file.use)
  let j := j.set [LOGGING,LOGGING_FILE,LOG_LEVEL]
    (.string (loggerVerbosityToString settings_.loggingSettings.file.level))
  let j := j.set [LOGGING,LOGGING_FILE,LOG_PATH] (.string settings_.loggingSettings.file.path)
  let j := j.set [INTERNAL_SERVER_SETTINGS,PORT] (.integer settings_.port.toNat)
  let j := settings_.modulePaths.entries.foldl (fun j modulePath =>
    j.set [Constants.MODULE_PATHS,toString modulePath.1] (.string modulePath.2)) j
  let j := j.set [EXTERNAL_CONNECTION,COMPANY] (.string settings_.company)
  let j := j.set [EXTERNAL_CONNECTION,VEHICLE_NAME] (.string settings_.vehicleName)
  j.set [EXTERNAL_CONNECTION,EXTERNAL_ENDPOINTS]
    (.array (settings_.externalConnectionSettingsList.map (endpointAsJson parse)))

def serializeToJson (settings_ : Settings) : String :=
  JsonLibrary.dump (some 4) (settingsAsJson parse settings_)

end Fill

/-! ## What was read -/

section Read
variable {φ : Type} {j value : Json φ} {key : String}

theorem bind_eq_ok_iff {ε α β : Type} {x : Except ε α} {f : α → Except ε β} {b : β} :
    (x >>= f) = .ok b ↔ ∃ a, x = .ok a ∧ f a = .ok b := by
  cases x with
  | error e => exact iff_of_false nofun nofun
  | ok a =>
    constructor
    · intro h
      exact ⟨a,rfl,h⟩
    · rintro ⟨a',ha,h⟩
      obtain rfl := Except.ok.inj ha
      exact h

theorem pure_eq_ok_iff {ε α : Type} {a b : α} : (pure a : Except ε α) = .ok b ↔ a = b :=
  ⟨fun h => Except.ok.inj h,congrArg _⟩

theorem getD_map_ok {ε α : Type} {x : Option α} {e : Except ε α} {a : α} (he : ∀ b, e ≠ .ok b) :
    (x.map Except.ok).getD e = .ok a ↔ x = some a := by
  cases x with
  | none => exact iff_of_false (he a) nofun
  | some b => exact ⟨fun h => congrArg some (Except.ok.inj h),fun h => congrArg Except.ok (Option.some.inj h)⟩

theorem index_eq_ok_iff : index j key = .ok value ↔ j.find? key = some value := by
  unfold index
  split
  · exact getD_map_ok nofun
  · rename_i hobject
    refine iff_of_false nofun ?_
    cases j with
    | object members => exact absurd rfl (hobject members)
    | _ => exact nofun

theorem at_eq_ok_iff : «at» j key = .ok value ↔ j.find? key = some value := by
  unfold «at»
  split
  · exact getD_map_ok nofun
  · rename_i hobject
    refine iff_of_false nofun ?_
    cases j with
    | object members => exact absurd rfl (hobject members)
    | _ => exact nofun

theorem getBool_eq_ok_iff {b : Bool} : getBool j = .ok b ↔ j = .boolean b := by
  cases j <;> simp [getBool]

theorem getString_eq_ok_iff {s : String} : getString j = .ok s ↔ j = .string s := by
  cases j <;> simp [getString]

variable [JsonLibrary φ] {parse : String → Option (Json φ)} {cmdArguments_ : CmdArguments} {text : String}
  {settings_ : Settings} {e : ExternalConnectionSettings} {file endpoint : Json φ}

theorem fillSettings_eq_ok_iff : fillSettings parse cmdArguments_ text = .ok settings_ ↔
    ∃ file, parse text = some file ∧ fillLoggingSettings file = .ok settings_.loggingSettings ∧
      fillInternalServerSettings cmdArguments_ file = .ok settings_.port ∧
      fillModulePathsSettings file = .ok (settings_.modulePaths,settings_.moduleBinaryPath) ∧
      fillExternalConnectionSettings file =
        .ok (settings_.vehicleName,settings_.company,settings_.externalConnectionSettingsList) := by
  unfold fillSettings
  split
  · rename_i hparse
    simp [hparse]
  · rename_i file hparse
    simp only [hparse, Option.some.injEq, exists_eq_left', bind_eq_ok_iff, pure_eq_ok_iff]
    constructor
    · rintro ⟨loggingSettings,hlogging,port,hport,paths,hpaths,connection,hconnection,rfl⟩
      exact ⟨hlogging,hport,hpaths,hconnection⟩
    · rintro ⟨hlogging,hport,hpaths,hconnection⟩
      exact ⟨_,hlogging,_,hport,_,hpaths,_,hconnection,rfl⟩

omit [JsonLibrary φ] in
theorem fillModulePathsSettings_eq_ok_iff {paths : (AList fun _ : ℤ => String) × String} :
    fillModulePathsSettings file = .ok paths ↔
    (∃ modulePaths, file.find? MODULE_PATHS = some modulePaths ∧
      readMap moduleNumber getString modulePaths.items = .ok paths.1) ∧
    (file.find? MODULE_BINARY_PATH = none ∧ paths.2 = "" ∨
      file.find? MODULE_BINARY_PATH = some (.string paths.2)) := by
  unfold fillModulePathsSettings
  simp only [bind_eq_ok_iff, index_eq_ok_iff]
  constructor
  · rintro ⟨j,hj,modulePaths,hmap,h⟩
    split at h
    · rename_i hbinary
      simp only [bind_eq_ok_iff, getString_eq_ok_iff, pure_eq_ok_iff] at h
      obtain ⟨path,rfl,rfl⟩ := h
      exact ⟨⟨j,hj,hmap⟩,.inr hbinary⟩
    · rename_i hbinary
      obtain rfl := pure_eq_ok_iff.mp h
      exact ⟨⟨j,hj,hmap⟩,.inl ⟨hbinary,rfl⟩⟩
  · rintro ⟨⟨j,hj,hmap⟩,⟨hnone,hpath⟩ | hbinary⟩
    · refine ⟨j,hj,paths.1,hmap,?_⟩
      rw [hnone, ← hpath]
      rfl
    · refine ⟨j,hj,paths.1,hmap,?_⟩
      rw [hbinary]
      rfl

theorem fillExternalConnectionSettings_eq_ok_iff {r : String × String × List ExternalConnectionSettings} :
    fillExternalConnectionSettings file = .ok r ↔
    ∃ connection, file.find? EXTERNAL_CONNECTION = some connection ∧
      connection.find? VEHICLE_NAME = some (.string r.1) ∧ connection.find? COMPANY = some (.string r.2.1) ∧
      ∃ endpoints, connection.find? EXTERNAL_ENDPOINTS = some endpoints ∧
        fillEndpoints endpoints.elements = .ok r.2.2 := by
  unfold fillExternalConnectionSettings
  simp only [bind_eq_ok_iff, index_eq_ok_iff, at_eq_ok_iff, getString_eq_ok_iff, pure_eq_ok_iff]
  constructor
  · rintro ⟨connection,hconnection,_,hvehicle,vehicleName,rfl,connection',hconnection',_,hcompany,company,rfl,
      connection'',hconnection'',endpoints,hendpoints,list,hlist,rfl⟩
    obtain rfl := Option.some.inj (hconnection.symm.trans hconnection')
    obtain rfl := Option.some.inj (hconnection.symm.trans hconnection'')
    exact ⟨connection,hconnection,hvehicle,hcompany,endpoints,hendpoints,hlist⟩
  · rintro ⟨connection,hconnection,hvehicle,hcompany,endpoints,hendpoints,hlist⟩
    exact ⟨connection,hconnection,_,hvehicle,_,rfl,connection,hconnection,_,hcompany,_,rfl,connection,hconnection,
      endpoints,hendpoints,_,hlist,rfl⟩

theorem fillEndpoint_eq_some_iff : fillEndpoint endpoint = .ok (some e) ↔
    e.protocolType ≠ .INVALID ∧
    (∃ name, endpoint.find? PROTOCOL_TYPE = some (.string name) ∧ stringToProtocolType name = e.protocolType) ∧
    endpoint.find? SERVER_IP = some (.string e.serverIp) ∧
    (∃ port, endpoint.find? PORT = some port ∧ getUnsignedShort port = .ok e.port) ∧
    (∃ modules, endpoint.find? MODULES = some modules ∧ getInts modules = .ok e.modules) ∧
    fillProtocolSettings e.protocolType endpoint = .ok e.protocolSettings := by
  unfold fillEndpoint
  simp only [bind_eq_ok_iff, index_eq_ok_iff, getString_eq_ok_iff]
  constructor
  · rintro ⟨_,hname,name,rfl,h⟩
    split at h
    · cases pure_eq_ok_iff.mp h
    · rename_i hvalid
      simp only [bind_eq_ok_iff, index_eq_ok_iff, at_eq_ok_iff, getString_eq_ok_iff, pure_eq_ok_iff,
        Option.some.injEq] at h
      obtain ⟨_,hserverIp,serverIp,rfl,jport,hport,port,hjport,jmodules,hmodules,modules,hjmodules,protocolSettings,
        hprotocolSettings,rfl⟩ := h
      exact ⟨hvalid,⟨name,hname,rfl⟩,hserverIp,⟨jport,hport,hjport⟩,⟨jmodules,hmodules,hjmodules⟩,hprotocolSettings⟩
  · rintro ⟨hvalid,⟨name,hname,htype⟩,hserverIp,⟨jport,hport,hjport⟩,⟨jmodules,hmodules,hjmodules⟩,hprotocolSettings⟩
    refine ⟨_,hname,name,rfl,?_⟩
    rw [htype, if_neg hvalid]
    simp only [bind_eq_ok_iff, index_eq_ok_iff, at_eq_ok_iff, getString_eq_ok_iff, pure_eq_ok_iff]
    exact ⟨_,hserverIp,_,rfl,jport,hport,_,hjport,jmodules,hmodules,_,hjmodules,_,hprotocolSettings,rfl⟩

theorem fillEndpoints_cons_eq_ok_iff {endpoints : List (Json φ)} {list : List ExternalConnectionSettings} :
    fillEndpoints (endpoint :: endpoints) = .ok list ↔ ∃ first rest, fillEndpoint endpoint = .ok first ∧
      fillEndpoints endpoints = .ok rest ∧ first.toList ++ rest = list := by
  simp only [fillEndpoints, bind_eq_ok_iff, pure_eq_ok_iff, exists_and_left]

section ReadMap
variable {κ ν : Type} [DecidableEq κ] {readKey : String → Except SettingsError κ}
  {readValue : Json φ → Except SettingsError ν} {items : List (String × Json φ)} {map map' : AList fun _ : κ => ν}
  {k : κ} {v : ν}

omit [JsonLibrary φ] in
theorem addItems_cons_eq_ok_iff {item : String × Json φ} :
    addItems readKey readValue (item :: items) map = .ok map' ↔ ∃ value key, readValue item.2 = .ok value ∧
      readKey item.1 = .ok key ∧ addItems readKey readValue items (map.insert key value) = .ok map' := by
  unfold addItems
  rw [List.foldlM_cons]
  simp only [bind_eq_ok_iff, pure_eq_ok_iff]
  constructor
  · rintro ⟨_,⟨value,hvalue,key,hkey,rfl⟩,h⟩
    exact ⟨value,key,hvalue,hkey,h⟩
  · rintro ⟨value,key,hvalue,hkey,h⟩
    exact ⟨_,⟨value,hvalue,key,hkey,rfl⟩,h⟩

omit [JsonLibrary φ] in
/-- Items that can be read are added. -/
theorem addItems_ok (map : AList fun _ : κ => ν)
    (h : ∀ item ∈ items, (∃ value, readValue item.2 = .ok value) ∧ ∃ key, readKey item.1 = .ok key) :
    ∃ map', addItems readKey readValue items map = .ok map' := by
  induction items generalizing map with
  | nil => exact ⟨map,rfl⟩
  | cons item items ih =>
    obtain ⟨⟨value,hvalue⟩,key,hkey⟩ := h item List.mem_cons_self
    obtain ⟨map',hmap'⟩ := ih (map.insert key value) fun other hother => h other (List.mem_cons_of_mem _ hother)
    exact ⟨map',addItems_cons_eq_ok_iff.mpr ⟨value,key,hvalue,hkey,hmap'⟩⟩

omit [JsonLibrary φ] in
/-- All items were read. -/
theorem read_of_addItems (h : addItems readKey readValue items map = .ok map') :
    ∀ item ∈ items, ∃ key, readKey item.1 = .ok key := by
  induction items generalizing map with
  | nil => exact fun _ hitem => nomatch hitem
  | cons item items ih =>
    obtain ⟨value,key,-,hkey,hrest⟩ := addItems_cons_eq_ok_iff.mp h
    intro other hother
    rcases List.mem_cons.mp hother with rfl | hmem
    · exact ⟨key,hkey⟩
    · exact ih hrest other hmem

omit [JsonLibrary φ] in
/-- The keys of the map are those that it had and those of the items. -/
theorem mem_addItems_iff (h : addItems readKey readValue items map = .ok map') :
    k ∈ map' ↔ k ∈ map ∨ ∃ item ∈ items, readKey item.1 = .ok k := by
  induction items generalizing map with
  | nil =>
    obtain rfl := Except.ok.inj h
    simp
  | cons item items ih =>
    obtain ⟨value,key,-,hkey,hrest⟩ := addItems_cons_eq_ok_iff.mp h
    rw [ih hrest, AList.mem_insert]
    simp only [List.mem_cons, exists_eq_or_imp, hkey, Except.ok.injEq]
    tauto

omit [JsonLibrary φ] in
/-- A key of one value only is looked up with this value. -/
theorem lookup_addItems (h : addItems readKey readValue items map = .ok map')
    (hvalue : ∀ item ∈ items, readKey item.1 = .ok k → readValue item.2 = .ok v)
    (hkey : map.lookup k = some v ∨ ∃ item ∈ items, readKey item.1 = .ok k) : map'.lookup k = some v := by
  induction items generalizing map with
  | nil =>
    obtain rfl := Except.ok.inj h
    rcases hkey with hold | ⟨item,hitem,-⟩
    · exact hold
    · exact nomatch hitem
  | cons item items ih =>
    obtain ⟨value,key,hread,hkey',hrest⟩ := addItems_cons_eq_ok_iff.mp h
    refine ih hrest (fun other hother => hvalue other (List.mem_cons_of_mem _ hother)) ?_
    by_cases hk : k = key
    · subst hk
      have hfirst := hvalue item List.mem_cons_self hkey'
      rw [hread] at hfirst
      rw [AList.lookup_insert, Except.ok.inj hfirst]
      exact .inl rfl
    · rw [AList.lookup_insert_ne hk]
      rcases hkey with hold | ⟨other,hother,hreads⟩
      · exact .inl hold
      · rcases List.mem_cons.mp hother with rfl | hmem
        · exact absurd (Except.ok.inj (hreads.symm.trans hkey')) hk
        · exact .inr ⟨other,hmem,hreads⟩

end ReadMap

end Read

end ModuleGateway.Structures
