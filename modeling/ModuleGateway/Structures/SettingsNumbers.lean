import ModuleGateway.Structures.SettingsRoundTrip

/-! # Numbers of the settings

Ports are narrowed to 16 bits on their way from the command line and from the file, and the checks of the
settings look at none of them. Here the numbers of accepted settings are compared with the numbers that were
written.
-/
namespace ModuleGateway.Structures
open Constants Json

section
variable {φ : Type}

/-! ## The numbers that are written -/

/-- The number a JSON value is written as, if it is an integer. -/
def writtenNumber : Json φ → Option ℤ
  | .integer n => some n
  | _ => none

/-- `--port`, or the port of the file. -/
def writtenPort (cmdArguments_ : CmdArguments) (file : Json φ) : Option ℤ :=
  match cmdArguments_.port.getLast? with
  | some port => some port
  | none => ((file.find? INTERNAL_SERVER_SETTINGS).bind (·.find? PORT)).bind writtenNumber

/-- An endpoint that is not skipped. -/
def hasProtocol (endpoint : Json φ) : Bool :=
  match endpoint.find? PROTOCOL_TYPE with
  | some (.string name) => stringToProtocolType name ≠ .INVALID
  | _ => false

def writtenEndpoints (file : Json φ) : List (Json φ) :=
  (((file.find? EXTERNAL_CONNECTION).bind (·.find? EXTERNAL_ENDPOINTS)).getD .null).elements.filter hasProtocol

def writtenModulePaths (file : Json φ) : List (String × Json φ) := ((file.find? MODULE_PATHS).getD .null).items

/-- An integer between 1 and 65535. -/
def isPort (written : Option ℤ) : Bool := written.any fun n => 1 ≤ n ∧ n ≤ 65535

/-- All ports are integers between 1 and 65535, and all keys of module paths are decimal texts. -/
def writesNumbers (cmdArguments_ : CmdArguments) (file : Json φ) : Bool :=
  isPort (writtenPort cmdArguments_ file) &&
    ((writtenEndpoints file).all fun endpoint => isPort ((endpoint.find? PORT).bind writtenNumber)) &&
    (writtenModulePaths file).all fun item => isDecimal item.1

/-- A port is the number that was written, and lies between 1 and 65535. -/
def PortAsWritten (written : Option ℤ) (port : UInt16) : Prop :=
  ∃ n : ℤ, written = some n ∧ 1 ≤ n ∧ n ≤ 65535 ∧ (port.toNat : ℤ) = n

/-- Every key is the text of its module number, every module number has its text for a key, and different keys
have different numbers. -/
structure ModulesAsWritten (items : List (String × Json φ)) (modulePaths : AList fun _ : ℤ => String) : Prop where
  keys : ∀ item ∈ items, ∃ number ∈ modulePaths, stoi item.1 = .ok number ∧ item.1 = toString number
  numbers : ∀ number ∈ modulePaths, ∃ item ∈ items, item.1 = toString number
  distinct : ∀ item ∈ items, ∀ other ∈ items, stoi item.1 = stoi other.1 → item.1 = other.1

structure NumbersAsWritten (cmdArguments_ : CmdArguments) (file : Json φ) (settings_ : Settings) : Prop where
  port : PortAsWritten (writtenPort cmdArguments_ file) settings_.port
  endpoints : List.Forall₂ (fun endpoint e => PortAsWritten ((endpoint.find? PORT).bind writtenNumber) e.port)
    (writtenEndpoints file) settings_.externalConnectionSettingsList
  modulePaths : ModulesAsWritten (writtenModulePaths file) settings_.modulePaths

variable [JsonLibrary φ] {parse : String → Option (Json φ)} {files : String → String} {exists_ : String → Bool}
  {cmdArguments_ : CmdArguments} {file endpoint j : Json φ} {settings_ : Settings} {port : UInt16}
  {written : Option ℤ} {e : ExternalConnectionSettings}

/-! ## Ports -/

/-- What does not fit is cut off. -/
theorem portAsWritten_iff (h : ∀ n, written = some n → port = UInt16.ofInt n) :
    PortAsWritten written port ↔ isPort written = true := by
  simp only [isPort, Option.any_eq_true, decide_eq_true_eq]
  constructor
  · rintro ⟨n,hn,hlow,hhigh,-⟩
    exact ⟨n,hn,hlow,hhigh⟩
  · rintro ⟨n,hn,hlow,hhigh⟩
    refine ⟨n,hn,hlow,hhigh,?_⟩
    rw [h n hn, UInt16.ofInt, UInt16.toNat_ofNat']
    omega

theorem ofInt_of_getUnsignedShort (h : getUnsignedShort j = .ok port) {n : ℤ} (hn : writtenNumber j = some n) :
    port = UInt16.ofInt n := by
  cases j with
  | integer m =>
    obtain rfl := Option.some.inj hn
    exact (Except.ok.inj h).symm
  | _ => cases hn

theorem internalPort_iff (h : fillInternalServerSettings cmdArguments_ file = .ok port) :
    PortAsWritten (writtenPort cmdArguments_ file) port ↔ isPort (writtenPort cmdArguments_ file) = true := by
  refine portAsWritten_iff ?_
  intro n hn
  unfold fillInternalServerSettings at h
  unfold writtenPort at hn
  split at h
  · rename_i given hgiven
    rw [hgiven] at hn
    obtain rfl := Option.some.inj hn
    exact (Except.ok.inj h).symm
  · rename_i hgiven
    rw [hgiven] at hn
    simp only [bind_eq_ok_iff, index_eq_ok_iff] at h
    obtain ⟨server,hserver,j,hj,hport⟩ := h
    rw [hserver, Option.bind_some, hj, Option.bind_some] at hn
    exact ofInt_of_getUnsignedShort hport hn

/-! ## Endpoints -/

theorem hasProtocol_of_fillEndpoint {filled : Option ExternalConnectionSettings}
    (h : fillEndpoint endpoint = .ok filled) : hasProtocol endpoint = filled.isSome := by
  unfold fillEndpoint at h
  simp only [bind_eq_ok_iff, index_eq_ok_iff, getString_eq_ok_iff] at h
  obtain ⟨_,hname,name,rfl,h⟩ := h
  unfold hasProtocol
  rw [hname]
  split at h
  · rename_i hinvalid
    obtain rfl := pure_eq_ok_iff.mp h
    simp [hinvalid]
  · rename_i hvalid
    simp only [bind_eq_ok_iff, pure_eq_ok_iff] at h
    obtain ⟨_,-,_,-,_,-,_,-,_,-,_,-,_,-,rfl⟩ := h
    simp [hvalid]

/-- The endpoints of the settings are those of the file that are not skipped. -/
theorem forall₂_of_fillEndpoints {endpoints : List (Json φ)} {list : List ExternalConnectionSettings}
    (h : fillEndpoints endpoints = .ok list) :
    List.Forall₂ (fun endpoint e => fillEndpoint endpoint = .ok (some e)) (endpoints.filter hasProtocol) list := by
  induction endpoints generalizing list with
  | nil =>
    obtain rfl := Except.ok.inj h
    exact .nil
  | cons endpoint endpoints ih =>
    obtain ⟨first,rest,hfirst,hrest,rfl⟩ := fillEndpoints_cons_eq_ok_iff.mp h
    have hprotocol := hasProtocol_of_fillEndpoint hfirst
    cases first with
    | none =>
      rw [List.filter_cons_of_neg (by simp [hprotocol])]
      exact ih hrest
    | some e =>
      rw [List.filter_cons_of_pos (by simp [hprotocol])]
      exact .cons hfirst (ih hrest)

theorem endpointPort_iff (h : fillEndpoint endpoint = .ok (some e)) :
    PortAsWritten ((endpoint.find? PORT).bind writtenNumber) e.port ↔
      isPort ((endpoint.find? PORT).bind writtenNumber) = true := by
  obtain ⟨-,-,-,⟨j,hj,hport⟩,-⟩ := fillEndpoint_eq_some_iff.mp h
  refine portAsWritten_iff ?_
  intro n hn
  rw [hj, Option.bind_some] at hn
  exact ofInt_of_getUnsignedShort hport hn

theorem endpointPorts_iff {endpoints : List (Json φ)} {list : List ExternalConnectionSettings}
    (h : List.Forall₂ (fun endpoint e => fillEndpoint endpoint = .ok (some e)) endpoints list) :
    List.Forall₂ (fun endpoint e => PortAsWritten ((endpoint.find? PORT).bind writtenNumber) e.port) endpoints list ↔
      (endpoints.all fun endpoint => isPort ((endpoint.find? PORT).bind writtenNumber)) = true := by
  induction h with
  | nil => exact iff_of_true .nil rfl
  | cons hfirst _ ih => rw [List.forall₂_cons, endpointPort_iff hfirst, ih, List.all_cons, Bool.and_eq_true]

/-! ## Module numbers -/

omit [JsonLibrary φ] in
theorem modulesAsWritten_iff {items : List (String × Json φ)} {modulePaths : AList fun _ : ℤ => String}
    (h : readMap moduleNumber getString items = .ok modulePaths) :
    ModulesAsWritten items modulePaths ↔ (items.all fun item => isDecimal item.1) = true := by
  rw [List.all_eq_true]
  constructor
  · intro hmodules item hitem
    obtain ⟨number,-,hnumber,htext⟩ := hmodules.keys item hitem
    exact (eq_toString_iff hnumber).mp htext
  · intro hdecimal
    have hkeys : ∀ item ∈ items, ∃ number ∈ modulePaths, stoi item.1 = .ok number ∧ item.1 = toString number := by
      intro item hitem
      obtain ⟨number,hread⟩ := read_of_addItems h item hitem
      have hnumber := moduleNumber_eq_ok_iff.mp hread
      exact ⟨number,(mem_addItems_iff h).mpr (.inr ⟨item,hitem,hread⟩),hnumber,
        (eq_toString_iff hnumber).mpr (hdecimal item hitem)⟩
    refine ⟨hkeys,?_,?_⟩
    · intro number hnumber
      rcases (mem_addItems_iff h).mp hnumber with hnone | ⟨item,hitem,hread⟩
      · exact absurd hnone (AList.notMem_empty number)
      · exact ⟨item,hitem,(eq_toString_iff (moduleNumber_eq_ok_iff.mp hread)).mpr (hdecimal item hitem)⟩
    · intro item hitem other hother heq
      obtain ⟨number,-,hnumber,htext⟩ := hkeys item hitem
      obtain ⟨number',-,hnumber',htext'⟩ := hkeys other hother
      obtain rfl := Except.ok.inj (hnumber.symm.trans (heq.trans hnumber'))
      exact htext.trans htext'.symm

/-! ## Accepted settings -/

theorem fillSettings_of_parseSettings (h : parseSettings parse files exists_ cmdArguments_ = .ok (some settings_)) :
    fillSettings parse cmdArguments_ (files (cmdArguments_.configPath.getLastD "")) = .ok settings_ := by
  unfold parseSettings at h
  split at h
  · cases h
  · split at h
    · cases h
    · split at h
      · cases h
      · rename_i filled hfilled
        split at h
        · rw [← Option.some.inj (Except.ok.inj h)]
          exact hfilled
        · cases h

/-- The numbers of accepted settings are those that were written exactly when all ports are integers between 1
and 65535 and all keys of module paths are decimal texts. -/
theorem parseSettings_numbersAsWritten_iff
    (hfile : parse (files (cmdArguments_.configPath.getLastD "")) = some file)
    (h : parseSettings parse files exists_ cmdArguments_ = .ok (some settings_)) :
    NumbersAsWritten cmdArguments_ file settings_ ↔ writesNumbers cmdArguments_ file = true := by
  obtain ⟨file',hfile',-,hport,hpaths,hconnection⟩ := fillSettings_eq_ok_iff.mp (fillSettings_of_parseSettings h)
  obtain rfl := Option.some.inj (hfile.symm.trans hfile')
  obtain ⟨⟨modulePaths,hmember,hmap⟩,-⟩ := fillModulePathsSettings_eq_ok_iff.mp hpaths
  obtain ⟨connection,hconnection',-,-,endpoints,hendpoints,hlist⟩ :=
    fillExternalConnectionSettings_eq_ok_iff.mp hconnection
  have hwritten : writtenEndpoints file = endpoints.elements.filter hasProtocol := by
    rw [writtenEndpoints, hconnection', Option.bind_some, hendpoints, Option.getD_some]
  have hitems : writtenModulePaths file = modulePaths.items := by
    rw [writtenModulePaths, hmember, Option.getD_some]
  rw [writesNumbers, Bool.and_eq_true, Bool.and_eq_true, hwritten, hitems, ← internalPort_iff hport,
    ← endpointPorts_iff (forall₂_of_fillEndpoints hlist), ← modulesAsWritten_iff hmap]
  constructor
  · rintro ⟨hp,he,hm⟩
    rw [hwritten] at he
    rw [hitems] at hm
    exact ⟨⟨hp,he⟩,hm⟩
  · rintro ⟨⟨hp,he⟩,hm⟩
    rw [← hwritten] at he
    rw [← hitems] at hm
    exact ⟨hp,he,hm⟩

end

/-! ## A port that is cut off -/

/-- The configuration file under its name. -/
def configFiles (path : String) : String := if path = "config.json" then configText [] else ""

/-- `--port=67172` -/
def portArguments : CmdArguments := { configArguments with argc := 3, port := [67172] }

def accepted (cmdArguments_ : CmdArguments) : Option Settings :=
  match parseSettings (parseConfig []) configFiles (fun _ => true) cmdArguments_ with
  | .ok settings_ => settings_
  | .error _ => none

theorem parseSettings_of_accepted {cmdArguments_ : CmdArguments} {settings_ : Settings}
    (h : accepted cmdArguments_ = some settings_) :
    parseSettings (parseConfig []) configFiles (fun _ => true) cmdArguments_ = .ok (some settings_) := by
  unfold accepted at h
  split at h
  · rename_i heq
    rw [heq, h]
  · cases h

theorem parseConfig_configFiles {cmdArguments_ : CmdArguments}
    (h : cmdArguments_.configPath.getLastD "" = "config.json") :
    parseConfig [] (configFiles (cmdArguments_.configPath.getLastD "")) = some (configFile []) := by
  rw [h, configFiles, if_pos rfl, parseConfig, if_pos rfl]

/-- The port is taken for 1636. -/
theorem portArguments_cut_off :
    ¬∀ (parse : String → Option (Json Empty)) files exists_ cmdArguments_ file settings_,
      parse (files (cmdArguments_.configPath.getLastD "")) = some file →
      parseSettings parse files exists_ cmdArguments_ = .ok (some settings_) →
      NumbersAsWritten cmdArguments_ file settings_ := by
  intro hall
  have hport : (accepted portArguments).map (fun s => s.port) = some 1636 := by decide +kernel
  obtain ⟨settings_,hsettings,-⟩ := Option.map_eq_some_iff.mp hport
  have hnumbers := hall (parseConfig []) configFiles (fun _ => true) portArguments (configFile []) settings_
    (parseConfig_configFiles rfl) (parseSettings_of_accepted hsettings)
  obtain ⟨n,hn,-,hhigh,-⟩ := hnumbers.port
  have hwritten : writtenPort portArguments (configFile []) = some 67172 := rfl
  obtain rfl := Option.some.inj (hwritten.symm.trans hn)
  omega

/-- Without the option all numbers are as they were written. -/
theorem parseSettings_numbersAsWritten_iff_configFile :
    ∃ settings_, parseSettings (parseConfig []) configFiles (fun _ => true) configArguments = .ok (some settings_) ∧
      NumbersAsWritten configArguments (configFile []) settings_ := by
  have hsome : (accepted configArguments).isSome = true := by decide +kernel
  obtain ⟨settings_,hsettings⟩ := Option.isSome_iff_exists.mp hsome
  have hnumbers : writesNumbers configArguments (configFile []) = true := by decide +kernel
  exact ⟨settings_,parseSettings_of_accepted hsettings,
    (parseSettings_numbersAsWritten_iff (parseConfig_configFiles rfl) (parseSettings_of_accepted hsettings)).mpr
      hnumbers⟩

end ModuleGateway.Structures
