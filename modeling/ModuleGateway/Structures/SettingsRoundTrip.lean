import ModuleGateway.Structures.ModuleNumbers

/-! # Settings that are written and read again

`serializeToJson` writes the settings that `fillSettings` made, and `fillSettings` reads them back. Each part
of the file is followed on its own; the protocol settings are texts in between, whatever they were in the file.
-/
namespace ModuleGateway.Structures
open Constants Json

attribute [local simp] PORT LOGGING LOGGING_CONSOLE LOGGING_FILE LOG_LEVEL LOG_USE LOG_PATH MODULE_PATHS
  MODULE_BINARY_PATH INTERNAL_SERVER_SETTINGS EXTERNAL_CONNECTION VEHICLE_NAME COMPANY EXTERNAL_ENDPOINTS SERVER_IP
  PROTOCOL_TYPE MODULES MQTT_SETTINGS QUIC_SETTINGS

/-- The settings of an endpoint are the same; a map is what is looked up in it. -/
structure ExternalConnectionSettings.Equal (e e' : ExternalConnectionSettings) : Prop where
  protocolType : e.protocolType = e'.protocolType
  protocolSettings : ∀ key, e.protocolSettings.lookup key = e'.protocolSettings.lookup key
  serverIp : e.serverIp = e'.serverIp
  port : e.port = e'.port
  modules : e.modules = e'.modules

structure Settings.Equal (s s' : Settings) : Prop where
  port : s.port = s'.port
  company : s.company = s'.company
  vehicleName : s.vehicleName = s'.vehicleName
  modulePaths : ∀ number, s.modulePaths.lookup number = s'.modulePaths.lookup number
  moduleBinaryPath : s.moduleBinaryPath = s'.moduleBinaryPath
  externalConnectionSettingsList :
    List.Forall₂ ExternalConnectionSettings.Equal s.externalConnectionSettingsList s'.externalConnectionSettingsList
  loggingSettings : s.loggingSettings = s'.loggingSettings

structure ExternalConnectionSettings.Filled (e : ExternalConnectionSettings) : Prop where
  protocolType : e.protocolType ≠ .INVALID
  modules : ∀ number ∈ e.modules, IsInt number
  dummy : settingsName e.protocolType = "" → e.protocolSettings = ∅

/-- What `fillSettings` promises of the settings. -/
structure Settings.Filled (s : Settings) : Prop where
  modulePaths : ∀ number ∈ s.modulePaths, IsInt number
  externalConnectionSettingsList : ∀ e ∈ s.externalConnectionSettingsList, e.Filled

variable {φ : Type} [JsonLibrary φ] {parse : String → Option (Json φ)} {cmdArguments_ : CmdArguments} {text : String}
  {s t : Settings} {e e' : ExternalConnectionSettings} {j endpoint file : Json φ}

/-! ## The settings that are filled -/

theorem isInt_of_getInt {number : ℤ} (h : getInt j = .ok number) : IsInt number := by
  cases j with
  | integer n =>
    obtain rfl := Except.ok.inj h
    exact ⟨Int32.le_toInt _,Int32.toInt_lt _⟩
  | float x =>
    obtain rfl := Except.ok.inj h
    exact ⟨Int32.le_toInt _,Int32.toInt_lt _⟩
  | boolean b =>
    obtain rfl := Except.ok.inj h
    cases b <;> exact ⟨by decide,by decide⟩
  | _ => cases h

theorem mapM_cons_eq_ok_iff {ε α β : Type} {f : α → Except ε β} {a : α} {as : List α} {bs : List β} :
    (a :: as).mapM f = .ok bs ↔ ∃ b rest, f a = .ok b ∧ as.mapM f = .ok rest ∧ b :: rest = bs := by
  rw [List.mapM_cons]
  simp only [bind_eq_ok_iff, pure_eq_ok_iff, exists_and_left]

theorem isInt_of_getInts {modules : List ℤ} (h : getInts j = .ok modules) : ∀ number ∈ modules, IsInt number := by
  cases j with
  | array elements =>
    unfold getInts at h
    induction elements generalizing modules with
    | nil =>
      obtain rfl := Except.ok.inj h
      exact fun _ hmem => nomatch hmem
    | cons element elements ih =>
      obtain ⟨number,rest,hfirst,hrest,rfl⟩ := mapM_cons_eq_ok_iff.mp h
      intro other hmem
      rcases List.mem_cons.mp hmem with rfl | hother
      · exact isInt_of_getInt hfirst
      · exact ih hrest other hother
  | _ => cases h

theorem filled_of_fillEndpoint (h : fillEndpoint endpoint = .ok (some e)) : e.Filled := by
  obtain ⟨hvalid,-,-,-,⟨modules,-,hmodules⟩,hsettings⟩ := fillEndpoint_eq_some_iff.mp h
  refine ⟨hvalid,isInt_of_getInts hmodules,?_⟩
  intro hname
  rw [fillProtocolSettings, if_pos hname] at hsettings
  exact (Except.ok.inj hsettings).symm

theorem filled_of_fillEndpoints {endpoints : List (Json φ)} {list : List ExternalConnectionSettings}
    (h : fillEndpoints endpoints = .ok list) : ∀ e ∈ list, e.Filled := by
  induction endpoints generalizing list with
  | nil =>
    obtain rfl := Except.ok.inj h
    exact fun _ hmem => nomatch hmem
  | cons endpoint endpoints ih =>
    obtain ⟨first,rest,hfirst,hrest,rfl⟩ := fillEndpoints_cons_eq_ok_iff.mp h
    intro e hmem
    rcases List.mem_append.mp hmem with hnew | hold
    · rw [Option.mem_toList] at hnew
      rw [Option.mem_def.mp hnew] at hfirst
      exact filled_of_fillEndpoint hfirst
    · exact ih hrest e hold

theorem filled_of_fillSettings (h : fillSettings parse cmdArguments_ text = .ok s) : s.Filled := by
  obtain ⟨file,-,-,-,hpaths,hconnection⟩ := fillSettings_eq_ok_iff.mp h
  obtain ⟨⟨modulePaths,-,hmap⟩,-⟩ := fillModulePathsSettings_eq_ok_iff.mp hpaths
  obtain ⟨connection,-,-,-,endpoints,-,hlist⟩ := fillExternalConnectionSettings_eq_ok_iff.mp hconnection
  constructor
  · intro number hnumber
    rcases (mem_addItems_iff hmap).mp hnumber with hnone | ⟨item,-,hkey⟩
    · exact absurd hnone (AList.notMem_empty number)
    · exact isInt_of_stoi (moduleNumber_eq_ok_iff.mp hkey)
  · exact filled_of_fillEndpoints hlist

/-! ## Each part of the file -/

theorem stringToLoggerVerbosity_toString (level : LoggerVerbosity) :
    stringToLoggerVerbosity (loggerVerbosityToString level) = level := by
  cases level <;> decide +kernel

omit [JsonLibrary φ] in
theorem fillLoggingSettings_settingsAsJson :
    fillLoggingSettings (settingsAsJson parse s) = .ok s.loggingSettings := by
  obtain ⟨port,company,vehicleName,modulePaths,moduleBinaryPath,list,⟨⟨use,level⟩,⟨fileUse,fileLevel,path⟩⟩⟩ := s
  unfold fillLoggingSettings settingsAsJson
  simp only [bind_eq_ok_iff, index_eq_ok_iff, getBool_eq_ok_iff, getString_eq_ok_iff, pure_eq_ok_iff]
  cases use <;> cases fileUse <;> simp [find?_foldl_set_of_ne, stringToLoggerVerbosity_toString]

theorem ofInt_toNat (port : UInt16) : UInt16.ofInt port.toNat = port := by
  have hlt := port.toNat_lt
  refine UInt16.toNat_inj.mp ?_
  rw [UInt16.ofInt, UInt16.toNat_ofNat']
  omega

theorem fillInternalServerSettings_settingsAsJson (hport : cmdArguments_.port = []) :
    fillInternalServerSettings cmdArguments_ (settingsAsJson parse s) = .ok s.port := by
  unfold fillInternalServerSettings settingsAsJson
  rw [hport]
  simp only [List.getLast?_nil, bind_eq_ok_iff, index_eq_ok_iff]
  simp [find?_foldl_set_of_ne, getUnsignedShort, ofInt_toNat]

section Maps
variable {κ ν : Type} [DecidableEq κ] {readKey : String → Except SettingsError κ}
  {readValue : Json φ → Except SettingsError ν} {reread : ν → ν}

omit [JsonLibrary φ] in
/-- A map that is written member by member and read item by item. -/
theorem readMap_insertMembers (map : AList fun _ : κ => ν) (name : κ → String) (value : ν → Json φ)
    (hkey : ∀ k ∈ map, readKey (name k) = .ok k) (hvalue : ∀ v, readValue (value v) = .ok (reread v)) :
    ∃ map', readMap readKey readValue
        (insertMembers (fun entry => name entry.1) (fun entry => value entry.2) map.entries []) = .ok map' ∧
      ∀ k, map'.lookup k = (map.lookup k).map reread := by
  have hmem (entry : Sigma fun _ : κ => ν) (h : entry ∈ map.entries) : entry.1 ∈ map :=
    AList.mem_keys.mpr (List.mem_map_of_mem h)
  have hnodup : (map.entries.map fun entry => name entry.1).Nodup := by
    have hkeys : map.entries.Pairwise fun entry other => entry.1 ≠ other.1 :=
      List.pairwise_map.mp map.nodupKeys
    refine List.pairwise_map.mpr (hkeys.imp_of_mem ?_)
    intro entry other hentry hother hne heq
    have hread := hkey entry.1 (hmem entry hentry)
    rw [heq, hkey other.1 (hmem other hother)] at hread
    exact hne (Except.ok.inj hread).symm
  have hitems {item : String × Json φ} :
      item ∈ insertMembers (fun entry => name entry.1) (fun entry => value entry.2) map.entries [] ↔
        ∃ entry ∈ map.entries, item = (name entry.1,value entry.2) := by
    rw [mem_insertMembers hnodup (by simp)]
    simp
  obtain ⟨map',hmap'⟩ : ∃ map', addItems readKey readValue
      (insertMembers (fun entry => name entry.1) (fun entry => value entry.2) map.entries []) ∅ = .ok map' := by
    refine addItems_ok ∅ ?_
    intro item hitem
    obtain ⟨entry,hentry,rfl⟩ := hitems.mp hitem
    exact ⟨⟨_,hvalue entry.2⟩,entry.1,hkey entry.1 (hmem entry hentry)⟩
  refine ⟨map',hmap',?_⟩
  intro k
  cases hlookup : map.lookup k with
  | none =>
    rw [Option.map_none, AList.lookup_eq_none, mem_addItems_iff hmap']
    rintro (hempty | ⟨item,hitem,hread⟩)
    · exact AList.notMem_empty k hempty
    · obtain ⟨entry,hentry,rfl⟩ := hitems.mp hitem
      rw [hkey entry.1 (hmem entry hentry)] at hread
      obtain rfl := Except.ok.inj hread
      exact AList.lookup_eq_none.mp hlookup (hmem entry hentry)
  | some v =>
    have hentry : (⟨k,v⟩ : Sigma fun _ : κ => ν) ∈ map.entries := AList.mem_lookup_iff.mp hlookup
    refine lookup_addItems hmap' ?_ (.inr ⟨_,hitems.mpr ⟨_,hentry,rfl⟩,hkey k (hmem _ hentry)⟩)
    intro item hitem hread
    obtain ⟨other,hother,rfl⟩ := hitems.mp hitem
    rw [hkey other.1 (hmem other hother)] at hread
    obtain rfl := Except.ok.inj hread
    have hsame : map.lookup other.1 = some other.2 := AList.mem_lookup_iff.mpr hother
    obtain rfl := Option.some.inj (hlookup.symm.trans hsame)
    exact hvalue _

end Maps

omit [JsonLibrary φ] in
/-- Without module paths the file has no member for them. -/
theorem find?_modulePaths (s : Settings) : (settingsAsJson parse s).find? MODULE_PATHS =
    if s.modulePaths.entries = [] then none
    else some (.object (insertMembers (fun modulePath => toString modulePath.1)
      (fun modulePath => .string modulePath.2) s.modulePaths.entries [])) := by
  unfold settingsAsJson
  split
  · rename_i hnone
    rw [hnone]
    simp
  · rename_i hsome
    simp [find?_foldl_set_self hsome]
    rfl

omit [JsonLibrary φ] in
theorem fillModulePathsSettings_settingsAsJson (parse : String → Option (Json φ)) (hs : s.Filled)
    (hsome : s.modulePaths.entries ≠ []) :
    ∃ modulePaths, fillModulePathsSettings (settingsAsJson parse s) = .ok (modulePaths,"") ∧
      ∀ number, modulePaths.lookup number = s.modulePaths.lookup number := by
  have hkey (number : ℤ) (hnumber : number ∈ s.modulePaths) : moduleNumber (toString number) = .ok number :=
    moduleNumber_eq_ok_iff.mpr (stoi_toString (hs.modulePaths number hnumber))
  have hvalue (path : String) : getString (.string path : Json φ) = .ok (id path) := rfl
  obtain ⟨modulePaths,hread,hlookup⟩ := readMap_insertMembers s.modulePaths toString Json.string hkey hvalue
  refine ⟨modulePaths,?_,fun number => (hlookup number).trans Option.map_id_apply⟩
  refine fillModulePathsSettings_eq_ok_iff.mpr ⟨⟨_,(find?_modulePaths s).trans (if_neg hsome),hread⟩,.inl ⟨?_,rfl⟩⟩
  unfold settingsAsJson
  simp [find?_foldl_set_of_ne]

/-! ## Endpoints -/

/-- What is read of a protocol setting that was written. -/
def rereadText (parse : String → Option (Json φ)) (val : String) : String := settingText (settingValue parse val)

/-- An endpoint that was written and read again: only texts of protocol settings may have changed. -/
structure Reread (parse : String → Option (Json φ)) (e e' : ExternalConnectionSettings) : Prop where
  protocolType : e'.protocolType = e.protocolType
  protocolSettings : ∀ key, e'.protocolSettings.lookup key = (e.protocolSettings.lookup key).map (rereadText parse)
  serverIp : e'.serverIp = e.serverIp
  port : e'.port = e.port
  modules : e'.modules = e.modules

theorem stringToProtocolType_toString {protocolType : ProtocolType} (h : protocolType ≠ .INVALID) :
    stringToProtocolType (protocolTypeToString protocolType) = protocolType := by
  cases protocolType with
  | INVALID => exact absurd rfl h
  | _ => decide +kernel

theorem getInts_map_integer {modules : List ℤ} (h : ∀ number ∈ modules, IsInt number) :
    getInts (.array (modules.map (.integer : ℤ → Json φ))) = .ok modules := by
  unfold getInts
  induction modules with
  | nil => rfl
  | cons number modules ih =>
    obtain ⟨hlow,hhigh⟩ := h number List.mem_cons_self
    rw [List.map_cons]
    have hrest := ih fun other hother => h other (List.mem_cons_of_mem _ hother)
    refine mapM_cons_eq_ok_iff.mpr ⟨number,modules,?_,hrest,rfl⟩
    rw [getInt, Int32.toInt_ofInt_of_le hlow hhigh]

omit [JsonLibrary φ] in
/-- The protocol settings do not touch the other members. -/
theorem find?_endpointAsJson {key : String} (h : key ≠ settingsName e.protocolType) :
    (endpointAsJson parse e).find? key =
      ((((Json.null.set [SERVER_IP] (.string e.serverIp)).set [PORT] (.integer e.port.toNat)).set [Constants.MODULES]
        (.array (e.modules.map .integer))).set [PROTOCOL_TYPE] (.string (protocolTypeToString e.protocolType))).find?
          key := by
  unfold endpointAsJson
  exact find?_foldl_set_of_ne h

theorem fillProtocolSettings_endpointAsJson (parse : String → Option (Json φ)) (he : e.Filled) :
    ∃ protocolSettings, fillProtocolSettings e.protocolType (endpointAsJson parse e) = .ok protocolSettings ∧
      ∀ key, protocolSettings.lookup key = (e.protocolSettings.lookup key).map (rereadText parse) := by
  unfold fillProtocolSettings
  by_cases hname : settingsName e.protocolType = ""
  · rw [if_pos hname, he.dummy hname]
    exact ⟨∅,rfl,fun _ => rfl⟩
  · rw [if_neg hname]
    by_cases hnone : e.protocolSettings.entries = []
    · have hempty : e.protocolSettings = ∅ := AList.ext hnone
      have hmember : (endpointAsJson parse e).find? (settingsName e.protocolType) = none := by
        unfold endpointAsJson
        rw [hnone]
        cases e.protocolType <;> simp [settingsName]
      rw [hmember, hempty]
      exact ⟨∅,rfl,fun _ => rfl⟩
    · have hmember : (endpointAsJson parse e).find? (settingsName e.protocolType) =
          some (.object (insertMembers (fun setting => setting.1) (fun setting => settingValue parse setting.2)
            e.protocolSettings.entries [])) := by
        unfold endpointAsJson
        rw [find?_foldl_set_self hnone]
        cases e.protocolType <;> simp [settingsName] <;> rfl
      rw [hmember]
      exact readMap_insertMembers e.protocolSettings id (settingValue parse) (fun _ _ => rfl) fun _ => rfl

theorem fillEndpoint_endpointAsJson (parse : String → Option (Json φ)) (he : e.Filled) :
    ∃ e', fillEndpoint (endpointAsJson parse e) = .ok (some e') ∧ Reread parse e e' := by
  obtain ⟨protocolSettings,hsettings,hlookup⟩ := fillProtocolSettings_endpointAsJson parse he
  refine ⟨{ e with protocolSettings := protocolSettings },?_,⟨rfl,hlookup,rfl,rfl,rfl⟩⟩
  have hne (key : String) (hkey : key = PROTOCOL_TYPE ∨ key = SERVER_IP ∨ key = PORT ∨ key = MODULES) :
      key ≠ settingsName e.protocolType := by
    rcases hkey with rfl | rfl | rfl | rfl <;> cases e.protocolType <;> decide
  refine fillEndpoint_eq_some_iff.mpr ⟨he.protocolType,⟨_,?_,stringToProtocolType_toString he.protocolType⟩,?_,
    ⟨.integer e.port.toNat,?_,?_⟩,⟨.array (e.modules.map .integer),?_,getInts_map_integer he.modules⟩,hsettings⟩
  · rw [find?_endpointAsJson (hne _ (by simp))]
    simp
  · rw [find?_endpointAsJson (hne _ (by simp))]
    simp
  · rw [find?_endpointAsJson (hne _ (by simp))]
    simp
  · rw [getUnsignedShort, ofInt_toNat]
  · rw [find?_endpointAsJson (hne _ (by simp))]
    simp

theorem fillEndpoints_endpointAsJson (parse : String → Option (Json φ)) {list : List ExternalConnectionSettings}
    (hlist : ∀ e ∈ list, e.Filled) :
    ∃ list', fillEndpoints (list.map (endpointAsJson parse)) = .ok list' ∧ List.Forall₂ (Reread parse) list list' := by
  induction list with
  | nil => exact ⟨[],rfl,.nil⟩
  | cons e list ih =>
    obtain ⟨list',hlist',hreread'⟩ := ih fun other hother => hlist other (List.mem_cons_of_mem _ hother)
    obtain ⟨e',he',hreread⟩ := fillEndpoint_endpointAsJson parse (hlist e List.mem_cons_self)
    exact ⟨e' :: list',fillEndpoints_cons_eq_ok_iff.mpr ⟨some e',list',he',hlist',rfl⟩,.cons hreread hreread'⟩

theorem fillExternalConnectionSettings_settingsAsJson (parse : String → Option (Json φ)) (hs : s.Filled) :
    ∃ list, fillExternalConnectionSettings (settingsAsJson parse s) = .ok (s.vehicleName,s.company,list) ∧
      List.Forall₂ (Reread parse) s.externalConnectionSettingsList list := by
  obtain ⟨list,hlist,hreread⟩ :=
    fillEndpoints_endpointAsJson parse hs.externalConnectionSettingsList
  have helements (elements : List (Json φ)) : (Json.array elements).elements = elements := by
    rw [Json.elements, items, List.map_map]
    exact List.zipIdx_map_fst 0 elements
  have hendpoints := (congrArg fillEndpoints (helements _)).trans hlist
  refine ⟨list,?_,hreread⟩
  unfold settingsAsJson
  refine fillExternalConnectionSettings_eq_ok_iff.mpr
    ⟨_,find?_set_cons.trans (if_pos rfl),?_,?_,_,find?_set_cons.trans (if_pos rfl),hendpoints⟩
  · simp
  · simp

/-! ## The whole file -/

/-- What is read of the settings that were written. -/
structure RereadSettings (parse : String → Option (Json φ)) (s t : Settings) : Prop where
  port : t.port = s.port
  company : t.company = s.company
  vehicleName : t.vehicleName = s.vehicleName
  modulePaths : ∀ number, t.modulePaths.lookup number = s.modulePaths.lookup number
  moduleBinaryPath : t.moduleBinaryPath = ""
  externalConnectionSettingsList :
    List.Forall₂ (Reread parse) s.externalConnectionSettingsList t.externalConnectionSettingsList
  loggingSettings : t.loggingSettings = s.loggingSettings

theorem fillSettings_serializeToJson (cmdArguments_ : CmdArguments) (hs : s.Filled) (hsome : s.modulePaths.entries ≠ [])
    (hparse : parse (serializeToJson parse s) = some (settingsAsJson parse s)) (hport : cmdArguments_.port = []) :
    ∃ t, fillSettings parse cmdArguments_ (serializeToJson parse s) = .ok t ∧ RereadSettings parse s t := by
  obtain ⟨modulePaths,hpaths,hlookup⟩ := fillModulePathsSettings_settingsAsJson parse hs hsome
  obtain ⟨list,hconnection,hreread⟩ := fillExternalConnectionSettings_settingsAsJson parse hs
  refine ⟨⟨s.port,s.company,s.vehicleName,modulePaths,"",list,s.loggingSettings⟩,?_,
    ⟨rfl,rfl,rfl,hlookup,rfl,hreread,rfl⟩⟩
  exact fillSettings_eq_ok_iff.mpr ⟨_,hparse,fillLoggingSettings_settingsAsJson,
    fillInternalServerSettings_settingsAsJson hport,hpaths,hconnection⟩

/-- A text that is no JSON text, or that the JSON library writes just so and not for a string. -/
def ReadsBack (parse : String → Option (Json φ)) (val : String) : Prop :=
  ∀ j, parse val = some j → (∀ text, j ≠ .string text) ∧ JsonLibrary.dump none j = val

/-- There is no module binary, there are module paths, and all texts of protocol settings read back. -/
structure Settings.ReadsBack (parse : String → Option (Json φ)) (s : Settings) : Prop where
  moduleBinaryPath : s.moduleBinaryPath = ""
  modulePaths : s.modulePaths ≠ ∅
  protocolSettings : ∀ e ∈ s.externalConnectionSettingsList, ∀ key val, e.protocolSettings.lookup key = some val →
    Structures.ReadsBack parse val

theorem rereadText_eq_iff (hstring : ∀ text value, parse text = some (.string value) → value ≠ text) {val : String} :
    rereadText parse val = val ↔ ReadsBack parse val := by
  unfold rereadText settingValue
  cases hval : parse val with
  | none => exact iff_of_true rfl fun j hj => nomatch hval.symm.trans hj
  | some j =>
    rw [Option.getD_some]
    constructor
    · intro htext j' hj'
      obtain rfl := Option.some.inj (hval.symm.trans hj')
      cases j with
      | string value => exact absurd htext (hstring val value hval)
      | _ => exact ⟨nofun,htext⟩
    · intro h
      obtain ⟨hne,hdump⟩ := h j hval
      cases j with
      | string value => exact absurd rfl (hne value)
      | _ => exact hdump

theorem Reread.equal_iff (hstring : ∀ text value, parse text = some (.string value) → value ≠ text)
    (h : Reread parse e e') :
    e'.Equal e ↔ ∀ key val, e.protocolSettings.lookup key = some val → ReadsBack parse val := by
  constructor
  · intro hequal key val hval
    refine (rereadText_eq_iff hstring).mp ?_
    have hlookup := h.protocolSettings key
    rw [hequal.protocolSettings key, hval] at hlookup
    exact (Option.some.inj hlookup).symm
  · intro htexts
    refine ⟨h.protocolType,?_,h.serverIp,h.port,h.modules⟩
    intro key
    rw [h.protocolSettings key]
    cases hval : e.protocolSettings.lookup key with
    | none => rfl
    | some val => exact congrArg some ((rereadText_eq_iff hstring).mpr (htexts key val hval))

theorem forall₂_equal_iff (hstring : ∀ text value, parse text = some (.string value) → value ≠ text)
    {list list' : List ExternalConnectionSettings} (h : List.Forall₂ (Reread parse) list list') :
    List.Forall₂ ExternalConnectionSettings.Equal list' list ↔
      ∀ e ∈ list, ∀ key val, e.protocolSettings.lookup key = some val → ReadsBack parse val := by
  induction h with
  | nil => exact iff_of_true .nil fun _ he => nomatch he
  | cons hreread _ ih => rw [List.forall₂_cons, hreread.equal_iff hstring, ih, List.forall_mem_cons]

/-- Settings that were filled from a file are read back from their own text exactly when they have no module
binary, have module paths, and no text of a protocol setting is taken for another JSON value. -/
theorem fillSettings_serializeToJson_iff {cmdArguments : CmdArguments}
    (hfill : fillSettings parse cmdArguments text = .ok s)
    (hparse : parse (serializeToJson parse s) = some (settingsAsJson parse s))
    (hstring : ∀ text value, parse text = some (.string value) → value ≠ text) (hport : cmdArguments_.port = []) :
    (∃ t, fillSettings parse cmdArguments_ (serializeToJson parse s) = .ok t ∧ t.Equal s) ↔ s.ReadsBack parse := by
  have hs := filled_of_fillSettings hfill
  by_cases hsome : s.modulePaths.entries = []
  · refine iff_of_false ?_ fun h => h.modulePaths (AList.ext hsome)
    rintro ⟨t,ht,-⟩
    obtain ⟨file,hfile,-,-,hpaths,-⟩ := fillSettings_eq_ok_iff.mp ht
    obtain rfl := Option.some.inj (hparse.symm.trans hfile)
    obtain ⟨⟨modulePaths,hmember,-⟩,-⟩ := fillModulePathsSettings_eq_ok_iff.mp hpaths
    rw [find?_modulePaths, if_pos hsome] at hmember
    cases hmember
  · obtain ⟨t,ht,hreread⟩ := fillSettings_serializeToJson cmdArguments_ hs hsome hparse hport
    constructor
    · rintro ⟨t',ht',hequal⟩
      obtain rfl := Except.ok.inj (ht.symm.trans ht')
      refine ⟨hequal.moduleBinaryPath.symm.trans hreread.moduleBinaryPath,?_,?_⟩
      · rintro hempty
        rw [hempty] at hsome
        exact hsome rfl
      · exact (forall₂_equal_iff hstring hreread.externalConnectionSettingsList).mp
          hequal.externalConnectionSettingsList
    · intro h
      refine ⟨t,ht,⟨hreread.port,hreread.company,hreread.vehicleName,hreread.modulePaths,
        hreread.moduleBinaryPath.trans h.moduleBinaryPath.symm,?_,hreread.loggingSettings⟩⟩
      exact (forall₂_equal_iff hstring hreread.externalConnectionSettingsList).mpr h.protocolSettings

/-! ## Settings that come back, and settings that do not -/

omit [JsonLibrary φ] in
/-- The parser is asked for the texts of the protocol settings only. -/
theorem settingsAsJson_congr {parse' : String → Option (Json φ)}
    (h : ∀ e ∈ s.externalConnectionSettingsList, ∀ setting ∈ e.protocolSettings.entries,
      parse setting.2 = parse' setting.2) : settingsAsJson parse s = settingsAsJson parse' s := by
  have hlist : s.externalConnectionSettingsList.map (endpointAsJson parse) =
      s.externalConnectionSettingsList.map (endpointAsJson parse') := by
    refine List.map_congr_left fun e he => ?_
    refine List.foldl_ext _ _ _ fun j setting hsetting => ?_
    rw [settingValue, settingValue, h e he setting hsetting]
  unfold settingsAsJson
  rw [hlist]

theorem fillSettings_congr (parse' : String → Option (Json φ)) (h : parse text = parse' text) :
    fillSettings parse cmdArguments_ text = fillSettings parse' cmdArguments_ text := by
  unfold fillSettings
  rw [h]

/-! ## The text of a value without such numbers -/

def hexDigit (n : ℕ) : Char := (Nat.toDigits 16 n).headD '0'

def escape (c : Char) : List Char :=
  if c = '"' then ['\\','"']
  else if c = '\\' then ['\\','\\']
  else if c.toNat = 8 then ['\\','b']
  else if c.toNat = 12 then ['\\','f']
  else if c = '\n' then ['\\','n']
  else if c = '\r' then ['\\','r']
  else if c = '\t' then ['\\','t']
  else if c.toNat < 32 then ['\\','u','0','0',hexDigit (c.toNat / 16),hexDigit (c.toNat % 16)]
  else [c]

def quote (s : String) : String := "\"" ++ String.ofList (s.toList.flatMap escape) ++ "\""

/-- What stands before an element: nothing, or a line break and the indentation. -/
def lineBreak : Option (ℕ × ℕ) → String
  | none => ""
  | some (_,depth) => "\n" ++ String.ofList (List.replicate depth ' ')

def deeper (layout : Option (ℕ × ℕ)) : Option (ℕ × ℕ) := layout.map fun l => (l.1,l.2 + l.1)

def colon : Option (ℕ × ℕ) → String
  | none => ":"
  | some _ => ": "

mutual

/-- `layout` is the width of an indentation with the depth that is reached, and `none` is a text without
blanks. -/
def dumpAt (layout : Option (ℕ × ℕ)) : Json Empty → String
  | .null => "null"
  | .boolean b => if b then "true" else "false"
  | .integer n => toString n
  | .float x => nomatch x
  | .string s => quote s
  | .array [] => "[]"
  | .array (element :: elements) =>
    "[" ++ lineBreak (deeper layout) ++ dumpAt (deeper layout) element ++ dumpElements (deeper layout) elements ++
      lineBreak layout ++ "]"
  | .object [] => "\x7b\x7d"
  | .object ((key,j) :: members) =>
    "\x7b" ++ lineBreak (deeper layout) ++ quote key ++ colon layout ++ dumpAt (deeper layout) j ++
      dumpMembers (deeper layout) members ++ lineBreak layout ++ "\x7d"

def dumpElements (layout : Option (ℕ × ℕ)) : List (Json Empty) → String
  | [] => ""
  | element :: elements => "," ++ lineBreak layout ++ dumpAt layout element ++ dumpElements layout elements

def dumpMembers (layout : Option (ℕ × ℕ)) : List (String × Json Empty) → String
  | [] => ""
  | (key,j) :: members =>
    "," ++ lineBreak layout ++ quote key ++ colon layout ++ dumpAt layout j ++ dumpMembers layout members

end

/-- No numbers other than integers are needed. -/
instance : JsonLibrary Empty := ⟨nofun,nofun,fun indent j => dumpAt (indent.map fun width => (width,0)) j⟩

/-- A configuration file with one endpoint, and with the members that are given. -/
def configFile (others : List (String × Json Empty)) : Json Empty :=
  .object ([
    (EXTERNAL_CONNECTION,.object [
      (COMPANY,.string "bringauto"),
      (EXTERNAL_ENDPOINTS,.array [.object [
        (MODULES,.array [.integer 1]),
        (MQTT_SETTINGS,.object [("ca-file",.string "ca.pem"),("ssl",.boolean false)]),
        (PORT,.integer 1883),
        (PROTOCOL_TYPE,.string "mqtt"),
        (SERVER_IP,.string "localhost")]]),
      (VEHICLE_NAME,.string "virtual_vehicle")]),
    (INTERNAL_SERVER_SETTINGS,.object [(PORT,.integer 1636)]),
    (LOGGING,.object [
      (LOGGING_CONSOLE,.object [(LOG_LEVEL,.string "DEBUG"),(LOG_USE,.boolean true)]),
      (LOGGING_FILE,.object [(LOG_LEVEL,.string "DEBUG"),(LOG_PATH,.string "./"),(LOG_USE,.boolean true)])])] ++
    others ++ [(MODULE_PATHS,.object [("1",.string "/path/to/lib1.so")])])

def configText (others : List (String × Json Empty)) : String := JsonLibrary.dump (some 4) (configFile others)

/-- Of the protocol settings only `false` is a JSON text. -/
def parseSetting (text : String) : Option (Json Empty) := if text = "false" then some (.boolean false) else none

def configArguments : CmdArguments := ⟨2,0,["config.json"],[],[]⟩

def filled (others : List (String × Json Empty)) : Option Settings :=
  (fillSettings (fun _ => some (configFile others)) configArguments (configText others)).toOption

/-- The parser, as far as it is asked: for the file, for the protocol settings and for the settings that were
written. -/
def parseConfig (others : List (String × Json Empty)) (text : String) : Option (Json Empty) :=
  if text = configText others then some (configFile others)
  else if (filled others).any (fun s => text = serializeToJson parseSetting s) then
    (filled others).map (settingsAsJson parseSetting)
  else parseSetting text

/-- A module binary. -/
def moduleBinary : List (String × Json Empty) := [(MODULE_BINARY_PATH,.string "/path/to/module-binary")]

def settingTexts (s : Settings) : List String :=
  s.externalConnectionSettingsList.flatMap fun e => e.protocolSettings.entries.map fun setting => setting.2

theorem parseConfig_ne_string (others : List (String × Json Empty)) (text value : String)
    (h : parseConfig others text = some (.string value)) : value ≠ text := by
  unfold parseConfig at h
  split at h
  · cases h
  · split at h
    · obtain ⟨s,-,hs⟩ := Option.map_eq_some_iff.mp h
      cases hs
    · unfold parseSetting at h
      split at h <;> cases h

/-- What is decided of the settings of a file. -/
def comesOut (others : List (String × Json Empty)) (moduleBinaryPath : String) (s : Settings) : Bool :=
  s.moduleBinaryPath = moduleBinaryPath && s.modulePaths.entries.length = 1 && settingTexts s = ["false","ca.pem"] &&
    configText others ≠ serializeToJson parseSetting s && serializeToJson parseSetting s ∉ settingTexts s &&
    configText others ∉ settingTexts s

/-- The settings of a file, with what the theorem supposes of the parser. -/
structure ParsesConfig (others : List (String × Json Empty)) (moduleBinaryPath : String) (s : Settings) : Prop where
  fillSettings : fillSettings (parseConfig others) configArguments (configText others) = .ok s
  serializeToJson : parseConfig others (serializeToJson (parseConfig others) s) =
    some (settingsAsJson (parseConfig others) s)
  moduleBinaryPath : s.moduleBinaryPath = moduleBinaryPath
  modulePaths : s.modulePaths.entries.length = 1
  readsBack : ∀ e ∈ s.externalConnectionSettingsList, ∀ key val, e.protocolSettings.lookup key = some val →
    ReadsBack (parseConfig others) val

theorem parseConfig_of_ne {others : List (String × Json Empty)} (hs : filled others = some s)
    (htext : text ≠ configText others) (hwritten : text ≠ serializeToJson parseSetting s) :
    parseConfig others text = parseSetting text := by
  unfold parseConfig
  rw [if_neg htext, hs, if_neg]
  simpa using hwritten

theorem exists_parsesConfig {others : List (String × Json Empty)} {moduleBinaryPath : String}
    (h : (filled others).any (comesOut others moduleBinaryPath) = true) :
    ∃ s, ParsesConfig others moduleBinaryPath s := by
  obtain ⟨s,hs,hout⟩ := (Option.any_eq_true _ _).mp h
  simp only [comesOut, Bool.and_eq_true, decide_eq_true_eq] at hout
  obtain ⟨⟨⟨⟨⟨hbinary,hpaths⟩,htexts⟩,hwritten⟩,hsettings⟩,hfile⟩ := hout
  have hsetting (val : String) (hval : val ∈ settingTexts s) : parseConfig others val = parseSetting val := by
    refine parseConfig_of_ne hs ?_ ?_
    · rintro rfl
      exact hfile hval
    · rintro rfl
      exact hsettings hval
  have hjson : settingsAsJson (parseConfig others) s = settingsAsJson parseSetting s := by
    refine settingsAsJson_congr fun e he setting hmem => hsetting _ ?_
    exact List.mem_flatMap.mpr ⟨e,he,List.mem_map_of_mem hmem⟩
  refine ⟨s,?_,?_,hbinary,hpaths,?_⟩
  · have hparse : parseConfig others (configText others) = some (configFile others) := if_pos rfl
    rw [fillSettings_congr (fun _ => some (configFile others)) hparse]
    unfold filled at hs
    cases hfill : Structures.fillSettings (fun _ => some (configFile others)) configArguments (configText others) with
    | error e =>
      rw [hfill] at hs
      cases hs
    | ok settings_ =>
      rw [hfill] at hs
      exact congrArg Except.ok (Option.some.inj hs)
  · have htext : Structures.serializeToJson (parseConfig others) s = Structures.serializeToJson parseSetting s :=
      congrArg _ hjson
    rw [htext, hjson, parseConfig, if_neg hwritten.symm, hs]
    exact if_pos (decide_eq_true rfl)
  · intro e he key val hval j hj
    have hmem : val ∈ settingTexts s :=
      List.mem_flatMap.mpr ⟨e,he,List.mem_map_of_mem (AList.mem_lookup_iff.mp hval)⟩
    rw [hsetting val hmem] at hj
    unfold parseSetting at hj
    split at hj
    · rename_i hfalse
      obtain rfl := Option.some.inj hj
      exact ⟨nofun,hfalse.symm⟩
    · cases hj

/-- The settings of a file without a module binary come back. -/
theorem fillSettings_serializeToJson_iff_configFile :
    ∃ s, fillSettings (parseConfig []) configArguments (configText []) = .ok s ∧ s.ReadsBack (parseConfig []) ∧
      ∃ t, fillSettings (parseConfig []) configArguments (serializeToJson (parseConfig []) s) = .ok t ∧ t.Equal s := by
  have hout : (filled []).any (comesOut [] "") = true := by decide +kernel
  obtain ⟨s,hs⟩ := exists_parsesConfig hout
  have hreads : s.ReadsBack (parseConfig []) := by
    refine ⟨hs.moduleBinaryPath,?_,hs.readsBack⟩
    rintro hempty
    have hlength := hs.modulePaths
    rw [hempty] at hlength
    exact absurd hlength (by decide)
  exact ⟨s,hs.fillSettings,hreads,
    (fillSettings_serializeToJson_iff hs.fillSettings hs.serializeToJson (parseConfig_ne_string []) rfl).mpr hreads⟩

/-- The path of the module binary is not written. -/
theorem moduleBinary_not_restored :
    ¬∀ (parse : String → Option (Json Empty)) cmdArguments_ text s,
      fillSettings parse cmdArguments_ text = .ok s →
      parse (serializeToJson parse s) = some (settingsAsJson parse s) →
      (∀ text value, parse text = some (.string value) → value ≠ text) →
      ∃ t, fillSettings parse configArguments (serializeToJson parse s) = .ok t ∧ t.Equal s := by
  have hout : (filled moduleBinary).any (comesOut moduleBinary "/path/to/module-binary") = true := by decide +kernel
  obtain ⟨s,hs⟩ := exists_parsesConfig hout
  intro hall
  obtain ⟨t,ht,hequal⟩ := hall _ _ _ s hs.fillSettings hs.serializeToJson (parseConfig_ne_string moduleBinary)
  have hsome : s.modulePaths.entries ≠ [] := by
    intro hnone
    have hlength := hs.modulePaths
    rw [hnone] at hlength
    exact absurd hlength (by decide)
  obtain ⟨t',ht',hreread⟩ := fillSettings_serializeToJson configArguments (filled_of_fillSettings hs.fillSettings)
    hsome hs.serializeToJson rfl
  obtain rfl := Except.ok.inj (ht.symm.trans ht')
  have hlost := hequal.moduleBinaryPath
  rw [hreread.moduleBinaryPath, hs.moduleBinaryPath] at hlost
  exact absurd hlost (by decide)

end ModuleGateway.Structures
