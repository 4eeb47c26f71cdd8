import ModuleGateway.Structures.ModuleLibrary
import ModuleGateway.Modules.RegisteredDevices
import ModuleGateway.ExternalClient.Endpoints

/-! # Look-ups by module number

The functions that ask a map for the entry of a module with `at`, or call through the pointer
they find there. Here each of them fails when there is no such entry or the pointer is null;
in a gateway that was set up from correct settings none of them ever does, and each is the function
that the other modules work with.
-/
namespace ModuleGateway.ExternalClient
open Structures Execution
open ModuleGateway.Modules (HandlerThreads ModuleHandler StatusAggregator MessageThread Operation)

variable {β : Type}

/-! ## The connections -/

/-- `settings_` of a connection and its `errorAggregators_`, each with the handler it was given. -/
structure ConnectionModules (β : Type) where
  settings_ : ExternalConnectionSettings
  errorAggregators_ : AList fun _ : ℤ => Option (ModuleLibraryHandler β)

namespace ConnectionModules

/-- One round of the loop of `init`: `operator[]` of `moduleLibraryHandlers` files a null pointer under a
number that it does not find. -/
def initErrorAggregator (s : ModuleLibrary β × AList fun _ : ℤ => Option (ModuleLibraryHandler β)) (moduleNum : ℤ) :
    ModuleLibrary β × AList fun _ : ℤ => Option (ModuleLibraryHandler β) :=
  match s.1.moduleLibraryHandlers.lookup moduleNum with
  | some libraryHandler =>
    (s.1,s.2.insert moduleNum (libraryHandler.map IModuleManagerLibraryHandler.toModuleLibraryHandler))
  | none =>
    ({ s.1 with moduleLibraryHandlers := s.1.moduleLibraryHandlers.insert moduleNum none },s.2.insert moduleNum none)

/-- `ExternalConnection::init`. -/
def init (library : ModuleLibrary β) (settings_ : ExternalConnectionSettings) :
    ModuleLibrary β × ConnectionModules β :=
  let r := settings_.modules.foldl initErrorAggregator (library,∅)
  (r.1,⟨settings_,r.2⟩)

/-- The modules of the connection, as far as their handlers are there. -/
def modules (c : ConnectionModules β) : Modules β := fun number => (c.errorAggregators_.lookup number).join

variable [BufferType β] (library : ModuleLibrary β) (c : ConnectionModules β)

/-- One round of the loop of `fillErrorAggregatorWithNotAckedStatusesImpl`. -/
def fillNotAcked (errorAggregators : ℤ → ErrorAggregator β) (notAckedStatus : Status β) :
    Option (ℤ → ErrorAggregator β) :=
  let device := notAckedStatus.deviceStatus.device
  match library.handlerAt device.module_ with
  | none => none
  | some _ =>
    match c.errorAggregators_.lookup device.module_ with
    | none => some errorAggregators
    | some none => none
    | some (some module_) =>
      some (Function.update errorAggregators device.module_
        ((errorAggregators device.module_).add_status_to_error_aggregator module_
          notAckedStatus.deviceStatus.statusdata device).2)

def fillErrorAggregatorWithNotAckedStatuses (s : ExternalConnection β) : Option (ExternalConnection β) :=
  (s.sentMessagesHandler_.notAckedStatuses_.foldlM (fillNotAcked library c) s.errorAggregators_).map
    fun errorAggregators =>
      { s with
        errorAggregators_ := errorAggregators
        sentMessagesHandler_ := s.sentMessagesHandler_.clearAll }

def fillErrorAggregator (s : ExternalConnection β) (deviceStatus : DeviceStatus β) :
    Option (ExternalConnection β) :=
  let moduleNum := deviceStatus.device.module_
  match c.errorAggregators_.lookup moduleNum with
  | none => some s
  | some module_ =>
    (fillErrorAggregatorWithNotAckedStatuses library c s).bind fun s =>
      (library.handlerAt moduleNum).bind fun _ =>
        module_.map fun module_ =>
          { s with
            errorAggregators_ := Function.update s.errorAggregators_ moduleNum
              ((s.errorAggregators_ moduleNum).add_status_to_error_aggregator module_
                deviceStatus.statusdata deviceStatus.device).2 }

/-- `deinitializeConnection(false)`. -/
def deinitializeConnection (s : ExternalConnection β) : Option (ExternalConnection β) :=
  fillErrorAggregatorWithNotAckedStatuses library c
    { s with state_ := .NOT_INITIALIZED, clientMessageCounter_ := 0, serverMessageCounter_ := 0 }

def sendStatus (s : ExternalConnection β) (status : DeviceStatus β) (deviceState : StatusDeviceState)
    (errorMessage : β) (sent : Bool) : Option (ExternalConnection β) :=
  let device := status.device
  match c.errorAggregators_.lookup device.module_ with
  | none => some s
  | some module_ =>
    (library.handlerAt device.module_).bind fun _ =>
      let externalMessage := s.createStatus status deviceState errorMessage
      let errorAggregators :=
        if s.isRegistered device then some s.errorAggregators_
        else module_.map fun module_ =>
          Function.update s.errorAggregators_ device.module_
            ((s.errorAggregators_ device.module_).add_status_to_error_aggregator module_ status.statusdata device).2
      errorAggregators.bind fun errorAggregators =>
        let s := { s with
          errorAggregators_ := errorAggregators
          clientMessageCounter_ := s.clientMessageCounter_ + 1
          sentMessagesHandler_ := (s.switched device deviceState).2.addNotAckedStatus externalMessage }
        let s := s.sendMessage (.status externalMessage)
        if sent then some s else deinitializeConnection library c s

omit [BufferType β] in
/-- A module without a status aggregator is passed over. -/
def getAllConnectedDevices (handler : ModuleHandler β) : List DeviceIdentification :=
  c.settings_.modules.flatMap fun moduleNumber =>
    if moduleNumber ∈ library.statusAggregators then
      (handler.statusAggregators moduleNumber).get_unique_devices
    else []

omit [BufferType β] in
/-- One round of the loop of `forceAggregationOnAllDevices`, on the devices that were forced so far. -/
def forceAggregation (s : ExternalConnection β) (r : List DeviceIdentification × ModuleHandler β)
    (device : DeviceIdentification) : Option (List DeviceIdentification × ModuleHandler β) :=
  match c.errorAggregators_.lookup device.module_ with
  | none => none
  | some _ =>
    if s.isRegistered device then some r
    else
      (library.statusAggregators.lookup device.module_).map fun module_ =>
        (r.1 ++ [device],r.2.setAggregator device.module_
          ((r.2.statusAggregators device.module_).force_aggregation_on_device module_ device).2)

omit [BufferType β] in
def forceAggregationOnAllDevices (s : ExternalConnection β) (handler : ModuleHandler β)
    (connectedDevices : List DeviceIdentification) : Option (List DeviceIdentification × ModuleHandler β) :=
  connectedDevices.foldlM (forceAggregation library c s) ([],handler)

end ConnectionModules

/-- A connection for every endpoint, `none` when the protocol type is not valid. -/
def initConnections (settings : Settings) (library : ModuleLibrary β) :
    Option (ModuleLibrary β × List (ConnectionModules β)) :=
  settings.externalConnectionSettingsList.foldlM (fun s connectionSettings =>
    if connectionSettings.protocolType = .INVALID then none
    else
      let r := ConnectionModules.init s.1 connectionSettings
      some (r.1,s.2 ++ [r.2])) (library,[])

/-! ## The Module Handler -/

namespace LookUps
variable (library : ModuleLibrary β) (s : ModuleHandler β)

/-- `ModuleHandler::handleStatus` up to the end of `add_status_to_aggregator`. -/
def handleStatus (status : DeviceStatus β) : Option (ModuleHandler β) :=
  let device := status.device
  if device.module_ ∉ library.statusAggregators then some (s.goto .popping)
  else
    (library.statusAggregators.lookup device.module_).bind fun statusAggregator =>
      (library.handlerAt device.module_).map fun moduleHandler =>
        if moduleHandler.statusDataValid status.statusdata device.deviceType = .NOT_OK then s.goto .popping
        else
          match (s.statusAggregators device.module_).add_status_to_aggregator statusAggregator
            status.statusdata device with
          | (.error .BufferNotAllocated,aggregator) => (s.setAggregator device.module_ aggregator).goto .terminated
          | (.error _,aggregator) => (s.setAggregator device.module_ aggregator).goto .popping
          | (.ok rc,aggregator) =>
            (s.setAggregator device.module_ aggregator).goto (.commanding status.statusdata device rc)

/-- `ModuleHandler::sendAggregatedStatus`. -/
def sendAggregatedStatus [BufferType β] (deviceId : DeviceIdentification) (disconnected : Bool) :
    Option (ModuleHandler β) :=
  (library.statusAggregators.lookup deviceId.module_).map fun module_ =>
    ModuleHandler.sendAggregatedStatus module_ s deviceId disconnected

/-- The message thread is about to call `sendAggregatedStatus` for the device. -/
def AboutToSend (device : DeviceIdentification) : Prop :=
  (∃ rc, s.thread = .sending device (rc + 1)) ∨ s.thread = .disconnecting device

end LookUps

/-! ## Runs -/

/-- The Module Handler and the External Client, each with whatever comes in from the other. -/
structure Pipeline (β : Type) where
  threads : HandlerThreads β
  client : Client β

inductive PipelineAction (β : Type) where
  | handler (a : HandlerThreads.ThreadAction β)
  | client (a : Client.ClientAction β)

namespace Pipeline
variable [BufferType β] (library : ModuleLibrary β) (connections : List (ConnectionModules β))

omit [BufferType β] in
def init : Pipeline β := ⟨.init,.init⟩

omit [BufferType β] in
def connectionAt (connection : ℕ) : ConnectionModules β :=
  connections.getD connection ⟨⟨.INVALID,∅,"",0,[]⟩,∅⟩

omit [BufferType β] in
def settings : ConnectionSettings β := connections.map ConnectionModules.modules

/-- The client thread forces the devices of a connection where its loop is at that point. -/
def clientStep (s : Pipeline β) : Client.ClientAction β → Option (Pipeline β)
  | .client _ sent =>
    match s.client.loop with
    | .forcing connection _ =>
      let c := connectionAt connections connection
      let connectedDevices := c.getAllConnectedDevices library s.threads.handler
      (c.forceAggregationOnAllDevices library (s.client.externalConnectionsList_ connection).connection
          s.threads.handler connectedDevices).bind fun r =>
        (s.client.handleAggregatedMessages (settings connections) connectedDevices sent).map fun client =>
          ⟨s.threads.withHandler r.2,client⟩
    | _ =>
      (s.client.handleAggregatedMessages (settings connections) [] sent).map fun client => ⟨s.threads,client⟩
  | a => (s.client.clientStep (settings connections) a).map fun client => ⟨s.threads,client⟩

def pipelineStep (s : Pipeline β) : PipelineAction β → Option (Pipeline β)
  | .handler a => (s.threads.threadStep (library.statusAggregators,a)).map fun threads => ⟨threads,s.client⟩
  | .client a => s.clientStep library connections a

/-- None of the look-ups fails, whatever message or device comes to them. -/
structure LookUpsSucceed (s : Pipeline β) : Prop where
  sendStatus : ∀ connection status deviceState errorMessage sent,
    let c := connectionAt connections connection
    let e := (s.client.externalConnectionsList_ connection).connection
    c.sendStatus library e status deviceState errorMessage sent =
      some (e.sendStatus c.modules status deviceState errorMessage sent)
  fillErrorAggregator : ∀ connection deviceStatus,
    let c := connectionAt connections connection
    let e := (s.client.externalConnectionsList_ connection).connection
    c.fillErrorAggregator library e deviceStatus = some (e.fillErrorAggregator c.modules deviceStatus)
  fillErrorAggregatorWithNotAckedStatuses : ∀ connection,
    let c := connectionAt connections connection
    let e := (s.client.externalConnectionsList_ connection).connection
    c.fillErrorAggregatorWithNotAckedStatuses library e =
      some (e.fillErrorAggregatorWithNotAckedStatuses c.modules)
  forceAggregationOnAllDevices : ∀ connection,
    let c := connectionAt connections connection
    let e := s.client.externalConnectionsList_ connection
    let connectedDevices := c.getAllConnectedDevices library s.threads.handler
    (∀ device ∈ connectedDevices, device.module_ ∈ c.errorAggregators_) ∧ ∃ handler,
      c.forceAggregationOnAllDevices library e.connection s.threads.handler connectedDevices =
        some (e.forceAggregationOnAllDevices connectedDevices,handler)
  handleStatus : ∀ status, LookUps.handleStatus library s.threads.handler status =
    some (s.threads.handler.handleStatus library.statusAggregators status)
  sendAggregatedStatus : ∀ device disconnected, LookUps.AboutToSend s.threads.handler device →
    ∃ handler, LookUps.sendAggregatedStatus library s.threads.handler device disconnected = some handler

end Pipeline

/-! ## A connection whose maps agree -/

namespace ConnectionModules

/-- The error aggregators are those of the listed modules, with the handlers of the library. -/
structure Ready (library : ModuleLibrary β) (c : ConnectionModules β) : Prop where
  handlers : ∀ number libraryHandler, c.errorAggregators_.lookup number = some libraryHandler →
    ∃ module_, libraryHandler = some module_ ∧ library.handlerAt number = some module_ ∧
      number ∈ library.statusAggregators
  listed : ∀ number ∈ c.settings_.modules, number ∈ c.errorAggregators_

variable {library : ModuleLibrary β} {c : ConnectionModules β}

theorem Ready.lookup (hc : c.Ready library) {number : ℤ} {module_ : ModuleLibraryHandler β}
    (h : c.modules number = some module_) : c.errorAggregators_.lookup number = some (some module_) ∧
      library.handlerAt number = some module_ := by
  have hlookup : c.errorAggregators_.lookup number = some (some module_) := Option.join_eq_some_iff.mp h
  obtain ⟨_,hsome,hhandler,-⟩ := hc.handlers number _ hlookup
  obtain rfl := Option.some.inj hsome
  exact ⟨hlookup,hhandler⟩

theorem Ready.lookup_none (hc : c.Ready library) {number : ℤ} (h : c.modules number = none) :
    c.errorAggregators_.lookup number = none := by
  cases hlookup : c.errorAggregators_.lookup number with
  | none => rfl
  | some libraryHandler =>
    obtain ⟨module_,rfl,-⟩ := hc.handlers number libraryHandler hlookup
    rw [modules, hlookup] at h
    cases h

variable [BufferType β] {s : ExternalConnection β}

theorem Ready.fillNotAcked (hc : c.Ready library) (errorAggregators : ℤ → ErrorAggregator β)
    {notAckedStatus : Status β} (h : (c.modules notAckedStatus.deviceStatus.device.module_).isSome) :
    c.fillNotAcked library errorAggregators notAckedStatus =
      some (ExternalConnection.addStatusToErrorAggregator c.modules errorAggregators notAckedStatus.deviceStatus) := by
  obtain ⟨module_,hmodule⟩ := Option.isSome_iff_exists.mp h
  obtain ⟨hlookup,hhandler⟩ := hc.lookup hmodule
  simp only [ConnectionModules.fillNotAcked, ExternalConnection.addStatusToErrorAggregator, hhandler, hlookup, hmodule]

theorem Ready.fillErrorAggregatorWithNotAckedStatuses (hc : c.Ready library) (hs : s.NotAckedSupported c.modules) :
    c.fillErrorAggregatorWithNotAckedStatuses library s =
      some (s.fillErrorAggregatorWithNotAckedStatuses c.modules) := by
  rw [ConnectionModules.fillErrorAggregatorWithNotAckedStatuses,
    foldlM_eq_some_foldl fun status hmem errorAggregators => hc.fillNotAcked errorAggregators (hs status hmem)]
  rfl

theorem Ready.fillErrorAggregator (hc : c.Ready library) (hs : s.NotAckedSupported c.modules)
    (deviceStatus : DeviceStatus β) :
    c.fillErrorAggregator library s deviceStatus = some (s.fillErrorAggregator c.modules deviceStatus) := by
  unfold ConnectionModules.fillErrorAggregator ExternalConnection.fillErrorAggregator
  cases hmodule : c.modules deviceStatus.device.module_ with
  | none => simp only [hc.lookup_none hmodule]
  | some module_ =>
    obtain ⟨hlookup,hhandler⟩ := hc.lookup hmodule
    simp only [hlookup, hhandler, hc.fillErrorAggregatorWithNotAckedStatuses hs, Option.bind_some, Option.map_some,
      ExternalConnection.addStatusToErrorAggregator, hmodule]

theorem Ready.sendStatus (hc : c.Ready library) (hs : s.NotAckedSupported c.modules) (status : DeviceStatus β)
    (deviceState : StatusDeviceState) (errorMessage : β) (sent : Bool) :
    c.sendStatus library s status deviceState errorMessage sent =
      some (s.sendStatus c.modules status deviceState errorMessage sent) := by
  unfold ConnectionModules.sendStatus ExternalConnection.sendStatus
  cases hmodule : c.modules status.device.module_ with
  | none => simp only [hc.lookup_none hmodule, Option.isNone_none, if_true]
  | some module_ =>
    obtain ⟨hlookup,hhandler⟩ := hc.lookup hmodule
    have hregister : (if s.isRegistered status.device then some s.errorAggregators_
        else (some module_).map fun module_ => Function.update s.errorAggregators_ status.device.module_
          ((s.errorAggregators_ status.device.module_).add_status_to_error_aggregator module_
            status.statusdata status.device).2) =
        some (if s.isRegistered status.device then s.errorAggregators_
          else ExternalConnection.addStatusToErrorAggregator c.modules s.errorAggregators_ status) := by
      unfold ExternalConnection.addStatusToErrorAggregator
      rw [hmodule]
      split <;> rfl
    simp only [hlookup, hhandler, Option.bind_some, hregister, Option.isNone_some, Bool.false_eq_true, if_false]
    cases sent with
    | true => rfl
    | false =>
      refine hc.fillErrorAggregatorWithNotAckedStatuses ?_
      intro notAcked hmem
      have hmem : notAcked ∈ (s.switched status.device deviceState).2.notAckedStatuses_ ++
          [s.createStatus status deviceState errorMessage] := hmem
      rw [(s.switched_frame status.device deviceState).1] at hmem
      rcases List.mem_append.mp hmem with hmem | hmem
      · exact hs notAcked hmem
      · obtain rfl := List.mem_singleton.mp hmem
        exact Option.isSome_of_eq_some hmodule

/-! ## Setting up the connections -/

omit [BufferType β] in
theorem foldl_initErrorAggregator {numbers : List ℤ}
    (h : ∀ number ∈ numbers, ∃ handler, library.moduleLibraryHandlers.lookup number = some (some handler))
    (errorAggregators : AList fun _ : ℤ => Option (ModuleLibraryHandler β)) :
    (numbers.foldl initErrorAggregator (library,errorAggregators)).1 = library ∧ ∀ number,
      (numbers.foldl initErrorAggregator (library,errorAggregators)).2.lookup number =
        if number ∈ numbers then some (library.handlerAt number) else errorAggregators.lookup number := by
  induction numbers generalizing errorAggregators with
  | nil => exact ⟨rfl,fun number => (if_neg List.not_mem_nil).symm⟩
  | cons moduleNum numbers ih =>
    obtain ⟨handler,hhandler⟩ := h moduleNum List.mem_cons_self
    have hround : initErrorAggregator (library,errorAggregators) moduleNum =
        (library,errorAggregators.insert moduleNum (library.handlerAt moduleNum)) := by
      rw [ModuleLibrary.handlerAt_of_lookup hhandler]
      simp only [initErrorAggregator, hhandler, Option.map_some]
    obtain ⟨hsame,hlookup⟩ := ih (fun number hmem => h number (List.mem_cons_of_mem moduleNum hmem))
      (errorAggregators.insert moduleNum (library.handlerAt moduleNum))
    rw [List.foldl_cons, hround]
    refine ⟨hsame,?_⟩
    intro number
    rw [hlookup]
    by_cases hnumber : number = moduleNum
    · subst hnumber
      rw [AList.lookup_insert, if_pos List.mem_cons_self, ite_self]
    · rw [AList.lookup_insert_ne hnumber]
      simp only [List.mem_cons, hnumber, false_or]

omit [BufferType β] in
/-- `init` finds a handler for every module of an endpoint and files nothing. -/
theorem init_ready {settings : Settings} (hlibrary : library.Complete settings)
    {connectionSettings : ExternalConnectionSettings}
    (hmem : connectionSettings ∈ settings.externalConnectionSettingsList) :
    (init library connectionSettings).1 = library ∧ (init library connectionSettings).2.Ready library := by
  have hendpoint : ∀ number ∈ connectionSettings.modules, ModuleLibrary.hasEndpoint settings number = true :=
    fun number hnumber => ModuleLibrary.hasEndpoint_iff.mpr ⟨connectionSettings,hmem,hnumber⟩
  have hhandlers : ∀ number ∈ connectionSettings.modules, ∃ handler,
      library.moduleLibraryHandlers.lookup number = some (some handler) := by
    intro number hnumber
    obtain ⟨handler,hhandler,-⟩ := hlibrary.handlers number (hendpoint number hnumber)
    exact ⟨handler,hhandler⟩
  obtain ⟨hsame,hlookup⟩ := foldl_initErrorAggregator hhandlers ∅
  refine ⟨hsame,?_,?_⟩
  · intro number libraryHandler hsome
    have hsome := (hlookup number).symm.trans hsome
    split at hsome
    · rename_i hnumber
      obtain ⟨handler,hhandler⟩ := hhandlers number hnumber
      have hat := ModuleLibrary.handlerAt_of_lookup hhandler
      refine ⟨handler.toModuleLibraryHandler,?_,hat,hlibrary.aggregators number (hendpoint number hnumber)⟩
      rw [← hat]
      exact (Option.some.inj hsome).symm
    · cases hsome
  · intro number hnumber
    have hfound := (hlookup number).trans (if_pos hnumber)
    exact AList.lookup_isSome.mp (Option.isSome_of_eq_some hfound)

/-! ## Forcing the devices -/

omit [BufferType β] in
/-- The devices in place are of modules of the connection. -/
theorem Ready.mem_of_mem_getAllConnectedDevices (hc : c.Ready library) {handler : ModuleHandler β}
    {supported : ℤ → UInt32 → Bool} (hhandler : handler.InPlace supported) {device : DeviceIdentification}
    (h : device ∈ c.getAllConnectedDevices library handler) : device.module_ ∈ c.errorAggregators_ := by
  obtain ⟨number,hnumber,hdevice⟩ := List.mem_flatMap.mp h
  split at hdevice
  · obtain ⟨entry,hentry,rfl⟩ := List.mem_map.mp hdevice
    obtain ⟨hmodule,hdeviceId,-⟩ := hhandler number entry.1 entry.2 (AList.mem_lookup_iff.mpr hentry)
    have hnumber' : entry.2.deviceId.module_ = number := by
      rw [← hmodule, ← hdeviceId]
      rfl
    rw [hnumber']
    exact hc.listed number hnumber
  · cases hdevice

/-- Nothing that forcing changes moves the message thread or puts a device out of place. -/
def SameDevices (supported : ℤ → UInt32 → Bool) (s t : ModuleHandler β) : Prop :=
  t.thread = s.thread ∧ (s.InPlace supported → t.InPlace supported)

theorem sameDevices_force (handler : ModuleHandler β) {module_ : ModuleLibraryHandler β}
    {device : DeviceIdentification} (supported : ℤ → UInt32 → Bool)
    (hsupported : ∀ device_type, module_.isDeviceTypeSupported device_type ≠ .NOT_OK →
      supported device.module_ device_type = true) :
    SameDevices supported handler (handler.setAggregator device.module_
      ((handler.statusAggregators device.module_).force_aggregation_on_device module_ device).2) := by
  refine ⟨rfl,fun hs => hs.update rfl ?_⟩
  have hadd : ∀ (status : β) other, Operation.force_aggregation_on_device device =
      .add_status_to_aggregator status other → other.module_ = device.module_ := nofun
  exact hs.operate hsupported hadd

theorem Ready.forceAggregationOnAllDevices (hc : c.Ready library) {supported : ℤ → UInt32 → Bool}
    (hsupported : ∀ number module_, library.statusAggregators.lookup number = some module_ → ∀ device_type,
      module_.isDeviceTypeSupported device_type ≠ .NOT_OK → supported number device_type = true)
    {connectedDevices : List DeviceIdentification}
    (hdevices : ∀ device ∈ connectedDevices, device.module_ ∈ c.errorAggregators_)
    (r : List DeviceIdentification × ModuleHandler β) :
    ∃ handler, connectedDevices.foldlM (c.forceAggregation library s) r =
        some (r.1 ++ connectedDevices.filter (fun device => !s.isRegistered device),handler) ∧
      SameDevices supported r.2 handler := by
  induction connectedDevices generalizing r with
  | nil => exact ⟨r.2,by simp,rfl,id⟩
  | cons device connectedDevices ih =>
    have hrest := fun device' hmem => hdevices device' (List.mem_cons_of_mem device hmem)
    obtain ⟨libraryHandler,hlookup⟩ :=
      Option.isSome_iff_exists.mp (AList.lookup_isSome.mpr (hdevices device List.mem_cons_self))
    obtain ⟨-,-,-,hmem⟩ := hc.handlers _ _ hlookup
    obtain ⟨module_,hmodule⟩ := Option.isSome_iff_exists.mp (AList.lookup_isSome.mpr hmem)
    rw [List.foldlM_cons]
    by_cases hregistered : s.isRegistered device = true
    · have hround : c.forceAggregation library s r device = some r := by
        simp only [forceAggregation, hlookup, hregistered, if_true]
      rw [hround, List.filter_cons_of_neg (by simp [hregistered])]
      exact ih hrest r
    · have hround : c.forceAggregation library s r device = some (r.1 ++ [device],
          r.2.setAggregator device.module_
            ((r.2.statusAggregators device.module_).force_aggregation_on_device module_ device).2) := by
        simp only [forceAggregation, hlookup, hregistered, Bool.false_eq_true, if_false, hmodule, Option.map_some]
      obtain ⟨handler,hfold,hthread,hplace⟩ := ih hrest (r.1 ++ [device],
        r.2.setAggregator device.module_
          ((r.2.statusAggregators device.module_).force_aggregation_on_device module_ device).2)
      obtain ⟨hthread',hplace'⟩ := sameDevices_force r.2 supported (hsupported _ module_ hmodule)
      refine ⟨handler,?_,hthread.trans hthread',hplace ∘ hplace'⟩
      rw [hround, List.filter_cons_of_pos (by simp [hregistered])]
      refine hfold.trans ?_
      rw [List.append_assoc, List.singleton_append]

end ConnectionModules

/-- Every endpoint gets a connection whose maps agree, and the library stays as it is. -/
theorem initConnections_ready {settings : Settings} {library started : ModuleLibrary β}
    {connections : List (ConnectionModules β)} (hlibrary : library.Complete settings)
    (h : initConnections settings library = some (started,connections)) :
    started = library ∧ ∀ c ∈ connections, c.Ready library := by
  have hloop : ∀ (endpoints : List ExternalConnectionSettings) (before : List (ConnectionModules β)),
      (∀ connectionSettings ∈ endpoints, connectionSettings ∈ settings.externalConnectionSettingsList) →
      (∀ c ∈ before, c.Ready library) →
      endpoints.foldlM (fun s connectionSettings =>
        if connectionSettings.protocolType = .INVALID then none
        else
          let r := ConnectionModules.init s.1 connectionSettings
          some (r.1,s.2 ++ [r.2])) (library,before) = some (started,connections) →
      started = library ∧ ∀ c ∈ connections, c.Ready library := by
    intro endpoints
    induction endpoints with
    | nil =>
      rintro before - hbefore ⟨⟩
      exact ⟨rfl,hbefore⟩
    | cons connectionSettings endpoints ih =>
      intro before hmem hbefore hrun
      obtain ⟨hsame,hready⟩ := ConnectionModules.init_ready hlibrary (hmem _ List.mem_cons_self)
      rw [List.foldlM_cons] at hrun
      obtain ⟨next,hnext,hrest⟩ := Option.bind_eq_some_iff.mp hrun
      split at hnext
      · cases hnext
      · obtain rfl := Option.some.inj hnext
        rw [hsame] at hrest
        refine ih _ (fun _ h => hmem _ (List.mem_cons_of_mem _ h)) ?_ hrest
        intro c hc
        rcases List.mem_append.mp hc with hc | hc
        · exact hbefore c hc
        · obtain rfl := List.mem_singleton.mp hc
          exact hready
  exact hloop _ [] (fun _ h => h) (fun _ h => nomatch h) h

/-! ## The run -/

namespace LookUps
variable {library : ModuleLibrary β} {s : ModuleHandler β}

/-- The handler that is looked up is that of the status aggregator. -/
theorem handleStatus_eq (haligned : library.Aligned) (status : DeviceStatus β) :
    handleStatus library s status = some (s.handleStatus library.statusAggregators status) := by
  unfold handleStatus ModuleHandler.handleStatus
  cases hlookup : library.statusAggregators.lookup status.device.module_ with
  | none => simp only [AList.lookup_eq_none.mp hlookup, not_false_eq_true, if_true, hlookup]
  | some module_ =>
    have hmem := AList.lookup_isSome.mp (Option.isSome_of_eq_some hlookup)
    dsimp only
    rw [if_neg (not_not_intro hmem), hlookup, haligned _ _ hlookup]
    rfl

theorem sendAggregatedStatus_eq_some [BufferType β] (hs : s.ThreadLoaded library.statusAggregators)
    {device : DeviceIdentification} (h : AboutToSend s device) (disconnected : Bool) :
    ∃ handler, sendAggregatedStatus library s device disconnected = some handler := by
  have hdevice : s.thread.device = some device := by
    obtain ⟨rc,hthread⟩ | hthread := h <;> rw [hthread] <;> rfl
  obtain ⟨module_,hmodule⟩ := Option.isSome_iff_exists.mp (hs device hdevice)
  exact ⟨_,congrArg (Option.map _) hmodule⟩

end LookUps

namespace Pipeline
variable [BufferType β] {library : ModuleLibrary β} {connections : List (ConnectionModules β)} {s t : Pipeline β}

/-- A module that is loaded, whatever the type. -/
def loaded (library : ModuleLibrary β) (number : ℤ) (_ : UInt32) : Bool :=
  (library.statusAggregators.lookup number).isSome

omit [BufferType β] in
theorem loaded_of_lookup (number : ℤ) (module_ : ModuleLibraryHandler β)
    (h : library.statusAggregators.lookup number = some module_) (device_type : UInt32)
    (_ : module_.isDeviceTypeSupported device_type ≠ .NOT_OK) : loaded library number device_type = true :=
  Option.isSome_of_eq_some h

/-- What the look-ups rely on. -/
structure Linked (library : ModuleLibrary β) (connections : List (ConnectionModules β)) (s : Pipeline β) : Prop where
  inPlace : s.threads.handler.InPlace (loaded library)
  hand : s.threads.HandInPlace
  thread : s.threads.handler.ThreadLoaded library.statusAggregators
  notAcked : ∀ connection, (s.client.externalConnectionsList_ connection).connection.NotAckedSupported
    ((settings connections).modules connection)

omit [BufferType β] in
theorem Linked.init : (init : Pipeline β).Linked library connections where
  inPlace := .init
  hand := .init
  thread := .of_none rfl
  notAcked _ := .of_nil rfl

omit [BufferType β] in
theorem settings_modules (connection : ℕ) :
    (settings connections).modules connection = (connectionAt connections connection).modules := by
  unfold settings ConnectionSettings.modules connectionAt
  rw [List.getD_eq_getElem?_getD, List.getElem?_map, List.getD_eq_getElem?_getD]
  cases connections[connection]? with
  | none => rfl
  | some c => rfl

omit [BufferType β] in
theorem connectionAt_ready (hready : ∀ c ∈ connections, c.Ready library) (connection : ℕ) :
    (connectionAt connections connection).Ready library := by
  unfold connectionAt
  rw [List.getD_eq_getElem?_getD]
  cases h : connections[connection]? with
  | none => exact ⟨fun _ _ hlookup => (nomatch hlookup),fun _ hmem => (nomatch hmem)⟩
  | some c => exact hready c (List.mem_of_getElem? h)

theorem Linked.lookUpsSucceed (hs : s.Linked library connections) (haligned : library.Aligned)
    (hready : ∀ c ∈ connections, c.Ready library) : s.LookUpsSucceed library connections := by
  have hnotAcked := hs.notAcked
  simp only [settings_modules] at hnotAcked
  have hc := connectionAt_ready hready
  refine ⟨?_,?_,?_,?_,?_,?_⟩
  · intro connection status deviceState errorMessage sent
    exact (hc connection).sendStatus (hnotAcked connection) status deviceState errorMessage sent
  · intro connection deviceStatus
    exact (hc connection).fillErrorAggregator (hnotAcked connection) deviceStatus
  · intro connection
    exact (hc connection).fillErrorAggregatorWithNotAckedStatuses (hnotAcked connection)
  · intro connection
    have hdevices : ∀ device ∈ (connectionAt connections connection).getAllConnectedDevices library s.threads.handler,
        device.module_ ∈ (connectionAt connections connection).errorAggregators_ :=
      fun device hmem => (hc connection).mem_of_mem_getAllConnectedDevices hs.inPlace hmem
    obtain ⟨handler,hfold,-⟩ := (hc connection).forceAggregationOnAllDevices
      (s := (s.client.externalConnectionsList_ connection).connection) loaded_of_lookup hdevices ([],s.threads.handler)
    exact ⟨hdevices,handler,hfold⟩
  · intro status
    exact LookUps.handleStatus_eq haligned status
  · intro device disconnected h
    exact LookUps.sendAggregatedStatus_eq_some hs.thread h disconnected

theorem Linked.pipelineStep {a : PipelineAction β} (hs : s.Linked library connections)
    (hready : ∀ c ∈ connections, c.Ready library) (ht : s.pipelineStep library connections a = some t) :
    t.Linked library connections := by
  have hclient : ∀ {a client}, s.client.clientStep (settings connections) a = some client → ∀ connection,
      (client.externalConnectionsList_ connection).connection.NotAckedSupported
        ((settings connections).modules connection) :=
    fun h => (notAckedSupported_invariant (settings connections)).forall_clientStep hs.notAcked h
  cases a with
  | handler a =>
    obtain ⟨threads,hthreads,rfl⟩ := Option.map_eq_some_iff.mp ht
    refine ⟨?_,hs.hand.step hthreads,HandlerThreads.threadStep_threadLoaded hs.thread hs.hand hthreads,hs.notAcked⟩
    exact (HandlerThreads.threadStep_change hthreads).inPlace loaded_of_lookup hs.inPlace
  | client a =>
    simp only [Pipeline.pipelineStep, Pipeline.clientStep] at ht
    split at ht
    · rename_i sent
      split at ht
      · rename_i connection _ _
        obtain ⟨r,hforced,hr⟩ := Option.bind_eq_some_iff.mp ht
        obtain ⟨client,hstep,rfl⟩ := Option.map_eq_some_iff.mp hr
        have hc := connectionAt_ready hready connection
        have hdevices : ∀ device ∈ (connectionAt connections connection).getAllConnectedDevices library
            s.threads.handler, device.module_ ∈ (connectionAt connections connection).errorAggregators_ :=
          fun device hmem => hc.mem_of_mem_getAllConnectedDevices hs.inPlace hmem
        obtain ⟨handler,hfold,hthread,hplace⟩ := hc.forceAggregationOnAllDevices
          (s := (s.client.externalConnectionsList_ connection).connection) loaded_of_lookup hdevices
          ([],s.threads.handler)
        obtain rfl := Option.some.inj (hfold.symm.trans hforced)
        refine ⟨hplace hs.inPlace,?_,?_,hclient (a := .client _ sent) hstep⟩
        · intro hand hhand
          obtain ⟨status,rc,hat⟩ := hs.hand hand hhand
          exact ⟨status,rc,hthread.trans hat⟩
        · exact hs.thread.of_eq (congrArg MessageThread.device hthread)
      · obtain ⟨client,hstep,rfl⟩ := Option.map_eq_some_iff.mp ht
        exact ⟨hs.inPlace,hs.hand,hs.thread,hclient (a := .client [] sent) hstep⟩
    · obtain ⟨client,hstep,rfl⟩ := Option.map_eq_some_iff.mp ht
      exact ⟨hs.inPlace,hs.hand,hs.thread,hclient hstep⟩

/-- With settings that pass the validation and a library that loads, every module of an endpoint has a
handler and a status aggregator, no connection gets a null handler, and no look-up ever fails. -/
theorem exec_lookUpsSucceed {exists_ : String → Bool} {settings : Settings} {loader : LibraryLoader β}
    {loaded library : ModuleLibrary β} (hcorrect : areSettingsCorrect exists_ settings = true)
    (hloaded : ModuleLibrary.init.loadLibraries loader settings.modulePaths settings.moduleBinaryPath = some loaded)
    (hlibrary : loaded.initStatusAggregators settings = some library) :
    (∀ connectionSettings ∈ settings.externalConnectionSettingsList,
        (∀ number ∈ connectionSettings.modules,
          (∃ handler, library.moduleLibraryHandlers.lookup number = some (some handler)) ∧
            number ∈ library.statusAggregators) ∧
        ∀ number, (ConnectionModules.init library connectionSettings).2.errorAggregators_.lookup number ≠ some none) ∧
      ∀ started connections, initConnections settings library = some (started,connections) →
        ∀ as s, exec (pipelineStep started connections) init as = some s → s.LookUpsSucceed started connections := by
  have hcomplete := ModuleLibrary.complete_of_areSettingsCorrect hcorrect hloaded hlibrary
  constructor
  · intro connectionSettings hmem
    constructor
    · intro number hnumber
      have hendpoint := ModuleLibrary.hasEndpoint_iff.mpr ⟨connectionSettings,hmem,hnumber⟩
      obtain ⟨handler,hhandler,-⟩ := hcomplete.handlers number hendpoint
      exact ⟨⟨handler,hhandler⟩,hcomplete.aggregators number hendpoint⟩
    · intro number hnull
      obtain ⟨-,hready⟩ := ConnectionModules.init_ready hcomplete hmem
      obtain ⟨module_,hsome,-⟩ := hready.handlers number none hnull
      cases hsome
  · intro started connections hconnections as s he
    obtain ⟨rfl,hready⟩ := initConnections_ready hcomplete hconnections
    have hlinked := exec_invariant (I := fun s => s.Linked started connections) Linked.init
      (fun s a t hs ht => hs.pipelineStep hready ht) he
    exact hlinked.lookUpsSucceed hcomplete.aligned hready

/-! ## A gateway for one camera -/

def cameraEndpoint : ExternalConnectionSettings := ⟨.DUMMY,∅,"127.0.0.1",1883,[1]⟩

def cameraSettings : Settings where
  port := 1636
  company := "company"
  vehicleName := "car_1"
  modulePaths := AList.singleton 1 "lib/libcamera.so"
  moduleBinaryPath := ""
  externalConnectionSettingsList := [cameraEndpoint]
  loggingSettings := ⟨⟨true,.Debug⟩,⟨false,.Debug,""⟩⟩

def cameraHandler : IModuleManagerLibraryHandler (List UInt8) := { StatusAggregator.relay with getModuleNumber := 1 }

def cameraLoader : LibraryLoader (List UInt8) where
  loadLocal path := if path = "lib/libcamera.so" then some cameraHandler else none
  loadAsync _ _ _ := none

def cameraLibrary : ModuleLibrary (List UInt8) where
  moduleLibraryHandlers := AList.singleton 1 (some cameraHandler)
  statusAggregators := AList.singleton 1 StatusAggregator.relay

def cameraConnection : ConnectionModules (List UInt8) :=
  ⟨cameraEndpoint,AList.singleton 1 (some StatusAggregator.relay)⟩

/-- The camera sends a status, which makes the client start a connect sequence. -/
def cameraAppears : List (PipelineAction (List UInt8)) :=
  [.handler (.receive (.message false (.deviceStatus ⟨StatusAggregator.camera,[1]⟩)))] ++
    List.replicate 8 (.handler .messages) ++ [.client (.client [] true)] ++
    [.client (.push (.message false (.deviceStatus ⟨StatusAggregator.camera,[1]⟩)))] ++
    List.replicate 3 (.client (.client [] true))

theorem exec_lookUpsSucceed_camera :
    ∃ s, exec (pipelineStep cameraLibrary [cameraConnection]) init cameraAppears = some s ∧
      s.client.loop = .awaiting 0 [StatusAggregator.camera] [] false ∧
      s.LookUpsSucceed cameraLibrary [cameraConnection] := by
  have hcorrect : areSettingsCorrect (fun _ => true) cameraSettings = true := by decide
  have hloaded : ModuleLibrary.init.loadLibraries cameraLoader cameraSettings.modulePaths
      cameraSettings.moduleBinaryPath = some ⟨AList.singleton 1 (some cameraHandler),∅⟩ := rfl
  obtain ⟨-,hall⟩ := exec_lookUpsSucceed hcorrect hloaded (rfl : _ = some cameraLibrary)
  exact ⟨_,rfl,rfl,hall cameraLibrary [cameraConnection] rfl cameraAppears _ rfl⟩

end Pipeline

end ModuleGateway.ExternalClient
