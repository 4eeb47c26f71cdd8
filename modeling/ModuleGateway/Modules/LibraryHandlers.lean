import ModuleGateway.Structures.Messages

/-! # The two handlers of a module library

A library is called in the process of the gateway, or in a process of its own through
Aeron. The functions of the library and the buffers they take are the same; what a handler
makes of the buffer that a function fills is not.
-/
namespace ModuleGateway.Modules
open Structures

/-- `struct buffer`: a null pointer, with whatever size, or the bytes that are pointed to. The
`Buffer` of the gateway holds one of these. -/
inductive RawBuffer where
  | null (size_in_bytes : ℕ)
  | bytes (data : List UInt8)
deriving DecidableEq

namespace RawBuffer

def data : RawBuffer → List UInt8
  | .null _ => []
  | .bytes data => data

def isNull : RawBuffer → Bool
  | .null _ => true
  | .bytes _ => false

end RawBuffer

/-- An allocated buffer has bytes. -/
instance : BufferType RawBuffer where
  unallocated := .null 0
  isAllocated b := !b.data.isEmpty
  isAllocated_unallocated := rfl

/-- What a library exports. A function that fills a buffer returns its code with the buffer. -/
structure ModuleFunctions where
  is_device_type_supported : UInt32 → ReturnCode
  send_status_condition : RawBuffer → RawBuffer → UInt32 → ReturnCode
  generate_command : RawBuffer → RawBuffer → RawBuffer → UInt32 → ReturnCode × RawBuffer
  aggregate_status : RawBuffer → RawBuffer → UInt32 → ReturnCode × RawBuffer
  aggregate_error : RawBuffer → RawBuffer → UInt32 → ReturnCode × RawBuffer
  generate_first_command : UInt32 → ReturnCode × RawBuffer
  status_data_valid : RawBuffer → UInt32 → ReturnCode
  command_data_valid : RawBuffer → UInt32 → ReturnCode
  forward_command_on_receive : Option (UInt32 → ReturnCode)

/-- `Buffer::BufferNotAllocated`. -/
inductive BufferException where
  | BufferNotAllocated

/-- A return code and an output buffer, or an exception. -/
abbrev Outcome := Except BufferException (ReturnCode × RawBuffer)

/-- The struct that is passed for a buffer. -/
def passed (buffer : RawBuffer) : RawBuffer :=
  if isAllocated buffer then buffer else BufferType.unallocated

/-! ## In the process of the gateway -/

namespace ModuleManagerLibraryHandlerLocal
variable (module_ : ModuleFunctions)

def constructBufferByTakeOwnership (buffer : RawBuffer) : Except BufferException RawBuffer :=
  if buffer.isNull then .error .BufferNotAllocated else .ok buffer

/-- The end of the operations that have an output buffer; `failed` is what it is set to unless the
code is `OK`. -/
def finish (failed : RawBuffer) (result : ReturnCode × RawBuffer) : Outcome :=
  if result.1 = .OK then (constructBufferByTakeOwnership result.2).map fun buffer => (result.1,buffer)
  else .ok (result.1,failed)

def isDeviceTypeSupported (device_type : UInt32) : ReturnCode := module_.is_device_type_supported device_type

def sendStatusCondition (current_status new_status : RawBuffer) (device_type : UInt32) : ReturnCode :=
  module_.send_status_condition (passed current_status) (passed new_status) device_type

def generateCommand (new_status current_status current_command : RawBuffer) (device_type : UInt32) : Outcome :=
  finish BufferType.unallocated
    (module_.generate_command (passed new_status) (passed current_status) (passed current_command) device_type)

def aggregateStatus (current_status new_status : RawBuffer) (device_type : UInt32) : Outcome :=
  finish current_status (module_.aggregate_status (passed current_status) (passed new_status) device_type)

def aggregateError (current_error_message status : RawBuffer) (device_type : UInt32) : Outcome :=
  finish BufferType.unallocated
    (module_.aggregate_error (passed current_error_message) (passed status) device_type)

def generateFirstCommand (device_type : UInt32) : Outcome :=
  finish BufferType.unallocated (module_.generate_first_command device_type)

def statusDataValid (status : RawBuffer) (device_type : UInt32) : ReturnCode :=
  module_.status_data_valid (passed status) device_type

def commandDataValid (command : RawBuffer) (device_type : UInt32) : ReturnCode :=
  module_.command_data_valid (passed command) device_type

def forwardCommandOnReceive (device_type : UInt32) : ReturnCode :=
  match module_.forward_command_on_receive with
  | none => .NOT_OK
  | some forward_command_on_receive => forward_command_on_receive device_type

end ModuleManagerLibraryHandlerLocal

/-! ## In a process of its own -/

/-- `aeronClient_.callFunc` for each of the functions; `none` is a call without an answer. -/
structure ModuleFunctionExecutor where
  isDeviceTypeSupportedAsync : UInt32 → Option ReturnCode
  sendStatusConditionAsync : RawBuffer → RawBuffer → UInt32 → Option ReturnCode
  generateCommandAsync : RawBuffer → RawBuffer → RawBuffer → UInt32 → Option (ReturnCode × RawBuffer)
  aggregateStatusAsync : RawBuffer → RawBuffer → UInt32 → Option (ReturnCode × RawBuffer)
  aggregateErrorAsync : RawBuffer → RawBuffer → UInt32 → Option (ReturnCode × RawBuffer)
  generateFirstCommandAsync : UInt32 → Option (ReturnCode × RawBuffer)
  statusDataValidAsync : RawBuffer → UInt32 → Option ReturnCode
  commandDataValidAsync : RawBuffer → UInt32 → Option ReturnCode

namespace ModuleManagerLibraryHandlerAsync
variable (aeronClient_ : ModuleFunctionExecutor)

/-- A copy of the bytes. -/
def constructBuffer (data : List UInt8) : RawBuffer :=
  if data.isEmpty then BufferType.unallocated else .bytes data

def finish (failed : RawBuffer) (ret : Option (ReturnCode × RawBuffer)) : Outcome :=
  match ret with
  | none => .ok (.NOT_OK,failed)
  | some (returnCode,buffer) =>
    if returnCode = .OK then .ok (returnCode,constructBuffer buffer.data) else .ok (returnCode,failed)

def isDeviceTypeSupported (device_type : UInt32) : ReturnCode :=
  (aeronClient_.isDeviceTypeSupportedAsync device_type).getD .NOT_OK

def sendStatusCondition (current_status new_status : RawBuffer) (device_type : UInt32) : ReturnCode :=
  (aeronClient_.sendStatusConditionAsync (passed current_status) (passed new_status) device_type).getD .NOT_OK

def generateCommand (new_status current_status current_command : RawBuffer) (device_type : UInt32) : Outcome :=
  finish BufferType.unallocated
    (aeronClient_.generateCommandAsync (passed new_status) (passed current_status) (passed current_command)
      device_type)

def aggregateStatus (current_status new_status : RawBuffer) (device_type : UInt32) : Outcome :=
  finish current_status (aeronClient_.aggregateStatusAsync (passed current_status) (passed new_status) device_type)

def aggregateError (current_error_message status : RawBuffer) (device_type : UInt32) : Outcome :=
  finish BufferType.unallocated
    (aeronClient_.aggregateErrorAsync (passed current_error_message) (passed status) device_type)

def generateFirstCommand (device_type : UInt32) : Outcome :=
  finish BufferType.unallocated (aeronClient_.generateFirstCommandAsync device_type)

def statusDataValid (status : RawBuffer) (device_type : UInt32) : ReturnCode :=
  (aeronClient_.statusDataValidAsync (passed status) device_type).getD .NOT_OK

def commandDataValid (command : RawBuffer) (device_type : UInt32) : ReturnCode :=
  (aeronClient_.commandDataValidAsync (passed command) device_type).getD .NOT_OK

def forwardCommandOnReceive (_device_type : UInt32) : ReturnCode := .NOT_OK

end ModuleManagerLibraryHandlerAsync

/-! ## The same results -/

/-- The answer of a call that fills a buffer has the code and the bytes of the function. -/
def SameBytes (result : ReturnCode × RawBuffer) (ret : Option (ReturnCode × RawBuffer)) : Prop :=
  ∃ buffer, ret = some (result.1,buffer) ∧ buffer.data = result.2.data

/-- Aeron delivers what the functions of the module return. -/
structure Delivers (aeronClient_ : ModuleFunctionExecutor) (module_ : ModuleFunctions) : Prop where
  isDeviceTypeSupported : ∀ t, aeronClient_.isDeviceTypeSupportedAsync t = some (module_.is_device_type_supported t)
  sendStatusCondition : ∀ a b t,
    aeronClient_.sendStatusConditionAsync a b t = some (module_.send_status_condition a b t)
  generateCommand : ∀ a b c t, SameBytes (module_.generate_command a b c t) (aeronClient_.generateCommandAsync a b c t)
  aggregateStatus : ∀ a b t, SameBytes (module_.aggregate_status a b t) (aeronClient_.aggregateStatusAsync a b t)
  aggregateError : ∀ a b t, SameBytes (module_.aggregate_error a b t) (aeronClient_.aggregateErrorAsync a b t)
  generateFirstCommand : ∀ t, SameBytes (module_.generate_first_command t) (aeronClient_.generateFirstCommandAsync t)
  statusDataValid : ∀ a t, aeronClient_.statusDataValidAsync a t = some (module_.status_data_valid a t)
  commandDataValid : ∀ a t, aeronClient_.commandDataValidAsync a t = some (module_.command_data_valid a t)

/-- What a caller sees of an outcome. -/
def observed (outcome : Outcome) : Except BufferException (ReturnCode × List UInt8) :=
  outcome.map fun r => (r.1,r.2.data)

/-- `OK` with a null pointer. -/
def NullOk (result : ReturnCode × RawBuffer) : Prop := result.1 = .OK ∧ result.2.isNull = true

/-- The local handler throws and the other one returns `OK` and an empty buffer, or they agree. -/
structure AgreeUnlessNull (result : ReturnCode × RawBuffer) (inProcess inOther : Outcome) : Prop where
  null : NullOk result → inProcess = .error .BufferNotAllocated ∧ inOther = .ok (.OK,BufferType.unallocated)
  same : ¬NullOk result → observed inProcess = observed inOther

theorem finish_agree (failed : RawBuffer) {result : ReturnCode × RawBuffer} {ret : Option (ReturnCode × RawBuffer)}
    (h : SameBytes result ret) :
    AgreeUnlessNull result (ModuleManagerLibraryHandlerLocal.finish failed result)
      (ModuleManagerLibraryHandlerAsync.finish failed ret) := by
  obtain ⟨buffer,rfl,hdata⟩ := h
  obtain ⟨code,raw⟩ := result
  constructor
  · rintro ⟨rfl,hnull⟩
    cases raw with
    | bytes data => cases hnull
    | null size =>
      refine ⟨rfl,?_⟩
      simp only [ModuleManagerLibraryHandlerAsync.finish, if_true]
      rw [show buffer.data = [] from hdata]
      rfl
  · intro hno
    by_cases hok : code = .OK
    · subst hok
      cases raw with
      | null size => exact absurd ⟨rfl,rfl⟩ hno
      | bytes data =>
        simp only [ModuleManagerLibraryHandlerAsync.finish, if_true]
        rw [show buffer.data = data from hdata]
        cases data <;> rfl
    · simp only [ModuleManagerLibraryHandlerAsync.finish, ModuleManagerLibraryHandlerLocal.finish, if_neg hok]

/-- The nine operations of the two handlers, when Aeron delivers the results of the module. -/
theorem handlers_agree {aeronClient_ : ModuleFunctionExecutor} {module_ : ModuleFunctions}
    (h : Delivers aeronClient_ module_) :
    (∀ t, ModuleManagerLibraryHandlerLocal.isDeviceTypeSupported module_ t =
        ModuleManagerLibraryHandlerAsync.isDeviceTypeSupported aeronClient_ t) ∧
      (∀ a b t, ModuleManagerLibraryHandlerLocal.sendStatusCondition module_ a b t =
        ModuleManagerLibraryHandlerAsync.sendStatusCondition aeronClient_ a b t) ∧
      (∀ a t, ModuleManagerLibraryHandlerLocal.statusDataValid module_ a t =
        ModuleManagerLibraryHandlerAsync.statusDataValid aeronClient_ a t) ∧
      (∀ a t, ModuleManagerLibraryHandlerLocal.commandDataValid module_ a t =
        ModuleManagerLibraryHandlerAsync.commandDataValid aeronClient_ a t) ∧
      (∀ a b c t, AgreeUnlessNull (module_.generate_command (passed a) (passed b) (passed c) t)
        (ModuleManagerLibraryHandlerLocal.generateCommand module_ a b c t)
        (ModuleManagerLibraryHandlerAsync.generateCommand aeronClient_ a b c t)) ∧
      (∀ a b t, AgreeUnlessNull (module_.aggregate_status (passed a) (passed b) t)
        (ModuleManagerLibraryHandlerLocal.aggregateStatus module_ a b t)
        (ModuleManagerLibraryHandlerAsync.aggregateStatus aeronClient_ a b t)) ∧
      (∀ a b t, AgreeUnlessNull (module_.aggregate_error (passed a) (passed b) t)
        (ModuleManagerLibraryHandlerLocal.aggregateError module_ a b t)
        (ModuleManagerLibraryHandlerAsync.aggregateError aeronClient_ a b t)) ∧
      (∀ t, AgreeUnlessNull (module_.generate_first_command t)
        (ModuleManagerLibraryHandlerLocal.generateFirstCommand module_ t)
        (ModuleManagerLibraryHandlerAsync.generateFirstCommand aeronClient_ t)) ∧
      ∀ t, ModuleManagerLibraryHandlerLocal.forwardCommandOnReceive module_ t =
          (module_.forward_command_on_receive.map fun forward => forward t).getD .NOT_OK ∧
        ModuleManagerLibraryHandlerAsync.forwardCommandOnReceive t = .NOT_OK := by
  refine ⟨fun t => ?_,fun a b t => ?_,fun a t => ?_,fun a t => ?_,fun a b c t => ?_,fun a b t => ?_,
    fun a b t => ?_,fun t => ?_,fun t => ?_⟩
  · rw [ModuleManagerLibraryHandlerAsync.isDeviceTypeSupported, h.isDeviceTypeSupported]
    rfl
  · rw [ModuleManagerLibraryHandlerAsync.sendStatusCondition, h.sendStatusCondition]
    rfl
  · rw [ModuleManagerLibraryHandlerAsync.statusDataValid, h.statusDataValid]
    rfl
  · rw [ModuleManagerLibraryHandlerAsync.commandDataValid, h.commandDataValid]
    rfl
  · exact finish_agree _ (h.generateCommand _ _ _ _)
  · exact finish_agree _ (h.aggregateStatus _ _ _)
  · exact finish_agree _ (h.aggregateError _ _ _)
  · exact finish_agree _ (h.generateFirstCommand _)
  · unfold ModuleManagerLibraryHandlerLocal.forwardCommandOnReceive
    cases module_.forward_command_on_receive <;> exact ⟨rfl,rfl⟩

/-! ## What the aggregators call -/

/-- An outcome as the aggregators meet it. -/
def ofOutcome : Outcome → ReturnCode × RawBuffer
  | .ok result => result
  | .error .BufferNotAllocated => (.BufferNotAllocated,BufferType.unallocated)

def localHandler (module_ : ModuleFunctions) : ModuleLibraryHandler RawBuffer where
  isDeviceTypeSupported := ModuleManagerLibraryHandlerLocal.isDeviceTypeSupported module_
  sendStatusCondition := ModuleManagerLibraryHandlerLocal.sendStatusCondition module_
  generateCommand a b c t := ofOutcome (ModuleManagerLibraryHandlerLocal.generateCommand module_ a b c t)
  aggregateStatus a b t := ofOutcome (ModuleManagerLibraryHandlerLocal.aggregateStatus module_ a b t)
  aggregateError a b t := ofOutcome (ModuleManagerLibraryHandlerLocal.aggregateError module_ a b t)
  generateFirstCommand t := ofOutcome (ModuleManagerLibraryHandlerLocal.generateFirstCommand module_ t)
  statusDataValid := ModuleManagerLibraryHandlerLocal.statusDataValid module_
  commandDataValid := ModuleManagerLibraryHandlerLocal.commandDataValid module_
  forwardCommandOnReceive := ModuleManagerLibraryHandlerLocal.forwardCommandOnReceive module_

def asyncHandler (aeronClient_ : ModuleFunctionExecutor) : ModuleLibraryHandler RawBuffer where
  isDeviceTypeSupported := ModuleManagerLibraryHandlerAsync.isDeviceTypeSupported aeronClient_
  sendStatusCondition := ModuleManagerLibraryHandlerAsync.sendStatusCondition aeronClient_
  generateCommand a b c t := ofOutcome (ModuleManagerLibraryHandlerAsync.generateCommand aeronClient_ a b c t)
  aggregateStatus a b t := ofOutcome (ModuleManagerLibraryHandlerAsync.aggregateStatus aeronClient_ a b t)
  aggregateError a b t := ofOutcome (ModuleManagerLibraryHandlerAsync.aggregateError aeronClient_ a b t)
  generateFirstCommand t := ofOutcome (ModuleManagerLibraryHandlerAsync.generateFirstCommand aeronClient_ t)
  statusDataValid := ModuleManagerLibraryHandlerAsync.statusDataValid aeronClient_
  commandDataValid := ModuleManagerLibraryHandlerAsync.commandDataValid aeronClient_
  forwardCommandOnReceive := ModuleManagerLibraryHandlerAsync.forwardCommandOnReceive

/-! ## A module that returns no first command -/

/-- A client in whose process the functions are. -/
def executor (module_ : ModuleFunctions) : ModuleFunctionExecutor where
  isDeviceTypeSupportedAsync t := some (module_.is_device_type_supported t)
  sendStatusConditionAsync a b t := some (module_.send_status_condition a b t)
  generateCommandAsync a b c t := some (module_.generate_command a b c t)
  aggregateStatusAsync a b t := some (module_.aggregate_status a b t)
  aggregateErrorAsync a b t := some (module_.aggregate_error a b t)
  generateFirstCommandAsync t := some (module_.generate_first_command t)
  statusDataValidAsync a t := some (module_.status_data_valid a t)
  commandDataValidAsync a t := some (module_.command_data_valid a t)

theorem executor_delivers (module_ : ModuleFunctions) : Delivers (executor module_) module_ where
  isDeviceTypeSupported _ := rfl
  sendStatusCondition _ _ _ := rfl
  generateCommand _ _ _ _ := ⟨_,rfl,rfl⟩
  aggregateStatus _ _ _ := ⟨_,rfl,rfl⟩
  aggregateError _ _ _ := ⟨_,rfl,rfl⟩
  generateFirstCommand _ := ⟨_,rfl,rfl⟩
  statusDataValid _ _ := rfl
  commandDataValid _ _ := rfl

/-- A module without a first command, whose commands are forwarded at once. -/
def pusher : ModuleFunctions where
  is_device_type_supported _ := .OK
  send_status_condition _ _ _ := .OK
  generate_command _ _ command _ := (.OK,command)
  aggregate_status _ status _ := (.OK,status)
  aggregate_error _ status _ := (.OK,status)
  generate_first_command _ := (.OK,.null 0)
  status_data_valid _ _ := .OK
  command_data_valid _ _ := .OK
  forward_command_on_receive := some fun _ => .OK

/-- The commands of the pusher come back the same way from both handlers. -/
theorem handlers_agree_pusher :
    observed (ModuleManagerLibraryHandlerLocal.generateCommand pusher (.bytes [1]) (.null 0) (.bytes [2]) 0) =
        observed (ModuleManagerLibraryHandlerAsync.generateCommand (executor pusher) (.bytes [1]) (.null 0)
          (.bytes [2]) 0) ∧
      ModuleManagerLibraryHandlerLocal.generateFirstCommand pusher 0 = .error .BufferNotAllocated ∧
      ModuleManagerLibraryHandlerAsync.forwardCommandOnReceive 0 = .NOT_OK := by
  obtain ⟨-,-,-,-,hcommand,-,-,hfirst,hforward⟩ := handlers_agree (executor_delivers pusher)
  refine ⟨(hcommand _ _ _ _).same ?_,((hfirst 0).null ⟨rfl,rfl⟩).1,(hforward 0).2⟩
  rintro ⟨-,hnull⟩
  cases hnull

/-- Neither its first command nor its answer on forwarding is the same for both. -/
theorem pusher_handlers_differ :
    ¬∀ aeronClient_ module_, Delivers aeronClient_ module_ → ∀ t,
      observed (ModuleManagerLibraryHandlerLocal.generateFirstCommand module_ t) =
          observed (ModuleManagerLibraryHandlerAsync.generateFirstCommand aeronClient_ t) ∧
        ModuleManagerLibraryHandlerLocal.forwardCommandOnReceive module_ t =
          ModuleManagerLibraryHandlerAsync.forwardCommandOnReceive t := by
  intro hall
  obtain ⟨-,hforward⟩ := hall (executor pusher) pusher (executor_delivers pusher) 0
  cases hforward

end ModuleGateway.Modules
