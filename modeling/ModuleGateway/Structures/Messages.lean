import Mathlib.Data.Finset.Basic

/-! # Identifications, buffers and messages

The records every component exchanges. Buffers are an arbitrary type: the gateway
copies them, asks whether they are allocated and hands them to the module, so the
same code can run on plain bytes and on bytes that remember where they come from.
-/
namespace ModuleGateway.Structures

/-- `DeviceIdentification`; the protobuf `Device` has the same five fields and is
converted to and fro by copying them. -/
structure DeviceIdentification where
  module_ : ℤ
  deviceType : UInt32
  deviceRole : String
  deviceName : String
  priority : UInt32
deriving DecidableEq, Repr

/-- What `operator==`, `isSame` and `std::hash` look at: name and priority are left out. -/
structure DeviceKey where
  module_ : ℤ
  deviceType : UInt32
  deviceRole : String
deriving DecidableEq, Repr

namespace DeviceIdentification

def key (d : DeviceIdentification) : DeviceKey := ⟨d.module_, d.deviceType, d.deviceRole⟩

def isSame (d toCompare : DeviceIdentification) : Bool :=
  d.module_ == toCompare.module_ && d.deviceType == toCompare.deviceType &&
    d.deviceRole == toCompare.deviceRole

theorem isSame_iff {d e : DeviceIdentification} : d.isSame e = true ↔ d.key = e.key := by
  simp [isSame, key, and_assoc]

end DeviceIdentification

/-- Return codes of the fleet protocol headers; `other` is any code a module may
return besides the named ones. All named codes but `OK` are negative. `BufferNotAllocated`
is no code: it stands for the exception that ends a call which fills a buffer. -/
inductive ReturnCode where
  | OK
  | NOT_OK
  | DEVICE_NOT_SUPPORTED
  | DEVICE_NOT_REGISTERED
  | NO_MESSAGE_AVAILABLE
  | STATUS_INVALID
  | COMMAND_INVALID
  | BufferNotAllocated
  | other (code : ℤ)
deriving DecidableEq, Repr

/-- What a caller that returns `failed` on any code but `OK` ends with: an exception goes on. -/
def ReturnCode.failedAs (code failed : ReturnCode) : ReturnCode :=
  if code = .BufferNotAllocated then .BufferNotAllocated else failed

@[simp] theorem ReturnCode.failedAs_eq_BufferNotAllocated_iff {code failed : ReturnCode}
    (h : failed ≠ .BufferNotAllocated) :
    code.failedAs failed = .BufferNotAllocated ↔ code = .BufferNotAllocated := by
  unfold failedAs
  split <;> simp_all

/-- `Buffer`, as far as the gateway looks into it: `Buffer {}` and `isAllocated`. -/
class BufferType (β : Type) where
  unallocated : β
  isAllocated : β → Bool
  isAllocated_unallocated : isAllocated unallocated = false

export BufferType (isAllocated)

attribute [simp] BufferType.isAllocated_unallocated

/-- Plain bytes: a buffer is allocated when it has a positive size. -/
instance : BufferType (List UInt8) where
  unallocated := []
  isAllocated b := !b.isEmpty
  isAllocated_unallocated := rfl

/-- The functions of a loaded module that the aggregators call, `IModuleManagerLibraryHandler`.
A call that fills an output buffer returns its code together with that buffer, or throws. -/
structure ModuleLibraryHandler (β : Type) where
  isDeviceTypeSupported : UInt32 → ReturnCode
  sendStatusCondition : β → β → UInt32 → ReturnCode
  generateCommand : β → β → β → UInt32 → ReturnCode × β
  aggregateStatus : β → β → UInt32 → ReturnCode × β
  aggregateError : β → β → UInt32 → ReturnCode × β
  generateFirstCommand : UInt32 → ReturnCode × β
  statusDataValid : β → UInt32 → ReturnCode
  commandDataValid : β → UInt32 → ReturnCode
  forwardCommandOnReceive : UInt32 → ReturnCode

/-- `InternalProtocol::DeviceStatus`. -/
structure DeviceStatus (β : Type) where
  device : DeviceIdentification
  statusdata : β

/-- `InternalProtocol::DeviceCommand`. -/
structure DeviceCommand (β : Type) where
  device : DeviceIdentification
  commanddata : β

/-- `InternalProtocol::InternalClient`, the message of a device. -/
inductive InternalClient (β : Type) where
  | deviceStatus (status : DeviceStatus β)
  | deviceConnect (device : DeviceIdentification)
  | notSet

inductive ConnectResponseType where
  | OK
  | MODULE_NOT_SUPPORTED
  | DEVICE_NOT_SUPPORTED
  | ALREADY_CONNECTED
  | HIGHER_PRIORITY_ALREADY_CONNECTED
deriving DecidableEq, Repr

/-- `InternalProtocol::InternalServer`, the message to a device. -/
inductive InternalServer (β : Type) where
  | deviceCommand (command : DeviceCommand β)
  | deviceConnectResponse (responseType : ConnectResponseType) (device : DeviceIdentification)

/-- `InternalClientMessage`, one constructor for each way the source builds it. -/
inductive InternalClientMessage (β : Type) where
  | disconnect (deviceId : DeviceIdentification)
  | message (disconnect : Bool) (message : InternalClient β)
  | commandForward (deviceId : DeviceIdentification)

def InternalClientMessage.disconnected {β : Type} : InternalClientMessage β → Bool
  | .disconnect _ => true
  | .message d _ => d
  | .commandForward _ => false

/-- Only a disconnect and a command-forward carry an identification of their own. -/
def InternalClientMessage.getDeviceId {β : Type} : InternalClientMessage β → DeviceIdentification
  | .disconnect deviceId => deviceId
  | .message _ _ => ⟨0,0,"","",0⟩
  | .commandForward deviceId => deviceId

/-- `getMessage().devicestatus()`, the default one when there is none. -/
def InternalClientMessage.devicestatus {β : Type} [BufferType β] : InternalClientMessage β → DeviceStatus β
  | .message _ (.deviceStatus status) => status
  | _ => ⟨⟨0,0,"","",0⟩,BufferType.unallocated⟩

/-- `ModuleHandlerMessage`: a disconnect request or a message for a device. -/
inductive ModuleHandlerMessage (β : Type) where
  | disconnect (deviceId : DeviceIdentification)
  | message (message : InternalServer β)

end ModuleGateway.Structures
