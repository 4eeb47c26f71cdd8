import ModuleGateway.Modules.HandlerThreads

/-! # The statuses of a device that disconnects

`handleDisconnect` forces one more status, sends the one at the front of the queue and lets
`remove_device` clear the rest.
-/
namespace ModuleGateway.Modules
open Structures Execution

variable {β : Type}

namespace StatusAggregator
variable {module_ : ModuleLibraryHandler β} {s : StatusAggregator β} {device : DeviceIdentification}
  {d : StatusAggregatorDeviceState β}

end StatusAggregator

namespace ModuleHandler
variable [BufferType β] {moduleLibrary_ : ModuleLibrary β} {s : ModuleHandler β} {device : DeviceIdentification}
  {d : StatusAggregatorDeviceState β}

section Steps
variable {module_ : ModuleLibraryHandler β} (hm : moduleLibrary_.lookup device.module_ = some module_)
  (hsupported : module_.isDeviceTypeSupported device.deviceType = .OK) (hd : s.entry device.key = some d)
include hm hsupported hd

end Steps

end ModuleHandler

namespace HandlerThreads
variable [BufferType β] {s : HandlerThreads β} {device : DeviceIdentification} {d : StatusAggregatorDeviceState β}

end HandlerThreads

end ModuleGateway.Modules
