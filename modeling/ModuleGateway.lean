import ModuleGateway.Library.Execution
import ModuleGateway.Library.LengthPrefix
import ModuleGateway.Library.DropOldest
import ModuleGateway.Library.Ledger
import ModuleGateway.Library.Counters
import ModuleGateway.Library.Outstanding
import ModuleGateway.Library.KeyOrder
import ModuleGateway.Library.Json
import ModuleGateway.Structures.SettingsParser
import ModuleGateway.Structures.SettingsFile
import ModuleGateway.Structures.ModuleNumbers
import ModuleGateway.Structures.SettingsRoundTrip
import ModuleGateway.Structures.SettingsNumbers
import ModuleGateway.Structures.Messages
import ModuleGateway.Structures.ModuleLibrary
import ModuleGateway.InternalServer.BufferData
import ModuleGateway.InternalServer.Framing
import ModuleGateway.InternalServer.BufferBounds
import ModuleGateway.InternalServer.Server
import ModuleGateway.InternalServer.Priority
import ModuleGateway.InternalServer.Removal
import ModuleGateway.Modules.LibraryHandlers
import ModuleGateway.Modules.StatusAggregator
import ModuleGateway.Modules.DeferredErasure
import ModuleGateway.Modules.Commands
import ModuleGateway.Modules.ModuleHandler
import ModuleGateway.Modules.HandlerThreads
import ModuleGateway.Modules.CommandCalls
import ModuleGateway.Modules.CommandOrder
import ModuleGateway.Modules.ForwardEvents
import ModuleGateway.Modules.AggregatedStatuses
import ModuleGateway.Modules.RegisteredDevices
import ModuleGateway.Modules.PendingRemovals
import ModuleGateway.Modules.DisconnectedStatuses
import ModuleGateway.Modules.Answers
import ModuleGateway.InternalServer.Replies
import ModuleGateway.InternalServer.ConnectTrace
import ModuleGateway.InternalServer.ConnectResponses
import ModuleGateway.InternalServer.WaitForResponse
import ModuleGateway.InternalServer.LeftoverDevices
import ModuleGateway.ExternalClient.ErrorAggregator
import ModuleGateway.ExternalClient.ExternalConnection
import ModuleGateway.ExternalClient.ConnectSequence
import ModuleGateway.ExternalClient.ConnectAnswered
import ModuleGateway.ExternalClient.ConnectedDevices
import ModuleGateway.ExternalClient.CommandCounters
import ModuleGateway.ExternalClient.Acknowledgements
import ModuleGateway.ExternalClient.SessionStatuses
import ModuleGateway.ExternalClient.StatusOrigin
import ModuleGateway.ExternalClient.PlainRuns
import ModuleGateway.ExternalClient.LastStatus
import ModuleGateway.ExternalClient.FoldedOnce
import ModuleGateway.ExternalClient.DrainedStatuses
import ModuleGateway.ExternalClient.ExternalClient
import ModuleGateway.ExternalClient.ReceiveLoop
import ModuleGateway.ExternalClient.Endpoints
import ModuleGateway.ExternalClient.LookUps
import ModuleGateway.ExternalClient.DisconnectMessages
import ModuleGateway.ExternalClient.HandedStatuses
import ModuleGateway.ExternalClient.ReconnectSession
import ModuleGateway.ExternalClient.ClientCalls
import ModuleGateway.ExternalClient.QuicCommunication
import ModuleGateway.ExternalClient.QuicStreams
import ModuleGateway.ExternalClient.QuicSends
import ModuleGateway.ExternalClient.QuicHandles
import ModuleGateway.Library.Share
import ModuleGateway.Library.Occurrences
import ModuleGateway.Modules.IsolatedAggregator
import ModuleGateway.Modules.FoldedStatuses
import ModuleGateway.Modules.TimeoutFlag
import ModuleGateway.Modules.IsolatedDevice
import ModuleGateway.Modules.IsolatedThread
import ModuleGateway.Modules.IsolatedHandler
import ModuleGateway.InternalServer.IsolatedServer
import ModuleGateway.InternalServer.Noninterference
import ModuleGateway.Modules.Origins
import ModuleGateway.InternalServer.Addressed
import ModuleGateway.ExternalClient.ConnectPhases
import ModuleGateway.ExternalClient.MessageOrder
import ModuleGateway.ExternalClient.Attended
import ModuleGateway.ExternalClient.ChannelCalls
import ModuleGateway.ExternalClient.MqttCommunication
import ModuleGateway.ExternalClient.MqttSessions
import ModuleGateway.ExternalClient.MqttTopics
import ModuleGateway.ExternalClient.DummyCommunication
import ModuleGateway.ExternalClient.Contents
import ModuleGateway.Library.Inevitable
import ModuleGateway.Library.Monitor
import ModuleGateway.Structures.AtomicQueue
import ModuleGateway.Modules.QueueThreads
import ModuleGateway.Modules.Progress
import ModuleGateway.Modules.SilentDevices
import ModuleGateway.InternalServer.Settling
import ModuleGateway.InternalServer.SilentRemoval
import ModuleGateway.ExternalClient.ConnectEnds
import ModuleGateway.Main.Process
import ModuleGateway.Main.Integrity
import ModuleGateway.Main.Components
