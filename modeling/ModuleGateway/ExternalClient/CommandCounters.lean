import ModuleGateway.Library.Execution
import ModuleGateway.Library.Counters
import ModuleGateway.ExternalClient.ExternalConnection

/-! # The order of the commands of the server

`handleCommand` compares the counter of a command with that of the last one, and takes the value 0
for the first command of a session. A command with the counter 0 is one like any other, and a
command for a module that the connection does not have moves the counter before it is refused. Who
follows the commands knows the counter.
-/
namespace ModuleGateway.ExternalClient
open Structures Execution Counters

variable {β : Type}

/-- `ExternalProtocol::Command`. -/
structure Command (β : Type) where
  sessionId : String
  messageCounter : UInt32
  deviceCommand : DeviceCommand β

namespace ExternalConnection
variable (modules : Modules β)

/-- The command that a step calls `handleCommand` with. -/
def handledCommand (s : ExternalConnection β) : ConnectionAction β → Option (Command β)
  | .receive (.command sessionId messageCounter deviceCommand) => some ⟨sessionId,messageCounter,deviceCommand⟩
  | .thread answer =>
    match s.connectThread, answer.received with
    | .commanding _ (_ + 1), some (.command sessionId messageCounter deviceCommand) =>
      some ⟨sessionId,messageCounter,deviceCommand⟩
    | _, _ => none
  | _ => none

/-- Those for which it returns `OK`. -/
def acceptedCommand (s : ExternalConnection β) (a : ConnectionAction β) : Option (Command β) :=
  (s.handledCommand a).filter fun command =>
    (s.handleCommand modules command.sessionId command.messageCounter command.deviceCommand).1 = .OK

/-- The steps that reset the counters. -/
def endsSession (s : ExternalConnection β) : ConnectionAction β → Bool
  | .deinitializeConnection _ => true
  | .sendStatus status _ sent => (modules status.device.module_).isSome && !sent
  | .thread answer =>
    match s.connectThread with
    | .sending _ device _ _ _ => (modules device.module_).isSome && !answer.sent
    | _ => false
  | _ => false

/-- A command of the session that comes next after the latest one, or after one with the counter 0. -/
def InOrder (s : ExternalConnection β) (latest : UInt32) (command : Command β) : Prop :=
  command.sessionId = s.sessionId_ ∧ (latest = 0 ∨ latest + 1 = command.messageCounter)

instance (s : ExternalConnection β) (latest : UInt32) (command : Command β) : Decidable (s.InOrder latest command) :=
  inferInstanceAs (Decidable (_ ∧ _))

/-- An observer notes how many commands were handled, the counters of the accepted ones, and that of the latest
command of the session that was in order, for whatever module. -/
structure CommandLog where
  handled : ℕ
  accepted : List UInt32
  latest : UInt32

/-- The counter of the command, if it is in order. -/
def nextLatest (s : ExternalConnection β) (latest : UInt32) (command : Option (Command β)) : UInt32 :=
  match command with
  | none => latest
  | some command => if s.InOrder latest command then command.messageCounter else latest

def seeCommand (s : ExternalConnection β) (a : ConnectionAction β) (_ : ExternalConnection β) (log : CommandLog) :
    CommandLog where
  handled := log.handled + (s.handledCommand a).toList.length
  accepted := log.accepted ++ ((s.acceptedCommand modules a).map Command.messageCounter).toList
  latest := if s.endsSession modules a then 0 else s.nextLatest log.latest (s.handledCommand a)

/-- A command in order for a module of the connection comes after the last accepted one, no refused one having been
in order in between; after the counter 0 it is the successor of the last accepted one by itself. -/
def FollowsOn (s : ExternalConnection β × CommandLog) (a : ConnectionAction β) : Prop :=
  ∀ command ∈ s.1.handledCommand a, s.1.InOrder s.2.latest command →
    (modules command.deviceCommand.device.module_).isSome = true → ∀ last ∈ s.2.accepted.getLast?,
      if s.2.latest = 0 then command.messageCounter = last + 1 else s.2.latest = last

instance [DecidableEq β] (s : ExternalConnection β × CommandLog) (a : ConnectionAction β) :
    Decidable (FollowsOn modules s a) :=
  -- the last counter is looked for in an option, not among all values of its type
  @Option.decidableForallMem _ _ (fun _ => @instDecidableForall _ _ inferInstance
    (@instDecidableForall _ _ inferInstance (Option.decidableForallMem _))) (s.1.handledCommand a)

/-! ## One command -/

variable {modules} {s t : ExternalConnection β} {a : ConnectionAction β} {log : CommandLog}

theorem acceptedCommand_eq_some {command : Command β} : s.acceptedCommand modules a = some command ↔
    s.handledCommand a = some command ∧ s.InOrder s.serverMessageCounter_ command ∧
      (modules command.deviceCommand.device.module_).isSome = true := by
  rw [acceptedCommand, Option.filter_eq_some_iff, decide_eq_true_eq, handleCommand_ok, InOrder, and_assoc]

/-- The accepted counters of a step go on from those before exactly when the step follows on. -/
theorem seeCommand_consecutive (hs : log.latest = s.serverMessageCounter_) :
    Consecutive (s.seeCommand modules a t log).accepted ↔ Consecutive log.accepted ∧ FollowsOn modules (s,log) a := by
  rw [seeCommand]
  dsimp only
  cases haccepted : s.acceptedCommand modules a with
  | none =>
    have hfollows : FollowsOn modules (s,log) a := by
      intro command hhandled horder hmodule
      rw [hs] at horder
      rw [acceptedCommand_eq_some.mpr ⟨hhandled,horder,hmodule⟩] at haccepted
      exact nomatch haccepted
    simp only [Option.map_none, Option.toList_none, List.append_nil, hfollows, and_true]
  | some command =>
    obtain ⟨hhandled,horder,hmodule⟩ := acceptedCommand_eq_some.mp haccepted
    rw [← hs] at horder
    rw [Option.map_some, Option.toList_some, consecutive_concat]
    refine and_congr_right fun _ => ?_
    have hnext : ∀ last : UInt32, command.messageCounter = last + 1 ↔
        if log.latest = 0 then command.messageCounter = last + 1 else log.latest = last := by
      intro last
      split
      · exact Iff.rfl
      · rename_i hcounter
        have hnext := horder.2.resolve_left hcounter
        rw [← hnext]
        exact UInt32.add_left_inj 1
    constructor
    · intro h command' hhandled' _ _ last hlast
      obtain rfl := Option.some.inj (hhandled.symm.trans hhandled')
      exact (hnext last).mp (h last hlast)
    · intro h last hlast
      exact (hnext last).mpr (h command hhandled horder hmodule last hlast)

/-- No more commands are accepted than are handled. -/
theorem seeCommand_length (h : log.accepted.length ≤ log.handled) :
    (s.seeCommand modules a t log).accepted.length ≤ (s.seeCommand modules a t log).handled := by
  rw [seeCommand]
  dsimp only
  rw [List.length_append]
  refine Nat.add_le_add h ?_
  cases haccepted : s.acceptedCommand modules a with
  | none => exact Nat.zero_le _
  | some command =>
    rw [(acceptedCommand_eq_some.mp haccepted).1]
    exact Nat.le_refl _

/-! ## The counter of the connection -/

theorem handleCommand_counter (s : ExternalConnection β) (command : Command β) :
    (s.handleCommand modules command.sessionId command.messageCounter command.deviceCommand).2.serverMessageCounter_ =
      s.nextLatest s.serverMessageCounter_ (some command) := by
  unfold handleCommand nextLatest
  dsimp only
  by_cases horder : s.InOrder s.serverMessageCounter_ command
  · rw [if_pos horder, if_neg (not_not_intro horder.1), if_neg fun h => horder.2.elim h.1 h.2]
    split
    · rfl
    · split
      · rfl
      · split <;> rfl
  · rw [if_neg horder]
    split
    · rfl
    · rename_i hsession
      split
      · rfl
      · rename_i hcounter
        rw [not_and_or, not_not, not_not] at hcounter
        exact absurd ⟨not_not.mp hsession,hcounter⟩ horder

theorem receiveCommand_counter (s : ExternalConnection β) (devices : List DeviceIdentification) (commands : ℕ)
    (command : Command β) :
    (s.receiveCommand modules devices commands
      (some (.command command.sessionId command.messageCounter command.deviceCommand))).serverMessageCounter_ =
      s.nextLatest s.serverMessageCounter_ (some command) := by
  rw [← handleCommand_counter]
  unfold receiveCommand
  dsimp only
  split <;> rename_i hhandled <;> rw [hhandled] <;> rfl

variable [BufferType β]

theorem sendStatus_counter (s : ExternalConnection β) (status : DeviceStatus β) (deviceState : StatusDeviceState)
    (errorMessage : β) (sent : Bool) :
    (s.sendStatus modules status deviceState errorMessage sent).serverMessageCounter_ =
      if (modules status.device.module_).isSome && !sent then 0 else s.serverMessageCounter_ := by
  unfold sendStatus
  cases hmodule : modules status.device.module_ <;> cases sent <;> rfl

theorem initializeConnection_counter {answer : Answer β} (ht : s.initializeConnection modules answer = some t) :
    t.serverMessageCounter_ =
      if s.endsSession modules (.thread answer) then 0
      else s.nextLatest s.serverMessageCounter_ (s.handledCommand (.thread answer)) := by
  unfold initializeConnection at ht
  split at ht <;> rename_i hthread <;> cases ht <;> simp only [endsSession, handledCommand, hthread]
  · unfold openChannel
    dsimp only
    split <;> split <;> rfl
  · unfold connectMessageHandle
    dsimp only
    split
    · rfl
    · split
      · split
        · rfl
        · split <;> rfl
      · rfl
  · rfl
  · unfold readStatus
    dsimp only
    split
    · rfl
    · split <;> rfl
  · exact sendStatus_counter ..
  · rfl
  · unfold receiveStatusResponse
    split
    · split
      · rfl
      · split <;> rfl
    · rfl
  · rfl
  · cases hreceived : answer.received with
    | none => rfl
    | some message =>
      cases message with
      | command sessionId messageCounter deviceCommand =>
        exact receiveCommand_counter s _ _ ⟨sessionId,messageCounter,deviceCommand⟩
      | _ => rfl
  · rfl
  · rfl

/-- `serverMessageCounter_` is the counter of the latest command that was in order. -/
theorem seeCommand_latest (hs : log.latest = s.serverMessageCounter_) (ht : s.connectionStep modules a = some t) :
    (s.seeCommand modules a t log).latest = t.serverMessageCounter_ := by
  rw [seeCommand, hs]
  dsimp only
  cases a with
  | connect devices =>
    obtain ⟨-,rfl⟩ := Option.ite_some_none_eq_some.mp ht
    rfl
  | thread answer => exact (initializeConnection_counter ht).symm
  | sendStatus status deviceState sent =>
    obtain ⟨-,rfl⟩ := Option.ite_some_none_eq_some.mp ht
    rw [sendStatus_counter]
    rfl
  | take status =>
    obtain ⟨-,rfl⟩ := Option.ite_some_none_eq_some.mp ht
    rfl
  | fill =>
    obtain ⟨status,-,rfl⟩ := Option.map_eq_some_iff.mp ht
    have hkept : (s.fillErrorAggregator modules status).serverMessageCounter_ = s.serverMessageCounter_ := by
      unfold fillErrorAggregator
      split <;> rfl
    exact hkept.symm
  | receive message =>
    unfold connectionStep at ht
    obtain ⟨-,ht⟩ := Option.ite_none_right_eq_some.mp ht
    cases message with
    | command sessionId messageCounter deviceCommand =>
      cases ht
      exact (handleCommand_counter s ⟨sessionId,messageCounter,deviceCommand⟩).symm
    | statusResponse _ _ _ | connectResponse _ _ =>
      cases ht
      rfl
  | deinitializeConnection completeDisconnect =>
    obtain ⟨-,rfl⟩ := Option.ite_some_none_eq_some.mp ht
    cases completeDisconnect <;> rfl

/-! ## Runs -/

omit [BufferType β] in
/-- Nothing is handled yet, and the next command has to follow on the counter of the connection. -/
def startLog (s : ExternalConnection β) : CommandLog := ⟨0,[],s.serverMessageCounter_⟩

variable (modules) in
def commandLog (s : ExternalConnection β) (as : List (ConnectionAction β)) : CommandLog :=
  observe (connectionStep modules) (seeCommand modules) s s.startLog as

theorem commandLog_length {as : List (ConnectionAction β)}
    (he : exec (connectionStep modules) s as = some t) :
    (s.commandLog modules as).accepted.length ≤ (s.commandLog modules as).handled := by
  have hstart : s.startLog.accepted.length ≤ s.startLog.handled := Nat.le_refl 0
  exact exec_observe_invariant (I := fun _ (log : CommandLog) => log.accepted.length ≤ log.handled) hstart
    (fun _ _ _ t h _ _ => seeCommand_length h) (guarded_true s as) he

/-- In a session, which begins with the counter 0, the commands that are accepted have consecutive
counters, none twice, if and only if each one follows on the one accepted before it: no refused command was in
order in between, and after the counter 0 it is the successor by itself. -/
theorem exec_consecutive_iff {as : List (ConnectionAction β)}
    (he : exec (connectionStep modules) s as = some t) (hhandled : (s.commandLog modules as).handled < 2 ^ 32) :
    (Consecutive (s.commandLog modules as).accepted ∧ (s.commandLog modules as).accepted.Nodup) ↔
      Guarded (watched (connectionStep modules) (seeCommand modules)) (FollowsOn modules) (s,s.startLog) as := by
  have hiff : Consecutive (s.commandLog modules as).accepted ↔
      Guarded (watched (connectionStep modules) (seeCommand modules)) (FollowsOn modules) (s,s.startLog) as := by
    have hstart : Consecutive s.startLog.accepted := List.isChain_nil
    exact observe_iff_guarded
      (I := fun (s : ExternalConnection β) (log : CommandLog) => log.latest = s.serverMessageCounter_)
      (P := fun log : CommandLog => Consecutive log.accepted) rfl (fun _ _ _ _ hs ht => seeCommand_latest hs ht)
      hstart (fun _ _ _ _ hs _ => seeCommand_consecutive hs) he
  rw [← hiff]
  refine and_iff_left_of_imp fun h => h.nodup ?_
  exact (commandLog_length he).trans hhandled.le

/-- The camera is connected and its first command has the given counter. -/
def connectedWith (messageCounter : UInt32) : List (ConnectionAction (List UInt8)) :=
  statusWhileDown camera [7] ++ (connectSequence camera).take 8 ++
    [answered (some (.command "session" messageCounter ⟨camera,[0]⟩)),answered none,answered none,answered none]

def receiveFor (device : DeviceIdentification) (messageCounter : UInt32) : ConnectionAction (List UInt8) :=
  .receive (.command "session" messageCounter ⟨device,[1]⟩)

/-- The first counter is 7, and a command that comes twice and one that comes early are refused. -/
theorem exec_consecutive_connectedWith :
    let as := connectedWith 7 ++ [receiveFor camera 7,receiveFor camera 9,receiveFor camera 8]
    (init.commandLog moduleOne as).accepted = [7,8] ∧ Consecutive (init.commandLog moduleOne as).accepted := by
  intro as
  obtain ⟨t,ht⟩ : ∃ t, exec (connectionStep moduleOne) init as = some t := ⟨_,rfl⟩
  have hfollows : Guarded (watched (connectionStep moduleOne) (seeCommand moduleOne)) (FollowsOn moduleOne)
      (init,(init : ExternalConnection (List UInt8)).startLog) as := by decide
  exact ⟨rfl,((exec_consecutive_iff ht (by decide)).mpr hfollows).1⟩

/-- After a command with the counter 0 any other one is let through. -/
theorem connectedWith_zero_skips :
    ¬∀ as t, exec (connectionStep moduleOne) init as = some t →
      (init.commandLog moduleOne as).handled < 2 ^ 32 →
      Consecutive (init.commandLog moduleOne as).accepted ∧ (init.commandLog moduleOne as).accepted.Nodup := by
  intro hall
  have h := hall (connectedWith 0 ++ [receiveFor camera 5]) _ rfl (by decide)
  exact absurd h.1 (by decide)

end ExternalConnection

end ModuleGateway.ExternalClient
