import ModuleGateway.Library.Execution
import ModuleGateway.ExternalClient.ExternalConnection
import Mathlib.Data.Multiset.AddSub

/-! # The connect sequence on its own

`initializeConnection` from its first section to its last, when nothing else happens
meanwhile, the channel opens and every message is sent. A reply is what one call of
`receiveMessage` returns; `none` is no message, or one of none of the three types.
-/
namespace ModuleGateway.ExternalClient
open Structures Execution

variable {β : Type}

namespace ConnectThread

/-- The sections that wait for the server. -/
def receives : ConnectThread β → Bool
  | .connecting _ => true
  | .acknowledging _ (_ + 1) => true
  | .commanding _ (_ + 1) => true
  | _ => false

/-- How many sections are left at most. -/
def left : ConnectThread β → ℕ
  | .finished _ => 0
  | .opening devices => 4*devices.length+7
  | .connecting devices => 4*devices.length+6
  | .reading devices remaining => 2*remaining.length+2*devices.length+5
  | .sending devices _ _ _ remaining => 2*remaining.length+2*devices.length+6
  | .acknowledging devices responses => responses+devices.length+4
  | .commanding _ commands => commands+3
  | .establishing _ => 2
  | .clearing _ => 1

end ConnectThread

namespace ExternalConnection
variable [BufferType β] (modules : Modules β) (sessionId : String)

omit [BufferType β] in
/-- What the next section is answered. -/
def answerTo (s : ExternalConnection β) (replies : List (Option (ServerMessage β))) : Answer β :=
  ⟨true,sessionId,true,if s.connectThread.receives then replies.head?.join else none⟩

omit [BufferType β] in
/-- The replies that are left after it. -/
def repliesAfter (s : ExternalConnection β) (replies : List (Option (ServerMessage β))) :
    List (Option (ServerMessage β)) :=
  if s.connectThread.receives then replies.tail else replies

def sections : ℕ → List (Option (ServerMessage β)) → ExternalConnection β → ExternalConnection β
  | 0, _, s => s
  | count + 1, replies, s =>
    match s.initializeConnection modules (s.answerTo sessionId replies) with
    | none => s
    | some t => sections count (s.repliesAfter replies) t

/-- `initializeConnection` as a whole. -/
def completed (s : ExternalConnection β) (replies : List (Option (ServerMessage β))) : ExternalConnection β :=
  sections modules sessionId s.connectThread.left replies s

variable {modules sessionId} {s t : ExternalConnection β} {devices : List DeviceIdentification}
  {replies : List (Option (ServerMessage β))}

/-! ## It comes to an end -/

theorem initializeConnection_left {answer : Answer β} (h : s.initializeConnection modules answer = some t) :
    t.connectThread.left < s.connectThread.left := by
  unfold initializeConnection at h
  cases hthread : s.connectThread with
  | finished ok =>
    rw [hthread] at h
    cases h
  | opening devices =>
    rw [hthread] at h
    obtain rfl := Option.some.inj h
    obtain hopen | ⟨state,-,hopen⟩ := s.openChannel_cases devices answer <;> rw [hopen]
    · exact Nat.lt_succ_self _
    · exact Nat.succ_pos _
  | connecting devices =>
    rw [hthread] at h
    obtain rfl := Option.some.inj h
    obtain hconnect | hconnect := s.connectMessageHandle_cases devices answer <;> rw [hconnect]
    · exact Nat.succ_pos _
    · simp only [goto, ConnectThread.left]
      omega
  | reading devices remaining =>
    rw [hthread] at h
    cases remaining with
    | nil =>
      obtain rfl := Option.some.inj h
      simp only [goto, ConnectThread.left, List.length_nil]
      omega
    | cons device remaining =>
      obtain rfl := Option.some.inj h
      obtain ⟨-,hread⟩ | ⟨deviceState,-,hread⟩ := s.readStatus_cases devices device remaining <;> rw [hread]
      · exact Nat.succ_pos _
      · simp only [goto, ConnectThread.left, List.length_cons]
        omega
  | sending devices device status error remaining =>
    rw [hthread] at h
    obtain rfl := Option.some.inj h
    exact Nat.lt_succ_self _
  | acknowledging devices responses =>
    rw [hthread] at h
    cases responses with
    | zero =>
      obtain rfl := Option.some.inj h
      simp only [goto, ConnectThread.left]
      omega
    | succ responses =>
      obtain rfl := Option.some.inj h
      obtain ⟨-,hack⟩ | ⟨counter,hack⟩ := s.receiveStatusResponse_cases devices responses answer.received <;>
        rw [hack]
      · exact Nat.succ_pos _
      · simp only [goto, ConnectThread.left]
        omega
  | commanding devices commands =>
    rw [hthread] at h
    cases commands with
    | zero =>
      obtain rfl := Option.some.inj h
      exact Nat.lt_succ_self _
    | succ commands =>
      obtain rfl := Option.some.inj h
      obtain ⟨counter,queue,responses,-,⟨-,hcommand⟩ | hcommand⟩ :=
        s.receiveCommand_cases modules devices commands answer.received <;> rw [hcommand]
      · exact Nat.succ_pos _
      · exact Nat.lt_succ_self _
  | establishing devices =>
    rw [hthread] at h
    obtain rfl := Option.some.inj h
    exact Nat.lt_succ_self _
  | clearing devices =>
    rw [hthread] at h
    obtain rfl := Option.some.inj h
    exact Nat.lt_succ_self _

theorem initializeConnection_eq_none {answer : Answer β} (h : s.initializeConnection modules answer = none) :
    ∃ ok, s.connectThread = .finished ok := by
  unfold initializeConnection at h
  split at h
  case h_1 ok hthread => exact ⟨ok,hthread⟩
  all_goals cases h

/-- More than the sections that are left do not matter. -/
theorem sections_eq {count count' : ℕ} (h : s.connectThread.left ≤ count) (h' : s.connectThread.left ≤ count') :
    sections modules sessionId count replies s = sections modules sessionId count' replies s := by
  induction count generalizing s replies count' with
  | zero =>
    cases count' with
    | zero => rfl
    | succ count' =>
      cases hs : s.initializeConnection modules (s.answerTo sessionId replies) with
      | none => simp only [sections, hs]
      | some t => exact absurd (initializeConnection_left hs) (by omega)
  | succ count ih =>
    cases hs : s.initializeConnection modules (s.answerTo sessionId replies) with
    | none => cases count' <;> simp only [sections, hs]
    | some t =>
      have hlt := initializeConnection_left hs
      cases count' with
      | zero => exact absurd hlt (by omega)
      | succ count' =>
        simp only [sections, hs]
        exact ih (by omega) (by omega)

theorem completed_step (h : s.initializeConnection modules (s.answerTo sessionId replies) = some t) :
    s.completed modules sessionId replies = t.completed modules sessionId (s.repliesAfter replies) := by
  have hlt := initializeConnection_left h
  have hmore : s.completed modules sessionId replies =
      sections modules sessionId (s.connectThread.left + 1) replies s := sections_eq le_rfl (Nat.le_succ _)
  rw [hmore]
  simp only [sections, h]
  exact sections_eq hlt.le le_rfl

/-- A section that does not wait for the server. -/
theorem completed_next (hthread : s.connectThread.receives = false)
    (h : s.initializeConnection modules ⟨true,sessionId,true,none⟩ = some t) :
    s.completed modules sessionId replies = t.completed modules sessionId replies := by
  have hanswer : s.answerTo sessionId replies = ⟨true,sessionId,true,none⟩ := by
    unfold answerTo
    rw [hthread]
    rfl
  have hreplies : s.repliesAfter replies = replies := by
    unfold repliesAfter
    rw [hthread]
    rfl
  rw [completed_step (hanswer.symm ▸ h), hreplies]

/-- A section that takes the next reply. -/
theorem completed_reply (hthread : s.connectThread.receives = true)
    (h : s.initializeConnection modules ⟨true,sessionId,true,replies.head?.join⟩ = some t) :
    s.completed modules sessionId replies = t.completed modules sessionId replies.tail := by
  have hanswer : s.answerTo sessionId replies = ⟨true,sessionId,true,replies.head?.join⟩ := by
    unfold answerTo
    rw [hthread]
    rfl
  have hreplies : s.repliesAfter replies = replies.tail := by
    unfold repliesAfter
    rw [hthread]
    rfl
  rw [completed_step (hanswer.symm ▸ h), hreplies]

omit [BufferType β] in
theorem eq_cons_of_head {message : ServerMessage β} (h : replies.head?.join = some message) :
    ∃ tail, replies = some message :: tail := by
  cases replies with
  | nil => cases h
  | cons reply tail => exact ⟨tail,congrArg (· :: tail) h⟩

theorem completed_finished {ok : Bool} (h : s.connectThread = .finished ok) :
    s.completed modules sessionId replies = s := by
  unfold completed
  rw [h]
  rfl

theorem fail_completed : s.fail.completed modules sessionId replies = s.fail := completed_finished rfl

/-- It is a run of the connection that ends with the sequence. -/
theorem completed_exec (s : ExternalConnection β) (replies : List (Option (ServerMessage β))) :
    ∃ answers : List (Answer β), exec (connectionStep modules) s (answers.map .thread) =
        some (s.completed modules sessionId replies) ∧
      ∃ ok, (s.completed modules sessionId replies).connectThread = .finished ok := by
  induction hleft : s.connectThread.left using Nat.strong_induction_on generalizing s replies with
  | _ left ih =>
    cases hs : s.initializeConnection modules (s.answerTo sessionId replies) with
    | none =>
      obtain ⟨ok,hfinished⟩ := initializeConnection_eq_none hs
      rw [completed_finished hfinished]
      exact ⟨[],rfl,ok,hfinished⟩
    | some t =>
      rw [completed_step hs]
      obtain ⟨answers,hexec,hfinished⟩ :=
        ih t.connectThread.left (hleft ▸ initializeConnection_left hs) t (s.repliesAfter replies) rfl
      exact ⟨s.answerTo sessionId replies :: answers,exec_cons_eq_some.mpr ⟨t,hs,hexec⟩,hfinished⟩

/-! ## The replies that are accepted -/

omit [BufferType β] in
/-- The answer to a command for a device of a module of the connection. -/
def responseType (modules : Modules β) (connectedDevices : List DeviceIdentification)
    (device : DeviceIdentification) : CommandResponseType :=
  if connectedDevices.any (SentMessagesHandler.sameDevice device) then .OK
  else
    match modules device.module_ with
    | none => .DEVICE_NOT_CONNECTED
    | some module_ =>
      if module_.isDeviceTypeSupported device.deviceType ≠ .OK then .DEVICE_NOT_SUPPORTED
      else .DEVICE_NOT_CONNECTED

/-- A reply of the second step. -/
def statusReply (sessionId : String) (counter : UInt32) : Option (ServerMessage β) :=
  some (.statusResponse sessionId true counter)

/-- A reply of the third step. -/
def commandReply (sessionId : String) (command : UInt32 × DeviceCommand β) : Option (ServerMessage β) :=
  some (.command sessionId command.1 command.2)

omit [BufferType β] in
/-- A command that `handleCommand` accepts after one with counter `previous`. -/
def Follows (modules : Modules β) (previous : UInt32) (command : UInt32 × DeviceCommand β) : Prop :=
  (previous = 0 ∨ previous + 1 = command.1) ∧ (modules command.2.device.module_).isSome

omit [BufferType β] in
/-- The replies of the third step, which follow the command with counter `previous`. -/
structure TakesCommands (modules : Modules β) (sessionId : String) (previous : UInt32) (count : ℕ)
    (replies : List (Option (ServerMessage β))) (commands : List (UInt32 × DeviceCommand β))
    (rest : List (Option (ServerMessage β))) : Prop where
  length : commands.length = count
  follow : (previous :: commands.map Prod.fst).IsChain fun p q => p = 0 ∨ p + 1 = q
  served : ∀ command ∈ commands, (modules command.2.device.module_).isSome
  replies : replies = commands.map (commandReply sessionId) ++ rest

def Refused (t : ExternalConnection β) : Prop :=
  t.connectThread = .finished false ∧ t.state_ = .NOT_CONNECTED

/-! ## The third step -/

omit [BufferType β] in
/-- The state after a command that is accepted. -/
def accept (modules : Modules β) (s : ExternalConnection β) (command : UInt32 × DeviceCommand β) :
    ExternalConnection β :=
  { s with
    serverMessageCounter_ := command.1
    commandQueue_ :=
      if s.sentMessagesHandler_.isDeviceConnected command.2.device then s.commandQueue_ ++ [command.2]
      else s.commandQueue_
    sent := s.sent ++ [.commandResponse s.sessionId_
      (responseType modules s.sentMessagesHandler_.connectedDevices_ command.2.device) command.1] }

/-- The state after the last section. -/
def established (s : ExternalConnection β) : ExternalConnection β :=
  { s with state_ := .CONNECTED }.clearErrorAggregators.goto (.finished true)

omit [BufferType β] in
theorem foldl_goto {γ : Type} {f : ExternalConnection β → γ → ExternalConnection β}
    (hf : ∀ s c thread, f (goto s thread) c = (f s c).goto thread) (cs : List γ) (s : ExternalConnection β)
    (thread : ConnectThread β) : cs.foldl f (s.goto thread) = (cs.foldl f s).goto thread := by
  induction cs generalizing s with
  | nil => rfl
  | cons c cs ih =>
    rw [List.foldl_cons, List.foldl_cons, hf]
    exact ih (f s c)

omit [BufferType β] in
theorem handleCommand_accept {command : UInt32 × DeviceCommand β}
    (h : Follows modules s.serverMessageCounter_ command) :
    s.handleCommand modules s.sessionId_ command.1 command.2 = (.OK,s.accept modules command) := by
  obtain ⟨hcounter,hserved⟩ := h
  obtain ⟨module_,hmodule⟩ := Option.isSome_iff_exists.mp hserved
  unfold handleCommand accept responseType SentMessagesHandler.isDeviceConnected
  rw [if_neg (not_not_intro rfl), if_neg fun h => hcounter.elim h.1 h.2]
  simp only [hmodule]
  split
  · rfl
  · split <;> rfl

omit [BufferType β] in
theorem receiveCommand_accept {command : UInt32 × DeviceCommand β} (commands : ℕ)
    (h : Follows modules s.serverMessageCounter_ command) :
    s.receiveCommand modules devices commands (commandReply s.sessionId_ command) =
      (s.accept modules command).goto (.commanding devices commands) := by
  simp only [receiveCommand, commandReply, handleCommand_accept h]

omit [BufferType β] in
theorem receiveCommand_refused (devices : List DeviceIdentification) (commands : ℕ)
    {received : Option (ServerMessage β)} (h : ¬∃ command, received = commandReply s.sessionId_ command ∧
      Follows modules s.serverMessageCounter_ command) :
    Refused (s.receiveCommand modules devices commands received) := by
  unfold receiveCommand
  split
  · rename_i session messageCounter deviceCommand
    split
    · rename_i hhandled
      obtain ⟨rfl,hcounter,hserved⟩ := (s.handleCommand_ok modules).mp (congrArg Prod.fst hhandled)
      exact absurd ⟨(messageCounter,deviceCommand),rfl,hcounter,hserved⟩ h
    · exact ⟨rfl,rfl⟩
  · exact ⟨rfl,rfl⟩

omit [BufferType β] in
theorem takesCommands_cons {previous : UInt32} {count : ℕ} {command : UInt32 × DeviceCommand β}
    {commands : List (UInt32 × DeviceCommand β)} {rest : List (Option (ServerMessage β))} :
    TakesCommands modules sessionId previous (count + 1) replies (command :: commands) rest ↔
      Follows modules previous command ∧ ∃ tail, replies = commandReply sessionId command :: tail ∧
        TakesCommands modules sessionId command.1 count tail commands rest := by
  constructor
  · rintro ⟨hlength,hcounters,hserved,rfl⟩
    obtain ⟨hcounter,hcounters⟩ := List.isChain_cons_cons.mp hcounters
    refine ⟨⟨hcounter,hserved command List.mem_cons_self⟩,_,rfl,Nat.succ.inj hlength,hcounters,?_,rfl⟩
    intro c hc
    exact hserved c (List.mem_cons_of_mem command hc)
  · rintro ⟨⟨hcounter,hserved⟩,tail,rfl,hlength,hcounters,hserveds,rfl⟩
    refine ⟨congrArg Nat.succ hlength,List.isChain_cons_cons.mpr ⟨hcounter,hcounters⟩,?_,rfl⟩
    intro c hc
    obtain rfl | hc := List.mem_cons.mp hc
    · exact hserved
    · exact hserveds c hc

theorem completed_establishing (hthread : s.connectThread = .commanding devices 0) :
    s.completed modules sessionId replies = s.established := by
  have hestablish : s.initializeConnection modules ⟨true,sessionId,true,none⟩ =
      some (s.goto (.establishing devices)) := by
    unfold initializeConnection
    rw [hthread]
  rw [completed_next (by rw [hthread]; rfl) hestablish, completed_next rfl rfl, completed_next rfl rfl]
  exact completed_finished rfl

theorem completed_commanding (modules : Modules β) (sessionId : String) (replies : List (Option (ServerMessage β)))
    {count : ℕ}
    (hthread : s.connectThread = .commanding devices count) :
    (∃ commands rest, TakesCommands modules s.sessionId_ s.serverMessageCounter_ count replies commands rest ∧
        s.completed modules sessionId replies = (commands.foldl (accept modules) s).established) ∨
      (¬∃ commands rest, TakesCommands modules s.sessionId_ s.serverMessageCounter_ count replies commands rest) ∧
        Refused (s.completed modules sessionId replies) := by
  induction count generalizing s replies with
  | zero => exact .inl ⟨[],replies,⟨rfl,.singleton _,by simp,rfl⟩,completed_establishing hthread⟩
  | succ count ih =>
    have hreceive : s.initializeConnection modules ⟨true,sessionId,true,replies.head?.join⟩ =
        some (s.receiveCommand modules devices count replies.head?.join) := by
      unfold initializeConnection
      rw [hthread]
    rw [completed_reply (by rw [hthread]; rfl) hreceive]
    by_cases haccepted : ∃ command, replies.head?.join = commandReply s.sessionId_ command ∧
        Follows modules s.serverMessageCounter_ command
    · obtain ⟨command,hreply,hfollows⟩ := haccepted
      obtain ⟨tail,rfl⟩ := eq_cons_of_head hreply
      rw [hreply, receiveCommand_accept count hfollows]
      obtain ⟨commands,rest,htakes,hcompleted⟩ | ⟨hno,hrefused⟩ := @ih
        ((s.accept modules command).goto (.commanding devices count)) tail rfl
      · refine .inl ⟨command :: commands,rest,takesCommands_cons.mpr ⟨hfollows,tail,rfl,htakes⟩,?_⟩
        refine hcompleted.trans ?_
        rw [foldl_goto fun _ _ _ => rfl]
        rfl
      · refine .inr ⟨?_,hrefused⟩
        rintro ⟨commands,rest,htakes⟩
        cases commands with
        | nil => exact absurd htakes.length (by simp)
        | cons command' commands =>
          obtain ⟨-,tail',htail,htakes⟩ := takesCommands_cons.mp htakes
          obtain ⟨hhead,rfl⟩ := List.cons.inj htail
          obtain ⟨-,hcounter,hcommand⟩ := ServerMessage.command.inj (Option.some.inj hhead)
          obtain rfl : command = command' := Prod.ext hcounter hcommand
          exact hno ⟨commands,rest,htakes⟩
    · refine .inr ⟨?_,?_⟩
      · rintro ⟨commands,rest,htakes⟩
        cases commands with
        | nil => exact absurd htakes.length (by simp)
        | cons command commands =>
          obtain ⟨hfollows,tail,rfl,-⟩ := takesCommands_cons.mp htakes
          exact haccepted ⟨command,rfl,hfollows⟩
      · have hrefused := receiveCommand_refused devices count haccepted
        rw [completed_finished hrefused.1]
        exact hrefused

/-! ## The second step -/

omit [BufferType β] in
/-- The state after a response that is accepted. -/
def acknowledge (s : ExternalConnection β) (counter : UInt32) : ExternalConnection β :=
  { s with sentMessagesHandler_ := (s.sentMessagesHandler_.acknowledgeStatus counter).2 }

omit [BufferType β] in
theorem receiveStatusResponse_accept (responses : ℕ) (counter : UInt32) :
    s.receiveStatusResponse devices responses (statusReply s.sessionId_ counter) =
      (s.acknowledge counter).goto (.acknowledging devices responses) := by
  simp [receiveStatusResponse, statusReply, acknowledge]

omit [BufferType β] in
theorem receiveStatusResponse_refused (devices : List DeviceIdentification) (responses : ℕ)
    {received : Option (ServerMessage β)} (h : ¬∃ counter, received = statusReply s.sessionId_ counter) :
    Refused (s.receiveStatusResponse devices responses received) := by
  unfold receiveStatusResponse
  split
  · rename_i session ok messageCounter
    split
    · exact ⟨rfl,rfl⟩
    · rename_i hok
      split
      · exact ⟨rfl,rfl⟩
      · rename_i hsession
        obtain rfl := not_ne_iff.mp hsession
        cases ok with
        | false => exact absurd rfl hok
        | true => exact absurd ⟨messageCounter,rfl⟩ h
  · exact ⟨rfl,rfl⟩

theorem completed_acknowledging (modules : Modules β) (sessionId : String) (replies : List (Option (ServerMessage β)))
    {count : ℕ}
    (hthread : s.connectThread = .acknowledging devices count) :
    (∃ (counters : List UInt32) (rest : _), counters.length = count ∧
        replies = counters.map (statusReply s.sessionId_) ++ rest ∧
        s.completed modules sessionId replies =
          ((counters.foldl acknowledge s).goto (.commanding devices devices.length)).completed
            modules sessionId rest) ∨
      (¬∃ (counters : List UInt32) (rest : _), counters.length = count ∧
          replies = counters.map (statusReply s.sessionId_) ++ rest) ∧
        Refused (s.completed modules sessionId replies) := by
  induction count generalizing s replies with
  | zero =>
    have hcommand : s.initializeConnection modules ⟨true,sessionId,true,none⟩ =
        some (s.goto (.commanding devices devices.length)) := by
      unfold initializeConnection
      rw [hthread]
    exact .inl ⟨[],replies,rfl,rfl,completed_next (by rw [hthread]; rfl) hcommand⟩
  | succ count ih =>
    have hreceive : s.initializeConnection modules ⟨true,sessionId,true,replies.head?.join⟩ =
        some (s.receiveStatusResponse devices count replies.head?.join) := by
      unfold initializeConnection
      rw [hthread]
    rw [completed_reply (by rw [hthread]; rfl) hreceive]
    by_cases haccepted : ∃ counter, replies.head?.join = statusReply s.sessionId_ counter
    · obtain ⟨counter,hreply⟩ := haccepted
      obtain ⟨tail,rfl⟩ := eq_cons_of_head hreply
      rw [hreply, receiveStatusResponse_accept]
      obtain ⟨counters,rest,hlength,htail,hcompleted⟩ | ⟨hno,hrefused⟩ :=
        @ih ((s.acknowledge counter).goto (.acknowledging devices count)) tail rfl
      · refine .inl ⟨counter :: counters,rest,congrArg Nat.succ hlength,congrArg (_ :: ·) htail,?_⟩
        refine hcompleted.trans ?_
        rw [foldl_goto fun _ _ _ => rfl]
        rfl
      · refine .inr ⟨?_,hrefused⟩
        rintro ⟨counters,rest,hlength,hreplies⟩
        cases counters with
        | nil => exact absurd hlength (by simp)
        | cons counter' counters =>
          exact hno ⟨counters,rest,Nat.succ.inj hlength,(List.cons.inj hreplies).2⟩
    · refine .inr ⟨?_,?_⟩
      · rintro ⟨counters,rest,hlength,rfl⟩
        cases counters with
        | nil => exact absurd hlength (by simp)
        | cons counter counters => exact haccepted ⟨counter,rfl⟩
      · have hrefused := receiveStatusResponse_refused devices count haccepted
        rw [completed_finished hrefused.1]
        exact hrefused

/-! ## The statuses that are sent -/

/-- The status of a device as its error aggregator has it. -/
def connectingStatus (s : ExternalConnection β) (sessionId : String) (counter : UInt32)
    (device : DeviceIdentification) : Status β :=
  let deviceState := ((s.errorAggregators_ device.module_).devices_ device.key).getD DeviceState.blank
  ⟨sessionId,.CONNECTING,counter,⟨device,deviceState.lastStatus⟩,
    if isAllocated deviceState.errorMessage then deviceState.errorMessage else BufferType.unallocated⟩

/-- One status for each of the devices. -/
def connectingStatuses (s : ExternalConnection β) (sessionId : String) (devices : List DeviceIdentification) :
    List (Status β) :=
  devices.mapIdx fun i device =>
    s.connectingStatus sessionId (s.clientMessageCounter_ + UInt32.ofNat (i + 1)) device

/-- The state after the status of a registered device is sent. -/
def announce (s : ExternalConnection β) (device : DeviceIdentification) : ExternalConnection β :=
  let status := s.connectingStatus s.sessionId_ (s.clientMessageCounter_ + 1) device
  { s with
    clientMessageCounter_ := s.clientMessageCounter_ + 1
    sentMessagesHandler_ := (s.sentMessagesHandler_.addDeviceAsConnected device).addNotAckedStatus status
    sent := s.sent ++ [.status status] }

theorem connectingStatuses_cons (s : ExternalConnection β) (sessionId : String) (device : DeviceIdentification)
    (devices : List DeviceIdentification) :
    s.connectingStatuses sessionId (device :: devices) =
      s.connectingStatus sessionId (s.clientMessageCounter_ + 1) device ::
        (s.announce device).connectingStatuses sessionId devices := by
  unfold connectingStatuses
  rw [List.mapIdx_cons]
  congr 1
  refine List.mapIdx_eq_mapIdx_iff.mpr fun i hi => ?_
  have hcounter : (s.announce device).clientMessageCounter_ + UInt32.ofNat (i + 1) =
      s.clientMessageCounter_ + UInt32.ofNat (i + 1 + 1) := by
    rw [UInt32.ofNat_add (i + 1), UInt32.add_comm (UInt32.ofNat (i + 1)), ← UInt32.add_assoc]
    rfl
  rw [hcounter]
  rfl

/-- Announcing devices sends their statuses and leaves the rest of the state as it was. -/
theorem foldl_announce (s : ExternalConnection β) (devices : List DeviceIdentification) :
    let t := devices.foldl announce s
    t.sessionId_ = s.sessionId_ ∧ t.serverMessageCounter_ = s.serverMessageCounter_ ∧
      t.commandQueue_ = s.commandQueue_ ∧
      t.sent = s.sent ++ (s.connectingStatuses s.sessionId_ devices).map .status ∧
      t.sentMessagesHandler_ =
        ⟨s.sentMessagesHandler_.notAckedStatuses_ ++ s.connectingStatuses s.sessionId_ devices,
          s.sentMessagesHandler_.connectedDevices_ ++ devices,s.sentMessagesHandler_.acknowledged⟩ := by
  induction devices generalizing s with
  | nil =>
    simp [connectingStatuses]
  | cons device devices ih =>
    obtain ⟨hsession,hcounter,hqueue,hsent,hhandler⟩ := ih (s.announce device)
    refine ⟨hsession,hcounter,hqueue,?_,?_⟩
    · refine hsent.trans ?_
      rw [connectingStatuses_cons, List.map_cons]
      simp only [announce, List.append_assoc, List.singleton_append]
    · refine hhandler.trans ?_
      rw [connectingStatuses_cons]
      simp only [announce, SentMessagesHandler.addDeviceAsConnected, SentMessagesHandler.addNotAckedStatus,
        List.append_assoc, List.singleton_append]

theorem sendStatus_announce {device : DeviceIdentification} {deviceState : DeviceState β}
    (hserved : (modules device.module_).isSome)
    (hentry : (s.errorAggregators_ device.module_).devices_ device.key = some deviceState) :
    s.sendStatus modules ⟨device,deviceState.lastStatus⟩ .CONNECTING
        (if isAllocated deviceState.errorMessage then deviceState.errorMessage else BufferType.unallocated)
        true = s.announce device := by
  have hregistered : s.isRegistered device = true := by
    unfold isRegistered
    rw [hentry]
    rfl
  have hsome : ¬(modules device.module_).isNone = true := by
    rw [Option.isNone_iff_eq_none, ← Option.not_isSome_iff_eq_none]
    exact not_not_intro hserved
  have hstatus : s.createStatus ⟨device,deviceState.lastStatus⟩ .CONNECTING
      (if isAllocated deviceState.errorMessage then deviceState.errorMessage else BufferType.unallocated) =
        s.connectingStatus s.sessionId_ (s.clientMessageCounter_ + 1) device := by
    simp only [createStatus, switched, hregistered, if_true, switchDeviceState, connectingStatus, hentry,
      Option.getD_some]
  unfold sendStatus announce
  rw [if_neg hsome]
  simp only [hstatus, hregistered, if_true, switched, switchDeviceState, sendMessage]

theorem completed_reading (modules : Modules β) (sessionId : String) (replies : List (Option (ServerMessage β)))
    {remaining : List DeviceIdentification}
    (hthread : s.connectThread = .reading devices remaining)
    (hserved : ∀ device ∈ remaining, (modules device.module_).isSome) :
    ((∀ device ∈ remaining, s.isRegistered device = true) ∧ s.completed modules sessionId replies =
        ((remaining.foldl announce s).goto (.acknowledging devices devices.length)).completed
          modules sessionId replies) ∨
      (¬∀ device ∈ remaining, s.isRegistered device = true) ∧ Refused (s.completed modules sessionId replies) := by
  induction remaining generalizing s with
  | nil =>
    have hacknowledge : s.initializeConnection modules ⟨true,sessionId,true,none⟩ =
        some (s.goto (.acknowledging devices devices.length)) := by
      unfold initializeConnection
      rw [hthread]
    exact .inl ⟨by simp,completed_next (by rw [hthread]; rfl) hacknowledge⟩
  | cons device remaining ih =>
    have hread : s.initializeConnection modules ⟨true,sessionId,true,none⟩ =
        some (s.readStatus devices device remaining) := by
      unfold initializeConnection
      rw [hthread]
    rw [completed_next (by rw [hthread]; rfl) hread]
    obtain ⟨hunregistered,hfail⟩ | ⟨deviceState,hentry,hsending⟩ := s.readStatus_cases devices device remaining
    · rw [hfail, fail_completed]
      exact .inr ⟨fun h => hunregistered (h device List.mem_cons_self),rfl,rfl⟩
    · have hregistered : s.isRegistered device = true := by
        unfold isRegistered
        rw [hentry]
        rfl
      have hannounce (thread : ConnectThread β) := sendStatus_announce (s := s.goto thread)
        (hserved device List.mem_cons_self) hentry
      rw [hsending, completed_next rfl rfl]
      simp only [hannounce]
      have hsame (e : DeviceIdentification) :
          ((s.announce device).goto (.reading devices remaining)).isRegistered e = s.isRegistered e := rfl
      have hrest := ih (s := (s.announce device).goto (.reading devices remaining)) rfl
        fun e he => hserved e (List.mem_cons_of_mem device he)
      rw [foldl_goto fun _ _ _ => rfl] at hrest
      simp only [hsame] at hrest
      simp only [List.forall_mem_cons, hregistered, true_and]
      exact hrest

/-! ## The first step, and all of them -/

omit [BufferType β] in
/-- The state after the list of devices is sent. -/
def opened (s : ExternalConnection β) (sessionId : String) (devices : List DeviceIdentification) :
    ExternalConnection β :=
  { s with
    state_ := .CONNECTING
    sessionId_ := sessionId
    sent := s.sent ++ [.connect sessionId devices] }

theorem completed_opening (modules : Modules β) (sessionId : String) (replies : List (Option (ServerMessage β)))
    (hthread : s.connectThread = .opening devices) :
    (replies.head?.join = some (.connectResponse sessionId false) ∧ s.completed modules sessionId replies =
        ((s.opened sessionId devices).goto (.reading devices devices)).completed modules sessionId replies.tail) ∨
      (¬replies.head?.join = some (.connectResponse sessionId false)) ∧
        Refused (s.completed modules sessionId replies) := by
  have hopen : s.initializeConnection modules ⟨true,sessionId,true,none⟩ =
      some ({ s with state_ := .CONNECTING }.goto (.connecting devices)) := by
    unfold initializeConnection openChannel
    rw [hthread]
    by_cases hstate : s.state_ = .NOT_INITIALIZED
    · simp only [hstate, if_true, goto]
    · simp only [hstate, if_true, if_false, goto]
  rw [completed_next (by rw [hthread]; rfl) hopen]
  rw [completed_reply rfl rfl]
  by_cases haccepted : replies.head?.join = some (.connectResponse sessionId false)
  · refine .inl ⟨haccepted,?_⟩
    simp [connectMessageHandle, haccepted, sendMessage, opened, goto]
  · refine .inr ⟨haccepted,?_⟩
    have hrefused : Refused (({ s with state_ := .CONNECTING }.goto (.connecting devices)).connectMessageHandle
        devices ⟨true,sessionId,true,replies.head?.join⟩) := by
      simp only [connectMessageHandle]
      split
      · exact ⟨rfl,rfl⟩
      · split
        · rename_i session alreadyLogged hreply
          split
          · exact ⟨rfl,rfl⟩
          · rename_i hsession
            obtain rfl : session = sessionId := not_ne_iff.mp hsession
            cases alreadyLogged with
            | true => exact ⟨rfl,rfl⟩
            | false => exact absurd hreply haccepted
        · exact ⟨rfl,rfl⟩
    rw [completed_finished hrefused.1]
    exact hrefused

omit [BufferType β] in
/-- The replies begin with a connect response for the session, `count` status responses with these
counters, and `count` of these commands, the first of which follows a command with counter `previous`. -/
structure Accepts (modules : Modules β) (sessionId : String) (previous : UInt32) (count : ℕ)
    (replies : List (Option (ServerMessage β))) (counters : List UInt32)
    (commands : List (UInt32 × DeviceCommand β)) : Prop where
  responses : counters.length = count
  length : commands.length = count
  follow : (previous :: commands.map Prod.fst).IsChain fun p q => p = 0 ∨ p + 1 = q
  served : ∀ command ∈ commands, (modules command.2.device.module_).isSome
  replies : (some (.connectResponse sessionId false) ::
    (counters.map (statusReply sessionId) ++ commands.map (commandReply sessionId))) <+: replies

omit [BufferType β] in
theorem Accepts.unique {previous : UInt32} {count : ℕ} {counters counters' : List UInt32}
    {commands commands' : List (UInt32 × DeviceCommand β)}
    (h : Accepts modules sessionId previous count replies counters commands)
    (h' : Accepts modules sessionId previous count replies counters' commands') :
    counters = counters' ∧ commands = commands' := by
  have hlength : (counters.map (statusReply (β := β) sessionId) ++ commands.map (commandReply sessionId)).length =
      (counters'.map (statusReply (β := β) sessionId) ++ commands'.map (commandReply sessionId)).length := by
    simp only [List.length_append, List.length_map, h.responses, h.length, h'.responses, h'.length]
  have heq := (List.prefix_of_prefix_length_le h.replies h'.replies
    (congrArg Nat.succ hlength).le).eq_of_length (congrArg Nat.succ hlength)
  obtain ⟨hcounters,hcommands⟩ := List.append_inj (List.cons.inj heq).2
    (by rw [List.length_map, List.length_map, h.responses, h'.responses])
  refine ⟨List.map_injective_iff.mpr ?_ hcounters,List.map_injective_iff.mpr ?_ hcommands⟩
  · intro c c' hc
    exact (ServerMessage.statusResponse.inj (Option.some.inj hc)).2.2
  · intro c c' hc
    obtain ⟨-,hcounter,hcommand⟩ := ServerMessage.command.inj (Option.some.inj hc)
    exact Prod.ext hcounter hcommand

/-- The state after a whole sequence with these replies. -/
def connected (modules : Modules β) (s : ExternalConnection β) (sessionId : String)
    (devices : List DeviceIdentification) (counters : List UInt32)
    (commands : List (UInt32 × DeviceCommand β)) : ExternalConnection β :=
  (commands.foldl (accept modules)
    (counters.foldl acknowledge (devices.foldl announce (s.opened sessionId devices)))).established

omit [BufferType β] in
theorem foldl_acknowledge (s : ExternalConnection β) (counters : List UInt32) :
    let t := counters.foldl acknowledge s
    t.sessionId_ = s.sessionId_ ∧ t.serverMessageCounter_ = s.serverMessageCounter_ ∧
      t.commandQueue_ = s.commandQueue_ ∧ t.sent = s.sent ∧
      t.sentMessagesHandler_.connectedDevices_ = s.sentMessagesHandler_.connectedDevices_ := by
  induction counters generalizing s with
  | nil => exact ⟨rfl,rfl,rfl,rfl,rfl⟩
  | cons counter counters ih =>
    obtain ⟨hsession,hcounter,hqueue,hsent,hdevices⟩ := ih (s.acknowledge counter)
    exact ⟨hsession,hcounter,hqueue,hsent,hdevices.trans (acknowledgeStatus_connectedDevices_ _ counter)⟩

omit [BufferType β] in
theorem foldl_accept (modules : Modules β) (s : ExternalConnection β) (commands : List (UInt32 × DeviceCommand β)) :
    let t := commands.foldl (accept modules) s
    t.sentMessagesHandler_ = s.sentMessagesHandler_ ∧
      t.commandQueue_ = s.commandQueue_ ++
        (commands.map Prod.snd).filter (fun command => s.sentMessagesHandler_.isDeviceConnected command.device) ∧
      t.sent = s.sent ++ commands.map fun command =>
        .commandResponse s.sessionId_
          (responseType modules s.sentMessagesHandler_.connectedDevices_ command.2.device) command.1 := by
  induction commands generalizing s with
  | nil => simp
  | cons command commands ih =>
    obtain ⟨hhandler,hqueue,hsent⟩ := ih (accept modules s command)
    refine ⟨hhandler,hqueue.trans ?_,hsent.trans ?_⟩
    · simp only [accept, List.map_cons, List.filter_cons]
      split <;> simp
    · simp [accept]

omit [BufferType β] in
theorem accepts_iff {previous : UInt32} {count : ℕ} {counters : List UInt32}
    {commands : List (UInt32 × DeviceCommand β)} {tail : List (Option (ServerMessage β))} :
    Accepts modules sessionId previous count (some (.connectResponse sessionId false) :: tail) counters commands ↔
      ∃ responses rest, counters.length = count ∧ tail = counters.map (statusReply sessionId) ++ responses ∧
        TakesCommands modules sessionId previous count responses commands rest := by
  constructor
  · rintro ⟨hresponses,hlength,hfollow,hserved,rest,hreplies⟩
    refine ⟨commands.map (commandReply sessionId) ++ rest,rest,hresponses,?_,hlength,hfollow,hserved,rfl⟩
    rw [← List.append_assoc]
    exact (List.cons.inj hreplies).2.symm
  · rintro ⟨responses,rest,hresponses,rfl,hlength,hfollow,hserved,rfl⟩
    refine ⟨hresponses,hlength,hfollow,hserved,rest,?_⟩
    rw [List.cons_append, List.append_assoc]

/-- The second step, once its statuses are sent, and the third one. -/
theorem completed_responses (modules : Modules β) (sessionId : String) (replies : List (Option (ServerMessage β)))
    (hthread : s.connectThread = .acknowledging devices devices.length) :
    (∃ counters commands, Accepts modules s.sessionId_ s.serverMessageCounter_ devices.length
          (some (.connectResponse s.sessionId_ false) :: replies) counters commands ∧
        s.completed modules sessionId replies =
          (commands.foldl (accept modules) (counters.foldl acknowledge s)).established) ∨
      (¬∃ counters commands, Accepts modules s.sessionId_ s.serverMessageCounter_ devices.length
          (some (.connectResponse s.sessionId_ false) :: replies) counters commands) ∧
        Refused (s.completed modules sessionId replies) := by
  simp only [accepts_iff]
  obtain ⟨counters,responses,hlength,rfl,hacknowledged⟩ | ⟨hno,hrefused⟩ :=
    completed_acknowledging modules sessionId replies hthread
  · rw [hacknowledged]
    obtain ⟨hsession,hprevious,-,-,-⟩ := foldl_acknowledge s counters
    obtain ⟨commands,rest,htakes,hcommanded⟩ | ⟨hno,hrefused⟩ :=
      completed_commanding modules sessionId responses
        (s := (counters.foldl acknowledge s).goto (.commanding devices devices.length)) rfl
    · simp only [goto, hsession, hprevious] at htakes
      refine .inl ⟨counters,commands,⟨responses,rest,hlength,rfl,htakes⟩,hcommanded.trans ?_⟩
      rw [foldl_goto fun _ _ _ => rfl]
      rfl
    · simp only [goto, hsession, hprevious] at hno
      refine .inr ⟨?_,hrefused⟩
      rintro ⟨counters',commands,responses',rest,hlength',hreplies,htakes⟩
      obtain ⟨-,rfl⟩ := List.append_inj hreplies (by rw [List.length_map, List.length_map, hlength, hlength'])
      exact hno ⟨commands,rest,htakes⟩
  · refine .inr ⟨?_,hrefused⟩
    rintro ⟨counters,commands,responses,rest,hlength,hreplies,-⟩
    exact hno ⟨counters,responses,hlength,hreplies⟩

theorem completed_cases (modules : Modules β) (sessionId : String) (replies : List (Option (ServerMessage β)))
    (hthread : s.connectThread = .opening devices)
    (hserved : ∀ device ∈ devices, (modules device.module_).isSome) :
    (∃ counters commands, (∀ device ∈ devices, s.isRegistered device = true) ∧
        Accepts modules sessionId s.serverMessageCounter_ devices.length replies counters commands ∧
        s.completed modules sessionId replies = connected modules s sessionId devices counters commands) ∨
      (¬∃ counters commands, (∀ device ∈ devices, s.isRegistered device = true) ∧
          Accepts modules sessionId s.serverMessageCounter_ devices.length replies counters commands) ∧
        Refused (s.completed modules sessionId replies) := by
  obtain ⟨hreply,hopened⟩ | ⟨hreply,hrefused⟩ := completed_opening modules sessionId replies hthread
  · obtain ⟨tail,rfl⟩ := eq_cons_of_head hreply
    rw [hopened, List.tail_cons]
    obtain ⟨hregistered,hread⟩ | ⟨hunregistered,hrefused⟩ := completed_reading modules sessionId tail
      (s := (s.opened sessionId devices).goto (.reading devices devices)) rfl hserved
    · rw [hread, foldl_goto fun _ _ _ => rfl]
      obtain ⟨hsession,hprevious,-,-,-⟩ := foldl_announce (s.opened sessionId devices) devices
      obtain ⟨counters,commands,haccepts,hcompleted⟩ | ⟨hno,hrefused⟩ :=
        completed_responses modules sessionId tail
          (s := (devices.foldl announce (s.opened sessionId devices)).goto
            (.acknowledging devices devices.length)) rfl
      · simp only [goto, hsession, hprevious] at haccepts
        refine .inl ⟨counters,commands,hregistered,haccepts,hcompleted.trans ?_⟩
        rw [foldl_goto fun _ _ _ => rfl, foldl_goto fun _ _ _ => rfl]
        rfl
      · simp only [goto, hsession, hprevious] at hno
        refine .inr ⟨?_,hrefused⟩
        rintro ⟨counters,commands,-,haccepts⟩
        exact hno ⟨counters,commands,haccepts⟩
    · refine .inr ⟨?_,hrefused⟩
      rintro ⟨counters,commands,hregistered,-⟩
      exact hunregistered hregistered
  · refine .inr ⟨?_,hrefused⟩
    rintro ⟨counters,commands,-,haccepts⟩
    obtain ⟨rest,rfl⟩ := haccepts.replies
    exact hreply rfl

/-- The state after a whole sequence, where it differs from the one before by more than the errors. -/
theorem connected_sent (modules : Modules β) (s : ExternalConnection β) (sessionId : String)
    (devices : List DeviceIdentification) (counters : List UInt32)
    (commands : List (UInt32 × DeviceCommand β)) :
    let t := connected modules s sessionId devices counters commands
    t.sent = s.sent ++ .connect sessionId devices ::
        ((s.connectingStatuses sessionId devices).map .status ++ commands.map fun command =>
          .commandResponse sessionId (responseType modules
            (s.sentMessagesHandler_.connectedDevices_ ++ devices) command.2.device) command.1) ∧
      t.commandQueue_ = s.commandQueue_ ++ (commands.map Prod.snd).filter fun command =>
        (s.sentMessagesHandler_.connectedDevices_ ++ devices).any (SentMessagesHandler.sameDevice command.device) := by
  obtain ⟨hsession,-,hqueue,hsent,hhandler⟩ := foldl_announce (s.opened sessionId devices) devices
  obtain ⟨hsession',-,hqueue',hsent',hdevices⟩ :=
    foldl_acknowledge (devices.foldl announce (s.opened sessionId devices)) counters
  obtain ⟨-,hqueue'',hsent''⟩ :=
    foldl_accept modules (counters.foldl acknowledge (devices.foldl announce (s.opened sessionId devices))) commands
  rw [hhandler] at hdevices
  constructor
  · refine hsent''.trans ?_
    rw [hsent', hsent, hsession', hsession, hdevices]
    simp only [opened, List.append_assoc, List.singleton_append]
    rfl
  · refine hqueue''.trans ?_
    rw [hqueue', hqueue]
    unfold SentMessagesHandler.isDeviceConnected
    rw [hdevices]
    rfl

/-- `initializeConnection` returns `OK` and ends `CONNECTED` for exactly the replies that are
accepted, and then this is what it has sent; for all others it returns `NOT_OK` and ends
`NOT_CONNECTED`. -/
theorem completed_accepts_iff (hthread : s.connectThread = .opening devices)
    (hclient : s.clientMessageCounter_ = 0) (hserver : s.serverMessageCounter_ = 0)
    (hregistered : ∀ device ∈ devices, (modules device.module_).isSome ∧ s.isRegistered device = true)
    (sessionId : String) (replies : List (Option (ServerMessage β))) :
    let t := s.completed modules sessionId replies
    (t.connectThread = .finished true ∧ t.state_ = .CONNECTED ↔
        ∃ counters commands, Accepts modules sessionId 0 devices.length replies counters commands) ∧
      ((¬∃ counters commands, Accepts modules sessionId 0 devices.length replies counters commands) →
        t.connectThread = .finished false ∧ t.state_ = .NOT_CONNECTED) ∧
      ∀ counters commands, Accepts modules sessionId 0 devices.length replies counters commands →
        t.sent = s.sent ++ .connect sessionId devices ::
          ((devices.mapIdx fun i device =>
              s.connectingStatus sessionId (UInt32.ofNat (i + 1)) device).map .status ++
            commands.map fun command =>
              .commandResponse sessionId (responseType modules
                (s.sentMessagesHandler_.connectedDevices_ ++ devices) command.2.device) command.1) := by
  intro t
  have hstatuses : s.connectingStatuses sessionId devices =
      devices.mapIdx fun i device => s.connectingStatus sessionId (UInt32.ofNat (i + 1)) device := by
    unfold connectingStatuses
    rw [hclient]
    simp only [UInt32.zero_add]
  have hcases := completed_cases modules sessionId replies hthread
    fun device hdevice => (hregistered device hdevice).1
  have hall : ∀ device ∈ devices, s.isRegistered device = true :=
    fun device hdevice => (hregistered device hdevice).2
  rw [hserver] at hcases
  obtain ⟨counters,commands,-,haccepts,hcompleted⟩ | ⟨hno,hrefused⟩ := hcases
  · refine ⟨iff_of_true ?_ ⟨counters,commands,haccepts⟩,fun h => absurd ⟨counters,commands,haccepts⟩ h,?_⟩
    · exact ⟨congrArg connectThread hcompleted,congrArg state_ hcompleted⟩
    · intro counters' commands' haccepts'
      obtain ⟨rfl,rfl⟩ := haccepts.unique haccepts'
      rw [← hstatuses]
      exact (congrArg sent hcompleted).trans (connected_sent modules s sessionId devices counters commands).1
  · have hrefuses : ¬∃ counters commands,
        Accepts modules sessionId 0 devices.length replies counters commands :=
      fun ⟨counters,commands,haccepts⟩ => hno ⟨counters,commands,hall,haccepts⟩
    refine ⟨iff_of_false ?_ hrefuses,fun _ => hrefused,fun counters commands haccepts =>
      absurd ⟨counters,commands,haccepts⟩ hrefuses⟩
    rintro ⟨hok,-⟩
    cases hrefused.1.symm.trans hok

/-- The camera has sent a status and its connect sequence starts. -/
def cameraOpening : ExternalConnection (List UInt8) :=
  { init.fillErrorAggregator moduleOne ⟨camera,[7]⟩ with connectThread := .opening [camera] }

/-- What the server answers. -/
def cameraReplies : List (Option (ServerMessage (List UInt8))) :=
  [some (.connectResponse "session" false),some (.statusResponse "session" true 1),
    some (.command "session" 9 ⟨camera,[0]⟩)]

theorem completed_accepts_camera :
    let t := cameraOpening.completed moduleOne "session" cameraReplies
    (t.connectThread = .finished true ∧ t.state_ = .CONNECTED) ∧
      t.sent = [.connect "session" [camera],.status ⟨"session",.CONNECTING,1,⟨camera,[7]⟩,[7]⟩,
        .commandResponse "session" .OK 9] := by
  have haccepts : Accepts moduleOne "session" 0 [camera].length cameraReplies [1] [(9,⟨camera,[0]⟩)] :=
    ⟨rfl,rfl,by simp,by simp [camera, moduleOne],List.prefix_rfl⟩
  have hregistered : ∀ device ∈ [camera], (moduleOne device.module_).isSome ∧
      cameraOpening.isRegistered device = true := by
    intro device hdevice
    obtain rfl := List.mem_singleton.mp hdevice
    exact ⟨rfl,rfl⟩
  obtain ⟨hiff,-,hsent⟩ := completed_accepts_iff (s := cameraOpening) rfl rfl rfl hregistered "session" cameraReplies
  exact ⟨hiff.mpr ⟨_,_,haccepts⟩,hsent _ _ haccepts⟩

end ExternalConnection

end ModuleGateway.ExternalClient
