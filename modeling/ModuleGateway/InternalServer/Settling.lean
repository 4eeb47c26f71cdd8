import ModuleGateway.InternalServer.LeftoverDevices
import ModuleGateway.InternalServer.Noninterference
import ModuleGateway.Modules.Progress
import Mathlib.Algebra.Order.BigOperators.Group.Finset
import Mathlib.Algebra.Order.BigOperators.Group.List
import Mathlib.Algebra.GroupWithZero.Nat

/-! # The gateway settles

When no device sends anything, no timer expires and nothing comes from the external server, the
threads of the Internal Server and of the Module Handler work off what is left, in whatever order
they are scheduled. A disconnect request takes a connection away, which pushes a message to the
Module Handler, which raises no request: this is the order in which the rank counts them.
-/
namespace ModuleGateway.InternalServer
open Structures Execution Modules

variable {β : Type}

namespace Gateway

/-- What the threads do without a message, a timer or a command from outside; an idle round is not counted. -/
def settles (modules : List ℤ) (s : Gateway β) : GatewayAction β → Prop
  | .server (.responded _) | .server (.timeout _) | .server (.cleanup _) | .server .listen => True
  | .handler moduleLibrary_ .messages => moduleLibrary_.keys = modules ∧ ¬s.threads.handler.Idle modules
  | .handler moduleLibrary_ .forwards | .handler moduleLibrary_ .event | .handler moduleLibrary_ (.erase _ _) =>
    moduleLibrary_.keys = modules
  | _ => False

/-- Nothing is left to do on either side. -/
structure AtRest (modules : List ℤ) (s : Gateway β) : Prop where
  quiet : s.Quiet
  idle : s.threads.handler.Idle modules
  events : s.threads.handler.commandForwardingQueue_ = []
  forwardThread : s.threads.forwardThread = .waiting
  updated : s.threads.updated = none

/-! ## The rank -/

/-- The steps of a connection handler that are left. -/
def steps : Phase → ℕ
  | .reading | .closed => 0
  | .waiting => 2
  | .closing => 1

/-- The disconnect requests, and the connection handlers that may remove their connection. -/
def removals (conns : Finset ConnId) (s : Gateway β) : ℕ :=
  s.system.toInternalQueue_.countP isRequest + conns.sum fun c => steps (s.system.phase c)

/-- The replies and the erasures. -/
def leftover (modules : List ℤ) (s : Gateway β) : ℕ :=
  s.system.toInternalQueue_.length +
    (modules.map fun number => (s.threads.handler.statusAggregators number).posted.length).sum

def rank (modules : List ℤ) (conns : Finset ConnId) (s : Gateway β) :
    (ℕ ×ₗ ℕ ×ₗ ℕ) ×ₗ ℕ ×ₗ ℕ ×ₗ ℕ ×ₗ ((ℕ ×ₗ ℕ ×ₗ ℕ) ×ₗ ℕ) ×ₗ ℕ :=
  toLex (s.threads.handler.rounds modules,toLex (s.removals conns,toLex (s.fromInternalQueue_.length,
    toLex (s.threads.forwarding,toLex (s.threads.labour,s.leftover modules)))))

/-- What holds while the gateway works, the connections with a handler in progress being among `conns`. -/
structure Working (modules : List ℤ) (conns : Finset ConnId) (s : Gateway β) : Prop where
  sound : s.Sound
  loaded : s.threads.handler.Loaded modules
  posted : ∀ number, (s.threads.handler.statusAggregators number).posted ≠ [] → number ∈ modules
  handlers : ∀ c, c ∉ conns → steps (s.system.phase c) = 0

variable {modules : List ℤ} {conns : Finset ConnId} {moduleLibrary_ : ModuleLibrary β} {s t : Gateway β}

theorem Working.init : Working modules ∅ (init : Gateway β) where
  sound := .init
  loaded := .of_not_checks rfl nofun
  posted _ h := absurd rfl h
  handlers _ _ := rfl

/-! ## A step of the Internal Server -/

theorem Working.mem_of_steps (hs : s.Working modules conns) {c : ConnId} (h : steps (s.system.phase c) ≠ 0) :
    c ∈ conns := by
  by_contra hc
  exact h (hs.handlers c hc)

/-- A connection handler goes on. -/
theorem rank_handler (hs : s.Working modules conns) {c : ConnId} {p : Phase} (hlt : steps p < steps (s.system.phase c))
    {system : System β} (hphase : system.phase = Function.update s.system.phase c p)
    (hqueue : system.toInternalQueue_ = s.system.toInternalQueue_) :
    (s.served system).rank modules conns < s.rank modules conns := by
  have hremovals : (s.served system).removals conns < s.removals conns := by
    unfold removals served
    dsimp only
    rw [hqueue, hphase]
    exact Nat.add_lt_add_left (sum_update_lt hlt (hs.mem_of_steps (Nat.ne_zero_of_lt hlt))) _
  simp only [rank, Prod.Lex.toLex_lt_toLex]
  exact .inr ⟨rfl,.inl hremovals⟩

theorem Working.handlers_update (hs : s.Working modules conns) {c x : ConnId} {p : Phase}
    (hc : steps (s.system.phase c) ≠ 0) (hx : x ∉ conns) : steps (Function.update s.system.phase c p x) = 0 := by
  have hne : x ≠ c := by
    rintro rfl
    exact hx (hs.mem_of_steps hc)
  rw [Function.update_of_ne hne]
  exact hs.handlers x hx

/-- What the Internal Server does of its own. -/
theorem Working.served (hs : s.Working modules conns) {a : SystemAction β} (ha : s.settles modules (.server a))
    {system : System β} (ht : s.system.systemStep a = some system) :
    (s.served system).Working modules conns ∧ (s.served system).rank modules conns < s.rank modules conns := by
  have hsound := hs.sound.served ht
  have hworking : (∀ x, x ∉ conns → steps (system.phase x) = 0) → (s.served system).Working modules conns :=
    fun hhandlers => ⟨hsound,hs.loaded.of_eq rfl,hs.posted,hhandlers⟩
  cases a with
  | responded c =>
    obtain ⟨⟨hwaiting,-⟩,rfl⟩ := Option.ite_some_none_eq_some.mp ht
    have hlt : steps .reading < steps (s.system.phase c) := by rw [hwaiting]; decide
    exact ⟨hworking fun x hx => hs.handlers_update (Nat.ne_zero_of_lt hlt) hx,rank_handler hs hlt rfl rfl⟩
  | timeout c =>
    obtain ⟨⟨hwaiting,-⟩,rfl⟩ := Option.ite_some_none_eq_some.mp ht
    have hlt : steps .closing < steps (s.system.phase c) := by rw [hwaiting]; decide
    exact ⟨hworking fun x hx => hs.handlers_update (Nat.ne_zero_of_lt hlt) hx,rank_handler hs hlt rfl rfl⟩
  | cleanup c =>
    obtain ⟨hclosing,rfl⟩ := Option.ite_some_none_eq_some.mp ht
    have hlt : steps .closed < steps (s.system.phase c) := by rw [hclosing]; decide
    exact ⟨hworking fun x hx => hs.handlers_update (Nat.ne_zero_of_lt hlt) hx,rank_handler hs hlt rfl rfl⟩
  | listen =>
    simp only [System.systemStep] at ht
    split at ht
    · cases ht
    · rename_i deviceId queue hqueue
      cases ht
      refine ⟨hworking hs.handlers,?_⟩
      simp only [rank, Prod.Lex.toLex_lt_toLex]
      refine .inr ⟨rfl,.inl ?_⟩
      simp only [removals, Gateway.served, hqueue, List.countP_cons, isRequest, if_true]
      omega
    · rename_i message queue hqueue
      cases ht
      refine ⟨hworking hs.handlers,?_⟩
      have hincoming : ((s.served { s.system with
          server := s.system.server.validateResponse message
          toInternalQueue_ := queue }).fromInternalQueue_) = s.fromInternalQueue_ :=
        s.system.server.validateResponse_queue message
      simp only [rank, Prod.Lex.toLex_lt_toLex]
      refine .inr ⟨rfl,.inr ⟨?_,.inr ⟨congrArg List.length hincoming,.inr ⟨rfl,.inr ⟨rfl,?_⟩⟩⟩⟩⟩
      · simp only [removals, Gateway.served, hqueue, List.countP_cons, isRequest, Bool.false_eq_true, if_false,
          Nat.add_zero]
      · simp only [leftover, Gateway.served, HandlerThreads.withHandler, hqueue, List.length_cons]
        omega
  | _ => cases ha

/-! ## A step of the Module Handler -/

/-- Without a request that is pushed. -/
theorem removals_handled (hs : s.Sound) {threads : HandlerThreads β}
    (h : threads.handler.toInternalQueue_.countP isRequest = s.threads.handler.toInternalQueue_.countP isRequest) :
    (s.handled threads).removals conns = s.removals conns := by
  rw [hs.moved, List.countP_nil, List.countP_eq_zero] at h
  unfold removals handled
  dsimp only
  rw [List.countP_append, List.countP_eq_zero.mpr h, Nat.add_zero]

theorem rank_messages (hs : s.Working moduleLibrary_.keys conns) (hidle : ¬s.threads.handler.Idle moduleLibrary_.keys)
    {threads : HandlerThreads β} [BufferType β] (ht : s.threads.handleMessages moduleLibrary_ = some threads) :
    (s.handled threads).rank moduleLibrary_.keys conns < s.rank moduleLibrary_.keys conns := by
  have hlabour : (s.handled threads).threads.labour = threads.labour := rfl
  simp only [rank, Prod.Lex.toLex_lt_toLex]
  cases HandlerThreads.handleMessages_proceeds hs.sound.coherent hidle ht with
  | collects rounds => exact .inl rounds
  | pops queue rounds requests =>
    refine .inr ⟨rounds,.inr ⟨removals_handled hs.sound requests,.inl ?_⟩⟩
    rw [hs.sound.shared] at queue
    exact queue
  | works queue rounds requests forwarding labour =>
    refine .inr ⟨rounds,.inr ⟨removals_handled hs.sound requests,.inr ⟨?_,.inr ⟨forwarding,.inl labour⟩⟩⟩⟩
    rw [hs.sound.shared] at queue
    exact congrArg List.length queue

/-- A section of another thread. -/
theorem rank_beside (hs : s.Working modules conns) {threads : HandlerThreads β}
    (hbeside : HandlerThreads.Beside modules s.threads threads)
    (h : threads.forwarding < s.threads.forwarding ∨ threads.forwarding = s.threads.forwarding ∧
      (threads.labour < s.threads.labour ∨ threads.labour = s.threads.labour ∧
        (s.handled threads).leftover modules < s.leftover modules)) :
    (s.handled threads).rank modules conns < s.rank modules conns := by
  have hqueue : (s.handled threads).fromInternalQueue_.length = s.fromInternalQueue_.length := by
    have hqueue := hbeside.queue
    rw [hs.sound.shared] at hqueue
    exact congrArg List.length hqueue
  simp only [rank, Prod.Lex.toLex_lt_toLex]
  exact .inr ⟨hbeside.rounds,.inr ⟨removals_handled hs.sound hbeside.requests,.inr ⟨hqueue,h⟩⟩⟩

section Handler
variable [BufferType β]

/-- Only a removal posts an erasure, to the aggregator of a loaded module. -/
theorem posted_change {s t : ModuleHandler β} (h : ModuleHandler.AggregatorChange moduleLibrary_ s t) (number : ℤ) :
    (t.statusAggregators number).posted ≠ [] →
      (s.statusAggregators number).posted ≠ [] ∨ number ∈ moduleLibrary_.keys := by
  have hupdate : ∀ (n : ℤ) (aggregator : StatusAggregator β),
      t.statusAggregators = Function.update s.statusAggregators n aggregator →
      (aggregator.posted ≠ [] → (s.statusAggregators n).posted ≠ [] ∨ n ∈ moduleLibrary_.keys) →
      (t.statusAggregators number).posted ≠ [] →
        (s.statusAggregators number).posted ≠ [] ∨ number ∈ moduleLibrary_.keys := by
    intro n aggregator haggregators hposted
    rw [haggregators]
    by_cases hn : number = n
    · subst hn
      rw [Function.update_self]
      exact hposted
    · rw [Function.update_of_ne hn]
      exact .inl
  cases h with
  | same aggregators =>
    rw [aggregators]
    exact .inl
  | operate n module_ op loaded noAdd aggregators =>
    exact hupdate n _ aggregators fun _ => .inr (ModuleHandler.mem_keys_of_lookup loaded)
  | add status module_ loaded front aggregators =>
    exact hupdate _ _ aggregators fun _ => .inr (ModuleHandler.mem_keys_of_lookup loaded)
  | remove device module_ loaded thread aggregators =>
    exact hupdate _ _ aggregators fun _ => .inr (ModuleHandler.mem_keys_of_lookup loaded)
  | erase n i aggregator run aggregators =>
    refine hupdate n aggregator aggregators ?_
    obtain ⟨device,hi,rfl⟩ := Option.map_eq_some_iff.mp run
    intro _
    left
    intro hnil
    rw [hnil] at hi
    cases hi

theorem Working.handled (hs : s.Working moduleLibrary_.keys conns) {a : HandlerThreads.ThreadAction β}
    (ha : a.ofServer = false) {threads : HandlerThreads β}
    (ht : s.threads.threadStep (moduleLibrary_,a) = some threads) :
    (s.handled threads).Working moduleLibrary_.keys conns where
  sound := hs.sound.handled ha ht
  loaded := (HandlerThreads.threadStep_loaded hs.loaded hs.sound.coherent.hand ht).of_eq rfl
  posted number hnumber :=
    (posted_change (HandlerThreads.threadStep_change ht) number hnumber).elim (hs.posted number) id
  handlers := hs.handlers

omit [BufferType β] in
/-- An erasure is one fewer. -/
theorem leftover_erase (hs : s.Working modules conns) {number : ℤ} {i : ℕ} {aggregator : StatusAggregator β}
    (hrun : (s.threads.handler.statusAggregators number).runPosted i = some aggregator) :
    (s.handled (s.threads.withHandler (s.threads.handler.setAggregator number aggregator))).leftover modules <
      s.leftover modules := by
  obtain ⟨device,hi,rfl⟩ := Option.map_eq_some_iff.mp hrun
  obtain ⟨hlt,-⟩ := List.getElem?_eq_some_iff.mp hi
  have hnumber : number ∈ modules := hs.posted number (List.ne_nil_of_length_pos (Nat.zero_lt_of_lt hlt))
  unfold leftover Gateway.handled
  simp only [HandlerThreads.withHandler, ModuleHandler.setAggregator, hs.sound.moved, List.append_nil]
  apply Nat.add_lt_add_left
  apply List.sum_lt_sum
  · intro n _
    by_cases hn : n = number
    · subst hn
      rw [Function.update_self, List.length_eraseIdx_of_lt hlt]
      omega
    · rw [Function.update_of_ne hn]
  · refine ⟨number,hnumber,?_⟩
    rw [Function.update_self, List.length_eraseIdx_of_lt hlt]
    omega

/-- What the Module Handler does of its own. -/
theorem rank_handled (hs : s.Working moduleLibrary_.keys conns) {a : HandlerThreads.ThreadAction β}
    (ha : s.settles moduleLibrary_.keys (.handler moduleLibrary_ a)) {threads : HandlerThreads β}
    (ht : s.threads.threadStep (moduleLibrary_,a) = some threads) :
    (s.handled threads).rank moduleLibrary_.keys conns < s.rank moduleLibrary_.keys conns := by
  cases a with
  | messages => exact rank_messages hs ha.2 ht
  | forwards =>
    obtain ⟨hbeside,hless⟩ := HandlerThreads.forwards_beside hs.sound.coherent ht
    exact rank_beside hs hbeside (.inl hless)
  | event =>
    obtain ⟨device,hupdated,rfl⟩ := Option.map_eq_some_iff.mp ht
    obtain ⟨hbeside,hless⟩ := HandlerThreads.pushEvent_beside moduleLibrary_.keys hupdated
    exact rank_beside hs hbeside (.inl hless)
  | erase number i =>
    obtain ⟨aggregator,hrun,rfl⟩ := Option.map_eq_some_iff.mp ht
    obtain ⟨hbeside,hlabour⟩ := HandlerThreads.runPosted_beside moduleLibrary_.keys hrun
    refine rank_beside hs hbeside (.inr ⟨rfl,?_⟩)
    exact (lt_or_eq_of_le hlabour).imp id fun heq => ⟨heq,leftover_erase hs hrun⟩
  | _ => cases ha

/-! ## Until nothing is left -/

/-- A step of the gateway's own keeps it working, and lowers the rank. -/
theorem Working.settles (hs : s.Working moduleLibrary_.keys conns) {a : GatewayAction β}
    (ha : s.settles moduleLibrary_.keys a) (ht : s.gatewayStep a = some t) :
    t.Working moduleLibrary_.keys conns ∧ t.rank moduleLibrary_.keys conns < s.rank moduleLibrary_.keys conns := by
  cases a with
  | server a =>
    obtain ⟨-,system,hstep,rfl⟩ := gatewayStep_server ht
    exact hs.served ha hstep
  | handler library a =>
    obtain ⟨hserver,threads,hstep,rfl⟩ := gatewayStep_handler ht
    have hkeys : library.keys = moduleLibrary_.keys := by
      cases a with
      | messages => exact ha.1
      | forwards | event | erase => exact ha
      | _ => cases ha
    rw [← hkeys] at hs ha ⊢
    exact ⟨hs.handled hserver hstep,rank_handled hs ha hstep⟩

/-- There is a step as long as something is left, unless the message thread has ended. -/
theorem Working.moves (hs : s.Working moduleLibrary_.keys conns) (hquiet : HandlerThreads.NeverThrow moduleLibrary_)
    (hlive : s.threads.handler.thread ≠ .terminated)
    (hleft : ¬s.AtRest moduleLibrary_.keys) :
    ∃ a t, s.settles moduleLibrary_.keys a ∧ s.gatewayStep a = some t ∧
      ∀ library action, a = .handler library action → library = moduleLibrary_ ∧ (action = .messages ∨
        s.threads.handler.Idle moduleLibrary_.keys) := by
  by_cases hidle : s.threads.handler.Idle moduleLibrary_.keys
  · have hserver : ∀ a : SystemAction β, s.settles moduleLibrary_.keys (.server a) →
        (∀ message, a ≠ .push message) → (∃ system, s.system.systemStep a = some system) →
        ∃ a t, s.settles moduleLibrary_.keys a ∧ s.gatewayStep a = some t ∧
          ∀ library action, a = .handler library action → library = moduleLibrary_ ∧ (action = .messages ∨
            s.threads.handler.Idle moduleLibrary_.keys) := by
      rintro a ha hpush ⟨system,hstep⟩
      refine ⟨.server a,_,ha,gatewayStep_server_of hpush hstep,?_⟩
      rintro library action ⟨⟩
    have hhandler : ∀ a : HandlerThreads.ThreadAction β,
        s.settles moduleLibrary_.keys (.handler moduleLibrary_ a) → a.ofServer = false →
        (∃ threads, s.threads.threadStep (moduleLibrary_,a) = some threads) →
        ∃ a t, s.settles moduleLibrary_.keys a ∧ s.gatewayStep a = some t ∧
          ∀ library action, a = .handler library action → library = moduleLibrary_ ∧ (action = .messages ∨
            s.threads.handler.Idle moduleLibrary_.keys) := by
      rintro a ha hserver ⟨threads,hstep⟩
      refine ⟨.handler moduleLibrary_ a,_,ha,gatewayStep_handler_of hserver hstep,?_⟩
      rintro library action ⟨⟩
      exact ⟨rfl,.inr hidle⟩
    cases hupdated : s.threads.updated with
    | some device =>
      exact hhandler .event rfl rfl ⟨_,Option.map_eq_some_iff.mpr ⟨device,hupdated,rfl⟩⟩
    | none =>
      cases hforward : s.threads.forwardThread with
      | acted hand =>
        refine hhandler .forwards rfl rfl ⟨s.threads.pushForwarded hand,?_⟩
        simp only [HandlerThreads.threadStep, HandlerThreads.handleCommandForwards, hforward]
      | waiting =>
        cases hevents : s.threads.handler.commandForwardingQueue_ with
        | cons deviceId events =>
          obtain ⟨threads,hstep⟩ := s.threads.takeForwarded_exists hquiet deviceId
          refine hhandler .forwards rfl rfl ⟨threads,?_⟩
          simp only [HandlerThreads.threadStep, HandlerThreads.handleCommandForwards, hforward, hevents, hstep]
        | nil =>
          cases hqueue : s.system.toInternalQueue_ with
          | cons message queue =>
            refine hserver .listen trivial (by rintro _ ⟨⟩) ?_
            simp only [System.systemStep, hqueue]
            cases message <;> exact ⟨_,rfl⟩
          | nil =>
            by_cases hposted : ∃ number, (s.threads.handler.statusAggregators number).posted ≠ []
            · obtain ⟨number,hnumber⟩ := hposted
              obtain ⟨device,posted,hcons⟩ := List.exists_cons_of_ne_nil hnumber
              refine hhandler (.erase number 0) rfl rfl ?_
              simp only [HandlerThreads.threadStep, StatusAggregator.runPosted, hcons]
              exact ⟨_,rfl⟩
            · by_cases hphase : ∀ c, s.system.phase c = .reading ∨ s.system.phase c = .closed
              · refine absurd ⟨⟨?_,hqueue,by simpa using hposted,hphase⟩,hidle,hevents,hforward,hupdated⟩ hleft
                exact hs.sound.shared.symm.trans hidle.messages
              · obtain ⟨c,hc⟩ := not_forall.mp hphase
                cases hat : s.system.phase c with
                | reading => exact absurd (.inl hat) hc
                | closed => exact absurd (.inr hat) hc
                | closing =>
                  exact hserver (.cleanup c) trivial (by rintro _ ⟨⟩) ⟨_,if_pos hat⟩
                | waiting =>
                  by_cases hready : (s.system.server.connection c).ready = true
                  · exact hserver (.responded c) trivial (by rintro _ ⟨⟩) ⟨_,if_pos ⟨hat,hready⟩⟩
                  · exact hserver (.timeout c) trivial (by rintro _ ⟨⟩) ⟨_,if_pos ⟨hat,hready⟩⟩
  · obtain ⟨threads,hstep⟩ := s.threads.exists_handleMessages hs.sound.coherent hs.loaded hlive
    refine ⟨.handler moduleLibrary_ .messages,_,⟨rfl,hidle⟩,gatewayStep_handler_of rfl hstep,?_⟩
    rintro library action ⟨⟩
    exact ⟨rfl,.inl rfl⟩

/-! ## Every run -/

omit [BufferType β] in
theorem systemStep_phase {s t : System β} {a : SystemAction β} (ht : s.systemStep a = some t) :
    ∃ c, ∀ x, x ≠ c → t.phase x = s.phase x := by
  have hupdate : ∀ (c : ConnId) (p : Phase), t.phase = Function.update s.phase c p →
      ∃ c, ∀ x, x ≠ c → t.phase x = s.phase x := by
    intro c p hphase
    refine ⟨c,?_⟩
    intro x hx
    rw [hphase, Function.update_of_ne hx]
  cases a with
  | push message =>
    cases ht
    exact ⟨0,fun _ _ => rfl⟩
  | listen =>
    simp only [System.systemStep] at ht
    split at ht
    · cases ht
    · cases ht
      exact ⟨0,fun _ _ => rfl⟩
    · cases ht
      exact ⟨0,fun _ _ => rfl⟩
  | connect c deviceId =>
    obtain ⟨-,rfl⟩ := Option.ite_some_none_eq_some.mp ht
    exact hupdate c _ rfl
  | status c status =>
    obtain ⟨-,rfl⟩ := Option.ite_some_none_eq_some.mp ht
    exact hupdate c _ rfl
  | fail c =>
    obtain ⟨-,rfl⟩ := Option.ite_some_none_eq_some.mp ht
    exact hupdate c _ rfl
  | responded c =>
    obtain ⟨-,rfl⟩ := Option.ite_some_none_eq_some.mp ht
    exact hupdate c _ rfl
  | timeout c =>
    obtain ⟨-,rfl⟩ := Option.ite_some_none_eq_some.mp ht
    exact hupdate c _ rfl
  | cleanup c =>
    obtain ⟨-,rfl⟩ := Option.ite_some_none_eq_some.mp ht
    exact hupdate c _ rfl

/-- In a run finitely many connections have a handler in progress. -/
theorem exec_working {as : List (GatewayAction β)}
    (hm : ∀ library a, GatewayAction.handler library a ∈ as → library.keys = modules)
    (he : exec gatewayStep init as = some s) : ∃ conns, s.Working modules conns := by
  have hmodules : ∀ a ∈ as, ∀ library action, a = .handler library action → library.keys = modules := by
    rintro _ ha library action rfl
    exact hm library action ha
  refine exec_guarded_invariant (I := fun s => ∃ conns, s.Working modules conns) ⟨∅,.init⟩ ?_
    ((guarded_true init as).and_mem hmodules) he
  rintro s a t ⟨conns,hs⟩ ⟨-,ha⟩ ht
  cases a with
  | server a =>
    obtain ⟨-,system,hstep,rfl⟩ := gatewayStep_server ht
    obtain ⟨c,hphase⟩ := systemStep_phase hstep
    refine ⟨insert c conns,hs.sound.served hstep,hs.loaded.of_eq rfl,hs.posted,?_⟩
    intro x hx
    rw [Finset.mem_insert, not_or] at hx
    exact (congrArg steps (hphase x hx.1)).trans (hs.handlers x hx.2)
  | handler library a =>
    obtain ⟨hserver,threads,hstep,rfl⟩ := gatewayStep_handler ht
    obtain rfl := ha library a rfl
    exact ⟨conns,hs.handled hserver hstep⟩

omit [BufferType β] in
/-- No erasure of a device comes between the two sections of its `handleStatus`. -/
def NoErasureBetween (s : Gateway β) : GatewayAction β → Prop
  | .handler _ a => s.threads.NoErasureBetween a
  | .server _ => True

omit [BufferType β] in
/-- Where only the message thread goes on until it is idle, no erasure comes in between. -/
theorem noErasureBetween_of_idle {a : GatewayAction β}
    (h : ∀ library action, a = .handler library action → action = .messages ∨ s.threads.handler.Idle modules) :
    s.NoErasureBetween a := by
  cases a with
  | server a => trivial
  | handler library a =>
    cases a with
    | erase number i =>
      obtain ⟨⟨⟩⟩ | hidle := h library _ rfl
      intro _ status device rc hthread
      rw [hidle.thread] at hthread
      cases hthread
    | _ => trivial

/-- The message thread lives on while no erasure comes in between and no module throws. -/
theorem lives_step (hlives : s.threads.Lives) {a : GatewayAction β} (hbetween : s.NoErasureBetween a)
    (hquiet : ∀ library action, a = .handler library action → HandlerThreads.NeverThrow library)
    (ht : s.gatewayStep a = some t) : t.threads.Lives := by
  cases a with
  | server a =>
    obtain ⟨-,system,hstep,rfl⟩ := gatewayStep_server ht
    exact ⟨hlives.thread,hlives.asks.beside rfl rfl fun _ _ _ _ _ hp => hp⟩
  | handler library a =>
    obtain ⟨hserver,threads,hstep,rfl⟩ := gatewayStep_handler ht
    have hlives' := hlives.step hbetween (hquiet library a rfl) hstep
    exact ⟨hlives'.thread,hlives'.asks.beside rfl rfl fun _ _ _ _ _ hp => hp⟩

/-- In a run in which no erasure came in between and no module threw, the message thread lives. -/
theorem exec_lives {as : List (GatewayAction β)}
    (hquiet : ∀ library a, GatewayAction.handler library a ∈ as → HandlerThreads.NeverThrow library)
    (hg : Guarded gatewayStep NoErasureBetween init as) (he : exec gatewayStep init as = some s) :
    s.threads.Lives := by
  have hmodules : ∀ a ∈ as, ∀ library action, a = .handler library action → HandlerThreads.NeverThrow library := by
    rintro _ ha library action rfl
    exact hquiet library action ha
  exact exec_guarded_invariant (I := fun s => s.threads.Lives) .init
    (fun _ _ _ hs ha ht => lives_step hs ha.1 ha.2 ht) (hg.and_mem hmodules) he

/-- What is asked of the modules at a step: they say the same about a type as at the other steps, and they
do not throw. -/
structure Dependable (supported : ℤ → UInt32 → Bool) (library : ModuleLibrary β) : Prop where
  supports : HandlerThreads.Supports supported library
  quiet : HandlerThreads.NeverThrow library

/-- A module that supports the types it has to, and fails at whatever else it is asked for. -/
def dependableModule (supported : UInt32 → Bool) : ModuleLibraryHandler β where
  isDeviceTypeSupported device_type := if supported device_type then .OK else .NOT_OK
  sendStatusCondition _ _ _ := .NOT_OK
  generateCommand _ _ _ _ := (.NOT_OK,BufferType.unallocated)
  aggregateStatus _ _ _ := (.NOT_OK,BufferType.unallocated)
  aggregateError _ _ _ := (.NOT_OK,BufferType.unallocated)
  generateFirstCommand _ := (.NOT_OK,BufferType.unallocated)
  statusDataValid _ _ := .NOT_OK
  commandDataValid _ _ := .NOT_OK
  forwardCommandOnReceive _ := .NOT_OK

/-- Whatever the numbers of the modules are, they can be asked that much. -/
theorem exists_dependable (supported : ℤ → UInt32 → Bool) (moduleLibrary_ : ModuleLibrary β) :
    ∃ library : ModuleLibrary β, library.keys = moduleLibrary_.keys ∧ Dependable supported library := by
  let entries : List (Sigma fun _ : ℤ => ModuleLibraryHandler β) :=
    moduleLibrary_.entries.map fun entry => ⟨entry.1,dependableModule (supported entry.1)⟩
  have hkeys : entries.keys = moduleLibrary_.keys := by simp [entries, List.keys, AList.keys]
  have hnodup : entries.NodupKeys := by
    rw [List.NodupKeys, hkeys]
    exact moduleLibrary_.nodupKeys
  have hmodule : ∀ number module_, (AList.mk entries hnodup).lookup number = some module_ →
      module_ = dependableModule (supported number) := by
    intro number module_ h
    obtain ⟨entry,-,heq⟩ := List.mem_map.mp (AList.mem_lookup_iff.mp h)
    cases heq
    rfl
  refine ⟨⟨entries,hnodup⟩,hkeys,?_,?_⟩
  · intro number module_ h device_type
    rw [hmodule number module_ h]
    rfl
  · intro number module_ h
    rw [hmodule number module_ h]
    exact ⟨nofun,nofun,nofun⟩

/-- From every state of a run the gateway comes to rest, in whatever order its threads go on, unless the
message thread ends; it does not end when no erasure comes between the sections of `handleStatus`, neither
before nor after that state, and no module throws. -/
theorem exec_settles (moduleLibrary_ : ModuleLibrary β) {as : List (GatewayAction β)}
    (hm : ∀ library a, GatewayAction.handler library a ∈ as → library.keys = moduleLibrary_.keys)
    (he : exec gatewayStep init as = some s) :
    Inevitable gatewayStep (settles moduleLibrary_.keys)
        (fun t => t.AtRest moduleLibrary_.keys ∨ t.threads.handler.thread = .terminated) s ∧
      ((∀ library a, GatewayAction.handler library a ∈ as → HandlerThreads.NeverThrow library) →
        Guarded gatewayStep NoErasureBetween init as →
        Inevitable gatewayStep (fun t a => t.settles moduleLibrary_.keys a ∧ t.NoErasureBetween a ∧
          ∀ library action, a = .handler library action → HandlerThreads.NeverThrow library)
          (AtRest moduleLibrary_.keys) s) := by
  obtain ⟨library,hkeys,-,hquiet⟩ := exists_dependable (fun _ _ => true) moduleLibrary_
  rw [← hkeys] at hm ⊢
  obtain ⟨conns,hs⟩ := exec_working hm he
  constructor
  · refine inevitable_of_rank (I := Working library.keys conns) (rank library.keys conns) hs ?_ ?_
    · intro s hs hleft
      rw [not_or] at hleft
      obtain ⟨a,t,ha,ht,-⟩ := hs.moves hquiet hleft.2 hleft.1
      exact ⟨a,t,ha,ht⟩
    · exact fun s a t hs _ ha ht => hs.settles ha ht
  · intro hthrows hg
    refine inevitable_of_rank (I := fun s => s.Working library.keys conns ∧ s.threads.Lives)
      (rank library.keys conns) ⟨hs,exec_lives hthrows hg he⟩ ?_ ?_
    · rintro s ⟨hs,hlives⟩ hleft
      obtain ⟨a,t,ha,ht,hlibrary⟩ := hs.moves hquiet hlives.thread hleft
      refine ⟨a,t,⟨ha,noErasureBetween_of_idle fun _ action h => (hlibrary _ action h).2,?_⟩,ht⟩
      intro _ action h
      obtain rfl := (hlibrary _ action h).1
      exact hquiet
    · rintro s a t ⟨hs,hlives⟩ - ⟨ha,hbetween,hthrows⟩ ht
      obtain ⟨hworking,hrank⟩ := hs.settles ha ht
      exact ⟨⟨hworking,lives_step hlives hbetween hthrows ht⟩,hrank⟩

omit [BufferType β] in
/-- No status of a device comes in while the gateway settles. -/
theorem statusConnected_of_settles {supported : ℤ → UInt32 → Bool} {a : GatewayAction β} (ha : s.settles modules a) :
    statusConnected modules supported s a = true := by
  cases a with
  | server a => cases a <;> first | rfl | cases ha
  | handler library a => rfl

/-- What the gateway does of its own keeps its devices matched with their connections. -/
theorem Matched.settles {supported : ℤ → UInt32 → Bool} (hs : s.Matched modules supported) {a : GatewayAction β}
    (ha : s.settles modules a)
    (hsupported : ∀ library action, a = .handler library action → HandlerThreads.Supports supported library)
    (ht : s.gatewayStep a = some t) : t.Matched modules supported := by
  apply hs.step ?_ (statusConnected_of_settles ha) ht
  rintro library action rfl
  refine ⟨?_,hsupported library action rfl⟩
  cases action with
  | messages => exact ha.1
  | forwards | event | erase => exact ha
  | _ => cases ha

/-- From a state in which the devices are matched with their connections. -/
theorem Working.settles_connected {supported : ℤ → UInt32 → Bool} (hdependable : Dependable supported moduleLibrary_)
    (hs : s.Working moduleLibrary_.keys conns) (hlives : s.threads.Lives)
    (hmatched : s.Matched moduleLibrary_.keys supported) :
    Inevitable gatewayStep (fun t a => t.settles moduleLibrary_.keys a ∧ t.NoErasureBetween a ∧
        ∀ library action, a = .handler library action → Dependable supported library)
      (fun t => t.AtRest moduleLibrary_.keys ∧ t.DevicesConnected) s := by
  refine inevitable_of_rank (I := fun s => s.Working moduleLibrary_.keys conns ∧ s.threads.Lives ∧
    s.Matched moduleLibrary_.keys supported) (rank moduleLibrary_.keys conns) ⟨hs,hlives,hmatched⟩ ?_ ?_
  · rintro s ⟨hs,hlives,hmatched⟩ hleft
    obtain ⟨a,t,ha,ht,hlibrary⟩ := hs.moves hdependable.quiet hlives.thread fun hrest =>
      hleft ⟨hrest,hmatched.devicesConnected hrest.quiet⟩
    refine ⟨a,t,⟨ha,noErasureBetween_of_idle fun library action h => (hlibrary library action h).2,?_⟩,ht⟩
    intro library action h
    obtain rfl := (hlibrary library action h).1
    exact hdependable
  · rintro s a t ⟨hs,hlives,hmatched⟩ - ⟨ha,hbetween,hmodules⟩ ht
    obtain ⟨hworking,hrank⟩ := hs.settles ha ht
    have hlives' := lives_step hlives hbetween (fun library action h => (hmodules library action h).quiet) ht
    have hmatched' := hmatched.settles ha (fun library action h => (hmodules library action h).supports) ht
    exact ⟨⟨hworking,hlives',hmatched'⟩,hrank⟩

/-- In a run in which every status named an identity that had an entry at that moment, the devices are matched. -/
theorem exec_matched {supported : ℤ → UInt32 → Bool} {as : List (GatewayAction β)}
    (hm : ∀ library a, GatewayAction.handler library a ∈ as →
      library.keys = modules ∧ HandlerThreads.Supports supported library)
    (hg : Guarded gatewayStep (fun s a => statusConnected modules supported s a = true) init as)
    (he : exec gatewayStep init as = some s) : s.Matched modules supported := by
  have hmodules : ∀ a ∈ as, ∀ library action, a = .handler library action →
      library.keys = modules ∧ HandlerThreads.Supports supported library := by
    rintro _ ha library action rfl
    exact hm library action ha
  refine exec_guarded_invariant Matched.init ?_ (hg.and_mem hmodules) he
  rintro s a t hs ⟨hconnected,hmodules⟩ ht
  exact hs.step hmodules hconnected ht

/-- When every status named an identity that had an entry at that moment, the gateway comes to a state
in which no registered device is without its connection. -/
theorem exec_settles_connected (moduleLibrary_ : ModuleLibrary β) {supported : ℤ → UInt32 → Bool}
    {as : List (GatewayAction β)}
    (hm : ∀ library a, GatewayAction.handler library a ∈ as →
      library.keys = moduleLibrary_.keys ∧ Dependable supported library)
    (hg : Guarded gatewayStep (fun s a => statusConnected moduleLibrary_.keys supported s a = true) init as)
    (hbetween : Guarded gatewayStep NoErasureBetween init as) (he : exec gatewayStep init as = some s) :
    Inevitable gatewayStep (fun t a => t.settles moduleLibrary_.keys a ∧ t.NoErasureBetween a ∧
        ∀ library action, a = .handler library action → Dependable supported library)
      (fun t => t.AtRest moduleLibrary_.keys ∧ t.DevicesConnected) s := by
  obtain ⟨library,hkeys,hdependable⟩ := exists_dependable supported moduleLibrary_
  rw [← hkeys] at hm hg ⊢
  obtain ⟨conns,hs⟩ := exec_working (fun library a h => (hm library a h).1) he
  have hlives := exec_lives (fun library a h => (hm library a h).2.quiet) hbetween he
  exact hs.settles_connected hdependable hlives
    (exec_matched (fun library a h => ⟨(hm library a h).1,(hm library a h).2.supports⟩) hg he)

end Handler

/-! ## A camera that falls silent -/

/-- The timer of the camera expires twice; nothing of what follows has happened yet. -/
def silentCamera : List (GatewayAction (List UInt8)) :=
  replied ++ List.replicate 2 (.handler HandlerThreads.pushLibrary (.tick 1 camera.key))

theorem pushLibrary_dependable : Dependable (fun _ _ => true) HandlerThreads.pushLibrary := by
  refine ⟨HandlerThreads.pushLibrary_supports,?_⟩
  intro number module_ h
  rw [HandlerThreads.pushLibrary_lookup h]
  exact ⟨nofun,nofun,nofun⟩

theorem silentCamera_library : ∀ library a, GatewayAction.handler library a ∈ silentCamera →
    library.keys = HandlerThreads.pushLibrary.keys ∧ Dependable (fun _ _ => true) library := by
  intro library a ha
  obtain rfl : library = HandlerThreads.pushLibrary := by
    simp only [silentCamera, replied, firstStatus, messages] at ha
    simp at ha
    tauto
  exact ⟨rfl,pushLibrary_dependable⟩

/-- Nothing of it is an erasure. -/
theorem silentCamera_noErasureBetween : Guarded gatewayStep NoErasureBetween init silentCamera := by
  apply guarded_of_forall_mem
  intro a ha s
  cases a with
  | server a => trivial
  | handler library a =>
    cases a with
    | erase number i => simp [silentCamera, replied, firstStatus, messages] at ha
    | _ => trivial

theorem exec_settles_silentCamera : ∃ s, exec gatewayStep init silentCamera = some s ∧ ¬s.AtRest [1] ∧
    Inevitable gatewayStep (settles [1]) (fun t => t.AtRest [1] ∨ t.threads.handler.thread = .terminated) s ∧
      Inevitable gatewayStep (fun t a => t.settles [1] a ∧ t.NoErasureBetween a ∧
        ∀ library action, a = .handler library action → HandlerThreads.NeverThrow library) (AtRest [1]) s := by
  have hm := fun library a h => (silentCamera_library library a h).1
  have hquiet := fun library a h => (silentCamera_library library a h).2.quiet
  obtain ⟨hends,hrests⟩ := exec_settles HandlerThreads.pushLibrary hm rfl
  refine ⟨_,rfl,?_,hends,hrests hquiet silentCamera_noErasureBetween⟩
  intro h
  exact absurd (h.idle.ready 1 List.mem_cons_self) (by decide)

theorem exec_settles_connected_silentCamera : ∃ s, exec gatewayStep init silentCamera = some s ∧
    Inevitable gatewayStep (fun t a => t.settles [1] a ∧ t.NoErasureBetween a ∧
        ∀ library action, a = .handler library action → Dependable (fun _ _ => true) library)
      (fun t => t.AtRest [1] ∧ t.DevicesConnected) s := by
  have hg : Guarded gatewayStep (fun s a => statusConnected [1] (fun _ _ => true) s a = true) init silentCamera := by
    decide +kernel
  exact ⟨_,rfl,exec_settles_connected HandlerThreads.pushLibrary silentCamera_library hg
    silentCamera_noErasureBetween rfl⟩

end Gateway

end ModuleGateway.InternalServer
