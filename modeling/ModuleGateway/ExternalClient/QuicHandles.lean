import ModuleGateway.ExternalClient.QuicCommunication

/-! # The handle of a QUIC connection

`initializeConnection`, `closeConnection` and the connection callbacks of `QuicCommunication`, cut at
each assignment, state exchange and call of MsQuic that concerns `connectionState_` and `connection_`.
Handles are numbered in the order in which `ConnectionOpen` returned them. MsQuic delivers
`SHUTDOWN_COMPLETE` as the last event of a handle, and none after `ConnectionClose`.
-/
namespace ModuleGateway.ExternalClient
open Structures Execution

/-- Where `initializeConnection` is, past its exchange: before `ConnectionOpen`, before
`ConnectionStart`, before the three steps that follow its failure. -/
inductive AttemptPhase where
  | idle
  | opening
  | starting
  | closing
  | clearing
  | releasing
deriving DecidableEq

/-- A handler of `SHUTDOWN_COMPLETE` that has released the state; `closed` says that it has called
`ConnectionClose`. -/
structure ShutdownHandler where
  handle : ℕ
  closed : Bool
deriving DecidableEq

/-- `opened` is the handle that was opened last, `live` are those that events are delivered for, and
`ending` are the handlers whose late part is still to run. `closing` are the handles that `ConnectionShutdown`
was called for. -/
structure QuicHandles where
  connectionState_ : ConnectionState
  connection_ : Option ℕ
  opened : ℕ
  attempt : AttemptPhase
  live : List ℕ
  ending : List ShutdownHandler
  closing : List ℕ

/-- `succeeds` is what the call of MsQuic returns that the attempt is at; the events name their
handle, and `finishShutdown` is the next step of the `i`-th handler of `ending`. -/
inductive HandleAction where
  | initializeConnection
  | attempt (succeeds : Bool)
  | closeConnection
  | connected (handle : ℕ)
  | shutdownInitiatedByPeer (handle : ℕ)
  | shutdownComplete (handle : ℕ)
  | finishShutdown (i : ℕ)
deriving DecidableEq

namespace QuicHandles

def init : QuicHandles := ⟨.NOT_CONNECTED,none,0,.idle,[],[],[]⟩

/-- Up to the exchange of the state. -/
def initializeConnection (s : QuicHandles) : Option QuicHandles :=
  if s.attempt ≠ .idle then none
  else if s.connectionState_ = .NOT_CONNECTED then
    some { s with connectionState_ := .CONNECTING, attempt := .opening }
  else some s

/-- The next step of `initializeConnection`. -/
def attemptStep (s : QuicHandles) (succeeds : Bool) : Option QuicHandles :=
  match s.attempt with
  | .idle => none
  | .opening =>
    if succeeds then
      some { s with
        connection_ := some (s.opened + 1)
        opened := s.opened + 1
        live := s.live ++ [s.opened + 1]
        attempt := .starting }
    else some { s with attempt := .releasing }
  | .starting => some { s with attempt := if succeeds then .idle else .closing }
  | .closing =>
    some { s with live := s.live.filter fun handle => s.connection_ ≠ some handle, attempt := .clearing }
  | .clearing => some { s with connection_ := none, attempt := .releasing }
  | .releasing => some { s with connectionState_ := .NOT_CONNECTED, attempt := .idle }

/-- `ConnectionShutdown` is called, and the callbacks of the connection do the rest. -/
def closeConnection (s : QuicHandles) : QuicHandles :=
  match s.connection_ with
  | none => s
  | some handle => { s with closing := s.closing ++ [handle] }

def onConnected (s : QuicHandles) : QuicHandles :=
  if s.connectionState_ = .CONNECTING then { s with connectionState_ := .CONNECTED } else s

/-- The handler up to the assignment of the state. -/
def onShutdownComplete (s : QuicHandles) (handle : ℕ) : QuicHandles :=
  { s with
    connectionState_ := .NOT_CONNECTED
    live := s.live.filter (· ≠ handle)
    ending := s.ending ++ [⟨handle,false⟩] }

/-- The late part of the handler: `ConnectionClose`, and the assignment of `connection_`. -/
def finishShutdown (s : QuicHandles) (i : ℕ) : Option QuicHandles :=
  s.ending[i]?.map fun handler =>
    if handler.closed then { s with connection_ := none, ending := s.ending.eraseIdx i }
    else { s with ending := s.ending.set i ⟨handler.handle,true⟩ }

def step (s : QuicHandles) : HandleAction → Option QuicHandles
  | .initializeConnection => s.initializeConnection
  | .attempt succeeds => s.attemptStep succeeds
  | .closeConnection => some s.closeConnection
  | .connected handle => if handle ∈ s.live then some s.onConnected else none
  | .shutdownInitiatedByPeer handle =>
    if handle ∈ s.live then some { s with connectionState_ := .CLOSING } else none
  | .shutdownComplete handle => if handle ∈ s.live then some (s.onShutdownComplete handle) else none
  | .finishShutdown i => s.finishShutdown i

/-- A connection that is not being initialized has the handle that was opened last, and events are
still to come for it. -/
def HoldsHandle (s : QuicHandles) : Prop :=
  (s.connectionState_ = .CONNECTING ∨ s.connectionState_ = .CONNECTED) → s.attempt = .idle →
    s.connection_ = some s.opened ∧ s.opened ∈ s.live

/-- What the late part of a handler clears is the handle of its own connection, if any. -/
def ClearsOwn (s : QuicHandles) : Prop :=
  ∀ handler ∈ s.ending, s.connection_ = none ∨ s.connection_ = some handler.handle

/-- No connection is opened before the handlers of the earlier ones are through. -/
def OpensAlone (s : QuicHandles) (a : HandleAction) : Prop :=
  a = .attempt true → s.attempt = .opening → s.ending = []

instance (s : QuicHandles) (a : HandleAction) : Decidable (s.OpensAlone a) := by
  unfold OpensAlone
  infer_instance

/-! ## What holds in every step -/

/-- Events come for the handle opened last only, and `connection_` has it while they do. -/
structure Consistent (s : QuicHandles) : Prop where
  live : ∀ handle ∈ s.live, handle = s.opened ∧ s.connection_ = some s.opened ∧ s.ending = []
  ending : ∀ handler ∈ s.ending, handler.handle = s.opened
  handle : s.connection_ = none ∨ s.connection_ = some s.opened
  released : s.connectionState_ = .NOT_CONNECTED → s.live = []
  opening : s.attempt = .opening ∨ s.attempt = .clearing ∨ s.attempt = .releasing → s.live = []
  working : s.connectionState_ = .CONNECTING ∨ s.connectionState_ = .CONNECTED →
    s.attempt = .idle ∨ s.attempt = .starting ∨ s.attempt = .closing → s.live ≠ []
  exchanged : s.attempt = .opening → s.connectionState_ = .CONNECTING

variable {s t : QuicHandles} {a : HandleAction}

theorem Consistent.init : init.Consistent := by
  constructor <;> simp [QuicHandles.init]

theorem Consistent.holdsHandle (hs : s.Consistent) : s.HoldsHandle := by
  intro hstate hidle
  obtain ⟨handle,hmem⟩ := List.exists_mem_of_ne_nil _ (hs.working hstate (.inl hidle))
  obtain ⟨rfl,hconnection,-⟩ := hs.live handle hmem
  exact ⟨hconnection,hmem⟩

theorem Consistent.clearsOwn (hs : s.Consistent) : s.ClearsOwn := by
  intro handler hmem
  rw [hs.ending handler hmem]
  exact hs.handle

/-- A state without a live handle. -/
theorem Consistent.of_live_nil (hlive : s.live = []) (hending : ∀ handler ∈ s.ending, handler.handle = s.opened)
    (hhandle : s.connection_ = none ∨ s.connection_ = some s.opened)
    (hworking : s.connectionState_ = .CONNECTING ∨ s.connectionState_ = .CONNECTED →
      ¬(s.attempt = .idle ∨ s.attempt = .starting ∨ s.attempt = .closing))
    (hexchanged : s.attempt = .opening → s.connectionState_ = .CONNECTING) : s.Consistent where
  live handle h := by
    rw [hlive] at h
    cases h
  ending := hending
  handle := hhandle
  released _ := hlive
  opening _ := hlive
  working hstate hattempt := absurd hattempt (hworking hstate)
  exchanged := hexchanged

/-- While an event can come, the attempt is not before `ConnectionOpen` and not past `ConnectionClose`. -/
theorem Consistent.attempt_of_live (hs : s.Consistent) {handle : ℕ} (h : handle ∈ s.live) :
    s.attempt ≠ .opening ∧ s.attempt ≠ .clearing ∧ s.attempt ≠ .releasing := by
  have hne : s.live ≠ [] := List.ne_nil_of_mem h
  refine ⟨?_,?_,?_⟩ <;> intro hattempt
  · exact hne (hs.opening (.inl hattempt))
  · exact hne (hs.opening (.inr (.inl hattempt)))
  · exact hne (hs.opening (.inr (.inr hattempt)))

theorem Consistent.initializeConnection (hs : s.Consistent) (ht : s.initializeConnection = some t) :
    t.Consistent := by
  unfold QuicHandles.initializeConnection at ht
  split at ht
  · cases ht
  · split at ht
    · rename_i hstate
      obtain rfl := Option.some.inj ht
      exact .of_live_nil (hs.released hstate) hs.ending hs.handle (fun _ => by simp) fun _ => rfl
    · obtain rfl := Option.some.inj ht
      exact hs

/-- The handle comes with the state `CONNECTING`, and is gone before the state is released. -/
theorem Consistent.attemptStep (hs : s.Consistent) {succeeds : Bool} (hg : s.OpensAlone (.attempt succeeds))
    (ht : s.attemptStep succeeds = some t) : t.Consistent := by
  unfold QuicHandles.attemptStep at ht
  cases hattempt : s.attempt with
  | idle =>
    rw [hattempt] at ht
    cases ht
  | opening =>
    rw [hattempt] at ht
    dsimp only at ht
    have hlive := hs.opening (.inl hattempt)
    split at ht
    · rename_i hsucceeds
      subst hsucceeds
      obtain rfl := Option.some.inj ht
      have hending : s.ending = [] := hg rfl hattempt
      have hone : s.live ++ [s.opened + 1] = [s.opened + 1] := by rw [hlive, List.nil_append]
      refine ⟨?_,?_,.inr rfl,?_,?_,?_,?_⟩
      · intro handle hmem
        dsimp only at hmem
        rw [hone] at hmem
        exact ⟨List.mem_singleton.mp hmem,rfl,hending⟩
      · intro handler hmem
        dsimp only at hmem
        rw [hending] at hmem
        cases hmem
      · intro hstate
        rw [hs.exchanged hattempt] at hstate
        cases hstate
      · simp
      · intro _ _
        dsimp only
        rw [hone]
        exact List.cons_ne_nil _ _
      · simp
    · obtain rfl := Option.some.inj ht
      exact .of_live_nil hlive hs.ending hs.handle (fun _ => by simp) (by simp)
  | starting =>
    rw [hattempt] at ht
    obtain rfl := Option.some.inj ht
    refine ⟨hs.live,hs.ending,hs.handle,hs.released,?_,?_,?_⟩
    · cases succeeds <;> simp
    · intro hstate _
      exact hs.working hstate (.inr (.inl hattempt))
    · cases succeeds <;> simp
  | closing =>
    rw [hattempt] at ht
    obtain rfl := Option.some.inj ht
    refine .of_live_nil ?_ hs.ending hs.handle (fun _ => by simp) (by simp)
    refine List.filter_eq_nil_iff.mpr ?_
    intro handle hmem
    obtain ⟨rfl,hconnection,-⟩ := hs.live handle hmem
    simp [hconnection]
  | clearing =>
    rw [hattempt] at ht
    obtain rfl := Option.some.inj ht
    exact .of_live_nil (hs.opening (.inr (.inl hattempt))) hs.ending (.inl rfl) (fun _ => by simp) (by simp)
  | releasing =>
    rw [hattempt] at ht
    obtain rfl := Option.some.inj ht
    exact .of_live_nil (hs.opening (.inr (.inr hattempt))) hs.ending hs.handle (by simp) (by simp)

/-- An event that takes a working connection to another state and leaves the rest. -/
theorem Consistent.event (hs : s.Consistent) {handle : ℕ} (h : handle ∈ s.live) {state : ConnectionState}
    (hstate : state ≠ .NOT_CONNECTED) : Consistent { s with connectionState_ := state } := by
  refine ⟨hs.live,hs.ending,hs.handle,fun hreleased => absurd hreleased hstate,hs.opening,?_,?_⟩
  · exact fun _ _ => List.ne_nil_of_mem h
  · exact fun hopening => absurd hopening (hs.attempt_of_live h).1

theorem Consistent.onShutdownComplete (hs : s.Consistent) {handle : ℕ} (h : handle ∈ s.live) :
    (s.onShutdownComplete handle).Consistent := by
  obtain ⟨rfl,hconnection,hnone⟩ := hs.live handle h
  refine .of_live_nil ?_ ?_ (.inr hconnection) (by simp [QuicHandles.onShutdownComplete]) ?_
  · refine List.filter_eq_nil_iff.mpr ?_
    intro handle hmem
    simp [(hs.live handle hmem).1]
  · intro handler hmem
    simp only [QuicHandles.onShutdownComplete, hnone, List.nil_append, List.mem_singleton] at hmem
    rw [hmem]
    rfl
  · exact fun hopening => absurd hopening (hs.attempt_of_live h).1

theorem Consistent.finishShutdown (hs : s.Consistent) {i : ℕ} (ht : s.finishShutdown i = some t) :
    t.Consistent := by
  obtain ⟨handler,hi,rfl⟩ := Option.map_eq_some_iff.mp ht
  have hmem : handler ∈ s.ending := List.mem_of_getElem? hi
  have hlive : s.live = [] := by
    refine List.eq_nil_iff_forall_not_mem.mpr ?_
    intro handle hhandle
    rw [(hs.live handle hhandle).2.2] at hmem
    cases hmem
  have hworking : s.connectionState_ = .CONNECTING ∨ s.connectionState_ = .CONNECTED →
      ¬(s.attempt = .idle ∨ s.attempt = .starting ∨ s.attempt = .closing) :=
    fun hstate hattempt => hs.working hstate hattempt hlive
  split
  · refine .of_live_nil hlive ?_ (.inl rfl) hworking hs.exchanged
    exact fun other hother => hs.ending other (List.mem_of_mem_eraseIdx hother)
  · refine .of_live_nil hlive ?_ hs.handle hworking hs.exchanged
    intro other hother
    rcases List.mem_or_eq_of_mem_set hother with hold | rfl
    · exact hs.ending other hold
    · exact hs.ending handler hmem

theorem Consistent.closeConnection (hs : s.Consistent) : s.closeConnection.Consistent := by
  unfold QuicHandles.closeConnection
  split
  · exact hs
  · exact ⟨hs.live,hs.ending,hs.handle,hs.released,hs.opening,hs.working,hs.exchanged⟩

theorem Consistent.step (hs : s.Consistent) (hg : s.OpensAlone a) (ht : s.step a = some t) : t.Consistent := by
  cases a with
  | initializeConnection => exact hs.initializeConnection ht
  | attempt succeeds => exact hs.attemptStep hg ht
  | closeConnection =>
    obtain rfl := Option.some.inj ht
    exact hs.closeConnection
  | connected handle =>
    simp only [QuicHandles.step] at ht
    obtain ⟨hmem,ht⟩ := Option.ite_none_right_eq_some.mp ht
    obtain rfl := Option.some.inj ht
    unfold onConnected
    split
    · exact hs.event hmem (by simp)
    · exact hs
  | shutdownInitiatedByPeer handle =>
    simp only [QuicHandles.step] at ht
    obtain ⟨hmem,ht⟩ := Option.ite_none_right_eq_some.mp ht
    obtain rfl := Option.some.inj ht
    exact hs.event hmem (by simp)
  | shutdownComplete handle =>
    simp only [QuicHandles.step] at ht
    obtain ⟨hmem,ht⟩ := Option.ite_none_right_eq_some.mp ht
    obtain rfl := Option.some.inj ht
    exact hs.onShutdownComplete hmem
  | finishShutdown i => exact hs.finishShutdown ht

/-! ## The numbers of the handles -/

/-- Handles are numbered in the order in which they are opened. -/
structure Numbered (s : QuicHandles) : Prop where
  live : ∀ handle ∈ s.live, handle ≤ s.opened
  ending : ∀ handler ∈ s.ending, handler.handle ≤ s.opened

theorem Numbered.attemptStep (hs : s.Numbered) {succeeds : Bool} (ht : s.attemptStep succeeds = some t) :
    t.Numbered := by
  unfold QuicHandles.attemptStep at ht
  split at ht
  · cases ht
  · split at ht <;> obtain rfl := Option.some.inj ht
    · constructor
      · intro handle hmem
        rcases List.mem_append.mp hmem with hold | hnew
        · exact Nat.le_succ_of_le (hs.live handle hold)
        · exact (List.mem_singleton.mp hnew).le
      · exact fun handler hmem => Nat.le_succ_of_le (hs.ending handler hmem)
    · exact ⟨hs.live,hs.ending⟩
  · obtain rfl := Option.some.inj ht
    exact ⟨hs.live,hs.ending⟩
  · obtain rfl := Option.some.inj ht
    exact ⟨fun handle hmem => hs.live handle (List.mem_of_mem_filter hmem),hs.ending⟩
  · obtain rfl := Option.some.inj ht
    exact ⟨hs.live,hs.ending⟩
  · obtain rfl := Option.some.inj ht
    exact ⟨hs.live,hs.ending⟩

theorem Numbered.onShutdownComplete (hs : s.Numbered) {handle : ℕ} (h : handle ∈ s.live) :
    (s.onShutdownComplete handle).Numbered := by
  constructor
  · exact fun other hmem => hs.live other (List.mem_of_mem_filter hmem)
  · intro handler hmem
    rcases List.mem_append.mp hmem with hold | hnew
    · exact hs.ending handler hold
    · rw [List.mem_singleton.mp hnew]
      exact hs.live handle h

theorem Numbered.finishShutdown (hs : s.Numbered) {i : ℕ} (ht : s.finishShutdown i = some t) : t.Numbered := by
  obtain ⟨handler,hi,rfl⟩ := Option.map_eq_some_iff.mp ht
  split
  · exact ⟨hs.live,fun other hother => hs.ending other (List.mem_of_mem_eraseIdx hother)⟩
  · refine ⟨hs.live,?_⟩
    intro other hother
    rcases List.mem_or_eq_of_mem_set hother with hold | rfl
    · exact hs.ending other hold
    · exact hs.ending handler (List.mem_of_getElem? hi)

theorem Numbered.step (hs : s.Numbered) (ht : s.step a = some t) : t.Numbered := by
  cases a with
  | initializeConnection =>
    simp only [QuicHandles.step, QuicHandles.initializeConnection] at ht
    split at ht
    · cases ht
    · split at ht <;> obtain rfl := Option.some.inj ht <;> exact ⟨hs.live,hs.ending⟩
  | attempt succeeds => exact hs.attemptStep ht
  | closeConnection =>
    obtain rfl := Option.some.inj ht
    unfold QuicHandles.closeConnection
    split <;> exact ⟨hs.live,hs.ending⟩
  | connected handle =>
    simp only [QuicHandles.step] at ht
    obtain ⟨-,ht⟩ := Option.ite_none_right_eq_some.mp ht
    obtain rfl := Option.some.inj ht
    unfold onConnected
    split <;> exact ⟨hs.live,hs.ending⟩
  | shutdownInitiatedByPeer handle =>
    simp only [QuicHandles.step] at ht
    obtain ⟨-,ht⟩ := Option.ite_none_right_eq_some.mp ht
    obtain rfl := Option.some.inj ht
    exact ⟨hs.live,hs.ending⟩
  | shutdownComplete handle =>
    simp only [QuicHandles.step] at ht
    obtain ⟨hmem,ht⟩ := Option.ite_none_right_eq_some.mp ht
    obtain rfl := Option.some.inj ht
    exact hs.onShutdownComplete hmem
  | finishShutdown i => exact hs.finishShutdown ht

/-- A connection that is opened beside an unfinished handler stands to lose its handle to it. -/
theorem Numbered.not_clearsOwn (hs : s.Numbered) (hg : ¬s.OpensAlone a) (ht : s.step a = some t) :
    ¬t.ClearsOwn := by
  unfold OpensAlone at hg
  push Not at hg
  obtain ⟨rfl,hattempt,hending⟩ := hg
  simp only [QuicHandles.step, QuicHandles.attemptStep, hattempt, if_true, Option.some.injEq] at ht
  subst ht
  obtain ⟨handler,hmem⟩ := List.exists_mem_of_ne_nil _ hending
  have hle := hs.ending handler hmem
  intro hclears
  rcases hclears handler hmem with hnone | hown
  · cases hnone
  · have hopened : s.opened + 1 = handler.handle := Option.some.inj hown
    omega

/-! ## Every run -/

/-- A connection has its handle, and no handler stands to clear it, in every state of a run exactly when no
connection is opened before the handlers of the earlier ones are through. -/
theorem exec_holdsHandle_iff {as : List HandleAction} {s : QuicHandles} (he : exec step init as = some s) :
    (∀ bs t, bs <+: as → exec step init bs = some t → t.HoldsHandle ∧ t.ClearsOwn) ↔
      Guarded step OpensAlone init as := by
  constructor
  · intro hall
    refine guarded_of_forall_prefix he hall ?_
    intro bs t a v ht hv _ hafter
    have hnumbered : t.Numbered :=
      exec_invariant (I := Numbered) ⟨by simp [init],by simp [init]⟩ (fun _ _ _ hs => hs.step) ht
    by_contra hg
    exact hnumbered.not_clearsOwn hg hv hafter.2
  · rintro hg bs t ⟨cs,rfl⟩ ht
    have hconsistent : t.Consistent :=
      exec_guarded_invariant .init (fun _ _ _ hs hg => hs.step hg) (hg.of_append ht) ht
    exact ⟨hconsistent.holdsHandle,hconsistent.clearsOwn⟩

end QuicHandles

/-! ## The handles of a channel -/

namespace QuicCommunication
variable {β : Type}

/-- The handles of a channel. A handle is the one of the connection that is alive in both or in neither. -/
structure HandlesAre (s : QuicCommunication β) (h : QuicHandles) : Prop where
  state : h.connectionState_ = s.connectionState_
  attempt : h.attempt = if s.opening then .opening else .idle
  live : h.live = if s.live.isSome then [h.opened] else []
  ending : h.ending.length = s.ending
  closed : ∀ handler ∈ h.ending, handler.closed = false
  handle : h.connection_.isSome = s.connection_.isSome
  holds : ∀ c, s.live = some c → (h.connection_ = some h.opened ↔ s.connection_ = some c.number)
  opening : s.opening = true → s.connectionState_ = .CONNECTING ∧ s.live = none
  released : s.connectionState_ = .NOT_CONNECTED → s.live = none

variable {s t : QuicCommunication β} {h : QuicHandles}

theorem HandlesAre.init : (init : QuicCommunication β).HandlesAre .init := by
  constructor <;> simp [QuicCommunication.init, QuicHandles.init]

/-- A step that the handles do not see. -/
theorem HandlesAre.unseen (hh : s.HandlesAre h) (hstate : t.connectionState_ = s.connectionState_)
    (hopening : t.opening = s.opening) (hlive : t.live = s.live) (hending : t.ending = s.ending)
    (hconnection : t.connection_ = s.connection_) :
    ∃ bs g, exec QuicHandles.step h bs = some g ∧ t.HandlesAre g := by
  refine ⟨[],h,rfl,?_⟩
  constructor
  · rw [hstate]
    exact hh.state
  · rw [hopening]
    exact hh.attempt
  · rw [hlive]
    exact hh.live
  · rw [hending]
    exact hh.ending
  · exact hh.closed
  · rw [hconnection]
    exact hh.handle
  · rw [hlive, hconnection]
    exact hh.holds
  · rw [hopening, hstate, hlive]
    exact hh.opening
  · rw [hstate, hlive]
    exact hh.released

theorem HandlesAre.initializeConnection (hh : s.HandlesAre h) :
    ∃ bs g, exec QuicHandles.step h bs = some g ∧ s.initializeConnection.HandlesAre g := by
  unfold QuicCommunication.initializeConnection
  split
  · rename_i hstate
    have hlive : s.live = none := hh.released hstate
    have hidle : h.attempt = .idle := by
      rw [hh.attempt, if_neg]
      intro hopening
      rw [(hh.opening hopening).1] at hstate
      cases hstate
    refine ⟨[.initializeConnection],{ h with connectionState_ := .CONNECTING, attempt := .opening },?_,?_⟩
    · refine exec_cons_eq_some.mpr ⟨_,?_,rfl⟩
      simp [QuicHandles.step, QuicHandles.initializeConnection, hidle, hh.state, hstate]
    · refine ⟨rfl,rfl,hh.live,hh.ending,hh.closed,hh.handle,hh.holds,fun _ => ⟨rfl,hlive⟩,?_⟩
      rintro ⟨⟩
  · exact hh.unseen rfl rfl rfl rfl rfl

/-- The calls of `ConnectionOpen` and `ConnectionStart`, and what follows when one of them fails. -/
theorem HandlesAre.openConnection (hh : s.HandlesAre h) {outcome : OpenOutcome}
    (ht : s.openConnection outcome = some t) :
    ∃ bs g, exec QuicHandles.step h bs = some g ∧ t.HandlesAre g := by
  unfold QuicCommunication.openConnection at ht
  split at ht
  · cases ht
  · rename_i hopening
    have hopening : s.opening = true := Bool.eq_true_of_not_eq_false hopening
    have hattempt : h.attempt = .opening := by rw [hh.attempt, if_pos hopening]
    obtain ⟨hstate,hlive⟩ := hh.opening hopening
    have hnone : h.live = [] := by rw [hh.live, hlive]; rfl
    cases outcome with
    | openFailed =>
      cases ht
      refine ⟨[.attempt false,.attempt false],{ h with connectionState_ := .NOT_CONNECTED, attempt := .idle },?_,?_⟩
      · simp [exec, QuicHandles.step, QuicHandles.attemptStep, hattempt]
      · refine ⟨rfl,rfl,hh.live,hh.ending,hh.closed,hh.handle,hh.holds,?_,fun _ => hlive⟩
        rintro ⟨⟩
    | startFailed =>
      cases ht
      refine ⟨.attempt true :: List.replicate 4 (.attempt false),
        { h with
          connectionState_ := .NOT_CONNECTED, attempt := .idle, connection_ := none, opened := h.opened + 1
          live := [] },?_,?_⟩
      · simp [exec, QuicHandles.step, QuicHandles.attemptStep, hattempt, hnone, List.replicate]
      · refine ⟨rfl,rfl,?_,hh.ending,hh.closed,rfl,?_,?_,fun _ => hlive⟩
        · simp [hlive]
        · simp [hlive]
        · rintro ⟨⟩
    | started =>
      cases ht
      refine ⟨[.attempt true,.attempt true],
        { h with
          attempt := .idle, connection_ := some (h.opened + 1), opened := h.opened + 1
          live := [h.opened + 1] },?_,?_⟩
      · simp [exec, QuicHandles.step, QuicHandles.attemptStep, hattempt, hnone]
      · refine ⟨hh.state,rfl,rfl,hh.ending,hh.closed,rfl,?_,?_,?_⟩
        · rintro c hc
          cases hc
          simp
        · rintro ⟨⟩
        · intro hreleased
          rw [hstate] at hreleased
          cases hreleased

/-- An event of the connection that is alive. -/
theorem HandlesAre.live_mem (hh : s.HandlesAre h) {c : LiveConnection} (hc : s.live = some c) :
    h.live = [h.opened] ∧ s.connectionState_ ≠ .NOT_CONNECTED ∧ s.opening = false := by
  refine ⟨?_,?_,?_⟩
  · rw [hh.live, hc]
    rfl
  · intro hreleased
    rw [hh.released hreleased] at hc
    cases hc
  · refine Bool.eq_false_iff.mpr ?_
    intro hopening
    rw [(hh.opening hopening).2] at hc
    cases hc

theorem HandlesAre.onConnected (hh : s.HandlesAre h) (ht : s.onConnected = some t) :
    ∃ bs g, exec QuicHandles.step h bs = some g ∧ t.HandlesAre g := by
  unfold QuicCommunication.onConnected at ht
  split at ht
  · cases ht
  · rename_i c hc
    obtain ⟨hlive,hstate,hopening⟩ := hh.live_mem hc
    have hholds := hh.holds c hc
    split at ht
    · cases ht
    · refine ⟨[.connected h.opened],h.onConnected,?_,?_⟩
      · simp [exec, QuicHandles.step, hlive]
      · split at ht
        · rename_i hconnecting
          cases ht
          rw [QuicHandles.onConnected, hh.state, if_pos hconnecting]
          refine ⟨rfl,hh.attempt,hlive,hh.ending,hh.closed,hh.handle,?_,?_,?_⟩
          · rintro d hd
            cases hd
            exact hholds
          · intro h
            rw [hopening] at h
            cases h
          · rintro ⟨⟩
        · rename_i hconnecting
          cases ht
          rw [QuicHandles.onConnected, hh.state, if_neg hconnecting]
          refine ⟨hh.state,hh.attempt,hlive,hh.ending,hh.closed,hh.handle,?_,?_,?_⟩
          · rintro d hd
            cases hd
            exact hholds
          · intro h
            rw [hopening] at h
            cases h
          · exact fun h => absurd h hstate

theorem HandlesAre.onShutdownInitiatedByPeer (hh : s.HandlesAre h) (ht : s.onShutdownInitiatedByPeer = some t) :
    ∃ bs g, exec QuicHandles.step h bs = some g ∧ t.HandlesAre g := by
  unfold QuicCommunication.onShutdownInitiatedByPeer at ht
  split at ht
  · cases ht
  · rename_i c hc
    obtain ⟨hlive,-,hopening⟩ := hh.live_mem hc
    obtain ⟨-,rfl⟩ := Option.ite_some_none_eq_some.mp ht
    refine ⟨[.shutdownInitiatedByPeer h.opened],{ h with connectionState_ := .CLOSING },?_,?_⟩
    · simp [exec, QuicHandles.step, hlive]
    · refine ⟨rfl,hh.attempt,hh.live,hh.ending,hh.closed,hh.handle,hh.holds,?_,?_⟩
      · intro h
        rw [hopening] at h
        cases h
      · rintro ⟨⟩

theorem HandlesAre.onShutdownComplete (hh : s.HandlesAre h) (ht : s.onShutdownComplete = some t) :
    ∃ bs g, exec QuicHandles.step h bs = some g ∧ t.HandlesAre g := by
  unfold QuicCommunication.onShutdownComplete at ht
  split at ht
  · cases ht
  · rename_i c hc
    obtain ⟨hlive,-,hopening⟩ := hh.live_mem hc
    obtain ⟨-,rfl⟩ := Option.ite_some_none_eq_some.mp ht
    refine ⟨[.shutdownComplete h.opened],h.onShutdownComplete h.opened,?_,?_⟩
    · simp [exec, QuicHandles.step, hlive]
    · refine ⟨rfl,hh.attempt,?_,?_,?_,hh.handle,?_,?_,fun _ => rfl⟩
      · simp [QuicHandles.onShutdownComplete, hlive]
      · simp [QuicHandles.onShutdownComplete, hh.ending]
      · simpa [QuicHandles.onShutdownComplete, or_imp, forall_and] using hh.closed
      · rintro d ⟨⟩
      · intro h
        rw [hopening] at h
        cases h

/-- The late part of a handler: both of its steps. -/
theorem HandlesAre.resetConnection (hh : s.HandlesAre h) (ht : s.resetConnection = some t) :
    ∃ bs g, exec QuicHandles.step h bs = some g ∧ t.HandlesAre g := by
  obtain ⟨hending,ht⟩ := Option.ite_none_left_eq_some.mp ht
  cases ht
  cases hhandlers : h.ending with
  | nil =>
    rw [← hh.ending, hhandlers] at hending
    exact absurd rfl hending
  | cons handler rest =>
    have hlength := hh.ending
    have hclosed := hh.closed
    rw [hhandlers] at hlength hclosed
    refine ⟨[.finishShutdown 0,.finishShutdown 0],{ h with connection_ := none, ending := rest },?_,?_⟩
    · simp [exec, QuicHandles.step, QuicHandles.finishShutdown, hhandlers, hclosed handler List.mem_cons_self]
    · refine ⟨hh.state,hh.attempt,hh.live,?_,?_,rfl,?_,hh.opening,hh.released⟩
      · simp only [List.length_cons] at hlength
        dsimp only
        omega
      · exact fun other hother => hclosed other (List.mem_cons_of_mem handler hother)
      · simp

/-- A step of the channel is a run of its handles. -/
theorem HandlesAre.step {a : QuicAction β} (hh : s.HandlesAre h) (ht : s.quicStep a = some t) :
    ∃ bs g, exec QuicHandles.step h bs = some g ∧ t.HandlesAre g := by
  cases a with
  | initializeConnection =>
    cases ht
    exact hh.initializeConnection
  | openConnection outcome => exact hh.openConnection ht
  | sendMessage message =>
    cases ht
    rw [sendMessage_frame]
    exact hh.unseen rfl rfl rfl rfl rfl
  | enqueue i =>
    rw [enqueue_frame ht]
    exact hh.unseen rfl rfl rfl rfl rfl
  | receiveMessage timeout =>
    rw [receiveMessage_frame ht]
    exact hh.unseen rfl rfl rfl rfl rfl
  | returnMessage =>
    rw [returnMessage_frame ht]
    exact hh.unseen rfl rfl rfl rfl rfl
  | cancelReceive =>
    cases ht
    exact hh.unseen rfl rfl rfl rfl rfl
  | senderLoop i opened =>
    rw [senderLoop_frame ht]
    exact hh.unseen rfl rfl rfl rfl rfl
  | connected => exact hh.onConnected ht
  | shutdownInitiatedByPeer => exact hh.onShutdownInitiatedByPeer ht
  | shutdownComplete => exact hh.onShutdownComplete ht
  | resetConnection => exact hh.resetConnection ht
  | streamReceive parsed =>
    rw [onStreamReceive_frame ht]
    exact hh.unseen rfl rfl rfl rfl rfl

/-- The handles of a channel go their own way: in every run of the channel they do what they may do alone, and are in
the states of the channel. -/
theorem exec_handles {as : List (QuicAction β)} (he : exec quicStep init as = some s) :
    ∃ bs h, exec QuicHandles.step .init bs = some h ∧ s.HandlesAre h :=
  exec_forward .init (fun _ _ _ _ hh _ => hh.step) (guarded_true _ as) he

end QuicCommunication

/-! ## A handle that is cleared by the handler of the connection before -/

namespace QuicHandles


/-- The connection is opened, established and shut down, and its handler releases the state. -/
def shutsDown : List HandleAction :=
  [.initializeConnection,.attempt true,.attempt true,.connected 1,.closeConnection,.shutdownComplete 1]

/-- A connection is opened again before the handler goes on. -/
def opensBeforeClear : List HandleAction :=
  shutsDown ++ [.initializeConnection,.attempt true,.attempt true,.finishShutdown 0,.finishShutdown 0]

theorem opensBeforeClear_loses_handle :
    ¬∀ (as : List HandleAction) s, exec step init as = some s → s.HoldsHandle ∧ s.ClearsOwn := by
  intro hall
  have h := ((hall opensBeforeClear _ rfl).1 (.inl rfl) rfl).1
  cases h

/-- The handler is through when the connection is opened again. -/
def clearsBeforeOpen : List HandleAction :=
  shutsDown ++ [.initializeConnection,.finishShutdown 0,.finishShutdown 0,.attempt true,.attempt true,.connected 2]

theorem exec_holdsHandle_clearsBeforeOpen : ∃ s, exec step init clearsBeforeOpen = some s ∧
    ∀ bs t, bs <+: clearsBeforeOpen → exec step init bs = some t → t.HoldsHandle ∧ t.ClearsOwn := by
  have hg : Guarded step OpensAlone init clearsBeforeOpen := by decide +kernel
  have hrun : ∃ s, exec step init clearsBeforeOpen = some s := ⟨_,rfl⟩
  obtain ⟨s,hs⟩ := hrun
  exact ⟨s,hs,(exec_holdsHandle_iff hs).mpr hg⟩

end QuicHandles

end ModuleGateway.ExternalClient
