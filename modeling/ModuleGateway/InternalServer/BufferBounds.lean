import Mathlib.Data.List.Chain
import ModuleGateway.InternalServer.BufferData

/-! # What `processBufferData` accesses

The body is written once more with a record of what it reads from the buffer, of its unsigned subtractions
and of the error exits it takes; without the record it is the body, and nothing in the buffer is looked at
but what is recorded. From a context that holds a proper part of a message no call goes outside the bytes
that were read.
-/
namespace ModuleGateway.InternalServer
open LengthPrefix

/-- The error exits, in the order of the code; `headerLeft` is the second check of the header and
`extraBytes` follows a recursive call that returned `false`. -/
inductive ErrorExit where
  | exceedsBuffer
  | incompleteHeader
  | headerLeft
  | messageRefused
  | messageBytesLeft
  | bytesLeft
  | extraBytes
deriving DecidableEq

inductive BufferEvent where
  | call (bytesTransferred bufferOffset : ℕ)
  | read (offset length : ℕ)
  | subtract (minuend subtrahend : ℕ)
  | exit (error : ErrorExit)
deriving DecidableEq

/-- The size of the call, where a call begins. -/
def BufferEvent.called : BufferEvent → Option ℕ
  | .call bytesTransferred _ => some bytesTransferred
  | _ => none

/-- The numbers of bytes that the calls are about, the first call first. -/
def callSizes (events : List BufferEvent) : List ℕ := events.filterMap BufferEvent.called

section Recorded
variable {σ : Type*} (handleMessage : List UInt8 → σ → Bool × σ)

/-- What is recorded before the rest of the body. -/
def recordBefore (events : List BufferEvent) (rest : List BufferEvent × BodyResult σ) :
    List BufferEvent × BodyResult σ := (events ++ rest.1,rest.2)

/-- `finishBody` with its record. -/
def recordFinish (ctx : ConnContext) (world : σ)
    (bytesTransferred bufferOffset bytesLeft messageBytesLeft : ℕ) : List BufferEvent × BodyResult σ :=
  if bytesLeft < messageBytesLeft then ([.exit .messageBytesLeft],.returns false ctx world)
  else
    let rest := bytesLeft - messageBytesLeft
    if bytesTransferred < rest then
      ([.subtract bytesLeft messageBytesLeft,.exit .bytesLeft],.returns false ctx world)
    else if rest ≠ 0 then
      ([.subtract bytesLeft messageBytesLeft,.subtract bytesTransferred rest],
        .recurses ctx world rest (bufferOffset + (bytesTransferred - rest)))
    else ([.subtract bytesLeft messageBytesLeft],.returns true ctx world)

/-- `messageBody` with its record. -/
def recordMessage (ctx : ConnContext) (world : σ)
    (bytesTransferred bufferOffset bytesLeft dataBegin : ℕ) : List BufferEvent × BodyResult σ :=
  let messageBytesLeft := min (sizeSub ctx.completeMessageSize ctx.completeMessage.length) bytesLeft
  let events : List BufferEvent :=
    [.subtract ctx.completeMessageSize ctx.completeMessage.length,.read dataBegin messageBytesLeft]
  let ctx := { ctx with
    completeMessage := ctx.completeMessage ++ ctx.slice dataBegin messageBytesLeft }
  if ctx.completeMessageSize = ctx.completeMessage.length then
    match handleMessage ctx.completeMessage world with
    | (false,world) => (events ++ [.exit .messageRefused],.returns false ctx world)
    | (true,world) =>
      recordBefore events (recordFinish { ctx with completeMessage := [], completeMessageSize := 0 } world
        bytesTransferred bufferOffset bytesLeft messageBytesLeft)
  else recordBefore events (recordFinish ctx world bytesTransferred bufferOffset bytesLeft messageBytesLeft)

/-- `processBody` with its record; the header is copied before the second check of it. -/
def recordBody (ctx : ConnContext) (world : σ) (bytesTransferred bufferOffset : ℕ) :
    List BufferEvent × BodyResult σ :=
  if bufferOffset + bytesTransferred > ctx.buffer.length then ([.exit .exceedsBuffer],.returns false ctx world)
  else if bytesTransferred < header ∧ ctx.completeMessageSize = 0 then
    ([.exit .incompleteHeader],.returns false ctx world)
  else if ctx.completeMessageSize = 0 then
    let ctx := { ctx with completeMessageSize := decodeLE (ctx.slice bufferOffset header) }
    if bytesTransferred < header then
      ([.read bufferOffset header,.exit .headerLeft],.returns false ctx world)
    else
      recordBefore [.read bufferOffset header,.subtract bytesTransferred header]
        (recordMessage handleMessage ctx world bytesTransferred bufferOffset
          (bytesTransferred - header) (bufferOffset + header))
  else recordMessage handleMessage ctx world bytesTransferred bufferOffset bytesTransferred bufferOffset

theorem recordFinish_snd (ctx : ConnContext) (world : σ)
    (bytesTransferred bufferOffset bytesLeft messageBytesLeft : ℕ) :
    (recordFinish ctx world bytesTransferred bufferOffset bytesLeft messageBytesLeft).2 =
      finishBody ctx world bytesTransferred bufferOffset bytesLeft messageBytesLeft := by
  unfold recordFinish finishBody
  split
  · rfl
  · dsimp only
    split
    · rfl
    · split <;> rfl

theorem recordMessage_snd (ctx : ConnContext) (world : σ)
    (bytesTransferred bufferOffset bytesLeft dataBegin : ℕ) :
    (recordMessage handleMessage ctx world bytesTransferred bufferOffset bytesLeft dataBegin).2 =
      messageBody handleMessage ctx world bytesTransferred bufferOffset bytesLeft dataBegin := by
  unfold recordMessage messageBody
  dsimp only
  split
  · generalize handleMessage _ world = after
    obtain ⟨result,world'⟩ := after
    cases result with
    | false => rfl
    | true => exact recordFinish_snd _ _ _ _ _ _
  · exact recordFinish_snd _ _ _ _ _ _

theorem recordBody_snd (ctx : ConnContext) (world : σ) (bytesTransferred bufferOffset : ℕ) :
    (recordBody handleMessage ctx world bytesTransferred bufferOffset).2 =
      processBody handleMessage ctx world bytesTransferred bufferOffset := by
  unfold recordBody processBody
  split
  · rfl
  · split
    · rfl
    · split
      · dsimp only
        split
        · rfl
        · exact recordMessage_snd handleMessage _ _ _ _ _ _
      · exact recordMessage_snd handleMessage _ _ _ _ _ _

/-- `processBufferData` with the record of the call and of all its recursive calls. -/
def recordBufferData (ctx : ConnContext) (world : σ) (bytesTransferred bufferOffset : ℕ) :
    List BufferEvent × Bool × ConnContext × σ :=
  match _h : recordBody handleMessage ctx world bytesTransferred bufferOffset with
  | (events,.returns result ctx' world') =>
    (.call bytesTransferred bufferOffset :: events,result,ctx',world')
  | (events,.recurses ctx' world' n offset) =>
    let rest := recordBufferData ctx' world' n offset
    (.call bytesTransferred bufferOffset :: events ++ rest.1 ++ (if rest.2.1 then [] else [.exit .extraBytes]),
      rest.2)
termination_by (bytesTransferred,if ctx.completeMessageSize = 0 then 0 else 1)
decreasing_by
  have hbody := recordBody_snd handleMessage ctx world bytesTransferred bufferOffset
  rw [_h] at hbody
  rcases processBody_recurses handleMessage hbody.symm with hlt | ⟨rfl,hlt⟩
  · exact Prod.Lex.left _ _ hlt
  · exact Prod.Lex.right _ hlt

theorem recordBufferData_snd (ctx : ConnContext) (world : σ) (bytesTransferred bufferOffset : ℕ) :
    (recordBufferData handleMessage ctx world bytesTransferred bufferOffset).2 =
      processBufferData handleMessage ctx world bytesTransferred bufferOffset := by
  induction ctx, world, bytesTransferred, bufferOffset using recordBufferData.induct handleMessage with
  | case1 ctx world bytesTransferred bufferOffset events result ctx' world' h =>
    have hbody := recordBody_snd handleMessage ctx world bytesTransferred bufferOffset
    rw [h] at hbody
    rw [recordBufferData, h, processBufferData_eq_run, ← hbody]
    rfl
  | case2 ctx world bytesTransferred bufferOffset events ctx' world' n offset h ih =>
    have hbody := recordBody_snd handleMessage ctx world bytesTransferred bufferOffset
    rw [h] at hbody
    rw [recordBufferData, h, processBufferData_eq_run, ← hbody]
    exact ih

end Recorded

/-! ## One pass through the body -/

/-- Between two reads nothing of a message has come, or a proper part of one. -/
def ConnContext.Waiting (ctx : ConnContext) : Prop :=
  (ctx.completeMessageSize = 0 ∧ ctx.completeMessage = []) ∨
    ctx.completeMessage.length < ctx.completeMessageSize

theorem ConnContext.Waiting.length_le {ctx : ConnContext} (h : ctx.Waiting) :
    ctx.completeMessage.length ≤ ctx.completeMessageSize := by
  rcases h with ⟨-,hmessage⟩ | hlt
  · rw [hmessage]
    exact Nat.zero_le _
  · exact Nat.le_of_lt hlt

/-- What may be recorded while the first `received` bytes of the buffer are what was read. -/
def BufferEvent.Safe (received : ℕ) : BufferEvent → Prop
  | .call bytesTransferred bufferOffset => bufferOffset + bytesTransferred = received
  | .read offset length => offset + length ≤ received
  | .subtract minuend subtrahend => subtrahend ≤ minuend
  | .exit error => error = .incompleteHeader ∨ error = .messageRefused ∨ error = .extraBytes

section Body
variable {σ : Type*} {received bytesTransferred : ℕ}

/-- The call ends between two messages or inside one, or goes on with fewer bytes up to the same end. -/
def BodyResult.Sound (received bytesTransferred : ℕ) : BodyResult σ → Prop
  | .returns result ctx _ => result = true → ctx.Waiting
  | .recurses ctx _ n offset => ctx.Waiting ∧ 0 < n ∧ n < bytesTransferred ∧ offset + n = received

structure Harmless (received bytesTransferred : ℕ) (pass : List BufferEvent × BodyResult σ) : Prop where
  safe : ∀ event ∈ pass.1, event.Safe received
  inside : callSizes pass.1 = []
  sound : pass.2.Sound received bytesTransferred

theorem Harmless.before {pass : List BufferEvent × BodyResult σ} (h : Harmless received bytesTransferred pass)
    {events : List BufferEvent} (hsafe : ∀ event ∈ events, event.Safe received) (hinside : callSizes events = []) :
    Harmless received bytesTransferred (recordBefore events pass) where
  safe := by
    intro event hevent
    rcases List.mem_append.mp hevent with hmem | hmem
    · exact hsafe event hmem
    · exact h.safe event hmem
  inside := by
    unfold callSizes recordBefore
    rw [List.filterMap_append]
    exact List.append_eq_nil_iff.mpr ⟨hinside,h.inside⟩
  sound := h.sound

/-- A refusal leaves nothing to prove but that its exit may be taken. -/
theorem Harmless.refused {events : List BufferEvent} {ctx : ConnContext} {world : σ}
    (hsafe : ∀ event ∈ events, event.Safe received) (hinside : callSizes events = []) :
    Harmless received bytesTransferred (events,.returns false ctx world) := ⟨hsafe,hinside,nofun⟩

variable {ctx : ConnContext} {world : σ} {bufferOffset bytesLeft messageBytesLeft dataBegin : ℕ}

theorem recordFinish_harmless (hctx : ctx.Waiting) (hmessage : messageBytesLeft ≤ bytesLeft)
    (hbytes : bytesLeft ≤ bytesTransferred) (hless : bytesLeft - messageBytesLeft < bytesTransferred)
    (hend : bufferOffset + bytesTransferred = received) :
    Harmless received bytesTransferred
      (recordFinish ctx world bytesTransferred bufferOffset bytesLeft messageBytesLeft) := by
  unfold recordFinish
  rw [if_neg (by omega)]
  dsimp only
  rw [if_neg (by omega)]
  split
  · rename_i hrest
    refine ⟨?_,rfl,hctx,Nat.pos_of_ne_zero hrest,hless,by omega⟩
    simp [BufferEvent.Safe]
    omega
  · refine ⟨?_,rfl,fun _ => hctx⟩
    simpa [BufferEvent.Safe] using hmessage

variable (handleMessage : List UInt8 → σ → Bool × σ)

/-- A pass that has not used the header takes a byte of the message that is open. -/
theorem recordMessage_harmless (hle : ctx.completeMessage.length ≤ ctx.completeMessageSize)
    (hbytes : bytesLeft ≤ bytesTransferred) (hpos : 0 < bytesTransferred)
    (hprogress : bytesLeft < bytesTransferred ∨ ctx.completeMessage.length < ctx.completeMessageSize)
    (hend : bufferOffset + bytesTransferred = received) (hdata : dataBegin + bytesLeft = received)
    (hbuffer : received ≤ bufferLength) :
    Harmless received bytesTransferred
      (recordMessage handleMessage ctx world bytesTransferred bufferOffset bytesLeft dataBegin) := by
  unfold recordMessage
  rw [sizeSub_of_le hle]
  obtain ⟨messageBytesLeft,hmin⟩ : ∃ n, min (ctx.completeMessageSize - ctx.completeMessage.length) bytesLeft = n :=
    ⟨_,rfl⟩
  rw [hmin]
  have hmessage : messageBytesLeft ≤ bytesLeft := by omega
  have hless : bytesLeft - messageBytesLeft < bytesTransferred := by omega
  have hsafe : ∀ event ∈ [BufferEvent.subtract ctx.completeMessageSize ctx.completeMessage.length,
      .read dataBegin messageBytesLeft], event.Safe received := by
    simp [BufferEvent.Safe, hle]
    omega
  have hlength : (ctx.completeMessage ++ ctx.slice dataBegin messageBytesLeft).length =
      ctx.completeMessage.length + messageBytesLeft := by
    rw [List.length_append, ctx.length_slice (by omega)]
  dsimp only
  split
  · split
    · refine Harmless.before (.refused ?_ rfl) hsafe rfl
      simp [BufferEvent.Safe]
    · exact (recordFinish_harmless (.inl ⟨rfl,rfl⟩) hmessage hbytes hless hend).before hsafe rfl
  · rename_i hopen
    refine (recordFinish_harmless (.inr ?_) hmessage hbytes hless hend).before hsafe rfl
    dsimp only
    omega

variable (world) in
theorem recordBody_harmless (hctx : ctx.Waiting) (hpos : 0 < bytesTransferred)
    (hend : bufferOffset + bytesTransferred = received) (hbuffer : received ≤ bufferLength) :
    Harmless received bytesTransferred
      (recordBody handleMessage ctx world bytesTransferred bufferOffset) := by
  unfold recordBody
  rw [if_neg (by rw [ctx.length_buffer]; omega)]
  split
  · refine .refused ?_ rfl
    simp [BufferEvent.Safe]
  · rename_i hheader
    split
    · rename_i hsize
      have hfits : header ≤ bytesTransferred := by
        by_contra hshort
        exact hheader ⟨by omega,hsize⟩
      have hempty : ctx.completeMessage = [] := List.eq_nil_of_length_eq_zero (by have := hctx.length_le; omega)
      dsimp only
      rw [if_neg (by omega)]
      refine (recordMessage_harmless handleMessage ?_ (Nat.sub_le _ _) hpos (.inl ?_) hend ?_ hbuffer).before ?_ rfl
      · rw [hempty]
        exact Nat.zero_le _
      · have hpositive : 0 < header := by decide
        omega
      · omega
      · simp [BufferEvent.Safe]
        omega
    · rename_i hsize
      have hopen : ctx.completeMessage.length < ctx.completeMessageSize := hctx.resolve_left fun h => hsize h.1
      exact recordMessage_harmless handleMessage hctx.length_le le_rfl hpos (.inr hopen) hend hend hbuffer

end Body

/-! ## A call with all its recursive calls -/

section Calls
variable {σ : Type*} {received bytesTransferred bufferOffset : ℕ} {ctx : ConnContext} {world : σ}

/-- What a call with `bytesTransferred` of the `received` bytes before it keeps to. -/
structure InBounds (received bytesTransferred : ℕ) (run : List BufferEvent × Bool × ConnContext × σ) : Prop where
  safe : ∀ event ∈ run.1, event.Safe received
  first : (callSizes run.1).head? = some bytesTransferred
  decreasing : (callSizes run.1).IsChain (· > ·)
  ends : (callSizes run.1).length ≤ bytesTransferred
  waiting : run.2.1 = true → run.2.2.1.Waiting

theorem callSizes_call (bytesTransferred bufferOffset : ℕ) {events : List BufferEvent} (rest : List BufferEvent)
    (hinside : callSizes events = []) :
    callSizes (.call bytesTransferred bufferOffset :: events ++ rest) = bytesTransferred :: callSizes rest := by
  have hcall : callSizes (.call bytesTransferred bufferOffset :: (events ++ rest)) =
      bytesTransferred :: callSizes (events ++ rest) := List.filterMap_cons_some rfl
  have happend : callSizes (events ++ rest) = callSizes events ++ callSizes rest := List.filterMap_append
  rw [List.cons_append, hcall, happend, hinside, List.nil_append]

theorem callSizes_extraBytes (events : List BufferEvent) (result : Bool) :
    callSizes (events ++ if result then [] else [.exit .extraBytes]) = callSizes events := by
  unfold callSizes
  rw [List.filterMap_append]
  cases result <;> exact List.append_nil _

variable (handleMessage : List UInt8 → σ → Bool × σ)

theorem recordBufferData_inBounds (hctx : ctx.Waiting) (hpos : 0 < bytesTransferred)
    (hend : bufferOffset + bytesTransferred = received) (hbuffer : received ≤ bufferLength) :
    InBounds received bytesTransferred
      (recordBufferData handleMessage ctx world bytesTransferred bufferOffset) := by
  induction ctx, world, bytesTransferred, bufferOffset using recordBufferData.induct handleMessage with
  | case1 ctx world bytesTransferred bufferOffset events result ctx' world' h =>
    have hpass := recordBody_harmless world handleMessage hctx hpos hend hbuffer
    rw [h] at hpass
    have hcalls : callSizes (.call bytesTransferred bufferOffset :: events) = [bytesTransferred] := by
      have happend := callSizes_call bytesTransferred bufferOffset [] hpass.inside
      rwa [List.append_nil] at happend
    rw [recordBufferData, h]
    refine ⟨?_,?_,?_,?_,hpass.sound⟩
    · intro event hevent
      rcases List.mem_cons.mp hevent with rfl | hmem
      · exact hend
      · exact hpass.safe event hmem
    · rw [hcalls]
      rfl
    · rw [hcalls]
      exact .singleton _
    · rw [hcalls]
      exact hpos
  | case2 ctx world bytesTransferred bufferOffset events ctx' world' n offset h ih =>
    have hpass := recordBody_harmless world handleMessage hctx hpos hend hbuffer
    rw [h] at hpass
    obtain ⟨hwaiting,hn,hless,hrest⟩ := hpass.sound
    have hcall := ih hwaiting hn hrest
    rw [recordBufferData, h]
    dsimp only
    generalize recordBufferData handleMessage ctx' world' n offset = rest at hcall
    have hcalls : callSizes (.call bytesTransferred bufferOffset :: events ++ rest.1 ++
        if rest.2.1 then [] else [.exit .extraBytes]) = bytesTransferred :: callSizes rest.1 := by
      rw [callSizes_extraBytes, callSizes_call bytesTransferred bufferOffset rest.1 hpass.inside]
    refine ⟨?_,?_,?_,?_,hcall.waiting⟩
    · intro event hevent
      rcases List.mem_append.mp hevent with hmem | hmem
      · rcases List.mem_append.mp hmem with hmem | hmem
        · rcases List.mem_cons.mp hmem with rfl | hmem
          · exact hend
          · exact hpass.safe event hmem
        · exact hcall.safe event hmem
      · split at hmem
        · cases hmem
        · rw [List.mem_singleton.mp hmem]
          exact .inr (.inr rfl)
    · rw [hcalls]
      rfl
    · rw [hcalls]
      refine List.isChain_cons.mpr ⟨?_,hcall.decreasing⟩
      intro m hm
      rw [hcall.first] at hm
      obtain rfl := Option.some.inj hm
      exact hless
    · rw [hcalls, List.length_cons]
      have hcount := hcall.ends
      omega

end Calls

/-! ## The record is complete -/

section Complete
variable {σ : Type*} {ctx other : ConnContext} {world : σ} {bytesTransferred bufferOffset bytesLeft : ℕ}

/-- A context over the buffer of another one. -/
def ConnContext.onto (ctx other : ConnContext) : ConnContext :=
  { other with completeMessageSize := ctx.completeMessageSize, completeMessage := ctx.completeMessage }

def BodyResult.onto (other : ConnContext) : BodyResult σ → BodyResult σ
  | .returns result ctx world => .returns result (ctx.onto other) world
  | .recurses ctx world n offset => .recurses (ctx.onto other) world n offset

def BodyResult.context : BodyResult σ → ConnContext
  | .returns _ ctx _ => ctx
  | .recurses ctx _ _ _ => ctx

/-- The two buffers hold the same bytes wherever a read is recorded. -/
def SameReads (ctx other : ConnContext) (events : List BufferEvent) : Prop :=
  ∀ offset length, .read offset length ∈ events → other.slice offset length = ctx.slice offset length

theorem recordFinish_onto (ctx other : ConnContext) (messageBytesLeft : ℕ) :
    recordFinish (ctx.onto other) world bytesTransferred bufferOffset bytesLeft messageBytesLeft =
      ((recordFinish ctx world bytesTransferred bufferOffset bytesLeft messageBytesLeft).1,
        (recordFinish ctx world bytesTransferred bufferOffset bytesLeft messageBytesLeft).2.onto other) := by
  unfold recordFinish
  dsimp only
  split
  · rfl
  · split
    · rfl
    · split <;> rfl

theorem recordFinish_context (messageBytesLeft : ℕ) :
    (recordFinish ctx world bytesTransferred bufferOffset bytesLeft messageBytesLeft).2.context = ctx := by
  unfold recordFinish
  dsimp only
  split
  · rfl
  · split
    · rfl
    · split <;> rfl

variable (handleMessage : List UInt8 → σ → Bool × σ) (dataBegin : ℕ)

theorem recordMessage_buffer :
    (recordMessage handleMessage ctx world bytesTransferred bufferOffset bytesLeft dataBegin).2.context.buffer =
      ctx.buffer := by
  unfold recordMessage
  dsimp only
  split
  · split
    · rfl
    · rw [recordBefore, recordFinish_context]
  · rw [recordBefore, recordFinish_context]

theorem recordMessage_reads :
    .read dataBegin (min (sizeSub ctx.completeMessageSize ctx.completeMessage.length) bytesLeft) ∈
      (recordMessage handleMessage ctx world bytesTransferred bufferOffset bytesLeft dataBegin).1 := by
  unfold recordMessage
  dsimp only
  split
  · split <;> simp [recordBefore]
  · simp [recordBefore]

theorem recordMessage_onto (ctx other : ConnContext) (dataBegin : ℕ) (h : SameReads ctx other
      (recordMessage handleMessage ctx world bytesTransferred bufferOffset bytesLeft dataBegin).1) :
    recordMessage handleMessage (ctx.onto other) world bytesTransferred bufferOffset bytesLeft dataBegin =
      ((recordMessage handleMessage ctx world bytesTransferred bufferOffset bytesLeft dataBegin).1,
        (recordMessage handleMessage ctx world bytesTransferred bufferOffset bytesLeft dataBegin).2.onto other) := by
  have hslice : (ctx.onto other).slice dataBegin
      (min (sizeSub ctx.completeMessageSize ctx.completeMessage.length) bytesLeft) =
        ctx.slice dataBegin (min (sizeSub ctx.completeMessageSize ctx.completeMessage.length) bytesLeft) :=
    h _ _ (recordMessage_reads handleMessage dataBegin)
  have hsize : (ctx.onto other).completeMessageSize = ctx.completeMessageSize := rfl
  have hmessage : (ctx.onto other).completeMessage = ctx.completeMessage := rfl
  unfold recordMessage
  rw [hsize, hmessage]
  dsimp only
  rw [hslice]
  split
  · split
    · rfl
    · exact congrArg (recordBefore _)
        (recordFinish_onto { ctx with completeMessage := [], completeMessageSize := 0 } other _)
  · exact congrArg (recordBefore _)
      (recordFinish_onto { ctx with completeMessage := ctx.completeMessage ++ ctx.slice dataBegin _ } other _)

variable (ctx world bytesTransferred bufferOffset) in
theorem recordBody_buffer :
    (recordBody handleMessage ctx world bytesTransferred bufferOffset).2.context.buffer = ctx.buffer := by
  unfold recordBody
  dsimp only
  split
  · rfl
  · split
    · rfl
    · split
      · split
        · rfl
        · exact recordMessage_buffer handleMessage _
      · exact recordMessage_buffer handleMessage _

theorem recordBody_onto (ctx other : ConnContext) (world : σ) (h : SameReads ctx other
      (recordBody handleMessage ctx world bytesTransferred bufferOffset).1) :
    recordBody handleMessage (ctx.onto other) world bytesTransferred bufferOffset =
      ((recordBody handleMessage ctx world bytesTransferred bufferOffset).1,
        (recordBody handleMessage ctx world bytesTransferred bufferOffset).2.onto other) := by
  have hsize : (ctx.onto other).completeMessageSize = ctx.completeMessageSize := rfl
  have hlength : (ctx.onto other).buffer.length = ctx.buffer.length := by
    rw [(ctx.onto other).length_buffer, ctx.length_buffer]
  unfold recordBody at h ⊢
  rw [hsize, hlength]
  dsimp only at h ⊢
  by_cases hexceeds : bufferOffset + bytesTransferred > ctx.buffer.length
  · simp only [if_pos hexceeds]
    rfl
  by_cases hcut : bytesTransferred < header ∧ ctx.completeMessageSize = 0
  · simp only [if_neg hexceeds, if_pos hcut]
    rfl
  by_cases hbegins : ctx.completeMessageSize = 0
  · have hfits : ¬bytesTransferred < header := fun hshort => hcut ⟨hshort,hbegins⟩
    simp only [if_neg hexceeds, if_neg hcut, if_pos hbegins, if_neg hfits] at h ⊢
    have hslice : (ctx.onto other).slice bufferOffset header = ctx.slice bufferOffset header :=
      h _ _ (List.mem_append_left _ List.mem_cons_self)
    rw [hslice]
    refine congrArg (recordBefore _) (recordMessage_onto handleMessage
      { ctx with completeMessageSize := decodeLE (ctx.slice bufferOffset header) } other _ ?_)
    intro offset length hmem
    exact h offset length (List.mem_append_right _ hmem)
  · simp only [if_neg hexceeds, if_neg hcut, if_neg hbegins] at h ⊢
    exact recordMessage_onto handleMessage ctx other bufferOffset h

/-- A call looks at nothing in the buffer but what is recorded. -/
theorem recordBufferData_onto (h : SameReads ctx other
      (recordBufferData handleMessage ctx world bytesTransferred bufferOffset).1) :
    recordBufferData handleMessage (ctx.onto other) world bytesTransferred bufferOffset =
      ((recordBufferData handleMessage ctx world bytesTransferred bufferOffset).1,
        (recordBufferData handleMessage ctx world bytesTransferred bufferOffset).2.1,
        (recordBufferData handleMessage ctx world bytesTransferred bufferOffset).2.2.1.onto other,
        (recordBufferData handleMessage ctx world bytesTransferred bufferOffset).2.2.2) := by
  induction ctx, world, bytesTransferred, bufferOffset using recordBufferData.induct handleMessage with
  | case1 ctx world bytesTransferred bufferOffset events result ctx' world' hpass =>
    rw [recordBufferData, hpass] at h
    have hreads : SameReads ctx other (recordBody handleMessage ctx world bytesTransferred bufferOffset).1 := by
      rw [hpass]
      exact fun offset length hmem => h offset length (List.mem_cons_of_mem _ hmem)
    have hbody := recordBody_onto handleMessage ctx other world hreads
    rw [hpass] at hbody
    rw [recordBufferData, hbody, recordBufferData, hpass]
    rfl
  | case2 ctx world bytesTransferred bufferOffset events ctx' world' n offset hpass ih =>
    rw [recordBufferData, hpass] at h
    have hreads : SameReads ctx other (recordBody handleMessage ctx world bytesTransferred bufferOffset).1 := by
      rw [hpass]
      intro offset length hmem
      exact h offset length (List.mem_append_left _ (List.mem_append_left _ (List.mem_cons_of_mem _ hmem)))
    have hbody := recordBody_onto handleMessage ctx other world hreads
    rw [hpass] at hbody
    have hbuffer := recordBody_buffer ctx world bytesTransferred bufferOffset handleMessage
    rw [hpass] at hbuffer
    have hrest : SameReads ctx' other (recordBufferData handleMessage ctx' world' n offset).1 := by
      intro offset' length hmem
      have hsame := h offset' length (List.mem_append_left _ (List.mem_append_right _ hmem))
      have hslice : ctx'.slice offset' length = ctx.slice offset' length :=
        congrArg (fun buffer => (buffer.drop offset').take length) hbuffer
      exact hsame.trans hslice.symm
    rw [recordBufferData, hbody, recordBufferData, hpass]
    dsimp only [BodyResult.onto]
    rw [ih hrest]

end Complete

/-! ## Every context of a connection -/

section Reads
variable {σ : Type*} (handleMessage : List UInt8 → σ → Bool × σ)

/-- One completed `async_receive` with its record. -/
def recordReceive (ctx : ConnContext) (world : σ) (bytes : List UInt8) :
    List BufferEvent × Bool × ConnContext × σ :=
  recordBufferData handleMessage (ctx.write bytes) world bytes.length 0

/-- The contexts between two reads. What the other threads do before the next message is handled is open. -/
inductive ConnContext.Reachable : ConnContext → Prop where
  | empty : Reachable .empty
  | read {ctx : ConnContext} (h : Reachable ctx) (world : σ) (bytes : List UInt8)
      (hbytes : 1 ≤ bytes.length ∧ bytes.length ≤ bufferLength)
      (htrue : (receive handleMessage ctx world bytes).1 = true) :
      Reachable (receive handleMessage ctx world bytes).2.1

variable {handleMessage} {ctx : ConnContext} {bytes : List UInt8}

theorem recordReceive_snd (world : σ) :
    (recordReceive handleMessage ctx world bytes).2 = receive handleMessage ctx world bytes :=
  recordBufferData_snd handleMessage (ctx.write bytes) world bytes.length 0

variable (handleMessage) in
theorem recordReceive_inBounds (hctx : ctx.Waiting) (world : σ)
    (hbytes : 1 ≤ bytes.length ∧ bytes.length ≤ bufferLength) :
    InBounds bytes.length bytes.length (recordReceive handleMessage ctx world bytes) :=
  recordBufferData_inBounds handleMessage hctx hbytes.1 (Nat.zero_add _) hbytes.2

theorem ConnContext.Reachable.waiting (h : ctx.Reachable handleMessage) : ctx.Waiting := by
  induction h with
  | empty => exact .inl ⟨rfl,rfl⟩
  | read h world bytes hbytes htrue ih =>
    have hread := recordReceive_inBounds handleMessage ih world hbytes
    rw [← recordReceive_snd] at htrue ⊢
    exact hread.waiting htrue

/-- What an earlier read left in the buffer makes no difference. -/
theorem receive_onto (hctx : ctx.Waiting) (other : ConnContext) (world : σ)
    (hbytes : 1 ≤ bytes.length ∧ bytes.length ≤ bufferLength) :
    receive handleMessage (ctx.onto other) world bytes =
      ((receive handleMessage ctx world bytes).1,
        (receive handleMessage ctx world bytes).2.1.onto (other.write bytes),
        (receive handleMessage ctx world bytes).2.2) := by
  have hsame : SameReads (ctx.write bytes) (other.write bytes) (recordReceive handleMessage ctx world bytes).1 := by
    intro offset length hmem
    have hread : offset + length ≤ bytes.length :=
      (recordReceive_inBounds handleMessage hctx world hbytes).safe _ hmem
    rw [ctx.slice_write hread hbytes.2, other.slice_write hread hbytes.2]
  have hrecord := congrArg Prod.snd (recordBufferData_onto handleMessage hsame)
  rw [← recordReceive_snd, ← recordReceive_snd]
  exact hrecord

/-- The receive loop comes through such contexts. -/
theorem receiveAll_reachable (hctx : ctx.Reachable handleMessage) {world : σ} {reads : List (List UInt8)}
    (hreads : ∀ bytes ∈ reads, 1 ≤ bytes.length ∧ bytes.length ≤ bufferLength)
    (htrue : (receiveAll handleMessage ctx world reads).1 = true) :
    (receiveAll handleMessage ctx world reads).2.1.Reachable handleMessage := by
  induction reads generalizing ctx world with
  | nil => exact hctx
  | cons bytes reads ih =>
    have hread := ConnContext.Reachable.read hctx world bytes (hreads bytes List.mem_cons_self)
    simp only [receiveAll] at htrue ⊢
    generalize receive handleMessage ctx world bytes = after at hread htrue ⊢
    obtain ⟨result,ctx',world'⟩ := after
    cases result with
    | false => cases htrue
    | true => exact ih (hread rfl) (fun b hb => hreads b (List.mem_cons_of_mem bytes hb)) htrue

/-- Between two reads the context holds nothing of a message or a proper part of one, and whatever is read
next, `processBufferData` and its recursive calls keep to the bytes of this read. -/
theorem reachable_receive_inBounds (hctx : ctx.Reachable handleMessage) :
    ctx.Waiting ∧ ∀ (world : σ) (bytes : List UInt8), 1 ≤ bytes.length ∧ bytes.length ≤ bufferLength →
      (recordReceive handleMessage ctx world bytes).2 = receive handleMessage ctx world bytes ∧
        InBounds bytes.length bytes.length (recordReceive handleMessage ctx world bytes) :=
  ⟨hctx.waiting,fun world _ hbytes =>
    ⟨recordReceive_snd world,recordReceive_inBounds handleMessage hctx.waiting world hbytes⟩⟩

end Reads

/-- A message handler that keeps what it is called for. -/
def keepPayload (payload : List UInt8) (log : List (List UInt8)) : Bool × List (List UInt8) :=
  (true,log ++ [payload])

/-- A read that ends inside a payload, and one that goes on from there past its end. -/
theorem receive_inBounds_two : ∃ ctx : ConnContext, ctx.Reachable keepPayload ∧ ctx.completeMessageSize = 2 ∧
    ctx.completeMessage = [7] ∧ ctx.Waiting ∧
    InBounds 6 6 (recordReceive keepPayload ctx [] [8,1,0,0,0,9]) := by
  have hread : receive keepPayload .empty [] [2,0,0,0,7] =
      (processBody keepPayload (ConnContext.empty.write [2,0,0,0,7]) [] 5 0).run keepPayload :=
    processBufferData_eq_run ..
  have hctx : (receive keepPayload .empty [] [2,0,0,0,7]).2.1.Reachable keepPayload :=
    .read .empty [] [2,0,0,0,7] (by decide) (by rw [hread]; decide +kernel)
  have h := reachable_receive_inBounds hctx
  refine ⟨_,hctx,?_,?_,h.1,(h.2 [] [8,1,0,0,0,9] (by decide)).2⟩
  · rw [hread]
    decide +kernel
  · rw [hread]
    decide +kernel

end ModuleGateway.InternalServer
