import ModuleGateway.InternalServer.BufferData

/-! # The read loop recovers the frames of a stream

Whatever way the stream of frames is cut into reads, `processBufferData` handles
the completed payloads and keeps the open frame, as long as no read ends inside
the length of a frame; the first read that does is refused.
-/
namespace ModuleGateway.InternalServer
open LengthPrefix

variable {σ : Type*} (handleMessage : List UInt8 → σ → Bool × σ)

/-- Each payload is accepted in the state its predecessors leave. -/
def Accepted : List (List UInt8) → σ → Prop
  | [], _ => True
  | payload :: rest, world =>
    (handleMessage payload world).1 = true ∧ Accepted rest (handleMessage payload world).2

/-- The handlers' state after one call for each payload, in order. -/
def handled (payloads : List (List UInt8)) (world : σ) : σ :=
  payloads.foldl (fun world payload => (handleMessage payload world).2) world

theorem Accepted.drop {payloads : List (List UInt8)} {world : σ} (n : ℕ)
    (h : Accepted handleMessage payloads world) :
    Accepted handleMessage (payloads.drop n) (handled handleMessage (payloads.take n) world) := by
  induction n generalizing payloads world with
  | zero => simpa [handled] using h
  | succ n ih =>
    cases payloads with
    | nil => simpa [handled] using h
    | cons payload rest => simpa [handled] using ih h.2

/-- The context of an open frame of which `r` bytes have been read. -/
structure Holds (ctx : ConnContext) (payloads : List (List UInt8)) (r : ℕ) : Prop where
  size : ctx.completeMessageSize = if r = 0 then 0 else (payloads.headD []).length
  message : ctx.completeMessage = if r = 0 then [] else (payloads.headD []).take (r - header)

/-- `r` bytes are a proper part of the first frame. -/
def OpenFrame : List (List UInt8) → ℕ → Prop
  | [], r => r = 0
  | payload :: _, r => r < header + payload.length

theorem openFrame_zero (payloads : List (List UInt8)) : OpenFrame payloads 0 := by
  cases payloads with
  | nil => rfl
  | cons payload rest => exact Nat.lt_of_lt_of_le (by decide) (Nat.le_add_right header payload.length)

theorem openFrame_opened {payloads : List (List UInt8)} {n : ℕ}
    (h : n ≤ (stream header payloads).length) :
    OpenFrame (outstanding header payloads n) (opened header payloads n) := by
  induction payloads generalizing n with
  | nil => simpa [outstanding, opened, completed, progress, OpenFrame] using h
  | cons payload rest ih =>
    by_cases hn : header + payload.length ≤ n
    · obtain ⟨k,rfl⟩ := Nat.exists_eq_add_of_le hn
      have hk := ih (n := k) (by simpa using h)
      simpa [outstanding, opened, completed, progress_of_le] using hk
    · have hp : progress header (payload :: rest) n = ([],n) := progress_of_lt (Nat.lt_of_not_le hn)
      simpa [outstanding, opened, completed, hp, OpenFrame] using hn

/-- Payloads a frame can announce and `handleMessage` is called for. -/
def Framed (payloads : List (List UInt8)) : Prop :=
  ∀ payload ∈ payloads, payload ≠ [] ∧ payload.length < 2 ^ 32

theorem Framed.drop {payloads : List (List UInt8)} (h : Framed payloads) (n : ℕ) :
    Framed (payloads.drop n) := fun payload hp => h payload (List.mem_of_mem_drop hp)

theorem slice_take {ctx : ConnContext} {offset k n : ℕ} (h : k ≤ n) :
    ctx.slice offset k = (ctx.slice offset n).take k := by
  rw [ConnContext.slice, ConnContext.slice, List.take_take, Nat.min_eq_left h]

theorem slice_drop {ctx : ConnContext} {offset k n : ℕ} :
    ctx.slice (offset + k) n = (ctx.slice offset (k + n)).drop k := by
  rw [ConnContext.slice, ConnContext.slice, List.drop_take, List.drop_drop, Nat.add_sub_cancel_left]

section Body
variable {ctx : ConnContext} {world : σ} {payload rest : List UInt8}
variable {bytesTransferred bufferOffset dataBegin q n : ℕ}

theorem messageBytesLeft_eq (hsize : ctx.completeMessageSize = payload.length)
    (hmessage : ctx.completeMessage = payload.take q) (hq : q ≤ payload.length) :
    sizeSub ctx.completeMessageSize ctx.completeMessage.length = payload.length - q := by
  rw [hsize, hmessage, List.length_take, Nat.min_eq_left hq, sizeSub_of_le hq]

/-- The read ends inside the message. -/
theorem messageBody_short (hsize : ctx.completeMessageSize = payload.length)
    (hmessage : ctx.completeMessage = payload.take q)
    (hslice : ctx.slice dataBegin n = (payload.drop q ++ rest).take n)
    (hn : q + n < payload.length) :
    messageBody handleMessage ctx world bytesTransferred bufferOffset n dataBegin =
      .returns true { ctx with completeMessage := payload.take (q + n) } world := by
  have hmin : min (payload.length - q) n = n := by omega
  have happend : ctx.completeMessage ++ ctx.slice dataBegin n = payload.take (q + n) := by
    rw [hmessage, hslice, List.take_append_of_le_length (by rw [List.length_drop]; omega),
      List.take_add]
  have hne : ¬payload.length = (payload.take (q + n)).length := by
    rw [List.length_take]
    omega
  unfold messageBody
  rw [messageBytesLeft_eq hsize hmessage (by omega)]
  simp only [hmin, happend, hsize, if_neg hne, finishBody, lt_irrefl, if_false, Nat.sub_self,
    Nat.not_lt_zero, ne_eq, not_true_eq_false]

/-- The read completes the message; `m` bytes follow it. -/
theorem messageBody_complete {m : ℕ} (hsize : ctx.completeMessageSize = payload.length)
    (hmessage : ctx.completeMessage = payload.take q)
    (hslice : ctx.slice dataBegin n = (payload.drop q ++ rest).take n)
    (hq : q ≤ payload.length) (hn : n = payload.length - q + m) (hle : n ≤ bytesTransferred)
    (haccepted : (handleMessage payload world).1 = true) :
    messageBody handleMessage ctx world bytesTransferred bufferOffset n dataBegin =
      if m = 0 then
        .returns true { ctx with completeMessage := [], completeMessageSize := 0 }
          (handleMessage payload world).2
      else
        .recurses { ctx with completeMessage := [], completeMessageSize := 0 }
          (handleMessage payload world).2 m (bufferOffset + (bytesTransferred - m)) := by
  have hmin : min (payload.length - q) n = payload.length - q := by omega
  have happend : ctx.completeMessage ++ ctx.slice dataBegin (payload.length - q) = payload := by
    have hk : payload.length - q = (payload.drop q).length := (List.length_drop ..).symm
    rw [slice_take (show payload.length - q ≤ n by omega), hslice, List.take_take,
      Nat.min_eq_left (by omega), hk, List.take_left, hmessage, List.take_append_drop]
  have hm : n - (payload.length - q) = m := by omega
  unfold messageBody
  rw [messageBytesLeft_eq hsize hmessage hq]
  simp only [hmin, happend, hsize, if_true]
  rw [show handleMessage payload world = (true,(handleMessage payload world).2) from
    Prod.ext haccepted rfl]
  have h1 : ¬n < payload.length - q := by omega
  have h2 : ¬bytesTransferred < m := by omega
  simp only [finishBody, if_neg h1, hm, if_neg h2, ne_eq, ite_not]

end Body

/-- What one call has to do with the next `n` bytes of the stream. -/
def CallSpec (payloads : List (List UInt8)) (world : σ) (r n : ℕ)
    (out : Bool × ConnContext × σ) : Prop :=
  out.2.2 = handled handleMessage (completed header payloads (r + n)) world ∧
    if EndsInHeader header payloads (r + n) then out.1 = false
    else out.1 = true ∧
      Holds out.2.1 (outstanding header payloads (r + n)) (opened header payloads (r + n))

theorem callSpec_of_lt {payload : List UInt8} {rest : List (List UInt8)} {world : σ} {r n : ℕ}
    {ctx : ConnContext} (h : r + n < header + payload.length) (hr : header ≤ r + n)
    (hsize : ctx.completeMessageSize = payload.length)
    (hmessage : ctx.completeMessage = payload.take (r + n - header)) :
    CallSpec handleMessage (payload :: rest) world r n (true,ctx,world) := by
  have h0 : r + n ≠ 0 := by
    have : 0 < header := by decide
    omega
  have hends : ¬EndsInHeader header (payload :: rest) (r + n) := by
    rw [EndsInHeader, opened_of_lt h]
    omega
  refine ⟨by rw [completed_of_lt h]; rfl,?_⟩
  rw [if_neg hends, opened_of_lt h, outstanding_of_lt h]
  exact ⟨rfl,by rw [if_neg h0]; exact hsize,by rw [if_neg h0]; exact hmessage⟩

/-- Handling the first payload leaves the same task for the frames behind it. -/
theorem callSpec_cons {payload : List UInt8} {rest : List (List UInt8)} {world : σ} {r n m : ℕ}
    {out : Bool × ConnContext × σ} (h : r + n = header + payload.length + m)
    (hout : CallSpec handleMessage rest (handleMessage payload world).2 0 m out) :
    CallSpec handleMessage (payload :: rest) world r n out := by
  have hcompleted : completed header (payload :: rest) (r + n) =
      payload :: completed header rest m := by rw [completed, h, progress_of_le]; rfl
  have hopened : opened header (payload :: rest) (r + n) = opened header rest m := by
    rw [opened, h, progress_of_le]; rfl
  have houtstanding : outstanding header (payload :: rest) (r + n) = outstanding header rest m := by
    rw [outstanding, hcompleted]; rfl
  simpa [CallSpec, EndsInHeader, hcompleted, hopened, houtstanding, handled] using hout

theorem callSpec_zero {payloads : List (List UInt8)} {world : σ} {ctx : ConnContext}
    (hctx : Holds ctx payloads 0) : CallSpec handleMessage payloads world 0 0 (true,ctx,world) := by
  have hp : progress header payloads 0 = ([],0) := progress_zero (by decide) payloads
  simpa [CallSpec, EndsInHeader, completed, opened, outstanding, hp, handled] using hctx

theorem holds_empty {ctx : ConnContext} {payloads : List (List UInt8)}
    (hsize : ctx.completeMessageSize = 0) (hmessage : ctx.completeMessage = []) :
    Holds ctx payloads 0 := ⟨by simpa using hsize,by simpa using hmessage⟩

/-- One call of `processBufferData` on the next bytes of a stream. The induction is on
the frames: a recursive call starts at the first byte of the next frame. -/
theorem processBufferData_stream {payloads : List (List UInt8)} {ctx : ConnContext} {world : σ}
    {r n offset : ℕ} (hctx : Holds ctx payloads r) (hopen : OpenFrame payloads r)
    (hr : r = 0 ∨ header ≤ r) (hframed : Framed payloads)
    (haccepted : Accepted handleMessage payloads world)
    (hslice : ctx.slice offset n = ((stream header payloads).drop r).take n)
    (hlen : r + n ≤ (stream header payloads).length) (hn : 0 < n)
    (hoff : offset + n ≤ bufferLength) :
    CallSpec handleMessage payloads world r n
      (processBufferData handleMessage ctx world n offset) := by
  induction payloads generalizing ctx world r n offset with
  | nil =>
    simp only [stream_nil, List.length_nil] at hlen
    omega
  | cons payload rest ih =>
    obtain ⟨hne,hlt⟩ := hframed payload List.mem_cons_self
    have hpos : 0 < payload.length := List.length_pos_iff.mpr hne
    have hframe : (frame header payload).length = header + payload.length := length_frame ..
    -- once the length is known, `b` bytes from `data` on belong to the message and beyond
    have hbody : ∀ (ctx' : ConnContext) (q b data : ℕ), ctx'.completeMessageSize = payload.length →
        ctx'.completeMessage = payload.take q → q < payload.length → r + n = header + q + b →
        b ≤ n → data = offset + (n - b) → data + b ≤ bufferLength →
        ctx'.slice data b = (payload.drop q ++ stream header rest).take b →
        CallSpec handleMessage (payload :: rest) world r n
          ((messageBody handleMessage ctx' world n offset b data).run handleMessage) := by
      intro ctx' q b data hsize hmessage hq hb hbn hdata hbuf hs
      rcases Nat.lt_or_ge (q + b) payload.length with hshort | hcomplete
      · rw [messageBody_short handleMessage hsize hmessage hs hshort]
        refine callSpec_of_lt handleMessage (by omega) (by omega) hsize ?_
        rw [show r + n - header = q + b by omega]
      · obtain ⟨m,hm⟩ := Nat.exists_eq_add_of_le hcomplete
        rw [messageBody_complete handleMessage hsize hmessage hs hq.le (m := m) (by omega) hbn
          haccepted.1]
        refine callSpec_cons handleMessage (m := m) (by omega) ?_
        split
        · subst m
          exact callSpec_zero handleMessage (holds_empty rfl rfl)
        · have hk : b = (payload.drop q).length + m := by
            rw [List.length_drop]
            omega
          have hnext : ctx'.slice (offset + (n - m)) m = (stream header rest).take m := by
            rw [show offset + (n - m) = data + (payload.drop q).length by omega, slice_drop, ← hk, hs,
              List.drop_take, List.drop_left]
            congr 1
            omega
          refine ih (holds_empty rfl rfl) (openFrame_zero rest) (Or.inl rfl)
            (fun p hp => hframed p (List.mem_cons_of_mem _ hp)) haccepted.2 hnext ?_ (by omega)
            (by omega)
          rw [stream_cons, List.length_append, hframe] at hlen
          omega
    have hbound : ¬offset + n > ctx.buffer.length := by
      rw [ctx.length_buffer]
      omega
    rw [processBufferData_eq_run]
    unfold processBody
    rw [if_neg hbound]
    rcases hr with rfl | hr
    · -- the read starts with the length of a frame
      have hs0 : ctx.completeMessageSize = 0 := hctx.size
      rw [List.drop_zero, stream_cons, frame, List.append_assoc] at hslice
      rcases Nat.lt_or_ge n header with hshort | hheader
      · rw [if_pos ⟨hshort,hs0⟩]
        have hp : 0 + n < header + payload.length := by omega
        have hends : EndsInHeader header (payload :: rest) (0 + n) := by
          rw [EndsInHeader, opened_of_lt hp]
          omega
        refine ⟨by rw [completed_of_lt hp]; rfl,?_⟩
        rw [if_pos hends]
        rfl
      · rw [if_neg (by omega), if_pos hs0, if_neg (by omega)]
        have hsize : decodeLE (ctx.slice offset header) = payload.length := by
          rw [slice_take hheader, hslice, List.take_take, Nat.min_eq_left hheader,
            List.take_append_of_le_length (by simp), List.take_of_length_le (by simp),
            decodeLE_encodeLE (by simpa [header] using hlt)]
        have hdrop : ctx.slice (offset + header) (n - header) =
            (payload ++ stream header rest).take (n - header) := by
          rw [slice_drop, Nat.add_sub_cancel' hheader, hslice, List.drop_take,
            List.drop_left' (length_encodeLE ..)]
        exact hbody _ 0 _ _ hsize (by simpa using hctx.message) hpos (by omega) (by omega) (by omega)
          (by omega) hdrop
    · -- the read continues an open message
      have h0 : r ≠ 0 := by
        have : 0 < header := by decide
        omega
      have hsize : ctx.completeMessageSize = payload.length := by simpa [h0] using hctx.size
      have hmessage : ctx.completeMessage = payload.take (r - header) := by
        simpa [h0] using hctx.message
      have hne0 : ¬ctx.completeMessageSize = 0 := by omega
      rw [if_neg (fun h => hne0 h.2), if_neg hne0]
      simp only [OpenFrame] at hopen
      refine hbody ctx (r - header) n offset hsize hmessage (by omega) (by omega) le_rfl (by omega)
        hoff ?_
      rw [hslice, stream_cons, frame, List.append_assoc,
        show r = (encodeLE header payload.length).length + (r - header) by
          rw [length_encodeLE]
          omega,
        List.drop_length_add_append, length_encodeLE, Nat.add_sub_cancel_left,
        List.drop_append_of_le_length (by omega)]

/-- Where the connection stands after the first `n` bytes of the stream. -/
structure At (payloads : List (List UInt8)) (world₀ : σ) (n : ℕ) (ctx : ConnContext) (world : σ) :
    Prop where
  holds : Holds ctx (outstanding header payloads n) (opened header payloads n)
  world_eq : world = handled handleMessage (completed header payloads n) world₀

theorem completed_eq_take (payloads : List (List UInt8)) (n : ℕ) :
    completed header payloads n = payloads.take (completed header payloads n).length := by
  induction payloads generalizing n with
  | nil => rfl
  | cons payload rest ih =>
    by_cases h : header + payload.length ≤ n
    · obtain ⟨k,rfl⟩ := Nat.exists_eq_add_of_le h
      simpa [completed, progress_of_le] using ih k
    · rw [completed_of_lt (Nat.lt_of_not_le h)]
      rfl

theorem handled_append (xs ys : List (List UInt8)) (world : σ) :
    handled handleMessage (xs ++ ys) world =
      handled handleMessage ys (handled handleMessage xs world) := List.foldl_append

@[simp] theorem write_size (ctx : ConnContext) (bytes : List UInt8) :
    (ctx.write bytes).completeMessageSize = ctx.completeMessageSize := rfl

@[simp] theorem write_message (ctx : ConnContext) (bytes : List UInt8) :
    (ctx.write bytes).completeMessage = ctx.completeMessage := rfl

/-- One read at any point of the stream. -/
theorem receive_stream {payloads : List (List UInt8)} {world₀ world : σ} {n : ℕ}
    {ctx : ConnContext} {bytes : List UInt8} (hat : At handleMessage payloads world₀ n ctx world)
    (hn : n ≤ (stream header payloads).length) (hcut : ¬EndsInHeader header payloads n)
    (hframed : Framed payloads) (haccepted : Accepted handleMessage payloads world₀)
    (hbytes : 1 ≤ bytes.length ∧ bytes.length ≤ bufferLength)
    (hstream : bytes <+: (stream header payloads).drop n) :
    (receive handleMessage ctx world bytes).2.2 =
        handled handleMessage (completed header payloads (n + bytes.length)) world₀ ∧
      if EndsInHeader header payloads (n + bytes.length) then
        (receive handleMessage ctx world bytes).1 = false
      else (receive handleMessage ctx world bytes).1 = true ∧
        At handleMessage payloads world₀ (n + bytes.length)
          (receive handleMessage ctx world bytes).2.1 (receive handleMessage ctx world bytes).2.2 := by
  have hopened : opened header payloads n = 0 ∨ header ≤ opened header payloads n := by
    simp only [EndsInHeader, not_and, not_lt] at hcut
    rcases Nat.eq_zero_or_pos (opened header payloads n) with h | h
    · exact Or.inl h
    · exact Or.inr (hcut h)
  have haccepted' : Accepted handleMessage (outstanding header payloads n) world := by
    rw [hat.world_eq, completed_eq_take]
    exact haccepted.drop handleMessage _
  rw [drop_stream] at hstream
  have hlen := hstream.length_le
  rw [List.length_drop] at hlen
  have hslice : (ctx.write bytes).slice 0 bytes.length =
      ((stream header (outstanding header payloads n)).drop (opened header payloads n)).take
        bytes.length := by
    rw [ctx.slice_write (Nat.zero_add _).le hbytes.2, List.drop_zero, List.take_length]
    exact List.prefix_iff_eq_take.mp hstream
  have hwritten : Holds (ctx.write bytes) (outstanding header payloads n) (opened header payloads n) :=
    ⟨hat.holds.size,hat.holds.message⟩
  have hcall := processBufferData_stream handleMessage hwritten (openFrame_opened hn) hopened (hframed.drop _)
    haccepted' hslice (by omega) hbytes.1 (by omega)
  obtain ⟨hworld,hresult⟩ := hcall
  have hw : (receive handleMessage ctx world bytes).2.2 =
      handled handleMessage (completed header payloads (n + bytes.length)) world₀ := by
    rw [completed_add, handled_append, ← hat.world_eq]
    exact hworld
  have hends : EndsInHeader header payloads (n + bytes.length) ↔
      EndsInHeader header (outstanding header payloads n) (opened header payloads n + bytes.length) := by
    rw [EndsInHeader, EndsInHeader, opened_add]
  refine ⟨hw,?_⟩
  by_cases h : EndsInHeader header payloads (n + bytes.length)
  · rw [if_pos (hends.mp h)] at hresult
    rw [if_pos h]
    exact hresult
  · rw [if_neg (fun he => h (hends.mpr he))] at hresult
    rw [if_neg h]
    refine ⟨hresult.1,⟨?_,hw⟩⟩
    rw [opened_add, outstanding_add]
    exact hresult.2

theorem prefix_flatten_concat {reads : List (List UInt8)} {bytes all : List UInt8}
    (h : (reads ++ [bytes]).flatten <+: all) :
    reads.flatten <+: all ∧ bytes <+: all.drop reads.flatten.length := by
  obtain ⟨tail,rfl⟩ := h
  rw [List.flatten_append, List.flatten_singleton, List.append_assoc, List.drop_left]
  exact ⟨List.prefix_append _ _,List.prefix_append _ _⟩

theorem prefix_flatten_take (reads : List (List UInt8)) (k : ℕ) :
    (reads.take k).flatten <+: reads.flatten := by
  conv_rhs => rw [← List.take_append_drop k reads, List.flatten_append]
  exact List.prefix_append _ _

/-- One more read after a run of accepted ones. -/
theorem receiveAll_next {payloads : List (List UInt8)} {world : σ} {ctx : ConnContext}
    {reads : List (List UInt8)} {bytes : List UInt8} (hframed : Framed payloads)
    (haccepted : Accepted handleMessage payloads world)
    (hbytes : 1 ≤ bytes.length ∧ bytes.length ≤ bufferLength)
    (hstream : (reads ++ [bytes]).flatten <+: stream header payloads)
    (hcut : ∀ k ≤ reads.length, ¬EndsInHeader header payloads (reads.take k).flatten.length)
    (hbefore : (receiveAll handleMessage ctx world reads).1 = true ∧
      At handleMessage payloads world reads.flatten.length
        (receiveAll handleMessage ctx world reads).2.1
        (receiveAll handleMessage ctx world reads).2.2) :
    (receiveAll handleMessage ctx world (reads ++ [bytes])).2.2 = handled handleMessage
        (completed header payloads (reads ++ [bytes]).flatten.length) world ∧
      if EndsInHeader header payloads (reads ++ [bytes]).flatten.length then
        (receiveAll handleMessage ctx world (reads ++ [bytes])).1 = false
      else (receiveAll handleMessage ctx world (reads ++ [bytes])).1 = true ∧
        At handleMessage payloads world (reads ++ [bytes]).flatten.length
          (receiveAll handleMessage ctx world (reads ++ [bytes])).2.1
          (receiveAll handleMessage ctx world (reads ++ [bytes])).2.2 := by
  have hfirst := hcut reads.length le_rfl
  rw [List.take_length] at hfirst
  obtain ⟨hreads,hdrop⟩ := prefix_flatten_concat hstream
  rw [receiveAll_concat, if_pos hbefore.1, List.flatten_append, List.flatten_singleton,
    List.length_append]
  exact receive_stream handleMessage hbefore.2 hreads.length_le hfirst hframed haccepted hbytes hdrop

/-- The read loop over any reads none of which ends inside the length of a frame. -/
theorem receiveAll_stream {payloads : List (List UInt8)} {world : σ} {ctx : ConnContext}
    (hctx : ctx.completeMessageSize = 0 ∧ ctx.completeMessage = []) (hframed : Framed payloads)
    (haccepted : Accepted handleMessage payloads world) {reads : List (List UInt8)}
    (hreads : ∀ bytes ∈ reads, 1 ≤ bytes.length ∧ bytes.length ≤ bufferLength)
    (hstream : reads.flatten <+: stream header payloads)
    (hcut : ∀ k ≤ reads.length, ¬EndsInHeader header payloads (reads.take k).flatten.length) :
    (receiveAll handleMessage ctx world reads).1 = true ∧
      At handleMessage payloads world reads.flatten.length
        (receiveAll handleMessage ctx world reads).2.1
        (receiveAll handleMessage ctx world reads).2.2 := by
  induction reads using List.reverseRecOn with
  | nil =>
    have hp : progress header payloads 0 = ([],0) := progress_zero (by decide) payloads
    refine ⟨rfl,⟨?_,?_⟩⟩
    · simpa [receiveAll, opened, hp] using holds_empty hctx.1 hctx.2
    · simp [receiveAll, completed, hp, handled]
  | append_singleton reads bytes ih =>
    have hcut' : ∀ k ≤ reads.length,
        ¬EndsInHeader header payloads (reads.take k).flatten.length := by
      intro k hk
      have h := hcut k (by rw [List.length_append]; omega)
      rwa [List.take_append_of_le_length hk] at h
    have hlast := hcut (reads ++ [bytes]).length le_rfl
    rw [List.take_length] at hlast
    have hbefore := ih (fun b hb => hreads b (List.mem_append_left _ hb))
      ((prefix_flatten_concat hstream).1) hcut'
    have hstep := receiveAll_next handleMessage hframed haccepted (hreads bytes (by simp)) hstream
      hcut' hbefore
    rw [if_neg hlast] at hstep
    exact hstep.2

/-- `processBufferData` over a whole stream: with no read ending inside the length of a
frame every call returns `true`, the completed payloads are handled in order and the
open frame is kept; otherwise the first such read is refused, after the payloads that
precede the length it cuts. -/
theorem receiveAll_frames (payloads : List (List UInt8)) (world : σ) (ctx : ConnContext)
    (hctx : ctx.completeMessageSize = 0 ∧ ctx.completeMessage = [])
    (hframed : Framed payloads) (haccepted : Accepted handleMessage payloads world)
    (reads : List (List UInt8))
    (hreads : ∀ bytes ∈ reads, 1 ≤ bytes.length ∧ bytes.length ≤ bufferLength)
    (hstream : reads.flatten <+: stream header payloads) :
    ((∀ k ≤ reads.length, ¬EndsInHeader header payloads (reads.take k).flatten.length) →
      (∀ k ≤ reads.length, (receiveAll handleMessage ctx world (reads.take k)).1 = true) ∧
        At handleMessage payloads world reads.flatten.length
          (receiveAll handleMessage ctx world reads).2.1
          (receiveAll handleMessage ctx world reads).2.2) ∧
    ∀ k < reads.length,
      (∀ j ≤ k, ¬EndsInHeader header payloads (reads.take j).flatten.length) →
      EndsInHeader header payloads (reads.take (k + 1)).flatten.length →
      (receiveAll handleMessage ctx world (reads.take k)).1 = true ∧
        (receiveAll handleMessage ctx world (reads.take (k + 1))).1 = false ∧
        (receiveAll handleMessage ctx world (reads.take (k + 1))).2.2 = handled handleMessage
          (completed header payloads (reads.take (k + 1)).flatten.length) world := by
  have htake : ∀ k, (reads.take k).flatten <+: stream header payloads := fun k =>
    (prefix_flatten_take reads k).trans hstream
  have hbefore : ∀ k ≤ reads.length,
      (∀ j ≤ k, ¬EndsInHeader header payloads (reads.take j).flatten.length) →
      (receiveAll handleMessage ctx world (reads.take k)).1 = true ∧
        At handleMessage payloads world (reads.take k).flatten.length
          (receiveAll handleMessage ctx world (reads.take k)).2.1
          (receiveAll handleMessage ctx world (reads.take k)).2.2 := by
    intro k hk hcut
    refine receiveAll_stream handleMessage hctx hframed haccepted
      (fun b hb => hreads b (List.mem_of_mem_take hb)) (htake k) ?_
    intro j hj
    rw [List.length_take, Nat.min_eq_left hk] at hj
    rw [List.take_take, Nat.min_eq_left hj]
    exact hcut j hj
  refine ⟨fun hcut => ⟨fun k hk => (hbefore k hk (fun j hj => hcut j (hj.trans hk))).1,?_⟩,?_⟩
  · simpa using (hbefore reads.length le_rfl hcut).2
  · intro k hk hcut hends
    have hprev := hbefore k hk.le hcut
    have hconcat : reads.take (k + 1) = reads.take k ++ [reads[k]] := List.take_succ_eq_append_getElem hk
    have hcut' : ∀ j ≤ (reads.take k).length,
        ¬EndsInHeader header payloads ((reads.take k).take j).flatten.length := by
      intro j hj
      rw [List.length_take, Nat.min_eq_left hk.le] at hj
      rw [List.take_take, Nat.min_eq_left hj]
      exact hcut j hj
    have hp := htake (k + 1)
    rw [hconcat] at hp hends ⊢
    have hstep := receiveAll_next handleMessage hframed haccepted
      (hreads _ (List.getElem_mem hk)) hp hcut' hprev
    rw [if_pos hends] at hstep
    exact ⟨hprev.1,hstep.2,hstep.1⟩

/-- Two frames in two reads, the first read ending inside the first payload. -/
theorem receiveAll_frames_two :
    (receiveAll (fun payload log => (true,log ++ [payload])) .empty []
        [[2,0,0,0,7],[8,1,0,0,0,9]]).2.2 = [[7,8],[9]] := by
  have h := receiveAll_frames (fun payload log => (true,log ++ [payload])) [[7,8],[9]] [] .empty
    ⟨rfl,rfl⟩ (by simp [Framed]) ⟨rfl,rfl,trivial⟩ [[2,0,0,0,7],[8,1,0,0,0,9]] (by decide) (by decide)
  exact (h.1 (by decide)).2.world_eq

end ModuleGateway.InternalServer
