import ModuleGateway.Library.LengthPrefix

/-! # Cutting received bytes into messages

`processBufferData` works on the read buffer of one connection and calls
`handleMessage` on every completed message. Its recursion is tail recursion, so
the body up to the recursive call is a definition of its own. `handleMessage` is
a parameter with a state of its own: what the other threads and the message
handlers do is not looked at here.
-/
namespace ModuleGateway.InternalServer
open LengthPrefix

/-- `settings::header`. -/
def header : ℕ := 4

/-- `settings::buffer_length`. -/
def bufferLength : ℕ := 1024

/-- `Connection::connContext`; the buffer is an array of a fixed size. -/
structure ConnContext where
  buffer : List UInt8
  completeMessageSize : ℕ
  completeMessage : List UInt8
  length_buffer : buffer.length = bufferLength

namespace ConnContext

/-- The context of a new connection. -/
def empty : ConnContext := ⟨List.replicate bufferLength 0,0,[],List.length_replicate⟩

/-- `async_receive` fills the front of the buffer; older bytes stay behind it. -/
def write (ctx : ConnContext) (bytes : List UInt8) : ConnContext where
  buffer := (bytes ++ ctx.buffer.drop bytes.length).take bufferLength
  completeMessageSize := ctx.completeMessageSize
  completeMessage := ctx.completeMessage
  length_buffer := by
    rw [List.length_take, List.length_append, List.length_drop, ctx.length_buffer]
    omega

/-- The bytes between two iterators into the buffer. -/
def slice (ctx : ConnContext) (offset length : ℕ) : List UInt8 := (ctx.buffer.drop offset).take length

theorem length_slice (ctx : ConnContext) {offset length : ℕ} (h : offset + length ≤ bufferLength) :
    (ctx.slice offset length).length = length := by
  rw [slice, List.length_take, List.length_drop, ctx.length_buffer]
  omega

/-- What was read stands at the front of the buffer. -/
theorem slice_write (ctx : ConnContext) {bytes : List UInt8} {offset length : ℕ} (h : offset + length ≤ bytes.length)
    (hbytes : bytes.length ≤ bufferLength) :
    (ctx.write bytes).slice offset length = (bytes.drop offset).take length := by
  have hlength : length ≤ (bytes.drop offset).length := by
    rw [List.length_drop]
    omega
  rw [slice, write, List.drop_take, List.take_take, Nat.min_eq_left (by omega),
    List.drop_append_of_le_length (by omega), List.take_append_of_le_length hlength]

end ConnContext

/-- Subtraction of `std::size_t`: a negative difference wraps to a huge one. -/
def sizeSub (a b : ℕ) : ℕ := if b ≤ a then a - b else 2 ^ 64 - (b - a) % 2 ^ 64

theorem sizeSub_of_le {a b : ℕ} (h : b ≤ a) : sizeSub a b = a - b := if_pos h

theorem eq_of_sizeSub_eq_zero {a b : ℕ} (h : sizeSub a b = 0) : a = b := by
  have hm : (b - a) % 2 ^ 64 < 2 ^ 64 := Nat.mod_lt _ (Nat.two_pow_pos 64)
  unfold sizeSub at h
  split at h <;> omega

variable {σ : Type*} (handleMessage : List UInt8 → σ → Bool × σ)

/-- What one pass through the body of `processBufferData` ends with. -/
inductive BodyResult (σ : Type*) where
  | returns (result : Bool) (ctx : ConnContext) (world : σ)
  | recurses (ctx : ConnContext) (world : σ) (bytesLeft bufferOffset : ℕ)

/-- The end of the body, from the check of `messageBytesLeft` on. -/
def finishBody (ctx : ConnContext) (world : σ)
    (bytesTransferred bufferOffset bytesLeft messageBytesLeft : ℕ) : BodyResult σ :=
  if bytesLeft < messageBytesLeft then .returns false ctx world
  else
    let bytesLeft := bytesLeft - messageBytesLeft
    if bytesTransferred < bytesLeft then .returns false ctx world
    else if bytesLeft ≠ 0 then
      .recurses ctx world bytesLeft (bufferOffset + (bytesTransferred - bytesLeft))
    else .returns true ctx world

/-- The middle of the body: copy what belongs to the message, handle it when complete. -/
def messageBody (ctx : ConnContext) (world : σ)
    (bytesTransferred bufferOffset bytesLeft dataBegin : ℕ) : BodyResult σ :=
  let messageBytesLeft := min (sizeSub ctx.completeMessageSize ctx.completeMessage.length) bytesLeft
  let ctx := { ctx with
    completeMessage := ctx.completeMessage ++ ctx.slice dataBegin messageBytesLeft }
  if ctx.completeMessageSize = ctx.completeMessage.length then
    match handleMessage ctx.completeMessage world with
    | (false,world) => .returns false ctx world
    | (true,world) =>
      finishBody { ctx with completeMessage := [], completeMessageSize := 0 } world
        bytesTransferred bufferOffset bytesLeft messageBytesLeft
  else finishBody ctx world bytesTransferred bufferOffset bytesLeft messageBytesLeft

/-- The body of `processBufferData` up to its recursive call. -/
def processBody (ctx : ConnContext) (world : σ) (bytesTransferred bufferOffset : ℕ) :
    BodyResult σ :=
  if bufferOffset + bytesTransferred > ctx.buffer.length then .returns false ctx world
  else if bytesTransferred < header ∧ ctx.completeMessageSize = 0 then .returns false ctx world
  else if ctx.completeMessageSize = 0 then
    let ctx := { ctx with completeMessageSize := decodeLE (ctx.slice bufferOffset header) }
    if bytesTransferred < header then .returns false ctx world
    else messageBody handleMessage ctx world bytesTransferred bufferOffset
      (bytesTransferred - header) (bufferOffset + header)
  else messageBody handleMessage ctx world bytesTransferred bufferOffset bytesTransferred
    bufferOffset

theorem finishBody_recurses {ctx ctx' : ConnContext} {world world' : σ}
    {bytesTransferred bufferOffset bytesLeft messageBytesLeft n offset : ℕ}
    (h : finishBody ctx world bytesTransferred bufferOffset bytesLeft messageBytesLeft =
      .recurses ctx' world' n offset) :
    ctx' = ctx ∧ n = bytesLeft - messageBytesLeft ∧ n ≠ 0 := by
  unfold finishBody at h
  split at h
  · cases h
  · dsimp only at h
    split at h
    · cases h
    · split at h
      · cases h
        exact ⟨rfl,rfl,by assumption⟩
      · cases h

/-- A recursive call has either consumed a byte of the message or follows a completed one. -/
theorem messageBody_recurses {ctx ctx' : ConnContext} {world world' : σ}
    {bytesTransferred bufferOffset bytesLeft dataBegin n offset : ℕ}
    (h : messageBody handleMessage ctx world bytesTransferred bufferOffset bytesLeft dataBegin =
      .recurses ctx' world' n offset) :
    n < bytesLeft ∨ (n = bytesLeft ∧ ctx'.completeMessageSize = 0) := by
  unfold messageBody at h
  dsimp only at h
  split at h
  · split at h
    · cases h
    · obtain ⟨rfl,hn,h0⟩ := finishBody_recurses h
      rcases Nat.lt_or_ge n bytesLeft with hlt | hge
      · exact Or.inl hlt
      · exact Or.inr ⟨by omega,rfl⟩
  · rename_i hne
    obtain ⟨rfl,hn,h0⟩ := finishBody_recurses h
    left
    by_contra hge
    have hzero : sizeSub ctx.completeMessageSize ctx.completeMessage.length = 0 := by omega
    apply hne
    rw [hzero, Nat.zero_min]
    simpa [ConnContext.slice] using eq_of_sizeSub_eq_zero hzero

/-- The measure of the recursion: the bytes still to look at, then whether a header was read. -/
theorem processBody_recurses {ctx ctx' : ConnContext} {world world' : σ}
    {bytesTransferred bufferOffset n offset : ℕ}
    (h : processBody handleMessage ctx world bytesTransferred bufferOffset =
      .recurses ctx' world' n offset) :
    n < bytesTransferred ∨ (n = bytesTransferred ∧
      (if ctx'.completeMessageSize = 0 then 0 else 1) <
        (if ctx.completeMessageSize = 0 then 0 else 1)) := by
  have hheader : 0 < header := by decide
  unfold processBody at h
  split at h
  · cases h
  · split at h
    · cases h
    · rename_i hshort
      split at h
      · rename_i hsize
        dsimp only at h
        split at h
        · cases h
        · have hm := messageBody_recurses handleMessage h
          left
          omega
      · rename_i hsize
        rcases messageBody_recurses handleMessage h with hlt | ⟨he,hz⟩
        · exact Or.inl hlt
        · exact Or.inr ⟨he,by simp [hz,hsize]⟩

/-- `InternalServer::processBufferData`: the result, the context and the handlers' state. -/
def processBufferData (ctx : ConnContext) (world : σ) (bytesTransferred bufferOffset : ℕ) :
    Bool × ConnContext × σ :=
  match _h : processBody handleMessage ctx world bytesTransferred bufferOffset with
  | .returns result ctx' world' => (result,ctx',world')
  | .recurses ctx' world' n offset => processBufferData ctx' world' n offset
termination_by (bytesTransferred,if ctx.completeMessageSize = 0 then 0 else 1)
decreasing_by
  rcases processBody_recurses handleMessage _h with hlt | ⟨rfl,hlt⟩
  · exact Prod.Lex.left _ _ hlt
  · exact Prod.Lex.right _ hlt

/-- What is left to do after one pass through the body. -/
def BodyResult.run : BodyResult σ → Bool × ConnContext × σ
  | .returns result ctx world => (result,ctx,world)
  | .recurses ctx world n offset => processBufferData handleMessage ctx world n offset

theorem processBufferData_eq_run (ctx : ConnContext) (world : σ) (bytesTransferred bufferOffset : ℕ) :
    processBufferData handleMessage ctx world bytesTransferred bufferOffset =
      (processBody handleMessage ctx world bytesTransferred bufferOffset).run handleMessage := by
  rw [processBufferData]
  split <;> simp_all [BodyResult.run]

/-- One completed `async_receive`: the bytes land in the buffer and are processed. -/
def receive (ctx : ConnContext) (world : σ) (bytes : List UInt8) : Bool × ConnContext × σ :=
  processBufferData handleMessage (ctx.write bytes) world bytes.length 0

/-- The receive loop of `asyncReceiveHandler`: it reads again only after `true`. -/
def receiveAll : ConnContext → σ → List (List UInt8) → Bool × ConnContext × σ
  | ctx, world, [] => (true,ctx,world)
  | ctx, world, bytes :: rest =>
    match receive handleMessage ctx world bytes with
    | (true,ctx,world) => receiveAll ctx world rest
    | (false,ctx,world) => (false,ctx,world)

theorem receiveAll_concat (ctx : ConnContext) (world : σ) (reads : List (List UInt8))
    (bytes : List UInt8) :
    receiveAll handleMessage ctx world (reads ++ [bytes]) =
      if (receiveAll handleMessage ctx world reads).1 then
        receive handleMessage (receiveAll handleMessage ctx world reads).2.1
          (receiveAll handleMessage ctx world reads).2.2 bytes
      else receiveAll handleMessage ctx world reads := by
  induction reads generalizing ctx world with
  | nil =>
    simp only [List.nil_append, receiveAll, if_true]
    split <;> simp_all
  | cons b reads ih =>
    obtain ⟨⟨result,ctx',world'⟩,hout⟩ : ∃ out, receive handleMessage ctx world b = out := ⟨_,rfl⟩
    cases result with
    | true => simpa only [List.cons_append, receiveAll, hout] using ih ctx' world'
    | false => simp [receiveAll, hout]

end ModuleGateway.InternalServer
