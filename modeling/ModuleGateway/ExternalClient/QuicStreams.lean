import ModuleGateway.ExternalClient.QuicCommunication
import Mathlib.Data.List.Perm.Basic

/-! # What a QUIC stream brings

A stream of the peer carries one message. MsQuic hands its bytes over in as many events as it likes,
and `streamCallback` parses what one event brings. Parsing is a partial function on byte strings.
-/
namespace ModuleGateway.ExternalClient
open Structures

variable {β : Type}

/-- `QUIC_STREAM_EVENT`; `receive` has the buffers of the event. -/
inductive StreamEvent where
  | receive (buffers : List (List UInt8))
  | peerSendShutdown
  | sendShutdownComplete
  | startComplete
  | sendComplete (canceled : Bool)
  | shutdownComplete
  | unhandled (type : ℕ)

namespace StreamEvent

/-- What is handed to the parser: the joined buffers of an event, if it has any. -/
def data : StreamEvent → Option (List UInt8)
  | .receive (buffer :: buffers) => some (buffer :: buffers).flatten
  | _ => none

/-- The bytes of the stream that an event carries. -/
def bytes : StreamEvent → List UInt8
  | .receive buffers => buffers.flatten
  | _ => []

end StreamEvent

/-- The byte string that a division is one of. -/
def streamBytes (events : List StreamEvent) : List UInt8 := events.flatMap StreamEvent.bytes

/-- The byte strings that are parsed. -/
def parsedPieces (events : List StreamEvent) : List (List UInt8) := events.filterMap StreamEvent.data

namespace QuicCommunication
variable (parse : List UInt8 → Option (ServerMessage β)) (connection : ℕ)

/-- A stream event of a connection. Those without data are logged, free the buffer of a send or close
the stream. -/
def streamCallback (s : QuicCommunication β) : StreamEvent → QuicCommunication β
  | .receive [] => s
  | .receive (buffer :: buffers) =>
    match parse (buffer :: buffers).flatten with
    | none => s
    | some message => s.onMessageDecoded ⟨message,connection⟩
  | .peerSendShutdown => s
  | .sendShutdownComplete => s
  | .startComplete => s
  | .sendComplete _ => s
  | .shutdownComplete => s
  | .unhandled _ => s

/-- What a stream enqueues is the message that its byte string parses to, if any. -/
def DeliversMessage (s : QuicCommunication β) (events : List StreamEvent) : Prop :=
  (events.foldl (streamCallback parse connection) s).inboundQueue_ =
    s.inboundQueue_ ++ ((parse (streamBytes events)).map fun message => ⟨message,connection⟩).toList

/-- A stream event is the event of the channel with what its data parses to. -/
theorem onStreamReceive_eq {s : QuicCommunication β} {c : LiveConnection} (hlive : s.live = some c)
    (hready : (s.receiving || !s.ready c) = false) {event : StreamEvent} {data : List UInt8}
    (hdata : event.data = some data) :
    s.onStreamReceive (parse data) = some (s.streamCallback parse c.number event) := by
  unfold StreamEvent.data at hdata
  split at hdata
  · rename_i buffer buffers
    obtain rfl := Option.some.inj hdata
    simp only [onStreamReceive, hlive, hready, streamCallback]
    cases parse (buffer :: buffers).flatten <;> rfl
  · cases hdata

/-- Each event is parsed on its own. -/
theorem foldl_streamCallback (s : QuicCommunication β) (events : List StreamEvent) :
    (events.foldl (streamCallback parse connection) s).inboundQueue_ =
      s.inboundQueue_ ++ ((parsedPieces events).filterMap parse).map fun message => ⟨message,connection⟩ := by
  induction events generalizing s with
  | nil => simp [parsedPieces]
  | cons event events ih =>
    rw [List.foldl_cons, ih]
    have hother : ∀ e : StreamEvent, e.data = none → parsedPieces (e :: events) = parsedPieces events :=
      fun e he => List.filterMap_cons_none he
    cases event with
    | receive buffers =>
      cases buffers with
      | nil => rw [hother _ rfl]; rfl
      | cons buffer buffers =>
        have hpieces : parsedPieces (.receive (buffer :: buffers) :: events) =
            (buffer :: buffers).flatten :: parsedPieces events := List.filterMap_cons_some rfl
        rw [hpieces]
        simp only [streamCallback]
        cases hparse : parse (buffer :: buffers).flatten with
        | none => rw [List.filterMap_cons_none hparse]
        | some message =>
          rw [List.filterMap_cons_some hparse]
          simp [onMessageDecoded]
    | _ => rw [hother _ rfl]; rfl

end QuicCommunication

/-! ## Which divisions are parsed to the whole -/

/-- The messages of the pieces are that of the whole: either there is none at all, or one piece alone
parses, and to the message of the whole. -/
theorem filterMap_eq_toList_iff {γ δ : Type*} (f : γ → Option δ) (pieces : List γ) (message : Option δ) :
    pieces.filterMap f = message.toList ↔
      (message = none ∧ ∀ piece ∈ pieces, f piece = none) ∨
        ∃ m before piece after, message = some m ∧ pieces = before ++ piece :: after ∧ f piece = some m ∧
          ∀ other ∈ before ++ after, f other = none := by
  cases message with
  | none => simp [List.filterMap_eq_nil_iff]
  | some m =>
    rw [Option.toList_some, List.filterMap_eq_cons_iff]
    simp only [reduceCtorEq, false_and, false_or, Option.some.injEq, List.filterMap_eq_nil_iff]
    constructor
    · rintro ⟨before,piece,after,rfl,hbefore,hpiece,hafter⟩
      refine ⟨m,before,piece,after,rfl,rfl,hpiece,?_⟩
      intro other hother
      rcases List.mem_append.mp hother with h | h
      · exact hbefore other h
      · exact hafter other h
    · rintro ⟨_,before,piece,after,rfl,rfl,hpiece,hnone⟩
      exact ⟨before,piece,after,rfl,fun a h => hnone a (List.mem_append_left _ h),hpiece,
        fun a h => hnone a (List.mem_append_right _ h)⟩

/-- Pieces that look like the whole to every parser are the whole. -/
theorem eq_singleton_of_filterMap {γ δ : Type*} [DecidableEq γ] (m : δ) {pieces : List γ} {whole : γ}
    (h : ∀ f : γ → Option δ, pieces.filterMap f = (f whole).toList) : pieces = [whole] := by
  have hcount : ∀ x, pieces.count x = [whole].count x := by
    intro x
    have hx := congrArg List.length (h fun piece => if piece = x then some m else none)
    have hlength : ∀ l : List γ,
        (l.filterMap fun piece => if piece = x then some m else none).length = l.count x := by
      intro l
      induction l with
      | nil => rfl
      | cons a l ih => by_cases ha : a = x <;> simp [ha, ih]
    rw [hlength] at hx
    rw [hx]
    by_cases hw : whole = x <;> simp [hw]
  exact List.perm_singleton.mp (List.perm_iff_count.mpr hcount)

namespace QuicCommunication

/-- A stream brings its message exactly when neither a piece nor the whole parses, or one piece alone
parses, and to the message of the whole. It does so for every parser exactly when all data come in one
event. -/
theorem streamCallback_delivers_iff (s : QuicCommunication β) (connection : ℕ) (events : List StreamEvent) :
    (∀ parse : List UInt8 → Option (ServerMessage β), s.DeliversMessage parse connection events ↔
      (parse (streamBytes events) = none ∧ ∀ piece ∈ parsedPieces events, parse piece = none) ∨
        ∃ m before piece after, parse (streamBytes events) = some m ∧
          parsedPieces events = before ++ piece :: after ∧ parse piece = some m ∧
            ∀ other ∈ before ++ after, parse other = none) ∧
      ((∀ parse : List UInt8 → Option (ServerMessage β), s.DeliversMessage parse connection events) ↔
        parsedPieces events = [streamBytes events]) := by
  have hdelivers : ∀ parse : List UInt8 → Option (ServerMessage β), s.DeliversMessage parse connection events ↔
      (parsedPieces events).filterMap parse = (parse (streamBytes events)).toList := by
    intro parse
    have hinj : Function.Injective fun message : ServerMessage β =>
        (⟨message,connection⟩ : Numbered (ServerMessage β)) :=
      fun a b hab => (Numbered.mk.inj hab).1
    unfold DeliversMessage
    rw [foldl_streamCallback, List.append_right_inj, Option.toList_map, (List.map_injective_iff.mpr hinj).eq_iff]
  refine ⟨fun parse => (hdelivers parse).trans (filterMap_eq_toList_iff parse _ _),?_,?_⟩
  · intro hall
    exact eq_singleton_of_filterMap (.statusResponse "" true 0) fun parse => (hdelivers parse).mp (hall parse)
  · intro hone parse
    rw [hdelivers, hone]
    cases hparse : parse (streamBytes events) <;> simp [hparse]

/-- A parser of one message. -/
def parseOk (bytes : List UInt8) : Option (ServerMessage (List UInt8)) :=
  if bytes = [8,1] then some (.statusResponse "one" true 1) else none

/-- The two bytes of the message come in two events. -/
theorem streamCallback_splits_message :
    ¬∀ (parse : List UInt8 → Option (ServerMessage (List UInt8))) (s : QuicCommunication (List UInt8)) connection
      events, s.DeliversMessage parse connection events := by
  intro hall
  have h := hall parseOk init 1 [.receive [[8]],.receive [[1]],.receive []]
  unfold DeliversMessage at h
  exact absurd (congrArg List.length h) (by decide)

end QuicCommunication

end ModuleGateway.ExternalClient
