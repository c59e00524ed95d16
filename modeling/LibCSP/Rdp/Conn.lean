/-
# A connection and its surroundings

`csp_conn_t` and `csp_rdp_t` (`src/csp_conn.h`), the functions of
`src/csp_conn.c` that RDP calls, and what a call meets from outside.

A call is a function from one `World` to the next: the connection, a counter
and a log.  What the code cannot decide by itself (the clock, the random
number generator, whether a pool buffer is available, whether an interface
takes a packet, whether a lock or an accept queue is free) is answered by an
`Env`, one answer for each question, and the counter says how many questions
have been asked.  A theorem about every `Env` is therefore about every clock,
every allocation failure and every interface.  The log records what left the
connection: packets an interface took, packets and handles given to user space,
buffers freed; and the buffers that came from the pool.

A queue of the connection is used by one call at a time here; the interleaving
of single queue operations is the subject of `LibCSP.Rdp.Retention`.
`csp_buffer_free(NULL)`, reached when a clone fails, has no effect on the
connection and is left out; that it leaves the other packets alone is assumed of the
pool here (Core.Release has when it does).
-/

import Mathlib.Data.List.FinRange
import LibCSP.Basis.Queue
import LibCSP.Basis.Serial
import LibCSP.Rdp.Header

namespace LibCSP

open Basis

/-- `csp_conn_state_t`. -/
inductive ConnState
  | connClosed
  | connOpen
  deriving DecidableEq, Repr

/-- `csp_rdp_state_t`. -/
inductive RdpState
  | rdpClosed
  | rdpSynSent
  | rdpSynRcvd
  | rdpOpen
  | rdpCloseWait
  deriving DecidableEq, Repr

/-- The global options of `csp_rdp_set_opt`. -/
structure RdpOptions where
  windowSize : U32
  connTimeout : U32
  packetTimeout : U32
  delayedAcks : U32
  ackTimeout : U32
  ackDelayCount : U32

/-- `csp_rdp_t`. -/
structure Rdp where
  state : RdpState
  /-- The sequence number of the next segment that is to be sent. -/
  sndNxt : U16
  /-- The sequence number of the oldest unacknowledged segment. -/
  sndUna : U16
  /-- The initial send sequence number. -/
  sndIss : U16
  /-- The sequence number of the last segment received correctly and in sequence. -/
  rcvCur : U16
  /-- The initial receive sequence number. -/
  rcvIrs : U16
  /-- The last sequence number acknowledged by the receiver. -/
  rcvLsa : U16
  windowSize : U32
  connTimeout : U32
  packetTimeout : U32
  delayedAcks : U32
  ackTimeout : U32
  ackDelayCount : U32
  ackTimestamp : U32
  /-- The binary semaphore a sending or connecting task waits on. -/
  txWait : Bool
  txQueue : Queue CspPacket cspRdpMaxWindow
  rxQueue : Queue CspPacket (cspRdpMaxWindow * 2)

/-- `csp_conn_t`. -/
structure Conn where
  state : ConnState
  idin : CspId
  idout : CspId
  rxEvent : Queue Unit cspConnQueueLength
  rxQueue : Fin cspPriorities → Queue CspPacket cspRxQueueLength
  /-- The accept queue the connection is posted to with its first packet; `none`
  once user space has the handle. -/
  rxSocket : Option ℕ
  timestamp : U32
  connOpts : U32
  rdp : Rdp

/-- What leaves the connection. -/
inductive Event
  /-- An interface took the packet. -/
  | transmit (p : CspPacket)
  /-- The packet was put into a user receive queue, in RDP state `st`. -/
  | deliver (st : RdpState) (p : CspPacket)
  /-- The handle was put into the accept queue of its socket. -/
  | accept (socket : ℕ)
  /-- `csp_rdp_send` took a message with this payload. -/
  | sent (payload : List U8)
  /-- `csp_buffer_free`. -/
  | free (buf : ℕ)
  /-- `csp_buffer_get` returned this element. -/
  | alloc (buf : ℕ)

structure World where
  conn : Conn
  tick : ℕ
  log : List Event

/-- The surroundings of a node. -/
structure Env where
  host : ByteOrder
  opts : RdpOptions
  getMs : ℕ → U32
  rand : ℕ → U16
  bufferGet : ℕ → Option CspPacket
  sendDirect : ℕ → Bool
  connLock : ℕ → Bool
  acceptQueue : ℕ → Bool

namespace World

def next (w : World) : World := { w with tick := w.tick + 1 }

def emit (w : World) (ev : Event) : World := { w with log := w.log ++ [ev] }

/-- `csp_buffer_free`. -/
def free (w : World) (p : CspPacket) : World := w.emit (.free p.buf)

/-- The clock is no part of the connection. -/
@[simp] theorem next_conn (w : World) : w.next.conn = w.conn := rfl

/-- The log is no part of the connection. -/
@[simp] theorem emit_conn (w : World) (ev : Event) : (w.emit ev).conn = w.conn := rfl

/-- An event goes to the end of the log. -/
@[simp] theorem emit_log (w : World) (ev : Event) : (w.emit ev).log = w.log ++ [ev] := rfl

end World

/-! ### Questions to the surroundings -/

/-- `csp_get_ms`. -/
def cspGetMs (e : Env) (w : World) : U32 × World := (e.getMs w.tick, w.next)

/-- `(uint16_t)rand()`. -/
def cspRand (e : Env) (w : World) : U16 × World := (e.rand w.tick, w.next)

/-- `csp_buffer_get`: a buffer with whatever it held before, or nothing. -/
def cspBufferGet (e : Env) (w : World) : Option CspPacket × World :=
  match e.bufferGet w.tick with
  | none => (none, w.next)
  | some b => (some b, w.next.emit (.alloc b.buf))

/-- `csp_buffer_clone`: the whole element is copied. -/
def cspBufferClone (e : Env) (p : CspPacket) (w : World) : Option CspPacket × World :=
  match cspBufferGet e w with
  | (none, w) => (none, w)
  | (some b, w) => (some { p with buf := b.buf }, w)

/-- `csp_buffer_get` fails, or allocates a buffer. -/
theorem cspBufferGet_cases (e : Env) (w : World) : cspBufferGet e w = (none, w.next) ∨
    ∃ b, cspBufferGet e w = (some b, w.next.emit (.alloc b.buf)) := by
  unfold cspBufferGet
  cases e.bufferGet w.tick with
  | none => exact .inl rfl
  | some b => exact .inr ⟨b, rfl⟩

/-- `csp_buffer_clone` fails, or allocates a copy of the packet. -/
theorem cspBufferClone_cases (e : Env) (p : CspPacket) (w : World) :
    cspBufferClone e p w = (none, w.next) ∨
      ∃ buf, cspBufferClone e p w = (some { p with buf := buf }, w.next.emit (.alloc buf)) := by
  unfold cspBufferClone
  rcases cspBufferGet_cases e w with h | ⟨b, h⟩
  · exact .inl (by rw [h])
  · exact .inr ⟨b.buf, by rw [h]⟩

/-- A copy leaves the connection as it is. -/
theorem cspBufferClone_conn (e : Env) (p : CspPacket) (w : World) :
    (cspBufferClone e p w).2.conn = w.conn := by
  rcases cspBufferClone_cases e p w with h | ⟨buf, h⟩ <;> rw [h] <;> rfl

/-- A clone differs from the original in its buffer. -/
theorem mem_bufferClone {e : Env} {p c : CspPacket} {w : World} (h : c ∈ (cspBufferClone e p w).1) :
    ∃ buf, c = { p with buf := buf } := by
  rcases cspBufferClone_cases e p w with hb | ⟨buf, hb⟩
  · rw [hb] at h
    exact absurd h (Option.not_mem_none c)
  · rw [hb] at h
    exact ⟨buf, (Option.mem_some_iff.1 h).symm⟩

/-- `csp_send_direct` as its callers in the transport layer see it: without a
packet it fails, and when it succeeds the packet carries the given identifier. -/
def cspSendDirect (e : Env) (idout : CspId) (packet : Option CspPacket) (w : World) :
    CspErr × World :=
  match packet with
  | none => (.tx, w)
  | some p =>
    if e.sendDirect w.tick then (.none, w.next.emit (.transmit { p with id := idout }))
    else (.tx, w.next)

/-! ### `src/csp_conn.c` -/

/-- `csp_conn_get_rxq`. -/
def cspConnGetRxq (pri : BitVec 2) : Fin cspPriorities := ⟨pri.toNat, pri.isLt⟩

/-- `csp_conn_enqueue_packet`. -/
def cspConnEnqueuePacket (packet : Option CspPacket) (w : World) : CspErr × World :=
  match packet with
  | none => (.inval, w)
  | some p =>
    match (w.conn.rxQueue (cspConnGetRxq p.id.pri)).enqueue p with
    | none => (.nomem, w)
    | some q =>
      let w := { w with
        conn.rxQueue := Function.update w.conn.rxQueue (cspConnGetRxq p.id.pri) q
        log := w.log ++ [.deliver w.conn.rdp.state p] }
      match w.conn.rxEvent.enqueue () with
      | none => (.nomem, w)
      | some ev => (.none, { w with conn.rxEvent := ev })

/-- `csp_conn_flush_rx_queue`. -/
def cspConnFlushRxQueue (w : World) : World :=
  { w with
    conn.rxQueue := fun _ => Queue.empty
    conn.rxEvent := Queue.empty
    log := w.log ++ (List.finRange cspPriorities).flatMap fun i =>
      (w.conn.rxQueue i).items.map fun p => .free p.buf }

end LibCSP
