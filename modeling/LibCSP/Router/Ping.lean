/-
# The check of an echo

`csp_ping` (`src/csp_services.c`) sends a packet whose bytes are counted up from zero, and compares
the bytes it gets back with the counter.  The bytes are written modulo 256 and compared as they are,
so with more than 256 of them every echo is refused.  How many came back it does not look at: what a
short reply lacks is taken from its buffer, and what a long one has more is accepted.

So the result is right exactly if the reply is an echo of at most 256 bytes, or none and already the
bytes in its buffer show it, or no echo of more than 256 bytes (`Node.cspPing_right_iff`).  Beside
that the elapsed time may be the one number that stands for an error.
-/

import LibCSP.Security.Send

namespace LibCSP

open Basis CspPacket

/-! ### The call -/

/-- What happens while `csp_ping` runs, beside its own steps. -/
structure PingEnv where
  env : Env
  routes : Routes
  /-- What `rand` returns in `csp_send`. -/
  nonce : U32
  /-- `csp_connect`: the connection when it returns one. -/
  connect : World → Option World
  /-- The end of the wait in `csp_send`. -/
  wait : World → Bool × World
  /-- What the other tasks do while `csp_read` waits. -/
  arrive : World → World

/-- `-1`. -/
def pingError : U32 := -1

/-- The request in this buffer. -/
def pingRequest (size : U32) (packet : CspPacket) : CspPacket :=
  { packet with
    length := size.setWidth 16
    data := fun i => if i < size.toNat then BitVec.ofNat 8 i else packet.data i }

/-- The comparison with the counter, which is an `int`. -/
def pingEchoed (size : U32) (packet : CspPacket) : Bool :=
  (List.range size.toNat).all fun i => (packet.data i).toNat = i

/-- Everything behind `out`. -/
def pingOut (e : Env) (start : U32) (packet : Option CspPacket) (status : Bool) (w : World) :
    U32 × World :=
  let w := match packet with
    | none => w
    | some packet => w.free packet
  let (time, w) := cspGetMs e (cspClose e w).2
  (if status then time - start else pingError, w)

namespace Node

variable (node : Node) (x : PingEnv)

/-- `csp_ping`. -/
def cspPing (size : U32) (w : World) : U32 × World :=
  let (start, w) := cspGetMs x.env w
  match x.connect w with
  | none => (pingError, w)
  | some w =>
    match LibCSP.cspBufferGet x.env w with
    | (none, w) => pingOut x.env start none false w
    | (some packet, w) =>
      let packet := pingRequest size packet
      let r := node.cspSend x.routes x.nonce x.env x.wait packet w
      if r.ret = 0 then pingOut x.env start (some r.packet) false r.world
      else
        match cspRead x.env (x.arrive r.world) with
        | (none, w) => pingOut x.env start none false w
        | (some packet, w) => pingOut x.env start (some packet) (pingEchoed size packet) w

/-- `csp_ping` gets a buffer, `csp_send` takes the request, and `csp_read` returns this reply. -/
def Answered (size : U32) (w : World) (request reply : CspPacket) (w' : World) : Prop :=
  ∃ opened buffer prepared, x.connect (cspGetMs x.env w).2 = some opened ∧
    LibCSP.cspBufferGet x.env opened = (some buffer, prepared) ∧
    request = pingRequest size buffer ∧
    (node.cspSend x.routes x.nonce x.env x.wait request prepared).ret ≠ 0 ∧
    cspRead x.env
      (x.arrive (node.cspSend x.routes x.nonce x.env x.wait request prepared).world) =
        (some reply, w')

end Node

/-- The clock when `csp_ping` has cleaned up after this reply. -/
def PingEnv.clock (x : PingEnv) (reply : CspPacket) (w : World) : U32 :=
  (cspGetMs x.env (cspClose x.env (w.free reply)).2).1

/-- Success is reported for the echo of the request and for nothing else. -/
structure PingRight (request reply : CspPacket) (ret : U32) : Prop where
  echo : SameBytes request reply → ret ≠ pingError
  other : ¬ SameBytes request reply → ret = pingError

/-! ### The comparison -/

/-- The echo is right when each byte has its number. -/
theorem pingEchoed_iff {size : U32} {p : CspPacket} :
    pingEchoed size p = true ↔ ∀ i, i < size.toNat → (p.data i).toNat = i := by
  unfold pingEchoed
  rw [List.all_eq_true]
  constructor
  · intro h i hi
    exact of_decide_eq_true (h i (List.mem_range.2 hi))
  · intro h i hi
    exact decide_eq_true (h i (List.mem_range.1 hi))

/-- No byte is equal to 256. -/
theorem pingEchoed_large {size : U32} (hsize : 256 < size.toNat) (p : CspPacket) :
    pingEchoed size p = false := by
  refine Bool.eq_false_of_not_eq_true fun h => ?_
  have hbyte := pingEchoed_iff.1 h 256 hsize
  have hlt := (p.data 256).isLt
  omega

/-- Up to 256 bytes are compared with those of the request. -/
theorem pingEchoed_small {size : U32} (hsize : size.toNat ≤ 256) (buffer p : CspPacket) :
    pingEchoed size p = true ↔
      ∀ i, i < size.toNat → p.data i = (pingRequest size buffer).data i := by
  rw [pingEchoed_iff]
  refine forall₂_congr fun i hi => ?_
  have hbyte : (pingRequest size buffer).data i = BitVec.ofNat 8 i := if_pos hi
  rw [hbyte, ← BitVec.toNat_inj, BitVec.toNat_ofNat, Nat.mod_eq_of_lt (by omega)]

/-- A request has the length asked for, up to 256. -/
theorem pingRequest_length {size : U32} (hsize : size.toNat ≤ 256) (buffer : CspPacket) :
    (pingRequest size buffer).length.toNat = size.toNat := by
  show (size.setWidth 16).toNat = size.toNat
  rw [BitVec.toNat_setWidth]
  exact Nat.mod_eq_of_lt (by omega)

/-! ### The result -/

/-- **What an answered ping returns.** -/
theorem Node.cspPing_answered {node : Node} {x : PingEnv} {size : U32} {w w' : World}
    {request reply : CspPacket} (h : node.Answered x size w request reply w') :
    (node.cspPing x size w).1 =
      if pingEchoed size reply then x.clock reply w' - (cspGetMs x.env w).1 else pingError := by
  obtain ⟨opened, buffer, prepared, hconnect, hbuffer, rfl, hsent, hread⟩ := h
  have hping : node.cspPing x size w =
      pingOut x.env (cspGetMs x.env w).1 (some reply) (pingEchoed size reply) w' := by
    unfold Node.cspPing
    simp only [hconnect, hbuffer, if_neg hsent, hread]
  rw [hping]
  rfl

/-- The time that cannot be told from an error. -/
theorem sub_eq_pingError {a b : U32} : a - b = pingError ↔ a + 1 = b := by
  unfold pingError
  constructor
  · intro h
    bv_omega
  · rintro rfl
    bv_omega

/-- **When a ping tells an echo from other replies.**  An echo has to be of at most 256 bytes.  Any
other reply has to show a wrong byte in its buffer, if the request had not more than 256.  The clock
comes into it once in 2³² milliseconds. -/
theorem Node.cspPing_right_iff {node : Node} {x : PingEnv} {size : U32} {w w' : World}
    {request reply : CspPacket} (h : node.Answered x size w request reply w') :
    PingRight request reply (node.cspPing x size w).1 ↔
      (SameBytes request reply →
        size.toNat ≤ 256 ∧ x.clock reply w' + 1 ≠ (cspGetMs x.env w).1) ∧
      (¬ SameBytes request reply →
        256 < size.toNat ∨ (∃ i, i < size.toNat ∧ reply.data i ≠ request.data i) ∨
          x.clock reply w' + 1 = (cspGetMs x.env w).1) := by
  have hret := Node.cspPing_answered h
  obtain ⟨-, buffer, -, -, -, hrequest, -⟩ := h
  have hright : ∀ ret, PingRight request reply ret ↔
      (SameBytes request reply → ret ≠ pingError) ∧ (¬ SameBytes request reply → ret = pingError) :=
    fun ret => ⟨fun h => ⟨h.echo, h.other⟩, fun h => ⟨h.1, h.2⟩⟩
  rw [hright, hret]
  by_cases hsize : size.toNat ≤ 256
  · have hlength := pingRequest_length hsize buffer
    have hechoed := pingEchoed_small hsize buffer reply
    rw [← hrequest] at hlength hechoed
    refine and_congr (forall_congr' fun hsame => ?_) (forall_congr' fun _ => ?_)
    · have hyes : pingEchoed size reply = true :=
        hechoed.2 fun i hi => hsame.data i (hlength.symm ▸ hi)
      rw [if_pos hyes, ne_eq, sub_eq_pingError]
      exact (and_iff_right hsize).symm
    · by_cases hyes : pingEchoed size reply = true
      · have hnone : ¬ ∃ i, i < size.toNat ∧ reply.data i ≠ request.data i := by
          rintro ⟨i, hi, hne⟩
          exact hne (hechoed.1 hyes i hi)
        rw [if_pos hyes, sub_eq_pingError, or_iff_right (Nat.not_lt_of_le hsize),
          or_iff_right hnone]
      · rw [if_neg hyes]
        have hsome : ∃ i, i < size.toNat ∧ reply.data i ≠ request.data i := by
          by_contra hnone
          refine hyes (hechoed.2 fun i hi => ?_)
          by_contra hne
          exact hnone ⟨i, hi, hne⟩
        exact iff_of_true rfl (.inr (.inl hsome))
  · have hlarge : 256 < size.toNat := Nat.lt_of_not_le hsize
    rw [if_neg (by rw [pingEchoed_large hlarge]; exact Bool.false_ne_true)]
    refine and_congr (forall_congr' fun _ => ?_) (forall_congr' fun _ => ?_)
    · exact iff_of_false (fun hne => hne rfl) fun hle => hsize hle.1
    · exact iff_of_true rfl (.inl hlarge)

/-! ### Reading -/

/-- The only packet in the receive queues is read. -/
theorem readPacket_single {w : World} {k : Fin cspPriorities} {p : CspPacket}
    (hk : (w.conn.rxQueue k).items = [p])
    (hother : ∀ j, j ≠ k → (w.conn.rxQueue j).items = []) : (readPacket w).1 = some p := by
  have hread : readPrio w.conn = some k := by
    unfold readPrio
    cases hfind : (List.finRange cspPriorities).find? fun j => (w.conn.rxQueue j).size ≠ 0 with
    | none =>
      have hzero := List.find?_eq_none.1 hfind k (List.mem_finRange k)
      rw [decide_eq_true_iff, not_not, Queue.size, hk] at hzero
      cases hzero
    | some j =>
      have hfound := List.find?_some hfind
      have hsize : (w.conn.rxQueue j).size ≠ 0 := of_decide_eq_true hfound
      by_contra hne
      refine hsize ?_
      rw [Queue.size, hother j fun hj => hne (congrArg some hj)]
      rfl
  unfold readPacket
  rw [hread]
  cases hqueue : w.conn.rxQueue k with
  | mk items hle =>
    rw [hqueue] at hk
    obtain rfl : items = [p] := hk
    simp only [hqueue, Queue.dequeue]

/-- A packet that finds the receive queues empty is the next that is read. -/
theorem cspRead_enqueued (e : Env) (p : CspPacket) {w : World} (hopen : w.conn.state = .connOpen)
    (hqueue : ∀ k, w.conn.rxQueue k = Queue.empty) (hevent : w.conn.rxEvent = Queue.empty) :
    (cspRead e (cspConnEnqueuePacket (some p) w).2).1 = some p := by
  have hone : [p].length ≤ cspRxQueueLength := Nat.le_of_ble_eq_true rfl
  have hone' : [()].length ≤ cspConnQueueLength := by decide
  have hpacket : (w.conn.rxQueue (cspConnGetRxq p.id.pri)).enqueue p = some ⟨[p], hone⟩ := by
    rw [hqueue]
    rfl
  have hpost : w.conn.rxEvent.enqueue () = some ⟨[()], hone'⟩ := by
    rw [hevent]
    rfl
  unfold cspRead cspConnEnqueuePacket
  simp only [hpacket, hpost, hopen, ne_eq, not_true_eq_false, if_false, Queue.dequeue]
  refine readPacket_single (k := cspConnGetRxq p.id.pri) ?_ fun j hj => ?_
  · show Queue.items (Function.update w.conn.rxQueue _ ⟨[p], hone⟩ _) = [p]
    rw [Function.update_self]
  · show Queue.items (Function.update w.conn.rxQueue _ ⟨[p], hone⟩ j) = []
    rw [Function.update_of_ne hj, hqueue]
    rfl

/-! ### Two replies -/

/-- A connection without options. -/
def userWorld : World := ⟨{ Conn.opened 0 0 0 with idin := 0, idout := 0 }, 0, []⟩

/-- This reply comes over the connection. -/
def PingEnv.replying (reply : CspPacket) : PingEnv where
  env := .favourable .little
  routes := Node.openRoutes
  nonce := 42
  connect := some
  wait := Node.noPost
  arrive := fun w => (cspConnEnqueuePacket (some reply) w).2

/-- A reply of this length, in a buffer whose bytes are counted up. -/
def countedReply (length : U16) : CspPacket := ⟨1, 0, 0, length, 0, fun i => BitVec.ofNat 8 i⟩

/-- The request is sent and the reply is read. -/
theorem Node.answered_replying (size : U32) (reply : CspPacket) : ∃ w',
    (Node.nodeOne .little).Answered (.replying reply) size userWorld
      (pingRequest size (.blank 0)) reply w' := by
  obtain ⟨prepared, hprepared⟩ : ∃ w, w = (LibCSP.cspBufferGet (.favourable .little)
    (cspGetMs (.favourable .little) userWorld).2).2 := ⟨_, rfl⟩
  obtain ⟨sent, hsent⟩ : ∃ w, w = prepared.next.emit (.transmit { pingRequest size (.blank 0) with
    id := 0 }) := ⟨_, rfl⟩
  have hconn : prepared.conn = userWorld.conn := by
    rw [hprepared]
    rfl
  have hconn' : sent.conn = userWorld.conn := by
    rw [hsent, World.emit_conn, World.next_conn, hconn]
  have hsend : (Node.nodeOne .little).cspSend Node.openRoutes 42 (.favourable .little) Node.noPost
      (pingRequest size (.blank 0)) prepared =
        ⟨1, { pingRequest size (.blank 0) with id := 0 }, sent⟩ := by
    unfold Node.cspSend Node.cspSendPacket
    rw [hconn, hsent]
    rfl
  have hread : (cspRead (.favourable .little) (cspConnEnqueuePacket (some reply) sent).2).1 =
      some reply :=
    cspRead_enqueued _ reply (hconn'.symm ▸ rfl) (fun k => by rw [hconn']; rfl)
      (by rw [hconn']; rfl)
  refine ⟨(cspRead (.favourable .little) (cspConnEnqueuePacket (some reply) sent).2).2,
    userWorld.next, .blank 0, prepared, rfl, ?_, rfl, ?_, ?_⟩
  · rw [hprepared]
    rfl
  · show SendResult.ret
      (Node.cspSend _ Node.openRoutes 42 (.favourable .little) Node.noPost _ _) ≠ 0
    rw [hsend]
    exact Nat.one_ne_zero
  · show cspRead (.favourable .little) (cspConnEnqueuePacket (some reply) (SendResult.world
      (Node.cspSend _ Node.openRoutes 42 (.favourable .little) Node.noPost _ _))).2 = _
    rw [hsend]
    exact Prod.ext hread rfl

/-- The hypothesis is met by an echo of three bytes. -/
theorem Node.cspPing_right_three : PingRight (pingRequest 3 (.blank 0)) (countedReply 3)
    ((Node.nodeOne .little).cspPing (.replying (countedReply 3)) 3 userWorld).1 := by
  obtain ⟨w', hanswered⟩ := Node.answered_replying 3 (countedReply 3)
  have hsame : SameBytes (pingRequest 3 (.blank 0)) (countedReply 3) :=
    ⟨rfl, fun k hk => (if_pos hk).symm⟩
  refine (Node.cspPing_right_iff hanswered).2 ⟨fun _ => ⟨by decide, ?_⟩, absurd hsame⟩
  show (0 : U32) + 1 ≠ 0
  decide

/-- **The echo of 257 bytes is refused, and the empty reply to three bytes accepted** when its
buffer has them. -/
theorem Node.cspPing_wrong :
    (∃ w', (Node.nodeOne .little).Answered (.replying (countedReply 257)) 257 userWorld
        (pingRequest 257 (.blank 0)) (countedReply 257) w' ∧
      SameBytes (pingRequest 257 (.blank 0)) (countedReply 257) ∧
      ((Node.nodeOne .little).cspPing (.replying (countedReply 257)) 257 userWorld).1 =
        pingError) ∧
    ∃ w', (Node.nodeOne .little).Answered (.replying (countedReply 0)) 3 userWorld
        (pingRequest 3 (.blank 0)) (countedReply 0) w' ∧
      ¬ SameBytes (pingRequest 3 (.blank 0)) (countedReply 0) ∧
      ((Node.nodeOne .little).cspPing (.replying (countedReply 0)) 3 userWorld).1 ≠
        pingError := by
  constructor
  · obtain ⟨w', hanswered⟩ := Node.answered_replying 257 (countedReply 257)
    refine ⟨w', hanswered, ⟨rfl, fun k hk => (if_pos hk).symm⟩, ?_⟩
    rw [Node.cspPing_answered hanswered, pingEchoed_large (by decide)]
    rfl
  · obtain ⟨w', hanswered⟩ := Node.answered_replying 3 (countedReply 0)
    refine ⟨w', hanswered, fun h => absurd h.length (by decide), ?_⟩
    rw [Node.cspPing_answered hanswered, if_pos (by decide)]
    show (0 : U32) - 0 ≠ pingError
    decide

end LibCSP
