/-
# Handing data to the user

The data path of `csp_rdp.c`: `csp_rdp_receive_data` puts one packet into a
user receive queue, `csp_rdp_rx_queue_add` stores one that came too early, and
`csp_rdp_rx_queue_flush` releases stored ones as their turn comes.  A packet is
`Handed` to the user when it and its event are in their queues; with queues
that agree (`Conn.UserOk`) the only obstacle is a full queue, so a packet that
is not handed over leaves no trace (`cspRdpReceiveData_cases`).

Stored packets have their header in host order; `hostSeq` reads their number.
-/

import Mathlib.Algebra.Order.BigOperators.Group.Finset
import LibCSP.Rdp.Close

namespace LibCSP

open Basis

/-- The sequence number of a packet whose header was converted to host order. -/
def hostSeq (o : ByteOrder) (p : CspPacket) : U16 := (cspRdpHeaderRef o p).seqNr

/-- The receive queue of a packet. -/
def rxq (p : CspPacket) : Fin cspPriorities := cspConnGetRxq p.id.pri

/-- `p` went into its user receive queue, with an event, and nothing else happened. -/
structure Handed (w : World) (p : CspPacket) (w' : World) : Prop where
  rdp : w'.conn.rdp = w.conn.rdp
  rxSocket : w'.conn.rxSocket = w.conn.rxSocket
  room : (w.conn.rxQueue (rxq p)).size < cspRxQueueLength
  size : ∀ i, (w'.conn.rxQueue i).size = (w.conn.rxQueue i).size + if i = rxq p then 1 else 0
  user : w'.conn.UserOk
  log : w'.log = w.log ++ [.deliver w.conn.rdp.state p]

/-! ### `csp_conn_enqueue_packet` -/

/-- There is an event for every packet, so a queue with room means an event queue with room. -/
theorem rxEvent_lt {c : Conn} (h : c.UserOk) {prio : Fin cspPriorities}
    (hp : (c.rxQueue prio).size < cspRxQueueLength) : c.rxEvent.size < cspConnQueueLength := by
  have : ∑ i, (c.rxQueue i).size < ∑ _ : Fin cspPriorities, cspRxQueueLength :=
    Finset.sum_lt_sum (fun i _ => (c.rxQueue i).le) ⟨prio, Finset.mem_univ prio, hp⟩
  rw [Conn.UserOk] at h
  rw [h]
  exact this.trans_eq (by decide)

/-- **With queues that agree a packet is handed over, or its queue is full and
nothing happens.** -/
theorem cspConnEnqueuePacket_cases {w : World} (h : w.conn.UserOk) (p : CspPacket) :
    ((cspConnEnqueuePacket (some p) w).1 = .none ∧ Handed w p (cspConnEnqueuePacket (some p) w).2) ∨
      (cspConnEnqueuePacket (some p) w = (.nomem, w) ∧
        cspRxQueueLength ≤ (w.conn.rxQueue (rxq p)).size) := by
  cases hq : (w.conn.rxQueue (rxq p)).enqueue p with
  | none =>
    refine .inr ⟨?_, Queue.enqueue_eq_none.1 hq⟩
    unfold rxq at hq
    simp only [cspConnEnqueuePacket, hq]
  | some q =>
    obtain ⟨hlt, hitems⟩ := Queue.enqueue_eq_some.1 hq
    obtain ⟨ev, hev⟩ := Option.ne_none_iff_exists'.1 fun hn : w.conn.rxEvent.enqueue () = none =>
      absurd (rxEvent_lt h hlt) (Nat.not_lt.2 (Queue.enqueue_eq_none.1 hn))
    have hsize : q.size = (w.conn.rxQueue (rxq p)).size + 1 := by
      rw [Queue.size, hitems, List.length_append, List.length_singleton, Queue.size]
    have hevs : ev.size = w.conn.rxEvent.size + 1 := by
      rw [Queue.size, (Queue.enqueue_eq_some.1 hev).2, List.length_append, List.length_singleton,
        Queue.size]
    have hr : cspConnEnqueuePacket (some p) w = (.none, { w with
        conn.rxQueue := Function.update w.conn.rxQueue (rxq p) q
        conn.rxEvent := ev
        log := w.log ++ [.deliver w.conn.rdp.state p] }) := by
      unfold rxq at hq ⊢
      simp only [cspConnEnqueuePacket, hq, hev]
    refine .inl ?_
    rw [hr]
    refine ⟨rfl, rfl, rfl, hlt, fun i => ?_, ?_, rfl⟩
    · show (Function.update w.conn.rxQueue (rxq p) q i).size = _
      by_cases hi : i = rxq p
      · rw [hi, Function.update_self, if_pos rfl, hsize]
      · rw [Function.update_of_ne hi, if_neg hi]
        rfl
    · have := sum_size_update (c := w.conn) (rxq p) q
      unfold Conn.UserOk at h ⊢
      show ev.size = ∑ i, (Function.update w.conn.rxQueue (rxq p) q i).size
      omega

/-! ### `csp_rdp_receive_data` -/

/-- Posting the handle touches `rx_socket` only. -/
structure Posted (w w' : World) : Prop extends Calm w w' where
  rdp : w'.conn.rdp = w.conn.rdp
  rxQueue : w'.conn.rxQueue = w.conn.rxQueue
  rxEvent : w'.conn.rxEvent = w.conn.rxEvent

/-- Posting the handle posts it, or nothing. -/
theorem postHandle_posted (e : Env) (w : World) : Posted w (postHandle e w).2 := by
  unfold postHandle
  split
  · exact ⟨.refl w, rfl, rfl, rfl⟩
  · rename_i socket _
    split
    · have hev : Quiet w (w.next.emit (.accept socket)) :=
        (Quiet.next w).emit (show CalmEvent w (.accept socket) from trivial)
      obtain ⟨h₁, h₂, h₃, h₄, h₅, h₆⟩ := hev.toCalm
      exact ⟨⟨h₁, h₂, h₃, h₄, h₅, h₆⟩, rfl, rfl, rfl⟩
    · exact ⟨(Quiet.next w).toCalm, rfl, rfl, rfl⟩

/-- User space has the handle, or the accept queue has room for it. -/
def HandleFits (e : Env) (w : World) : Prop := w.conn.rxSocket = none ∨ e.acceptQueue w.tick = true

/-- It succeeds exactly if there is room for the handle. -/
theorem postHandle_eq_true {e : Env} {w : World} : (postHandle e w).1 = true ↔ HandleFits e w := by
  unfold postHandle HandleFits
  cases w.conn.rxSocket with
  | none => exact iff_of_true rfl (.inl rfl)
  | some socket =>
    cases e.acceptQueue w.tick with
    | true => exact iff_of_true rfl (.inr rfl)
    | false => exact iff_of_false Bool.false_ne_true (by rintro (h | h) <;> exact nomatch h)

/-- After it the handle belongs to the user. -/
theorem postHandle_socket {e : Env} {w : World} (h : (postHandle e w).1 = true) :
    (postHandle e w).2.conn.rxSocket = none := by
  unfold postHandle at h ⊢
  cases hs : w.conn.rxSocket with
  | none => exact hs
  | some socket =>
    cases ha : e.acceptQueue w.tick with
    | true => rfl
    | false =>
      rw [hs] at h
      simp only [ha, Bool.false_eq_true, if_false] at h

/-- Taking data in leaves the RDP variables alone. -/
theorem cspRdpReceiveData_rdp (e : Env) (p : CspPacket) (w : World) :
    (cspRdpReceiveData e p w).2.conn.rdp = w.conn.rdp := by
  have hp := (postHandle_posted e w).rdp
  unfold cspRdpReceiveData cspConnEnqueuePacket
  simp only
  split
  · split
    · exact hp
    · split <;> exact hp
  · exact hp

/-- **`csp_rdp_receive_data` hands the packet over, or nothing is delivered.**
When the connection is known to the user already, the second means that the
packet's queue is full. -/
theorem cspRdpReceiveData_cases {w : World} (h : w.conn.UserOk) (e : Env) (p : CspPacket) :
    ((cspRdpReceiveData e p w).1 = true ∧ (postHandle e w).1 = true ∧ ∃ w₁, Posted w w₁ ∧
        w₁.conn.rxSocket = none ∧
        Handed w₁ (cspRdpHeaderRemove p) (cspRdpReceiveData e p w).2) ∨
      ((cspRdpReceiveData e p w).1 = false ∧ Posted w (cspRdpReceiveData e p w).2 ∧
        (w.conn.rxSocket = none → cspRxQueueLength ≤ (w.conn.rxQueue (rxq p)).size)) := by
  have hpost := postHandle_posted e w
  unfold cspRdpReceiveData
  simp only
  cases hr : (postHandle e w).1 with
  | false =>
    refine .inr ⟨hr, hpost, fun hn => ?_⟩
    rw [postHandle, hn] at hr
    exact absurd hr.symm Bool.false_ne_true
  | true =>
    have hu : (postHandle e w).2.conn.UserOk := hpost.user h
    simp only [if_true]
    rcases cspConnEnqueuePacket_cases hu (cspRdpHeaderRemove p) with ⟨h₁, h₂⟩ | ⟨h₁, h₂⟩
    · rw [h₁]
      exact .inl ⟨rfl, trivial, _, hpost, postHandle_socket hr, h₂⟩
    · rw [h₁]
      refine .inr ⟨rfl, hpost, fun _ => ?_⟩
      rw [hpost.rxQueue] at h₂
      exact h₂

/-! ### The reorder queue -/

/-- The connection with another reorder queue. -/
def World.setReorder (w : World) (q : Queue CspPacket (cspRdpMaxWindow * 2)) : World :=
  { w with conn.rdp.rxQueue := q }

/-- Leaving stored packets out, or rotating them, is calm. -/
theorem setReorder_calm {w : World} {q : Queue CspPacket (cspRdpMaxWindow * 2)}
    (h : q.items.Subperm w.conn.rdp.rxQueue.items) : Calm w (w.setReorder q) :=
  ⟨rfl, rfl, h, fun _ hx => .refl hx, id, [], (List.append_nil _).symm, by simp⟩

/-- **`csp_rdp_rx_queue_add` stores a packet under a new number, or only rotates
the queue.** -/
theorem cspRdpRxQueueAdd_cases (e : Env) (p : CspPacket) (seqNr : U16) (w : World) :
    ((cspRdpRxQueueAdd e p seqNr w).1 = true ∧
        (∀ y ∈ w.conn.rdp.rxQueue.items, hostSeq e.host y ≠ seqNr) ∧
        ∃ q, (cspRdpRxQueueAdd e p seqNr w).2 = w.setReorder q ∧
          q.items.Perm (p :: w.conn.rdp.rxQueue.items)) ∨
      ((cspRdpRxQueueAdd e p seqNr w).1 = false ∧
        ∃ q, (cspRdpRxQueueAdd e p seqNr w).2 = w.setReorder q ∧
          q.items.Perm w.conn.rdp.rxQueue.items) := by
  obtain ⟨hany, hperm⟩ := Queue.hasMatch_size
    (fun x => (cspRdpHeaderRef e.host x).seqNr == seqNr) w.conn.rdp.rxQueue
  unfold cspRdpRxQueueAdd cspRdpRxQueueExists
  simp only
  generalize Queue.hasMatch _ _ _ = r at hany hperm ⊢
  cases hr : r.1 with
  | true =>
    simp only [if_true]
    exact .inr ⟨trivial, r.2, rfl, hperm⟩
  | false =>
    simp only [Bool.false_eq_true, if_false]
    cases hq : r.2.enqueue p with
    | none => exact .inr ⟨rfl, r.2, rfl, hperm⟩
    | some q =>
      refine .inl ⟨rfl, fun y hy hs => ?_, q, rfl, ?_⟩
      · rw [hr] at hany
        exact absurd (beq_iff_eq.2 hs) (List.any_eq_false.1 hany.symm y hy)
      · rw [(Queue.enqueue_eq_some.1 hq).2]
        exact (List.perm_append_singleton _ _).trans (hperm.cons p)

/-- A round receives the packet that is taken out, if there is one. -/
theorem flushRound_of_takeFirst {e : Env} {w : World} {taken : Option CspPacket}
    {q : Queue CspPacket (cspRdpMaxWindow * 2)}
    (h : Queue.takeFirst (fun x => hostSeq e.host x == w.conn.rdp.rcvCur + 1)
      w.conn.rdp.rxQueue.size w.conn.rdp.rxQueue = (taken, q)) :
    flushRound e w = taken.map fun x => { (cspRdpReceiveData e x (w.setReorder q)).2 with
      conn.rdp.rcvCur := (cspRdpReceiveData e x (w.setReorder q)).2.conn.rdp.rcvCur + 1 } := by
  unfold flushRound
  unfold hostSeq at h
  simp only [h]
  cases taken <;> rfl

/-- A round of `csp_rdp_rx_queue_flush`: the first stored packet with the next
number is given to `csp_rdp_receive_data`, and `rcv_cur` moves on. -/
theorem flushRound_cases {e : Env} {w w' : World} (h : flushRound e w = some w') :
    ∃ pre x post q, w.conn.rdp.rxQueue.items = pre ++ x :: post ∧
      (∀ y ∈ pre, hostSeq e.host y ≠ w.conn.rdp.rcvCur + 1) ∧
      hostSeq e.host x = w.conn.rdp.rcvCur + 1 ∧ q.items = post ++ pre ∧
      w' = { (cspRdpReceiveData e x (w.setReorder q)).2 with
        conn.rdp.rcvCur := (cspRdpReceiveData e x (w.setReorder q)).2.conn.rdp.rcvCur + 1 } := by
  unfold flushRound at h
  cases hf : w.conn.rdp.rxQueue.items.find?
      fun x => (cspRdpHeaderRef e.host x).seqNr == w.conn.rdp.rcvCur + 1 with
  | none =>
    rw [Queue.takeFirst_of_forall hf] at h
    exact absurd h.symm (Option.some_ne_none w')
  | some x =>
    obtain ⟨pre, post, hitems, hpre, hx, h₁, h₂⟩ := Queue.takeFirst_of_find hf
    simp only [h₁, Option.some.injEq] at h
    exact ⟨pre, x, post, _, hitems, fun y hy => beq_eq_false_iff_ne.1 (hpre y hy),
      beq_iff_eq.1 hx, h₂, h.symm⟩

/-- **What a round of the flush keeps, the flush keeps.** -/
theorem flushRounds_induct {e : Env} {P : World → Prop}
    (h : ∀ w w', P w → flushRound e w = some w' → P w') (n : ℕ) {w : World} (hw : P w) :
    P (flushRounds e n w) := by
  induction n generalizing w with
  | zero => exact hw
  | succ n ih =>
    rw [flushRounds]
    split
    · exact hw
    · rename_i w' hr
      exact ih (h w w' hw hr)

end LibCSP
