/-
# `csp_send` as its caller sees it

`csp_send` on an RDP connection returns 0 for many reasons, and its caller then
still owns the packet and may try again.  `csp_rdp_send` may refuse the message or
its wait may time out; it may get no buffer for the copy, or find the retransmit
queue full; and `csp_send_direct` may find no route, a packet longer than the MTU
or an interface that refuses it.

The first two happen before anything was touched.  The others come after the
header was added to the caller's packet, and those in `csp_send_direct` after
the message was queued under `snd_nxt`: it will be retransmitted, although `csp_send` has
failed.  So a failed call leaves no trace exactly if it failed for one of the first
two reasons (`cspSend_unchanged_iff`).
-/

import LibCSP.Security.Transport

namespace LibCSP

open Basis

/-! ### The call -/

/-- `csp_rdp_send`, given what the wait for `tx_wait` ends with: whether it was posted in
time, and the connection as the other tasks left it.  The result has the caller's packet. -/
def cspRdpSend (e : Env) (wait : World → Bool × World) (packet : CspPacket) (w : World) :
    CspErr × CspPacket × World :=
  if w.conn.rdp.state ≠ .rdpOpen then (.reset, packet, w)
  else
    let r := if w.conn.rdp.windowFull then wait (txWaitTake w) else (true, w)
    if r.1 then
      let c := cspRdpSendCommit e packet r.2
      (c.1, txPacket e packet r.2, c.2)
    else (.timedout, packet, r.2)

/-- What `csp_send` returns, and what it leaves of the packet and the connection. -/
structure SendResult where
  ret : ℕ
  packet : CspPacket
  world : World

namespace Node

variable (node : Node)

/-- What `csp_send_direct` leaves of the packet it is given. -/
def directPacket (routes : Routes) (idout : CspId) (nonce : U32) (packet : CspPacket) : CspPacket :=
  match cspRouteIf routes idout.dst with
  | none => packet
  | some ifout =>
    match ifout.nexthop with
    | none => packet
    | some _ =>
      let packet := if idout.src = node.myAddress then node.secure idout nonce packet else packet
      { packet with id := idout }

/-- The end of `csp_send`: the packet goes to `csp_send_direct`. -/
def cspSendPacket (routes : Routes) (nonce : U32) (packet : CspPacket) (w : World) : SendResult :=
  let packet' := node.directPacket routes w.conn.idout nonce packet
  if (node.cspSendDirect routes w.conn.idout nonce packet).1 = .none then
    ⟨1, packet', w.next.emit (.transmit { packet with id := w.conn.idout })⟩
  else ⟨0, packet', w.next⟩

/-- `csp_send`. -/
def cspSend (routes : Routes) (nonce : U32) (e : Env) (wait : World → Bool × World)
    (packet : CspPacket) (w : World) : SendResult :=
  if w.conn.state ≠ .connOpen then ⟨0, packet, w⟩
  else if w.conn.idout.has cspFrdp then
    let r := cspRdpSend e wait packet w
    if r.1 ≠ .none then ⟨0, r.2.1, r.2.2⟩ else node.cspSendPacket routes nonce r.2.1 r.2.2
  else node.cspSendPacket routes nonce packet w

end Node

/-! ### The wait -/

/-- `csp_send` gets to the wait in `csp_rdp_send`. -/
def Conn.waits (c : Conn) : Bool :=
  c.state = .connOpen && c.rdp.state = .rdpOpen && c.rdp.windowFull

/-- The connection when `csp_send` has done its waiting, if it had to. -/
def afterWait (wait : World → Bool × World) (w : World) : World :=
  if w.conn.waits then (wait (txWaitTake w)).2 else w

/-- `csp_send` refuses the message, or its wait times out. -/
def Refused (wait : World → Bool × World) (w : World) : Prop :=
  w.conn.state ≠ .connOpen ∨ w.conn.rdp.state ≠ .rdpOpen ∨
    w.conn.rdp.windowFull = true ∧ (wait (txWaitTake w)).1 = false

/-- The send numbers, the retransmit queue and the caller's packet are as they were. -/
structure Unchanged (w : World) (p : CspPacket) (r : SendResult) : Prop where
  sndNxt : r.world.conn.rdp.sndNxt = w.conn.rdp.sndNxt
  txQueue : r.world.conn.rdp.txQueue.items = w.conn.rdp.txQueue.items
  length : r.packet.length = p.length
  bytes : r.packet.bytes = p.bytes

/-- **A refused message is refused without a trace.** -/
theorem cspRdpSend_refused {e : Env} {wait : World → Bool × World} {p : CspPacket} {w : World}
    (hopen : w.conn.state = .connOpen) (h : Refused wait w) :
    (cspRdpSend e wait p w).1 ≠ .none ∧ (cspRdpSend e wait p w).2 = (p, afterWait wait w) := by
  unfold cspRdpSend
  split
  · rename_i hst
    have hw : w.conn.waits = false := by
      simp only [Conn.waits, hst, decide_false, Bool.and_false, Bool.false_and]
    exact ⟨nofun, by rw [afterWait, hw, if_neg Bool.false_ne_true]⟩
  · rename_i hst
    rw [not_not] at hst
    rcases h with h | h | ⟨hfull, htime⟩
    · exact absurd hopen h
    · exact absurd hst h
    · have hw : w.conn.waits = true := by
        simp only [Conn.waits, hopen, hst, hfull, decide_true, Bool.and_self]
      simp only [hfull, if_true, htime, Bool.false_eq_true, if_false]
      exact ⟨nofun, by rw [afterWait, hw, if_pos rfl]⟩

/-- **Any other message gets a header** on the connection as it is after the wait. -/
theorem cspRdpSend_commit {e : Env} {wait : World → Bool × World} {p : CspPacket} {w : World}
    (h : ¬ Refused wait w) : cspRdpSend e wait p w =
      ((cspRdpSendCommit e p (afterWait wait w)).1, txPacket e p (afterWait wait w),
        (cspRdpSendCommit e p (afterWait wait w)).2) := by
  unfold Refused at h
  simp only [not_or, not_not, not_and, Bool.not_eq_false] at h
  obtain ⟨hopen, hst, hwait⟩ := h
  unfold cspRdpSend afterWait Conn.waits
  rw [if_neg (not_not.2 hst)]
  cases hfull : w.conn.rdp.windowFull with
  | true => simp only [hopen, hst, decide_true, Bool.and_self, if_true, hwait hfull]
  | false => simp only [Bool.and_false, Bool.false_eq_true, if_false, if_true]

/-- Taking a message moves `snd_nxt`. -/
theorem cspRdpSendCommit_sndNxt {e : Env} {p : CspPacket} {w : World}
    (h : (cspRdpSendCommit e p w).1 = .none) :
    (cspRdpSendCommit e p w).2.conn.rdp.sndNxt = w.conn.rdp.sndNxt + 1 := by
  unfold cspRdpSendCommit at h ⊢
  rcases cspBufferClone_cases e (txPacket e p w) w with hb | ⟨buf, hb⟩
  · rw [hb] at h
    exact nomatch h
  · rw [hb] at h ⊢
    simp only at h ⊢
    cases hq : Queue.enqueue _ _ with
    | none =>
      rw [hq] at h
      exact nomatch h
    | some q => rfl

namespace Node

/-- Nothing that `csp_send_direct` does is about the connection. -/
theorem cspSendPacket_conn (node : Node) (routes : Routes) (nonce : U32) (p : CspPacket)
    (w : World) : (node.cspSendPacket routes nonce p w).world.conn = w.conn := by
  unfold cspSendPacket
  simp only
  split <;> rfl

/-- **A failed `csp_send` leaves no trace exactly if the message was refused** or its wait
timed out. -/
theorem cspSend_unchanged_iff {node : Node} {routes : Routes} {nonce : U32} {e : Env}
    {wait : World → Bool × World} {p : CspPacket} {w : World}
    (hrdp : w.conn.idout.has cspFrdp = true) :
    (node.cspSend routes nonce e wait p w).ret = 0 →
      (Unchanged (afterWait wait w) p (node.cspSend routes nonce e wait p w) ↔
        Refused wait w) := by
  intro hret
  by_cases hopen : w.conn.state = .connOpen
  · by_cases hr : Refused wait w
    · -- nothing was touched
      refine iff_of_true ?_ hr
      obtain ⟨hne, hw⟩ := cspRdpSend_refused (e := e) (p := p) hopen hr
      unfold cspSend
      simp only [hopen, ne_eq, not_true_eq_false, if_false, hrdp, if_true, hne, not_false_eq_true,
        hw]
      exact ⟨rfl, rfl, rfl, rfl⟩
    · refine iff_of_false ?_ hr
      have hcall := cspRdpSend_commit (e := e) (p := p) hr
      unfold cspSend at hret ⊢
      simp only [hopen, ne_eq, not_true_eq_false, if_false, hrdp, if_true, hcall] at hret ⊢
      generalize afterWait wait w = w₁ at hret ⊢
      by_cases hnone : (cspRdpSendCommit e p w₁).1 = .none
      · -- the message is queued, and `csp_send_direct` has failed
        simp only [hnone, not_true_eq_false, if_false] at hret ⊢
        rintro ⟨hsnd, -, -, -⟩
        rw [cspSendPacket_conn, cspRdpSendCommit_sndNxt hnone] at hsnd
        generalize w₁.conn.rdp.sndNxt = s at hsnd
        bv_omega
      · -- the packet has a header, and no copy is queued
        simp only [hnone, not_false_eq_true, if_true] at hret ⊢
        rintro ⟨-, -, hlen, -⟩
        have hlen : p.length + 5 = p.length := hlen
        generalize p.length = n at hlen
        bv_omega
  · have hw : afterWait wait w = w := by
      have hwaits : w.conn.waits = false := by
        simp only [Conn.waits, hopen, decide_false, Bool.false_and]
      rw [afterWait, hwaits, if_neg Bool.false_ne_true]
    refine iff_of_true ?_ (.inl hopen)
    unfold cspSend
    rw [if_pos hopen, hw]
    exact ⟨rfl, rfl, rfl, rfl⟩

/-- **The world of a completed call** is the one that the transport layer's `csp_send`
leaves, when the node's `csp_send_direct` gives the answers of `e`. -/
theorem cspSend_world {node : Node} {routes : Routes} {nonce : U32} {e : Env}
    {wait : World → Bool × World} {p : CspPacket} {w w₁ : World}
    (hrdp : w.conn.idout.has cspFrdp = true) (hr : ¬ Refused wait w) (hw : afterWait wait w = w₁)
    (he : e.sendDirect (cspRdpSendCommit e p w₁).2.tick = decide ((node.cspSendDirect routes
      (cspRdpSendCommit e p w₁).2.conn.idout nonce (txPacket e p w₁)).1 = .none)) :
    (node.cspSend routes nonce e wait p w).world = cspSendCommit e p w₁ := by
  have hopen : w.conn.state = .connOpen := not_not.1 fun h => hr (.inl h)
  have hcall := cspRdpSend_commit (e := e) (p := p) hr
  rw [hw] at hcall
  unfold cspSend cspSendCommit
  simp only [hopen, ne_eq, not_true_eq_false, if_false, hrdp, if_true, hcall]
  by_cases hnone : (cspRdpSendCommit e p w₁).1 = .none
  · simp only [hnone, not_true_eq_false, if_false, if_true]
    unfold cspSendPacket LibCSP.cspSendDirect
    simp only [he, decide_eq_true_eq]
    split <;> rfl
  · simp only [hnone, not_false_eq_true, if_true, if_false]

/-- A wait that times out with nothing else going on. -/
def noPost (w : World) : Bool × World := (false, w)

/-- The hypotheses are met by a message that waits for a window that never opens. -/
theorem cspSend_unchanged_timeout : Unchanged
    (afterWait noPost (Endpoint.opened 100 200 0).world) threeBytes
    ((nodeOne .big).cspSend openRoutes 42 (.favourable .big) noPost threeBytes
      (Endpoint.opened 100 200 0).world) :=
  ((cspSend_unchanged_iff rfl) rfl).2 (.inr (.inr ⟨by decide, rfl⟩))

/-- **Without a route a message is queued all the same**: `csp_send` fails, and `snd_nxt`
has moved. -/
theorem cspSend_failed_changes :
    ¬ ∀ (node : Node) (routes : Routes) (nonce : U32) (e : Env) (wait : World → Bool × World)
      (p : CspPacket) (w : World), w.conn.idout.has cspFrdp = true →
        (node.cspSend routes nonce e wait p w).ret = 0 →
          Unchanged (afterWait wait w) p (node.cspSend routes nonce e wait p w) := by
  intro h
  have hsnd := (h (nodeOne .big) ⟨fun _ => none, none⟩ 42 (.favourable .big) noPost threeBytes
    (Endpoint.opened 100 200 4).world rfl rfl).sndNxt
  revert hsnd
  decide

end Node
end LibCSP
