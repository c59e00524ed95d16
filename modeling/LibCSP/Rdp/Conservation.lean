/-
# No buffer is lost

`csp_rdp_new_packet` takes one buffer in hand and may get more from the pool.  It
is `Linear` (`LibCSP.Rdp.Linear`) except in three situations, each of which costs
exactly what it is about (`KeepsBuffers`):

* a SYN/ACK is to be sent and the pool has one buffer left, for the message and
  none for its copy: the message is forgotten;
* a packet in sequence fits the user's receive queue but `rx_event` is full: the
  packet is freed, and stays in the queue;
* a stored packet does not fit the user's queue when the packet before it
  releases it: it is forgotten.

`csp_rdp_check_timeouts` is linear in every state, and `csp_rdp_send_cmp`
forgets a buffer of its own in the first situation only.
-/

import LibCSP.Rdp.Delivery
import LibCSP.Rdp.Linear

namespace LibCSP

open Basis

/-! ### Data for the user -/

/-- The user's receive queues are places. -/
theorem held_setRxQueue (c : Conn) (prio : Fin cspPriorities)
    (q : Queue CspPacket cspRxQueueLength) :
    Conn.held { c with rxQueue := Function.update c.rxQueue prio q } +
      bufs (c.rxQueue prio).items = c.held + bufs q.items := by
  have hqueues := sum_update_add (fun x : Queue CspPacket cspRxQueueLength => bufs x.items)
    c.rxQueue prio q
  unfold Conn.held
  simp only
  rw [add_right_comm, add_right_comm (∑ i, _), hqueues]
  abel

/-- Posting the handle moves no buffer. -/
theorem postHandle_linear (e : Env) (w : World) (g : Multiset ℕ) :
    Linear w g (postHandle e w).2 g := by
  unfold postHandle
  split
  · exact .refl w g
  · rename_i socket _
    split
    · have hev : Linear w 0 (w.next.emit (.accept socket)) 0 :=
        .leave [.accept socket] rfl rfl rfl
      exact (hev.around g).trans (.of_eq rfl rfl)
    · exact .next w g

/-- The receive queue of a packet has room. -/
def Conn.Room (c : Conn) (p : CspPacket) : Prop := (c.rxQueue (rxq p)).size < cspRxQueueLength

instance (c : Conn) (p : CspPacket) : Decidable (c.Room p) := inferInstanceAs (Decidable (_ < _))

/-- **With an accepted handle and room in its queue a packet is queued**, whatever
`csp_rdp_receive_data` returns: that depends on `rx_event`. -/
theorem cspRdpReceiveData_queued {e : Env} {p : CspPacket} {w : World}
    (hpost : (postHandle e w).1 = true) (hroom : w.conn.Room p) :
    Linear w {p.buf} (cspRdpReceiveData e p w).2 0 ∧
      (cspRdpReceiveData e p w).2.conn.rxSocket = none ∧
      (∀ i, ((cspRdpReceiveData e p w).2.conn.rxQueue i).size =
        (w.conn.rxQueue i).size + if i = rxq p then 1 else 0) ∧
      ((cspRdpReceiveData e p w).1 = true ↔ w.conn.rxEvent.size < cspConnQueueLength) := by
  have hposted := postHandle_posted e w
  have hlinear := postHandle_linear e w {p.buf}
  have hsocket := postHandle_socket hpost
  unfold cspRdpReceiveData
  simp only [hpost, if_true]
  generalize (postHandle e w).2 = w₁ at hposted hlinear hsocket ⊢
  rw [Conn.Room, ← hposted.rxQueue] at hroom
  rw [← hposted.rxQueue, ← hposted.rxEvent]
  have hlt : (w₁.conn.rxQueue (rxq p)).items.length < cspRxQueueLength := hroom
  obtain ⟨q, hq⟩ := Option.ne_none_iff_exists'.1 fun hn :
      (w₁.conn.rxQueue (rxq p)).enqueue (cspRdpHeaderRemove p) = none =>
    absurd hlt (Nat.not_lt.2 (Queue.enqueue_eq_none.1 hn))
  have hitems := (Queue.enqueue_eq_some.1 hq).2
  have hheld := held_setRxQueue w₁.conn (rxq p) q
  rw [hitems, bufs_append, add_comm (bufs (w₁.conn.rxQueue (rxq p)).items), ← add_assoc] at hheld
  have hsize : ∀ i, (Function.update w₁.conn.rxQueue (rxq p) q i).size =
      (w₁.conn.rxQueue i).size + if i = rxq p then 1 else 0 := fun i => by
    by_cases hi : i = rxq p
    · rw [hi, Function.update_self, if_pos rfl, Queue.size, hitems, List.length_append]
      rfl
    · rw [Function.update_of_ne hi, if_neg hi]
      rfl
  obtain ⟨w₂, hw₂⟩ : ∃ w₂ : World, w₂ = { w₁ with
      conn.rxQueue := Function.update w₁.conn.rxQueue (rxq p) q
      log := w₁.log ++ [.deliver w₁.conn.rdp.state (cspRdpHeaderRemove p)] } := ⟨_, rfl⟩
  have hstore : Linear w₁ {p.buf} w₂ 0 := by
    have hdeliver : Linear w₁ 0 (w₁.emit (.deliver w₁.conn.rdp.state (cspRdpHeaderRemove p))) 0 :=
      .leave [.deliver w₁.conn.rdp.state (cspRdpHeaderRemove p)] rfl rfl rfl
    refine (hdeliver.around _).trans (.store (p := p) ?_ (by rw [hw₂]; rfl))
    rw [hw₂]
    exact add_right_cancel hheld
  unfold rxq at hq hw₂
  cases hev : w₁.conn.rxEvent.enqueue () with
  | none =>
    have hcall : cspConnEnqueuePacket (some (cspRdpHeaderRemove p)) w₁ = (.nomem, w₂) := by
      simp only [cspConnEnqueuePacket, show (cspRdpHeaderRemove p).id = p.id from rfl, hq, hev, hw₂]
    rw [hcall]
    refine ⟨hlinear.trans hstore, by rw [hw₂]; exact hsocket, by rw [hw₂]; exact hsize, ?_⟩
    exact iff_of_false Bool.false_ne_true (Nat.not_lt.2 (Queue.enqueue_eq_none.1 hev))
  | some ev =>
    have hcall : cspConnEnqueuePacket (some (cspRdpHeaderRemove p)) w₁ =
        (.none, { w₂ with conn.rxEvent := ev }) := by
      simp only [cspConnEnqueuePacket, show (cspRdpHeaderRemove p).id = p.id from rfl, hq, hev, hw₂]
    rw [hcall]
    refine ⟨hlinear.trans (hstore.trans (.of_eq rfl rfl)), by rw [hw₂]; exact hsocket,
      by rw [hw₂]; exact hsize, ?_⟩
    exact iff_of_true rfl (Queue.enqueue_eq_some.1 hev).1

/-- **Otherwise it stays in hand.** -/
theorem cspRdpReceiveData_refused {e : Env} {p : CspPacket} {w : World}
    (h : (postHandle e w).1 = true → ¬ w.conn.Room p) :
    Linear w 0 (cspRdpReceiveData e p w).2 0 ∧ (cspRdpReceiveData e p w).1 = false ∧
      (cspRdpReceiveData e p w).2.conn.rxQueue = w.conn.rxQueue ∧
      (w.conn.rxSocket = none → (cspRdpReceiveData e p w).2.conn.rxSocket = none) := by
  have hposted := postHandle_posted e w
  have hlinear := postHandle_linear e w 0
  have hkeep : w.conn.rxSocket = none → (postHandle e w).2.conn.rxSocket = none := fun hn => by
    rw [postHandle, hn]
    exact hn
  unfold cspRdpReceiveData
  simp only
  cases hpost : (postHandle e w).1 with
  | false => exact ⟨hlinear, hpost, hposted.rxQueue, hkeep⟩
  | true =>
    have hfull : cspConnEnqueuePacket (some (cspRdpHeaderRemove p)) (postHandle e w).2 =
        (.nomem, (postHandle e w).2) := by
      have hq : ((postHandle e w).2.conn.rxQueue (cspConnGetRxq p.id.pri)).enqueue
          (cspRdpHeaderRemove p) = none := by
        rw [Queue.enqueue_eq_none, hposted.rxQueue]
        exact Nat.not_lt.1 (h hpost)
      simp only [cspConnEnqueuePacket, show (cspRdpHeaderRemove p).id = p.id from rfl, hq]
    rw [if_pos rfl, hfull]
    exact ⟨hlinear, rfl, hposted.rxQueue, hkeep⟩

/-! ### Stored packets -/

/-- The stored packets that `csp_rdp_rx_queue_flush` takes out, in its order, when `seq`
is the next number. -/
def released (o : ByteOrder) {cap : ℕ} : ℕ → U16 → Queue CspPacket cap → List CspPacket
  | 0, _, _ => []
  | n + 1, seq, q =>
    match Queue.takeFirst (fun x => hostSeq o x == seq) q.size q with
    | (none, _) => []
    | (some x, q') => x :: released o n (seq + 1) q'

/-- Room for one packet and the rest is room for the one, and then for the rest. -/
theorem roomFor_cons {c c' : Conn} {x : CspPacket} {ps : List CspPacket}
    (hsize : ∀ i, (c'.rxQueue i).size = (c.rxQueue i).size + if i = rxq x then 1 else 0) :
    RoomFor c (x :: ps) ↔ RoomFor c' ps := by
  unfold RoomFor
  refine forall_congr' fun i => ?_
  have h := hsize i
  rw [List.filter_cons]
  by_cases hi : i = rxq x
  · rw [if_pos hi] at h
    rw [if_pos (decide_eq_true hi.symm), List.length_cons]
    omega
  · rw [if_neg hi] at h
    rw [if_neg (by simpa using Ne.symm hi)]
    omega

/-- **A flush forgets the released packets that do not fit.** -/
theorem flushRounds_linear (e : Env) (n : ℕ) {w : World} (hs : w.conn.rxSocket = none) :
    ∃ lost, Linear w 0 (flushRounds e n w) lost ∧
      (lost = 0 ↔ RoomFor w.conn
        (released e.host n (w.conn.rdp.rcvCur + 1) w.conn.rdp.rxQueue)) := by
  have hnil : ∀ c : Conn, RoomFor c [] := fun c prio => (c.rxQueue prio).le
  induction n generalizing w with
  | zero => exact ⟨0, .refl w 0, iff_of_true rfl (hnil w.conn)⟩
  | succ n ih =>
    rcases htake : Queue.takeFirst (fun x => hostSeq e.host x == w.conn.rdp.rcvCur + 1)
      w.conn.rdp.rxQueue.size w.conn.rdp.rxQueue with ⟨_ | x, q⟩
    · have hround : flushRound e w = none := flushRound_of_takeFirst htake
      rw [flushRounds, hround, released, htake]
      exact ⟨0, .refl w 0, iff_of_true rfl (hnil w.conn)⟩
    · obtain ⟨-, hperm⟩ := Queue.takeFirst_eq_some htake
      obtain ⟨w₁, hw₁⟩ : ∃ w₁, w₁ = (cspRdpReceiveData e x (w.setReorder q)).2 := ⟨_, rfl⟩
      have hround : flushRound e w = some (w₁.setRcvCur (w₁.conn.rdp.rcvCur + 1)) := by
        rw [hw₁]
        exact flushRound_of_takeFirst htake
      have hrdp : w₁.conn.rdp = (w.setReorder q).conn.rdp := by
        rw [hw₁, cspRdpReceiveData_rdp]
      have hcur : w₁.conn.rdp.rcvCur = w.conn.rdp.rcvCur := by rw [hrdp]; rfl
      have hreorder : w₁.conn.rdp.rxQueue = q := by rw [hrdp]; rfl
      -- the packet is taken out of the reorder queue
      have hout : Linear w 0 (w.setReorder q) {x.buf} := by
        refine .takeOut ?_ rfl
        have hheld := held_setReorder w.conn q
        rw [bufs_perm hperm.symm, bufs_cons, ← add_assoc] at hheld
        exact add_right_cancel hheld
      have hset : Linear w₁ 0 (w₁.setRcvCur (w₁.conn.rdp.rcvCur + 1)) 0 := .of_eq rfl rfl
      have hpost : (postHandle e (w.setReorder q)).1 = true := by
        rw [postHandle, show (w.setReorder q).conn.rxSocket = none from hs]
      rw [flushRounds, hround, released, htake]
      simp only
      by_cases hroom : w.conn.Room x
      · obtain ⟨hl, hsocket, hsize, -⟩ := cspRdpReceiveData_queued (w := w.setReorder q) hpost hroom
        rw [← hw₁] at hl hsocket hsize
        obtain ⟨lost, hrest, hlost⟩ := ih (w := w₁.setRcvCur (w₁.conn.rdp.rcvCur + 1)) hsocket
        change lost = 0 ↔ RoomFor w₁.conn (released e.host n (w₁.conn.rdp.rcvCur + 1 + 1)
          w₁.conn.rdp.rxQueue) at hlost
        rw [hcur, hreorder] at hlost
        exact ⟨lost, hout.trans (hl.trans (hset.trans hrest)),
          hlost.trans (roomFor_cons hsize).symm⟩
      · obtain ⟨hl, -, -, hsocket⟩ := cspRdpReceiveData_refused (e := e) (w := w.setReorder q)
          fun _ => hroom
        rw [← hw₁] at hl hsocket
        obtain ⟨lost, hrest, -⟩ := ih (w := w₁.setRcvCur (w₁.conn.rdp.rcvCur + 1)) (hsocket hs)
        have hkept := ((hl.trans (hset.trans hrest)).frame {x.buf})
        rw [zero_add] at hkept
        refine ⟨lost + {x.buf}, hout.trans hkept, iff_of_false (fun h0 => ?_) fun hfit => hroom ?_⟩
        · have := congrArg Multiset.card h0
          rw [Multiset.card_add, Multiset.card_singleton, Multiset.card_zero] at this
          omega
        · have := hfit (rxq x)
          rw [List.filter_cons, if_pos (decide_eq_true rfl), List.length_cons] at this
          unfold Conn.Room
          omega

/-! ### `csp_rdp_new_packet` -/

/-- A call that is linear with `lost` in hand at its end is linear without exactly if that is
nothing. -/
theorem Linear.iff_lost {w w' : World} {g lost : Multiset ℕ} (h : Linear w g w' lost) :
    Linear w g w' 0 ↔ lost = 0 :=
  ⟨h.hand_unique, fun h₀ => h₀ ▸ h⟩

/-- A call that needs `more` in hand to be linear is linear without exactly if that is nothing. -/
theorem Linear.iff_more {w w' : World} {g more : Multiset ℕ} (h : Linear w (g + more) w' 0) :
    Linear w g w' 0 ↔ more = 0 := by
  refine ⟨fun h₀ => ?_, fun h₀ => ?_⟩
  · have := h.hand_unique (h₀.frame more)
    rwa [zero_add, eq_comm] at this
  · rwa [h₀, add_zero] at h

/-- If there is a buffer for a SYN, there is one for its copy. -/
def CopyFits (e : Env) (tick : ℕ) : Prop := e.bufferGet tick ≠ none → e.bufferGet (tick + 1) ≠ none

/-- No copy is lost exactly if there is a buffer for it. -/
theorem sendCmpLost_eq_zero {e : Env} {f : RdpFlags} (hf : f.syn = true) (tick : ℕ) :
    sendCmpLost e f tick = 0 ↔ CopyFits e tick := by
  unfold sendCmpLost CopyFits noCopy
  rw [hf, Bool.true_and]
  cases e.bufferGet tick with
  | none => exact iff_of_true rfl fun h => absurd rfl h
  | some b =>
    cases e.bufferGet (tick + 1) with
    | none =>
      refine iff_of_false (fun h => ?_) fun h => h (Option.some_ne_none b) rfl
      exact Multiset.singleton_ne_zero b.buf h
    | some c => exact iff_of_true rfl fun _ => Option.some_ne_none c

/-- When the packet comes in sequence and is to be handed over, so are those that it
releases, and `rx_event` has room. -/
def DataFits (e : Env) (h : RdpHeader) (p : CspPacket) (w : World) : Prop :=
  h.seqNr = w.conn.rdp.rcvCur + 1 → HandleFits e w → w.conn.Room p →
    w.conn.rxEvent.size < cspConnQueueLength ∧
      RoomFor w.conn (p :: released e.host w.conn.rdp.rxQueue.size (h.seqNr + 1)
        w.conn.rdp.rxQueue)

/-- A packet with RST is freed. -/
theorem newPacketRst_linear (e : Env) (h : RdpHeader) (p : CspPacket) (w : World) :
    Linear w {p.buf} (newPacketRst e h p w) 0 := by
  have hack : Linear w {p.buf} (if h.ack then storeAck h w else w) {p.buf} := by
    split
    · exact .of_eq rfl rfl
    · exact .refl w _
  unfold newPacketRst
  simp only
  generalize (if h.ack then storeAck h w else w) = w₁ at hack ⊢
  refine hack.trans ?_
  split
  · exact (Linear.free w₁ p).trans (cspClose_linear e _)
  · split
    · exact (((enterCloseWait_linear e w₁).trans (cspRdpSendCmp_none_linear' rfl _ _ _)).around
        _).trans (discardClose_linear e p _)
    · exact .free w₁ p

/-- A packet in `RDP_CLOSED` is freed; a SYN may lose the copy of its answer. -/
theorem newPacketClosed_linear (e : Env) (h : RdpHeader) (p : CspPacket) (w : World) :
    Linear w {p.buf} (newPacketClosed e h p w)
      (if h.syn then sendCmpLost e .synAck (w.tick + 2) else 0) := by
  unfold newPacketClosed
  simp only
  split
  · have hopen : Linear w 0 (passiveOpen e h p w) 0 := .of_eq rfl rfl
    have hsend := (hopen.trans (cspRdpSendCmp_none_linear e .synAck
      (passiveOpen e h p w).conn.rdp.sndIss (passiveOpen e h p w).conn.rdp.rcvIrs _)).frame {p.buf}
    rw [zero_add, add_comm] at hsend
    have hfree := (Linear.free (cspRdpSendCmp e none .synAck (passiveOpen e h p w).conn.rdp.sndIss
      (passiveOpen e h p w).conn.rdp.rcvIrs (passiveOpen e h p w)).2 p).frame
        (sendCmpLost e .synAck (passiveOpen e h p w).tick)
    rw [zero_add] at hfree
    exact hsend.trans hfree
  · exact ((cspRdpSendCmp_none_linear' rfl _ _ _).around _).trans (discardClose_linear e p _)

/-- A packet in `RDP_SYN_SENT` is freed. -/
theorem newPacketSynSent_linear (e : Env) (h : RdpHeader) (p : CspPacket) (w : World) :
    Linear w {p.buf} (newPacketSynSent e h p w) 0 := by
  have hpost : ∀ w, Linear w {p.buf} (discardOpen p (txWaitPost w)) 0 := fun w => by
    have hsem : Linear w {p.buf} (txWaitPost w) {p.buf} := .of_eq rfl rfl
    exact hsem.trans (.free _ p)
  unfold newPacketSynSent
  simp only
  split
  · have hopen : Linear w {p.buf} (activeOpen e h w) {p.buf} := .of_eq rfl rfl
    refine hopen.trans (Linear.trans ?_ (hpost _))
    unfold synSentAck
    split
    · exact (cspRdpSendCmp_none_linear' rfl _ _ _).around _
    · exact .refl _ _
  · split
    · exact ((cspRdpSendCmp_none_linear' rfl _ _ _).around _).trans (hpost _)
    · exact discardClose_linear e p w

/-- A packet in `RDP_CLOSE_WAIT` is freed. -/
theorem newPacketCloseWait_linear (e : Env) (h : RdpHeader) (p : CspPacket) (w : World) :
    Linear w {p.buf} (newPacketCloseWait e h p w) 0 := by
  rcases newPacketCloseWait_cases e h p w with hw | ⟨-, -, -, hw⟩
  · rw [hw]
    exact .free w p
  · rw [hw]
    have hack : Linear w {p.buf} (storeAck h w) {p.buf} := .of_eq rfl rfl
    exact hack.trans (((cspRdpSendCmp_none_linear' rfl _ _ _).around _).trans (.free _ p))

/-- A packet outside the window may lose the copy of the SYN/ACK sent again. -/
theorem outsideWindow_linear (e : Env) (w : World) :
    Linear w 0 (outsideWindow e w)
      (if w.conn.rdp.state = .rdpSynRcvd then sendCmpLost e .synAck w.tick else 0) := by
  have heack : ∀ w : World, Linear w 0
      (if w.conn.rdp.state = .rdpOpen then (cspRdpSendEack e w).2 else w) 0 := fun w => by
    split
    · exact cspRdpSendEack_linear e w
    · exact .refl w 0
  unfold outsideWindow
  simp only
  split
  · exact (cspRdpSendCmp_none_linear e _ _ _ _).trans ((heack _).around _)
  · exact heack w

/-- A packet out of sequence goes to the reorder queue, or is freed. -/
theorem newPacketData_reorders {e : Env} {h : RdpHeader} {p : CspPacket} {w : World}
    (hseq : h.seqNr ≠ w.conn.rdp.rcvCur + 1) : Linear w {p.buf} (newPacketData e h p w) 0 := by
  have hreorder : ∀ q : Queue CspPacket (cspRdpMaxWindow * 2),
      q.items.Perm w.conn.rdp.rxQueue.items → (w.setReorder q).conn.held = w.conn.held :=
    fun q hq => by
      have := held_setReorder w.conn q
      rw [bufs_perm hq] at this
      exact add_right_cancel this
  unfold newPacketData
  simp only
  rw [if_pos hseq]
  rcases cspRdpRxQueueAdd_cases e p h.seqNr w with ⟨hr, -, q, hq, hperm⟩ | ⟨hr, q, hq, hperm⟩
  · rw [hr, hq, if_pos rfl]
    have hstore : Linear w {p.buf} (w.setReorder q) 0 := by
      refine .store ?_ rfl
      have := held_setReorder w.conn q
      rw [bufs_perm hperm, bufs_cons, ← add_assoc] at this
      exact add_right_cancel this
    exact hstore.trans (cspRdpSendEack_linear e _)
  · rw [hr, hq, if_neg Bool.false_ne_true]
    exact (Linear.of_eq (hreorder q hperm) rfl).trans (.free _ p)

/-- A packet in sequence that the user's queue has room for: it is queued with its event and
followed by what it releases, or queued without and then freed. -/
theorem newPacketData_hands {e : Env} {h : RdpHeader} {p : CspPacket} {w : World}
    (hseq : h.seqNr = w.conn.rdp.rcvCur + 1) (hpost : (postHandle e w).1 = true)
    (hroom : w.conn.Room p) : Linear w {p.buf} (newPacketData e h p w) 0 ↔
      w.conn.rxEvent.size < cspConnQueueLength ∧
        RoomFor w.conn (p :: released e.host w.conn.rdp.rxQueue.size (h.seqNr + 1)
          w.conn.rdp.rxQueue) := by
  obtain ⟨hl, hsocket, hsize, hres⟩ := cspRdpReceiveData_queued hpost hroom
  have hrdp := cspRdpReceiveData_rdp e p w
  unfold newPacketData
  simp only
  rw [if_neg (not_not.2 hseq)]
  generalize cspRdpReceiveData e p w = r at hl hsocket hsize hres hrdp ⊢
  by_cases hev : w.conn.rxEvent.size < cspConnQueueLength
  · have hcur : Linear r.2 0 (r.2.setRcvCur h.seqNr) 0 := .of_eq rfl rfl
    have hack := dataAck_linear e p (r.2.setRcvCur h.seqNr)
    have hq := (dataAck_quiet e p (r.2.setRcvCur h.seqNr)).inbound
    rw [if_pos (hres.2 hev), cspRdpRxQueueFlush]
    change Linear w {p.buf} (flushRounds e
      (dataAck e p (r.2.setRcvCur h.seqNr)).conn.rdp.rxQueue.size
      (dataAck e p (r.2.setRcvCur h.seqNr))) 0 ↔ _
    generalize dataAck e p (r.2.setRcvCur h.seqNr) = w₂ at hack hq ⊢
    have hreorder : w₂.conn.rdp.rxQueue = w.conn.rdp.rxQueue := by
      rw [← hrdp]
      exact congrArg Inbound.reorder hq
    have hcur₂ : w₂.conn.rdp.rcvCur = h.seqNr := congrArg Inbound.rcvCur hq
    have hqueue : w₂.conn.rxQueue = r.2.conn.rxQueue := congrArg Inbound.rxQueue hq
    obtain ⟨lost, hflush, hlost⟩ := flushRounds_linear e w₂.conn.rdp.rxQueue.size
      ((congrArg Inbound.rxSocket hq).trans hsocket)
    rw [(hl.trans (hcur.trans (hack.trans hflush))).iff_lost, hlost, hreorder, hcur₂,
      ← roomFor_cons (c := w.conn) (x := p) (by rw [hqueue]; exact hsize)]
    exact (and_iff_right hev).symm
  · -- the packet is queued all the same, and then freed
    have hfull : r.1 = false := by
      rw [Bool.eq_false_iff, ne_eq, hres]
      exact hev
    rw [hfull, if_neg Bool.false_ne_true]
    have htwice := (hl.frame {p.buf})
    rw [zero_add] at htwice
    refine (htwice.trans (.free r.2 p)).iff_more.trans ?_
    exact iff_of_false (Multiset.singleton_ne_zero p.buf) fun hfit => hev hfit.1

/-- **Data keeps the books exactly if it fits.** -/
theorem newPacketData_linear (e : Env) (h : RdpHeader) (p : CspPacket) (w : World) :
    Linear w {p.buf} (newPacketData e h p w) 0 ↔ DataFits e h p w := by
  by_cases hseq : h.seqNr = w.conn.rdp.rcvCur + 1
  · by_cases hin : (postHandle e w).1 = true ∧ w.conn.Room p
    · rw [newPacketData_hands hseq hin.1 hin.2]
      exact ⟨fun hfit _ _ _ => hfit, fun hfit => hfit hseq (postHandle_eq_true.1 hin.1) hin.2⟩
    · obtain ⟨hl, hres, -, -⟩ := cspRdpReceiveData_refused (e := e) (p := p) (w := w)
        fun h₁ h₂ => hin ⟨h₁, h₂⟩
      unfold newPacketData
      simp only
      rw [if_neg (not_not.2 hseq), hres, if_neg Bool.false_ne_true]
      exact iff_of_true ((hl.around _).trans (.free _ p)) fun _ h₁ h₂ =>
        absurd ⟨postHandle_eq_true.2 h₁, h₂⟩ hin
  · exact iff_of_true (newPacketData_reorders hseq) fun hs => absurd hs hseq

/-- The packet has data and is not an EACK. -/
def HasData (h : RdpHeader) (p : CspPacket) : Prop :=
  h.eak = false ∧ sizeofRdpHeader < p.length.toNat

/-- Whether it fits does not depend on the stored ACK number. -/
theorem dataFits_storeAck (e : Env) (h : RdpHeader) (p : CspPacket) (w : World) :
    DataFits e h p (storeAck h w) ↔ DataFits e h p w := by
  unfold DataFits HandleFits
  rfl

/-- Nor on the state of the connection. -/
theorem dataFits_setState (e : Env) (h : RdpHeader) (p : CspPacket) (w : World) (st : RdpState) :
    DataFits e h p { w with conn.rdp.state := st } ↔ DataFits e h p w := by
  unfold DataFits HandleFits
  rfl

/-- A packet that was acknowledged keeps the books exactly if its data fits, when it has any. -/
theorem newPacketAcked_linear (e : Env) (h : RdpHeader) (p : CspPacket) (w : World) :
    Linear w {p.buf} (newPacketAcked e h p w) 0 ↔ (HasData h p → DataFits e h p w) := by
  have hack : ∀ g, Linear w g (storeAck h w) g := fun g => .of_eq rfl rfl
  unfold newPacketAcked HasData
  simp only
  split
  · rename_i heak
    refine iff_of_true ((hack _).trans (Linear.trans ?_ (.free _ p))) fun hd => ?_
    · split
      · exact (cspRdpFlushEack_linear e p _).around _
      · exact .refl _ _
    · exact absurd (heak.symm.trans hd.1) (by decide)
  · split
    · rename_i hlen
      refine iff_of_true ((hack _).trans (.free _ p)) fun hd => ?_
      exact absurd hd.2 (Nat.not_lt.2 hlen)
    · rename_i heak hlen
      rw [← dataFits_storeAck, ← newPacketData_linear]
      have hd : h.eak = false ∧ sizeofRdpHeader < p.length.toNat :=
        ⟨Bool.not_eq_true _ ▸ heak, Nat.not_le.1 hlen⟩
      have hback : Linear (storeAck h w) {p.buf} w {p.buf} := .of_eq rfl rfl
      exact ⟨fun hl _ => hback.trans hl, fun hl => (hack _).trans (hl hd)⟩

/-- The checks behind a stored ACK number. -/
theorem storesAck_checks {h : RdpHeader} (hr : h.rst = false) {rdp : Rdp}
    (hst : rdp.state = .rdpSynRcvd ∨ rdp.state = .rdpOpen) (hs : rdp.storesAck h = true) :
    rdp.Passes h ∧ (rdp.state = .rdpSynRcvd → h.ackNr = rdp.sndIss) := by
  rcases hst with hst | hst <;>
    simp only [Rdp.storesAck, hr, hst, Bool.false_eq_true, if_false, Bool.and_eq_true,
      Bool.not_eq_true', beq_iff_eq] at hs
  · exact ⟨⟨hs.1.1.1.1, hs.1.1.1.2, hs.1.1.2, hs.1.2⟩, fun _ => hs.2⟩
  · exact ⟨⟨hs.1.1.1, hs.1.1.2, hs.1.2, hs.2⟩,
      fun h' => absurd (hst.symm.trans h') (by decide)⟩

/-- **A packet in `RDP_SYN_RCVD` or `RDP_OPEN`** keeps the books exactly under these two
conditions. -/
theorem newPacketOpen_linear (e : Env) {h : RdpHeader} (hr : h.rst = false) (p : CspPacket)
    {w : World} (hst : w.conn.rdp.state = .rdpSynRcvd ∨ w.conn.rdp.state = .rdpOpen) :
    Linear w {p.buf} (newPacketOpen e h p w) 0 ↔
      (w.conn.rdp.state = .rdpSynRcvd → h.syn = false → h.ack = true →
          w.conn.rdp.seqValid h = false → CopyFits e w.tick) ∧
        (w.conn.rdp.storesAck h = true → HasData h p → DataFits e h p w) := by
  have hchecks := fun hs => storesAck_checks (h := h) hr hst hs
  unfold newPacketOpen
  split
  · rename_i hsa
    refine iff_of_true ?_ ⟨fun _ hs ha _ => ?_, fun hs => ?_⟩
    · split
      · exact discardClose_linear e p w
      · exact .free w p
    · rw [hs, ha] at hsa
      exact absurd hsa (by decide)
    · rw [(hchecks hs).1.syn, (hchecks hs).1.ack] at hsa
      exact absurd hsa (by decide)
  · rename_i hsa
    simp only [Bool.or_eq_true, Bool.not_eq_true', not_or, Bool.not_eq_true,
      Bool.not_eq_false] at hsa
    split
    · rename_i hseq
      rw [Bool.not_eq_true'] at hseq
      have hl := (outsideWindow_linear e w).frame {p.buf}
      rw [zero_add, add_comm] at hl
      have hfree := (Linear.free (outsideWindow e w) p).frame
        (if w.conn.rdp.state = .rdpSynRcvd then sendCmpLost e .synAck w.tick else 0)
      rw [zero_add] at hfree
      refine (hl.trans hfree).iff_lost.trans ?_
      have hstores : w.conn.rdp.storesAck h = true → HasData h p → DataFits e h p w := fun hs =>
        absurd ((hchecks hs).1.seqNr.symm.trans hseq) (by decide)
      split
      · rename_i hst'
        rw [sendCmpLost_eq_zero rfl]
        exact ⟨fun hfit => ⟨fun _ _ _ _ => hfit, hstores⟩,
          fun hfit => hfit.1 hst' hsa.1 hsa.2 hseq⟩
      · rename_i hst'
        exact iff_of_true rfl ⟨fun hs => absurd hs hst', hstores⟩
    · rename_i hseq
      rw [Bool.not_eq_true', Bool.not_eq_false] at hseq
      have hwindow : w.conn.rdp.state = .rdpSynRcvd → h.syn = false → h.ack = true →
          w.conn.rdp.seqValid h = false → CopyFits e w.tick := fun _ _ _ hn =>
        absurd (hseq.symm.trans hn) (by decide)
      split
      · rename_i hack
        refine iff_of_true (.free w p) ⟨hwindow, fun hs => ?_⟩
        rw [(hchecks hs).1.ackNr] at hack
        exact absurd hack (by decide)
      · rename_i hack
        rw [Bool.not_eq_true', Bool.not_eq_false] at hack
        have hpasses : w.conn.rdp.Passes h := ⟨hsa.1, hsa.2, hseq, hack⟩
        split
        · rename_i hst'
          split
          · rename_i hn
            exact iff_of_true (discardClose_linear e p w)
              ⟨hwindow, fun hs => absurd ((hchecks hs).2 hst') hn⟩
          · rename_i hn
            have hs := hpasses.storesAck_synRcvd hr hst' (not_not.1 hn)
            obtain ⟨w₁, hw₁⟩ : ∃ w₁ : World, w₁ = { w with conn.rdp.state := .rdpOpen } := ⟨_, rfl⟩
            have hto : Linear w {p.buf} w₁ {p.buf} := .of_eq (by rw [hw₁]; rfl) (by rw [hw₁])
            have hback : Linear w₁ {p.buf} w {p.buf} := .of_eq (by rw [hw₁]; rfl) (by rw [hw₁])
            have hfits : DataFits e h p w₁ ↔ DataFits e h p w := hw₁ ▸ dataFits_setState e h p w _
            rw [← hw₁, ← hfits]
            have hacked := newPacketAcked_linear e h p w₁
            exact ⟨fun hl => ⟨hwindow, fun _ => hacked.1 (hback.trans hl)⟩,
              fun hf => hto.trans (hacked.2 (hf.2 hs))⟩
        · rename_i hst'
          have hs := hpasses.storesAck_open hr (hst.resolve_left hst')
          rw [newPacketAcked_linear]
          exact ⟨fun hf => ⟨hwindow, fun _ => hf⟩, fun hf => hf.2 hs⟩

/-- **The condition under which `csp_rdp_new_packet` loses no buffer**, and frees none
that is queued. -/
structure KeepsBuffers (e : Env) (p : CspPacket) (w : World) : Prop where
  /-- A SYN is answered. -/
  passive : (rxHeader e.host p).rst = false → w.conn.rdp.state = .rdpClosed →
    (rxHeader e.host p).syn = true → CopyFits e (w.tick + 2)
  /-- A packet outside the window is answered with the SYN/ACK once more. -/
  again : (rxHeader e.host p).rst = false → w.conn.rdp.state = .rdpSynRcvd →
    (rxHeader e.host p).syn = false → (rxHeader e.host p).ack = true →
      w.conn.rdp.seqValid (rxHeader e.host p) = false → CopyFits e w.tick
  /-- A packet with data is accepted. -/
  data : (rxHeader e.host p).rst = false →
    w.conn.rdp.state = .rdpSynRcvd ∨ w.conn.rdp.state = .rdpOpen →
      w.conn.rdp.storesAck (rxHeader e.host p) = true → HasData (rxHeader e.host p) p →
        DataFits e (rxHeader e.host p) (rxPacket e.host p) w

/-- In the other states every packet is handled without loss. -/
theorem KeepsBuffers.of_state {e : Env} {p : CspPacket} {w : World}
    (hc : w.conn.rdp.state ≠ .rdpClosed) (hs : w.conn.rdp.state ≠ .rdpSynRcvd)
    (ho : w.conn.rdp.state ≠ .rdpOpen) : KeepsBuffers e p w :=
  ⟨fun _ h => absurd h hc, fun _ h => absurd h hs, fun _ h => absurd h (not_or.2 ⟨hs, ho⟩)⟩

/-- **`csp_rdp_new_packet` loses no buffer and frees none that is queued, exactly under
that condition.** -/
theorem cspRdpNewPacket_linear (e : Env) (p : CspPacket) (w : World) :
    Linear w {p.buf} (cspRdpNewPacket e p w) 0 ↔ KeepsBuffers e p w := by
  have hbuf : (rxPacket e.host p).buf = p.buf := rfl
  have hlen : (rxPacket e.host p).length = p.length := length_rxPacket e.host p
  have hdata : HasData (rxHeader e.host p) (rxPacket e.host p) ↔ HasData (rxHeader e.host p) p := by
    unfold HasData
    rw [hlen]
  rw [← hbuf]
  refine cspRdpNewPacket_induct (P := fun v => Linear w _ v 0 ↔ KeepsBuffers e p w) (fun hr => ?_)
    (fun hr hst => ?_) (fun _ hst => ?_) (fun hr hst => ?_) fun _ hst => ?_
  · refine iff_of_true (newPacketRst_linear e _ _ w) ⟨fun h => ?_, fun h => ?_, fun h => ?_⟩ <;>
      exact absurd (hr.symm.trans h) (by decide)
  · refine (newPacketClosed_linear e _ _ w).iff_lost.trans ?_
    have hother : ∀ st, st ≠ .rdpClosed → w.conn.rdp.state ≠ st := fun st hne heq =>
      hne (heq.symm.trans hst)
    split
    · rename_i hsyn
      rw [sendCmpLost_eq_zero rfl]
      refine ⟨fun hfit => ⟨fun _ _ _ => hfit, fun _ h => absurd h (hother _ nofun),
        fun _ h => ?_⟩, fun h => h.passive hr hst hsyn⟩
      exact absurd h (not_or.2 ⟨hother _ nofun, hother _ nofun⟩)
    · rename_i hsyn
      refine iff_of_true rfl ⟨fun _ _ h => absurd h hsyn, fun _ h => absurd h (hother _ nofun),
        fun _ h => ?_⟩
      exact absurd h (not_or.2 ⟨hother _ nofun, hother _ nofun⟩)
  · refine iff_of_true (newPacketSynSent_linear e _ _ w) (.of_state ?_ ?_ ?_) <;>
      rw [hst] <;> exact nofun
  · have hclosed : w.conn.rdp.state ≠ .rdpClosed := by
      rcases hst with hst | hst <;> rw [hst] <;> exact nofun
    rw [newPacketOpen_linear e hr _ hst, hdata]
    exact ⟨fun h => ⟨fun _ hc => absurd hc hclosed, fun _ => h.1, fun _ _ => h.2⟩,
      fun h => ⟨h.again hr, h.data hr hst⟩⟩
  · refine iff_of_true (newPacketCloseWait_linear e _ _ w) (.of_state ?_ ?_ ?_) <;>
      rw [hst] <;> exact nofun

/-- A SYN without a copy leaves the packet with its caller. -/
theorem cspRdpSendCmp_some_hand (e : Env) (p : CspPacket) (f : RdpFlags) (s a : U16) (w : World) :
    Linear w {p.buf} (cspRdpSendCmp e (some p) f s a w).2
      (if (cspRdpSendCmp e (some p) f s a w).1 = .nomem then {p.buf} else 0) := by
  obtain ⟨hl, hres⟩ := cspRdpSendPacket_linear e p f s a w
  unfold cspRdpSendCmp
  simp only [hres]
  exact hl

/-- Without a packet, `csp_rdp_send_cmp` is linear if it has no SYN to copy or the copy
gets a buffer. -/
theorem cspRdpSendCmp_none_iff (e : Env) (f : RdpFlags) (s a : U16) (w : World) :
    Linear w 0 (cspRdpSendCmp e none f s a w).2 0 ↔ (f.syn = true → CopyFits e w.tick) := by
  rw [(cspRdpSendCmp_none_linear e f s a w).iff_lost]
  cases hf : f.syn with
  | false => exact iff_of_true (sendCmpLost_of_syn hf _) nofun
  | true =>
    rw [sendCmpLost_eq_zero hf]
    exact ⟨fun h _ => h, fun h => h rfl⟩

/-- **Where the buffers are lost.**  `csp_rdp_send_cmp` and `csp_rdp_new_packet` lose no
buffer, and put none into two places, exactly under these conditions;
`csp_rdp_check_timeouts` never does. -/
theorem rdp_linear_iff (e : Env) :
    (∀ p f s a w, Linear w {p.buf} (cspRdpSendCmp e (some p) f s a w).2
      (if (cspRdpSendCmp e (some p) f s a w).1 = .nomem then {p.buf} else 0)) ∧
    (∀ f s a w, Linear w 0 (cspRdpSendCmp e none f s a w).2 0 ↔
      (f.syn = true → CopyFits e w.tick)) ∧
    (∀ w, Linear w 0 (cspRdpCheckTimeouts e w) 0) ∧
    (∀ p w, Linear w {p.buf} (cspRdpNewPacket e p w) 0 ↔ KeepsBuffers e p w) :=
  ⟨cspRdpSendCmp_some_hand e, cspRdpSendCmp_none_iff e, cspRdpCheckTimeouts_linear e,
    cspRdpNewPacket_linear e⟩

/-- Surroundings in which nothing fails, except that the pool has one buffer left when
a SYN is answered. -/
def Env.lastBuffer : Env :=
  { Env.favourable .little with
    bufferGet := fun tick => if tick = 2 then some (.blank 0) else none }

/-- **A SYN for a fresh connection takes the last buffer of the pool**, and it is lost. -/
theorem rdp_not_linear : ¬ ∀ (e : Env) (p : CspPacket) (w : World),
    Linear w {p.buf} (cspRdpNewPacket e p w) 0 := by
  intro h
  have hkeeps := (cspRdpNewPacket_linear _ _ _).1
    (h .lastBuffer (segment .synOnly 100 0 (List.replicate 24 0)) Endpoint.fresh.world)
  exact hkeeps.passive (by decide) rfl (by decide) (by decide) (by decide)

end LibCSP
