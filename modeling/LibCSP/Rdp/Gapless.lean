/-
# The receiver delivers the longest row without a gap

`LibCSP.Rdp.Safety` says that the user gets a subsequence of what was sent, and
`LibCSP.Rdp.Reorder` what the reorder queue holds.  This module says what the receiver does with
any arrivals of numbered messages, early, late and more than once: it is a resequencer
(`LibCSP.Basis.Resequence`) with a window of `2 * window_size` messages.  `rcv_cur` counts the
messages in front of the first one missing, the user was given just these, and the reorder
queue holds what has come of the others (`run_resequences`).

So nothing that has come in the window has to come again: if each of the next
`2 * window_size` messages arrives, in whatever order, all of them are delivered.

What has to be ensured from outside is that the ACK numbers are acceptable, and that what a
packet releases fits into the user's queues (`Fits`).
-/

import LibCSP.Basis.Resequence
import LibCSP.Rdp.Reorder
import LibCSP.Rdp.Safety

namespace LibCSP

open Basis

/-! ### Calls that leave the reorder queue alone -/

/-- A calm call that at most rotates the reorder queue. -/
structure Steady (w w' : World) : Prop extends Calm w w' where
  reorder : w'.conn.rdp.rxQueue.items.Perm w.conn.rdp.rxQueue.items
  windowSize : w'.conn.rdp.windowSize = w.conn.rdp.windowSize
  opened : w.conn.rdp.state.Opened → w'.conn.rdp.state.Opened

namespace Steady

variable {w w' w'' : World}

/-- Nothing happens. -/
theorem refl (w : World) : Steady w w := ⟨.refl w, .refl _, rfl, id⟩

/-- One call after the other. -/
theorem trans (h₁ : Steady w w') (h₂ : Steady w' w'') : Steady w w'' :=
  ⟨h₁.toCalm.trans h₂.toCalm, h₂.reorder.trans h₁.reorder, h₂.windowSize.trans h₁.windowSize,
    h₂.opened ∘ h₁.opened⟩

/-- The facts that make a call steady. -/
theorem of_eq (hc : Calm w w') (hq : w'.conn.rdp.rxQueue = w.conn.rdp.rxQueue)
    (hw : w'.conn.rdp.windowSize = w.conn.rdp.windowSize)
    (hst : w.conn.rdp.state.Opened → w'.conn.rdp.state.Opened) : Steady w w' :=
  ⟨hc, by rw [hq], hw, hst⟩

/-- A steady call keeps what the reorder queue has. -/
theorem keeps (h : Steady w w') : Keeps w w' := h.toCalm.keeps h.windowSize

end Steady

/-- A quiet call is steady. -/
theorem Quiet.steady {w w' : World} (h : Quiet w w') : Steady w w' := by
  have hst : w'.conn.rdp.state = w.conn.rdp.state := congrArg Control.state h.control
  exact .of_eq h.toCalm (congrArg Inbound.reorder h.inbound) (congrArg Control.windowSize h.control)
    fun ho => hst ▸ ho

/-- Storing the ACK number is steady. -/
theorem storeAck_steady (h : RdpHeader) (w : World) : Steady w (storeAck h w) :=
  .of_eq (storeAck_calm h w) rfl rfl id

/-- Closing is steady where the reorder queue stays. -/
theorem Closes.steady {w w' : World} (h : Closes w w')
    (hq : w'.conn.rdp.rxQueue = w.conn.rdp.rxQueue) : Steady w w' := by
  obtain ⟨st, hst, hc⟩ := h.control
  refine .of_eq h.toCalm hq (congrArg Control.windowSize hc) fun ho => ?_
  rw [show w'.conn.rdp.state = st from congrArg Control.state hc]
  exact hst.opened ho

/-- `csp_close` sends a RESET first, and keeps the queues until that is done. -/
theorem cspClose_rxQueue {e : Env} {w : World} (hst : w.conn.rdp.state = .rdpOpen) :
    (cspClose e w).2.conn.rdp.rxQueue = w.conn.rdp.rxQueue := by
  unfold cspClose
  split
  · rfl
  · split
    · have hclose : cspRdpClose e w = (1, (cspRdpSendCmp e none .rstAck
          (enterCloseWait e w).conn.rdp.sndNxt (enterCloseWait e w).conn.rdp.rcvCur
          (enterCloseWait e w)).2) := by
        unfold cspRdpClose
        simp only [hst]
      rw [hclose]
      have hq : Quiet (enterCloseWait e w) _ := cspRdpSendCmp_none_quiet (e := e)
        (f := .rstAck) (s := (enterCloseWait e w).conn.rdp.sndNxt)
        (a := (enterCloseWait e w).conn.rdp.rcvCur) fun _ => rfl
      exact congrArg Inbound.reorder hq.inbound
    · rename_i hrdp
      rw [Bool.or_eq_true, not_or, Bool.not_eq_true] at hrdp
      unfold cspCloseNow
      split
      · simp only
        rw [if_neg (Bool.not_eq_true _ ▸ hrdp.1)]
        rfl
      · rfl

/-- `csp_close` of an open connection leaves the reorder queue as it is. -/
theorem cspClose_steady {e : Env} {w : World} (hst : w.conn.rdp.state = .rdpOpen) :
    Steady w (cspClose e w).2 := (cspClose_closes e w).steady (cspClose_rxQueue hst)

/-- So does a look at the timeouts. -/
theorem cspRdpCheckTimeouts_steady {e : Env} {w : World} (hst : w.conn.rdp.state = .rdpOpen) :
    Steady w (cspRdpCheckTimeouts e w) := by
  have hwake : ∀ v, Steady v (cspRdpWake v) := fun v => by
    unfold cspRdpWake
    split
    · exact .of_eq ⟨rfl, rfl, .refl _, fun _ hx => .refl hx, id, [], (List.append_nil _).symm,
        by simp⟩ rfl rfl id
    · exact .refl v
  have hnext : Steady w w.next := (Quiet.next w).steady
  unfold cspRdpCheckTimeouts
  simp only [cspGetMs, World.next_conn, hst, reduceCtorEq, if_false]
  split
  · exact hnext.trans (cspClose_steady hst)
  · exact hnext.trans (((cspRdpCheckMessages_quiet e _ _).steady.trans
      (cspRdpCheckAck_quiet e _).steady).trans (hwake _))

/-- `csp_read` touches the user's queues only. -/
theorem cspRead_steady (e : Env) (w : World) : Steady w (cspRead e w).2 := by
  obtain ⟨hcalm, hcontrol⟩ := cspRead_calm e w
  have hst : (cspRead e w).2.conn.rdp.state = w.conn.rdp.state := congrArg Control.state hcontrol
  refine .of_eq hcalm ?_ (congrArg Control.windowSize hcontrol) fun ho => hst ▸ ho
  unfold cspRead
  split
  · rfl
  · split
    · rfl
    · rename_i ev _
      obtain ⟨q, hq⟩ := readPacket_world { w with conn.rxEvent := ev }
      have hread : (readPacket { w with conn.rxEvent := ev }).2.conn.rdp.rxQueue =
          w.conn.rdp.rxQueue := by rw [hq]
      simp only
      split
      · exact (congrArg Inbound.reorder (cspRdpCheckAck_quiet e _).inbound).trans hread
      · exact hread

/-- The calls of an open end, but for a new `csp_rdp_connect`, and the worlds after them. -/
inductive OpenCall (e : Env) (s : Endpoint) : Input → World → Prop
  | packet (p : CspPacket) : OpenCall e s (.packet p) (cspRdpNewPacket e p s.world)
  | checkTimeouts : OpenCall e s .checkTimeouts (cspRdpCheckTimeouts e s.world)
  | checkAck : OpenCall e s .checkAck (cspRdpCheckAck e s.world)
  | read : OpenCall e s .read (cspRead e s.world).2
  | close : OpenCall e s .close (cspClose e s.world).2
  /-- `csp_send` once it need not wait, or need not wait any longer. -/
  | commit {i : Input} {p : CspPacket} {w : World} (hp : i = .send p ∨ s.task = .sendWait p)
      (hw : w = s.world ∨ w = txWaitTake s.world) : OpenCall e s i (cspSendCommit e p w)
  /-- The semaphore is taken, in `csp_rdp_send` or at the end of `csp_rdp_connect`. -/
  | take {i : Input} : OpenCall e s i (txWaitTake s.world)
  | none {i : Input} : OpenCall e s i s.world
  /-- `csp_rdp_connect` gives up. -/
  | giveUp {i : Input} : OpenCall e s i (connectError s.world).2

/-- **A step of an open end is one of these calls.** -/
theorem openCall {e : Env} {s t : Endpoint} {i : Input} (hopen : s.rdp.state = .rdpOpen)
    (hi : i.isConnect = false) (hst : step e s i = some t) : OpenCall e s i t.world := by
  obtain ⟨w, task⟩ := s
  cases step_stepped hst with
  | packet _ p => exact .packet p
  | checkTimeouts => exact .checkTimeouts
  | checkAck => exact .checkAck
  | read => exact .read
  | close => exact .close
  | send p =>
    unfold sendEnter
    split
    · exact .none
    · split
      · exact .take
      · exact .commit (.inl rfl) (.inl rfl)
  | sendWake p _ => exact .commit (.inr rfl) (.inr rfl)
  | sendTimeout => exact .none
  | connect => exact absurd hi (by decide)
  | connectWake retry _ =>
    have hdone : cspRdpConnectWoken e retry (txWaitTake w) = (some .none, txWaitTake w) := by
      have hstate : (txWaitTake w).conn.rdp.state = .rdpOpen := hopen
      simp only [cspRdpConnectWoken, hstate]
    rw [hdone]
    exact .take
  | connectTimeout retry => exact .giveUp

/-- The sender that goes on touches its semaphore only. -/
theorem txWaitTake_steady (w : World) : Steady w (txWaitTake w) :=
  .of_eq (txWaitTake_calm w) rfl rfl id

/-- **A call that is no packet** leaves the reorder queue alone, or takes a message from the
user. -/
theorem step_steady {e : Env} {s t : Endpoint} {i : Input} (hopen : s.rdp.state = .rdpOpen)
    (hi : i.isConnect = false) (hp : ∀ p, i ≠ .packet p) (hst : step e s i = some t) :
    Steady s.world t.world ∨ ∃ p w, Steady s.world w ∧ Sending e p w t.world := by
  have hcall := openCall hopen hi hst
  generalize t.world = w' at hcall
  cases hcall with
  | packet p => exact absurd rfl (hp p)
  | checkTimeouts => exact .inl (cspRdpCheckTimeouts_steady hopen)
  | checkAck => exact .inl (cspRdpCheckAck_quiet e s.world).steady
  | read => exact .inl (cspRead_steady e s.world)
  | close => exact .inl (cspClose_steady hopen)
  | @commit _ p w _ hw =>
    refine .inr ⟨p, w, ?_, cspSendCommit_sending e p w⟩
    rcases hw with rfl | rfl
    · exact .refl _
    · exact txWaitTake_steady _
  | take => exact .inl (txWaitTake_steady _)
  | none => exact .inl (.refl _)
  | giveUp =>
    have hclosed : Closes s.world (connectError s.world).2 :=
      .setState (.inl rfl) rfl rfl rfl rfl
    exact .inl (hclosed.steady rfl)

/-! ### One data packet -/

/-- The stored numbers. -/
def Rdp.storedSeqs (o : ByteOrder) (rdp : Rdp) : List U16 := rdp.rxQueue.items.map (hostSeq o)

/-- What is stored stays stored. -/
theorem Steady.storedSeqs {w w' : World} (h : Steady w w') (o : ByteOrder) :
    (w'.conn.rdp.storedSeqs o).Perm (w.conn.rdp.storedSeqs o) := h.reorder.map _

/-- The next of the numbers is not among those stored, so there is room for one more. -/
theorem Reordered.rxQueue_lt {o : ByteOrder} {rdp : Rdp} (h : Reordered o rdp)
    (hw : rdp.WindowFits) : rdp.rxQueue.items.length < cspRdpMaxWindow * 2 := by
  obtain ⟨hwait, hne⟩ := (reordered_iff hw).1 h
  obtain ⟨hpos, hle⟩ := hw
  unfold cspRdpMaxWindow at hle ⊢
  have hsub : rdp.storedSeqs o ⊆
      (numbersFrom (rdp.rcvCur + 1) (2 * rdp.windowSize.toNat - 1)) := by
    intro s hs
    obtain ⟨x, hx, rfl⟩ := List.mem_map.1 hs
    have hnext := hwait.next x hx
    have hnot := hne x hx
    rw [mem_numbersFrom (by omega)]
    unfold IsNext at hnext ⊢
    bv_omega
  have hlen := (h.distinct.subperm hsub).length_le
  unfold numbersFrom at hlen
  rw [List.length_map, List.length_map, List.length_range] at hlen
  omega

/-- **With room `csp_rdp_rx_queue_add` turns down only what is stored already.** -/
theorem cspRdpRxQueueAdd_stored {e : Env} {p : CspPacket} {seqNr : U16} {w : World}
    (hroom : w.conn.rdp.rxQueue.items.length < cspRdpMaxWindow * 2)
    (h : (cspRdpRxQueueAdd e p seqNr w).1 = false) : seqNr ∈ w.conn.rdp.storedSeqs e.host := by
  obtain ⟨hany, hperm⟩ := Queue.hasMatch_size
    (fun x => (cspRdpHeaderRef e.host x).seqNr == seqNr) w.conn.rdp.rxQueue
  unfold cspRdpRxQueueAdd cspRdpRxQueueExists at h
  simp only at h
  generalize Queue.hasMatch _ _ _ = r at hany hperm h
  cases hr : r.1 with
  | true =>
    rw [hr] at hany
    obtain ⟨x, hx, hs⟩ := List.any_eq_true.1 hany.symm
    exact List.mem_map.2 ⟨x, hx, beq_iff_eq.1 hs⟩
  | false =>
    simp only [hr, Bool.false_eq_true, if_false] at h
    cases hq : r.2.enqueue p with
    | none =>
      have hfull := Queue.enqueue_eq_none.1 hq
      change _ ≤ r.2.items.length at hfull
      rw [hperm.length_eq] at hfull
      omega
    | some q =>
      rw [hq] at h
      exact absurd h.symm Bool.false_ne_true

/-- **A packet that fits is received.** -/
theorem cspRdpReceiveData_fits {e : Env} {p : CspPacket} {w : World} (hu : w.conn.UserOk)
    (hhandle : HandleFits e w) (hroom : (w.conn.rxQueue (rxq p)).size < cspRxQueueLength) :
    (cspRdpReceiveData e p w).1 = true := by
  have hpost := postHandle_posted e w
  unfold cspRdpReceiveData
  simp only
  rw [postHandle_eq_true.2 hhandle, if_pos rfl]
  rcases cspConnEnqueuePacket_cases (hpost.user hu) (cspRdpHeaderRemove p) with ⟨h, -⟩ | ⟨-, hfull⟩
  · rw [h]
    rfl
  · rw [hpost.rxQueue] at hfull
    exact absurd hroom (Nat.not_lt.2 hfull)

/-- If the packet is in sequence, user space has the handle of the connection or gets it, and
the user's queues have room for the packet and for the stored packets that it releases. -/
def Fits (e : Env) (w : World) (p : CspPacket) : Prop :=
  (rxHeader e.host p).seqNr = w.conn.rdp.rcvCur + 1 → HandleFits e w ∧
    RoomFor w.conn (rxPacket e.host p :: successors e.host w.conn.rdp.rxQueue.items
      w.conn.rdp.rxQueue.items.length ((rxHeader e.host p).seqNr + 1))

/-- What a data packet in the window does to `rcv_cur` and the stored numbers. -/
inductive TakenIn (o : ByteOrder) (s : U16) (rdp rdp' : Rdp) : Prop
  /-- It comes too early and is stored. -/
  | stored (hne : s ≠ rdp.rcvCur + 1) (hcur : rdp'.rcvCur = rdp.rcvCur)
      (hseqs : (rdp'.storedSeqs o).Perm (s :: rdp.storedSeqs o))
  /-- It is stored already. -/
  | again (hne : s ≠ rdp.rcvCur + 1) (hmem : s ∈ rdp.storedSeqs o)
      (hcur : rdp'.rcvCur = rdp.rcvCur) (hseqs : (rdp'.storedSeqs o).Perm (rdp.storedSeqs o))
  /-- It comes in sequence, and the `n` numbers behind it are released, up to the next one
  missing. -/
  | released (n : ℕ) (hs : s = rdp.rcvCur + 1) (hn : n ≤ cspRdpMaxWindow * 2)
      (hcur : rdp'.rcvCur = s + BitVec.ofNat 16 n)
      (hmissing : s + BitVec.ofNat 16 n + 1 ∉ rdp.storedSeqs o)
      (hseqs : (numbersFrom s n ++ rdp'.storedSeqs o).Perm (rdp.storedSeqs o))

/-- A packet that was taken in stays so. -/
theorem TakenIn.steady {o : ByteOrder} {s : U16} {rdp : Rdp} {w w' : World}
    (h : TakenIn o s rdp w.conn.rdp) (hw : Steady w w') : TakenIn o s rdp w'.conn.rdp := by
  have hseqs := hw.storedSeqs o
  cases h with
  | stored hne hcur hs => exact .stored hne (hw.rcvCur.trans hcur) (hseqs.trans hs)
  | again hne hmem hcur hs => exact .again hne hmem (hw.rcvCur.trans hcur) (hseqs.trans hs)
  | released n hs hn hcur hmissing hseqs' =>
    exact .released n hs hn (hw.rcvCur.trans hcur) hmissing ((hseqs.append_left _).trans hseqs')

/-- **A data packet in the window is taken in.** -/
theorem newPacketData_takenIn {e : Env} {p : CspPacket} {w : World} (hu : w.conn.UserOk)
    (hre : Reordered e.host w.conn.rdp) (hw : w.conn.rdp.WindowFits) (hl : 5 ≤ p.length.toNat)
    (hfits : Fits e w p) : TakenIn e.host (rxHeader e.host p).seqNr w.conn.rdp
      (newPacketData e (rxHeader e.host p) (rxPacket e.host p) w).conn.rdp := by
  unfold newPacketData
  simp only
  split
  · rename_i hne
    rcases cspRdpRxQueueAdd_cases e (rxPacket e.host p) (rxHeader e.host p).seqNr w with
      ⟨hr, -, q, hq, hperm⟩ | ⟨hr, q, hq, hperm⟩
    · rw [hr, hq, if_pos rfl]
      have hstored : TakenIn e.host (rxHeader e.host p).seqNr w.conn.rdp
          (w.setReorder q).conn.rdp := by
        refine .stored hne rfl ?_
        rw [← hostSeq_rxPacket hl]
        exact hperm.map (hostSeq e.host)
      exact hstored.steady (cspRdpSendEack_quiet e _).steady
    · have hmem := cspRdpRxQueueAdd_stored (hre.rxQueue_lt hw) hr
      rw [hr, hq, if_neg Bool.false_ne_true]
      have hagain : TakenIn e.host (rxHeader e.host p).seqNr w.conn.rdp
          (w.setReorder q).conn.rdp := .again hne hmem rfl (hperm.map (hostSeq e.host))
      exact hagain.steady (discardOpen_quiet _ _).steady
  · rename_i hs
    obtain ⟨hhandle, hroom⟩ := hfits (not_not.1 hs)
    have hroom₁ : (w.conn.rxQueue (rxq (rxPacket e.host p))).size < cspRxQueueLength := by
      have hall := hroom (rxq (rxPacket e.host p))
      rw [List.filter_cons, if_pos (decide_eq_true rfl), List.length_cons] at hall
      omega
    rw [cspRdpReceiveData_fits hu hhandle hroom₁, if_pos rfl]
    have hrdp := cspRdpReceiveData_rdp e (rxPacket e.host p) w
    generalize (cspRdpReceiveData e (rxPacket e.host p) w).2 = w₁ at hrdp ⊢
    have hack := (dataAck_quiet e (rxPacket e.host p)
      { w₁ with conn.rdp.rcvCur := (rxHeader e.host p).seqNr }).inbound
    generalize dataAck e (rxPacket e.host p)
      { w₁ with conn.rdp.rcvCur := (rxHeader e.host p).seqNr } = w₂ at hack ⊢
    have hcur : w₂.conn.rdp.rcvCur = (rxHeader e.host p).seqNr := congrArg Inbound.rcvCur hack
    have hqueue : w₂.conn.rdp.rxQueue = w.conn.rdp.rxQueue :=
      (congrArg Inbound.reorder hack).trans (congrArg Rdp.rxQueue hrdp)
    obtain ⟨xs, hflushed, hrel⟩ := cspRdpRxQueueFlush_released e w₂
    have hrest := hrel.rest.map (hostSeq e.host)
    rw [List.map_append, hrel.ascending, hqueue, hcur] at hrest
    refine .released xs.length (not_not.1 hs) hflushed.length_le (by rw [hrel.rcvCur, hcur])
      (fun hmem => ?_) hrest
    -- one number more would have been released
    have hlonger : xs.length + 1 ≤ xs.length := hrel.greatest.2 fun s hsmem => by
      rw [numbersFrom_succ, List.mem_append, List.mem_singleton, hcur] at hsmem
      rw [hqueue]
      rcases hsmem with hsmem | rfl
      · exact hrest.subset (List.mem_append_left _ hsmem)
      · exact hmem
    omega

/-! ### The receiver is a resequencer -/

/-- The number of message `j`. -/
def messageSeq (irs : U16) (j : ℕ) : U16 := irs + 1 + BitVec.ofNat 16 j

/-- Messages have different numbers. -/
theorem messageSeq_inj {irs : U16} {j k : ℕ} (hj : j < 2 ^ 16) (hk : k < 2 ^ 16)
    (h : messageSeq irs j = messageSeq irs k) : j = k := by
  unfold messageSeq at h
  bv_omega

/-- The messages that the receiver has got are `got`: `rcv_cur` counts those in front of the
first one missing, and the others are stored. -/
structure Resequences (o : ByteOrder) (irs : U16) (msgs : List (List U8)) (got : Finset ℕ)
    (w : World) : Prop where
  receiver : Receiver o irs msgs w
  delivering : Delivering o irs w
  reordered : Reordered o w.conn.rdp
  fits : w.conn.rdp.WindowFits
  bound : ∀ j ∈ got, j < msgs.length
  next : w.conn.rdp.rcvCur = irs + BitVec.ofNat 16 (firstMissing got)
  held : ∀ j < msgs.length, firstMissing got ≤ j →
    (j ∈ got ↔ messageSeq irs j ∈ w.conn.rdp.storedSeqs o)

section Messages

variable {o : ByteOrder} {irs : U16} {msgs : List (List U8)} {got : Finset ℕ} {w w' : World}

/-- The first missing message is one of them, or the one behind them. -/
theorem firstMissing_le_length (h : ∀ j ∈ got, j < msgs.length) :
    firstMissing got ≤ msgs.length := by
  by_contra hlt
  exact Nat.lt_irrefl _ (h _ (mem_of_lt_firstMissing (Nat.lt_of_not_le hlt)))

/-- **What the user was given** is what comes in front of the first message missing. -/
theorem Resequences.delivered (h : Resequences o irs msgs got w) (hlt : msgs.length < 2 ^ 15) :
    LibCSP.delivered w.log = msgs.take (firstMissing got) := by
  have hle := firstMissing_le_length h.bound
  have hlen : (LibCSP.delivered w.log).length = (deliveries w.log).length := List.length_map ..
  have hcur := h.delivering.honest.rcvCur
  rw [← hlen, h.next] at hcur
  rcases h.receiver.order with hnil | ⟨j, hj, hcur', hsub⟩
  · rw [hnil, List.length_nil] at hcur
    have hzero : firstMissing got = 0 := by bv_omega
    rw [hnil, hzero, List.take_zero]
  · rw [h.next] at hcur'
    obtain rfl : firstMissing got = j := by bv_omega
    have hshort := hsub.length_le
    rw [List.length_take, Nat.min_eq_left hle] at hshort
    refine hsub.eq_of_length ?_
    rw [List.length_take, Nat.min_eq_left hle]
    bv_omega

/-- A stored number belongs to a message. -/
theorem Receiver.messageSeq_stored (h : Receiver o irs msgs w) {s : U16}
    (hs : s ∈ w.conn.rdp.storedSeqs o) : ∃ j < msgs.length, s = messageSeq irs j := by
  obtain ⟨x, hx, rfl⟩ := List.mem_map.1 hs
  obtain ⟨-, j, hj, hn⟩ := h.stored x hx
  exact ⟨j, (List.getElem?_eq_some_iff.1 hj).1, hn⟩

/-- **A steady call changes nothing.** -/
theorem Resequences.steady (h : Resequences o irs msgs got w) (hw : Steady w w') :
    Resequences o irs msgs got w' where
  receiver := h.receiver.calm hw.toCalm
  delivering := h.delivering.calm (hw.opened h.delivering.state) hw.toCalm
  reordered := h.reordered.keeps hw.keeps
  fits := hw.keeps.windowFits h.fits
  bound := h.bound
  next := hw.rcvCur.trans h.next
  held j hj hle := (h.held j hj hle).trans (hw.storedSeqs o).mem_iff.symm

/-- Events that deliver nothing and acknowledge `rcv_cur` stay honest. -/
theorem Honest.append {evs : List Event} (h : Honest o irs w) (hlog : w'.log = w.log ++ evs)
    (hcur : w'.conn.rdp.rcvCur = w.conn.rdp.rcvCur) (hnone : deliveries evs = [])
    (hack : ∀ q, Event.transmit q ∈ evs → 5 ≤ q.length.toNat → (wireHeader q).ack = true →
      (wireHeader q).ackNr = w.conn.rdp.rcvCur) : Honest o irs w' := by
  have hdel : deliveries w'.log = deliveries w.log := by
    rw [hlog, deliveries_append, hnone, List.append_nil]
  refine ⟨by rw [hdel]; exact h.delivered, by rw [hdel, hcur]; exact h.rcvCur, ?_⟩
  intro pre q post hl hlen ha
  rw [hlog] at hl
  rcases List.append_eq_append_iff.1 hl with ⟨l, hpre, hrest⟩ | ⟨l, hw, hrest⟩
  · -- `q` is among the new events, and nothing was delivered in front of it
    have hbefore : deliveries l = [] := by
      have hboth : deliveries l ++ deliveries (.transmit q :: post) = [] := by
        rw [← deliveries_append, ← hrest, hnone]
      exact (List.append_eq_nil_iff.1 hboth).1
    have hmem : Event.transmit q ∈ evs := by
      rw [hrest]
      exact List.mem_append_right _ List.mem_cons_self
    rw [hpre, deliveries_append, hbefore, List.append_nil, hack q hmem hlen ha, h.rcvCur]
  · cases l with
    | nil =>
      have hmem : Event.transmit q ∈ evs := by
        rw [List.nil_append] at hrest
        rw [← hrest]
        exact List.mem_cons_self
      rw [List.append_nil] at hw
      rw [← hw, hack q hmem hlen ha, h.rcvCur]
    | cons ev l =>
      rw [List.cons_append, List.cons.injEq] at hrest
      obtain ⟨rfl, -⟩ := hrest
      exact h.acked pre q l hw hlen ha

/-- What is taken from the user stays honest: its packet acknowledges `rcv_cur`. -/
theorem Honest.sending {e : Env} {p : CspPacket} (h : Honest o irs w) (hs : Sending e p w w') :
    Honest o irs w' := by
  cases hs with
  | refused hq => exact h.calm hq.toCalm
  | @sent c evs _ _ _ hevs hlog _ hinb =>
    refine h.append hlog (congrArg Inbound.rcvCur hinb) ?_ fun q hq hlen _ => ?_
    · rcases hevs with rfl | rfl <;> rfl
    · rcases hevs with rfl | rfl
      · simp at hq
      · obtain rfl : q = { txPacket e p w with id := w.conn.idout } := by simpa using hq
        have hroom : p.length.toNat + 5 < 2 ^ 16 := by
          change 5 ≤ (p.length + 5).toNat at hlen
          have := p.length.isLt
          bv_omega
        have hheader := wireHeader_add (o := e.host) hroom RdpFlags.ackOnly.byte
          w.conn.rdp.sndNxt w.conn.rdp.rcvCur
        exact congrArg RdpHeader.ackNr hheader

/-- **So does a message taken from the user.** -/
theorem Resequences.sending {e : Env} {p : CspPacket} (h : Resequences o irs msgs got w)
    (hs : Sending e p w w') : Resequences o irs msgs got w' := by
  have hhonest := h.delivering.honest.sending hs
  cases hs with
  | refused hq => exact h.steady hq.steady
  | @sent c evs hq hl hd hevs hlog hcontrol hinb =>
    have hreorder : w'.conn.rdp.rxQueue = w.conn.rdp.rxQueue := congrArg Inbound.reorder hinb
    have hstate : w'.conn.rdp.state = w.conn.rdp.state := congrArg Control.state hcontrol
    have hkeeps : Keeps w w' := .of_inbound hinb (congrArg Control.windowSize hcontrol)
    have hseqs : w'.conn.rdp.storedSeqs o = w.conn.rdp.storedSeqs o := by
      rw [Rdp.storedSeqs, hreorder, Rdp.storedSeqs]
    refine ⟨h.receiver.sending (.sent hq hl hd hevs hlog hcontrol hinb), ⟨?_, hhonest, ?_, ?_⟩,
      h.reordered.keeps hkeeps, hkeeps.windowFits h.fits, h.bound, hkeeps.rcvCur.trans h.next, ?_⟩
    · rw [hstate]
      exact h.delivering.state
    · exact userOk_of_inbound hinb h.delivering.user
    · unfold Distinct
      rw [hreorder]
      exact h.delivering.distinct
    · rw [hseqs]
      exact h.held

/-- **The sets that belong to what a data packet does.** -/
theorem TakenIn.accept {rdp' : Rdp} {window j : ℕ} (h : Resequences o irs msgs got w)
    (hlt : msgs.length < 2 ^ 15) (hj : j < msgs.length) (hfirst : firstMissing got ≤ j)
    (hwindow : j < firstMissing got + window)
    (ht : TakenIn o (messageSeq irs j) w.conn.rdp rdp') :
    rdp'.rcvCur = irs + BitVec.ofNat 16 (firstMissing (Basis.accept window got j)) ∧
      ∀ k < msgs.length, firstMissing (Basis.accept window got j) ≤ k →
        (k ∈ Basis.accept window got j ↔ messageSeq irs k ∈ rdp'.storedSeqs o) := by
  have hle := firstMissing_le_length h.bound
  have hnext := h.next
  have hsucc : messageSeq irs j = w.conn.rdp.rcvCur + 1 ↔ j = firstMissing got := by
    rw [hnext, messageSeq]
    constructor
    · intro hseq
      bv_omega
    · rintro rfl
      bv_omega
  rw [accept_of_lt hwindow]
  cases ht with
  | stored hne hcur hseqs =>
    rw [firstMissing_insert fun heq => hne (hsucc.2 heq)]
    refine ⟨hcur.trans hnext, fun k hk hmiss => ?_⟩
    rw [hseqs.mem_iff, List.mem_cons, Finset.mem_insert, h.held k hk hmiss]
    exact or_congr_left ⟨fun heq => heq ▸ rfl, fun heq =>
      messageSeq_inj (by omega) (by omega) heq⟩
  | again hne hmem hcur hseqs =>
    rw [Finset.insert_eq_of_mem ((h.held j hj hfirst).2 hmem)]
    exact ⟨hcur.trans hnext, fun k hk hmiss => (h.held k hk hmiss).trans hseqs.mem_iff.symm⟩
  | released n hs hn hcur hmissing hseqs =>
    have hjc := hsucc.1 hs
    unfold cspRdpMaxWindow at hn
    -- the numbers released are those of the next `n` messages
    have hrow : ∀ k < 2 ^ 15, messageSeq irs k ∈ numbersFrom (messageSeq irs j) n ↔
        j < k ∧ k ≤ j + n := fun k hk => by
      rw [mem_numbersFrom (by omega), IsNext]
      unfold messageSeq
      bv_omega
    have hrelease : ∀ k, j < k → k ≤ j + n → k < msgs.length ∧ k ∈ got := fun k hjk hkn => by
      have hmem : messageSeq irs k ∈ w.conn.rdp.storedSeqs o := by
        refine hseqs.subset (List.mem_append_left _ ?_)
        rw [mem_numbersFrom (by omega), IsNext]
        unfold messageSeq
        bv_omega
      obtain ⟨i, hi, hseq⟩ := h.receiver.messageSeq_stored hmem
      obtain rfl := messageSeq_inj (by omega) (by omega) hseq
      exact ⟨hi, (h.held k hi (by omega)).2 hmem⟩
    have hfirst' : firstMissing (insert j got) = j + n + 1 := by
      refine firstMissing_eq (fun hmem => ?_) fun k hk => Finset.mem_insert.2 ?_
      · have hmem' := (Finset.mem_insert.1 hmem).resolve_left (by omega)
        refine hmissing ?_
        rw [show messageSeq irs j + BitVec.ofNat 16 n + 1 = messageSeq irs (j + n + 1) by
          unfold messageSeq; bv_omega]
        exact (h.held _ (h.bound _ hmem') (by omega)).1 hmem'
      · rcases lt_trichotomy k j with hkj | hkj | hkj
        · exact .inr (mem_of_lt_firstMissing (hjc ▸ hkj))
        · exact .inl hkj
        · exact .inr (hrelease k hkj (by omega)).2
    rw [hfirst']
    refine ⟨?_, fun k hk hmiss => ?_⟩
    · rw [hcur, messageSeq]
      bv_omega
    · have hnot : messageSeq irs k ∉ numbersFrom (messageSeq irs j) n := fun hmem => by
        have := (hrow k (by omega)).1 hmem
        omega
      rw [Finset.mem_insert, h.held k hk (by omega), ← hseqs.mem_iff, List.mem_append]
      constructor
      · rintro (rfl | hmem)
        · omega
        · exact hmem.resolve_left hnot
      · exact fun hmem => .inr (.inr hmem)

end Messages

/-! ### Packets, steps and runs -/

/-- The flags of what an open connection sends: ACK, and neither SYN nor RST. -/
structure OpenSegment (e : Env) (p : CspPacket) : Prop where
  syn : (rxHeader e.host p).syn = false
  rst : (rxHeader e.host p).rst = false
  ack : (rxHeader e.host p).ack = true

/-- **A segment is a data packet that passes the checks, or changes nothing**; data is turned
down for one of its two numbers only. -/
theorem segment_cases {e : Env} {p : CspPacket} {w : World} (hst : w.conn.rdp.state = .rdpOpen)
    (hp : OpenSegment e p) : Acceptable e p w.conn.rdp ∨
      (Steady w (cspRdpNewPacket e p w) ∧
        (IsData p → w.conn.rdp.seqValid (rxHeader e.host p) = false ∨
          w.conn.rdp.ackValid (rxHeader e.host p) = false)) := by
  have hopen := cspRdpNewPacket_open (w := w) hp.rst (.inr hst)
  have hdiscard : ∀ v, Steady v (discardOpen (rxPacket e.host p) v) := fun v =>
    (discardOpen_quiet _ v).steady
  cases hseq : w.conn.rdp.seqValid (rxHeader e.host p) with
  | false =>
    refine .inr ⟨?_, fun _ => .inl rfl⟩
    rw [hopen]
    simp only [newPacketOpen, hp.syn, hp.ack, hseq, Bool.not_true, Bool.or_self,
      Bool.false_eq_true, if_false, Bool.not_false, if_true]
    rw [outsideWindow_open e hst]
    exact (cspRdpSendEack_quiet e w).steady.trans (hdiscard _)
  | true =>
    cases hack : w.conn.rdp.ackValid (rxHeader e.host p) with
    | false =>
      refine .inr ⟨?_, fun _ => .inr rfl⟩
      rw [hopen]
      simp only [newPacketOpen, hp.syn, hp.ack, hseq, hack, Bool.not_true, Bool.or_self,
        Bool.false_eq_true, if_false, Bool.not_false, if_true]
      exact hdiscard w
    | true =>
      have hpass := newPacketOpen_passes e (rxPacket e.host p)
        ⟨hp.syn, hp.ack, hseq, hack⟩ hst
      have hstore := storeAck_steady (rxHeader e.host p) w
      by_cases hlen : sizeofRdpHeader < p.length.toNat
      · cases heak : (rxHeader e.host p).eak with
        | false => exact .inl ⟨hp.rst, hp.syn, hp.ack, heak, hseq, hack, hlen⟩
        | true =>
          refine .inr ⟨?_, fun hd => ?_⟩
          · rw [hopen, hpass]
            unfold newPacketAcked
            simp only [heak, if_true]
            refine hstore.trans (Steady.trans ?_ (hdiscard _))
            split
            · exact (cspRdpFlushEack_quiet e _ _).steady
            · exact .refl _
          · rw [rxHeader_eq (Nat.le_of_lt hlen), hd.2.2.2] at heak
            exact absurd heak Bool.false_ne_true
      · refine .inr ⟨?_, fun hd => absurd hd.1 hlen⟩
        rw [hopen, hpass]
        unfold newPacketAcked
        simp only [length_rxPacket, hlen, if_false, Nat.not_lt.1 hlen, if_true]
        split <;> exact hstore.trans (hdiscard _)

section Steps

variable {e : Env} {irs : U16} {msgs : List (List U8)} {got : Finset ℕ} {w : World}

/-- The message that a data packet carries. -/
def messageIndex (irs : U16) (p : CspPacket) : ℕ := ((wireHeader p).seqNr - irs - 1).toNat

/-- The number of a packet and the message it carries. -/
theorem messageSeq_index (irs : U16) (p : CspPacket) :
    messageSeq irs (messageIndex irs p) = (wireHeader p).seqNr := by
  unfold messageSeq messageIndex
  bv_omega

/-- The messages that the data packets carry, in the order in which they come in. -/
def arrivals (irs : U16) (is : List Input) : List ℕ :=
  is.filterMap fun
    | .packet p => if IsData p then some (messageIndex irs p) else none
    | _ => none

/-- The number of a message is in the window of the receiver when the message is. -/
theorem Resequences.isNext_iff (h : Resequences e.host irs msgs got w)
    (hlt : msgs.length < 2 ^ 15) {j n : ℕ} (hj : j < msgs.length) (hn : n < 2 ^ 15) :
    IsNext n w.conn.rdp.rcvCur (messageSeq irs j) ↔
      firstMissing got ≤ j ∧ j < firstMissing got + n := by
  have hle := firstMissing_le_length h.bound
  rw [h.next, IsNext]
  unfold messageSeq
  bv_omega

/-- **The check of the sequence number** passes just the messages of the window. -/
theorem Resequences.seqValid_iff {p : CspPacket} (h : Resequences e.host irs msgs got w)
    (hlt : msgs.length < 2 ^ 15) (hl : 5 ≤ p.length.toNat)
    (hj : messageIndex irs p < msgs.length) :
    w.conn.rdp.seqValid (rxHeader e.host p) = true ↔
      firstMissing got ≤ messageIndex irs p ∧
        messageIndex irs p < firstMissing got + 2 * w.conn.rdp.windowSize.toNat := by
  have hpos := h.fits.1
  have hsmall : w.conn.rdp.windowSize.toNat ≤ 20 := h.fits.2
  rw [LibCSP.seqValid_iff, Nat.mod_eq_of_lt (by omega), rxHeader_eq hl, ← messageSeq_index irs p,
    h.isNext_iff hlt hj (by omega)]
  exact or_iff_right (by omega)

/-- **A data packet** with an acceptable ACK number, which fits, is an arrival of its message. -/
theorem Resequences.data {p : CspPacket} (h : Resequences e.host irs msgs got w)
    (hlt : msgs.length < 2 ^ 15) (hst : w.conn.rdp.state = .rdpOpen) (hp : OpenSegment e p)
    (hd : IsData p) (hmsg : msgs[messageIndex irs p]? = some (rdpPayload p))
    (hack : w.conn.rdp.ackValid (rxHeader e.host p) = true) (hfits : Fits e w p) :
    Resequences e.host irs msgs
      (Basis.accept (2 * w.conn.rdp.windowSize.toNat) got (messageIndex irs p))
        (cspRdpNewPacket e p w) := by
  have hl : 5 ≤ p.length.toNat := Nat.le_of_lt hd.1
  obtain ⟨hj, -⟩ := List.getElem?_eq_some_iff.1 hmsg
  have hseqNr : (rxHeader e.host p).seqNr = messageSeq irs (messageIndex irs p) := by
    rw [messageSeq_index, rxHeader_eq hl]
  have hvalid := h.seqValid_iff hlt hl hj
  rcases segment_cases hst hp with hacc | ⟨hsteady, hrefused⟩
  · obtain ⟨hfirst, hwindow⟩ := hvalid.1 hacc.seqNr
    have hcarries : Carries irs msgs p := fun _ =>
      ⟨messageIndex irs p, hmsg, (messageSeq_index irs p).symm⟩
    have hrec := h.receiver.received hlt hcarries (cspRdpNewPacket_received h.receiver.user
      (.inl hst))
    have hdel : Delivering e.host irs (cspRdpNewPacket e p w) :=
      h.delivering.packet (s := ⟨w, .idle⟩) ⟨hp.syn, hp.rst⟩
        fun _ _ _ hs _ _ => (hfits hs).2
    have hre := h.reordered.packet h.fits hp.syn
    have hwin := cspRdpNewPacket_windowSize w hp.syn
    rw [hacc.newPacket hst] at hrec hdel hre hwin ⊢
    have hstored := h.steady (storeAck_steady (rxHeader e.host p) w)
    have htaken := newPacketData_takenIn hstored.receiver.user hstored.reordered hstored.fits hl
      hfits
    rw [hseqNr] at htaken
    obtain ⟨hnext, hheld⟩ := htaken.accept hstored hlt hj hfirst hwindow
    refine ⟨hrec, hdel, hre, ?_, fun k hk => ?_, hnext, hheld⟩
    · unfold Rdp.WindowFits
      rw [hwin]
      exact h.fits
    · rcases mem_of_mem_accept hk with rfl | hk
      · exact hj
      · exact h.bound k hk
  · have hout : ¬(firstMissing got ≤ messageIndex irs p ∧
        messageIndex irs p < firstMissing got + 2 * w.conn.rdp.windowSize.toNat) := by
      rw [← hvalid, Bool.not_eq_true]
      exact (hrefused hd).resolve_right (by rw [hack]; decide)
    have hsame : Basis.accept (2 * w.conn.rdp.windowSize.toNat) got (messageIndex irs p) = got := by
      refine accept_eq_self ?_
      by_cases hfirst : firstMissing got ≤ messageIndex irs p
      · exact .inr (Nat.not_lt.1 fun hlt' => hout ⟨hfirst, hlt'⟩)
      · exact .inl (mem_of_lt_firstMissing (Nat.lt_of_not_le hfirst))
    rw [hsame]
    exact h.steady hsteady

/-- What comes to an open connection: the calls of its user, the router's look at its timeouts,
and segments.  Each data packet carries the message of its number, with an acceptable ACK
number, and what it releases fits. -/
structure Arriving (e : Env) (irs : U16) (msgs : List (List U8)) (s : Endpoint) (i : Input) :
    Prop where
  isOpen : s.rdp.state = .rdpOpen
  ongoing : i.isConnect = false
  segment : ∀ p, i = .packet p → OpenSegment e p
  data : ∀ p, i = .packet p → IsData p → msgs[messageIndex irs p]? = some (rdpPayload p) ∧
    s.rdp.ackValid (rxHeader e.host p) = true ∧ Fits e s.world p

/-- **A step is an arrival**, or changes nothing. -/
theorem Resequences.step {s t : Endpoint} {i : Input} (h : Resequences e.host irs msgs got s.world)
    (hlt : msgs.length < 2 ^ 15) (hi : Arriving e irs msgs s i)
    (hst : LibCSP.step e s i = some t) :
    Resequences e.host irs msgs
        (resequence (2 * s.rdp.windowSize.toNat) got (arrivals irs [i])) t.world ∧
      t.rdp.windowSize = s.rdp.windowSize := by
  by_cases hp : ∃ p, i = .packet p
  · obtain ⟨p, rfl⟩ := hp
    obtain rfl := Option.some.inj hst
    have hsegment := hi.segment p rfl
    have hwin := cspRdpNewPacket_windowSize s.world hsegment.syn
    by_cases hd : IsData p
    · obtain ⟨hmsg, hack, hfits⟩ := hi.data p rfl hd
      have harrive : arrivals irs [.packet p] = [messageIndex irs p] := by
        unfold arrivals
        simp only [List.filterMap_cons, List.filterMap_nil, hd, if_true]
      rw [harrive]
      exact ⟨h.data hlt hi.isOpen hsegment hd hmsg hack hfits, hwin⟩
    · have hnone : arrivals irs [.packet p] = [] := by
        unfold arrivals
        simp only [List.filterMap_cons, List.filterMap_nil, hd, if_false]
      rw [hnone]
      rcases segment_cases hi.isOpen hsegment with hacc | ⟨hsteady, -⟩
      · exact absurd (isData_of_checks hacc.length hacc.syn hacc.rst hacc.eak) hd
      · exact ⟨h.steady hsteady, hwin⟩
  · have hnone : arrivals irs [i] = [] := by
      cases i with
      | packet p => exact absurd ⟨p, rfl⟩ hp
      | _ => rfl
    rw [hnone]
    rcases step_steady hi.isOpen hi.ongoing (fun p heq => hp ⟨p, heq⟩) hst with
      hs | ⟨p, w, hs, hsend⟩
    · exact ⟨h.steady hs, hs.windowSize⟩
    · refine ⟨(h.steady hs).sending hsend, ?_⟩
      have hctl := hs.windowSize
      cases hsend with
      | refused hq => exact (congrArg Control.windowSize hq.control).trans hctl
      | sent _ _ _ _ _ hc _ => exact (congrArg Control.windowSize hc).trans hctl

/-- **All arrivals of a run.** -/
theorem Resequences.run {s t : Endpoint} {is : List Input}
    (h : Resequences e.host irs msgs got s.world) (hlt : msgs.length < 2 ^ 15)
    (hrun : Run (LibCSP.step e) (Arriving e irs msgs) s is t) :
    Resequences e.host irs msgs
        (resequence (2 * s.rdp.windowSize.toNat) got (arrivals irs is)) t.world ∧
      t.rdp.windowSize = s.rdp.windowSize := by
  induction hrun with
  | nil => exact ⟨h, rfl⟩
  | @snoc is t u i _ hi hst ih =>
    obtain ⟨ht, hwin⟩ := ih
    obtain ⟨hu, hwin'⟩ := ht.step hlt hi hst
    rw [hwin] at hu hwin'
    refine ⟨?_, hwin'⟩
    have happend : arrivals irs (is ++ [i]) = arrivals irs is ++ arrivals irs [i] :=
      List.filterMap_append ..
    rw [happend, resequence_append]
    exact hu

end Steps

/-- Of these inputs, the messages that a connection with this window takes in. -/
def Rdp.gets (rdp : Rdp) (is : List Input) : Finset ℕ :=
  resequence (2 * rdp.windowSize.toNat) ∅ (arrivals rdp.rcvIrs is)

/-- **A connection that has just become open** has received nothing. -/
theorem JustOpen.resequences {o : ByteOrder} {s : Endpoint} (h : JustOpen o s)
    (hempty : s.rdp.rxQueue.items = []) (hw : s.rdp.WindowFits) (msgs : List (List U8)) :
    Resequences o s.rdp.rcvIrs msgs ∅ s.world where
  receiver := by
    refine ⟨fun p hp => ?_, .inl ?_, h.user⟩
    · change p ∈ s.rdp.rxQueue.items at hp
      rw [hempty] at hp
      exact absurd hp List.not_mem_nil
    · rw [h.log]
      rfl
  delivering := h.delivering
  reordered := reordered_nil hempty
  fits := hw
  bound _ hj := absurd hj (Finset.notMem_empty _)
  next := by
    rw [firstMissing_empty]
    exact h.rcvCur.trans (BitVec.add_zero _).symm
  held j _ _ := by
    refine iff_of_false (Finset.notMem_empty j) ?_
    change messageSeq s.rdp.rcvIrs j ∉ s.rdp.rxQueue.items.map (hostSeq o)
    rw [hempty]
    exact List.not_mem_nil

/-- **The receiver delivers the longest row without a gap.**  From a connection that has just
become open, whatever comes in whatever order and however often: what the user was given are
the messages in front of the first one that has not come in the window, `rcv_cur` is their
number, and of the others the reorder queue holds those that have come.  So everything is
delivered when all messages have come, in any order if they fit into one window, and else in
order at least once. -/
theorem run_resequences {e : Env} {s t : Endpoint} {is : List Input} {msgs : List (List U8)}
    (h : JustOpen e.host s) (hempty : s.rdp.rxQueue.items = []) (hw : s.rdp.WindowFits)
    (hlt : msgs.length < 2 ^ 15)
    (hrun : Run (step e) (Arriving e s.rdp.rcvIrs msgs) s is t) :
    delivered t.world.log = msgs.take (firstMissing (s.rdp.gets is)) ∧
      t.rdp.rcvCur = s.rdp.rcvIrs + BitVec.ofNat 16 (firstMissing (s.rdp.gets is)) ∧
      (∀ j < msgs.length, firstMissing (s.rdp.gets is) ≤ j →
        (j ∈ s.rdp.gets is ↔ messageSeq s.rdp.rcvIrs j ∈ t.rdp.storedSeqs e.host)) ∧
      ((msgs.length ≤ 2 * s.rdp.windowSize.toNat ∧
            ∀ j < msgs.length, j ∈ arrivals s.rdp.rcvIrs is) ∨
          (List.range msgs.length).Sublist (arrivals s.rdp.rcvIrs is) →
        delivered t.world.log = msgs) := by
  have ht := ((h.resequences hempty hw msgs).run hlt hrun).1
  refine ⟨ht.delivered hlt, ht.next, ht.held, fun hall => ?_⟩
  have hlen : msgs.length ≤ firstMissing (s.rdp.gets is) := by
    rcases hall with ⟨hfit, hmem⟩ | hsub
    · refine le_firstMissing_of_mem ?_ fun k hk => .inr (hmem k hk)
      rwa [firstMissing_empty, Nat.zero_add]
    · rw [List.range_eq_range'] at hsub
      have hrow : 0 + msgs.length ≤ firstMissing (s.rdp.gets is) :=
        le_firstMissing_of_sublist (Nat.mul_pos two_pos hw.1) (Nat.zero_le _) hsub
      rwa [Nat.zero_add] at hrow
  exact (ht.delivered hlt).trans (List.take_of_length_le hlen)

instance (e : Env) (p : CspPacket) : Decidable (OpenSegment e p) :=
  decidable_of_iff ((rxHeader e.host p).syn = false ∧ (rxHeader e.host p).rst = false ∧
    (rxHeader e.host p).ack = true) ⟨fun h => ⟨h.1, h.2.1, h.2.2⟩, fun h => ⟨h.1, h.2, h.3⟩⟩

instance (e : Env) (w : World) (p : CspPacket) : Decidable (Fits e w p) :=
  inferInstanceAs (Decidable (_ → (_ ∨ _) ∧ RoomFor _ _))

instance (e : Env) (irs : U16) (msgs : List (List U8)) (s : Endpoint) :
    (i : Input) → Decidable (Arriving e irs msgs s i)
  | .packet p => decidable_of_iff (s.rdp.state = .rdpOpen ∧ OpenSegment e p ∧
      (IsData p → msgs[messageIndex irs p]? = some (rdpPayload p) ∧
        s.rdp.ackValid (rxHeader e.host p) = true ∧ Fits e s.world p))
    ⟨fun h => ⟨h.1, rfl, fun _ hq => Input.packet.inj hq ▸ h.2.1,
      fun _ hq => Input.packet.inj hq ▸ h.2.2⟩,
      fun h => ⟨h.isOpen, h.segment p rfl, h.data p rfl⟩⟩
  | .connect => isFalse fun h => absurd h.ongoing (by decide)
  | .checkTimeouts | .checkAck | .read | .send _ | .sendWake | .sendTimeout | .connectWake
  | .connectTimeout | .close => decidable_of_iff (s.rdp.state = .rdpOpen)
    ⟨fun h => ⟨h, rfl, nofun, nofun⟩, fun h => h.isOpen⟩

/-- The third of three messages comes first, the first one twice, and the second one last. -/
theorem run_resequences_three : ∃ t, Run (step (.favourable .little))
    (Arriving (.favourable .little) 200 [[1], [2, 2], [3]]) (.opened 100 200 4)
    [.packet (segment .ackOnly 203 100 [3]), .packet (segment .ackOnly 201 100 [1]), .read,
      .packet (segment .ackOnly 201 100 [1]), .packet (segment .ackOnly 202 100 [2, 2])] t ∧
    delivered t.world.log = [[1], [2, 2], [3]] := by
  have hrun : ∃ t, Run (step (.favourable .little))
      (Arriving (.favourable .little) 200 [[1], [2, 2], [3]]) (.opened 100 200 4)
      [.packet (segment .ackOnly 203 100 [3]), .packet (segment .ackOnly 201 100 [1]), .read,
        .packet (segment .ackOnly 201 100 [1]), .packet (segment .ackOnly 202 100 [2, 2])] t ∧
      true = true := Run.of_any (by decide +kernel)
  obtain ⟨t, hrun, -⟩ := hrun
  have hw : (Endpoint.opened 100 200 4).rdp.WindowFits := by
    unfold Rdp.WindowFits
    decide
  have hlt : [[1], [2, 2], [3]].length < 2 ^ 15 := by decide
  obtain ⟨-, -, -, hall⟩ := run_resequences justOpen_opened rfl hw hlt hrun
  refine ⟨t, hrun, hall (.inl ⟨by decide, ?_⟩)⟩
  decide +kernel

end LibCSP
