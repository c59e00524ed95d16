/-
# Retention in the retransmit queue

Every copy for which `csp_rdp_send` returned `CSP_ERR_NONE` is in the retransmit
queue, or in the hand of the router, or was freed because it was acknowledged,
listed in an EACK, or flushed by `csp_close`.  `Accounted` says so with a count
for every copy, known by its buffer, its number and its payload, which the loops
never change.  A call that is no `csp_close` may not take an element out of the
queue: one that is taken out is marked with the states of the connection before and
after the call, and only the mark of a call that closed the connection is justified.

The router puts an element back without looking whether that worked.  The dequeue
has made room for it, but the user may have taken that room meanwhile, and then
the element is lost (`requeue_loses_unacked`); as long as the queue has room at
every requeue nothing is (`run_retention`).
-/

import LibCSP.Rdp.Shell
import LibCSP.Rdp.Tasks

namespace LibCSP

open Basis

/-! ### Calls that do not rotate the queue -/

/-- The call queued at most something behind the elements. -/
def Grows (w w' : World) : Prop := w.conn.rdp.txQueue.items <+: w'.conn.rdp.txQueue.items

/-- The call found the connection open and closed it. -/
def ClosesConn (w w' : World) : Prop :=
  w.conn.state = .connOpen ∧ w'.conn.state = .connClosed

/-- The call kept the elements, or closed the connection and emptied the queue. -/
def Spares (w w' : World) : Prop :=
  Grows w w' ∨ w'.conn.rdp.txQueue.items = [] ∧ ClosesConn w w'

/-- Nothing happens. -/
theorem Grows.refl (w : World) : Grows w w := List.prefix_rfl

/-- A call that leaves the queue alone. -/
theorem Grows.of_eq {w w' : World} (h : w'.conn.rdp.txQueue = w.conn.rdp.txQueue) : Grows w w' := by
  rw [Grows, h]

/-- One call after the other. -/
theorem Grows.trans {w w' w'' : World} (h₁ : Grows w w') (h₂ : Grows w' w'') : Grows w w'' :=
  List.IsPrefix.trans h₁ h₂

/-- Before a call that spares the queue there may be one that lets it grow and leaves
the connection as open as it was. -/
theorem Grows.spares {w w' w'' : World} (h₁ : Grows w w') (hst : w'.conn.state = w.conn.state)
    (h₂ : Spares w' w'') : Spares w w'' := by
  rcases h₂ with h₂ | ⟨hempty, hopen, hclosed⟩
  · exact .inl (h₁.trans h₂)
  · exact .inr ⟨hempty, hst ▸ hopen, hclosed⟩

/-- An inert call leaves the connection as open as it was. -/
theorem Inert.conn_state {w w' : World} (h : Inert w w') : w'.conn.state = w.conn.state :=
  congrArg Shell.state h.shell

/-- A copy is put at the end, or freed. -/
theorem cspRdpRetain_grows (c : CspPacket) (w : World) : Grows w (cspRdpRetain c w) := by
  unfold cspRdpRetain
  cases hq : w.conn.rdp.txQueue.enqueue c with
  | none => exact .refl w
  | some q => exact ⟨[c], (Queue.enqueue_eq_some.1 hq).2.symm⟩

/-- Sending a packet at once leaves the queue alone. -/
theorem cspRdpSendNow_grows (e : Env) (p : CspPacket) (f : RdpFlags) (a : U16) (w : World) :
    Grows w (cspRdpSendNow e p f a w).2 := by
  rcases cspRdpSendNow_cases e p f a w with ⟨-, -, now, h⟩ | ⟨-, -, h⟩ | ⟨-, h⟩ <;> rw [h] <;>
    exact .refl w

/-- Sending a segment puts its copy at the end. -/
theorem cspRdpSendCmp_grows (e : Env) (p : Option CspPacket) (f : RdpFlags) (s a : U16)
    (w : World) : Grows w (cspRdpSendCmp e p f s a w).2 := by
  have hpacket : ∀ p w, Grows w (cspRdpSendPacket e p f s a w).2 := fun p w => by
    rcases cspRdpSendPacket_cases e p f s a w with h | ⟨tx, -, h | ⟨buf, t, h⟩⟩
    · rw [h]
      exact .refl w
    · rw [h]
      exact cspRdpSendNow_grows e tx f a w
    · rw [h]
      exact (cspRdpRetain_grows _ (w.next.emit (.alloc buf)).next).trans
        (cspRdpSendNow_grows e tx f a _)
  cases p with
  | some p => exact hpacket p w
  | none =>
    rcases cspRdpSendCmp_none_cases e f s a w with hb | ⟨b, hb⟩
    · rw [hb]
      exact .refl w
    · rw [hb]
      exact hpacket _ (w.next.emit (.alloc b.buf))

/-- So does sending an EACK. -/
theorem cspRdpSendEack_grows (e : Env) (w : World) : Grows w (cspRdpSendEack e w).2 := by
  rcases cspRdpSendEack_cases e w with hb | ⟨b, hb⟩
  · rw [hb]
    exact .refl w
  · rw [hb]
    refine Grows.trans ?_ (cspRdpSendCmp_grows e _ _ _ _ _)
    exact .of_eq rfl

/-- The question whether to acknowledge leaves the queue alone. -/
theorem cspRdpShouldAck_txQueue (e : Env) (w : World) :
    (cspRdpShouldAck e w).2.conn.rdp.txQueue = w.conn.rdp.txQueue := by
  unfold cspRdpShouldAck
  split <;> rfl

/-- The delayed ACK puts nothing but a copy in. -/
theorem cspRdpCheckAck_grows (e : Env) (w : World) : Grows w (cspRdpCheckAck e w) := by
  have hshould : Grows w (cspRdpShouldAck e w).2 := .of_eq (cspRdpShouldAck_txQueue e w)
  unfold cspRdpCheckAck
  split
  · split
    · simp only
      split
      · exact hshould.trans (cspRdpSendCmp_grows e _ _ _ _ _)
      · exact hshould
    · exact .refl w
  · exact .refl w

/-- Waking the sender leaves the queue alone. -/
theorem cspRdpWake_grows (w : World) : Grows w (cspRdpWake w) := by
  unfold cspRdpWake
  split <;> exact .refl w

/-- So does `csp_read`. -/
theorem cspRead_grows (e : Env) (w : World) : Grows w (cspRead e w).2 := by
  have hpacket : ∀ w, Grows w (readPacket w).2 := fun w => by
    obtain ⟨q, h⟩ := readPacket_world w
    rw [h]
    exact .of_eq rfl
  unfold cspRead
  split
  · exact .refl w
  · split
    · exact .refl w
    · rename_i ev _
      have hev : Grows w { w with conn.rxEvent := ev } := .of_eq rfl
      have hread := hev.trans (hpacket _)
      simp only
      split
      · exact hread.trans (cspRdpCheckAck_grows e _)
      · exact hread

/-- `csp_close` past `csp_rdp_close` empties the queue only where it closes. -/
theorem cspCloseNow_spares (e : Env) {w : World} (hopen : w.conn.state = .connOpen) :
    Spares w (cspCloseNow e w).2 := by
  unfold cspCloseNow
  split
  · simp only
    split
    · exact .inr ⟨rfl, hopen, rfl⟩
    · exact .inl (.of_eq rfl)
  · exact .inl (.refl w)

/-- `csp_rdp_close` flushes nothing, and the connection stays open. -/
theorem cspRdpClose_grows (e : Env) (w : World) :
    Grows w (cspRdpClose e w).2 ∧ (cspRdpClose e w).2.conn.state = w.conn.state := by
  unfold cspRdpClose
  split
  · exact ⟨.refl w, rfl⟩
  · exact ⟨.of_eq rfl, rfl⟩
  · refine ⟨Grows.trans (.of_eq rfl) (cspRdpSendCmp_grows e _ _ _ _ (enterCloseWait e w)), ?_⟩
    exact (cspRdpSendCmp_inert e _ _ _ _ (enterCloseWait e w)).conn_state

/-- **`csp_close` spares the queue until it closes the connection.** -/
theorem cspClose_spares (e : Env) (w : World) : Spares w (cspClose e w).2 := by
  obtain ⟨hgrows, hstate⟩ := cspRdpClose_grows e w
  unfold cspClose
  split
  · exact .inl (.refl w)
  · rename_i hclosed
    have hopen : w.conn.state = .connOpen := by
      cases hst : w.conn.state with
      | connOpen => rfl
      | connClosed => exact absurd hst hclosed
    split
    · simp only
      split
      · exact .inl hgrows
      · exact hgrows.spares hstate (cspCloseNow_spares e (hstate.trans hopen))
    · exact cspCloseNow_spares e hopen

/-- `discard_close` spares the queue, or closes the connection. -/
theorem discardClose_spares (e : Env) (p : CspPacket) (w : World) :
    Spares w (discardClose e p w) := by
  unfold discardClose
  split
  · exact .inl (.refl w)
  · exact cspClose_spares e w

/-- So does RST. -/
theorem newPacketRst_spares (e : Env) (h : RdpHeader) (p : CspPacket) (w : World) :
    Spares w (newPacketRst e h p w) := by
  have hack : Grows w (if h.ack then storeAck h w else w) := by
    split <;> exact .of_eq rfl
  have hstate : (if h.ack then storeAck h w else w).conn.state = w.conn.state := by
    split <;> rfl
  unfold newPacketRst
  refine hack.spares hstate ?_
  generalize (if h.ack then storeAck h w else w) = w₁
  simp only
  split
  · exact cspClose_spares e (w₁.free p)
  · split
    · refine Grows.spares ?_ ?_ (discardClose_spares e p _)
      · exact Grows.trans (.of_eq rfl) (cspRdpSendCmp_grows e _ _ _ _ (enterCloseWait e w₁))
      · exact (cspRdpSendCmp_inert e _ _ _ _ (enterCloseWait e w₁)).conn_state
    · exact .inl (.of_eq rfl)

/-- So does a packet in `RDP_CLOSED`. -/
theorem newPacketClosed_spares (e : Env) (h : RdpHeader) (p : CspPacket) (w : World) :
    Spares w (newPacketClosed e h p w) := by
  unfold newPacketClosed
  split
  · have hopen : Grows w (passiveOpen e h p w) := .of_eq rfl
    exact .inl (hopen.trans (cspRdpSendCmp_grows e _ _ _ _ (passiveOpen e h p w)))
  · exact (cspRdpSendCmp_grows e _ _ _ _ w).spares (cspRdpSendCmp_inert e _ _ _ _ w).conn_state
      (discardClose_spares e p _)

/-- So does a packet in `RDP_SYN_SENT`. -/
theorem newPacketSynSent_spares (e : Env) (h : RdpHeader) (p : CspPacket) (w : World) :
    Spares w (newPacketSynSent e h p w) := by
  unfold newPacketSynSent
  split
  · have hopen : Grows w (activeOpen e h w) := .of_eq rfl
    refine .inl (hopen.trans ?_)
    unfold synSentAck
    split
    · exact cspRdpSendCmp_grows e _ _ _ _ (activeOpen e h w)
    · exact .of_eq rfl
  · split
    · exact .inl (cspRdpSendCmp_grows e _ _ _ _ w)
    · exact discardClose_spares e p w

/-- In `RDP_CLOSE_WAIT` nothing leaves the queue. -/
theorem newPacketCloseWait_grows (e : Env) (h : RdpHeader) (p : CspPacket) (w : World) :
    Grows w (newPacketCloseWait e h p w) := by
  rcases newPacketCloseWait_cases e h p w with hw | ⟨-, -, -, hw⟩
  · rw [hw]
    exact .of_eq rfl
  · rw [hw]
    have hack : Grows w (storeAck h w) := .of_eq rfl
    exact hack.trans (cspRdpSendCmp_grows e _ _ _ _ (storeAck h w))

/-- A packet outside the window takes nothing out. -/
theorem outsideWindow_grows (e : Env) (w : World) : Grows w (outsideWindow e w) :=
  outsideWindow_induct (P := Grows w) (.refl w) (cspRdpSendCmp_grows e _ _ _ _ w)
    fun w₁ h => h.trans (cspRdpSendEack_grows e w₁)

/-- Nor does a data packet. -/
theorem newPacketData_grows (e : Env) (h : RdpHeader) (p : CspPacket) (w : World) :
    Grows w (newPacketData e h p w) := by
  have hdata : ∀ w, Grows w (dataAck e p w) := fun w => by
    have hshould : Grows w (cspRdpShouldAck e w).2 := .of_eq (cspRdpShouldAck_txQueue e w)
    unfold dataAck
    split
    · simp only
      split
      · exact hshould.trans (cspRdpSendCmp_grows e _ _ _ _ _)
      · exact hshould
    · exact .refl w
  have hflush : ∀ n w, Grows w (flushRounds e n w) := fun n w => by
    refine flushRounds_induct (P := Grows w) (fun w₁ w₂ hw hr => ?_) n (.refl w)
    obtain ⟨-, x, -, q, -, -, -, -, rfl⟩ := flushRound_cases hr
    refine hw.trans (.of_eq ?_)
    show (cspRdpReceiveData e x (w₁.setReorder q)).2.conn.rdp.txQueue = _
    rw [cspRdpReceiveData_rdp]
    rfl
  unfold newPacketData
  split
  · have hadd : Grows w (cspRdpRxQueueAdd e p h.seqNr w).2 := by
      rcases cspRdpRxQueueAdd_cases e p h.seqNr w with ⟨-, -, q, hq, -⟩ | ⟨-, q, hq, -⟩ <;>
        rw [hq] <;> exact .of_eq rfl
    simp only
    split
    · exact hadd.trans (cspRdpSendEack_grows e _)
    · exact hadd
  · have hrecv : Grows w (cspRdpReceiveData e p w).2 := .of_eq (by rw [cspRdpReceiveData_rdp])
    simp only
    split
    · have hcur : Grows w ((cspRdpReceiveData e p w).2.setRcvCur h.seqNr) :=
        hrecv.trans (.of_eq rfl)
      exact hcur.trans ((hdata _).trans (hflush _ _))
    · exact hrecv

/-- Nor does one that is no EACK, or an EACK without a list. -/
theorem newPacketAcked_grows {e : Env} {h : RdpHeader} {p : CspPacket}
    (hp : h.eak = true → p.length.toNat ≤ sizeofRdpHeader) (w : World) :
    Grows w (newPacketAcked e h p w) := by
  have hack : Grows w (storeAck h w) := .of_eq rfl
  unfold newPacketAcked
  simp only
  split
  · rename_i heak
    rw [if_neg (Nat.not_lt.2 (hp heak))]
    exact hack
  · split
    · exact hack
    · exact hack.trans (newPacketData_grows e h p (storeAck h w))

/-- **A packet that does not come to `csp_rdp_flush_eack` spares the queue.** -/
theorem cspRdpNewPacket_spares {e : Env} {p : CspPacket} {w : World}
    (h : flushesEack e p w = false) : Spares w (cspRdpNewPacket e p w) := by
  have hopen : w.conn.rdp.state = .rdpSynRcvd ∨ w.conn.rdp.state = .rdpOpen →
      (rxHeader e.host p).rst = false →
        Spares w (newPacketOpen e (rxHeader e.host p) (rxPacket e.host p) w) := by
    intro hst hrst
    have hshort : w.conn.rdp.Passes (rxHeader e.host p) →
        w.conn.rdp.state = .rdpOpen ∨ (rxHeader e.host p).ackNr = w.conn.rdp.sndIss →
          (rxHeader e.host p).eak = true →
            (rxPacket e.host p).length.toNat ≤ sizeofRdpHeader := by
      intro hp hiss heak
      rw [length_rxPacket]
      simpa only [flushesEack, hrst, hst, hp.syn, hp.ack, hp.seqNr, hp.ackNr, hiss, heak,
        Bool.not_false, Bool.true_and, Bool.and_true, ← Bool.decide_or, decide_true,
        decide_eq_false_iff_not, Nat.not_lt] using h
    refine newPacketOpen_induct (P := Spares w) (discardClose_spares e _ w) (.inl (.of_eq rfl))
      (.inl (outsideWindow_grows e w)) (fun hp _ hn => ?_) fun hp hst' => ?_
    · have hset : Grows w { w with conn.rdp.state := .rdpOpen } := .of_eq rfl
      exact .inl (hset.trans (newPacketAcked_grows (hshort hp (.inr hn)) _))
    · exact .inl (newPacketAcked_grows (hshort hp (.inl (hst.resolve_left hst'))) w)
  exact cspRdpNewPacket_induct (P := Spares w) (fun _ => newPacketRst_spares e _ _ w)
    (fun _ _ => newPacketClosed_spares e _ _ w) (fun _ _ => newPacketSynSent_spares e _ _ w)
    (fun hrst hst => hopen hst hrst) fun _ _ => .inl (newPacketCloseWait_grows e _ _ w)

/-! ### Copies -/

/-- What the loops never change of an element: its buffer, its number and its payload. -/
def CspPacket.key (o : ByteOrder) (p : CspPacket) : ℕ × U16 × List U8 :=
  (p.buf, hton16 o (cspRdpHeaderRef o p).seqNr, rdpPayload p)

/-- How often a copy with this key is in the list. -/
def copies (o : ByteOrder) (k : ℕ × U16 × List U8) (l : List CspPacket) : ℕ :=
  l.countP fun p => p.key o = k

/-- No copies in nothing. -/
@[simp] theorem copies_nil (o : ByteOrder) (k : ℕ × U16 × List U8) : copies o k [] = 0 := rfl

/-- The copies in two lists. -/
@[simp] theorem copies_append (o : ByteOrder) (k : ℕ × U16 × List U8) (l₁ l₂ : List CspPacket) :
    copies o k (l₁ ++ l₂) = copies o k l₁ + copies o k l₂ := List.countP_append

/-- The first one and the others. -/
theorem copies_cons (o : ByteOrder) (k : ℕ × U16 × List U8) (x : CspPacket) (l : List CspPacket) :
    copies o k (x :: l) = copies o k [x] + copies o k l := copies_append o k [x] l

/-- A longer list has no fewer copies. -/
theorem copies_prefix {o : ByteOrder} {l₁ l₂ : List CspPacket} (h : l₁ <+: l₂)
    (k : ℕ × U16 × List U8) : copies o k l₁ ≤ copies o k l₂ := h.sublist.countP_le

/-- A copy is what has its key. -/
theorem copies_congr {o : ByteOrder} {x y : CspPacket} (h : x.key o = y.key o)
    (k : ℕ × U16 × List U8) : copies o k [x] = copies o k [y] := by
  unfold copies
  rw [List.countP_singleton, List.countP_singleton, h]

/-- The header with its new ACK number is read back, also where it lies in front of the data. -/
theorem cspRdpHeaderRef_storeAck (o : ByteOrder) (x : CspPacket) (a : U16) :
    cspRdpHeaderRef o (cspRdpHeaderStore o x { cspRdpHeaderRef o x with ackNr := a }) =
      { cspRdpHeaderRef o x with ackNr := a } := by
  have hl : (cspRdpHeaderStore o x { cspRdpHeaderRef o x with ackNr := a }).length = x.length :=
    length_headerStore_flags o x _ a
  have hmem : ∀ k, k < 5 → (cspRdpHeaderStore o x { cspRdpHeaderRef o x with ackNr := a }).mem o
      (x.length.toNat + 1 + k) = RdpHeader.byte o { cspRdpHeaderRef o x with ackNr := a } k := by
    intro k hk
    rw [cspRdpHeaderStore, CspPacket.mem_ofMem, if_pos (by omega), Nat.add_sub_cancel_left]
  generalize cspRdpHeaderStore o x { cspRdpHeaderRef o x with ackNr := a } = y at hl hmem ⊢
  show RdpHeader.ofBytes o (fun k => y.mem o (y.length.toNat + 1 + k)) = _
  rw [hl]
  simp only [RdpHeader.ofBytes, hmem 0 (by omega), hmem 1 (by omega), hmem 2 (by omega),
    hmem 3 (by omega), hmem 4 (by omega)]
  exact RdpHeader.ofBytes_byte o _

/-- Assigning to the ACK number leaves the key. -/
theorem key_store (o : ByteOrder) (x : CspPacket) (a : U16) :
    (cspRdpHeaderStore o x { cspRdpHeaderRef o x with ackNr := a }).key o = x.key o := by
  have hl : (cspRdpHeaderStore o x { cspRdpHeaderRef o x with ackNr := a }).length = x.length :=
    length_headerStore_flags o x _ a
  have hseq : (cspRdpHeaderRef o (cspRdpHeaderStore o x
      { cspRdpHeaderRef o x with ackNr := a })).seqNr = (cspRdpHeaderRef o x).seqNr := by
    rw [cspRdpHeaderRef_storeAck]
  have hpay : rdpPayload (cspRdpHeaderStore o x { cspRdpHeaderRef o x with ackNr := a }) =
      rdpPayload x := by
    by_cases h5 : 5 ≤ x.length.toNat
    · exact rdpPayload_store h5 _
    · exact rdpPayload_congr hl fun i hi => absurd hi (by omega)
  rw [CspPacket.key, hseq, hpay]
  rfl

/-! ### What a round does -/

/-- `snd_una` is behind the number of the element. -/
def ackedBy (o : ByteOrder) (una : U16) (x : CspPacket) : Bool :=
  cspRdpSeqBefore (hton16 o (cspRdpHeaderRef o x).seqNr) una

/-- The EACK lists the number of the element. -/
def listedBy (o : ByteOrder) (eack x : CspPacket) : Bool :=
  (List.range ((eack.length.toNat - sizeofRdpHeader) / 2)).any fun j =>
    hton16 o (eack.data16 o j) == hton16 o (cspRdpHeaderRef o x).seqNr

/-- The loop frees the element. -/
def Rotation.frees (o : ByteOrder) (w : World) (x : CspPacket) : Rotation → Bool
  | .timeouts _ => ackedBy o w.conn.rdp.sndUna x
  | .flushEack eack => listedBy o eack x

/-- A copy was freed for a reason: behind `snd_una`, listed, or by the call that closed
the connection. -/
def Mark.Justified (o : ByteOrder) : Mark → Prop
  | .accepted _ => True
  | .acked c una => ackedBy o una c = true
  | .listed c eack => listedBy o eack c = true
  | .flushed _ before after => before = .connOpen ∧ after = .connClosed

/-- **The comparison with all entries** finds the element if it is listed, and changes its time
only. -/
theorem eackCompare_foldl (e : Env) (eack : CspPacket) (js : List ℕ)
    (s : Bool × CspPacket × World) :
    (js.foldl (eackCompare e eack) s).1 = (s.1 || js.any fun j =>
        hton16 e.host (eack.data16 e.host j) ==
          hton16 e.host (cspRdpHeaderRef e.host s.2.1).seqNr) ∧
      (js.foldl (eackCompare e eack) s).2.1.key e.host = s.2.1.key e.host ∧
      (js.foldl (eackCompare e eack) s).2.2.conn = s.2.2.conn := by
  induction js generalizing s with
  | nil => exact ⟨by simp, rfl, rfl⟩
  | cons j js ih =>
    have hone : (eackCompare e eack s j).1 = (s.1 || hton16 e.host (eack.data16 e.host j) ==
          hton16 e.host (cspRdpHeaderRef e.host s.2.1).seqNr) ∧
        cspRdpHeaderRef e.host (eackCompare e eack s j).2.1 = cspRdpHeaderRef e.host s.2.1 ∧
        (eackCompare e eack s j).2.1.key e.host = s.2.1.key e.host ∧
        (eackCompare e eack s j).2.2.conn = s.2.2.conn := by
      unfold eackCompare
      simp only
      split
      · split <;> exact ⟨rfl, rfl, rfl, rfl⟩
      · exact ⟨rfl, rfl, rfl, rfl⟩
    obtain ⟨h₁, h₂, h₃, h₄⟩ := hone
    obtain ⟨i₁, i₂, i₃⟩ := ih (eackCompare e eack s j)
    rw [List.foldl_cons, List.any_cons]
    refine ⟨?_, i₂.trans h₃, i₃.trans h₄⟩
    rw [i₁, h₁, h₂, Bool.or_assoc]

/-- Sending changes no connection. -/
theorem cspSendDirect_conn (e : Env) (idout : CspId) (p : Option CspPacket) (w : World) :
    (cspSendDirect e idout p w).2.conn = w.conn := by
  unfold cspSendDirect
  split
  · rfl
  · split <;> rfl

/-- **A round frees the element if it is acknowledged or listed, and keeps its
key otherwise.** -/
theorem Rotation.entry_cases (e : Env) (rot : Rotation) (w : World) (x : CspPacket) :
    (rot.entry e w x).1.conn = w.conn ∧
      match (rot.entry e w x).2 with
      | none => rot.frees e.host w x = true
      | some y => rot.frees e.host w x = false ∧ y.key e.host = x.key e.host := by
  cases rot with
  | timeouts now =>
    show (timeoutEntry e now w x).1.conn = w.conn ∧
      match (timeoutEntry e now w x).2 with
      | none => ackedBy e.host w.conn.rdp.sndUna x = true
      | some y => ackedBy e.host w.conn.rdp.sndUna x = false ∧ y.key e.host = x.key e.host
    unfold timeoutEntry
    simp only
    split
    · rename_i hacked
      exact ⟨rfl, hacked⟩
    · rename_i hacked
      rw [Bool.not_eq_true] at hacked
      split
      · exact ⟨(cspRdpRetransmit_conn e _ _).trans (cspBufferClone_conn e _ _), hacked,
          key_store e.host x _⟩
      · exact ⟨rfl, hacked, rfl⟩
  | flushEack eack =>
    obtain ⟨h₁, h₂, h₃⟩ := eackCompare_foldl e eack
      (List.range ((eack.length.toNat - sizeofRdpHeader) / 2)) (false, x, w)
    show (flushEackEntry e eack w x).1.conn = w.conn ∧
      match (flushEackEntry e eack w x).2 with
      | none => listedBy e.host eack x = true
      | some y => listedBy e.host eack x = false ∧ y.key e.host = x.key e.host
    rw [Bool.false_or] at h₁
    unfold flushEackEntry
    simp only
    split
    · rename_i hlisted
      rw [h₁] at hlisted
      exact ⟨h₃, hlisted⟩
    · rename_i hlisted
      rw [Bool.not_eq_true, h₁] at hlisted
      exact ⟨h₃, hlisted, h₂⟩

/-! ### The account -/

/-- The element the router has dequeued. -/
def RouterTask.inHand : RouterTask → List CspPacket
  | .idle => []
  | .rotating _ _ hand => hand.toList

/-- Between two elements the router holds nothing. -/
@[simp] theorem inHand_none (rot : Rotation) (left : ℕ) :
    (RouterTask.rotating rot left none).inHand = [] := rfl

/-- Between dequeue and requeue it holds the element. -/
@[simp] theorem inHand_some (rot : Rotation) (left : ℕ) (x : CspPacket) :
    (RouterTask.rotating rot left (some x)).inHand = [x] := rfl

/-- The copy that is queued while `csp_rdp_send` has not returned. -/
def UserTask.pending : UserTask → List CspPacket
  | .queued _ _ clone => [clone]
  | _ => []

/-- The copies for which `csp_rdp_send` returned `CSP_ERR_NONE`. -/
def acceptedCopies (history : List Mark) : List CspPacket :=
  history.filterMap fun
    | .accepted c => some c
    | _ => none

/-- The copies that were acknowledged, listed or flushed. -/
def releasedCopies (history : List Mark) : List CspPacket :=
  history.filterMap fun
    | .acked c _ | .listed c _ | .flushed c _ _ => some c
    | .accepted _ => none

/-- The elements that will be sent again if need be. -/
def Tasks.held (s : Tasks) : List CspPacket := s.world.conn.rdp.txQueue.items ++ s.router.inHand

/-- **No accepted copy is missing**: each is held or was released, and the
releases were due. -/
structure Accounted (o : ByteOrder) (s : Tasks) : Prop where
  accepted : ∀ k, copies o k (acceptedCopies s.history) ≤
    copies o k s.held + copies o k (releasedCopies s.history)
  released : ∀ m ∈ s.history, m.Justified o

/-- The account with the copy `csp_rdp_send` is about to return for. -/
structure Balanced (o : ByteOrder) (s : Tasks) : Prop where
  accepted : ∀ k, copies o k (acceptedCopies s.history) + copies o k s.user.pending ≤
    copies o k s.held + copies o k (releasedCopies s.history)
  released : ∀ m ∈ s.history, m.Justified o

/-- When the books balance no accepted copy is missing. -/
theorem Balanced.accounted {o : ByteOrder} {s : Tasks} (h : Balanced o s) : Accounted o s :=
  ⟨fun k => (Nat.le_add_right _ _).trans (h.accepted k), h.released⟩

/-- There is room in the queue for an element the router puts back. -/
def RoomToRequeue (e : Env) (s : Tasks) : TaskInput → Prop
  | .rotate =>
    match s.router with
    | .rotating rot _ (some x) =>
      rot.frees e.host s.world x = false → s.world.conn.rdp.txQueue.size < cspRdpMaxWindow
    | _ => True
  | _ => True

/-- What was accepted in two stretches of the history. -/
theorem acceptedCopies_append (h₁ h₂ : List Mark) :
    acceptedCopies (h₁ ++ h₂) = acceptedCopies h₁ ++ acceptedCopies h₂ := List.filterMap_append ..

/-- What was released in two stretches of the history. -/
theorem releasedCopies_append (h₁ h₂ : List Mark) :
    releasedCopies (h₁ ++ h₂) = releasedCopies h₁ ++ releasedCopies h₂ := List.filterMap_append ..

/-- A change that queues at most something more. -/
theorem Balanced.grows {o : ByteOrder} {s t : Tasks} (h : Balanced o s)
    (hw : Grows s.world t.world) (hr : s.router.inHand = t.router.inHand)
    (hu : t.user.pending = [] ∨ t.user.pending = s.user.pending) (hh : t.history = s.history) :
    Balanced o t := by
  have hheld : ∀ k, copies o k s.held ≤ copies o k t.held := fun k => by
    have := copies_prefix (o := o) hw k
    simp only [Tasks.held, copies_append, hr]
    omega
  refine ⟨fun k => ?_, fun m hm => h.released m (hh ▸ hm)⟩
  have h₁ := h.accepted k
  have h₂ := hheld k
  rw [hh]
  rcases hu with hu | hu
  · rw [hu, copies_nil]
    omega
  · rw [hu]
    omega

/-- A flush releases what it flushes. -/
theorem releasedCopies_flushed (l : List CspPacket) (before after : ConnState) :
    releasedCopies (l.map fun c => .flushed c before after) = l := by
  induction l with
  | nil => rfl
  | cons x l ih => exact congrArg (x :: ·) ih

/-- And accepts nothing. -/
theorem acceptedCopies_flushed (l : List CspPacket) (before after : ConnState) :
    acceptedCopies (l.map fun c => .flushed c before after) = [] := by
  induction l with
  | nil => rfl
  | cons x l ih => exact ih

/-- A queue that got shorter was emptied by the call that closed the connection. -/
theorem Spares.closes {w w' : World} (h : Spares w w')
    (hsize : w'.conn.rdp.txQueue.size < w.conn.rdp.txQueue.size) : ClosesConn w w' := by
  rcases h with hgrows | ⟨-, hcloses⟩
  · exact absurd hgrows.length_le (by simp only [Queue.size] at hsize; omega)
  · exact hcloses

/-- A call that keeps the elements, or closes the connection and marks them all as
flushed. -/
theorem Balanced.call {o : ByteOrder} {s : Tasks} {w : World} (h : Balanced o s)
    (hw : Spares s.world w) : Balanced o (s.call w) := by
  unfold Tasks.call flushedMarks
  split
  · rename_i hsize
    refine ⟨fun k => ?_, fun m hm => ?_⟩
    · have := h.accepted k
      simp only [Tasks.held, acceptedCopies_append, releasedCopies_append, acceptedCopies_flushed,
        releasedCopies_flushed, copies_append, copies_nil] at this ⊢
      omega
    · rcases List.mem_append.1 hm with hm | hm
      · exact h.released m hm
      · obtain ⟨x, -, rfl⟩ := List.mem_map.1 hm
        exact hw.closes hsize
  · rename_i hsize
    have hgrows : Grows s.world w := by
      refine hw.elim id fun ⟨hempty, _⟩ => ?_
      have hnil : s.world.conn.rdp.txQueue.items = [] := by
        rw [Queue.size, Queue.size, hempty, List.length_nil] at hsize
        exact List.length_eq_zero_iff.1 (by omega)
      rw [Grows, hnil]
      exact List.nil_prefix
    exact h.grows hgrows rfl (.inr rfl) (List.append_nil _)

/-- **The end of a round keeps the account** if there is room for the element. -/
theorem Balanced.endRound {e : Env} {s : Tasks} {rot : Rotation} {left : ℕ} (left' : ℕ)
    {x : CspPacket} (h : Balanced e.host s) (hr : s.router = .rotating rot left (some x))
    (hroom : rot.frees e.host s.world x = false →
      s.world.conn.rdp.txQueue.size < cspRdpMaxWindow) :
    Balanced e.host (s.endRound e rot left' x) := by
  obtain ⟨hconn, hentry⟩ := rot.entry_cases e s.world x
  have hhand : s.router.inHand = [x] := by rw [hr]; rfl
  unfold Tasks.endRound
  rcases hres : (rot.entry e s.world x).2 with _ | y
  · simp only [hres] at hentry ⊢
    refine ⟨fun k => ?_, fun m hm => ?_⟩
    · have hmark : releasedCopies [rot.mark s.world x] = [x] ∧
          acceptedCopies [rot.mark s.world x] = [] := by
        cases rot <;> exact ⟨rfl, rfl⟩
      have := h.accepted k
      simp only [Tasks.held, hconn, hhand, acceptedCopies_append, releasedCopies_append, hmark.1,
        hmark.2, copies_append, copies_nil, inHand_none] at this ⊢
      omega
    · rcases List.mem_append.1 hm with hm | hm
      · exact h.released m hm
      · obtain rfl := List.mem_singleton.1 hm
        cases rot <;> exact hentry
  · simp only [hres] at hentry ⊢
    obtain ⟨hnot, hkey⟩ := hentry
    refine ⟨fun k => ?_, h.released⟩
    have hpush := Queue.push_items_of_lt (hroom hnot) y
    have hcopies := copies_congr hkey k
    have := h.accepted k
    simp only [Tasks.held, World.setTx, hconn, hhand, hpush, hcopies, copies_append, copies_nil,
      inHand_none] at this ⊢
    omega

/-- The next operation of a loop keeps the account. -/
theorem Balanced.rotate {e : Env} {s : Tasks} {rot : Rotation} {left : ℕ}
    {hand : Option CspPacket} (h : Balanced e.host s) (hr : s.router = .rotating rot left hand)
    (hroom : ∀ x, hand = some x → rot.frees e.host s.world x = false →
      s.world.conn.rdp.txQueue.size < cspRdpMaxWindow) :
    Balanced e.host (s.rotate e rot left hand) := by
  cases hand with
  | some x =>
    have hround := h.endRound (left - 1) hr (hroom x rfl)
    cases left <;> exact hround
  | none =>
    have hhand : s.router.inHand = [] := by rw [hr]; rfl
    cases left with
    | zero =>
      refine h.grows ?_ hhand (.inr rfl) rfl
      cases rot with
      | timeouts now => exact (cspRdpCheckAck_grows e s.world).trans (cspRdpWake_grows _)
      | flushEack eack => exact .of_eq rfl
    | succ left =>
      unfold Tasks.rotate
      simp only
      cases hq : s.world.conn.rdp.txQueue.dequeue with
      | none => exact h.grows (.refl _) hhand (.inr rfl) rfl
      | some r =>
        obtain ⟨x, q⟩ := r
        have hitems := Queue.dequeue_eq_some.1 hq
        refine ⟨fun k => ?_, h.released⟩
        have := h.accepted k
        simp only [Tasks.held, World.setTx, hhand, hitems, copies_append, copies_nil, inHand_some]
          at this ⊢
        rw [copies_cons] at this
        omega

section

variable {e : Env} {w : World} {user : UserTask} {router : RouterTask} {history : List Mark}

/-- `csp_rdp_new_packet`, up to the loop of `csp_rdp_flush_eack`. -/
theorem Balanced.newPacket (h : Balanced e.host ⟨w, user, .idle, history⟩) (p : CspPacket) :
    Balanced e.host (Tasks.newPacket e ⟨w, user, .idle, history⟩ p) := by
  unfold Tasks.newPacket
  split
  · exact h.grows (.of_eq rfl) rfl (.inr rfl) rfl
  · rename_i hflush
    exact h.call (cspRdpNewPacket_spares (Bool.not_eq_true _ ▸ hflush))

/-- `csp_rdp_check_timeouts`, up to its loop. -/
theorem Balanced.checkTimeouts (h : Balanced e.host ⟨w, user, .idle, history⟩) :
    Balanced e.host (Tasks.checkTimeouts e ⟨w, user, .idle, history⟩) := by
  have hclose : Spares w (cspClose e (cspGetMs e w).2).2 :=
    Grows.spares (.of_eq rfl) rfl (cspClose_spares e (cspGetMs e w).2)
  unfold Tasks.checkTimeouts
  simp only
  split
  · exact h.call hclose
  · split
    · split
      · exact h.call hclose
      · exact h.call (.inl (.of_eq rfl))
    · exact h.grows (.of_eq rfl) rfl (.inr rfl) rfl

/-- A call of `csp_rdp_send` that begins moves no copy. -/
theorem Balanced.send (h : Balanced e.host ⟨w, .idle, router, history⟩) (p : CspPacket) :
    Balanced e.host (Tasks.send ⟨w, .idle, router, history⟩ p) := by
  unfold Tasks.send
  split
  · exact h
  · split
    · exact h.grows (.of_eq rfl) rfl (.inl rfl) rfl
    · exact h.grows (.refl _) rfl (.inl rfl) rfl

/-- Nor does the copy it makes, before it is enqueued. -/
theorem Balanced.clone {p : CspPacket} (h : Balanced e.host ⟨w, .ready p, router, history⟩) :
    Balanced e.host (Tasks.clone e ⟨w, .ready p, router, history⟩ p) := by
  unfold Tasks.clone
  rcases cspBufferClone_cases e (txPacket e p w) w with hb | ⟨buf, hb⟩
  · simp only [hb]
    exact h.grows (.of_eq rfl) rfl (.inl rfl) rfl
  · simp only [hb]
    exact h.grows (.of_eq rfl) rfl (.inl rfl) rfl

/-- The copy goes from the task to the queue, or is freed before it counts. -/
theorem Balanced.enqueue {p tx c : CspPacket}
    (h : Balanced e.host ⟨w, .cloned p tx c, router, history⟩) :
    Balanced e.host (Tasks.enqueue ⟨w, .cloned p tx c, router, history⟩ p tx c) := by
  unfold Tasks.enqueue
  simp only
  cases hq : w.conn.rdp.txQueue.enqueue c with
  | none => exact h.grows (.of_eq rfl) rfl (.inl rfl) rfl
  | some q =>
    obtain ⟨-, hitems⟩ := Queue.enqueue_eq_some.1 hq
    refine ⟨fun k => ?_, h.released⟩
    have := h.accepted k
    simp only [Tasks.held, World.setTx, UserTask.pending, hitems, copies_append, copies_nil]
      at this ⊢
    omega

/-- The copy counts when `csp_rdp_send` returns. -/
theorem Balanced.finishSend {p tx c : CspPacket}
    (h : Balanced e.host ⟨w, .queued p tx c, router, history⟩) :
    Balanced e.host (Tasks.finishSend e ⟨w, .queued p tx c, router, history⟩ p tx c) := by
  refine ⟨fun k => ?_, fun m hm => ?_⟩
  · have hq : (Tasks.finishSend e ⟨w, .queued p tx c, router, history⟩ p tx c).held =
        Tasks.held ⟨w, .queued p tx c, router, history⟩ := by
      unfold Tasks.held Tasks.finishSend
      rw [cspSendDirect_conn]
      rfl
    have hmark : acceptedCopies [Mark.accepted c] = [c] ∧
        releasedCopies [Mark.accepted c] = [] := ⟨rfl, rfl⟩
    have := h.accepted k
    rw [hq]
    simp only [Tasks.finishSend, UserTask.pending, acceptedCopies_append,
      releasedCopies_append, hmark.1, hmark.2, copies_append, copies_nil] at this ⊢
    omega
  · rcases List.mem_append.1 hm with hm | hm
    · exact h.released m hm
    · obtain rfl := List.mem_singleton.1 hm
      exact trivial

end

/-- **An operation keeps the account** if no requeue meets a full queue. -/
theorem Balanced.step {e : Env} {s t : Tasks} {i : TaskInput} (h : Balanced e.host s)
    (hi : RoomToRequeue e s i) (hst : s.step e i = some t) : Balanced e.host t := by
  obtain ⟨w, user, router, history⟩ := s
  cases i with
  | packet p =>
    cases router with
    | rotating _ _ _ => exact absurd hst (by simp [Tasks.step])
    | idle =>
      obtain rfl := Option.some.inj hst
      exact h.newPacket p
  | checkTimeouts =>
    cases router with
    | rotating _ _ _ => exact absurd hst (by simp [Tasks.step])
    | idle =>
      obtain rfl := Option.some.inj hst
      exact h.checkTimeouts
  | rotate =>
    cases router with
    | idle => exact absurd hst (by simp [Tasks.step])
    | rotating rot left hand =>
      obtain rfl := Option.some.inj hst
      refine h.rotate rfl fun x hx => ?_
      obtain rfl := hx
      exact hi
  | send p =>
    cases user with
    | idle =>
      obtain rfl := Option.some.inj hst
      exact h.send p
    | _ => exact absurd hst (by simp [Tasks.step])
  | sendWake =>
    cases user with
    | waiting p =>
      simp only [Tasks.step] at hst
      split at hst
      · obtain rfl := Option.some.inj hst
        exact h.grows (.of_eq rfl) rfl (.inl rfl) rfl
      · exact absurd hst (by simp)
    | _ => exact absurd hst (by simp [Tasks.step])
  | sendTimeout =>
    cases user with
    | waiting p =>
      obtain rfl := Option.some.inj hst
      exact h.grows (.refl _) rfl (.inl rfl) rfl
    | _ => exact absurd hst (by simp [Tasks.step])
  | sendStep =>
    cases user with
    | idle | waiting _ => exact absurd hst (by simp [Tasks.step])
    | ready p =>
      obtain rfl := Option.some.inj hst
      exact h.clone
    | cloned p tx c =>
      obtain rfl := Option.some.inj hst
      exact h.enqueue
    | queued p tx c =>
      obtain rfl := Option.some.inj hst
      exact h.finishSend
  | read =>
    obtain rfl := Option.some.inj hst
    exact h.call (.inl (cspRead_grows e w))
  | close =>
    obtain rfl := Option.some.inj hst
    exact h.call (cspClose_spares e w)

/-! ### Runs -/

/-- Nothing has been sent, and both tasks are outside their calls. -/
structure Tasks.Fresh (s : Tasks) : Prop where
  user : s.user = .idle
  router : s.router = .idle
  history : s.history = []

/-- **Retention, in every run** in which no element the router puts back meets a
full queue: whatever the window size and the order of the two tasks, no copy for
which `csp_rdp_send` returned `CSP_ERR_NONE` is missing. -/
theorem run_retention {e : Env} {s t : Tasks} {is : List TaskInput} (h : s.Fresh)
    (hrun : Run (Tasks.step e) (RoomToRequeue e) s is t) : Accounted e.host t := by
  have hs : Balanced e.host s := by
    refine ⟨fun k => ?_, fun m hm => ?_⟩
    · rw [h.history, h.user]
      exact Nat.zero_le _
    · rw [h.history] at hm
      exact absurd hm List.not_mem_nil
  have ht : Balanced e.host t := hrun.invariant (fun s i t hs hi hst => hs.step hi hst) hs
  exact ht.accounted

instance (e : Env) (s : Tasks) (i : TaskInput) : Decidable (RoomToRequeue e s i) :=
  match i, s with
  | .rotate, ⟨w, _, .rotating rot _ (some x), _⟩ =>
    inferInstanceAs (Decidable (rot.frees e.host w x = false → _))
  | .rotate, ⟨_, _, .rotating _ _ none, _⟩ | .rotate, ⟨_, _, .idle, _⟩ => isTrue trivial
  | .packet _, _ | .checkTimeouts, _ | .send _, _ | .sendWake, _ | .sendTimeout, _
  | .sendStep, _ | .read, _ | .close, _ => isTrue trivial

/-- A connection after its handshake, with this window. -/
def Tasks.opened (windowSize : U32) : Tasks :=
  ⟨(Endpoint.opened 100 200 windowSize).world, .idle, .idle, []⟩

/-- A connection with nothing sent is in order. -/
theorem Tasks.opened_fresh (windowSize : U32) : (Tasks.opened windowSize).Fresh := ⟨rfl, rfl, rfl⟩

/-- A whole `csp_send` of three bytes, with nothing in between. -/
def sendThree : List TaskInput := [.send (.blank 3), .sendStep, .sendStep, .sendStep]

/-- The router looks at two messages and frees the first, which the EACK lists; a
third is sent while it holds the second. -/
theorem run_retention_opened : ∃ t, Run (Tasks.step (.favourable .little))
    (RoomToRequeue (.favourable .little)) (Tasks.opened 4)
    (sendThree ++ sendThree ++
      [.packet (segment .ackEak 201 100 [0, 101]), .rotate, .rotate, .rotate] ++
      sendThree ++ [.rotate, .rotate]) t ∧
      t.held.length = 2 ∧ (acceptedCopies t.history).length = 3 ∧ Accounted .little t := by
  refine (Run.of_any (p := fun t : Tasks =>
    decide (t.held.length = 2 ∧ (acceptedCopies t.history).length = 3)) ?_).imp fun t ht =>
      ⟨ht.1, (of_decide_eq_true ht.2).1, (of_decide_eq_true ht.2).2,
        run_retention (Tasks.opened_fresh 4) ht.1⟩
  decide +kernel

/-- **A requeue loses an unacknowledged packet.**  With the largest window, 101 to
120 are in the queue.  An EACK acknowledges 118 and lists 120; while the router
holds 119 the user sends 121, which takes its place. -/
theorem requeue_loses_unacked :
    ¬ ∀ (e : Env) (s t : Tasks) (is : List TaskInput), s.Fresh →
      1 ≤ s.world.conn.rdp.windowSize.toNat →
        s.world.conn.rdp.windowSize.toNat ≤ cspRdpMaxWindow →
          Run (Tasks.step e) (fun _ _ => True) s is t → Accounted e.host t := by
  intro h
  have hrun : ∃ t, Run (Tasks.step (.favourable .little)) (fun _ _ => True) (Tasks.opened 20)
      ((List.replicate 20 sendThree).flatten ++
        [.packet (segment .ackEak 201 118 [0, 120])] ++ List.replicate 37 .rotate ++
        sendThree ++ [.rotate]) t ∧
      decide (t.world.conn.rdp.sndUna = 119 ∧
        copies .little (0, 119, [0, 0, 0]) (acceptedCopies t.history) = 1 ∧
        copies .little (0, 119, [0, 0, 0]) t.held = 0 ∧
        copies .little (0, 119, [0, 0, 0]) (releasedCopies t.history) = 0) = true := by
    refine Run.of_any ?_
    decide +kernel
  obtain ⟨t, hrun, ht⟩ := hrun
  obtain ⟨-, hacc, hheld, hrel⟩ := of_decide_eq_true ht
  have hle := (h _ _ _ _ (Tasks.opened_fresh 20) (by decide) (by decide) hrun).accepted
    (0, 119, [0, 0, 0])
  have hle' : copies .little (0, 119, [0, 0, 0]) (acceptedCopies t.history) ≤
      copies .little (0, 119, [0, 0, 0]) t.held +
        copies .little (0, 119, [0, 0, 0]) (releasedCopies t.history) := hle
  omega

end LibCSP
