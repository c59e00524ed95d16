/-
# The reorder queue

A data packet that comes too early waits in `rdp.rx_queue`, and `csp_rdp_rx_queue_flush`
releases it when its turn comes.  The loop of the flush rotates the queue in search of the next
number and starts again after every hit, with `rcv_cur` one further; it is a drain of the stored
packets (`Flushed.drain`), so it ends, whatever the order in which they are stored, and what it
releases is the longest row of numbers behind `rcv_cur` (`cspRdpRxQueueFlush_released`).

Between two packets the numbers stored are different and lie behind the next one and inside the
receive window (`Reordered`).  A packet is stored under a new number that passed the window check
and is not the next; a packet in sequence moves the window by one, and after it the flush leaves
nothing in the queue whose turn has come.  This holds from the packet on that opens a connection
without stored packets (`CameOpen`, `reorder_queue`), under every call but a new
`csp_rdp_connect` and a SYN, which start over with other numbers.
-/

import LibCSP.Basis.Drain
import LibCSP.Rdp.Accept
import LibCSP.Rdp.Delivery
import LibCSP.Rdp.Send

namespace LibCSP

open Basis

/-! ### `csp_rdp_rx_queue_flush` -/

/-- The search of `csp_rdp_rx_queue_flush` for the packet with the next number. -/
def takeNext (e : Env) (w : World) : Option CspPacket × Queue CspPacket (cspRdpMaxWindow * 2) :=
  Queue.takeFirst (fun x => hostSeq e.host x == w.conn.rdp.rcvCur + 1) w.conn.rdp.rxQueue.size
    w.conn.rdp.rxQueue

/-- The packet is received, whatever becomes of it, and `rcv_cur` moves on. -/
def receiveNext (e : Env) (x : CspPacket) (w : World) : World :=
  (cspRdpReceiveData e x w).2.setRcvCur ((cspRdpReceiveData e x w).2.conn.rdp.rcvCur + 1)

/-- `csp_rdp_rx_queue_flush` from the label `front` on: it hands `xs` to `csp_rdp_receive_data`,
one after another, and comes to its end. -/
inductive Flushed (e : Env) : World → List CspPacket → World → Prop
  /-- The loop is over. -/
  | done {w : World} {q : Queue CspPacket (cspRdpMaxWindow * 2)} (h : takeNext e w = (none, q)) :
      Flushed e w [] (w.setReorder q)
  /-- `goto front` after a hit. -/
  | front {w w' : World} {x : CspPacket} {xs : List CspPacket}
      {q : Queue CspPacket (cspRdpMaxWindow * 2)} (h : takeNext e w = (some x, q))
      (hrest : Flushed e (receiveNext e x (w.setReorder q)) xs w') : Flushed e w (x :: xs) w'

/-- An element that is received counts. -/
@[simp] theorem receiveNext_rcvCur (e : Env) (x : CspPacket) (w : World) :
    (receiveNext e x w).conn.rdp.rcvCur = w.conn.rdp.rcvCur + 1 := by
  show (cspRdpReceiveData e x w).2.conn.rdp.rcvCur + 1 = _
  rw [cspRdpReceiveData_rdp]

/-- It leaves the others in the reorder queue. -/
@[simp] theorem receiveNext_rxQueue (e : Env) (x : CspPacket) (w : World) :
    (receiveNext e x w).conn.rdp.rxQueue = w.conn.rdp.rxQueue := by
  show (cspRdpReceiveData e x w).2.conn.rdp.rxQueue = _
  rw [cspRdpReceiveData_rdp]

/-- **The flush ends**, after as many hits as there are packets to release. -/
theorem flushRounds_flushed (e : Env) (n : ℕ) {w : World}
    (hn : w.conn.rdp.rxQueue.items.length ≤ n) : ∃ xs, Flushed e w xs (flushRounds e n w) := by
  induction n generalizing w with
  | zero =>
    have hempty : w.conn.rdp.rxQueue.size = 0 := Nat.le_zero.1 hn
    refine ⟨[], .done (q := w.conn.rdp.rxQueue) ?_⟩
    rw [takeNext, hempty, Queue.takeFirst]
  | succ n ih =>
    rw [flushRounds]
    rcases htake : takeNext e w with ⟨_ | x, q⟩
    · have hround : flushRound e w = none := flushRound_of_takeFirst htake
      obtain ⟨rfl, -⟩ := Queue.takeFirst_eq_none htake
      rw [hround]
      exact ⟨[], .done htake⟩
    · have hround : flushRound e w = some (receiveNext e x (w.setReorder q)) :=
        flushRound_of_takeFirst htake
      have hlen := (Queue.takeFirst_eq_some htake).2.length_eq
      rw [List.length_cons] at hlen
      have hrest : (receiveNext e x (w.setReorder q)).conn.rdp.rxQueue.items.length ≤ n := by
        rw [receiveNext_rxQueue]
        show q.items.length ≤ n
        omega
      obtain ⟨xs, hxs⟩ := ih hrest
      rw [hround]
      exact ⟨x :: xs, .front htake hxs⟩

/-- **The flush is a drain** of the stored packets. -/
theorem Flushed.drain {e : Env} {w w' : World} {xs : List CspPacket} (h : Flushed e w xs w') :
    Drain (hostSeq e.host) (· + 1) w.conn.rdp.rcvCur w.conn.rdp.rxQueue.items xs
      w'.conn.rdp.rcvCur w'.conn.rdp.rxQueue.items := by
  induction h with
  | done h =>
    obtain ⟨rfl, hne⟩ := Queue.takeFirst_eq_none h
    exact .done fun y hy => beq_eq_false_iff_ne.1 (hne y hy)
  | front h _ ih =>
    obtain ⟨hx, hperm⟩ := Queue.takeFirst_eq_some h
    rw [receiveNext_rcvCur, receiveNext_rxQueue] at ih
    exact .take (beq_iff_eq.1 hx) hperm ih

/-- A flush delivers at most as many elements as the queue holds. -/
theorem Flushed.length_le {e : Env} {w w' : World} {xs : List CspPacket} (h : Flushed e w xs w') :
    xs.length ≤ cspRdpMaxWindow * 2 := by
  have hle := w.conn.rdp.rxQueue.le
  rw [← h.drain.perm.length_eq, List.length_append] at hle
  omega

/-- Counting up is an addition. -/
theorem succ_iterate (c : U16) (n : ℕ) : (· + 1)^[n] c = c + BitVec.ofNat 16 n := by
  induction n with
  | zero => exact (BitVec.add_zero c).symm
  | succ n ih =>
    rw [Function.iterate_succ_apply', ih]
    bv_omega

/-- The next numbers, counted up. -/
theorem numbersFrom_eq_iterate (irs : U16) (n : ℕ) :
    numbersFrom irs n = List.iterate (· + 1) (irs + 1) n := by
  rw [← List.range_map_iterate, numbersFrom]
  refine List.map_congr_left fun k _ => ?_
  rw [← succ_iterate]

/-- What the flush releases: `xs` of the packets stored in `rdp`, with `rdp'` behind it. -/
structure Released (o : ByteOrder) (rdp : Rdp) (xs : List CspPacket) (rdp' : Rdp) : Prop where
  /-- They come in the order of their numbers. -/
  ascending : xs.map (hostSeq o) = numbersFrom rdp.rcvCur xs.length
  /-- `rcv_cur` is the last of these numbers. -/
  rcvCur : rdp'.rcvCur = rdp.rcvCur + BitVec.ofNat 16 xs.length
  /-- No longer row of numbers behind `rcv_cur` was stored. -/
  greatest : IsGreatest {k : ℕ | ∀ s ∈ numbersFrom rdp.rcvCur k,
    s ∈ rdp.rxQueue.items.map (hostSeq o)} xs.length
  /-- The other packets stay. -/
  rest : (xs ++ rdp'.rxQueue.items).Perm rdp.rxQueue.items

/-- **`csp_rdp_rx_queue_flush` ends and releases the longest row behind `rcv_cur`**, in the
order of the numbers. -/
theorem cspRdpRxQueueFlush_released (e : Env) (w : World) :
    ∃ xs, Flushed e w xs (cspRdpRxQueueFlush e w) ∧
      Released e.host w.conn.rdp xs (cspRdpRxQueueFlush e w).conn.rdp := by
  obtain ⟨xs, hxs⟩ := flushRounds_flushed e w.conn.rdp.rxQueue.size (w := w) le_rfl
  refine ⟨xs, hxs, ?_⟩
  have hd := hxs.drain
  have hlen := hxs.length_le
  refine ⟨?_, ?_, ?_, hd.perm⟩
  · rw [numbersFrom_eq_iterate]
    exact hd.map_key
  · rw [← succ_iterate]
    exact hd.last_eq
  · simp only [numbersFrom_eq_iterate]
    refine hd.isGreatest fun hmem => ?_
    obtain ⟨m, hm, heq⟩ := List.mem_iterate.1 hmem
    rw [succ_iterate, succ_iterate] at heq
    unfold cspRdpMaxWindow at hlen
    bv_omega

/-! ### The stored numbers -/

/-- The numbers stored are different, and in serial order each lies strictly between
`rcv_cur + 1` and `rcv_cur + 2 * window_size + 1`. -/
structure Reordered (o : ByteOrder) (rdp : Rdp) : Prop where
  distinct : (rdp.rxQueue.items.map (hostSeq o)).Nodup
  after : ∀ x ∈ rdp.rxQueue.items, cspRdpSeqAfter (hostSeq o x) (rdp.rcvCur + 1) = true
  before : ∀ x ∈ rdp.rxQueue.items, cspRdpSeqBefore (hostSeq o x)
    (rdp.rcvCur + (rdp.windowSize * 2).setWidth 16 + 1) = true

/-- The window size is one that the queues of the connection are made for. -/
def Rdp.WindowFits (rdp : Rdp) : Prop :=
  1 ≤ rdp.windowSize.toNat ∧ rdp.windowSize.toNat ≤ cspRdpMaxWindow

/-- The numbers stored are different and among the next `2 * window_size`.  This is what holds
while the flush is still to come. -/
structure Waiting (o : ByteOrder) (rdp : Rdp) : Prop where
  distinct : (rdp.rxQueue.items.map (hostSeq o)).Nodup
  next : ∀ x ∈ rdp.rxQueue.items, IsNext (2 * rdp.windowSize.toNat) rdp.rcvCur (hostSeq o x)

/-- In a window that is small against the circle, the two comparisons leave the next `n` numbers
without the first. -/
theorem after_before_iff {s c n : U16} (hpos : 1 ≤ n.toNat) (hle : n.toNat < 2 ^ 15) :
    cspRdpSeqAfter s (c + 1) = true ∧ cspRdpSeqBefore s (c + n + 1) = true ↔
      IsNext n.toNat c s ∧ s ≠ c + 1 := by
  unfold cspRdpSeqAfter cspRdpSeqBefore Serial.after IsNext
  rw [Serial.before_iff, Serial.before_iff]
  bv_omega

/-- Twice the window is no number that wraps. -/
theorem Rdp.WindowFits.window {rdp : Rdp} (h : rdp.WindowFits) :
    ((rdp.windowSize * 2).setWidth 16 : U16).toNat = 2 * rdp.windowSize.toNat := by
  obtain ⟨-, hle⟩ := h
  unfold cspRdpMaxWindow at hle
  rw [toNat_window, Nat.mod_eq_of_lt (by omega)]

/-- **The stored numbers are in order** when they wait and none of them is the next. -/
theorem reordered_iff {o : ByteOrder} {rdp : Rdp} (h : rdp.WindowFits) : Reordered o rdp ↔
    Waiting o rdp ∧ ∀ x ∈ rdp.rxQueue.items, hostSeq o x ≠ rdp.rcvCur + 1 := by
  have hn := h.window
  obtain ⟨hpos, hle⟩ := h
  unfold cspRdpMaxWindow at hle
  have hiff := fun x => after_before_iff (s := hostSeq o x) (c := rdp.rcvCur)
    (n := (rdp.windowSize * 2).setWidth 16) (by omega) (by omega)
  rw [hn] at hiff
  constructor
  · intro hin
    have hx := fun x hx => (hiff x).1 ⟨hin.after x hx, hin.before x hx⟩
    exact ⟨⟨hin.distinct, fun x hmem => (hx x hmem).1⟩, fun x hmem => (hx x hmem).2⟩
  · rintro ⟨hwait, hne⟩
    have hx := fun x hx => (hiff x).2 ⟨hwait.next x hx, hne x hx⟩
    exact ⟨hwait.distinct, fun x hmem => (hx x hmem).1, fun x hmem => (hx x hmem).2⟩

/-- The next numbers, by their distance. -/
theorem mem_numbersFrom {c s : U16} {n : ℕ} (h : n < 2 ^ 16) :
    s ∈ numbersFrom c n ↔ IsNext n c s := by
  unfold numbersFrom IsNext
  rw [List.mem_map]
  constructor
  · rintro ⟨k, hk, rfl⟩
    rw [List.mem_range] at hk
    bv_omega
  · rintro ⟨hpos, hle⟩
    refine ⟨(s - c).toNat - 1, List.mem_range.2 (by omega), ?_⟩
    bv_omega

/-- **After the flush the numbers are in order.** -/
theorem Waiting.flush {e : Env} {w : World} (h : Waiting e.host w.conn.rdp)
    (hw : w.conn.rdp.WindowFits) : Reordered e.host (cspRdpRxQueueFlush e w).conn.rdp := by
  obtain ⟨xs, hflushed, hrel⟩ := cspRdpRxQueueFlush_released e w
  have hd := hflushed.drain
  have hwin : (cspRdpRxQueueFlush e w).conn.rdp.windowSize = w.conn.rdp.windowSize :=
    congrArg Control.windowSize (flushRounds_control e _ w)
  have hlen := hflushed.length_le
  have hcur := hrel.rcvCur
  generalize cspRdpRxQueueFlush e w = w' at *
  have hw' : w'.conn.rdp.WindowFits := by
    unfold Rdp.WindowFits
    rwa [hwin]
  have hnd := (hd.perm.map (hostSeq e.host)).nodup_iff.2 h.distinct
  rw [List.map_append] at hnd
  refine (reordered_iff hw').2 ⟨⟨(List.nodup_append.1 hnd).2.1, fun y hy => ?_⟩, hd.rest_ne⟩
  -- the number of `y` was waiting and did not come out
  obtain ⟨hpos, hle⟩ := h.next y (hd.perm.subset (List.mem_append_right _ hy))
  have hnot := hd.rest_not_mem h.distinct y hy
  unfold cspRdpMaxWindow at hlen
  rw [hrel.ascending, mem_numbersFrom (by omega), IsNext] at hnot
  rw [hwin, hcur, IsNext]
  bv_omega

/-! ### One packet -/

/-- A call that stores nothing and leaves the window where it is. -/
structure Keeps (w w' : World) : Prop where
  rcvCur : w'.conn.rdp.rcvCur = w.conn.rdp.rcvCur
  windowSize : w'.conn.rdp.windowSize = w.conn.rdp.windowSize
  stored : w'.conn.rdp.rxQueue.items.Subperm w.conn.rdp.rxQueue.items

/-- Nothing happens. -/
theorem Keeps.refl (w : World) : Keeps w w := ⟨rfl, rfl, .refl _⟩

/-- One call after the other. -/
theorem Keeps.trans {w w' w'' : World} (h₁ : Keeps w w') (h₂ : Keeps w' w'') : Keeps w w'' :=
  ⟨h₂.rcvCur.trans h₁.rcvCur, h₂.windowSize.trans h₁.windowSize, h₂.stored.trans h₁.stored⟩

/-- A calm call keeps what waits, if it keeps the window. -/
theorem Calm.keeps {w w' : World} (h : Calm w w')
    (hw : w'.conn.rdp.windowSize = w.conn.rdp.windowSize) : Keeps w w' := ⟨h.rcvCur, hw, h.stored⟩

/-- A call that closes keeps it, or empties the queue. -/
theorem Closes.keeps {w w' : World} (h : Closes w w') : Keeps w w' := by
  obtain ⟨st, -, hc⟩ := h.control
  exact h.toCalm.keeps (congrArg Control.windowSize hc)

/-- A quiet call keeps it. -/
theorem Quiet.keeps {w w' : World} (h : Quiet w w') : Keeps w w' := h.closes.keeps

/-- A call that leaves the receiving half alone keeps it. -/
theorem Keeps.of_inbound {w w' : World} (hi : w'.inbound = w.inbound)
    (hw : w'.conn.rdp.windowSize = w.conn.rdp.windowSize) : Keeps w w' := by
  have hq : w'.conn.rdp.rxQueue = w.conn.rdp.rxQueue := congrArg Inbound.reorder hi
  exact ⟨congrArg Inbound.rcvCur hi, hw, by rw [hq]⟩

/-- A window that fits stays one. -/
theorem Keeps.windowFits {w w' : World} (h : Keeps w w') (hw : w.conn.rdp.WindowFits) :
    w'.conn.rdp.WindowFits := by
  unfold Rdp.WindowFits
  rwa [h.windowSize]

/-- The reorder queue stays in the window. -/
theorem Reordered.keeps {o : ByteOrder} {w w' : World} (h : Reordered o w.conn.rdp)
    (hk : Keeps w w') : Reordered o w'.conn.rdp := by
  refine ⟨Distinct.subperm h.distinct hk.stored, fun x hx => ?_, fun x hx => ?_⟩
  · rw [hk.rcvCur]
    exact h.after x (hk.stored.subset hx)
  · rw [hk.rcvCur, hk.windowSize]
    exact h.before x (hk.stored.subset hx)

/-- **Storing a packet keeps the order:** its number is new, passed the window check and is not
the next. -/
theorem Reordered.store {o : ByteOrder} {w : World} {p : CspPacket} {h : RdpHeader}
    {q : Queue CspPacket (cspRdpMaxWindow * 2)} (hin : Reordered o w.conn.rdp)
    (hw : w.conn.rdp.WindowFits) (hp : hostSeq o p = h.seqNr)
    (hseq : w.conn.rdp.seqValid h = true) (hne : h.seqNr ≠ w.conn.rdp.rcvCur + 1)
    (hnew : ∀ y ∈ w.conn.rdp.rxQueue.items, hostSeq o y ≠ h.seqNr)
    (hq : q.items.Perm (p :: w.conn.rdp.rxQueue.items)) :
    Reordered o (w.setReorder q).conn.rdp := by
  obtain ⟨hwait, hnext⟩ := (reordered_iff hw).1 hin
  have hmem : ∀ x ∈ q.items, x = p ∨ x ∈ w.conn.rdp.rxQueue.items := fun x hx =>
    List.mem_cons.1 (hq.subset hx)
  have hsmall : w.conn.rdp.windowSize.toNat % 2 ^ 15 = w.conn.rdp.windowSize.toNat :=
    Nat.mod_eq_of_lt (Nat.lt_of_le_of_lt hw.2 (by decide))
  have hwin : IsNext (2 * w.conn.rdp.windowSize.toNat) w.conn.rdp.rcvCur h.seqNr := by
    have hpos := hw.1
    rw [seqValid_iff, hsmall] at hseq
    exact hseq.resolve_left (by omega)
  have hw' : (w.setReorder q).conn.rdp.WindowFits := hw
  refine (reordered_iff hw').2 ⟨⟨?_, fun x hx => ?_⟩, fun x hx => ?_⟩
  · refine (hq.map _).nodup_iff.2 (List.nodup_cons.2 ⟨fun hmem => ?_, hin.distinct⟩)
    obtain ⟨y, hy, hkey⟩ := List.mem_map.1 hmem
    exact hnew y hy (hkey.trans hp)
  · rcases hmem x hx with rfl | hx
    · exact hp ▸ hwin
    · exact hwait.next x hx
  · rcases hmem x hx with rfl | hx
    · exact hp ▸ hne
    · exact hnext x hx

/-- **When the window moves by one the stored packets wait for the flush.** -/
theorem Reordered.advance {o : ByteOrder} {w : World} {seqNr : U16} (hin : Reordered o w.conn.rdp)
    (hw : w.conn.rdp.WindowFits) (hseq : seqNr = w.conn.rdp.rcvCur + 1) :
    Waiting o (w.setRcvCur seqNr).conn.rdp := by
  obtain ⟨hwait, hnext⟩ := (reordered_iff hw).1 hin
  refine ⟨hin.distinct, fun x hx => ?_⟩
  have hne := hnext x hx
  obtain ⟨hpos, hle⟩ := hwait.next x hx
  have hsmall := hw.2
  unfold cspRdpMaxWindow at hsmall
  show IsNext (2 * w.conn.rdp.windowSize.toNat) seqNr (hostSeq o x)
  rw [hseq, IsNext]
  bv_omega

/-- What waits goes on waiting. -/
theorem Waiting.keeps {o : ByteOrder} {w w' : World} (h : Waiting o w.conn.rdp)
    (hk : Keeps w w') : Waiting o w'.conn.rdp := by
  refine ⟨Distinct.subperm h.distinct hk.stored, fun x hx => ?_⟩
  rw [hk.rcvCur, hk.windowSize]
  exact h.next x (hk.stored.subset hx)

/-- **A data packet** is put in only where it belongs. -/
theorem newPacketData_reordered {e : Env} {p : CspPacket} {w : World}
    (hin : Reordered e.host w.conn.rdp) (hw : w.conn.rdp.WindowFits)
    (hseq : w.conn.rdp.seqValid (rxHeader e.host p) = true) (hl : 5 ≤ p.length.toNat) :
    Reordered e.host (newPacketData e (rxHeader e.host p) (rxPacket e.host p) w).conn.rdp := by
  have hdata : Keeps w (cspRdpReceiveData e (rxPacket e.host p) w).2 := by
    have hrdp := cspRdpReceiveData_rdp e (rxPacket e.host p) w
    exact ⟨by rw [hrdp], by rw [hrdp], by rw [hrdp]⟩
  unfold newPacketData
  simp only
  split
  · rename_i hne
    rcases cspRdpRxQueueAdd_cases e (rxPacket e.host p) (rxHeader e.host p).seqNr w with
      ⟨hr, hnew, q, hq, hperm⟩ | ⟨hr, q, hq, hperm⟩
    · rw [hr, hq, if_pos rfl]
      exact (hin.store hw (hostSeq_rxPacket hl) hseq hne hnew hperm).keeps
        (cspRdpSendEack_quiet e _).keeps
    · rw [hr, hq, if_neg Bool.false_ne_true]
      exact hin.keeps (((setReorder_calm hperm.subperm).keeps rfl).trans
        (discardOpen_quiet _ _).keeps)
  · rename_i hnext
    split
    · have hack := (dataAck_quiet e (rxPacket e.host p)
        ((cspRdpReceiveData e (rxPacket e.host p) w).2.setRcvCur (rxHeader e.host p).seqNr)).keeps
      refine Waiting.flush (((hin.keeps hdata).advance (hdata.windowFits hw) ?_).keeps hack)
        (hack.windowFits (hdata.windowFits hw))
      rw [hdata.rcvCur]
      exact not_not.1 hnext
    · exact hin.keeps (hdata.trans (discardOpen_quiet _ _).keeps)

/-- So is one that was acknowledged. -/
theorem newPacketAcked_reordered {e : Env} {p : CspPacket} {w : World}
    (hin : Reordered e.host w.conn.rdp) (hw : w.conn.rdp.WindowFits)
    (hseq : w.conn.rdp.seqValid (rxHeader e.host p) = true) :
    Reordered e.host (newPacketAcked e (rxHeader e.host p) (rxPacket e.host p) w).conn.rdp := by
  have hstore : Keeps w (storeAck (rxHeader e.host p) w) := (storeAck_calm _ w).keeps rfl
  unfold newPacketAcked
  simp only
  split
  · refine hin.keeps (hstore.trans (Keeps.trans ?_ (discardOpen_quiet _ _).keeps))
    split
    · exact (cspRdpFlushEack_quiet e _ _).keeps
    · exact .refl _
  · split
    · exact hin.keeps (hstore.trans (discardOpen_quiet _ _).keeps)
    · rename_i hl
      rw [length_rxPacket, Nat.not_le] at hl
      exact newPacketData_reordered (hin.keeps hstore) (hstore.windowFits hw) hseq
        (Nat.le_of_lt hl)

/-- What a packet does to the stored ones. -/
inductive Stores (e : Env) (p : CspPacket) (w : World) : World → Prop
  | keeps {w' : World} (h : Keeps w w') : Stores e p w w'
  /-- A SYN starts over with other numbers. -/
  | syn {w' : World} (hs : (rxHeader e.host p).syn = true)
      (h : w'.conn.rdp.rxQueue.items.Subperm w.conn.rdp.rxQueue.items) : Stores e p w w'
  /-- The packet passed the checks of an open connection. -/
  | acked (hst : w.conn.rdp.state = .rdpSynRcvd ∨ w.conn.rdp.state = .rdpOpen)
      (hp : w.conn.rdp.Passes (rxHeader e.host p)) :
      Stores e p w (newPacketAcked e (rxHeader e.host p) (rxPacket e.host p)
        { w with conn.rdp.state := .rdpOpen })

/-- RST stores nothing. -/
theorem newPacketRst_keeps (e : Env) (h : RdpHeader) (p : CspPacket) (w : World) :
    Keeps w (newPacketRst e h p w) := by
  refine Keeps.trans ?_ (newPacketRst_closes e h p w).keeps
  split
  · exact (storeAck_calm h w).keeps rfl
  · exact .refl w

/-- In `RDP_CLOSED` a SYN may change the window, and nothing is stored. -/
theorem newPacketClosed_keeps (e : Env) (h : RdpHeader) (p : CspPacket) (w : World) :
    (h.syn = true ∧ (newPacketClosed e h p w).conn.rdp.rxQueue.items.Subperm
        w.conn.rdp.rxQueue.items) ∨ Keeps w (newPacketClosed e h p w) := by
  cases hsyn : h.syn with
  | true => exact .inl ⟨rfl, (newPacketClosed_syn e hsyn p w).stored⟩
  | false => exact .inr (newPacketClosed_closes e hsyn p w).keeps

/-- Nor is anything in `RDP_SYN_SENT`. -/
theorem newPacketSynSent_keeps (e : Env) (h : RdpHeader) (p : CspPacket) (w : World) :
    (h.syn = true ∧ (newPacketSynSent e h p w).conn.rdp.rxQueue.items.Subperm
        w.conn.rdp.rxQueue.items) ∨ Keeps w (newPacketSynSent e h p w) := by
  have hpost : ∀ v : World, Keeps v (discardOpen p (txWaitPost v)) := fun v =>
    have hsem : Keeps v (txWaitPost v) := ⟨rfl, rfl, .refl _⟩
    hsem.trans (discardOpen_quiet p _).keeps
  rcases newPacketSynSent_cases e h p w with ⟨hsyn, -, v, hq, hw⟩ | ⟨v, hq, hw⟩ | hw
  · rw [hw]
    exact .inl ⟨hsyn, (hq.keeps.trans (hpost v)).stored⟩
  · rw [hw]
    exact .inr (hq.keeps.trans (hpost v))
  · exact .inr hw.keeps

/-- **A packet is kept out, starts over, or passed the checks.** -/
theorem cspRdpNewPacket_stores (e : Env) (p : CspPacket) (w : World) :
    Stores e p w (cspRdpNewPacket e p w) := by
  refine cspRdpNewPacket_induct (P := Stores e p w) (fun _ => .keeps (newPacketRst_keeps e _ _ w))
    (fun _ _ => ?_) (fun _ _ => ?_) (fun _ hst => ?_) fun _ _ => ?_
  · rcases newPacketClosed_keeps e (rxHeader e.host p) (rxPacket e.host p) w with ⟨hs, h⟩ | h
    · exact .syn hs h
    · exact .keeps h
  · rcases newPacketSynSent_keeps e (rxHeader e.host p) (rxPacket e.host p) w with ⟨hs, h⟩ | h
    · exact .syn hs h
    · exact .keeps h
  · refine newPacketOpen_induct (P := Stores e p w) (.keeps (discardClose_closes e _ w).keeps)
      (.keeps (discardOpen_quiet _ w).keeps) ?_ (fun hp hst' _ => .acked (.inl hst') hp)
      fun hp hst' => ?_
    · have hout := outsideWindow_sends e w
      exact .keeps ((Keeps.of_inbound hout.inbound (congrArg Control.windowSize hout.control)).trans
        (discardOpen_quiet _ _).keeps)
    · have hopen := hst.resolve_left hst'
      have hw : { w with conn.rdp.state := .rdpOpen } = w := by rw [← hopen]
      have h := Stores.acked (e := e) (p := p) (w := w) (.inr hopen) hp
      rwa [hw] at h
  · rcases newPacketCloseWait_cases e (rxHeader e.host p) (rxPacket e.host p) w with
      hw | ⟨-, -, -, hw⟩
    · rw [hw]
      exact .keeps (discardOpen_quiet _ w).keeps
    · rw [hw]
      have hq : Quiet (storeAck (rxHeader e.host p) w) _ := cspRdpSendCmp_none_quiet (e := e)
        (f := .rstAck) (s := w.conn.rdp.sndNxt) (a := w.conn.rdp.rcvCur) fun _ => rfl
      exact .keeps (((storeAck_calm _ w).keeps rfl).trans (hq.trans (discardOpen_quiet _ _)).keeps)

/-- The window size comes with the SYN. -/
theorem cspRdpNewPacket_windowSize {e : Env} {p : CspPacket} (w : World)
    (hsyn : (rxHeader e.host p).syn = false) :
    (cspRdpNewPacket e p w).conn.rdp.windowSize = w.conn.rdp.windowSize := by
  have hstep := cspRdpNewPacket_step e p w
  change (cspRdpNewPacket e p w).control.windowSize = w.control.windowSize
  generalize (cspRdpNewPacket e p w).control = c at hstep
  cases hstep with
  | passive _ hs _ _ => exact absurd (hsyn.symm.trans hs) Bool.false_ne_true
  | _ => rfl

/-- **A packet without SYN keeps the order.** -/
theorem Reordered.packet {e : Env} {p : CspPacket} {w : World} (hin : Reordered e.host w.conn.rdp)
    (hw : w.conn.rdp.WindowFits) (hsyn : (rxHeader e.host p).syn = false) :
    Reordered e.host (cspRdpNewPacket e p w).conn.rdp := by
  have hstores := cspRdpNewPacket_stores e p w
  generalize cspRdpNewPacket e p w = w' at hstores
  cases hstores with
  | keeps h => exact hin.keeps h
  | syn hs _ => exact absurd (hsyn.symm.trans hs) Bool.false_ne_true
  | acked _ hp =>
    have hopen : Keeps w { w with conn.rdp.state := .rdpOpen } := ⟨rfl, rfl, .refl _⟩
    exact newPacketAcked_reordered (hin.keeps hopen) (hopen.windowFits hw) hp.seqNr

/-! ### Steps and runs -/

/-- Sending stores nothing. -/
theorem cspSendCommit_keeps (e : Env) (p : CspPacket) (w : World) :
    Keeps w (cspSendCommit e p w) := by
  cases cspSendCommit_sending e p w with
  | refused h => exact h.keeps
  | sent _ _ _ _ _ hc hi => exact .of_inbound hi (congrArg Control.windowSize hc)

/-- Nor does a sender that goes on. -/
theorem txWaitTake_keeps (w : World) : Keeps w (txWaitTake w) := ⟨rfl, rfl, .refl _⟩

/-- Nor does a failed `csp_rdp_connect`. -/
theorem connectError_keeps (w : World) : Keeps w (connectError w).2 := ⟨rfl, rfl, .refl _⟩

/-- Nor does its SYN. -/
theorem connectStart_keeps (e : Env) (w : World) : Keeps w (connectStart e w) :=
  ⟨rfl, rfl, .refl _⟩

/-- Nor does the second attempt. -/
theorem connectRetry_keeps (e : Env) (w : World) : Keeps w (connectRetry e w).2 :=
  connectRetry_induct (P := Keeps w) (fun v h => h.trans (connectStart_keeps e v))
    (fun v h => h.trans (cspRdpSendSyn_quiet e v).keeps)
    (fun v h => h.trans (connectError_keeps v)) (.refl w)

/-- Nor does a task that waited in it. -/
theorem cspRdpConnectWoken_keeps (e : Env) (retry : Bool) (w : World) :
    Keeps w (cspRdpConnectWoken e retry w).2 :=
  cspRdpConnectWoken_induct (P := Keeps w) (fun v h => h.trans (connectStart_keeps e v))
    (fun v h => h.trans (cspRdpSendSyn_quiet e v).keeps)
    (fun v h => h.trans (connectError_keeps v))
    (fun v h => h.trans (cspRdpFlushAll_closes v).keeps) retry (.refl w)

/-- Nor does a look at the timeouts. -/
theorem cspRdpCheckTimeouts_keeps (e : Env) (w : World) : Keeps w (cspRdpCheckTimeouts e w) := by
  refine (cspRdpCheckTimeouts_calm e w).keeps ?_
  change (cspRdpCheckTimeouts e w).control.windowSize = w.control.windowSize
  rcases cspRdpCheckTimeouts_control e w with ⟨st, -, h⟩ | ⟨-, h⟩ <;> rw [h]

/-- **Of the calls that are no packet only a new `csp_rdp_connect` moves the window**, and it
stores nothing either. -/
theorem step_keeps {e : Env} {s t : Endpoint} {i : Input} (hst : step e s i = some t)
    (hp : ∀ p, i ≠ .packet p) :
    t.rdp.rxQueue.items.Subperm s.rdp.rxQueue.items ∧
      (i.isConnect = false → Keeps s.world t.world) := by
  have hkeeps : Keeps s.world t.world → t.rdp.rxQueue.items.Subperm s.rdp.rxQueue.items ∧
      (i.isConnect = false → Keeps s.world t.world) := fun h => ⟨h.stored, fun _ => h⟩
  obtain ⟨w, task⟩ := s
  cases step_stepped hst with
  | packet => exact absurd rfl (hp _)
  | checkTimeouts => exact hkeeps (cspRdpCheckTimeouts_keeps e w)
  | checkAck => exact hkeeps (cspRdpCheckAck_quiet e w).keeps
  | read =>
    obtain ⟨hcalm, hc⟩ := cspRead_calm e w
    exact hkeeps (hcalm.keeps (congrArg Control.windowSize hc))
  | close => exact hkeeps (cspClose_closes e w).keeps
  | send p =>
    exact hkeeps (sendEnter_world (P := Keeps w) (.refl w) (txWaitTake_keeps w)
      (cspSendCommit_keeps e p w))
  | sendWake p _ => exact hkeeps ((txWaitTake_keeps w).trans (cspSendCommit_keeps e p _))
  | sendTimeout => exact hkeeps (.refl w)
  | connect =>
    refine ⟨?_, fun h => absurd h (by decide)⟩
    rw [Endpoint.rdp, connectEnter_world]
    exact (connectRetry_keeps e (applyOptions e w)).stored
  | connectWake retry _ =>
    refine hkeeps ?_
    rw [connectEnter_world]
    exact (txWaitTake_keeps w).trans (cspRdpConnectWoken_keeps e retry _)
  | connectTimeout => exact hkeeps (connectError_keeps w)

/-- Packets without SYN, and every call but a new `csp_rdp_connect`. -/
def Ongoing (e : Env) : Input → Prop
  | .packet p => (rxHeader e.host p).syn = false
  | i => i.isConnect = false

instance (e : Env) (i : Input) : Decidable (Ongoing e i) :=
  match i with
  | .packet _ => inferInstanceAs (Decidable (_ = _))
  | .checkTimeouts | .checkAck | .read | .send _ | .sendWake | .sendTimeout | .connect
  | .connectWake | .connectTimeout | .close => inferInstanceAs (Decidable (_ = _))

/-- **A step keeps the order** and the window size. -/
theorem Reordered.step {e : Env} {s t : Endpoint} {i : Input} (hin : Reordered e.host s.rdp)
    (hw : s.rdp.WindowFits) (hi : Ongoing e i) (hst : step e s i = some t) :
    Reordered e.host t.rdp ∧ t.rdp.WindowFits := by
  have hkeeps : Keeps s.world t.world → Reordered e.host t.rdp ∧ t.rdp.WindowFits := fun h =>
    ⟨hin.keeps h, h.windowFits hw⟩
  cases i with
  | packet p =>
    obtain rfl := Option.some.inj hst
    refine ⟨hin.packet hw hi, ?_⟩
    unfold Rdp.WindowFits
    rwa [Endpoint.rdp, cspRdpNewPacket_windowSize s.world hi]
  | _ => exact hkeeps ((step_keeps hst nofun).2 hi)

/-- Before the connection is open nothing is stored; the packet that opens it may be. -/
def Opening (o : ByteOrder) (s : Endpoint) : Prop :=
  s.rdp.rxQueue.items = [] ∨ (s.rdp.state = .rdpOpen ∧ (s.rdp.WindowFits → Reordered o s.rdp))

/-- An empty reorder queue is in the window. -/
theorem reordered_nil {o : ByteOrder} {rdp : Rdp} (h : rdp.rxQueue.items = []) :
    Reordered o rdp := by
  refine ⟨?_, ?_, ?_⟩ <;> rw [h]
  · exact List.nodup_nil
  · exact fun x hx => absurd hx List.not_mem_nil
  · exact fun x hx => absurd hx List.not_mem_nil

/-- **A step of a connection that is not open yet.** -/
theorem Opening.step {e : Env} {s t : Endpoint} {i : Input} (h : Opening e.host s)
    (hopen : s.rdp.state ≠ .rdpOpen) (hst : LibCSP.step e s i = some t) : Opening e.host t := by
  have hempty : s.rdp.rxQueue.items = [] := h.resolve_right fun h => hopen h.1
  have hsub : t.rdp.rxQueue.items.Subperm s.rdp.rxQueue.items → Opening e.host t := fun h => by
    rw [hempty, List.subperm_nil] at h
    exact .inl h
  cases i with
  | packet p =>
    obtain rfl := Option.some.inj hst
    have hstores := cspRdpNewPacket_stores e p s.world
    generalize cspRdpNewPacket e p s.world = w' at hstores hsub
    cases hstores with
    | keeps h => exact hsub h.stored
    | syn _ h => exact hsub h
    | acked _ hp =>
      have hc := newPacketAcked_control e (rxHeader e.host p) (rxPacket e.host p)
        { s.world with conn.rdp.state := .rdpOpen }
      refine .inr ⟨congrArg Control.state hc, fun hw => ?_⟩
      refine newPacketAcked_reordered (reordered_nil hempty) ?_ hp.seqNr
      unfold Rdp.WindowFits at hw ⊢
      rwa [Endpoint.rdp, show (newPacketAcked e (rxHeader e.host p) (rxPacket e.host p)
        { s.world with conn.rdp.state := .rdpOpen }).conn.rdp.windowSize =
          s.world.conn.rdp.windowSize from congrArg Control.windowSize hc] at hw
  | _ => exact hsub (step_keeps hst nofun).1

/-- A connection that has come to `RDP_OPEN`, with nothing stored when its handshake began:
`csp_rdp_allocate` makes the queue and `csp_rdp_flush_all` empties it. -/
structure CameOpen (e : Env) (s : Endpoint) : Prop where
  state : s.rdp.state = .rdpOpen
  handshake : ∃ s₀ is, s₀.rdp.rxQueue.items = [] ∧
    Run (step e) (fun s _ => s.rdp.state ≠ .rdpOpen) s₀ is s

/-- A connection that has come open begins with such a queue. -/
theorem CameOpen.reordered {e : Env} {s : Endpoint} (h : CameOpen e s) (hw : s.rdp.WindowFits) :
    Reordered e.host s.rdp := by
  obtain ⟨s₀, is, hempty, hrun⟩ := h.handshake
  have hopening : Opening e.host s := hrun.invariant (P := Opening e.host)
    (fun _ _ _ ht hopen hst => ht.step hopen hst) (.inl hempty)
  rcases hopening with h | h
  · exact reordered_nil h
  · exact h.2 hw

/-- **The reorder queue, in every run.**  From a connection that has come to `RDP_OPEN` with a
window that fits, the numbers stored are different and in order between any two calls; and
`csp_rdp_rx_queue_flush` ends on every queue and releases the longest row behind `rcv_cur` in
the order of its numbers, leaving the others. -/
theorem reorder_queue (e : Env) :
    (∀ (s t : Endpoint) (is : List Input), CameOpen e s → s.rdp.WindowFits →
      Run (step e) (fun _ i => Ongoing e i) s is t → Reordered e.host t.rdp) ∧
    ∀ w : World, ∃ xs, Flushed e w xs (cspRdpRxQueueFlush e w) ∧
      Released e.host w.conn.rdp xs (cspRdpRxQueueFlush e w).conn.rdp := by
  refine ⟨fun s t is hopen hw hrun => ?_, cspRdpRxQueueFlush_released e⟩
  exact (hrun.invariant (P := fun t => Reordered e.host t.rdp ∧ t.rdp.WindowFits)
    (fun _ _ _ ht hi hst => ht.1.step ht.2 hi hst) ⟨hopen.reordered hw, hw⟩).1

/-- A data packet with this number, for a connection that has sent only its SYN. -/
def earlySegment (seqNr : U16) : Input := .packet (segment .ackOnly seqNr 0 [7])

/-- A SYN/ACK numbered 200 opens the active side.  204 and 202 come early, 201 releases 202, and
205 waits behind 204. -/
theorem reorder_queue_fresh : ∃ s t, CameOpen (.favourable .big) s ∧
    Run (step (.favourable .big)) (fun _ i => Ongoing (.favourable .big) i) s
      [earlySegment 204, .connectWake, earlySegment 202, earlySegment 201, earlySegment 205] t ∧
    t.rdp.rcvCur = 202 ∧ t.rdp.rxQueue.size = 2 ∧ Reordered .big t.rdp := by
  have hopened : ∃ s, Run (step (.favourable .big)) (fun s _ => s.rdp.state ≠ .rdpOpen) .fresh
      [.connect, .packet (segment .synAck 200 0 [])] s ∧
      (decide (s.rdp.state = .rdpOpen ∧ s.rdp.windowSize = 4) &&
        (exec (step (.favourable .big)) (fun _ i => Ongoing (.favourable .big) i) s
          [earlySegment 204, .connectWake, earlySegment 202, earlySegment 201,
            earlySegment 205]).any fun t =>
              decide (t.rdp.rcvCur = 202 ∧ t.rdp.rxQueue.size = 2)) = true := by
    refine Run.of_any ?_
    decide +kernel
  obtain ⟨s, hs, hp⟩ := hopened
  rw [Bool.and_eq_true, decide_eq_true_iff] at hp
  obtain ⟨⟨hstate, hwin⟩, hany⟩ := hp
  have hcame : CameOpen (.favourable .big) s := ⟨hstate, .fresh, _, rfl, hs⟩
  have hfits : s.rdp.WindowFits := by
    unfold Rdp.WindowFits
    rw [hwin]
    decide
  obtain ⟨t, hrun, ht⟩ := Run.of_any hany
  obtain ⟨hcur, hsize⟩ := of_decide_eq_true ht
  exact ⟨s, t, hcame, hrun, hcur, hsize, (reorder_queue _).1 s t _ hcame hfits hrun⟩

end LibCSP
