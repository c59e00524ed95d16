/-
# Extended acknowledgements

`csp_rdp_send_eack` writes the number of every stored packet into `data16`, one behind the other,
and the header behind them; `csp_rdp_flush_eack` takes as many entries as fit in front of a
header.  Stored packets have their header in host order, elements of the retransmit queue in
network order, and an entry is in network order, so both ends read the numbers in `EackLists`:
two bytes each, the high one first.  What one end has stored, the other frees
(`eack_round_trip`).

The loop over the entries also marks an element that no entry names to be resent at once, when
it finds a number beyond it (`cspRdpFlushEack_marks`).  The sequence numbers are compared there as
integers, not by `csp_rdp_seq_before`: where the numbers wrap, elements behind a gap are passed
over and elements in front of it are resent (`flushEack_marks_iff`).
-/

import LibCSP.Rdp.Retention
import LibCSP.Rdp.Safety

namespace LibCSP

open Basis

/-! ### The entries on the wire -/

/-- `data16[j]` in network order. -/
def wireEntry (p : CspPacket) (j : ℕ) : U16 := word16 (p.data (2 * j)) (p.data (2 * j + 1))

/-- The first bytes of the data are these numbers. -/
def EackLists (p : CspPacket) (seqs : List U16) : Prop :=
  ∀ j (h : j < seqs.length), wireEntry p j = seqs[j]

/-- Every host reads the same entry. -/
theorem hton16_data16 (o : ByteOrder) (p : CspPacket) (j : ℕ) :
    hton16 o (p.data16 o j) = wireEntry p j := hton16_load16 o _ _

/-- An entry is a property of its two bytes. -/
theorem wireEntry_congr {p q : CspPacket} {j n : ℕ} (hdata : ∀ i, i < n → q.data i = p.data i)
    (hj : 2 * j + 1 < n) : wireEntry q j = wireEntry p j := by
  unfold wireEntry
  rw [hdata (2 * j) (by omega), hdata (2 * j + 1) hj]

/-- Storing one number: the entries before it stay. -/
theorem wireEntry_eackEntry {o : ByteOrder} {eack : CspPacket} {m : ℕ} (x : CspPacket)
    (hm : eack.length.toNat = 2 * m) (j : ℕ) :
    wireEntry (eackEntry o eack x) j = if j = m then hostSeq o x else wireEntry eack j := by
  have hhalf : eack.length.toNat / 2 = m := by omega
  have hdata : ∀ i, (eackEntry o eack x).data i = if 2 * m ≤ i ∧ i < 2 * m + 2 then
      byte16 o (hton16 o (hostSeq o x)) (i - 2 * m) else eack.data i := by
    intro i
    unfold eackEntry CspPacket.setData16 hostSeq
    simp only [hhalf]
  unfold wireEntry
  rw [hdata, hdata]
  by_cases hj : j = m
  · subst hj
    obtain ⟨hhigh, hlow⟩ := byte16_hton16 o (hostSeq o x)
    rw [if_pos (by omega), if_pos (by omega), if_pos rfl, Nat.sub_self, Nat.add_sub_cancel_left,
      hhigh, hlow, word16_byteOf]
  · rw [if_neg (by omega), if_neg (by omega), if_neg hj]

/-- The loop of `csp_rdp_send_eack` appends the numbers of the stored packets. -/
theorem foldl_eackEntry {o : ByteOrder} {eack : CspPacket} {seqs : List U16}
    {xs : List CspPacket} (hlen : eack.length.toNat = 2 * seqs.length)
    (hlists : EackLists eack seqs) (hfit : 2 * (seqs.length + xs.length) < 2 ^ 16) :
    (xs.foldl (eackEntry o) eack).length.toNat = 2 * (seqs.length + xs.length) ∧
      EackLists (xs.foldl (eackEntry o) eack) (seqs ++ xs.map (hostSeq o)) := by
  induction xs generalizing eack seqs with
  | nil => exact ⟨hlen, by rwa [List.map_nil, List.append_nil]⟩
  | cons x xs ih =>
    rw [List.length_cons] at hfit
    have hlen' : (eackEntry o eack x).length.toNat = 2 * (seqs ++ [hostSeq o x]).length := by
      show (eack.length + 2).toNat = _
      rw [BitVec.toNat_add, show (2 : U16).toNat = 2 from rfl, hlen, List.length_append,
        List.length_singleton, Nat.mod_eq_of_lt (by omega)]
      omega
    have hlists' : EackLists (eackEntry o eack x) (seqs ++ [hostSeq o x]) := by
      intro j hj
      rw [List.length_append, List.length_singleton] at hj
      rw [wireEntry_eackEntry x hlen, List.getElem_append]
      by_cases hlast : j = seqs.length
      · rw [if_pos hlast, dif_neg (by omega), List.getElem_singleton]
      · rw [if_neg hlast, dif_pos (by omega)]
        exact hlists j (by omega)
    obtain ⟨h₁, h₂⟩ := ih hlen' hlists' (by
      rw [List.length_append, List.length_singleton]
      omega)
    rw [List.append_assoc] at h₂
    refine ⟨?_, h₂⟩
    rw [List.foldl_cons, h₁, List.length_append, List.length_singleton, List.length_cons]
    omega

/-- The packet goes to the interface, or back to the pool. -/
theorem cspRdpSendNow_log (e : Env) (p : CspPacket) (f : RdpFlags) (a : U16) (w : World) :
    (cspRdpSendNow e p f a w).2.log = w.log ++
      if e.sendDirect w.tick then [.transmit { p with id := w.conn.idout }] else [.free p.buf] := by
  rcases cspRdpSendNow_cases e p f a w with ⟨hs, -, now, h⟩ | ⟨hs, -, h⟩ | ⟨hs, h⟩ <;>
    rw [h, hs] <;> rfl

/-- **What `csp_rdp_send_eack` transmits** lists the stored packets, which stay where they were. -/
theorem cspRdpSendEack_lists (e : Env) (w : World) :
    (cspRdpSendEack e w).2.conn.rdp.rxQueue = w.conn.rdp.rxQueue ∧
      ∀ q, Event.transmit q ∈ (cspRdpSendEack e w).2.log.drop w.log.length →
        q.length.toNat = 2 * w.conn.rdp.rxQueue.size + sizeofRdpHeader ∧
          EackLists q (w.conn.rdp.rxQueue.items.map (hostSeq e.host)) := by
  refine ⟨congrArg Inbound.reorder (cspRdpSendEack_quiet e w).inbound, ?_⟩
  intro q hq
  have hcap := w.conn.rdp.rxQueue.le
  rcases cspRdpSendEack_cases e w with hb | ⟨b, hb⟩
  · rw [hb] at hq
    simp [World.next] at hq
  · rw [hb] at hq
    obtain ⟨eack, heack⟩ : ∃ eack, eack = w.conn.rdp.rxQueue.items.foldl (eackEntry e.host)
      { b with length := 0 } := ⟨_, rfl⟩
    obtain ⟨hlen, hlists⟩ := @foldl_eackEntry e.host { b with length := 0 } []
      w.conn.rdp.rxQueue.items rfl (fun j hj => absurd hj (Nat.not_lt_zero j))
      (by
        unfold cspRdpMaxWindow at hcap
        rw [List.length_nil]
        omega)
    rw [← heack, List.length_nil, Nat.zero_add] at hlen
    rw [← heack, List.nil_append] at hlists
    rw [← heack] at hq
    obtain ⟨tx, htx⟩ : ∃ tx, tx = cspRdpHeaderAdd e.host eack ⟨RdpFlags.ackEak.byte,
      hton16 e.host w.conn.rdp.sndNxt, hton16 e.host w.conn.rdp.rcvCur⟩ := ⟨_, rfl⟩
    have hq' : q = { tx with id := w.conn.idout } := by
      unfold cspRdpSendCmp cspRdpSendPacket at hq
      simp only [RdpFlags.ackEak, Bool.false_eq_true, if_false, cspRdpSendNow_log, World.emit_log,
        List.append_assoc] at hq
      unfold RdpFlags.ackEak at htx
      rw [← htx, show w.next.log = w.log from rfl, List.drop_left] at hq
      split at hq
      · simpa using hq
      · simp at hq
    have hsize : w.conn.rdp.rxQueue.size = w.conn.rdp.rxQueue.items.length := rfl
    have hadd : tx.length.toNat = eack.length.toNat + 5 := by
      rw [htx, length_headerAdd]
      unfold cspRdpMaxWindow at hcap
      omega
    refine ⟨?_, fun j hj => ?_⟩
    · rw [hq', hsize, sizeofRdpHeader]
      exact hadd.trans (by rw [hlen])
    rw [List.length_map] at hj
    have hbelow : ∀ i, i < eack.length.toNat → q.data i = eack.data i := by
      intro i hi
      rw [hq', htx]
      exact if_neg (by omega)
    rw [wireEntry_congr hbelow (by omega)]
    exact hlists j (by rwa [List.length_map])

/-! ### Taking the listed elements out -/

/-- The sequence number of a packet whose header is in network order. -/
def netSeq (o : ByteOrder) (p : CspPacket) : U16 := hton16 o (cspRdpHeaderRef o p).seqNr

/-- Converting the header does not touch the entries in front of it. -/
theorem wireEntry_rxPacket {o : ByteOrder} {p : CspPacket} {j : ℕ}
    (hj : 2 * j + 1 < p.length.toNat - 5) : wireEntry (rxPacket o p) j = wireEntry p j := by
  refine wireEntry_congr (n := p.length.toNat - 5) (fun i hi => ?_) hj
  rw [rxPacket, cspRdpHeaderStore_of_le (by omega)]
  exact if_neg (by omega)

/-- The EACK lists what is stored. -/
theorem listedBy_iff {o : ByteOrder} {eack : CspPacket} {seqs : List U16}
    (hlen : eack.length.toNat = 2 * seqs.length + sizeofRdpHeader) (hlists : EackLists eack seqs)
    (x : CspPacket) : listedBy o eack x = true ↔ netSeq o x ∈ seqs := by
  have hcount : (eack.length.toNat - sizeofRdpHeader) / 2 = seqs.length := by omega
  unfold listedBy netSeq
  rw [hcount, List.any_eq_true, List.mem_iff_getElem]
  constructor
  · rintro ⟨j, hj, heq⟩
    rw [List.mem_range] at hj
    rw [beq_iff_eq, hton16_data16, hlists j hj] at heq
    exact ⟨j, hj, heq⟩
  · rintro ⟨j, hj, heq⟩
    refine ⟨j, List.mem_range.2 hj, ?_⟩
    rw [beq_iff_eq, hton16_data16, hlists j hj]
    exact heq

/-- `y` is the element `x`, with other times. -/
def Timed (x y : CspPacket) : Prop := ∃ t q, y = { x with timestamp := t, quarantine := q }

/-- An element is itself, without a new time. -/
theorem Timed.refl (x : CspPacket) : Timed x x := ⟨x.timestamp, x.quarantine, rfl⟩

/-- An element that was given a time twice. -/
theorem Timed.trans {x y z : CspPacket} (hxy : Timed x y) (hyz : Timed y z) : Timed x z := by
  obtain ⟨t, q, rfl⟩ := hxy
  obtain ⟨t', q', rfl⟩ := hyz
  exact ⟨t', q', rfl⟩

/-- The comparisons change the times of an element and nothing else. -/
theorem eackCompare_foldl_timed (e : Env) (eack : CspPacket) (js : List ℕ)
    (s : Bool × CspPacket × World) :
    Timed s.2.1 (js.foldl (eackCompare e eack) s).2.1 ∧
      (js.foldl (eackCompare e eack) s).2.2.log = s.2.2.log := by
  induction js generalizing s with
  | nil => exact ⟨.refl _, rfl⟩
  | cons j js ih =>
    obtain ⟨h₁, h₂⟩ := ih (eackCompare e eack s j)
    have hone : Timed s.2.1 (eackCompare e eack s j).2.1 ∧
        (eackCompare e eack s j).2.2.log = s.2.2.log := by
      unfold eackCompare
      simp only
      split
      · split
        · exact ⟨⟨_, _, rfl⟩, rfl⟩
        · exact ⟨.refl _, rfl⟩
      · exact ⟨.refl _, rfl⟩
    exact ⟨hone.1.trans h₁, h₂.trans hone.2⟩

/-- **One element** is freed when it is listed, and put back otherwise. -/
theorem flushEackEntry_outcome (e : Env) (eack : CspPacket) (w : World) (x : CspPacket) :
    if listedBy e.host eack x then
      (flushEackEntry e eack w x).2 = none ∧
        (flushEackEntry e eack w x).1.log = w.log ++ [.free x.buf]
    else
      (∃ y, (flushEackEntry e eack w x).2 = some y ∧ Timed x y) ∧
        (flushEackEntry e eack w x).1.log = w.log := by
  obtain ⟨hmatch, -, -⟩ := eackCompare_foldl e eack
    (List.range ((eack.length.toNat - sizeofRdpHeader) / 2)) (false, x, w)
  obtain ⟨htimed, hlog⟩ := eackCompare_foldl_timed e eack
    (List.range ((eack.length.toNat - sizeofRdpHeader) / 2)) (false, x, w)
  unfold flushEackEntry
  generalize List.foldl _ _ _ = r at hmatch htimed hlog
  obtain ⟨t, q, hy⟩ := htimed
  rw [Bool.false_or] at hmatch
  unfold listedBy
  rw [← hmatch]
  simp only
  cases r.1 with
  | true =>
    refine ⟨rfl, ?_⟩
    show r.2.2.log ++ [.free r.2.1.buf] = _
    rw [hlog, hy]
  | false => exact ⟨⟨r.2.1, rfl, t, q, hy⟩, hlog⟩

/-- **`csp_rdp_flush_eack`** frees the listed elements and keeps the others in order. -/
theorem cspRdpFlushEack_flushes (e : Env) (eack : CspPacket) (w : World) :
    (cspRdpFlushEack e eack w).log = w.log ++
        (w.conn.rdp.txQueue.items.filter (listedBy e.host eack)).map (fun x => .free x.buf) ∧
      List.Forall₂ Timed (w.conn.rdp.txQueue.items.filter fun x => !listedBy e.host eack x)
        (cspRdpFlushEack e eack w).conn.rdp.txQueue.items := by
  have hlog : ∀ xs v, (Queue.sweepList (flushEackEntry e eack) v xs).1.log = v.log ++
      (xs.filter (listedBy e.host eack)).map fun x => .free x.buf := by
    intro xs
    induction xs with
    | nil => exact fun v => (List.append_nil _).symm
    | cons x xs ih =>
      intro v
      have hx := flushEackEntry_outcome e eack v x
      rw [Queue.sweepList, ih, List.filter_cons]
      split at hx
      · rename_i hlisted
        rw [if_pos hlisted, hx.2, List.append_assoc]
        rfl
      · rename_i hlisted
        rw [if_neg hlisted, hx.2]
  obtain ⟨hworld, hitems⟩ := Queue.sweep_size (flushEackEntry e eack) w w.conn.rdp.txQueue
  unfold cspRdpFlushEack
  refine ⟨(congrArg World.log hworld).trans (hlog _ w), ?_⟩
  rw [hitems]
  refine Queue.sweepList_filter (I := fun _ => True) (fun _ _ _ _ => trivial) ?_ ?_ trivial
  · intro v _ x _ hlisted
    have hx := flushEackEntry_outcome e eack v x
    rw [if_pos hlisted] at hx
    exact hx.1
  · intro v _ x _ hlisted
    have hx := flushEackEntry_outcome e eack v x
    rw [hlisted, if_neg Bool.false_ne_true] at hx
    exact hx.1

/-- **What one end has stored, the other frees.**  An EACK as it was transmitted makes the sender
free the elements whose numbers the receiver has in its reorder queue, and no others. -/
theorem eack_round_trip {eR eS : Env} {wR wS : World} {q q' : CspPacket}
    (hsent : Event.transmit q ∈ (cspRdpSendEack eR wR).2.log.drop wR.log.length)
    (hcopy : Copy q' q) :
    (cspRdpSendEack eR wR).2.conn.rdp.rxQueue = wR.conn.rdp.rxQueue ∧
      (cspRdpFlushEack eS (rxPacket eS.host q') wS).log = wS.log ++
        (wS.conn.rdp.txQueue.items.filter fun x =>
          netSeq eS.host x ∈ wR.conn.rdp.rxQueue.items.map (hostSeq eR.host)).map
            (fun x => .free x.buf) ∧
      List.Forall₂ Timed
        (wS.conn.rdp.txQueue.items.filter fun x =>
          netSeq eS.host x ∉ wR.conn.rdp.rxQueue.items.map (hostSeq eR.host))
        (cspRdpFlushEack eS (rxPacket eS.host q') wS).conn.rdp.txQueue.items := by
  obtain ⟨hrx, hlists⟩ := cspRdpSendEack_lists eR wR
  obtain ⟨hlen, hlists⟩ := hlists q hsent
  have hsize : wR.conn.rdp.rxQueue.size =
      (wR.conn.rdp.rxQueue.items.map (hostSeq eR.host)).length := (List.length_map _).symm
  rw [hsize] at hlen
  generalize wR.conn.rdp.rxQueue.items.map (hostSeq eR.host) = seqs at hlen hlists ⊢
  have hlen' : (rxPacket eS.host q').length.toNat = 2 * seqs.length + sizeofRdpHeader := by
    rw [length_rxPacket, hcopy.length, hlen]
  unfold sizeofRdpHeader at hlen
  have hlists' : EackLists (rxPacket eS.host q') seqs := by
    intro j hj
    rw [wireEntry_rxPacket (by rw [hcopy.length]; omega)]
    exact (wireEntry_congr hcopy.data (by omega)).trans (hlists j hj)
  have hlisted : listedBy eS.host (rxPacket eS.host q') =
      fun x => decide (netSeq eS.host x ∈ seqs) := funext fun x =>
    Bool.eq_iff_iff.2 ((listedBy_iff hlen' hlists' x).trans decide_eq_true_iff.symm)
  obtain ⟨hlog, hkept⟩ := cspRdpFlushEack_flushes eS (rxPacket eS.host q') wS
  rw [hlisted] at hlog hkept
  simp only [← decide_not] at hkept
  exact ⟨hrx, hlog, hkept⟩

/-- A little-endian node has 105 and 103 in its reorder queue. -/
def reordering : World where
  conn := { Conn.opened 200 100 4 with
    rdp.rxQueue := ⟨[rxPacket .little (segment .ackOnly 105 200 [5]),
      rxPacket .little (segment .ackOnly 103 200 [3])], by decide⟩ }
  tick := 0
  log := []

/-- Its big-endian peer has 102, 103 and 104 in its retransmit queue. -/
def retaining : World where
  conn := { Conn.opened 100 200 4 with
    rdp.txQueue := ⟨[segment .ackOnly 102 200 [2], segment .ackOnly 103 200 [3],
      segment .ackOnly 104 200 [4]], by decide⟩ }
  tick := 0
  log := []

/-- A little-endian host lists 105 and 103, and its big-endian peer frees the one of its three
elements that is among them. -/
theorem eack_round_trip_three :
    ∃ q, Event.transmit q ∈ (cspRdpSendEack (.favourable .little) reordering).2.log ∧
      (cspRdpFlushEack (.favourable .big) (rxPacket .big q) retaining).log = [.free 0] ∧
      (cspRdpFlushEack (.favourable .big) (rxPacket .big q) retaining).conn.rdp.txQueue.size =
        2 := by
  obtain ⟨q, hq⟩ : ∃ q, Event.transmit q ∈
      (cspRdpSendEack (.favourable .little) reordering).2.log.drop reordering.log.length :=
    ⟨_, List.mem_cons_of_mem _ List.mem_cons_self⟩
  obtain ⟨-, hlog, hkept⟩ := @eack_round_trip _ (.favourable .big) _ retaining q q hq
    ⟨rfl, fun _ _ => rfl⟩
  have hbufs : (retaining.conn.rdp.txQueue.items.filter fun x => netSeq .big x ∈
      reordering.conn.rdp.rxQueue.items.map (hostSeq .little)).map CspPacket.buf = [0] := by
    decide +kernel
  exact ⟨q, hq, hlog.trans (List.map_map.symm.trans (congrArg (List.map Event.free) hbufs)),
    hkept.length_eq.symm.trans (by decide +kernel)⟩

/-! ### Marking for retransmission -/

/-- The number of entries in front of the header. -/
def eackEntries (eack : CspPacket) : ℕ := (eack.length.toNat - sizeofRdpHeader) / 2

/-- Comparison `j` marks the element to be sent at once. -/
def EackMarks (e : Env) (eack : CspPacket) (s : Bool × CspPacket × World) (j : ℕ) : Prop :=
  netSeq e.host s.2.1 < wireEntry eack j ∧
    cspRdpTimeAfter (cspGetMs e s.2.2).1 s.2.1.quarantine = true

/-- An element that is met in world `w` is marked. -/
def Marked (e : Env) (eack : CspPacket) (w : World) (x : CspPacket) : Prop :=
  ∃ j < eackEntries eack,
    EackMarks e eack ((List.range j).foldl (eackCompare e eack) (false, x, w)) j

/-- The clock at comparison `j`: it is read once for each entry that is larger than the number. -/
def eackClock (e : Env) (eack : CspPacket) (w : World) (x : CspPacket) (j : ℕ) : U32 :=
  e.getMs (w.tick + (List.range j).countP fun i => netSeq e.host x < wireEntry eack i)

/-- The quarantine of the element is over at comparison `j`. -/
def Expired (e : Env) (eack : CspPacket) (w : World) (x : CspPacket) (j : ℕ) : Prop :=
  cspRdpTimeAfter (eackClock e eack w x j) x.quarantine = true

instance (e : Env) (eack : CspPacket) (s : Bool × CspPacket × World) (j : ℕ) :
    Decidable (EackMarks e eack s j) := inferInstanceAs (Decidable (_ ∧ _))

/-- One comparison in terms of the wire: a mark leaves the element no time, and a new quarantine. -/
theorem eackCompare_eq (e : Env) (eack : CspPacket) (s : Bool × CspPacket × World) (j : ℕ) :
    eackCompare e eack s j = (s.1 || wireEntry eack j == netSeq e.host s.2.1,
      if EackMarks e eack s j then { s.2.1 with
          timestamp := (cspGetMs e s.2.2).1 - s.2.2.conn.rdp.packetTimeout - 1
          quarantine := (cspGetMs e s.2.2).1 + s.2.2.conn.rdp.packetTimeout / 2 }
        else s.2.1,
      if netSeq e.host s.2.1 < wireEntry eack j then s.2.2.next else s.2.2) := by
  unfold eackCompare EackMarks
  simp only [hton16_data16]
  unfold netSeq
  by_cases hlt : hton16 e.host (cspRdpHeaderRef e.host s.2.1).seqNr < wireEntry eack j
  · by_cases hover : cspRdpTimeAfter (cspGetMs e s.2.2).1 s.2.1.quarantine = true
    · simp only [hlt, hover, if_true, and_self]
      rfl
    · simp only [hlt, hover, if_true]
      rfl
  · simp only [hlt, if_false, false_and]

/-- The number and the clock of the comparisons. -/
theorem eackCompare_range (e : Env) (eack : CspPacket) (w : World) (x : CspPacket) (j : ℕ) :
    netSeq e.host ((List.range j).foldl (eackCompare e eack) (false, x, w)).2.1 =
        netSeq e.host x ∧
      (cspGetMs e ((List.range j).foldl (eackCompare e eack) (false, x, w)).2.2).1 =
        eackClock e eack w x j := by
  have hseq : ∀ j, netSeq e.host ((List.range j).foldl (eackCompare e eack) (false, x, w)).2.1 =
      netSeq e.host x := by
    intro j
    obtain ⟨t, q, hy⟩ := (eackCompare_foldl_timed e eack (List.range j) (false, x, w)).1
    rw [hy]
    rfl
  have htick : ((List.range j).foldl (eackCompare e eack) (false, x, w)).2.2.tick =
      w.tick + (List.range j).countP fun i => netSeq e.host x < wireEntry eack i := by
    induction j with
    | zero => rfl
    | succ j ih =>
      have hnum := hseq j
      rw [List.range_succ, List.foldl_append, List.foldl_cons, List.foldl_nil, List.countP_append,
        List.countP_singleton, ← Nat.add_assoc, ← ih]
      generalize (List.range j).foldl (eackCompare e eack) (false, x, w) = s at hnum
      rw [eackCompare_eq, hnum]
      simp only [decide_eq_true_eq]
      split <;> rfl
  exact ⟨hseq j, congrArg e.getMs htick⟩

/-- Up to its first mark an element is as it was. -/
theorem eackCompare_unmarked {e : Env} {eack : CspPacket} {w : World} {x : CspPacket} {j : ℕ}
    (h : ∀ i < j, ¬EackMarks e eack ((List.range i).foldl (eackCompare e eack) (false, x, w)) i) :
    ((List.range j).foldl (eackCompare e eack) (false, x, w)).2.1 = x := by
  induction j with
  | zero => rfl
  | succ j ih =>
    rw [List.range_succ, List.foldl_append, List.foldl_cons, List.foldl_nil, eackCompare_eq]
    exact (if_neg (h j (Nat.lt_succ_self j))).trans (ih fun i hi => h i (Nat.lt_succ_of_lt hi))

/-- The first mark needs a larger entry while the quarantine is over. -/
theorem eackMarks_iff {e : Env} {eack : CspPacket} {w : World} {x : CspPacket} {j : ℕ}
    (h : ∀ i < j, ¬EackMarks e eack ((List.range i).foldl (eackCompare e eack) (false, x, w)) i) :
    EackMarks e eack ((List.range j).foldl (eackCompare e eack) (false, x, w)) j ↔
      netSeq e.host x < wireEntry eack j ∧ Expired e eack w x j := by
  obtain ⟨hseq, hclock⟩ := eackCompare_range e eack w x j
  unfold EackMarks Expired
  rw [hseq, hclock, eackCompare_unmarked h]

/-- `y` is `x`, marked when the clock reads `now`: its time is up, and a new quarantine begins. -/
def MarkedAt (timeout now : U32) (x y : CspPacket) : Prop :=
  y = { x with timestamp := now - timeout - 1, quarantine := now + timeout / 2 }

/-- **A marked element is overdue** at once. -/
theorem MarkedAt.due {timeout now : U32} {x y : CspPacket} (h : MarkedAt timeout now x y) :
    cspRdpTimeAfter now (y.timestamp + timeout) = true := by
  rw [h]
  show Serial.before (now - timeout - 1 + timeout) now = true
  rw [Serial.before_iff]
  bv_omega

/-- The comparisons leave an element marked if one of them has marked it, and as it was if none
has. -/
theorem eackCompare_range_marks (e : Env) (eack : CspPacket) (w : World) (x : CspPacket) (n : ℕ) :
    (∃ j < n, EackMarks e eack ((List.range j).foldl (eackCompare e eack) (false, x, w)) j) →
      ∃ now, MarkedAt w.conn.rdp.packetTimeout now x
        ((List.range n).foldl (eackCompare e eack) (false, x, w)).2.1 := by
  induction n with
  | zero => exact fun ⟨j, hj, _⟩ => absurd hj (Nat.not_lt_zero j)
  | succ n ih =>
    rintro ⟨j, hj, hmarks⟩
    obtain ⟨t, q, hx⟩ := (eackCompare_foldl_timed e eack (List.range n) (false, x, w)).1
    obtain ⟨-, -, hconn⟩ := eackCompare_foldl e eack (List.range n) (false, x, w)
    rw [List.range_succ, List.foldl_append, List.foldl_cons, List.foldl_nil, eackCompare_eq]
    by_cases hlast : EackMarks e eack ((List.range n).foldl (eackCompare e eack) (false, x, w)) n
    · refine ⟨(cspGetMs e ((List.range n).foldl (eackCompare e eack) (false, x, w)).2.2).1, ?_⟩
      simp only [if_pos hlast]
      rw [hconn, hx]
      rfl
    · have hbefore : j < n := by
        rcases Nat.lt_succ_iff_lt_or_eq.1 hj with hlt | rfl
        · exact hlt
        · exact absurd hmarks hlast
      simp only [if_neg hlast]
      exact ih ⟨j, hbefore, hmarks⟩

/-- **What `csp_rdp_flush_eack` puts back:** the marked elements with no time left, and the others
as they were. -/
theorem cspRdpFlushEack_marks (e : Env) (eack : CspPacket) (w : World) :
    List.Forall₂ (fun r y =>
        (Marked e eack r.1 r.2 → ∃ now, MarkedAt w.conn.rdp.packetTimeout now r.2 y) ∧
          (¬Marked e eack r.1 r.2 → y = r.2))
      ((Queue.sweepStates (flushEackEntry e eack) w w.conn.rdp.txQueue.items).filter fun r =>
        !listedBy e.host eack r.2)
      (cspRdpFlushEack e eack w).conn.rdp.txQueue.items := by
  obtain ⟨-, hitems⟩ := Queue.sweep_size (flushEackEntry e eack) w w.conn.rdp.txQueue
  have hinv : ∀ r ∈ Queue.sweepStates (flushEackEntry e eack) w w.conn.rdp.txQueue.items,
      r.1.conn = w.conn ∧ r.2 ∈ w.conn.rdp.txQueue.items :=
    Queue.sweepStates_invariant (I := fun v => v.conn = w.conn)
      (fun v hv x _ => ((Rotation.flushEack eack).entry_cases e v x).1.trans hv) rfl
  unfold cspRdpFlushEack
  rw [hitems]
  refine Queue.sweepStates_filter (fun r _ hlisted => ?_) fun r hr hlisted => ?_
  · have hx := flushEackEntry_outcome e eack r.1 r.2
    rw [if_pos hlisted] at hx
    exact hx.1
  · obtain ⟨hconn, -⟩ := hinv r hr
    refine ⟨((List.range (eackEntries eack)).foldl (eackCompare e eack) (false, r.2, r.1)).2.1,
      ?_, fun hmarked => ?_, fun hunmarked => ?_⟩
    · obtain ⟨hmatch, -⟩ := eackCompare_foldl e eack (List.range (eackEntries eack))
        (false, r.2, r.1)
      rw [Bool.false_or] at hmatch
      exact congrArg Prod.snd (if_neg (Bool.eq_false_iff.1 (hmatch.trans hlisted)))
    · rw [← hconn]
      exact eackCompare_range_marks e eack r.1 r.2 _ hmarked
    · exact eackCompare_unmarked fun i hi hmarks => hunmarked ⟨i, hi, hmarks⟩

/-- **What is marked:** an element with a larger entry while its quarantine is over. -/
theorem marked_iff (e : Env) (eack : CspPacket) (w : World) (x : CspPacket) :
    Marked e eack w x ↔ ∃ j < eackEntries eack,
      netSeq e.host x < wireEntry eack j ∧ Expired e eack w x j := by
  classical
  constructor
  · intro h
    -- the first comparison that marks
    obtain ⟨hj, hmarks⟩ := Nat.find_spec h
    refine ⟨Nat.find h, hj, (eackMarks_iff fun i hi hi' => ?_).1 hmarks⟩
    exact Nat.find_min h hi ⟨Nat.lt_trans hi hj, hi'⟩
  · rintro ⟨j, hj, hmarks⟩
    by_cases hbefore : ∃ i < j,
        EackMarks e eack ((List.range i).foldl (eackCompare e eack) (false, x, w)) i
    · obtain ⟨i, hi, hi'⟩ := hbefore
      exact ⟨i, Nat.lt_trans hi hj, hi'⟩
    · exact ⟨j, hj, (eackMarks_iff fun i hi hi' => hbefore ⟨i, hi, hi'⟩).2 hmarks⟩

/-- The two numbers are so far apart as integers that the wrap lies between them. -/
def AcrossWrap (s c : U16) : Prop :=
  s.toNat + 2 ^ 15 < c.toNat ∨ c.toNat + 2 ^ 15 ≤ s.toNat

/-- **Where the two orders differ:** exactly across the wrap. -/
theorem lt_iff_seqBefore (s c : U16) :
    (s < c ↔ cspRdpSeqBefore s c = true) ↔ ¬AcrossWrap s c := by
  unfold AcrossWrap
  rw [Serial.before_iff]
  bv_omega

/-- Across the wrap the larger number is the earlier one. -/
theorem AcrossWrap.cases {s c : U16} (h : AcrossWrap s c) :
    s.toNat < 2 ^ 15 ∧ s < c ∧ ¬cspRdpSeqBefore s c = true ∨
      2 ^ 15 ≤ s.toNat ∧ ¬s < c ∧ cspRdpSeqBefore s c = true := by
  unfold AcrossWrap at h
  rw [Serial.before_iff]
  bv_omega

/-- An element that stays is marked when its number is before an entry, in serial order, while its
quarantine is over. -/
def MarksSerially (e : Env) (eack : CspPacket) (w : World) : Prop :=
  ∀ r ∈ Queue.sweepStates (flushEackEntry e eack) w w.conn.rdp.txQueue.items,
    listedBy e.host eack r.2 = false →
      (Marked e eack r.1 r.2 ↔ ∃ j < eackEntries eack,
        cspRdpSeqBefore (netSeq e.host r.2) (wireEntry eack j) = true ∧ Expired e eack r.1 r.2 j)

/-- One number against many: the integers and the serial order find the same unless the entries
across the wrap decide. -/
theorem exists_lt_iff_seqBefore {n : ℕ} {s : U16} {entry : ℕ → U16} {p : ℕ → Prop} :
    ((∃ j < n, s < entry j ∧ p j) ↔ ∃ j < n, cspRdpSeqBefore s (entry j) = true ∧ p j) ↔
      ((∃ j < n, AcrossWrap s (entry j) ∧ p j) →
        ∃ j < n, ¬AcrossWrap s (entry j) ∧ s < entry j ∧ p j) := by
  have hnear : ∀ {c}, ¬AcrossWrap s c → (s < c ↔ cspRdpSeqBefore s c = true) := fun {c} =>
    (lt_iff_seqBefore s c).2
  constructor
  · rintro h ⟨j, hj, hacross, hp⟩
    rcases hacross.cases with ⟨hlow, hlt, -⟩ | ⟨hhigh, -, hbefore⟩
    · obtain ⟨k, hk, hbefore, hp⟩ := h.1 ⟨j, hj, hlt, hp⟩
      have hside : ¬AcrossWrap s (entry k) := fun hk => by
        rcases hk.cases with ⟨-, -, hnot⟩ | ⟨hhigh, -⟩
        · exact hnot hbefore
        · omega
      exact ⟨k, hk, hside, (hnear hside).2 hbefore, hp⟩
    · obtain ⟨k, hk, hlt, hp⟩ := h.2 ⟨j, hj, hbefore, hp⟩
      have hside : ¬AcrossWrap s (entry k) := fun hk => by
        rcases hk.cases with ⟨hlow, -⟩ | ⟨-, hnot, -⟩
        · omega
        · exact hnot hlt
      exact ⟨k, hk, hside, hlt, hp⟩
  · intro h
    constructor
    · rintro ⟨j, hj, hlt, hp⟩
      by_cases hacross : AcrossWrap s (entry j)
      · obtain ⟨k, hk, hside, hlt, hp⟩ := h ⟨j, hj, hacross, hp⟩
        exact ⟨k, hk, (hnear hside).1 hlt, hp⟩
      · exact ⟨j, hj, (hnear hacross).1 hlt, hp⟩
    · rintro ⟨j, hj, hbefore, hp⟩
      by_cases hacross : AcrossWrap s (entry j)
      · obtain ⟨k, hk, hside, hlt, hp⟩ := h ⟨j, hj, hacross, hp⟩
        exact ⟨k, hk, hlt, hp⟩
      · exact ⟨j, hj, (hnear hacross).2 hbefore, hp⟩

/-- **`csp_rdp_flush_eack` respects the wrap** exactly when for each element that stays and has an
entry across the wrap while its quarantine is over, it has such an entry ahead on its own side. -/
theorem flushEack_marks_iff (e : Env) (eack : CspPacket) (w : World) :
    MarksSerially e eack w ↔
      ∀ r ∈ Queue.sweepStates (flushEackEntry e eack) w w.conn.rdp.txQueue.items,
        listedBy e.host eack r.2 = false →
          (∃ j < eackEntries eack, AcrossWrap (netSeq e.host r.2) (wireEntry eack j) ∧
            Expired e eack r.1 r.2 j) →
          ∃ j < eackEntries eack, ¬AcrossWrap (netSeq e.host r.2) (wireEntry eack j) ∧
            netSeq e.host r.2 < wireEntry eack j ∧ Expired e eack r.1 r.2 j := by
  unfold MarksSerially
  simp only [marked_iff, exists_lt_iff_seqBefore]

/-- The numbers lie in one half of the circle, from `base` on. -/
def WithinHalf (base : U16) (o : ByteOrder) (eack : CspPacket) (xs : List CspPacket) : Prop :=
  (∀ x ∈ xs, (netSeq o x - base).toNat < 2 ^ 15) ∧
    ∀ j < eackEntries eack, (wireEntry eack j - base).toNat < 2 ^ 15

/-- 65535 is in the retransmit queue. -/
def wrapping : World where
  conn := { Conn.opened 0xfffe 200 4 with
    rdp.txQueue := ⟨[{ segment .ackOnly 0xffff 200 [1] with quarantine := -1 }], by decide⟩ }
  tick := 0
  log := []

/-- **An element in front of the wrap is passed over.**  The EACK lists 1, so 65535 is missing. -/
theorem flushEack_passes_over :
    ¬ ∀ (e : Env) (eack : CspPacket) (w : World) (base : U16),
      WithinHalf base e.host eack w.conn.rdp.txQueue.items → MarksSerially e eack w := by
  intro h
  have hwithin : WithinHalf 0xffff .big (segment .ackEak 201 0xfffe [0, 1])
      wrapping.conn.rdp.txQueue.items := by
    unfold WithinHalf
    decide +kernel
  have hserial := (h (.favourable .big) _ wrapping 0xffff hwithin _ List.mem_cons_self
    (by decide +kernel)).2 ⟨0, by decide, by decide +kernel, by unfold Expired; decide +kernel⟩
  obtain ⟨j, hj, hmarks, -⟩ := hserial
  have hentries : eackEntries (segment .ackEak 201 0xfffe [0, 1]) = 1 := by decide
  obtain rfl : j = 0 := by omega
  revert hmarks
  decide +kernel

end LibCSP
