/-
# One packet at the receiver

The element of a packet after `k` of its frames have arrived in order
(`TxSession.Partial`): it expects frame `k` next, and holds the bytes in front of
it.  Frame `k` completes the packet or leads to the element after `k + 1` frames
(`rxMore_next`); any other MORE frame of the packet does not have the number of
remaining frames the element expects, and frees it (`rxMore_lost`).
-/

import LibCSP.Can.Transmit

namespace LibCSP

open Basis

/-- Every host reads the identifier and the length that were sent. -/
theorem readHeader_canHeaderBytes (o o' : ByteOrder) (p q : CspPacket) (l : List U8) :
    (q.readHeader o (canHeaderBytes o' p ++ l)).id = p.id ∧
      (q.readHeader o (canHeaderBytes o' p ++ l)).length = p.length := by
  have hid : ∀ k, k < 4 → (canHeaderBytes o' p ++ l).getD k 0 = byteOf p.id (3 - k) := by
    intro k hk
    rw [← byte32_hton32 o' p.id hk]
    interval_cases k <;> rfl
  obtain ⟨h₀, h₁⟩ := byte16_hton16 o' p.length
  have hlen₀ : (canHeaderBytes o' p ++ l).getD 4 0 = byteOf p.length 1 := h₀
  have hlen₁ : (canHeaderBytes o' p ++ l).getD 5 0 = byteOf p.length 0 := h₁
  constructor
  · show hton32 o (load32 o _ _ _ _) = _
    rw [hton32_load32, hid 0 (by omega), hid 1 (by omega), hid 2 (by omega), hid 3 (by omega)]
    exact word32_byteOf p.id
  · show hton16 o (load16 o _ _) = _
    rw [hton16_load16, hlen₀, hlen₁]
    exact word16_byteOf p.length

namespace TxSession

variable (x : TxSession)

/-- The packet, as far as its user can tell. -/
structure Is (p : CspPacket) : Prop where
  id : p.id = x.packet.id
  length : p.length = x.packet.length
  bytes : p.bytes = x.packet.bytes

/-- The element of a packet after `k` of its frames. -/
structure Partial (k : ℕ) (buf : PbufElement) : Prop where
  state : buf.state = .bufUsed
  cfpid : cfpConn buf.cfpid = x.conn
  remain : buf.remain = BitVec.ofNat 32 (x.more + 1 - k)
  rxCount : buf.rxCount = BitVec.ofNat 16 (x.before k)
  packet : ∃ p, buf.packet = some p ∧ p.id = x.packet.id ∧ p.length = x.packet.length ∧
    p.slice 0 (x.before k) = x.packet.slice 0 (x.before k)

/-- A packet that fits the buffer has at most 32 MORE frames. -/
theorem more_le (h : x.len ≤ cspCanMtu) : x.more ≤ 32 := by
  unfold cspCanMtu at h
  rw [more]
  omega

/-- The remain field of each frame counts the frames behind it. -/
theorem cfpRemain_frame (h : x.len ≤ cspCanMtu) {k : ℕ} (hk : k ≤ x.more) :
    cfpRemain (x.frame k).id = BitVec.ofNat 32 (x.more - k) := by
  have hmask : ∀ r, r ≤ 32 → BitVec.ofNat 32 r &&& 0xff = BitVec.ofNat 32 r := by decide
  have hm := x.more_le h
  cases k with
  | zero =>
    have hr : (x.packet.length.toNat + 6 - 1) / 8 = x.more := rfl
    exact (cfpRemain_header ..).trans (by rw [hr, hmask _ hm, Nat.sub_zero])
  | succ k => exact (cfpRemain_header ..).trans (hmask _ (by omega))

/-- The first frame is BEGIN, and the others are MORE. -/
theorem cfpType_frame (k : ℕ) : cfpType (x.frame k).id = if k = 0 then cfpBegin else cfpMore := by
  cases k <;> exact cfpType_header ..

/-- Where the data of the packet starts in frame `k`. -/
def offset (k : ℕ) : ℕ := if k = 0 then 6 else 0

/-- The part of the packet that each frame brings, and that the frame is long enough for it. -/
theorem data_frame (k : ℕ) :
    (x.frame k).data.drop (offset k) =
      x.packet.slice (x.before k) (x.before (k + 1) - x.before k) ∧
        offset k ≤ (x.frame k).dlc := by
  cases k with
  | zero =>
    have h₀ : x.before 0 = 0 := Nat.min_zero _
    have h₁ : x.before 1 = min x.len 2 := rfl
    rw [h₀, h₁, Nat.sub_zero]
    constructor
    · exact List.drop_left' (length_canHeaderBytes ..)
    · show 6 ≤ (canHeaderBytes x.host x.packet ++ _).length
      rw [List.length_append, length_canHeaderBytes]
      omega
  | succ k => exact ⟨rfl, Nat.zero_le _⟩

/-- An element expects the number of remaining frames that frame `k` has. -/
theorem Partial.remain_sub_one {x : TxSession} {k : ℕ} {buf : PbufElement} (h : x.Partial k buf)
    (hsmall : x.len ≤ cspCanMtu) (hk : k ≤ x.more) :
    buf.remain - 1 = BitVec.ofNat 32 (x.more - k) := by
  have hm := x.more_le hsmall
  rw [h.remain]
  apply BitVec.eq_of_toNat_eq
  rw [BitVec.toNat_sub, BitVec.toNat_ofNat, BitVec.toNat_ofNat]
  show (2 ^ 32 - 1 + _) % 2 ^ 32 = _
  omega

/-- Element `i` has taken in frame `k`: the packet is complete, or one frame further. -/
structure Took (k : ℕ) (i : Fin pbufElements) (s s' : Pbuf) : Prop where
  others : Pbuf.Others i s s'
  further : k < x.more → x.Partial (k + 1) (s'.elements i) ∧
    (s'.elements i).lastUsed = (s.elements i).lastUsed ∧ newPackets s'.log = newPackets s.log
  complete : k = x.more → s'.elements i = .free ∧
    ∃ p, x.Is p ∧ newPackets s'.log = newPackets s.log ++ [p]

/-- **The frame an element expects** is taken in. -/
theorem rxMore_next {k : ℕ} {i : Fin pbufElements} {s : Pbuf} (hsmall : x.len ≤ cspCanMtu)
    (hk : k ≤ x.more) (h : x.Partial k (s.elements i)) :
    x.Took k i s (rxMore (x.frame k) i (offset k) s) := by
  have hm := x.more_le hsmall
  obtain ⟨p, hp, hpid, hplen, hpre⟩ := h.packet
  obtain ⟨hdata, hdlc⟩ := x.data_frame k
  have hexpect := h.remain_sub_one hsmall hk
  have hremain : ¬ cfpRemain (x.frame k).id ≠ (s.elements i).remain - 1 := by
    rw [x.cfpRemain_frame hsmall hk, hexpect, not_not]
  have hcount : (s.elements i).rxCount.toNat = x.before k := by
    rw [h.rxCount, BitVec.toNat_ofNat, Nat.mod_eq_of_lt (x.before_lt_two_pow _)]
  have hle : x.before k ≤ x.before (k + 1) ∧ x.before (k + 1) ≤ x.len := by
    rw [before, before]
    omega
  have hbytes : ((x.frame k).data.drop (offset k)).length = x.before (k + 1) - x.before k := by
    rw [hdata, CspPacket.length_slice]
  have hroom : ¬ p.length.toNat < x.before k + (x.frame k).dlc - offset k := by
    rw [List.length_drop] at hbytes
    rw [hplen]
    show ¬ x.len < x.before k + (x.frame k).data.length - offset k
    change offset k ≤ (x.frame k).data.length at hdlc
    omega
  have hsum : (s.elements i).rxCount + BitVec.ofNat 16 (x.before (k + 1) - x.before k) =
      BitVec.ofNat 16 (x.before (k + 1)) := by
    rw [h.rxCount, ← BitVec.ofNat_add, Nat.add_sub_cancel' hle.1]
  obtain ⟨p', hp', hpid', hplen', hwrite⟩ : ∃ p',
      p' = p.write (x.before k) ((x.frame k).data.drop (offset k)) ∧ p'.id = x.packet.id ∧
        p'.length = x.packet.length ∧
          p'.slice 0 (x.before (k + 1)) = x.packet.slice 0 (x.before (k + 1)) := by
    refine ⟨_, rfl, hpid, hplen, ?_⟩
    have hw := p.slice_write (x.before k) ((x.frame k).data.drop (offset k))
    rw [hpre, hbytes, Nat.add_sub_cancel' hle.1, hdata, ← CspPacket.slice_add,
      Nat.add_sub_cancel' hle.1] at hw
    rw [hdata]
    exact hw
  have hend : k = x.more ↔ x.before (k + 1) = x.len := by
    rw [before, more] at *
    omega
  have hdone : BitVec.ofNat 16 (x.before (k + 1)) = p'.length ↔ k = x.more := by
    have hlt := x.before_lt_two_pow (k + 1)
    rw [hplen', ← BitVec.toNat_inj, BitVec.toNat_ofNat, Nat.mod_eq_of_lt hlt, hend]
    rfl
  have hrx : rxMore (x.frame k) i (offset k) s =
      let s' := (s.emit (.write (x.before k) (x.before (k + 1) - x.before k))).set i
        { s.elements i with
          remain := (s.elements i).remain - 1
          packet := some p'
          rxCount := BitVec.ofNat 16 (x.before (k + 1)) }
      if k = x.more then
        pbufFree i ((s'.emit (.newPacket p')).set i { s'.elements i with packet := none })
      else s' := by
    simp only [rxMore, if_neg hremain, hp, hcount, if_neg hroom, ← hp', hbytes, hsum, ne_eq, hdone,
      ite_not]
    rfl
  rw [hrx]
  have hothers : Pbuf.Others i s ((s.emit (.write (x.before k)
      (x.before (k + 1) - x.before k))).set i { s.elements i with
        remain := (s.elements i).remain - 1
        packet := some p'
        rxCount := BitVec.ofNat 16 (x.before (k + 1)) }) :=
    ((Pbuf.Others.refl i s).emit _).set _
  refine ⟨?_, fun hlt => ?_, fun heq => ?_⟩
  · simp only
    split
    · exact ((hothers.emit _).set _).trans (pbufFree_others i _)
    · exact hothers
  · rw [if_neg (Nat.ne_of_lt hlt)]
    simp only [Pbuf.set_elements_self]
    refine ⟨⟨h.state, h.cfpid, ?_, rfl, p', rfl, hpid', hplen', hwrite⟩, trivial, ?_⟩
    · rw [Nat.add_sub_add_right]
      exact hexpect
    · exact (newPackets_append s.log [.write _ _]).trans (List.append_nil _)
  · rw [if_pos heq]
    refine ⟨pbufFree_self .., p', ⟨hpid', hplen', ?_⟩, ?_⟩
    · rw [CspPacket.bytes_eq_slice, CspPacket.bytes_eq_slice, hplen']
      rw [hend.1 heq] at hwrite
      exact hwrite
    · rw [pbufFree_newPackets]
      show newPackets ((s.log ++ [.write _ _]) ++ [.newPacket p']) = _
      rw [newPackets_append, newPackets_append]
      show newPackets s.log ++ [] ++ [p'] = _
      rw [List.append_nil]

/-- **Any other MORE frame of the packet frees the element.** -/
theorem rxMore_lost {j k : ℕ} {i : Fin pbufElements} {s : Pbuf} (hsmall : x.len ≤ cspCanMtu)
    (hj : j ≤ x.more) (hk : k ≤ x.more) (hne : j ≠ k) (h : x.Partial k (s.elements i)) (o : ℕ) :
    rxMore (x.frame j) i o s = pbufFree i s := by
  have hm := x.more_le hsmall
  have hremain : cfpRemain (x.frame j).id ≠ (s.elements i).remain - 1 := by
    rw [x.cfpRemain_frame hsmall hj, h.remain_sub_one hsmall hk]
    intro he
    have := congrArg BitVec.toNat he
    rw [BitVec.toNat_ofNat, BitVec.toNat_ofNat] at this
    omega
  simp only [rxMore, if_pos hremain]

/-- **A BEGIN frame starts over** in an element for its packet that has, or gets, a
buffer. -/
theorem rxBegin_eq {o : ByteOrder} {c : RxCall} {i : Fin pbufElements} {s : Pbuf} {p : CspPacket}
    (hsmall : x.len ≤ cspCanMtu) (hc : c.frame = x.frame 0)
    (hst : (s.elements i).state = .bufUsed) (hconn : cfpConn (s.elements i).cfpid = x.conn)
    (hp : (s.elements i).packet.or c.buffer = some p) :
    ∃ s', rxBegin o c i s = rxMore (x.frame 0) i (offset 0) s' ∧ Pbuf.Others i s s' ∧
      s'.log = s.log ∧ x.Partial 0 (s'.elements i) ∧
        (s'.elements i).lastUsed = (s.elements i).lastUsed := by
  have hdlc : ¬ c.frame.dlc < 6 := by
    rw [hc]
    exact Nat.not_lt.2 (x.data_frame 0).2
  obtain ⟨hid, hlen⟩ := readHeader_canHeaderBytes o x.host x.packet p
    (x.packet.slice 0 (min x.packet.length.toNat 2))
  obtain ⟨buf, hbuf⟩ : ∃ buf, buf = { s.elements i with
    packet := some (p.readHeader o c.frame.data)
    rxCount := 0
    remain := cfpRemain c.frame.id + 1 } := ⟨_, rfl⟩
  have hremain : cfpRemain c.frame.id + 1 = BitVec.ofNat 32 (x.more + 1 - 0) := by
    rw [hc, x.cfpRemain_frame hsmall (Nat.zero_le _), Nat.sub_zero, Nat.sub_zero,
      BitVec.ofNat_add]
    rfl
  refine ⟨s.set i buf, ?_, (Pbuf.Others.refl i s).set _, rfl, ?_, ?_⟩
  · simp only [rxBegin, if_neg hdlc, hp, ← hbuf]
    rw [hc]
    rfl
  · rw [Pbuf.set_elements_self, hbuf]
    refine ⟨hst, hconn, hremain, congrArg (BitVec.ofNat 16) (Nat.min_zero _).symm, _, rfl,
      ?_, ?_, ?_⟩
    · rw [hc]
      exact hid
    · rw [hc]
      exact hlen
    · rw [show x.before 0 = 0 from Nat.min_zero _]
      rfl
  · rw [Pbuf.set_elements_self, hbuf]

/-- What element `i` needs to take in frame `k`: a packet or a buffer for one, and behind
the first frame the frames so far. -/
structure Ready (c : RxCall) (k : ℕ) (buf : PbufElement) : Prop where
  state : buf.state = .bufUsed
  cfpid : cfpConn buf.cfpid = x.conn
  packet : buf.packet.or c.buffer ≠ none
  expects : k ≠ 0 → x.Partial k buf

variable {x}

/-- A frame is taken in the same after a call that only noted the time. -/
theorem Took.after {k : ℕ} {i : Fin pbufElements} {s s' s'' : Pbuf} (h : x.Took k i s' s'')
    (ho : Pbuf.Others i s s') (hlog : newPackets s'.log = newPackets s.log)
    (hlast : (s'.elements i).lastUsed = (s.elements i).lastUsed) : x.Took k i s s'' where
  others := ho.trans h.others
  further hk := by
    rw [← hlast, ← hlog]
    exact h.further hk
  complete hk := by
    rw [← hlog]
    exact h.complete hk

/-- **Frame `k` is taken in** by an element that is ready for it. -/
theorem rxFrame_next {o : ByteOrder} {c : RxCall} {k : ℕ} {i : Fin pbufElements} {s : Pbuf}
    (hsmall : x.len ≤ cspCanMtu) (hk : k ≤ x.more) (hc : c.frame = x.frame k)
    (h : x.Ready c k (s.elements i)) : x.Took k i s (rxFrame o c i s) := by
  have htype := x.cfpType_frame k
  rw [← hc] at htype
  rcases Nat.eq_zero_or_pos k with rfl | hpos
  · rw [if_pos rfl] at htype
    obtain ⟨p, hp⟩ := Option.ne_none_iff_exists'.1 h.packet
    obtain ⟨s', hbegin, ho, hlog, hpart, hlast⟩ :=
      x.rxBegin_eq (o := o) hsmall hc h.state h.cfpid hp
    rw [rxFrame, if_pos htype, hbegin]
    exact (x.rxMore_next hsmall hk hpart).after ho (congrArg newPackets hlog) hlast
  · have hne : k ≠ 0 := Nat.ne_of_gt hpos
    rw [if_neg hne] at htype
    have hbegin : ¬ cfpType c.frame.id = cfpBegin := by
      rw [htype]
      decide
    have hoff : offset k = 0 := if_neg hne
    have hnext := x.rxMore_next hsmall hk (h.expects hne)
    rw [hoff, ← hc] at hnext
    rw [rxFrame, if_neg hbegin, if_pos htype]
    exact hnext

end TxSession
end LibCSP
