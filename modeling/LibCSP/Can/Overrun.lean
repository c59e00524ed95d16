/-
# Frames that overrun the reassembly buffer

Whether a copy leaves the buffer depends on the frames, and on what else the node does
with the pool.  Frames that overrun the buffer (`Overruns`) can always do it: before any
other frame `csp_can_tx` gets the first element for a packet of the same source,
destination and number, and that element takes the frame in (`skip_frame`).  So the BEGIN
frame and its MORE frames meet in the second element, whatever is received between them
(`overrun_run`), and the frames are safe under every clock, pool and driver exactly if they
do not overrun the buffer (`canRun_inBounds_iff`).
-/

import LibCSP.Can.Account
import LibCSP.Can.Bounds

namespace LibCSP

open Basis

/-- There are elements. -/
theorem pbufElements_pos : 0 < pbufElements := by decide

/-- `pbuf[0]`, the element that lets the others alone. -/
def pbufShield : Fin pbufElements := ⟨0, pbufElements_pos⟩

/-- `pbuf[1]`, the element that assembles. -/
def pbufTarget : Fin pbufElements := ⟨1, by decide⟩

/-- An identifier with the source and destination of a frame. -/
def idOfFrame (id : U32) : CspId := (id >>> 24 &&& 0x1f) <<< 25 ||| (id >>> 19 &&& 0x1f) <<< 20

/-- A packet that `csp_can_tx` sends with the source and destination of a frame. -/
def shieldPacket (id : U32) : CspPacket := ⟨0, 0, 0, 0, idOfFrame id, fun _ => 0⟩

/-- That call, with this CFP number. -/
def shieldCall (ident : BitVec 10) : TxCall := ⟨.little, fun _ => 0, some ident, true⟩

/-- **The transmission has the source, destination and number of the frame.** -/
theorem cfpConn_shield (id : U32) :
    cfpConn (beginFrame .little (shieldPacket id) (id.setWidth 10)).id = cfpConn id := by
  have hheader : cfpConn (beginFrame .little (shieldPacket id) (id.setWidth 10)).id =
      cfpMakeSrc ((idOfFrame id).src.setWidth 32) ||| cfpMakeDst ((idOfFrame id).dst.setWidth 32)
        ||| cfpMakeId ((id.setWidth 10).setWidth 32) := cfpConn_header ..
  rw [hheader]
  apply BitVec.eq_of_getLsbD_eq
  intro k hk
  simp only [cfpConn, cfpIdConnMask_eq, idOfFrame, CspId.src, CspId.dst, getLsbD_cfpMakeSrc,
    getLsbD_cfpMakeDst, getLsbD_cfpMakeId, BitVec.getLsbD_or, BitVec.getLsbD_and,
    BitVec.getLsbD_setWidth, BitVec.getLsbD_extractLsb', BitVec.getLsbD_shiftLeft,
    BitVec.getLsbD_ushiftRight]
  interval_cases k <;> simp

/-! ### The shield -/

section

variable (o : ByteOrder) {s : Pbuf}

/-- `csp_can_tx` gets the first element when it is free. -/
theorem shield_up (id : U32) (hs : s.Ok) (hfree : s.elements pbufShield = .free) :
    Pbuf.Others pbufShield s
        (canStep o s (.tx (shieldCall (id.setWidth 10)) (shieldPacket id))) ∧
      (((canStep o s (.tx (shieldCall (id.setWidth 10)) (shieldPacket id))).elements
        pbufShield).isFor id = true ∧
      ((canStep o s (.tx (shieldCall (id.setWidth 10)) (shieldPacket id))).elements
        pbufShield).available 0 = false) := by
  have hfind : (Fin.find? fun i => (s.elements i).available 0) = some pbufShield := by
    refine Fin.find?_eq_some_iff.2 ⟨?_, fun j hj => absurd hj (Nat.not_lt_zero _)⟩
    rw [hfree]
    rfl
  obtain ⟨s', hnew⟩ : ∃ s', pbufNew (beginFrame .little (shieldPacket id) (id.setWidth 10)).id
      (fun _ => 0) s = some (pbufShield, s') := by
    rw [pbufNew, hfind, Option.map_some]
    split <;> exact ⟨_, rfl⟩
  obtain ⟨-, ⟨k, hk⟩, ho, -⟩ := pbufNew_eq_some hs hnew
  simp only [canStep, cspCanTx, shieldCall, hnew]
  refine ⟨ho.set _, ?_, ?_⟩
  · rw [Pbuf.set_elements_self, hk, PbufElement.isFor_iff]
    exact ⟨rfl, cfpConn_shield id⟩
  · rw [Pbuf.set_elements_self, hk]
    show (decide (PbufState.bufUsed = .bufFree) || decide (pbufTimeoutMs < (0 : U32) - 0)) = false
    decide

/-- The driver reports an error for the transmission in the first element, which is freed. -/
theorem shield_down (id : U32) (hfor : (s.elements pbufShield).isFor id = true) :
    Pbuf.Others pbufShield s (canStep o s (.txDone (shieldCall 0) id false)) ∧
      (canStep o s (.txDone (shieldCall 0) id false)).elements pbufShield = .free := by
  have hfound : pbufFind id (shieldCall 0).clock s = some (pbufShield,
      s.set pbufShield { s.elements pbufShield with lastUsed := 0 }) :=
    pbufFind_of_first _ hfor fun j hj => absurd hj (Nat.not_lt_zero _)
  have ho : Pbuf.Others pbufShield s (pbufFree pbufShield
      (s.set pbufShield { s.elements pbufShield with lastUsed := 0 })) :=
    ((Pbuf.Others.refl _ s).set _).trans (pbufFree_others _ _)
  simp only [canStep, cspTxCallback, hfound]
  split
  · exact ⟨ho, pbufFree_self ..⟩
  · exact ⟨ho, pbufFree_self ..⟩

/-- A frame leaves the element it is found for free, or in use for its packet. -/
theorem rxFrame_isFor (c : RxCall) {i : Fin pbufElements} {p : CspPacket}
    (hfor : (s.elements i).isFor c.frame.id = true) (hp : (s.elements i).packet = some p) :
    (rxFrame o c i s).elements i = .free ∨
      ((rxFrame o c i s).elements i).isFor c.frame.id = true := by
  obtain ⟨hst, hconn⟩ := PbufElement.isFor_iff.1 hfor
  unfold rxFrame
  split
  · refine (rxBegin_done hst hconn).element.imp_right fun ⟨_, hholds⟩ => ?_
    exact PbufElement.isFor_iff.2 ⟨hholds.state, hholds.cfpid⟩
  · split
    · refine (rxMore_done c.frame 0 hp (Nat.zero_le _)).element.imp_right fun ⟨_, hasm⟩ => ?_
      exact PbufElement.isFor_iff.2 ⟨hasm.state.trans hst, hasm.cfpid ▸ hconn⟩
    · exact .inl (pbufFree_self i s)

/-- **Any frame can be kept from the other elements**, and leaves the first one free. -/
theorem skip_frame (frame : CanFrame) (hs : s.Ok) (hfree : s.elements pbufShield = .free) :
    ∃ calls, framesOf calls = [frame] ∧ Pbuf.Others pbufShield s (canRun o s calls) ∧
      (canRun o s calls).elements pbufShield = .free := by
  obtain ⟨s₁, hs₁⟩ : ∃ s₁, s₁ = canStep o s
    (.tx (shieldCall (frame.id.setWidth 10)) (shieldPacket frame.id)) := ⟨_, rfl⟩
  obtain ⟨ho₁, hfor₁, -⟩ := shield_up o frame.id hs hfree
  have hok₁ : s₁.Ok := hs₁ ▸ (canStep_inBounds o hs _).1.ok hs
  rw [← hs₁] at ho₁ hfor₁
  obtain ⟨c, hc⟩ : ∃ c : RxCall, c = ⟨frame, fun _ => 0, none⟩ := ⟨_, rfl⟩
  have hframe : c.frame = frame := hc ▸ rfl
  rw [← hframe] at hfor₁
  have hrx : canStep o s₁ (.rx c) = _ :=
    cspRxCallback_found hfor₁ fun j hj => absurd hj (Nat.not_lt_zero _)
  obtain ⟨s₂, hs₂⟩ : ∃ s₂, s₂ = s₁.set pbufShield
    { s₁.elements pbufShield with lastUsed := c.clock 0 } := ⟨_, rfl⟩
  have hi₂ : s₂.elements pbufShield = { s₁.elements pbufShield with lastUsed := c.clock 0 } := by
    rw [hs₂, Pbuf.set_elements_self]
  have hfor₂ : (s₂.elements pbufShield).isFor c.frame.id = true := by
    rw [hi₂]
    exact hfor₁
  obtain ⟨p, hp⟩ := Option.ne_none_iff_exists'.1
    (hok₁.used pbufShield (PbufElement.isFor_iff.1 hfor₁).1)
  have hp₂ : (s₂.elements pbufShield).packet = some p := by
    rw [hi₂]
    exact hp
  obtain ⟨hand, -, hmove⟩ := rxFrame_moves o c pbufShield s₂
  have ho₂ : Pbuf.Others pbufShield s (canStep o s₁ (.rx c)) := by
    rw [hrx, ← hs₂]
    exact (ho₁.trans (hs₂ ▸ (Pbuf.Others.refl _ s₁).set _)).trans hmove.others
  have hframes : framesOf [.tx (shieldCall (frame.id.setWidth 10)) (shieldPacket frame.id),
      .rx c] = [frame] := by rw [← hframe]; rfl
  have hrun : canRun o s [.tx (shieldCall (frame.id.setWidth 10)) (shieldPacket frame.id),
      .rx c] = canStep o s₁ (.rx c) := by rw [hs₁]; rfl
  rcases rxFrame_isFor o c hfor₂ hp₂ with hdone | hused
  · refine ⟨_, hframes, ?_, ?_⟩ <;> rw [hrun]
    · exact ho₂
    · rw [hrx, ← hs₂]
      exact hdone
  · -- the element is in use for the frame's packet, and its transmission fails
    rw [← hs₂] at hrx
    rw [← hrx] at hused
    obtain ⟨ho₃, hfree₃⟩ := shield_down o c.frame.id hused
    refine ⟨[.tx (shieldCall (frame.id.setWidth 10)) (shieldPacket frame.id), .rx c] ++
      [.txDone (shieldCall 0) c.frame.id false], ?_, ?_, ?_⟩
    · rw [framesOf_append, hframes]
      rfl
    · rw [canRun_append, hrun]
      exact ho₂.trans ho₃
    · rw [canRun_append, hrun]
      exact hfree₃

end

/-! ### The target -/

/-- Another number than that of the frame. -/
theorem cfpConn_xor_one (id : U32) : cfpConn (id ^^^ 1) ≠ cfpConn id := by
  intro h
  have hbit := congrArg (·.getLsbD 0) h
  simp only [cfpConn, cfpIdConnMask_eq, BitVec.getLsbD_and, BitVec.getLsbD_xor] at hbit
  revert hbit
  cases id.getLsbD 0 <;> decide

/-- The first element is free, and the second holds a BEGIN frame and MORE frames. -/
structure Aimed (o : ByteOrder) (begin : CanFrame) (mores : List CanFrame) (s : Pbuf) : Prop where
  ok : s.Ok
  shield : s.elements pbufShield = .free
  target : (s.elements pbufTarget).Holds o begin mores

section

variable {o : ByteOrder} {begin : CanFrame} {s : Pbuf}

/-- The second element is not the first. -/
theorem pbufTarget_ne : pbufTarget ≠ pbufShield := by decide

/-- Before the second element is only the first. -/
theorem lt_pbufTarget {j : Fin pbufElements} (hj : j < pbufTarget) : j = pbufShield := by
  revert j
  decide

/-- **A BEGIN frame gets the second element** while a transmission with another number has
the first. -/
theorem aim_begin (hs : s.Ok) (hfree : ∀ i, s.elements i = .free)
    (htype : cfpType begin.id = cfpBegin) (hdlc : 6 ≤ begin.dlc)
    (hlen : begin.dlc - 6 < (announced o begin).toNat) :
    ∃ calls, framesOf calls = [begin] ∧ Aimed o begin [] (canRun o s calls) := by
  obtain ⟨other, hother⟩ : ∃ other, other = begin.id ^^^ 1 := ⟨_, rfl⟩
  obtain ⟨s₁, hs₁⟩ : ∃ s₁, s₁ = canStep o s
    (.tx (shieldCall (other.setWidth 10)) (shieldPacket other)) := ⟨_, rfl⟩
  obtain ⟨ho₁, hfor₁, hav₁⟩ := shield_up o other hs (hfree _)
  have hok₁ : s₁.Ok := hs₁ ▸ (canStep_inBounds o hs _).1.ok hs
  rw [← hs₁] at ho₁ hfor₁ hav₁
  obtain ⟨c, hc⟩ : ∃ c : RxCall, c = ⟨begin, fun _ => 0, some (shieldPacket 0)⟩ := ⟨_, rfl⟩
  have hnone : pbufFind c.frame.id c.clock s₁ = none := by
    refine pbufFind_eq_none.2 fun i => Bool.eq_false_of_not_eq_true fun hfor => ?_
    rw [hc, PbufElement.isFor_iff] at hfor
    by_cases hi : i = pbufShield
    · subst hi
      refine cfpConn_xor_one begin.id ?_
      rw [← hother, ← (PbufElement.isFor_iff.1 hfor₁).2, hfor.2]
    · rw [ho₁ i hi, hfree i] at hfor
      exact absurd hfor.1 (by decide)
  have hfind : (Fin.find? fun i => (s₁.elements i).available (c.clock i)) = some pbufTarget := by
    rw [hc]
    refine Fin.find?_eq_some_iff.2 ⟨?_, fun j hj => ?_⟩
    · rw [ho₁ _ pbufTarget_ne, hfree]
      rfl
    · rw [lt_pbufTarget hj]
      exact hav₁
  obtain ⟨s₂, hnew⟩ : ∃ s₂, pbufNew c.frame.id c.clock s₁ = some (pbufTarget, s₂) := by
    rw [pbufNew, hfind, Option.map_some]
    split <;> exact ⟨_, rfl⟩
  obtain ⟨-, ⟨k, hk⟩, ho₂, -⟩ := pbufNew_eq_some hok₁ hnew
  have hrx : canStep o s₁ (.rx c) = rxBegin o c pbufTarget s₂ := by
    have htype' : cfpType c.frame.id = cfpBegin := hc ▸ htype
    simp only [canStep, cspRxCallback, hnone, hnew, htype', if_true, rxFrame]
  have hdone := rxBegin_done (o := o) (c := c) (i := pbufTarget) (s := s₂) (hk ▸ rfl) (hk ▸ rfl)
  obtain ⟨s₃, hs₃⟩ : ∃ s₃, s₃ = canStep o s₁ (.rx c) := ⟨_, rfl⟩
  have hok₃ : s₃.Ok := hs₃ ▸ (canStep_inBounds o hok₁ _).1.ok hok₁
  rw [← hrx, ← hs₃] at hdone
  have hholds : (s₃.elements pbufTarget).Holds o begin [] := by
    rw [hc] at hdone
    refine hdone.further hdlc ?_ hlen
    rw [hk]
    exact Option.some_ne_none _
  have hshield : s₃.elements pbufShield = s₁.elements pbufShield :=
    (ho₂.trans hdone.others) _ pbufTarget_ne.symm
  obtain ⟨ho₄, hfree₄⟩ := shield_down o (s := s₃) other (hshield ▸ hfor₁)
  refine ⟨[.tx (shieldCall (other.setWidth 10)) (shieldPacket other), .rx c,
    .txDone (shieldCall 0) other false], by rw [hc]; rfl, ?_⟩
  have hrun : canRun o s [.tx (shieldCall (other.setWidth 10)) (shieldPacket other), .rx c,
      .txDone (shieldCall 0) other false] =
        canStep o s₃ (.txDone (shieldCall 0) other false) := by
    rw [hs₃, hs₁]
    rfl
  rw [hrun]
  refine ⟨(canStep_inBounds o hok₃ _).1.ok hok₃, hfree₄, ?_⟩
  rw [ho₄ _ pbufTarget_ne]
  exact hholds

variable {mores : List CanFrame} {more : CanFrame}

/-- The second element expects this MORE frame. -/
theorem Aimed.expects (h : Aimed o begin mores s)
    (hremain : (cfpRemain more.id).toNat + (mores.length + 1) = (cfpRemain begin.id).toNat) :
    cfpRemain more.id = (s.elements pbufTarget).remain - 1 := by
  have := h.target.remain
  bv_omega

/-- A frame of its packet is found for it. -/
theorem Aimed.found (h : Aimed o begin mores s) (hconn : cfpConn more.id = cfpConn begin.id) :
    (s.elements pbufTarget).isFor more.id = true ∧
      ∀ j, j < pbufTarget → (s.elements j).isFor more.id = false := by
  refine ⟨PbufElement.isFor_iff.2 ⟨h.target.state, h.target.cfpid.trans hconn.symm⟩,
    fun j hj => ?_⟩
  rw [lt_pbufTarget hj, h.shield]
  rfl

/-- **A MORE frame that it expects is taken in** while more is to come. -/
theorem Aimed.takes (h : Aimed o begin mores s) (htype : cfpType more.id = cfpMore)
    (hconn : cfpConn more.id = cfpConn begin.id)
    (hremain : (cfpRemain more.id).toNat + (mores.length + 1) = (cfpRemain begin.id).toNat)
    (hlen : brought begin mores + more.dlc < (announced o begin).toNat) :
    Aimed o begin (mores ++ [more]) (canStep o s (.rx ⟨more, fun _ => 0, none⟩)) := by
  obtain ⟨hfor, hfirst⟩ := h.found hconn
  obtain ⟨p, hp, hplen⟩ := h.target.packet
  have hok := (canStep_inBounds o h.ok (.rx ⟨more, fun _ => 0, none⟩)).1.ok h.ok
  have hrx : canStep o s (.rx ⟨more, fun _ => 0, none⟩) = _ :=
    cspRxCallback_found (o := o) (c := ⟨more, fun _ => 0, none⟩) hfor hfirst
  obtain ⟨s₁, hs₁⟩ : ∃ s₁, s₁ = s.set pbufTarget
    { s.elements pbufTarget with lastUsed := 0 } := ⟨_, rfl⟩
  have hi : s₁.elements pbufTarget = { s.elements pbufTarget with lastUsed := 0 } := by
    rw [hs₁, Pbuf.set_elements_self]
  have ho₁ : Pbuf.Others pbufTarget s s₁ := hs₁ ▸ (Pbuf.Others.refl _ s).set _
  have hframe : canStep o s (.rx ⟨more, fun _ => 0, none⟩) = rxMore more pbufTarget 0 s₁ := by
    have hbegin : ¬ cfpType more.id = cfpBegin := by
      rw [htype]
      decide
    rw [hrx, ← hs₁]
    simp only [rxFrame, if_neg hbegin, if_pos htype]
  rw [hframe] at hok ⊢
  have hp₁ : (s₁.elements pbufTarget).packet = some p := by
    rw [hi]
    exact hp
  have hdone := rxMore_done more 0 hp₁ (Nat.zero_le _)
  have hasm := hdone.further (by rw [hi]; exact h.expects hremain) (by
    rw [hi, hplen]
    show (s.elements pbufTarget).rxCount.toNat + (more.dlc - 0) < _
    rw [h.target.rxCount, Nat.sub_zero]
    exact hlen)
  rw [hi, Nat.sub_zero] at hasm
  refine ⟨hok, ?_, hasm.state.trans h.target.state, ?_, ?_, ?_, ?_⟩
  · rw [(ho₁.trans hdone.others) _ pbufTarget_ne.symm]
    exact h.shield
  · rw [hasm.cfpid]
    exact h.target.cfpid
  · have hexpects := h.expects hremain
    rw [hasm.remain, List.length_append, List.length_singleton]
    show ((s.elements pbufTarget).remain - 1).toNat + (mores.length + 1) = _
    rw [← hexpects]
    exact hremain
  · rw [hasm.rxCount, brought_snoc]
    exact congrArg (· + more.dlc) h.target.rxCount
  · obtain ⟨q, hq, hqlen⟩ := hasm.packet
    exact ⟨q, hq, hqlen.trans hplen⟩

/-- **It is taken in also where it does not fit into the buffer.** -/
theorem Aimed.over (h : Aimed o begin mores s) (htype : cfpType more.id = cfpMore)
    (hconn : cfpConn more.id = cfpConn begin.id)
    (hremain : (cfpRemain more.id).toNat + (mores.length + 1) = (cfpRemain begin.id).toNat)
    (hin : brought begin mores ≤ cspCanMtu) (hover : cspCanMtu < brought begin mores + more.dlc)
    (hlen : brought begin mores + more.dlc ≤ (announced o begin).toNat) :
    ¬ (canStep o s (.rx ⟨more, fun _ => 0, none⟩)).InBounds := by
  intro hbounds
  obtain ⟨hfor, hfirst⟩ := h.found hconn
  obtain ⟨p, hp, hplen⟩ := h.target.packet
  have hcount := h.target.rxCount
  have hend := ((canStep_inBounds o h.ok _).2.1 hbounds).2 htype pbufTarget _
    (pbufFind_of_first _ hfor hfirst) ⟨h.expects hremain, p, hp, by rw [hplen, hcount]; exact hlen⟩
    (more.dlc - 1)
  show False
  have hk : more.dlc - 1 < more.dlc := by omega
  have := hend hk
  omega

end

/-! ### All frames -/

/-- The front of MORE frames that continue a BEGIN frame, and the next of them. -/
theorem Continued.split {begin more : CanFrame} {front back : List CanFrame}
    (h : Continued begin (front ++ more :: back)) : cfpType more.id = cfpMore ∧
      cfpConn more.id = cfpConn begin.id ∧
        (cfpRemain more.id).toNat + (front.length + 1) = (cfpRemain begin.id).toNat := by
  induction back using List.reverseRecOn with
  | nil =>
    generalize hl : front ++ [more] = l at h
    cases h with
    | nil => exact absurd hl (by simp)
    | snoc h htype hconn hremain =>
      obtain ⟨rfl, hmore⟩ := List.append_inj' hl rfl
      obtain rfl := List.singleton_inj.1 hmore
      exact ⟨htype, hconn, hremain⟩
  | append_singleton back last ih =>
    refine ih ?_
    generalize hl : front ++ more :: (back ++ [last]) = l at h
    rw [← List.cons_append, ← List.append_assoc] at hl
    cases h with
    | nil => exact absurd hl (by simp)
    | snoc h htype hconn hremain =>
      obtain ⟨rfl, -⟩ := List.append_inj' hl rfl
      exact h

/-- More MORE frames bring at least as much. -/
theorem brought_le_append (begin : CanFrame) (front back : List CanFrame) :
    brought begin front ≤ brought begin (front ++ back) := by
  rw [brought, brought, List.map_append, List.sum_append]
  omega

/-- What a frame is given to `csp_rx_callback` with, where nothing depends on it. -/
def rxPlain (frame : CanFrame) : CanCall := .rx ⟨frame, fun _ => 0, none⟩

/-- The frames of the calls that receive them. -/
theorem framesOf_rxPlain (frames : List CanFrame) : framesOf (frames.map rxPlain) = frames := by
  induction frames with
  | nil => rfl
  | cons frame frames ih =>
    rw [List.map_cons, framesOf_cons, ih]
    rfl

/-- **MORE frames that bring too much overrun the second element**, whatever is received
between them.  The induction is on the frames that are received. -/
theorem overrun_mores {o : ByteOrder} {begin : CanFrame} {frames : List CanFrame} :
    ∀ {front back : List CanFrame} {s : Pbuf}, Aimed o begin front s → back.Sublist frames →
      Continued begin (front ++ back) → brought begin front ≤ cspCanMtu →
      cspCanMtu < brought begin (front ++ back) →
      brought begin (front ++ back) ≤ (announced o begin).toNat →
        ∃ calls, framesOf calls = frames ∧ ¬ (canRun o s calls).InBounds := by
  induction frames with
  | nil =>
    intro front back s _ hsub _ hin hover _
    rw [List.sublist_nil.1 hsub, List.append_nil] at hover
    omega
  | cons frame frames ih =>
    intro front back s h hsub hcont hin hover hlen
    rcases List.sublist_cons_iff.1 hsub with hskip | ⟨back, rfl, hrest⟩
    · -- the frame goes to the first element
      obtain ⟨calls, hframes, ho, hfree⟩ := skip_frame o frame h.ok h.shield
      have haim : Aimed o begin front (canRun o s calls) := by
        refine ⟨canRun_ok o calls h.ok, hfree, ?_⟩
        rw [ho _ pbufTarget_ne]
        exact h.target
      obtain ⟨calls', hframes', hout⟩ := ih haim hskip hcont hin hover hlen
      refine ⟨calls ++ calls', ?_, ?_⟩
      · rw [framesOf_append, hframes, hframes', List.singleton_append]
      · rwa [canRun_append]
    · obtain ⟨htype, hconn, hremain⟩ := hcont.split
      have hle := brought_le_append begin (front ++ [frame]) back
      rw [List.append_assoc, List.singleton_append, brought_snoc] at hle
      by_cases hnow : cspCanMtu < brought begin front + frame.dlc
      · have hout := h.over htype hconn hremain hin hnow (hle.trans hlen)
        refine ⟨rxPlain frame :: frames.map rxPlain, framesOf_rxPlain (frame :: frames), ?_⟩
        exact fun hbounds => hout (canRun_inBounds_of o (frames.map rxPlain)
          ((canStep_inBounds o h.ok _).1.ok h.ok) hbounds)
      · have hmore := h.takes htype hconn hremain (by omega)
        have happ : front ++ [frame] ++ back = front ++ frame :: back := by
          rw [List.append_assoc, List.singleton_append]
        rw [← happ] at hcont hover hlen
        obtain ⟨calls, hframes, hout⟩ := ih hmore hrest hcont
          (by rw [brought_snoc]; omega) hover hlen
        exact ⟨rxPlain frame :: calls, congrArg (frame :: ·) hframes, hout⟩

/-- **Frames that overrun the buffer can do it**, from a free pool. -/
theorem overrun_run {o : ByteOrder} {frames : List CanFrame} (h : Overruns o frames) :
    ∀ {s : Pbuf}, s.Ok → (∀ i, s.elements i = .free) →
      ∃ calls, framesOf calls = frames ∧ ¬ (canRun o s calls).InBounds := by
  obtain ⟨begin, mores, htype, hdlc, hsub, hcont, hover, hlen⟩ := h
  have hshort : begin.dlc - 6 ≤ 2 := by
    have := begin.le
    show begin.data.length - 6 ≤ 2
    omega
  have hfirst : brought begin [] = begin.dlc - 6 := Nat.add_zero _
  have hmtu : cspCanMtu = 256 := rfl
  induction frames with
  | nil => exact fun _ _ => absurd hsub (by simp)
  | cons frame frames ih =>
    intro s hs hfree
    rcases List.cons_sublist_cons'.1 hsub with hskip | ⟨rfl, hrest⟩
    · obtain ⟨calls, hframes, ho, hshield⟩ := skip_frame o frame hs (hfree _)
      have hfree' : ∀ i, (canRun o s calls).elements i = .free := fun i => by
        by_cases hi : i = pbufShield
        · rw [hi, hshield]
        · rw [ho i hi, hfree]
      obtain ⟨calls', hframes', hout⟩ := ih hskip (canRun_ok o calls hs) hfree'
      refine ⟨calls ++ calls', ?_, ?_⟩
      · rw [framesOf_append, hframes, hframes', List.singleton_append]
      · rwa [canRun_append]
    · obtain ⟨calls, hframes, haim⟩ := aim_begin (o := o) hs hfree htype hdlc (by omega)
      obtain ⟨calls', hframes', hout⟩ :=
        overrun_mores haim hrest hcont (by omega) hover hlen
      refine ⟨calls ++ calls', ?_, ?_⟩
      · rw [framesOf_append, hframes, hframes', List.singleton_append]
      · rwa [canRun_append]

/-- **No byte is written behind the buffer and no `NULL` followed**, whatever else the
node does and whatever the clock and `csp_buffer_get` say, exactly if the received frames
do not overrun the buffer. -/
theorem canRun_inBounds_iff (o : ByteOrder) (frames : List CanFrame) :
    (∀ calls, framesOf calls = frames → ∀ ev ∈ (canRun o .init calls).log, ev.InBounds) ↔
      ¬ Overruns o frames := by
  constructor
  · intro hall hover
    obtain ⟨calls, hframes, hout⟩ := overrun_run hover Pbuf.init_ok fun _ => rfl
    exact hout (hall calls hframes)
  · rintro hno calls rfl
    exact canRun_inBounds_of_frames o hno

/-- A BEGIN frame that announces 300 bytes, and the MORE frames that follow it. -/
def longAnnouncement : List CanCall :=
  let begin : CanFrame := ⟨cfpHeader 1 2 0 cfpBegin 38, [0, 0, 0, 0, 1, 44, 7, 7], by decide⟩
  let more (remain : ℕ) : CanFrame :=
    ⟨cfpHeader 1 2 0 cfpMore (BitVec.ofNat 32 remain), List.replicate 8 7, by decide⟩
  let packet : CspPacket := ⟨0, 0, 0, 0, 0, fun _ => 0⟩
  (begin :: (List.range 32).map fun k => more (37 - k)).map fun frame =>
    .rx ⟨frame, fun _ => 0, some packet⟩

/-- **The last of these frames ends behind the buffer.** -/
theorem long_announcement_overruns :
    ¬ ∀ ev ∈ (canRun .little .init longAnnouncement).log, ev.InBounds := by
  have hlast : (canRun .little .init longAnnouncement).log.any (fun
      | .write offset count => cspCanMtu ≤ offset + (count - 1) && 0 < count
      | _ => false) = true := by
    decide +kernel
  intro h
  obtain ⟨ev, hev, hout⟩ := List.any_eq_true.1 hlast
  have hin := h ev hev
  cases ev with
  | write offset count =>
    simp only [Bool.and_eq_true, decide_eq_true_eq] at hout
    exact absurd (hin (count - 1) (by omega)) (Nat.not_lt.2 hout.1)
  | nullDeref => exact hin
  | newPacket p => exact Bool.false_ne_true hout
  | free buf => exact Bool.false_ne_true hout

end LibCSP
