/-
# What the sender puts on the bus

`csp_can_tx` sends the first frame of a packet, and `csp_tx_callback` one more each
time a frame has left, until the packet is through (`TxSession.frames`).  Whatever
else the sender's pool holds, these are the frames `x.frame 0, …, x.frame x.more`:
the identifier counts the frames that remain down to zero, and the data bytes
behind the header are the packet's, cut at 2, 10, 18, … (`TxSession.frames_eq`).
-/

import LibCSP.Can.Elements

namespace LibCSP

open Basis

/-- A packet on its way out: the host that sends it, its number, the pool of the
sender when `csp_can_tx` is called, and the clock readings of each call.  The pool
has an element for it and none of the same number. -/
structure TxSession where
  host : ByteOrder
  packet : CspPacket
  ident : BitVec 10
  pbuf : Pbuf
  clock : ℕ → ℕ → U32
  ok : pbuf.Ok
  fresh : ∀ i, (pbuf.elements i).isFor (beginFrame host packet ident).id = false
  room : ∃ i, (pbuf.elements i).available (clock 0 i) = true

namespace TxSession

variable (x : TxSession)

/-- What call `n` reads from outside; every frame is taken by the driver. -/
def call (n : ℕ) : TxCall := ⟨x.host, x.clock n, some x.ident, true⟩

/-- The frames of `csp_tx_callback`, called for each frame sent, from call `n` on. -/
def callbacks : ℕ → ℕ → U32 → Pbuf → List CanFrame
  | 0, _, _, _ => []
  | fuel + 1, n, canid, s =>
    let r := cspTxCallback (x.call n) canid true s
    match r.2.1 with
    | none => []
    | some frame => frame :: callbacks fuel (n + 1) frame.id r.2.2

/-- A callback that sends a frame is followed by the callback for that one. -/
theorem callbacks_some {fuel n : ℕ} {canid : U32} {s s' : Pbuf} {ret : ℤ} {frame : CanFrame}
    (h : cspTxCallback (x.call n) canid true s = (ret, some frame, s')) :
    x.callbacks (fuel + 1) n canid s = frame :: x.callbacks fuel (n + 1) frame.id s' := by
  show (match (cspTxCallback (x.call n) canid true s).2.1 with
    | none => []
    | some frame => frame :: x.callbacks fuel (n + 1) frame.id _) = _
  rw [h]

/-- A callback that sends none is the last. -/
theorem callbacks_none {fuel n : ℕ} {canid : U32} {s : Pbuf}
    (h : (cspTxCallback (x.call n) canid true s).2.1 = none) :
    x.callbacks (fuel + 1) n canid s = [] := by
  show (match (cspTxCallback (x.call n) canid true s).2.1 with
    | none => []
    | some frame => frame :: x.callbacks fuel (n + 1) frame.id _) = _
  rw [h]

/-- The frames on the bus.  Each callback but the last sends at least one byte. -/
def frames : List CanFrame :=
  match cspCanTx (x.call 0) x.packet x.pbuf with
  | (none, _) => []
  | (some frame, s) => frame :: x.callbacks (x.packet.length.toNat + 1) 1 frame.id s

/-- Source, destination and number. -/
def triple : BitVec 5 × BitVec 5 × BitVec 10 := (x.packet.id.src, x.packet.id.dst, x.ident)

/-- What the identifiers of all its frames have in common. -/
def conn : U32 :=
  cfpMakeSrc (x.packet.id.src.setWidth 32) ||| cfpMakeDst (x.packet.id.dst.setWidth 32) |||
    cfpMakeId (x.ident.setWidth 32)

/-- The length of the packet. -/
def len : ℕ := x.packet.length.toNat

/-- The number of MORE frames. -/
def more : ℕ := (x.len + 5) / 8

/-- The data bytes in front of frame `k`. -/
def before (k : ℕ) : ℕ := min x.len (8 * k - 6)

/-- Frame `k`. -/
def frame : ℕ → CanFrame
  | 0 => beginFrame x.host x.packet x.ident
  | k + 1 =>
    { id := cfpHeader (x.packet.id.src.setWidth 32) (x.packet.id.dst.setWidth 32)
        (x.ident.setWidth 32) cfpMore (BitVec.ofNat 32 (x.more - (k + 1)))
      data := x.packet.slice (x.before (k + 1)) (x.before (k + 2) - x.before (k + 1))
      le := by
        rw [CspPacket.length_slice, before, before]
        omega }

/-- Each frame has source, destination and number of its packet. -/
theorem cfpConn_frame (k : ℕ) : cfpConn (x.frame k).id = x.conn := by
  cases k <;> exact cfpConn_header ..

/-- The element of the packet after `sent` bytes. -/
structure At (i : Fin pbufElements) (sent : ℕ) (s : Pbuf) : Prop where
  state : (s.elements i).state = .bufUsed
  cfpid : cfpConn (s.elements i).cfpid = x.conn
  packet : (s.elements i).packet = some x.packet
  txCount : (s.elements i).txCount = BitVec.ofNat 16 sent
  others : ∀ j, j ≠ i → ∀ id, cfpConn id = x.conn → (s.elements j).isFor id = false

/-- `csp_can_tx` sends the first frame. -/
theorem cspCanTx_eq : ∃ i s, cspCanTx (x.call 0) x.packet x.pbuf = (some (x.frame 0), s) ∧
    x.At i (x.before 1) s := by
  have hconn : cfpConn (beginFrame x.host x.packet x.ident).id = x.conn := x.cfpConn_frame 0
  obtain ⟨i₀, hi₀⟩ := x.room
  obtain ⟨⟨i, s⟩, hnew⟩ := Option.ne_none_iff_exists'.1 fun hn : pbufNew
      (beginFrame x.host x.packet x.ident).id (x.clock 0) x.pbuf = none => by
    rw [pbufNew_eq_none.1 hn i₀] at hi₀
    exact absurd hi₀ Bool.false_ne_true
  obtain ⟨-, ⟨k, hk⟩, ho, -⟩ := pbufNew_eq_some x.ok hnew
  have hsend : cspCanTx (x.call 0) x.packet x.pbuf = (some (x.frame 0),
      s.set i { s.elements i with
        packet := some x.packet
        txCount := (s.elements i).txCount + BitVec.ofNat 16 (min x.packet.length.toNat 2) }) := by
    unfold cspCanTx
    simp only [call, hnew, if_true]
    rfl
  refine ⟨i, _, hsend, ?_, ?_, ?_, ?_, fun j hj id hid => ?_⟩
  · rw [Pbuf.set_elements_self, hk]
    rfl
  · rw [Pbuf.set_elements_self, hk]
    exact hconn
  · rw [Pbuf.set_elements_self]
  · rw [Pbuf.set_elements_self, hk]
    exact BitVec.zero_add _
  · rw [Pbuf.set_elements_ne _ hj, ho j hj]
    have hfresh := x.fresh j
    rw [Bool.eq_false_iff, ne_eq, PbufElement.isFor_iff] at hfresh ⊢
    exact fun h => hfresh ⟨h.1, h.2.trans (hid.trans hconn.symm)⟩

/-- What was sent before a MORE frame, and that the packet goes on. -/
theorem before_lt {k : ℕ} (hk : k < x.more) : x.before (k + 1) = 8 * k + 2 ∧ 8 * k + 2 < x.len := by
  rw [more] at hk
  rw [before]
  omega

/-- The count of bytes sent fits its field. -/
theorem before_lt_two_pow (k : ℕ) : x.before k < 2 ^ 16 :=
  (Nat.min_le_left _ _).trans_lt x.packet.length.isLt

/-- The frame that `csp_tx_callback` builds is the next one. -/
theorem moreFrame_eq {k : ℕ} (hk : k < x.more) :
    moreFrame x.packet (x.frame k).id (x.before (k + 1)) = x.frame (k + 1) := by
  obtain ⟨hb, hlt⟩ := x.before_lt hk
  have hid : cfpMakeId (cfpId (x.frame k).id) = cfpMakeId (x.ident.setWidth 32) := by
    cases k <;> exact cfpMakeId_header ..
  have hcount : min 8 (x.len - x.before (k + 1)) = x.before (k + 2) - x.before (k + 1) := by
    rw [before, before]
    omega
  have hremain : (x.len - x.before (k + 1) - min 8 (x.len - x.before (k + 1)) + 7) / 8 =
      x.more - (k + 1) := by
    rw [hb, more]
    omega
  ext1
  · show cfpMakeSrc _ ||| _ ||| cfpMakeId (cfpId (x.frame k).id) ||| _ |||
      cfpMakeRemain (BitVec.ofNat 32 ((x.len - x.before (k + 1) -
        min 8 (x.len - x.before (k + 1)) + 7) / 8)) = _
    rw [hid, hremain]
    rfl
  · show x.packet.slice _ (min 8 (x.len - x.before (k + 1))) = _
    rw [hcount]
    rfl

/-- **A callback sends the next frame**, as long as bytes are left. -/
theorem cspTxCallback_more {i : Fin pbufElements} {k : ℕ} (n : ℕ) {s : Pbuf} (hk : k < x.more)
    (h : x.At i (x.before (k + 1)) s) :
    ∃ s', cspTxCallback (x.call n) (x.frame k).id true s = (0, some (x.frame (k + 1)), s') ∧
      x.At i (x.before (k + 2)) s' := by
  obtain ⟨hb, hlt⟩ := x.before_lt hk
  have hfor : (s.elements i).isFor (x.frame k).id = true :=
    PbufElement.isFor_iff.2 ⟨h.state, h.cfpid.trans (x.cfpConn_frame k).symm⟩
  have hfind := pbufFind_of_unique (x.clock n) hfor fun j hj =>
    h.others j hj _ (x.cfpConn_frame k)
  have hcount : (s.elements i).txCount.toNat = x.before (k + 1) := by
    rw [h.txCount, BitVec.toNat_ofNat, Nat.mod_eq_of_lt (x.before_lt_two_pow _)]
  have hless : (s.elements i).txCount < x.packet.length := by
    rw [BitVec.lt_def, hcount, hb]
    exact hlt
  have hcall : ∃ buf, cspTxCallback (x.call n) (x.frame k).id true s =
      (0, some (x.frame (k + 1)), (s.set i { s.elements i with
        lastUsed := x.clock n 0 }).set i buf) ∧ buf = { s.elements i with
          lastUsed := x.clock n 0
          txCount := (s.elements i).txCount + BitVec.ofNat 16 (x.frame (k + 1)).dlc } := by
    refine ⟨_, ?_, rfl⟩
    unfold cspTxCallback
    simp only [call, hfind, Pbuf.set_elements_self, h.packet, Bool.not_true, Bool.false_eq_true,
      if_false, hless, if_true, hcount, x.moreFrame_eq hk]
  obtain ⟨buf, hcall, rfl⟩ := hcall
  refine ⟨_, hcall, ?_, ?_, ?_, ?_, fun j hj id hid => ?_⟩
  · rw [Pbuf.set_elements_self]
    exact h.state
  · rw [Pbuf.set_elements_self]
    exact h.cfpid
  · rw [Pbuf.set_elements_self]
    exact h.packet
  · rw [Pbuf.set_elements_self]
    have hdlc : (x.frame (k + 1)).dlc = x.before (k + 2) - x.before (k + 1) :=
      CspPacket.length_slice ..
    have hle : x.before (k + 1) ≤ x.before (k + 2) := by
      rw [before, before]
      omega
    show (s.elements i).txCount + BitVec.ofNat 16 (x.frame (k + 1)).dlc = _
    rw [h.txCount, hdlc, ← BitVec.ofNat_add, Nat.add_sub_cancel' hle]
  · rw [Pbuf.set_elements_ne _ hj, Pbuf.set_elements_ne _ hj]
    exact h.others j hj id hid

/-- The callback for the last frame sends nothing. -/
theorem cspTxCallback_done {i : Fin pbufElements} (n : ℕ) {s : Pbuf}
    (h : x.At i (x.before (x.more + 1)) s) :
    (cspTxCallback (x.call n) (x.frame x.more).id true s).2.1 = none := by
  have hfor : (s.elements i).isFor (x.frame x.more).id = true :=
    PbufElement.isFor_iff.2 ⟨h.state, h.cfpid.trans (x.cfpConn_frame _).symm⟩
  have hfind := pbufFind_of_unique (x.clock n) hfor fun j hj =>
    h.others j hj _ (x.cfpConn_frame _)
  have hcount : ¬ (s.elements i).txCount < x.packet.length := by
    rw [h.txCount, BitVec.lt_def, BitVec.toNat_ofNat, Nat.mod_eq_of_lt (x.before_lt_two_pow _),
      before, more]
    show ¬ min x.len _ < x.len
    omega
  unfold cspTxCallback
  simp only [call, hfind, Pbuf.set_elements_self, h.packet, Bool.not_true, Bool.false_eq_true,
    if_false, hcount]

/-- **The callbacks send the remaining frames in order.** -/
theorem callbacks_eq {i : Fin pbufElements} (fuel n k : ℕ) {s : Pbuf} (hk : k ≤ x.more)
    (hf : x.more - k < fuel) (h : x.At i (x.before (k + 1)) s) :
    x.callbacks fuel n (x.frame k).id s =
      (List.range (x.more - k)).map fun j => x.frame (k + 1 + j) := by
  induction fuel generalizing n k s with
  | zero => exact absurd hf (Nat.not_lt_zero _)
  | succ fuel ih =>
    rcases Nat.lt_or_eq_of_le hk with hlt | hk
    · obtain ⟨s', hcall, hs'⟩ := x.cspTxCallback_more n hlt h
      have hrest := ih (n + 1) (k + 1) hlt (by omega) hs'
      have hmore : x.more - k = x.more - (k + 1) + 1 := by omega
      rw [x.callbacks_some hcall, hrest, hmore, List.range_succ_eq_map, List.map_cons,
        List.map_map]
      refine congrArg (x.frame (k + 1) :: ·) (List.map_congr_left fun j _ => ?_)
      show x.frame (k + 1 + 1 + j) = x.frame (k + 1 + (j + 1))
      congr 1
      omega
    · rw [hk] at h ⊢
      rw [x.callbacks_none (x.cspTxCallback_done n h), Nat.sub_self]
      rfl

/-- **The frames of a packet**: the first, and one for each eight bytes more. -/
theorem frames_eq : x.frames = (List.range (x.more + 1)).map x.frame := by
  obtain ⟨i, s, hsend, hs⟩ := x.cspCanTx_eq
  have hfuel : x.more - 0 < x.packet.length.toNat + 1 := by
    rw [more]
    show (x.len + 5) / 8 - 0 < x.len + 1
    omega
  have hrest := x.callbacks_eq _ 1 0 (Nat.zero_le _) hfuel hs
  have hframes : x.frames = x.frame 0 ::
      x.callbacks (x.packet.length.toNat + 1) 1 (x.frame 0).id s := by
    -- `rw [frames]` would first prove the equation by evaluating the pool
    delta frames
    rw [hsend]
  rw [hframes, hrest, List.range_succ_eq_map, List.map_cons, List.map_map]
  refine congrArg (x.frame 0 :: ·) (List.map_congr_left fun j _ => ?_)
  show x.frame (0 + 1 + j) = x.frame (j + 1)
  congr 1
  omega

end TxSession
end LibCSP
