/-
# What the CAN interface does with memory

In any sequence of calls, with any frames, the packet of an element in use is
there: `buf->packet` is not followed while `NULL`.  The bytes of a frame are
checked against the length that the BEGIN frame announced, and nothing checks that
length against the size of the buffer, `CSP_CAN_MTU`.

An element in use by a reception holds a BEGIN frame and MORE frames that came after
it, whose remain fields count down from its own (`Traced`).  So a copy can leave the
buffer only if such frames bring more than `CSP_CAN_MTU` bytes and no more than was
announced (`Overruns`, `canRun_inBounds_of_frames`), and never while no BEGIN frame
announces more than `CSP_CAN_MTU` bytes (`canRun_inBounds_of_short`).
-/

import LibCSP.Can.Elements

namespace LibCSP

open Basis

/-! ### Calls -/

inductive CanCall
  /-- `csp_rx_callback`. -/
  | rx (c : RxCall)
  /-- `csp_can_tx`. -/
  | tx (c : TxCall) (packet : CspPacket)
  /-- `csp_tx_callback`. -/
  | txDone (c : TxCall) (canid : U32) (ok : Bool)

def canStep (o : ByteOrder) (s : Pbuf) : CanCall → Pbuf
  | .rx c => (cspRxCallback o c s).2
  | .tx c packet => (cspCanTx c packet s).2
  | .txDone c canid ok => (cspTxCallback c canid ok s).2.2

def canRun (o : ByteOrder) (s : Pbuf) (calls : List CanCall) : Pbuf := calls.foldl (canStep o) s

/-- Every byte copied lies below `CSP_CAN_MTU`, and no `NULL` is followed. -/
def CanEvent.InBounds : CanEvent → Prop
  | .write offset count => ∀ k, k < count → offset + k < cspCanMtu
  | .nullDeref => False
  | .newPacket _ | .free _ => True

/-- An element takes in a MORE frame: it is the next one, and fits the announced length. -/
def PbufElement.Takes (frame : CanFrame) (buf : PbufElement) : Prop :=
  cfpRemain frame.id = buf.remain - 1 ∧
    ∃ p ∈ buf.packet, buf.rxCount.toNat + frame.dlc ≤ p.length.toNat

/-- A MORE frame that is taken in ends below `CSP_CAN_MTU`. -/
def EndsInside (s : Pbuf) : CanCall → Prop
  | .rx c => cfpType c.frame.id = cfpMore → ∀ i s', pbufFind c.frame.id c.clock s = some (i, s') →
      (s.elements i).Takes c.frame →
        ∀ k, k < c.frame.dlc → (s.elements i).rxCount.toNat + k < cspCanMtu
  | _ => True

/-! ### The frames of a packet -/

/-- The frames that were received. -/
def framesOf (calls : List CanCall) : List CanFrame :=
  calls.filterMap fun
    | .rx c => some c.frame
    | _ => none

/-- The length that a BEGIN frame announces. -/
def announced (o : ByteOrder) (frame : CanFrame) : U16 :=
  hton16 o (load16 o (frame.data.getD 4 0) (frame.data.getD 5 0))

/-- The bytes of the packet in a BEGIN frame and MORE frames. -/
def brought (begin : CanFrame) (mores : List CanFrame) : ℕ :=
  begin.dlc - 6 + (mores.map CanFrame.dlc).sum

/-- MORE frames of the packet that a BEGIN frame starts: their remain fields count down by
one from its own. -/
inductive Continued (begin : CanFrame) : List CanFrame → Prop
  | nil : Continued begin []
  | snoc {mores : List CanFrame} {more : CanFrame} (h : Continued begin mores)
      (htype : cfpType more.id = cfpMore) (hconn : cfpConn more.id = cfpConn begin.id)
      (hremain : (cfpRemain more.id).toNat + (mores.length + 1) = (cfpRemain begin.id).toNat) :
      Continued begin (mores ++ [more])

/-- **Among the frames are a BEGIN frame and, later, MORE frames that continue it, which
bring more than `CSP_CAN_MTU` bytes and no more than announced.** -/
def Overruns (o : ByteOrder) (frames : List CanFrame) : Prop :=
  ∃ begin mores, cfpType begin.id = cfpBegin ∧ 6 ≤ begin.dlc ∧
    (begin :: mores).Sublist frames ∧ Continued begin mores ∧
      cspCanMtu < brought begin mores ∧ brought begin mores ≤ (announced o begin).toNat

/-- The frames of two stretches of a run. -/
theorem framesOf_append (l₁ l₂ : List CanCall) :
    framesOf (l₁ ++ l₂) = framesOf l₁ ++ framesOf l₂ := List.filterMap_append ..

/-- The frames of the first call, and of those behind it. -/
theorem framesOf_cons (call : CanCall) (calls : List CanCall) :
    framesOf (call :: calls) = framesOf [call] ++ framesOf calls := framesOf_append [call] calls

/-- One more MORE frame brings its own bytes. -/
theorem brought_snoc (begin : CanFrame) (mores : List CanFrame) (more : CanFrame) :
    brought begin (mores ++ [more]) = brought begin mores + more.dlc := by
  simp only [brought, List.map_append, List.sum_append, List.map_cons, List.map_nil,
    List.sum_cons, List.sum_nil, add_zero, add_assoc]

/-- Frames that overrun the buffer do so also among others. -/
theorem Overruns.mono {o : ByteOrder} {l l' : List CanFrame} (h : Overruns o l)
    (hsub : l.Sublist l') : Overruns o l' := by
  obtain ⟨begin, mores, htype, hdlc, hmem, hrest⟩ := h
  exact ⟨begin, mores, htype, hdlc, hmem.trans hsub, hrest⟩

/-- The element holds a BEGIN frame and these MORE frames. -/
structure PbufElement.Holds (o : ByteOrder) (begin : CanFrame) (mores : List CanFrame)
    (buf : PbufElement) : Prop where
  state : buf.state = .bufUsed
  cfpid : cfpConn buf.cfpid = cfpConn begin.id
  remain : buf.remain.toNat + mores.length = (cfpRemain begin.id).toNat
  rxCount : buf.rxCount.toNat = brought begin mores
  packet : ∃ p ∈ buf.packet, p.length = announced o begin

/-- An element in use expects no frame, or holds frames that were received. -/
def PbufElement.Traced (o : ByteOrder) (past : List CanFrame) (buf : PbufElement) : Prop :=
  buf.state = .bufUsed → buf.remain = 0 ∨ ∃ begin mores,
    cfpType begin.id = cfpBegin ∧ 6 ≤ begin.dlc ∧ (begin :: mores).Sublist past ∧
      Continued begin mores ∧ buf.Holds o begin mores

/-- What the past says of an element stays true of a longer past. -/
theorem PbufElement.Traced.mono {o : ByteOrder} {past past' : List CanFrame} {buf : PbufElement}
    (h : buf.Traced o past) (hsub : past.Sublist past') : buf.Traced o past' := by
  intro hst
  refine (h hst).imp_right ?_
  rintro ⟨begin, mores, htype, hdlc, hmem, hrest⟩
  exact ⟨begin, mores, htype, hdlc, hmem.trans hsub, hrest⟩

/-- A frame that the element expects has one remaining frame less than it. -/
theorem toNat_cfpRemain {frame : CanFrame} {remain : U32}
    (h : cfpRemain frame.id = remain - 1) :
    remain ≠ 0 ∧ (cfpRemain frame.id).toNat + 1 = remain.toNat := by
  have hne : remain ≠ 0 := by
    rintro rfl
    have hbit : (cfpRemain frame.id).getLsbD 8 = false := getLsbD_cfpRemain _ _
    rw [h] at hbit
    exact absurd hbit (by decide)
  refine ⟨hne, ?_⟩
  rw [h]
  bv_omega

/-! ### One call -/

/-- `n` more bytes of the packet are in the element. -/
structure Assembled (n : ℕ) (p : CspPacket) (buf buf' : PbufElement) : Prop where
  state : buf'.state = buf.state
  cfpid : buf'.cfpid = buf.cfpid
  remain : buf'.remain = buf.remain - 1
  rxCount : buf'.rxCount.toNat = buf.rxCount.toNat + n
  packet : ∃ p' ∈ buf'.packet, p'.length = p.length

/-- What a call makes of an element, unless it frees it. -/
inductive PbufElement.Becomes (o : ByteOrder) (call : CanCall) (buf buf' : PbufElement) : Prop
  /-- `csp_can_tx` put its packet there. -/
  | sending (hremain : buf'.remain = 0)
  /-- `csp_tx_callback` counted its bytes. -/
  | sent (hst : buf.state = .bufUsed) (hid : buf'.cfpid = buf.cfpid)
      (hp : buf'.packet = buf.packet) (hcount : buf'.rxCount = buf.rxCount)
      (hremain : buf'.remain = buf.remain)
  /-- `csp_rx_callback` got a BEGIN frame. -/
  | begun (c : RxCall) (hc : call = .rx c) (htype : cfpType c.frame.id = cfpBegin)
      (hdlc : 6 ≤ c.frame.dlc) (h : buf'.Holds o c.frame [])
  /-- `csp_rx_callback` got the MORE frame that the element expects. -/
  | taken (c : RxCall) (p : CspPacket) (hc : call = .rx c) (htype : cfpType c.frame.id = cfpMore)
      (hst : buf.state = .bufUsed) (hconn : cfpConn buf.cfpid = cfpConn c.frame.id)
      (hp : buf.packet = some p) (hremain : cfpRemain c.frame.id = buf.remain - 1)
      (h : Assembled c.frame.dlc p buf buf')

/-- What a call does to the pool: it may change one element, which is then free, or in
use with a packet. -/
def Steps (o : ByteOrder) (call : CanCall) (s s' : Pbuf) : Prop :=
  s' = s ∨ ∃ i, Pbuf.Others i s s' ∧
    (s'.elements i = .free ∨ (s'.elements i).state = .bufUsed ∧
      (s'.elements i).packet ≠ none ∧ (s.elements i).Becomes o call (s'.elements i))

/-- An element that is freed holds nothing that the past would have to explain. -/
theorem Steps.freed (o : ByteOrder) (call : CanCall) {i : Fin pbufElements} {s s' : Pbuf}
    (ho : Pbuf.Others i s s') : Steps o call s (pbufFree i s') :=
  .inr ⟨i, ho.trans (pbufFree_others i s'), .inl (pbufFree_self i s')⟩

/-- **Elements stay in order**: an element in use has a packet. -/
theorem Steps.ok {o : ByteOrder} {call : CanCall} {s s' : Pbuf} (h : Steps o call s s')
    (hs : s.Ok) : s'.Ok := by
  obtain rfl | ⟨i, ho, hfree | ⟨hst, hp, -⟩⟩ := h
  · exact hs
  · refine hs.of_others ho (fun _ => hfree) fun hst => ?_
    rw [hfree] at hst
    exact absurd hst (by decide)
  · refine hs.of_others ho (fun hfree => ?_) fun _ => hp
    rw [hst] at hfree
    exact absurd hfree (by decide)

/-- A BEGIN frame and the MORE frames behind it stay traced. -/
theorem PbufElement.Becomes.traced {o : ByteOrder} {call : CanCall} {past : List CanFrame}
    {buf buf' : PbufElement} (h : buf.Becomes o call buf') (htr : buf.Traced o past)
    (hst' : buf'.state = .bufUsed) : buf'.Traced o (past ++ framesOf [call]) := by
  intro _
  cases h with
  | sending hremain => exact .inl hremain
  | sent hst hid hp hcount hremain =>
    rw [hremain]
    refine (htr hst).imp_right ?_
    rintro ⟨begin, mores, htype, hdlc, hmem, hcont, hholds⟩
    refine ⟨begin, mores, htype, hdlc, hmem.trans (List.sublist_append_left ..), hcont, hst', ?_,
      ?_, ?_, ?_⟩
    · rw [hid]
      exact hholds.cfpid
    · rw [hremain]
      exact hholds.remain
    · rw [hcount]
      exact hholds.rxCount
    · rw [hp]
      exact hholds.packet
  | begun c hc htype hdlc hholds =>
    subst hc
    exact .inr ⟨c.frame, [], htype, hdlc, List.sublist_append_right past _, .nil, hholds⟩
  | taken c p hc htype hst hconn hp hremain hasm =>
    subst hc
    obtain ⟨hne, hcount⟩ := toNat_cfpRemain hremain
    rcases htr hst with hzero | ⟨begin, mores, hbegin, hdlc, hmem, hcont, hholds⟩
    · exact absurd hzero hne
    · have hmem' : (begin :: (mores ++ [c.frame])).Sublist (past ++ [c.frame]) :=
        hmem.append (List.Sublist.refl [c.frame])
      have hlen := hholds.remain
      refine .inr ⟨begin, mores ++ [c.frame], hbegin, hdlc, hmem', hcont.snoc htype ?_ ?_, hst',
        ?_, ?_, ?_, ?_⟩
      · rw [← hconn, hholds.cfpid]
      · omega
      · rw [hasm.cfpid]
        exact hholds.cfpid
      · rw [hasm.remain, ← hremain, List.length_append, List.length_singleton]
        omega
      · rw [hasm.rxCount, hholds.rxCount, brought_snoc]
      · obtain ⟨p', hp', hlen'⟩ := hasm.packet
        obtain ⟨q, hq, hqlen⟩ := hholds.packet
        obtain rfl : p = q := Option.some.inj (hp.symm.trans hq)
        exact ⟨p', hp', hlen'.trans hqlen⟩

/-- Every element in use is traced. -/
def Pbuf.Traced (o : ByteOrder) (past : List CanFrame) (s : Pbuf) : Prop :=
  ∀ i, (s.elements i).Traced o past

/-- Before the first frame no element holds anything. -/
theorem Pbuf.init_traced (o : ByteOrder) : Pbuf.init.Traced o [] := fun _ h =>
  absurd (show PbufState.bufFree = .bufUsed from h) (by decide)

/-- **A call keeps every element traced.** -/
theorem Steps.traced {o : ByteOrder} {call : CanCall} {past : List CanFrame} {s s' : Pbuf}
    (h : Steps o call s s') (htr : s.Traced o past) :
    s'.Traced o (past ++ framesOf [call]) := by
  have hmono : ∀ i, (s.elements i).Traced o (past ++ framesOf [call]) := fun i =>
    (htr i).mono (List.sublist_append_left ..)
  obtain rfl | ⟨i, ho, hi⟩ := h
  · exact hmono
  intro j
  rcases eq_or_ne j i with rfl | hj
  · rcases hi with hfree | ⟨hst, -, hbecomes⟩
    · rw [hfree]
      exact fun hst => absurd hst (by decide)
    · exact hbecomes.traced (htr j) hst
  · rw [ho j hj]
    exact hmono j

/-- **What a traced element takes in ends inside the buffer**, unless the frames overrun
it. -/
theorem Pbuf.Traced.endsInside {o : ByteOrder} {past : List CanFrame} {s : Pbuf}
    (h : s.Traced o past) {call : CanCall} (hno : ¬ Overruns o (past ++ framesOf [call])) :
    EndsInside s call := by
  cases call with
  | tx | txDone => trivial
  | rx c =>
    rintro htype i s' hfind ⟨hremain, p, hp, hle⟩ k hk
    obtain ⟨hfor, -⟩ := pbufFind_eq_some hfind
    obtain ⟨hst, hconn⟩ := PbufElement.isFor_iff.1 hfor
    obtain ⟨hne, hcount⟩ := toNat_cfpRemain hremain
    rcases h i hst with hzero | ⟨begin, mores, hbegin, hdlc, hmem, hcont, hholds⟩
    · exact absurd hzero hne
    · by_contra hover
      have hmem' : (begin :: (mores ++ [c.frame])).Sublist (past ++ [c.frame]) :=
        hmem.append (List.Sublist.refl [c.frame])
      obtain ⟨q, hq, hqlen⟩ := hholds.packet
      obtain rfl : p = q := Option.some.inj (hp.symm.trans hq)
      have hlen := hholds.remain
      have hbytes := hholds.rxCount
      have hbrought := brought_snoc begin mores c.frame
      refine hno ⟨begin, mores ++ [c.frame], hbegin, hdlc, hmem', hcont.snoc htype ?_ ?_, ?_, ?_⟩
      · rw [← hconn, hholds.cfpid]
      · omega
      · omega
      · rw [← hqlen]
        omega

/-! ### Memory -/

/-- All events so far are in bounds. -/
def Pbuf.InBounds (s : Pbuf) : Prop := ∀ ev ∈ s.log, ev.InBounds

/-- The log is in bounds when its old and its new part are. -/
theorem inBounds_append {s s' : Pbuf} {evs : List CanEvent} (h : s'.log = s.log ++ evs) :
    s'.InBounds ↔ s.InBounds ∧ ∀ ev ∈ evs, ev.InBounds := by
  rw [Pbuf.InBounds, h, List.forall_mem_append]
  rfl

/-- Freeing is no access to a buffer. -/
theorem inBounds_frees {s s' : Pbuf} (h : ∃ evs, s'.log = s.log ++ evs ∧
    ∀ ev ∈ evs, ∃ buf, ev = .free buf) : s'.InBounds ↔ s.InBounds := by
  obtain ⟨evs, hl, hevs⟩ := h
  rw [inBounds_append hl]
  refine and_iff_left fun ev hev => ?_
  obtain ⟨buf, rfl⟩ := hevs ev hev
  trivial

/-- `pbuf_free` writes to no packet. -/
theorem pbufFree_inBounds (i : Fin pbufElements) (s : Pbuf) :
    (pbufFree i s).InBounds ↔ s.InBounds := inBounds_frees (pbufFree_log i s)

/-- What `case CFP_MORE` does with `n` bytes in an element with a packet: the element is
free afterwards, or has them, and the latter in any case if more are expected. -/
structure MoreDone (frame : CanFrame) (i : Fin pbufElements) (n : ℕ) (p : CspPacket)
    (s s' : Pbuf) : Prop where
  others : Pbuf.Others i s s'
  element : s'.elements i = .free ∨ cfpRemain frame.id = (s.elements i).remain - 1 ∧
    Assembled n p (s.elements i) (s'.elements i)
  further : cfpRemain frame.id = (s.elements i).remain - 1 →
    (s.elements i).rxCount.toNat + n < p.length.toNat →
      Assembled n p (s.elements i) (s'.elements i)
  inBounds : s'.InBounds ↔ s.InBounds ∧ (cfpRemain frame.id = (s.elements i).remain - 1 →
    (s.elements i).rxCount.toNat + n ≤ p.length.toNat →
      ∀ k, k < n → (s.elements i).rxCount.toNat + k < cspCanMtu)

/-- **`case CFP_MORE`**, given an element with a packet. -/
theorem rxMore_done (frame : CanFrame) {i : Fin pbufElements} (offset : ℕ) {s : Pbuf}
    {p : CspPacket} (hp : (s.elements i).packet = some p) (ho : offset ≤ frame.dlc) :
    MoreDone frame i (frame.dlc - offset) p s (rxMore frame i offset s) := by
  have hlen : (frame.data.drop offset).length = frame.dlc - offset := List.length_drop ..
  unfold rxMore
  simp only [hp]
  split
  · rename_i hremain
    exact ⟨pbufFree_others i s, .inl (pbufFree_self i s), fun he => absurd he hremain,
      (pbufFree_inBounds i s).trans (and_iff_left fun he => absurd he hremain).symm⟩
  · rename_i hremain
    rw [ne_eq, not_not] at hremain
    split
    · rename_i hroom
      refine ⟨((Pbuf.Others.refl i s).set _).trans (pbufFree_others i _), .inl (pbufFree_self ..),
        fun _ hlt => absurd hroom (by omega), ?_⟩
      rw [pbufFree_inBounds]
      exact (and_iff_left fun _ hle => absurd hroom (by omega)).symm
    · rename_i hroom
      rw [hlen]
      obtain ⟨s₁, hs₁⟩ : ∃ s₁, s₁ = (s.emit (.write (s.elements i).rxCount.toNat
          (frame.dlc - offset))).set i { s.elements i with
            remain := (s.elements i).remain - 1
            packet := some (p.write (s.elements i).rxCount.toNat (frame.data.drop offset))
            rxCount := (s.elements i).rxCount + BitVec.ofNat 16 (frame.dlc - offset) } := ⟨_, rfl⟩
      have hcount : ((s.elements i).rxCount + BitVec.ofNat 16 (frame.dlc - offset)).toNat =
          (s.elements i).rxCount.toNat + (frame.dlc - offset) := by
        have := p.length.isLt
        rw [BitVec.toNat_add, BitVec.toNat_ofNat]
        omega
      have ho₁ : Pbuf.Others i s s₁ := hs₁ ▸ ((Pbuf.Others.refl i s).emit _).set _
      have hasm : Assembled (frame.dlc - offset) p (s.elements i) (s₁.elements i) := by
        rw [hs₁, Pbuf.set_elements_self]
        exact ⟨rfl, rfl, rfl, hcount, _, rfl, rfl⟩
      have hin : s₁.InBounds ↔ s.InBounds ∧ (cfpRemain frame.id = (s.elements i).remain - 1 →
          (s.elements i).rxCount.toNat + (frame.dlc - offset) ≤ p.length.toNat →
            ∀ k, k < frame.dlc - offset → (s.elements i).rxCount.toNat + k < cspCanMtu) := by
        have hl₁ : s₁.log = s.log ++ [.write (s.elements i).rxCount.toNat (frame.dlc - offset)] :=
          hs₁ ▸ rfl
        rw [inBounds_append hl₁, List.forall_mem_singleton]
        exact and_congr_right fun _ => ⟨fun h _ _ => h, fun h => h hremain (by omega)⟩
      rw [← hs₁]
      split
      · exact ⟨ho₁, .inr ⟨hremain, hasm⟩, fun _ _ => hasm, hin⟩
      · rename_i hdone
        rw [not_not] at hdone
        refine ⟨((ho₁.emit _).set _).trans (pbufFree_others i _), .inl (pbufFree_self ..),
          fun _ hlt => ?_, ?_⟩
        · have := congrArg BitVec.toNat hdone
          rw [hcount] at this
          exact absurd this (Nat.ne_of_lt hlt)
        · rw [pbufFree_inBounds, ← hin]
          exact (inBounds_append (s := s₁) rfl).trans (and_iff_left fun ev hev => by
            rw [List.mem_singleton.1 hev]
            trivial)

/-- What `case CFP_BEGIN` does with a frame: the element is free afterwards or holds it,
and the latter in any case if there is a buffer and more is expected. -/
structure BeginDone (o : ByteOrder) (c : RxCall) (i : Fin pbufElements) (s s' : Pbuf) : Prop where
  others : Pbuf.Others i s s'
  element : s'.elements i = .free ∨ 6 ≤ c.frame.dlc ∧ (s'.elements i).Holds o c.frame []
  further : 6 ≤ c.frame.dlc → (s.elements i).packet.or c.buffer ≠ none →
    c.frame.dlc - 6 < (announced o c.frame).toNat → (s'.elements i).Holds o c.frame []
  inBounds : s'.InBounds ↔ s.InBounds

/-- **`case CFP_BEGIN`** copies two bytes at most, to the front of the buffer. -/
theorem rxBegin_done {o : ByteOrder} {c : RxCall} {i : Fin pbufElements} {s : Pbuf}
    (hst : (s.elements i).state = .bufUsed)
    (hconn : cfpConn (s.elements i).cfpid = cfpConn c.frame.id) :
    BeginDone o c i s (rxBegin o c i s) := by
  unfold rxBegin
  split
  · rename_i hdlc
    exact ⟨pbufFree_others i s, .inl (pbufFree_self i s), fun h => absurd hdlc (by omega),
      pbufFree_inBounds i s⟩
  · rename_i hdlc
    simp only
    split
    · rename_i hnone
      exact ⟨pbufFree_others i s, .inl (pbufFree_self i s), fun _ h => absurd hnone h,
        pbufFree_inBounds i s⟩
    · rename_i p hp
      obtain ⟨s₁, hs₁⟩ : ∃ s₁, s₁ = s.set i { s.elements i with
        packet := some (p.readHeader o c.frame.data)
        rxCount := 0
        remain := cfpRemain c.frame.id + 1 } := ⟨_, rfl⟩
      have hi : s₁.elements i = { s.elements i with
          packet := some (p.readHeader o c.frame.data)
          rxCount := 0
          remain := cfpRemain c.frame.id + 1 } := by
        rw [hs₁, Pbuf.set_elements_self]
      have hpacket : (s₁.elements i).packet = some (p.readHeader o c.frame.data) := by rw [hi]
      have hcount : (s₁.elements i).rxCount = 0 := by rw [hi]
      have hremain : cfpRemain c.frame.id = (s₁.elements i).remain - 1 := by
        rw [hi]
        show _ = cfpRemain c.frame.id + 1 - 1
        bv_omega
      have hmore := rxMore_done c.frame 6 hpacket (Nat.le_of_not_lt hdlc)
      rw [← hs₁]
      have hholds : Assembled (c.frame.dlc - 6) (p.readHeader o c.frame.data) (s₁.elements i)
          ((rxMore c.frame i 6 s₁).elements i) →
            ((rxMore c.frame i 6 s₁).elements i).Holds o c.frame [] := by
        intro hasm
        refine ⟨?_, ?_, ?_, ?_, ?_⟩
        · rw [hasm.state, hi]
          exact hst
        · rw [hasm.cfpid, hi]
          exact hconn
        · rw [hasm.remain, ← hremain]
          rfl
        · rw [hasm.rxCount, hcount]
          exact Nat.zero_add _
        · obtain ⟨q, hq, hlen⟩ := hasm.packet
          exact ⟨q, hq, hlen⟩
      refine ⟨?_, ?_, fun _ _ hlt => ?_, ?_⟩
      · exact (hs₁ ▸ (Pbuf.Others.refl i s).set _ : Pbuf.Others i s s₁).trans hmore.others
      · exact hmore.element.imp_right fun h => ⟨Nat.le_of_not_lt hdlc, hholds h.2⟩
      · refine hholds (hmore.further hremain ?_)
        rw [hcount]
        show 0 + (c.frame.dlc - 6) < (announced o c.frame).toNat
        omega
      · have hle : c.frame.dlc ≤ 8 := c.frame.le
        have hlog : s₁.InBounds ↔ s.InBounds := by
          rw [hs₁]
          rfl
        refine (hmore.inBounds.trans (and_iff_left fun _ _ k hk => ?_)).trans hlog
        rw [hcount]
        show 0 + k < 256
        omega

/-- An element after its BEGIN frame is free, or begun. -/
theorem BeginDone.steps {o : ByteOrder} {c : RxCall} {i : Fin pbufElements} {s s₁ s' : Pbuf}
    (h : BeginDone o c i s₁ s') (ho : Pbuf.Others i s s₁)
    (htype : cfpType c.frame.id = cfpBegin) : Steps o (.rx c) s s' := by
  refine .inr ⟨i, ho.trans h.others, h.element.imp_right fun ⟨hdlc, hholds⟩ => ?_⟩
  obtain ⟨p, hp, -⟩ := hholds.packet
  exact ⟨hholds.state, by rw [hp]; exact Option.some_ne_none p, .begun c rfl htype hdlc hholds⟩

/-- **A MORE frame in the element that is found for it** is taken in, or the element is freed,
and stays inside the buffer exactly if the frame does. -/
theorem rxMore_found (o : ByteOrder) {c : RxCall} {i : Fin pbufElements} {s s₁ : Pbuf}
    {p : CspPacket} (hfind : pbufFind c.frame.id c.clock s = some (i, s₁))
    (hp : (s.elements i).packet = some p) (hmore : cfpType c.frame.id = cfpMore) :
    Steps o (.rx c) s (rxMore c.frame i 0 s₁) ∧
      ((rxMore c.frame i 0 s₁).InBounds ↔ s.InBounds ∧ EndsInside s (.rx c)) := by
  obtain ⟨hfor, hs₁⟩ := pbufFind_eq_some hfind
  obtain ⟨hst, hconn⟩ := PbufElement.isFor_iff.1 hfor
  have hi : s₁.elements i = { s.elements i with lastUsed := c.clock 0 } := by
    rw [hs₁, Pbuf.set_elements_self]
  have ho : Pbuf.Others i s s₁ := hs₁ ▸ (Pbuf.Others.refl i s).set _
  have hlog : s₁.InBounds ↔ s.InBounds := by
    rw [hs₁]
    rfl
  have hp₁ : (s₁.elements i).packet = some p := by
    rw [hi]
    exact hp
  have hdone := rxMore_done c.frame 0 hp₁ (Nat.zero_le _)
  rw [Nat.sub_zero] at hdone
  constructor
  · refine .inr ⟨i, ho.trans hdone.others, hdone.element.imp_right fun ⟨hremain, hasm⟩ => ?_⟩
    rw [hi] at hremain hasm
    obtain ⟨q, hq, -⟩ := hasm.packet
    refine ⟨hasm.state.trans hst, by rw [hq]; exact Option.some_ne_none q, ?_⟩
    exact .taken c p rfl hmore hst hconn hp hremain
      ⟨hasm.state, hasm.cfpid, hasm.remain, hasm.rxCount, hasm.packet⟩
  · refine hdone.inBounds.trans (and_congr hlog ?_)
    rw [hi]
    constructor
    · rintro h - i' s' hfind' ⟨hremain, q, hq, hle⟩
      obtain ⟨rfl, -⟩ := Prod.mk.inj (Option.some.inj (hfind.symm.trans hfind'))
      obtain rfl : p = q := Option.some.inj (hp.symm.trans hq)
      exact h hremain hle
    · exact fun h hremain hle => h hmore i s₁ hfind ⟨hremain, p, hp, hle⟩

/-- **`csp_rx_callback` stays inside the buffer** exactly if the frame does. -/
theorem cspRxCallback_inBounds (o : ByteOrder) (c : RxCall) {s : Pbuf} (hs : s.Ok) :
    Steps o (.rx c) s (cspRxCallback o c s).2 ∧
      ((cspRxCallback o c s).2.InBounds ↔ s.InBounds ∧ EndsInside s (.rx c)) := by
  unfold cspRxCallback
  split
  · rename_i i s₁ hfind
    obtain ⟨hfor, hs₁⟩ := pbufFind_eq_some hfind
    obtain ⟨hst, hconn⟩ := PbufElement.isFor_iff.1 hfor
    have hi : s₁.elements i = { s.elements i with lastUsed := c.clock 0 } := by
      rw [hs₁, Pbuf.set_elements_self]
    have ho : Pbuf.Others i s s₁ := hs₁ ▸ (Pbuf.Others.refl i s).set _
    have hlog : s₁.InBounds ↔ s.InBounds := by
      rw [hs₁]
      rfl
    show Steps o (.rx c) s (rxFrame o c i s₁) ∧ ((rxFrame o c i s₁).InBounds ↔ _)
    unfold rxFrame
    split
    · rename_i htype
      have hdone := rxBegin_done (o := o) (c := c) (i := i) (s := s₁) (by rw [hi]; exact hst)
        (by rw [hi]; exact hconn)
      refine ⟨hdone.steps ho htype,
        (hdone.inBounds.trans hlog).trans (and_iff_left fun hmore => ?_).symm⟩
      exact absurd (htype.symm.trans hmore) (by decide)
    · split
      · rename_i hmore
        obtain ⟨p, hp⟩ := Option.ne_none_iff_exists'.1 (hs.used i hst)
        exact rxMore_found o hfind hp hmore
      · rename_i hmore
        exact ⟨.freed o _ ho, ((pbufFree_inBounds i s₁).trans hlog).trans
          (and_iff_left fun h => absurd h hmore).symm⟩
  · rename_i hfind
    have hend : EndsInside s (.rx c) := fun _ i s' h => absurd (hfind.symm.trans h) (by simp)
    split
    · rename_i htype
      split
      · rename_i i s₁ hnew
        obtain ⟨-, ⟨k, hk⟩, ho, hl⟩ := pbufNew_eq_some hs hnew
        have hdone := rxBegin_done (o := o) (c := c) (i := i) (s := s₁) (hk ▸ rfl) (hk ▸ rfl)
        show Steps o (.rx c) s (rxFrame o c i s₁) ∧ ((rxFrame o c i s₁).InBounds ↔ _)
        rw [rxFrame, if_pos htype]
        exact ⟨hdone.steps ho htype,
          (hdone.inBounds.trans (inBounds_frees hl)).trans (and_iff_left hend).symm⟩
      · exact ⟨.inl rfl, (and_iff_left hend).symm⟩
    · exact ⟨.inl rfl, (and_iff_left hend).symm⟩

/-- In an element that is found only the clock reading is new. -/
theorem cspRxCallback_found {o : ByteOrder} {c : RxCall} {s : Pbuf} {i : Fin pbufElements}
    (hfor : (s.elements i).isFor c.frame.id = true)
    (hfirst : ∀ j, j < i → (s.elements j).isFor c.frame.id = false) :
    (cspRxCallback o c s).2 =
      rxFrame o c i (s.set i { s.elements i with lastUsed := c.clock 0 }) := by
  unfold cspRxCallback
  rw [pbufFind_of_first c.clock hfor hfirst]

/-- `csp_can_tx` copies nothing into a buffer. -/
theorem cspCanTx_inBounds (o : ByteOrder) (c : TxCall) (packet : CspPacket) {s : Pbuf}
    (hs : s.Ok) : Steps o (.tx c packet) s (cspCanTx c packet s).2 ∧
      ((cspCanTx c packet s).2.InBounds ↔ s.InBounds) := by
  unfold cspCanTx
  split
  · exact ⟨.inl rfl, Iff.rfl⟩
  · simp only
    split
    · exact ⟨.inl rfl, Iff.rfl⟩
    · rename_i i s₁ hnew
      obtain ⟨-, ⟨k, hk⟩, ho, hl⟩ := pbufNew_eq_some hs hnew
      refine ⟨.inr ⟨i, ho.set _, .inr ?_⟩, inBounds_frees hl⟩
      rw [Pbuf.set_elements_self, hk]
      exact ⟨rfl, Option.some_ne_none packet, .sending rfl⟩

/-- Nor does `csp_tx_callback`. -/
theorem cspTxCallback_inBounds (o : ByteOrder) (c : TxCall) (canid : U32) (ok : Bool) (s : Pbuf) :
    Steps o (.txDone c canid ok) s (cspTxCallback c canid ok s).2.2 ∧
      ((cspTxCallback c canid ok s).2.2.InBounds ↔ s.InBounds) := by
  unfold cspTxCallback
  split
  · exact ⟨.inl rfl, Iff.rfl⟩
  · rename_i i s' hfind
    obtain ⟨hfor, rfl⟩ := pbufFind_eq_some hfind
    obtain ⟨hst, -⟩ := PbufElement.isFor_iff.1 hfor
    have hfree : ∀ s₁ : Pbuf, Pbuf.Others i s s₁ → s₁.log = s.log →
        Steps o (.txDone c canid ok) s (pbufFree i s₁) ∧
          ((pbufFree i s₁).InBounds ↔ s.InBounds) := by
      intro s₁ ho hl
      refine ⟨.freed o _ ho, (pbufFree_inBounds i s₁).trans ?_⟩
      rw [Pbuf.InBounds, hl]
      rfl
    have ho := (Pbuf.Others.refl i s).set { s.elements i with lastUsed := c.clock 0 }
    simp only
    split
    · exact hfree _ ho rfl
    · rename_i p hp
      split
      · exact hfree _ ho rfl
      · split
        · split
          · simp only [Pbuf.set_elements_self] at hp
            refine ⟨.inr ⟨i, ho.set _, .inr ?_⟩, Iff.rfl⟩
            simp only [Pbuf.set_elements_self]
            exact ⟨hst, by rw [hp]; exact Option.some_ne_none p, .sent hst rfl rfl rfl rfl⟩
          · exact hfree _ (ho.set _) rfl
        · exact hfree _ ho rfl

/-- **One call of any kind.** -/
theorem canStep_inBounds (o : ByteOrder) {s : Pbuf} (hs : s.Ok) (call : CanCall) :
    Steps o call s (canStep o s call) ∧
      ((canStep o s call).InBounds ↔ s.InBounds ∧ EndsInside s call) := by
  cases call with
  | rx c => exact cspRxCallback_inBounds o c hs
  | tx c packet =>
    obtain ⟨hst, hb⟩ := cspCanTx_inBounds o c packet hs
    exact ⟨hst, hb.trans (and_iff_left trivial).symm⟩
  | txDone c canid ok =>
    obtain ⟨hst, hb⟩ := cspTxCallback_inBounds o c canid ok s
    exact ⟨hst, hb.trans (and_iff_left trivial).symm⟩

/-! ### All calls -/

/-- Calls in two stretches. -/
theorem canRun_append (o : ByteOrder) (s : Pbuf) (l₁ l₂ : List CanCall) :
    canRun o s (l₁ ++ l₂) = canRun o (canRun o s l₁) l₂ := List.foldl_append ..

/-- Elements stay in order in any sequence of calls. -/
theorem canRun_ok (o : ByteOrder) (calls : List CanCall) {s : Pbuf} (hs : s.Ok) :
    (canRun o s calls).Ok := by
  induction calls generalizing s with
  | nil => exact hs
  | cons call calls ih => exact ih ((canStep_inBounds o hs call).1.ok hs)

/-- What is out of bounds stays so. -/
theorem canRun_inBounds_of (o : ByteOrder) (calls : List CanCall) {s : Pbuf} (hs : s.Ok)
    (h : (canRun o s calls).InBounds) : s.InBounds := by
  induction calls generalizing s with
  | nil => exact h
  | cons call calls ih =>
    obtain ⟨hst, hb⟩ := canStep_inBounds o hs call
    exact (hb.1 (ih (hst.ok hs) h)).1

/-- Frames that do not overrun the buffer leave a traced pool in bounds. -/
theorem canRun_inBounds_traced (o : ByteOrder) (calls : List CanCall) {past : List CanFrame}
    {s : Pbuf} (hs : s.Ok) (htr : s.Traced o past) (hin : s.InBounds)
    (hno : ¬ Overruns o (past ++ framesOf calls)) : (canRun o s calls).InBounds := by
  induction calls generalizing past s with
  | nil => exact hin
  | cons call calls ih =>
    rw [framesOf_cons, ← List.append_assoc] at hno
    obtain ⟨hst, hb⟩ := canStep_inBounds o hs call
    have hnow : ¬ Overruns o (past ++ framesOf [call]) := fun h =>
      hno (h.mono (List.sublist_append_left ..))
    exact ih (hst.ok hs) (hst.traced htr) (hb.2 ⟨hin, htr.endsInside hnow⟩) hno

/-- **No byte is written behind the buffer and no `NULL` followed**, in any sequence of
calls whose frames do not overrun it. -/
theorem canRun_inBounds_of_frames (o : ByteOrder) {calls : List CanCall}
    (hno : ¬ Overruns o (framesOf calls)) : ∀ ev ∈ (canRun o .init calls).log, ev.InBounds :=
  canRun_inBounds_traced o calls Pbuf.init_ok (Pbuf.init_traced o)
    (fun _ hev => absurd hev List.not_mem_nil) hno

/-- In particular while no BEGIN frame announces more than `CSP_CAN_MTU` bytes. -/
theorem canRun_inBounds_of_short (o : ByteOrder) {calls : List CanCall}
    (hshort : ∀ frame ∈ framesOf calls, cfpType frame.id = cfpBegin →
      (announced o frame).toNat ≤ cspCanMtu) :
    ∀ ev ∈ (canRun o .init calls).log, ev.InBounds := by
  refine canRun_inBounds_of_frames o ?_
  rintro ⟨begin, mores, htype, -, hmem, -, hmtu, hle⟩
  have := hshort begin (hmem.subset List.mem_cons_self) htype
  omega

end LibCSP
