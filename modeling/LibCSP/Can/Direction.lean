/-
# Received frames and the elements of transmissions

Reception and transmission share the pool of elements, and `csp_rx_callback` looks its
element up by source, destination and number alone.  A frame is bound to the first element
in use for them (`Binds.found`), or, at the beginning of a packet, to the element that
`pbuf_new` comes to first (`Binds.claimed`).  What `csp_can_tx` has put there is not
asked for.

A frame changes the element it is bound to and no other.  So received frames keep away from
the transmissions exactly if none of these has an element that the frame is bound to
(`reception_keeps_iff`): otherwise the frame frees the packet on its way out, or is
assembled into it.
-/

import LibCSP.Can.Ownership

namespace LibCSP

open Basis

/-! ### Packets are in one place -/

/-- Each packet has a number that was given, and is in one element or gone once. -/
structure CanIface.Numbered (s : CanIface) : Prop where
  ok : s.pbuf.Ok
  lt : ∀ n ∈ Pbuf.books.placed s.pbuf, n < s.next
  nodup : (Pbuf.books.placed s.pbuf).Nodup

/-- A frame moves the buffer from `csp_buffer_get` at most. -/
theorem cspRxCallback_moves (o : ByteOrder) (c : RxCall) (s : Pbuf) :
    ∃ i, ∃ hand ≤ bufOf c.buffer, Moves i s (bufOf c.buffer) (cspRxCallback o c s).2 hand := by
  have hstay : ∃ i, ∃ hand ≤ bufOf c.buffer, Moves i s (bufOf c.buffer) s hand :=
    ⟨⟨0, by decide⟩, _, le_rfl, .refl _ s _⟩
  have hframe : ∀ {j s₁}, Moves j s 0 s₁ 0 →
      ∃ i, ∃ hand ≤ bufOf c.buffer, Moves i s (bufOf c.buffer) (rxFrame o c j s₁) hand := by
    intro j s₁ hmove
    obtain ⟨hand, hle, h⟩ := rxFrame_moves o c j s₁
    exact ⟨j, hand, hle, (hmove.keep _).trans h⟩
  unfold cspRxCallback
  split
  · rename_i hfind
    exact hframe (pbufFind_moves hfind)
  · split
    · split
      · rename_i hnew
        exact hframe (pbufNew_moves hnew)
      · exact hstay
    · exact hstay

namespace CanIface.Numbered

variable {s s' : CanIface}

/-- Before the first call the count has numbered nothing. -/
theorem init : CanIface.init.Numbered where
  ok := Pbuf.init_ok
  lt _ hn := absurd hn (Multiset.notMem_zero _)
  nodup := Multiset.nodup_zero

/-- A change of the pool that brings in the next number at most. -/
theorem pool {i : Fin pbufElements} {hand hand' : Multiset ℕ} (h : s.Numbered)
    (hok : s'.pbuf.Ok) (hmove : Moves i s.pbuf hand s'.pbuf hand') (hle : s.next ≤ s'.next)
    (hhand : hand ≤ {s.next}) (hnext : ∀ b ∈ hand, b < s'.next) : s'.Numbered := by
  have hbooks : Pbuf.books.placed s.pbuf + hand = Pbuf.books.placed s'.pbuf + hand' :=
    add_right_cancel hmove.conserves
  have hsub : Pbuf.books.placed s'.pbuf ≤ Pbuf.books.placed s.pbuf + hand := by
    rw [hbooks]
    exact Multiset.le_add_right _ _
  have hnodup : (Pbuf.books.placed s.pbuf + hand).Nodup := by
    have hone : hand.Nodup := Multiset.nodup_of_le hhand (Multiset.nodup_singleton _)
    refine Multiset.nodup_add.2 ⟨h.nodup, hone, ?_⟩
    refine Multiset.disjoint_left.2 fun {n} hn hmem => ?_
    rw [Multiset.mem_singleton.1 (Multiset.mem_of_le hhand hmem)] at hn
    exact absurd (h.lt _ hn) (Nat.lt_irrefl _)
  refine ⟨hok, fun n hn => ?_, Multiset.nodup_of_le hsub hnodup⟩
  exact (Multiset.mem_add.1 (Multiset.mem_of_le hsub hn)).elim
    (fun hmem => (h.lt n hmem).trans_le hle) (hnext n)

/-- Semaphores and calls do not matter. -/
theorem congr (h : s.Numbered) (hp : s'.pbuf = s.pbuf) (hn : s.next ≤ s'.next) :
    s'.Numbered := by
  obtain ⟨hok, hlt, hnodup⟩ := h
  constructor
  · rwa [hp]
  · rw [hp]
    exact fun n hmem => (hlt n hmem).trans_le hn
  · rwa [hp]

/-- `csp_can_tx` numbers its packet with the next number. -/
theorem txStart (h : s.Numbered) (c : TxCall) (packet : CspPacket) (blocking : Bool) :
    (txStart c packet blocking s).Numbered := by
  have hok := (cspCanTx_inBounds c.host c (s.number packet) h.ok).1.ok h.ok
  have hpool : CanIface.Numbered { s with
      pbuf := (cspCanTx c (s.number packet) s.pbuf).2
      next := s.next + 1 } := by
    rcases cspCanTx_moves c (s.number packet) h.ok with ⟨-, hsame⟩ | ⟨i, -, hmove, -⟩
    · exact h.congr hsame (Nat.le_succ _)
    · refine h.pool hok hmove (Nat.le_succ _) le_rfl fun b hb => ?_
      rw [Multiset.mem_singleton.1 hb]
      exact Nat.lt_succ_self _
  unfold LibCSP.txStart
  simp only
  split
  · exact hpool.congr rfl le_rfl
  · split
    · exact hpool.congr rfl le_rfl
    · split <;> exact hpool.congr rfl le_rfl

/-- A received frame numbers its buffer with the next number. -/
theorem rxCallback (h : s.Numbered) (o : ByteOrder) (c : RxCall) : CanIface.Numbered { s with
    pbuf := (cspRxCallback o (s.numberBuffer c) s.pbuf).2
    next := s.next + 1 } := by
  obtain ⟨i, hand, -, hmove⟩ := cspRxCallback_moves o (s.numberBuffer c) s.pbuf
  refine h.pool ((cspRxCallback_inBounds o (s.numberBuffer c) h.ok).1.ok h.ok) hmove
    (Nat.le_succ _) ?_ fun b hb => ?_
  · show bufOf (c.buffer.map s.number) ≤ {s.next}
    cases c.buffer with
    | none => exact Multiset.zero_le _
    | some p => exact le_rfl
  · rw [CanIface.Accounted.buf_of_numberBuffer hb]
    exact Nat.lt_succ_self _

/-- `csp_tx_callback` numbers nothing. -/
theorem txCallback (h : s.Numbered) (c : TxCall) (canid : U32) (ok : Bool) :
    CanIface.Numbered { s with pbuf := (cspTxCallback c canid ok s.pbuf).2.2 } := by
  have hok := (cspTxCallback_inBounds c.host c canid ok s.pbuf).1.ok h.ok
  rcases cspTxCallback_moves c canid ok s.pbuf with hsame | ⟨i, hmove, -⟩
  · exact h.congr hsame le_rfl
  · exact h.pool hok hmove le_rfl (Multiset.zero_le _) fun b hb =>
      absurd hb (Multiset.notMem_zero b)

/-- **No turn puts a packet into two places.** -/
theorem step {o : ByteOrder} {a : CanAction} (h : s.Numbered)
    (hst : canIfaceStep o s a = some s') : s'.Numbered := by
  cases canIfaceStep_turn hst with
  | tx c packet blocking => exact h.txStart c packet blocking
  | wake | timeout => exact h.congr rfl le_rfl
  | txCallback c canid ok txSem => exact (h.txCallback c canid ok).congr rfl le_rfl
  | rxCallback c => exact h.rxCallback o c

/-- A packet in an element has not been given away. -/
theorem notMem_givenAway (h : s.Numbered) {i : Fin pbufElements} {p : CspPacket}
    (hp : p ∈ (s.pbuf.elements i).packet) : p.buf ∉ givenAway s.pbuf.log := by
  have hheld : p.buf ∈ s.pbuf.held :=
    Multiset.mem_sum.2 ⟨i, Finset.mem_univ i, mem_bufOf.2 ⟨p, hp, rfl⟩⟩
  exact Multiset.disjoint_left.1 (Multiset.nodup_add.1 h.nodup).2.2 hheld

end CanIface.Numbered

/-- **Every packet in an element has a number of its own**, in every run. -/
theorem run_numbered {o : ByteOrder} {ok : CanIface → CanAction → Prop} {is : List CanAction}
    {s : CanIface} (hrun : Run (canIfaceStep o) ok .init is s) : s.Numbered :=
  hrun.invariant (fun _ _ _ h _ hst => h.step hst) .init

/-! ### The element of a frame -/

/-- `csp_rx_callback` binds a frame with this identifier to element `i`. -/
inductive Binds (id : U32) (clock : ℕ → U32) (s : Pbuf) (i : Fin pbufElements) : Prop
  /-- By `pbuf_find`. -/
  | found : (s.elements i).isFor id = true → (∀ j, j < i → (s.elements j).isFor id = false) →
      Binds id clock s i
  /-- By `pbuf_new`. -/
  | claimed : (∀ j, (s.elements j).isFor id = false) → cfpType id = cfpBegin →
      (s.elements i).available (clock i) = true →
      (∀ j, j < i → (s.elements j).available (clock j) = false) → Binds id clock s i

/-- The element of the packet, apart from the time of its last use. -/
structure PbufElement.Same (buf buf' : PbufElement) : Prop where
  state : buf'.state = buf.state
  cfpid : buf'.cfpid = buf.cfpid
  packet : buf'.packet = buf.packet
  txCount : buf'.txCount = buf.txCount
  rxCount : buf'.rxCount = buf.rxCount
  remain : buf'.remain = buf.remain

/-- An element is as it was. -/
theorem PbufElement.Same.refl (buf : PbufElement) : buf.Same buf := ⟨rfl, rfl, rfl, rfl, rfl, rfl⟩

section

variable {o : ByteOrder} {c : RxCall} {s : Pbuf} {i : Fin pbufElements}

/-- **A frame changes the element it is bound to**, if there is one. -/
theorem cspRxCallback_others (h : ∀ j, Binds c.frame.id c.clock s j → j ≠ i) :
    (cspRxCallback o c s).2.elements i = s.elements i := by
  have hframe : ∀ {j s₁}, Moves j s 0 s₁ 0 → Binds c.frame.id c.clock s j →
      (rxFrame o c j s₁).elements i = s.elements i := by
    intro j s₁ hmove hbind
    obtain ⟨hand, -, hrx⟩ := rxFrame_moves o c j s₁
    rw [hrx.others i (h j hbind).symm, hmove.others i (h j hbind).symm]
  unfold cspRxCallback
  split
  · rename_i j s₁ hfind
    obtain ⟨k, hk, hmap⟩ := Option.map_eq_some_iff.1 hfind
    obtain ⟨rfl, -⟩ := Prod.mk.inj hmap
    obtain ⟨hfor, hfirst⟩ := Fin.find?_eq_some_iff.1 hk
    exact hframe (pbufFind_moves hfind) (.found hfor hfirst)
  · rename_i hfind
    split
    · rename_i htype
      split
      · rename_i j s₁ hnew
        obtain ⟨k, hk, hmap⟩ := Option.map_eq_some_iff.1 hnew
        obtain ⟨hav, hfirst⟩ := Fin.find?_eq_some_iff.1 hk
        have hkj : k = j := by
          split at hmap <;> exact (Prod.mk.inj hmap).1
        subst hkj
        exact hframe (pbufNew_moves hnew)
          (.claimed (pbufFind_eq_none.1 hfind) htype hav hfirst)
      · rfl
    · rfl

/-- A BEGIN frame that no element is for takes the first one that is available. -/
theorem cspRxCallback_claimed (hnone : ∀ j, (s.elements j).isFor c.frame.id = false)
    (htype : cfpType c.frame.id = cfpBegin) (hav : (s.elements i).available (c.clock i) = true)
    (hfirst : ∀ j, j < i → (s.elements j).available (c.clock j) = false) :
    ∃ s₁, (cspRxCallback o c s).2 = rxFrame o c i s₁ := by
  have hnew : ∃ s₁, pbufNew c.frame.id c.clock s = some (i, s₁) := by
    rw [pbufNew, Fin.find?_eq_some_iff.2 ⟨hav, hfirst⟩, Option.map_some]
    split <;> exact ⟨_, rfl⟩
  obtain ⟨s₁, hnew⟩ := hnew
  refine ⟨s₁, ?_⟩
  unfold cspRxCallback
  rw [pbufFind_eq_none.2 hnone, if_pos htype, hnew]

/-- A BEGIN frame without a header frees the element. -/
theorem rxFrame_short (htype : cfpType c.frame.id = cfpBegin) (hdlc : c.frame.dlc < 6) :
    rxFrame o c i s = pbufFree i s := by
  rw [rxFrame, if_pos htype, rxBegin, if_pos hdlc]

/-- A MORE frame is assembled into the packet of the element, or frees it. -/
theorem rxMore_packet (frame : CanFrame) (offset : ℕ) {p : CspPacket}
    (hp : (s.elements i).packet = some p) :
    ((rxMore frame i offset s).elements i).packet = none ∨
      ((rxMore frame i offset s).elements i).remain = (s.elements i).remain - 1 := by
  unfold rxMore
  simp only
  rw [hp]
  split
  · exact .inl (pbufFree_packet i s)
  · simp only
    split
    · exact .inl (pbufFree_packet i _)
    · split
      · rw [Pbuf.set_elements_self]
        exact .inr rfl
      · exact .inl (pbufFree_packet i _)

/-- An empty frame frees the element it is bound to, or counts as one of the frames that a packet
there lacks. -/
theorem Binds.empty {p : CspPacket} (hbind : Binds c.frame.id c.clock s i) (hdlc : c.frame.dlc < 6)
    (hp : (s.elements i).packet = some p) :
    (((cspRxCallback o c s).2).elements i).packet = none ∨
      (((cspRxCallback o c s).2).elements i).remain = (s.elements i).remain - 1 := by
  cases hbind with
  | found hfor hfirst =>
    rw [cspRxCallback_found hfor hfirst]
    obtain ⟨s₁, hs₁⟩ : ∃ s₁, s₁ = s.set i { s.elements i with lastUsed := c.clock 0 } := ⟨_, rfl⟩
    have hp₁ : (s₁.elements i).packet = some p := by
      rw [hs₁, Pbuf.set_elements_self]
      exact hp
    have hremain : (s₁.elements i).remain = (s.elements i).remain := by
      rw [hs₁, Pbuf.set_elements_self]
    rw [← hs₁, ← hremain]
    by_cases hbegin : cfpType c.frame.id = cfpBegin
    · rw [rxFrame_short hbegin hdlc]
      exact .inl (pbufFree_packet i s₁)
    · rw [rxFrame, if_neg hbegin]
      split
      · exact rxMore_packet c.frame 0 hp₁
      · exact .inl (pbufFree_packet i s₁)
  | claimed hnone htype hav hfirst =>
    obtain ⟨s₁, hrx⟩ := cspRxCallback_claimed (o := o) hnone htype hav hfirst
    rw [hrx, rxFrame_short htype hdlc]
    exact .inl (pbufFree_packet i s₁)

end

/-! ### Transmissions -/

namespace CanIface

/-- Element `i` is in use by a transmission: it has a packet of `csp_can_tx`, and `can_send` took
the first frame. -/
def Transmits (s : CanIface) (i : Fin pbufElements) : Prop :=
  ∃ p ∈ (s.pbuf.elements i).packet, ∃ st ∈ s.calls p.buf, st ≠ .returned .sendFailed

instance (s : CanIface) (i : Fin pbufElements) : Decidable (s.Transmits i) :=
  inferInstanceAs (Decidable (∃ p ∈ _, ∃ st ∈ _, _))

/-- What `s'` has of the transmission from element `i` is what `s` has of it. -/
structure Keeps (s s' : CanIface) (i : Fin pbufElements) : Prop where
  element : (s.pbuf.elements i).Same (s'.pbuf.elements i)
  /-- The packet was neither freed nor handed to `csp_new_packet`. -/
  packet : ∀ p ∈ (s.pbuf.elements i).packet, p.buf ∉ givenAway s'.pbuf.log

end CanIface

/-- **Received frames keep away from the transmissions**, whatever is in them, exactly if none of
these has the element that `csp_rx_callback` binds the frames to. -/
theorem reception_keeps_iff {o : ByteOrder} {is : List CanAction} {s : CanIface}
    (hrun : Run (canIfaceStep o) (fun _ _ => True) .init is s) (id : U32) (clock : ℕ → U32) :
    (∀ c s', c.frame.id = id → c.clock = clock → canIfaceStep o s (.rxCallback c) = some s' →
        ∀ i, s.Transmits i → s.Keeps s' i) ↔
      ∀ i, s.Transmits i → ¬ Binds id clock s.pbuf i := by
  constructor
  · rintro hkeeps i htx hbind
    -- an empty frame will do
    obtain ⟨c, hc⟩ : ∃ c : RxCall, c = ⟨⟨id, [], Nat.zero_le 8⟩, clock, none⟩ := ⟨_, rfl⟩
    have hdlc : c.frame.dlc < 6 := by
      rw [hc]
      exact Nat.zero_lt_succ 5
    obtain ⟨rfl, rfl⟩ : c.frame.id = id ∧ c.clock = clock := by
      rw [hc]
      exact ⟨rfl, rfl⟩
    have hsame := (hkeeps c _ rfl rfl rfl i htx).element
    obtain ⟨p, hp, -⟩ := htx
    rcases Binds.empty (o := o) (c := s.numberBuffer c) hbind hdlc hp with hnone | hremain
    · exact absurd ((hsame.packet.trans hp).symm.trans hnone) (Option.some_ne_none p)
    · have hback : (s.pbuf.elements i).remain - 1 = (s.pbuf.elements i).remain :=
        hremain.symm.trans hsame.remain
      bv_omega
  · rintro hfree c s' rfl rfl hst i htx
    have hnum : s'.Numbered := (run_numbered hrun).step hst
    obtain rfl := Option.some.inj hst
    have hsame : (cspRxCallback o (s.numberBuffer c) s.pbuf).2.elements i = s.pbuf.elements i :=
      cspRxCallback_others fun j hbind hji => hfree i htx (hji ▸ hbind)
    refine ⟨?_, fun p hp => hnum.notMem_givenAway (i := i) ?_⟩
    · rw [hsame]
      exact .refl _
    · rw [hsame]
      exact hp

/-- `pbuf[0]`. -/
def pbufFirst : Fin pbufElements := ⟨0, by decide⟩

/-- A packet of three frames from node 1 to node 2. -/
def forwardedPacket : CspPacket := ⟨0, 0, 0, 20, 0x02200000, fun _ => 0⟩

/-- A packet from node 3 is on its way in while the forwarded one is on its way out. -/
theorem reception_keeps_other : ∃ s : CanIface, Run (canIfaceStep .little) (fun _ _ => True) .init
    [.tx (txCall true) forwardedPacket false] s ∧ s.Transmits pbufFirst ∧
    ∀ c s', c.frame.id = cfpHeader 3 2 5 cfpBegin 0 → c.clock = (fun _ => 0) →
      canIfaceStep .little s (.rxCallback c) = some s' → s.Keeps s' pbufFirst := by
  have hrun : ∃ s : CanIface, Run (canIfaceStep .little) (fun _ _ => True) .init
      [.tx (txCall true) forwardedPacket false] s ∧
      decide (s.Transmits pbufFirst ∧
        (s.pbuf.elements pbufFirst).isFor (cfpHeader 3 2 5 cfpBegin 0) = false ∧
        (s.pbuf.elements pbufFirst).available 0 = false ∧
        ∀ i, i ≠ pbufFirst → (s.pbuf.elements i).packet = none) = true :=
    Run.of_any (by decide +kernel)
  obtain ⟨s, hrun, hs⟩ := hrun
  obtain ⟨htx, hfor, hav, hrest⟩ := of_decide_eq_true hs
  have hfree : ∀ i, s.Transmits i →
      ¬ Binds (cfpHeader 3 2 5 cfpBegin 0) (fun _ => 0) s.pbuf i := by
    rintro i ⟨p, hp, -⟩ hbind
    have hi : i = pbufFirst := by
      by_contra hne
      exact absurd ((hrest i hne).symm.trans hp) (Option.some_ne_none p).symm
    subst hi
    cases hbind with
    | found hfound => exact absurd (hfound.symm.trans hfor) Bool.true_eq_false_eq_False
    | claimed _ _ hclaim => exact absurd (hclaim.symm.trans hav) (by decide)
  exact ⟨s, hrun, htx, fun c s' hid hclock hst =>
    (reception_keeps_iff hrun _ _).2 hfree c s' hid hclock hst pbufFirst htx⟩

/-- **A received MORE frame frees the packet that is being sent**: it carries the source,
destination and number of the packet. -/
theorem reception_frees_transmission :
    ¬ ∀ (o : ByteOrder) (is : List CanAction) (s s' : CanIface) (c : RxCall) (i : Fin pbufElements),
      Run (canIfaceStep o) (fun _ _ => True) .init is s →
        canIfaceStep o s (.rxCallback c) = some s' → s.Transmits i → s.Keeps s' i := by
  intro h
  obtain ⟨c, hc⟩ : ∃ c : RxCall,
      c = ⟨⟨cfpHeader 1 2 5 cfpMore 1, [], Nat.zero_le 8⟩, fun _ => 0, none⟩ := ⟨_, rfl⟩
  have hrun : ∃ s : CanIface, Run (canIfaceStep .little) (fun _ _ => True) .init
      [.tx (txCall true) forwardedPacket false] s ∧
      decide (s.Transmits pbufFirst ∧ (s.pbuf.elements pbufFirst).packet.isSome ∧
        ((cspRxCallback .little (s.numberBuffer c) s.pbuf).2.elements pbufFirst).packet.isNone) =
          true := by
    rw [hc]
    exact Run.of_any (by decide +kernel)
  obtain ⟨s, hrun, hs⟩ := hrun
  obtain ⟨htx, hsome, hnone⟩ := of_decide_eq_true hs
  have hkept := (h _ _ s _ c pbufFirst hrun rfl htx).element.packet
  rw [← hkept, Option.isSome_iff_ne_none] at hsome
  exact hsome (Option.isNone_iff_eq_none.1 hnone)

end LibCSP
