/-
# Where the packets of the CAN interface are

The interface has a packet while an element points to it, and gives it away through
`csp_buffer_free` or `csp_new_packet`.  With both on its books no call loses a packet or
has it twice: what `csp_can_tx` is called with and `csp_buffer_get` returns is in an
element or gone afterwards, or still in hand (`Pbuf.books`).
-/

import Mathlib.Algebra.BigOperators.Fin
import LibCSP.Basis.Ledger
import LibCSP.Can.Elements

namespace LibCSP

open Basis

/-! ### Books -/

/-- The buffers of a packet pointer. -/
def bufOf (packet : Option CspPacket) : Multiset ℕ :=
  (packet.map fun p => ({p.buf} : Multiset ℕ)).getD 0

/-- No packet, no buffer. -/
@[simp] theorem bufOf_none : bufOf none = 0 := rfl

/-- The buffer of a packet. -/
@[simp] theorem bufOf_some (p : CspPacket) : bufOf (some p) = {p.buf} := rfl

/-- A buffer is there when a packet with it is. -/
theorem mem_bufOf {b : ℕ} {packet : Option CspPacket} :
    b ∈ bufOf packet ↔ ∃ p ∈ packet, p.buf = b := by
  cases packet with
  | none => simp
  | some p => simp [eq_comm]

/-- The buffers that were freed. -/
def frees (log : List CanEvent) : List ℕ :=
  log.filterMap fun
    | .free buf => some buf
    | _ => none

/-- The buffers that the interface gave away. -/
def givenAway (log : List CanEvent) : Multiset ℕ :=
  frees log + (newPackets log).map CspPacket.buf

namespace Pbuf

/-- The buffers that elements point to. -/
def held (s : Pbuf) : Multiset ℕ := ∑ i, bufOf (s.elements i).packet

/-- Packets are in an element, or gone. -/
def books : Books Pbuf ℕ := ⟨fun s => s.held + givenAway s.log, fun _ => 0⟩

end Pbuf

/-- What two stretches of the log freed. -/
theorem frees_append (l₁ l₂ : List CanEvent) : frees (l₁ ++ l₂) = frees l₁ ++ frees l₂ :=
  List.filterMap_append ..

/-- What two stretches of the log gave away. -/
theorem givenAway_append (l₁ l₂ : List CanEvent) :
    givenAway (l₁ ++ l₂) = givenAway l₁ + givenAway l₂ := by
  rw [givenAway, frees_append, newPackets_append, List.map_append, ← Multiset.coe_add,
    ← Multiset.coe_add]
  exact add_add_add_comm ..

/-- Nothing happened, nothing was given away. -/
@[simp] theorem givenAway_nil : givenAway [] = 0 := rfl

section Books

variable {i : Fin pbufElements} {s s' s'' : Pbuf} {hand hand' hand'' : Multiset ℕ}

/-- What element `i` has less the others did not get. -/
theorem held_of_others (ho : Pbuf.Others i s s') :
    s'.held + bufOf (s.elements i).packet = s.held + bufOf (s'.elements i).packet :=
  sum_add_of_agree (fun buf : PbufElement => bufOf buf.packet) ho

/-- Element `i` changed, from `hand` in hand to `hand'`: what it had and what was in hand is in it,
gone or in hand. -/
structure Moves (i : Fin pbufElements) (s : Pbuf) (hand : Multiset ℕ) (s' : Pbuf)
    (hand' : Multiset ℕ) : Prop where
  others : Pbuf.Others i s s'
  log : ∃ evs, s'.log = s.log ++ evs ∧
    bufOf (s.elements i).packet + hand = bufOf (s'.elements i).packet + givenAway evs + hand'

/-- **What moves through an element stays on the books.** -/
theorem Moves.conserves (h : Moves i s hand s' hand') :
    Pbuf.books.Conserves s hand s' hand' := by
  obtain ⟨evs, hl, hmoved⟩ := h.log
  have hheld := held_of_others h.others
  show s.held + givenAway s.log + hand + 0 = s'.held + givenAway s'.log + hand' + 0
  rw [hl, givenAway_append, add_zero, add_zero]
  refine Multiset.ext.2 fun a => ?_
  have e₁ := congrArg (Multiset.count a) hheld
  have e₂ := congrArg (Multiset.count a) hmoved
  simp only [Multiset.count_add] at e₁ e₂ ⊢
  omega

namespace Moves

/-- An element that stays keeps its buffer. -/
theorem refl (i : Fin pbufElements) (s : Pbuf) (hand : Multiset ℕ) : Moves i s hand s hand :=
  ⟨.refl i s, [], (List.append_nil _).symm, by rw [givenAway_nil, add_zero]⟩

/-- What happens to one element one after the other. -/
theorem trans (h₁ : Moves i s hand s' hand') (h₂ : Moves i s' hand' s'' hand'') :
    Moves i s hand s'' hand'' := by
  obtain ⟨evs₁, l₁, m₁⟩ := h₁.log
  obtain ⟨evs₂, l₂, m₂⟩ := h₂.log
  refine ⟨h₁.others.trans h₂.others, evs₁ ++ evs₂, by rw [l₂, l₁, List.append_assoc], ?_⟩
  rw [givenAway_append]
  refine Multiset.ext.2 fun a => ?_
  have e₁ := congrArg (Multiset.count a) m₁
  have e₂ := congrArg (Multiset.count a) m₂
  simp only [Multiset.count_add] at e₁ e₂ ⊢
  omega

/-- What stays in hand throughout. -/
theorem frame (h : Moves i s hand s' hand') (k : Multiset ℕ) :
    Moves i s (hand + k) s' (hand' + k) := by
  obtain ⟨evs, hl, hmoved⟩ := h.log
  exact ⟨h.others, evs, hl, by rw [← add_assoc, hmoved, add_assoc]⟩

/-- What else is in hand stays there. -/
theorem keep (h : Moves i s 0 s' 0) (k : Multiset ℕ) : Moves i s k s' k := by
  have hk := h.frame k
  rwa [zero_add] at hk

/-- What is in the element afterwards was there or in hand. -/
theorem mem_of_mem (h : Moves i s hand s' hand') {b : ℕ} (hb : b ∈ bufOf (s'.elements i).packet) :
    b ∈ bufOf (s.elements i).packet + hand := by
  obtain ⟨evs, -, hmoved⟩ := h.log
  rw [hmoved, add_assoc]
  exact Multiset.mem_add.2 (.inl hb)

/-- What is handed over was in the element or in hand. -/
theorem mem_of_newPackets (h : Moves i s hand s' hand') {p : CspPacket}
    (hp : p ∈ newPackets s'.log) :
    p ∈ newPackets s.log ∨ p.buf ∈ bufOf (s.elements i).packet + hand := by
  obtain ⟨evs, hl, hmoved⟩ := h.log
  rw [hl, newPackets_append, List.mem_append] at hp
  refine hp.imp_right fun hp => ?_
  rw [hmoved]
  refine Multiset.mem_add.2 (.inl (Multiset.mem_add.2 (.inr (Multiset.mem_add.2 (.inr ?_)))))
  exact Multiset.mem_coe.2 (List.mem_map_of_mem hp)

/-- Element `i` is rewritten with the same packet. -/
theorem set {buf : PbufElement} (h : bufOf buf.packet = bufOf (s.elements i).packet) :
    Moves i s 0 (s.set i buf) 0 := by
  refine ⟨(Pbuf.Others.refl i s).set buf, [], (List.append_nil _).symm, ?_⟩
  rw [Pbuf.set_elements_self, h, givenAway_nil, add_zero, add_zero]

/-- A packet is put into an element that has none. -/
theorem store {p : CspPacket} {buf : PbufElement} (hnone : (s.elements i).packet = none)
    (h : buf.packet = some p) : Moves i s {p.buf} (s.set i buf) 0 := by
  refine ⟨(Pbuf.Others.refl i s).set buf, [], (List.append_nil _).symm, ?_⟩
  rw [Pbuf.set_elements_self, h, hnone, bufOf_none, bufOf_some, givenAway_nil, zero_add, add_zero,
    add_zero]

/-- An event that is no change of hands. -/
theorem emit (i : Fin pbufElements) (s : Pbuf) {ev : CanEvent} (h : givenAway [ev] = 0) :
    Moves i s 0 (s.emit ev) 0 := by
  refine ⟨(Pbuf.Others.refl i s).emit ev, [ev], rfl, ?_⟩
  rw [h, add_zero, add_zero, add_zero]
  rfl

/-- **`pbuf_free` frees the buffer of its element**, and nothing is left over. -/
theorem pbufFree (i : Fin pbufElements) (s : Pbuf) : Moves i s 0 (pbufFree i s) 0 := by
  refine ⟨pbufFree_others i s, ?_⟩
  rw [pbufFree_self]
  unfold LibCSP.pbufFree
  cases (s.elements i).packet with
  | none => exact ⟨[], (List.append_nil _).symm, rfl⟩
  | some p => exact ⟨[.free p.buf], rfl, rfl⟩

/-- So it does when the element was changed before, but for its packet. -/
theorem setFree {buf : PbufElement} (h : bufOf buf.packet = bufOf (s.elements i).packet) :
    Moves i s 0 (LibCSP.pbufFree i (s.set i buf)) 0 := (set h).trans (.pbufFree i _)

/-- The complete packet is handed over. -/
theorem handOver {p : CspPacket} (hp : (s.elements i).packet = some p) :
    Moves i s 0 (LibCSP.pbufFree i ((s.emit (.newPacket p)).set i
      { s.elements i with packet := none })) 0 := by
  have hgive : Moves i s 0 ((s.emit (.newPacket p)).set i { s.elements i with packet := none })
      0 := by
    refine ⟨((Pbuf.Others.refl i s).emit _).set _, [.newPacket p], rfl, ?_⟩
    rw [Pbuf.set_elements_self, hp]
    rfl
  exact hgive.trans (.pbufFree i _)

end Moves
end Books

/-! ### Calls -/

section Calls

variable {i : Fin pbufElements} {s s' : Pbuf}

/-- `pbuf_new` frees what was in the element. -/
theorem pbufNew_moves {id : U32} {clock : ℕ → U32} (h : pbufNew id clock s = some (i, s')) :
    Moves i s 0 s' 0 := by
  obtain ⟨j, -, hmap⟩ := Option.map_eq_some_iff.1 h
  split at hmap
  · obtain ⟨rfl, rfl⟩ := Prod.mk.inj hmap
    exact .set rfl
  · obtain ⟨rfl, rfl⟩ := Prod.mk.inj hmap
    exact (Moves.pbufFree j s).trans (.set rfl)

/-- `pbuf_find` only notes the time. -/
theorem pbufFind_moves {id : U32} {clock : ℕ → U32} (h : pbufFind id clock s = some (i, s')) :
    Moves i s 0 s' 0 := by
  obtain ⟨-, rfl⟩ := pbufFind_eq_some h
  exact .set rfl

/-- `case CFP_MORE`. -/
theorem rxMore_moves (frame : CanFrame) (i : Fin pbufElements) (offset : ℕ) (s : Pbuf) :
    Moves i s 0 (rxMore frame i offset s) 0 := by
  unfold rxMore
  simp only
  split
  · exact .pbufFree i s
  · split
    · exact .emit i s rfl
    · rename_i p hp
      split
      · exact .setFree rfl
      · obtain ⟨s₁, hs₁⟩ : ∃ s₁, s₁ = s.emit (.write (s.elements i).rxCount.toNat
          (frame.data.drop offset).length) := ⟨_, rfl⟩
        have hwrite : Moves i s 0 s₁ 0 := hs₁ ▸ .emit i s rfl
        have hp₁ : (s₁.elements i).packet = some p := by
          rw [hs₁]
          exact hp
        rw [← hs₁]
        split
        · exact hwrite.trans (.set (by rw [hp₁]; rfl))
        · refine (hwrite.trans (.set (by rw [hp₁]; rfl))).trans (.handOver ?_)
          rw [Pbuf.set_elements_self]

/-- `case CFP_BEGIN` takes the buffer from `csp_buffer_get` if the element has none. -/
theorem rxBegin_moves (o : ByteOrder) (c : RxCall) (i : Fin pbufElements) (s : Pbuf) :
    ∃ hand ≤ bufOf c.buffer, Moves i s (bufOf c.buffer) (rxBegin o c i s) hand := by
  unfold rxBegin
  split
  · exact ⟨_, le_rfl, (Moves.pbufFree i s).keep _⟩
  · simp only
    cases hp : (s.elements i).packet with
    | some p =>
      exact ⟨_, le_rfl,
        (Moves.trans (.set (by rw [hp]; rfl)) (rxMore_moves c.frame i 6 _)).keep _⟩
    | none =>
      cases hb : c.buffer with
      | none => exact ⟨0, le_rfl, .pbufFree i s⟩
      | some b =>
        refine ⟨0, Multiset.zero_le _, ?_⟩
        have hstore : Moves i s {b.buf} (s.set i { s.elements i with
            packet := some (b.readHeader o c.frame.data)
            rxCount := 0
            remain := cfpRemain c.frame.id + 1 }) 0 :=
          .store (p := b.readHeader o c.frame.data) hp rfl
        exact hstore.trans (rxMore_moves c.frame i 6 _)

/-- A received frame puts a new buffer into its element, or leaves it. -/
theorem rxFrame_moves (o : ByteOrder) (c : RxCall) (i : Fin pbufElements) (s : Pbuf) :
    ∃ hand ≤ bufOf c.buffer, Moves i s (bufOf c.buffer) (rxFrame o c i s) hand := by
  unfold rxFrame
  split
  · exact rxBegin_moves o c i s
  · split
    · exact ⟨_, le_rfl, (rxMore_moves c.frame i 0 s).keep _⟩
    · exact ⟨_, le_rfl, (Moves.pbufFree i s).keep _⟩

/-- A MORE frame for an element that expects none frees it. -/
theorem rxFrame_of_unexpected (o : ByteOrder) {c : RxCall} (htype : cfpType c.frame.id ≠ cfpBegin)
    (hremain : (s.elements i).remain = 0) : rxFrame o c i s = pbufFree i s := by
  unfold rxFrame
  rw [if_neg htype]
  split
  · have hne : cfpRemain c.frame.id ≠ (s.elements i).remain - 1 := by
      have hbit : (cfpRemain c.frame.id).getLsbD 8 = false := getLsbD_cfpRemain _ _
      rw [hremain]
      intro h
      rw [h] at hbit
      exact absurd hbit (by decide)
    unfold rxMore
    rw [if_pos hne]
  · rfl

/-- The element that `csp_can_tx` gets from `pbuf_new`. -/
def txElement (c : TxCall) (packet : CspPacket) (s : Pbuf) : Option (Fin pbufElements) :=
  c.ident.bind fun ident =>
    (pbufNew (beginFrame c.host packet ident).id c.clock s).map Prod.fst

/-- **`csp_can_tx` keeps the packet out of the pool, or puts it into the element it
got**, which expects no frames. -/
theorem cspCanTx_moves (c : TxCall) (packet : CspPacket) (hs : s.Ok) :
    (txElement c packet s = none ∧ (cspCanTx c packet s).2 = s) ∨
      ∃ i, txElement c packet s = some i ∧ Moves i s {packet.buf} (cspCanTx c packet s).2 0 ∧
        ((cspCanTx c packet s).2.elements i).remain = 0 ∧
        newPackets (cspCanTx c packet s).2.log = newPackets s.log := by
  unfold cspCanTx txElement
  cases c.ident with
  | none => exact .inl ⟨rfl, rfl⟩
  | some ident =>
    simp only [Option.bind_some]
    cases hnew : pbufNew (beginFrame c.host packet ident).id c.clock s with
    | none => exact .inl ⟨rfl, rfl⟩
    | some r =>
      obtain ⟨i, s₁⟩ := r
      obtain ⟨-, ⟨k, hk⟩, -, evs, hl, hevs⟩ := pbufNew_eq_some hs hnew
      have hnone : (s₁.elements i).packet = none := by
        rw [hk]
        rfl
      have hmove : Moves i s {packet.buf} s₁ {packet.buf} := (pbufNew_moves hnew).keep _
      refine .inr ⟨i, rfl, hmove.trans (.store hnone rfl), ?_, ?_⟩
      · rw [Pbuf.set_elements_self, hk]
        rfl
      · show newPackets s₁.log = _
        rw [hl, newPackets_append, newPackets_free hevs, List.append_nil]

/-- `csp_tx_callback` keeps the packet of its element or frees it, and touches no other. -/
theorem cspTxCallback_moves (c : TxCall) (canid : U32) (ok : Bool) (s : Pbuf) :
    (cspTxCallback c canid ok s).2.2 = s ∨
      ∃ i, Moves i s 0 (cspTxCallback c canid ok s).2.2 0 ∧
        (((cspTxCallback c canid ok s).2.2.elements i).remain = (s.elements i).remain ∨
          ((cspTxCallback c canid ok s).2.2.elements i).packet = none) ∧
        newPackets (cspTxCallback c canid ok s).2.2.log = newPackets s.log := by
  unfold cspTxCallback
  split
  · exact .inl rfl
  · rename_i i s₁ hfind
    have hfound := pbufFind_moves hfind
    obtain ⟨hremain, hlog⟩ : (s₁.elements i).remain = (s.elements i).remain ∧
        newPackets s₁.log = newPackets s.log := by
      obtain ⟨-, rfl⟩ := pbufFind_eq_some hfind
      rw [Pbuf.set_elements_self]
      exact ⟨rfl, rfl⟩
    have hfree : ∃ j, Moves j s 0 (pbufFree i s₁) 0 ∧
        (((pbufFree i s₁).elements j).remain = (s.elements j).remain ∨
          ((pbufFree i s₁).elements j).packet = none) ∧
        newPackets (pbufFree i s₁).log = newPackets s.log :=
      ⟨i, hfound.trans (.pbufFree i s₁), .inr (pbufFree_packet i s₁),
        (pbufFree_newPackets i s₁).trans hlog⟩
    simp only
    split
    · exact .inr hfree
    · split
      · exact .inr hfree
      · split
        · split
          · refine .inr ⟨i, hfound.trans (.set rfl), .inl ?_, hlog⟩
            rw [Pbuf.set_elements_self]
            exact hremain
          · exact .inr ⟨i, hfound.trans (.setFree rfl), .inr (pbufFree_packet i _),
              (pbufFree_newPackets i _).trans hlog⟩
        · exact .inr hfree

end Calls

end LibCSP
