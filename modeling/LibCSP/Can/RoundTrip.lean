/-
# Every packet gets through

Up to `PBUF_ELEMENTS` packets are sent, their frames arrive interleaved in any way,
each packet's in order, and no packet pauses for longer than `PBUF_TIMEOUT_MS`.  At
each point of the run the packets of which some but not all frames have arrived
have one element each, and the other elements are free (`Underway`): an element is
free for each packet that begins, and no element times out.  So every packet is
delivered once (`rxRun_roundTrip`).
-/

import Mathlib.Data.Fintype.Card
import LibCSP.Basis.Interleave
import LibCSP.Can.Reassembly

namespace LibCSP

open Basis

/-- A frame arrives; it belongs to packet `a.1`. -/
abbrev Arrival (n : ℕ) : Type := Fin n × RxCall

variable {n : ℕ}

/-- The number of frames of packet `j` so far. -/
abbrev arrived (j : Fin n) (as : List (Arrival n)) : ℕ := labelled j as

/-- The frames of each packet arrive in order, none is missing and none comes twice. -/
def EachInOrder (sent : Fin n → TxSession) (as : List (Arrival n)) : Prop :=
  Interleaves RxCall.frame (fun j => (sent j).frames) as

/-- From a frame of a packet to its next, no clock reading is more than
`PBUF_TIMEOUT_MS` after those made at the frame. -/
def NoPause (as : List (Arrival n)) : Prop :=
  ∀ before a between b after, as = before ++ a :: between ++ b :: after →
    (∀ c ∈ between, c.1 ≠ a.1) → (∃ c ∈ b :: after, c.1 = a.1) →
      ∀ k k', b.2.clock k' - a.2.clock k ≤ pbufTimeoutMs

/-- The next frame of a packet is the one after those that have arrived. -/
theorem EachInOrder.next {sent : Fin n → TxSession} {done rest : List (Arrival n)}
    {a : Arrival n} (h : EachInOrder sent (done ++ a :: rest)) :
    arrived a.1 done ≤ (sent a.1).more ∧ a.2.frame = (sent a.1).frame (arrived a.1 done) := by
  have hget := Interleaves.next h
  rw [(sent a.1).frames_eq] at hget
  obtain ⟨hlt, hframe⟩ := List.getElem?_eq_some_iff.1 hget
  rw [List.length_map, List.length_range] at hlt
  rw [List.getElem_map, List.getElem_range] at hframe
  exact ⟨Nat.lt_succ_iff.1 hlt, hframe.symm⟩

/-- A packet takes one BEGIN frame and its MORE frames. -/
theorem TxSession.length_frames (x : TxSession) : x.frames.length = x.more + 1 := by
  rw [x.frames_eq, List.length_map, List.length_range]

/-- In the end all frames of each packet have arrived. -/
theorem EachInOrder.arrived_eq {sent : Fin n → TxSession} {as : List (Arrival n)}
    (h : EachInOrder sent as) (j : Fin n) : arrived j as = (sent j).more + 1 :=
  (h.labelled_eq j).trans (sent j).length_frames

/-! ### The elements on the way -/

/-- The element of a packet of which some frames have arrived, but not all. -/
structure Holds (sent : Fin n → TxSession) (done : List (Arrival n)) (j : Fin n)
    (buf : PbufElement) : Prop where
  pos : 0 < arrived j done
  le : arrived j done ≤ (sent j).more
  holds : (sent j).Partial (arrived j done) buf
  last : ∃ before a between, done = before ++ a :: between ∧ a.1 = j ∧
    (∀ c ∈ between, c.1 ≠ j) ∧ ∃ k, buf.lastUsed = a.2.clock k

/-- **The pool on the way.** -/
structure Underway (sent : Fin n → TxSession) (done : List (Arrival n)) (s : Pbuf) : Prop where
  /-- An element that is not free belongs to a packet. -/
  held : ∀ i, s.elements i = .free ∨ ∃ j, Holds sent done j (s.elements i)
  /-- A packet that has begun and is not complete has an element. -/
  holder : ∀ j, 0 < arrived j done → arrived j done ≤ (sent j).more →
    ∃ i, Holds sent done j (s.elements i)
  /-- It has only one. -/
  unique : ∀ i i' j, Holds sent done j (s.elements i) → Holds sent done j (s.elements i') → i = i'
  /-- The packets that are complete were delivered, each once. -/
  delivered : ∃ order : List (Fin n), order.Nodup ∧
    (∀ j, j ∈ order ↔ arrived j done = (sent j).more + 1) ∧
      List.Forall₂ (fun j p => (sent j).Is p) order (newPackets s.log)

variable {sent : Fin n → TxSession} {done : List (Arrival n)} {s : Pbuf}

/-- Before the first arrival nothing is under way. -/
theorem underway_init (sent : Fin n → TxSession) : Underway sent [] .init where
  held _ := .inl rfl
  holder _ h := absurd h (Nat.lt_irrefl 0)
  unique _ _ _ h := absurd h.pos (Nat.lt_irrefl 0)
  delivered := ⟨[], List.nodup_nil, fun _ => ⟨fun h => absurd h List.not_mem_nil,
    fun h => absurd h (Nat.succ_ne_zero _).symm⟩, .nil⟩

/-- An arrival counts for its packet. -/
theorem arrived_snoc_self (done : List (Arrival n)) (a : Arrival n) :
    arrived a.1 (done ++ [a]) = arrived a.1 done + 1 := by
  rw [arrived, arrived, labelled_snoc, if_pos rfl]

/-- And for no other. -/
theorem arrived_snoc_ne {j : Fin n} {a : Arrival n} (ha : a.1 ≠ j) :
    arrived j (done ++ [a]) = arrived j done := by
  rw [arrived, arrived, labelled_snoc, if_neg ha, Nat.add_zero]

/-- What the elements hold does not change by a frame of another packet. -/
theorem Holds.snoc {j : Fin n} {a : Arrival n} (ha : a.1 ≠ j) (buf : PbufElement) :
    Holds sent (done ++ [a]) j buf ↔ Holds sent done j buf := by
  have hcount : arrived j (done ++ [a]) = arrived j done := arrived_snoc_ne ha
  constructor
  · rintro ⟨hpos, hle, hh, before, b, between, hdone, hb, hbetween, hlast⟩
    rw [hcount] at hpos hle hh
    rcases List.eq_nil_or_concat between with rfl | ⟨between, c, rfl⟩
    · obtain ⟨-, hab⟩ := List.append_inj' hdone rfl
      obtain rfl : a = b := (List.cons.inj hab).1
      exact absurd hb ha
    · rw [List.concat_eq_append, ← List.cons_append, ← List.append_assoc] at hdone
      obtain ⟨hdone, -⟩ := List.append_inj' hdone rfl
      refine ⟨hpos, hle, hh, before, b, between, hdone, hb, fun d hd => hbetween d ?_, hlast⟩
      rw [List.concat_eq_append]
      exact List.mem_append_left _ hd
  · rintro ⟨hpos, hle, hh, before, b, between, hdone, hb, hbetween, hlast⟩
    refine ⟨hcount ▸ hpos, hcount ▸ hle, hcount ▸ hh, before, b, between ++ [a], ?_, hb, ?_, hlast⟩
    · rw [hdone, List.append_assoc, List.cons_append]
    · intro c hc
      rcases List.mem_append.1 hc with hc | hc
      · exact hbetween c hc
      · rw [List.mem_singleton.1 hc]
        exact ha

/-- An element that holds a packet under way is not free. -/
theorem Holds.ne_free {done : List (Arrival n)} {j : Fin n} {buf : PbufElement}
    (h : Holds sent done j buf) : buf ≠ .free := by
  rintro rfl
  exact nomatch h.holds.state

/-- An element belongs to one packet. -/
theorem owner_unique (hdist : Function.Injective fun j => (sent j).triple) {j j' : Fin n}
    {buf : PbufElement} (h : cfpConn buf.cfpid = (sent j).conn)
    (h' : cfpConn buf.cfpid = (sent j').conn) : j = j' := by
  obtain ⟨hsrc, hdst, hident⟩ := cfpConn_injective (h.symm.trans h')
  refine hdist ?_
  simp only [TxSession.triple, hsrc, hdst, hident]

namespace Underway

/-- The elements are in order. -/
theorem ok (h : Underway sent done s) : s.Ok :=
  Pbuf.ok_of_known (List.ofFn sent) fun i => (h.held i).imp id fun ⟨j, hj⟩ =>
    ⟨sent j, List.mem_ofFn.2 ⟨j, rfl⟩, _, hj.le, hj.holds⟩

/-- An element for the frames of packet `j` holds what has arrived of it. -/
theorem holds_of_isFor (hdist : Function.Injective fun j => (sent j).triple)
    (h : Underway sent done s) {i : Fin pbufElements} {j : Fin n} {id : U32}
    (hid : cfpConn id = (sent j).conn) (hi : (s.elements i).isFor id = true) :
    Holds sent done j (s.elements i) := by
  obtain ⟨hst, hconn⟩ := PbufElement.isFor_iff.1 hi
  rcases h.held i with he | ⟨j', hj'⟩
  · rw [he] at hst
    exact nomatch hst
  · obtain rfl := owner_unique hdist hj'.holds.cfpid (hconn.trans hid)
    exact hj'

/-- No element that holds a packet has timed out. -/
theorem not_available (h : Underway sent done s) {rest : List (Arrival n)} {a : Arrival n}
    (horder : EachInOrder sent (done ++ a :: rest)) (hpause : NoPause (done ++ a :: rest))
    {i : Fin pbufElements} (hi : s.elements i ≠ .free) (k' : ℕ) :
    (s.elements i).available (a.2.clock k') = false := by
  obtain ⟨j, hj⟩ := (h.held i).resolve_left hi
  obtain ⟨before, b, between, hdone, rfl, hbetween, k, hlast⟩ := hj.last
  have hle : a.2.clock k' - b.2.clock k ≤ pbufTimeoutMs := by
    have hmore : arrived b.1 done < (sent b.1).frames.length := by
      rw [TxSession.length_frames]
      exact Nat.lt_succ_of_le hj.le
    refine hpause before b between a rest ?_ hbetween (horder.exists_of_lt hmore) k k'
    rw [hdone]
  have hstate : decide ((s.elements i).state = .bufFree) = false := by
    rw [hj.holds.state]
    rfl
  rw [PbufElement.available, hstate, Bool.false_or, hlast]
  exact decide_eq_false (BitVec.not_lt.2 hle)

/-- A packet that begins finds a free element. -/
theorem exists_free (h : Underway sent done s) (hn : n ≤ pbufElements) {j : Fin n}
    (hj : arrived j done = 0) : ∃ i, s.elements i = .free := by
  by_contra hnone
  have hheld : ∀ i, ∃ j, Holds sent done j (s.elements i) := fun i =>
    (h.held i).resolve_left fun he => hnone ⟨i, he⟩
  choose f hf using hheld
  have hinj : Function.Injective f := fun i i' he => h.unique i i' (f i) (hf i) (he ▸ hf i')
  have hmiss : j ∉ Set.range f := by
    rintro ⟨i, rfl⟩
    exact absurd hj (Nat.ne_of_gt (hf i).pos)
  have hcard := Fintype.card_lt_of_injective_of_notMem f hinj hmiss
  rw [Fintype.card_fin, Fintype.card_fin] at hcard
  omega

/-- A packet is delivered with its last frame, behind those that were complete before. -/
theorem delivers {a : Arrival n} {i : Fin pbufElements} {s' s'' : Pbuf}
    (h : Underway sent done s) (hk : arrived a.1 done ≤ (sent a.1).more)
    (hlog : newPackets s'.log = newPackets s.log)
    (ht : (sent a.1).Took (arrived a.1 done) i s' s'') :
    ∃ order : List (Fin n), order.Nodup ∧
      (∀ j, j ∈ order ↔ arrived j (done ++ [a]) = (sent j).more + 1) ∧
        List.Forall₂ (fun j p => (sent j).Is p) order (newPackets s''.log) := by
  obtain ⟨order, hnodup, hmem, hall⟩ := h.delivered
  have hcount := arrived_snoc_self done a
  rcases Nat.lt_or_eq_of_le hk with hlt | heq
  · refine ⟨order, hnodup, fun j => ?_, ?_⟩
    · rw [hmem j]
      rcases eq_or_ne j a.1 with rfl | hj
      · rw [hcount]
        omega
      · rw [arrived_snoc_ne hj.symm]
    · rw [(ht.further hlt).2.2, hlog]
      exact hall
  · obtain ⟨-, p, hp, hnew⟩ := ht.complete heq
    refine ⟨order ++ [a.1], ?_, fun j => ?_, ?_⟩
    · refine List.nodup_append.2 ⟨hnodup, List.nodup_singleton _, fun j hj j' hj' => ?_⟩
      rintro rfl
      rw [List.mem_singleton.1 hj', hmem] at hj
      omega
    · rw [List.mem_append, List.mem_singleton, hmem j]
      rcases eq_or_ne j a.1 with rfl | hj
      · rw [hcount, heq]
        simp only [or_true]
      · rw [arrived_snoc_ne hj.symm]
        simp only [hj, or_false]
    · rw [hnew, hlog]
      exact List.rel_append hall (.cons hp .nil)

/-- **An element takes in the next frame of its packet.** -/
theorem take (hdist : Function.Injective fun j => (sent j).triple) {a : Arrival n}
    {i : Fin pbufElements} {s' s'' : Pbuf} (h : Underway sent done s)
    (hk : arrived a.1 done ≤ (sent a.1).more)
    (hi : s.elements i = .free ∨ Holds sent done a.1 (s.elements i))
    (honly : ∀ i', Holds sent done a.1 (s.elements i') → i' = i)
    (ho : Pbuf.Others i s s') (hlog : newPackets s'.log = newPackets s.log)
    (hlast : ∃ k, (s'.elements i).lastUsed = a.2.clock k)
    (ht : (sent a.1).Took (arrived a.1 done) i s' s'') : Underway sent (done ++ [a]) s'' := by
  have hcount := arrived_snoc_self done a
  have helse : ∀ i', i' ≠ i → s''.elements i' = s.elements i' := fun i' hi' =>
    (ho.trans ht.others) i' hi'
  -- only packet `a.1` may have element `i` before or afterwards, and no other one
  have hnot : ∀ j, j ≠ a.1 → ¬ Holds sent done j (s.elements i) := by
    intro j hj hh
    rcases hi with he | hh'
    · exact hh.ne_free he
    · exact hj (owner_unique hdist hh.holds.cfpid hh'.holds.cfpid)
  have hself : arrived a.1 done < (sent a.1).more →
      Holds sent (done ++ [a]) a.1 (s''.elements i) := by
    intro hlt
    obtain ⟨hpart, hused, -⟩ := ht.further hlt
    obtain ⟨k, hlast⟩ := hlast
    exact ⟨hcount ▸ Nat.succ_pos _, hcount ▸ hlt, hcount ▸ hpart, done, a, [], rfl, rfl,
      fun c hc => absurd hc List.not_mem_nil, k, hused.trans hlast⟩
  have hother_holds : ∀ j, j ≠ a.1 → ∀ i', Holds sent (done ++ [a]) j (s''.elements i') →
      i' ≠ i ∧ Holds sent done j (s.elements i') := by
    intro j hj i' hh
    have hi' : i' ≠ i := by
      rintro rfl
      rcases Nat.lt_or_eq_of_le hk with hlt | heq
      · exact hj (owner_unique hdist hh.holds.cfpid (hself hlt).holds.cfpid)
      · exact hh.ne_free (ht.complete heq).1
    rw [helse i' hi', Holds.snoc hj.symm] at hh
    exact ⟨hi', hh⟩
  have hself_only : ∀ i', Holds sent (done ++ [a]) a.1 (s''.elements i') → i' = i := by
    intro i' hh
    by_contra hi'
    rw [helse i' hi'] at hh
    obtain ⟨j, hj⟩ := (h.held i').resolve_left hh.ne_free
    obtain rfl := owner_unique hdist hj.holds.cfpid hh.holds.cfpid
    exact hi' (honly i' hj)
  refine ⟨fun i' => ?_, fun j hpos hle => ?_, fun i₁ i₂ j h₁ h₂ => ?_, ?_⟩
  · rcases eq_or_ne i' i with rfl | hi'
    · rcases Nat.lt_or_eq_of_le hk with hlt | heq
      · exact .inr ⟨a.1, hself hlt⟩
      · exact .inl (ht.complete heq).1
    · rw [helse i' hi']
      refine (h.held i').imp id fun ⟨j, hj⟩ => ⟨j, (Holds.snoc (fun he => ?_) _).2 hj⟩
      exact hi' (honly i' (he ▸ hj))
  · rcases eq_or_ne j a.1 with rfl | hj
    · rw [hcount] at hle
      exact ⟨i, hself hle⟩
    · rw [arrived_snoc_ne hj.symm] at hpos hle
      obtain ⟨i', hi'⟩ := h.holder j hpos hle
      refine ⟨i', ?_⟩
      rw [helse i' (fun he => hnot j hj (he ▸ hi')), Holds.snoc hj.symm]
      exact hi'
  · rcases eq_or_ne j a.1 with rfl | hj
    · rw [hself_only i₁ h₁, hself_only i₂ h₂]
    · exact h.unique i₁ i₂ j (hother_holds j hj i₁ h₁).2 (hother_holds j hj i₂ h₂).2
  · exact h.delivers hk hlog ht

/-- **One frame.** -/
theorem step (hsmall : ∀ j, (sent j).len ≤ cspCanMtu)
    (hdist : Function.Injective fun j => (sent j).triple) (hn : n ≤ pbufElements) (o : ByteOrder)
    {rest : List (Arrival n)} {a : Arrival n} (horder : EachInOrder sent (done ++ a :: rest))
    (hpause : NoPause (done ++ a :: rest)) (hbuf : a.2.buffer ≠ none)
    (h : Underway sent done s) : Underway sent (done ++ [a]) (cspRxCallback o a.2 s).2 := by
  obtain ⟨hk, hframe⟩ := horder.next
  have hconn : cfpConn a.2.frame.id = (sent a.1).conn := by
    rw [hframe, TxSession.cfpConn_frame]
  rcases Nat.eq_zero_or_pos (arrived a.1 done) with hzero | hpos
  · -- the packet begins
    have hnone : ∀ i, ¬ Holds sent done a.1 (s.elements i) := fun i hh =>
      absurd hzero (Nat.ne_of_gt hh.pos)
    have hfind : pbufFind a.2.frame.id a.2.clock s = none :=
      pbufFind_eq_none.2 fun i => Bool.eq_false_iff.2 fun hi =>
        hnone i (h.holds_of_isFor hdist hconn hi)
    obtain ⟨i₀, hi₀⟩ := h.exists_free hn hzero
    obtain ⟨⟨i, s₁⟩, hnew⟩ := Option.ne_none_iff_exists'.1 fun hno : pbufNew
        a.2.frame.id a.2.clock s = none => by
      have hbusy := pbufNew_eq_none.1 hno i₀
      rw [hi₀, PbufElement.available_free] at hbusy
      exact Bool.false_ne_true hbusy.symm
    obtain ⟨hav, ⟨m, hm⟩, ho, evs, hevs, hfrees⟩ := pbufNew_eq_some h.ok hnew
    have hfree : s.elements i = .free := by
      by_contra hi
      rw [h.not_available horder hpause hi] at hav
      exact Bool.false_ne_true hav
    have hlog : newPackets s₁.log = newPackets s.log := by
      rw [hevs, newPackets_append, newPackets_free hfrees, List.append_nil]
    have htype : cfpType a.2.frame.id = cfpBegin := by
      rw [hframe, hzero]
      exact (sent a.1).cfpType_frame 0
    rw [hzero] at hframe
    have hready : (sent a.1).Ready a.2 (arrived a.1 done) (s₁.elements i) := by
      rw [hm, hzero]
      exact (sent a.1).ready_claimed hbuf hframe
    have ht := TxSession.rxFrame_next (o := o) (hsmall a.1) hk (hzero ▸ hframe) hready
    have hcall : (cspRxCallback o a.2 s).2 = rxFrame o a.2 i s₁ := by
      unfold cspRxCallback
      simp only [hfind, if_pos htype, hnew]
    rw [hcall]
    refine h.take hdist hk (.inl hfree) (fun i' hh => absurd hh (hnone i')) ho hlog ⟨m, ?_⟩ ht
    rw [hm]
    rfl
  · -- the element that holds the packet takes the frame in
    obtain ⟨i, hi⟩ := h.holder a.1 hpos hk
    have honly : ∀ i', Holds sent done a.1 (s.elements i') → i' = i := fun i' hh =>
      h.unique i' i a.1 hh hi
    have hfind := pbufFind_of_unique a.2.clock
      (PbufElement.isFor_iff.2 ⟨hi.holds.state, hi.holds.cfpid.trans hconn.symm⟩) fun i' hi' =>
        Bool.eq_false_iff.2 fun hfor => hi' (honly i' (h.holds_of_isFor hdist hconn hfor))
    obtain ⟨s₁, hs₁⟩ : ∃ s₁, s₁ = s.set i { s.elements i with lastUsed := a.2.clock 0 } := ⟨_, rfl⟩
    rw [← hs₁] at hfind
    have hi₁ : s₁.elements i = { s.elements i with lastUsed := a.2.clock 0 } := by
      rw [hs₁, Pbuf.set_elements_self]
    have hready : (sent a.1).Ready a.2 (arrived a.1 done) (s₁.elements i) := by
      rw [hi₁]
      exact (hi.holds.touch _).ready _ fun _ => rfl
    have ht := TxSession.rxFrame_next (o := o) (hsmall a.1) hk hframe hready
    have hcall : (cspRxCallback o a.2 s).2 = rxFrame o a.2 i s₁ := by
      unfold cspRxCallback
      simp only [hfind]
    rw [hcall]
    refine h.take hdist hk (.inr hi) honly (hs₁ ▸ (Pbuf.Others.refl i s).set _) ?_ ⟨0, ?_⟩ ht
    · rw [hs₁]
      rfl
    · rw [hi₁]

/-- All frames of a run. -/
theorem run (hsmall : ∀ j, (sent j).len ≤ cspCanMtu)
    (hdist : Function.Injective fun j => (sent j).triple) (hn : n ≤ pbufElements) (o : ByteOrder)
    {done rest : List (Arrival n)} (horder : EachInOrder sent (done ++ rest))
    (hpause : NoPause (done ++ rest)) (hbuf : ∀ a ∈ rest, a.2.buffer ≠ none)
    (h : Underway sent done s) :
    Underway sent (done ++ rest) (rxRun o s (rest.map Prod.snd)) := by
  induction rest generalizing done s with
  | nil =>
    rw [List.append_nil]
    exact h
  | cons a rest ih =>
    obtain ⟨ha, hbuf⟩ := List.forall_mem_cons.1 hbuf
    have hstep := h.step hsmall hdist hn o horder hpause ha
    rw [List.append_cons] at horder hpause ⊢
    exact ih horder hpause hbuf hstep

end Underway

/-- **CAN fragmentation round trip.**  The frames of up to `PBUF_ELEMENTS` packets arrive
interleaved, each packet's in order and without a pause: every packet is delivered once,
and no element stays in use. -/
theorem rxRun_roundTrip (o : ByteOrder) (hn : n ≤ pbufElements)
    (hsmall : ∀ j, (sent j).len ≤ cspCanMtu)
    (hdist : Function.Injective fun j => (sent j).triple) {as : List (Arrival n)}
    (horder : EachInOrder sent as) (hpause : NoPause as) (hbuf : ∀ a ∈ as, a.2.buffer ≠ none) :
    (∃ order : List (Fin n), order.Perm (List.finRange n) ∧
      List.Forall₂ (fun j p => (sent j).Is p) order
        (newPackets (rxRun o .init (as.map Prod.snd)).log)) ∧
      ∀ i, ((rxRun o .init (as.map Prod.snd)).elements i).state = .bufFree ∧
        ((rxRun o .init (as.map Prod.snd)).elements i).packet = none := by
  have h : Underway sent ([] ++ as) (rxRun o .init (as.map Prod.snd)) :=
    (underway_init sent).run hsmall hdist hn o horder hpause hbuf
  rw [List.nil_append] at h
  constructor
  · obtain ⟨order, hnodup, hmem, hall⟩ := h.delivered
    refine ⟨order, ?_, hall⟩
    refine (List.perm_ext_iff_of_nodup hnodup (List.nodup_finRange n)).2 fun j => ?_
    exact iff_of_true ((hmem j).2 (horder.arrived_eq j)) (List.mem_finRange j)
  · intro i
    have hfree : (rxRun o .init (as.map Prod.snd)).elements i = .free := by
      refine (h.held i).resolve_right fun ⟨j, hj⟩ => ?_
      exact absurd (horder.arrived_eq j ▸ hj.le) (Nat.not_succ_le_self _)
    rw [hfree]
    exact ⟨rfl, rfl⟩

/-- The frames of two packets in turn. -/
def inTurn : List (Arrival 2) := framesInTurn.map fun a => (a.1, arrival a)

/-- Both packets get through here, the second one first. -/
theorem rxRun_roundTrip_inTurn :
    (∃ order : List (Fin 2), order.Perm (List.finRange 2) ∧
      List.Forall₂ (fun j p => (twoPackets j).Is p) order
        (newPackets (rxRun .big .init (inTurn.map Prod.snd)).log)) ∧
      ∀ i, ((rxRun .big .init (inTurn.map Prod.snd)).elements i).state = .bufFree ∧
        ((rxRun .big .init (inTurn.map Prod.snd)).elements i).packet = none := by
  have hmem : ∀ a ∈ inTurn, a.2.clock = (fun _ => 0) ∧ a.2.buffer ≠ none := by
    intro a ha
    obtain ⟨b, -, rfl⟩ := List.mem_map.1 ha
    exact ⟨rfl, Option.some_ne_none _⟩
  refine rxRun_roundTrip .big (by decide) (fun j => ?_) (fun i j h => ?_) (fun j => ?_) ?_
    fun a ha => (hmem a ha).2
  · match j with
    | 0 => decide
    | 1 => decide
  · match i, j with
    | 0, 0 => rfl
    | 0, 1 => exact absurd h (by decide)
    | 1, 0 => exact absurd h (by decide)
    | 1, 1 => rfl
  · refine Eq.trans ?_ (twoPackets j).frames_eq.symm
    match j with
    | 0 => rfl
    | 1 => rfl
  · rintro before a between b after has - - k k'
    have ha : a ∈ inTurn := by
      rw [has]
      simp only [List.append_assoc, List.cons_append, List.mem_append, List.mem_cons, true_or,
        or_true]
    have hb : b ∈ inTurn := by
      rw [has]
      simp only [List.mem_append, List.mem_cons, true_or, or_true]
    rw [(hmem a ha).1, (hmem b hb).1]
    exact (by decide : (0 : U32) - 0 ≤ pbufTimeoutMs)

end LibCSP
