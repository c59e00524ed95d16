/-
# Packet buffer elements

What `pbuf_new`, `pbuf_find` and `pbuf_free` do to the pool.  A free element is as
`pbuf_free` left it, and one in use has a packet (`Pbuf.Ok`): every call keeps
that, so that a packet is never followed while it is not there.
-/

import LibCSP.Can.Pbuf

namespace LibCSP

open Basis

/-- The packets handed to `csp_new_packet`. -/
def newPackets (log : List CanEvent) : List CspPacket :=
  log.filterMap fun
    | .newPacket p => some p
    | _ => none

/-- The packets that two stretches of the log handed on. -/
theorem newPackets_append (l₁ l₂ : List CanEvent) :
    newPackets (l₁ ++ l₂) = newPackets l₁ ++ newPackets l₂ := List.filterMap_append ..

/-- A free element as `pbuf_new` hands it out. -/
def PbufElement.claimed (id t : U32) : PbufElement :=
  { PbufElement.free with state := .bufUsed, cfpid := id, lastUsed := t }

/-- A free element is available. -/
theorem PbufElement.available_free (now : U32) : PbufElement.free.available now = true := rfl

/-- Free elements are blank, and those in use have a packet. -/
structure Pbuf.Ok (s : Pbuf) : Prop where
  free : ∀ i, (s.elements i).state = .bufFree → s.elements i = .free
  used : ∀ i, (s.elements i).state = .bufUsed → (s.elements i).packet ≠ none

/-- The elements after `csp_can_init`. -/
theorem Pbuf.init_ok : Pbuf.init.Ok := ⟨fun _ _ => rfl, fun _ h => nomatch h⟩

/-- Only element `i` changed. -/
def Pbuf.Others (i : Fin pbufElements) (s s' : Pbuf) : Prop :=
  ∀ j, j ≠ i → s'.elements j = s.elements j

namespace Pbuf

variable {i : Fin pbufElements} {s s' s'' : Pbuf}

/-- Nothing happens to the other elements when nothing happens. -/
theorem Others.refl (i : Fin pbufElements) (s : Pbuf) : Others i s s := fun _ _ => rfl

/-- Two calls on the same element leave the others alone. -/
theorem Others.trans (h₁ : Others i s s') (h₂ : Others i s' s'') : Others i s s'' :=
  fun j hj => (h₂ j hj).trans (h₁ j hj)

/-- A change of the element itself leaves the others alone. -/
theorem Others.set (h : Others i s s') (buf : PbufElement) : Others i s (s'.set i buf) :=
  fun j hj => (set_elements_ne s' hj buf).trans (h j hj)

/-- An event changes no element. -/
theorem Others.emit (h : Others i s s') (ev : CanEvent) : Others i s (s'.emit ev) := h

/-- A pool is in order if the element that changed is. -/
theorem Ok.of_others (h : s.Ok) (ho : Others i s s')
    (hfree : (s'.elements i).state = .bufFree → s'.elements i = .free)
    (hused : (s'.elements i).state = .bufUsed → (s'.elements i).packet ≠ none) : s'.Ok := by
  constructor <;> intro j <;> rcases eq_or_ne j i with rfl | hj
  · exact hfree
  · rw [ho j hj]
    exact h.free j
  · exact hused
  · rw [ho j hj]
    exact h.used j

end Pbuf

/-! ### `pbuf_free` -/

/-- `pbuf_free` leaves its element free. -/
@[simp] theorem pbufFree_self (i : Fin pbufElements) (s : Pbuf) :
    (pbufFree i s).elements i = .free := by
  unfold pbufFree
  split <;> exact Pbuf.set_elements_self ..

/-- And without a packet. -/
@[simp] theorem pbufFree_packet (i : Fin pbufElements) (s : Pbuf) :
    ((pbufFree i s).elements i).packet = none := congrArg PbufElement.packet (pbufFree_self i s)

/-- It leaves the others alone. -/
theorem pbufFree_others (i : Fin pbufElements) (s : Pbuf) : Pbuf.Others i s (pbufFree i s) := by
  unfold pbufFree
  split
  · exact ((Pbuf.Others.refl i s).emit _).set _
  · exact (Pbuf.Others.refl i s).set _

/-- It logs nothing but the release of a packet. -/
theorem pbufFree_log (i : Fin pbufElements) (s : Pbuf) :
    ∃ evs, (pbufFree i s).log = s.log ++ evs ∧ ∀ ev ∈ evs, ∃ buf, ev = .free buf := by
  unfold pbufFree
  split
  · exact ⟨[_], rfl, fun ev hev => ⟨_, List.mem_singleton.1 hev⟩⟩
  · exact ⟨[], (List.append_nil _).symm, fun ev hev => absurd hev List.not_mem_nil⟩

/-- A release hands no packet on. -/
theorem newPackets_free {evs : List CanEvent} (h : ∀ ev ∈ evs, ∃ buf, ev = .free buf) :
    newPackets evs = [] := by
  refine List.filterMap_eq_nil_iff.2 fun ev hev => ?_
  obtain ⟨buf, rfl⟩ := h ev hev
  rfl

/-- So `pbuf_free` hands none on. -/
@[simp] theorem pbufFree_newPackets (i : Fin pbufElements) (s : Pbuf) :
    newPackets (pbufFree i s).log = newPackets s.log := by
  obtain ⟨evs, hl, hevs⟩ := pbufFree_log i s
  rw [hl, newPackets_append, newPackets_free hevs, List.append_nil]

/-! ### `pbuf_new` -/

/-- **What `pbuf_new` gives:** an available element, claimed for the identifier. -/
theorem pbufNew_eq_some {id : U32} {clock : ℕ → U32} {s s' : Pbuf} {i : Fin pbufElements}
    (hs : s.Ok) (h : pbufNew id clock s = some (i, s')) :
    (s.elements i).available (clock i) = true ∧
      (∃ k, s'.elements i = .claimed id (clock k)) ∧ Pbuf.Others i s s' ∧
        ∃ evs, s'.log = s.log ++ evs ∧ ∀ ev ∈ evs, ∃ buf, ev = .free buf := by
  obtain ⟨j, hj, hmap⟩ := Option.map_eq_some_iff.1 h
  have hav := Fin.eq_true_of_find?_eq_some hj
  split at hmap
  · rename_i hst
    obtain ⟨rfl, rfl⟩ := Prod.mk.inj hmap
    refine ⟨hav, ⟨j, ?_⟩, (Pbuf.Others.refl j s).set _, [], (List.append_nil _).symm, by simp⟩
    rw [Pbuf.set_elements_self, hs.free j hst]
    rfl
  · obtain ⟨rfl, rfl⟩ := Prod.mk.inj hmap
    refine ⟨hav, ⟨j + 1, ?_⟩, (pbufFree_others j s).set _, pbufFree_log j s⟩
    rw [Pbuf.set_elements_self, pbufFree_self]
    rfl

/-- `pbuf_new` fails exactly if no element is available. -/
theorem pbufNew_eq_none {id : U32} {clock : ℕ → U32} {s : Pbuf} :
    pbufNew id clock s = none ↔ ∀ i, (s.elements i).available (clock i) = false := by
  rw [pbufNew, Option.map_eq_none_iff, Fin.find?_eq_none_iff]

/-! ### `pbuf_find` -/

/-- **What `pbuf_find` gives:** an element for the identifier, with the time noted. -/
theorem pbufFind_eq_some {id : U32} {clock : ℕ → U32} {s s' : Pbuf} {i : Fin pbufElements}
    (h : pbufFind id clock s = some (i, s')) :
    (s.elements i).isFor id = true ∧ s' = s.set i { s.elements i with lastUsed := clock 0 } := by
  obtain ⟨j, hj, hmap⟩ := Option.map_eq_some_iff.1 h
  obtain ⟨rfl, rfl⟩ := Prod.mk.inj hmap
  exact ⟨Fin.eq_true_of_find?_eq_some hj, rfl⟩

/-- `pbuf_find` fails exactly if no element is for the identifier. -/
theorem pbufFind_eq_none {id : U32} {clock : ℕ → U32} {s : Pbuf} :
    pbufFind id clock s = none ↔ ∀ i, (s.elements i).isFor id = false := by
  rw [pbufFind, Option.map_eq_none_iff, Fin.find?_eq_none_iff]

/-- The first element for a packet is the one that is found. -/
theorem pbufFind_of_first {id : U32} (clock : ℕ → U32) {s : Pbuf} {i : Fin pbufElements}
    (hi : (s.elements i).isFor id = true) (hfirst : ∀ j, j < i → (s.elements j).isFor id = false) :
    pbufFind id clock s = some (i, s.set i { s.elements i with lastUsed := clock 0 }) := by
  rw [pbufFind, Fin.find?_eq_some_iff.2 ⟨hi, hfirst⟩]
  rfl

/-- So is the only one. -/
theorem pbufFind_of_unique {id : U32} (clock : ℕ → U32) {s : Pbuf} {i : Fin pbufElements}
    (hi : (s.elements i).isFor id = true) (huniq : ∀ j, j ≠ i → (s.elements j).isFor id = false) :
    pbufFind id clock s = some (i, s.set i { s.elements i with lastUsed := clock 0 }) :=
  pbufFind_of_first clock hi fun j hj => huniq j (ne_of_lt hj)

/-- An element is for an identifier when it is in use and agrees in source, destination and
number. -/
theorem PbufElement.isFor_iff {id : U32} {buf : PbufElement} :
    buf.isFor id = true ↔ buf.state = .bufUsed ∧ cfpConn buf.cfpid = cfpConn id := by
  simp only [isFor, Bool.and_eq_true, decide_eq_true_eq, beq_iff_eq]

/-! ### What is kept of the packets -/

/-- Elements lose packets at most. -/
def Pbuf.Shrinks (s s' : Pbuf) : Prop :=
  ∀ i p, (s'.elements i).packet = some p →
    (s.elements i).packet = some p ∧ (s'.elements i).txCount = (s.elements i).txCount

namespace Pbuf

variable {i : Fin pbufElements} {s s' s'' : Pbuf}

/-- One call after the other takes no packet in. -/
theorem Shrinks.trans (h : s.Shrinks s') (h' : s'.Shrinks s'') : s.Shrinks s'' := by
  intro i p hp
  obtain ⟨hp', hcount'⟩ := h' i p hp
  obtain ⟨hp, hcount⟩ := h i p hp'
  exact ⟨hp, hcount'.trans hcount⟩

/-- The packet of element `i` is as it was, or gone. -/
theorem Shrinks.of_others (ho : Others i s s')
    (hi : (s'.elements i).packet = none ∨ ((s'.elements i).packet = (s.elements i).packet ∧
      (s'.elements i).txCount = (s.elements i).txCount)) : s.Shrinks s' := by
  intro j p hp
  by_cases hj : j = i
  · subst hj
    obtain hnone | ⟨hsame, hcount⟩ := hi
    · exact absurd (hnone.symm.trans hp) (Option.some_ne_none p).symm
    · exact ⟨hsame.symm.trans hp, hcount⟩
  · rw [ho j hj] at hp ⊢
    exact ⟨hp, rfl⟩

end Pbuf

/-- `pbuf_free` takes no packet in. -/
theorem pbufFree_shrinks (i : Fin pbufElements) (s : Pbuf) : s.Shrinks (pbufFree i s) :=
  .of_others (pbufFree_others i s) (.inl (pbufFree_packet i s))

/-- Nor does `pbuf_find`. -/
theorem pbufFind_shrinks {id : U32} {clock : ℕ → U32} {s s' : Pbuf} {i : Fin pbufElements}
    (h : pbufFind id clock s = some (i, s')) : s.Shrinks s' := by
  obtain ⟨-, rfl⟩ := pbufFind_eq_some h
  refine .of_others ((Pbuf.Others.refl i s).set _) (.inr ?_)
  rw [Pbuf.set_elements_self]
  exact ⟨rfl, rfl⟩

/-- Nor does `pbuf_new`. -/
theorem pbufNew_shrinks {id : U32} {clock : ℕ → U32} {s s' : Pbuf} {i : Fin pbufElements}
    (h : pbufNew id clock s = some (i, s')) : s.Shrinks s' := by
  have hclaim : ∀ (s : Pbuf) (t : U32), s.Shrinks (s.set i { s.elements i with
      state := .bufUsed, cfpid := id, remain := 0, lastUsed := t }) := by
    refine fun s t => .of_others ((Pbuf.Others.refl i s).set _) (.inr ?_)
    rw [Pbuf.set_elements_self]
    exact ⟨rfl, rfl⟩
  obtain ⟨j, -, hmap⟩ := Option.map_eq_some_iff.1 h
  split at hmap
  · obtain ⟨rfl, rfl⟩ := Prod.mk.inj hmap
    exact hclaim s _
  · obtain ⟨rfl, rfl⟩ := Prod.mk.inj hmap
    exact (pbufFree_shrinks j s).trans (hclaim _ _)

end LibCSP
