/-
# When `csp_conn_new` finds a connection

The search of `csp_conn_new` starts behind the connection last given and ends when it comes back to
it.  It sees every other element of the table (`Stack.search_finds`), and the one last given not at
all, except in a table of one element, where it is marked open and then taken for the end of the
search.

So the call returns a closed connection whenever there is one, and leaves the table alone where it
fails, exactly if the connection last given is open or another one is closed
(`cspConnNew_right_iff`).
-/

import LibCSP.Router.Step

namespace LibCSP

open Basis

variable {N : ℕ} [NeZero N]

/-- A search that fails has looked at `d` elements behind its start, none of them closed, if it did
not come to its end before. -/
theorem cspConnSearch_open {conns : Fin N → Conn} {last : Fin N} {n d : ℕ} {i : Fin N}
    (h : (cspConnSearch conns last n i).2 = false) (hd : d < n)
    (hbefore : ∀ d', d' < d → i + Fin.ofNat N (d' + 1) ≠ last) :
    (conns (i + Fin.ofNat N d)).state ≠ .connClosed := by
  induction n generalizing i d with
  | zero => exact absurd hd (Nat.not_lt_zero d)
  | succ n ih =>
    unfold cspConnSearch at h
    by_cases hc : (conns i).state = .connClosed
    · rw [if_pos hc] at h
      exact absurd h.symm Bool.false_ne_true
    · rw [if_neg hc] at h
      cases d with
      | zero =>
        rw [show Fin.ofNat N 0 = 0 from rfl, add_zero]
        exact hc
      | succ d =>
        have hnext : i + 1 ≠ last := by
          have hone := hbefore 0 (Nat.succ_pos d)
          rwa [ofNat_succ, show Fin.ofNat N 0 = 0 from rfl, add_zero] at hone
        rw [if_neg hnext] at h
        rw [ofNat_succ, ← add_assoc]
        refine ih h (by omega) fun d' hd' => ?_
        have hlater := hbefore (d' + 1) (by omega)
        rwa [ofNat_succ, ← add_assoc] at hlater

/-- **The search sees every element but the one last given.** -/
theorem Stack.search_finds {s : Stack N} {j : Fin N} (hj : j ≠ s.lastGiven)
    (hclosed : (s.conns j).state = .connClosed) : s.search.2 = true := by
  have hdist : 0 < (j - s.lastGiven).val := by
    refine Nat.pos_of_ne_zero fun hzero => hj ?_
    exact sub_eq_zero.1 (Fin.ext hzero)
  have hlt := (j - s.lastGiven).isLt
  have hat : s.lastGiven + 1 + Fin.ofNat N ((j - s.lastGiven).val - 1) = j := by
    rw [add_assoc, ← ofNat_succ, Nat.sub_add_cancel hdist, Fin.ofNat_val_eq_self, add_sub_cancel]
  by_contra hfound
  have hopen := cspConnSearch_open (d := (j - s.lastGiven).val - 1)
    (Bool.eq_false_of_not_eq_true hfound) (by omega) fun d' hd' heq => by
      rw [add_assoc, ← ofNat_succ] at heq
      have hzero := congrArg Fin.val (add_eq_left.1 heq)
      rw [Fin.val_ofNat, Nat.mod_eq_of_lt (by omega)] at hzero
      exact absurd hzero (Nat.succ_ne_zero _)
  rw [hat] at hopen
  exact hopen hclosed

/-- What `csp_conn_new` returns is not the connection last given. -/
theorem cspConnNew_ne_last {e : StackEnv} {idin idout : CspId} {s : Stack N} {i : Fin N}
    (h : (cspConnNew e idin idout s).1 = some i) : i ≠ s.lastGiven := by
  unfold cspConnNew at h
  split at h
  · simp only at h
    split at h
    · cases h
    · rename_i hne
      exact Option.some.inj h ▸ hne
  · cases h

/-- The receive queues of a new connection are empty. -/
theorem cspConnNew_queues {e : StackEnv} {idin idout : CspId} {s : Stack N} {i : Fin N}
    (h : (cspConnNew e idin idout s).1 = some i) :
    (∀ prio, (((cspConnNew e idin idout s).2.conns i).rxQueue prio).items = []) ∧
      ((cspConnNew e idin idout s).2.conns i).rxEvent.items = [] := by
  unfold cspConnNew at h ⊢
  split at h
  · rename_i hlock
    rw [if_pos hlock]
    simp only at h ⊢
    split at h
    · cases h
    · rename_i hne
      obtain rfl := Option.some.inj h
      rw [if_neg hne]
      simp only [Stack.put, Function.update_self]
      exact ⟨fun _ => rfl, rfl⟩
  · cases h

/-- A closed connection of the table is returned, open, with these identifiers and nothing to
receive; and where none is returned, none has changed its state. -/
structure ConnNewRight (e : StackEnv) (idin idout : CspId) (s : Stack N) : Prop where
  found : (∃ j, (s.conns j).state = .connClosed) →
    ∃ i, (cspConnNew e idin idout s).1 = some i ∧ (s.conns i).state = .connClosed ∧
      ((cspConnNew e idin idout s).2.conns i).state = .connOpen ∧
      ((cspConnNew e idin idout s).2.conns i).idin = idin ∧
      ((cspConnNew e idin idout s).2.conns i).idout = idout ∧
      (∀ prio, (((cspConnNew e idin idout s).2.conns i).rxQueue prio).items = []) ∧
      ((cspConnNew e idin idout s).2.conns i).rxEvent.items = []
  failed : (cspConnNew e idin idout s).1 = none →
    ∀ j, ((cspConnNew e idin idout s).2.conns j).state = (s.conns j).state

/-- The connection last given is not seen. -/
theorem not_connNewRight {e : StackEnv} {idin idout : CspId} {s : Stack N}
    (hlast : (s.conns s.lastGiven).state = .connClosed)
    (hothers : ∀ i, i ≠ s.lastGiven → (s.conns i).state ≠ .connClosed) :
    ¬ ConnNewRight e idin idout s := by
  intro h
  obtain ⟨i, hi, hclosed, -⟩ := h.found ⟨_, hlast⟩
  exact hothers i (cspConnNew_ne_last hi) hclosed

/-- **When allocation is complete**: with the lock, in every state of a table of every size, exactly
if the connection last given is open or another one is closed. -/
theorem cspConnNew_right_iff (e : StackEnv) (idin idout : CspId) (s : Stack N)
    (hlock : e.env.connLock s.tick = true) :
    ConnNewRight e idin idout s ↔ (s.conns s.lastGiven).state = .connOpen ∨
      ∃ i, i ≠ s.lastGiven ∧ (s.conns i).state = .connClosed := by
  have hstate : ∀ i, (s.conns i).state = .connOpen ↔ (s.conns i).state ≠ .connClosed := fun i => by
    cases (s.conns i).state <;> simp
  constructor
  · intro h
    by_contra hno
    obtain ⟨hlast, hothers⟩ := not_or.1 hno
    rw [hstate, not_not] at hlast
    exact not_connNewRight hlast (fun i hi hclosed => hothers ⟨i, hi, hclosed⟩) h
  · intro h
    by_cases hfound : s.search.2 = true
    · -- an element is found, and it is not the one last given
      have hclosed := (cspConnSearch_found hfound).1
      have hne : s.search.1 ≠ s.lastGiven := by
        intro heq
        obtain rfl := Stack.search_last hfound heq
        rcases h with hopen | ⟨i, hi, -⟩
        · rw [← heq] at hopen
          exact absurd (hclosed.symm.trans hopen) (by decide)
        · exact hi (Subsingleton.elim _ _)
      have hsome : (cspConnNew e idin idout s).1 = some s.search.1 := by
        unfold cspConnNew
        simp only [if_pos hlock, if_neg hne]
      rcases cspConnNew_cases e idin idout s with ⟨hnone, -⟩ | ⟨hnone, -⟩ | ⟨-, hfresh⟩
      · exact absurd (hsome.symm.trans hnone) (Option.some_ne_none _)
      · exact absurd (hsome.symm.trans hnone) (Option.some_ne_none _)
      · have hshell := hfresh.shell
        refine ⟨fun _ => ⟨_, hsome, hclosed, congrArg Shell.state hshell,
          congrArg Shell.idin hshell, congrArg Shell.idout hshell, cspConnNew_queues hsome⟩,
          fun hnone => absurd (hsome.symm.trans hnone) (Option.some_ne_none _)⟩
    · have hnew := cspConnNew_of_not_allots (fun ha => hfound ha.2) idin idout (e := e)
      have hothers : ∀ i, i ≠ s.lastGiven → (s.conns i).state ≠ .connClosed := fun i hi hclosed =>
        hfound (Stack.search_finds hi hclosed)
      have hlast : (s.conns s.lastGiven).state = .connOpen := by
        rcases h with hopen | ⟨i, hi, hclosed⟩
        · exact hopen
        · exact absurd hclosed (hothers i hi)
      constructor
      · rintro ⟨j, hj⟩
        by_cases hjlast : j = s.lastGiven
        · rw [hjlast, hlast] at hj
          cases hj
        · exact absurd hj (hothers j hjlast)
      · intro _ j
        rw [hnew]
        rfl

/-- In a node that has just started there is a connection. -/
theorem cspConnNew_right_init : ConnNewRight .favourable 0 0 (Stack.init cspConnMax) :=
  (cspConnNew_right_iff _ _ _ _ rfl).2 (.inr ⟨1, by decide, rfl⟩)

/-- Two connections are opened and the one last given is closed: it is not found again.  A table of
one element gives none at all, but marks it open. -/
theorem cspConnNew_last_given :
    (∃ t : Stack 2, Run (stackStep .favourable) (fun _ _ => True) (Stack.init 2)
      [.connect 0 2 5 10 0, .allocate 0, .connect 0 2 5 11 0, .allocate 0, .close 0] t ∧
        ¬ ConnNewRight .favourable 0 0 t) ∧
      ¬ ConnNewRight .favourable 0 0 (Stack.init 1) := by
  have hrun : ∃ t : Stack 2, Run (stackStep .favourable) (fun _ _ => True) (Stack.init 2)
      [.connect 0 2 5 10 0, .allocate 0, .connect 0 2 5 11 0, .allocate 0, .close 0] t ∧
        decide (t.lastGiven = 0 ∧ (t.conns 0).state = .connClosed ∧
          (t.conns 1).state = .connOpen) = true :=
    Run.of_any (by decide +kernel)
  obtain ⟨t, hrun, ht⟩ := hrun
  obtain ⟨hlast, h0, h1⟩ := of_decide_eq_true ht
  refine ⟨⟨t, hrun, not_connNewRight (by rw [hlast, h0]) fun i hi hclosed => ?_⟩,
    not_connNewRight rfl fun i hi => absurd (Subsingleton.elim i _) hi⟩
  obtain rfl : i = 1 := by
    rw [hlast] at hi
    omega
  exact absurd (hclosed.symm.trans h1) (by decide)

end LibCSP
