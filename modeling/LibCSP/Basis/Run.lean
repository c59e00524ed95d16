/-
# Runs of a state machine

A state machine is a partial function `step : σ → ι → Option σ`: an input the
machine does not take in a state has no next state.  A run is a list of inputs
taken one after another, each admitted by a condition `ok` on the state before
the step and the input.  An invariant is proved once for one step and holds in
every state a run reaches (`Run.invariant`); a law about consecutive states is
read off the last step (`Run.snoc`).

For a run on concrete inputs there is `exec`, which computes, and `Run.of_any`,
which turns the computation into a run.
-/

import Mathlib.Data.List.Basic

namespace Basis

variable {σ ι : Type*}

/-- `Run step ok s is t`: the inputs `is`, each admitted, lead from `s` to `t`. -/
inductive Run (step : σ → ι → Option σ) (ok : σ → ι → Prop) (s : σ) : List ι → σ → Prop
  | nil : Run step ok s [] s
  | snoc {is : List ι} {t u : σ} {i : ι} :
      Run step ok s is t → ok t i → step t i = some u → Run step ok s (is ++ [i]) u

variable {step : σ → ι → Option σ} {ok ok' : σ → ι → Prop} {s t u : σ} {is : List ι} {i : ι}

/-- **An invariant of every admitted step holds in every state reached.** -/
theorem Run.invariant {P : σ → Prop} (hstep : ∀ t i u, P t → ok t i → step t i = some u → P u)
    (h : Run step ok s is t) (hs : P s) : P t := by
  induction h with
  | nil => exact hs
  | snoc _ hok hst ih => exact hstep _ _ _ ih hok hst

/-- A run whose steps meet one condition is a run under any weaker one. -/
theorem Run.mono (h : Run step ok s is t) (hok : ∀ t i, ok t i → ok' t i) :
    Run step ok' s is t := by
  induction h with
  | nil => exact .nil
  | snoc _ hi hst ih => exact .snoc ih (hok _ _ hi) hst

/-- A step in front of a run. -/
theorem Run.cons (hok : ok s i) (hst : step s i = some t) (h : Run step ok t is u) :
    Run step ok s (i :: is) u := by
  induction h with
  | nil => exact .snoc .nil hok hst
  | snoc _ hi hs ih => exact .snoc ih hi hs

/-- Runs one after another. -/
theorem Run.trans {js : List ι} (h₁ : Run step ok s is t) (h₂ : Run step ok t js u) :
    Run step ok s (is ++ js) u := by
  induction h₂ with
  | nil => simpa using h₁
  | snoc _ hi hs ih =>
    rw [← List.append_assoc]
    exact .snoc ih hi hs

/-- **Simulation:** if a run answers each step of a machine from related states, and ends in
related states again, then a run answers each run. -/
theorem Run.simulated {σ' ι' : Type*} {step' : σ' → ι' → Option σ'} {okay : σ' → ι' → Prop}
    {R : σ → σ' → Prop} {s' : σ'} (hstep : ∀ t t' i u, R t t' → ok t i → step t i = some u →
      ∃ is' u', Run step' okay t' is' u' ∧ R u u')
    (h : Run step ok s is t) (hs : R s s') : ∃ is' t', Run step' okay s' is' t' ∧ R t t' := by
  induction h with
  | nil => exact ⟨[], s', .nil, hs⟩
  | snoc _ hok hst ih =>
    obtain ⟨is', t', hrun, ht⟩ := ih
    obtain ⟨js', u', hrun', hu⟩ := hstep _ _ _ _ ht hok hst
    exact ⟨is' ++ js', u', hrun.trans hrun', hu⟩

/-- A machine with a note of what its steps are to another machine. -/
def noting {ι' : Type*} (step : σ → ι → Option σ) (note : σ → ι → List ι') (x : σ × List ι')
    (i : ι) : Option (σ × List ι') :=
  (step x.1 i).map fun t => (t, x.2 ++ note x.1 i)

/-- **Simulation with a note:** if the inputs noted for each step lead the other machine from
related states to related ones, then the whole note is a run of it. -/
theorem Run.noted {σ' ι' : Type*} {step' : σ' → ι' → Option σ'} {okay : σ' → ι' → Prop}
    {note : σ → ι → List ι'} {R : σ → σ' → Prop} {s' : σ'} {x : σ × List ι'}
    (hstep : ∀ t t' i u, R t t' → ok t i → step t i = some u →
      ∃ u', Run step' okay t' (note t i) u' ∧ R u u')
    (h : Run (noting step note) (fun x i => ok x.1 i) (s, []) is x) (hs : R s s') :
    ∃ t', Run step' okay s' x.2 t' ∧ R x.1 t' := by
  induction h with
  | nil => exact ⟨s', .nil, hs⟩
  | snoc _ hok hst ih =>
    obtain ⟨t', hrun, ht⟩ := ih
    obtain ⟨u, hu, rfl⟩ := Option.map_eq_some_iff.1 hst
    obtain ⟨u', hrun', hR⟩ := hstep _ _ _ _ ht hok hu
    exact ⟨u', hrun.trans hrun', hR⟩

/-- **A run is no longer than a measure** that every step lowers. -/
theorem Run.length_le (μ : σ → ℕ) (hstep : ∀ t i u, ok t i → step t i = some u → μ u < μ t)
    (h : Run step ok s is t) : is.length + μ t ≤ μ s := by
  induction h with
  | nil => simp
  | snoc _ hok hst ih =>
    have hlt := hstep _ _ _ hok hst
    rw [List.length_append, List.length_singleton]
    omega

/-- **A run to a goal:** where every state off the goal has a step that lowers a measure. -/
theorem Run.reaches {P goal : σ → Prop} (μ : σ → ℕ)
    (hstep : ∀ s, P s → ¬goal s → ∃ i t, ok s i ∧ step s i = some t ∧ P t ∧ μ t < μ s)
    (hs : P s) : ∃ is t, Run step ok s is t ∧ P t ∧ goal t := by
  induction hn : μ s using Nat.strongRecOn generalizing s with
  | ind n ih =>
    by_cases hg : goal s
    · exact ⟨[], s, .nil, hs, hg⟩
    · obtain ⟨i, t, hok, hst, ht, hlt⟩ := hstep s hs hg
      obtain ⟨is, u, hrun, hu, hgu⟩ := ih (μ t) (hn ▸ hlt) ht rfl
      exact ⟨i :: is, u, .cons hok hst hrun, hu, hgu⟩

/-- The state after a list of inputs; `none` if one of them is not admitted or
not taken. -/
def exec (step : σ → ι → Option σ) (ok : σ → ι → Prop) [∀ s i, Decidable (ok s i)] :
    σ → List ι → Option σ
  | s, [] => some s
  | s, i :: is => if ok s i then (step s i).bind fun t => exec step ok t is else none

/-- What can be executed is a run. -/
theorem Run.of_exec [∀ s i, Decidable (ok s i)] (h : exec step ok s is = some u) :
    Run step ok s is u := by
  induction is generalizing s with
  | nil =>
    obtain rfl := Option.some.inj h
    exact .nil
  | cons i is ih =>
    rw [exec] at h
    split at h
    · rename_i hok
      obtain ⟨t, ht, hu⟩ := Option.bind_eq_some_iff.1 h
      exact .cons hok ht (ih hu)
    · exact absurd h.symm (Option.some_ne_none u)

/-- **A computed trace is a run**, with what is computed of its last state. -/
theorem Run.of_any [∀ s i, Decidable (ok s i)] {p : σ → Bool}
    (h : (exec step ok s is).any p = true) : ∃ u, Run step ok s is u ∧ p u = true := by
  obtain ⟨u, hu, hp⟩ := (Option.any_eq_true _ _).1 h
  exact ⟨u, .of_exec hu, hp⟩

end Basis
