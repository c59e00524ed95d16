/-
# Sections that run one at a time

Tasks work on shared data in sections: a section is a list of accesses to the data and to
local variables of the task.  A guard admits one task at a time, so the accesses of two
sections never mix, although each access is a step of its own and a task may stop for any
time between two of them.

Whatever the order of steps, the data and what the sections that are over have computed
are those of the sections run one after another, each in one piece, in the order in which
they were left (`Guard.serial`); the section that is under way has done its first accesses
to that data.
-/

import LibCSP.Basis.Run

namespace Basis

/-- What a task does in a section: its local variables on entry and its accesses. -/
structure Section (σ α : Type*) where
  start : α
  body : List (σ × α → σ × α)

namespace Section

variable {σ α κ : Type*}

/-- The data and the local variables after the first `k` accesses. -/
def upTo (S : Section σ α) (k : ℕ) (s : σ) : σ × α :=
  (S.body.take k).foldl (fun p f => f p) (s, S.start)

/-- The section in one piece. -/
def atomic (S : Section σ α) (s : σ) : σ × α := S.upTo S.body.length s

/-- Sections in one piece, one after another: the data, and what each has computed. -/
def replay (sec : κ → Section σ α) : σ → List κ → σ × List α
  | s, [] => (s, [])
  | s, c :: cs =>
    ((replay sec ((sec c).atomic s).1 cs).1,
      ((sec c).atomic s).2 :: (replay sec ((sec c).atomic s).1 cs).2)

/-- A section that was just entered. -/
theorem upTo_zero (S : Section σ α) (s : σ) : S.upTo 0 s = (s, S.start) := rfl

/-- One more access of the section. -/
theorem upTo_succ {S : Section σ α} {k : ℕ} {f : σ × α → σ × α} (h : S.body[k]? = some f) (s : σ) :
    S.upTo (k + 1) s = f (S.upTo k s) := by
  unfold upTo
  rw [List.take_add_one, h, List.foldl_append]
  rfl

/-- The serial order goes on with one more section. -/
theorem replay_snoc (sec : κ → Section σ α) (c : κ) (cs : List κ) (s : σ) :
    replay sec s (cs ++ [c]) = (((sec c).atomic (replay sec s cs).1).1,
      (replay sec s cs).2 ++ [((sec c).atomic (replay sec s cs).1).2]) := by
  induction cs generalizing s with
  | nil => rfl
  | cons d cs ih =>
    rw [List.cons_append, replay, ih]
    rfl

end Section

/-- A task in a section. -/
structure Holder (κ α : Type*) where
  task : ℕ
  call : κ
  /-- The accesses it has made. -/
  done : ℕ
  vars : α

/-- A section that is over. -/
structure Left (κ α : Type*) where
  task : ℕ
  call : κ
  vars : α

/-- Shared data, the task that is in a section, and the sections that are over. -/
structure Guard (σ κ α : Type*) where
  data : σ
  holder : Option (Holder κ α)
  left : List (Left κ α)

inductive GuardInput (κ : Type*)
  | enter (task : ℕ) (call : κ)
  | access (task : ℕ)
  | leave (task : ℕ)

namespace Guard

variable {σ κ α : Type*} {sec : κ → Section σ α}

/-- Nobody has been in a section. -/
def init (s : σ) : Guard σ κ α := ⟨s, none, []⟩

/-- One step of a task. -/
def step (sec : κ → Section σ α) (g : Guard σ κ α) : GuardInput κ → Option (Guard σ κ α)
  | .enter task call =>
    match g.holder with
    | some _ => none
    | none => some { g with holder := some ⟨task, call, 0, (sec call).start⟩ }
  | .access task =>
    match g.holder with
    | none => none
    | some h =>
      if h.task = task then
        ((sec h.call).body[h.done]?).map fun f =>
          { g with
            data := (f (g.data, h.vars)).1
            holder := some { h with done := h.done + 1, vars := (f (g.data, h.vars)).2 } }
      else none
  | .leave task =>
    match g.holder with
    | none => none
    | some h =>
      if h.task = task ∧ h.done = (sec h.call).body.length then
        some { g with holder := none, left := g.left ++ [⟨task, h.call, h.vars⟩] }
      else none

/-- The sections that are over were run in one piece each, and the one under way has begun. -/
structure Serial (sec : κ → Section σ α) (s : σ) (g : Guard σ κ α) : Prop where
  left : g.left.map Left.vars = (Section.replay sec s (g.left.map Left.call)).2
  free : g.holder = none → g.data = (Section.replay sec s (g.left.map Left.call)).1
  held : ∀ h, g.holder = some h →
    (g.data, h.vars) = (sec h.call).upTo h.done (Section.replay sec s (g.left.map Left.call)).1

/-- Before any section the serial order is empty. -/
theorem serial_init (s : σ) : Serial sec s (init s) where
  left := rfl
  free _ := rfl
  held _ h := absurd h.symm (Option.some_ne_none _)

/-- **One step.** -/
theorem Serial.step {s : σ} {g g' : Guard σ κ α} {i : GuardInput κ} (h : Serial sec s g)
    (hstep : g.step sec i = some g') : Serial sec s g' := by
  cases i with
  | enter task call =>
    simp only [Guard.step] at hstep
    cases hg : g.holder with
    | some _ => simp [hg] at hstep
    | none =>
      rw [hg] at hstep
      obtain rfl := Option.some.inj hstep
      refine ⟨h.left, fun hn => absurd hn (Option.some_ne_none _), fun x hx => ?_⟩
      obtain rfl := Option.some.inj hx
      rw [h.free hg]
      exact (Section.upTo_zero ..).symm
  | access task =>
    simp only [Guard.step] at hstep
    cases hg : g.holder with
    | none => simp [hg] at hstep
    | some x =>
      simp only [hg] at hstep
      split at hstep
      · obtain ⟨f, hf, rfl⟩ := Option.map_eq_some_iff.1 hstep
        refine ⟨h.left, fun hn => absurd hn (Option.some_ne_none _), fun y hy => ?_⟩
        obtain rfl := Option.some.inj hy
        show _ = (sec x.call).upTo (x.done + 1) _
        rw [Section.upTo_succ hf, ← h.held x hg]
      · cases hstep
  | leave task =>
    simp only [Guard.step] at hstep
    cases hg : g.holder with
    | none => simp [hg] at hstep
    | some x =>
      simp only [hg] at hstep
      split at hstep
      · rename_i hdone
        obtain rfl := Option.some.inj hstep
        have hheld := h.held x hg
        rw [hdone.2] at hheld
        have hatomic : (sec x.call).atomic (Section.replay sec s (g.left.map Left.call)).1 =
            (g.data, x.vars) := hheld.symm
        refine ⟨?_, fun _ => ?_, fun y hy => absurd hy.symm (Option.some_ne_none y)⟩
        · simp only [List.map_append, List.map_cons, List.map_nil, Section.replay_snoc, hatomic,
            h.left]
        · simp only [List.map_append, List.map_cons, List.map_nil, Section.replay_snoc, hatomic]
      · cases hstep

/-- **Sections run as if in one piece each**, whatever the order of steps. -/
theorem serial {s : σ} {g : Guard σ κ α} {is : List (GuardInput κ)}
    (h : Run (Guard.step sec) (fun _ _ => True) (init s) is g) : Serial sec s g :=
  h.invariant (fun _ _ _ hs _ hstep => hs.step hstep) (serial_init s)

end Guard

end Basis
