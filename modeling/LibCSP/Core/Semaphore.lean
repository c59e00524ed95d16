/-
# The binary semaphore

`src/arch/posix/csp_semaphore.c` makes a binary semaphore of a POSIX one: it begins with the
value 1, and `csp_bin_sem_post` looks at the value first and calls `sem_post` only if it is 0.
These are two operations, and other tasks may work between them.

`csp_conn.c` and `csp_if_can.c` use such a semaphore as a lock: a task that has waited for it
works on the data and posts it then.  In this use no post is superfluous and none is lost: one
task at a time is between its wait and its post (`Exclusive`), and what the tasks do there is as if
each did it in one piece (`LockSerial`).  A wait that times out changes nothing.
-/

import LibCSP.Basis.Guard

namespace LibCSP

open Basis

/-! ### The operations -/

/-- `csp_bin_sem_create`: the value of the semaphore. -/
def cspBinSemCreate : ℕ := 1

/-- `csp_bin_sem_wait`, if it does not time out. -/
def cspBinSemWait (value : ℕ) : Option ℕ := if 0 < value then some (value - 1) else none

/-- `csp_bin_sem_post_isr` calls `sem_post` when `sem_getvalue` gave this value. -/
def cspBinSemPosts (value : ℕ) : Bool := !decide (value > 0)

/-- `sem_post`. -/
def semPost (value : ℕ) : ℕ := value + 1

/-! ### Tasks -/

/-- Where a task is in its use of the lock. -/
inductive LockPlace (κ α : Type*)
  | outside
  /-- Between `csp_bin_sem_wait` and `csp_bin_sem_post`, after some accesses to the data. -/
  | inside (call : κ) (done : ℕ) (vars : α)
  /-- In `csp_bin_sem_post_isr`, where `sem_getvalue` gave 0. -/
  | posting (call : κ) (vars : α)

/-- A semaphore, the data it protects, and the tasks. -/
structure Lock (σ κ α : Type*) where
  value : ℕ
  data : σ
  place : ℕ → LockPlace κ α
  left : List (Left κ α)

inductive LockInput (κ : Type*)
  /-- `csp_bin_sem_wait` returns `CSP_SEMAPHORE_OK`. -/
  | wait (task : ℕ) (call : κ)
  /-- `csp_bin_sem_wait` returns `CSP_SEMAPHORE_ERROR`. -/
  | timeout (task : ℕ)
  | access (task : ℕ)
  /-- `sem_getvalue` in `csp_bin_sem_post_isr`, and its end if the value is not 0. -/
  | getvalue (task : ℕ)
  /-- `sem_post`. -/
  | post (task : ℕ)

namespace Lock

variable {σ κ α : Type*}

def init (s : σ) : Lock σ κ α := ⟨cspBinSemCreate, s, fun _ => .outside, []⟩

def setPlace (l : Lock σ κ α) (task : ℕ) (p : LockPlace κ α) : Lock σ κ α :=
  { l with place := Function.update l.place task p }

/-- The task is done. -/
def exit (l : Lock σ κ α) (task : ℕ) (call : κ) (vars : α) : Lock σ κ α :=
  { l.setPlace task .outside with left := l.left ++ [⟨task, call, vars⟩] }

/-- One operation of a task. -/
def step (sec : κ → Section σ α) (l : Lock σ κ α) : LockInput κ → Option (Lock σ κ α)
  | .wait task call =>
    match l.place task with
    | .outside => (cspBinSemWait l.value).map fun value =>
        { l.setPlace task (.inside call 0 (sec call).start) with value := value }
    | _ => none
  | .timeout task =>
    match l.place task with
    | .outside => some l
    | _ => none
  | .access task =>
    match l.place task with
    | .inside call done vars => ((sec call).body[done]?).map fun f =>
        { l.setPlace task (.inside call (done + 1) (f (l.data, vars)).2) with
          data := (f (l.data, vars)).1 }
    | _ => none
  | .getvalue task =>
    match l.place task with
    | .inside call done vars =>
      if done = (sec call).body.length then
        if cspBinSemPosts l.value then some (l.setPlace task (.posting call vars))
        else some (l.exit task call vars)
      else none
    | _ => none
  | .post task =>
    match l.place task with
    | .posting call vars => some { l.exit task call vars with value := semPost l.value }
    | _ => none

variable {sec : κ → Section σ α} {l l' : Lock σ κ α} {task u : ℕ}

/-- The task that moves. -/
@[simp] theorem setPlace_self (p : LockPlace κ α) : (l.setPlace task p).place task = p :=
  Function.update_self ..

/-- The others stay where they are. -/
theorem setPlace_ne (h : u ≠ task) (p : LockPlace κ α) : (l.setPlace task p).place u = l.place u :=
  Function.update_of_ne h ..

/-! ### The lock as a guard -/

/-- The lock is in the state of this guard: the semaphore has the value 1, or one task is where
it can post it. -/
structure Represents (sec : κ → Section σ α) (l : Lock σ κ α) (g : Guard σ κ α) : Prop where
  data : l.data = g.data
  left : l.left = g.left
  free : g.holder = none → l.value = 1 ∧ ∀ t, l.place t = .outside
  held : ∀ h, g.holder = some h → l.value = 0 ∧ (∀ t, t ≠ h.task → l.place t = .outside) ∧
    (l.place h.task = .inside h.call h.done h.vars ∨
      h.done = (sec h.call).body.length ∧ l.place h.task = .posting h.call h.vars)

/-- A semaphore that was just created guards nothing yet. -/
theorem represents_init (s : σ) : Represents sec (init s) (Guard.init s) where
  data := rfl
  left := rfl
  free _ := ⟨rfl, fun _ => rfl⟩
  held _ h := absurd h.symm (Option.some_ne_none _)

namespace Represents

variable {g : Guard σ κ α}

/-- A task that is not outside is the holder. -/
theorem holder (hr : Represents sec l g) (ht : l.place task ≠ .outside) :
    ∃ h, g.holder = some h ∧ h.task = task ∧ l.value = 0 := by
  cases hg : g.holder with
  | none => exact absurd ((hr.free hg).2 task) ht
  | some h =>
    obtain ⟨hvalue, hothers, -⟩ := hr.held h hg
    refine ⟨h, rfl, ?_, hvalue⟩
    by_contra hne
    exact ht (hothers task (Ne.symm hne))

/-- The holder where its place shows its call. -/
theorem of_inside (hr : Represents sec l g) {call : κ} {done : ℕ} {vars : α}
    (hp : l.place task = .inside call done vars) :
    g.holder = some ⟨task, call, done, vars⟩ ∧ l.value = 0 ∧
      ∀ t, t ≠ task → l.place t = .outside := by
  have hout : l.place task ≠ .outside := by
    rw [hp]
    nofun
  obtain ⟨h, hg, rfl, hvalue⟩ := hr.holder hout
  obtain ⟨-, hothers, hplace⟩ := hr.held h hg
  rw [hp] at hplace
  rcases hplace with hplace | ⟨-, hplace⟩
  · obtain ⟨rfl, rfl, rfl⟩ := LockPlace.inside.inj hplace
    exact ⟨hg, hvalue, hothers⟩
  · cases hplace

/-- The task that is about to post is the holder, and is alone. -/
theorem of_posting (hr : Represents sec l g) {call : κ} {vars : α}
    (hp : l.place task = .posting call vars) :
    g.holder = some ⟨task, call, (sec call).body.length, vars⟩ ∧ l.value = 0 ∧
      ∀ t, t ≠ task → l.place t = .outside := by
  have hout : l.place task ≠ .outside := by
    rw [hp]
    nofun
  obtain ⟨h, hg, rfl, hvalue⟩ := hr.holder hout
  obtain ⟨-, hothers, hplace⟩ := hr.held h hg
  rw [hp] at hplace
  rcases hplace with hplace | ⟨hdone, hplace⟩
  · cases hplace
  · obtain ⟨hcall, hvars⟩ := LockPlace.posting.inj hplace
    rw [hcall, hvars, hg, ← hdone]
    exact ⟨rfl, hvalue, hothers⟩

/-- **Every operation is a step of the guard, or none.** -/
theorem step {i : LockInput κ} (hr : Represents sec l g) (h : l.step sec i = some l') :
    ∃ is g', Run (Guard.step sec) (fun _ _ => True) g is g' ∧ Represents sec l' g' := by
  cases i with
  | wait task call =>
    simp only [Lock.step] at h
    split at h
    · rename_i hp
      obtain ⟨value, hvalue, rfl⟩ := Option.map_eq_some_iff.1 h
      -- the semaphore has been posted, so nobody holds the lock
      cases hg : g.holder with
      | some x =>
        rw [(hr.held x hg).1] at hvalue
        cases hvalue
      | none =>
        obtain ⟨hone, hout⟩ := hr.free hg
        rw [hone] at hvalue
        obtain rfl := Option.some.inj hvalue
        refine ⟨[.enter task call], { g with holder := some ⟨task, call, 0, (sec call).start⟩ },
          .cons trivial ?_ .nil, hr.data, hr.left, fun hn => absurd hn (Option.some_ne_none _),
          fun x hx => ?_⟩
        · simp only [Guard.step, hg]
        · obtain rfl := Option.some.inj hx
          exact ⟨rfl, fun t ht => (setPlace_ne ht _).trans (hout t), .inl (setPlace_self _)⟩
    · cases h
  | timeout task =>
    simp only [Lock.step] at h
    split at h
    · obtain rfl := Option.some.inj h
      exact ⟨[], g, .nil, hr⟩
    · cases h
  | access task =>
    simp only [Lock.step] at h
    split at h
    · rename_i call done vars hp
      obtain ⟨f, hf, rfl⟩ := Option.map_eq_some_iff.1 h
      obtain ⟨hg, hvalue, hothers⟩ := hr.of_inside hp
      refine ⟨[.access task], { g with
        data := (f (g.data, vars)).1
        holder := some ⟨task, call, done + 1, (f (g.data, vars)).2⟩ },
        .cons trivial ?_ .nil, ?_, hr.left, fun hn => absurd hn (Option.some_ne_none _),
        fun x hx => ?_⟩
      · simp only [Guard.step, hg, hf, if_true, Option.map_some]
      · show (f (l.data, vars)).1 = (f (g.data, vars)).1
        rw [hr.data]
      · obtain rfl := Option.some.inj hx
        refine ⟨hvalue, fun t ht => (setPlace_ne ht _).trans (hothers t ht), .inl ?_⟩
        rw [← hr.data]
        exact setPlace_self _
    · cases h
  | getvalue task =>
    simp only [Lock.step] at h
    split at h
    · rename_i call done vars hp
      obtain ⟨hg, hvalue, hothers⟩ := hr.of_inside hp
      have hposts : cspBinSemPosts l.value = true := by
        rw [hvalue]
        rfl
      rw [hposts, if_pos rfl] at h
      split at h
      · rename_i hdone
        obtain rfl := Option.some.inj h
        refine ⟨[], g, .nil, hr.data, hr.left, fun hn => ?_, fun x hx => ?_⟩
        · rw [hg] at hn
          cases hn
        · obtain rfl := Option.some.inj (hg.symm.trans hx)
          exact ⟨hvalue, fun t ht => (setPlace_ne ht _).trans (hothers t ht),
            .inr ⟨hdone, setPlace_self _⟩⟩
      · cases h
    · cases h
  | post task =>
    simp only [Lock.step] at h
    split at h
    · rename_i call vars hp
      obtain rfl := Option.some.inj h
      obtain ⟨hg, hvalue, hothers⟩ := hr.of_posting hp
      refine ⟨[.leave task], { g with holder := none, left := g.left ++ [⟨task, call, vars⟩] },
        .cons trivial ?_ .nil, hr.data, ?_, fun _ => ⟨?_, fun t => ?_⟩,
        fun x hx => absurd hx.symm (Option.some_ne_none x)⟩
      · simp only [Guard.step, hg, and_self, if_true]
      · show l.left ++ _ = g.left ++ _
        rw [hr.left]
      · show semPost l.value = 1
        rw [hvalue]
        rfl
      · show (l.setPlace task .outside).place t = .outside
        by_cases ht : t = task
        · rw [ht, setPlace_self]
        · rw [setPlace_ne ht, hothers t ht]
    · cases h

end Represents

/-! ### What the lock guarantees -/

/-- One task at a time has the semaphore, and it is free when none has. -/
structure Exclusive (l : Lock σ κ α) : Prop where
  one : ∀ t u, l.place t ≠ .outside → l.place u ≠ .outside → t = u
  binary : l.value ≤ 1
  free : l.value = 1 ↔ ∀ t, l.place t = .outside

/-- What the tasks have computed, and the data when none is inside, are those of the sections run
one after another in the order in which they were left. -/
structure LockSerial (sec : κ → Section σ α) (s : σ) (l : Lock σ κ α) : Prop where
  vars : l.left.map Left.vars = (Section.replay sec s (l.left.map Left.call)).2
  data : (∀ t, l.place t = .outside) →
    l.data = (Section.replay sec s (l.left.map Left.call)).1

/-- So no two tasks are in the section. -/
theorem Represents.exclusive {g : Guard σ κ α} (hr : Represents sec l g) : Exclusive l := by
  refine ⟨fun t u ht hu => ?_, ?_, ?_, fun hout => ?_⟩
  · obtain ⟨h, hg, rfl, -⟩ := hr.holder ht
    obtain ⟨h', hg', rfl, -⟩ := hr.holder hu
    rw [Option.some.inj (hg.symm.trans hg')]
  · cases hg : g.holder with
    | none => exact Nat.le_of_eq (hr.free hg).1
    | some h =>
      rw [(hr.held h hg).1]
      exact Nat.zero_le 1
  · intro hone t
    by_contra ht
    obtain ⟨-, -, -, hzero⟩ := hr.holder ht
    exact absurd (hone.symm.trans hzero) Nat.one_ne_zero
  · cases hg : g.holder with
    | none => exact (hr.free hg).1
    | some h =>
      obtain ⟨-, -, hplace⟩ := hr.held h hg
      rw [hout] at hplace
      rcases hplace with hplace | ⟨-, hplace⟩ <;> cases hplace

/-- The data are those of the sections in the order in which they were entered. -/
theorem Represents.lockSerial {g : Guard σ κ α} {s : σ} (hr : Represents sec l g)
    (hs : g.Serial sec s) : LockSerial sec s l := by
  refine ⟨?_, fun hout => ?_⟩
  · rw [hr.left]
    exact hs.left
  · rw [hr.left, hr.data]
    refine hs.free ?_
    cases hg : g.holder with
    | none => rfl
    | some h =>
      obtain ⟨-, -, hplace⟩ := hr.held h hg
      rw [hout] at hplace
      rcases hplace with hplace | ⟨-, hplace⟩ <;> cases hplace

/-- Every reachable state of the lock is that of a guard. -/
theorem run_represents {s : σ} {is : List (LockInput κ)}
    (h : Run (Lock.step sec) (fun _ _ => True) (init s) is l) :
    ∃ g, Represents sec l g ∧ g.Serial sec s := by
  obtain ⟨is', g, hrun, hr⟩ := h.simulated
    (fun _ _ _ _ hr _ hstep => Represents.step hr hstep) (represents_init s)
  exact ⟨g, hr, Guard.serial hrun⟩

/-- **The semaphore is a lock**, at the granularity of its operations: one task at a time is
inside, the semaphore is free exactly when none is, and the tasks compute what they compute one
after another. -/
theorem binSem_exclusive {s : σ} {is : List (LockInput κ)}
    (h : Run (Lock.step sec) (fun _ _ => True) (init s) is l) :
    Exclusive l ∧ LockSerial sec s l := by
  obtain ⟨g, hr, hs⟩ := run_represents h
  exact ⟨hr.exclusive, hr.lockSerial hs⟩

/-- Reading a counter, and writing it back with this much more. -/
def addSection (n : ℕ) : Section ℕ ℕ := ⟨0, [fun p => (p.1, p.1), fun p => (p.2 + n, p.2)]⟩

/-- Two tasks add to a counter; the second one comes while the first is inside. -/
theorem binSem_exclusive_counter : ∃ l : Lock ℕ ℕ ℕ,
    Run (Lock.step addSection) (fun _ _ => True) (init 5)
      [.wait 1 10, .access 1, .timeout 2, .access 1, .getvalue 1, .timeout 2, .post 1, .wait 2 3,
        .access 2, .access 2, .getvalue 2, .post 2] l ∧
      (Exclusive l ∧ LockSerial addSection 5 l) ∧ l.data = 18 := by
  have hrun : ∃ l : Lock ℕ ℕ ℕ, Run (Lock.step addSection) (fun _ _ => True) (init 5)
      [.wait 1 10, .access 1, .timeout 2, .access 1, .getvalue 1, .timeout 2, .post 1, .wait 2 3,
        .access 2, .access 2, .getvalue 2, .post 2] l ∧ (l.data == 18) = true :=
    Run.of_any (by decide)
  obtain ⟨l, hrun, hdata⟩ := hrun
  exact ⟨l, hrun, binSem_exclusive hrun, beq_iff_eq.1 hdata⟩

end Lock

end LibCSP
