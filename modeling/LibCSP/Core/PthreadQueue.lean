/-
# The queue of the POSIX layer

`src/arch/posix/pthread_queue.c`, which `csp_queue_enqueue` and `csp_queue_dequeue`
(`csp_queue.c`) hand their arguments to: a ring of items in a block of memory, with a mutex and
two condition variables.  A call reads the clock for its deadline, takes the mutex, and waits as
long as the queue is full or empty; a wait gives the mutex away and ends by a signal, which may
come at any time, or by a timeout.  What a call does between two waits is one step here
(`PthreadQueue.step`), and any number of threads take turns.

`pthread_queue_create` multiplies the length and the size of an item as `size_t`, and keeps the
size as an `int`; the other two functions multiply an index and that size as `int`.  Where these
products agree the queue is a bounded FIFO, whatever the threads do, the queue of length 0
included; where they do not, a copy leaves the buffer or cuts its item
(`boundedFifo_iff`).
-/

import Mathlib.Algebra.Order.Ring.Int
import LibCSP.Basis.Ring
import LibCSP.Basis.Run
import LibCSP.Basis.Word

namespace LibCSP

open Basis

/-- The width of `size_t`; an `int` has 32 bits. -/
structure SizeT where
  bits : ℕ
  bits_ge : 32 ≤ bits

/-- An object of `n` bytes. -/
abbrev Block (n : ℕ) := Fin n → U8

/-- `memcpy` of `len` bytes from `src + srcOff` to `dst + dstOff`; `none` if that leaves one of the
objects. -/
def memcpy {n m : ℕ} (dst : Block n) (dstOff : ℤ) (src : Block m) (srcOff : ℤ) (len : ℕ) :
    Option (Block n) :=
  if h : 0 ≤ dstOff ∧ dstOff + len ≤ n ∧ 0 ≤ srcOff ∧ srcOff + len ≤ m then
    some fun k =>
      if hk : dstOff.toNat ≤ k ∧ k < dstOff.toNat + len then
        src ⟨srcOff.toNat + (k - dstOff.toNat), by omega⟩
      else dst k
  else none

/-- `pthread_queue_t`, with the buffer it points to. -/
structure PthreadQueue (a : SizeT) (bytes : ℕ) where
  buffer : Block bytes
  size : ℕ
  itemSize : ℤ
  items : ℕ
  /-- `in`. -/
  inIndex : ℕ
  /-- `out`. -/
  outIndex : ℕ

/-- What `pthread_queue_create` asks for. -/
structure QueueSetup where
  /-- The structure gets memory. -/
  allocated : Bool
  malloc : (n : ℕ) → Option (Block n)
  /-- The mutex and the condition variables can be initialised. -/
  initialised : Bool

/-- Every request is met. -/
def QueueSetup.granted : QueueSetup := ⟨true, fun _ => some fun _ => 0, true⟩

/-- `length*item_size`. -/
def bufferBytes (a : SizeT) (length : Fin (2 ^ 31)) (itemSize : BitVec a.bits) : ℕ :=
  length * itemSize.toNat % 2 ^ a.bits

/-- `pthread_queue_create`. -/
def pthreadQueueCreate (a : SizeT) (e : QueueSetup) (length : Fin (2 ^ 31))
    (itemSize : BitVec a.bits) : Option (PthreadQueue a (bufferBytes a length itemSize)) :=
  if e.allocated then
    match e.malloc (bufferBytes a length itemSize) with
    | none => none
    | some buffer =>
      if e.initialised then
        some
          { buffer := buffer
            size := length
            itemSize := (itemSize.setWidth 32).toInt
            items := 0
            inIndex := 0
            outIndex := 0 }
      else none
  else none

namespace PthreadQueue

variable {a : SizeT} {bytes n s : ℕ}

/-- `i * queue->item_size`, as an `int`. -/
def offset (q : PthreadQueue a bytes) (i : ℕ) : ℤ := (i * q.itemSize).bmod (2 ^ 32)

/-- `queue->item_size`, as a `size_t`. -/
def copied (q : PthreadQueue a bytes) : ℕ := (q.itemSize % 2 ^ a.bits).toNat

/-- `pthread_queue_enqueue` once there is room. -/
def store (q : PthreadQueue a bytes) (value : Block s) : Option (PthreadQueue a bytes) :=
  (memcpy q.buffer (q.offset q.inIndex) value 0 q.copied).map fun buffer =>
    { q with
      buffer := buffer
      items := q.items + 1
      inIndex := (q.inIndex + 1) % q.size }

/-- `pthread_queue_dequeue` once there is an item, with what is in `buf` then. -/
def fetch (q : PthreadQueue a bytes) (buf : Block s) : Option (Block s × PthreadQueue a bytes) :=
  (memcpy buf 0 q.buffer (q.offset q.outIndex) q.copied).map fun buf =>
    (buf, { q with
      items := q.items - 1
      outIndex := (q.outIndex + 1) % q.size })

/-! ### The threads -/

/-- The calls, with the objects they are given. -/
inductive Call (s : ℕ)
  | enqueue (value : Block s)
  | dequeue (buf : Block s)

/-- Where a thread is. -/
inductive Thread (s : ℕ)
  | idle
  /-- At `pthread_mutex_lock`. -/
  | locking (call : Call s)
  /-- In `pthread_cond_timedwait`. -/
  | waiting (call : Call s)

/-- The results other than `PTHREAD_QUEUE_OK`; their values are those of `CSP_QUEUE_ERROR`. -/
inductive Refusal
  | error
  | full
  | empty

/-- What a call comes to. -/
inductive Outcome (s : ℕ)
  | enqueued (thread : ℕ) (value : Block s)
  | dequeued (thread : ℕ) (buf : Block s)
  | refused (thread : ℕ) (why : Refusal)
  /-- The copy left an object, and nothing is defined from there on. -/
  | overrun (thread : ℕ)

/-- The queue, the threads that use it, and the calls that have come to an end, in the order of
their sections. -/
structure System (a : SizeT) (bytes s : ℕ) where
  queue : PthreadQueue a bytes
  threads : ℕ → Thread s
  log : List (Outcome s)

inductive Action (s : ℕ)
  /-- A call reads the clock. -/
  | call (thread : ℕ) (call : Call s)
  /-- A call cannot read the clock. -/
  | clockError (thread : ℕ)
  | lock (thread : ℕ)
  /-- A wait ends with 0. -/
  | signal (thread : ℕ)
  /-- A wait ends otherwise. -/
  | timeout (thread : ℕ)

namespace System

/-- No call was made yet. -/
def init (q : PthreadQueue a bytes) : System a bytes s := ⟨q, fun _ => .idle, []⟩

def setThread (σ : System a bytes s) (t : ℕ) (c : Thread s) : System a bytes s :=
  { σ with threads := Function.update σ.threads t c }

/-- A call comes to its end. -/
def finish (σ : System a bytes s) (t : ℕ) (o : Outcome s) : System a bytes s :=
  { σ.setThread t .idle with log := σ.log ++ [o] }

/-- From the condition of the loop to the wait or the unlock. -/
def enter (σ : System a bytes s) (t : ℕ) (c : Call s) : System a bytes s :=
  match c with
  | .enqueue value =>
    if σ.queue.items = σ.queue.size then σ.setThread t (.waiting c)
    else
      match σ.queue.store value with
      | none => σ.finish t (.overrun t)
      | some q => { σ.finish t (.enqueued t value) with queue := q }
  | .dequeue buf =>
    if σ.queue.items = 0 then σ.setThread t (.waiting c)
    else
      match σ.queue.fetch buf with
      | none => σ.finish t (.overrun t)
      | some (buf, q) => { σ.finish t (.dequeued t buf) with queue := q }

end System

/-- What a section of a call can be. -/
inductive Entered (σ : System a bytes s) (t : ℕ) : Call s → System a bytes s → Prop
  | full {value : Block s} (hfull : σ.queue.items = σ.queue.size) :
      Entered σ t (.enqueue value) (σ.setThread t (.waiting (.enqueue value)))
  | stored {value : Block s} {q : PthreadQueue a bytes} (hroom : σ.queue.items ≠ σ.queue.size)
      (hstore : σ.queue.store value = some q) :
      Entered σ t (.enqueue value) { σ.finish t (.enqueued t value) with queue := q }
  | notStored {value : Block s} (hroom : σ.queue.items ≠ σ.queue.size)
      (hstore : σ.queue.store value = none) :
      Entered σ t (.enqueue value) (σ.finish t (.overrun t))
  | empty {buf : Block s} (hempty : σ.queue.items = 0) :
      Entered σ t (.dequeue buf) (σ.setThread t (.waiting (.dequeue buf)))
  | fetched {buf item : Block s} {q : PthreadQueue a bytes} (hitem : σ.queue.items ≠ 0)
      (hfetch : σ.queue.fetch buf = some (item, q)) :
      Entered σ t (.dequeue buf) { σ.finish t (.dequeued t item) with queue := q }
  | notFetched {buf : Block s} (hitem : σ.queue.items ≠ 0) (hfetch : σ.queue.fetch buf = none) :
      Entered σ t (.dequeue buf) (σ.finish t (.overrun t))

/-- A call that enters is at its lock, or has failed. -/
theorem enter_entered (σ : System a bytes s) (t : ℕ) (c : Call s) :
    Entered σ t c (σ.enter t c) := by
  unfold System.enter
  cases c with
  | enqueue value =>
    simp only
    split
    · rename_i hfull
      exact .full hfull
    · rename_i hroom
      split
      · rename_i hstore
        exact .notStored hroom hstore
      · rename_i hstore
        exact .stored hroom hstore
  | dequeue buf =>
    simp only
    split
    · rename_i hempty
      exact .empty hempty
    · rename_i hitem
      split
      · rename_i hfetch
        exact .notFetched hitem hfetch
      · rename_i hfetch
        exact .fetched hitem hfetch

/-- The result of a call whose wait has not ended with 0. -/
def Call.timedOut : Call s → Refusal
  | .enqueue _ => .full
  | .dequeue _ => .empty

/-- One section of one thread; `none` when the thread is elsewhere. -/
def step (σ : System a bytes s) (i : Action s) : Option (System a bytes s) :=
  match i with
  | .call t c =>
    match σ.threads t with
    | .idle => some (σ.setThread t (.locking c))
    | _ => none
  | .clockError t =>
    match σ.threads t with
    | .idle => some (σ.finish t (.refused t .error))
    | _ => none
  | .lock t =>
    match σ.threads t with
    | .locking c => some (σ.enter t c)
    | _ => none
  | .signal t =>
    match σ.threads t with
    | .waiting c => some (σ.enter t c)
    | _ => none
  | .timeout t =>
    match σ.threads t with
    | .waiting c => some (σ.finish t (.refused t c.timedOut))
    | _ => none

/-! ### The property -/

/-- The items of the enqueues that succeeded, in order. -/
def enqueuedItems (log : List (Outcome s)) : List (Block s) :=
  log.filterMap fun
    | .enqueued _ value => some value
    | _ => none

/-- The items that dequeues returned, in order. -/
def dequeuedItems (log : List (Outcome s)) : List (Block s) :=
  log.filterMap fun
    | .dequeued _ buf => some buf
    | _ => none

/-- What has been dequeued is what was enqueued first, each item once and in order; `items` counts
the others and is not above the capacity; and a step that waits, or refuses its call, leaves
the queue as it is. -/
structure Fifo (capacity : ℕ) (σ : System a bytes s) : Prop where
  isDefined : ∀ t, .overrun t ∉ σ.log
  order : dequeuedItems σ.log <+: enqueuedItems σ.log
  items : σ.queue.items + (dequeuedItems σ.log).length = (enqueuedItems σ.log).length
  items_le : σ.queue.items ≤ capacity
  unchanged : ∀ i τ, step σ i = some τ →
    τ.log = σ.log ∨ (∃ t why, τ.log = σ.log ++ [.refused t why]) → τ.queue = σ.queue

/-- A queue of this length for items of this size is a bounded FIFO, for any number of threads and
in every order of their sections. -/
def BoundedFifo (a : SizeT) (length : Fin (2 ^ 31)) (itemSize : BitVec a.bits) : Prop :=
  ∀ (e : QueueSetup) (q : PthreadQueue a (bufferBytes a length itemSize)),
    pthreadQueueCreate a e length itemSize = some q →
      ∀ (is : List (Action itemSize.toNat)) (σ : System a _ itemSize.toNat),
        Run step (fun _ _ => True) (System.init q) is σ → Fifo length σ

/-! ### The slots of the buffer -/

/-- The bytes of slot `i`. -/
def itemAt (b : Block bytes) (s i : ℕ) : Block s := fun k =>
  if h : i * s + k < bytes then b ⟨i * s + k, h⟩ else 0

/-- The slots do not overlap. -/
theorem slot_lt_slot {i j s : ℕ} (hij : i < j) : i * s + s ≤ j * s := by
  rw [← Nat.succ_mul]
  exact Nat.mul_le_mul_right s hij

/-- Every byte of every slot lies inside the buffer. -/
theorem slot_lt {i k : ℕ} (hi : i < n) (hk : k < s) : i * s + k < n * s :=
  (Nat.add_lt_add_left hk _).trans_le (slot_lt_slot hi)

/-- **A copy to a slot** changes that slot. -/
theorem memcpy_slot {b : Block bytes} (hb : bytes = n * s) {i : ℕ} (hi : i < n) (value : Block s) :
    ∃ b', memcpy b (i * s : ℕ) value 0 s = some b' ∧
      ∀ j < n, itemAt b' s j = if j = i then value else itemAt b s j := by
  subst hb
  have hend := slot_lt_slot (s := s) hi
  unfold memcpy
  rw [dif_pos (by omega)]
  refine ⟨_, rfl, fun j hj => funext fun k => ?_⟩
  have hk := slot_lt hj k.isLt
  unfold itemAt
  rw [dif_pos hk]
  simp only [Int.toNat_natCast, Int.toNat_zero, Nat.zero_add]
  by_cases hji : j = i
  · subst hji
    rw [dif_pos (by omega), if_pos rfl]
    exact congrArg value (Fin.ext (by simp))
  · have hapart : j * s + s ≤ i * s ∨ i * s + s ≤ j * s :=
      (Nat.lt_or_gt_of_ne hji).imp slot_lt_slot slot_lt_slot
    rw [dif_neg (by omega), if_neg hji, dif_pos hk]

/-- **A copy from a slot** is its item. -/
theorem memcpy_itemAt {b : Block bytes} (hb : bytes = n * s) {i : ℕ} (hi : i < n) (buf : Block s) :
    memcpy buf 0 b (i * s : ℕ) s = some (itemAt b s i) := by
  subst hb
  have hend := slot_lt_slot (s := s) hi
  unfold memcpy
  rw [dif_pos (by omega)]
  refine congrArg some (funext fun k => ?_)
  have hk := slot_lt hi k.isLt
  unfold itemAt
  rw [dif_pos hk, dif_pos (by omega)]
  refine congrArg b (Fin.ext ?_)
  simp only [Int.toNat_natCast, Int.toNat_zero, Nat.sub_zero]

/-! ### The ring -/

/-- The slots are in the buffer, one behind the other, and an item fills a slot. -/
structure Addressed (q : PthreadQueue a bytes) (n s : ℕ) : Prop where
  bytes_eq : bytes = n * s
  offset : ∀ i < n, q.offset i = (i * s : ℕ)
  copied : 0 < n → q.copied = s

/-- The queue holds the ring. -/
structure Holds (q : PthreadQueue a bytes) (r : Ring (Block s) n) : Prop where
  addressed : q.Addressed n s
  size : q.size = n
  items : q.items = r.count
  inIndex : q.inIndex = r.back
  outIndex : q.outIndex = r.front
  slot : ∀ i < n, itemAt q.buffer s i = r.slot i

/-- **Storing an item enqueues it.** -/
theorem Holds.store {q : PthreadQueue a bytes} {r : Ring (Block s) n} (h : q.Holds r)
    (hroom : q.items ≠ q.size) (value : Block s) :
    ∃ q' : PthreadQueue a bytes, ∃ r' : Ring (Block s) n, q.store value = some q' ∧ q'.Holds r' ∧
      r.toQueue.enqueue value = some r'.toQueue := by
  have hlt : r.count < n := by
    rw [h.items, h.size] at hroom
    exact Nat.lt_of_le_of_ne r.count_le hroom
  have hpos : 0 < n := Nat.zero_lt_of_lt hlt
  have hback := r.back_lt hpos
  obtain ⟨buffer, hcopy, hslots⟩ := memcpy_slot (b := q.buffer) h.addressed.bytes_eq hback value
  unfold PthreadQueue.store
  rw [h.inIndex, h.addressed.offset _ hback, h.addressed.copied hpos, hcopy, h.items, h.size]
  refine ⟨_, r.put value hlt, rfl, ⟨⟨h.addressed.1, h.addressed.2, h.addressed.3⟩, rfl, rfl, rfl,
    h.outIndex, fun i hi => ?_⟩, r.enqueue_toQueue value hlt⟩
  refine (hslots i hi).trans ?_
  show _ = Function.update r.slot r.back value i
  rw [Function.update_apply, h.slot i hi]

/-- **Fetching an item dequeues it.** -/
theorem Holds.fetch {q : PthreadQueue a bytes} {r : Ring (Block s) n} (h : q.Holds r)
    (hitem : q.items ≠ 0) (buf : Block s) :
    ∃ (item : Block s) (q' : PthreadQueue a bytes) (r' : Ring (Block s) n),
      q.fetch buf = some (item, q') ∧ q'.Holds r' ∧
        r.toQueue.dequeue = some (item, r'.toQueue) := by
  have hcount : 0 < r.count := by
    rw [h.items] at hitem
    exact Nat.pos_of_ne_zero hitem
  have hpos : 0 < n := hcount.trans_le r.count_le
  have hfront := r.front_lt hpos
  have hcopy := memcpy_itemAt (b := q.buffer) h.addressed.bytes_eq hfront buf
  unfold PthreadQueue.fetch
  rw [h.outIndex, h.addressed.offset _ hfront, h.addressed.copied hpos, hcopy, h.items, h.size,
    h.slot _ hfront]
  exact ⟨_, _, r.drop hcount, rfl, ⟨⟨h.addressed.1, h.addressed.2, h.addressed.3⟩, rfl, rfl,
    h.inIndex, rfl, h.slot⟩, r.dequeue_toQueue hcount⟩

/-! ### Runs of an addressed queue -/

/-- What two stretches of a run put in. -/
@[simp] theorem enqueuedItems_append (l₁ l₂ : List (Outcome s)) :
    enqueuedItems (l₁ ++ l₂) = enqueuedItems l₁ ++ enqueuedItems l₂ := List.filterMap_append ..

/-- What two stretches of a run took out. -/
@[simp] theorem dequeuedItems_append (l₁ l₂ : List (Outcome s)) :
    dequeuedItems (l₁ ++ l₂) = dequeuedItems l₁ ++ dequeuedItems l₂ := List.filterMap_append ..

/-- The queue holds a ring of what was enqueued and not dequeued yet. -/
structure Consistent (σ : System a bytes s) (r : Ring (Block s) n) : Prop where
  holds : σ.queue.Holds r
  items : enqueuedItems σ.log = dequeuedItems σ.log ++ r.toQueue.items
  isDefined : ∀ t, .overrun t ∉ σ.log

/-- A thread that only goes on leaves the ring as it is. -/
theorem Consistent.setThread {σ : System a bytes s} {r : Ring (Block s) n} (h : Consistent σ r)
    (t : ℕ) (c : Thread s) : Consistent (σ.setThread t c) r := ⟨h.holds, h.items, h.isDefined⟩

/-- A call that comes to its end keeps the account, if its item does. -/
theorem Consistent.finish {σ : System a bytes s} {r r' : Ring (Block s) n} (h : Consistent σ r)
    (t : ℕ) {o : Outcome s} (ho : ∀ t, o ≠ .overrun t) {q : PthreadQueue a bytes} (hq : q.Holds r')
    (hitems : r.toQueue.items ++ enqueuedItems [o] = dequeuedItems [o] ++ r'.toQueue.items) :
    Consistent { σ.finish t o with queue := q } r' := by
  refine ⟨hq, ?_, fun t' hmem => ?_⟩
  · show enqueuedItems (σ.log ++ [o]) = dequeuedItems (σ.log ++ [o]) ++ r'.toQueue.items
    rw [enqueuedItems_append, dequeuedItems_append, h.items, List.append_assoc, hitems,
      List.append_assoc]
  · rcases List.mem_append.1 hmem with hmem | hmem
    · exact h.isDefined t' hmem
    · exact ho t' (List.mem_singleton.1 hmem).symm

/-- So does one that returns without success. -/
theorem Consistent.refuse {σ : System a bytes s} {r : Ring (Block s) n} (h : Consistent σ r)
    (t : ℕ) (why : Refusal) : Consistent (σ.finish t (.refused t why)) r :=
  h.finish t (o := .refused t why) (fun _ => nofun) h.holds (List.append_nil _)

/-- **A section of a call** waits, or does what the queue of the ring does. -/
theorem Consistent.enter {σ : System a bytes s} {r : Ring (Block s) n} (h : Consistent σ r) (t : ℕ)
    (c : Call s) : ∃ r' : Ring (Block s) n, Consistent (σ.enter t c) r' := by
  have hentered := enter_entered σ t c
  generalize σ.enter t c = τ at hentered ⊢
  cases hentered with
  | full _ => exact ⟨r, h.setThread t _⟩
  | @stored value q hroom hstore =>
    obtain ⟨q', r', hstore', hq', henqueue⟩ := h.holds.store hroom value
    obtain rfl := Option.some.inj (hstore.symm.trans hstore')
    refine ⟨r', h.finish t (o := .enqueued t value) (fun _ => nofun) hq' ?_⟩
    exact (Queue.enqueue_eq_some.1 henqueue).2.symm
  | @notStored value hroom hstore =>
    obtain ⟨q', -, hstore', -⟩ := h.holds.store hroom value
    exact absurd (hstore.symm.trans hstore') nofun
  | empty _ => exact ⟨r, h.setThread t _⟩
  | @fetched buf item q hitem hfetch =>
    obtain ⟨item', q', r', hfetch', hq', hdequeue⟩ := h.holds.fetch hitem buf
    obtain ⟨rfl, rfl⟩ := Prod.mk.inj (Option.some.inj (hfetch.symm.trans hfetch'))
    refine ⟨r', h.finish t (o := .dequeued t item) (fun _ => nofun) hq' ?_⟩
    exact (List.append_nil _).trans (Queue.dequeue_eq_some.1 hdequeue)
  | @notFetched buf hitem hfetch =>
    obtain ⟨item', q', -, hfetch', -⟩ := h.holds.fetch hitem buf
    exact absurd (hfetch.symm.trans hfetch') nofun

/-- What a step can be: the thread is where the action finds it. -/
inductive Stepped (σ : System a bytes s) : Action s → System a bytes s → Prop
  | call {t : ℕ} (c : Call s) (ht : σ.threads t = .idle) :
      Stepped σ (.call t c) (σ.setThread t (.locking c))
  | clockError {t : ℕ} (ht : σ.threads t = .idle) :
      Stepped σ (.clockError t) (σ.finish t (.refused t .error))
  | lock {t : ℕ} {c : Call s} (ht : σ.threads t = .locking c) : Stepped σ (.lock t) (σ.enter t c)
  | signal {t : ℕ} {c : Call s} (ht : σ.threads t = .waiting c) :
      Stepped σ (.signal t) (σ.enter t c)
  | timeout {t : ℕ} {c : Call s} (ht : σ.threads t = .waiting c) :
      Stepped σ (.timeout t) (σ.finish t (.refused t c.timedOut))

/-- Every step is one of those that `Stepped` names. -/
theorem step_stepped {σ τ : System a bytes s} {i : Action s} (h : step σ i = some τ) :
    Stepped σ i τ := by
  cases i <;> simp only [step] at h <;> split at h <;>
    first | exact absurd h.symm (Option.some_ne_none τ) | obtain rfl := Option.some.inj h
  · exact .call _ ‹_›
  · exact .clockError ‹_›
  · exact .lock ‹_›
  · exact .signal ‹_›
  · exact .timeout ‹_›

/-- **A step keeps the account.** -/
theorem Consistent.step {σ τ : System a bytes s} {i : Action s}
    (h : ∃ r : Ring (Block s) n, Consistent σ r) (hst : step σ i = some τ) :
    ∃ r : Ring (Block s) n, Consistent τ r := by
  obtain ⟨r, h⟩ := h
  cases step_stepped hst with
  | call c _ => exact ⟨r, h.setThread _ _⟩
  | clockError _ => exact ⟨r, h.refuse _ _⟩
  | lock _ => exact h.enter _ _
  | signal _ => exact h.enter _ _
  | timeout _ => exact ⟨r, h.refuse _ _⟩

/-- **What waits or refuses leaves the queue**, whatever the queue is. -/
theorem step_unchanged {σ τ : System a bytes s} {i : Action s} (hst : step σ i = some τ)
    (hlog : τ.log = σ.log ∨ ∃ t why, τ.log = σ.log ++ [.refused t why]) : τ.queue = σ.queue := by
  have henter : ∀ (t : ℕ) (c : Call s), (σ.enter t c).queue = σ.queue ∨
      ∃ o, (σ.enter t c).log = σ.log ++ [o] ∧ ∀ t why, o ≠ .refused t why := by
    intro t c
    have hentered := enter_entered σ t c
    generalize σ.enter t c = τ at hentered ⊢
    cases hentered with
    | stored _ _ => exact .inr ⟨_, rfl, nofun⟩
    | fetched _ _ => exact .inr ⟨_, rfl, nofun⟩
    | full _ | notStored _ _ | empty _ | notFetched _ _ => exact .inl rfl
  have hsection : ∀ (t : ℕ) (c : Call s), τ = σ.enter t c → τ.queue = σ.queue := by
    rintro t c rfl
    rcases henter t c with h | ⟨o, ho, hne⟩
    · exact h
    · rcases hlog with h | ⟨t', why, h⟩
      · exact absurd (List.self_eq_append_right.1 (h.symm.trans ho)) (List.cons_ne_nil o [])
      · exact absurd (List.singleton_inj.1 (List.append_cancel_left (ho.symm.trans h)))
          (hne t' why)
  cases step_stepped hst with
  | call c _ => rfl
  | clockError _ => rfl
  | lock _ => exact hsection _ _ rfl
  | signal _ => exact hsection _ _ rfl
  | timeout _ => rfl

/-- A queue in memory that agrees with a ring is a FIFO. -/
theorem Consistent.fifo {σ : System a bytes s} {r : Ring (Block s) n} (h : Consistent σ r) :
    Fifo n σ := by
  refine ⟨h.isDefined, ⟨_, h.items.symm⟩, ?_, h.holds.items ▸ r.count_le, fun _ _ => step_unchanged⟩
  rw [h.items, List.length_append, Nat.add_comm, h.holds.items]
  exact congrArg _ r.length_contents.symm

/-! ### Which queues are addressed -/

/-- The sizes for which the products are right: no item can be stored, or the offset of the last
slot is an `int`, or the only slot has offset 0 and the size of an item is the same `size_t`
again after its conversion to an `int`. -/
def SizesFit (a : SizeT) (length itemSize : ℕ) : Prop :=
  length = 0 ∨ (itemSize < 2 ^ 31 ∧ (length - 1) * itemSize < 2 ^ 31) ∨
    (length = 1 ∧ 2 ^ a.bits - 2 ^ 31 ≤ itemSize)

/-- A number below `2^32` as an `int`. -/
theorem bmod_of_lt {x : ℤ} (h : 0 ≤ x) (hx : x < 2 ^ 32) :
    x.bmod (2 ^ 32) = if x < 2 ^ 31 then x else x - 2 ^ 32 := by
  have hmod : x % 4294967296 = x := Int.emod_eq_of_lt h hx
  rw [Int.bmod_def]
  push_cast
  rw [hmod]

/-- The queue that `pthread_queue_create` returns. -/
structure Created (q : PthreadQueue a bytes) (length itemSize : ℕ) : Prop where
  bytes_eq : bytes = length * itemSize % 2 ^ a.bits
  size : q.size = length
  itemSize : q.itemSize = (itemSize : ℤ).bmod (2 ^ 32)
  items : q.items = 0
  inIndex : q.inIndex = 0
  outIndex : q.outIndex = 0

/-- What `pthread_queue_create` leaves behind. -/
theorem pthreadQueueCreate_created {e : QueueSetup} {length : Fin (2 ^ 31)}
    {itemSize : BitVec a.bits} {q : PthreadQueue a (bufferBytes a length itemSize)}
    (h : pthreadQueueCreate a e length itemSize = some q) : q.Created length itemSize.toNat := by
  unfold pthreadQueueCreate at h
  split at h
  · split at h
    · exact absurd h.symm (Option.some_ne_none q)
    · split at h
      · obtain rfl := Option.some.inj h
        exact ⟨rfl, rfl, BitVec.toInt_setWidth _, rfl, rfl, rfl⟩
      · exact absurd h.symm (Option.some_ne_none q)
  · exact absurd h.symm (Option.some_ne_none q)

/-- The product of an index and the size of an item, as an `int`. -/
theorem Created.offset_eq {q : PthreadQueue a bytes} {length itemSize : ℕ}
    (h : q.Created length itemSize) (i : ℕ) :
    q.offset i = ((i * itemSize : ℕ) : ℤ).bmod (2 ^ 32) := by
  rw [offset, h.itemSize, Int.mul_bmod_bmod, Nat.cast_mul]

/-- `size_t` has at least 32 bits. -/
theorem two_pow_bits (a : SizeT) : 2 ^ 32 ≤ 2 ^ a.bits := Nat.pow_le_pow_right (by decide) a.bits_ge

/-- **With sizes that fit, every slot is found.** -/
theorem Created.addressed {q : PthreadQueue a bytes} {length itemSize : ℕ}
    (h : q.Created length itemSize) (hs : itemSize < 2 ^ a.bits)
    (hfit : SizesFit a length itemSize) : q.Addressed length itemSize := by
  have hbits := two_pow_bits a
  rcases hfit with rfl | ⟨hsize, hlast⟩ | ⟨rfl, hsize⟩
  · refine ⟨?_, fun i hi => absurd hi (Nat.not_lt_zero i), fun hpos => absurd hpos (by decide)⟩
    rw [h.bytes_eq, Nat.zero_mul, Nat.zero_mod]
  · refine ⟨?_, fun i hi => ?_, fun _ => ?_⟩
    · have hbytes : length * itemSize ≤ (length - 1) * itemSize + itemSize := by
        rw [← Nat.succ_mul]
        exact Nat.mul_le_mul_right _ (by omega)
      rw [h.bytes_eq, Nat.mod_eq_of_lt (by omega)]
    · have hle : i * itemSize ≤ (length - 1) * itemSize := Nat.mul_le_mul_right _ (by omega)
      rw [h.offset_eq, bmod_of_lt (by omega) (by omega), if_pos (by omega)]
    · rw [copied, h.itemSize, bmod_of_lt (by omega) (by omega), if_pos (by omega),
        Int.emod_eq_of_lt (by omega) (by exact_mod_cast hs), Int.toNat_natCast]
  · refine ⟨?_, fun i hi => ?_, fun _ => ?_⟩
    · rw [h.bytes_eq, Nat.mod_eq_of_lt (by omega)]
    · obtain rfl : i = 0 := by omega
      rw [h.offset_eq, Nat.zero_mul]
      rfl
    · -- the size and the int differ by a multiple of `2^32`
      obtain ⟨c, hc⟩ := Nat.pow_dvd_pow 2 a.bits_ge
      have hint : (itemSize : ℤ).bmod (2 ^ 32) = itemSize - 2 ^ a.bits := by
        have hsplit : (itemSize : ℤ) = (itemSize - 2 ^ a.bits : ℤ) + (2 ^ 32 : ℕ) * c := by
          have : ((2 ^ a.bits : ℕ) : ℤ) = (2 ^ 32 : ℕ) * c := by exact_mod_cast hc
          push_cast at this ⊢
          omega
        rw [hsplit, Int.add_mul_bmod_self_left, ← hsplit]
        have hlow : (2 : ℤ) ^ a.bits - 2 ^ 31 ≤ itemSize := by
          have : ((2 ^ a.bits - 2 ^ 31 : ℕ) : ℤ) ≤ itemSize := by exact_mod_cast hsize
          rw [Nat.cast_sub (by omega)] at this
          exact_mod_cast this
        have hhigh : (itemSize : ℤ) < 2 ^ a.bits := by exact_mod_cast hs
        exact Int.bmod_eq_of_le (by push_cast; omega) (by push_cast; omega)
      rw [copied, h.itemSize, hint, Int.sub_emod_right, Int.emod_eq_of_lt (by omega)
        (by exact_mod_cast hs), Int.toNat_natCast]

/-- A new queue agrees with an empty ring. -/
theorem Created.consistent {q : PthreadQueue a bytes} {length itemSize : ℕ}
    (h : q.Created length itemSize) (haddr : q.Addressed length itemSize) :
    Consistent (System.init q)
      (Ring.empty (itemAt q.buffer itemSize) : Ring (Block itemSize) length) :=
  ⟨⟨haddr, h.size, h.items, h.inIndex, h.outIndex, fun _ _ => rfl⟩, rfl, fun _ => List.not_mem_nil⟩

/-- **With sizes that fit the queue is a bounded FIFO.** -/
theorem SizesFit.boundedFifo {length : Fin (2 ^ 31)} {itemSize : BitVec a.bits}
    (h : SizesFit a length itemSize.toNat) : BoundedFifo a length itemSize := by
  intro e q hq is σ hrun
  have hcreated := pthreadQueueCreate_created hq
  have hstart := hcreated.consistent (hcreated.addressed itemSize.isLt h)
  obtain ⟨r, hr⟩ := hrun.invariant (P := fun σ => ∃ r : Ring _ length, Consistent σ r)
    (fun _ _ _ ht _ hst => Consistent.step ht hst) ⟨_, hstart⟩
  exact hr.fifo

/-! ### One thread explores the slots -/

/-- A copy that stays inside both objects, and leaves the bytes behind it. -/
theorem memcpy_eq_some {n m : ℕ} {dst d : Block n} {dstOff srcOff : ℤ} {src : Block m} {len : ℕ}
    (h : memcpy dst dstOff src srcOff len = some d) :
    (0 ≤ dstOff ∧ dstOff + len ≤ n) ∧ (0 ≤ srcOff ∧ srcOff + len ≤ m) ∧
      ∀ k : Fin n, dstOff.toNat + len ≤ k → d k = dst k := by
  unfold memcpy at h
  split at h
  · rename_i hin
    obtain rfl := Option.some.inj h
    exact ⟨⟨hin.1, hin.2.1⟩, hin.2.2, fun k hk => dif_neg (by omega)⟩
  · exact absurd h.symm (Option.some_ne_none d)

/-- A thread that is idle calls and takes the mutex. -/
theorem run_section {σ : System a bytes s} {t : ℕ} (ht : σ.threads t = .idle) (c : Call s) :
    Run step (fun _ _ => True) σ [.call t c, .lock t]
      ((σ.setThread t (.locking c)).enter t c) := by
  have hcall : step σ (.call t c) = some (σ.setThread t (.locking c)) := by
    simp only [step, ht]
  have hthread : (σ.setThread t (.locking c)).threads t = .locking c := Function.update_self ..
  have hlock : step (σ.setThread t (.locking c)) (.lock t) =
      some ((σ.setThread t (.locking c)).enter t c) := by
    simp only [step, hthread]
  exact .cons trivial hcall (.cons trivial hlock .nil)

section Explore

variable {length : Fin (2 ^ 31)} {itemSize : BitVec a.bits} {e : QueueSetup}
  {q : PthreadQueue a (bufferBytes a length itemSize)} {is : List (Action itemSize.toNat)}
  {σ : System a (bufferBytes a length itemSize) itemSize.toNat}

/-- **In a bounded FIFO an enqueue with room stores its item.** -/
theorem BoundedFifo.store (h : BoundedFifo a length itemSize)
    (hq : pthreadQueueCreate a e length itemSize = some q)
    (hrun : Run step (fun _ _ => True) (System.init q) is σ) {t : ℕ} (ht : σ.threads t = .idle)
    (hroom : σ.queue.items ≠ σ.queue.size) (value : Block itemSize.toNat) :
    ∃ q', σ.queue.store value = some q' ∧ ∃ js τ,
      Run step (fun _ _ => True) (System.init q) js τ ∧ τ.queue = q' ∧ τ.threads t = .idle ∧
        τ.log = σ.log ++ [.enqueued t value] := by
  have hrun' := hrun.trans (run_section ht (.enqueue value))
  have hfifo := h e q hq _ _ hrun'
  have hentered := enter_entered (σ.setThread t (.locking (.enqueue value))) t (.enqueue value)
  generalize (σ.setThread t _).enter t _ = τ at hrun' hfifo hentered
  cases hentered with
  | full hfull => exact absurd hfull hroom
  | @stored _ q' _ hstore => exact ⟨q', hstore, _, _, hrun', rfl, Function.update_self .., rfl⟩
  | notStored _ _ =>
    exact absurd (List.mem_append_right _ (List.mem_singleton_self _)) (hfifo.isDefined t)

/-- **A thread fills the queue**, slot after slot. -/
theorem BoundedFifo.fill (h : BoundedFifo a length itemSize)
    (hq : pthreadQueueCreate a e length itemSize = some q) {k : ℕ}
    (hk : k ≤ length) : ∃ (is : List (Action itemSize.toNat)) (σ : System a _ itemSize.toNat),
      Run step (fun _ _ => True) (System.init q) is σ ∧ σ.threads 0 = .idle ∧
        σ.queue.items = k ∧ σ.queue.size = length ∧ (k < length → σ.queue.inIndex = k) ∧
          σ.queue.itemSize = q.itemSize := by
  have hcreated := pthreadQueueCreate_created hq
  induction k with
  | zero =>
    exact ⟨[], System.init q, .nil, rfl, hcreated.items, hcreated.size, fun _ => hcreated.inIndex,
      rfl⟩
  | succ k ih =>
    obtain ⟨is, σ, hrun, hidle, hitems, hsize, hin, hint⟩ := ih (Nat.le_of_succ_le hk)
    have hroom : σ.queue.items ≠ σ.queue.size := by
      rw [hitems, hsize]
      exact Nat.ne_of_lt hk
    obtain ⟨q', hstore, js, τ, hrun', hτ, hidle', -⟩ := h.store hq hrun hidle hroom fun _ => 0
    obtain ⟨buffer, -, rfl⟩ := Option.map_eq_some_iff.1 hstore
    refine ⟨js, τ, hrun', hidle', ?_⟩
    rw [hτ]
    refine ⟨congrArg (· + 1) hitems, hsize, fun hlt => ?_, hint⟩
    show (σ.queue.inIndex + 1) % σ.queue.size = k + 1
    rw [hin hk, hsize, Nat.mod_eq_of_lt hlt]

/-- Every slot is in the buffer, and no copy reads behind its item. -/
theorem BoundedFifo.inside (h : BoundedFifo a length itemSize)
    (hq : pthreadQueueCreate a e length itemSize = some q) {i : ℕ} (hi : i < length) :
    0 ≤ q.offset i ∧ q.copied ≤ itemSize.toNat := by
  obtain ⟨is, σ, hrun, hidle, hitems, hsize, hin, hint⟩ := h.fill hq (Nat.le_of_lt hi)
  have hroom : σ.queue.items ≠ σ.queue.size := by
    rw [hitems, hsize]
    exact Nat.ne_of_lt hi
  obtain ⟨q', hstore, -⟩ := h.store hq hrun hidle hroom fun _ => 0
  obtain ⟨buffer, hcopy, -⟩ := Option.map_eq_some_iff.1 hstore
  obtain ⟨hdst, hsrc, -⟩ := memcpy_eq_some hcopy
  have hoffset : σ.queue.offset σ.queue.inIndex = q.offset i := by rw [offset, offset, hin hi, hint]
  have hcopied : σ.queue.copied = q.copied := by rw [copied, copied, hint]
  rw [hoffset] at hdst
  rw [hcopied] at hsrc
  exact ⟨hdst.1, by omega⟩

/-- **A whole item is copied:** a shorter copy leaves what was in the caller's object. -/
theorem BoundedFifo.whole (h : BoundedFifo a length itemSize)
    (hq : pthreadQueueCreate a e length itemSize = some q) (hpos : 0 < length.val) :
    itemSize.toNat ≤ q.copied := by
  by_contra hlt
  rw [Nat.not_le] at hlt
  have hcreated := pthreadQueueCreate_created hq
  have hroom : q.items ≠ q.size := by
    rw [hcreated.items, hcreated.size]
    exact Nat.ne_of_lt hpos
  obtain ⟨q', hstore, js, τ, hrun, hτ, hidle, hlog⟩ :=
    h.store hq (.nil : Run _ _ (System.init q) [] _) (t := 0) rfl hroom fun _ => 1
  obtain ⟨buffer, -, hq'⟩ := Option.map_eq_some_iff.1 hstore
  have hitem : τ.queue.items ≠ 0 := by
    rw [hτ, ← hq']
    exact Nat.succ_ne_zero _
  have hcopied : τ.queue.copied = q.copied := by rw [hτ, ← hq']; rfl
  have hfifo := h e q hq _ _ (hrun.trans (run_section hidle (.dequeue fun _ => 0)))
  have hentered := enter_entered (τ.setThread 0 (.locking (.dequeue fun _ => 0))) 0
    (.dequeue fun _ => 0)
  generalize (τ.setThread 0 _).enter 0 _ = τ' at hfifo hentered
  cases hentered with
  | empty hempty => exact hitem hempty
  | notFetched _ _ => exact hfifo.isDefined 0 (List.mem_append_right _ (List.mem_singleton_self _))
  | @fetched _ item _ _ hfetch =>
    obtain ⟨buf, hcopy, hbuf⟩ := Option.map_eq_some_iff.1 hfetch
    obtain ⟨rfl, -⟩ := Prod.mk.inj hbuf
    -- the last byte is the caller's, and not the item's
    have hkept := (memcpy_eq_some hcopy).2.2 ⟨q.copied, hlt⟩
      (by rw [Int.toNat_zero, Nat.zero_add]; exact Nat.le_of_eq hcopied)
    have horder := hfifo.order
    change dequeuedItems (τ.log ++ [_]) <+: enqueuedItems (τ.log ++ [_]) at horder
    rw [hlog] at horder
    have hsame : buf = fun _ => 1 := (List.cons_prefix_cons.1 horder).1
    rw [hsame] at hkept
    change (1 : U8) = 0 at hkept
    exact absurd hkept (by decide)

end Explore

/-- With memory and mutexes granted the queue is created. -/
theorem exists_created (length : Fin (2 ^ 31)) (itemSize : BitVec a.bits) :
    ∃ q, pthreadQueueCreate a .granted length itemSize = some q := ⟨_, rfl⟩

/-- The last slot begins below `2^31`, if all slots have an offset that is not negative. -/
theorem last_lt {length itemSize : ℕ} (hsize : itemSize < 2 ^ 31)
    (h : ∀ i < length, 0 ≤ ((i * itemSize : ℕ) : ℤ).bmod (2 ^ 32)) :
    (length - 1) * itemSize < 2 ^ 31 := by
  by_contra hlarge
  rw [Nat.not_lt] at hlarge
  have hpos : 0 < itemSize := Nat.pos_of_ne_zero fun h0 => by
    rw [h0, Nat.mul_zero] at hlarge
    exact absurd hlarge (by decide)
  -- the first slot that does not begin below `2^31`
  obtain ⟨i, hi⟩ : ∃ i, i = (2 ^ 31 + itemSize - 1) / itemSize := ⟨_, rfl⟩
  have hceil : i * itemSize + itemSize - 1 < 2 ^ 31 + itemSize - 1 + itemSize ∧
      2 ^ 31 ≤ i * itemSize := by
    have hle := Nat.div_mul_le_self (2 ^ 31 + itemSize - 1) itemSize
    have hlt := Nat.lt_div_mul_add (a := 2 ^ 31 + itemSize - 1) hpos
    rw [← hi] at hle hlt
    omega
  have hlast : i ≤ length - 1 := by
    rw [hi]
    refine Nat.lt_succ_iff.1 ((Nat.div_lt_iff_lt_mul hpos).2 ?_)
    rw [Nat.succ_mul]
    omega
  have hslot := h i (by
    have : length - 1 ≠ 0 := fun h0 => by
      rw [h0, Nat.zero_mul] at hlarge
      exact absurd hlarge (by decide)
    omega)
  rw [bmod_of_lt (by omega) (by omega), if_neg (by omega)] at hslot
  omega

/-- **Only with sizes that fit.** -/
theorem BoundedFifo.sizesFit {length : Fin (2 ^ 31)} {itemSize : BitVec a.bits}
    (h : BoundedFifo a length itemSize) : SizesFit a length itemSize.toNat := by
  rcases Nat.eq_zero_or_pos length.val with hzero | hpos
  · exact .inl hzero
  refine .inr ?_
  obtain ⟨q, hq⟩ := exists_created length itemSize
  have hcreated := pthreadQueueCreate_created hq
  have hinside := fun i (hi : i < length.val) => h.inside hq hi
  have hwhole := h.whole hq hpos
  have hsame : q.copied = itemSize.toNat := le_antisymm (hinside 0 hpos).2 hwhole
  have hbits := two_pow_bits a
  have hbits' : (2 : ℤ) ^ 32 ≤ 2 ^ a.bits := by exact_mod_cast hbits
  have hlow : -2 ^ 31 ≤ q.itemSize := by
    rw [hcreated.itemSize]
    exact Int.le_bmod (by decide)
  have hhigh : q.itemSize < 2 ^ 31 := by
    rw [hcreated.itemSize]
    exact Int.bmod_lt (by decide)
  rcases lt_or_ge q.itemSize 0 with hneg | hnonneg
  · refine .inr ⟨?_, ?_⟩
    · by_contra hne
      have hone := (hinside 1 (by omega)).1
      rw [hcreated.offset_eq, Nat.one_mul, ← hcreated.itemSize] at hone
      omega
    · rw [copied, ← Int.add_emod_right, Int.emod_eq_of_lt (by omega) (by omega)] at hsame
      have hcast : ((2 ^ a.bits - 2 ^ 31 : ℕ) : ℤ) = 2 ^ a.bits - 2 ^ 31 := by
        rw [Nat.cast_sub (by omega)]
        push_cast
        rfl
      omega
  · have hsize : itemSize.toNat < 2 ^ 31 := by
      rw [copied, Int.emod_eq_of_lt hnonneg (by omega)] at hsame
      omega
    refine .inl ⟨hsize, last_lt hsize fun i hi => ?_⟩
    rw [← hcreated.offset_eq]
    exact (hinside i hi).1

/-- **The POSIX queue is a bounded FIFO exactly if its sizes fit**: for any number of threads, in
every order of their sections, with waits that end by a signal or a timeout. -/
theorem boundedFifo_iff (a : SizeT) (length : Fin (2 ^ 31)) (itemSize : BitVec a.bits) :
    BoundedFifo a length itemSize ↔ SizesFit a length itemSize.toNat :=
  ⟨BoundedFifo.sizesFit, SizesFit.boundedFifo⟩

/-- **65536 items of 65536 bytes**, with a `size_t` of 64 bits: the offset of slot 32768 is `2^31`
bytes, which is negative as an `int`. -/
theorem not_boundedFifo_large : ¬ ∀ (a : SizeT) (length : Fin (2 ^ 31)) (itemSize : BitVec a.bits),
    BoundedFifo a length itemSize := by
  intro h
  rcases (h ⟨64, by decide⟩ 65536 65536).sizesFit with h | ⟨-, h⟩ | ⟨h, -⟩
  · exact absurd h (by decide)
  · exact absurd h (by decide)
  · exact absurd h (by decide)

end PthreadQueue
end LibCSP
