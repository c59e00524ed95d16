/-
# The mailboxes of the SocketCAN driver

`src/interfaces/can/can_socketcan.c` gives each of `MBOX_NUM` mailboxes a thread.  `can_send`
claims a free mailbox under `mbox_sem`, fills in the frame and posts `signal_sem` of the mailbox;
the thread waits for that, writes the frame to the socket, a few times if there is no buffer
for it, calls `txcb` and frees the mailbox under `mbox_sem`.  Any number of tasks call `can_send`,
and so does `txcb`, for the next frame of a packet.

The section under `mbox_sem` is one step here, and so is every other access to a mailbox, every
operation on a semaphore, every `write`, and the call of `txcb`.  What a step can do is said once
(`mboxStep_turn`).  The calls of `can_send` are numbered, and `owner` has the number of the call
that claimed a mailbox; the code has neither.
-/

import Mathlib.Logic.Equiv.Fin.Basic
import LibCSP.Basis.Run
import LibCSP.Can.Frame

namespace LibCSP

open Basis

/-- `MBOX_NUM`. -/
def mboxNum : ℕ := 5

instance : NeZero mboxNum := ⟨by decide⟩

/-- `CAN_EFF_FLAG`. -/
def canEffFlag : U32 := 0x80000000

/-! ### State -/

/-- `mbox_state_t`. -/
inductive MboxState
  | mboxFree
  | mboxUsed
  deriving DecidableEq

/-- Where `mbox_tx_thread` is. -/
inductive MboxThread
  /-- `sem_wait(&(m->signal_sem))`. -/
  | waiting
  /-- `write`, after so many tries. -/
  | writing (tries : ℕ)
  /-- It calls `txcb` next, with `CAN_NO_ERROR` or with `CAN_ERROR`. -/
  | callback (ok : Bool)
  /-- In `txcb`; it frees the mailbox next. -/
  | freeing
  deriving DecidableEq

/-- `mbox_t`. -/
structure Mbox where
  state : MboxState
  signalSem : ℕ
  canId : U32
  data : ℕ → U8
  canDlc : ℕ
  thread : MboxThread

/-- Where a call of `can_send` is. -/
inductive SendStage
  /-- The search under `mbox_sem`. -/
  | search
  | copyId (i : Fin mboxNum)
  /-- The loop that copies the data, at this byte. -/
  | copyData (i : Fin mboxNum) (k : ℕ)
  /-- `sem_post(&(m->signal_sem))`. -/
  | signal (i : Fin mboxNum)
  | returned (ret : ℤ)
  deriving DecidableEq

/-- A call of `can_send`; `dlc` is the number of bytes. -/
structure CanSend where
  id : U32
  data : List U8
  stage : SendStage

inductive MboxEvent
  /-- The frame of this call was written to the socket, with the bytes in use. -/
  | wrote (call : Option ℕ) (canid : U32) (bytes : List U8)
  /-- `txcb`; `ok` is `CAN_NO_ERROR`. -/
  | txcb (call : Option ℕ) (canid : U32) (ok : Bool)
  deriving DecidableEq

structure Mailboxes where
  mbox : Fin mboxNum → Mbox
  calls : ℕ → Option CanSend
  next : ℕ
  owner : Fin mboxNum → Option ℕ
  log : List MboxEvent

/-- A mailbox after `can_mbox_init`, with what lay in its frame. -/
def Mbox.idle (data : ℕ → U8) : Mbox := ⟨.mboxFree, 0, 0, data, 0, .waiting⟩

/-- `can_mbox_init`. -/
def canMboxInit (data : ℕ → U8) : Mailboxes :=
  ⟨fun _ => .idle data, fun _ => none, 0, fun _ => none, []⟩

/-- What `write` returns: the size of the frame, an error with `ENOBUFS`, or another one. -/
inductive WriteResult
  | written
  | nobufs
  | failed

inductive MboxInput
  /-- `can_send` is called. -/
  | call (id : U32) (data : List U8)
  /-- This call of `can_send` goes on. -/
  | send (n : ℕ)
  /-- The thread of this mailbox goes on; if it writes, with this result. -/
  | thread (i : Fin mboxNum) (r : WriteResult)

namespace Mailboxes

def setMbox (s : Mailboxes) (i : Fin mboxNum) (m : Mbox) : Mailboxes :=
  { s with mbox := Function.update s.mbox i m }

def setCall (s : Mailboxes) (n : ℕ) (c : CanSend) : Mailboxes :=
  { s with calls := Function.update s.calls n (some c) }

def setOwner (s : Mailboxes) (i : Fin mboxNum) (n : Option ℕ) : Mailboxes :=
  { s with owner := Function.update s.owner i n }

def emit (s : Mailboxes) (ev : MboxEvent) : Mailboxes := { s with log := s.log ++ [ev] }

variable (s : Mailboxes) {n k : ℕ} {i j : Fin mboxNum}

/-- The mailbox that changes. -/
@[simp] theorem setMbox_self (m : Mbox) : (s.setMbox i m).mbox i = m := Function.update_self ..

/-- The other mailboxes stay. -/
theorem setMbox_ne (h : j ≠ i) (m : Mbox) : (s.setMbox i m).mbox j = s.mbox j :=
  Function.update_of_ne h ..

/-- The call that goes on. -/
@[simp] theorem setCall_self (c : CanSend) : (s.setCall n c).calls n = some c :=
  Function.update_self ..

/-- The other calls stay. -/
theorem setCall_ne (h : k ≠ n) (c : CanSend) : (s.setCall n c).calls k = s.calls k :=
  Function.update_of_ne h ..

/-- The mailbox that gets another owner. -/
@[simp] theorem setOwner_self (n : Option ℕ) : (s.setOwner i n).owner i = n :=
  Function.update_self ..

/-- The other mailboxes keep theirs. -/
theorem setOwner_ne (h : j ≠ i) (n : Option ℕ) : (s.setOwner i n).owner j = s.owner j :=
  Function.update_of_ne h ..

end Mailboxes

/-! ### Steps -/

/-- The byte at `k` of the frame is set. -/
def Mbox.setData (m : Mbox) (k : ℕ) (b : U8) : Mbox :=
  { m with data := Function.update m.data k b }

/-- The bytes in use of the frame. -/
def Mbox.bytes (m : Mbox) : List U8 := (List.range m.canDlc).map m.data

/-- `can_send`. -/
def canSendStep (s : Mailboxes) (n : ℕ) (c : CanSend) : Option Mailboxes :=
  match c.stage with
  | .search =>
    match (List.finRange mboxNum).find? fun i => (s.mbox i).state = .mboxFree with
    | none => some (s.setCall n { c with stage := .returned (-1) })
    | some i =>
      some (((s.setMbox i { s.mbox i with state := .mboxUsed }).setOwner i (some n)).setCall n
        { c with stage := .copyId i })
  | .copyId i =>
    some ((s.setMbox i { s.mbox i with canId := c.id ||| canEffFlag }).setCall n
      { c with stage := .copyData i 0 })
  | .copyData i k =>
    if h : k < c.data.length then
      some ((s.setMbox i ((s.mbox i).setData k (c.data.get ⟨k, h⟩))).setCall n
        { c with stage := .copyData i (k + 1) })
    else
      some ((s.setMbox i { s.mbox i with canDlc := c.data.length }).setCall n
        { c with stage := .signal i })
  | .signal i =>
    some ((s.setMbox i { s.mbox i with signalSem := (s.mbox i).signalSem + 1 }).setCall n
      { c with stage := .returned 0 })
  | .returned _ => none

/-- `mbox_tx_thread`. -/
def mboxTxThread (s : Mailboxes) (i : Fin mboxNum) (r : WriteResult) : Option Mailboxes :=
  let m := s.mbox i
  match m.thread with
  | .waiting =>
    if 0 < m.signalSem then
      some (s.setMbox i { m with signalSem := m.signalSem - 1, thread := .writing 0 })
    else none
  | .writing tries =>
    match r with
    | .written =>
      some ((s.setMbox i { m with thread := .callback true }).emit
        (.wrote (s.owner i) m.canId m.bytes))
    | .nobufs =>
      if tries + 1 < 10 then some (s.setMbox i { m with thread := .writing (tries + 1) })
      else some (s.setMbox i { m with thread := .callback false })
    | .failed => some (s.setMbox i { m with thread := .callback false })
  | .callback ok =>
    some ((s.setMbox i { m with thread := .freeing }).emit (.txcb (s.owner i) m.canId ok))
  | .freeing =>
    some ((s.setMbox i { m with state := .mboxFree, thread := .waiting }).setOwner i none)

/-- One step. -/
def mboxStep (s : Mailboxes) : MboxInput → Option Mailboxes
  | .call id data =>
    some { s.setCall s.next ⟨id, data, if 8 < data.length then .returned (-1) else .search⟩ with
      next := s.next + 1 }
  | .send n => (s.calls n).bind (canSendStep s n)
  | .thread i r => mboxTxThread s i r

/-- What a step of `can_send` or of a thread does. -/
inductive MboxTurn (s : Mailboxes) : Mailboxes → Prop
  | call (id : U32) (data : List U8) : MboxTurn s
      { s.setCall s.next ⟨id, data, if 8 < data.length then .returned (-1) else .search⟩ with
        next := s.next + 1 }
  | refused {n : ℕ} {c : CanSend} (hn : s.calls n = some c) (hst : c.stage = .search)
      (hused : ∀ i, (s.mbox i).state = .mboxUsed) :
      MboxTurn s (s.setCall n { c with stage := .returned (-1) })
  | claim {n : ℕ} {c : CanSend} {i : Fin mboxNum} (hn : s.calls n = some c)
      (hst : c.stage = .search) (hfree : (s.mbox i).state = .mboxFree) :
      MboxTurn s (((s.setMbox i { s.mbox i with state := .mboxUsed }).setOwner i (some n)).setCall n
        { c with stage := .copyId i })
  | copyId {n : ℕ} {c : CanSend} {i : Fin mboxNum} (hn : s.calls n = some c)
      (hst : c.stage = .copyId i) :
      MboxTurn s ((s.setMbox i { s.mbox i with canId := c.id ||| canEffFlag }).setCall n
        { c with stage := .copyData i 0 })
  | copyByte {n k : ℕ} {c : CanSend} {i : Fin mboxNum} (hn : s.calls n = some c)
      (hst : c.stage = .copyData i k) (hk : k < c.data.length) :
      MboxTurn s ((s.setMbox i ((s.mbox i).setData k (c.data.get ⟨k, hk⟩))).setCall n
        { c with stage := .copyData i (k + 1) })
  | copied {n k : ℕ} {c : CanSend} {i : Fin mboxNum} (hn : s.calls n = some c)
      (hst : c.stage = .copyData i k) (hk : c.data.length ≤ k) :
      MboxTurn s ((s.setMbox i { s.mbox i with canDlc := c.data.length }).setCall n
        { c with stage := .signal i })
  | signal {n : ℕ} {c : CanSend} {i : Fin mboxNum} (hn : s.calls n = some c)
      (hst : c.stage = .signal i) :
      MboxTurn s ((s.setMbox i { s.mbox i with signalSem := (s.mbox i).signalSem + 1 }).setCall n
        { c with stage := .returned 0 })
  | wake {i : Fin mboxNum} (ht : (s.mbox i).thread = .waiting) (hsem : 0 < (s.mbox i).signalSem) :
      MboxTurn s (s.setMbox i
        { s.mbox i with signalSem := (s.mbox i).signalSem - 1, thread := .writing 0 })
  | wrote {i : Fin mboxNum} {tries : ℕ} (ht : (s.mbox i).thread = .writing tries) :
      MboxTurn s ((s.setMbox i { s.mbox i with thread := .callback true }).emit
        (.wrote (s.owner i) (s.mbox i).canId (s.mbox i).bytes))
  | retry {i : Fin mboxNum} {tries : ℕ} (ht : (s.mbox i).thread = .writing tries)
      (hlt : tries + 1 < 10) :
      MboxTurn s (s.setMbox i { s.mbox i with thread := .writing (tries + 1) })
  | failed {i : Fin mboxNum} {tries : ℕ} (ht : (s.mbox i).thread = .writing tries) :
      MboxTurn s (s.setMbox i { s.mbox i with thread := .callback false })
  | txcb {i : Fin mboxNum} {ok : Bool} (ht : (s.mbox i).thread = .callback ok) :
      MboxTurn s ((s.setMbox i { s.mbox i with thread := .freeing }).emit
        (.txcb (s.owner i) (s.mbox i).canId ok))
  | free {i : Fin mboxNum} (ht : (s.mbox i).thread = .freeing) :
      MboxTurn s ((s.setMbox i { s.mbox i with
        state := .mboxFree, thread := .waiting }).setOwner i none)

/-- A step of `can_send` is one of the turns. -/
theorem canSendStep_turn {s s' : Mailboxes} {n : ℕ} {c : CanSend} (hn : s.calls n = some c)
    (h : canSendStep s n c = some s') : MboxTurn s s' := by
  unfold canSendStep at h
  split at h
  · rename_i hst
    split at h
    · rename_i hnone
      obtain rfl := Option.some.inj h
      refine .refused hn hst fun i => ?_
      have hi := List.find?_eq_none.1 hnone i (List.mem_finRange i)
      rw [decide_eq_true_eq] at hi
      cases hm : (s.mbox i).state with
      | mboxFree => exact absurd hm hi
      | mboxUsed => rfl
    · rename_i i hsome
      obtain rfl := Option.some.inj h
      have hfree := List.find?_some hsome
      rw [decide_eq_true_eq] at hfree
      exact .claim hn hst hfree
  · obtain rfl := Option.some.inj h
    exact .copyId hn ‹_›
  · rename_i hst
    split at h
    · obtain rfl := Option.some.inj h
      exact .copyByte hn hst _
    · rename_i hk
      obtain rfl := Option.some.inj h
      exact .copied hn hst (Nat.le_of_not_lt hk)
  · obtain rfl := Option.some.inj h
    exact .signal hn ‹_›
  · cases h

/-- A step of a mailbox thread is one of the turns. -/
theorem mboxTxThread_turn {s s' : Mailboxes} {i : Fin mboxNum} {r : WriteResult}
    (h : mboxTxThread s i r = some s') : MboxTurn s s' := by
  simp only [mboxTxThread] at h
  cases ht : (s.mbox i).thread with
  | waiting =>
    simp only [ht] at h
    split at h
    · obtain rfl := Option.some.inj h
      exact .wake ht ‹_›
    · cases h
  | writing tries =>
    cases r with
    | written =>
      simp only [ht] at h
      obtain rfl := Option.some.inj h
      exact .wrote ht
    | nobufs =>
      simp only [ht] at h
      split at h
      · obtain rfl := Option.some.inj h
        exact .retry ht ‹_›
      · obtain rfl := Option.some.inj h
        exact .failed ht
    | failed =>
      simp only [ht] at h
      obtain rfl := Option.some.inj h
      exact .failed ht
  | callback ok =>
    simp only [ht] at h
    obtain rfl := Option.some.inj h
    exact .txcb ht
  | freeing =>
    simp only [ht] at h
    obtain rfl := Option.some.inj h
    exact .free ht

/-- **Every step is one of the turns** that `MboxTurn` names. -/
theorem mboxStep_turn {s s' : Mailboxes} {a : MboxInput} (h : mboxStep s a = some s') :
    MboxTurn s s' := by
  cases a with
  | call id data =>
    obtain rfl := Option.some.inj h
    exact .call id data
  | send n =>
    obtain ⟨c, hn, hc⟩ := Option.bind_eq_some_iff.1 h
    exact canSendStep_turn hn hc
  | thread i r => exact mboxTxThread_turn h

end LibCSP
