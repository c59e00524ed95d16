/-
# Where every buffer goes

Each pool buffer of a connection is in one of the user's receive queues, in the
reorder queue or in the retransmit queue, until it is freed or passed to an
interface that takes it (`worldBooks`).  A call that starts with some buffers in
hand and ends with others is `Linear` when no buffer is lost on the way and none
ends in two places.

Retransmission, acknowledgement and closing are linear with empty hands.  Three
things are not: a SYN whose copy gets no buffer is forgotten (`cspRdpSendPacket`), a
stored packet that finds the user's queue full when its turn comes is forgotten
(`csp_rdp_rx_queue_flush`), and a packet in sequence that finds no room in
`rx_event` is freed while it lies in the receive queue.
-/

import Mathlib.Tactic.Abel
import LibCSP.Basis.Ledger
import LibCSP.Rdp.Close

namespace LibCSP

open Basis

/-! ### The books of a connection -/

/-- The buffers of some packets. -/
def bufs (ps : List CspPacket) : Multiset ℕ := ps.map CspPacket.buf

/-- The buffers of two lists. -/
theorem bufs_append (ps qs : List CspPacket) : bufs (ps ++ qs) = bufs ps + bufs qs := by
  rw [bufs, List.map_append, ← Multiset.coe_add]
  rfl

/-- The first buffer and the others. -/
theorem bufs_cons (p : CspPacket) (ps : List CspPacket) : bufs (p :: ps) = {p.buf} + bufs ps :=
  bufs_append [p] ps

/-- The order of packets does not matter to the books. -/
theorem bufs_perm {ps qs : List CspPacket} (h : ps.Perm qs) : bufs ps = bufs qs :=
  Multiset.coe_eq_coe.2 (h.map _)

/-- The buffers in the queues of a connection. -/
def Conn.held (c : Conn) : Multiset ℕ :=
  ∑ prio, bufs (c.rxQueue prio).items + bufs c.rdp.txQueue.items + bufs c.rdp.rxQueue.items

/-- The buffers that were freed or passed to an interface. -/
def gone (log : List Event) : Multiset ℕ :=
  log.filterMap fun
    | .free buf => some buf
    | .transmit p => some p.buf
    | _ => none

/-- The buffers that came from the pool. -/
def allocated (log : List Event) : Multiset ℕ :=
  log.filterMap fun
    | .alloc buf => some buf
    | _ => none

/-- What left in two stretches of the log. -/
theorem gone_append (l₁ l₂ : List Event) : gone (l₁ ++ l₂) = gone l₁ + gone l₂ := by
  rw [gone, List.filterMap_append, ← Multiset.coe_add]
  rfl

/-- What was allocated in two stretches of the log. -/
theorem allocated_append (l₁ l₂ : List Event) :
    allocated (l₁ ++ l₂) = allocated l₁ + allocated l₂ := by
  rw [allocated, List.filterMap_append, ← Multiset.coe_add]
  rfl

def worldBooks : Books World ℕ where
  placed w := w.conn.held + gone w.log
  taken w := allocated w.log

/-- A call from `w` to `w'` that starts with the buffers `hand` and ends with `hand'`
has lost none, and put none into two places. -/
structure Linear (w : World) (hand : Multiset ℕ) (w' : World) (hand' : Multiset ℕ) : Prop where
  log : w.log <+: w'.log
  books : worldBooks.Conserves w hand w' hand'

namespace Linear

variable {w w' w'' : World} {g h k : Multiset ℕ}

/-- Where nothing happens the books balance. -/
theorem refl (w : World) (g : Multiset ℕ) : Linear w g w g := ⟨List.prefix_rfl, .refl _ _ _⟩

/-- One call after the other. -/
theorem trans (h₁ : Linear w g w' h) (h₂ : Linear w' h w'' k) : Linear w g w'' k :=
  ⟨h₁.log.trans h₂.log, h₁.books.trans h₂.books⟩

/-- What else is in hand stays there. -/
theorem frame (h₁ : Linear w g w' h) (k : Multiset ℕ) : Linear w (g + k) w' (h + k) :=
  ⟨h₁.log, h₁.books.frame k⟩

/-- A call that needs nothing in hand. -/
theorem around (h₁ : Linear w 0 w' 0) (k : Multiset ℕ) : Linear w k w' k := by
  have := h₁.frame k
  rwa [zero_add] at this

/-- A step that moves no buffer and logs nothing. -/
theorem of_eq (hh : w'.conn.held = w.conn.held) (hl : w'.log = w.log) : Linear w g w' g :=
  ⟨by rw [hl], .of_eq (by simp only [worldBooks, hh, hl]) (by simp only [worldBooks, hl])⟩

/-- A packet is put into a queue of the connection. -/
theorem store {p : CspPacket} (hh : w'.conn.held = w.conn.held + {p.buf}) (hl : w'.log = w.log) :
    Linear w {p.buf} w' 0 := by
  refine ⟨by rw [hl], .place ?_ (by simp only [worldBooks, hl])⟩
  simp only [worldBooks, hh, hl]
  rw [add_right_comm]

/-- A packet is taken out of a queue of the connection. -/
theorem takeOut {p : CspPacket} (hh : w'.conn.held + {p.buf} = w.conn.held) (hl : w'.log = w.log) :
    Linear w 0 w' {p.buf} := by
  refine ⟨by rw [hl], ?_⟩
  unfold Books.Conserves worldBooks
  simp only [← hh, hl]
  abel

/-- The buffers of some events leave. -/
theorem leave (evs : List Event) (hc : w'.conn = w.conn) (hl : w'.log = w.log ++ evs)
    (ha : allocated evs = 0) : Linear w (gone evs) w' 0 := by
  refine ⟨by rw [hl]; exact List.prefix_append _ _, .place ?_ ?_⟩
  · simp only [worldBooks, hc, hl, gone_append, add_assoc]
  · simp only [worldBooks, hl, allocated_append, ha, add_zero]

/-- A packet that is freed is in hand no more. -/
theorem free (w : World) (p : CspPacket) : Linear w {p.buf} (w.free p) 0 :=
  leave [.free p.buf] rfl rfl rfl

/-- A buffer that is allocated is in hand. -/
theorem alloc (w : World) (buf : ℕ) : Linear w 0 (w.next.emit (.alloc buf)) {buf} := by
  refine ⟨List.prefix_append _ _, .take ?_ ?_⟩
  · show w.conn.held + gone (w.log ++ [.alloc buf]) = w.conn.held + gone w.log
    rw [gone_append, show gone [Event.alloc buf] = 0 from rfl, add_zero]
  · exact allocated_append _ _

/-- The clock moves no buffer. -/
theorem next (w : World) (g : Multiset ℕ) : Linear w g w.next g := .of_eq rfl rfl

/-- What is in hand afterwards is determined. -/
theorem hand_unique (h₁ : Linear w g w' h) (h₂ : Linear w g w' k) : h = k :=
  h₁.books.hand_unique h₂.books

end Linear

/-! ### Control messages -/

/-- The retransmit queue is one of the places. -/
theorem held_setTxQueue (c : Conn) (q : Queue CspPacket cspRdpMaxWindow) :
    Conn.held { c with rdp.txQueue := q } + bufs c.rdp.txQueue.items = c.held + bufs q.items := by
  unfold Conn.held
  simp only
  abel

/-- The reorder queue is one of the places. -/
theorem held_setReorder (c : Conn) (q : Queue CspPacket (cspRdpMaxWindow * 2)) :
    Conn.held { c with rdp.rxQueue := q } + bufs c.rdp.rxQueue.items = c.held + bufs q.items := by
  unfold Conn.held
  simp only
  abel

/-- A copy goes into `tx_queue` or is freed. -/
theorem cspRdpRetain_linear (c : CspPacket) (w : World) :
    Linear w {c.buf} (cspRdpRetain c w) 0 := by
  unfold cspRdpRetain
  split
  · exact .free w c
  · rename_i q hq
    refine .store (p := c) ?_ rfl
    have h := held_setTxQueue w.conn q
    rw [(Queue.enqueue_eq_some.1 hq).2, bufs_append, add_comm (bufs w.conn.rdp.txQueue.items),
      ← add_assoc] at h
    exact add_right_cancel h

/-- A packet that is sent at once is sent or freed. -/
theorem cspRdpSendNow_linear (e : Env) (p : CspPacket) (f : RdpFlags) (a : U16) (w : World) :
    Linear w {p.buf} (cspRdpSendNow e p f a w).2 0 := by
  have hsent : Linear w {p.buf} (w.next.emit (.transmit { p with id := w.conn.idout })) 0 :=
    .leave [.transmit { p with id := w.conn.idout }] rfl rfl rfl
  rcases cspRdpSendNow_cases e p f a w with ⟨-, -, now, h⟩ | ⟨-, -, h⟩ | ⟨-, h⟩
  · rw [h]
    exact hsent.trans (.of_eq rfl rfl)
  · rw [h]
    exact hsent
  · rw [h]
    exact (Linear.next w _).trans (.free _ p)

/-- The copy of a SYN gets no buffer. -/
def noCopy (e : Env) (f : RdpFlags) (tick : ℕ) : Bool := f.syn && (e.bufferGet tick).isNone

/-- **`csp_rdp_send_cmp` passes its packet on or frees it**, except when a SYN
gets no copy: then the packet is as it came. -/
theorem cspRdpSendPacket_linear (e : Env) (p : CspPacket) (f : RdpFlags) (s a : U16) (w : World) :
    Linear w {p.buf} (cspRdpSendPacket e p f s a w).2 (if noCopy e f w.tick then {p.buf} else 0) ∧
      ((cspRdpSendPacket e p f s a w).1 = .nomem ↔ noCopy e f w.tick = true) := by
  have hnow : ∀ tx : CspPacket, tx.buf = p.buf → ∀ w,
      Linear w {p.buf} (cspRdpSendNow e tx f a w).2 0 ∧
        (cspRdpSendNow e tx f a w).1 ≠ .nomem := fun tx htx w => by
    refine ⟨htx ▸ cspRdpSendNow_linear e tx f a w, ?_⟩
    rcases cspRdpSendNow_cases e tx f a w with ⟨-, -, now, h⟩ | ⟨-, -, h⟩ | ⟨-, h⟩ <;> rw [h] <;>
      exact nofun
  have hadd : (cspRdpHeaderAdd e.host p ⟨f.byte, hton16 e.host s, hton16 e.host a⟩).buf = p.buf :=
    rfl
  unfold cspRdpSendPacket
  simp only
  cases hf : f.syn with
  | false =>
    have hcopy : noCopy e f w.tick = false := by rw [noCopy, hf, Bool.false_and]
    simp only [hcopy, Bool.false_eq_true, if_false, iff_false]
    exact hnow _ hadd w
  | true =>
    simp only [if_true]
    unfold cspBufferClone cspBufferGet
    cases hb : e.bufferGet w.tick with
    | none =>
      have hcopy : noCopy e f w.tick = true := by
        rw [noCopy, hf, hb, Option.isNone_none, Bool.and_self]
      simp only [hcopy, if_true, and_true]
      exact .next w _
    | some b =>
      have hcopy : noCopy e f w.tick = false := by
        rw [noCopy, hb, Option.isNone_some, Bool.and_false]
      simp only [hcopy, Bool.false_eq_true, if_false, iff_false]
      have halloc := (Linear.alloc w b.buf).frame {p.buf}
      have hretain : ∀ c : CspPacket, c.buf = b.buf → ∀ v : World,
          Linear v ({b.buf} + {p.buf}) (cspRdpRetain c v) {p.buf} := fun c hc v => by
        have := (cspRdpRetain_linear c v).frame {p.buf}
        rwa [hc, zero_add] at this
      rw [zero_add] at halloc
      exact ⟨halloc.trans ((Linear.next _ _).trans ((hretain _ (by rfl) _).trans
        (hnow _ hadd _).1)), (hnow _ hadd _).2⟩

/-- What `csp_rdp_send_cmp` forgets of the buffer it got itself. -/
def sendCmpLost (e : Env) (f : RdpFlags) (tick : ℕ) : Multiset ℕ :=
  match e.bufferGet tick with
  | none => 0
  | some b => if noCopy e f (tick + 1) then {b.buf} else 0

/-- `csp_rdp_send_cmp` without a packet. -/
theorem cspRdpSendCmp_none_linear (e : Env) (f : RdpFlags) (s a : U16) (w : World) :
    Linear w 0 (cspRdpSendCmp e none f s a w).2 (sendCmpLost e f w.tick) := by
  unfold cspRdpSendCmp cspBufferGet sendCmpLost
  cases e.bufferGet w.tick with
  | none => exact .next w 0
  | some b =>
    exact (Linear.alloc w b.buf).trans
      (cspRdpSendPacket_linear e { b with length := 0 } f s a (w.next.emit (.alloc b.buf))).1

/-- Without SYN there is no copy that could be lost. -/
theorem sendCmpLost_of_syn {e : Env} {f : RdpFlags} (hf : f.syn = false) (tick : ℕ) :
    sendCmpLost e f tick = 0 := by
  unfold sendCmpLost noCopy
  rw [hf]
  cases e.bufferGet tick <;> rfl

/-- **A control message other than a SYN is linear.** -/
theorem cspRdpSendCmp_none_linear' {e : Env} {f : RdpFlags} (hf : f.syn = false) (s a : U16)
    (w : World) : Linear w 0 (cspRdpSendCmp e none f s a w).2 0 := by
  have h := cspRdpSendCmp_none_linear e f s a w
  rwa [sendCmpLost_of_syn hf] at h

/-- **`csp_rdp_send_cmp` with a packet** sends it or frees it. -/
theorem cspRdpSendCmp_some_linear {e : Env} {f : RdpFlags} (hf : f.syn = false) (p : CspPacket)
    (s a : U16) (w : World) : Linear w {p.buf} (cspRdpSendCmp e (some p) f s a w).2 0 := by
  have h := (cspRdpSendPacket_linear e p f s a w).1
  rwa [noCopy, hf, Bool.false_and, if_neg Bool.false_ne_true] at h

/-- The entries of an EACK are written into the same buffer. -/
theorem buf_foldl_eackEntry (o : ByteOrder) (xs : List CspPacket) (eack : CspPacket) :
    (xs.foldl (eackEntry o) eack).buf = eack.buf := by
  induction xs generalizing eack with
  | nil => rfl
  | cons x xs ih => exact ih (eackEntry o eack x)

/-- **`csp_rdp_send_eack` is linear.** -/
theorem cspRdpSendEack_linear (e : Env) (w : World) : Linear w 0 (cspRdpSendEack e w).2 0 := by
  rcases cspRdpSendEack_cases e w with hb | ⟨b, hb⟩
  · rw [hb]
    exact .next w 0
  · have hbuf : _ = b.buf :=
      buf_foldl_eackEntry e.host w.conn.rdp.rxQueue.items { b with length := 0 }
    have hsend := @cspRdpSendCmp_some_linear e .ackEak rfl
      (w.conn.rdp.rxQueue.items.foldl (eackEntry e.host) { b with length := 0 })
      w.conn.rdp.sndNxt w.conn.rdp.rcvCur (w.next.emit (.alloc b.buf))
    rw [hbuf] at hsend
    rw [hb]
    exact (Linear.alloc w b.buf).trans hsend

/-! ### Acknowledgements -/

/-- The question whether to acknowledge moves no buffer. -/
theorem cspRdpShouldAck_linear (e : Env) (w : World) : Linear w 0 (cspRdpShouldAck e w).2 0 := by
  unfold cspRdpShouldAck
  split
  · exact .refl w 0
  · exact .next w 0

/-- The ACK that follows from it is sent or freed. -/
theorem ackIfShould_linear (e : Env) (w : World) :
    Linear w 0 (if (cspRdpShouldAck e w).1 then
        (cspRdpSendCmp e none .ackOnly (cspRdpShouldAck e w).2.conn.rdp.sndNxt
          (cspRdpShouldAck e w).2.conn.rdp.rcvCur (cspRdpShouldAck e w).2).2
      else (cspRdpShouldAck e w).2) 0 := by
  have h := cspRdpShouldAck_linear e w
  split
  · exact h.trans (cspRdpSendCmp_none_linear' rfl _ _ _)
  · exact h

/-- So `csp_rdp_check_ack` keeps the books. -/
theorem cspRdpCheckAck_linear (e : Env) (w : World) : Linear w 0 (cspRdpCheckAck e w) 0 := by
  unfold cspRdpCheckAck
  split
  · split
    · exact ackIfShould_linear e w
    · exact .refl w 0
  · exact .refl w 0

/-- And so does the answer to a data packet. -/
theorem dataAck_linear (e : Env) (p : CspPacket) (w : World) : Linear w 0 (dataAck e p w) 0 := by
  unfold dataAck
  split
  · exact ackIfShould_linear e w
  · exact .refl w 0

/-! ### The two loops over the retransmit queue -/

/-- A round of a loop over the retransmit queue: the element it is given is requeued, or gone. -/
def LinearEntry (f : World → CspPacket → World × Option CspPacket) : Prop :=
  ∀ w x, (f w x).1.conn = w.conn ∧ Linear w {x.buf} (f w x).1 (bufs (f w x).2.toList)

/-- **A sweep of the retransmit queue by linear rounds is linear.** -/
theorem LinearEntry.sweep {f : World → CspPacket → World × Option CspPacket} (hf : LinearEntry f)
    {w : World} {n : ℕ} (hn : n = w.conn.rdp.txQueue.size) :
    Linear w 0 { (Queue.sweep f n w w.conn.rdp.txQueue).1 with
      conn.rdp.txQueue := (Queue.sweep f n w w.conn.rdp.txQueue).2 } 0 := by
  have hlist : ∀ xs : List CspPacket, ∀ w : World, (Queue.sweepList f w xs).1.conn = w.conn ∧
      Linear w (bufs xs) (Queue.sweepList f w xs).1 (bufs (Queue.sweepList f w xs).2) := by
    intro xs
    induction xs with
    | nil => exact fun w => ⟨rfl, .refl w _⟩
    | cons x xs ih =>
      intro w
      obtain ⟨hconn, hround⟩ := hf w x
      obtain ⟨hconn', hrest⟩ := ih (f w x).1
      refine ⟨hconn'.trans hconn, ?_⟩
      rw [Queue.sweepList, bufs_cons, bufs_append, add_comm (bufs (f w x).2.toList)]
      refine (hround.frame (bufs xs)).trans ?_
      rw [add_comm]
      exact hrest.frame _
  obtain ⟨h₁, h₂⟩ := Queue.sweep_size f w w.conn.rdp.txQueue
  rw [← hn] at h₁ h₂
  obtain ⟨hconn, hl⟩ := hlist w.conn.rdp.txQueue.items w
  rw [← h₁] at hconn hl
  rw [← h₂] at hl
  generalize Queue.sweep f n w w.conn.rdp.txQueue = r at hconn hl ⊢
  refine ⟨hl.log, ?_⟩
  have hheld := held_setTxQueue r.1.conn r.2
  have hbooks := hl.books
  unfold Books.Conserves worldBooks at hbooks ⊢
  simp only [hconn] at hbooks hheld ⊢
  refine add_right_cancel (b := bufs w.conn.rdp.txQueue.items) ?_
  calc _ = w.conn.held + gone w.log + bufs w.conn.rdp.txQueue.items + allocated r.1.log := by abel
    _ = (w.conn.held + bufs r.2.items) + gone r.1.log + allocated w.log := by rw [hbooks]; abel
    _ = _ := by rw [← hheld]; abel

/-- A copy that is retransmitted is sent or freed. -/
theorem cspRdpRetransmit_linear (e : Env) (c : Option CspPacket) (w : World) :
    Linear w (bufs c.toList) (cspRdpRetransmit e c w) 0 := by
  cases c with
  | none => exact .refl w 0
  | some p =>
    rcases cspRdpRetransmit_cases e p w with ⟨-, h⟩ | ⟨-, h⟩
    · rw [h]
      exact .leave [.transmit { p with id := w.conn.idout }] rfl rfl rfl
    · rw [h]
      exact (Linear.next w _).trans (.free _ p)

/-- A copy that is made is in hand. -/
theorem cspBufferClone_linear (e : Env) (p : CspPacket) (w : World) :
    Linear w 0 (cspBufferClone e p w).2 (bufs (cspBufferClone e p w).1.toList) := by
  rcases cspBufferClone_cases e p w with h | ⟨buf, h⟩
  · rw [h]
    exact .next w 0
  · rw [h]
    exact .alloc w buf

/-- A round of the message loop frees the element or requeues it; the copy it may send
is passed on or freed. -/
theorem timeoutEntry_linear (e : Env) (now : U32) : LinearEntry (timeoutEntry e now) := by
  intro w x
  unfold timeoutEntry
  simp only
  split
  · exact ⟨rfl, .free w x⟩
  · split
    · refine ⟨(cspRdpRetransmit_conn e _ _).trans (cspBufferClone_conn e _ _), ?_⟩
      have hcopy := ((cspBufferClone_linear e { cspRdpHeaderStore e.host x
        { cspRdpHeaderRef e.host x with ackNr := hton16 e.host w.conn.rdp.rcvCur } with
          timestamp := (cspGetMs e w).1 } (cspGetMs e w).2).trans (cspRdpRetransmit_linear e _ _))
      exact (Linear.next w _).trans (hcopy.around {x.buf})
    · exact ⟨rfl, .refl w _⟩

/-- **The message loop keeps the books.** -/
theorem cspRdpCheckMessages_linear (e : Env) (now : U32) (w : World) :
    Linear w 0 (cspRdpCheckMessages e now w) 0 :=
  (timeoutEntry_linear e now).sweep rfl

/-- The comparisons with the entries of an EACK change the element's timestamps only. -/
theorem eackCompare_foldl_linear (e : Env) (eack : CspPacket) (js : List ℕ)
    (s : Bool × CspPacket × World) :
    (js.foldl (eackCompare e eack) s).2.1.buf = s.2.1.buf ∧
      (js.foldl (eackCompare e eack) s).2.2.conn = s.2.2.conn ∧
      ∀ g, Linear s.2.2 g (js.foldl (eackCompare e eack) s).2.2 g := by
  induction js generalizing s with
  | nil => exact ⟨rfl, rfl, fun g => .refl _ g⟩
  | cons j js ih =>
    have hone : (eackCompare e eack s j).2.1.buf = s.2.1.buf ∧
        (eackCompare e eack s j).2.2.conn = s.2.2.conn ∧
        ∀ g, Linear s.2.2 g (eackCompare e eack s j).2.2 g := by
      unfold eackCompare
      simp only
      split
      · split <;> exact ⟨rfl, rfl, fun g => .next _ g⟩
      · exact ⟨rfl, rfl, fun g => .refl _ g⟩
    obtain ⟨h₁, h₂, h₃⟩ := ih (eackCompare e eack s j)
    exact ⟨h₁.trans hone.1, h₂.trans hone.2.1, fun g => (hone.2.2 g).trans (h₃ g)⟩

/-- An element is freed, or put back. -/
theorem flushEackEntry_linear (e : Env) (eack : CspPacket) :
    LinearEntry (flushEackEntry e eack) := by
  intro w x
  obtain ⟨h₁, h₂, h₃⟩ := eackCompare_foldl_linear e eack
    (List.range ((eack.length.toNat - sizeofRdpHeader) / 2)) (false, x, w)
  unfold flushEackEntry
  simp only
  split
  · refine ⟨h₂, (h₃ {x.buf}).trans ?_⟩
    rw [← show _ = x.buf from h₁]
    exact .free _ _
  · refine ⟨h₂, ?_⟩
    rw [Option.toList_some, bufs_cons, show _ = x.buf from h₁]
    exact h₃ _

/-- **`csp_rdp_flush_eack` keeps the books.** -/
theorem cspRdpFlushEack_linear (e : Env) (eack : CspPacket) (w : World) :
    Linear w 0 (cspRdpFlushEack e eack w) 0 :=
  (flushEackEntry_linear e eack).sweep rfl

/-! ### Closing -/

/-- Emptying queues by freeing what is in them. -/
theorem Linear.flush {w w' : World} (ps : List CspPacket)
    (hh : w'.conn.held + bufs ps = w.conn.held)
    (hl : w'.log = w.log ++ ps.map fun p => .free p.buf) : Linear w 0 w' 0 := by
  have hgone : ∀ ps : List CspPacket, gone (ps.map fun p => .free p.buf) = bufs ps := fun ps => by
    unfold gone bufs
    rw [List.filterMap_map]
    exact congrArg _ (List.filterMap_eq_map (f := CspPacket.buf) ▸ rfl)
  have halloc : ∀ ps : List CspPacket,
      allocated (ps.map fun p => Event.free p.buf) = 0 := fun ps => by
    unfold allocated
    rw [List.filterMap_map]
    exact congrArg _ (List.filterMap_eq_nil_iff.2 fun _ _ => rfl)
  refine ⟨by rw [hl]; exact List.prefix_append _ _, .of_eq ?_ ?_⟩
  · simp only [worldBooks, hl, gone_append, hgone]
    rw [← hh]
    abel
  · simp only [worldBooks, hl, allocated_append, halloc, add_zero]

/-- The buffers of several lists. -/
theorem bufs_flatMap {ι : Type*} (f : ι → List CspPacket) (is : List ι) :
    bufs (is.flatMap f) = (is.map fun i => bufs (f i)).sum := by
  induction is with
  | nil => rfl
  | cons i is ih => rw [List.flatMap_cons, bufs_append, ih, List.map_cons, List.sum_cons]

/-- The user's queues are freed. -/
theorem cspConnFlushRxQueue_linear (w : World) : Linear w 0 (cspConnFlushRxQueue w) 0 := by
  refine .flush ((List.finRange cspPriorities).flatMap fun i => (w.conn.rxQueue i).items)
    ?_ ?_
  · have hempty : ∑ _ : Fin cspPriorities, bufs
        (Queue.empty : Queue CspPacket cspRxQueueLength).items = 0 := Finset.sum_const_zero
    rw [bufs_flatMap, ← Fin.sum_univ_def]
    unfold Conn.held
    simp only [cspConnFlushRxQueue]
    rw [hempty]
    abel
  · show w.log ++ _ = w.log ++ _
    rw [List.map_flatMap]

/-- So are the RDP queues. -/
theorem cspRdpFlushAll_linear (w : World) : Linear w 0 (cspRdpFlushAll w) 0 := by
  refine .flush (w.conn.rdp.txQueue.items ++ w.conn.rdp.rxQueue.items) ?_ rfl
  rw [bufs_append]
  unfold Conn.held
  simp only [cspRdpFlushAll]
  show _ + 0 + 0 + _ = _
  abel

/-- Going to `RDP_CLOSE_WAIT` sends a reset of its own buffer. -/
theorem enterCloseWait_linear (e : Env) (w : World) : Linear w 0 (enterCloseWait e w) 0 :=
  .of_eq rfl rfl

/-- **`csp_close` is linear.** -/
theorem cspClose_linear (e : Env) (w : World) : Linear w 0 (cspClose e w).2 0 := by
  have hnow : ∀ w, Linear w 0 (cspCloseNow e w).2 0 := fun w => by
    have hstate : Linear w 0 { w.next with conn.state := .connClosed } 0 := .of_eq rfl rfl
    have hflush := hstate.trans
      (cspConnFlushRxQueue_linear { w.next with conn.state := .connClosed })
    unfold cspCloseNow
    split
    · simp only
      split
      · exact hflush.trans (cspRdpFlushAll_linear _)
      · exact hflush
    · exact .next w 0
  have hrdp : Linear w 0 (cspRdpClose e w).2 0 := by
    unfold cspRdpClose
    split
    · exact .refl w 0
    · exact .of_eq rfl rfl
    · exact (enterCloseWait_linear e w).trans (cspRdpSendCmp_none_linear' rfl _ _ _)
  unfold cspClose
  split
  · exact .refl w 0
  · split
    · simp only
      split
      · exact hrdp
      · exact hrdp.trans (hnow _)
    · exact hnow w

/-- A packet at `discard_close` is freed. -/
theorem discardClose_linear (e : Env) (p : CspPacket) (w : World) :
    Linear w {p.buf} (discardClose e p w) 0 := by
  unfold discardClose
  split
  · exact .free w p
  · exact ((cspClose_linear e w).around _).trans (.free _ p)

/-- Waking the sender moves no buffer. -/
theorem cspRdpWake_linear (w : World) : Linear w 0 (cspRdpWake w) 0 := by
  unfold cspRdpWake
  split
  · exact .of_eq rfl rfl
  · exact .refl w 0

/-- **`csp_rdp_check_timeouts` is linear.** -/
theorem cspRdpCheckTimeouts_linear (e : Env) (w : World) :
    Linear w 0 (cspRdpCheckTimeouts e w) 0 := by
  have hclose : Linear w 0 (cspClose e w.next).2 0 := (Linear.next w 0).trans (cspClose_linear e _)
  unfold cspRdpCheckTimeouts
  simp only
  split
  · exact hclose
  · split
    · split
      · exact hclose
      · exact .next w 0
    · exact (Linear.next w 0).trans ((cspRdpCheckMessages_linear e (cspGetMs e w).1 w.next).trans
        ((cspRdpCheckAck_linear e _).trans (cspRdpWake_linear _)))

end LibCSP
