/-
# What a call does to the rest of a connection

A connection is more than its RDP half: the table it lies in looks at its state, its
identifiers and its options (`Conn.shell`), user space at what is delivered and at the
handles posted.  A call on a connection is `Handling`: it keeps the shell, it delivers
packets that are allowed to be delivered, it posts the handle at most once.  Or it ends
with the connection being closed, which is `Shut`, and then it had a reason to
(`Ending`).  Most of `csp_rdp.c` delivers and posts nothing and is `Inert`.

What may be stored and what may be delivered are parameters: `P` holds of the packets in
the reorder queue, `D` of those that user space gets.
-/

import LibCSP.Rdp.Incoming

namespace LibCSP

open Basis

/-! ### Calls that deliver nothing -/

/-- What the connection table looks at. -/
structure Shell where
  state : ConnState
  idin : CspId
  idout : CspId
  connOpts : U32

def Conn.shell (c : Conn) : Shell := ⟨c.state, c.idin, c.idout, c.connOpts⟩

/-- User space sees nothing of the event. -/
def Event.Silent : Event → Prop
  | .deliver _ _ => False
  | .accept _ => False
  | _ => True

/-- Only silent events happen. -/
def Silently (w w' : World) : Prop := ∃ evs, w'.log = w.log ++ evs ∧ ∀ ev ∈ evs, ev.Silent

/-- A step that logs nothing. -/
theorem Silently.of_eq {w w' : World} (h : w'.log = w.log) : Silently w w' :=
  ⟨[], by rw [h, List.append_nil], by simp⟩

/-- One stretch after the other. -/
theorem Silently.trans {w w' w'' : World} (h₁ : Silently w w') (h₂ : Silently w' w'') :
    Silently w w'' := by
  obtain ⟨evs₁, e₁, hevs₁⟩ := h₁
  obtain ⟨evs₂, e₂, hevs₂⟩ := h₂
  exact ⟨evs₁ ++ evs₂, by rw [e₂, e₁, List.append_assoc], List.forall_mem_append.2 ⟨hevs₁, hevs₂⟩⟩

/-- An event that hands nothing to anybody. -/
theorem Silently.emit (w : World) {ev : Event} (h : ev.Silent) : Silently w (w.emit ev) :=
  ⟨[ev], rfl, fun _ hev => List.mem_singleton.1 hev ▸ h⟩

/-- The shell and what is stored for user space stay, silently. -/
structure Inert (w w' : World) : Prop where
  shell : w'.conn.shell = w.conn.shell
  rxSocket : w'.conn.rxSocket = w.conn.rxSocket
  stored : w'.conn.rdp.rxQueue = w.conn.rdp.rxQueue
  log : Silently w w'

namespace Inert

variable {w w' w'' : World}

/-- The facts that make a step inert. -/
theorem of_eq (hs : w'.conn.shell = w.conn.shell) (hk : w'.conn.rxSocket = w.conn.rxSocket)
    (hq : w'.conn.rdp.rxQueue = w.conn.rdp.rxQueue) (hl : w'.log = w.log) : Inert w w' :=
  ⟨hs, hk, hq, .of_eq hl⟩

/-- Nothing happens. -/
theorem refl (w : World) : Inert w w := .of_eq rfl rfl rfl rfl

/-- The clock is inert. -/
theorem next (w : World) : Inert w w.next := .of_eq rfl rfl rfl rfl

/-- Inert steps, one after the other. -/
theorem trans (h₁ : Inert w w') (h₂ : Inert w' w'') : Inert w w'' :=
  ⟨h₂.shell.trans h₁.shell, h₂.rxSocket.trans h₁.rxSocket, h₂.stored.trans h₁.stored,
    h₁.log.trans h₂.log⟩

/-- An event that hands nothing to anybody is inert. -/
theorem emit (w : World) {ev : Event} (h : ev.Silent) : Inert w (w.emit ev) :=
  ⟨rfl, rfl, rfl, .emit w h⟩

/-- A release is inert. -/
theorem free (w : World) (p : CspPacket) : Inert w (w.free p) :=
  .emit w (show Event.Silent (.free p.buf) from trivial)

/-- An allocation is inert. -/
theorem alloc (w : World) (buf : ℕ) : Inert w (w.next.emit (.alloc buf)) :=
  (next w).trans (.emit w.next (show Event.Silent (.alloc buf) from trivial))

/-- A transmission is inert. -/
theorem transmit (w : World) (p : CspPacket) : Inert w (w.next.emit (.transmit p)) :=
  (next w).trans (.emit w.next (show Event.Silent (.transmit p) from trivial))

end Inert

/-- `csp_send_direct` transmits, or nothing. -/
theorem cspSendDirect_inert (e : Env) (idout : CspId) (p : Option CspPacket) (w : World) :
    Inert w (cspSendDirect e idout p w).2 := by
  unfold cspSendDirect
  cases p with
  | none => exact .refl w
  | some p =>
    cases e.sendDirect w.tick with
    | true => exact .transmit w _
    | false => exact .next w

/-- Sending a packet at once is inert. -/
theorem cspRdpSendNow_inert (e : Env) (p : CspPacket) (f : RdpFlags) (a : U16) (w : World) :
    Inert w (cspRdpSendNow e p f a w).2 := by
  have hsent := Inert.transmit w { p with id := w.conn.idout }
  rcases cspRdpSendNow_cases e p f a w with ⟨-, -, now, h⟩ | ⟨-, -, h⟩ | ⟨-, h⟩
  · rw [h]
    exact hsent.trans (.of_eq rfl rfl rfl rfl)
  · rw [h]
    exact hsent
  · rw [h]
    exact (Inert.next w).trans (.free _ p)

/-- Keeping a copy is inert. -/
theorem cspRdpRetain_inert (c : CspPacket) (w : World) : Inert w (cspRdpRetain c w) := by
  unfold cspRdpRetain
  split
  · exact .free w c
  · exact .of_eq rfl rfl rfl rfl

/-- Copying a packet is inert. -/
theorem cspBufferClone_inert (e : Env) (p : CspPacket) (w : World) :
    Inert w (cspBufferClone e p w).2 := by
  rcases cspBufferClone_cases e p w with h | ⟨buf, h⟩
  · rw [h]
    exact .next w
  · rw [h]
    exact .alloc w buf

/-- Sending a segment is inert. -/
theorem cspRdpSendPacket_inert (e : Env) (p : CspPacket) (f : RdpFlags) (s a : U16) (w : World) :
    Inert w (cspRdpSendPacket e p f s a w).2 := by
  rcases cspRdpSendPacket_cases e p f s a w with h | ⟨tx, -, h | ⟨buf, t, h⟩⟩
  · rw [h]
    exact .next w
  · rw [h]
    exact cspRdpSendNow_inert e tx f a w
  · rw [h]
    exact ((Inert.alloc w buf).trans (.next _)).trans
      ((cspRdpRetain_inert _ _).trans (cspRdpSendNow_inert e tx f a _))

/-- **`csp_rdp_send_cmp` is inert.** -/
theorem cspRdpSendCmp_inert (e : Env) (p : Option CspPacket) (f : RdpFlags) (s a : U16)
    (w : World) : Inert w (cspRdpSendCmp e p f s a w).2 := by
  cases p with
  | some p => exact cspRdpSendPacket_inert e p f s a w
  | none =>
    rcases cspRdpSendCmp_none_cases e f s a w with hb | ⟨b, hb⟩
    · rw [hb]
      exact .next w
    · rw [hb]
      exact (Inert.alloc w b.buf).trans (cspRdpSendPacket_inert e _ f s a _)

/-- Sending an EACK is inert. -/
theorem cspRdpSendEack_inert (e : Env) (w : World) : Inert w (cspRdpSendEack e w).2 := by
  rcases cspRdpSendEack_cases e w with hb | ⟨b, hb⟩
  · rw [hb]
    exact .next w
  · rw [hb]
    exact (Inert.alloc w b.buf).trans (cspRdpSendCmp_inert e _ _ _ _ _)

/-- Sending a SYN is inert. -/
theorem cspRdpSendSyn_inert (e : Env) (w : World) : Inert w (cspRdpSendSyn e w).2 := by
  unfold cspRdpSendSyn
  rcases cspBufferGet_cases e w with hb | ⟨b, hb⟩
  · rw [hb]
    exact .next w
  · rw [hb]
    exact (Inert.alloc w b.buf).trans (cspRdpSendCmp_inert e _ _ _ _ _)

/-- The ACK that may be due is inert. -/
theorem ackIfShould_inert (e : Env) (w : World) :
    Inert w (if (cspRdpShouldAck e w).1 then
        (cspRdpSendCmp e none .ackOnly (cspRdpShouldAck e w).2.conn.rdp.sndNxt
          (cspRdpShouldAck e w).2.conn.rdp.rcvCur (cspRdpShouldAck e w).2).2
      else (cspRdpShouldAck e w).2) := by
  have h : Inert w (cspRdpShouldAck e w).2 := by
    unfold cspRdpShouldAck
    split
    · exact .refl w
    · exact .next w
  split
  · exact h.trans (cspRdpSendCmp_inert e _ _ _ _ _)
  · exact h

/-- So is the delayed ACK. -/
theorem cspRdpCheckAck_inert (e : Env) (w : World) : Inert w (cspRdpCheckAck e w) := by
  unfold cspRdpCheckAck
  split
  · split
    · exact ackIfShould_inert e w
    · exact .refl w
  · exact .refl w

/-- So is the answer to a data packet. -/
theorem dataAck_inert (e : Env) (p : CspPacket) (w : World) : Inert w (dataAck e p w) := by
  unfold dataAck
  split
  · exact ackIfShould_inert e w
  · exact .refl w

/-- **A sweep of the retransmit queue by inert rounds is inert.** -/
theorem sweep_inert {f : World → CspPacket → World × Option CspPacket}
    (h : ∀ w x, Inert w (f w x).1) {w : World} {n : ℕ} (hn : n = w.conn.rdp.txQueue.size) :
    Inert w { (Queue.sweep f n w w.conn.rdp.txQueue).1 with
      conn.rdp.txQueue := (Queue.sweep f n w w.conn.rdp.txQueue).2 } := by
  subst hn
  obtain ⟨h₁, -⟩ := Queue.sweep_size f w w.conn.rdp.txQueue
  rw [h₁]
  have hlist : Inert w (Queue.sweepList f w w.conn.rdp.txQueue.items).1 :=
    Queue.sweepList_state (I := Inert w) (fun s x _ hs => hs.trans (h s x)) (.refl w)
  exact hlist.trans (.of_eq rfl rfl rfl rfl)

/-- Taking elements out of `tx_queue` is inert. -/
theorem cspRdpFlushEack_inert (e : Env) (eack : CspPacket) (w : World) :
    Inert w (cspRdpFlushEack e eack w) := by
  have hcompare : ∀ (js : List ℕ) (s : Bool × CspPacket × World),
      Inert s.2.2 (js.foldl (eackCompare e eack) s).2.2 := by
    intro js
    induction js with
    | nil => exact fun s => .refl _
    | cons j js ih =>
      intro s
      refine Inert.trans ?_ (ih (eackCompare e eack s j))
      unfold eackCompare
      simp only
      split
      · split <;> exact .next _
      · exact .refl _
  refine sweep_inert (fun w x => ?_) rfl
  have h := hcompare (List.range ((eack.length.toNat - sizeofRdpHeader) / 2)) (false, x, w)
  unfold flushEackEntry
  simp only
  split
  · exact h.trans (.free _ _)
  · exact h

/-- So is a retransmission. -/
theorem cspRdpRetransmit_inert (e : Env) (c : Option CspPacket) (w : World) :
    Inert w (cspRdpRetransmit e c w) := by
  cases c with
  | none => exact .refl w
  | some c =>
    rcases cspRdpRetransmit_cases e c w with ⟨-, h⟩ | ⟨-, h⟩
    · rw [h]
      exact .transmit w _
    · rw [h]
      exact (Inert.next w).trans (.free _ c)

/-- So is the message loop. -/
theorem cspRdpCheckMessages_inert (e : Env) (now : U32) (w : World) :
    Inert w (cspRdpCheckMessages e now w) := by
  refine sweep_inert (fun w x => ?_) rfl
  unfold timeoutEntry
  simp only
  split
  · exact .free w x
  · split
    · exact ((Inert.next w).trans (cspBufferClone_inert e _ _)).trans (cspRdpRetransmit_inert e _ _)
    · exact .refl w

/-- So is the second half of `csp_send`. -/
theorem cspSendCommit_inert (e : Env) (p : CspPacket) (w : World) :
    Inert w (cspSendCommit e p w) := by
  have hrdp : Inert w (cspRdpSendCommit e p w).2 := by
    unfold cspRdpSendCommit
    rcases cspBufferClone_cases e (txPacket e p w) w with hb | ⟨buf, hb⟩
    · rw [hb]
      exact .next w
    · have halloc := (Inert.alloc w buf).trans (.next _)
      rw [hb]
      simp only
      split
      · exact halloc.trans (.free _ _)
      · exact halloc.trans ((Inert.emit _ (show Event.Silent (.sent p.bytes) from trivial)).trans
          (.of_eq rfl rfl rfl rfl))
  unfold cspSendCommit
  simp only
  split
  · exact hrdp.trans (cspSendDirect_inert e _ _ _)
  · exact hrdp

/-! ### Calls that deliver -/

def Event.isAccept : Event → Bool
  | .accept _ => true
  | _ => false

/-- How often the handle was posted. -/
def accepts (evs : List Event) : ℕ := evs.countP Event.isAccept

/-- How often two stretches post the handle. -/
theorem accepts_append (evs evs' : List Event) :
    accepts (evs ++ evs') = accepts evs + accepts evs' := List.countP_append

/-- What becomes of `rx_socket`: nothing, or the handle is posted, once. -/
inductive Posting (evs : List Event) (k : Option ℕ) : Option ℕ → Prop
  | none (h : accepts evs = 0) : Posting evs k k
  | once (h : accepts evs = 1) (hk : k.isSome) : Posting evs k Option.none

/-- Two stretches that post it in turn. -/
theorem Posting.trans {evs evs' : List Event} {k k' k'' : Option ℕ} (h₁ : Posting evs k k')
    (h₂ : Posting evs' k' k'') : Posting (evs ++ evs') k k'' := by
  cases h₁ with
  | none h₁ =>
    cases h₂ with
    | none h₂ => exact .none (by rw [accepts_append, h₁, h₂])
    | once h₂ hk => exact .once (by rw [accepts_append, h₁, h₂]) hk
  | once h₁ hk =>
    cases h₂ with
    | none h₂ => exact .once (by rw [accepts_append, h₁, h₂]) hk
    | once _ hk' => exact absurd hk' Bool.false_ne_true

/-- Every packet in the reorder queue may be there. -/
def AllStored (P : CspPacket → Prop) (c : Conn) : Prop := ∀ x ∈ c.rdp.rxQueue.items, P x

/-- A call that keeps the shell, stores and delivers what it may, and posts the handle at
most once. -/
structure Handling (P D : CspPacket → Prop) (w w' : World) : Prop where
  shell : w'.conn.shell = w.conn.shell
  stored : AllStored P w'.conn
  log : ∃ evs, w'.log = w.log ++ evs ∧ (∀ st q, .deliver st q ∈ evs → D q) ∧
    Posting evs w.conn.rxSocket w'.conn.rxSocket

namespace Handling

variable {P D : CspPacket → Prop} {w w' w'' : World}

/-- What two calls hand over, one after the other. -/
theorem trans (h₁ : Handling P D w w') (h₂ : Handling P D w' w'') : Handling P D w w'' := by
  obtain ⟨evs₁, e₁, hd₁, hp₁⟩ := h₁.log
  obtain ⟨evs₂, e₂, hd₂, hp₂⟩ := h₂.log
  refine ⟨h₂.shell.trans h₁.shell, h₂.stored, evs₁ ++ evs₂,
    by rw [e₂, e₁, List.append_assoc], fun st q hq => ?_, hp₁.trans hp₂⟩
  rcases List.mem_append.1 hq with hq | hq
  · exact hd₁ st q hq
  · exact hd₂ st q hq

end Handling

/-- Silent events post no handle. -/
theorem accepts_silent {evs : List Event} (h : ∀ ev ∈ evs, ev.Silent) : accepts evs = 0 := by
  refine List.countP_eq_zero.2 fun ev hev => ?_
  have hs := h ev hev
  cases ev with
  | accept k => exact hs.elim
  | _ => exact Bool.false_ne_true

/-- An inert call hands nothing over. -/
theorem Inert.handling {P : CspPacket → Prop} (D : CspPacket → Prop) {w w' : World}
    (h : Inert w w') (hs : AllStored P w.conn) : Handling P D w w' := by
  obtain ⟨evs, hl, hevs⟩ := h.log
  refine ⟨h.shell, ?_, evs, hl, fun st q hq => (hevs _ hq).elim, ?_⟩
  · rw [AllStored, h.stored]
    exact hs
  · rw [h.rxSocket]
    exact .none (accepts_silent hevs)

section Handling

variable {P D : CspPacket → Prop} {w w' w'' : World}

/-- An inert call at the end makes no difference. -/
theorem Handling.inert (h : Handling P D w w') (h' : Inert w' w'') : Handling P D w w'' :=
  h.trans (h'.handling D h.stored)

/-- Nor does one at the beginning. -/
theorem Inert.handled (h : Inert w w') (h' : Handling P D w' w'') (hs : AllStored P w.conn) :
    Handling P D w w'' := (h.handling D hs).trans h'

/-- Leaving stored packets out, or rotating them. -/
theorem setReorder_handling {q : Queue CspPacket (cspRdpMaxWindow * 2)}
    (h : ∀ x ∈ q.items, P x) : Handling P D w (w.setReorder q) :=
  ⟨rfl, h, [], (List.append_nil _).symm, fun _ _ hq => absurd hq List.not_mem_nil, .none rfl⟩

/-- Posting the handle hands the connection over. -/
theorem postHandle_handling (e : Env) (hs : AllStored P w.conn) :
    Handling P D w (postHandle e w).2 := by
  unfold postHandle
  cases hk : w.conn.rxSocket with
  | none => exact (Inert.refl w).handling D hs
  | some k =>
    cases e.acceptQueue w.tick with
    | true =>
      refine ⟨rfl, hs, [.accept k], rfl, fun _ _ hq => ?_, ?_⟩
      · exact absurd (List.mem_singleton.1 hq) nofun
      · rw [hk]
        exact .once rfl rfl
    | false => exact (Inert.next w).handling D hs

/-- A packet that is enqueued is handed over. -/
theorem cspConnEnqueuePacket_handling {p : CspPacket} (hs : AllStored P w.conn) (hp : D p) :
    Handling P D w (cspConnEnqueuePacket (some p) w).2 := by
  have hone : ∀ st q, Event.deliver st q ∈ [Event.deliver w.conn.rdp.state p] → D q := by
    intro st q hq
    obtain ⟨-, rfl⟩ := Event.deliver.inj (List.mem_singleton.1 hq)
    exact hp
  unfold cspConnEnqueuePacket
  simp only
  split
  · exact (Inert.refl w).handling D hs
  · split <;> exact ⟨rfl, hs, [.deliver w.conn.rdp.state p], rfl, hone, .none rfl⟩

/-- So is one that is taken in, without its header. -/
theorem cspRdpReceiveData_handling (e : Env) {p : CspPacket} (hs : AllStored P w.conn)
    (hp : D (cspRdpHeaderRemove p)) : Handling P D w (cspRdpReceiveData e p w).2 := by
  have hpost : Handling P D w (postHandle e w).2 := postHandle_handling e hs
  unfold cspRdpReceiveData
  simp only
  split
  · exact hpost.trans (cspConnEnqueuePacket_handling hpost.stored hp)
  · exact hpost

/-- A stored packet is delivered without its header. -/
theorem cspRdpRxQueueFlush_handling (hPD : ∀ x, P x → D (cspRdpHeaderRemove x)) (e : Env)
    (hs : AllStored P w.conn) : Handling P D w (cspRdpRxQueueFlush e w) := by
  refine flushRounds_induct (P := fun w' => Handling P D w w') (fun w₁ w₂ h₁ hr => ?_) _
    ((Inert.refl w).handling D hs)
  obtain ⟨pre, x, post, q, hitems, -, -, hq, rfl⟩ := flushRound_cases hr
  have hx : P x := h₁.stored x (by rw [hitems]; simp)
  have hq' : ∀ y ∈ q.items, P y := fun y hy => by
    refine h₁.stored y ?_
    rw [hq, List.mem_append] at hy
    rw [hitems, List.mem_append, List.mem_cons]
    rcases hy with hy | hy
    · exact .inr (.inr hy)
    · exact .inl hy
  have hset : Handling P D w₁ (w₁.setReorder q) := setReorder_handling hq'
  exact (h₁.trans (hset.trans (cspRdpReceiveData_handling e hset.stored (hPD x hx)))).inert
    (.of_eq rfl rfl rfl rfl)

/-- **A data packet** is handed over or stored, and so are those it releases. -/
theorem newPacketData_handling (hPD : ∀ x, P x → D (cspRdpHeaderRemove x)) (e : Env)
    (h : RdpHeader) {p : CspPacket} (hs : AllStored P w.conn) (hp : P p) :
    Handling P D w (newPacketData e h p w) := by
  unfold newPacketData
  simp only
  split
  · rcases cspRdpRxQueueAdd_cases e p h.seqNr w with ⟨hr, -, q, hq, hperm⟩ | ⟨hr, q, hq, hperm⟩
    · have hset : Handling P D w (w.setReorder q) := setReorder_handling fun x hx => by
        rcases List.mem_cons.1 (hperm.mem_iff.1 hx) with rfl | hx
        · exact hp
        · exact hs x hx
      rw [hr, hq, if_pos rfl]
      exact hset.inert (cspRdpSendEack_inert e _)
    · have hset : Handling P D w (w.setReorder q) :=
        setReorder_handling fun x hx => hs x (hperm.mem_iff.1 hx)
      rw [hr, hq, if_neg Bool.false_ne_true]
      exact hset.inert (.free _ p)
  · have hrec : Handling P D w (cspRdpReceiveData e p w).2 :=
      cspRdpReceiveData_handling e hs (hPD p hp)
    split
    · have hcur : Handling P D w ((cspRdpReceiveData e p w).2.setRcvCur h.seqNr) :=
        hrec.inert (.of_eq rfl rfl rfl rfl)
      have hack := hcur.inert (dataAck_inert e p _)
      exact hack.trans (cspRdpRxQueueFlush_handling hPD e hack.stored)
    · exact hrec.inert (.free _ p)

/-- Only a packet with data is stored or delivered. -/
theorem newPacketAcked_handling (hPD : ∀ x, P x → D (cspRdpHeaderRemove x)) (e : Env)
    (h : RdpHeader) {p : CspPacket} (hs : AllStored P w.conn)
    (hp : sizeofRdpHeader < p.length.toNat → P p) :
    Handling P D w (newPacketAcked e h p w) := by
  have hstore : Handling P D w (storeAck h w) :=
    (Inert.of_eq rfl rfl rfl rfl : Inert w (storeAck h w)).handling D hs
  unfold newPacketAcked
  simp only
  split
  · refine hstore.inert (Inert.trans ?_ (.free _ p))
    split
    · exact cspRdpFlushEack_inert e p _
    · exact .refl _
  · split
    · exact hstore.inert (.free _ p)
    · rename_i hlen
      exact hstore.trans (newPacketData_handling hPD e h hstore.stored (hp (Nat.not_le.1 hlen)))

end Handling

/-! ### Calls that may close -/

/-- The connection was closed: RDP is done with it, and its queues are empty, or it never
was an RDP connection and they are as before. -/
structure Shut (w w' : World) : Prop where
  shell : w'.conn.shell = { w.conn.shell with state := .connClosed }
  rxSocket : w'.conn.rxSocket = w.conn.rxSocket
  rdp : w.conn.idin.has cspFrdp = true → w'.conn.rdp.state = .rdpClosed
  queues : (w'.conn.rdp.txQueue = Queue.empty ∧ w'.conn.rdp.rxQueue = Queue.empty) ∨
    (w.conn.idin.has cspFrdp = false ∧ w'.conn.rdp = w.conn.rdp)
  log : Silently w w'

/-- A call that is `Handling`, or for the reason `c` ends with closing the connection without
having posted the handle. -/
inductive Ending (c : Prop) (P D : CspPacket → Prop) (w w' : World) : Prop
  | handled (h : Handling P D w w')
  | shut {w₁ : World} (hc : c) (h : Handling P D w w₁)
      (hk : w₁.conn.rxSocket = w.conn.rxSocket) (hs : Shut w₁ w')

section Ending

variable {P D : CspPacket → Prop} {c c' : Prop} {w w' w'' : World}

/-- A release does not reopen the connection. -/
theorem Shut.free (h : Shut w w') (p : CspPacket) : Shut w (w'.free p) :=
  ⟨h.shell, h.rxSocket, h.rdp, h.queues,
    h.log.trans (.emit w' (show Event.Silent (.free p.buf) from trivial))⟩

/-- Nor does it at the end of a call. -/
theorem Ending.free (h : Ending c P D w w') (p : CspPacket) : Ending c P D w (w'.free p) := by
  cases h with
  | handled h => exact .handled (h.inert (.free w' p))
  | shut hc h hk hs => exact .shut hc h hk (hs.free p)

/-- A call that ends the connection after it handed something over. -/
theorem Handling.ending (h : Handling P D w w') (hk : w'.conn.rxSocket = w.conn.rxSocket)
    (h' : Ending c P D w' w'') : Ending c P D w w'' := by
  cases h' with
  | handled h' => exact .handled (h.trans h')
  | shut hc h' hk' hs => exact .shut hc (h.trans h') (hk'.trans hk) hs

/-- A weaker condition for the end. -/
theorem Ending.mono (h : Ending c P D w w') (hc : c → c') : Ending c' P D w w' := by
  cases h with
  | handled h => exact .handled h
  | shut h₁ h hk hs => exact .shut (hc h₁) h hk hs

/-- Emptying the user's queues hands nothing over. -/
theorem cspConnFlushRxQueue_silently (w : World) : Silently w (cspConnFlushRxQueue w) := by
  refine ⟨_, rfl, fun ev hev => ?_⟩
  obtain ⟨i, -, hev⟩ := List.mem_flatMap.1 hev
  obtain ⟨p, -, rfl⟩ := List.mem_map.1 hev
  trivial

/-- Nor does emptying the RDP queues. -/
theorem cspRdpFlushAll_silently (w : World) : Silently w (cspRdpFlushAll w) := by
  refine ⟨_, rfl, fun ev hev => ?_⟩
  obtain ⟨p, -, rfl⟩ := List.mem_map.1 hev
  trivial

/-- `csp_close` once RDP has nothing more to send. -/
theorem cspCloseNow_ending (e : Env) (hs : AllStored P w.conn)
    (hst : w.conn.idin.has cspFrdp = true → w.conn.rdp.state = .rdpClosed) :
    Ending True P D w (cspCloseNow e w).2 := by
  have hrefl : Handling P D w w := (Inert.refl w).handling D hs
  have hclose : Silently w { w.next with conn.state := .connClosed } := .of_eq rfl
  have hflush : Silently w (cspConnFlushRxQueue { w.next with conn.state := .connClosed }) :=
    hclose.trans (cspConnFlushRxQueue_silently _)
  unfold cspCloseNow
  split
  · simp only
    split
    · exact .shut trivial hrefl rfl
        ⟨rfl, rfl, hst, .inl ⟨rfl, rfl⟩, hflush.trans (cspRdpFlushAll_silently _)⟩
    · rename_i hrdp
      exact .shut trivial hrefl rfl
        ⟨rfl, rfl, hst, .inr ⟨Bool.not_eq_true _ ▸ hrdp, rfl⟩, hflush⟩
  · exact .handled (hrefl.inert (.next w))

/-- **`csp_close` sends a RST, closes the connection, or does nothing.** -/
theorem cspClose_ending (e : Env) (hs : AllStored P w.conn) :
    Ending True P D w (cspClose e w).2 := by
  have hrefl : Handling P D w w := (Inert.refl w).handling D hs
  unfold cspClose
  split
  · exact .handled hrefl
  · split
    · simp only
      unfold cspRdpClose
      cases hst : w.conn.rdp.state with
      | rdpClosed => exact cspCloseNow_ending e hs fun _ => hst
      | rdpCloseWait =>
        have hset : Handling P D w { w with conn.rdp.state := .rdpClosed } :=
          hrefl.inert (.of_eq rfl rfl rfl rfl)
        exact hset.ending rfl (cspCloseNow_ending e hset.stored fun _ => rfl)
      | _ =>
        have hwait : Handling P D w (enterCloseWait e w) := hrefl.inert (.of_eq rfl rfl rfl rfl)
        exact .handled (hwait.inert (cspRdpSendCmp_inert e _ _ _ _ _))
    · rename_i hrdp
      rw [Bool.or_eq_true, not_or] at hrdp
      exact cspCloseNow_ending e hs fun h => absurd h hrdp.1

/-- **`discard_close` ends a connection** only if user space does not have it. -/
theorem discardClose_ending (e : Env) (p : CspPacket) (hs : AllStored P w.conn) :
    Ending (w.conn.rxSocket ≠ none) P D w (discardClose e p w) := by
  unfold discardClose
  cases hk : w.conn.rxSocket with
  | none => exact .handled ((Inert.free w p).handling D hs)
  | some k => exact ((cspClose_ending e hs).free p).mono fun _ => Option.some_ne_none k

/-- After an inert call. -/
theorem Inert.discardClose (h : Inert w w') (e : Env) (p : CspPacket) (hs : AllStored P w.conn) :
    Ending (w.conn.rxSocket ≠ none) P D w (discardClose e p w') := by
  have hw : Handling P D w w' := h.handling D hs
  exact hw.ending h.rxSocket ((discardClose_ending e p hw.stored).mono fun hk => h.rxSocket ▸ hk)

/-! ### `csp_rdp_new_packet` -/

/-- A packet may close the connection: user space does not have the handle yet, or the packet
is a RST and RDP has closed already. -/
def MayEnd (w : World) (h : RdpHeader) : Prop :=
  w.conn.rxSocket ≠ none ∨
    h.rst = true ∧ (w.conn.rdp.state = .rdpCloseWait ∨ w.conn.rdp.state = .rdpClosed)

/-- RST ends it on the conditions of `MayEnd`. -/
theorem newPacketRst_ending (e : Env) {h : RdpHeader} (hr : h.rst = true) (p : CspPacket)
    (hs : AllStored P w.conn) : Ending (MayEnd w h) P D w (newPacketRst e h p w) := by
  obtain ⟨w₁, hw₁, hinert, hst, hk⟩ : ∃ w₁, w₁ = (if h.ack then storeAck h w else w) ∧
      Inert w w₁ ∧ w₁.conn.rdp.state = w.conn.rdp.state ∧ w₁.conn.rxSocket = w.conn.rxSocket := by
    refine ⟨_, rfl, ?_⟩
    split
    · exact ⟨.of_eq rfl rfl rfl rfl, rfl, rfl⟩
    · exact ⟨.refl w, rfl, rfl⟩
  have hstored : Handling P D w w₁ := hinert.handling D hs
  unfold newPacketRst
  rw [← hw₁]
  simp only
  split
  · rename_i hclosed
    rw [hst] at hclosed
    have hfree := hstored.inert (.free w₁ p)
    exact hfree.ending hk ((cspClose_ending e hfree.stored).mono fun _ => .inr ⟨hr, hclosed⟩)
  · split
    · have henter : Inert w₁ (enterCloseWait e w₁) := .of_eq rfl rfl rfl rfl
      have hsend : Inert w₁ (cspRdpSendCmp e none .rstAck (enterCloseWait e w₁).conn.rdp.sndNxt
          (enterCloseWait e w₁).conn.rdp.rcvCur (enterCloseWait e w₁)).2 :=
        henter.trans (cspRdpSendCmp_inert e _ _ _ _ _)
      exact ((hinert.trans hsend).discardClose e p hs).mono .inl
    · exact .handled (hstored.inert (.free w₁ p))

/-- A packet in `RDP_CLOSED` ends it only through `discard_close`. -/
theorem newPacketClosed_ending (e : Env) (h : RdpHeader) (p : CspPacket)
    (hs : AllStored P w.conn) :
    Ending (w.conn.rxSocket ≠ none) P D w (newPacketClosed e h p w) := by
  unfold newPacketClosed
  simp only
  split
  · have hopen : Inert w (passiveOpen e h p w) := .of_eq rfl rfl rfl rfl
    exact .handled (((hopen.trans (cspRdpSendCmp_inert e _ _ _ _ _)).trans
      (.free _ p)).handling D hs)
  · exact (cspRdpSendCmp_inert e _ _ _ _ _).discardClose e p hs

/-- And so does one in `RDP_SYN_SENT`. -/
theorem newPacketSynSent_ending (e : Env) (h : RdpHeader) (p : CspPacket)
    (hs : AllStored P w.conn) :
    Ending (w.conn.rxSocket ≠ none) P D w (newPacketSynSent e h p w) := by
  have hpost : ∀ v, Inert v (txWaitPost v) := fun v => .of_eq rfl rfl rfl rfl
  unfold newPacketSynSent
  simp only
  split
  · have hopen : Inert w (activeOpen e h w) := .of_eq rfl rfl rfl rfl
    have hack : Inert (activeOpen e h w) (synSentAck e (activeOpen e h w)) := by
      unfold synSentAck
      split
      · exact cspRdpSendCmp_inert e _ _ _ _ _
      · exact .refl _
    exact .handled (((hopen.trans hack).trans ((hpost _).trans (.free _ p))).handling D hs)
  · split
    · exact .handled (((cspRdpSendCmp_inert e _ _ _ _ _).trans
        ((hpost _).trans (.free _ p))).handling D hs)
    · exact discardClose_ending e p hs

/-- The answer to a packet outside the window is inert. -/
theorem outsideWindow_inert (e : Env) (w : World) : Inert w (outsideWindow e w) :=
  outsideWindow_induct (P := Inert w) (.refl w) (cspRdpSendCmp_inert e _ _ _ _ w)
    fun w₁ h => h.trans (cspRdpSendEack_inert e w₁)

/-- A packet in `RDP_SYN_RCVD` or `RDP_OPEN` hands over what it and the reorder queue have. -/
theorem newPacketOpen_ending (hPD : ∀ x, P x → D (cspRdpHeaderRemove x)) (e : Env)
    (h : RdpHeader) {p : CspPacket} (hs : AllStored P w.conn)
    (hp : sizeofRdpHeader < p.length.toNat → P p) :
    Ending (w.conn.rxSocket ≠ none) P D w (newPacketOpen e h p w) := by
  have hdiscard : Handling P D w (discardOpen p w) := (Inert.free w p).handling D hs
  refine newPacketOpen_induct (P := Ending (w.conn.rxSocket ≠ none) P D w)
    (discardClose_ending e p hs) (.handled hdiscard)
    (.handled (((outsideWindow_inert e w).trans (.free _ p)).handling D hs)) (fun _ _ _ => ?_)
    fun _ _ => .handled (newPacketAcked_handling hPD e h hs hp)
  have hopen : Handling P D w { w with conn.rdp.state := .rdpOpen } :=
    Inert.handling D (.of_eq rfl rfl rfl rfl) hs
  exact .handled (hopen.trans (newPacketAcked_handling hPD e h hopen.stored hp))

/-- In `RDP_CLOSE_WAIT` nothing ends. -/
theorem newPacketCloseWait_handling (e : Env) (h : RdpHeader) (p : CspPacket)
    (hs : AllStored P w.conn) : Handling P D w (newPacketCloseWait e h p w) := by
  rcases newPacketCloseWait_cases e h p w with hw | ⟨-, -, -, hw⟩
  · rw [hw]
    exact (Inert.free w p).handling D hs
  · rw [hw]
    have hstore : Inert w (storeAck h w) := .of_eq rfl rfl rfl rfl
    exact ((hstore.trans (cspRdpSendCmp_inert e _ _ _ _ _)).trans (.free _ p)).handling D hs

/-- **What `csp_rdp_new_packet` does to the rest of the connection.** -/
theorem cspRdpNewPacket_ending (hPD : ∀ x, P x → D (cspRdpHeaderRemove x)) (e : Env)
    {p : CspPacket} (hs : AllStored P w.conn)
    (hp : sizeofRdpHeader < p.length.toNat → P (rxPacket e.host p)) :
    Ending (MayEnd w (rxHeader e.host p)) P D w (cspRdpNewPacket e p w) := by
  have hp' : sizeofRdpHeader < (rxPacket e.host p).length.toNat → P (rxPacket e.host p) := by
    rwa [length_rxPacket]
  exact cspRdpNewPacket_induct (P := Ending (MayEnd w (rxHeader e.host p)) P D w)
    (fun hr => newPacketRst_ending e hr _ hs)
    (fun _ _ => (newPacketClosed_ending e _ _ hs).mono .inl)
    (fun _ _ => (newPacketSynSent_ending e _ _ hs).mono .inl)
    (fun _ _ => (newPacketOpen_ending hPD e _ hs hp').mono .inl)
    fun _ _ => .handled (newPacketCloseWait_handling e _ _ hs)

/-! ### `csp_rdp_check_timeouts`, `csp_rdp_connect`, `csp_read` -/

/-- The connection's time is up. -/
def TimedOut (e : Env) (w : World) : Prop :=
  cspRdpTimeAfter (e.getMs w.tick) (w.conn.timestamp + w.conn.rdp.connTimeout) = true

/-- **A look at the timeouts** ends a connection whose time is over. -/
theorem cspRdpCheckTimeouts_ending (e : Env) (hs : AllStored P w.conn) :
    Ending ((w.conn.rxSocket ≠ none ∨ w.conn.rdp.state = .rdpCloseWait) ∧ TimedOut e w) P D w
      (cspRdpCheckTimeouts e w) := by
  have hnext : Handling P D w w.next := (Inert.next w).handling D hs
  have hclose : Ending True P D w (cspClose e w.next).2 :=
    hnext.ending rfl (cspClose_ending e hnext.stored)
  unfold cspRdpCheckTimeouts
  simp only
  split
  · rename_i h
    rw [Bool.and_eq_true] at h
    exact hclose.mono fun _ => ⟨.inl (Option.isSome_iff_ne_none.1 h.1), h.2⟩
  · split
    · rename_i hst
      split
      · rename_i ht
        exact hclose.mono fun _ => ⟨.inr hst, ht⟩
      · exact .handled hnext
    · have hwake : ∀ v, Inert v (cspRdpWake v) := fun v => by
        unfold cspRdpWake
        split
        · exact .of_eq rfl rfl rfl rfl
        · exact .refl v
      exact .handled (hnext.inert ((cspRdpCheckMessages_inert e _ _).trans
        ((cspRdpCheckAck_inert e _).trans (hwake _))))

/-- The second SYN is inert. -/
theorem connectRetry_inert (e : Env) (w : World) : Inert w (connectRetry e w).2 :=
  connectRetry_induct (P := Inert w) (fun _ h => h.trans (.of_eq rfl rfl rfl rfl))
    (fun v h => h.trans (cspRdpSendSyn_inert e v)) (fun _ h => h.trans (.of_eq rfl rfl rfl rfl))
    (.refl w)

/-- `csp_rdp_connect` is inert up to its wait. -/
theorem cspRdpConnect_inert (e : Env) (w : World) : Inert w (cspRdpConnect e w).2 := by
  have happly : Inert w (applyOptions e w) := .of_eq rfl rfl rfl rfl
  exact happly.trans (connectRetry_inert e _)

/-- Emptying the RDP queues leaves nothing stored. -/
theorem cspRdpFlushAll_handling (w : World) : Handling P D w (cspRdpFlushAll w) := by
  obtain ⟨evs, hl, hevs⟩ := cspRdpFlushAll_silently w
  exact ⟨rfl, fun x hx => absurd hx List.not_mem_nil, evs, hl, fun st q hq => (hevs _ hq).elim,
    .none (accepts_silent hevs)⟩

/-- A task that waited in `csp_rdp_connect` ends nothing. -/
theorem cspRdpConnectWoken_handling (e : Env) (retry : Bool) (hs : AllStored P w.conn) :
    Handling P D w (cspRdpConnectWoken e retry w).2 ∧
      (cspRdpConnectWoken e retry w).2.conn.rxSocket = w.conn.rxSocket := by
  have hrefl : Handling P D w w := (Inert.refl w).handling D hs
  have herror : Handling P D w (connectError w).2 := hrefl.inert (.of_eq rfl rfl rfl rfl)
  unfold cspRdpConnectWoken
  split
  · exact ⟨hrefl, rfl⟩
  · split
    · have hretry := connectRetry_inert e (cspRdpFlushAll w)
      exact ⟨(cspRdpFlushAll_handling w).inert hretry, hretry.rxSocket⟩
    · exact ⟨herror, rfl⟩
  · exact ⟨herror, rfl⟩

/-- `csp_read` hands over what was delivered before. -/
theorem cspRead_handling (e : Env) (hs : AllStored P w.conn) : Handling P D w (cspRead e w).2 := by
  have hpacket : ∀ v, Inert v (readPacket v).2 := fun v => by
    obtain ⟨q, h⟩ := readPacket_world v
    rw [h]
    exact .of_eq rfl rfl rfl rfl
  refine Inert.handling D ?_ hs
  unfold cspRead
  split
  · exact .refl w
  · split
    · exact .refl w
    · rename_i _ ev _
      have hev : Inert w { w with conn.rxEvent := ev } := .of_eq rfl rfl rfl rfl
      simp only
      split
      · exact (hev.trans (hpacket _)).trans (cspRdpCheckAck_inert e _)
      · exact hev.trans (hpacket _)

/-- `csp_rdp_send` is inert up to its wait. -/
theorem sendEnter_inert (e : Env) (p : CspPacket) (w : World) :
    Inert w (sendEnter e p w).world :=
  sendEnter_world (P := Inert w) (.refl w) (.of_eq rfl rfl rfl rfl) (cspSendCommit_inert e p w)

end Ending

end LibCSP
