/-
# Closing and timeouts

Closing a connection is calm: it sends a RST with the present `rcv_cur`, and
later empties every queue, but it delivers nothing and moves no sequence number.
Of the control fields it changes the state only, to `RDP_CLOSE_WAIT` and from
there to `RDP_CLOSED` (`Closes`).  `csp_rdp_check_timeouts` closes, or
retransmits and acknowledges; on the second way it may post the semaphore
(`cspRdpCheckTimeouts_control`).
-/

import LibCSP.Basis.Ledger
import LibCSP.Rdp.Quiet

namespace LibCSP

open Basis

/-- A connection in state `st` may be closed to `st'`. -/
def RdpState.Closing (st st' : RdpState) : Prop :=
  st' = st ∨ st' = .rdpCloseWait ∨ st' = .rdpClosed

/-- A calm call that changes the state, if anything, towards `RDP_CLOSED`. -/
structure Closes (w w' : World) : Prop extends Calm w w' where
  control : ∃ st, w.conn.rdp.state.Closing st ∧ w'.control = { w.control with state := st }

/-- A quiet call closes nothing, and is a special case. -/
theorem Quiet.closes {w w' : World} (h : Quiet w w') : Closes w w' :=
  ⟨h.toCalm, w.conn.rdp.state, .inl rfl, h.control⟩

/-- Two such calls, one after the other. -/
theorem Closes.trans {w w' w'' : World} (h₁ : Closes w w') (h₂ : Closes w' w'') : Closes w w'' := by
  obtain ⟨st₁, hst₁, e₁⟩ := h₁.control
  obtain ⟨st₂, hst₂, e₂⟩ := h₂.control
  refine ⟨h₁.toCalm.trans h₂.toCalm, st₂, ?_, by rw [e₂, e₁]⟩
  rcases hst₂ with rfl | hst₂
  · rwa [show w'.conn.rdp.state = st₁ from congrArg Control.state e₁]
  · exact .inr hst₂

/-- Only the state and the time stamp of the connection change. -/
theorem Closes.setState {w w' : World} {st : RdpState} (h : st = .rdpCloseWait ∨ st = .rdpClosed)
    (hc : w'.control = { w.control with state := st }) (hi : w'.inbound = w.inbound)
    (ht : w'.conn.rdp.txQueue = w.conn.rdp.txQueue) (hl : w'.log = w.log) : Closes w w' where
  rcvCur := congrArg Inbound.rcvCur hi
  sndNxt := congrArg Control.sndNxt hc
  stored := by
    have : w'.conn.rdp.rxQueue = w.conn.rdp.rxQueue := congrArg Inbound.reorder hi
    rw [this]
  retained := fun x hx => .refl (ht ▸ hx)
  user := fun h => by
    have h₁ : w'.conn.rxEvent = w.conn.rxEvent := congrArg Inbound.rxEvent hi
    have h₂ : w'.conn.rxQueue = w.conn.rxQueue := congrArg Inbound.rxQueue hi
    rwa [Conn.UserOk, h₁, h₂]
  log := ⟨[], by rw [hl, List.append_nil], by simp⟩
  control := ⟨st, .inr h, hc⟩

/-! ### Emptying the queues -/

/-- `csp_conn_flush_rx_queue` touches the user's queues only. -/
theorem cspConnFlushRxQueue_closes (w : World) : Closes w (cspConnFlushRxQueue w) where
  rcvCur := rfl
  sndNxt := rfl
  stored := .refl _
  retained := fun _ hx => .refl hx
  user := fun _ => by
    show 0 = ∑ _ : Fin cspPriorities, 0
    rw [Finset.sum_const_zero]
  log := by
    refine ⟨_, rfl, fun ev hev => ?_⟩
    obtain ⟨i, -, hev⟩ := List.mem_flatMap.1 hev
    obtain ⟨p, -, rfl⟩ := List.mem_map.1 hev
    trivial
  control := ⟨_, .inl rfl, rfl⟩

/-- `csp_rdp_flush_all` empties the RDP queues. -/
theorem cspRdpFlushAll_closes (w : World) : Closes w (cspRdpFlushAll w) where
  rcvCur := rfl
  sndNxt := rfl
  stored := List.nil_subperm
  retained := fun _ hx => absurd hx List.not_mem_nil
  user := id
  log := by
    refine ⟨_, rfl, fun ev hev => ?_⟩
    obtain ⟨p, -, rfl⟩ := List.mem_map.1 hev
    trivial
  control := ⟨_, .inl rfl, rfl⟩

/-! ### `csp_close` -/

/-- Going to `RDP_CLOSE_WAIT` sends a reset and notes the time. -/
theorem enterCloseWait_closes (e : Env) (w : World) : Closes w (enterCloseWait e w) :=
  .setState (.inl rfl) rfl rfl rfl rfl

/-- Enter `RDP_CLOSE_WAIT` and answer with RST|ACK. -/
theorem sendRst_closes (e : Env) (w : World) :
    Closes w (cspRdpSendCmp e none .rstAck (enterCloseWait e w).conn.rdp.sndNxt
      (enterCloseWait e w).conn.rdp.rcvCur (enterCloseWait e w)).2 :=
  (enterCloseWait_closes e w).trans (cspRdpSendCmp_none_quiet fun _ => rfl).closes

/-- The first half of `csp_close`. -/
theorem cspRdpClose_closes (e : Env) (w : World) : Closes w (cspRdpClose e w).2 := by
  unfold cspRdpClose
  split
  · exact (Quiet.refl w).closes
  · exact .setState (.inr rfl) rfl rfl rfl rfl
  · exact sendRst_closes e w

/-- The second half, for the state and the queues. -/
theorem cspCloseNow_closes (e : Env) (w : World) : Closes w (cspCloseNow e w).2 := by
  have h₁ : Quiet w { w.next with conn.state := .connClosed } := .of_eq rfl rfl rfl rfl
  have h₂ := h₁.closes.trans (cspConnFlushRxQueue_closes { w.next with conn.state := .connClosed })
  unfold cspCloseNow
  split
  · simp only
    split
    · exact h₂.trans (cspRdpFlushAll_closes _)
    · exact h₂
  · exact (Quiet.next w).closes

/-- **`csp_close` moves the state towards `RDP_CLOSED` and is calm.** -/
theorem cspClose_closes (e : Env) (w : World) : Closes w (cspClose e w).2 := by
  have h := cspRdpClose_closes e w
  unfold cspClose
  split
  · exact (Quiet.refl w).closes
  · split
    · simp only
      split
      · exact h
      · exact h.trans (cspCloseNow_closes e _)
    · exact cspCloseNow_closes e w

/-- A discarded packet changes nothing but the log. -/
theorem discardOpen_quiet (p : CspPacket) (w : World) : Quiet w (discardOpen p w) := .free w p

/-- **`discard_close` closes the connection or leaves it as it is.** -/
theorem discardClose_closes (e : Env) (p : CspPacket) (w : World) :
    Closes w (discardClose e p w) := by
  unfold discardClose
  split
  · exact (discardOpen_quiet p w).closes
  · exact (cspClose_closes e w).trans (discardOpen_quiet p _).closes

/-! ### Timeouts -/

/-- The router may post the semaphore: the connection is open and the window has room. -/
def Control.MayPost (c : Control) : Prop :=
  c.state = .rdpOpen ∧
    cspRdpSeqBefore (c.sndNxt - c.sndUna) ((c.windowSize * 2).setWidth 16) = true

/-- Waking the sender delivers nothing. -/
theorem cspRdpWake_calm (w : World) : Calm w (cspRdpWake w) := by
  unfold cspRdpWake
  split
  · exact ⟨rfl, rfl, .refl _, fun _ hx => .refl hx, id, [], (List.append_nil _).symm, by simp⟩
  · exact .refl w

/-- It changes the semaphore only, and only when a sender may wait. -/
theorem cspRdpWake_control (w : World) : (cspRdpWake w).control = w.control ∨
    (w.control.MayPost ∧ (cspRdpWake w).control = { w.control with txWait := true }) := by
  unfold cspRdpWake
  split
  · rename_i h
    exact .inr ⟨⟨h.1, h.2.2⟩, rfl⟩
  · exact .inl rfl

/-- `csp_rdp_check_timeouts` closes or is quiet, and posts the semaphore at its end. -/
theorem cspRdpCheckTimeouts_cases (e : Env) (w : World) : Closes w (cspRdpCheckTimeouts e w) ∨
    ∃ w', Quiet w w' ∧ cspRdpCheckTimeouts e w = cspRdpWake w' := by
  have hclose : Closes w (cspClose e w.next).2 := (Quiet.next w).closes.trans (cspClose_closes e _)
  unfold cspRdpCheckTimeouts
  simp only
  split
  · exact .inl hclose
  · split
    · split
      · exact .inl hclose
      · exact .inl (Quiet.next w).closes
    · exact .inr ⟨_, (Quiet.next w).trans
        ((cspRdpCheckMessages_quiet e _ _).trans (cspRdpCheckAck_quiet e _)), rfl⟩

/-- **`csp_rdp_check_timeouts` is calm.** -/
theorem cspRdpCheckTimeouts_calm (e : Env) (w : World) : Calm w (cspRdpCheckTimeouts e w) := by
  rcases cspRdpCheckTimeouts_cases e w with h | ⟨w', hw, h⟩
  · exact h.toCalm
  · rw [h]
    exact hw.toCalm.trans (cspRdpWake_calm w')

/-- **Of the control fields `csp_rdp_check_timeouts` changes the state, towards
closed, or posts the semaphore when the window has room.** -/
theorem cspRdpCheckTimeouts_control (e : Env) (w : World) :
    (∃ st, w.conn.rdp.state.Closing st ∧
        (cspRdpCheckTimeouts e w).control = { w.control with state := st }) ∨
      (w.control.MayPost ∧
        (cspRdpCheckTimeouts e w).control = { w.control with txWait := true }) := by
  rcases cspRdpCheckTimeouts_cases e w with h | ⟨w', hw, h⟩
  · exact .inl h.control
  · rw [h]
    rcases cspRdpWake_control w' with h | ⟨hp, h⟩
    · exact .inl ⟨_, .inl rfl, h.trans hw.control⟩
    · rw [hw.control] at hp h
      exact .inr ⟨hp, h⟩

/-! ### `csp_read` -/

/-- The receive queues hold as many packets as `rx_event` events: an event
leaves together with a packet. -/
theorem readPrio_isSome {c : Conn} (h : 0 < ∑ prio, (c.rxQueue prio).size) :
    (readPrio c).isSome = true := by
  unfold readPrio
  rw [List.find?_isSome]
  obtain ⟨prio, hp⟩ : ∃ prio, (c.rxQueue prio).size ≠ 0 := by
    by_contra hn
    rw [not_exists] at hn
    rw [Finset.sum_eq_zero fun prio _ => not_not.1 (hn prio)] at h
    exact absurd h (lt_irrefl 0)
  exact ⟨prio, List.mem_finRange prio, decide_eq_true hp⟩

/-- Replacing the user's queues by queues that agree is calm. -/
theorem Calm.setUser {w : World} {q : Fin cspPriorities → Queue CspPacket cspRxQueueLength}
    {ev : Queue Unit cspConnQueueLength}
    (h : w.conn.UserOk → ev.size = ∑ prio, (q prio).size) :
    Calm w { w with conn.rxQueue := q, conn.rxEvent := ev } :=
  ⟨rfl, rfl, .refl _, fun _ hx => .refl hx, h, [], (List.append_nil _).symm, by simp⟩

/-- One of the user's queues changes, and the sum by the difference. -/
theorem sum_size_update {c : Conn} (prio : Fin cspPriorities)
    (q : Queue CspPacket cspRxQueueLength) :
    ∑ i, (Function.update c.rxQueue prio q i).size + (c.rxQueue prio).size =
      ∑ i, (c.rxQueue i).size + q.size :=
  sum_update_add Queue.size c.rxQueue prio q

/-- An event and a packet leave together. -/
theorem readPacket_calm {w : World} {ev : Queue Unit cspConnQueueLength}
    (hev : w.conn.rxEvent.items = () :: ev.items) :
    Calm w (readPacket { w with conn.rxEvent := ev }).2 ∧
      (readPacket { w with conn.rxEvent := ev }).2.control = w.control := by
  have hsize : w.conn.rxEvent.size = ev.size + 1 := congrArg List.length hev
  unfold readPacket
  cases hp : readPrio { w with conn.rxEvent := ev }.conn with
  | none =>
    refine ⟨Calm.setUser (q := w.conn.rxQueue) fun h => ?_, rfl⟩
    have hs := readPrio_isSome (c := { w with conn.rxEvent := ev }.conn) (by rw [← h, hsize]; omega)
    rw [hp] at hs
    exact absurd hs Bool.false_ne_true
  | some prio =>
    simp only
    cases hq : (w.conn.rxQueue prio).dequeue with
    | none =>
      have h₁ := List.find?_some hp
      have h₂ : (w.conn.rxQueue prio).items = [] := Queue.dequeue_eq_none.1 hq
      exact absurd (congrArg List.length h₂) (of_decide_eq_true h₁)
    | some r =>
      obtain ⟨p, q⟩ := r
      have h₂ : (w.conn.rxQueue prio).size = q.size + 1 :=
        congrArg List.length (Queue.dequeue_eq_some.1 hq)
      refine ⟨Calm.setUser fun h => ?_, rfl⟩
      have hu := sum_size_update (c := w.conn) prio q
      unfold Conn.UserOk at h
      omega

/-- **`csp_read` is calm** and leaves the control fields alone. -/
theorem cspRead_calm (e : Env) (w : World) :
    Calm w (cspRead e w).2 ∧ (cspRead e w).2.control = w.control := by
  unfold cspRead
  split
  · exact ⟨.refl w, rfl⟩
  · split
    · exact ⟨.refl w, rfl⟩
    · rename_i _ ev hev
      obtain ⟨hcalm, hcontrol⟩ := readPacket_calm (Queue.dequeue_eq_some.1 hev)
      simp only
      split
      · have hq := cspRdpCheckAck_quiet e (readPacket { w with conn.rxEvent := ev }).2
        exact ⟨hcalm.trans hq.toCalm, hq.control.trans hcontrol⟩
      · exact ⟨hcalm, hcontrol⟩

end LibCSP
