/-
# What an end tells the other one

An end tells the other one where its numbers start, with its SYNs, and what it has stored, with
its EACKs.  `Truthful o iss tm K w` says, of the initial number `iss` and a set `K` of numbers that
have come in: every segment on the wire, however old, is a SYN with the number `iss` or has an ACK
number, and the EACKs list only numbers of `K`.  For the reorder queue holds nothing else, and the
retransmit queue holds no EACK that could be sent again (`Plain`).  Each function of `csp_rdp.c`
that is called in `RDP_OPEN` keeps it (`step_truthful`), the data path if the number of the packet
is in `K`.
-/

import LibCSP.Rdp.Eack
import LibCSP.Rdp.Gapless

namespace LibCSP

open Basis

/-! ### Packets -/

/-- A segment of a connection that starts with `iss`: a SYN with this number, or an
acknowledgement. -/
structure Spoken (iss : U16) (p : CspPacket) : Prop where
  header : 5 ≤ p.length.toNat
  syn : (wireHeader p).syn = true → (wireHeader p).seqNr = iss
  ack : (wireHeader p).syn = false → (wireHeader p).ack = true

/-- A segment that is no EACK with entries. -/
structure Plain (iss : U16) (p : CspPacket) : Prop extends Spoken iss p where
  entries : 5 < p.length.toNat → (wireHeader p).eak = false

/-- A segment whose entries are numbers of `K` if it is an EACK. -/
structure Tells (iss : U16) (K : U16 → Prop) (p : CspPacket) : Prop extends Spoken iss p where
  entries : (wireHeader p).eak = true → ∀ j, 2 * j + 1 < p.length.toNat - 5 → K (wireEntry p j)

/-- A plain segment tells nothing about what was received. -/
theorem Plain.tells {iss : U16} {p : CspPacket} (h : Plain iss p) (K : U16 → Prop) :
    Tells iss K p := by
  refine ⟨h.toSpoken, fun heak j hj => ?_⟩
  have hnot := h.entries (by omega)
  rw [hnot] at heak
  exact absurd heak Bool.false_ne_true

/-- The flags and the number make it. -/
theorem Spoken.of_wire {iss : U16} {x y : CspPacket} (h : Spoken iss x)
    (hl : y.length = x.length) (hf : (wireHeader y).flags = (wireHeader x).flags)
    (hs : (wireHeader y).seqNr = (wireHeader x).seqNr) : Spoken iss y := by
  refine ⟨hl ▸ h.header, fun hsyn => ?_, fun hsyn => ?_⟩
  · rw [hs]
    refine h.syn ?_
    unfold RdpHeader.syn at hsyn ⊢
    rwa [← hf]
  · have hack : (wireHeader x).ack = true := h.ack (by
      unfold RdpHeader.syn at hsyn ⊢
      rwa [← hf])
    unfold RdpHeader.ack at hack ⊢
    rwa [hf]

/-- Plainness is a property of length, flags and number. -/
theorem Plain.of_wire {iss : U16} {x y : CspPacket} (h : Plain iss x)
    (hl : y.length = x.length) (hf : (wireHeader y).flags = (wireHeader x).flags)
    (hs : (wireHeader y).seqNr = (wireHeader x).seqNr) : Plain iss y := by
  refine ⟨h.toSpoken.of_wire hl hf hs, fun hlen => ?_⟩
  have heak := h.entries (hl ▸ hlen)
  unfold RdpHeader.eak at heak ⊢
  rwa [hf]

/-- The same segment is plain, too. -/
theorem Plain.of_same {iss : U16} {x y : CspPacket} (h : Plain iss x) (hs : SameSegment x y) :
    Plain iss y := h.of_wire hs.length.symm hs.flags.symm hs.seqNr.symm

/-- What is stored in the place of the ACK number leaves the flags and the number. -/
theorem wireHeader_storeAck {o : ByteOrder} {x : CspPacket} (hx : 5 ≤ x.length.toNat) (a : U16) :
    wireHeader (cspRdpHeaderStore o x { cspRdpHeaderRef o x with ackNr := a }) =
      { wireHeader x with ackNr := hton16 o a } := by
  have hl := length_headerStore (o := o) hx { cspRdpHeaderRef o x with ackNr := a }
  have hr := cspRdpHeaderRef_store (o := o) hx { cspRdpHeaderRef o x with ackNr := a }
  obtain ⟨f₁, s₁, -⟩ := hton16_headerRef (o := o) hx
  obtain ⟨f₂, s₂, a₂⟩ := hton16_headerRef (o := o)
    (p := cspRdpHeaderStore o x { cspRdpHeaderRef o x with ackNr := a }) (by rwa [hl])
  rw [hr] at f₂ s₂ a₂
  have hflags := f₂.symm.trans f₁
  have hseq := s₂.symm.trans s₁
  generalize wireHeader (cspRdpHeaderStore o x _) = v at hflags hseq a₂ ⊢
  obtain ⟨f, s, n⟩ := v
  exact RdpHeader.mk.injEq .. ▸ ⟨hflags, hseq, a₂.symm⟩

/-- A new ACK number makes no EACK. -/
theorem Plain.store {iss : U16} {o : ByteOrder} {x : CspPacket} (h : Plain iss x) (a : U16) :
    Plain iss (cspRdpHeaderStore o x { cspRdpHeaderRef o x with ackNr := a }) := by
  have hwire := wireHeader_storeAck (o := o) h.header a
  exact h.of_wire (length_headerStore_flags o x _ a) (by rw [hwire]) (by rw [hwire])

/-- What `csp_rdp_flush_eack` puts back is no EACK. -/
theorem Plain.flushed {iss : U16} {e : Env} {eack : CspPacket} {w : World} {x y : CspPacket}
    (h : Plain iss x) (hy : (flushEackEntry e eack w x).2 = some y) : Plain iss y := by
  have hout := flushEackEntry_outcome e eack w x
  split at hout
  · rw [hout.1] at hy
    exact absurd hy (by simp)
  · obtain ⟨⟨z, hz, t, q, rfl⟩, -⟩ := hout
    obtain rfl := Option.some.inj (hz.symm.trans hy)
    exact h.of_same (sameSegment_of_eq rfl rfl)

/-- What `csp_rdp_check_timeouts` puts back is no EACK. -/
theorem Plain.kept {iss : U16} {e : Env} {now : U32} {w : World} {x y : CspPacket}
    (h : Plain iss x) (hy : (timeoutEntry e now w x).2 = some y) : Plain iss y := by
  unfold timeoutEntry at hy
  simp only at hy
  split at hy
  · exact absurd hy (by simp)
  · split at hy
    · obtain rfl := Option.some.inj hy
      exact (h.store _).of_same (sameSegment_of_eq rfl rfl)
    · obtain rfl := Option.some.inj hy
      exact h

section Header

variable {iss : U16} {o : ByteOrder} {p : CspPacket} {f : RdpFlags} {s a : U16}

/-- A packet to which a header was added. -/
theorem spoken_add (hp : p.length.toNat + 5 < 2 ^ 16) (hsyn : f.syn = true → s = iss)
    (hack : f.syn = false → f.ack = true) :
    Spoken iss (cspRdpHeaderAdd o p ⟨f.byte, hton16 o s, hton16 o a⟩) := by
  obtain ⟨-, -, hackbit, hsynbit⟩ := f.bits s a
  refine ⟨?_, ?_, ?_⟩
  · rw [length_headerAdd hp]
    exact Nat.le_add_left 5 _
  · rw [wireHeader_add hp, hsynbit]
    exact hsyn
  · rw [wireHeader_add hp, hsynbit, hackbit]
    exact hack

/-- **What is plain when it is built.** -/
theorem plain_add (hp : p.length.toNat + 5 < 2 ^ 16) (hf : p.length = 0 ∨ f.eak = false)
    (hsyn : f.syn = true → s = iss) (hack : f.syn = false → f.ack = true) :
    Plain iss (cspRdpHeaderAdd o p ⟨f.byte, hton16 o s, hton16 o a⟩) := by
  refine ⟨spoken_add hp hsyn hack, fun hl => ?_⟩
  rcases hf with hzero | heak
  · rw [length_headerAdd hp, hzero] at hl
    exact absurd hl (by decide)
  · rw [wireHeader_add hp]
    exact ((f.bits s a).2.1).trans heak

end Header

/-! ### States -/

/-- What the handshake settles: where the numbers of the other end start, and the options. -/
structure Terms where
  irs : U16
  opts : RdpOptions

def Rdp.terms (rdp : Rdp) : Terms where
  irs := rdp.rcvIrs
  opts :=
    { windowSize := rdp.windowSize
      connTimeout := rdp.connTimeout
      packetTimeout := rdp.packetTimeout
      delayedAcks := rdp.delayedAcks
      ackTimeout := rdp.ackTimeout
      ackDelayCount := rdp.ackDelayCount }

/-- On these terms, what the end holds and has told is of `K`. -/
structure Truthful (o : ByteOrder) (iss : U16) (tm : Terms) (K : U16 → Prop) (w : World) :
    Prop where
  terms : w.conn.rdp.terms = tm
  stored : ∀ s ∈ w.conn.rdp.storedSeqs o, K s
  queued : ∀ x ∈ w.conn.rdp.txQueue.items, Plain iss x
  told : ∀ p, Event.transmit p ∈ w.log → Tells iss K p

namespace Truthful

variable {o : ByteOrder} {e : Env} {iss : U16} {tm : Terms} {K : U16 → Prop} {w w' : World}

/-- More knowledge makes no statement false; used where one more message comes in. -/
theorem mono {K' : U16 → Prop} (h : Truthful o iss tm K w) (hK : ∀ s, K s → K' s) :
    Truthful o iss tm K' w :=
  ⟨h.terms, fun s hs => hK s (h.stored s hs), h.queued, fun p hp =>
    ⟨(h.told p hp).toSpoken, fun heak j hj => hK _ ((h.told p hp).entries heak j hj)⟩⟩

/-- The facts that a step has to leave alone. -/
theorem of_eq (h : Truthful o iss tm K w) (hi : w'.conn.rdp.terms = w.conn.rdp.terms)
    (hr : w'.conn.rdp.rxQueue = w.conn.rdp.rxQueue)
    (ht : w'.conn.rdp.txQueue = w.conn.rdp.txQueue) (hl : w'.log = w.log) :
    Truthful o iss tm K w' := by
  refine ⟨hi.trans h.terms, fun s hs => h.stored s ?_, fun x hx => h.queued x (ht ▸ hx),
    fun p hp => h.told p (hl ▸ hp)⟩
  rwa [Rdp.storedSeqs, hr] at hs

/-- Nothing is transmitted, and the queues hold nothing new. -/
theorem of_log {evs : List Event} (h : Truthful o iss tm K w)
    (hi : w'.conn.rdp.terms = w.conn.rdp.terms)
    (hr : w'.conn.rdp.rxQueue.items ⊆ w.conn.rdp.rxQueue.items)
    (ht : ∀ x ∈ w'.conn.rdp.txQueue.items, Plain iss x) (hl : w'.log = w.log ++ evs)
    (hevs : ∀ p, Event.transmit p ∈ evs → Tells iss K p) : Truthful o iss tm K w' := by
  refine ⟨hi.trans h.terms, fun s hs => h.stored s (List.map_subset _ hr hs), ht,
    fun p hp => ?_⟩
  rw [hl, List.mem_append] at hp
  exact hp.elim (h.told p) (hevs p)

/-- An event that tells the truth. -/
theorem emit {ev : Event} (h : Truthful o iss tm K w)
    (hev : ∀ p, ev = .transmit p → Tells iss K p) :
    Truthful o iss tm K (w.emit ev) :=
  h.of_log rfl (fun _ hx => hx) h.queued rfl fun p hp => hev p (List.mem_singleton.1 hp).symm

/-- The clock tells nothing. -/
theorem next (h : Truthful o iss tm K w) : Truthful o iss tm K w.next := h.of_eq rfl rfl rfl rfl

/-- A release tells nothing. -/
theorem free (h : Truthful o iss tm K w) (p : CspPacket) : Truthful o iss tm K (w.free p) :=
  h.emit fun _ heq => nomatch heq

/-- An allocation tells nothing. -/
theorem alloc (h : Truthful o iss tm K w) (buf : ℕ) :
    Truthful o iss tm K (w.next.emit (.alloc buf)) :=
  h.next.emit fun _ heq => nomatch heq

/-! ### Sending -/

/-- A segment that is sent at once, and tells the truth. -/
theorem sendNow {p : CspPacket} (h : Truthful o iss tm K w) (hp : Tells iss K p) (f : RdpFlags)
    (a : U16) :
    Truthful o iss tm K (cspRdpSendNow e p f a w).2 := by
  have hsent : Truthful o iss tm K (w.next.emit (.transmit { p with id := w.conn.idout })) := by
    refine h.next.emit fun q hq => ?_
    obtain rfl := Event.transmit.inj hq
    exact ⟨⟨hp.header, hp.syn, hp.ack⟩, hp.entries⟩
  rcases cspRdpSendNow_cases e p f a w with ⟨-, -, now, hw⟩ | ⟨-, -, hw⟩ | ⟨-, hw⟩
  · rw [hw]
    exact hsent.of_eq rfl rfl rfl rfl
  · rw [hw]
    exact hsent
  · rw [hw]
    exact h.next.free p

/-- The copy of a SYN is no EACK. -/
theorem retain {c : CspPacket} (h : Truthful o iss tm K w) (hc : Plain iss c) :
    Truthful o iss tm K (cspRdpRetain c w) := by
  unfold cspRdpRetain
  cases hq : w.conn.rdp.txQueue.enqueue c with
  | none => exact h.free c
  | some q =>
    obtain ⟨-, hitems⟩ := Queue.enqueue_eq_some.1 hq
    refine ⟨h.terms, h.stored, fun x hx => ?_, h.told⟩
    change x ∈ q.items at hx
    rw [hitems, List.mem_append, List.mem_singleton] at hx
    rcases hx with hx | rfl
    · exact h.queued x hx
    · exact hc

/-- **A packet that is no EACK** may be sent with any flags. -/
theorem sendPacket {p : CspPacket} {f : RdpFlags} {s a : U16} (h : Truthful o iss tm K w)
    (hp : Plain iss (cspRdpHeaderAdd e.host p ⟨f.byte, hton16 e.host s, hton16 e.host a⟩)) :
    Truthful o iss tm K (cspRdpSendPacket e p f s a w).2 := by
  rcases cspRdpSendPacket_cases e p f s a w with hb | ⟨tx, rfl, hb | ⟨buf, t, hb⟩⟩
  · rw [hb]
    exact h.next
  · rw [hb]
    exact h.sendNow (hp.tells K) f a
  · rw [hb]
    refine Truthful.sendNow ((h.alloc buf).next.retain ?_) (hp.tells K) f a
    exact hp.of_same (sameSegment_of_eq rfl rfl)

/-- **An empty control message tells nothing.** -/
theorem sendCmp (h : Truthful o iss tm K w) {f : RdpFlags} {s : U16} (hsyn : f.syn = true → s = iss)
    (hack : f.syn = false → f.ack = true) (a : U16) :
    Truthful o iss tm K (cspRdpSendCmp e none f s a w).2 := by
  rcases cspRdpSendCmp_none_cases e f s a w with hb | ⟨b, hb⟩
  · rw [hb]
    exact h.next
  · rw [hb]
    exact (h.alloc b.buf).sendPacket (plain_add (Nat.lt_of_sub_eq_succ rfl) (.inl rfl) hsyn hack)

/-- **An EACK tells what is stored.** -/
theorem sendEack (h : Truthful e.host iss tm K w) :
    Truthful e.host iss tm K (cspRdpSendEack e w).2 := by
  rcases cspRdpSendEack_cases e w with hb | ⟨b, hb⟩
  · rw [hb]
    exact h.next
  · have hcap := w.conn.rdp.rxQueue.le
    unfold cspRdpMaxWindow at hcap
    obtain ⟨hlen, hlists⟩ := @foldl_eackEntry e.host { b with length := 0 } []
      w.conn.rdp.rxQueue.items rfl (fun j hj => absurd hj (Nat.not_lt_zero j)) (by
        rw [List.length_nil]
        omega)
    rw [List.length_nil, Nat.zero_add] at hlen
    rw [List.nil_append] at hlists
    rw [hb]
    generalize w.conn.rdp.rxQueue.items.foldl (eackEntry e.host) { b with length := 0 } = eack
      at hlen hlists ⊢
    have hfit : eack.length.toNat + 5 < 2 ^ 16 := by omega
    refine (h.alloc b.buf).sendNow ⟨spoken_add hfit (fun hsyn => absurd hsyn (by decide))
      fun _ => rfl, fun _ j hj => ?_⟩ .ackEak _
    rw [length_headerAdd hfit, Nat.add_sub_cancel] at hj
    have hj' : j < (w.conn.rdp.rxQueue.items.map (hostSeq e.host)).length := by
      rw [List.length_map]
      omega
    have hbelow : ∀ i, i < eack.length.toNat → (cspRdpHeaderAdd e.host eack
        ⟨RdpFlags.ackEak.byte, hton16 e.host w.conn.rdp.sndNxt,
          hton16 e.host w.conn.rdp.rcvCur⟩).data i = eack.data i := fun i hi => if_neg (by omega)
    rw [wireEntry_congr hbelow (by omega), hlists j hj']
    exact h.stored _ (List.getElem_mem hj')

/-- The question whether to acknowledge tells nothing. -/
theorem shouldAck (h : Truthful o iss tm K w) : Truthful o iss tm K (cspRdpShouldAck e w).2 := by
  unfold cspRdpShouldAck
  split
  · exact h
  · exact h.next

/-- The ACK that may be due tells nothing more. -/
theorem ackIfShould (h : Truthful o iss tm K w) :
    Truthful o iss tm K (if (cspRdpShouldAck e w).1 then
        (cspRdpSendCmp e none .ackOnly (cspRdpShouldAck e w).2.conn.rdp.sndNxt
          (cspRdpShouldAck e w).2.conn.rdp.rcvCur (cspRdpShouldAck e w).2).2
      else (cspRdpShouldAck e w).2) := by
  split
  · exact h.shouldAck.sendCmp (fun hsyn => absurd hsyn (by decide)) (fun _ => rfl) _
  · exact h.shouldAck

/-- So the delayed ACK tells the truth. -/
theorem checkAck (h : Truthful o iss tm K w) : Truthful o iss tm K (cspRdpCheckAck e w) := by
  unfold cspRdpCheckAck
  split
  · split
    · exact h.ackIfShould
    · exact h
  · exact h

/-- The answer to a data packet may be an EACK, which lists what is in the reorder queue. -/
theorem dataAck (h : Truthful o iss tm K w) (p : CspPacket) :
    Truthful o iss tm K (dataAck e p w) := by
  unfold LibCSP.dataAck
  split
  · exact h.ackIfShould
  · exact h

/-! ### The two loops over the retransmit queue -/

/-- What an EACK frees tells nothing. -/
theorem flushEack (h : Truthful o iss tm K w) (eack : CspPacket) :
    Truthful o iss tm K (cspRdpFlushEack e eack w) := by
  obtain ⟨hlog, -⟩ := cspRdpFlushEack_flushes e eack w
  obtain ⟨hstate, hitems⟩ := Queue.sweep_size (flushEackEntry e eack) w w.conn.rdp.txQueue
  have hrx : (cspRdpFlushEack e eack w).conn.rdp.rxQueue = w.conn.rdp.rxQueue :=
    congrArg Inbound.reorder (cspRdpFlushEack_quiet e eack w).inbound
  have hconn : (Queue.sweepList (flushEackEntry e eack) w w.conn.rdp.txQueue.items).1.conn =
      w.conn := Queue.sweepList_state (I := fun v => v.conn = w.conn)
    (fun v x _ hv => ((Rotation.flushEack eack).entry_cases e v x).1.trans hv) rfl
  rw [← hstate] at hconn
  have hterms := congrArg (fun c : Conn => c.rdp.terms) hconn
  refine h.of_log hterms (by rw [hrx]; exact fun _ hx => hx)
    (fun y hy => ?_) hlog fun p hp => ?_
  · change y ∈ (Queue.sweep (flushEackEntry e eack) w.conn.rdp.txQueue.size w
      w.conn.rdp.txQueue).2.items at hy
    rw [hitems] at hy
    exact Queue.mem_sweepList (fun s x hx z hz => (h.queued x hx).flushed hz) y hy
  · obtain ⟨x, -, hx⟩ := List.mem_map.1 hp
    exact nomatch hx

/-- A retransmission tells what its packet told. -/
theorem retransmit {c : Option CspPacket} (h : Truthful o iss tm K w)
    (hc : ∀ p ∈ c, Tells iss K p) :
    Truthful o iss tm K (cspRdpRetransmit e c w) := by
  cases c with
  | none => exact h
  | some p =>
    rcases cspRdpRetransmit_cases e p w with ⟨-, hw⟩ | ⟨-, hw⟩
    · rw [hw]
      refine h.next.emit fun q hq => ?_
      obtain rfl := Event.transmit.inj hq
      have hp := hc p rfl
      exact ⟨⟨hp.header, hp.syn, hp.ack⟩, hp.entries⟩
    · rw [hw]
      exact h.next.free p

/-- So does the message loop for one element. -/
theorem timeoutEntry {x : CspPacket} (h : Truthful o iss tm K w) (hx : Plain iss x) (now : U32) :
    Truthful o iss tm K (timeoutEntry e now w x).1 := by
  unfold LibCSP.timeoutEntry
  simp only
  split
  · exact h.free x
  · split
    · refine Truthful.retransmit ?_ fun c hc => ?_
      · rcases cspBufferClone_cases e _ (cspGetMs e w).2 with hb | ⟨buf, hb⟩
        · rw [hb]
          exact h.next.next
        · rw [hb]
          exact h.next.alloc buf
      · obtain ⟨buf, rfl⟩ := mem_bufferClone hc
        have hstore := hx.store (o := e.host) (hton16 e.host w.conn.rdp.rcvCur)
        refine Plain.tells (Plain.of_same hstore (sameSegment_of_eq ?_ ?_)) K <;> rfl
    · exact h

/-- **A retransmission is no EACK.** -/
theorem checkMessages (h : Truthful o iss tm K w) (now : U32) :
    Truthful o iss tm K (cspRdpCheckMessages e now w) := by
  obtain ⟨hstate, hitems⟩ := Queue.sweep_size (LibCSP.timeoutEntry e now) w w.conn.rdp.txQueue
  have hworld : Truthful o iss tm K (Queue.sweepList (LibCSP.timeoutEntry e now) w
      w.conn.rdp.txQueue.items).1 :=
    Queue.sweepList_state (fun s x hx hs => hs.timeoutEntry (h.queued x hx) now) h
  rw [← hstate] at hworld
  refine ⟨hworld.terms, hworld.stored, fun y hy => ?_, hworld.told⟩
  change y ∈ (Queue.sweep (LibCSP.timeoutEntry e now) w.conn.rdp.txQueue.size w
    w.conn.rdp.txQueue).2.items at hy
  rw [hitems] at hy
  exact Queue.mem_sweepList (fun s x hx z hz => (h.queued x hx).kept hz) y hy

/-! ### Receiving -/

/-- **`csp_rdp_receive_data`** transmits nothing. -/
theorem receiveData (h : Truthful o iss tm K w) (p : CspPacket) :
    Truthful o iss tm K (cspRdpReceiveData e p w).2 := by
  have hrdp := cspRdpReceiveData_rdp e p w
  have hlog : ∃ evs, (cspRdpReceiveData e p w).2.log = w.log ++ evs ∧
      ∀ q, Event.transmit q ∉ evs := by
    have hpost : ∃ evs, (postHandle e w).2.log = w.log ++ evs ∧ ∀ q, Event.transmit q ∉ evs := by
      unfold postHandle
      split
      · exact ⟨[], (List.append_nil _).symm, fun _ => List.not_mem_nil⟩
      · split
        · exact ⟨[.accept _], rfl, by simp⟩
        · exact ⟨[], (List.append_nil _).symm, fun _ => List.not_mem_nil⟩
    obtain ⟨evs, hevs, hnone⟩ := hpost
    have hdeliver : ∀ st, (postHandle e w).2.log ++ [.deliver st (cspRdpHeaderRemove p)] =
        w.log ++ (evs ++ [.deliver st (cspRdpHeaderRemove p)]) := fun st => by
      rw [hevs, List.append_assoc]
    unfold cspRdpReceiveData cspConnEnqueuePacket
    simp only
    split
    · split
      · exact ⟨evs, hevs, hnone⟩
      · split
        · exact ⟨_, hdeliver _, fun q hq => by simp [hnone q] at hq⟩
        · exact ⟨_, hdeliver _, fun q hq => by simp [hnone q] at hq⟩
    · exact ⟨evs, hevs, hnone⟩
  obtain ⟨evs, hevs, hnone⟩ := hlog
  refine h.of_log (by rw [hrdp]) (by rw [hrdp]; exact fun _ hx => hx)
    (by rw [hrdp]; exact h.queued) hevs
    fun q hq => absurd hq (hnone q)

/-- The reorder queue may change to what is known. -/
theorem setReorder {q : Queue CspPacket (cspRdpMaxWindow * 2)} (h : Truthful o iss tm K w)
    (hq : ∀ x ∈ q.items, K (hostSeq o x)) : Truthful o iss tm K (w.setReorder q) := by
  refine ⟨h.terms, fun s hs => ?_, h.queued, h.told⟩
  obtain ⟨x, hx, rfl⟩ := List.mem_map.1 hs
  exact hq x hx

/-- A stored packet has a number of `K`. -/
theorem hostSeq (h : Truthful o iss tm K w) {x : CspPacket} (hx : x ∈ w.conn.rdp.rxQueue.items) :
    K (LibCSP.hostSeq o x) := h.stored _ (List.mem_map_of_mem hx)

/-- The flush stores nothing new. -/
theorem flushRounds (h : Truthful e.host iss tm K w) (n : ℕ) :
    Truthful e.host iss tm K (flushRounds e n w) := by
  refine flushRounds_induct (fun v v' hv hr => ?_) n h
  obtain ⟨pre, x, post, q, hitems, -, -, hq, rfl⟩ := flushRound_cases hr
  have hset : Truthful e.host iss tm K (v.setReorder q) := by
    refine hv.setReorder fun y hy => hv.hostSeq ?_
    rw [hq, List.mem_append] at hy
    rw [hitems, List.mem_append, List.mem_cons]
    exact hy.elim (fun hpost => .inr (.inr hpost)) .inl
  exact (hset.receiveData x).of_eq rfl rfl rfl rfl

/-- **The data path** stores a packet if its number is of `K`. -/
theorem newPacketData {p : CspPacket} (h : Truthful e.host iss tm K w) (hl : 5 ≤ p.length.toNat)
    (hp : K (rxHeader e.host p).seqNr) :
    Truthful e.host iss tm K (newPacketData e (rxHeader e.host p) (rxPacket e.host p) w) := by
  unfold LibCSP.newPacketData
  simp only
  split
  · rcases cspRdpRxQueueAdd_cases e (rxPacket e.host p) (rxHeader e.host p).seqNr w with
      ⟨hr, -, q, hq, hperm⟩ | ⟨hr, q, hq, hperm⟩
    · rw [hr, hq, if_pos rfl]
      refine (h.setReorder fun x hx => ?_).sendEack
      rcases List.mem_cons.1 (hperm.subset hx) with rfl | hx
      · rwa [hostSeq_rxPacket hl]
      · exact h.hostSeq hx
    · rw [hr, hq, if_neg Bool.false_ne_true]
      exact (h.setReorder fun x hx => h.hostSeq (hperm.subset hx)).free _
  · split
    · have hcur : Truthful e.host iss tm K { (cspRdpReceiveData e (rxPacket e.host p) w).2 with
          conn.rdp.rcvCur := (rxHeader e.host p).seqNr } := (h.receiveData _).of_eq rfl rfl rfl rfl
      exact (hcur.dataAck _).flushRounds _
    · exact (h.receiveData _).free _

/-! ### Closing, and the calls -/

/-- Closing tells nothing about what was received. -/
theorem close (h : Truthful o iss tm K w) : Truthful o iss tm K (cspClose e w).2 := by
  have hnow : ∀ v, Truthful o iss tm K v → Truthful o iss tm K (cspCloseNow e v).2 := fun v hv => by
    have hflush : Truthful o iss tm K
        (cspConnFlushRxQueue { v.next with conn.state := .connClosed }) := by
      refine hv.of_log rfl (fun _ hx => hx) hv.queued rfl fun p hp => ?_
      simp at hp
    unfold cspCloseNow
    split
    · simp only
      split
      · refine hflush.of_log rfl (fun _ hx => absurd hx List.not_mem_nil)
          (fun _ hx => absurd hx List.not_mem_nil) rfl fun p hp => ?_
        simp at hp
      · exact hflush
    · exact hv.next
  have hrdp : Truthful o iss tm K (cspRdpClose e w).2 := by
    unfold cspRdpClose
    split
    · exact h
    · exact h.of_eq rfl rfl rfl rfl
    · have henter : Truthful o iss tm K (enterCloseWait e w) := h.of_eq rfl rfl rfl rfl
      exact henter.sendCmp (fun hsyn => absurd hsyn (by decide)) (fun _ => rfl) _
  unfold cspClose
  split
  · exact h
  · split
    · simp only
      split
      · exact hrdp
      · exact hnow _ hrdp
    · exact hnow w h

/-- **A look at the timeouts tells the truth.** -/
theorem checkTimeouts (h : Truthful o iss tm K w) :
    Truthful o iss tm K (cspRdpCheckTimeouts e w) := by
  have hwake : ∀ v, Truthful o iss tm K v → Truthful o iss tm K (cspRdpWake v) := fun v hv => by
    unfold cspRdpWake
    split
    · exact hv.of_eq rfl rfl rfl rfl
    · exact hv
  unfold cspRdpCheckTimeouts
  simp only
  split
  · exact h.next.close
  · split
    · split
      · exact h.next.close
      · exact h.next
    · exact hwake _ (h.next.checkMessages _).checkAck

/-- `csp_read` tells nothing. -/
theorem read (h : Truthful o iss tm K w) : Truthful o iss tm K (cspRead e w).2 := by
  unfold cspRead
  split
  · exact h
  · split
    · exact h
    · rename_i ev _
      obtain ⟨q, hq⟩ := readPacket_world { w with conn.rxEvent := ev }
      have hread : Truthful o iss tm K (readPacket { w with conn.rxEvent := ev }).2 := by
        rw [hq]
        exact h.of_eq rfl rfl rfl rfl
      simp only
      split
      · exact hread.checkAck
      · exact hread

/-- **What `csp_rdp_send` takes is no EACK.** -/
theorem sending {p : CspPacket} (h : Truthful o iss tm K w) (hp : p.length.toNat + 5 < 2 ^ 16) :
    Truthful o iss tm K (cspSendCommit e p w) := by
  have hplain : Plain iss (txPacket e p w) :=
    plain_add hp (.inr rfl) (fun hsyn => absurd hsyn (by decide)) fun _ => rfl
  unfold cspSendCommit cspRdpSendCommit
  rcases cspBufferClone_cases e (txPacket e p w) w with hb | ⟨buf, hb⟩
  · rw [hb]
    exact h.next
  · rw [hb]
    simp only
    cases hq : Queue.enqueue _ _ with
    | none => exact (h.alloc buf).next.free _
    | some q =>
      obtain ⟨-, hitems⟩ := Queue.enqueue_eq_some.1 hq
      have hqueued : Truthful o iss tm K { (w.next.emit (.alloc buf)).next.emit (.sent p.bytes) with
          conn.rdp.txQueue := q
          conn.rdp.sndNxt := w.conn.rdp.sndNxt + 1 } := by
        refine (h.alloc buf).next.of_log rfl (fun _ hx => hx) (fun x hx => ?_) rfl fun q hq => ?_
        · change x ∈ q.items at hx
          rw [hitems, List.mem_append, List.mem_singleton] at hx
          rcases hx with hx | rfl
          · exact h.queued x hx
          · exact hplain.of_same (sameSegment_of_eq rfl rfl)
        · exact nomatch List.mem_singleton.1 hq
      simp only [if_true]
      unfold cspSendDirect
      simp only
      split
      · refine hqueued.next.emit fun r hr => ?_
        obtain rfl := Event.transmit.inj hr
        exact Plain.tells (hplain.of_same (sameSegment_id (txPacket e p w) _)) K
      · exact hqueued.next

/-- **An incoming segment**: the packets told of are those stored, and the one that comes in. -/
theorem newPacket {p : CspPacket} (h : Truthful e.host iss tm K w)
    (hst : w.conn.rdp.state = .rdpOpen)
    (hp : OpenSegment e p) (hK : Acceptable e p w.conn.rdp → K (rxHeader e.host p).seqNr) :
    Truthful e.host iss tm K (cspRdpNewPacket e p w) := by
  rw [cspRdpNewPacket_open hp.rst (.inr hst)]
  refine newPacketOpen_induct ?_ (h.free _) ?_ (fun _ hst' => ?_) fun hpasses _ => ?_
  · unfold discardClose
    split
    · exact h.free _
    · exact h.close.free _
  · rw [outsideWindow_open e hst]
    exact h.sendEack.free _
  · exact absurd (hst.symm.trans hst') (by decide)
  · have hstore : Truthful e.host iss tm K (storeAck (rxHeader e.host p) w) :=
      h.of_eq rfl rfl rfl rfl
    unfold newPacketAcked
    simp only
    split
    · split
      · exact (hstore.flushEack _).free _
      · exact hstore.free _
    · rename_i heak
      split
      · exact hstore.free _
      · rename_i hl
        rw [length_rxPacket, Nat.not_le] at hl
        exact hstore.newPacketData (Nat.le_of_lt hl) (hK ⟨hp.rst, hp.syn, hp.ack,
          Bool.not_eq_true _ ▸ heak, hpasses.seqNr, hpasses.ackNr, hl⟩)

end Truthful

/-- **A step** of an open end keeps what it tells true. -/
theorem step_truthful {e : Env} {iss : U16} {tm : Terms} {K : U16 → Prop} {s t : Endpoint}
    {i : Input} (h : Truthful e.host iss tm K s.world) (hopen : s.rdp.state = .rdpOpen)
    (hi : i.isConnect = false)
    (hpacket : ∀ p, i = .packet p →
      OpenSegment e p ∧ (Acceptable e p s.rdp → K (rxHeader e.host p).seqNr))
    (hsend : ∀ p, i = .send p ∨ s.task = .sendWait p → p.length.toNat + 5 < 2 ^ 16)
    (hst : step e s i = some t) : Truthful e.host iss tm K t.world := by
  have htake : Truthful e.host iss tm K (txWaitTake s.world) := h.of_eq rfl rfl rfl rfl
  have hcall := openCall hopen hi hst
  generalize t.world = w' at hcall
  cases hcall with
  | packet p => exact h.newPacket hopen (hpacket p rfl).1 (hpacket p rfl).2
  | checkTimeouts => exact h.checkTimeouts
  | checkAck => exact h.checkAck
  | read => exact h.read
  | close => exact h.close
  | @commit _ p w hp hw =>
    rcases hw with rfl | rfl
    · exact h.sending (hsend p hp)
    · exact htake.sending (hsend p hp)
  | take => exact htake
  | none => exact h
  | giveUp => exact h.of_eq rfl rfl rfl rfl

end LibCSP
