/-
# The transport functions

`src/transport/csp_rdp.c`, in its order, and `csp_close` and `csp_read`, which
call and are called by it.  A function takes the `World` last and returns the
next one last.  Where the source jumps to a label, the label is a definition of
its own (`discardClose`, `discardOpen`), and the long functions are cut where
they change from checking to acting.

`csp_rdp_connect` and `csp_rdp_send` wait for the semaphore `tx_wait` in their
middle; each is two definitions, what is done before the wait and what is done
after it.
-/

import LibCSP.Rdp.Conn

namespace LibCSP

open Basis

/-! ### Comparing wrapping sequence numbers and timestamps -/

/-- `csp_rdp_seq_between`. -/
abbrev cspRdpSeqBetween (seq start stop : U16) : Bool := Serial.between seq start stop
/-- `csp_rdp_seq_before`. -/
abbrev cspRdpSeqBefore (seq cmp : U16) : Bool := Serial.before seq cmp
/-- `csp_rdp_seq_after`. -/
abbrev cspRdpSeqAfter (seq cmp : U16) : Bool := Serial.after seq cmp
/-- `csp_rdp_time_before`. -/
abbrev cspRdpTimeBefore (time cmp : U32) : Bool := Serial.before time cmp
/-- `csp_rdp_time_after`. -/
abbrev cspRdpTimeAfter (time cmp : U32) : Bool := Serial.after time cmp

/-! ### Control messages -/

/-- The copy of a SYN for the retransmit queue. -/
def cspRdpRetain (c : CspPacket) (w : World) : World :=
  match w.conn.rdp.txQueue.enqueue c with
  | none => w.free c
  | some q => { w with conn.rdp.txQueue := q }

/-- The end of `csp_rdp_send_cmp`: send the packet, and update the last ACK time stamp. -/
def cspRdpSendNow (e : Env) (packet : CspPacket) (flags : RdpFlags) (ackNr : U16) (w : World) :
    CspErr × World :=
  match cspSendDirect e w.conn.idout (some packet) w with
  | (.none, w) =>
    if flags.ack then
      (.none, { (cspGetMs e w).2 with
        conn.rdp.rcvLsa := ackNr, conn.rdp.ackTimestamp := (cspGetMs e w).1 })
    else (.none, w)
  | (_, w) => (.busy, w.free packet)

/-- The interface takes the packet, and an ACK is noted with the time; or the packet is freed. -/
theorem cspRdpSendNow_cases (e : Env) (p : CspPacket) (f : RdpFlags) (a : U16) (w : World) :
    (e.sendDirect w.tick = true ∧ f.ack = true ∧ ∃ now, cspRdpSendNow e p f a w =
      (.none, { (w.next.emit (.transmit { p with id := w.conn.idout })).next with
        conn.rdp.rcvLsa := a, conn.rdp.ackTimestamp := now })) ∨
    (e.sendDirect w.tick = true ∧ f.ack = false ∧ cspRdpSendNow e p f a w =
      (.none, w.next.emit (.transmit { p with id := w.conn.idout }))) ∨
    (e.sendDirect w.tick = false ∧ cspRdpSendNow e p f a w = (.busy, w.next.free p)) := by
  unfold cspRdpSendNow cspSendDirect
  cases e.sendDirect w.tick with
  | true =>
    cases f.ack with
    | true => exact .inl ⟨rfl, rfl, _, rfl⟩
    | false => exact .inr (.inl ⟨rfl, rfl, rfl⟩)
  | false => exact .inr (.inr ⟨rfl, rfl⟩)

/-- `csp_rdp_send_cmp` once it has a packet. -/
def cspRdpSendPacket (e : Env) (packet : CspPacket) (flags : RdpFlags) (seqNr ackNr : U16)
    (w : World) : CspErr × World :=
  let packet := cspRdpHeaderAdd e.host packet
    { flags := flags.byte, seqNr := hton16 e.host seqNr, ackNr := hton16 e.host ackNr }
  if flags.syn then
    match cspBufferClone e packet w with
    | (none, w) => (.nomem, w)
    | (some c, w) =>
      cspRdpSendNow e packet flags ackNr
        (cspRdpRetain { c with timestamp := (cspGetMs e w).1 } (cspGetMs e w).2)
  else cspRdpSendNow e packet flags ackNr w

/-- The packet is sent, after a copy of a SYN was put into the retransmit queue. -/
theorem cspRdpSendPacket_cases (e : Env) (p : CspPacket) (f : RdpFlags) (s a : U16) (w : World) :
    (cspRdpSendPacket e p f s a w).2 = w.next ∨
      ∃ tx, tx = cspRdpHeaderAdd e.host p ⟨f.byte, hton16 e.host s, hton16 e.host a⟩ ∧
        (cspRdpSendPacket e p f s a w = cspRdpSendNow e tx f a w ∨
          ∃ buf t, cspRdpSendPacket e p f s a w = cspRdpSendNow e tx f a
            (cspRdpRetain { tx with buf := buf, timestamp := t }
              (w.next.emit (.alloc buf)).next)) := by
  obtain ⟨tx, htx⟩ : ∃ tx,
      tx = cspRdpHeaderAdd e.host p ⟨f.byte, hton16 e.host s, hton16 e.host a⟩ := ⟨_, rfl⟩
  unfold cspRdpSendPacket
  simp only [← htx]
  split
  · rcases cspBufferClone_cases e tx w with hb | ⟨buf, hb⟩
    · rw [hb]
      exact .inl rfl
    · rw [hb]
      exact .inr ⟨tx, rfl, .inr ⟨buf, _, rfl⟩⟩
  · exact .inr ⟨tx, rfl, .inl rfl⟩

/-- `csp_rdp_send_cmp`. -/
def cspRdpSendCmp (e : Env) (packet : Option CspPacket) (flags : RdpFlags) (seqNr ackNr : U16)
    (w : World) : CspErr × World :=
  match packet with
  | some p => cspRdpSendPacket e p flags seqNr ackNr w
  | none =>
    match cspBufferGet e w with
    | (none, w) => (.nomem, w)
    | (some b, w) => cspRdpSendPacket e { b with length := 0 } flags seqNr ackNr w

/-- Without a packet, `csp_rdp_send_cmp` gets a buffer for it or does nothing. -/
theorem cspRdpSendCmp_none_cases (e : Env) (f : RdpFlags) (s a : U16) (w : World) :
    cspRdpSendCmp e none f s a w = (.nomem, w.next) ∨
      ∃ b : CspPacket, cspRdpSendCmp e none f s a w =
        cspRdpSendPacket e { b with length := 0 } f s a (w.next.emit (.alloc b.buf)) := by
  unfold cspRdpSendCmp
  rcases cspBufferGet_cases e w with h | ⟨b, h⟩
  · rw [h]
    exact .inl rfl
  · rw [h]
    exact .inr ⟨b, rfl⟩

/-- The ACK, RST|ACK, RST and SYN|ACK messages. -/
def RdpFlags.ackOnly : RdpFlags := ⟨false, true, false, false⟩
def RdpFlags.rstAck : RdpFlags := ⟨false, true, false, true⟩
def RdpFlags.rstOnly : RdpFlags := ⟨false, false, false, true⟩
def RdpFlags.synAck : RdpFlags := ⟨true, true, false, false⟩
def RdpFlags.synOnly : RdpFlags := ⟨true, false, false, false⟩
def RdpFlags.ackEak : RdpFlags := ⟨false, true, true, false⟩

/-- Append the sequence number of one stored packet to an EACK. -/
def eackEntry (o : ByteOrder) (eack x : CspPacket) : CspPacket :=
  let eack' := eack.setData16 o (eack.length.toNat / 2) (hton16 o (cspRdpHeaderRef o x).seqNr)
  { eack' with length := eack.length + 2 }

/-- `csp_rdp_send_eack`. -/
def cspRdpSendEack (e : Env) (w : World) : CspErr × World :=
  match cspBufferGet e w with
  | (none, w) => (.nomem, w)
  | (some b, w) =>
    let r := Queue.sweep (fun eack x => (eackEntry e.host eack x, some x)) w.conn.rdp.rxQueue.size
      { b with length := 0 } w.conn.rdp.rxQueue
    cspRdpSendCmp e (some r.1) .ackEak w.conn.rdp.sndNxt w.conn.rdp.rcvCur
      { w with conn.rdp.rxQueue := r.2 }

/-- `csp_rdp_send_syn`. -/
def cspRdpSendSyn (e : Env) (w : World) : CspErr × World :=
  match cspBufferGet e w with
  | (none, w) => (.nomem, w)
  | (some p, w) =>
    let o := e.host
    let p := p.setData32 o 0 (hton32 o e.opts.windowSize)
    let p := p.setData32 o 1 (hton32 o e.opts.connTimeout)
    let p := p.setData32 o 2 (hton32 o e.opts.packetTimeout)
    let p := p.setData32 o 3 (hton32 o e.opts.delayedAcks)
    let p := p.setData32 o 4 (hton32 o e.opts.ackTimeout)
    let p := p.setData32 o 5 (hton32 o e.opts.ackDelayCount)
    cspRdpSendCmp e (some { p with length := 6 * 4 }) .synOnly w.conn.rdp.sndIss 0 w

/-! ### Receiving data -/

/-- The first packet of a connection posts the handle to the accept queue of the
socket; `rx_socket` is cleared so that it is posted once. -/
def postHandle (e : Env) (w : World) : Bool × World :=
  match w.conn.rxSocket with
  | none => (true, w)
  | some socket =>
    if e.acceptQueue w.tick then
      (true, { w.next.emit (.accept socket) with conn.rxSocket := none })
    else (false, w.next)

/-- `csp_rdp_receive_data`. -/
def cspRdpReceiveData (e : Env) (packet : CspPacket) (w : World) : Bool × World :=
  let r := postHandle e w
  if r.1 then
    let r := cspConnEnqueuePacket (some (cspRdpHeaderRemove packet)) r.2
    (r.1 == .none, r.2)
  else r

/-- One round of `csp_rdp_rx_queue_flush`, from the label `front`: `none` when
no stored packet carries the next sequence number. -/
def flushRound (e : Env) (w : World) : Option World :=
  let r := Queue.takeFirst (fun x => (cspRdpHeaderRef e.host x).seqNr == w.conn.rdp.rcvCur + 1)
    w.conn.rdp.rxQueue.size w.conn.rdp.rxQueue
  match r.1 with
  | none => none
  | some x =>
    -- the result of csp_rdp_receive_data is not looked at
    let w := (cspRdpReceiveData e x { w with conn.rdp.rxQueue := r.2 }).2
    some { w with conn.rdp.rcvCur := w.conn.rdp.rcvCur + 1 }

/-- The rounds of `csp_rdp_rx_queue_flush`; each but the last takes a packet out. -/
def flushRounds (e : Env) : ℕ → World → World
  | 0, w => w
  | n + 1, w =>
    match flushRound e w with
    | none => w
    | some w' => flushRounds e n w'

/-- `csp_rdp_rx_queue_flush`. -/
def cspRdpRxQueueFlush (e : Env) (w : World) : World :=
  flushRounds e w.conn.rdp.rxQueue.size w

/-- `csp_rdp_rx_queue_exists`. -/
def cspRdpRxQueueExists (e : Env) (seqNr : U16) (w : World) : Bool × World :=
  let r := Queue.hasMatch (fun x => (cspRdpHeaderRef e.host x).seqNr == seqNr)
    w.conn.rdp.rxQueue.size w.conn.rdp.rxQueue
  (r.1, { w with conn.rdp.rxQueue := r.2 })

/-- `csp_rdp_rx_queue_add`. -/
def cspRdpRxQueueAdd (e : Env) (packet : CspPacket) (seqNr : U16) (w : World) : Bool × World :=
  let r := cspRdpRxQueueExists e seqNr w
  if r.1 then (false, r.2)
  else
    match r.2.conn.rdp.rxQueue.enqueue packet with
    | none => (false, r.2)
    | some q => (true, { r.2 with conn.rdp.rxQueue := q })

/-! ### Acknowledgements -/

/-- One comparison of `csp_rdp_flush_eack`: entry `j` of the EACK with one
element of the retransmit queue. -/
def eackCompare (e : Env) (eack : CspPacket) (s : Bool × CspPacket × World) (j : ℕ) :
    Bool × CspPacket × World :=
  let x := s.2.1
  let w := s.2.2
  let seqNr := hton16 e.host (cspRdpHeaderRef e.host x).seqNr
  let entry := hton16 e.host (eack.data16 e.host j)
  let isMatch := s.1 || entry == seqNr
  if seqNr < entry then
    let now := (cspGetMs e w).1
    if cspRdpTimeAfter now x.quarantine then
      (isMatch, { x with
          timestamp := now - w.conn.rdp.packetTimeout - 1
          quarantine := now + w.conn.rdp.packetTimeout / 2 }, (cspGetMs e w).2)
    else (isMatch, x, (cspGetMs e w).2)
  else (isMatch, x, w)

/-- The body of the loop of `csp_rdp_flush_eack`: free the element if the EACK
lists it, and requeue it otherwise. -/
def flushEackEntry (e : Env) (eack : CspPacket) (w : World) (x : CspPacket) :
    World × Option CspPacket :=
  let r := (List.range ((eack.length.toNat - sizeofRdpHeader) / 2)).foldl (eackCompare e eack)
    (false, x, w)
  if r.1 then (r.2.2.free r.2.1, none) else (r.2.2, some r.2.1)

/-- `csp_rdp_flush_eack`. -/
def cspRdpFlushEack (e : Env) (eack : CspPacket) (w : World) : World :=
  let r := Queue.sweep (flushEackEntry e eack) w.conn.rdp.txQueue.size w w.conn.rdp.txQueue
  { r.1 with conn.rdp.txQueue := r.2 }

/-- `csp_rdp_should_ack`. -/
def cspRdpShouldAck (e : Env) (w : World) : Bool × World :=
  if w.conn.rdp.delayedAcks = 0 then (true, w)
  else
    (cspRdpTimeAfter (cspGetMs e w).1 (w.conn.rdp.ackTimestamp + w.conn.rdp.ackTimeout) ||
      cspRdpSeqAfter w.conn.rdp.rcvCur
        (w.conn.rdp.rcvLsa + w.conn.rdp.ackDelayCount.setWidth 16), (cspGetMs e w).2)

/-- `csp_rdp_flush_all`. -/
def cspRdpFlushAll (w : World) : World :=
  { w with
    conn.rdp.txQueue := Queue.empty
    conn.rdp.rxQueue := Queue.empty
    log := w.log ++ (w.conn.rdp.txQueue.items ++ w.conn.rdp.rxQueue.items).map fun p =>
      .free p.buf }

/-- `csp_rdp_check_ack`. -/
def cspRdpCheckAck (e : Env) (w : World) : World :=
  if w.conn.rdp.rcvLsa ≠ w.conn.rdp.rcvCur then
    if ∀ prio : Fin cspPriorities,
        w.conn.rdp.windowSize.toInt < cspRxQueueLength - (w.conn.rxQueue prio).size then
      let r := cspRdpShouldAck e w
      if r.1 then (cspRdpSendCmp e none .ackOnly r.2.conn.rdp.sndNxt r.2.conn.rdp.rcvCur r.2).2
      else r.2
    else w
  else w

/-! ### Closing -/

/-- The state becomes `RDP_CLOSE_WAIT`, now. -/
def enterCloseWait (e : Env) (w : World) : World :=
  { (cspGetMs e w).2 with
    conn.rdp.state := .rdpCloseWait, conn.timestamp := (cspGetMs e w).1 }

/-- `csp_rdp_close`. -/
def cspRdpClose (e : Env) (w : World) : ℕ × World :=
  match w.conn.rdp.state with
  | .rdpClosed => (0, w)
  | .rdpCloseWait => (0, { w with conn.rdp.state := .rdpClosed })
  | _ =>
    let w := enterCloseWait e w
    (1, (cspRdpSendCmp e none .rstAck w.conn.rdp.sndNxt w.conn.rdp.rcvCur w).2)

/-- `csp_close` once RDP has nothing more to send. -/
def cspCloseNow (e : Env) (w : World) : CspErr × World :=
  if e.connLock w.tick then
    let w := cspConnFlushRxQueue { w.next with conn.state := .connClosed }
    (.none, if w.conn.idin.has cspFrdp then cspRdpFlushAll w else w)
  else (.timedout, w.next)

/-- `csp_close`. -/
def cspClose (e : Env) (w : World) : CspErr × World :=
  if w.conn.state = .connClosed then (.none, w)
  else if w.conn.idin.has cspFrdp || w.conn.idout.has cspFrdp then
    let r := cspRdpClose e w
    if r.1 = 1 then (.none, r.2) else cspCloseNow e r.2
  else cspCloseNow e w

/-! ### Timeouts -/

/-- The end of a retransmission: send the copy, and free it if that fails.  Without a copy
`csp_buffer_free(NULL)` is called, which is left out. -/
def cspRdpRetransmit (e : Env) (copy : Option CspPacket) (w : World) : World :=
  match cspSendDirect e w.conn.idout copy w with
  | (.none, w) => w
  | (_, w) =>
    match copy with
    | none => w
    | some c => w.free c

/-- The interface takes the copy, or it is freed. -/
theorem cspRdpRetransmit_cases (e : Env) (c : CspPacket) (w : World) :
    (e.sendDirect w.tick = true ∧
      cspRdpRetransmit e (some c) w = w.next.emit (.transmit { c with id := w.conn.idout })) ∨
    (e.sendDirect w.tick = false ∧ cspRdpRetransmit e (some c) w = w.next.free c) := by
  unfold cspRdpRetransmit cspSendDirect
  cases e.sendDirect w.tick with
  | true => exact .inl ⟨rfl, rfl⟩
  | false => exact .inr ⟨rfl, rfl⟩

/-- The body of the message loop of `csp_rdp_check_timeouts`: drop an
acknowledged element, and requeue any other, retransmitted if its time is up. -/
def timeoutEntry (e : Env) (now : U32) (w : World) (x : CspPacket) : World × Option CspPacket :=
  let header := cspRdpHeaderRef e.host x
  if cspRdpSeqBefore (hton16 e.host header.seqNr) w.conn.rdp.sndUna then (w.free x, none)
  else if cspRdpTimeAfter now (x.timestamp + w.conn.rdp.packetTimeout) then
    let x := cspRdpHeaderStore e.host x { header with ackNr := hton16 e.host w.conn.rdp.rcvCur }
    let x := { x with timestamp := (cspGetMs e w).1 }
    let copy := cspBufferClone e x (cspGetMs e w).2
    (cspRdpRetransmit e copy.1 copy.2, some x)
  else (w, some x)

/-- The message loop of `csp_rdp_check_timeouts`. -/
def cspRdpCheckMessages (e : Env) (now : U32) (w : World) : World :=
  let r := Queue.sweep (timeoutEntry e now) w.conn.rdp.txQueue.size w w.conn.rdp.txQueue
  { r.1 with conn.rdp.txQueue := r.2 }

/-- The end of `csp_rdp_check_timeouts`: wake the user task if there is room. -/
def cspRdpWake (w : World) : World :=
  if w.conn.rdp.state = .rdpOpen ∧
      (w.conn.rdp.txQueue.size : ℤ) < w.conn.rdp.windowSize.toInt ∧
      cspRdpSeqBefore (w.conn.rdp.sndNxt - w.conn.rdp.sndUna)
        ((w.conn.rdp.windowSize * 2).setWidth 16) then
    { w with conn.rdp.txWait := true }
  else w

/-- `csp_rdp_check_timeouts`. -/
def cspRdpCheckTimeouts (e : Env) (w : World) : World :=
  let now := (cspGetMs e w).1
  let w := (cspGetMs e w).2
  let timedOut := cspRdpTimeAfter now (w.conn.timestamp + w.conn.rdp.connTimeout)
  if w.conn.rxSocket.isSome && timedOut then (cspClose e w).2
  else if w.conn.rdp.state = .rdpCloseWait then
    if timedOut then (cspClose e w).2 else w
  else cspRdpWake (cspRdpCheckAck e (cspRdpCheckMessages e now w))

/-! ### `csp_rdp_new_packet` -/

/-- The label `discard_open`. -/
def discardOpen (packet : CspPacket) (w : World) : World := w.free packet

/-- The label `discard_close`. -/
def discardClose (e : Env) (packet : CspPacket) (w : World) : World :=
  match w.conn.rxSocket with
  | none => discardOpen packet (cspConnEnqueuePacket none w).2
  | some _ => discardOpen packet (cspClose e w).2

/-- `conn->rdp.snd_una = rx_header->ack_nr + 1`. -/
def storeAck (header : RdpHeader) (w : World) : World :=
  { w with conn.rdp.sndUna := header.ackNr + 1 }

/-- A RESET was received. -/
def newPacketRst (e : Env) (header : RdpHeader) (packet : CspPacket) (w : World) : World :=
  let w := if header.ack then storeAck header w else w
  if w.conn.rdp.state = .rdpCloseWait ∨ w.conn.rdp.state = .rdpClosed then
    (cspClose e (w.free packet)).2
  else if header.seqNr = w.conn.rdp.rcvCur + 1 then
    let w := enterCloseWait e w
    discardClose e packet
      (cspRdpSendCmp e none .rstAck w.conn.rdp.sndNxt w.conn.rdp.rcvCur w).2
  else discardOpen packet w

/-- `srand(csp_get_ms())`, then `rand()`. -/
def randomIss (e : Env) (w : World) : U16 × World := cspRand e (cspGetMs e w).2

/-- The connection as the SYN in `packet` sets it up. -/
def passiveOpen (e : Env) (header : RdpHeader) (packet : CspPacket) (w : World) : World :=
  { (randomIss e w).2 with
    conn.rdp.sndIss := (randomIss e w).1
    conn.rdp.sndNxt := (randomIss e w).1 + 1
    conn.rdp.sndUna := (randomIss e w).1
    conn.rdp.rcvCur := header.seqNr
    conn.rdp.rcvIrs := header.seqNr
    conn.rdp.rcvLsa := header.seqNr
    conn.rdp.windowSize := hton32 e.host (packet.data32 e.host 0)
    conn.rdp.connTimeout := hton32 e.host (packet.data32 e.host 1)
    conn.rdp.packetTimeout := hton32 e.host (packet.data32 e.host 2)
    conn.rdp.delayedAcks := hton32 e.host (packet.data32 e.host 3)
    conn.rdp.ackTimeout := hton32 e.host (packet.data32 e.host 4)
    conn.rdp.ackDelayCount := hton32 e.host (packet.data32 e.host 5)
    conn.rdp.state := .rdpSynRcvd }

/-- `case RDP_CLOSED`. -/
def newPacketClosed (e : Env) (header : RdpHeader) (packet : CspPacket) (w : World) : World :=
  if header.syn then
    let w := passiveOpen e header packet w
    discardOpen packet
      (cspRdpSendCmp e none .synAck w.conn.rdp.sndIss w.conn.rdp.rcvIrs w).2
  else
    discardClose e packet
      (cspRdpSendCmp e none .rstOnly w.conn.rdp.sndNxt w.conn.rdp.rcvCur w).2

/-- The connection as the SYN/ACK with this header opens it. -/
def activeOpen (e : Env) (header : RdpHeader) (w : World) : World :=
  { (cspGetMs e w).2 with
    conn.rdp.rcvCur := header.seqNr
    conn.rdp.rcvIrs := header.seqNr
    conn.rdp.rcvLsa := header.seqNr - 1
    conn.rdp.sndUna := header.ackNr + 1
    conn.rdp.ackTimestamp := (cspGetMs e w).1
    conn.rdp.state := .rdpOpen }

/-- `csp_bin_sem_post(&conn->rdp.tx_wait)`. -/
def txWaitPost (w : World) : World := { w with conn.rdp.txWait := true }

/-- The ACK of a SYN/ACK, when ACKs are not delayed. -/
def synSentAck (e : Env) (w : World) : World :=
  if w.conn.rdp.delayedAcks = 0 then
    (cspRdpSendCmp e none .ackOnly w.conn.rdp.sndNxt w.conn.rdp.rcvCur w).2
  else w

/-- `case RDP_SYN_SENT`. -/
def newPacketSynSent (e : Env) (header : RdpHeader) (packet : CspPacket) (w : World) : World :=
  if header.syn && header.ack then
    discardOpen packet (txWaitPost (synSentAck e (activeOpen e header w)))
  else if header.ack then
    let w := (cspRdpSendCmp e none .rstOnly w.conn.rdp.sndNxt w.conn.rdp.rcvCur w).2
    discardOpen packet (txWaitPost w)
  else discardClose e packet w

/-- The ACK of an in-sequence packet, when there is room for a full window. -/
def dataAck (e : Env) (packet : CspPacket) (w : World) : World :=
  if BitVec.ofNat 32 (w.conn.rxQueue (cspConnGetRxq packet.id.pri)).size + w.conn.rdp.windowSize
      ≤ BitVec.ofNat 32 cspRxQueueLength then
    let r := cspRdpShouldAck e w
    if r.1 then (cspRdpSendCmp e none .ackOnly r.2.conn.rdp.sndNxt r.2.conn.rdp.rcvCur r.2).2
    else r.2
  else w

/-- A packet with data, after its ACK number was stored. -/
def newPacketData (e : Env) (header : RdpHeader) (packet : CspPacket) (w : World) : World :=
  if header.seqNr ≠ w.conn.rdp.rcvCur + 1 then
    let r := cspRdpRxQueueAdd e packet header.seqNr w
    if r.1 then (cspRdpSendEack e r.2).2 else discardOpen packet r.2
  else
    let r := cspRdpReceiveData e packet w
    if r.1 then
      cspRdpRxQueueFlush e (dataAck e packet { r.2 with conn.rdp.rcvCur := header.seqNr })
    else discardOpen packet r.2

/-- The ACK number was acceptable. -/
def newPacketAcked (e : Env) (header : RdpHeader) (packet : CspPacket) (w : World) : World :=
  let w := storeAck header w
  if header.eak then
    discardOpen packet
      (if sizeofRdpHeader < packet.length.toNat then cspRdpFlushEack e packet w else w)
  else if packet.length.toNat ≤ sizeofRdpHeader then discardOpen packet w
  else newPacketData e header packet w

/-- Data that was acknowledged goes to the data branch. -/
theorem newPacketAcked_data (e : Env) {h : RdpHeader} {p : CspPacket} (heak : h.eak = false)
    (hp : sizeofRdpHeader < p.length.toNat) (w : World) :
    newPacketAcked e h p w = newPacketData e h p (storeAck h w) := by
  simp only [newPacketAcked, heak, Nat.not_le.2 hp, Bool.false_eq_true, if_false]

/-- The sequence number is in the receive window of `rdp`. -/
def Rdp.seqValid (rdp : Rdp) (header : RdpHeader) : Bool :=
  cspRdpSeqBetween header.seqNr (rdp.rcvCur + 1) (rdp.rcvCur + (rdp.windowSize * 2).setWidth 16)

/-- The ACK number passes the check of `rdp`. -/
def Rdp.ackValid (rdp : Rdp) (header : RdpHeader) : Bool :=
  cspRdpSeqBetween header.ackNr (rdp.sndUna - 1 - (rdp.windowSize * 2).setWidth 16)
    (rdp.sndNxt - 1)

/-- The checks of a packet before its ACK number is used. -/
structure Rdp.Passes (rdp : Rdp) (h : RdpHeader) : Prop where
  syn : h.syn = false
  ack : h.ack = true
  seqNr : rdp.seqValid h = true
  ackNr : rdp.ackValid h = true

/-- The answer to an invalid sequence number: another SYN/ACK while the
connection waits for its ACK, and an EACK when it is open. -/
def outsideWindow (e : Env) (w : World) : World :=
  let w := if w.conn.rdp.state = .rdpSynRcvd then
      (cspRdpSendCmp e none .synAck w.conn.rdp.sndIss w.conn.rdp.rcvIrs w).2
    else w
  if w.conn.rdp.state = .rdpOpen then (cspRdpSendEack e w).2 else w

/-- `case RDP_SYN_RCVD` and `case RDP_OPEN`. -/
def newPacketOpen (e : Env) (header : RdpHeader) (packet : CspPacket) (w : World) : World :=
  if header.syn || !header.ack then
    if header.seqNr ≠ w.conn.rdp.rcvIrs then discardClose e packet w else discardOpen packet w
  else if !w.conn.rdp.seqValid header then
    discardOpen packet (outsideWindow e w)
  else if !w.conn.rdp.ackValid header then discardOpen packet w
  else if w.conn.rdp.state = .rdpSynRcvd then
    if header.ackNr ≠ w.conn.rdp.sndIss then discardClose e packet w
    else newPacketAcked e header packet { w with conn.rdp.state := .rdpOpen }
  else newPacketAcked e header packet w

/-- The connection stays open while a packet outside its window is answered. -/
theorem outsideWindow_open (e : Env) {w : World} (hst : w.conn.rdp.state = .rdpOpen) :
    outsideWindow e w = (cspRdpSendEack e w).2 := by
  simp only [outsideWindow, hst, reduceCtorEq, if_false, if_true]

/-- **The branches of `newPacketOpen`:** what holds of each holds of the whole. -/
theorem newPacketOpen_induct {P : World → Prop} {e : Env} {h : RdpHeader} {p : CspPacket}
    {w : World} (hclose : P (discardClose e p w)) (hdiscard : P (discardOpen p w))
    (houtside : P (discardOpen p (outsideWindow e w)))
    (haccepted : w.conn.rdp.Passes h → w.conn.rdp.state = .rdpSynRcvd →
      h.ackNr = w.conn.rdp.sndIss → P (newPacketAcked e h p { w with conn.rdp.state := .rdpOpen }))
    (hacked : w.conn.rdp.Passes h → w.conn.rdp.state ≠ .rdpSynRcvd → P (newPacketAcked e h p w)) :
    P (newPacketOpen e h p w) := by
  unfold newPacketOpen
  split
  · split
    · exact hclose
    · exact hdiscard
  · rename_i hsa
    split
    · exact houtside
    · rename_i hseq
      split
      · exact hdiscard
      · rename_i hack
        simp only [Bool.or_eq_true, Bool.not_eq_true', not_or, Bool.not_eq_true,
          Bool.not_eq_false] at hsa hseq hack
        have hpasses : w.conn.rdp.Passes h := ⟨hsa.1, hsa.2, hseq, hack⟩
        split
        · rename_i hst
          split
          · exact hclose
          · rename_i hn
            exact haccepted hpasses hst (not_not.1 hn)
        · rename_i hst
          exact hacked hpasses hst

/-- In `RDP_OPEN` a packet that passes the checks is acknowledged. -/
theorem newPacketOpen_passes (e : Env) {h : RdpHeader} (p : CspPacket) {w : World}
    (hp : w.conn.rdp.Passes h) (hst : w.conn.rdp.state = .rdpOpen) :
    newPacketOpen e h p w = newPacketAcked e h p w := by
  simp only [newPacketOpen, hp.syn, hp.ack, hp.seqNr, hp.ackNr, hst, Bool.not_true, Bool.or_self,
    Bool.false_eq_true, if_false, reduceCtorEq]

/-- `case RDP_CLOSE_WAIT`. -/
def newPacketCloseWait (e : Env) (header : RdpHeader) (packet : CspPacket) (w : World) : World :=
  if header.syn || !header.ack then discardOpen packet w
  else if !w.conn.rdp.ackValid header then discardOpen packet w
  else
    let w := storeAck header w
    discardOpen packet (cspRdpSendCmp e none .rstAck w.conn.rdp.sndNxt w.conn.rdp.rcvCur w).2

/-- After `csp_close` a packet is dropped, or its ACK number is stored and a RST/ACK goes out. -/
theorem newPacketCloseWait_cases (e : Env) (h : RdpHeader) (p : CspPacket) (w : World) :
    newPacketCloseWait e h p w = discardOpen p w ∨
      (h.syn = false ∧ h.ack = true ∧ w.conn.rdp.ackValid h = true ∧
        newPacketCloseWait e h p w = discardOpen p (cspRdpSendCmp e none .rstAck
          w.conn.rdp.sndNxt w.conn.rdp.rcvCur (storeAck h w)).2) := by
  unfold newPacketCloseWait
  split
  · exact .inl rfl
  · rename_i hsa
    split
    · exact .inl rfl
    · rename_i hack
      simp only [Bool.or_eq_true, Bool.not_eq_true', not_or, Bool.not_eq_true,
        Bool.not_eq_false] at hsa hack
      exact .inr ⟨hsa.1, hsa.2, hack, rfl⟩

/-- The header of a received packet in host byte order. -/
def rxHeader (o : ByteOrder) (packet : CspPacket) : RdpHeader :=
  let header := cspRdpHeaderRef o packet
  { header with seqNr := hton16 o header.seqNr, ackNr := hton16 o header.ackNr }

/-- A received packet with its header converted in place. -/
def rxPacket (o : ByteOrder) (packet : CspPacket) : CspPacket :=
  cspRdpHeaderStore o packet (rxHeader o packet)

/-- `csp_rdp_new_packet`. -/
def cspRdpNewPacket (e : Env) (packet : CspPacket) (w : World) : World :=
  let header := rxHeader e.host packet
  let packet := rxPacket e.host packet
  if header.rst then newPacketRst e header packet w
  else
    match w.conn.rdp.state with
    | .rdpClosed => newPacketClosed e header packet w
    | .rdpSynSent => newPacketSynSent e header packet w
    | .rdpSynRcvd => newPacketOpen e header packet w
    | .rdpOpen => newPacketOpen e header packet w
    | .rdpCloseWait => newPacketCloseWait e header packet w

/-- **The branches of `csp_rdp_new_packet`:** what holds of each holds of the whole. -/
theorem cspRdpNewPacket_induct {P : World → Prop} {e : Env} {p : CspPacket} {w : World}
    (hrst : (rxHeader e.host p).rst = true →
      P (newPacketRst e (rxHeader e.host p) (rxPacket e.host p) w))
    (hclosed : (rxHeader e.host p).rst = false → w.conn.rdp.state = .rdpClosed →
      P (newPacketClosed e (rxHeader e.host p) (rxPacket e.host p) w))
    (hsynSent : (rxHeader e.host p).rst = false → w.conn.rdp.state = .rdpSynSent →
      P (newPacketSynSent e (rxHeader e.host p) (rxPacket e.host p) w))
    (hopen : (rxHeader e.host p).rst = false →
      w.conn.rdp.state = .rdpSynRcvd ∨ w.conn.rdp.state = .rdpOpen →
        P (newPacketOpen e (rxHeader e.host p) (rxPacket e.host p) w))
    (hcloseWait : (rxHeader e.host p).rst = false → w.conn.rdp.state = .rdpCloseWait →
      P (newPacketCloseWait e (rxHeader e.host p) (rxPacket e.host p) w)) :
    P (cspRdpNewPacket e p w) := by
  unfold cspRdpNewPacket
  simp only
  split
  · rename_i h
    exact hrst h
  · rename_i h
    rw [Bool.not_eq_true] at h
    split
    · rename_i hst
      exact hclosed h hst
    · rename_i hst
      exact hsynSent h hst
    · rename_i hst
      exact hopen h (.inl hst)
    · rename_i hst
      exact hopen h (.inr hst)
    · rename_i hst
      exact hcloseWait h hst

/-- Without RST the states between the handshake and `csp_close` share their case. -/
theorem cspRdpNewPacket_open {e : Env} {p : CspPacket} {w : World}
    (hrst : (rxHeader e.host p).rst = false)
    (hst : w.conn.rdp.state = .rdpSynRcvd ∨ w.conn.rdp.state = .rdpOpen) :
    cspRdpNewPacket e p w = newPacketOpen e (rxHeader e.host p) (rxPacket e.host p) w := by
  unfold cspRdpNewPacket
  rcases hst with hst | hst <;> simp only [hrst, hst, Bool.false_eq_true, if_false]

/-! ### `csp_rdp_connect`, `csp_rdp_send`, `csp_read` -/

/-- The label `error` of `csp_rdp_connect`. -/
def connectError (w : World) : CspErr × World :=
  (.timedout, { w with conn.rdp.state := .rdpCloseWait })

/-- The connection before the SYN of `csp_rdp_connect`, with the semaphore taken. -/
def connectStart (e : Env) (w : World) : World :=
  { (randomIss e w).2 with
    conn.rdp.sndIss := (randomIss e w).1
    conn.rdp.sndNxt := (randomIss e w).1 + 1
    conn.rdp.sndUna := (randomIss e w).1
    conn.rdp.txWait := false
    conn.rdp.state := .rdpSynSent }

/-- `csp_rdp_connect` from the label `retry` to its wait: `none` means that it waits. -/
def connectRetry (e : Env) (w : World) : Option CspErr × World :=
  if w.conn.rdp.state = .rdpOpen then (some .already, w)
  else
    let r := cspRdpSendSyn e (connectStart e w)
    if r.1 = .none then (none, r.2)
    else (some (connectError r.2).1, (connectError r.2).2)

/-- The global options are applied to an outgoing connection. -/
def applyOptions (e : Env) (w : World) : World :=
  { (cspGetMs e w).2 with
    conn.rdp.windowSize := e.opts.windowSize
    conn.rdp.connTimeout := e.opts.connTimeout
    conn.rdp.packetTimeout := e.opts.packetTimeout
    conn.rdp.delayedAcks := e.opts.delayedAcks
    conn.rdp.ackTimeout := e.opts.ackTimeout
    conn.rdp.ackDelayCount := e.opts.ackDelayCount
    conn.rdp.ackTimestamp := (cspGetMs e w).1 }

/-- `csp_rdp_connect` up to its wait. -/
def cspRdpConnect (e : Env) (w : World) : Option CspErr × World :=
  connectRetry e (applyOptions e w)

/-- `csp_rdp_connect` after its wait, when the semaphore was posted. -/
def cspRdpConnectWoken (e : Env) (retry : Bool) (w : World) : Option CspErr × World :=
  match w.conn.rdp.state with
  | .rdpOpen => (some .none, w)
  | .rdpSynSent =>
    if retry then connectRetry e (cspRdpFlushAll w)
    else (some (connectError w).1, (connectError w).2)
  | _ => (some (connectError w).1, (connectError w).2)

/-- **What the parts of `csp_rdp_connect` keep**, an attempt keeps. -/
theorem connectRetry_induct {P : World → Prop} {e : Env}
    (hstart : ∀ v, P v → P (connectStart e v)) (hsyn : ∀ v, P v → P (cspRdpSendSyn e v).2)
    (herror : ∀ v, P v → P (connectError v).2) {w : World} (hw : P w) :
    P (connectRetry e w).2 := by
  unfold connectRetry
  split
  · exact hw
  · have hsent := hsyn _ (hstart w hw)
    simp only
    split
    · exact hsent
    · exact herror _ hsent

/-- After the wait there may be another attempt, with empty queues. -/
theorem cspRdpConnectWoken_induct {P : World → Prop} {e : Env}
    (hstart : ∀ v, P v → P (connectStart e v)) (hsyn : ∀ v, P v → P (cspRdpSendSyn e v).2)
    (herror : ∀ v, P v → P (connectError v).2) (hflush : ∀ v, P v → P (cspRdpFlushAll v))
    (retry : Bool) {w : World} (hw : P w) : P (cspRdpConnectWoken e retry w).2 := by
  unfold cspRdpConnectWoken
  split
  · exact hw
  · split
    · exact connectRetry_induct hstart hsyn herror (hflush w hw)
    · exact herror w hw
  · exact herror w hw

/-- `csp_rdp_send` has to wait before it sends. -/
def Rdp.windowFull (rdp : Rdp) : Bool :=
  rdp.windowSize < (rdp.sndNxt - rdp.sndUna + 1).setWidth 32

/-- The packet with the header `csp_rdp_send` adds to it. -/
def txPacket (e : Env) (packet : CspPacket) (w : World) : CspPacket :=
  cspRdpHeaderAdd e.host packet
    { flags := RdpFlags.ackOnly.byte
      seqNr := hton16 e.host w.conn.rdp.sndNxt
      ackNr := hton16 e.host w.conn.rdp.rcvCur }

/-- `csp_rdp_send` after its wait. -/
def cspRdpSendCommit (e : Env) (packet : CspPacket) (w : World) : CspErr × World :=
  match cspBufferClone e (txPacket e packet w) w with
  | (none, w) => (.nomem, w)
  | (some c, w) =>
    let c := { c with timestamp := (cspGetMs e w).1, quarantine := 0 }
    let w := (cspGetMs e w).2
    match w.conn.rdp.txQueue.enqueue c with
    | none => (.nobufs, w.free c)
    | some q =>
      (.none, { w.emit (.sent packet.bytes) with
        conn.rdp.txQueue := q
        conn.rdp.sndNxt := w.conn.rdp.sndNxt + 1 })

/-- `csp_send` on a connection with `CSP_FRDP`, after the wait in `csp_rdp_send`. -/
def cspSendCommit (e : Env) (packet : CspPacket) (w : World) : World :=
  let r := cspRdpSendCommit e packet w
  if r.1 = .none then
    (cspSendDirect e r.2.conn.idout (some (txPacket e packet w)) r.2).2
  else r.2

/-- The queue `csp_read` takes its packet from: the first that is not empty. -/
def readPrio (c : Conn) : Option (Fin cspPriorities) :=
  (List.finRange cspPriorities).find? fun prio => (c.rxQueue prio).size ≠ 0

/-- The loop over the receive queues in `csp_read`. -/
def readPacket (w : World) : Option CspPacket × World :=
  match readPrio w.conn with
  | none => (none, w)
  | some prio =>
    match (w.conn.rxQueue prio).dequeue with
    | none => (none, w)
    | some (p, q) =>
      (some p, { w with conn.rxQueue := Function.update w.conn.rxQueue prio q })

/-- Reading changes the receive queues and nothing else. -/
theorem readPacket_world (w : World) : ∃ q, (readPacket w).2 = { w with conn.rxQueue := q } := by
  unfold readPacket
  split
  · exact ⟨_, rfl⟩
  · split
    · exact ⟨_, rfl⟩
    · exact ⟨_, rfl⟩

/-- `csp_read`. -/
def cspRead (e : Env) (w : World) : Option CspPacket × World :=
  if w.conn.state ≠ .connOpen then (none, w)
  else
    match w.conn.rxEvent.dequeue with
    | none => (none, w)
    | some (_, ev) =>
      let r := readPacket { w with conn.rxEvent := ev }
      (r.1, if r.2.conn.idin.has cspFrdp then cspRdpCheckAck e r.2 else r.2)

end LibCSP
