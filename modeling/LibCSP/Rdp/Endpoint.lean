/-
# One end of a connection as a state machine

What happens to a connection is a sequence of calls: the router hands it a
packet or looks after its timeouts, the user reads, sends, connects or closes.
`csp_rdp_send` and `csp_rdp_connect` stop half way to wait for `tx_wait`, and
any other call may come in between; the field `task` remembers which of them
the one user task is in, with what it still needs.  A wait ends by `sendWake` or
`connectWake`, possible once the semaphore is posted, or by a timeout.
-/

import LibCSP.Basis.Run
import LibCSP.Rdp.Protocol

namespace LibCSP

open Basis

/-- Where the user task is. -/
inductive Task
  | idle
  /-- Waiting in `csp_rdp_send` with this packet. -/
  | sendWait (packet : CspPacket)
  /-- Waiting in `csp_rdp_connect` with this value of `retry`. -/
  | connectWait (retry : Bool)

structure Endpoint where
  world : World
  task : Task

inductive Input
  | packet (p : CspPacket)
  | checkTimeouts
  | checkAck
  | read
  | send (p : CspPacket)
  | sendWake
  | sendTimeout
  | connect
  | connectWake
  | connectTimeout
  | close

/-- The input is a new `csp_rdp_connect`. -/
def Input.isConnect : Input → Bool
  | .connect => true
  | _ => false

/-- The semaphore is taken. -/
def txWaitTake (w : World) : World := { w with conn.rdp.txWait := false }

/-- `csp_send` up to the end or the wait in `csp_rdp_send`. -/
def sendEnter (e : Env) (p : CspPacket) (w : World) : Endpoint :=
  if w.conn.state ≠ .connOpen ∨ w.conn.rdp.state ≠ .rdpOpen then ⟨w, .idle⟩
  else if w.conn.rdp.windowFull then ⟨txWaitTake w, .sendWait p⟩
  else ⟨cspSendCommit e p w, .idle⟩

/-- `csp_rdp_connect` waits in its attempt `retry`, or is done. -/
def connectEnter (retry : Bool) (r : Option CspErr × World) : Endpoint :=
  match r.1 with
  | none => ⟨r.2, .connectWait retry⟩
  | some _ => ⟨r.2, .idle⟩

/-- The wait in `csp_rdp_connect` is not part of the world. -/
theorem connectEnter_world (retry : Bool) (r : Option CspErr × World) :
    (connectEnter retry r).world = r.2 := by
  unfold connectEnter
  split <;> rfl

/-- The ends of `csp_send`: nothing is sent, it waits, or the packet is sent. -/
theorem sendEnter_world {P : World → Prop} {e : Env} {p : CspPacket} {w : World} (hw : P w)
    (htake : P (txWaitTake w)) (hcommit : P (cspSendCommit e p w)) :
    P (sendEnter e p w).world := by
  unfold sendEnter
  split
  · exact hw
  · split
    · exact htake
    · exact hcommit

/-- One call; `none` when it cannot happen in this state. -/
def step (e : Env) (s : Endpoint) (i : Input) : Option Endpoint :=
  match i, s.task with
  | .packet p, task => some ⟨cspRdpNewPacket e p s.world, task⟩
  | .checkTimeouts, task => some ⟨cspRdpCheckTimeouts e s.world, task⟩
  | .checkAck, task => some ⟨cspRdpCheckAck e s.world, task⟩
  | .read, task => some ⟨(cspRead e s.world).2, task⟩
  | .close, task => some ⟨(cspClose e s.world).2, task⟩
  | .send p, .idle => some (sendEnter e p s.world)
  | .sendWake, .sendWait p =>
    if s.world.conn.rdp.txWait then some ⟨cspSendCommit e p (txWaitTake s.world), .idle⟩ else none
  | .sendTimeout, .sendWait _ => some ⟨s.world, .idle⟩
  | .connect, .idle => some (connectEnter true (cspRdpConnect e s.world))
  | .connectWake, .connectWait retry =>
    if s.world.conn.rdp.txWait then
      some (connectEnter false (cspRdpConnectWoken e retry (txWaitTake s.world)))
    else none
  | .connectTimeout, .connectWait _ => some ⟨(connectError s.world).2, .idle⟩
  | _, _ => none

/-- What a call can be: the user task is in the part of its call that the input ends. -/
inductive Endpoint.Stepped (e : Env) (w : World) : Task → Input → Endpoint → Prop
  | packet (task : Task) (p : CspPacket) :
      Endpoint.Stepped e w task (.packet p) ⟨cspRdpNewPacket e p w, task⟩
  | checkTimeouts (task : Task) :
      Endpoint.Stepped e w task .checkTimeouts ⟨cspRdpCheckTimeouts e w, task⟩
  | checkAck (task : Task) : Endpoint.Stepped e w task .checkAck ⟨cspRdpCheckAck e w, task⟩
  | read (task : Task) : Endpoint.Stepped e w task .read ⟨(cspRead e w).2, task⟩
  | close (task : Task) : Endpoint.Stepped e w task .close ⟨(cspClose e w).2, task⟩
  | send (p : CspPacket) : Endpoint.Stepped e w .idle (.send p) (sendEnter e p w)
  | sendWake (p : CspPacket) (hpost : w.conn.rdp.txWait = true) :
      Endpoint.Stepped e w (.sendWait p) .sendWake ⟨cspSendCommit e p (txWaitTake w), .idle⟩
  | sendTimeout (p : CspPacket) : Endpoint.Stepped e w (.sendWait p) .sendTimeout ⟨w, .idle⟩
  | connect :
      Endpoint.Stepped e w .idle .connect (connectEnter true (cspRdpConnect e w))
  | connectWake (retry : Bool) (hpost : w.conn.rdp.txWait = true) :
      Endpoint.Stepped e w (.connectWait retry) .connectWake
        (connectEnter false (cspRdpConnectWoken e retry (txWaitTake w)))
  | connectTimeout (retry : Bool) :
      Endpoint.Stepped e w (.connectWait retry) .connectTimeout ⟨(connectError w).2, .idle⟩

/-- **Every call is one of these.** -/
theorem step_stepped {e : Env} {w : World} {task : Task} {t : Endpoint} {i : Input}
    (h : step e ⟨w, task⟩ i = some t) : Endpoint.Stepped e w task i t := by
  cases i with
  | packet p =>
    obtain rfl := Option.some.inj h
    exact .packet task p
  | checkTimeouts =>
    obtain rfl := Option.some.inj h
    exact .checkTimeouts task
  | checkAck =>
    obtain rfl := Option.some.inj h
    exact .checkAck task
  | read =>
    obtain rfl := Option.some.inj h
    exact .read task
  | close =>
    obtain rfl := Option.some.inj h
    exact .close task
  | send p =>
    cases task with
    | idle =>
      obtain rfl := Option.some.inj h
      exact .send p
    | _ => exact absurd h.symm (Option.some_ne_none t)
  | sendWake =>
    cases task with
    | sendWait p =>
      simp only [step] at h
      split at h
      · obtain rfl := Option.some.inj h
        exact .sendWake p ‹_›
      · exact absurd h.symm (Option.some_ne_none t)
    | _ => exact absurd h.symm (Option.some_ne_none t)
  | sendTimeout =>
    cases task with
    | sendWait p =>
      obtain rfl := Option.some.inj h
      exact .sendTimeout p
    | _ => exact absurd h.symm (Option.some_ne_none t)
  | connect =>
    cases task with
    | idle =>
      obtain rfl := Option.some.inj h
      exact .connect
    | _ => exact absurd h.symm (Option.some_ne_none t)
  | connectWake =>
    cases task with
    | connectWait retry =>
      simp only [step] at h
      split at h
      · obtain rfl := Option.some.inj h
        exact .connectWake retry ‹_›
      · exact absurd h.symm (Option.some_ne_none t)
    | _ => exact absurd h.symm (Option.some_ne_none t)
  | connectTimeout =>
    cases task with
    | connectWait retry =>
      obtain rfl := Option.some.inj h
      exact .connectTimeout retry
    | _ => exact absurd h.symm (Option.some_ne_none t)

/-- The RDP state. -/
abbrev Endpoint.rdp (s : Endpoint) : Rdp := s.world.conn.rdp

/-! ### A connection to look at

Surroundings in which nothing fails and no time passes, a connection whose
handshake is over, and packets as they come off the wire. -/

/-- An empty buffer. -/
def CspPacket.blank (length : U16) : CspPacket :=
  { buf := 0, quarantine := 0, timestamp := 0, length := length, id := 0, data := fun _ => 0 }

/-- No call fails. -/
def Env.favourable (host : ByteOrder) : Env :=
  { host := host
    opts :=
      { windowSize := 4
        connTimeout := 10000
        packetTimeout := 1000
        delayedAcks := 1
        ackTimeout := 250
        ackDelayCount := 2 }
    getMs := fun _ => 0
    rand := fun _ => 0
    bufferGet := fun _ => some (.blank 0)
    sendDirect := fun _ => true
    connLock := fun _ => true
    acceptQueue := fun _ => true }

/-- A connection that has reached `RDP_OPEN` with these initial numbers and is
known to the user. -/
def Conn.opened (iss irs : U16) (windowSize : U32) : Conn :=
  { state := .connOpen
    idin := 0x02
    idout := 0x02
    rxEvent := Queue.empty
    rxQueue := fun _ => Queue.empty
    rxSocket := none
    timestamp := 0
    connOpts := 0
    rdp :=
      { state := .rdpOpen
        sndNxt := iss + 1
        sndUna := iss + 1
        sndIss := iss
        rcvCur := irs
        rcvIrs := irs
        rcvLsa := irs
        windowSize := windowSize
        connTimeout := 10000
        packetTimeout := 1000
        delayedAcks := 1
        ackTimeout := 250
        ackDelayCount := 2
        ackTimestamp := 0
        txWait := false
        txQueue := Queue.empty
        rxQueue := Queue.empty } }

def Endpoint.opened (iss irs : U16) (windowSize : U32) : Endpoint :=
  ⟨⟨.opened iss irs windowSize, 0, []⟩, .idle⟩

/-- A connection nothing has happened to yet. -/
def Endpoint.fresh : Endpoint :=
  ⟨⟨{ Conn.opened 0 0 0 with rdp.state := .rdpClosed }, 0, []⟩, .idle⟩

/-- A packet on the wire. -/
def segment (flags : RdpFlags) (seqNr ackNr : U16) (payload : List U8) : CspPacket :=
  cspRdpHeaderAdd .big { CspPacket.blank (BitVec.ofNat 16 payload.length) with
      id := 0x02, data := fun i => payload.getD i 0 } ⟨flags.byte, seqNr, ackNr⟩

end LibCSP
