/-
# The CAN interface

`csp_can_tx`, `csp_tx_callback` and `csp_rx_callback` of
`src/interfaces/csp_if_can.c`, with the pool of packet buffer elements that they
share.  Each takes the elements as they are and returns them as they are
afterwards; what leaves the interface on the way, and what it does with memory,
is in the log: packets handed to `csp_new_packet`, buffers freed, bytes copied,
and the use of a packet that is not there.

A call is given what it reads from outside: the clock readings it makes, in
order, the buffer `csp_buffer_get` returns, whether `can_send` succeeds.
-/

import Mathlib.Logic.Equiv.Fin.Basic
import LibCSP.Can.Frame

namespace LibCSP

open Basis

/-- `CSP_CAN_MTU`. -/
def cspCanMtu : ℕ := 256
/-- `PBUF_ELEMENTS`. -/
def pbufElements : ℕ := cspConnMax
/-- `PBUF_TIMEOUT_MS`. -/
def pbufTimeoutMs : U32 := 10000

/-- `pbuf_state_t`. -/
inductive PbufState
  | bufFree
  | bufUsed
  deriving DecidableEq

/-- `pbuf_element_t`. -/
structure PbufElement where
  rxCount : U16
  txCount : U16
  remain : U32
  cfpid : U32
  packet : Option CspPacket
  state : PbufState
  lastUsed : U32

inductive CanEvent
  /-- `csp_new_packet`. -/
  | newPacket (p : CspPacket)
  /-- `csp_buffer_free`. -/
  | free (buf : ℕ)
  /-- `count` bytes were copied to `data[offset]` of a packet. -/
  | write (offset count : ℕ)
  /-- `buf->packet` was followed while `NULL`. -/
  | nullDeref

structure Pbuf where
  elements : Fin pbufElements → PbufElement
  log : List CanEvent

/-- The element as `pbuf_init` and `pbuf_free` leave it. -/
def PbufElement.free : PbufElement :=
  { rxCount := 0, txCount := 0, remain := 0, cfpid := 0, packet := none, state := .bufFree,
    lastUsed := 0 }

/-- `pbuf_init`. -/
def Pbuf.init : Pbuf := ⟨fun _ => .free, []⟩

namespace Pbuf

def set (s : Pbuf) (i : Fin pbufElements) (buf : PbufElement) : Pbuf :=
  { s with elements := Function.update s.elements i buf }

def emit (s : Pbuf) (ev : CanEvent) : Pbuf := { s with log := s.log ++ [ev] }

/-- An event goes to the end of the log. -/
@[simp] theorem emit_log (s : Pbuf) (ev : CanEvent) : (s.emit ev).log = s.log ++ [ev] := rfl

/-- The element that is set. -/
@[simp] theorem set_elements_self (s : Pbuf) (i : Fin pbufElements) (buf : PbufElement) :
    (s.set i buf).elements i = buf := Function.update_self ..

/-- The other elements stay. -/
theorem set_elements_ne (s : Pbuf) {i j : Fin pbufElements} (h : j ≠ i) (buf : PbufElement) :
    (s.set i buf).elements j = s.elements j := Function.update_of_ne h ..

end Pbuf

/-! ### Elements -/

/-- `pbuf_free`. -/
def pbufFree (i : Fin pbufElements) (s : Pbuf) : Pbuf :=
  match (s.elements i).packet with
  | some p => (s.emit (.free p.buf)).set i .free
  | none => s.set i .free

/-- `pbuf_new` may take this element when the clock reads `now`. -/
def PbufElement.available (now : U32) (buf : PbufElement) : Bool :=
  buf.state = .bufFree || pbufTimeoutMs < now - buf.lastUsed

/-- `pbuf_new`.  The loop reads the clock once for every used element it passes,
so the reading at element `i` is the `i`-th.  An element that has timed out is freed
inside the critical section of the loop, and `pbuf_free` enters it again: this is the function on
platforms where critical sections nest, since with the `pbuf_sem` of POSIX the call would
wait for itself. -/
def pbufNew (id : U32) (clock : ℕ → U32) (s : Pbuf) : Option (Fin pbufElements × Pbuf) :=
  (Fin.find? fun i => (s.elements i).available (clock i)).map fun i =>
    match (s.elements i).state with
    | .bufFree =>
      (i, s.set i { s.elements i with
        state := .bufUsed, cfpid := id, remain := 0, lastUsed := clock i })
    | .bufUsed =>
      let s := pbufFree i s
      (i, s.set i { s.elements i with
        state := .bufUsed, cfpid := id, remain := 0, lastUsed := clock (i + 1) })

/-- The element is in use for the packet that this frame identifier belongs to. -/
def PbufElement.isFor (id : U32) (buf : PbufElement) : Bool :=
  buf.state = .bufUsed && cfpConn buf.cfpid == cfpConn id

/-- `pbuf_find` with the mask `CFP_ID_CONN_MASK`, the only one it is called with. -/
def pbufFind (id : U32) (clock : ℕ → U32) (s : Pbuf) : Option (Fin pbufElements × Pbuf) :=
  (Fin.find? fun i => (s.elements i).isFor id).map fun i =>
    (i, s.set i { s.elements i with lastUsed := clock 0 })

/-! ### Transmission -/

/-- What `csp_can_tx` and `csp_tx_callback` read from outside. -/
structure TxCall where
  host : ByteOrder
  clock : ℕ → U32
  /-- `id_get`; `none` when its semaphore is not available. -/
  ident : Option (BitVec 10)
  /-- `can_send` succeeds. -/
  canSend : Bool

/-- The first bytes of a packet on the bus: identifier and length in network order. -/
def canHeaderBytes (o : ByteOrder) (p : CspPacket) : List U8 :=
  (List.range 4).map (byte32 o (hton32 o p.id)) ++ (List.range 2).map (byte16 o (hton16 o p.length))

/-- A CAN header has six bytes: the identifier and the length. -/
theorem length_canHeaderBytes (o : ByteOrder) (p : CspPacket) :
    (canHeaderBytes o p).length = 6 := rfl

/-- The BEGIN frame `csp_can_tx` sends. -/
def beginFrame (o : ByteOrder) (p : CspPacket) (ident : BitVec 10) : CanFrame where
  id := cfpHeader (p.id.src.setWidth 32) (p.id.dst.setWidth 32) (ident.setWidth 32) cfpBegin
    (BitVec.ofNat 32 ((p.length.toNat + 6 - 1) / 8))
  data := canHeaderBytes o p ++ p.slice 0 (min p.length.toNat 2)
  le := by
    rw [List.length_append, length_canHeaderBytes, CspPacket.length_slice]
    omega

/-- `csp_can_tx` up to the wait for the end of the transmission: the frame it
sends, if any. -/
def cspCanTx (c : TxCall) (packet : CspPacket) (s : Pbuf) : Option CanFrame × Pbuf :=
  match c.ident with
  | none => (none, s)
  | some ident =>
    let frame := beginFrame c.host packet ident
    match pbufNew frame.id c.clock s with
    | none => (none, s)
    | some (i, s) =>
      let buf := s.elements i
      let s := s.set i { buf with
        packet := some packet
        txCount := buf.txCount + BitVec.ofNat 16 (min packet.length.toNat 2) }
      (if c.canSend then some frame else none, s)

/-- The MORE frame `csp_tx_callback` sends after `txCount` bytes. -/
def moreFrame (p : CspPacket) (canid : U32) (txCount : ℕ) : CanFrame where
  id := cfpMakeSrc (p.id.src.setWidth 32) ||| cfpMakeDst (p.id.dst.setWidth 32) |||
    cfpMakeId (cfpId canid) ||| cfpMakeType cfpMore |||
    cfpMakeRemain (BitVec.ofNat 32
      ((p.length.toNat - txCount - min 8 (p.length.toNat - txCount) + 7) / 8))
  data := p.slice txCount (min 8 (p.length.toNat - txCount))
  le := by
    rw [CspPacket.length_slice]
    exact Nat.min_le_left _ _

/-- `csp_tx_callback`: what it returns, and the frame it sends, if any.  `ok` is
`CAN_NO_ERROR`. -/
def cspTxCallback (c : TxCall) (canid : U32) (ok : Bool) (s : Pbuf) : ℤ × Option CanFrame × Pbuf :=
  match pbufFind canid c.clock s with
  | none => (-1, none, s)
  | some (i, s) =>
    let buf := s.elements i
    match buf.packet with
    | none => (-1, none, pbufFree i s)
    | some p =>
      if !ok then (-1, none, pbufFree i s)
      else if buf.txCount < p.length then
        let frame := moreFrame p canid buf.txCount.toNat
        let s := s.set i { buf with txCount := buf.txCount + BitVec.ofNat 16 frame.dlc }
        if c.canSend then (0, some frame, s) else (-1, none, pbufFree i s)
      else (0, none, pbufFree i s)

/-! ### Reception -/

/-- A frame and what `csp_rx_callback` reads from outside. -/
structure RxCall where
  frame : CanFrame
  clock : ℕ → U32
  /-- `csp_buffer_get`. -/
  buffer : Option CspPacket

/-- `case CFP_MORE`, which `CFP_BEGIN` falls through to with its `offset`. -/
def rxMore (frame : CanFrame) (i : Fin pbufElements) (offset : ℕ) (s : Pbuf) : Pbuf :=
  let buf := s.elements i
  if cfpRemain frame.id ≠ buf.remain - 1 then pbufFree i s
  else
    match buf.packet with
    | none => s.emit .nullDeref
    | some p =>
      if p.length.toNat < buf.rxCount.toNat + frame.dlc - offset then
        pbufFree i (s.set i { buf with remain := buf.remain - 1 })
      else
        let bytes := frame.data.drop offset
        let p := p.write buf.rxCount.toNat bytes
        let rxCount := buf.rxCount + BitVec.ofNat 16 bytes.length
        let s := (s.emit (.write buf.rxCount.toNat bytes.length)).set i { buf with
          remain := buf.remain - 1, packet := some p, rxCount := rxCount }
        if rxCount ≠ p.length then s
        else
          let s := s.emit (.newPacket p)
          pbufFree i (s.set i { s.elements i with packet := none })

/-- The packet with the identifier and the length at the front of these bytes. -/
def CspPacket.readHeader (o : ByteOrder) (p : CspPacket) (bytes : List U8) : CspPacket :=
  { p with
    id := hton32 o (load32 o (bytes.getD 0 0) (bytes.getD 1 0) (bytes.getD 2 0) (bytes.getD 3 0))
    length := hton16 o (load16 o (bytes.getD 4 0) (bytes.getD 5 0)) }

/-- `case CFP_BEGIN`. -/
def rxBegin (o : ByteOrder) (c : RxCall) (i : Fin pbufElements) (s : Pbuf) : Pbuf :=
  if c.frame.dlc < 6 then pbufFree i s
  else
    let buf := s.elements i
    match buf.packet.or c.buffer with
    | none => pbufFree i s
    | some p =>
      rxMore c.frame i 6 (s.set i { buf with
        packet := some (p.readHeader o c.frame.data)
        rxCount := 0
        remain := cfpRemain c.frame.id + 1 })

/-- The switch in `csp_rx_callback`. -/
def rxFrame (o : ByteOrder) (c : RxCall) (i : Fin pbufElements) (s : Pbuf) : Pbuf :=
  if cfpType c.frame.id = cfpBegin then rxBegin o c i s
  else if cfpType c.frame.id = cfpMore then rxMore c.frame i 0 s
  else pbufFree i s

/-- `csp_rx_callback`. -/
def cspRxCallback (o : ByteOrder) (c : RxCall) (s : Pbuf) : ℤ × Pbuf :=
  match pbufFind c.frame.id c.clock s with
  | some (i, s) => (0, rxFrame o c i s)
  | none =>
    if cfpType c.frame.id = cfpBegin then
      match pbufNew c.frame.id c.clock s with
      | some (i, s) => (0, rxFrame o c i s)
      | none => (-1, s)
    else (-1, s)

/-- The elements after a list of incoming frames. -/
def rxRun (o : ByteOrder) (s : Pbuf) (calls : List RxCall) : Pbuf :=
  calls.foldl (fun s c => (cspRxCallback o c s).2) s

end LibCSP
