/-
# Packets, identifiers and the compile-time configuration

`include/csp/csp.h` and `include/csp/csp_config.h` (the `CSP_DFL_CONFIG`
branch: QoS, RDP, HMAC, CRC32 and XTEA compiled in, the 2-5-5-6-6-8 header).

A `csp_packet_t` lies in a pool element.  Its fields are `padding[8]`, which
RDP uses for two timestamps (`rdp_packet_t`), `length`, the identifier `id` and
then `data`, which runs to the end of the element: the `length` bytes in use
and whatever the element held before behind them.  `CspPacket.data` is that
memory, as a function of the offset.
-/

import Mathlib.Data.List.GetD
import LibCSP.Basis.Word

namespace LibCSP

open Basis

/-! ### Configuration -/

/-- `CSP_CONN_MAX`. -/
def cspConnMax : ℕ := 10
/-- `CSP_CONN_QUEUE_LENGTH`. -/
def cspConnQueueLength : ℕ := 100
/-- `CSP_RDP_MAX_WINDOW`. -/
def cspRdpMaxWindow : ℕ := 20
/-- `CSP_PRIORITIES`, which is also `CSP_RX_QUEUES` under `CSP_USE_QOS`. -/
def cspPriorities : ℕ := 4
/-- `CSP_RX_QUEUE_LENGTH` under `CSP_USE_QOS`. -/
def cspRxQueueLength : ℕ := cspConnQueueLength / cspPriorities

/-- The error codes of `include/csp/csp_error.h` that the modelled functions return. -/
inductive CspErr
  | none
  | nomem
  | inval
  | timedout
  | busy
  | already
  | reset
  | nobufs
  | tx
  | hmac
  | xtea
  | crc32
  deriving DecidableEq, Repr

/-! ### Identifiers -/

/-- `csp_id_t`, as the word `ext`. -/
abbrev CspId := U32

namespace CspId

/-- Priority. -/
def pri (id : CspId) : BitVec 2 := id.extractLsb' 30 2
/-- Source address. -/
def src (id : CspId) : BitVec 5 := id.extractLsb' 25 5
/-- Destination address. -/
def dst (id : CspId) : BitVec 5 := id.extractLsb' 20 5
/-- Destination port. -/
def dport (id : CspId) : BitVec 6 := id.extractLsb' 14 6
/-- Source port. -/
def sport (id : CspId) : BitVec 6 := id.extractLsb' 8 6
/-- Flags. -/
def flags (id : CspId) : U8 := id.extractLsb' 0 8

end CspId

/-- `CSP_FHMAC`: use HMAC verification. -/
def cspFhmac : U8 := 0x08
/-- `CSP_FXTEA`: use XTEA encryption. -/
def cspFxtea : U8 := 0x04
/-- `CSP_FRDP`: use the RDP protocol. -/
def cspFrdp : U8 := 0x02
/-- `CSP_FCRC32`: use a CRC32 checksum. -/
def cspFcrc32 : U8 := 0x01

/-- `flags & f`, as a condition. -/
def CspId.has (id : CspId) (f : U8) : Bool := id.flags &&& f != 0

/-! ### Packets -/

/-- `csp_packet_t`, together with the pool element it lies in and the two
fields RDP keeps in the padding. -/
structure CspPacket where
  /-- The pool element. -/
  buf : ℕ
  /-- EACK quarantine period. -/
  quarantine : U32
  /-- Time the message was sent. -/
  timestamp : U32
  length : U16
  id : CspId
  data : ℕ → U8

namespace CspPacket

/-- The bytes in use, `data[0 .. length)`. -/
def bytes (p : CspPacket) : List U8 := (List.range p.length.toNat).map p.data

/-- The bytes of the struct from `length` on, as they lie in memory: two bytes
of `length`, four of `id`, then `data`. -/
def mem (o : ByteOrder) (p : CspPacket) (k : ℕ) : U8 :=
  if k < 2 then byte16 o p.length k
  else if k < 6 then byte32 o p.id (k - 2)
  else p.data (k - 6)

/-- The packet whose struct holds the bytes `m` from `length` on. -/
def ofMem (o : ByteOrder) (p : CspPacket) (m : ℕ → U8) : CspPacket :=
  { p with
    length := load16 o (m 0) (m 1)
    id := load32 o (m 2) (m 3) (m 4) (m 5)
    data := fun i => m (i + 6) }

/-- `data32[k]`, as the host loads it. -/
def data32 (o : ByteOrder) (p : CspPacket) (k : ℕ) : U32 :=
  load32 o (p.data (4 * k)) (p.data (4 * k + 1)) (p.data (4 * k + 2)) (p.data (4 * k + 3))

/-- `data32[k] = x`. -/
def setData32 (o : ByteOrder) (p : CspPacket) (k : ℕ) (x : U32) : CspPacket :=
  { p with data := fun i => if 4 * k ≤ i ∧ i < 4 * k + 4 then byte32 o x (i - 4 * k) else p.data i }

/-- `data16[k]`, as the host loads it. -/
def data16 (o : ByteOrder) (p : CspPacket) (k : ℕ) : U16 :=
  load16 o (p.data (2 * k)) (p.data (2 * k + 1))

/-- `data16[k] = x`. -/
def setData16 (o : ByteOrder) (p : CspPacket) (k : ℕ) (x : U16) : CspPacket :=
  { p with data := fun i => if 2 * k ≤ i ∧ i < 2 * k + 2 then byte16 o x (i - 2 * k) else p.data i }

/-- The data of a packet begins six bytes behind its length in memory. -/
theorem mem_add_six (o : ByteOrder) (p : CspPacket) (i : ℕ) : p.mem o (i + 6) = p.data i := by
  rw [mem, if_neg (by omega), if_neg (by omega), Nat.add_sub_cancel]

/-- The struct holds the bytes it was given. -/
theorem mem_ofMem (o : ByteOrder) (p : CspPacket) (m : ℕ → U8) (k : ℕ) :
    (p.ofMem o m).mem o k = m k := by
  unfold mem ofMem
  split
  · rename_i hk
    interval_cases k
    · exact byte16_load16_zero o _ _
    · exact byte16_load16_one o _ _
  · split
    · rename_i hk hk'
      have hb := byte32_load32 o (fun i => m (i + 2)) (k := k - 2) (by omega)
      rwa [show k - 2 + 2 = k by omega] at hb
    · show m (k - 6 + 6) = m k
      congr 1
      omega

/-! ### Bytes -/

/-- The bytes `data[offset .. offset + count)`. -/
def slice (p : CspPacket) (offset count : ℕ) : List U8 :=
  (List.range count).map fun k => p.data (offset + k)

/-- A copy has as many bytes as were asked for. -/
theorem length_slice (p : CspPacket) (offset count : ℕ) :
    (p.slice offset count).length = count := by
  rw [slice, List.length_map, List.length_range]

/-- `memcpy` into the data of a packet. -/
def write (p : CspPacket) (offset : ℕ) (bytes : List U8) : CspPacket :=
  { p with data := fun k =>
      if offset ≤ k ∧ k < offset + bytes.length then bytes.getD (k - offset) 0 else p.data k }

/-- The payload is the copy of `length` bytes. -/
theorem bytes_eq_slice (p : CspPacket) : p.bytes = p.slice 0 p.length.toNat := by
  simp only [bytes, slice, Nat.zero_add]

/-- A copy in two portions. -/
theorem slice_add (p : CspPacket) (a b : ℕ) :
    p.slice 0 (a + b) = p.slice 0 a ++ p.slice a b := by
  simp only [slice, List.range_add, List.map_append, List.map_map, Function.comp_def, Nat.zero_add]

/-- What is copied lies behind what was there. -/
theorem slice_write (p : CspPacket) (a : ℕ) (l : List U8) :
    (p.write a l).slice 0 (a + l.length) = p.slice 0 a ++ l := by
  rw [slice_add]
  congr 1
  · refine List.map_congr_left fun k hk => ?_
    have := List.mem_range.1 hk
    exact if_neg (by omega)
  · refine List.ext_getElem (length_slice ..) fun k hk hk' => ?_
    simp only [slice, List.getElem_map, List.getElem_range]
    show (if a ≤ a + k ∧ a + k < a + l.length then _ else _) = _
    rw [if_pos ⟨by omega, by omega⟩, Nat.add_sub_cancel_left, List.getD_eq_getElem _ _ hk']

end CspPacket
end LibCSP
