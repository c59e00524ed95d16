/-
# Trailers of four bytes

`csp_hmac_append` and `csp_crc32_append` compute four bytes from the payload and put
them behind it; `csp_hmac_verify` and `csp_crc32_verify` compute them from the bytes in
front of the last four, compare, and cut these off.  The last four bytes of a packet
shorter than four lie in its `length` and `id`, and there the length that is hashed
wraps to 32 bits.
-/

import LibCSP.Core.Packet

namespace LibCSP

open Basis

/-- What is computed of a payload. -/
abbrev Trailer : Type := List U8 → Fin 4 → U8

namespace CspPacket

/-- `csp_hmac_append` and `csp_crc32_append`. -/
def appendTrailer (f : Trailer) (p : CspPacket) : CspPacket :=
  { p.write p.length.toNat (List.ofFn (f p.bytes)) with length := p.length + 4 }

/-- The four bytes in front of `data[length]`, as they lie in memory. -/
def lastFour (o : ByteOrder) (p : CspPacket) (k : Fin 4) : U8 := p.mem o (p.length.toNat + 2 + k)

/-- `csp_hmac_verify` and `csp_crc32_verify`; `none` where they fail. -/
def verifyTrailer (o : ByteOrder) (f : Trailer) (p : CspPacket) : Option CspPacket :=
  if ∀ k, p.lastFour o k = f (p.slice 0 (p.length.setWidth 32 - 4 : U32).toNat) k then
    some { p with length := p.length - 4 }
  else none

/-- `q` carries the bytes of `p`, whatever lies behind them. -/
structure SameBytes (p q : CspPacket) : Prop where
  length : q.length = p.length
  data : ∀ k, k < p.length.toNat → q.data k = p.data k

/-- The same bytes, in any portion. -/
theorem SameBytes.slice_eq {p q : CspPacket} (h : SameBytes p q) {n : ℕ}
    (hn : n ≤ p.length.toNat) : q.slice 0 n = p.slice 0 n :=
  List.map_congr_left fun k hk => by
    have := List.mem_range.1 hk
    exact h.data _ (by omega)

/-- The same payload. -/
theorem SameBytes.bytes_eq {p q : CspPacket} (h : SameBytes p q) : q.bytes = p.bytes := by
  rw [bytes_eq_slice, bytes_eq_slice, h.length]
  exact h.slice_eq le_rfl

/-- A packet with the length and the bytes of `p` carries them. -/
theorem SameBytes.of_bytes {p q : CspPacket} (hlen : q.length = p.length)
    (hbytes : q.bytes = p.bytes) : SameBytes p q := by
  refine ⟨hlen, fun k hk => ?_⟩
  have hget : q.bytes[k]? = p.bytes[k]? := congrArg (·[k]?) hbytes
  simp only [bytes, List.getElem?_map, hlen, List.getElem?_range hk, Option.map_some] at hget
  exact Option.some.inj hget

/-- A trailer makes a packet four bytes longer. -/
theorem appendTrailer_length (f : Trailer) {p : CspPacket} (hroom : p.length.toNat + 4 < 2 ^ 16) :
    (p.appendTrailer f).length.toNat = p.length.toNat + 4 := by
  show (p.length + 4).toNat = _
  rw [BitVec.toNat_add]
  exact Nat.mod_eq_of_lt hroom

/-- The payload stays, and the trailer is behind it. -/
theorem appendTrailer_data (f : Trailer) (p : CspPacket) (k : ℕ) :
    (p.appendTrailer f).data k =
      if h : p.length.toNat ≤ k ∧ k < p.length.toNat + 4 then
        f p.bytes ⟨k - p.length.toNat, by omega⟩
      else p.data k := by
  show (if _ ∧ k < _ + (List.ofFn (f p.bytes)).length then _ else _) = _
  rw [List.length_ofFn]
  split
  · rename_i h
    rw [List.getD_eq_getElem _ _ (by rw [List.length_ofFn]; omega), List.getElem_ofFn]
  · rfl

/-- **What was appended is found and cut off**, in any packet that carries it. -/
theorem verifyTrailer_appendTrailer (o : ByteOrder) (f : Trailer) {p q : CspPacket}
    (hroom : p.length.toNat + 4 < 2 ^ 16) (h : SameBytes (p.appendTrailer f) q) :
    ∃ q', q.verifyTrailer o f = some q' ∧ SameBytes p q' ∧ q'.id = q.id := by
  have hlen := appendTrailer_length f hroom
  have hqlen : q.length.toNat = p.length.toNat + 4 := (congrArg BitVec.toNat h.length).trans hlen
  have hcut : (q.length.setWidth 32 - 4 : U32).toNat = p.length.toNat := by
    rw [BitVec.toNat_sub, BitVec.toNat_setWidth, hqlen]
    show (2 ^ 32 - 4 + (p.length.toNat + 4) % 2 ^ 32) % 2 ^ 32 = _
    omega
  have hdata : ∀ k, k < p.length.toNat → q.data k = p.data k := by
    intro k hk
    rw [h.data k (by omega), appendTrailer_data, dif_neg (by omega)]
  have hlast : ∀ k, q.lastFour o k = f p.bytes k := by
    intro k
    have hk := k.isLt
    rw [lastFour, hqlen, show p.length.toNat + 4 + 2 + k = p.length.toNat + k + 6 by omega,
      mem_add_six, h.data _ (by omega), appendTrailer_data, dif_pos (by omega)]
    congr 1
    exact Fin.ext (Nat.add_sub_cancel_left ..)
  have hslice : q.slice 0 p.length.toNat = p.bytes := by
    rw [bytes_eq_slice]
    exact List.map_congr_left fun k hk => hdata _ (by simpa using hk)
  refine ⟨{ q with length := q.length - 4 }, ?_, ⟨?_, hdata⟩, rfl⟩
  · rw [verifyTrailer, hcut, hslice, if_pos hlast]
  · show q.length - 4 = p.length
    rw [h.length]
    exact BitVec.add_sub_cancel _ _

end CspPacket
end LibCSP
