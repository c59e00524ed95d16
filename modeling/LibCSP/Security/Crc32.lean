/-
# CRC32

`src/csp_crc32.c`.  The checksum is computed a byte at a time from a table.  It is
appended with `memcpy` from a `uint32_t`, so in the byte order of the host.
-/

import LibCSP.Security.Trailer

namespace LibCSP

open Basis

/-- `CSP_CRC32_POLY`. -/
def cspCrc32Poly : U32 := 0x82F63B78

/-- `crc_tab[i]`, as `csp_crc32_gentab` leaves it. -/
def crcTab (i : U32) : U32 :=
  (List.range 8).foldl (fun crc _ =>
    if crc &&& 1 ≠ 0 then crc >>> 1 ^^^ cspCrc32Poly else crc >>> 1) i

/-- `csp_crc32_memory`. -/
def cspCrc32Memory (data : List U8) : U32 :=
  data.foldl (fun crc b => crcTab ((crc ^^^ b.setWidth 32) &&& 0xff) ^^^ crc >>> 8) 0xffffffff ^^^
    0xffffffff

/-- The checksum as it lies in memory. -/
def crcTrailer (o : ByteOrder) : Trailer := fun data k => byte32 o (cspCrc32Memory data) k

/-- `csp_crc32_append`. -/
def cspCrc32Append (o : ByteOrder) (p : CspPacket) : CspPacket := p.appendTrailer (crcTrailer o)

/-- `csp_crc32_verify`. -/
def cspCrc32Verify (o : ByteOrder) (p : CspPacket) : Option CspPacket :=
  p.verifyTrailer o (crcTrailer o)

end LibCSP
