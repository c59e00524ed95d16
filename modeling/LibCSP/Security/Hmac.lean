/-
# HMAC

`src/crypto/csp_hmac.c`: the hash of the payload with a key of 16 bytes, cut to four
bytes and appended to the packet.
-/

import LibCSP.Security.Sha1
import LibCSP.Security.Trailer

namespace LibCSP

open Basis

/-- `HMAC_KEY_LENGTH`, and `XTEA_KEY_LENGTH`. -/
def hmacKeyLength : ℕ := 16

/-- `hmac_state`. -/
structure HmacState where
  md : CspSha1State
  key : List U8

/-- `hmac->key`: the key, or its hash if it is longer than a block, and zeros. -/
def hmacBlock (key : List U8) : List U8 :=
  if sha1Blocksize < key.length then
    cspSha1Memory key ++ List.replicate (sha1Blocksize - sha1Digestsize) 0
  else key ++ List.replicate (sha1Blocksize - key.length) 0

/-- `csp_hmac_init`; `none` where it fails. -/
def cspHmacInit (key : List U8) : Option HmacState :=
  if key.length < 1 then none
  else
    some
      { md := cspSha1Process cspSha1Init ((hmacBlock key).map (· ^^^ 0x36))
        key := hmacBlock key }

/-- `csp_hmac_process`. -/
def cspHmacProcess (hmac : HmacState) (input : List U8) : HmacState :=
  { hmac with md := cspSha1Process hmac.md input }

/-- `csp_hmac_done`. -/
def cspHmacDone (hmac : HmacState) : List U8 :=
  let isha := cspSha1Done hmac.md
  cspSha1Done (cspSha1Process (cspSha1Process cspSha1Init (hmac.key.map (· ^^^ 0x5c))) isha)

/-- `csp_hmac_memory`; `none` where it fails. -/
def cspHmacMemory (key data : List U8) : Option (List U8) :=
  (cspHmacInit key).map fun state => cspHmacDone (cspHmacProcess state data)

/-- **The HMAC of a message**: the hash of the outer key block and the hash of the inner key
block and the message. -/
theorem cspHmacMemory_eq {key : List U8} (hkey : 1 ≤ key.length) (data : List U8) :
    cspHmacMemory key data = some (cspSha1Memory ((hmacBlock key).map (· ^^^ 0x5c) ++
      cspSha1Memory ((hmacBlock key).map (· ^^^ 0x36) ++ data))) := by
  rw [cspHmacMemory, cspHmacInit, if_neg (Nat.not_lt.2 hkey), Option.map_some, cspHmacDone,
    cspHmacProcess, cspSha1Memory, cspSha1Memory, cspSha1Process_append, cspSha1Process_append]

/-- `csp_hmac_key`, or the bytes of `csp_xtea_key`. -/
structure StoredKey where
  bytes : List U8
  length_eq : bytes.length = hmacKeyLength

/-- The first bytes of the hash of a key. -/
def StoredKey.derive (key : List U8) : StoredKey where
  bytes := (cspSha1Memory key).take hmacKeyLength
  length_eq := by
    rw [List.length_take, length_cspSha1Memory]
    rfl

/-- `csp_hmac_set_key`. -/
def cspHmacSetKey (key : List U8) : StoredKey := .derive key

/-- A stored key passes the check of `csp_hmac_init`. -/
theorem cspHmacMemory_storedKey (key : StoredKey) (data : List U8) :
    ∃ hmac, cspHmacMemory key.bytes data = some hmac ∧ hmac.length = sha1Digestsize := by
  have hkey : 1 ≤ key.bytes.length := by
    rw [key.length_eq]
    decide
  exact ⟨_, cspHmacMemory_eq hkey data, length_cspSha1Memory _⟩

/-- The first bytes of the HMAC, `CSP_HMAC_LENGTH` of them. -/
def hmacTrailer (key : StoredKey) : Trailer := fun data k =>
  ((cspHmacMemory key.bytes data).getD []).getD k 0

/-- `csp_hmac_append`. -/
def cspHmacAppend (key : StoredKey) (p : CspPacket) : CspPacket := p.appendTrailer (hmacTrailer key)

/-- `csp_hmac_verify`. -/
def cspHmacVerify (o : ByteOrder) (key : StoredKey) (p : CspPacket) : Option CspPacket :=
  p.verifyTrailer o (hmacTrailer key)

end LibCSP
