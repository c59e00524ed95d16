/-
# XTEA in counter mode

`src/crypto/csp_xtea.c`.  The key is copied into words and the key stream is read
byte by byte out of words, both in the byte order of the host.  Byte `k` of the data
is combined with byte `k` of the key stream (`cspXteaEncrypt_apply`), so that a second
time restores it (`cspXteaEncrypt_twice`).
-/

import LibCSP.Core.Packet
import LibCSP.Security.Hmac

namespace LibCSP

open Basis

/-- `XTEA_BLOCKSIZE`. -/
def xteaBlocksize : ℕ := 8
/-- `XTEA_ROUNDS`. -/
def xteaRounds : ℕ := 32

/-- `csp_xtea_set_key`. -/
def cspXteaSetKey (key : List U8) : StoredKey := .derive key

/-- `csp_xtea_key[k]`, as the host loads it. -/
def StoredKey.word (o : ByteOrder) (key : StoredKey) (k : U32) : U32 :=
  let b (i : ℕ) : U8 := key.bytes.getD (4 * k.toNat + i) 0
  load32 o (b 0) (b 1) (b 2) (b 3)

/-- One round of `csp_xtea_encrypt_block` on `v0`, `v1` and `sum`. -/
def xteaRound (key : U32 → U32) : U32 × U32 × U32 → U32 × U32 × U32
  | (v0, v1, sum) =>
    let v0 := v0 + (((v1 <<< 4 ^^^ v1 >>> 5) + v1) ^^^ (sum + key (sum &&& 3)))
    let sum := sum + 0x9E3779B9
    let v1 := v1 + (((v0 <<< 4 ^^^ v0 >>> 5) + v0) ^^^ (sum + key (sum >>> 11 &&& 3)))
    (v0, v1, sum)

/-- `csp_xtea_encrypt_block`. -/
def cspXteaEncryptBlock (key : U32 → U32) (block : U32 × U32) : U32 × U32 :=
  let v := (List.range xteaRounds).foldl (fun v _ => xteaRound key v) (block.1, block.2, 0)
  (v.1, v.2.1)

/-- Byte `k` of `stream` in memory. -/
def streamByte (o : ByteOrder) (stream : U32 × U32) (k : ℕ) : U8 :=
  if k < 4 then byte32 o stream.1 k else byte32 o stream.2 (k - 4)

/-- `csp_xtea_xor_byte(&plain[offset], stream, len)`. -/
def cspXteaXorByte (o : ByteOrder) (plain : ℕ → U8) (offset : ℕ) (stream : U32 × U32) (len : ℕ) :
    ℕ → U8 := fun k =>
  if offset ≤ k ∧ k < offset + len then plain k ^^^ streamByte o stream (k - offset) else plain k

/-- The data and the counter `iv[1]` after `blocks` turns of the loop. -/
def xteaLoop (o : ByteOrder) (key : StoredKey) (plain : ℕ → U8) (len : ℕ) (iv : U32 × U32)
    (blocks : ℕ) : (ℕ → U8) × U32 :=
  (List.range blocks).foldl (fun s i =>
    let stream := cspXteaEncryptBlock (key.word o) (iv.1, s.2)
    let remain := len - i * xteaBlocksize
    (cspXteaXorByte o s.1 (len - remain) stream (if remain < xteaBlocksize then remain
      else xteaBlocksize), s.2 + 1)) (plain, iv.2)

/-- `csp_xtea_encrypt`, and `csp_xtea_decrypt`, which calls it. -/
def cspXteaEncrypt (o : ByteOrder) (key : StoredKey) (plain : ℕ → U8) (len : ℕ)
    (iv : U32 × U32) : ℕ → U8 :=
  (xteaLoop o key plain len iv ((len + xteaBlocksize - 1) / xteaBlocksize)).1

/-- Byte `k` of the key stream. -/
def xteaStream (o : ByteOrder) (key : StoredKey) (iv : U32 × U32) (k : ℕ) : U8 :=
  streamByte o (cspXteaEncryptBlock (key.word o) (iv.1, iv.2 + BitVec.ofNat 32 (k / xteaBlocksize)))
    (k % xteaBlocksize)

/-- One more block of the loop. -/
theorem xteaLoop_succ (o : ByteOrder) (key : StoredKey) (plain : ℕ → U8) (len : ℕ)
    (iv : U32 × U32) (m : ℕ) :
    xteaLoop o key plain len iv (m + 1) =
      let s := xteaLoop o key plain len iv m
      let stream := cspXteaEncryptBlock (key.word o) (iv.1, s.2)
      let remain := len - m * xteaBlocksize
      (cspXteaXorByte o s.1 (len - remain) stream (if remain < xteaBlocksize then remain
        else xteaBlocksize), s.2 + 1) := by
  rw [xteaLoop, List.range_succ, List.foldl_append]
  rfl

/-- Each turn of the loop combines one more block with the key stream. -/
theorem xteaLoop_eq (o : ByteOrder) (key : StoredKey) (plain : ℕ → U8) (len : ℕ) (iv : U32 × U32)
    (blocks : ℕ) (hb : (blocks - 1) * 8 ≤ len) :
    (xteaLoop o key plain len iv blocks).2 = iv.2 + BitVec.ofNat 32 blocks ∧
      ∀ k, (xteaLoop o key plain len iv blocks).1 k =
        if k < len ∧ k < 8 * blocks then plain k ^^^ xteaStream o key iv k else plain k := by
  induction blocks with
  | zero => exact ⟨(BitVec.add_zero _).symm, fun k => (if_neg (by omega)).symm⟩
  | succ m ih =>
    obtain ⟨hcount, hdata⟩ := ih (by omega)
    rw [xteaLoop_succ]
    constructor
    · show (xteaLoop o key plain len iv m).2 + 1 = _
      rw [hcount, BitVec.add_assoc, BitVec.ofNat_add]
      rfl
    · intro k
      have hoff : len - (len - m * xteaBlocksize) = 8 * m := by
        show len - (len - m * 8) = 8 * m
        omega
      have hlen : (if len - m * xteaBlocksize < xteaBlocksize then len - m * xteaBlocksize
          else xteaBlocksize) = min (len - 8 * m) 8 := by
        show (if len - m * 8 < 8 then len - m * 8 else 8) = _
        split <;> omega
      simp only [hoff, hlen, hcount]
      rw [cspXteaXorByte, hdata k]
      by_cases hk : 8 * m ≤ k ∧ k < 8 * m + min (len - 8 * m) 8
      · have hdiv : k / xteaBlocksize = m := Nat.div_eq_of_lt_le (by show m * 8 ≤ k; omega)
          (by show k < (m + 1) * 8; omega)
        have hmod : k % xteaBlocksize = k - 8 * m := by
          show k % 8 = _
          omega
        rw [if_pos hk, if_neg (by omega), if_pos (by omega), xteaStream, hdiv, hmod]
      · rw [if_neg hk]
        exact if_congr (by omega) rfl rfl

/-- **The data is combined with the key stream**, byte by byte. -/
theorem cspXteaEncrypt_apply (o : ByteOrder) (key : StoredKey) (plain : ℕ → U8) (len : ℕ)
    (iv : U32 × U32) (k : ℕ) :
    cspXteaEncrypt o key plain len iv k =
      if k < len then plain k ^^^ xteaStream o key iv k else plain k := by
  have hblocks : ((len + xteaBlocksize - 1) / xteaBlocksize - 1) * 8 ≤ len ∧
      len ≤ 8 * ((len + xteaBlocksize - 1) / xteaBlocksize) := by
    show ((len + 8 - 1) / 8 - 1) * 8 ≤ len ∧ len ≤ 8 * ((len + 8 - 1) / 8)
    omega
  rw [cspXteaEncrypt, (xteaLoop_eq o key plain len iv _ hblocks.1).2 k]
  exact if_congr (by omega) rfl rfl

/-- **Decryption undoes encryption.** -/
theorem cspXteaEncrypt_twice (o : ByteOrder) (key : StoredKey) {plain cipher : ℕ → U8} {len : ℕ}
    (iv : U32 × U32) (h : ∀ k, k < len → cipher k = cspXteaEncrypt o key plain len iv k) {k : ℕ}
    (hk : k < len) : cspXteaEncrypt o key cipher len iv k = plain k := by
  rw [cspXteaEncrypt_apply, if_pos hk, h k hk, cspXteaEncrypt_apply, if_pos hk, BitVec.xor_assoc,
    BitVec.xor_self, BitVec.xor_zero]

end LibCSP
