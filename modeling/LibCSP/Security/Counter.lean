/-
# Counter mode with the length of the source

`csp_xtea_encrypt` takes its length as a `uint32_t` and rounds it up to blocks in 32 bits, so
within seven of the largest length the number of blocks wraps to zero and nothing is encrypted.
`cspXteaEncrypt32` is the function with that arithmetic, and with the blocks that it encrypts.
Below the wrap it is the model of `LibCSP.Security.Xtea`, which every packet meets
(`cspXteaEncrypt32_plain`).

At the wrap the data stay as they are.  That is never counter mode, since the block cipher can
be undone and so cannot map two counters to zero (`cspXteaEncryptBlock_injective`).
-/

import Mathlib.Data.List.Nodup
import LibCSP.Security.Xtea

namespace LibCSP

open Basis

/-! ### The block cipher is injective -/

/-- A round can be undone. -/
theorem xteaRound_injective (key : U32 → U32) : Function.Injective (xteaRound key) := by
  rintro ⟨v0, v1, sum⟩ ⟨v0', v1', sum'⟩ h
  simp only [xteaRound, Prod.mk.injEq] at h
  obtain ⟨h0, h1, hsum⟩ := h
  obtain rfl : sum = sum' := (BitVec.add_left_inj _).1 hsum
  rw [h0] at h1
  obtain rfl : v1 = v1' := (BitVec.add_left_inj _).1 h1
  obtain rfl : v0 = v0' := (BitVec.add_left_inj _).1 h0
  rfl

/-- The rounds do not mix the data into `sum`. -/
theorem iterate_xteaRound_sum (key : U32 → U32) (n : ℕ) (v v' : U32 × U32 × U32)
    (h : v.2.2 = v'.2.2) : ((xteaRound key)^[n] v).2.2 = ((xteaRound key)^[n] v').2.2 := by
  induction n generalizing v v' with
  | zero => exact h
  | succ n ih => exact ih _ _ (congrArg (· + (0x9E3779B9 : U32)) h)

/-- The cipher as 32 rounds. -/
theorem cspXteaEncryptBlock_eq (key : U32 → U32) (block : U32 × U32) :
    cspXteaEncryptBlock key block =
      (((xteaRound key)^[xteaRounds] (block.1, block.2, 0)).1,
        ((xteaRound key)^[xteaRounds] (block.1, block.2, 0)).2.1) := by
  rw [cspXteaEncryptBlock, List.foldl_const, List.length_range]

/-- **Two blocks are never encrypted to the same.** -/
theorem cspXteaEncryptBlock_injective (key : U32 → U32) :
    Function.Injective (cspXteaEncryptBlock key) := by
  rintro ⟨v0, v1⟩ ⟨v0', v1'⟩ h
  rw [cspXteaEncryptBlock_eq, cspXteaEncryptBlock_eq, Prod.mk.injEq] at h
  have hsum := iterate_xteaRound_sum key xteaRounds (v0, v1, 0) (v0', v1', 0) rfl
  have hwords := (xteaRound_injective key).iterate xteaRounds
    (Prod.ext h.1 (Prod.ext h.2 hsum))
  simp only [Prod.mk.injEq] at hwords
  rw [hwords.1, hwords.2.1]

/-! ### The loop -/

/-- The buffer, `stream` and `iv` of `csp_xtea_encrypt`, and the blocks encrypted so far. -/
structure XteaState where
  plain : ℕ → U8
  stream : U32 × U32
  iv : U32 × U32
  encrypted : List (U32 × U32)

/-- A turn of the loop. -/
def xteaTurn (o : ByteOrder) (key : StoredKey) (len : U32) (s : XteaState) (i : ℕ) : XteaState :=
  let stream := cspXteaEncryptBlock (key.word o) s.stream
  let remain := len - BitVec.ofNat 32 i * 8
  { plain := cspXteaXorByte o s.plain (len - remain).toNat stream
      (if remain < 8 then remain else 8 : U32).toNat
    stream := (s.iv.1, s.iv.2 + 1)
    iv := (s.iv.1, s.iv.2 + 1)
    encrypted := s.encrypted ++ [s.stream] }

/-- `csp_xtea_encrypt`, with `len` and `blocks` as words. -/
def cspXteaEncrypt32 (o : ByteOrder) (key : StoredKey) (plain : ℕ → U8) (len : U32)
    (iv : U32 × U32) : XteaState :=
  let blocks : U32 := (len + 8 - 1) / 8
  (List.range blocks.toNat).foldl (xteaTurn o key len) ⟨plain, iv, iv, []⟩

/-- `csp_xtea_decrypt`. -/
def cspXteaDecrypt32 (o : ByteOrder) (key : StoredKey) (cipher : ℕ → U8) (len : U32)
    (iv : U32 × U32) : XteaState := cspXteaEncrypt32 o key cipher len iv

/-- Turns of the loop up to the last block. -/
theorem foldl_xteaTurn (o : ByteOrder) (key : StoredKey) (plain : ℕ → U8) (len : U32)
    (iv : U32 × U32) (n : ℕ) (hn : 8 * n ≤ len.toNat + 7) :
    (List.range n).foldl (xteaTurn o key len) ⟨plain, iv, iv, []⟩ =
      { plain := (xteaLoop o key plain len.toNat iv n).1
        stream := (iv.1, iv.2 + BitVec.ofNat 32 n)
        iv := (iv.1, iv.2 + BitVec.ofNat 32 n)
        encrypted := (List.range n).map fun i => (iv.1, iv.2 + BitVec.ofNat 32 i) } := by
  induction n with
  | zero => simp [xteaLoop]
  | succ n ih =>
    have hlt := len.isLt
    have hremain : (len - BitVec.ofNat 32 n * 8).toNat = len.toNat - n * xteaBlocksize := by
      rw [BitVec.toNat_sub, BitVec.toNat_mul, BitVec.toNat_ofNat]
      show (2 ^ 32 - n % 2 ^ 32 * 8 % 2 ^ 32 + len.toNat) % 2 ^ 32 = len.toNat - n * 8
      omega
    have hoffset : (len - (len - BitVec.ofNat 32 n * 8)).toNat =
        len.toNat - (len.toNat - n * xteaBlocksize) := by
      rw [BitVec.toNat_sub, hremain]
      omega
    have hcount : (if len - BitVec.ofNat 32 n * 8 < 8 then len - BitVec.ofNat 32 n * 8 else 8 :
        U32).toNat = if len.toNat - n * xteaBlocksize < xteaBlocksize then
          len.toNat - n * xteaBlocksize else xteaBlocksize := by
      rw [← hremain, apply_ite BitVec.toNat]
      rfl
    have hcounter : iv.2 + BitVec.ofNat 32 n + 1 = iv.2 + BitVec.ofNat 32 (n + 1) := by
      rw [BitVec.add_assoc, BitVec.ofNat_add]
      rfl
    have hloop := (xteaLoop_eq o key plain len.toNat iv n (by omega)).1
    rw [List.range_succ, List.foldl_append, ih (by omega), List.foldl_cons, List.foldl_nil,
      xteaTurn, List.map_append]
    simp only [hoffset, hcount, hcounter]
    rw [xteaLoop_succ]
    simp only [hloop]
    rfl

/-- **The function as the packets meet it**, below the wrap. -/
theorem cspXteaEncrypt32_eq (o : ByteOrder) (key : StoredKey) (plain : ℕ → U8) {len : U32}
    (iv : U32 × U32) (hlen : len.toNat + 7 < 2 ^ 32) :
    (cspXteaEncrypt32 o key plain len iv).plain = cspXteaEncrypt o key plain len.toNat iv ∧
      (cspXteaEncrypt32 o key plain len iv).encrypted =
        (List.range ((len.toNat + 7) / 8)).map fun i => (iv.1, iv.2 + BitVec.ofNat 32 i) := by
  have hblocks : ((len + 8 - 1) / 8 : U32).toNat = (len.toNat + 7) / 8 := by
    rw [BitVec.toNat_udiv, BitVec.toNat_sub, BitVec.toNat_add]
    show (2 ^ 32 - 1 + (len.toNat + 8) % 2 ^ 32) % 2 ^ 32 / 8 = _
    omega
  rw [cspXteaEncrypt32]
  simp only [hblocks]
  rw [foldl_xteaTurn o key plain len iv _ (by omega)]
  exact ⟨rfl, rfl⟩

/-- At the wrap there are no blocks. -/
theorem cspXteaEncrypt32_wrap (o : ByteOrder) (key : StoredKey) (plain : ℕ → U8) {len : U32}
    (iv : U32 × U32) (hlen : 2 ^ 32 ≤ len.toNat + 7) :
    cspXteaEncrypt32 o key plain len iv = ⟨plain, iv, iv, []⟩ := by
  have hlt := len.isLt
  have hblocks : ((len + 8 - 1) / 8 : U32).toNat = 0 := by
    rw [BitVec.toNat_udiv, BitVec.toNat_sub, BitVec.toNat_add]
    show (2 ^ 32 - 1 + (len.toNat + 8) % 2 ^ 32) % 2 ^ 32 / 8 = _
    omega
  rw [cspXteaEncrypt32]
  simp only [hblocks, List.range_zero, List.foldl_nil]

/-! ### Counter mode -/

/-- The bytes in use are combined with the key stream, the others stay, no block is encrypted
twice, and decryption gives the buffer back. -/
structure XteaCounterMode (o : ByteOrder) (key : StoredKey) (plain : ℕ → U8) (len : U32)
    (iv : U32 × U32) : Prop where
  cipher : ∀ k, k < len.toNat → (cspXteaEncrypt32 o key plain len iv).plain k = plain k ^^^
    streamByte o (cspXteaEncryptBlock (key.word o)
      (iv.1, iv.2 + BitVec.ofNat 32 (k / xteaBlocksize))) (k % xteaBlocksize)
  rest : ∀ k, len.toNat ≤ k → (cspXteaEncrypt32 o key plain len iv).plain k = plain k
  encrypted : (cspXteaEncrypt32 o key plain len iv).encrypted.Nodup
  decrypted : (cspXteaDecrypt32 o key (cspXteaEncrypt32 o key plain len iv).plain len iv).plain =
    plain

/-- **Counter mode**, up to the length where the counters wrap. -/
theorem xteaCounterMode (o : ByteOrder) (key : StoredKey) (plain : ℕ → U8) {len : U32}
    (iv : U32 × U32) (hlen : len.toNat + 7 < 2 ^ 32) : XteaCounterMode o key plain len iv := by
  obtain ⟨hplain, hblocks⟩ := cspXteaEncrypt32_eq o key plain iv hlen
  refine ⟨fun k hk => ?_, fun k hk => ?_, ?_, ?_⟩
  · rw [hplain, cspXteaEncrypt_apply, if_pos hk]
    rfl
  · rw [hplain, cspXteaEncrypt_apply, if_neg (Nat.not_lt.2 hk)]
  · rw [hblocks]
    refine List.Nodup.map_on (fun i hi j hj h => ?_) List.nodup_range
    have hi := List.mem_range.1 hi
    have hj := List.mem_range.1 hj
    have hcount := congrArg BitVec.toNat ((BitVec.add_right_inj _).1 (Prod.ext_iff.1 h).2)
    rw [BitVec.toNat_ofNat, BitVec.toNat_ofNat] at hcount
    omega
  · funext k
    rw [cspXteaDecrypt32, (cspXteaEncrypt32_eq o key _ iv hlen).1, hplain]
    rcases Nat.lt_or_ge k len.toNat with hk | hk
    · exact cspXteaEncrypt_twice o key iv (fun _ _ => rfl) hk
    · rw [cspXteaEncrypt_apply, if_neg (Nat.not_lt.2 hk), cspXteaEncrypt_apply,
        if_neg (Nat.not_lt.2 hk)]

/-- A word whose bytes in memory are zero. -/
theorem eq_zero_of_byte32 (o : ByteOrder) {x : U32} (h : ∀ k, k < 4 → byte32 o x k = 0) :
    x = 0 := by
  rw [← load32_byte32 o x, h 0 (by decide), h 1 (by decide), h 2 (by decide), h 3 (by decide)]
  cases o <;> rfl

/-- **At the wrap it is not counter mode**: two blocks of key stream would be zero. -/
theorem not_xteaCounterMode (o : ByteOrder) (key : StoredKey) (plain : ℕ → U8) {len : U32}
    (iv : U32 × U32) (hlen : 2 ^ 32 ≤ len.toNat + 7) : ¬ XteaCounterMode o key plain len iv := by
  intro h
  have hbyte : ∀ k, k < len.toNat → streamByte o (cspXteaEncryptBlock (key.word o)
      (iv.1, iv.2 + BitVec.ofNat 32 (k / xteaBlocksize))) (k % xteaBlocksize) = 0 := by
    intro k hk
    have hsame := h.cipher k hk
    rw [cspXteaEncrypt32_wrap o key plain iv hlen] at hsame
    have hcancel := congrArg (plain k ^^^ ·) hsame.symm
    simp only [← BitVec.xor_assoc, BitVec.xor_self, BitVec.zero_xor] at hcancel
    exact hcancel
  have hzero : ∀ c, c < 2 →
      cspXteaEncryptBlock (key.word o) (iv.1, iv.2 + BitVec.ofNat 32 c) = (0, 0) := by
    intro c hc
    have hblock : ∀ j, j < 8 → streamByte o (cspXteaEncryptBlock (key.word o)
        (iv.1, iv.2 + BitVec.ofNat 32 c)) j = 0 := by
      intro j hj
      have hj' := hbyte (8 * c + j) (by omega)
      rwa [show (8 * c + j) / xteaBlocksize = c by rw [xteaBlocksize]; omega,
        show (8 * c + j) % xteaBlocksize = j by rw [xteaBlocksize]; omega] at hj'
    refine Prod.ext (eq_zero_of_byte32 o fun j hj => ?_) (eq_zero_of_byte32 o fun j hj => ?_)
    · have hj' := hblock j (by omega)
      rwa [streamByte, if_pos hj] at hj'
    · have hj' := hblock (j + 4) (by omega)
      rwa [streamByte, if_neg (by omega), Nat.add_sub_cancel] at hj'
  have hcounter := cspXteaEncryptBlock_injective _
    ((hzero 0 (by decide)).trans (hzero 1 (by decide)).symm)
  rw [Prod.mk.injEq] at hcounter
  exact absurd ((BitVec.add_right_inj _).1 hcounter.2) (by decide)

/-- **`csp_xtea_encrypt` is counter mode up to the wrap of the number of blocks**, and from there
on for no key, counter or buffer. -/
theorem xteaCounterMode_iff (o : ByteOrder) (key : StoredKey) (plain : ℕ → U8) (len : U32)
    (iv : U32 × U32) : XteaCounterMode o key plain len iv ↔ len.toNat + 7 < 2 ^ 32 := by
  constructor
  · intro h
    by_contra hlen
    exact not_xteaCounterMode o key plain iv (Nat.le_of_not_lt hlen) h
  · exact xteaCounterMode o key plain iv

/-- Seven bytes below 2³², nothing is encrypted. -/
theorem xteaCounterMode_wrapped :
    ¬ XteaCounterMode .little ⟨List.replicate 16 0, rfl⟩ (fun _ => 0) 0xFFFFFFF9 (0, 1) :=
  not_xteaCounterMode _ _ _ _ (by decide)

end LibCSP
