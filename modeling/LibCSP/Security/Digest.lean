/-
# The hash is SHA-1, and the keyed hash is HMAC

`src/crypto/csp_sha1.c` and `src/crypto/csp_hmac.c` against the definitions of
`LibCSP.Basis.Hash`.  A block is hashed alike: the schedule that `csp_sha1_compress` writes into
`W` satisfies the recurrence, and its functions `F0` to `F3` are those of the standard
(`cspSha1Compress_fips`).  After a message the state has hashed the whole blocks and holds the
rest (`cspSha1Process_blocks`), whichever pieces the message came in
(`foldl_cspSha1Process`).  `csp_sha1_done` then completes the last block, or the last two where the
length no longer fits into one, as the padding does (`cspSha1Done_fips`).
-/

import LibCSP.Basis.Hash
import LibCSP.Security.Hmac

namespace LibCSP

open Basis

/-! ### A block -/

/-- The words of the standard. -/
def Sha1Words.fips (v : Sha1Words) : Fips180.Words := ⟨v.a, v.b, v.c, v.d, v.e⟩

/-- The first function of the rounds. -/
theorem sha1F0_eq (x y z : U32) : sha1F0 x y z = Fips180.ch x y z := by
  apply BitVec.eq_of_getLsbD_eq
  intro i hi
  simp only [sha1F0, Fips180.ch, BitVec.getLsbD_xor, BitVec.getLsbD_and, BitVec.getLsbD_not, hi,
    decide_true, Bool.true_and]
  cases x.getLsbD i <;> cases y.getLsbD i <;> cases z.getLsbD i <;> rfl

/-- The third one, which the code writes in another way. -/
theorem sha1F2_eq (x y z : U32) : sha1F2 x y z = Fips180.maj x y z := by
  apply BitVec.eq_of_getLsbD_eq
  intro i hi
  simp only [sha1F2, Fips180.maj, BitVec.getLsbD_xor, BitVec.getLsbD_and, BitVec.getLsbD_or]
  cases x.getLsbD i <;> cases y.getLsbD i <;> cases z.getLsbD i <;> rfl

/-- One use of `FF_0` to `FF_3` is a round. -/
theorem sha1Round_fips {w : ℕ → U32} {t : ℕ} {x : U32} (hx : x = w t) (v : Sha1Words) :
    (sha1Round t v x).fips = Fips180.round w v.fips t := by
  have hterm : ∀ f k : U32, rol v.a 5 + f + v.e + x + k = v.a.rotateLeft 5 + f + v.e + k + w t := by
    intro f k
    rw [hx, BitVec.add_assoc _ _ k, BitVec.add_comm (w t) k, ← BitVec.add_assoc]
    rfl
  unfold sha1Round Fips180.round Fips180.logical Fips180.constant
  split_ifs <;> simp only [sha1FF, Sha1Words.fips, hterm, sha1F0_eq, sha1F2_eq] <;> rfl

/-- `W` after `n` words of the expansion. -/
def sha1Prefix (buf : List U8) (n : ℕ) : List U32 :=
  (List.range n).foldl (fun w i => w ++ [rol (w.getD (i + 13) 0 ^^^ w.getD (i + 8) 0 ^^^
    w.getD (i + 2) 0 ^^^ w.getD i 0) 1]) ((List.range 16).map fun i => load32H buf (4 * i))

/-- The schedule, one word longer. -/
theorem sha1Prefix_succ (buf : List U8) (n : ℕ) :
    sha1Prefix buf (n + 1) = sha1Prefix buf n ++ [rol ((sha1Prefix buf n).getD (n + 13) 0 ^^^
      (sha1Prefix buf n).getD (n + 8) 0 ^^^ (sha1Prefix buf n).getD (n + 2) 0 ^^^
      (sha1Prefix buf n).getD n 0) 1] := by
  rw [sha1Prefix, List.range_succ (n := n), List.foldl_append]
  rfl

/-- The expansion satisfies the recurrence. -/
theorem sha1Prefix_spec (buf : List U8) (n : ℕ) :
    (sha1Prefix buf n).length = 16 + n ∧
      ∀ t, t < 16 + n → (sha1Prefix buf n).getD t 0 = Fips180.schedule buf t := by
  induction n with
  | zero =>
    refine ⟨rfl, fun t ht => ?_⟩
    rw [sha1Prefix, List.range_zero, List.foldl_nil,
      List.getD_eq_getElem _ _ (by rw [List.length_map, List.length_range]; exact ht),
      List.getElem_map, List.getElem_range, Fips180.schedule, if_pos ht]
    rfl
  | succ n ih =>
    obtain ⟨hlen, hget⟩ := ih
    rw [sha1Prefix_succ]
    refine ⟨by rw [List.length_append, hlen, List.length_singleton, Nat.add_assoc],
      fun t ht => ?_⟩
    rcases Nat.lt_or_ge t (16 + n) with hold | hnew
    · rw [List.getD_append _ _ _ _ (by rwa [hlen])]
      exact hget t hold
    · obtain rfl : t = 16 + n := by omega
      rw [List.getD_append_right _ _ _ _ (by rw [hlen]), hlen, Nat.sub_self, List.getD_cons_zero,
        hget _ (by omega), hget _ (by omega), hget _ (by omega), hget _ (by omega),
        Fips180.schedule.eq_def buf (16 + n), if_neg (by omega),
        show 16 + n - 3 = n + 13 by omega, show 16 + n - 8 = n + 8 by omega,
        show 16 + n - 14 = n + 2 by omega, show 16 + n - 16 = n by omega]
      rfl

/-- **A block is hashed as in the standard.** -/
theorem cspSha1Compress_fips (state : Sha1Words) (buf : List U8) :
    (cspSha1Compress state buf).fips = Fips180.hashBlock state.fips buf := by
  have hrounds : ∀ l : List ℕ, (∀ t ∈ l, t < 80) → ∀ v : Sha1Words,
      (l.foldl (fun v i => sha1Round i v ((sha1Expand buf).getD i 0)) v).fips =
        l.foldl (Fips180.round (Fips180.schedule buf)) v.fips := by
    intro l
    induction l with
    | nil => exact fun _ _ => rfl
    | cons t l ih =>
      intro hl v
      have hword : (sha1Expand buf).getD t 0 = Fips180.schedule buf t :=
        (sha1Prefix_spec buf 64).2 t (hl t List.mem_cons_self)
      rw [List.foldl_cons, List.foldl_cons, ih (fun t' ht' => hl t' (List.mem_cons_of_mem t ht')),
        sha1Round_fips hword]
  have h80 := hrounds (List.range 80) (fun t ht => List.mem_range.1 ht) state
  simp only [Fips180.hashBlock, ← h80]
  simp only [cspSha1Compress, Sha1Words.fips, BitVec.add_comm]

/-! ### A message -/

/-- **Every way of splitting the input leaves the same state.** -/
theorem foldl_cspSha1Process (pieces : List (List U8)) (sha1 : CspSha1State) :
    pieces.foldl cspSha1Process sha1 = cspSha1Process sha1 pieces.flatten := by
  induction pieces generalizing sha1 with
  | nil =>
    rw [List.flatten_nil, cspSha1Process_eq]
    rfl
  | cons piece pieces ih =>
    rw [List.foldl_cons, List.flatten_cons, cspSha1Process_append, ih]

/-- Whole blocks are hashed one after the other, and nothing stays. -/
theorem foldl_absorb_blocks (n : ℕ) {sha1 : CspSha1State} (hbuf : sha1.buf = []) {l : List U8}
    (hl : l.length = sha1Blocksize * n) :
    l.foldl CspSha1State.absorb sha1 =
      { length := sha1.length + BitVec.ofNat 64 (512 * n)
        state := foldBlocks cspSha1Compress sha1Blocksize n sha1.state l
        buf := []
        lt := by decide } := by
  induction n generalizing sha1 l with
  | zero =>
    obtain ⟨length, state, buf, lt⟩ := sha1
    subst hbuf
    rw [List.length_eq_zero_iff.1 hl]
    simp [foldBlocks]
  | succ n ih =>
    have hsize : sha1Blocksize ≤ l.length := by
      rw [hl]
      exact Nat.le_mul_of_pos_right _ (Nat.succ_pos n)
    have hdrop : (l.drop sha1Blocksize).length = sha1Blocksize * n := by
      rw [List.length_drop, hl, Nat.mul_succ, Nat.add_sub_cancel]
    have htake : (l.take sha1Blocksize).length = sha1Blocksize := by
      rw [List.length_take, Nat.min_eq_left hsize]
    have hne : l.take sha1Blocksize ≠ [] := fun h => by
      rw [h] at htake
      exact absurd htake (by decide)
    have hfull : (sha1.buf ++ l.take sha1Blocksize).length = sha1Blocksize := by
      rw [hbuf, List.nil_append, htake]
    have hblock := foldl_absorb_eq _ hne hfull
    have hcount : sha1.length + 512 + BitVec.ofNat 64 (512 * n) =
        sha1.length + BitVec.ofNat 64 (512 * (n + 1)) := by
      rw [BitVec.add_assoc, Nat.mul_succ, Nat.add_comm (512 * n), BitVec.ofNat_add]
      rfl
    calc l.foldl CspSha1State.absorb sha1
        = (l.drop sha1Blocksize).foldl CspSha1State.absorb
            ((l.take sha1Blocksize).foldl CspSha1State.absorb sha1) := by
          rw [← List.foldl_append, List.take_append_drop]
      _ = _ := by
          rw [hblock, ih rfl hdrop]
          simp only [hcount, hbuf, List.nil_append]
          rfl

/-- **The state behind a message**: its whole blocks are hashed and counted, the rest is held. -/
theorem cspSha1Process_blocks {n : ℕ} {blocks rest : List U8}
    (hblocks : blocks.length = sha1Blocksize * n) (hrest : rest.length < sha1Blocksize) :
    cspSha1Process cspSha1Init (blocks ++ rest) =
      { length := BitVec.ofNat 64 (512 * n)
        state := foldBlocks cspSha1Compress sha1Blocksize n cspSha1Init.state blocks
        buf := rest
        lt := hrest } := by
  have hcount : cspSha1Init.length + BitVec.ofNat 64 (512 * n) = BitVec.ofNat 64 (512 * n) :=
    BitVec.zero_add _
  rw [cspSha1Process_eq, List.foldl_append, foldl_absorb_blocks n rfl hblocks, hcount]
  exact @foldl_absorb_lt rest ⟨_, _, [], by decide⟩ hrest

/-- **The end of a message is padded as in the standard**: the bytes held, the set bit, the zeros
and the length are one block or two. -/
theorem cspSha1Done_eq (sha1 : CspSha1State) {len : ℕ}
    (hlen : sha1.length + BitVec.ofNat 64 (sha1.buf.length * 8) = BitVec.ofNat 64 (8 * len))
    (hmod : len % 64 = sha1.buf.length) :
    cspSha1Done sha1 = Fips180.digest (foldBlocks cspSha1Compress sha1Blocksize
      ((sha1.buf ++ Fips180.padding len).length / 64) sha1.state
        (sha1.buf ++ Fips180.padding len)).fips := by
  have hlt : sha1.buf.length < 64 := sha1.lt
  have hstore : store64H (BitVec.ofNat 64 (8 * len)) =
      Fips180.bigEndian 8 (BitVec.ofNat 64 (8 * len)) := rfl
  have hdigest : ∀ v : Sha1Words, store32H v.a ++ store32H v.b ++ store32H v.c ++ store32H v.d ++
      store32H v.e = Fips180.digest v.fips := fun _ => rfl
  have hlength : (sha1.buf ++ [0x80]).length = sha1.buf.length + 1 := List.length_append
  rw [cspSha1Done, hlen, hstore]
  by_cases hlong : 56 < sha1.buf.length + 1
  · have hsplit := Fips180.append_padding_two hmod (Nat.lt_succ_iff.1 hlong)
    have hfirst : (sha1.buf ++ [0x80] ++
        List.replicate (64 - (sha1.buf.length + 1)) 0).length = sha1Blocksize * 1 := by
      rw [List.length_append, hlength, List.length_replicate, sha1Blocksize]
      omega
    have hsecond : (List.replicate 56 (0 : U8) ++
        Fips180.bigEndian 8 (BitVec.ofNat 64 (8 * len))).length = sha1Blocksize := by
      simp [Fips180.bigEndian, sha1Blocksize]
    have hcount : (sha1.buf ++ Fips180.padding len).length / 64 = 1 + 1 := by
      rw [hsplit, List.length_append, hfirst, hsecond]
      rfl
    rw [hlength, if_pos hlong, hcount, hsplit, foldBlocks_append _ _ _ _ hfirst,
      foldBlocks_one _ _ hsecond, foldBlocks_one _ _ (hfirst.trans (Nat.mul_one _)),
      ← hdigest]
    rfl
  · have hsplit := Fips180.append_padding_one hmod (by omega)
    have hblock : (sha1.buf ++ [0x80] ++ List.replicate (56 - (sha1.buf.length + 1)) 0 ++
        Fips180.bigEndian 8 (BitVec.ofNat 64 (8 * len))).length = sha1Blocksize := by
      rw [List.length_append, List.length_append, hlength, List.length_replicate, sha1Blocksize]
      simp [Fips180.bigEndian]
      omega
    have hcount : (sha1.buf ++ Fips180.padding len).length / 64 = 1 := by
      rw [hsplit, hblock]
      rfl
    rw [hlength, if_neg hlong, hcount, hsplit, foldBlocks_one _ _ hblock, ← hdigest]
    simp only [hlength]

/-- **`csp_sha1_memory` is SHA-1**, for messages of every length. -/
theorem cspSha1Memory_fips (msg : List U8) : cspSha1Memory msg = Fips180.sha1 msg := by
  set n := msg.length / 64 with hn
  have hblocks : (msg.take (64 * n)).length = sha1Blocksize * n := by
    rw [List.length_take, sha1Blocksize]
    omega
  have hrest : (msg.drop (64 * n)).length < sha1Blocksize := by
    rw [List.length_drop, sha1Blocksize]
    omega
  have hlen : msg.length = 64 * n + (msg.drop (64 * n)).length := by
    rw [List.length_drop]
    omega
  have hstate := cspSha1Process_blocks hblocks hrest
  rw [List.take_append_drop] at hstate
  have hbits : BitVec.ofNat 64 (512 * n) + BitVec.ofNat 64 ((msg.drop (64 * n)).length * 8) =
      BitVec.ofNat 64 (8 * msg.length) := by
    rw [← BitVec.ofNat_add]
    congr 1
    omega
  have hcount : (Fips180.pad msg).length / 64 =
      n + (msg.drop (64 * n) ++ Fips180.padding msg.length).length / 64 := by
    rw [Fips180.pad, List.length_append, List.length_append]
    omega
  have hpad : Fips180.pad msg =
      msg.take (64 * n) ++ (msg.drop (64 * n) ++ Fips180.padding msg.length) := by
    rw [← List.append_assoc, List.take_append_drop]
    rfl
  have hsha1 : Fips180.sha1 msg = Fips180.digest (foldBlocks Fips180.hashBlock sha1Blocksize
      ((msg.drop (64 * n) ++ Fips180.padding msg.length).length / 64)
        (foldBlocks Fips180.hashBlock sha1Blocksize n Fips180.initial (msg.take (64 * n)))
          (msg.drop (64 * n) ++ Fips180.padding msg.length)) := by
    rw [← foldBlocks_append _ _ _ _ hblocks, Fips180.sha1, hcount, hpad]
    rfl
  rw [cspSha1Memory, hstate, cspSha1Done_eq _ hbits (show _ = (msg.drop (64 * n)).length by omega),
    hsha1, foldBlocks_hom Sha1Words.fips cspSha1Compress_fips,
    foldBlocks_hom Sha1Words.fips cspSha1Compress_fips]
  rfl

/-- The digest of `abc`. -/
example : cspSha1Memory [0x61, 0x62, 0x63] =
    [0xa9, 0x99, 0x3e, 0x36, 0x47, 0x06, 0x81, 0x6a, 0xba, 0x3e, 0x25, 0x71, 0x78, 0x50, 0xc2, 0x6c,
      0x9c, 0xd0, 0xd8, 0x9d] := by
  rw [cspSha1Memory, cspSha1Process_eq]
  decide +kernel

/-! ### The keyed hash -/

/-- The key of the HMAC in one block. -/
theorem hmacBlock_eq (key : List U8) : hmacBlock key = hmacKey Fips180.sha1 sha1Blocksize key := by
  unfold hmacBlock hmacKey
  split_ifs with hlong
  · rw [← cspSha1Memory_fips]
    rfl
  · rfl

/-- **`csp_hmac_memory` is HMAC over SHA-1**, for keys and messages of every length.  The hash may
be fed in any pieces, and its end is padded right behind every message. -/
theorem cspHmacMemory_rfc2104 {key : List U8} (hkey : 1 ≤ key.length) (data : List U8) :
    cspHmacMemory key data = some (hmac Fips180.sha1 sha1Blocksize key data) ∧
      (∀ (pieces : List (List U8)) (sha1 : CspSha1State),
        pieces.foldl cspSha1Process sha1 = cspSha1Process sha1 pieces.flatten) ∧
      ∀ msg, cspSha1Done (cspSha1Process cspSha1Init msg) = Fips180.sha1 msg := by
  refine ⟨?_, foldl_cspSha1Process, cspSha1Memory_fips⟩
  rw [cspHmacMemory_eq hkey, hmacBlock_eq, cspSha1Memory_fips, cspSha1Memory_fips]
  rfl

/-- A key longer than a block, and a message of two calls. -/
theorem cspHmacMemory_rfc2104_long :
    cspHmacMemory (List.replicate 80 0xaa) [0x61, 0x62, 0x63] =
        some (hmac Fips180.sha1 sha1Blocksize (List.replicate 80 0xaa) [0x61, 0x62, 0x63]) ∧
      [[0x61, 0x62], [0x63]].foldl cspSha1Process cspSha1Init =
        cspSha1Process cspSha1Init [0x61, 0x62, 0x63] :=
  have h := @cspHmacMemory_rfc2104 (List.replicate 80 0xaa) (by decide) [0x61, 0x62, 0x63]
  ⟨h.1, h.2.1 _ _⟩

end LibCSP
