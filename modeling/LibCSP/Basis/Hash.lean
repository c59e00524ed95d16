/-
# SHA-1 and HMAC as their standards define them

SHA-1 after FIPS 180: the message is padded to whole blocks with a set bit, zeros and its
length (`Fips180.pad`), and the blocks are hashed one after the other, each with a schedule
of eighty words given by a recurrence (`Fips180.schedule`).  HMAC after RFC 2104, over any hash
function and block length (`hmac`).

The definitions follow the standards and not a program: the logical functions and the rotations
are theirs, and nothing is buffered.  `foldBlocks` is the loop over the blocks of a message; it
may be cut between two blocks (`foldBlocks_append`).
-/

import Mathlib.Data.List.Basic
import LibCSP.Basis.Word

namespace Basis

/-! ### Blocks -/

section Blocks

variable {α σ τ : Type*}

/-- The first `n` blocks of `size` elements each, one after the other. -/
def foldBlocks (f : σ → List α → σ) (size : ℕ) : ℕ → σ → List α → σ
  | 0, s, _ => s
  | n + 1, s, l => foldBlocks f size n (f s (l.take size)) (l.drop size)

/-- Blocks that are hashed in two portions. -/
theorem foldBlocks_append (f : σ → List α → σ) {size n : ℕ} (m : ℕ) (s : σ) {l : List α}
    (l' : List α) (hl : l.length = size * n) :
    foldBlocks f size (n + m) s (l ++ l') =
      foldBlocks f size m (foldBlocks f size n s l) l' := by
  induction n generalizing s l with
  | zero =>
    rw [List.length_eq_zero_iff.1 hl, Nat.zero_add]
    rfl
  | succ n ih =>
    have hsize : size ≤ l.length := by
      rw [hl]
      exact Nat.le_mul_of_pos_right _ (Nat.succ_pos n)
    have hdrop : (l.drop size).length = size * n := by
      rw [List.length_drop, hl, Nat.mul_succ, Nat.add_sub_cancel]
    rw [Nat.succ_add]
    show foldBlocks f size (n + m) (f s ((l ++ l').take size)) ((l ++ l').drop size) = _
    rw [List.take_append_of_le_length hsize, List.drop_append_of_le_length hsize, ih _ hdrop]
    rfl

/-- A message of one block. -/
theorem foldBlocks_one (f : σ → List α → σ) {size : ℕ} (s : σ) {l : List α}
    (hl : l.length = size) : foldBlocks f size 1 s l = f s l :=
  congrArg (f s) (List.take_of_length_le (Nat.le_of_eq hl))

/-- Two loops that do the same in each turn. -/
theorem foldBlocks_hom {f : σ → List α → σ} {g : τ → List α → τ} (e : σ → τ)
    (h : ∀ s l, e (f s l) = g (e s) l) (size n : ℕ) (s : σ) (l : List α) :
    e (foldBlocks f size n s l) = foldBlocks g size n (e s) l := by
  induction n generalizing s l with
  | zero => rfl
  | succ n ih =>
    show e (foldBlocks f size n _ _) = foldBlocks g size n _ _
    rw [ih, h]

end Blocks

/-! ### SHA-1 -/

namespace Fips180

/-- `Ch(x, y, z)`. -/
def ch (x y z : U32) : U32 := (x &&& y) ^^^ (~~~x &&& z)
/-- `Parity(x, y, z)`. -/
def parity (x y z : U32) : U32 := x ^^^ y ^^^ z
/-- `Maj(x, y, z)`. -/
def maj (x y z : U32) : U32 := (x &&& y) ^^^ (x &&& z) ^^^ (y &&& z)

/-- `f_t`. -/
def logical (t : ℕ) : U32 → U32 → U32 → U32 :=
  if t < 20 then ch else if t < 40 then parity else if t < 60 then maj else parity

/-- `K_t`. -/
def constant (t : ℕ) : U32 :=
  if t < 20 then 0x5a827999 else if t < 40 then 0x6ed9eba1
  else if t < 60 then 0x8f1bbcdc else 0xca62c1d6

/-- The five words of a hash value. -/
structure Words where
  a : U32
  b : U32
  c : U32
  d : U32
  e : U32
  deriving DecidableEq

/-- `H⁽⁰⁾`. -/
def initial : Words := ⟨0x67452301, 0xefcdab89, 0x98badcfe, 0x10325476, 0xc3d2e1f0⟩

/-- `M_t`, a word of a block. -/
def blockWord (block : List U8) (t : ℕ) : U32 :=
  word32 (block.getD (4 * t) 0) (block.getD (4 * t + 1) 0) (block.getD (4 * t + 2) 0)
    (block.getD (4 * t + 3) 0)

/-- `W_t`. -/
def schedule (block : List U8) (t : ℕ) : U32 :=
  if t < 16 then blockWord block t
  else
    (schedule block (t - 3) ^^^ schedule block (t - 8) ^^^ schedule block (t - 14) ^^^
      schedule block (t - 16)).rotateLeft 1
termination_by t

/-- One of the eighty rounds. -/
def round (w : ℕ → U32) (v : Words) (t : ℕ) : Words where
  a := v.a.rotateLeft 5 + logical t v.b v.c v.d + v.e + constant t + w t
  b := v.a
  c := v.b.rotateLeft 30
  d := v.c
  e := v.d

/-- `H⁽ⁱ⁾` from `H⁽ⁱ⁻¹⁾` and a block. -/
def hashBlock (h : Words) (block : List U8) : Words :=
  let v := (List.range 80).foldl (round (schedule block)) h
  ⟨v.a + h.a, v.b + h.b, v.c + h.c, v.d + h.d, v.e + h.e⟩

/-- The zero bytes behind the set bit of a message of `n` bytes. -/
def zeros (n : ℕ) : ℕ := (119 - n % 64) % 64

/-- They leave eight bytes of the last block, and are less than a block. -/
theorem zeros_eq_iff {n k : ℕ} (hk : k < 64) : zeros n = k ↔ (n + 1 + k) % 64 = 56 := by
  unfold zeros
  omega

/-- The bytes of a word, the most significant first. -/
def bigEndian {w : ℕ} (bytes : ℕ) (x : BitVec w) : List U8 :=
  (List.range bytes).map fun k => byteOf x (bytes - 1 - k)

/-- What is put behind a message of `n` bytes. -/
def padding (n : ℕ) : List U8 :=
  0x80 :: (List.replicate (zeros n) 0 ++ bigEndian 8 (BitVec.ofNat 64 (8 * n)))

/-- The padded message. -/
def pad (m : List U8) : List U8 := m ++ padding m.length

/-- The length does not fit behind the end of the message: a block of zeros up to its end, and one
for the length. -/
theorem append_padding_two {buf : List U8} {n : ℕ} (hbuf : n % 64 = buf.length)
    (hlong : 56 ≤ buf.length) : buf ++ padding n =
      (buf ++ [0x80] ++ List.replicate (64 - (buf.length + 1)) 0) ++
        (List.replicate 56 0 ++ bigEndian 8 (BitVec.ofNat 64 (8 * n))) := by
  have hzeros : zeros n = (64 - (buf.length + 1)) + 56 := (zeros_eq_iff (by omega)).2 (by omega)
  rw [padding, hzeros, List.replicate_add]
  simp only [List.append_assoc, List.cons_append, List.nil_append]

/-- The length fits behind the zeros. -/
theorem append_padding_one {buf : List U8} {n : ℕ} (hbuf : n % 64 = buf.length)
    (hshort : buf.length < 56) : buf ++ padding n =
      buf ++ [0x80] ++ List.replicate (56 - (buf.length + 1)) 0 ++
        bigEndian 8 (BitVec.ofNat 64 (8 * n)) := by
  have hzeros : zeros n = 56 - (buf.length + 1) := (zeros_eq_iff (by omega)).2 (by omega)
  rw [padding, hzeros]
  simp only [List.append_assoc, List.cons_append, List.nil_append]

/-- The hash value as bytes. -/
def digest (h : Words) : List U8 :=
  bigEndian 4 h.a ++ bigEndian 4 h.b ++ bigEndian 4 h.c ++ bigEndian 4 h.d ++ bigEndian 4 h.e

/-- SHA-1. -/
def sha1 (m : List U8) : List U8 :=
  digest (foldBlocks hashBlock 64 ((pad m).length / 64) initial (pad m))

end Fips180

/-! ### HMAC -/

/-- The key of HMAC, hashed if it is longer than a block, with zeros up to a block. -/
def hmacKey (hash : List U8 → List U8) (size : ℕ) (key : List U8) : List U8 :=
  let k := if size < key.length then hash key else key
  k ++ List.replicate (size - k.length) 0

/-- HMAC of a text. -/
def hmac (hash : List U8 → List U8) (size : ℕ) (key text : List U8) : List U8 :=
  hash ((hmacKey hash size key).map (· ^^^ 0x5c) ++
    hash ((hmacKey hash size key).map (· ^^^ 0x36) ++ text))

end Basis
