/-
# Machine words and the bytes they are stored in

Unsigned words are bit vectors, so addition and subtraction wrap the way they
do in C.  A word in memory is a row of bytes whose order depends on the
machine: `byte16 o x k` is the `k`-th byte of `x` in memory of order `o`, and
`load16 o` reads the word back.  `hton16 o` is the conversion to network
order, the identity on a big-endian machine and a byte swap on a little-endian
one.

What a program that goes through memory needs is here: reading back what was
stored (`load16_byte16`), the bytes of a loaded word (`byte16_load16_zero`), and the
fact that a converted word has the same bytes in memory on every machine
(`byte16_hton16`).
-/

import Mathlib.Tactic.IntervalCases

namespace Basis

/-- `uint8_t`. -/
abbrev U8 := BitVec 8
/-- `uint16_t`. -/
abbrev U16 := BitVec 16
/-- `uint32_t`. -/
abbrev U32 := BitVec 32

/-- The order in which a machine stores the bytes of a word. -/
inductive ByteOrder
  | little
  | big
  deriving DecidableEq, Repr

/-- The 16-bit word with high byte `hi` and low byte `lo`. -/
def word16 (hi lo : U8) : U16 := hi.setWidth 16 <<< 8 ||| lo.setWidth 16

/-- The 32-bit word with bytes `a b c d`, most significant first. -/
def word32 (a b c d : U8) : U32 :=
  a.setWidth 32 <<< 24 ||| b.setWidth 32 <<< 16 ||| c.setWidth 32 <<< 8 ||| d.setWidth 32

/-- Byte `k` of a word, counted from the least significant one. -/
def byteOf {w : ℕ} (x : BitVec w) (k : ℕ) : U8 := (x >>> (8 * k)).setWidth 8

/-- The 16-bit word at two consecutive memory bytes. -/
def load16 : ByteOrder → U8 → U8 → U16
  | .little, b₀, b₁ => word16 b₁ b₀
  | .big, b₀, b₁ => word16 b₀ b₁

/-- The `k`-th memory byte of a 16-bit word. -/
def byte16 : ByteOrder → U16 → ℕ → U8
  | .little, x, k => byteOf x k
  | .big, x, k => byteOf x (1 - k)

/-- The 32-bit word at four consecutive memory bytes. -/
def load32 : ByteOrder → U8 → U8 → U8 → U8 → U32
  | .little, b₀, b₁, b₂, b₃ => word32 b₃ b₂ b₁ b₀
  | .big, b₀, b₁, b₂, b₃ => word32 b₀ b₁ b₂ b₃

/-- The `k`-th memory byte of a 32-bit word. -/
def byte32 : ByteOrder → U32 → ℕ → U8
  | .little, x, k => byteOf x k
  | .big, x, k => byteOf x (3 - k)

/-- The word with its two bytes exchanged. -/
def swap16 (h : U16) : U16 := (h &&& 0xff00) >>> 8 ||| (h &&& 0x00ff) <<< 8

/-- The word with its four bytes reversed. -/
def swap32 (h : U32) : U32 :=
  (h &&& 0xff000000) >>> 24 ||| (h &&& 0x000000ff) <<< 24 |||
    (h &&& 0x0000ff00) <<< 8 ||| (h &&& 0x00ff0000) >>> 8

/-- Host to network order, 16 bits. -/
def hton16 : ByteOrder → U16 → U16
  | .little, x => swap16 x
  | .big, x => x

/-- Host to network order, 32 bits. -/
def hton32 : ByteOrder → U32 → U32
  | .little, x => swap32 x
  | .big, x => x

/-! ### Words and their bytes -/

/-- The high byte of a 16-bit word. -/
theorem byteOf_word16_one (hi lo : U8) : byteOf (word16 hi lo) 1 = hi := by
  apply BitVec.eq_of_getLsbD_eq
  intro i hi
  simp only [byteOf, word16]
  interval_cases i <;> simp

/-- The low byte of a 16-bit word. -/
theorem byteOf_word16_zero (hi lo : U8) : byteOf (word16 hi lo) 0 = lo := by
  apply BitVec.eq_of_getLsbD_eq
  intro i hi
  simp only [byteOf, word16]
  interval_cases i <;> simp

/-- A 16-bit word of its bytes. -/
theorem word16_byteOf (x : U16) : word16 (byteOf x 1) (byteOf x 0) = x := by
  apply BitVec.eq_of_getLsbD_eq
  intro i hi
  simp only [byteOf, word16]
  interval_cases i <;> simp

/-- The bytes of a 16-bit word swapped. -/
theorem swap16_word16 (hi lo : U8) : swap16 (word16 hi lo) = word16 lo hi := by
  apply BitVec.eq_of_getLsbD_eq
  intro i hi
  simp only [swap16, word16]
  interval_cases i <;> simp

/-- A 32-bit word of its bytes. -/
theorem word32_byteOf (x : U32) :
    word32 (byteOf x 3) (byteOf x 2) (byteOf x 1) (byteOf x 0) = x := by
  apply BitVec.eq_of_getLsbD_eq
  intro i hi
  simp only [byteOf, word32]
  interval_cases i <;> simp

/-- The bytes of a 32-bit word reversed. -/
theorem swap32_word32 (a b c d : U8) : swap32 (word32 a b c d) = word32 d c b a := by
  apply BitVec.eq_of_getLsbD_eq
  intro i hi
  simp only [swap32, word32]
  interval_cases i <;> simp

/-- The four bytes of a 32-bit word, least significant first. -/
theorem byteOf_word32 (a b c d : U8) :
    byteOf (word32 a b c d) 0 = d ∧ byteOf (word32 a b c d) 1 = c ∧
      byteOf (word32 a b c d) 2 = b ∧ byteOf (word32 a b c d) 3 = a := by
  refine ⟨?_, ?_, ?_, ?_⟩ <;>
  · apply BitVec.eq_of_getLsbD_eq
    intro i hi
    simp only [byteOf, word32]
    interval_cases i <;> simp

/-! ### Memory -/

/-- A 16-bit word is loaded as it was stored. -/
@[simp] theorem load16_byte16 (o : ByteOrder) (x : U16) :
    load16 o (byte16 o x 0) (byte16 o x 1) = x := by
  cases o <;> exact word16_byteOf x

/-- The first byte is stored as it was loaded. -/
@[simp] theorem byte16_load16_zero (o : ByteOrder) (a b : U8) : byte16 o (load16 o a b) 0 = a := by
  cases o
  · exact byteOf_word16_zero b a
  · exact byteOf_word16_one a b

/-- The second byte is stored as it was loaded. -/
@[simp] theorem byte16_load16_one (o : ByteOrder) (a b : U8) : byte16 o (load16 o a b) 1 = b := by
  cases o
  · exact byteOf_word16_one b a
  · exact byteOf_word16_zero a b

/-- A 32-bit word is loaded as it was stored. -/
@[simp] theorem load32_byte32 (o : ByteOrder) (x : U32) :
    load32 o (byte32 o x 0) (byte32 o x 1) (byte32 o x 2) (byte32 o x 3) = x := by
  cases o <;> exact word32_byteOf x

/-- Four bytes are stored as they were loaded. -/
theorem byte32_load32 (o : ByteOrder) (m : ℕ → U8) {k : ℕ} (hk : k < 4) :
    byte32 o (load32 o (m 0) (m 1) (m 2) (m 3)) k = m k := by
  cases o
  · obtain ⟨h₀, h₁, h₂, h₃⟩ := byteOf_word32 (m 3) (m 2) (m 1) (m 0)
    interval_cases k
    exacts [h₀, h₁, h₂, h₃]
  · obtain ⟨h₀, h₁, h₂, h₃⟩ := byteOf_word32 (m 0) (m 1) (m 2) (m 3)
    interval_cases k
    exacts [h₃, h₂, h₁, h₀]

/-! ### Network order -/

/-- The swap of 16 bits, by its bytes. -/
theorem swap16_eq (x : U16) : swap16 x = word16 (byteOf x 0) (byteOf x 1) := by
  rw [← swap16_word16, word16_byteOf]

/-- The swap of 32 bits, by its bytes. -/
theorem swap32_eq (x : U32) :
    swap32 x = word32 (byteOf x 0) (byteOf x 1) (byteOf x 2) (byteOf x 3) := by
  rw [← swap32_word32, word32_byteOf]

/-- A word that reads the same from both ends. -/
theorem swap32_eq_self_iff (x : U32) :
    swap32 x = x ↔ byteOf x 0 = byteOf x 3 ∧ byteOf x 1 = byteOf x 2 := by
  obtain ⟨h₀, h₁, -, -⟩ := byteOf_word32 (byteOf x 0) (byteOf x 1) (byteOf x 2) (byteOf x 3)
  constructor
  · intro h
    rw [← swap32_eq, h] at h₀ h₁
    exact ⟨h₀, h₁⟩
  · rintro ⟨h₀₃, h₁₂⟩
    calc swap32 x = word32 (byteOf x 0) (byteOf x 1) (byteOf x 2) (byteOf x 3) := swap32_eq x
      _ = word32 (byteOf x 3) (byteOf x 2) (byteOf x 1) (byteOf x 0) := by rw [h₀₃, h₁₂]
      _ = x := word32_byteOf x

/-- Network order and back, for 16 bits. -/
@[simp] theorem hton16_hton16 (o : ByteOrder) (x : U16) : hton16 o (hton16 o x) = x := by
  cases o
  · rw [hton16, hton16, swap16_eq x, swap16_word16, word16_byteOf]
  · rfl

/-- Network order and back, for 32 bits. -/
@[simp] theorem hton32_hton32 (o : ByteOrder) (x : U32) : hton32 o (hton32 o x) = x := by
  cases o
  · rw [hton32, hton32, swap32_eq x, swap32_word32, word32_byteOf]
  · rfl

/-- **A loaded and converted word is the network-order word of its bytes**, on
every machine. -/
theorem hton16_load16 (o : ByteOrder) (a b : U8) : hton16 o (load16 o a b) = word16 a b := by
  cases o
  · exact swap16_word16 b a
  · rfl

/-- What four bytes of a packet are on a host of any byte order. -/
theorem hton32_load32 (o : ByteOrder) (a b c d : U8) :
    hton32 o (load32 o a b c d) = word32 a b c d := by
  cases o
  · exact swap32_word32 d c b a
  · rfl

/-- **A converted word has the same memory bytes on every machine**, the most
significant one first. -/
theorem byte16_hton16 (o : ByteOrder) (x : U16) :
    byte16 o (hton16 o x) 0 = byteOf x 1 ∧ byte16 o (hton16 o x) 1 = byteOf x 0 := by
  cases o
  · rw [hton16, swap16_eq]
    exact ⟨byteOf_word16_zero _ _, byteOf_word16_one _ _⟩
  · exact ⟨rfl, rfl⟩

/-- What a host of any byte order stores as a word in network order. -/
theorem byte32_hton32 (o : ByteOrder) (x : U32) {k : ℕ} (hk : k < 4) :
    byte32 o (hton32 o x) k = byteOf x (3 - k) := by
  cases o
  · obtain ⟨h₀, h₁, h₂, h₃⟩ := byteOf_word32 (byteOf x 0) (byteOf x 1) (byteOf x 2) (byteOf x 3)
    rw [hton32, swap32_eq]
    interval_cases k
    · exact h₀
    · exact h₁
    · exact h₂
    · exact h₃
  · rfl

end Basis
