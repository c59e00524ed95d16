/-
# SHA-1

`src/crypto/csp_sha1.c`.  The state buffers the bytes of a block that is not
complete, always fewer than `SHA1_BLOCKSIZE`; the C array holds them in
`buf[0 .. curlen)`.  Words are loaded and stored with shifts (`LOAD32H`, `STORE32H`,
`STORE64H`), so the digest does not depend on the byte order of the host, and messages
may be hashed in pieces (`cspSha1Process_append`).
-/

import Mathlib.Data.List.Basic
import LibCSP.Basis.Word

namespace LibCSP

open Basis

/-- `SHA1_BLOCKSIZE`. -/
def sha1Blocksize : ℕ := 64
/-- `SHA1_DIGESTSIZE`. -/
def sha1Digestsize : ℕ := 20

/-- `state[5]`, and the variables `a` to `e`. -/
structure Sha1Words where
  a : U32
  b : U32
  c : U32
  d : U32
  e : U32
  deriving DecidableEq

/-- `csp_sha1_state`. -/
structure CspSha1State where
  length : BitVec 64
  state : Sha1Words
  buf : List U8
  lt : buf.length < sha1Blocksize

/-! ### Compression -/

/-- `ROL`. -/
def rol (x : U32) (y : ℕ) : U32 := x <<< y ||| x >>> (32 - y)

/-- `F0`. -/
def sha1F0 (x y z : U32) : U32 := z ^^^ (x &&& (y ^^^ z))
/-- `F1`. -/
def sha1F1 (x y z : U32) : U32 := x ^^^ y ^^^ z
/-- `F2`. -/
def sha1F2 (x y z : U32) : U32 := (x &&& y) ||| (z &&& (x ||| y))
/-- `F3`. -/
def sha1F3 (x y z : U32) : U32 := x ^^^ y ^^^ z

/-- One use of `FF_0` to `FF_3`.  The next use names the variables `e, a, b, c, d`,
so the result is in that order. -/
def sha1FF (f : U32 → U32 → U32 → U32) (k w : U32) (v : Sha1Words) : Sha1Words where
  a := rol v.a 5 + f v.b v.c v.d + v.e + w + k
  b := v.a
  c := rol v.b 30
  d := v.c
  e := v.d

/-- The function and the constant of the round that word `i` is used in. -/
def sha1Round (i : ℕ) : Sha1Words → U32 → Sha1Words := fun v w =>
  if i < 20 then sha1FF sha1F0 0x5a827999 w v
  else if i < 40 then sha1FF sha1F1 0x6ed9eba1 w v
  else if i < 60 then sha1FF sha1F2 0x8f1bbcdc w v
  else sha1FF sha1F3 0xca62c1d6 w v

/-- `LOAD32H`. -/
def load32H (buf : List U8) (k : ℕ) : U32 :=
  word32 (buf.getD k 0) (buf.getD (k + 1) 0) (buf.getD (k + 2) 0) (buf.getD (k + 3) 0)

/-- `W[0 .. 80)`. -/
def sha1Expand (buf : List U8) : List U32 :=
  (List.range 64).foldl (fun w i => w ++ [rol (w.getD (i + 13) 0 ^^^ w.getD (i + 8) 0 ^^^
    w.getD (i + 2) 0 ^^^ w.getD i 0) 1]) ((List.range 16).map fun i => load32H buf (4 * i))

/-- `csp_sha1_compress`. -/
def cspSha1Compress (state : Sha1Words) (buf : List U8) : Sha1Words :=
  let w := sha1Expand buf
  let v := (List.range 80).foldl (fun v i => sha1Round i v (w.getD i 0)) state
  { a := state.a + v.a
    b := state.b + v.b
    c := state.c + v.c
    d := state.d + v.d
    e := state.e + v.e }

/-! ### Messages -/

/-- `csp_sha1_init`. -/
def cspSha1Init : CspSha1State where
  length := 0
  state := ⟨0x67452301, 0xefcdab89, 0x98badcfe, 0x10325476, 0xc3d2e1f0⟩
  buf := []
  lt := by decide

/-- `csp_sha1_process`. -/
def cspSha1Process (sha1 : CspSha1State) (input : List U8) : CspSha1State :=
  if hempty : input = [] then sha1
  else if sha1.buf = [] ∧ sha1Blocksize ≤ input.length then
    cspSha1Process
      { sha1 with
        state := cspSha1Compress sha1.state (input.take sha1Blocksize)
        length := sha1.length + 512 }
      (input.drop sha1Blocksize)
  else
    let n := min input.length (sha1Blocksize - sha1.buf.length)
    let buf := sha1.buf ++ input.take n
    if hfull : buf.length < sha1Blocksize then
      cspSha1Process { sha1 with buf := buf, lt := hfull } (input.drop n)
    else
      cspSha1Process
        { length := sha1.length + 512
          state := cspSha1Compress sha1.state buf
          buf := []
          lt := by decide }
        (input.drop n)
termination_by input.length
decreasing_by
  all_goals
    have hpos := List.length_pos_iff.2 hempty
    have hlt := sha1.lt
    simp only [List.length_drop, sha1Blocksize] at *
    omega

/-- One more byte of a message. -/
def CspSha1State.absorb (sha1 : CspSha1State) (b : U8) : CspSha1State :=
  if h : (sha1.buf ++ [b]).length < sha1Blocksize then { sha1 with buf := sha1.buf ++ [b], lt := h }
  else
    { length := sha1.length + 512
      state := cspSha1Compress sha1.state (sha1.buf ++ [b])
      buf := []
      lt := by decide }

/-- Bytes that do not fill the block are buffered. -/
theorem foldl_absorb_lt (input : List U8) {sha1 : CspSha1State}
    (h : (sha1.buf ++ input).length < sha1Blocksize) :
    input.foldl CspSha1State.absorb sha1 = { sha1 with buf := sha1.buf ++ input, lt := h } := by
  induction input generalizing sha1 with
  | nil => simp only [List.foldl_nil, List.append_nil]
  | cons b input ih =>
    have hb : (sha1.buf ++ [b]).length < sha1Blocksize := by
      simp only [List.length_append, List.length_cons] at h ⊢
      exact Nat.lt_of_le_of_lt (by simp) h
    have habsorb : sha1.absorb b = { sha1 with buf := sha1.buf ++ [b], lt := hb } := dif_pos hb
    rw [List.append_cons] at h
    rw [List.foldl_cons, habsorb, ih h]
    simp only [List.append_assoc, List.singleton_append]

/-- Bytes that just fill the block are compressed with it. -/
theorem foldl_absorb_eq (input : List U8) {sha1 : CspSha1State} (hne : input ≠ [])
    (h : (sha1.buf ++ input).length = sha1Blocksize) :
    input.foldl CspSha1State.absorb sha1 =
      { length := sha1.length + 512
        state := cspSha1Compress sha1.state (sha1.buf ++ input)
        buf := []
        lt := by decide } := by
  obtain ⟨front, b, rfl⟩ := List.eq_nil_or_concat' input |>.resolve_left hne
  rw [← List.append_assoc] at h
  have hfront : (sha1.buf ++ front).length < sha1Blocksize := by
    rw [← h]
    simp only [List.length_append, List.length_singleton]
    exact Nat.lt_succ_self _
  rw [List.foldl_append, foldl_absorb_lt front hfront]
  have hfull : ¬ (sha1.buf ++ front ++ [b]).length < sha1Blocksize := by
    rw [h]
    exact Nat.lt_irrefl _
  rw [← List.append_assoc]
  exact dif_neg hfull

/-- **The loop takes a message byte by byte**, whole blocks or not. -/
theorem cspSha1Process_eq (sha1 : CspSha1State) (input : List U8) :
    cspSha1Process sha1 input = input.foldl CspSha1State.absorb sha1 := by
  induction sha1, input using cspSha1Process.induct with
  | case1 sha1 =>
    rw [cspSha1Process, dif_pos rfl]
    rfl
  | case2 sha1 input hempty hblock ih =>
    have hlen : (sha1.buf ++ input.take sha1Blocksize).length = sha1Blocksize := by
      rw [hblock.1, List.nil_append, List.length_take, Nat.min_eq_left hblock.2]
    have hne : input.take sha1Blocksize ≠ [] := by
      rw [ne_eq, List.take_eq_nil_iff]
      exact not_or.2 ⟨by decide, hempty⟩
    have hfold := foldl_absorb_eq _ hne hlen
    rw [cspSha1Process, dif_neg hempty, if_pos hblock, ih]
    conv_rhs => rw [← List.take_append_drop sha1Blocksize input, List.foldl_append, hfold]
    simp only [hblock.1, List.nil_append]
  | case3 sha1 input hempty hblock n buf hfull ih =>
    have hfold := foldl_absorb_lt (input.take n) hfull
    rw [cspSha1Process, dif_neg hempty, if_neg hblock]
    simp only
    rw [dif_pos hfull, ih]
    conv_rhs => rw [← List.take_append_drop n input, List.foldl_append, hfold]
  | case4 sha1 input hempty hblock n buf hfull ih =>
    have hpos := List.length_pos_iff.2 hempty
    have hn : 0 < n ∧ n ≤ input.length ∧ sha1.buf.length + n ≤ sha1Blocksize := by
      have hlt := sha1.lt
      omega
    have hlen : (sha1.buf ++ input.take n).length = sha1Blocksize := by
      have hge := Nat.le_of_not_lt hfull
      rw [List.length_append, List.length_take] at hge ⊢
      omega
    have hne : input.take n ≠ [] := by
      rw [ne_eq, List.take_eq_nil_iff]
      exact not_or.2 ⟨Nat.ne_of_gt hn.1, hempty⟩
    have hfold := foldl_absorb_eq _ hne hlen
    rw [cspSha1Process, dif_neg hempty, if_neg hblock]
    simp only
    rw [dif_neg hfull, ih]
    conv_rhs => rw [← List.take_append_drop n input, List.foldl_append, hfold]

/-- **A message may be hashed in pieces.** -/
theorem cspSha1Process_append (sha1 : CspSha1State) (a b : List U8) :
    cspSha1Process sha1 (a ++ b) = cspSha1Process (cspSha1Process sha1 a) b := by
  rw [cspSha1Process_eq, cspSha1Process_eq, cspSha1Process_eq, List.foldl_append]

/-- `STORE64H`. -/
def store64H (x : BitVec 64) : List U8 := (List.range 8).map fun k => byteOf x (7 - k)

/-- `STORE32H`. -/
def store32H (x : U32) : List U8 := (List.range 4).map fun k => byteOf x (3 - k)

/-- `csp_sha1_done`. -/
def cspSha1Done (sha1 : CspSha1State) : List U8 :=
  let length := sha1.length + BitVec.ofNat 64 (sha1.buf.length * 8)
  let buf := sha1.buf ++ [0x80]
  let (state, buf) :=
    if 56 < buf.length then
      (cspSha1Compress sha1.state (buf ++ List.replicate (64 - buf.length) 0), [])
    else (sha1.state, buf)
  let buf := buf ++ List.replicate (56 - buf.length) 0
  let state := cspSha1Compress state (buf ++ store64H length)
  store32H state.a ++ store32H state.b ++ store32H state.c ++ store32H state.d ++ store32H state.e

/-- `csp_sha1_memory`. -/
def cspSha1Memory (msg : List U8) : List U8 := cspSha1Done (cspSha1Process cspSha1Init msg)

/-- A digest has 20 bytes. -/
theorem length_cspSha1Memory (msg : List U8) : (cspSha1Memory msg).length = sha1Digestsize := rfl

end LibCSP
