/-
# The services

`csp_service_handler` (`src/csp_service_handler.c`) answers requests to the reserved ports in the
packet they came in.  That packet lies in a buffer that was used before, so behind its `length`
bytes are others, of earlier packets.

The answers do not show them (`serviceActions_congr`): each is written over the data and has its own
length, and a ping is sent back as it is.  `CSP_REBOOT` however reads four bytes whatever the
length.  A shorter request is completed to the magic word by what the buffer held, unless one of its
own bytes is wrong (`ownBytesOnly_iff`).
-/

import LibCSP.Security.Trailer

namespace LibCSP

open Basis CspPacket

/-! ### The reserved ports -/

/-- `CSP_PING`. -/
def cspPing : BitVec 6 := 1
/-- `CSP_PS`. -/
def cspPs : BitVec 6 := 2
/-- `CSP_MEMFREE`. -/
def cspMemfree : BitVec 6 := 3
/-- `CSP_REBOOT`. -/
def cspReboot : BitVec 6 := 4
/-- `CSP_BUF_FREE`. -/
def cspBufFree : BitVec 6 := 5
/-- `CSP_UPTIME`. -/
def cspUptime : BitVec 6 := 6

/-- The magic word of `CSP_REBOOT`. -/
def magicWord : U32 := 0x80078007

/-- `_CSP_FREERTOS_`, or `_CSP_POSIX_` with this `sizeof(size_t)`. -/
inductive Os
  | freertos
  | posix (sizeT : ℕ)
  deriving DecidableEq

/-- What the services ask the system for. -/
structure ServiceEnv where
  order : ByteOrder
  os : Os
  /-- What `vTaskList` writes. -/
  taskList : List U8
  /-- Whether `csp_malloc` returns so many bytes, call by call. -/
  malloc : ℕ → U32 → Bool
  /-- `info.freeram * info.mem_unit`. -/
  freeram : BitVec 64
  /-- `csp_buffer_remaining`. -/
  bufferRemaining : U32
  /-- `csp_get_s`. -/
  getS : U32
  /-- `cpu_set_reset_cause` is linked. -/
  cpuSetResetCause : Bool
  /-- `cpu_reset` is linked. -/
  cpuReset : Bool
  /-- What `csp_send` returns for the connection and this packet. -/
  send : CspPacket → Bool

/-- What the handler does. -/
inductive ServiceEvent
  | setResetCause (cause : U32)
  | reset
  | send (p : CspPacket)
  | free (buf : ℕ)

/-! ### Answers -/

/-- `memcpy` to the beginning of the data, and the length set accordingly. -/
def CspPacket.answer (p : CspPacket) (bytes : List U8) : CspPacket :=
  { p.write 0 bytes with length := BitVec.ofNat 16 bytes.length }

/-- The bytes of a word in memory. -/
def memory32 (o : ByteOrder) (x : U32) : List U8 := (List.range 4).map (byte32 o x)

/-- The bytes of a `size_t` that holds this value. -/
def memorySizeT (o : ByteOrder) (sizeT : ℕ) (x : U32) : List U8 :=
  (List.range sizeT).map fun k =>
    match o with
    | .little => byteOf (x.setWidth 64) k
    | .big => byteOf (x.setWidth 64) (sizeT - 1 - k)

/-- `strlen`, of a string that ends within `n` bytes. -/
def strlen (data : ℕ → U8) (n : ℕ) : ℕ := ((List.range n).takeWhile fun k => data k ≠ 0).length

/-- What is written for `CSP_PS`. -/
def ServiceEnv.processList (e : ServiceEnv) : List U8 :=
  match e.os with
  | .freertos => e.taskList
  | .posix _ => "Tasklist in not available on posix".toList.map fun c => BitVec.ofNat 8 c.toNat

/-- The packet after `CSP_PS`. -/
def psAnswer (e : ServiceEnv) (p : CspPacket) : CspPacket :=
  let p := p.write 0 (e.processList ++ [0])
  let length := BitVec.ofNat 16 (strlen p.data (e.processList.length + 1))
  { p.write length.toNat [0] with length := length + 1 }

/-- The loop of `CSP_MEMFREE` under FreeRTOS, for at most so many rounds, from call `k` on. -/
def memfreeLoop (malloc : ℕ → U32 → Bool) : ℕ → ℕ → U32 → U32 → U32 → Option U32
  | 0, _, _, _, _ => none
  | n + 1, k, size, total, max =>
    let (size, total, max) :=
      if malloc k (size + total) then
        let total := total + size
        (if max ≤ total + size then size / 2 else size, total, max)
      else (size / 2, total, size + total)
    if size < 32 then some total else memfreeLoop malloc n (k + 1) size total max

/-- What is written for `CSP_MEMFREE`. -/
def memfreeBytes (e : ServiceEnv) (rounds : ℕ) : Option (List U8) :=
  match e.os with
  | .freertos =>
    (memfreeLoop e.malloc rounds 0 1000000 0 0xffffffff).map fun total =>
      memory32 e.order (hton32 e.order total)
  | .posix sizeT => some (memorySizeT e.order sizeT (hton32 e.order (e.freeram.setWidth 32)))

/-- `CSP_REBOOT`. -/
def reboot (e : ServiceEnv) (p : CspPacket) : List ServiceEvent :=
  if hton32 e.order (p.data32 e.order 0) ≠ magicWord then [.free p.buf]
  else
    (if e.cpuSetResetCause then [.setResetCause 1] else []) ++
      if e.cpuReset then [.reset] else [.free p.buf]

/-- The end of the handler. -/
def sendAnswer (e : ServiceEnv) (p : CspPacket) : List ServiceEvent :=
  .send p :: if e.send p then [] else [.free p.buf]

/-- `csp_service_handler` on a connection with this destination port; `none` if the loop of
`CSP_MEMFREE` has not ended after so many rounds. -/
def cspServiceHandler (e : ServiceEnv) (rounds : ℕ) (dport : BitVec 6) (packet : CspPacket) :
    Option (List ServiceEvent) :=
  if dport = cspPing then some (sendAnswer e packet)
  else if dport = cspPs then some (sendAnswer e (psAnswer e packet))
  else if dport = cspMemfree then
    (memfreeBytes e rounds).map fun bytes => sendAnswer e (packet.answer bytes)
  else if dport = cspReboot then some (reboot e packet)
  else if dport = cspBufFree then
    some (sendAnswer e (packet.answer (memory32 e.order (hton32 e.order e.bufferRemaining))))
  else if dport = cspUptime then
    some (sendAnswer e (packet.answer (memory32 e.order (hton32 e.order e.getS))))
  else some [.free packet.buf]

/-! ### What can be observed -/

/-- A decision about the CPU, or an answer. -/
inductive ServiceAction
  | setResetCause (cause : U32)
  | reset
  | reply (bytes : List U8)
  deriving DecidableEq

def ServiceEvent.action : ServiceEvent → Option ServiceAction
  | .setResetCause cause => some (.setResetCause cause)
  | .reset => some .reset
  | .send p => some (.reply p.bytes)
  | .free _ => none

/-- What the handler is seen to do. -/
def serviceActions (e : ServiceEnv) (rounds : ℕ) (dport : BitVec 6) (packet : CspPacket) :
    Option (List ServiceAction) :=
  (cspServiceHandler e rounds dport packet).map (·.filterMap ServiceEvent.action)

/-- An answer is one reply. -/
theorem sendAnswer_actions (e : ServiceEnv) (p : CspPacket) :
    (sendAnswer e p).filterMap ServiceEvent.action = [.reply p.bytes] := by
  unfold sendAnswer
  split <;> rfl

/-! ### The answers -/

/-- What is written over the data hides what was there. -/
theorem write_congr (p q : CspPacket) (bytes : List U8) {k : ℕ} (hk : k < bytes.length) :
    (q.write 0 bytes).data k = (p.write 0 bytes).data k := by
  have hin : 0 ≤ k ∧ k < 0 + bytes.length := ⟨Nat.zero_le k, by omega⟩
  exact (if_pos hin).trans (if_pos hin).symm

/-- The bytes of an answer are all there is to it. -/
theorem answer_congr (p q : CspPacket) (bytes : List U8) :
    SameBytes (p.answer bytes) (q.answer bytes) := by
  refine ⟨rfl, fun k hk => write_congr p q bytes ?_⟩
  exact Nat.lt_of_lt_of_le hk ((BitVec.toNat_ofNat ..).trans_le (Nat.mod_le _ _))

/-- The length of a string depends on the bytes before its end. -/
theorem strlen_congr {data data' : ℕ → U8} {n : ℕ} (h : ∀ k, k < n → data k = data' k) :
    strlen data n = strlen data' n := by
  have hsame : ∀ l : List ℕ, (∀ k ∈ l, k < n) →
      l.takeWhile (fun k => data k ≠ 0) = l.takeWhile fun k => data' k ≠ 0 := by
    intro l
    induction l with
    | nil => exact fun _ => rfl
    | cons k l ih =>
      intro hl
      rw [List.takeWhile_cons, List.takeWhile_cons, h k (hl k List.mem_cons_self),
        ih fun j hj => hl j (List.mem_cons_of_mem k hj)]
  exact congrArg List.length (hsame _ fun k hk => List.mem_range.1 hk)

/-- It is no more than what is looked at. -/
theorem strlen_lt_succ (data : ℕ → U8) (n : ℕ) : strlen data n ≤ n :=
  (List.takeWhile_sublist _).length_le.trans (Nat.le_of_eq List.length_range)

/-- The process list ends with a zero that is written as well. -/
theorem psAnswer_congr (e : ServiceEnv) (p q : CspPacket) :
    SameBytes (psAnswer e p) (psAnswer e q) := by
  set bytes := e.processList ++ [0] with hbytes
  have hlen : bytes.length = e.processList.length + 1 := List.length_append
  have hdata : ∀ k, k < e.processList.length + 1 →
      (q.write 0 bytes).data k = (p.write 0 bytes).data k := fun k hk =>
    write_congr p q bytes (hlen ▸ hk)
  have hstrlen := strlen_congr hdata
  set length : U16 := BitVec.ofNat 16 (strlen (p.write 0 bytes).data (e.processList.length + 1))
    with hlength
  have hle : length.toNat ≤ e.processList.length + 1 :=
    ((BitVec.toNat_ofNat ..).trans_le (Nat.mod_le _ _)).trans (strlen_lt_succ _ _)
  have hpacket : ∀ r : CspPacket, strlen (r.write 0 bytes).data (e.processList.length + 1) =
      strlen (p.write 0 bytes).data (e.processList.length + 1) → psAnswer e r =
        { (r.write 0 bytes).write length.toNat [0] with length := length + 1 } := by
    intro r hr
    rw [hlength, ← hr]
    rfl
  rw [hpacket p rfl, hpacket q hstrlen]
  refine ⟨rfl, fun k hk => ?_⟩
  have hk : k < length.toNat + 1 := by
    refine Nat.lt_of_lt_of_le hk ?_
    show (length + 1).toNat ≤ _
    rw [BitVec.toNat_add]
    exact Nat.mod_le _ _
  show (if _ then _ else (q.write 0 bytes).data k) = if _ then _ else (p.write 0 bytes).data k
  refine if_ctx_congr Iff.rfl (fun _ => rfl) fun hout => hdata k ?_
  rw [List.length_singleton] at hout
  omega

/-- **All answers but that of `CSP_REBOOT` depend on the request alone.** -/
theorem serviceActions_congr (e : ServiceEnv) (rounds : ℕ) {dport : BitVec 6}
    (hdport : dport ≠ cspReboot) {p q : CspPacket} (h : SameBytes p q) :
    serviceActions e rounds dport q = serviceActions e rounds dport p := by
  unfold serviceActions cspServiceHandler
  split_ifs
  · simp only [Option.map_some, sendAnswer_actions, h.bytes_eq]
  · simp only [Option.map_some, sendAnswer_actions, (psAnswer_congr e p q).bytes_eq]
  · simp only [Option.map_map, Function.comp_def, sendAnswer_actions,
      (answer_congr p q _).bytes_eq]
  · simp only [Option.map_some, sendAnswer_actions, (answer_congr p q _).bytes_eq]
  · simp only [Option.map_some, sendAnswer_actions, (answer_congr p q _).bytes_eq]
  · rfl

/-! ### The magic word -/

/-- The bytes of the magic word. -/
def magicBytes : List U8 := [0x80, 0x07, 0x80, 0x07]

/-- The handler finds the magic word in the first four bytes of the data. -/
theorem magicWord_iff (o : ByteOrder) (p : CspPacket) :
    hton32 o (p.data32 o 0) = magicWord ↔ ∀ k, k < 4 → p.data k = magicBytes.getD k 0 := by
  have hword : hton32 o (p.data32 o 0) = word32 (p.data 0) (p.data 1) (p.data 2) (p.data 3) :=
    hton32_load32 ..
  have hmagic : magicWord = word32 0x80 0x07 0x80 0x07 := by decide
  rw [hword, hmagic]
  constructor
  · intro h
    obtain ⟨h3, h2, h1, h0⟩ := byteOf_word32 (p.data 0) (p.data 1) (p.data 2) (p.data 3)
    obtain ⟨m3, m2, m1, m0⟩ := byteOf_word32 0x80 0x07 0x80 0x07
    rw [h] at h0 h1 h2 h3
    intro k hk
    interval_cases k
    · exact h0.symm.trans m0
    · exact h1.symm.trans m1
    · exact h2.symm.trans m2
    · exact h3.symm.trans m3
  · intro h
    rw [h 0 (by decide), h 1 (by decide), h 2 (by decide), h 3 (by decide)]
    rfl

/-- The handler can act on the CPU. -/
def ServiceEnv.Reboots (e : ServiceEnv) : Prop := e.cpuSetResetCause = true ∨ e.cpuReset = true

/-- What a request to reboot does. -/
theorem reboot_actions (e : ServiceEnv) (rounds : ℕ) (p : CspPacket) :
    serviceActions e rounds cspReboot p = some
      (if ∀ k, k < 4 → p.data k = magicBytes.getD k 0 then
        (if e.cpuSetResetCause then [.setResetCause 1] else []) ++
          if e.cpuReset then [.reset] else []
      else []) := by
  have hhandler : cspServiceHandler e rounds cspReboot p = some (reboot e p) := rfl
  rw [serviceActions, hhandler, Option.map_some, reboot]
  by_cases hmagic : ∀ k, k < 4 → p.data k = magicBytes.getD k 0
  · rw [if_neg (not_not.2 ((magicWord_iff e.order p).2 hmagic)), if_pos hmagic]
    cases e.cpuSetResetCause <;> cases e.cpuReset <;> rfl
  · rw [if_pos fun hword => hmagic ((magicWord_iff e.order p).1 hword), if_neg hmagic]
    rfl

/-- The action depends on the identifier, the length and the bytes of the request alone, and the CPU
is acted on only if these bytes begin with the magic word. -/
structure OwnBytesOnly (e : ServiceEnv) (rounds : ℕ) (dport : BitVec 6) (p : CspPacket) : Prop where
  same : ∀ q : CspPacket, q.id = p.id → SameBytes p q →
    serviceActions e rounds dport q = serviceActions e rounds dport p
  magic : ∀ actions, serviceActions e rounds dport p = some actions →
    (.reset ∈ actions ∨ ∃ cause, .setResetCause cause ∈ actions) →
      4 ≤ p.length.toNat ∧ ∀ k, k < 4 → p.data k = magicBytes.getD k 0

/-- The request with other bytes behind it. -/
def CspPacket.followedBy (p : CspPacket) (m : ℕ → U8) : CspPacket :=
  { p with data := fun k => if k < p.length.toNat then p.data k else m k }

/-- The same packet with other bytes behind it. -/
theorem followedBy_sameBytes (p : CspPacket) (m : ℕ → U8) : SameBytes p (p.followedBy m) :=
  ⟨rfl, fun _ hk => if_pos hk⟩

/-- A short beginning of the magic word is completed by stale bytes. -/
theorem not_ownBytesOnly {e : ServiceEnv} (rounds : ℕ) {p : CspPacket} (he : e.Reboots)
    (hlen : p.length.toNat < 4)
    (hbytes : ∀ k, k < p.length.toNat → p.data k = magicBytes.getD k 0) :
    ¬ OwnBytesOnly e rounds cspReboot p := by
  intro h
  have hmagic := h.same (p.followedBy fun k => magicBytes.getD k 0) rfl (followedBy_sameBytes p _)
  have hother := h.same (p.followedBy fun k => ~~~magicBytes.getD k 0) rfl
    (followedBy_sameBytes p _)
  have hyes : ∀ k, k < 4 → (p.followedBy fun k => magicBytes.getD k 0).data k =
      magicBytes.getD k 0 := by
    intro k _
    show (if _ then _ else _) = _
    split
    · exact hbytes k ‹_›
    · rfl
  have hno : ¬ ∀ k, k < 4 → (p.followedBy fun k => ~~~magicBytes.getD k 0).data k =
      magicBytes.getD k 0 := by
    intro hall
    have hbyte := hall p.length.toNat hlen
    rw [show (p.followedBy fun k => ~~~magicBytes.getD k 0).data p.length.toNat =
      ~~~magicBytes.getD p.length.toNat 0 from if_neg (Nat.lt_irrefl _)] at hbyte
    revert hbyte
    generalize magicBytes.getD p.length.toNat 0 = b
    revert b
    decide
  have hsame := hmagic.trans hother.symm
  rw [reboot_actions, reboot_actions, if_pos hyes, if_neg hno] at hsame
  rcases he with hset | hreset
  · rw [hset] at hsame
    simp at hsame
  · rw [hreset] at hsame
    simp at hsame

/-- Nothing but a request to reboot acts on the CPU. -/
theorem serviceActions_reply {e : ServiceEnv} {rounds : ℕ} {dport : BitVec 6} {p : CspPacket}
    {actions : List ServiceAction} (hdport : dport ≠ cspReboot)
    (h : serviceActions e rounds dport p = some actions) :
    ∀ a ∈ actions, ∃ bytes, a = .reply bytes := by
  have hone : ∀ q : CspPacket, ∀ a ∈ (sendAnswer e q).filterMap ServiceEvent.action,
      ∃ bytes, a = .reply bytes := by
    intro q a ha
    rw [sendAnswer_actions] at ha
    exact ⟨q.bytes, List.mem_singleton.1 ha⟩
  obtain ⟨events, hevents, rfl⟩ := Option.map_eq_some_iff.1 h
  unfold cspServiceHandler at hevents
  split_ifs at hevents
  · obtain rfl := Option.some.inj hevents
    exact hone p
  · obtain rfl := Option.some.inj hevents
    exact hone _
  · obtain ⟨bytes, -, rfl⟩ := Option.map_eq_some_iff.1 hevents
    exact hone _
  · obtain rfl := Option.some.inj hevents
    exact hone _
  · obtain rfl := Option.some.inj hevents
    exact hone _
  · obtain rfl := Option.some.inj hevents
    intro a ha
    cases ha

/-- What comes behind a request of four bytes, or one with a wrong byte, does not complete it. -/
theorem magic_congr {p q : CspPacket} (h : SameBytes p q)
    (hp : 4 ≤ p.length.toNat ∨ ∃ k, k < p.length.toNat ∧ p.data k ≠ magicBytes.getD k 0) :
    (∀ k, k < 4 → q.data k = magicBytes.getD k 0) ↔
      ∀ k, k < 4 → p.data k = magicBytes.getD k 0 := by
  have hdata : ∀ k, k < p.length.toNat → q.data k = p.data k := h.2
  by_cases hlen : 4 ≤ p.length.toNat
  · refine forall₂_congr fun k hk => ?_
    rw [hdata k (Nat.lt_of_lt_of_le hk hlen)]
  · obtain ⟨k, hk, hne⟩ := hp.resolve_left hlen
    have hk4 : k < 4 := by omega
    constructor
    · intro hq
      exact absurd ((hdata k hk).symm.trans (hq k hk4)) hne
    · intro hmagic
      exact absurd (hmagic k hk4) hne

/-- A request to reboot decides alone when no byte behind it completes it. -/
theorem ownBytesOnly_reboot (e : ServiceEnv) (rounds : ℕ) {p : CspPacket}
    (hp : 4 ≤ p.length.toNat ∨ ∃ k, k < p.length.toNat ∧ p.data k ≠ magicBytes.getD k 0) :
    OwnBytesOnly e rounds cspReboot p := by
  constructor
  · intro q _ hq
    rw [reboot_actions, reboot_actions]
    simp only [magic_congr hq hp]
  · intro actions hactions hcpu
    rw [reboot_actions] at hactions
    obtain rfl := Option.some.inj hactions
    by_cases hmagic : ∀ k, k < 4 → p.data k = magicBytes.getD k 0
    · refine ⟨?_, hmagic⟩
      by_contra hlen
      obtain ⟨k, hk, hne⟩ := hp.resolve_left hlen
      exact hne (hmagic k (by omega))
    · rw [if_neg hmagic] at hcpu
      rcases hcpu with hreset | ⟨cause, hset⟩
      · cases hreset
      · cases hset

/-- A request to reboot does nothing where nothing is linked. -/
theorem ownBytesOnly_of_not_reboots {e : ServiceEnv} (rounds : ℕ) (he : ¬ e.Reboots)
    (p : CspPacket) : OwnBytesOnly e rounds cspReboot p := by
  obtain ⟨hset, hreset⟩ := not_or.1 he
  have hnone : ∀ q, serviceActions e rounds cspReboot q = some [] := by
    intro q
    rw [reboot_actions, if_neg hset, if_neg hreset, List.append_nil, ite_self]
  constructor
  · intro q _ _
    rw [hnone q, hnone p]
  · intro actions hactions hcpu
    rw [hnone p] at hactions
    obtain rfl := Option.some.inj hactions
    rcases hcpu with hmem | ⟨cause, hmem⟩
    · cases hmem
    · cases hmem

/-- The other services look at the packet's own bytes only. -/
theorem ownBytesOnly_of_ne (e : ServiceEnv) (rounds : ℕ) {dport : BitVec 6}
    (hdport : dport ≠ cspReboot) (p : CspPacket) : OwnBytesOnly e rounds dport p := by
  constructor
  · intro q _ hq
    exact serviceActions_congr e rounds hdport hq
  · intro actions hactions hcpu
    have hreply := serviceActions_reply hdport hactions
    rcases hcpu with hmem | ⟨cause, hmem⟩
    · obtain ⟨bytes, hbytes⟩ := hreply _ hmem
      cases hbytes
    · obtain ⟨bytes, hbytes⟩ := hreply _ hmem
      cases hbytes

/-- **When a request decides alone**: at every port but `CSP_REBOOT`, and there exactly if nothing
can be done to the CPU, or the request has four bytes, or one of its bytes is not that of the magic
word. -/
theorem ownBytesOnly_iff (e : ServiceEnv) (rounds : ℕ) (dport : BitVec 6) (p : CspPacket) :
    OwnBytesOnly e rounds dport p ↔ dport ≠ cspReboot ∨ ¬ e.Reboots ∨ 4 ≤ p.length.toNat ∨
      ∃ k, k < p.length.toNat ∧ p.data k ≠ magicBytes.getD k 0 := by
  constructor
  · intro h
    by_contra hno
    obtain ⟨hdport, hno⟩ := not_or.1 hno
    obtain ⟨he, hno⟩ := not_or.1 hno
    obtain ⟨hlen, hbytes⟩ := not_or.1 hno
    rw [not_not] at hdport he
    rw [hdport] at h
    refine not_ownBytesOnly rounds he (Nat.lt_of_not_le hlen) (fun k hk => ?_) h
    by_contra hne
    exact hbytes ⟨k, hk, hne⟩
  · rintro (hdport | he | hp)
    · exact ownBytesOnly_of_ne e rounds hdport p
    · by_cases hdport : dport = cspReboot
      · exact hdport ▸ ownBytesOnly_of_not_reboots rounds he p
      · exact ownBytesOnly_of_ne e rounds hdport p
    · by_cases hdport : dport = cspReboot
      · exact hdport ▸ ownBytesOnly_reboot e rounds hp
      · exact ownBytesOnly_of_ne e rounds hdport p

/-- A POSIX node that can reset. -/
def resettingEnv : ServiceEnv where
  order := .little
  os := .posix 8
  taskList := []
  malloc := fun _ _ => true
  freeram := 0
  bufferRemaining := 10
  getS := 0
  cpuSetResetCause := true
  cpuReset := true
  send := fun _ => true

/-- An empty request in a buffer with these bytes. -/
def emptyRequest (data : ℕ → U8) : CspPacket where
  buf := 0
  quarantine := 0
  timestamp := 0
  length := 0
  id := 0
  data := data

/-- In a buffer that held a request to reboot before, the node resets; in a buffer of zeros it does
not. -/
theorem not_ownBytesOnly_stale :
    serviceActions resettingEnv 0 cspReboot (emptyRequest fun k => magicBytes.getD k 0) =
      some [.setResetCause 1, .reset] ∧
    serviceActions resettingEnv 0 cspReboot (emptyRequest fun _ => 0) = some [] ∧
    ¬ OwnBytesOnly resettingEnv 0 cspReboot (emptyRequest fun k => magicBytes.getD k 0) := by
  refine ⟨by decide, by decide, ?_⟩
  refine not_ownBytesOnly 0 (.inl rfl) (by decide) fun k _ => rfl

end LibCSP
