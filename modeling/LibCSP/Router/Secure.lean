/-
# What gets past the security check

Packets come to user space on three ways: through the queue of a connection-less socket,
through the receive queues of a connection, and through its reorder queue, where RDP keeps
what is out of order.  Each begins with `csp_route_security_check` under the options of
the socket or the connection (`Passed`).

The options of a connection change when its place in the table gets a new user, and
nothing but `csp_rdp_flush_all` empties the reorder queue.  `csp_close` calls it if
`CSP_FRDP` is in `idin`, but RDP packets are handed to the connection without looking
there, so the reorder queue of a UDP connection goes to the next user.  As long as the
packets left there carry the flags that the new options require, what the options require
is enforced in every run (`run_secured`).
-/

import LibCSP.Router.Provenance

namespace LibCSP

open Basis

variable {N : ℕ}

/-! ### Packets that were checked -/

/-- The router took a packet with the flags that `opts` require, and it came out of the check as
`p`. -/
def Passed (node : Node) (log : List (StackEvent N)) (opts : U32) (p : CspPacket) : Prop :=
  ∃ raw, .dequeued raw ∈ log ∧ HasRequired opts raw.id ∧ Enforced node opts raw p

/-- A packet in a reorder queue. -/
def PassedRdp (e : StackEnv) (log : List (StackEvent N)) (opts : U32) (x : CspPacket) : Prop :=
  ∃ p, Passed e.node log opts p ∧ sizeofRdpHeader < p.length.toNat ∧ x = rxPacket e.env.host p

/-- A packet in a receive queue. -/
def PassedData (e : StackEnv) (log : List (StackEvent N)) (opts : U32) (q : CspPacket) : Prop :=
  ∃ p, Passed e.node log opts p ∧ (q = p ∨ q = cspRdpHeaderRemove (rxPacket e.env.host p))

/-- What is queued for user space was checked. -/
def StackEvent.Secured (e : StackEnv) (log : List (StackEvent N)) : StackEvent N → Prop
  | .queued opts p => Passed e.node log opts p
  | .conn _ opts (.deliver _ q) => PassedData e log opts q
  | _ => True

section Passed

variable {e : StackEnv} {log log' : List (StackEvent N)} {opts opts' : U32} {p : CspPacket}

/-- A packet that passes the check has passed it. -/
theorem passed_of_check {raw : CspPacket} (hraw : .dequeued raw ∈ log)
    (h : e.node.cspRouteSecurityCheck opts raw = .ok p) : Passed e.node log opts p :=
  have henforced := cspRouteSecurityCheck_enforced h
  ⟨raw, hraw, henforced.hasRequired, henforced⟩

/-- It has when more has happened. -/
theorem Passed.mono (h : Passed e.node log opts p) (hl : log ⊆ log') :
    Passed e.node log' opts p := by
  obtain ⟨raw, hraw, h⟩ := h
  exact ⟨raw, hl hraw, h⟩

/-- So has a packet with its RDP header. -/
theorem PassedRdp.mono (h : PassedRdp e log opts p) (hl : log ⊆ log') :
    PassedRdp e log' opts p := by
  obtain ⟨q, hq, hp⟩ := h
  exact ⟨q, hq.mono hl, hp⟩

/-- And without it. -/
theorem PassedRdp.data (h : PassedRdp e log opts p) :
    PassedData e log opts (cspRdpHeaderRemove p) := by
  obtain ⟨q, hq, -, rfl⟩ := h
  exact ⟨q, hq, .inr rfl⟩

/-- New options are met by a packet with their flags. -/
theorem PassedRdp.reopen (h : PassedRdp e log opts p) (hc : HasRequired opts' p.id) :
    PassedRdp e log opts' p := by
  obtain ⟨q, ⟨raw, hraw, -, hq⟩, hlen, rfl⟩ := h
  have hid : (rxPacket e.env.host q).id = raw.id := by
    rw [rxPacket, cspRdpHeaderStore_of_le (Nat.le_of_lt hlen)]
    exact hq.identity.id
  rw [hid] at hc
  exact ⟨q, ⟨raw, hraw, hc, hq.reopen hc⟩, hlen, rfl⟩

/-- And data without it when more has happened. -/
theorem PassedData.mono (h : PassedData e log opts p) (hl : log ⊆ log') :
    PassedData e log' opts p := by
  obtain ⟨q, hq, hp⟩ := h
  exact ⟨q, hq.mono hl, hp⟩

end Passed

/-! ### The law -/

/-- Packets were checked as the options require. -/
def securityLaw (e : StackEnv) (N : ℕ) : Law e N where
  stored := PassedRdp e
  delivered := PassedData e
  queued := Passed e.node
  inherited opts x := HasRequired opts x.id
  stored_mono := PassedRdp.mono
  delivered_mono := PassedData.mono
  queued_mono := Passed.mono
  reopen := PassedRdp.reopen
  remove := PassedRdp.data
  rdp hraw hp _ hlen := ⟨_, passed_of_check hraw hp, hlen, rfl⟩
  udp hraw hp _ _ := ⟨_, passed_of_check hraw hp, .inl rfl⟩
  connLess := passed_of_check

/-- Reorder queues and log hold what was checked. -/
structure SecureStack (e : StackEnv) (s : Stack N) : Prop where
  stored : ∀ i, AllStored (PassedRdp e s.log (s.conns i).connOpts) (s.conns i)
  log : ∀ ev ∈ s.log, ev.Secured e s.log

/-- The law says what is secured. -/
theorem ofEvent_secured {e : StackEnv} {log : List (StackEvent N)} {ev : StackEvent N} :
    (securityLaw e N).OfEvent log ev ↔ ev.Secured e log := by
  cases ev with
  | conn i opts ev =>
    cases ev with
    | _ => exact Iff.rfl
  | _ => exact Iff.rfl

/-- A stack that obeys the law is secure. -/
theorem holds_secure {e : StackEnv} {s : Stack N} :
    (securityLaw e N).Holds s ↔ SecureStack e s :=
  ⟨fun h => ⟨h.stored, fun ev hev => ofEvent_secured.1 (h.log ev hev)⟩,
    fun h => ⟨h.stored, fun ev hev => ofEvent_secured.2 (h.log ev hev)⟩⟩

/-! ### Steps and runs -/

variable [NeZero N]

/-- The packets that are left where `csp_conn_new` finds a connection carry what `opts`
require. -/
def Stack.Reopens (s : Stack N) (opts : U32) : Prop :=
  (s.conns s.search.1).state = .connClosed →
    ∀ x ∈ (s.conns s.search.1).rdp.rxQueue.items, HasRequired opts x.id

/-- A new connection does not inherit packets that its options would not admit. -/
def KeepsRequirements (e : StackEnv) (s : Stack N) : Action N → Prop
  | .route => ∀ raw socket, s.arriving e = some raw → s.Accepts raw socket →
      s.Reopens socket.opts
  | .allocate t => ∀ incomingId outgoingId opts,
      s.tasks t = .allocating incomingId outgoingId opts → s.Reopens opts
  | _ => True

/-- What keeps the requirements keeps the law. -/
theorem KeepsRequirements.keeps {e : StackEnv} {s : Stack N} {a : Action N}
    (h : KeepsRequirements e s a) : (securityLaw e N).Keeps s a := by
  cases a with
  | route => exact h
  | allocate t => exact h
  | _ => trivial

/-- **Required security is enforced**, in every run in which no connection inherits packets that
its options would not admit: whatever is put into the queue of a connection-less socket, a
receive queue or a reorder queue had the flags that the options require, and passed the
checks that its flags announce. -/
theorem run_secured {e : StackEnv} {is : List (Action N)} {s t : Stack N} (hs : s.Started)
    (hrun : Run (stackStep e) (KeepsRequirements e) s is t) :
    (∀ ev ∈ t.log, ev.Secured e t.log) ∧
      ∀ i, ∀ x ∈ (t.conns i).rdp.rxQueue.items, PassedRdp e t.log (t.conns i).connOpts x := by
  have hkept : Run (stackStep e) (securityLaw e N).Keeps s is t :=
    hrun.mono fun _ _ hok => hok.keeps
  have h : SecureStack e t := holds_secure.1 (Law.run hs hkept)
  exact ⟨h.log, h.stored⟩

/-! ### A socket that requires CRC32 -/

/-- The router took buffer `buf` with this flag. -/
def StackEvent.takes (buf : ℕ) (flag : U8) : StackEvent N → Bool
  | .dequeued raw => raw.buf == buf && raw.id.has flag
  | _ => false

/-- User space gets buffer `buf` from a connection with these options. -/
def StackEvent.delivers (opts : U32) (buf : ℕ) : StackEvent N → Bool
  | .conn _ opts' (.deliver _ q) => opts' == opts && q.buf == buf
  | _ => false

omit [NeZero N] in
/-- A buffer delivered where CRC32 is required came with `CSP_FCRC32`. -/
theorem takes_of_secured {e : StackEnv} {log : List (StackEvent N)} {opts : U32} {buf : ℕ}
    (h : ∀ ev ∈ log, ev.Secured e log) (hd : log.any (StackEvent.delivers opts buf) = true)
    (hopts : opts &&& cspSoCrc32req ≠ 0) :
    log.any (StackEvent.takes buf cspFcrc32) = true := by
  obtain ⟨ev, hev, hd⟩ := List.any_eq_true.1 hd
  have hsecured := h ev hev
  cases ev with
  | conn i opts' ev =>
    cases ev with
    | deliver st q =>
      obtain ⟨hopts', hbuf⟩ := Bool.and_eq_true_iff.1 hd
      obtain ⟨p, ⟨raw, hraw, hreq, henforced⟩, hq⟩ := hsecured
      have hqp : q.buf = p.buf := by rcases hq with rfl | rfl <;> rfl
      have hrawbuf : raw.buf = buf :=
        henforced.identity.buf.symm.trans (hqp.symm.trans (eq_of_beq hbuf))
      rw [eq_of_beq hopts'] at hreq
      refine List.any_eq_true.2 ⟨_, hraw, Bool.and_eq_true_iff.2 ⟨?_, hreq.crc32 hopts⟩⟩
      exact beq_iff_eq.2 hrawbuf
    | _ => exact absurd hd Bool.false_ne_true
  | _ => exact absurd hd Bool.false_ne_true

/-- A packet from node 4 for port 11 with a correct CRC32. -/
def crcPacket (flags : U8) : CspPacket :=
  cspCrc32Append .little { segment .ackOnly 101 0 [1] with
    buf := 10, id := .ofFields 2 4 1 11 21 (cspFcrc32 ||| flags) }

/-- A UDP packet comes with the CRC32 that its socket requires. -/
theorem run_secured_crc : ∃ t : Stack cspConnMax,
    Run (stackStep .favourable) (KeepsRequirements .favourable) (Stack.init cspConnMax)
      [.bind ⟨some 0, cspSoCrc32req⟩ 11, .newPacket ⟨1, crcPacket 0⟩, .route] t ∧
    t.log.any (StackEvent.delivers cspSoCrc32req 10) = true ∧
    ∀ ev ∈ t.log, ev.Secured .favourable t.log := by
  obtain ⟨s, hs⟩ : ∃ s, s = (cspBind ⟨some 0, cspSoCrc32req⟩ 11
    (Stack.init cspConnMax)).receive (crcPacket 0) := ⟨_, rfl⟩
  have hroute : KeepsRequirements .favourable s .route := by
    intro raw socket _ _ _ x hx
    rw [hs] at hx
    exact absurd hx List.not_mem_nil
  have hrun : Run (stackStep .favourable) (KeepsRequirements .favourable) (Stack.init cspConnMax)
      [.bind ⟨some 0, cspSoCrc32req⟩ 11, .newPacket ⟨1, crcPacket 0⟩, .route]
      (vTaskCSPRouter .favourable s) :=
    .cons trivial rfl (.cons trivial (congrArg some hs.symm) (.cons hroute rfl .nil))
  refine ⟨_, hrun, ?_, (run_secured Stack.init_started hrun).1⟩
  rw [hs]
  decide +kernel

/-- **A packet that waits in the reorder queue of a closed UDP connection** is delivered to the
next user of the connection, without the CRC32 that this user requires. -/
theorem stale_packet_delivered :
    ¬ ∀ (e : StackEnv) (is : List (Action cspConnMax)) (t : Stack cspConnMax),
      Run (stackStep e) (fun _ _ => True) (Stack.init cspConnMax) is t →
        (∀ ev ∈ t.log, ev.Secured e t.log) ∧
          ∀ i, ∀ x ∈ (t.conns i).rdp.rxQueue.items,
            PassedRdp e t.log (t.conns i).connOpts x := by
  intro h
  have hrun : ∃ t : Stack cspConnMax, Run (stackStep .favourable) (fun _ _ => True)
      (Stack.init cspConnMax)
      ([.bind ⟨some 0, 0⟩ 10, .bind ⟨some 1, cspSoCrc32req⟩ 11,
        .newPacket ⟨1, portPacket 0⟩, .route, .newPacket ⟨1, synPacket⟩, .route,
        .newPacket ⟨1, { rdpPacket .ackOnly 102 0 [2] with buf := 9 }⟩, .route, .close 1] ++
        (List.replicate 9 [.connect 0 2 5 20 0, .allocate 0]).flatten ++
        [.newPacket ⟨1, crcPacket cspFrdp⟩, .route]) t ∧
      (t.log.any (StackEvent.delivers cspSoCrc32req 9) &&
        !t.log.any (StackEvent.takes 9 cspFcrc32)) = true :=
    Run.of_any (by decide +kernel)
  obtain ⟨t, hrun, ht⟩ := hrun
  obtain ⟨hdelivered, htaken⟩ := Bool.and_eq_true_iff.1 ht
  have htakes := takes_of_secured (h _ _ _ hrun).1 hdelivered (by decide)
  rw [htakes] at htaken
  exact absurd htaken (by decide)

end LibCSP
