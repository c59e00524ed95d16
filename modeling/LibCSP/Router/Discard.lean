/-
# A discarded packet may keep a connection

The router opens a connection for a packet before it looks whether it wants the packet:
`csp_conn_new` comes first, then `csp_route_security_check` and the test of
`CSP_SO_RDPREQ`.  When one of these discards the packet, the connection stays open, and
`csp_conn_check_timeouts` never closes it unless the packet had `CSP_FRDP`.  Only a
connection-less socket checks its packets without a connection
(`discarded_keeps_open_iff`).
-/

import LibCSP.Router.Step

namespace LibCSP

open Basis

variable {N : ℕ}

/-- The open connections. -/
def Stack.openConns (s : Stack N) : Finset (Fin N) :=
  Finset.univ.filter fun i => (s.conns i).state = .connOpen

/-- The open connections are those that are open. -/
theorem mem_openConns {s : Stack N} {i : Fin N} :
    i ∈ s.openConns ↔ (s.conns i).state = .connOpen := by
  rw [Stack.openConns, Finset.mem_filter]
  exact and_iff_right (Finset.mem_univ i)

/-- They are determined by the table. -/
theorem openConns_congr {s s' : Stack N} (h : s'.conns = s.conns) :
    s'.openConns = s.openConns := by
  unfold Stack.openConns
  rw [h]

/-- The packet did not pass `csp_route_security_check`, or it lacks `CSP_FRDP`. -/
def Discard.Unwanted (why : Discard) : Prop := why = .security ∨ why = .noRdp

/-- What is logged when a packet is taken in. -/
theorem mem_intake {e : StackEnv} {s : Stack N} {input : CspRouteQueue} {ev : StackEvent N}
    (h : ev ∈ intake e s input) : ev = .dequeued input.packet ∨ ev = .hooked s.packet := by
  unfold intake at h
  rcases List.mem_cons.1 h with h | h
  · exact .inl h
  · split at h
    · exact .inr (List.mem_singleton.1 h)
    · exact absurd h List.not_mem_nil

/-- One event after the intake: if a discard is among the new events, it is that one. -/
theorem discarded_last {e : StackEnv} {s s' : Stack N} {input : CspRouteQueue} {why why' : Discard}
    {buf buf' : Option ℕ} {evs : List (StackEvent N)}
    (h : s'.log = s.log ++ (intake e s input ++ [.discarded why' buf']))
    (hlog : s'.log = s.log ++ evs) (hd : .discarded why buf ∈ evs) : why' = why := by
  rw [List.append_cancel_left (hlog.symm.trans h), List.mem_append, List.mem_singleton] at hd
  rcases hd with hd | hd
  · rcases mem_intake hd with hd | hd <;> exact absurd hd nofun
  · exact (StackEvent.discarded.inj hd).1.symm

/-- A packet that is handed over to a new connection is not discarded. -/
theorem not_discarded {e : StackEnv} {s s₁ s₂ : Stack N} {input : CspRouteQueue} {i : Fin N}
    {idin idout : CspId} {k : Option ℕ} {opts : U32} {c : Call} {b : ℕ} {why : Discard}
    {buf : Option ℕ} {evs : List (StackEvent N)} (h : Aside s s₁ (intake e s input))
    (hnew : Fresh s₁ i idin idout k opts s₂)
    (hlog : ((s₂.emit (.handedOver b)).call e i c).log = s.log ++ evs) :
    .discarded why buf ∉ evs := by
  obtain ⟨news, hl, -⟩ := hnew.log
  have hevs : evs = intake e s input ++ .opened i :: (news.map (.conn i (s₁.conns i).connOpts) ++
      .handedOver b :: (c.exec e.env ((s₂.emit (.handedOver b)).view i)).log.map
        (.conn i (s₂.conns i).connOpts)) := by
    refine List.append_cancel_left (hlog.symm.trans ?_)
    show s₂.log ++ [.handedOver b] ++ _ = _
    rw [hl, h.log]
    simp only [List.append_assoc, List.cons_append, List.nil_append]
    rfl
  intro hd
  rw [hevs, List.mem_append, List.mem_cons, List.mem_append, List.mem_cons, List.mem_map,
    List.mem_map] at hd
  rcases hd with hd | hd | ⟨ev, -, hd⟩ | hd | ⟨ev, -, hd⟩
  · rcases mem_intake hd with hd | hd <;> exact absurd hd nofun
  all_goals exact absurd hd nofun

variable [NeZero N]

/-- **An unwanted packet leaves its new connection open.** -/
theorem routeNew_unwanted {e : StackEnv} {s s₁ : Stack N} {input : CspRouteQueue}
    {socket : CspSocket} {evs : List (StackEvent N)} {why : Discard} {buf : Option ℕ}
    (h : Aside s s₁ (intake e s input))
    (hlog : (routeNew e (some socket) input.packet s₁).log = s.log ++ evs)
    (hd : .discarded why buf ∈ evs) (hwhy : why.Unwanted) :
    ∃ i, (s.conns i).state = .connClosed ∧
      ((routeNew e (some socket) input.packet s₁).conns i).state = .connOpen := by
  unfold routeNew at hlog ⊢
  have hnoconn : ∀ s₂ : Stack N, s₂.log = s₁.log →
      (s₂.discard .noConn (some input.packet.buf)).log = s.log ++ evs → False := by
    intro s₂ hs₂ hlog
    have hend : (s₂.discard .noConn (some input.packet.buf)).log =
        s.log ++ (intake e s input ++ [.discarded .noConn (some input.packet.buf)]) := by
      show s₂.log ++ _ = _
      rw [hs₂, h.log, List.append_assoc]
    rw [← discarded_last hend hlog hd] at hwhy
    rcases hwhy with hwhy | hwhy <;> exact absurd hwhy (by decide)
  have hcases := cspConnNew_cases e input.packet.id (replyId e input.packet.id) s₁
  generalize cspConnNew e input.packet.id (replyId e input.packet.id) s₁ = r at hcases hlog ⊢
  obtain ⟨r, s₂⟩ := r
  rcases hcases with ⟨hr, hs₂⟩ | ⟨hr, hs₂⟩ | ⟨hr, hs₂⟩
  · simp only at hr hs₂
    subst hr hs₂
    exact (hnoconn _ rfl hlog).elim
  · simp only at hr hs₂
    subst hr
    exact (hnoconn _ hs₂.log hlog).elim
  · simp only at hr hs₂
    subst hr
    have hnew := hs₂.assign socket.queue socket.opts
    simp only at hlog ⊢
    rcases routeConn_cases e s₁.search.1 input.packet (s₂.setConn s₁.search.1
      { s₂.conns s₁.search.1 with rxSocket := socket.queue, connOpts := socket.opts }) with
      ⟨why', -, hend⟩ | ⟨p, -, hend⟩
    · rw [hend]
      refine ⟨s₁.search.1, ?_, congrArg Shell.state hnew.shell⟩
      rw [← h.conns]
      exact hnew.closed
    · rw [hend] at hlog
      exact absurd hd (not_discarded h hnew hlog)

/-- **An unwanted packet that belongs to no connection leaves the open connections as they
are exactly if its socket is connection-less.** -/
theorem discarded_keeps_open_iff {e : StackEnv} {s s₁ : Stack N} {input : CspRouteQueue}
    {evs : List (StackEvent N)} {why : Discard} {buf : Option ℕ}
    (hnext : cspRouteNextPacket s = (some input, s₁)) (hlocal : ¬ e.IsTransit input.packet.id)
    (hfind : cspConnFind s.conns input.packet.id cspIdConnMask = none)
    (hlog : (vTaskCSPRouter e s).log = s.log ++ evs) (hd : .discarded why buf ∈ evs)
    (hwhy : why.Unwanted) :
    (vTaskCSPRouter e s).openConns = s.openConns ↔
      ∃ socket, cspPortGetSocket s.ports input.packet.id.dport.toNat = some socket ∧
        socket.opts &&& cspSoConnLess ≠ 0 := by
  rcases vTaskCSPRouter_cases (e := e) hnext with ⟨-, -, hend⟩ | ⟨-, s₂, hs₂, hroute⟩
  · -- the hook's own reason
    rw [← discarded_last hend.log hlog hd] at hwhy
    rcases hwhy with hwhy | hwhy <;> exact absurd hwhy (by decide)
  · rw [hroute, routePacket] at hlog ⊢
    have hpacket := hs₂.setPacket (some input.packet.buf)
    generalize { s₂ with packet := some input.packet.buf } = s₃ at hpacket hlog ⊢
    simp only [if_neg hlocal, routeLocal] at hlog ⊢
    rw [hpacket.ports, hpacket.conns, hfind] at hlog ⊢
    cases hport : cspPortGetSocket s.ports input.packet.id.dport.toNat with
    | none =>
      rw [hport] at hlog
      rw [← discarded_last (hpacket.trans (.emit _ _)).log hlog hd] at hwhy
      rcases hwhy with hwhy | hwhy <;> exact absurd hwhy (by decide)
    | some socket =>
      rw [hport] at hlog
      by_cases hless : socket.opts &&& cspSoConnLess ≠ 0
      · refine iff_of_true ?_ ⟨socket, rfl, hless⟩
        have hsame := openConns_congr hpacket.conns
        simp only [Option.filter_some, decide_eq_true hless, if_true, routeConnLess]
        split
        · exact hsame
        · split <;> exact hsame
      · simp only [Option.filter_some, decide_eq_false hless, Bool.false_eq_true, if_false]
          at hlog ⊢
        obtain ⟨i, hclosed, hopen⟩ := routeNew_unwanted hpacket hlog hd hwhy
        refine iff_of_false (fun hsame => ?_) ?_
        · rw [← mem_openConns, hsame, mem_openConns, hclosed] at hopen
          exact absurd hopen (by decide)
        · rintro ⟨socket', hs, hl⟩
          rw [Option.some.inj hs] at hless
          exact hless hl

/-! ### An unauthenticated packet -/

/-- A connection-less socket that requires HMAC. -/
theorem discarded_keeps_open_connLess :
    (vTaskCSPRouter .favourable ((Stack.bound 0x0104).receive (portPacket 0))).openConns =
      ((Stack.bound 0x0104).receive (portPacket 0)).openConns := by
  have hlog : (vTaskCSPRouter .favourable ((Stack.bound 0x0104).receive (portPacket 0))).log =
      [] ++ [.dequeued (portPacket 0), .discarded .security (some 7)] := rfl
  exact (discarded_keeps_open_iff rfl (by decide) (by decide +kernel) hlog
    (List.mem_cons_of_mem _ List.mem_cons_self) (.inl rfl)).2 ⟨⟨some 0, 0x0104⟩, rfl, by decide⟩

/-- **A packet without HMAC takes a connection of a socket that requires it.** -/
theorem discarded_packet_takes_connection :
    ¬ ∀ (e : StackEnv) (s s₁ : Stack cspConnMax) (input : CspRouteQueue)
      (evs : List (StackEvent cspConnMax)) (why : Discard) (buf : Option ℕ),
        cspRouteNextPacket s = (some input, s₁) → ¬ e.IsTransit input.packet.id →
          cspConnFind s.conns input.packet.id cspIdConnMask = none →
            (vTaskCSPRouter e s).log = s.log ++ evs → .discarded why buf ∈ evs →
              why.Unwanted → (vTaskCSPRouter e s).openConns = s.openConns := by
  intro h
  have hsame := h .favourable ((Stack.bound 0x0004).receive (portPacket 0)) _ _
    [.dequeued (portPacket 0), .opened 1, .discarded .security (some 7)] .security (some 7) rfl
    (by decide) (by decide +kernel) rfl (by simp) (.inl rfl)
  have hmem : (1 : Fin cspConnMax) ∉ ((Stack.bound 0x0004).receive (portPacket 0)).openConns := by
    rw [mem_openConns]
    decide
  rw [← hsame, mem_openConns] at hmem
  exact hmem rfl

end LibCSP
