import SipeMedia.Call.Machine

/-!
# Runs of the call state machine

Facts about whole runs of `step`, and the event orders on which the handlers of
`src/core/sipe-media.c` answer an INVITE twice or not at all, act on a freed call, or leave
the call in a state its last SDP body does not describe. The traces use one account, one
peer and an engine that offers PCMU with an RTP and an RTCP host candidate.
-/

namespace SipeMedia.Call

open SipeMedia.Base SipeMedia.Sdp SipeMedia.Purple

/-- Running two traces one after the other. -/
theorem run_append (env : Env) (s : Sys) (es es' : List Event) :
    run env s (es ++ es') = run env s es >>= fun s' => run env s' es' := by
  induction es generalizing s with
  | nil => rfl
  | cons e es ih =>
    simp only [List.cons_append, run]
    cases step env s e <;> simp [bind, Except.bind, ih]

/-- What every step keeps holds all along a run. -/
theorem run_invariant {env : Env} {P : Sys → Prop}
    (hstep : ∀ s e s', step env s e = .ok s' → P s → P s') {s s' : Sys} {es : List Event}
    (h : run env s es = .ok s') (hs : P s) : P s' := by
  induction es generalizing s with
  | nil => cases h; exact hs
  | cons e es ih =>
    obtain ⟨s1, h1, h⟩ := bind_eq_ok.mp h
    exact ih h (hstep _ _ _ h1 hs)

/-- What every step of a run's own events keeps holds all along that run. -/
theorem run_invariant_of_mem {env : Env} {P : Sys → Prop} {es : List Event}
    (hstep : ∀ s e s', e ∈ es → step env s e = .ok s' → P s → P s') {s s' : Sys}
    (h : run env s es = .ok s') (hs : P s) : P s' := by
  induction es generalizing s with
  | nil => cases h; exact hs
  | cons e es ih =>
    obtain ⟨s1, h1, h⟩ := bind_eq_ok.mp h
    exact ih (fun s e s' he => hstep s e s' (List.mem_cons_of_mem _ he)) h
      (hstep _ _ _ (List.mem_cons_self _ _) h1 hs)

/-- A state reached from a reachable state is reachable. -/
theorem Reachable.run {env : Env} {s s' : Sys} (h : Reachable env s) (es : List Event)
    (hr : Call.run env s es = .ok s') : Reachable env s' := by
  obtain ⟨es0, h0⟩ := h
  exact ⟨es0 ++ es, by rw [run_append, h0]; exact hr⟩

/-! ## Observations of what was sent -/

/-- Whether `o` is a final (status at least 200) response to message `msg`. -/
def Out.isFinalTo (msg : Nat) : Out → Bool
  | .response m code _ _ => m == msg && 200 ≤ code
  | _ => false

/-- The SDP body `o` carries, if any. -/
def Out.sdp : Out → Option (List Char)
  | .response _ _ _ body => body
  | .request _ _ _ body => body
  | _ => none

/-- Whether an SDP body has the line `a=inactive`. -/
def hasInactiveLine (body : List Char) : Bool :=
  (gStrsplit body crlf 0).contains "a=inactive".toList

/-- The number of final responses sent to message `msg`. -/
def finalCount (s : Sys) (msg : Nat) : Nat := s.sent.countP (Out.isFinalTo msg)

/-! ## The traces -/

/-- The account's environment in the traces. -/
def env0 : Env := ⟨⟨10, 0, 0, 1⟩, "<sip:alice@example.com>".toList⟩

/-- The local PCMU codec. -/
def pcmu : Codec := ⟨0, some "PCMU".toList, .audio, 8000, []⟩

/-- A local host candidate with ICE credentials. -/
def hostCandidate (component : ComponentType) (port : UInt16) : Candidate :=
  ⟨some "1".toList, component, .host, .udp, some "10.0.0.1".toList, port, 100,
    some "ufrag".toList, some "pwd".toList⟩

/-- The engine's report for a new session: PCMU, an RTP and an RTCP candidate. -/
def engine0 : MediaState :=
  ⟨[pcmu], [hostCandidate .rtp 6000, hostCandidate .rtcp 6001], false, false⟩

/-- The same session once its candidates are prepared and the user accepted. -/
def ready0 : MediaState := { engine0 with candidatesPrepared := true, accepted := true }

/-- An INVITE of call `c1` from the peer. -/
def inviteMsg (id : Nat) (body : String) : SipMsg :=
  ⟨id, "c1".toList, "sip:bob@example.com".toList, body.toList⟩

/-- The spec's legacy offer: no candidate lines. -/
def legacyOffer : String :=
  "v=0\r\no=- 0 0 IN IP4 10.0.0.5\r\nm=audio 5004 RTP/AVP 0\r\na=rtpmap:0 PCMU/8000\r\n"

/-- An ICE offer with an RTP and an RTCP candidate. -/
def iceOffer : String :=
  "v=0\r\no=- 0 0 IN IP4 10.0.0.5\r\nm=audio 5004 RTP/AVP 0\r\na=ice-ufrag:U\r\n" ++
  "a=ice-pwd:P\r\na=candidate:1 1 UDP 100 10.0.0.5 5004 typ host \r\n" ++
  "a=candidate:1 2 UDP 99 10.0.0.5 5005 typ host \r\na=rtpmap:0 PCMU/8000\r\n"

/-- An offer of PCMA only. -/
def pcmaOffer : String :=
  "v=0\r\no=- 0 0 IN IP4 10.0.0.5\r\nm=audio 5004 RTP/AVP 8\r\na=rtpmap:8 PCMA/8000\r\n"

/-- An INVITE answered: the engine prepares and the user accepts. -/
def answered (offer : String) : List Event :=
  [.invite (inviteMsg 0 offer) engine0, .engine 0 ready0, .streamInfo 0 .accept true]

/-- The body `sipe_media_create_sdp` writes for a held legacy call: its `a=inactive` line has
no value. -/
def heldLegacyOffer : String :=
  "v=0\r\no=- 0 0 IN IP4 10.0.0.5\r\ns=session\r\nc=IN IP4 10.0.0.5\r\nb=CT:99980\r\n" ++
  "t=0 0\r\nm=audio 5004 RTP/AVP 0\r\na=inactive\r\na=rtpmap:0 PCMU/8000\r\n" ++
  "a=encryption:rejected\r\n"

/-- A hold offer whose `inactive` attribute has a value. -/
def valuedHoldOffer : String :=
  "v=0\r\no=- 0 0 IN IP4 10.0.0.5\r\nm=audio 5004 RTP/AVP 0\r\na=inactive:1\r\n" ++
  "a=rtpmap:0 PCMU/8000\r\n"

/-! ## Unparsable bodies -/

/-- An unparsable INVITE body with no call active dereferences the NULL call; against the
active call it empties the attribute set, and the dispatch then renegotiates on nothing. -/
theorem invite_unparsable_body_mutates :
    run env0 .init [.invite (inviteMsg 0 "a=") engine0] = .error .nullCall ∧
    (run env0 .init (answered iceOffer)).map
      (fun s => s.mediaCall.map fun c => (c.sdpAttrs.length, c.remoteCodecs.length)) =
      .ok (some (5, 1)) ∧
    (run env0 .init (answered iceOffer ++ [.invite (inviteMsg 1 "a=") engine0])).map
      (fun s => s.mediaCall.map fun c => (c.sdpAttrs.length, c.remoteCodecs.length)) =
      .ok (some (0, 0)) := by
  refine ⟨by decide, by decide, ?_⟩
  set_option maxRecDepth 100000 in decide

/-! ## Re-INVITE dispatch -/

/-- A re-INVITE carrying the hold body a sipe peer writes is not taken for a hold: the
`inactive` pair has a NULL value, so the running call renegotiates, stays running and
answers without `a=inactive`. -/
theorem reinvite_inactive_line_not_hold :
    (run env0 .init (answered iceOffer ++ [.invite (inviteMsg 1 heldLegacyOffer) engine0])).map
      (fun s => (s.mediaCall.map (·.state),
        s.sent.getLast?.map fun o => (o.isFinalTo 1, o.sdp.map hasInactiveLine))) =
      .ok (some .running, some (true, some false)) := by
  set_option maxRecDepth 100000 in decide

/-- A hold offer for a call already held is never answered: the stream-info handler returns
at once (`streamInfoBody_hold_of_held`). -/
theorem reinvite_hold_on_held_unanswered :
    (run env0 .init (answered legacyOffer ++
      [.streamInfo 0 .hold true, .invite (inviteMsg 1 valuedHoldOffer) engine0])).map
      (fun s => (s.mediaCall.map (·.invitation), s.mediaCall.map (·.state), finalCount s 1)) =
      .ok (some 1, some .held, 0) := by
  decide

/-- A renegotiation with no common codec installs an empty codec list on the active call. -/
theorem reinvite_installs_empty_codecs :
    (run env0 .init (answered iceOffer ++ [.invite (inviteMsg 1 pcmaOffer) engine0])).map
      (fun s => s.mediaCall.map (·.remoteCodecs)) = .ok (some []) := by
  set_option maxRecDepth 100000 in decide

/-! ## The unguarded ready callback -/

/-- A `candidates-prepared` signal after acceptance answers the INVITE a second time
(`sipeMediaSessionReadyCb_accepted`). -/
theorem accepted_invite_answered_twice :
    (run env0 .init (answered legacyOffer ++ [.candidatesPrepared 0])).map
      (finalCount · 0) = .ok 2 := by
  decide

/-- A held call becomes running when the ready callback runs again. -/
theorem held_call_resumed_by_ready_cb :
    (run env0 .init (answered legacyOffer ++ [.streamInfo 0 .hold true])).map
      (fun s => s.mediaCall.map (·.state)) = .ok (some .held) ∧
    (run env0 .init (answered legacyOffer ++ [.streamInfo 0 .hold true, .candidatesPrepared 0])).map
      (fun s => s.mediaCall.map (·.state)) = .ok (some .running) := by
  decide

/-- While the call is held, the ready callback sends the memoized body, which has no
`a=inactive` line. -/
theorem held_call_sent_body_without_inactive :
    (run env0 .init (answered legacyOffer ++ [.streamInfo 0 .hold true])).map
      (fun s => s.mediaCall.map (·.state)) = .ok (some .held) ∧
    (run env0 .init (answered legacyOffer ++ [.streamInfo 0 .hold true, .candidatesPrepared 0])).map
      (fun s => s.sent.getLast?.map fun o => (o.isFinalTo 0, o.sdp.map hasInactiveLine)) =
      .ok (some (true, some false)) := by
  decide

/-! ## Signals of sessions that have no call -/

/-- The session of a call discarded for lack of codecs stays: its `candidates-prepared`
signal reaches the freed call, its `stream-info` the NULL call, and once another call is
active, that call. -/
theorem stale_session_signals_act_on_other_calls :
    run env0 .init [.invite (inviteMsg 0 pcmaOffer) engine0, .candidatesPrepared 0] =
      .error .freedCall ∧
    run env0 .init [.invite (inviteMsg 0 pcmaOffer) engine0, .streamInfo 0 .accept true] =
      .error .nullCall ∧
    (run env0 .init [.invite (inviteMsg 0 pcmaOffer) engine0,
      .invite (inviteMsg 1 legacyOffer) engine0]).map (·.mediaCall.map (·.media)) =
      .ok (some 1) ∧
    (run env0 .init [.invite (inviteMsg 0 pcmaOffer) engine0,
      .invite (inviteMsg 1 legacyOffer) engine0, .streamInfo 0 .hangup false]).map
      (·.mediaCall) = .ok none := by
  decide

end SipeMedia.Call
