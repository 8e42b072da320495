import SipeMedia.Sdp.Format

/-!
# The call state machine

The handlers of `src/core/sipe-media.c:450–781`: the `candidates-prepared` and
`stream-info` callbacks, the hold/unhold/hangup entry points and
`sipe_media_incoming_invite`, over the account state `Sys`. The `stream-info` signal of
every media session reaches `sipe_media_stream_info_cb` with the account, which acts on
`sip->media_call`; the `candidates-prepared` signal of a session reaches
`sipe_media_session_ready_cb` with the call that was allocated with that session, which
may since have been freed. GLib delivers signals synchronously.
-/

namespace SipeMedia.Call

open SipeMedia.Base SipeMedia.Sdp SipeMedia.Purple

/-- What the engine reports for media session `m`; a session never created reports nothing. -/
def Sys.mediaState (s : Sys) (m : Nat) : MediaState :=
  s.medias.getD m ⟨[], [], false, false⟩

/-- `s` after sending `o`. -/
def Sys.send (s : Sys) (o : Out) : Sys := { s with sent := s.sent ++ [o] }

/-- `s` with `sip->media_call` set to `c`. -/
def Sys.setCall (s : Sys) (c : SipeMediaCall) : Sys := { s with mediaCall := some c }

@[simp] theorem Sys.send_mediaCall (s : Sys) (o : Out) : (s.send o).mediaCall = s.mediaCall := rfl
@[simp] theorem Sys.send_medias (s : Sys) (o : Out) : (s.send o).medias = s.medias := rfl
@[simp] theorem Sys.send_sent (s : Sys) (o : Out) : (s.send o).sent = s.sent ++ [o] := rfl
@[simp] theorem Sys.setCall_mediaCall (s : Sys) (c : SipeMediaCall) :
    (s.setCall c).mediaCall = some c := rfl
@[simp] theorem Sys.setCall_medias (s : Sys) (c : SipeMediaCall) :
    (s.setCall c).medias = s.medias := rfl
@[simp] theorem Sys.setCall_sent (s : Sys) (c : SipeMediaCall) : (s.setCall c).sent = s.sent := rfl
@[simp] theorem Sys.mediaState_setCall (s : Sys) (c : SipeMediaCall) (m : Nat) :
    (s.setCall c).mediaState m = s.mediaState m := rfl
@[simp] theorem Sys.mediaState_send (s : Sys) (o : Out) (m : Nat) :
    (s.send o).mediaState m = s.mediaState m := rfl

/-- `sipe_media_parse_sdp_frame` (lines 553–596): on success the call's attribute set,
remote IP and port are replaced; on failure the call is returned as it was. -/
def sipeMediaParseSdpFrame (call : SipeMediaCall) (frame : List Char) :
    Except Fault (Bool × SipeMediaCall) := do
  match ← parseSdpFrame frame with
  | none => return (false, call)
  | some st =>
    return (true,
      { call with sdpAttrs := st.attrs, remoteIp := st.remoteIp, remotePort := st.remotePort })

/-- The call `g_new0` allocates: every field zero or NULL. -/
def SipeMediaCall.zeroed : SipeMediaCall :=
  ⟨0, [], [], none, 0, [], 0, [], [], none, false, .connecting⟩

/-- `sipe_media_call_init` (lines 620–637): `none` when the body does not parse. -/
def sipeMediaCallInit (msg : SipMsg) : Except Fault (Option SipeMediaCall) := do
  let (ok, call) ← sipeMediaParseSdpFrame .zeroed msg.body
  if !ok then pure none
  else do
    let call := { call with invitation := msg.id, legacyMode := false, state := .connecting }
    let (candidates, legacy) ← sipeMediaParseRemoteCandidates call
    return some { call with remoteCandidates := candidates, legacyMode := legacy }

/-- A truncated line of an INVITE body reaches `atoi (NULL)`: here a candidate line with
three tokens, whose priority `tokens[3]` (line 207) is the vector's terminator. -/
theorem callInit_truncated_candidate_faults :
    sipeMediaCallInit ⟨0, "c1".toList, "sip:bob@example.com".toList,
      ("v=0\r\no=- 0 0 IN IP4 10.0.0.5\r\nm=audio 5004 RTP/AVP 0\r\n" ++
        "a=candidate:1 1 UDP\r\na=rtpmap:0 PCMU/8000\r\n").toList⟩ = .error .nullString ∧
    parseSdpFrame "o=- 0".toList = .error .pastEnd ∧
    parseSdpFrame "m=audio".toList = .error .nullString ∧
    parseRtpmap "0 PCMU".toList = .error .nullString := by
  decide

/-- The frame parse decides `sipe_media_call_init`: it faults exactly when the parse faults or
the candidate resolver faults on the parsed attributes. -/
theorem sipeMediaCallInit_faults_iff (msg : SipMsg) :
    (∃ e, sipeMediaCallInit msg = .error e) ↔ (∃ e, parseSdpFrame msg.body = .error e) ∨
      ∃ st, parseSdpFrame msg.body = .ok (some st) ∧
        ∃ v ∈ readValues (instances st.attrs "candidate".toList), CandidateUnreadable v := by
  simp only [sipeMediaCallInit, sipeMediaParseSdpFrame, bind, Except.bind]
  rcases parseSdpFrame msg.body with f | _ | st
  · exact iff_of_true ⟨f, rfl⟩ (.inl ⟨f, rfl⟩)
  · exact iff_of_false (fun ⟨_, h⟩ => by cases h) (by rintro (⟨_, ⟨⟩⟩ | ⟨_, ⟨⟩, _⟩))
  · simp only [pure, Except.pure, reduceCtorEq, exists_false, false_or, Except.ok.injEq,
      Option.some.injEq, exists_eq_left', Bool.not_true, Bool.false_eq_true, if_false]
    split
    next e heq =>
      exact iff_of_true ⟨e, rfl⟩ ((sipeMediaParseRemoteCandidates_faults_iff _).mp ⟨e, heq⟩)
    next r heq =>
      exact iff_of_false (fun ⟨_, h⟩ => by cases h)
        (not_of_faults_iff heq (sipeMediaParseRemoteCandidates_faults_iff _))

/-- `sipe_media_call_init` returns no call exactly when the body does not parse. -/
theorem sipeMediaCallInit_eq_none {msg : SipMsg} :
    sipeMediaCallInit msg = .ok none ↔ parseSdpFrame msg.body = .ok none := by
  simp only [sipeMediaCallInit, sipeMediaParseSdpFrame, bind, Except.bind]
  rcases parseSdpFrame msg.body with f | _ | st
  · exact iff_of_false (fun h => by cases h) (fun h => by cases h)
  · exact iff_of_true rfl rfl
  · simp only [pure, Except.pure, Bool.not_true, Bool.false_eq_true, if_false]
    split <;> simp

/-- The call `sipe_media_call_init` returns holds the attributes the frame parse read. -/
theorem sipeMediaCallInit_sdpAttrs {msg : SipMsg} {call : SipeMediaCall}
    (h : sipeMediaCallInit msg = .ok (some call)) :
    ∃ st, parseSdpFrame msg.body = .ok (some st) ∧ call.sdpAttrs = st.attrs := by
  simp only [sipeMediaCallInit, sipeMediaParseSdpFrame, bind, Except.bind] at h
  rcases hp : parseSdpFrame msg.body with f | _ | st <;> rw [hp] at h
  · cases h
  · cases h
  · refine ⟨st, rfl, ?_⟩
    simp only [pure, Except.pure, Bool.not_true, Bool.false_eq_true, if_false] at h
    split at h <;> cases h
    rfl

section Handlers

variable (env : Env)

/-- `sipe_media_session_ready_cb` (lines 450–469) on the live call `call`. -/
def sipeMediaSessionReadyCb (s : Sys) (call : SipeMediaCall) : Except Fault Sys :=
  let media := s.mediaState call.media
  if !media.candidatesPrepared then .ok s
  else
    (match call.sdpResponse with
      | some body => .ok body
      | none => sipeMediaCreateSdp env.localIp media call false) >>= fun body =>
    let call := { call with sdpResponse := some body }
    if !media.accepted then
      if !call.legacyMode then
        .ok ((s.setCall call).send
          (.response call.invitation 183 "Session Progress".toList (some body)))
      else .ok (s.setCall call)
    else
      .ok (((s.setCall call).send (.response call.invitation 200 "OK".toList (some body))).setCall
        { call with state := .running })

/-- Once its session is prepared and accepted, the callback answers the pending invitation
with the memoized body in a 200 OK and sets the call running, whatever state it was in. -/
theorem sipeMediaSessionReadyCb_accepted {s : Sys} {call : SipeMediaCall} {body : List Char}
    (hp : (s.mediaState call.media).candidatesPrepared)
    (ha : (s.mediaState call.media).accepted) (hb : call.sdpResponse = some body) :
    sipeMediaSessionReadyCb env s call =
      .ok (((s.setCall call).send (.response call.invitation 200 "OK".toList (some body))).setCall
        { call with state := .running }) := by
  have hc : { call with sdpResponse := some body } = call := by cases call; simp_all
  simp [sipeMediaSessionReadyCb, hp, ha, hb, bind, Except.bind, hc]

/-- The headers of `sipe_invite_call` (lines 481–488). -/
def inviteHeaders (call : SipeMediaCall) : List Char :=
  "Supported: ms-sender\r\nms-keep-alive: UAC;hop-hop=yes\r\nContact: ".toList ++
    env.contact ++ (if call.state = .held then ";+sip.rendering=\"no\"".toList else []) ++
    "\r\nSupported: Replaces\r\nContent-Type: application/sdp\r\n".toList

/-- `sipe_invite_call` (lines 471–498): a re-INVITE carrying a fresh SDP. -/
def sipeInviteCall (s : Sys) (call : SipeMediaCall) : Except Fault Sys := do
  let body ← sipeMediaCreateSdp env.localIp (s.mediaState call.media) call true
  return s.send (.request "INVITE".toList call.dialogWith (some (inviteHeaders env call))
    (some body))

/-- `notify_state_change` (lines 500–509): a re-INVITE for a local change, a 200 OK to the
pending invitation for a remote one. -/
def notifyStateChange (s : Sys) (call : SipeMediaCall) (isLocal : Bool) : Except Fault Sys :=
  if isLocal then sipeInviteCall env s call
  else do
    let body ← sipeMediaCreateSdp env.localIp (s.mediaState call.media) call true
    return s.send (.response call.invitation 200 "OK".toList (some body))

/-- `sip->media_call`, dereferenced. -/
def liveCall (s : Sys) : Except Fault SipeMediaCall :=
  match s.mediaCall with
  | some call => .ok call
  | none => .error .nullCall

/-- The body of `sipe_media_stream_info_cb` (lines 511–551). `emit s type` is
`purple_media_stream_info (media, type, NULL, NULL, TRUE)` on the signalling session, which
GLib delivers at once to that session's `stream-info` handler: this one. -/
def streamInfoBody (emit : Sys → InfoType → Except Fault Sys) (s : Sys) (type : InfoType)
    (isLocal : Bool) : Except Fault Sys :=
  match type with
  | .accept => liveCall s >>= sipeMediaSessionReadyCb env s
  | .reject => liveCall s >>= fun call =>
    .ok { s.send (.response call.invitation 603 "Decline".toList none) with mediaCall := none }
  | .hold => liveCall s >>= fun call =>
    if call.state = .held then .ok s
    else
      notifyStateChange env (s.setCall { call with state := .held })
        { call with state := .held } isLocal >>= fun s => emit s .hold
  | .unhold => liveCall s >>= fun call =>
    if call.state = .running then .ok s
    else
      notifyStateChange env (s.setCall { call with state := .running })
        { call with state := .running } isLocal >>= fun s => emit s .unhold
  | .hangup => liveCall s >>= fun call =>
    let s := if isLocal then s.send (.request "BYE".toList call.dialogWith none none) else s
    .ok { s with mediaCall := none }
  | _ => .ok s

/-- `sipe_media_stream_info_cb` with its synchronous re-entry. The hold and unhold branches
re-emit with `local = TRUE`; the re-entered handler meets the state check of lines 528/536
and returns without emitting, so the innermost `emit` is never called
(`sipeMediaStreamInfoCb_fix`). -/
def sipeMediaStreamInfoCb (s : Sys) (type : InfoType) (isLocal : Bool) : Except Fault Sys :=
  streamInfoBody env (fun s type => streamInfoBody env (fun s _ => .ok s) s type true) s type
    isLocal

/-- `notify_state_change` sends exactly one message and changes nothing else: a re-INVITE
for a local change, a 200 OK to the pending invitation for a remote one. -/
theorem notifyStateChange_ok {s s' : Sys} {call : SipeMediaCall} {isLocal : Bool}
    (h : notifyStateChange env s call isLocal = .ok s') :
    ∃ body, s' = s.send (if isLocal then
      .request "INVITE".toList call.dialogWith (some (inviteHeaders env call)) (some body)
      else .response call.invitation 200 "OK".toList (some body)) := by
  cases isLocal <;>
  · simp only [notifyStateChange, sipeInviteCall, Bool.false_eq_true, if_false, if_true] at h
    cases hb : sipeMediaCreateSdp env.localIp (s.mediaState call.media) call true <;>
      simp_all [bind, Except.bind, pure, Except.pure]
    exact ⟨_, h.symm⟩

/-- A hold signal on a held call returns at once (lines 528–529): nothing is sent. -/
theorem streamInfoBody_hold_of_held {s : Sys} (emit : Sys → InfoType → Except Fault Sys)
    (isLocal : Bool) (hs : s.mediaCall.map SipeMediaCall.state = some .held) :
    streamInfoBody env emit s .hold isLocal = .ok s := by
  obtain ⟨call, hc, hh⟩ := Option.map_eq_some'.mp hs
  simp [streamInfoBody, liveCall, hc, hh, bind, Except.bind]

/-- An unhold signal on a running call returns at once (lines 536–537). -/
theorem streamInfoBody_unhold_of_running {s : Sys} (emit : Sys → InfoType → Except Fault Sys)
    (isLocal : Bool) (hs : s.mediaCall.map SipeMediaCall.state = some .running) :
    streamInfoBody env emit s .unhold isLocal = .ok s := by
  obtain ⟨call, hc, hh⟩ := Option.map_eq_some'.mp hs
  simp [streamInfoBody, liveCall, hc, hh, bind, Except.bind]

/-- What the body emits does not matter as long as a hold re-emission on a held call and an
unhold re-emission on a running call return at once. -/
theorem streamInfoBody_emit {emit : Sys → InfoType → Except Fault Sys}
    (hh : ∀ s, s.mediaCall.map SipeMediaCall.state = some .held → emit s .hold = .ok s)
    (hr : ∀ s, s.mediaCall.map SipeMediaCall.state = some .running → emit s .unhold = .ok s)
    (s : Sys) (type : InfoType) (isLocal : Bool) :
    streamInfoBody env emit s type isLocal =
      streamInfoBody env (fun s _ => .ok s) s type isLocal := by
  cases type
  all_goals try rfl
  all_goals
    simp only [streamInfoBody]
    cases hl : s.mediaCall with
    | none => simp only [liveCall, hl]; rfl
    | some call =>
      simp only [liveCall, hl, bind, Except.bind]
      split
      · rfl
      · cases hn : notifyStateChange env (s.setCall { call with state := _ }) _ isLocal with
        | error => rfl
        | ok s' =>
          obtain ⟨body, rfl⟩ := notifyStateChange_ok env hn
          first
          | exact hh _ (by simp)
          | exact hr _ (by simp)

/-- The handler is the fixed point of its body: its re-emission is the handler itself. -/
theorem sipeMediaStreamInfoCb_fix (s : Sys) (type : InfoType) (isLocal : Bool) :
    sipeMediaStreamInfoCb env s type isLocal =
      streamInfoBody env (fun s type => sipeMediaStreamInfoCb env s type true) s type isLocal := by
  have inner_hold : ∀ s, s.mediaCall.map SipeMediaCall.state = some .held →
      streamInfoBody env (fun s _ => .ok s) s .hold true = .ok s :=
    fun s h => streamInfoBody_hold_of_held env _ _ h
  have inner_unhold : ∀ s, s.mediaCall.map SipeMediaCall.state = some .running →
      streamInfoBody env (fun s _ => .ok s) s .unhold true = .ok s :=
    fun s h => streamInfoBody_unhold_of_running env _ _ h
  rw [streamInfoBody_emit env (fun s h => (streamInfoBody_hold_of_held env _ _ h))
      (fun s h => (streamInfoBody_unhold_of_running env _ _ h)),
    sipeMediaStreamInfoCb, streamInfoBody_emit env inner_hold inner_unhold]

/-- `sipe_media_hold`, `sipe_media_unhold` and `sipe_media_hangup` (lines 639–651,
775–781): emit `type` with `local = FALSE` on the call's media session, if there is a call. -/
def streamInfoOnCall (type : InfoType) (s : Sys) : Except Fault Sys :=
  match s.mediaCall with
  | some _ => sipeMediaStreamInfoCb env s type false
  | none => .ok s

/-- `sipe_media_hold`. -/
def sipeMediaHold : Sys → Except Fault Sys := streamInfoOnCall env .hold

/-- `sipe_media_unhold`. -/
def sipeMediaUnhold : Sys → Except Fault Sys := streamInfoOnCall env .unhold

/-- `sipe_media_hangup`. -/
def sipeMediaHangup : Sys → Except Fault Sys := streamInfoOnCall env .hangup

/-- The re-INVITE branch of `sipe_media_incoming_invite` (lines 667–710): the invitation is
replaced, the attribute set cleared and re-parsed (a failure is ignored), then the first
of: a legacy running call is held; an `inactive` attribute with a value holds; a held
call is unheld; else the codecs are renegotiated and the re-INVITE answered. -/
def reinvite (s : Sys) (call : SipeMediaCall) (msg : SipMsg) : Except Fault Sys := do
  let call := { call with invitation := msg.id, sdpAttrs := [] }
  let (_, call) ← sipeMediaParseSdpFrame call msg.body
  let s := s.setCall call
  if call.legacyMode ∧ call.state = .running then sipeMediaHold env s
  else if (namevalFind call.sdpAttrs "inactive".toList).isSome then sipeMediaHold env s
  else if call.state = .held then sipeMediaUnhold env s
  else do
    let media := s.mediaState call.media
    let codecs ← sipeMediaParseRemoteCodecs call
    let call := { call with remoteCodecs := sipeMediaPruneRemoteCodecs media.localCodecs codecs }
    let s := (s.setCall call).send (.setRemoteCodecs call.media call.remoteCodecs)
    let rsp ← sipeMediaCreateSdp env.localIp media call true
    return s.send (.response msg.id 200 "OK".toList (some rsp))

/-- The new-call branch of `sipe_media_incoming_invite` (lines 718–772); the engine reports
`fresh` for the media session it creates. A body that does not parse leaves `call` NULL,
which line 732 dereferences. -/
def newCall (s : Sys) (msg : SipMsg) (fresh : MediaState) : Except Fault Sys := do
  match ← sipeMediaCallInit msg with
  | none => throw .nullCall
  | some call =>
    let m := s.medias.length
    let s := { s with medias := s.medias ++ [fresh] }
    let call := { call with media := m, callId := msg.callId, dialogWith := msg.sender }
    let s := s.send (.addStream m (if call.legacyMode then "rawudp".toList else "nice".toList))
    let s := s.send (.addRemoteCandidates m call.remoteCandidates)
    let codecs ← sipeMediaParseRemoteCodecs call
    let call := { call with remoteCodecs := sipeMediaPruneRemoteCodecs fresh.localCodecs codecs }
    if call.remoteCandidates.isEmpty || call.remoteCodecs.isEmpty then pure s
    else
      let s := (s.send (.setRemoteCodecs m call.remoteCodecs)).setCall call
      pure (s.send (.response msg.id 180 "Ringing".toList none))

/-- An INVITE whose body does not parse, with no call active, reaches the NULL dereference of
line 732. -/
theorem newCall_of_unparsable {s : Sys} {msg : SipMsg} (fresh : MediaState)
    (h : parseSdpFrame msg.body = .ok none) : newCall s msg fresh = .error .nullCall := by
  simp [newCall, sipeMediaCallInit, sipeMediaParseSdpFrame, h, bind, Except.bind, pure,
    Except.pure]
  rfl

/-- An INVITE body on which the new-call branch of `sipe_media_incoming_invite` reaches
undefined behaviour: the frame parse faults; or the body does not parse and line 732
dereferences the NULL call; or a `candidate` or `rtpmap` value the resolvers read is unreadable
(`CandidateUnreadable`, `RtpmapUnreadable`). -/
def OfferUnreadable (body : List Char) : Prop :=
  (∃ e, parseSdpFrame body = .error e) ∨ parseSdpFrame body = .ok none ∨
    ∃ st, parseSdpFrame body = .ok (some st) ∧
      ((∃ v ∈ readValues (instances st.attrs "candidate".toList), CandidateUnreadable v) ∨
        ∃ v ∈ readValues (instances st.attrs "rtpmap".toList), RtpmapUnreadable v)

/-- The new-call branch faults exactly on unreadable offers. -/
theorem newCall_faults_iff (s : Sys) (msg : SipMsg) (fresh : MediaState) :
    (∃ e, newCall s msg fresh = .error e) ↔ OfferUnreadable msg.body := by
  rw [newCall, bind_faults_iff, sipeMediaCallInit_faults_iff, OfferUnreadable]
  rcases hp : parseSdpFrame msg.body with f | _ | st
  · exact iff_of_true (.inl (.inl ⟨f, rfl⟩)) (.inl ⟨f, rfl⟩)
  · exact iff_of_true (.inr ⟨none, sipeMediaCallInit_eq_none.mpr hp, .nullCall, rfl⟩)
      (.inr (.inl rfl))
  · by_cases hc : ∃ v ∈ readValues (instances st.attrs "candidate".toList), CandidateUnreadable v
    · exact iff_of_true (.inl (.inr ⟨st, rfl, hc⟩)) (.inr (.inr ⟨st, rfl, .inl hc⟩))
    · obtain ⟨a, ha⟩ : ∃ a, sipeMediaCallInit msg = .ok a := by
        cases hi : sipeMediaCallInit msg with
        | ok a => exact ⟨a, rfl⟩
        | error e =>
          rcases (sipeMediaCallInit_faults_iff msg).mp ⟨e, hi⟩ with ⟨f, hf⟩ | ⟨st', hst', hc'⟩
          · rw [hp] at hf; cases hf
          · rw [hp] at hst'; cases hst'; exact absurd hc' hc
      rcases a with _ | call
      · rw [sipeMediaCallInit_eq_none, hp] at ha; cases ha
      obtain ⟨st', hst', hattrs⟩ := sipeMediaCallInit_sdpAttrs ha
      rw [hp] at hst'
      cases hst'
      simp only [ha, Except.ok.injEq, exists_eq_left', bind_faults_iff, hc, reduceCtorEq,
        exists_false, false_or, Option.some.injEq, false_and, or_false]
      rw [sipeMediaParseRemoteCodecs_faults_iff]
      dsimp only
      rw [hattrs, or_iff_left]
      rintro ⟨a, -, e, he⟩
      split at he <;> cases he

/-- `sipe_media_incoming_invite` (lines 653–773); an INVITE for another Call-ID while a
call is active is only logged. -/
def sipeMediaIncomingInvite (s : Sys) (msg : SipMsg) (fresh : MediaState) :
    Except Fault Sys :=
  match s.mediaCall with
  | some call =>
    if sipeStrequal (some call.callId) msg.callId then reinvite env s call msg else .ok s
  | none => newCall s msg fresh

/-- An INVITE that arrives with no call active makes the account fault exactly when its offer is
unreadable. -/
theorem sipeMediaIncomingInvite_faults_iff {s : Sys} (hs : s.mediaCall = none) (msg : SipMsg)
    (fresh : MediaState) :
    (∃ e, sipeMediaIncomingInvite env s msg fresh = .error e) ↔ OfferUnreadable msg.body := by
  rw [sipeMediaIncomingInvite, hs]
  exact newCall_faults_iff s msg fresh

/-- A first INVITE whose body is a bare version line. -/
theorem sipeMediaIncomingInvite_faults_iff_first :
    let msg : SipMsg := ⟨0, "c1".toList, "sip:bob@example.com".toList, "v=0\r\n".toList⟩
    Sys.init.mediaCall = none ∧
      ((∃ e, sipeMediaIncomingInvite ⟨⟨10, 0, 0, 1⟩, []⟩ Sys.init msg ⟨[], [], false, false⟩ =
          .error e) ↔ OfferUnreadable msg.body) :=
  ⟨rfl, sipeMediaIncomingInvite_faults_iff ⟨⟨10, 0, 0, 1⟩, []⟩ rfl _ _⟩

/-- The `candidates-prepared` signal of media session `m`: `sipe_media_session_ready_cb` on
the call allocated with `m`, which is freed unless it is still `sip->media_call`. -/
def candidatesPreparedCb (s : Sys) (m : Nat) : Except Fault Sys :=
  match s.mediaCall with
  | some call => if call.media = m then sipeMediaSessionReadyCb env s call else .error .freedCall
  | none => .error .freedCall

end Handlers

/-- What can happen to the account: an INVITE arrives (the engine reporting `fresh` for a
session created for it), a media session emits `stream-info` or `candidates-prepared`, the
user holds, unholds or hangs up, or the engine's report for a session changes. -/
inductive Event where
  | invite (msg : SipMsg) (fresh : MediaState)
  | streamInfo (m : Nat) (type : InfoType) (isLocal : Bool)
  | candidatesPrepared (m : Nat)
  | hold
  | unhold
  | hangup
  | engine (m : Nat) (report : MediaState)
  deriving DecidableEq, Repr

/-- One event, run to completion. Only media sessions that exist emit signals. -/
def step (env : Env) (s : Sys) : Event → Except Fault Sys
  | .invite msg fresh => sipeMediaIncomingInvite env s msg fresh
  | .streamInfo m type isLocal =>
    if m < s.medias.length then sipeMediaStreamInfoCb env s type isLocal else .ok s
  | .candidatesPrepared m => if m < s.medias.length then candidatesPreparedCb env s m else .ok s
  | .hold => sipeMediaHold env s
  | .unhold => sipeMediaUnhold env s
  | .hangup => sipeMediaHangup env s
  | .engine m report => .ok { s with medias := s.medias.set m report }

/-- A run: the events in order, stopping at the first fault. -/
def run (env : Env) (s : Sys) : List Event → Except Fault Sys
  | [] => .ok s
  | e :: es => do run env (← step env s e) es

/-- The states some run from the initial account reaches. -/
def Reachable (env : Env) (s : Sys) : Prop := ∃ es, run env .init es = .ok s

end SipeMedia.Call
