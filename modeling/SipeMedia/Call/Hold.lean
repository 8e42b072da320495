import SipeMedia.Call.Runs

/-!
# Hold and unhold

The hold and unhold branches of `sipe_media_stream_info_cb`, `src/core/sipe-media.c:527–542`.
On a call that is not already in the target state the branch sets the state, notifies the
peer (`notify_state_change`, lines 500–509) and re-emits the signal with `local = TRUE`; GLib
delivers it at once to the same handler, which meets the state check of lines 528/536 and
returns. So a hold or an unhold makes one SDP body for the call in its new state and sends one
message carrying it, and holding a running call then unholding it gives the account back as it
was, two messages later. Over a whole run of requests, the account sends one message per change
of state the requests ask for (`holdChanges`), and none for a request the call already meets.
-/

namespace SipeMedia.Call

open SipeMedia.Base SipeMedia.Sdp SipeMedia.Purple

variable (env : Env)

/-- The re-emission adds nothing: the handler is its body with a re-emission that does
nothing. -/
theorem sipeMediaStreamInfoCb_eq_body (s : Sys) (type : InfoType) (isLocal : Bool) :
    sipeMediaStreamInfoCb env s type isLocal =
      streamInfoBody env (fun s _ => .ok s) s type isLocal :=
  streamInfoBody_emit env (fun _ h => streamInfoBody_hold_of_held env _ _ h)
    (fun _ h => streamInfoBody_unhold_of_running env _ _ h) s type isLocal

/-- What `notify_state_change` sends for the call `c`: a re-INVITE to the peer for a local
change, a 200 OK to the pending invitation for a remote one. -/
def stateNotice (c : SipeMediaCall) (isLocal : Bool) (body : List Char) : Out :=
  if isLocal then .request "INVITE".toList c.dialogWith (some (inviteHeaders env c)) (some body)
  else .response c.invitation 200 "OK".toList (some body)

theorem notifyStateChange_eq (s : Sys) (c : SipeMediaCall) (isLocal : Bool) :
    notifyStateChange env s c isLocal =
      (sipeMediaCreateSdp env.localIp (s.mediaState c.media) c true).map fun body =>
        s.send (stateNotice env c isLocal body) := by
  cases isLocal <;>
  · simp only [notifyStateChange, sipeInviteCall, stateNotice, Bool.false_eq_true, if_true, if_false]
    cases sipeMediaCreateSdp env.localIp (s.mediaState c.media) c true <;> rfl

/-- The body of the hold (unhold) branch on a call not HELD (RUNNING). -/
theorem streamInfoBody_move {s : Sys} {c : SipeMediaCall} {type : InfoType} {target : CallState}
    (ht : type = .hold ∧ target = .held ∨ type = .unhold ∧ target = .running)
    (hc : s.mediaCall = some c) (hne : c.state ≠ target) (isLocal : Bool) :
    streamInfoBody env (fun s _ => .ok s) s type isLocal =
      (sipeMediaCreateSdp env.localIp (s.mediaState c.media) { c with state := target } true).map
        fun body => (s.setCall { c with state := target }).send
          (stateNotice env { c with state := target } isLocal body) := by
  have hmove : ∀ x : Except Fault Sys, x.bind (fun s => .ok s) = x := fun x => by cases x <;> rfl
  rcases ht with ⟨rfl, rfl⟩ | ⟨rfl, rfl⟩ <;>
  · simp only [streamInfoBody, liveCall, hc, bind]
    rw [Except.bind, if_neg hne, hmove, notifyStateChange_eq, Sys.mediaState_setCall]

/-- A hold of a call that is not HELD, or an unhold of a call that is not RUNNING, makes one
SDP body for the call in its new state and sends one message carrying it: a re-INVITE to the
peer for a local change, a 200 OK to the pending invitation for a remote one. Nothing else
changes; the re-emitted signal returns at once; and the handler faults exactly when
`sipe_media_create_sdp` does. -/
theorem sipeMediaStreamInfoCb_hold_sends_one {s : Sys} {c : SipeMediaCall} {type : InfoType}
    {target : CallState} (ht : type = .hold ∧ target = .held ∨ type = .unhold ∧ target = .running)
    (hc : s.mediaCall = some c) (hne : c.state ≠ target) (isLocal : Bool) :
    sipeMediaStreamInfoCb env s type isLocal =
      (sipeMediaCreateSdp env.localIp (s.mediaState c.media) { c with state := target } true).map
        fun body => (s.setCall { c with state := target }).send
          (stateNotice env { c with state := target } isLocal body) := by
  rw [sipeMediaStreamInfoCb_eq_body]
  exact streamInfoBody_move env ht hc hne isLocal

/-- The hold of a connecting legacy call on the engine's session. -/
theorem sipeMediaStreamInfoCb_hold_sends_one_legacy :
    let c := { SipeMediaCall.zeroed with legacyMode := true }
    let s : Sys := ⟨some c, [engine0], []⟩
    s.mediaCall = some c ∧ c.state ≠ .held ∧
      sipeMediaStreamInfoCb env0 s .hold false =
        (sipeMediaCreateSdp env0.localIp (s.mediaState c.media) { c with state := .held } true).map
          fun body => (s.setCall { c with state := .held }).send
            (stateNotice env0 { c with state := .held } false body) :=
  ⟨rfl, by decide, sipeMediaStreamInfoCb_hold_sends_one env0 (.inl ⟨rfl, rfl⟩) rfl (by decide) false⟩

/-- Holding a running call and then unholding it gives the account back as it was, the call
record included (its memoized answer, codecs and invitation untouched), two messages later: a
200 OK to the pending invitation carrying the SDP of the held call, then one carrying the SDP of
the running call. The pair faults exactly when one of the two bodies does. -/
theorem hold_then_unhold_restores {s : Sys} {c : SipeMediaCall} (hc : s.mediaCall = some c)
    (hr : c.state = .running) :
    run env s [.hold, .unhold] =
      (sipeMediaCreateSdp env.localIp (s.mediaState c.media) { c with state := .held } true) >>=
        fun held => (sipeMediaCreateSdp env.localIp (s.mediaState c.media) c true).map
          fun resumed => { s with sent := s.sent ++ [.response c.invitation 200 "OK".toList (some held),
            .response c.invitation 200 "OK".toList (some resumed)] } := by
  have hback : { { c with state := .held } with state := .running } = c := by cases c; simp_all
  have hhold : step env s .hold =
      (sipeMediaCreateSdp env.localIp (s.mediaState c.media) { c with state := .held } true).map
        fun held => (s.setCall { c with state := .held }).send
          (stateNotice env { c with state := .held } false held) := by
    simp only [step, sipeMediaHold, streamInfoOnCall, hc, sipeMediaStreamInfoCb_eq_body]
    exact streamInfoBody_move env (.inl ⟨rfl, rfl⟩) hc (by rw [hr]; decide) false
  have hunhold : ∀ held, step env ((s.setCall { c with state := .held }).send
      (stateNotice env { c with state := .held } false held)) .unhold =
      (sipeMediaCreateSdp env.localIp (s.mediaState c.media) c true).map fun resumed =>
        (((s.setCall { c with state := .held }).send
          (stateNotice env { c with state := .held } false held)).setCall c).send
          (stateNotice env c false resumed) := by
    intro held
    simp only [step, sipeMediaUnhold, streamInfoOnCall, Sys.send_mediaCall, Sys.setCall_mediaCall,
      sipeMediaStreamInfoCb_eq_body]
    rw [streamInfoBody_move env (.inr ⟨rfl, rfl⟩) rfl (by simp) false, hback]
    rfl
  have hs : ∀ m1 m2, (((s.setCall { c with state := .held }).send m1).setCall c).send m2 =
      { s with sent := s.sent ++ [m1, m2] } := by
    intro m1 m2
    cases s
    simp_all [Sys.setCall, Sys.send]
  simp only [run, hhold]
  cases sipeMediaCreateSdp env.localIp (s.mediaState c.media) { c with state := .held } true with
  | error e => rfl
  | ok held =>
    simp only [Except.map, bind, Except.bind, hunhold]
    cases sipeMediaCreateSdp env.localIp (s.mediaState c.media) c true with
    | error e => rfl
    | ok resumed => simp only [hs]; rfl

/-- A running legacy call on the engine's session, held and unheld. -/
theorem hold_then_unhold_restores_legacy :
    let c := { SipeMediaCall.zeroed with legacyMode := true, state := .running }
    let s : Sys := ⟨some c, [engine0], []⟩
    s.mediaCall = some c ∧ c.state = .running ∧
      run env0 s [.hold, .unhold] =
        (sipeMediaCreateSdp env0.localIp (s.mediaState c.media) { c with state := .held } true) >>=
          fun held => (sipeMediaCreateSdp env0.localIp (s.mediaState c.media) c true).map
            fun resumed => { s with sent := s.sent ++ [.response c.invitation 200 "OK".toList (some held),
              .response c.invitation 200 "OK".toList (some resumed)] } :=
  ⟨rfl, rfl, hold_then_unhold_restores env0 rfl rfl⟩


/-! ## Runs of hold and unhold requests -/

/-- The state a hold (`true`) or an unhold (`false`) request asks for. -/
def holdTarget (b : Bool) : CallState := if b then .held else .running

/-- The `stream-info` type of a hold (`true`) or an unhold (`false`) request. -/
def holdInfo (b : Bool) : InfoType := if b then .hold else .unhold

/-- A hold or unhold request: the media session that signals it, whether it asks for a hold
(`true`) or an unhold (`false`), and whether it is the user's own (`local`). -/
structure HoldRequest where
  session : Nat
  hold : Bool
  isLocal : Bool
  deriving DecidableEq, Repr

/-- The `stream-info` signal of a request. -/
def HoldRequest.event (r : HoldRequest) : Event := .streamInfo r.session (holdInfo r.hold) r.isLocal

/-- The states a call in state `st` passes through on the requests `rs`, each with whether the
request that moved it was local: a request for the state the call is already in changes nothing
(lines 528 and 536). -/
def holdChanges (st : CallState) : List HoldRequest → List (CallState × Bool)
  | [] => []
  | r :: rs =>
    if holdTarget r.hold = st then holdChanges st rs
    else (holdTarget r.hold, r.isLocal) :: holdChanges (holdTarget r.hold) rs

example : holdChanges .running [⟨0, true, true⟩, ⟨0, true, false⟩, ⟨1, false, false⟩] =
    [(.held, true), (.running, false)] := by decide

/-- The last state passed through is the one the last request asked for. -/
theorem holdChanges_last (st : CallState) (rs : List HoldRequest) :
    ((holdChanges st rs).map Prod.fst).getLast?.getD st =
      (rs.getLast?.map (holdTarget ∘ HoldRequest.hold)).getD st := by
  induction rs generalizing st with
  | nil => rfl
  | cons r rs ih =>
    rw [holdChanges]
    split
    · next h => rw [ih]; cases rs <;> simp [h, List.getLast?_cons]
    · rw [List.map_cons, List.getLast?_cons, Option.getD_some, ih]
      cases rs <;> simp [List.getLast?_cons]

/-- One request on the live call `c`: ignored when the call is in the state it asks for, else
one message carrying the SDP of the call in that state. -/
theorem sipeMediaStreamInfoCb_holdInfo {s : Sys} {c : SipeMediaCall} (hc : s.mediaCall = some c)
    (b isLocal : Bool) :
    sipeMediaStreamInfoCb env s (holdInfo b) isLocal =
      if holdTarget b = c.state then .ok s
      else
        (sipeMediaCreateSdp env.localIp (s.mediaState c.media) { c with state := holdTarget b }
            true).map fun body => (s.setCall { c with state := holdTarget b }).send
          (stateNotice env { c with state := holdTarget b } isLocal body) := by
  rw [sipeMediaStreamInfoCb_eq_body]
  split
  · next ht =>
    cases b
    · exact streamInfoBody_unhold_of_running env _ _ (by simp [hc, ← ht, holdTarget])
    · exact streamInfoBody_hold_of_held env _ _ (by simp [hc, ← ht, holdTarget])
  · next ht =>
    exact streamInfoBody_move env (by cases b <;> simp [holdInfo, holdTarget]) hc (Ne.symm ht)
      isLocal

/-- A run of requests, with the call's state afterwards the last one passed through. -/
theorem run_holdInfo {s : Sys} {c : SipeMediaCall} (hc : s.mediaCall = some c)
    (rs : List HoldRequest) (hm : ∀ r ∈ rs, r.session < s.medias.length) :
    run env s (rs.map HoldRequest.event) =
      ((holdChanges c.state rs).mapM fun (st, isLocal) =>
          (sipeMediaCreateSdp env.localIp (s.mediaState c.media) { c with state := st } true).map
            (stateNotice env { c with state := st } isLocal)).map fun msgs =>
        { s with
          mediaCall := some
            { c with state := ((holdChanges c.state rs).map Prod.fst).getLast?.getD c.state },
          sent := s.sent ++ msgs } := by
  induction rs generalizing s c with
  | nil =>
    simp only [run, holdChanges, List.mapM_nil, List.map_nil, List.getLast?_nil, Option.getD_none,
      pure, Except.pure, Except.map, List.append_nil]
    cases s
    cases hc
    rfl
  | cons r rs ih =>
    obtain ⟨hr, hrs⟩ := List.forall_mem_cons.mp hm
    simp only [List.map_cons, run, step, HoldRequest.event, if_pos hr,
      sipeMediaStreamInfoCb_holdInfo env hc, holdChanges]
    split
    · exact ih hc hrs
    · cases hsdp : sipeMediaCreateSdp env.localIp (s.mediaState c.media)
          { c with state := holdTarget r.hold } true with
      | error e => simp only [List.mapM_cons, hsdp]; rfl
      | ok body =>
        -- the call after the change, on the same sessions
        have hc1 : ((s.setCall { c with state := holdTarget r.hold }).send
            (stateNotice env { c with state := holdTarget r.hold } r.isLocal body)).mediaCall =
              some { c with state := holdTarget r.hold } := rfl
        simp only [Except.map, bind, Except.bind]
        rw [ih hc1 hrs, List.mapM_cons, hsdp]
        simp only [Sys.mediaState_send, Sys.mediaState_setCall, Sys.send_sent, Sys.setCall_sent,
          Sys.send_medias, Sys.setCall_medias, Except.map, bind, Except.bind, pure, Except.pure]
        split <;> simp [List.getLast?_cons]

/-- A run of hold and unhold requests, each signalled on an existing media session, local or
remote, to the live call `c`: a request for the state the call is already in is ignored, and
every other one sends one message carrying the SDP of the call in its new state (a re-INVITE to
the peer for a local request, a 200 OK to the pending invitation for a remote one), in order.
The call is left as it was but for its state, the one the last request asked for; the sessions
stay; and the run faults exactly when one of those SDP bodies does. -/
theorem hold_requests_send_changes {s : Sys} {c : SipeMediaCall} (hc : s.mediaCall = some c)
    (rs : List HoldRequest) (hm : ∀ r ∈ rs, r.session < s.medias.length) :
    run env s (rs.map HoldRequest.event) =
      ((holdChanges c.state rs).mapM fun (st, isLocal) =>
          (sipeMediaCreateSdp env.localIp (s.mediaState c.media) { c with state := st } true).map
            (stateNotice env { c with state := st } isLocal)).map fun msgs =>
        { s with
          mediaCall := some
            { c with state := (rs.getLast?.map (holdTarget ∘ HoldRequest.hold)).getD c.state },
          sent := s.sent ++ msgs } := by
  rw [← holdChanges_last]
  exact run_holdInfo env hc rs hm

/-- A running legacy call with two sessions: held by the user, held again and then unheld by
the peer from the other session. A re-INVITE, then a 200 OK. -/
theorem hold_requests_send_changes_mixed :
    let c := { SipeMediaCall.zeroed with legacyMode := true, state := .running }
    let s : Sys := ⟨some c, [engine0, engine0], []⟩
    let rs : List HoldRequest := [⟨0, true, true⟩, ⟨1, true, false⟩, ⟨1, false, false⟩]
    s.mediaCall = some c ∧ (∀ r ∈ rs, r.session < s.medias.length) ∧
      run env0 s (rs.map HoldRequest.event) =
        ((holdChanges c.state rs).mapM fun (st, isLocal) =>
            (sipeMediaCreateSdp env0.localIp (s.mediaState c.media) { c with state := st }
              true).map (stateNotice env0 { c with state := st } isLocal)).map fun msgs =>
          { s with
            mediaCall := some
              { c with state := (rs.getLast?.map (holdTarget ∘ HoldRequest.hold)).getD c.state },
            sent := s.sent ++ msgs } :=
  ⟨rfl, by decide, hold_requests_send_changes env0 rfl _ (by decide)⟩

end SipeMedia.Call
