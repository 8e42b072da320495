import SipeMedia.Call.Hold
import SipeMedia.Call.Lifetime

/-!
# What the account reads of its media sessions

The account keeps every media session it creates (`purple_media_manager_create_media`, line 723;
nothing in the file releases one), but reads only the live call's: its codecs, its local
candidates, and whether its candidates are prepared and it is accepted (`call->media` in
`sipe_media_session_ready_cb`, `sipe_media_create_sdp` and the re-INVITE's pruning), and, for a
new call, the session it has just created. So what a session no call uses reports never shows:
the frame lemmas below say so handler by handler, and `stale_session_reports_ignored` over whole
runs.
-/

namespace SipeMedia.Call

open SipeMedia.Base SipeMedia.Sdp SipeMedia.Purple

/-- `s` with the media sessions `ms` in place of its own. -/
def Sys.withMedias (s : Sys) (ms : List MediaState) : Sys := { s with medias := ms }

@[simp] theorem Sys.withMedias_mediaCall (s : Sys) (ms : List MediaState) :
    (s.withMedias ms).mediaCall = s.mediaCall := rfl

@[simp] theorem Sys.withMedias_sent (s : Sys) (ms : List MediaState) :
    (s.withMedias ms).sent = s.sent := rfl

@[simp] theorem Sys.withMedias_medias (s : Sys) (ms : List MediaState) :
    (s.withMedias ms).medias = ms := rfl

theorem Sys.mediaState_withMedias (s : Sys) (ms : List MediaState) (m : Nat) :
    (s.withMedias ms).mediaState m = ms.getD m ⟨[], [], false, false⟩ := rfl

@[simp] theorem Sys.setCall_withMedias (s : Sys) (ms : List MediaState) (c : SipeMediaCall) :
    (s.withMedias ms).setCall c = (s.setCall c).withMedias ms := rfl

@[simp] theorem Sys.send_withMedias (s : Sys) (ms : List MediaState) (o : Out) :
    (s.withMedias ms).send o = (s.send o).withMedias ms := rfl

/-- `ms` has as many sessions as `s` and agrees with `s` on the live call's session. -/
structure Sys.ReadsAlike (s : Sys) (ms : List MediaState) : Prop where
  length : ms.length = s.medias.length
  live : ∀ c ∈ s.mediaCall, (s.withMedias ms).mediaState c.media = s.mediaState c.media

theorem Sys.ReadsAlike.refl (s : Sys) : s.ReadsAlike s.medias := ⟨rfl, fun _ _ => rfl⟩

/-! ## Frame lemmas -/

section Frame

variable (env : Env) {s : Sys} {ms : List MediaState}

theorem notifyStateChange_frame {c : SipeMediaCall} (isLocal : Bool)
    (h : (s.withMedias ms).mediaState c.media = s.mediaState c.media) :
    notifyStateChange env (s.withMedias ms) c isLocal =
      (notifyStateChange env s c isLocal).map (·.withMedias ms) := by
  rw [notifyStateChange_eq, notifyStateChange_eq, h]
  cases sipeMediaCreateSdp env.localIp (s.mediaState c.media) c true <;> rfl

theorem sipeMediaSessionReadyCb_frame {call : SipeMediaCall}
    (h : (s.withMedias ms).mediaState call.media = s.mediaState call.media) :
    sipeMediaSessionReadyCb env (s.withMedias ms) call =
      (sipeMediaSessionReadyCb env s call).map (·.withMedias ms) := by
  simp only [sipeMediaSessionReadyCb, h]
  split
  · rfl
  · cases call.sdpResponse with
    | some body => dsimp only; split <;> (try split) <;> rfl
    | none =>
      dsimp only
      cases sipeMediaCreateSdp env.localIp (s.mediaState call.media) call false
      · rfl
      · dsimp only [bind, Except.bind]; split <;> (try split) <;> rfl

theorem streamInfoBody_frame (type : InfoType) (isLocal : Bool)
    (h : ∀ c ∈ s.mediaCall, (s.withMedias ms).mediaState c.media = s.mediaState c.media) :
    streamInfoBody env (fun s _ => .ok s) (s.withMedias ms) type isLocal =
      (streamInfoBody env (fun s _ => .ok s) s type isLocal).map (·.withMedias ms) := by
  cases hc : s.mediaCall with
  | none =>
    cases type <;> simp only [streamInfoBody, liveCall, Sys.withMedias_mediaCall, hc] <;> rfl
  | some call =>
    have hcall := h call hc
    cases type <;>
      simp only [streamInfoBody, liveCall, Sys.withMedias_mediaCall, hc, bind, Except.bind]
    case accept => exact sipeMediaSessionReadyCb_frame env hcall
    case hold | unhold =>
      split
      · rfl
      · rw [Sys.setCall_withMedias, notifyStateChange_frame env (s := s.setCall _) isLocal ?_]
        · cases notifyStateChange env _ _ isLocal <;> rfl
        · exact hcall
    case hangup => cases isLocal <;> rfl
    all_goals rfl

theorem sipeMediaStreamInfoCb_frame (type : InfoType) (isLocal : Bool)
    (h : ∀ c ∈ s.mediaCall, (s.withMedias ms).mediaState c.media = s.mediaState c.media) :
    sipeMediaStreamInfoCb env (s.withMedias ms) type isLocal =
      (sipeMediaStreamInfoCb env s type isLocal).map (·.withMedias ms) := by
  rw [sipeMediaStreamInfoCb_eq_body, sipeMediaStreamInfoCb_eq_body]
  exact streamInfoBody_frame env type isLocal h

theorem streamInfoOnCall_frame (type : InfoType)
    (h : ∀ c ∈ s.mediaCall, (s.withMedias ms).mediaState c.media = s.mediaState c.media) :
    streamInfoOnCall env type (s.withMedias ms) =
      (streamInfoOnCall env type s).map (·.withMedias ms) := by
  unfold streamInfoOnCall
  rw [Sys.withMedias_mediaCall]
  split
  · exact sipeMediaStreamInfoCb_frame env type false h
  · rfl

theorem candidatesPreparedCb_frame (m : Nat)
    (h : ∀ c ∈ s.mediaCall, (s.withMedias ms).mediaState c.media = s.mediaState c.media) :
    candidatesPreparedCb env (s.withMedias ms) m =
      (candidatesPreparedCb env s m).map (·.withMedias ms) := by
  unfold candidatesPreparedCb
  rw [Sys.withMedias_mediaCall]
  split
  · split
    · exact sipeMediaSessionReadyCb_frame env (h _ ‹_›)
    · rfl
  · rfl

theorem reinvite_frame {call : SipeMediaCall} {msg : SipMsg} (hc : s.mediaCall = some call)
    (h : ∀ c ∈ s.mediaCall, (s.withMedias ms).mediaState c.media = s.mediaState c.media) :
    reinvite env (s.withMedias ms) call msg = (reinvite env s call msg).map (·.withMedias ms) := by
  have hcall := h call hc
  simp only [reinvite, bind, Except.bind]
  cases hp : sipeMediaParseSdpFrame { call with invitation := msg.id, sdpAttrs := [] } msg.body with
  | error => rfl
  | ok r =>
    obtain ⟨ok, call1⟩ := r
    obtain ⟨attrs, ip, port, rfl⟩ := sipeMediaParseSdpFrame_update hp
    have hlive : ∀ c' : SipeMediaCall, c'.media = call.media → ∀ c ∈ (s.setCall c').mediaCall,
        ((s.setCall c').withMedias ms).mediaState c.media = (s.setCall c').mediaState c.media :=
      fun c' hm c hc' => by cases Option.mem_some_iff.mp hc'; rw [hm]; exact hcall
    simp only [Sys.setCall_withMedias, sipeMediaHold, sipeMediaUnhold, apply_ite (Except.map _)]
    refine ite_congr rfl (fun _ => streamInfoOnCall_frame env .hold (hlive _ rfl)) fun _ => ?_
    refine ite_congr rfl (fun _ => streamInfoOnCall_frame env .hold (hlive _ rfl)) fun _ => ?_
    refine ite_congr rfl (fun _ => streamInfoOnCall_frame env .unhold (hlive _ rfl)) fun _ => ?_
    rw [Sys.mediaState_withMedias] at hcall
    simp only [Sys.mediaState_setCall, Sys.mediaState_withMedias, hcall]
    split
    · rfl
    · split <;> rfl

theorem newCall_frame {msg : SipMsg} (fresh : MediaState) (hlen : ms.length = s.medias.length) :
    newCall (s.withMedias ms) msg fresh =
      (newCall s msg fresh).map (·.withMedias (ms ++ [fresh])) := by
  simp only [newCall, bind, Except.bind, Sys.withMedias_medias, hlen]
  split
  · rfl
  · split
    · rfl
    · split
      · rfl
      · dsimp only
        split <;> rfl

end Frame

/-! ## Sessions no call uses -/

/-- `t` is the account `s` but for what media session `m` reports, where `m` exists and no live
call uses it. -/
structure StaleTwin (m : Nat) (s t : Sys) : Prop where
  mediaCall : t.mediaCall = s.mediaCall
  sent : t.sent = s.sent
  length : t.medias.length = s.medias.length
  stale : m < s.medias.length
  others : ∀ i, i ≠ m → t.medias[i]? = s.medias[i]?
  unused : ∀ c ∈ s.mediaCall, c.media ≠ m

/-- Two outcomes of one event: both fault alike, or both succeed in states related by `R`. -/
def Outcomes (R : Sys → Sys → Prop) : Except Fault Sys → Except Fault Sys → Prop
  | .error f, .error g => f = g
  | .ok s, .ok t => R s t
  | _, _ => False

section Stale

variable {env : Env} {m : Nat} {s t : Sys}

theorem StaleTwin.eq (h : StaleTwin m s t) : t = s.withMedias t.medias := by
  cases t
  cases h.mediaCall
  cases h.sent
  rfl

theorem StaleTwin.readsAlike (h : StaleTwin m s t) : s.ReadsAlike t.medias :=
  ⟨h.length, fun c hc => by
    simp only [Sys.mediaState_withMedias, Sys.mediaState, List.getD_eq_getElem?_getD,
      Sys.withMedias_medias, h.others _ (h.unused c hc)]⟩

/-- The live call after a step is not on `m`: it is the call before, or a new call on a new
session. -/
theorem StaleTwin.unused_step {e : Event} {s' : Sys} (h : StaleTwin m s t)
    (hs : step env s e = .ok s') : ∀ c' ∈ s'.mediaCall, c'.media ≠ m := by
  intro c' hc'
  rcases step_persists_or_starts hs with ⟨-, hp⟩ | ⟨msg, fresh, -, -, -, hst⟩
  · obtain ⟨c, hc, hcc⟩ := hp c' hc'
    rw [hcc.media]
    exact h.unused c hc
  · rw [(hst c' hc').media]
    exact Nat.ne_of_gt h.stale

/-- A handler that keeps the sessions and reads none but the live call's takes twins to
twins. -/
theorem StaleTwin.keep {H : Sys → Except Fault Sys} (h : StaleTwin m s t)
    (hframe : ∀ ms, s.ReadsAlike ms → H (s.withMedias ms) = (H s).map (·.withMedias ms))
    (hunused : ∀ s', H s = .ok s' → ∀ c' ∈ s'.mediaCall, c'.media ≠ m) :
    Outcomes (StaleTwin m) (H s) (H t) := by
  have hkeep : H s = (H s).map (·.withMedias s.medias) := hframe s.medias (.refl s)
  rw [h.eq, hframe _ h.readsAlike]
  cases hs : H s with
  | error f => rfl
  | ok s' =>
    rw [hs] at hkeep
    have hs' : s' = s'.withMedias s.medias := Except.ok.inj hkeep
    have hm : s'.medias = s.medias := (congrArg Sys.medias hs').trans rfl
    exact ⟨rfl, rfl, hm ▸ h.length, hm ▸ h.stale, hm ▸ h.others, hunused s' hs⟩

theorem StaleTwin.engine (h : StaleTwin m s t) (m' : Nat) (r : MediaState) :
    Outcomes (StaleTwin m) (step env s (.engine m' r)) (step env t (.engine m' r)) := by
  refine ⟨h.mediaCall, h.sent, by simp [h.length], by simpa using h.stale, fun i hi => ?_, h.unused⟩
  simp only [step, List.getElem?_set, h.length, h.others i hi]

theorem StaleTwin.invite_of_none {msg : SipMsg} {fresh : MediaState} (h : StaleTwin m s t)
    (hc : s.mediaCall = none) :
    Outcomes (StaleTwin m) (step env s (.invite msg fresh)) (step env t (.invite msg fresh)) := by
  have hkeep : newCall s msg fresh = (newCall s msg fresh).map (·.withMedias (s.medias ++ [fresh])) :=
    newCall_frame fresh rfl
  have hunused : ∀ s', step env s (.invite msg fresh) = .ok s' → ∀ c' ∈ s'.mediaCall,
      c'.media ≠ m := fun _ hs => h.unused_step hs
  rw [h.eq]
  simp only [step, sipeMediaIncomingInvite, Sys.withMedias_mediaCall, hc] at hunused ⊢
  rw [newCall_frame fresh h.length]
  cases hs : newCall s msg fresh with
  | error f => rfl
  | ok s' =>
    rw [hs] at hkeep
    have hs' : s' = s'.withMedias (s.medias ++ [fresh]) := Except.ok.inj hkeep
    have hm : s'.medias = s.medias ++ [fresh] := (congrArg Sys.medias hs').trans rfl
    refine ⟨rfl, rfl, by simp [hm, h.length], by simpa [hm] using Nat.lt_succ_of_lt h.stale,
      fun i hi => ?_, hunused s' hs⟩
    show (t.medias ++ [fresh])[i]? = s'.medias[i]?
    rw [hm]
    rcases Nat.lt_or_ge i s.medias.length with hi' | hi'
    · rw [List.getElem?_append_left hi', List.getElem?_append_left (by rwa [h.length]),
        h.others i hi]
    · rw [List.getElem?_append_right hi', List.getElem?_append_right (by rwa [h.length]),
        h.length]

/-- One event takes twins to twins: what session `m` reports does not change what the event
does. -/
theorem step_staleTwin (h : StaleTwin m s t) (e : Event) :
    Outcomes (StaleTwin m) (step env s e) (step env t e) := by
  have keep := fun hframe => h.keep (H := fun s => step env s e) hframe
    (fun _ hs => h.unused_step hs)
  cases e with
  | invite msg fresh =>
    cases hc : s.mediaCall with
    | none => exact h.invite_of_none hc
    | some call =>
      refine keep fun ms hr => ?_
      simp only [step, sipeMediaIncomingInvite, Sys.withMedias_mediaCall, hc]
      split
      · exact reinvite_frame env hc hr.live
      · rfl
  | streamInfo m' type isLocal =>
    refine keep fun ms hr => ?_
    simp only [step, Sys.withMedias_medias, hr.length]
    split
    · exact sipeMediaStreamInfoCb_frame env type isLocal hr.live
    · rfl
  | candidatesPrepared m' =>
    refine keep fun ms hr => ?_
    simp only [step, Sys.withMedias_medias, hr.length]
    split
    · exact candidatesPreparedCb_frame env m' hr.live
    · rfl
  | hold => exact keep fun ms hr => streamInfoOnCall_frame env .hold hr.live
  | unhold => exact keep fun ms hr => streamInfoOnCall_frame env .unhold hr.live
  | hangup => exact keep fun ms hr => streamInfoOnCall_frame env .hangup hr.live
  | engine m' r => exact h.engine m' r

/-- A whole run takes twins to twins. -/
theorem run_staleTwin (h : StaleTwin m s t) (es : List Event) :
    Outcomes (StaleTwin m) (run env s es) (run env t es) := by
  induction es generalizing s t with
  | nil => exact h
  | cons e es ih =>
    have hstep : Outcomes (StaleTwin m) (step env s e) (step env t e) := step_staleTwin h e
    simp only [run, bind, Except.bind]
    cases hs : step env s e <;> cases ht : step env t e <;> rw [hs, ht] at hstep
    · exact hstep
    all_goals first | exact hstep.elim | exact ih hstep

end Stale

/-- Whatever a media session that no live call uses reports (its codecs, candidates, and whether
it is prepared and accepted), the account does the same over any sequence of events: the same
calls, the same messages to the peer and to the engine, and the same faults. -/
theorem stale_session_reports_ignored {env : Env} {s : Sys} {m : Nat} (hm : m < s.medias.length)
    (hu : ∀ c ∈ s.mediaCall, c.media ≠ m) (report : MediaState) (es : List Event) :
    (run env { s with medias := s.medias.set m report } es).map (fun t => (t.mediaCall, t.sent)) =
      (run env s es).map (fun t => (t.mediaCall, t.sent)) := by
  have h : StaleTwin m s { s with medias := s.medias.set m report } :=
    ⟨rfl, rfl, List.length_set .., hm, fun i hi => List.getElem?_set_ne (Ne.symm hi), hu⟩
  have hrun : Outcomes (StaleTwin m) (run env s es)
      (run env { s with medias := s.medias.set m report } es) := run_staleTwin h es
  cases hs : run env s es <;> cases ht : run env { s with medias := s.medias.set m report } es <;>
    rw [hs, ht] at hrun
  · cases hrun; rfl
  all_goals first
    | exact hrun.elim
    | simp only [Except.map, hrun.mediaCall, hrun.sent]

/-- The session of a call that has ended reports ready and accepted; then an INVITE arrives and
the user holds the new call. -/
theorem stale_session_reports_ignored_ended :
    let s : Sys := ⟨none, [engine0], []⟩
    0 < s.medias.length ∧ (∀ c ∈ s.mediaCall, c.media ≠ 0) ∧
      (run env0 { s with medias := s.medias.set 0 ready0 }
          [.invite (inviteMsg 1 legacyOffer) engine0, .hold]).map
          (fun t => (t.mediaCall, t.sent)) =
        (run env0 s [.invite (inviteMsg 1 legacyOffer) engine0, .hold]).map
          (fun t => (t.mediaCall, t.sent)) :=
  ⟨by decide, fun _ hc => absurd hc (Option.not_mem_none _),
    stale_session_reports_ignored (by decide) (fun _ hc => absurd hc (Option.not_mem_none _)) _ _⟩

end SipeMedia.Call
