import SipeMedia.Call.Lifetime

/-!
# What the account sends

Every SIP message the account sends belongs to the dialog of an INVITE it received: a response
answers one (`send_sip_response` on `call->invitation` or on the INVITE being handled), a request
(the re-INVITE of `sipe_invite_call`, the BYE of the hangup branch) goes to one's sender
(`dialog->with`). Once a call has ended, a run of events up to the next INVITE either sends
nothing and starts no call, or faults at its first signal that would act on the dead call: a
`stream-info` on the `NULL` call, or a `candidates-prepared` on the freed one.
-/

namespace SipeMedia.Call

open SipeMedia.Base SipeMedia.Sdp SipeMedia.Purple

/-! ## The dialogs of received INVITEs -/

/-- The INVITEs among a list of events. -/
def invitesOf (es : List Event) : List SipMsg :=
  es.filterMap fun
    | .invite msg _ => some msg
    | _ => none

theorem mem_invitesOf {es : List Event} {msg : SipMsg} {fresh : MediaState}
    (he : .invite msg fresh ∈ es) : msg ∈ invitesOf es :=
  List.mem_filterMap.mpr ⟨_, he, rfl⟩

/-- The message `o` belongs to the dialog of one of the INVITEs `msgs`: a response answers one,
a request goes to one's sender. Commands to the media engine are no SIP messages. -/
def Out.OfDialogs (msgs : List SipMsg) : Out → Prop
  | .response id _ _ _ => ∃ msg ∈ msgs, msg.id = id
  | .request _ target _ _ => ∃ msg ∈ msgs, msg.sender = target
  | _ => True

/-- The call `c` was started or re-invited by INVITEs among `msgs`: its pending invitation is
one of them, its peer the sender of one. -/
def SipeMediaCall.OfDialogs (msgs : List SipMsg) (c : SipeMediaCall) : Prop :=
  (∃ msg ∈ msgs, msg.id = c.invitation) ∧ ∃ msg ∈ msgs, msg.sender = c.dialogWith

/-- The live call, and everything sent, belong to the dialogs of the INVITEs `msgs`. -/
def InDialogs (msgs : List SipMsg) (s : Sys) : Prop :=
  (∀ c ∈ s.mediaCall, c.OfDialogs msgs) ∧ ∀ o ∈ s.sent, o.OfDialogs msgs

section Dialogs

variable {msgs : List SipMsg}

theorem inDialogs_init : InDialogs msgs .init :=
  ⟨fun _ hc => absurd hc (Option.not_mem_none _), fun _ ho => absurd ho (List.not_mem_nil _)⟩

theorem SipeMediaCall.OfDialogs.dialogue {c : SipeMediaCall} {o : Out} (hc : c.OfDialogs msgs)
    (ho : c.Dialogue o) : o.OfDialogs msgs := by
  rcases ho with ⟨_, _, _, rfl⟩ | ⟨_, _, _, rfl⟩
  exacts [hc.1, hc.2]

theorem Sys.Signals.inDialogs {s s' : Sys} (h : s.Signals s') (hs : InDialogs msgs s) :
    InDialogs msgs s' := by
  obtain ⟨-, hc, new, hsent, hnew⟩ := h
  refine ⟨fun c' hc' => ?_, fun o ho => ?_⟩
  · obtain ⟨c, h0, hst⟩ := hc c' hc'
    rw [SipeMediaCall.OfDialogs, hst.invitation, hst.dialogWith]
    exact hs.1 c h0
  · rcases List.mem_append.mp (hsent ▸ ho) with ho | ho
    · exact hs.2 o ho
    · obtain ⟨c, h0, hd⟩ := hnew o ho
      exact (hs.1 c h0).dialogue hd

/-- A step of a run keeps everything in the dialogs of the run's INVITEs. -/
theorem step_inDialogs {env : Env} {es : List Event} {s s' : Sys} {e : Event} (he : e ∈ es)
    (h : step env s e = .ok s') (hs : InDialogs (invitesOf es) s) :
    InDialogs (invitesOf es) s' := by
  rcases step_cases h with hsig | ⟨msg, fresh, call, rfl, hc, call1, hp, hinv, -, hr⟩ |
    ⟨msg, fresh, rfl, -, _, _, -, hopen⟩
  · exact hsig.inDialogs hs
  · -- a re-INVITE: the call takes it as its pending invitation
    have hid : ∃ m ∈ invitesOf es, m.id = msg.id := ⟨msg, mem_invitesOf he, rfl⟩
    have hcall1 : call1.OfDialogs (invitesOf es) :=
      ⟨hinv ▸ hid, hp.dialogWith ▸ (hs.1 call hc).2⟩
    rcases hr with hsig | ⟨codecs, rsp, rfl⟩
    · exact hsig.inDialogs ⟨fun c h1 => Option.mem_some_iff.mp h1 ▸ hcall1, hs.2⟩
    · refine ⟨fun c h1 => Option.mem_some_iff.mp h1 ▸ hcall1, fun o ho => ?_⟩
      simp only [Sys.send_sent, Sys.setCall_sent, List.mem_append, List.mem_singleton] at ho
      rcases ho with (ho | rfl) | rfl
      exacts [hs.2 o ho, trivial, hid]
  · -- an INVITE with no call: the call it opens, if kept, is in its dialog
    have hid : ∃ m ∈ invitesOf es, m.id = msg.id := ⟨msg, mem_invitesOf he, rfl⟩
    rcases hopen with ⟨hc', hsent⟩ | ⟨c', hc', hst, -, -, hsent⟩
    · refine ⟨fun c h1 => by simp [hc'] at h1, ?_⟩
      rw [hsent, List.forall_mem_append]
      refine ⟨hs.2, fun o ho => ?_⟩
      simp only [List.mem_cons, List.not_mem_nil, or_false] at ho
      rcases ho with rfl | rfl <;> trivial
    · refine ⟨fun c h1 => ?_, ?_⟩
      · rw [hc', Option.mem_some_iff] at h1
        exact h1 ▸ ⟨hst.invitation ▸ hid, ⟨msg, mem_invitesOf he, hst.dialogWith.symm⟩⟩
      · rw [hsent, List.forall_mem_append]
        refine ⟨hs.2, fun o ho => ?_⟩
        simp only [List.mem_cons, List.not_mem_nil, or_false] at ho
        rcases ho with rfl | rfl | rfl | rfl
        exacts [trivial, trivial, trivial, hid]

end Dialogs

/-- Every SIP message the account sends along a run belongs to the dialog of an INVITE of that
run: each response answers one, and each request (a re-INVITE or a BYE) goes to one's sender. -/
theorem sent_in_received_dialogs {env : Env} {es : List Event} {s : Sys}
    (h : run env .init es = .ok s) :
    (∀ id code reason body, .response id code reason body ∈ s.sent →
      ∃ msg ∈ invitesOf es, msg.id = id) ∧
    (∀ method target headers body, .request method target headers body ∈ s.sent →
      ∃ msg ∈ invitesOf es, msg.sender = target) := by
  have hd : InDialogs (invitesOf es) s :=
    run_invariant_of_mem (fun _ _ _ he h => step_inDialogs he h) h inDialogs_init
  exact ⟨fun _ _ _ _ ho => hd.2 _ ho, fun _ _ _ _ ho => hd.2 _ ho⟩

/-- The legacy INVITE answered: its 180 Ringing and its 200 OK answer it. -/
theorem sent_in_received_dialogs_answered :
    ∃ s, run env0 .init (answered legacyOffer) = .ok s ∧
      (∀ id code reason body, .response id code reason body ∈ s.sent →
        ∃ msg ∈ invitesOf (answered legacyOffer), msg.id = id) ∧
      (∀ method target headers body, .request method target headers body ∈ s.sent →
        ∃ msg ∈ invitesOf (answered legacyOffer), msg.sender = target) := by
  obtain ⟨s, h⟩ : ∃ s, run env0 .init (answered legacyOffer) = .ok s := by
    set_option maxRecDepth 100000 in exact ⟨_, rfl⟩
  exact ⟨s, h, sent_in_received_dialogs h⟩

/-! ## After the call ends -/

/-- The fault an event meets when no call is live and `n` media sessions exist: a `stream-info`
of an existing session whose branch reads `sip->media_call` (accept, reject, hold, unhold,
hangup, lines 517–549) dereferences `NULL`, and a `candidates-prepared` runs
`sipe_media_session_ready_cb` on the call it was connected with (lines 728–729), freed since.
The user's hold, unhold and hangup test for a call first (lines 639–651, 775–781); the other
events meet none. -/
def deadCallFault (n : Nat) : Event → Option Fault
  | .streamInfo m type _ =>
    match type with
    | .accept | .reject | .hold | .unhold | .hangup => if m < n then some .nullCall else none
    | _ => none
  | .candidatesPrepared m => if m < n then some .freedCall else none
  | _ => none

section Ended

variable {env : Env} {s : Sys}

/-- An event that meets a fault with no call live faults with it. -/
theorem step_of_deadCallFault (hs : s.mediaCall = none) {e : Event} {f : Fault}
    (h : deadCallFault s.medias.length e = some f) : step env s e = .error f := by
  have hl : liveCall s = .error .nullCall := by rw [liveCall, hs]
  cases e with
  | streamInfo m type isLocal =>
    by_cases hm : m < s.medias.length
    · cases type <;> simp only [deadCallFault, if_pos hm, Option.some.injEq, reduceCtorEq] at h <;>
        subst h <;> simp only [step, if_pos hm, sipeMediaStreamInfoCb, streamInfoBody, hl] <;> rfl
    · cases type <;> simp only [deadCallFault, if_neg hm, reduceCtorEq] at h
  | candidatesPrepared m =>
    by_cases hm : m < s.medias.length
    · simp only [deadCallFault, if_pos hm, Option.some.injEq] at h
      simp only [step, if_pos hm, candidatesPreparedCb, hs, h]
    · simp only [deadCallFault, if_neg hm, reduceCtorEq] at h
  | _ => simp only [deadCallFault, reduceCtorEq] at h

/-- Every other event but an INVITE leaves no call live, sends nothing and creates no session. -/
theorem step_of_deadCallFault_none (hs : s.mediaCall = none) {e : Event}
    (he : ∀ msg fresh, e ≠ .invite msg fresh) (h : deadCallFault s.medias.length e = none) :
    ∃ t, step env s e = .ok t ∧ t.mediaCall = none ∧ t.sent = s.sent ∧
      t.medias.length = s.medias.length := by
  cases e with
  | invite msg fresh => exact absurd rfl (he msg fresh)
  | streamInfo m type isLocal =>
    refine ⟨s, ?_, hs, rfl, rfl⟩
    by_cases hm : m < s.medias.length
    · cases type <;> simp only [deadCallFault, if_pos hm, reduceCtorEq] at h <;>
        simp only [step, if_pos hm] <;> rfl
    · simp only [step, if_neg hm]
  | candidatesPrepared m =>
    have hm : ¬ m < s.medias.length := fun hm => by
      simp only [deadCallFault, if_pos hm, reduceCtorEq] at h
    exact ⟨s, by simp only [step, if_neg hm], hs, rfl, rfl⟩
  | hold | unhold | hangup =>
    exact ⟨s, by simp only [step, sipeMediaHold, sipeMediaUnhold, sipeMediaHangup,
      streamInfoOnCall, hs], hs, rfl, rfl⟩
  | engine m report => exact ⟨_, rfl, hs, rfl, List.length_set _ _ _⟩

end Ended

/-- Once no call is live (before the first INVITE, or after a hangup, a reject or a discarded
INVITE), a run of events other than INVITEs ends as its first event that meets the dead call
says: it faults there, on the `NULL` call or the freed one, and if there is none it sends
nothing, starts no call and creates no session. A hold, an unhold or a hangup of the user, an
engine report, or a signal that needs no call acts on no dialog; every signal that would act
on the dead call's dialog faults instead. -/
theorem ended_call_stays_silent {env : Env} {s : Sys} {es : List Event}
    (hs : s.mediaCall = none) (he : ∀ e ∈ es, ∀ msg fresh, e ≠ .invite msg fresh) :
    (run env s es).map (fun t => (t.mediaCall, t.sent, t.medias.length)) =
      match es.findSome? (deadCallFault s.medias.length) with
      | some f => .error f
      | none => .ok (none, s.sent, s.medias.length) := by
  induction es generalizing s with
  | nil => simp only [run, Except.map, hs, List.findSome?_nil]
  | cons e es ih =>
    obtain ⟨he1, hes⟩ := List.forall_mem_cons.mp he
    rw [List.findSome?_cons]
    cases hf : deadCallFault s.medias.length e with
    | some f => rw [run, step_of_deadCallFault hs hf]; rfl
    | none =>
      obtain ⟨t, ht, htc, hts, htl⟩ := step_of_deadCallFault_none hs he1 hf
      have hrest := ih htc hes
      rw [hts, htl] at hrest
      rw [run, ht]
      exact hrest

/-- An offer of PCMA only to an engine with PCMU is discarded (line 758). Then the user's hold
and hangup and an engine report are silent, and the session's `candidates-prepared` signal,
which would have answered the INVITE, runs on the freed call. -/
theorem ended_call_stays_silent_pcma :
    ∃ s1, step env0 .init (.invite (inviteMsg 0 pcmaOffer) engine0) = .ok s1 ∧
      s1.mediaCall = none ∧
      (∀ e ∈ [Event.hold, .hangup, .engine 0 ready0, .candidatesPrepared 0], ∀ msg fresh,
        e ≠ .invite msg fresh) ∧
      (run env0 s1 [.hold, .hangup, .engine 0 ready0, .candidatesPrepared 0]).map
        (fun t => (t.mediaCall, t.sent, t.medias.length)) = .error .freedCall := by
  obtain ⟨s1, h1, hd, hlen⟩ : ∃ s1, step env0 .init (.invite (inviteMsg 0 pcmaOffer) engine0) =
      .ok s1 ∧ s1.mediaCall = none ∧ s1.medias.length = 1 := by
    set_option maxRecDepth 100000 in exact ⟨_, rfl, rfl, rfl⟩
  have he : ∀ e ∈ [Event.hold, .hangup, .engine 0 ready0, .candidatesPrepared 0], ∀ msg fresh,
      e ≠ .invite msg fresh := by
    intro e he msg fresh
    simp only [List.mem_cons, List.not_mem_nil, or_false] at he
    rcases he with rfl | rfl | rfl | rfl <;> exact Event.noConfusion
  refine ⟨s1, h1, hd, he, ?_⟩
  rw [ended_call_stays_silent hd he, hlen]
  rfl

end SipeMedia.Call
