import SipeMedia.Call.Runs

/-!
# What a call keeps for its lifetime

Every handler of `src/core/sipe-media.c` either keeps `sip->media_call`, changing its state,
invitation, attribute set or codecs but never its media session or `legacy_mode`, or ends it.
Only `sipe_media_incoming_invite` with no call active installs a call, on the media session
it creates for it (lines 718–768). A call is therefore known by its media session, and
`legacy_mode`, written once by `sipe_media_call_init` (lines 633–635), is a latch for the
whole life of the call.
-/

namespace SipeMedia.Call

open SipeMedia.Base SipeMedia.Sdp SipeMedia.Purple

/-! ## The call's lifecycle -/

/-- The moves the handlers make of a live call's state: it stays, or becomes RUNNING (the ready
callback, an unhold) or HELD (a hold). No handler sets CONNECTING or FINISHED on a call that
stays live. -/
def CallState.Advances (a b : CallState) : Prop := b = a ∨ b = .running ∨ b = .held

instance instDecidableAdvances (a b : CallState) : Decidable (a.Advances b) :=
  inferInstanceAs (Decidable (_ ∨ _))

namespace CallState.Advances

theorem refl (a : CallState) : a.Advances a := .inl rfl

theorem trans {a b c : CallState} (h : a.Advances b) (h' : b.Advances c) : a.Advances c := by
  rcases h' with rfl | h' | h'
  · exact h
  · exact .inr (.inl h')
  · exact .inr (.inr h')

/-- A state that is not `st` is never entered again once left, for `st` CONNECTING or
FINISHED. -/
theorem ne_of_ne {a b st : CallState} (h : a.Advances b) (hst : st = .connecting ∨ st = .finished)
    (ha : a ≠ st) : b ≠ st := by
  rcases h with rfl | rfl | rfl <;> rcases hst with rfl | rfl <;> first | exact ha | decide

end CallState.Advances

/-- What every handler keeps of the live call: its media session and its legacy mode. -/
structure SipeMediaCall.Continues (c c' : SipeMediaCall) : Prop where
  media : c'.media = c.media
  legacyMode : c'.legacyMode = c.legacyMode

theorem SipeMediaCall.Continues.refl (c : SipeMediaCall) : c.Continues c := ⟨rfl, rfl⟩

theorem SipeMediaCall.Continues.trans {c c' c'' : SipeMediaCall} (h : c.Continues c')
    (h' : c'.Continues c'') : c.Continues c'' :=
  ⟨h'.media.trans h.media, h'.legacyMode.trans h.legacyMode⟩

/-- What the live call keeps while it lives, beyond `Continues`: the dialog it belongs to
(Call-ID and peer), the remote candidates resolved from the INVITE that created it (a re-INVITE
re-parses the attribute set but never calls `sipe_media_parse_remote_candidates`), its memoized
`sdp_response` once made, and a state that only advances. -/
structure SipeMediaCall.Persists (c c' : SipeMediaCall) extends SipeMediaCall.Continues c c' :
    Prop where
  callId : c'.callId = c.callId
  dialogWith : c'.dialogWith = c.dialogWith
  remoteCandidates : c'.remoteCandidates = c.remoteCandidates
  sdpResponse : ∀ body, c.sdpResponse = some body → c'.sdpResponse = some body
  state : c.state.Advances c'.state

namespace SipeMediaCall

theorem Persists.refl (c : SipeMediaCall) : c.Persists c :=
  ⟨.refl c, rfl, rfl, rfl, fun _ h => h, .refl _⟩

theorem Persists.trans {c c' c'' : SipeMediaCall} (h : c.Persists c') (h' : c'.Persists c'') :
    c.Persists c'' :=
  ⟨h.toContinues.trans h'.toContinues, h'.callId.trans h.callId, h'.dialogWith.trans h.dialogWith,
    h'.remoteCandidates.trans h.remoteCandidates, fun b hb => h'.sdpResponse b (h.sdpResponse b hb),
    h.state.trans h'.state⟩

/-- Rewriting what an offer brings (the invitation, the attribute set, the remote address and
the remote codecs) keeps the call. -/
theorem persists_offer (c : SipeMediaCall) (invitation : Nat) (attrs : List Attr)
    (ip : Option (List Char)) (port : UInt16) (codecs : List Codec) :
    c.Persists { c with invitation := invitation, sdpAttrs := attrs, remoteIp := ip,
                        remotePort := port, remoteCodecs := codecs } :=
  ⟨⟨rfl, rfl⟩, rfl, rfl, rfl, fun _ h => h, .refl _⟩

/-- Setting the call RUNNING or HELD keeps it. -/
theorem persists_state (c : SipeMediaCall) {st : CallState} (h : st = .running ∨ st = .held) :
    c.Persists { c with state := st } :=
  ⟨⟨rfl, rfl⟩, rfl, rfl, rfl, fun _ h => h, .inr h⟩

end SipeMediaCall

/-- A transition that keeps the account's media sessions, and keeps the live call or ends it. -/
def Sys.Keeps (s s' : Sys) : Prop :=
  s'.medias.length = s.medias.length ∧ ∀ c' ∈ s'.mediaCall, ∃ c ∈ s.mediaCall, c.Continues c'

/-- A transition that creates one media session and, if it installs a call, installs it on
that session, with `legacy_mode` set exactly when its offer's candidate lines kept none. -/
def Sys.Creates (s s' : Sys) : Prop :=
  s'.medias.length = s.medias.length + 1 ∧ ∀ c' ∈ s'.mediaCall, c'.media = s.medias.length ∧
    (c'.legacyMode = true ↔
      collectInstances parseCandidateAttr (instances c'.sdpAttrs "candidate".toList) = .ok [])

/-- A transition that keeps the account's media sessions, and keeps the live call as the same
call or ends it. -/
def Sys.Persists (s s' : Sys) : Prop :=
  s'.medias.length = s.medias.length ∧ ∀ c' ∈ s'.mediaCall, ∃ c ∈ s.mediaCall, c.Persists c'

/-- The call `sipe_media_incoming_invite` installs for the INVITE `msg` on the media session `m`
it creates: the INVITE's Call-ID, sender and id, CONNECTING with no answer made yet, and a
remote candidate and a remote codec (the test of line 758). -/
structure SipeMediaCall.StartsFrom (msg : SipMsg) (m : Nat) (c : SipeMediaCall) : Prop where
  media : c.media = m
  callId : c.callId = msg.callId
  dialogWith : c.dialogWith = msg.sender
  invitation : c.invitation = msg.id
  state : c.state = .connecting
  sdpResponse : c.sdpResponse = none
  remoteCandidates : c.remoteCandidates ≠ []
  remoteCodecs : c.remoteCodecs ≠ []

/-- A transition that adds the media session `fresh` and installs, if any, a call started by
`msg` on it. -/
def Sys.Starts (msg : SipMsg) (fresh : MediaState) (s s' : Sys) : Prop :=
  s'.medias = s.medias ++ [fresh] ∧ ∀ c' ∈ s'.mediaCall, c'.StartsFrom msg s.medias.length

namespace Sys

theorem Persists.refl (s : Sys) : s.Persists s :=
  ⟨rfl, fun c hc => ⟨c, hc, .refl c⟩⟩

theorem Persists.trans {s s' s'' : Sys} (h : s.Persists s') (h' : s'.Persists s'') :
    s.Persists s'' :=
  ⟨h'.1.trans h.1, fun c'' hc'' =>
    let ⟨c', hc', h2⟩ := h'.2 c'' hc''
    let ⟨c, hc, h1⟩ := h.2 c' hc'
    ⟨c, hc, h1.trans h2⟩⟩

theorem Persists.keeps {s s' : Sys} (h : s.Persists s') : s.Keeps s' :=
  ⟨h.1, fun c' hc' =>
    let ⟨c, hc, hp⟩ := h.2 c' hc'
    ⟨c, hc, hp.toContinues⟩⟩

theorem persists_setCall {s : Sys} {c c' : SipeMediaCall} (hc : s.mediaCall = some c)
    (h : c.Persists c') : s.Persists (s.setCall c') :=
  ⟨rfl, fun _ h' => ⟨c, hc, Option.mem_some_iff.mp h' ▸ h⟩⟩

end Sys

/-! ## What a step sends -/

/-- A message of the dialog of the call `c`: a response to its pending invitation or a request to
its peer. -/
def SipeMediaCall.Dialogue (c : SipeMediaCall) (o : Out) : Prop :=
  (∃ code reason body, o = .response c.invitation code reason body) ∨
    ∃ method headers body, o = .request method c.dialogWith headers body

/-- What the handlers other than `sipe_media_incoming_invite` do to the live call: it persists,
with the same pending invitation and remote codecs. -/
structure SipeMediaCall.Stays (c c' : SipeMediaCall) extends SipeMediaCall.Persists c c' :
    Prop where
  invitation : c'.invitation = c.invitation
  remoteCodecs : c'.remoteCodecs = c.remoteCodecs

namespace SipeMediaCall

theorem Stays.refl (c : SipeMediaCall) : c.Stays c := ⟨.refl c, rfl, rfl⟩

theorem Stays.trans {c c' c'' : SipeMediaCall} (h : c.Stays c') (h' : c'.Stays c'') :
    c.Stays c'' :=
  ⟨h.toPersists.trans h'.toPersists, h'.invitation.trans h.invitation,
    h'.remoteCodecs.trans h.remoteCodecs⟩

theorem Stays.dialogue {c c' : SipeMediaCall} {o : Out} (h : c.Stays c') (ho : c'.Dialogue o) :
    c.Dialogue o := by
  unfold Dialogue at ho ⊢
  rwa [h.invitation, h.dialogWith] at ho

theorem stays_state (c : SipeMediaCall) {st : CallState} (h : st = .running ∨ st = .held) :
    c.Stays { c with state := st } :=
  ⟨c.persists_state h, rfl, rfl⟩

end SipeMediaCall

/-- A transition that acts on the live call's dialog only: the media sessions stay, the live call
stays (or ends), and every message sent is of its dialog. -/
def Sys.Signals (s s' : Sys) : Prop :=
  s'.medias.length = s.medias.length ∧ (∀ c' ∈ s'.mediaCall, ∃ c ∈ s.mediaCall, c.Stays c') ∧
    ∃ new, s'.sent = s.sent ++ new ∧ ∀ o ∈ new, ∃ c ∈ s.mediaCall, c.Dialogue o

/-- A re-INVITE `msg` of the live call `call`: the call, re-parsed, takes `msg` as its pending
invitation; then the dialog is acted on, or the codecs are renegotiated and `msg` answered. -/
def Sys.Reinvites (msg : SipMsg) (call : SipeMediaCall) (s s' : Sys) : Prop :=
  ∃ call1, call.Persists call1 ∧ call1.invitation = msg.id ∧ call1.remoteCodecs = call.remoteCodecs ∧
    ((s.setCall call1).Signals s' ∨
      ∃ codecs rsp, s' = ((s.setCall { call1 with remoteCodecs := codecs }).send
        (.setRemoteCodecs call1.media codecs)).send (.response msg.id 200 "OK".toList (some rsp)))

/-- An INVITE `msg` with no call active: the session the engine reports is added and told its
transmitter and the remote candidates; then the call is discarded, or installed on that session
(whose transmitter is the one of its mode), its codecs set and `msg` answered with 180 Ringing. -/
def Sys.Opens (msg : SipMsg) (fresh : MediaState) (s s' : Sys) : Prop :=
  ∃ transmitter cands, s'.medias = s.medias ++ [fresh] ∧
    ((s'.mediaCall = none ∧ s'.sent = s.sent ++
        [.addStream s.medias.length transmitter, .addRemoteCandidates s.medias.length cands]) ∨
      ∃ c', s'.mediaCall = some c' ∧ c'.StartsFrom msg s.medias.length ∧
        c'.remoteCandidates = cands ∧
        transmitter = (if c'.legacyMode then "rawudp".toList else "nice".toList) ∧
        s'.sent = s.sent ++
          [.addStream s.medias.length transmitter, .addRemoteCandidates s.medias.length cands,
            .setRemoteCodecs s.medias.length c'.remoteCodecs,
            .response msg.id 180 "Ringing".toList none])

namespace Sys

theorem Signals.refl (s : Sys) : s.Signals s :=
  ⟨rfl, fun c hc => ⟨c, hc, .refl c⟩, [], by simp, by simp⟩

theorem Signals.trans {s s' s'' : Sys} (h : s.Signals s') (h' : s'.Signals s'') :
    s.Signals s'' := by
  obtain ⟨hl, hc, new, hs, hn⟩ := h
  obtain ⟨hl', hc', new', hs', hn'⟩ := h'
  refine ⟨hl'.trans hl, fun c'' h'' => ?_, new ++ new', by rw [hs', hs, List.append_assoc],
    fun o ho => ?_⟩
  · obtain ⟨c', h1, hst'⟩ := hc' c'' h''
    obtain ⟨c, h0, hst⟩ := hc c' h1
    exact ⟨c, h0, hst.trans hst'⟩
  · rcases List.mem_append.mp ho with ho | ho
    · exact hn o ho
    · obtain ⟨c', h1, hd⟩ := hn' o ho
      obtain ⟨c, h0, hst⟩ := hc c' h1
      exact ⟨c, h0, hst.dialogue hd⟩

theorem Signals.persists {s s' : Sys} (h : s.Signals s') : s.Persists s' :=
  ⟨h.1, fun c' hc' =>
    let ⟨c, hc, hst⟩ := h.2.1 c' hc'
    ⟨c, hc, hst.toPersists⟩⟩

theorem signals_send {s : Sys} {c : SipeMediaCall} {o : Out} (hc : s.mediaCall = some c)
    (ho : c.Dialogue o) : s.Signals (s.send o) :=
  ⟨rfl, fun c' hc' => ⟨c', hc', .refl c'⟩, [o], rfl,
    fun _ ho' => ⟨c, hc, List.mem_singleton.mp ho' ▸ ho⟩⟩

theorem signals_setCall {s : Sys} {c c' : SipeMediaCall} (hc : s.mediaCall = some c)
    (h : c.Stays c') : s.Signals (s.setCall c') :=
  ⟨rfl, fun _ h' => ⟨c, hc, Option.mem_some_iff.mp h' ▸ h⟩, [], by simp, by simp⟩

/-- Ending the call. -/
theorem signals_end (s : Sys) : s.Signals { s with mediaCall := none } :=
  ⟨rfl, fun _ h => absurd h (by simp), [], by simp, by simp⟩

theorem Reinvites.persists {msg : SipMsg} {call : SipeMediaCall} {s s' : Sys}
    (hc : s.mediaCall = some call) (h : s.Reinvites msg call s') : s.Persists s' := by
  obtain ⟨call1, hp, -, -, hs | ⟨codecs, rsp, rfl⟩⟩ := h
  · exact (persists_setCall hc hp).trans hs.persists
  · exact persists_setCall hc (hp.trans (call1.persists_offer _ _ _ _ _))

theorem Opens.starts {msg : SipMsg} {fresh : MediaState} {s s' : Sys}
    (h : s.Opens msg fresh s') : s.Starts msg fresh s' := by
  obtain ⟨-, -, hm, ⟨hc', -⟩ | ⟨c', hc', hst, -⟩⟩ := h
  · exact ⟨hm, fun _ hc => absurd hc (by simp [hc'])⟩
  · exact ⟨hm, fun _ hc => Option.some.inj (hc'.symm.trans hc) ▸ hst⟩

end Sys

section Handlers

variable {env : Env} {s s' : Sys}

theorem liveCall_eq_ok {c : SipeMediaCall} : liveCall s = .ok c ↔ s.mediaCall = some c := by
  unfold liveCall
  split <;> simp_all

/-- The parse rewrites at most the call's attribute set and remote address. -/
theorem sipeMediaParseSdpFrame_update {call call' : SipeMediaCall} {body : List Char}
    {ok : Bool} (h : sipeMediaParseSdpFrame call body = .ok (ok, call')) :
    ∃ attrs ip port, call' = { call with sdpAttrs := attrs, remoteIp := ip, remotePort := port } := by
  obtain ⟨r, -, h⟩ := bind_eq_ok.mp h
  cases r <;> cases h
  · exact ⟨call.sdpAttrs, call.remoteIp, call.remotePort, rfl⟩
  · exact ⟨_, _, _, rfl⟩

theorem sipeMediaSessionReadyCb_signals {call : SipeMediaCall} (hc : s.mediaCall = some call)
    (h : sipeMediaSessionReadyCb env s call = .ok s') : s.Signals s' := by
  simp only [sipeMediaSessionReadyCb] at h
  split at h
  · cases h; exact .refl s
  · obtain ⟨body, hb, h⟩ := bind_eq_ok.mp h
    have hmemo : call.Stays { call with sdpResponse := some body } :=
      ⟨⟨⟨rfl, rfl⟩, rfl, rfl, rfl, fun b hb' => by rw [hb'] at hb; cases hb; rfl, .refl _⟩, rfl,
        rfl⟩
    have hk := Sys.signals_setCall hc hmemo
    split at h
    · split at h <;> cases h
      · exact hk.trans (Sys.signals_send rfl (.inl ⟨_, _, _, rfl⟩))
      · exact hk
    · cases h
      exact (hk.trans (Sys.signals_send rfl (.inl ⟨_, _, _, rfl⟩))).trans
        (Sys.signals_setCall rfl (SipeMediaCall.stays_state _ (.inl rfl)))

/-- The `stream-info` handler acts on the live call's dialog only, whatever its re-emission does
as long as that does too. -/
theorem streamInfoBody_signals {emit : Sys → InfoType → Except Fault Sys}
    (hemit : ∀ s s' type, emit s type = .ok s' → s.Signals s') {type : InfoType}
    {isLocal : Bool} (h : streamInfoBody env emit s type isLocal = .ok s') : s.Signals s' := by
  cases type
  case accept =>
    obtain ⟨call, hc, h⟩ := bind_eq_ok.mp h
    exact sipeMediaSessionReadyCb_signals (liveCall_eq_ok.mp hc) h
  case reject =>
    obtain ⟨call, hc, h⟩ := bind_eq_ok.mp h
    cases h
    exact (Sys.signals_send (liveCall_eq_ok.mp hc) (.inl ⟨_, _, _, rfl⟩)).trans
      (Sys.signals_end _)
  case hangup =>
    obtain ⟨call, hc, h⟩ := bind_eq_ok.mp h
    cases h
    cases isLocal
    · exact Sys.signals_end _
    · exact (Sys.signals_send (liveCall_eq_ok.mp hc) (.inr ⟨_, _, _, rfl⟩)).trans
        (Sys.signals_end _)
  case hold | unhold =>
    obtain ⟨call, hc, h⟩ := bind_eq_ok.mp h
    split at h
    · cases h; exact .refl s
    · obtain ⟨s1, hn, h⟩ := bind_eq_ok.mp h
      obtain ⟨body, rfl⟩ := notifyStateChange_ok env hn
      exact ((Sys.signals_setCall (liveCall_eq_ok.mp hc)
        (SipeMediaCall.stays_state _ (by simp))).trans
        (Sys.signals_send rfl (by cases isLocal; exacts [.inl ⟨_, _, _, rfl⟩, .inr ⟨_, _, _, rfl⟩]))).trans
        (hemit _ _ _ h)
  all_goals cases h; exact .refl s

theorem sipeMediaStreamInfoCb_signals {type : InfoType} {isLocal : Bool}
    (h : sipeMediaStreamInfoCb env s type isLocal = .ok s') : s.Signals s' :=
  streamInfoBody_signals
    (fun _ _ _ h => streamInfoBody_signals (fun s _ _ h => by cases h; exact .refl s) h) h

theorem streamInfoOnCall_signals {type : InfoType} (h : streamInfoOnCall env type s = .ok s') :
    s.Signals s' := by
  unfold streamInfoOnCall at h
  split at h
  · exact sipeMediaStreamInfoCb_signals h
  · cases h; exact .refl s

theorem candidatesPreparedCb_signals {m : Nat} (h : candidatesPreparedCb env s m = .ok s') :
    s.Signals s' := by
  unfold candidatesPreparedCb at h
  split at h
  · split at h
    · exact sipeMediaSessionReadyCb_signals ‹_› h
    · cases h
  · cases h

/-- A re-INVITE for the live call re-parses its body into the call, which takes the INVITE as
its pending invitation, then holds, unholds or renegotiates it. -/
theorem reinvite_reinvites {call : SipeMediaCall} {msg : SipMsg}
    (h : reinvite env s call msg = .ok s') : s.Reinvites msg call s' := by
  dsimp only [reinvite] at h
  obtain ⟨⟨ok, call1⟩, hp, h⟩ := bind_eq_ok.mp h
  obtain ⟨attrs, ip, port, rfl⟩ := sipeMediaParseSdpFrame_update hp
  refine ⟨_, call.persists_offer msg.id attrs ip port call.remoteCodecs, rfl, rfl, ?_⟩
  split at h
  · exact .inl (streamInfoOnCall_signals h)
  split at h
  · exact .inl (streamInfoOnCall_signals h)
  split at h
  · exact .inl (streamInfoOnCall_signals h)
  obtain ⟨codecs, -, h⟩ := bind_eq_ok.mp h
  obtain ⟨rsp, -, h⟩ := bind_eq_ok.mp h
  cases h
  exact .inr ⟨_, rsp, rfl⟩

/-- `sipe_media_call_init` writes `legacy_mode = FALSE` before the resolver runs, so the new
call is in legacy mode exactly when its offer's candidate lines kept none. -/
theorem sipeMediaCallInit_legacyMode {msg : SipMsg} {call : SipeMediaCall}
    (h : sipeMediaCallInit msg = .ok (some call)) :
    call.legacyMode = true ↔
      collectInstances parseCandidateAttr (instances call.sdpAttrs "candidate".toList) = .ok [] := by
  dsimp only [sipeMediaCallInit] at h
  obtain ⟨⟨ok, call0⟩, -, h⟩ := bind_eq_ok.mp h
  split at h
  · cases h
  obtain ⟨⟨cands, legacy⟩, hr, h⟩ := bind_eq_ok.mp h
  cases h
  obtain ⟨found, hf, rfl⟩ := sipeMediaParseRemoteCandidates_legacy hr
  simp only [hf, Except.ok.injEq, Bool.or_false, List.isEmpty_iff]

/-- `sipe_media_call_init` makes a CONNECTING call for the INVITE, with no answer made yet and
a remote candidate: the resolver falls back to the legacy pair when the offer keeps none. -/
theorem sipeMediaCallInit_fresh {msg : SipMsg} {call : SipeMediaCall}
    (h : sipeMediaCallInit msg = .ok (some call)) :
    call.invitation = msg.id ∧ call.state = .connecting ∧ call.sdpResponse = none ∧
      call.remoteCandidates ≠ [] := by
  dsimp only [sipeMediaCallInit] at h
  obtain ⟨⟨ok, call0⟩, hp, h⟩ := bind_eq_ok.mp h
  split at h
  · cases h
  obtain ⟨⟨cands, legacy⟩, hr, h⟩ := bind_eq_ok.mp h
  cases h
  obtain ⟨attrs, ip, port, rfl⟩ := sipeMediaParseSdpFrame_update hp
  exact ⟨rfl, rfl, rfl, sipeMediaParseRemoteCandidates_ne_nil hr⟩

/-- An INVITE with no call active creates one media session and installs the new call, if at
all, on it. -/
theorem newCall_creates {msg : SipMsg} {fresh : MediaState} (hs : s.mediaCall = none)
    (h : newCall s msg fresh = .ok s') : s.Creates s' := by
  dsimp only [newCall] at h
  obtain ⟨r, hi, h⟩ := bind_eq_ok.mp h
  rcases r with _ | call
  · cases h
  obtain ⟨codecs, -, h⟩ := bind_eq_ok.mp h
  have hl := sipeMediaCallInit_legacyMode hi
  split at h <;> cases h
  · exact ⟨by simp [Sys.send], fun c' hc' => absurd hc' (by simp [Sys.send, hs])⟩
  · refine ⟨by simp [Sys.send], fun c' hc' => ?_⟩
    cases Option.mem_some_iff.mp hc'
    exact ⟨rfl, hl⟩

theorem newCall_opens {msg : SipMsg} {fresh : MediaState} (hs : s.mediaCall = none)
    (h : newCall s msg fresh = .ok s') : s.Opens msg fresh s' := by
  dsimp only [newCall] at h
  obtain ⟨r, hi, h⟩ := bind_eq_ok.mp h
  rcases r with _ | call
  · cases h
  obtain ⟨codecs, -, h⟩ := bind_eq_ok.mp h
  obtain ⟨hinv, hst, hsd, hcand⟩ := sipeMediaCallInit_fresh hi
  refine ⟨if call.legacyMode then "rawudp".toList else "nice".toList, call.remoteCandidates,
    ?_⟩
  split at h
  · cases h
    exact ⟨rfl, .inl ⟨hs, by simp [Sys.send]⟩⟩
  · next hkept =>
    cases h
    refine ⟨rfl, .inr ⟨_, rfl, ⟨rfl, rfl, rfl, hinv, hst, hsd, hcand,
      fun (h0 : sipeMediaPruneRemoteCodecs fresh.localCodecs codecs = []) =>
        hkept (by simp [h0])⟩, rfl, rfl, by simp [Sys.send, Sys.setCall]⟩⟩

end Handlers

/-- What one step of the account does: it acts on the live call's dialog only; or it is a
re-INVITE of the live call; or it is an INVITE with no call active, which opens a session. -/
theorem step_cases {env : Env} {s s' : Sys} {e : Event} (h : step env s e = .ok s') :
    s.Signals s' ∨
      (∃ msg fresh call, e = .invite msg fresh ∧ s.mediaCall = some call ∧
        s.Reinvites msg call s') ∨
      ∃ msg fresh, e = .invite msg fresh ∧ s.mediaCall = none ∧ s.Opens msg fresh s' := by
  cases e with
  | invite msg fresh =>
    simp only [step, sipeMediaIncomingInvite] at h
    split at h
    · split at h
      · exact .inr (.inl ⟨msg, fresh, _, rfl, ‹_›, reinvite_reinvites h⟩)
      · cases h; exact .inl (.refl s)
    · exact .inr (.inr ⟨msg, fresh, rfl, ‹_›, newCall_opens ‹_› h⟩)
  | streamInfo m type isLocal =>
    simp only [step] at h
    split at h
    · exact .inl (sipeMediaStreamInfoCb_signals h)
    · cases h; exact .inl (.refl s)
  | candidatesPrepared m =>
    simp only [step] at h
    split at h
    · exact .inl (candidatesPreparedCb_signals h)
    · cases h; exact .inl (.refl s)
  | hold => exact .inl (streamInfoOnCall_signals h)
  | unhold => exact .inl (streamInfoOnCall_signals h)
  | hangup => exact .inl (streamInfoOnCall_signals h)
  | engine m report =>
    cases h
    exact .inl ⟨List.length_set _ _ _, fun c hc => ⟨c, hc, .refl c⟩, [], by simp, by simp⟩

/-- One step of the account is one move of its call's lifecycle: the live call persists or
ends, and the media sessions stay; or, only for an INVITE with no call active, the session the
engine reports is added and a call started by that INVITE, if any, is installed on it. -/
theorem step_persists_or_starts {env : Env} {s s' : Sys} {e : Event}
    (h : step env s e = .ok s') :
    s.Persists s' ∨
      ∃ msg fresh, e = .invite msg fresh ∧ s.mediaCall = none ∧ s.Starts msg fresh s' := by
  rcases step_cases h with hs | ⟨msg, fresh, call, -, hc, hr⟩ | ⟨msg, fresh, he, hn, ho⟩
  · exact .inl hs.persists
  · exact .inl (hr.persists hc)
  · exact .inr ⟨msg, fresh, he, hn, ho.starts⟩

/-- One event keeps the live call or ends it; only an INVITE with no call active creates one,
on a new media session. -/
theorem step_keeps_or_creates {env : Env} {s s' : Sys} {e : Event}
    (h : step env s e = .ok s') : s.Keeps s' ∨ (s.mediaCall = none ∧ s.Creates s') := by
  rcases step_persists_or_starts h with hp | ⟨msg, fresh, rfl, hs, -⟩
  · exact .inl hp.keeps
  · simp only [step, sipeMediaIncomingInvite, hs] at h
    exact .inr ⟨hs, newCall_creates hs h⟩

/-! ## The legacy latch -/

/-- The live call's media session exists. -/
def CallOnSession (s : Sys) : Prop := ∀ c ∈ s.mediaCall, c.media < s.medias.length

theorem step_callOnSession {env : Env} {s s' : Sys} {e : Event} (h : step env s e = .ok s')
    (hs : CallOnSession s) : CallOnSession s' := by
  rcases step_keeps_or_creates h with ⟨hlen, hk⟩ | ⟨-, hlen, hc⟩
  · intro c' hc'
    obtain ⟨c, hc, hcont⟩ := hk c' hc'
    rw [hcont.media, hlen]
    exact hs c hc
  · intro c' hc'
    rw [(hc c' hc').1, hlen]
    exact Nat.lt_succ_self _

theorem Reachable.callOnSession {env : Env} {s : Sys} (h : Reachable env s) : CallOnSession s :=
  let ⟨_, hr⟩ := h
  run_invariant (fun _ _ _ => step_callOnSession) hr fun _ hc => absurd hc (by simp [Sys.init])

/-- The call on media session `m`, whenever it is live, is in legacy mode; `m` exists. -/
def LegacyLatched (m : Nat) (s : Sys) : Prop :=
  m < s.medias.length ∧ ∀ c ∈ s.mediaCall, c.media = m → c.legacyMode = true

theorem step_legacyLatched {env : Env} {s s' : Sys} {e : Event} {m : Nat}
    (h : step env s e = .ok s') (hl : LegacyLatched m s) : LegacyLatched m s' := by
  rcases step_keeps_or_creates h with ⟨hlen, hk⟩ | ⟨-, hlen, hc⟩
  · refine ⟨hlen ▸ hl.1, fun c' hc' hm => ?_⟩
    obtain ⟨c, hc, hcont⟩ := hk c' hc'
    rw [hcont.legacyMode]
    exact hl.2 c hc (hcont.media ▸ hm)
  · refine ⟨hlen ▸ Nat.lt_succ_of_lt hl.1, fun c' hc' hm => absurd ((hc c' hc').1 ▸ hm) ?_⟩
    exact Nat.ne_of_gt hl.1

/-- `legacy_mode` is a latch for the whole life of a call. Along every run from a reachable
state, the call of the same media session stays in legacy mode once it is; and a call that an
event installs with no call active is in legacy mode exactly when its offer's candidate lines
kept none, whatever FALSE `sipe_media_call_init` wrote before the resolver ran. -/
theorem legacyMode_latched (env : Env) :
    (∀ (s s' : Sys) (es : List Event) (c c' : SipeMediaCall), Reachable env s →
      run env s es = .ok s' → s.mediaCall = some c → c.legacyMode = true →
      s'.mediaCall = some c' → c'.media = c.media → c'.legacyMode = true) ∧
    (∀ (s s' : Sys) (e : Event) (c' : SipeMediaCall), step env s e = .ok s' →
      s.mediaCall = none → s'.mediaCall = some c' →
      (c'.legacyMode = true ↔
        collectInstances parseCandidateAttr (instances c'.sdpAttrs "candidate".toList) = .ok [])) := by
  refine ⟨fun s s' es c c' hs hr hc hl hc' hm => ?_, fun s s' e c' h hs hc' => ?_⟩
  · have hlatch : LegacyLatched c.media s :=
      ⟨hs.callOnSession c hc, fun c0 hc0 _ => by cases hc.symm.trans hc0; exact hl⟩
    exact (run_invariant (fun _ _ _ => step_legacyLatched) hr hlatch).2 c' hc' hm
  · rcases step_keeps_or_creates h with ⟨-, hk⟩ | ⟨-, -, hcr⟩
    · obtain ⟨c, hc, -⟩ := hk c' hc'
      simp [hs] at hc
    · exact (hcr c' hc').2

/-- The spec's legacy offer, answered, then a re-INVITE that does carry ICE candidates: the call
stays in legacy mode. The legacy INVITE installs a call in legacy mode, its offer having no
candidate line. -/
theorem legacyMode_latched_legacyOffer :
    (∃ s s' c c', Reachable env0 s ∧ run env0 s [.invite (inviteMsg 1 iceOffer) engine0] = .ok s' ∧
      s.mediaCall = some c ∧ c.legacyMode = true ∧ s'.mediaCall = some c' ∧ c'.media = c.media ∧
      c'.legacyMode = true) ∧
    (∃ s' c', step env0 .init (.invite (inviteMsg 0 legacyOffer) engine0) = .ok s' ∧
      Sys.init.mediaCall = none ∧ s'.mediaCall = some c' ∧
      (c'.legacyMode = true ↔
        collectInstances parseCandidateAttr (instances c'.sdpAttrs "candidate".toList) = .ok [])) := by
  let s := (run env0 .init (answered legacyOffer)).toOption.getD .init
  let s' := (run env0 s [.invite (inviteMsg 1 iceOffer) engine0]).toOption.getD .init
  let c := s.mediaCall.getD .zeroed
  let c' := s'.mediaCall.getD .zeroed
  have hs : Reachable env0 s :=
    ⟨answered legacyOffer, by set_option maxRecDepth 100000 in decide⟩
  have hr : run env0 s [.invite (inviteMsg 1 iceOffer) engine0] = .ok s' := by
    set_option maxRecDepth 100000 in decide
  have hc : s.mediaCall = some c := by decide
  have hc' : s'.mediaCall = some c' := by decide
  let s1 := (step env0 .init (.invite (inviteMsg 0 legacyOffer) engine0)).toOption.getD .init
  let c1 := s1.mediaCall.getD .zeroed
  have h1 : step env0 .init (.invite (inviteMsg 0 legacyOffer) engine0) = .ok s1 := by decide
  have hc1 : s1.mediaCall = some c1 := by decide
  have hl : c.legacyMode = true := by decide
  have hm : c'.media = c.media := by decide
  exact ⟨⟨s, s', c, c', hs, hr, hc, hl, hc', hm,
      (legacyMode_latched env0).1 s s' _ c c' hs hr hc hl hc' hm⟩,
    ⟨s1, c1, h1, rfl, hc1, (legacyMode_latched env0).2 _ s1 _ c1 h1 rfl hc1⟩⟩

/-! ## The call over whole runs -/

/-- The shape of the live call in a state `s`: it is on the newest media session, so every other
session belongs to a call that has ended or was discarded; it has a remote candidate; and it is
not FINISHED, which the hangup handler sets only on the call it frees (lines 544–549). -/
structure SipeMediaCall.Live (s : Sys) (c : SipeMediaCall) : Prop where
  newest : c.media + 1 = s.medias.length
  remoteCandidates : c.remoteCandidates ≠ []
  state : c.state ≠ .finished

theorem step_live {env : Env} {s s' : Sys} {e : Event} (h : step env s e = .ok s')
    (hs : ∀ c ∈ s.mediaCall, c.Live s) : ∀ c' ∈ s'.mediaCall, c'.Live s' := by
  rcases step_persists_or_starts h with ⟨hlen, hp⟩ | ⟨msg, fresh, -, -, hm, hst⟩
  · intro c' hc'
    obtain ⟨c, hc, hcp⟩ := hp c' hc'
    have hl := hs c hc
    exact ⟨by rw [hcp.media, hlen, hl.newest], hcp.remoteCandidates ▸ hl.remoteCandidates,
      hcp.state.ne_of_ne (.inr rfl) hl.state⟩
  · intro c' hc'
    have hc := hst c' hc'
    exact ⟨by rw [hc.media, hm, List.length_append]; rfl, hc.remoteCandidates,
      by rw [hc.state]; decide⟩

/-- In every reachable state the live call is on the newest media session, has a remote
candidate, and is not FINISHED. -/
theorem reachable_call_live {env : Env} {s : Sys} (h : Reachable env s) :
    ∀ c ∈ s.mediaCall, c.Live s :=
  let ⟨_, hr⟩ := h
  run_invariant (fun _ _ _ => step_live) hr fun _ hc => absurd hc (by simp [Sys.init])

/-- The account after the legacy INVITE: its call is live on session 0. -/
theorem reachable_call_live_legacyOffer :
    ∃ s, Reachable env0 s ∧ s.mediaCall.isSome ∧ ∀ c ∈ s.mediaCall, c.Live s := by
  obtain ⟨s, hs, hc⟩ : ∃ s, run env0 .init [.invite (inviteMsg 0 legacyOffer) engine0] = .ok s ∧
      s.mediaCall.isSome := by
    set_option maxRecDepth 100000 in exact ⟨_, rfl, rfl⟩
  exact ⟨s, ⟨_, hs⟩, hc, reachable_call_live ⟨_, hs⟩⟩

/-- The call on media session `c.media`, whenever live, persists `c`; that session exists. -/
def PersistsFrom (c : SipeMediaCall) (s : Sys) : Prop :=
  c.media < s.medias.length ∧ ∀ c' ∈ s.mediaCall, c'.media = c.media → c.Persists c'

theorem step_persistsFrom {env : Env} {s s' : Sys} {e : Event} {c : SipeMediaCall}
    (h : step env s e = .ok s') (hp : PersistsFrom c s) : PersistsFrom c s' := by
  rcases step_persists_or_starts h with ⟨hlen, hk⟩ | ⟨msg, fresh, -, -, hm, hst⟩
  · refine ⟨hlen ▸ hp.1, fun c' hc' hmc => ?_⟩
    obtain ⟨c0, hc0, hcp⟩ := hk c' hc'
    exact (hp.2 c0 hc0 (hcp.media ▸ hmc)).trans hcp
  · refine ⟨by rw [hm, List.length_append]; exact Nat.lt_succ_of_lt hp.1, fun c' hc' hmc => ?_⟩
    exact absurd ((hst c' hc').media.symm.trans hmc) (Nat.ne_of_gt hp.1)

/-- Along every run from a reachable state, the call of the same media session is the same
call: it keeps its Call-ID, its peer, the remote candidates of the INVITE that created it and its
legacy mode, keeps its memoized answer once made, and its state only advances, so it never
returns to CONNECTING and is never FINISHED. -/
theorem call_persists_along_run {env : Env} {s s' : Sys} {es : List Event} {c c' : SipeMediaCall}
    (hs : Reachable env s) (hr : run env s es = .ok s') (hc : s.mediaCall = some c)
    (hc' : s'.mediaCall = some c') (hm : c'.media = c.media) : c.Persists c' :=
  (run_invariant (fun _ _ _ => step_persistsFrom) hr
    ⟨hs.callOnSession c hc, fun _ hc0 _ => Option.some.inj (hc.symm.trans hc0) ▸ .refl c⟩).2
    c' hc' hm

/-- The call of the legacy INVITE, held: the same call. -/
theorem call_persists_along_run_hold :
    ∃ s s' c c', Reachable env0 s ∧ run env0 s [.hold] = .ok s' ∧ s.mediaCall = some c ∧
      s'.mediaCall = some c' ∧ c'.media = c.media ∧ c.Persists c' := by
  obtain ⟨s, s', c, c', hs, hr, hc, hc', hm⟩ : ∃ s s' c c',
      run env0 .init [.invite (inviteMsg 0 legacyOffer) engine0] = .ok s ∧
        run env0 s [.hold] = .ok s' ∧ s.mediaCall = some c ∧ s'.mediaCall = some c' ∧
          c'.media = c.media := by
    set_option maxRecDepth 100000 in exact ⟨_, _, _, _, rfl, rfl, rfl, rfl, rfl⟩
  exact ⟨s, s', c, c', ⟨_, hs⟩, hr, hc, hc', hm, call_persists_along_run ⟨_, hs⟩ hr hc hc' hm⟩

/-- With no call active, an INVITE whose body parses is kept as the call exactly when one of its
`rtpmap` codecs is named by a local codec of the session the engine creates. Its candidates never
decide: the resolver returns at least the legacy pair, so the `!call->remote_candidates` half of
the test of line 758 never discards a call. -/
theorem invite_kept_iff_codec_named {env : Env} {s s' : Sys} {msg : SipMsg} {fresh : MediaState}
    (hs : s.mediaCall = none) (h : step env s (.invite msg fresh) = .ok s') :
    ∃ call codecs, sipeMediaCallInit msg = .ok (some call) ∧ call.remoteCandidates ≠ [] ∧
      sipeMediaParseRemoteCodecs call = .ok codecs ∧
      (s'.mediaCall.isSome ↔ ∃ c ∈ codecs, ∃ l ∈ fresh.localCodecs, codecNameCompare l c) := by
  simp only [step, sipeMediaIncomingInvite, hs] at h
  dsimp only [newCall] at h
  obtain ⟨r, hi, h⟩ := bind_eq_ok.mp h
  rcases r with _ | call
  · cases h
  obtain ⟨codecs, hcod, h⟩ := bind_eq_ok.mp h
  have hcand := (sipeMediaCallInit_fresh hi).2.2.2
  refine ⟨call, codecs, hi, hcand, hcod, ?_⟩
  have hprune : sipeMediaPruneRemoteCodecs fresh.localCodecs codecs ≠ [] ↔
      ∃ c ∈ codecs, ∃ l ∈ fresh.localCodecs, codecNameCompare l c := by
    simp [sipeMediaPruneRemoteCodecs, List.filter_eq_nil_iff]
  rw [← hprune]
  split at h
  · next hout =>
    cases h
    simpa [Sys.send, hs, hcand] using hout
  · next hkept =>
    cases h
    simpa [Sys.send, hcand] using hkept

/-- The legacy INVITE with no call active: kept, its PCMU named by the engine's PCMU. -/
theorem invite_kept_iff_codec_named_legacyOffer :
    Sys.init.mediaCall = none ∧ ∃ s', step env0 .init (.invite (inviteMsg 0 legacyOffer) engine0) = .ok s' ∧
      ∃ call codecs, sipeMediaCallInit (inviteMsg 0 legacyOffer) = .ok (some call) ∧
        call.remoteCandidates ≠ [] ∧ sipeMediaParseRemoteCodecs call = .ok codecs ∧
        (s'.mediaCall.isSome ↔ ∃ c ∈ codecs, ∃ l ∈ engine0.localCodecs, codecNameCompare l c) := by
  obtain ⟨s', h⟩ : ∃ s', step env0 .init (.invite (inviteMsg 0 legacyOffer) engine0) = .ok s' := by
    set_option maxRecDepth 100000 in exact ⟨_, rfl⟩
  exact ⟨rfl, s', h, invite_kept_iff_codec_named rfl h⟩

/-! ## The remote pair

The resolver keeps the UDP candidate lines an offer has, in offer order, and nothing after the
INVITE revisits `remote_candidates`. Every body made with `remote_candidate = TRUE` (the
hold and unhold answers and re-INVITEs, the renegotiation answer) reads the first two
cells and labels them components 1 and 2 (lines 393–398).
-/

/-- An ICE offer with one RTP candidate. -/
def oneCandidateOffer : String :=
  "v=0\r\no=- 0 0 IN IP4 10.0.0.5\r\nm=audio 5004 RTP/AVP 0\r\na=ice-ufrag:U\r\n" ++
  "a=ice-pwd:P\r\na=candidate:1 1 UDP 100 10.0.0.5 5004 typ host \r\na=rtpmap:0 PCMU/8000\r\n"

/-- An ICE offer listing its RTCP candidate before its RTP candidate. -/
def rtcpFirstOffer : String :=
  "v=0\r\no=- 0 0 IN IP4 10.0.0.5\r\nm=audio 5004 RTP/AVP 0\r\na=ice-ufrag:U\r\n" ++
  "a=ice-pwd:P\r\na=candidate:1 2 UDP 99 10.0.0.5 5005 typ host \r\n" ++
  "a=candidate:1 1 UDP 100 10.0.0.5 5004 typ host \r\na=rtpmap:0 PCMU/8000\r\n"

/-- A non-legacy call with one remote candidate is installed, and both a hold and a
renegotiating re-INVITE then read the missing second cell. With the RTCP candidate offered
first, the hold answer labels the RTCP address component 1. -/
theorem remoteCandidates_pair_unchecked :
    (run env0 .init [.invite (inviteMsg 0 oneCandidateOffer) engine0]).map
      (·.mediaCall.map fun c => (c.legacyMode, c.remoteCandidates.length)) = .ok (some (false, 1)) ∧
    run env0 .init [.invite (inviteMsg 0 oneCandidateOffer) engine0, .hold] = .error .emptyList ∧
    run env0 .init [.invite (inviteMsg 0 oneCandidateOffer) engine0,
      .invite (inviteMsg 1 oneCandidateOffer) engine0] = .error .emptyList ∧
    (run env0 .init [.invite (inviteMsg 0 rtcpFirstOffer) engine0, .hold]).map
      (fun s => s.sent.getLast?.bind Out.sdp |>.map fun b =>
        (gStrsplit b crlf 0).contains "a=remote-candidates:1 10.0.0.5 5005 2 10.0.0.5 5004".toList) =
      .ok (some true) := by
  refine ⟨by decide, by decide, by decide, ?_⟩
  set_option maxRecDepth 100000 in decide

end SipeMedia.Call
