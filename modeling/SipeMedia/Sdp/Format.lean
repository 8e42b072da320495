import SipeMedia.Sdp.Remote

/-!
# SDP generation

`sipe_media_sdp_codec_ids_format`, `sipe_media_sdp_codecs_format`,
`sipe_media_sdp_candidates_format` and `sipe_media_create_sdp`,
`src/core/sipe-media.c:261–448`, with their printf formats kept as written. The local codecs
and candidates are what the media engine reports; `candidates->data`,
`remote_candidates->next->data` and the uninitialised `component`/`type` of an unknown
enumerator are the faults these functions can reach.
-/

namespace SipeMedia.Sdp

open SipeMedia.Base SipeMedia.Purple SipeMedia.Call

/-- printf's `%s`; glibc writes `(null)` for NULL. -/
def fmtS : Option (List Char) → List Char
  | some s => s
  | none => "(null)".toList

/-- `list->data` of a `GList`. -/
def listHead {α : Type} : List α → Except Fault α
  | a :: _ => .ok a
  | [] => .error .emptyList

/-- `sipe_media_sdp_codec_ids_format`: ` %d` of each codec id. -/
def sipeMediaSdpCodecIdsFormat (codecs : List Codec) : List Char :=
  codecs.flatMap fun c => ' ' :: fmtD (asInt c.id.toNat)

/-- The `a=fmtp:%d` line of one codec with ` %s=%s` per optional parameter, when it has
any (lines 296–309). -/
def fmtpText (c : Codec) : List Char :=
  if c.optionalParams = [] then []
  else "a=fmtp:".toList ++ fmtD (asInt c.id.toNat) ++
    c.optionalParams.flatMap (fun p => ' ' :: p.1 ++ '=' :: p.2) ++ crlf

/-- The `a=rtpmap:%d %s/%d\r\n` line of one codec (line 288). -/
def rtpmapText (c : Codec) : List Char :=
  "a=rtpmap:".toList ++ fmtD (asInt c.id.toNat) ++ ' ' :: fmtS c.encodingName ++
    '/' :: fmtD (asInt c.clockRate.toNat) ++ crlf

/-- `sipe_media_sdp_codecs_format`. -/
def sipeMediaSdpCodecsFormat (codecs : List Codec) : List Char :=
  codecs.flatMap fun c => rtpmapText c ++ fmtpText c

/-- The `component` a candidate line prints (lines 343–352); unset for `NONE`. -/
def componentNumber : ComponentType → Except Fault Nat
  | .rtp => .ok 1
  | .rtcp => .ok 2
  | .none => .error .uninitialized

/-- The `protocol` a candidate line prints (lines 354–361). -/
def protocolText : NetworkProtocol → List Char
  | .tcp => "TCP".toList
  | .udp => "UDP".toList

/-- The `type` a candidate line prints (lines 363–376); unset for other types. -/
def candidateTypeText : CandidateType → Except Fault (List Char)
  | .host => .ok "host".toList
  | .relay => .ok "relay".toList
  | .srflx => .ok "srflx".toList
  | _ => .error .uninitialized

/-- The `a=candidate:%s %u %s %u %s %d typ %s \r\n` line of one candidate (line 378). -/
def candidateText (c : Candidate) : Except Fault (List Char) := do
  let component ← componentNumber c.componentId
  let type ← candidateTypeText c.candidateType
  return "a=candidate:".toList ++ fmtS c.foundation ++ ' ' :: fmtU component ++ ' ' ::
    protocolText c.protocol ++ ' ' :: fmtU c.priority.toNat ++ ' ' :: fmtS c.ip ++ ' ' ::
    fmtD c.port.toNat ++ " typ ".toList ++ type ++ " \r\n".toList

/-- The candidate lines, in list order. -/
def candidateTexts : List Candidate → Except Fault (List Char)
  | [] => .ok []
  | c :: cs => do return (← candidateText c) ++ (← candidateTexts cs)

/-- `rtcp_port`: the port of the first RTCP candidate whose port is not 0, else 0. -/
def rtcpPortOf (candidates : List Candidate) : UInt16 :=
  candidates.foldl (fun r c => if c.componentId = .rtcp ∧ r = 0 then c.port else r) 0

/-- `rtcp_port` is the port of the first RTCP candidate whose port is not 0, and 0 when there
is none: once set, the port stays (lines 348–350). -/
theorem rtcpPortOf_first_nonzero (cs : List Candidate) :
    rtcpPortOf cs =
      (((cs.filter fun c => c.componentId = .rtcp).map (·.port)).find? (· ≠ 0)).getD 0 := by
  have hset : ∀ (cs : List Candidate) (r : UInt16), r ≠ 0 →
      cs.foldl (fun r c => if c.componentId = .rtcp ∧ r = 0 then c.port else r) r = r := by
    intro cs
    induction cs with
    | nil => intro r _; rfl
    | cons c cs ih => intro r hr; simpa [hr] using ih r hr
  induction cs with
  | nil => rfl
  | cons c cs ih =>
    unfold rtcpPortOf at ih ⊢
    rw [List.foldl_cons]
    by_cases hc : c.componentId = .rtcp
    · by_cases hp : c.port = 0
      · simpa [hc, hp] using ih
      · simp [hc, hp, hset cs c.port hp]
    · simpa [hc] using ih

/-- The `a=remote-candidates` line (lines 394–398) from the first two remote candidates. -/
def remoteCandidatesText : List Candidate → Except Fault (List Char)
  | first :: second :: _ => .ok ("a=remote-candidates:1 ".toList ++ fmtS first.ip ++ ' ' ::
      fmtU first.port.toNat ++ " 2 ".toList ++ fmtS second.ip ++ ' ' ::
      fmtU second.port.toNat ++ crlf)
  | _ => .error .emptyList

/-- `sipe_media_sdp_candidates_format`: nothing in legacy mode; else the ICE credentials of
the first candidate, the candidate lines, the remote pair when asked, and the RTCP lines. -/
def sipeMediaSdpCandidatesFormat (candidates : List Candidate) (call : SipeMediaCall)
    (remoteCandidate : Bool) : Except Fault (List Char) := do
  let first ← listHead candidates
  if call.legacyMode then pure []
  else do
    let lines ← candidateTexts candidates
    let remote ← (if remoteCandidate then remoteCandidatesText call.remoteCandidates else pure [])
    let rtcpPort := rtcpPortOf candidates
    return "a=ice-ufrag:".toList ++ fmtS first.username ++ crlf ++ "a=ice-pwd:".toList ++
      fmtS first.password ++ crlf ++ lines ++ remote ++
      (if rtcpPort ≠ 0 then "a=maxptime:200\r\na=rtcp:".toList ++ fmtU rtcpPort.toNat ++ crlf
        else [])

/-- `sipe_media_create_sdp` for a call whose media session reports `media`, with the
local IP `ip`. -/
def sipeMediaCreateSdp (ip : LocalIp) (media : MediaState) (call : SipeMediaCall)
    (remoteCandidate : Bool) : Except Fault (List Char) := do
  let localPort := (← listHead media.localCandidates).port
  let sdpCodecs := sipeMediaSdpCodecsFormat media.localCodecs
  let sdpCodecIds := sipeMediaSdpCodecIdsFormat media.localCodecs
  let sdpCandidates ← sipeMediaSdpCandidatesFormat media.localCandidates call remoteCandidate
  let inactive := if call.state = .held then "a=inactive\r\n".toList else []
  return "v=0\r\no=- 0 0 IN IP4 ".toList ++ ip.text ++ "\r\ns=session\r\nc=IN IP4 ".toList ++
    ip.text ++ "\r\nb=CT:99980\r\nt=0 0\r\nm=audio ".toList ++ fmtD localPort.toNat ++
    " RTP/AVP".toList ++ sdpCodecIds ++ crlf ++ sdpCandidates ++ inactive ++ sdpCodecs ++
    "a=encryption:rejected\r\n".toList

/-! ## When the writer faults -/

/-- A candidate the switch statements of lines 342–376 cover: an RTP or RTCP component and a
host, relay or srflx type; for any other the line's `component` or `type` stays unset. -/
def Printable (c : Candidate) : Prop :=
  c.componentId ≠ .none ∧
    (c.candidateType = .host ∨ c.candidateType = .relay ∨ c.candidateType = .srflx)

instance instDecidablePrintable (c : Candidate) : Decidable (Printable c) :=
  inferInstanceAs (Decidable (_ ∧ _))

theorem componentNumber_ok_iff (k : ComponentType) :
    (∃ n, componentNumber k = .ok n) ↔ k ≠ .none := by
  cases k <;> simp [componentNumber]

theorem candidateTypeText_ok_iff (t : CandidateType) :
    (∃ s, candidateTypeText t = .ok s) ↔ t = .host ∨ t = .relay ∨ t = .srflx := by
  cases t <;> simp [candidateTypeText]

theorem candidateText_ok_iff (c : Candidate) : (∃ t, candidateText c = .ok t) ↔ Printable c := by
  rw [Printable, ← componentNumber_ok_iff, ← candidateTypeText_ok_iff]
  simp only [candidateText, bind, Except.bind]
  cases componentNumber c.componentId <;> cases candidateTypeText c.candidateType <;>
    simp only [pure, Except.pure, Except.ok.injEq, exists_eq', reduceCtorEq, exists_false, and_true,
      and_false, false_and, true_and]

theorem candidateTexts_ok_iff (cs : List Candidate) :
    (∃ t, candidateTexts cs = .ok t) ↔ ∀ c ∈ cs, Printable c := by
  induction cs with
  | nil => simp [candidateTexts]
  | cons c cs ih =>
    rw [candidateTexts, List.forall_mem_cons, ← candidateText_ok_iff, ← ih]
    cases candidateText c <;> cases candidateTexts cs <;>
      simp only [bind, Except.bind, pure, Except.pure, Except.ok.injEq, exists_eq', reduceCtorEq,
        exists_false, and_true, and_false, false_and, true_and]

theorem remoteCandidatesText_ok_iff (rs : List Candidate) :
    (∃ t, remoteCandidatesText rs = .ok t) ↔ 2 ≤ rs.length := by
  rcases rs with _ | ⟨a, _ | ⟨b, rs⟩⟩
  · simp [remoteCandidatesText]
  · simp [remoteCandidatesText]
  · simp only [remoteCandidatesText, Except.ok.injEq, exists_eq', List.length_cons, true_iff]
    omega

/-- The candidate lines are written (as nothing in legacy mode) exactly when the engine reports a
candidate and, out of legacy mode, every candidate is printable and the call has a second remote
candidate when the remote pair is asked for. -/
theorem sipeMediaSdpCandidatesFormat_ok_iff (cs : List Candidate) (call : SipeMediaCall)
    (remote : Bool) :
    (∃ t, sipeMediaSdpCandidatesFormat cs call remote = .ok t) ↔
      cs ≠ [] ∧ (call.legacyMode = false →
        (∀ c ∈ cs, Printable c) ∧ (remote = true → 2 ≤ call.remoteCandidates.length)) := by
  rw [← candidateTexts_ok_iff, ← remoteCandidatesText_ok_iff]
  cases cs with
  | nil => simp [sipeMediaSdpCandidatesFormat, listHead, bind, Except.bind]
  | cons c cs =>
    simp only [sipeMediaSdpCandidatesFormat, listHead, bind, Except.bind]
    cases call.legacyMode
    · cases candidateTexts (c :: cs) <;> cases remote <;>
        cases remoteCandidatesText call.remoteCandidates <;>
        simp only [pure, Except.pure, Except.ok.injEq, exists_eq', reduceCtorEq, exists_false, ne_eq,
          not_false_eq_true, true_and, and_true, and_false, false_and, if_true, if_false,
          Bool.false_eq_true, forall_const, imp_false, not_true_eq_false, true_implies, false_implies,
          implies_true, iff_self]
    · simp only [pure, Except.pure, if_true, Except.ok.injEq, exists_eq', ne_eq, reduceCtorEq,
        not_false_eq_true, Bool.true_eq_false, false_implies, and_self]

/-- `sipe_media_create_sdp` writes a body exactly when the engine reports a local candidate and,
out of legacy mode, every local candidate has an RTP or RTCP component and a host, relay or srflx
type, and the call has two remote candidates when the remote pair is asked for. Otherwise it
reaches `candidates->data` of an empty list, an unset `component` or `type`, or the missing
second remote candidate. -/
theorem sipeMediaCreateSdp_ok_iff (ip : LocalIp) (media : MediaState) (call : SipeMediaCall)
    (remote : Bool) :
    (∃ body, sipeMediaCreateSdp ip media call remote = .ok body) ↔
      media.localCandidates ≠ [] ∧ (call.legacyMode = false →
        (∀ c ∈ media.localCandidates, Printable c) ∧
          (remote = true → 2 ≤ call.remoteCandidates.length)) := by
  rw [← sipeMediaSdpCandidatesFormat_ok_iff]
  cases h : media.localCandidates with
  | nil => simp [sipeMediaCreateSdp, sipeMediaSdpCandidatesFormat, listHead, h, bind, Except.bind]
  | cons c cs =>
    simp only [sipeMediaCreateSdp, listHead, h, bind, Except.bind]
    cases sipeMediaSdpCandidatesFormat (c :: cs) call remote <;>
      simp only [pure, Except.pure, Except.ok.injEq, exists_eq', reduceCtorEq, exists_false]

end SipeMedia.Sdp
