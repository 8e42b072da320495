import SipeMedia.Call.Runs
import Mathlib.Data.List.Forall2

/-!
# Writing an SDP body and reading it back

`sipe_media_create_sdp` (`src/core/sipe-media.c:414–448`) against
`sipe_media_parse_sdp_frame` (lines 553–596) and the two resolvers of lines 97–259. The
body is first described line by line: seven header lines, then one attribute line per
pair of an attribute list. The parse reads that list back exactly when every name and value
stays on its line, and the resolvers then rebuild the codecs and candidates field by field
from the tokens the printf formats wrote.
-/

namespace SipeMedia.Sdp

open SipeMedia.Base SipeMedia.Purple SipeMedia.Call

/-! ## The body as attribute lines -/

/-- The value of a codec's `a=rtpmap` line: `ID NAME/RATE`. -/
def rtpmapValue (c : Codec) : List Char :=
  fmtD (asInt c.id.toNat) ++ ' ' :: fmtS c.encodingName ++ '/' :: fmtD (asInt c.clockRate.toNat)

/-- The value of a codec's `a=fmtp` line: the id, then ` KEY=VALUE` per parameter. -/
def fmtpValue (c : Codec) : List Char :=
  fmtD (asInt c.id.toNat) ++ c.optionalParams.flatMap fun p => ' ' :: p.1 ++ '=' :: p.2

/-- The attributes of one codec's lines. -/
def codecAttrs (c : Codec) : List Attr :=
  ("rtpmap".toList, some (rtpmapValue c)) ::
    if c.optionalParams = [] then [] else [("fmtp".toList, some (fmtpValue c))]

/-- `sipe_media_sdp_codecs_format` writes the lines of `codecAttrs`, codec after codec. -/
theorem sipeMediaSdpCodecsFormat_eq (codecs : List Codec) :
    sipeMediaSdpCodecsFormat codecs = joinLines ((codecs.flatMap codecAttrs).map attrLine) := by
  induction codecs with
  | nil => rfl
  | cons c cs ih =>
    rw [List.flatMap_cons, List.map_append, joinLines_append, ← ih, sipeMediaSdpCodecsFormat,
      List.flatMap_cons]
    by_cases hp : c.optionalParams = [] <;>
      simp [hp, codecAttrs, rtpmapText, fmtpText, rtpmapValue, fmtpValue, attrLine, joinLines,
        sipeMediaSdpCodecsFormat]

/-- The tokens of a candidate's `a=candidate` value, for the component number and type text
its line prints; the value ends with a space, hence the empty last token. -/
def candidateTokens (c : Candidate) (component : Nat) (type : List Char) : List (List Char) :=
  [fmtS c.foundation, fmtU component, protocolText c.protocol, fmtU c.priority.toNat,
    fmtS c.ip, fmtD c.port.toNat, "typ".toList, type, []]

/-- The line of a candidate whose component and type print. -/
theorem candidateText_eq {c : Candidate} {k : Nat} {t : List Char}
    (hk : componentNumber c.componentId = .ok k) (ht : candidateTypeText c.candidateType = .ok t) :
    candidateText c = .ok (attrLine ("candidate".toList,
      some ([' '].intercalate (candidateTokens c k t))) ++ crlf) := by
  simp [candidateText, hk, ht, candidateTokens, attrLine, List.intercalate, crlf, bind,
    Except.bind, pure, Except.pure]

/-- The candidate lines, one per value, when each candidate's line is that of its value. -/
theorem candidateTexts_eq {cs : List Candidate} {vs : List (List Char)}
    (h : List.Forall₂
      (fun c v => candidateText c = .ok (attrLine ("candidate".toList, some v) ++ crlf)) cs vs) :
    candidateTexts cs =
      .ok (joinLines (vs.map fun v => attrLine ("candidate".toList, some v))) := by
  induction h with
  | nil => rfl
  | cons hx _ ih => simp [candidateTexts, hx, ih, joinLines, bind, Except.bind, pure, Except.pure]

/-- The value of the `a=remote-candidates` line for the first two remote candidates. -/
def remoteValue (first second : Candidate) : List Char :=
  "1 ".toList ++ fmtS first.ip ++ ' ' :: fmtU first.port.toNat ++ " 2 ".toList ++
    fmtS second.ip ++ ' ' :: fmtU second.port.toNat

/-- The `a=remote-candidates` attribute, written when asked for and the call has two remote
candidates. -/
def remoteAttrs : Bool → List Candidate → List Attr
  | true, first :: second :: _ => [("remote-candidates".toList, some (remoteValue first second))]
  | _, _ => []

/-- The remote pair, when asked for, needs two remote candidates. -/
theorem remoteText_eq {rc : Bool} {remotes : List Candidate}
    (h : rc = true → 2 ≤ remotes.length) :
    (if rc then remoteCandidatesText remotes else pure []) =
      .ok (joinLines ((remoteAttrs rc remotes).map attrLine)) := by
  cases rc with
  | false => rfl
  | true =>
    match remotes, h rfl with
    | first :: second :: _, _ =>
      simp [remoteCandidatesText, remoteAttrs, remoteValue, attrLine, joinLines, crlf]

/-- The attributes `sipe_media_sdp_candidates_format` writes outside legacy mode: the
credentials, one `candidate` per value, the remote pair and the RTCP port. -/
def iceAttrs (username password : List Char) (values : List (List Char)) (remote : List Attr)
    (rtcpPort : UInt16) : List Attr :=
  ("ice-ufrag".toList, some username) :: ("ice-pwd".toList, some password) ::
    (values.map fun v => ("candidate".toList, some v)) ++ remote ++
    if rtcpPort ≠ 0 then
      [("maxptime".toList, some "200".toList), ("rtcp".toList, some (fmtU rtcpPort.toNat))]
    else []

/-- Outside legacy mode the ICE section is the lines of `iceAttrs`, with the credentials of
the first candidate. -/
theorem sipeMediaSdpCandidatesFormat_eq {cs : List Candidate} {first : Candidate}
    {call : SipeMediaCall} {rc : Bool} {vs : List (List Char)}
    (hfirst : cs.head? = some first) (hlegacy : call.legacyMode = false)
    (hvs : List.Forall₂
      (fun c v => candidateText c = .ok (attrLine ("candidate".toList, some v) ++ crlf)) cs vs)
    (hremote : rc = true → 2 ≤ call.remoteCandidates.length) :
    sipeMediaSdpCandidatesFormat cs call rc =
      .ok (joinLines ((iceAttrs (fmtS first.username) (fmtS first.password) vs
        (remoteAttrs rc call.remoteCandidates) (rtcpPortOf cs)).map attrLine)) := by
  obtain ⟨rest, rfl⟩ : ∃ rest, cs = first :: rest := by
    cases cs <;> simp_all
  simp only [sipeMediaSdpCandidatesFormat, listHead, hlegacy, candidateTexts_eq hvs,
    remoteText_eq hremote]
  simp only [bind, Except.bind, pure, Except.pure]
  by_cases hr : rtcpPortOf (first :: rest) = 0 <;>
    simp [hr, iceAttrs, joinLines, attrLine, crlf, Function.comp_def]

/-- The lines `sipe_media_create_sdp` writes before the attributes. -/
def sdpHeader (ip : LocalIp) (localPort : UInt16) (codecs : List Codec) : List (List Char) :=
  ["v=0".toList, "o=- 0 0 IN IP4 ".toList ++ ip.text, "s=session".toList,
    "c=IN IP4 ".toList ++ ip.text, "b=CT:99980".toList, "t=0 0".toList,
    "m=audio ".toList ++ fmtD localPort.toNat ++ " RTP/AVP".toList ++
      sipeMediaSdpCodecIdsFormat codecs]

/-- The attributes of a body whose ICE section writes `ice`. -/
def createdAttrs (ice : List Attr) (held : Bool) (codecs : List Codec) : List Attr :=
  ice ++ (if held then [("inactive".toList, none)] else []) ++ codecs.flatMap codecAttrs ++
    [("encryption".toList, some "rejected".toList)]

/-- `sipe_media_create_sdp` writes the header, then the lines of `createdAttrs`. -/
theorem sipeMediaCreateSdp_eq (ip : LocalIp) {media : MediaState} {call : SipeMediaCall}
    {rc : Bool} {first : Candidate} {ice : List Attr}
    (hfirst : media.localCandidates.head? = some first)
    (hice : sipeMediaSdpCandidatesFormat media.localCandidates call rc =
      .ok (joinLines (ice.map attrLine))) :
    sipeMediaCreateSdp ip media call rc =
      .ok (joinLines (sdpHeader ip first.port media.localCodecs ++
        (createdAttrs ice (decide (call.state = .held)) media.localCodecs).map attrLine)) := by
  have hl : listHead media.localCandidates = .ok first := by
    cases h : media.localCandidates <;> simp_all [listHead]
  rw [sipeMediaCreateSdp]
  simp only [hl, hice, sipeMediaSdpCodecsFormat_eq, bind, Except.bind, pure, Except.pure,
    createdAttrs, List.map_append, joinLines_append]
  by_cases hh : call.state = .held <;>
    simp only [hh, decide_True, decide_False, if_true, if_false, Bool.false_eq_true,
      List.map_cons, List.map_nil, sdpHeader, joinLines, List.flatMap_cons, List.flatMap_nil,
      List.append_assoc, List.append_nil] <;> rfl

/-! ## What the round trip asks of the engine's data -/

/-- A local codec whose lines read back: a non-NULL encoding name that stays one token of
the `rtpmap` value, and optional parameters that stay on the `fmtp` line. -/
structure SendableCodec (c : Codec) : Prop where
  name : ∃ n, c.encodingName = some n ∧ ' ' ∉ n ∧ '/' ∉ n ∧ CrlfFree n
  params : ∀ p ∈ c.optionalParams, CrlfFree p.1 ∧ CrlfFree p.2

/-- A local candidate whose line prints and reads back: a non-NULL foundation and IP that
stay one token each, a component and a type the line can print, UDP, and a priority that
`atoi` reads back. -/
structure SendableCandidate (c : Candidate) : Prop where
  foundation : ∃ f, c.foundation = some f ∧ ' ' ∉ f ∧ CrlfFree f
  ip : ∃ a, c.ip = some a ∧ ' ' ∉ a ∧ CrlfFree a
  component : c.componentId = .rtp ∨ c.componentId = .rtcp
  protocol : c.protocol = .udp
  type : c.candidateType = .host ∨ c.candidateType = .relay ∨ c.candidateType = .srflx
  priority : c.priority.toNat < 2 ^ 31

/-- Remote candidates the `a=remote-candidates` line can be written from: two at least, the
first two with IPs that stay on the line. -/
def SendableRemotes (remotes : List Candidate) : Prop :=
  ∃ first second rest, remotes = first :: second :: rest ∧
    (∀ a ∈ first.ip, CrlfFree a) ∧ ∀ a ∈ second.ip, CrlfFree a

/-! ## Reading one line back -/

private theorem atoi_fmtD_asInt (x : UInt32) : atoi (fmtD (asInt x.toNat)) = asInt x.toNat :=
  atoi_fmtD (asInt_bounds x.toNat_lt_size).1 (asInt_bounds x.toNat_lt_size).2

/-- The `rtpmap` value of a sendable codec gives back its id, name and clock rate, as an
audio codec with no parameters. -/
theorem parseRtpmap_rtpmapValue {c : Codec} (hc : SendableCodec c) :
    parseRtpmap (rtpmapValue c) =
      .ok (some { c with mediaType := .audio, optionalParams := [] }) := by
  obtain ⟨n, hn, hsp, hsl, -⟩ := hc.name
  rw [rtpmapValue, hn, fmtS, List.append_assoc, List.cons_append,
    parseRtpmap_tokens _ (not_mem_fmtD_of (by decide) _)
      fun x hx h => by rcases List.mem_pair.mp h with rfl | rfl <;> contradiction]
  simp [atoi_fmtD_asInt, purpleMediaCodecNew, toGuint32_asInt, hn]

private theorem componentNumber_sendable {c : Candidate} (hc : SendableCandidate c) :
    ∃ k, componentNumber c.componentId = .ok k ∧
      componentOfInt (atoi (fmtU k)) = c.componentId := by
  rcases hc.component with h | h <;> rw [h] <;> exact ⟨_, rfl, by decide⟩

private theorem candidateTypeText_sendable {c : Candidate} (hc : SendableCandidate c) :
    ∃ t, candidateTypeText c.candidateType = .ok t ∧
      candidateTypeOf (some t) = some c.candidateType ∧ ' ' ∉ t ∧ CrlfFree t := by
  rcases hc.type with h | h | h <;> rw [h] <;> exact ⟨_, rfl, by decide, by decide, by decide⟩

/-- The line of a sendable candidate carries a value without CRLF from which
`parseCandidateAttr` rebuilds the candidate, all but its ICE credentials. -/
theorem candidateText_sendable {c : Candidate} (hc : SendableCandidate c) :
    ∃ v, candidateText c = .ok (attrLine ("candidate".toList, some v) ++ crlf) ∧ CrlfFree v ∧
      parseCandidateAttr v = .ok (some { c with username := none, password := none }) := by
  obtain ⟨k, hk, hck⟩ := componentNumber_sendable hc
  obtain ⟨t, ht, hct, hts, htc⟩ := candidateTypeText_sendable hc
  obtain ⟨f, hf, hfs, hfc⟩ := hc.foundation
  obtain ⟨a, ha, has, hac⟩ := hc.ip
  have hsp : ∀ x ∈ candidateTokens c k t, ' ' ∉ x := by
    simp only [candidateTokens, List.forall_mem_cons, List.forall_mem_nil, and_true, hf, ha,
      hc.protocol, fmtS]
    exact ⟨hfs, fun h => absurd (mem_fmtU h) (by decide), by decide,
      fun h => absurd (mem_fmtU h) (by decide), has, fun h => absurd (mem_fmtD h) (by decide),
      by decide, hts, by simp⟩
  refine ⟨_, candidateText_eq hk ht, crlfFree_intercalate_space ?_, ?_⟩
  · simp [candidateTokens, hf, ha, hc.protocol, fmtS, protocolText, hfc, hac, htc]
  · rw [parseCandidateAttr_tokens (by simp [candidateTokens]) hsp]
    obtain ⟨foundation, component, type, protocol, ip, port, priority, username, password⟩ := c
    simp only at hf ha hk ht hck hct ⊢
    have hp : protocol = .udp := hc.protocol
    subst hf ha hp
    simp [candidateTokens, hck, hct, protocolText, fmtS, atoi_fmtU hc.priority, toGuint32_natCast,
      toGuint16_atoi_fmtD, purpleMediaCandidateNew]

/-! ## Reading the body back -/

/-- The `o=` line sets the remote IP to its sixth field, the local IP. -/
theorem parseSdpLine_origin (st : FrameScan) (ip : LocalIp) :
    parseSdpLine st ("o=- 0 0 IN IP4 ".toList ++ ip.text) =
      .ok (some { st with remoteIp := some ip.text }) := by
  have hsplit : gStrsplit ("- 0 0 IN IP4 ".toList ++ ip.text) [' '] 6 =
      ["-".toList, "0".toList, "0".toList, "IN".toList, "IP4".toList, ip.text] := by
    rw [gStrsplit_singleton, gStrsplitSet, if_neg (by simp)]
    simp [strsplitSetScan, mayCut, strsplitSetScan_of_not_mayCut (show ¬ mayCut 6 5 by decide)]
  simp at hsplit
  simp [parseSdpLine, gStrHasPrefix, hsplit, bind, Except.bind, pure, Except.pure]

/-- The `m=` line sets the remote port to its second field, the local port. -/
theorem parseSdpLine_media (st : FrameScan) (port : UInt16) (rest : List Char) :
    parseSdpLine st ("m=audio ".toList ++ fmtD port.toNat ++ ' ' :: rest) =
      .ok (some { st with remotePort := port }) := by
  have hsplit : gStrsplit ("audio ".toList ++ fmtD port.toNat ++ ' ' :: rest) [' '] 3 =
      ["audio".toList, fmtD port.toNat, rest] := by
    rw [gStrsplit_singleton, gStrsplitSet, if_neg (by simp)]
    simp [strsplitSetScan, mayCut]
    rw [strsplitSetScan_cut _ (show ' ' ∈ [' '] by decide) (show mayCut 3 1 by decide)
        (not_mem_fmtD_of (by decide) _),
      strsplitSetScan_of_not_mayCut (show ¬ mayCut 3 2 by decide)]
    simp
  simp at hsplit
  simp [parseSdpLine, gStrHasPrefix, hsplit, atoiArg, toGuint16_atoi_fmtD, bind, Except.bind,
    pure, Except.pure]

/-- The header sets the remote IP and port and adds no attribute. -/
theorem parseSdpLines_sdpHeader (ip : LocalIp) (port : UInt16) (codecs : List Codec) :
    parseSdpLines .init (sdpHeader ip port codecs) = .ok (some ⟨[], some ip.text, port⟩) := by
  have ho := fun st => parseSdpLine_origin st ip
  have hm := fun st =>
    parseSdpLine_media st port ("RTP/AVP".toList ++ sipeMediaSdpCodecIdsFormat codecs)
  simp at ho hm
  simp [sdpHeader, parseSdpLines, parseSdpLine_skip, ho, hm, FrameScan.init, bind, Except.bind,
    pure, Except.pure]

/-! ## The attributes of a sendable body -/

private theorem sendableAttr_some {name v : List Char} (hn : name ≠ [] ∧ ':' ∉ name ∧ CrlfFree name)
    (hv : CrlfFree v) : Attr.Sendable (name, some v) :=
  ⟨hn.1, hn.2.1, hn.2.2, by simpa using hv⟩

private theorem sendableAttr_none {name : List Char} (hn : name ≠ [] ∧ ':' ∉ name ∧ CrlfFree name) :
    Attr.Sendable (name, none) :=
  ⟨hn.1, hn.2.1, hn.2.2, by simp⟩

theorem crlfFree_fmtS {s : Option (List Char)} (h : ∀ x ∈ s, CrlfFree x) : CrlfFree (fmtS s) := by
  cases s with
  | none => decide
  | some x => exact h x rfl

@[simp] theorem crlfFree_text (ip : LocalIp) : CrlfFree ip.text := by
  simp [LocalIp.text, crlfFree_append_cons]

theorem crlfFree_sdpHeader (ip : LocalIp) (port : UInt16) (codecs : List Codec) :
    ∀ l ∈ sdpHeader ip port codecs, CrlfFree l := by
  have hids : CrlfFree (sipeMediaSdpCodecIdsFormat codecs) :=
    crlfFree_of_not_mem (by simp [sipeMediaSdpCodecIdsFormat])
  simp [sdpHeader, crlfFree_append_cons, hids]

private theorem crlfFree_append_params {ps : List (List Char × List Char)}
    (hps : ∀ p ∈ ps, CrlfFree p.1 ∧ CrlfFree p.2) {s : List Char} (hs : CrlfFree s) :
    CrlfFree (s ++ ps.flatMap fun p => ' ' :: p.1 ++ '=' :: p.2) := by
  induction ps generalizing s with
  | nil => simpa using hs
  | cons p ps ih =>
    have hp := hps p (List.mem_cons_self _ _)
    rw [List.flatMap_cons, ← List.append_assoc]
    exact ih (fun q hq => hps q (List.mem_cons_of_mem _ hq))
      (by simpa [crlfFree_append_cons, hs] using hp)

theorem sendable_codecAttrs {c : Codec} (hc : SendableCodec c) :
    ∀ a ∈ codecAttrs c, Attr.Sendable a := by
  obtain ⟨n, hn, -, -, hnc⟩ := hc.name
  have hr : Attr.Sendable ("rtpmap".toList, some (rtpmapValue c)) :=
    sendableAttr_some (by decide) (by simp [rtpmapValue, hn, fmtS, crlfFree_append_cons, hnc])
  have hf : Attr.Sendable ("fmtp".toList, some (fmtpValue c)) :=
    sendableAttr_some (by decide) (crlfFree_append_params hc.params (crlfFree_fmtD _))
  unfold codecAttrs
  split
  · exact List.forall_mem_singleton.mpr hr
  · exact List.forall_mem_cons.mpr ⟨hr, List.forall_mem_singleton.mpr hf⟩

theorem sendable_remoteAttrs {rc : Bool} {remotes : List Candidate}
    (h : rc = true → SendableRemotes remotes) : ∀ a ∈ remoteAttrs rc remotes, Attr.Sendable a := by
  cases rc with
  | false => simp [remoteAttrs]
  | true =>
    obtain ⟨first, second, rest, rfl, h1, h2⟩ := h rfl
    exact List.forall_mem_singleton.mpr (sendableAttr_some (by decide)
      (by simpa [remoteValue, crlfFree_append_cons] using ⟨crlfFree_fmtS h1, crlfFree_fmtS h2⟩))

theorem sendable_iceAttrs {u p : List Char} {vs : List (List Char)} {remote : List Attr}
    {rtcpPort : UInt16} (hu : CrlfFree u) (hp : CrlfFree p) (hvs : ∀ v ∈ vs, CrlfFree v)
    (hr : ∀ a ∈ remote, Attr.Sendable a) :
    ∀ a ∈ iceAttrs u p vs remote rtcpPort, Attr.Sendable a := by
  simp only [iceAttrs, List.forall_mem_cons, List.forall_mem_append, List.forall_mem_map]
  refine ⟨⟨⟨sendableAttr_some (by decide) hu, sendableAttr_some (by decide) hp,
    fun v hv => sendableAttr_some (by decide) (hvs v hv)⟩, hr⟩, ?_⟩
  split
  · exact List.forall_mem_cons.mpr ⟨sendableAttr_some (by decide) (by decide),
      List.forall_mem_singleton.mpr (sendableAttr_some (by decide) (crlfFree_fmtU _))⟩
  · exact List.forall_mem_nil _

theorem sendable_createdAttrs {ice : List Attr} {held : Bool} {codecs : List Codec}
    (hice : ∀ a ∈ ice, Attr.Sendable a) (hcodecs : ∀ c ∈ codecs, SendableCodec c) :
    ∀ a ∈ createdAttrs ice held codecs, Attr.Sendable a := by
  simp only [createdAttrs, List.forall_mem_append, List.forall_mem_singleton]
  refine ⟨⟨⟨hice, ?_⟩, fun a ha => ?_⟩, sendableAttr_some (by decide) (by decide)⟩
  · split
    · exact List.forall_mem_singleton.mpr (sendableAttr_none (by decide))
    · exact List.forall_mem_nil _
  · obtain ⟨c, hc, ha⟩ := List.mem_flatMap.mp ha
    exact sendable_codecAttrs (hcodecs c hc) a ha

/-! ## Looking the attributes up -/

private theorem instances_codecAttrs (c : Codec) {name : List Char} (h : "fmtp".toList ≠ name) :
    instances (codecAttrs c) name =
      if "rtpmap".toList = name then [some (rtpmapValue c)] else [] := by
  unfold codecAttrs
  split <;> simp only [instances_cons, instances_nil, if_neg h]

private theorem instances_remoteAttrs (rc : Bool) (remotes : List Candidate) {name : List Char}
    (h : "remote-candidates".toList ≠ name) : instances (remoteAttrs rc remotes) name = [] := by
  unfold remoteAttrs
  split <;> simp only [instances_cons, instances_nil, if_neg h]

private theorem instances_inactive (held : Bool) {name : List Char}
    (h : "inactive".toList ≠ name) :
    instances (if held then [("inactive".toList, none)] else []) name = [] := by
  split <;> simp only [instances_cons, instances_nil, if_neg h]

private theorem instances_rtcp (rtcpPort : UInt16) {name : List Char}
    (h1 : "maxptime".toList ≠ name) (h2 : "rtcp".toList ≠ name) :
    instances (if rtcpPort ≠ 0 then
      [("maxptime".toList, some "200".toList), ("rtcp".toList, some (fmtU rtcpPort.toNat))]
      else []) name = [] := by
  split <;> simp only [instances_cons, instances_nil, if_neg h1, if_neg h2]

/-- The `rtpmap` values of the body are those of the codecs, in order. -/
theorem instances_createdAttrs_rtpmap (u p : List Char) (vs : List (List Char)) (rc : Bool)
    (remotes : List Candidate) (rtcpPort : UInt16) (held : Bool) (codecs : List Codec) :
    instances (createdAttrs (iceAttrs u p vs (remoteAttrs rc remotes) rtcpPort) held codecs)
      "rtpmap".toList = (codecs.map rtpmapValue).map some := by
  simp only [createdAttrs, iceAttrs, instances_append, instances_cons, instances_map_pair,
    instances_flatMap, instances_codecAttrs _ (show "fmtp".toList ≠ "rtpmap".toList by decide),
    instances_remoteAttrs _ _ (show "remote-candidates".toList ≠ "rtpmap".toList by decide),
    instances_inactive _ (show "inactive".toList ≠ "rtpmap".toList by decide),
    instances_rtcp _ (show "maxptime".toList ≠ "rtpmap".toList by decide)
      (show "rtcp".toList ≠ "rtpmap".toList by decide)]
  simp [← List.map_eq_flatMap]

/-- The `candidate` values of the body are the candidate lines' values, in order. -/
theorem instances_createdAttrs_candidate (u p : List Char) (vs : List (List Char)) (rc : Bool)
    (remotes : List Candidate) (rtcpPort : UInt16) (held : Bool) (codecs : List Codec) :
    instances (createdAttrs (iceAttrs u p vs (remoteAttrs rc remotes) rtcpPort) held codecs)
      "candidate".toList = vs.map some := by
  simp only [createdAttrs, iceAttrs, instances_append, instances_cons, instances_map_pair,
    instances_flatMap, instances_codecAttrs _ (show "fmtp".toList ≠ "candidate".toList by decide),
    instances_remoteAttrs _ _ (show "remote-candidates".toList ≠ "candidate".toList by decide),
    instances_inactive _ (show "inactive".toList ≠ "candidate".toList by decide),
    instances_rtcp _ (show "maxptime".toList ≠ "candidate".toList by decide)
      (show "rtcp".toList ≠ "candidate".toList by decide)]
  simp

/-- The first `ice-ufrag` and `ice-pwd` values of the body are the credentials written. -/
theorem namevalFind_createdAttrs (u p : List Char) (vs : List (List Char)) (remote : List Attr)
    (rtcpPort : UInt16) (held : Bool) (codecs : List Codec) :
    namevalFind (createdAttrs (iceAttrs u p vs remote rtcpPort) held codecs) "ice-ufrag".toList =
      some u ∧
    namevalFind (createdAttrs (iceAttrs u p vs remote rtcpPort) held codecs) "ice-pwd".toList =
      some p := by
  simp [namevalFind, namevalFindInstance, createdAttrs, iceAttrs]

/-! ## The round trip -/

/-- A body of header and sendable attribute lines parses into the attributes, with the
header's IP and port. -/
theorem sipeMediaParseSdpFrame_sdpHeader (peer : SipeMediaCall) (ip : LocalIp) (port : UInt16)
    (codecs : List Codec) {attrs : List Attr} (h : ∀ a ∈ attrs, Attr.Sendable a) :
    sipeMediaParseSdpFrame peer (joinLines (sdpHeader ip port codecs ++ attrs.map attrLine)) =
      .ok (true,
        { peer with sdpAttrs := attrs, remoteIp := some ip.text, remotePort := port }) := by
  have hlines : ∀ l ∈ sdpHeader ip port codecs ++ attrs.map attrLine, CrlfFree l := by
    simp only [List.forall_mem_append, List.forall_mem_map]
    exact ⟨crlfFree_sdpHeader ip port codecs, fun a ha => crlfFree_attrLine (h a ha)⟩
  rw [sipeMediaParseSdpFrame, parseSdpFrame, gStrsplit_joinLines (by simp [sdpHeader]) hlines,
    List.append_assoc, parseSdpLines_append (parseSdpLines_sdpHeader ip port codecs),
    parseSdpLines_attrLines _ h]
  rfl

private theorem candidateValues {cs : List Candidate} (h : ∀ c ∈ cs, SendableCandidate c) :
    ∃ vs, (∀ v ∈ vs, CrlfFree v) ∧ List.Forall₂ (fun c v =>
      candidateText c = .ok (attrLine ("candidate".toList, some v) ++ crlf) ∧
        parseCandidateAttr v = .ok (some { c with username := none, password := none })) cs vs := by
  induction cs with
  | nil => exact ⟨[], List.forall_mem_nil _, .nil⟩
  | cons c cs ih =>
    obtain ⟨v, htext, hv, hparse⟩ := candidateText_sendable (h c (List.mem_cons_self _ _))
    obtain ⟨vs, hvsc, hvs⟩ := ih fun c' hc' => h c' (List.mem_cons_of_mem _ hc')
    exact ⟨v :: vs, List.forall_mem_cons.mpr ⟨hv, hvsc⟩, .cons ⟨htext, hparse⟩ hvs⟩

/-- The candidates read back from their values get the shared credentials back. -/
private theorem withCredentials_strip {cs : List Candidate} {u p : List Char}
    (h : ∀ c ∈ cs, c.username = some u ∧ c.password = some p) :
    (cs.map fun c => { c with username := none, password := none }).map
      (withCredentials (some u) (some p)) = cs := by
  rw [List.map_map]
  conv_rhs => rw [← List.map_id cs]
  refine List.map_congr_left fun c hc => ?_
  obtain ⟨hu, hp⟩ := h c hc
  cases c
  simp_all [withCredentials]

/-- Writing an SDP body for a non-legacy call and parsing it back gives the local IP and the
first candidate's port, the local codecs' ids, names and clock rates in order, and the local
candidates in order with every field, and leaves the reader's `legacy_mode` as it was. The
engine's data must be sendable: non-NULL names that stay one token and one line each,
printable components and types, UDP candidates with one shared non-NULL username and password;
and when the remote pair is asked for, the call must have two remote candidates. -/
theorem sipeMediaCreateSdp_round_trip (ip : LocalIp) (media : MediaState)
    (call peer : SipeMediaCall) (remoteCandidate : Bool) {first : Candidate} {u p : List Char}
    (hlegacy : call.legacyMode = false)
    (hfirst : media.localCandidates.head? = some first)
    (hcodecs : ∀ c ∈ media.localCodecs, SendableCodec c)
    (hcands : ∀ c ∈ media.localCandidates, SendableCandidate c)
    (hcred : ∀ c ∈ media.localCandidates, c.username = some u ∧ c.password = some p)
    (hu : CrlfFree u) (hp : CrlfFree p)
    (hremote : remoteCandidate = true → SendableRemotes call.remoteCandidates) :
    ∃ body peer', sipeMediaCreateSdp ip media call remoteCandidate = .ok body ∧
      sipeMediaParseSdpFrame peer body = .ok (true, peer') ∧
      peer'.remoteIp = some ip.text ∧ peer'.remotePort = first.port ∧
      sipeMediaParseRemoteCodecs peer' =
        .ok (media.localCodecs.map fun c => { c with mediaType := .audio, optionalParams := [] }) ∧
      sipeMediaParseRemoteCandidates peer' = .ok (media.localCandidates, peer.legacyMode) := by
  obtain ⟨vs, hvsc, hvs⟩ := candidateValues hcands
  have hfirst_mem : first ∈ media.localCandidates := List.mem_of_mem_head? hfirst
  obtain ⟨hfu, hfp⟩ := hcred first hfirst_mem
  have hice := sipeMediaSdpCandidatesFormat_eq hfirst hlegacy (hvs.imp fun _ _ h => h.1)
    fun h => by obtain ⟨_, _, _, hr, -⟩ := hremote h; simp [hr]
  rw [hfu, hfp, fmtS, fmtS] at hice
  have hattrs : ∀ a ∈ createdAttrs (iceAttrs u p vs (remoteAttrs remoteCandidate
      call.remoteCandidates) (rtcpPortOf media.localCandidates)) (decide (call.state = .held))
      media.localCodecs, Attr.Sendable a :=
    sendable_createdAttrs (sendable_iceAttrs hu hp hvsc (sendable_remoteAttrs hremote)) hcodecs
  refine ⟨_, _, sipeMediaCreateSdp_eq ip hfirst hice,
    sipeMediaParseSdpFrame_sdpHeader peer ip first.port _ hattrs, rfl, rfl, ?_, ?_⟩
  · rw [sipeMediaParseRemoteCodecs_eq]
    simp only [instances_createdAttrs_rtpmap]
    exact collectInstances_map_some (List.forall₂_map_left_iff.mpr
      (List.forall₂_map_right_iff.mpr (List.forall₂_same.mpr
        fun c hc => parseRtpmap_rtpmapValue (hcodecs c hc))))
  · have hfound : collectInstances parseCandidateAttr (vs.map some) =
        .ok (media.localCandidates.map fun c => { c with username := none, password := none }) :=
      collectInstances_map_some (List.forall₂_map_right_iff.mpr (List.Forall₂.flip
        (hvs.imp fun _ _ h => h.2)))
    rw [sipeMediaParseRemoteCandidates_of_found (by rw [instances_createdAttrs_candidate, hfound])]
    simp only [namevalFind_createdAttrs]
    have hne : media.localCandidates ≠ [] := List.ne_nil_of_mem hfirst_mem
    simp [hne, withCredentials_strip hcred]

theorem sendable_hostCandidate {component : ComponentType}
    (h : component = .rtp ∨ component = .rtcp) (port : UInt16) :
    SendableCandidate (hostCandidate component port) :=
  ⟨⟨_, rfl, by decide, by decide⟩, ⟨_, rfl, by decide, by decide⟩, h, rfl, .inl rfl,
    show (100 : UInt32).toNat < 2 ^ 31 by decide⟩

/-- The round trip of the traces' engine report, answered without the remote pair. -/
theorem sipeMediaCreateSdp_round_trip_engine0 :
    ∃ body peer', sipeMediaCreateSdp env0.localIp engine0 .zeroed false = .ok body ∧
      sipeMediaParseSdpFrame .zeroed body = .ok (true, peer') ∧
      peer'.remoteIp = some env0.localIp.text ∧ peer'.remotePort = 6000 ∧
      sipeMediaParseRemoteCodecs peer' =
        .ok (engine0.localCodecs.map fun c => { c with mediaType := .audio, optionalParams := [] }) ∧
      sipeMediaParseRemoteCandidates peer' = .ok (engine0.localCandidates, false) :=
  sipeMediaCreateSdp_round_trip env0.localIp engine0 .zeroed .zeroed false (u := "ufrag".toList)
    (p := "pwd".toList) rfl rfl
    (List.forall_mem_singleton.mpr ⟨⟨_, rfl, by decide, by decide, by decide⟩, by simp [pcmu]⟩)
    (List.forall_mem_cons.mpr ⟨sendable_hostCandidate (.inl rfl) _,
      List.forall_mem_singleton.mpr (sendable_hostCandidate (.inr rfl) _)⟩)
    (by simp [engine0, hostCandidate]) (by decide) (by decide) (by simp)

/-! ## Legacy answers

For a legacy call `sipe_media_sdp_candidates_format` returns before its first line (line
325): the body has no ICE section, and a reader keeps no candidate line. -/

private theorem instances_legacyAttrs (held : Bool) (codecs : List Codec) {name : List Char}
    (h1 : "fmtp".toList ≠ name) (h2 : "inactive".toList ≠ name)
    (h3 : "encryption".toList ≠ name) :
    instances (createdAttrs [] held codecs) name =
      if "rtpmap".toList = name then (codecs.map rtpmapValue).map some else [] := by
  simp only [createdAttrs, List.nil_append, instances_append, instances_flatMap,
    instances_codecAttrs _ h1, instances_inactive _ h2, instances_cons, instances_nil, if_neg h3,
    List.append_nil]
  split <;> simp [← List.map_eq_flatMap]

/-- Writing an SDP body for a legacy call and parsing it back gives the local IP and the first
local candidate's port, and the local codecs' ids, names and clock rates in order, but no
candidate line and no credentials: the reader's resolver falls back to the legacy pair at that
address, RTP on the port and RTCP on the next, and sets the reader's `legacy_mode`, whatever it
was. The remote pair is never read, so the call's remote candidates do not matter. -/
theorem sipeMediaCreateSdp_round_trip_legacy (ip : LocalIp) (media : MediaState)
    (call peer : SipeMediaCall) (remoteCandidate : Bool) {first : Candidate}
    (hlegacy : call.legacyMode = true)
    (hfirst : media.localCandidates.head? = some first)
    (hcodecs : ∀ c ∈ media.localCodecs, SendableCodec c) :
    ∃ body peer', sipeMediaCreateSdp ip media call remoteCandidate = .ok body ∧
      sipeMediaParseSdpFrame peer body = .ok (true, peer') ∧
      peer'.remoteIp = some ip.text ∧ peer'.remotePort = first.port ∧
      sipeMediaParseRemoteCodecs peer' =
        .ok (media.localCodecs.map fun c => { c with mediaType := .audio, optionalParams := [] }) ∧
      sipeMediaParseRemoteCandidates peer' = .ok (legacyCandidates (some ip.text) first.port, true) := by
  have hice : sipeMediaSdpCandidatesFormat media.localCandidates call remoteCandidate =
      .ok (joinLines (([] : List Attr).map attrLine)) := by
    obtain ⟨rest, hcs⟩ : ∃ rest, media.localCandidates = first :: rest := by
      cases h : media.localCandidates <;> simp_all
    simp only [sipeMediaSdpCandidatesFormat, hcs, listHead, hlegacy]
    rfl
  have hattrs : ∀ a ∈ createdAttrs [] (decide (call.state = .held)) media.localCodecs,
      Attr.Sendable a :=
    sendable_createdAttrs (List.forall_mem_nil _) hcodecs
  refine ⟨_, _, sipeMediaCreateSdp_eq ip hfirst hice,
    sipeMediaParseSdpFrame_sdpHeader peer ip first.port _ hattrs, rfl, rfl, ?_, ?_⟩
  · rw [sipeMediaParseRemoteCodecs_eq, instances_legacyAttrs _ _
      (show "fmtp".toList ≠ "rtpmap".toList by decide) (by decide) (by decide), if_pos rfl]
    exact collectInstances_map_some (List.forall₂_map_left_iff.mpr
      (List.forall₂_map_right_iff.mpr (List.forall₂_same.mpr
        fun c hc => parseRtpmap_rtpmapValue (hcodecs c hc))))
  · have hnone : ∀ name, "fmtp".toList ≠ name → "inactive".toList ≠ name →
        "encryption".toList ≠ name → "rtpmap".toList ≠ name →
        instances (createdAttrs [] (decide (call.state = .held)) media.localCodecs) name = [] :=
      fun _ h1 h2 h3 h4 => by rw [instances_legacyAttrs _ _ h1 h2 h3, if_neg h4]
    rw [sipeMediaParseRemoteCandidates_of_found (by
      rw [hnone _ (by decide) (by decide) (by decide) (by decide)]; rfl)]
    have hu : namevalFind (createdAttrs [] (decide (call.state = .held)) media.localCodecs)
        "ice-ufrag".toList = none := by
      rw [namevalFind, namevalFindInstance, hnone _ (by decide) (by decide) (by decide) (by decide)]
      rfl
    dsimp only
    rw [hu]
    rfl

/-- The round trip of the traces' engine report for a legacy call, answered with the remote
pair asked for: the reader is put in legacy mode at the account's address. -/
theorem sipeMediaCreateSdp_round_trip_legacy_engine0 :
    ∃ body peer',
      sipeMediaCreateSdp env0.localIp engine0 { SipeMediaCall.zeroed with legacyMode := true } true =
        .ok body ∧
      sipeMediaParseSdpFrame .zeroed body = .ok (true, peer') ∧
      peer'.remoteIp = some env0.localIp.text ∧ peer'.remotePort = 6000 ∧
      sipeMediaParseRemoteCodecs peer' =
        .ok (engine0.localCodecs.map fun c => { c with mediaType := .audio, optionalParams := [] }) ∧
      sipeMediaParseRemoteCandidates peer' =
        .ok (legacyCandidates (some env0.localIp.text) 6000, true) :=
  sipeMediaCreateSdp_round_trip_legacy env0.localIp engine0 _ .zeroed true rfl rfl
    (List.forall_mem_singleton.mpr ⟨⟨_, rfl, by decide, by decide, by decide⟩, by simp [pcmu]⟩)

/-- The body `sipe_media_create_sdp` writes for the traces' account, parsed into a zeroed
call. -/
def reparse (media : MediaState) (call : SipeMediaCall) (remoteCandidate : Bool) :
    Except Fault SipeMediaCall := do
  let body ← sipeMediaCreateSdp env0.localIp media call remoteCandidate
  let (_, peer) ← sipeMediaParseSdpFrame .zeroed body
  return peer

/-- The traces' engine report with an `fmtp` parameter whose value holds a CRLF and an
`rtpmap` line. -/
def injectedEngine : MediaState :=
  { engine0 with localCodecs :=
      [{ pcmu with optionalParams := [("k".toList, "1\r\na=rtpmap:8 PCMA/8000".toList)] }] }

/-- The traces' engine report with a codec whose encoding name is NULL. -/
def nullNameEngine : MediaState :=
  { engine0 with localCodecs := [{ pcmu with encodingName := none }] }

/-- The traces' engine report with an RTP candidate whose foundation is NULL. -/
def nullFoundationEngine : MediaState :=
  { engine0 with localCandidates :=
      [{ hostCandidate .rtp 6000 with foundation := none }, hostCandidate .rtcp 6001] }

/-- A non-legacy call that kept a single remote candidate. -/
def oneRemoteCall : SipeMediaCall :=
  { SipeMediaCall.zeroed with remoteCandidates := [hostCandidate .rtp 5004] }

/-- A non-legacy call whose first remote IP holds a CRLF and an `rtpmap` line. -/
def injectedRemoteCall : SipeMediaCall :=
  { SipeMediaCall.zeroed with remoteCandidates :=
      [{ hostCandidate .rtp 5004 with ip := some "10.0.0.5\r\na=rtpmap:8 PCMA/8000".toList },
        hostCandidate .rtcp 5005] }

/-- Outside the sendable data the round trip fails: a CRLF in an `fmtp` value or in a remote
IP adds a codec, a NULL encoding name or foundation comes back as `(null)`, and asking for
the remote pair of a call with one remote candidate reads `remote_candidates->next->data` of
a one-cell list. -/
theorem sipeMediaCreateSdp_round_trip_breaks :
    (reparse injectedEngine .zeroed false >>= sipeMediaParseRemoteCodecs).map
      (List.map Codec.encodingName) = .ok [some "PCMU".toList, some "PCMA".toList] ∧
    (reparse engine0 injectedRemoteCall true >>= sipeMediaParseRemoteCodecs).map
      (List.map Codec.encodingName) = .ok [some "PCMA".toList, some "PCMU".toList] ∧
    (reparse nullNameEngine .zeroed false >>= sipeMediaParseRemoteCodecs).map
      (List.map Codec.encodingName) = .ok [some "(null)".toList] ∧
    (reparse nullFoundationEngine .zeroed false >>= sipeMediaParseRemoteCandidates).map
      (fun r => r.1.map Candidate.foundation) = .ok [some "(null)".toList, some "1".toList] ∧
    sipeMediaCreateSdp env0.localIp engine0 oneRemoteCall true = .error .emptyList := by
  refine ⟨?_, ?_, ?_, ?_, by decide⟩ <;> set_option maxRecDepth 100000 in decide

end SipeMedia.Sdp
