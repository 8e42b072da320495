import SipeMedia.Call.Runs

/-!
# Reading an offer

What `sipe_media_parse_sdp_frame` (`src/core/sipe-media.c:553–596`),
`sipe_media_parse_remote_codecs` with `sipe_media_prune_remote_codecs` (lines 97–160) and
`sipe_media_parse_remote_candidates` (lines 162–259) make of every input of the shape their
loops read: the attribute pairs of a body, the negotiated codecs with the ownership of the
pruned list's cells, and the remote candidates or the legacy pair.
-/

namespace SipeMedia.Sdp

open SipeMedia.Base SipeMedia.Purple SipeMedia.Call

/-! ## The attribute set of a body -/

/-- For a body whose `o=` and `m=` lines have the fields the loop reads, the parse fails exactly
when some line is `a=` with nothing after it, and then leaves the call as it was; otherwise it
installs one pair per `a=` line, in line order, cut at the first `:`. -/
theorem sipeMediaParseSdpFrame_lines (call : SipeMediaCall) (body : List Char)
    (hread : ∀ line ∈ gStrsplit body crlf 0, LineReadable line) :
    ∃ ok call', sipeMediaParseSdpFrame call body = .ok (ok, call') ∧
      (ok = false ↔ ['a', '='] ∈ gStrsplit body crlf 0) ∧
      (ok = true → call'.sdpAttrs = (gStrsplit body crlf 0).filterMap lineAttr) ∧
      (ok = false → call' = call) := by
  obtain ⟨st, hp, ha⟩ := parseSdpLines_readable .init hread
  by_cases hm : ['a', '='] ∈ gStrsplit body crlf 0
  · refine ⟨false, call, ?_, by simp [hm], by simp, fun _ => rfl⟩
    simp [sipeMediaParseSdpFrame, parseSdpFrame, hp, hm, bind, Except.bind, pure, Except.pure]
  · refine ⟨true, { call with sdpAttrs := st.attrs, remoteIp := st.remoteIp, remotePort := st.remotePort },
      ?_, by simp [hm], fun _ => by simpa [FrameScan.init] using ha, by simp⟩
    simp [sipeMediaParseSdpFrame, parseSdpFrame, hp, hm, bind, Except.bind, pure, Except.pure]

/-- The ICE offer of the traces is read without undefined behaviour. -/
theorem sipeMediaParseSdpFrame_lines_iceOffer :
    (∀ line ∈ gStrsplit iceOffer.toList crlf 0, LineReadable line) ∧
    ∃ ok call', sipeMediaParseSdpFrame .zeroed iceOffer.toList = .ok (ok, call') ∧
      (ok = false ↔ ['a', '='] ∈ gStrsplit iceOffer.toList crlf 0) ∧
      (ok = true → call'.sdpAttrs = (gStrsplit iceOffer.toList crlf 0).filterMap lineAttr) ∧
      (ok = false → call' = .zeroed) := by
  have h : ∀ line ∈ gStrsplit iceOffer.toList crlf 0, LineReadable line := by decide
  exact ⟨h, sipeMediaParseSdpFrame_lines .zeroed _ h⟩

/-- A line with a `:` right after `a=` has an empty name and is installed as such; a short `o=`
line is read past its vector. -/
theorem sipeMediaParseSdpFrame_lines_breaks :
    sipeMediaParseSdpFrame .zeroed "a=:x".toList =
      .ok (true, { SipeMediaCall.zeroed with sdpAttrs := [([], some "x".toList)] }) ∧
    sipeMediaParseSdpFrame .zeroed "o=- 0".toList = .error .pastEnd := by
  decide

/-! ## Codec negotiation -/

/-- An `rtpmap` value `ID NAME/RATE`: the payload type and the clock rate in decimal, inside the
`guint`s of the codec, and an encoding name holding neither separator of line 111. -/
structure Rtpmap where
  id : UInt32
  name : List Char
  rate : UInt32
  name_sep : ∀ c ∈ name, c ∉ [' ', '/']

namespace Rtpmap

/-- The value's text. -/
def text (r : Rtpmap) : List Char :=
  fmtU r.id.toNat ++ ' ' :: (r.name ++ '/' :: fmtU r.rate.toNat)

/-- The codec `(ID, NAME, RATE)`. -/
def codec (r : Rtpmap) : Codec := ⟨r.id, some r.name, .audio, r.rate, []⟩

/-- Whether some local codec has the value's encoding name, compared as `g_strcmp0` does. -/
def named (localCodecs : List Codec) (r : Rtpmap) : Bool :=
  localCodecs.any fun l => l.encodingName == some r.name

end Rtpmap

theorem parseRtpmap_text (r : Rtpmap) : parseRtpmap r.text = .ok (some r.codec) := by
  rw [Rtpmap.text, parseRtpmap_tokens _ (not_mem_fmtU_of (by decide) _) r.name_sep]
  simp [purpleMediaCodecNew, toGuint32_atoi_fmtU, Rtpmap.codec]

/-- For an attribute set whose `rtpmap` values all read `ID NAME/RATE`, the parse and the prune
keep, in attribute order, the codec `(ID, NAME, RATE)` of every value some local codec names.
The prune loop leaves the cell of every kept codec NULL and every dropped codec in its cell,
so `purple_media_codec_list_free` releases exactly the dropped codecs. -/
theorem sipeMediaPruneRemoteCodecs_parsed (call : SipeMediaCall) (localCodecs : List Codec)
    (rs : List Rtpmap) (h : instances call.sdpAttrs "rtpmap".toList = rs.map fun r => some r.text) :
    sipeMediaParseRemoteCodecs call = .ok (rs.map Rtpmap.codec) ∧
    sipeMediaPruneRemoteCodecs localCodecs (rs.map Rtpmap.codec) =
      (rs.filter (Rtpmap.named localCodecs)).map Rtpmap.codec ∧
    (pruneLoop localCodecs (rs.map Rtpmap.codec)).2 =
      rs.map (fun r => if r.named localCodecs then none else some r.codec) ∧
    purpleMediaCodecListFree (pruneLoop localCodecs (rs.map Rtpmap.codec)).2 =
      (rs.filter fun r => !r.named localCodecs).map Rtpmap.codec := by
  have hcells : (pruneLoop localCodecs (rs.map Rtpmap.codec)).2 =
      rs.map (fun r => if r.named localCodecs then none else some r.codec) := by
    rw [pruneLoop_snd, List.map_map]
    rfl
  refine ⟨?_, ?_, hcells, ?_⟩
  · rw [sipeMediaParseRemoteCodecs_eq, h,
      collectInstances_map_some_eq Rtpmap.text fun r _ => parseRtpmap_text r]
    exact congrArg Except.ok (congrFun (List.filterMap_eq_map Rtpmap.codec) rs)
  · rw [sipeMediaPruneRemoteCodecs, List.filter_map]
    rfl
  · rw [hcells, purpleMediaCodecListFree_map]

/-- The local G722 codec of the spec's negotiation example. -/
def g722 : Codec := ⟨9, some "G722".toList, .audio, 8000, []⟩

/-- The remote `rtpmap` values of the spec's negotiation example: G722, PCMU, SPEEX. -/
def exampleRtpmaps : List Rtpmap :=
  [⟨9, "G722".toList, 8000, by decide⟩, ⟨0, "PCMU".toList, 8000, by decide⟩,
    ⟨97, "SPEEX".toList, 8000, by decide⟩]

/-- A call whose attribute set holds the example's `rtpmap` values. -/
def exampleOffer : SipeMediaCall :=
  { SipeMediaCall.zeroed with sdpAttrs := exampleRtpmaps.map fun r => ("rtpmap".toList, some r.text) }

/-- The spec's example: local `[PCMU, G722]`, remote `[G722, PCMU, SPEEX]`; the pruned list is
`[G722, PCMU]`, and only SPEEX is released. -/
theorem sipeMediaPruneRemoteCodecs_parsed_example :
    instances exampleOffer.sdpAttrs "rtpmap".toList = exampleRtpmaps.map (fun r => some r.text) ∧
    sipeMediaParseRemoteCodecs exampleOffer = .ok (exampleRtpmaps.map Rtpmap.codec) ∧
    sipeMediaPruneRemoteCodecs [pcmu, g722] (exampleRtpmaps.map Rtpmap.codec) =
      [⟨9, some "G722".toList, .audio, 8000, []⟩, ⟨0, some "PCMU".toList, .audio, 8000, []⟩] ∧
    purpleMediaCodecListFree (pruneLoop [pcmu, g722] (exampleRtpmaps.map Rtpmap.codec)).2 =
      [⟨97, some "SPEEX".toList, .audio, 8000, []⟩] := by
  have h : instances exampleOffer.sdpAttrs "rtpmap".toList =
      exampleRtpmaps.map (fun r => some r.text) := by decide
  obtain ⟨h1, h2, -, h4⟩ := sipeMediaPruneRemoteCodecs_parsed exampleOffer [pcmu, g722] _ h
  exact ⟨h, h1, h2.trans (by decide), h4.trans (by decide)⟩

/-! ## Remote candidates -/

/-- A `candidate` value the resolver reads without undefined behaviour: at least eight tokens
joined by single spaces, with the integers of the component, priority and port fields inside
the `int`, `guint32` and `guint16` that store them (lines 188, 207 and 209). -/
structure CandidateValue where
  tokens : List (List Char)
  length_ge : 8 ≤ tokens.length
  no_space : ∀ t ∈ tokens, ' ' ∉ t
  component_range : -2 ^ 31 ≤ strtol (tokens.getD 1 []) ∧ strtol (tokens.getD 1 []) < 2 ^ 31
  priority_range : 0 ≤ strtol (tokens.getD 3 []) ∧ strtol (tokens.getD 3 []) < 2 ^ 32
  port_range : 0 ≤ strtol (tokens.getD 5 []) ∧ strtol (tokens.getD 5 []) < 2 ^ 16

namespace CandidateValue

/-- The value's text. -/
def text (v : CandidateValue) : List Char := [' '].intercalate v.tokens

/-- The type token: `host`, `relay` or `srflx`. -/
def type (v : CandidateValue) : Option CandidateType :=
  let t := v.tokens.getD 7 []
  if t = "host".toList then some .host
  else if t = "relay".toList then some .relay
  else if t = "srflx".toList then some .srflx
  else none

/-- The candidate a value stands for: one for a transport of exactly `UDP` and a known type,
with the foundation, component (1 RTP, 2 RTCP, anything else none), priority, ip and port of
tokens 0, 1, 3, 4 and 5, and no ICE credentials. -/
def candidate (v : CandidateValue) : Option Candidate :=
  let tok := fun k => v.tokens.getD k []
  if tok 2 = "UDP".toList then
    v.type.map fun type =>
      ⟨some (tok 0),
        if strtol (tok 1) = 1 then .rtp else if strtol (tok 1) = 2 then .rtcp else .none,
        type, .udp, some (tok 4), UInt16.ofNat (strtol (tok 5)).toNat,
        UInt32.ofNat (strtol (tok 3)).toNat, none, none⟩
  else none

end CandidateValue

theorem parseCandidateAttr_text (v : CandidateValue) :
    parseCandidateAttr v.text = .ok v.candidate := by
  rw [CandidateValue.text, parseCandidateAttr_tokens v.length_ge v.no_space,
    atoi_of_bounds v.component_range.1 v.component_range.2,
    toGuint16_atoi v.port_range.1 v.port_range.2, toGuint32_atoi v.priority_range.1 v.priority_range.2]
  simp [CandidateValue.candidate, CandidateValue.type, candidateTypeOf, componentOfInt,
    sipeStrequal, purpleMediaCandidateNew]

/-- The candidates a value stands for carry no ICE credentials. -/
private theorem credentials_candidate {v : CandidateValue} {c : Candidate}
    (h : v.candidate = some c) : c.username = none ∧ c.password = none := by
  simp only [CandidateValue.candidate] at h
  split at h
  · obtain ⟨_, -, rfl⟩ := Option.map_eq_some'.mp h
    exact ⟨rfl, rfl⟩
  · cases h

/-- Attaching the credentials of line 253 to candidates that carry none gives each the
username, and the password when there is a username. -/
private theorem credentials_attached {cs : List Candidate}
    (h : ∀ c ∈ cs, c.username = none ∧ c.password = none) (u p : Option (List Char)) :
    ∀ c ∈ (if u.isSome then cs.map (withCredentials u p) else cs),
      c.username = u ∧ c.password = (if u.isSome then p else none) := by
  cases u with
  | none => simpa using h
  | some u => simp [withCredentials]

/-- Dropping the attached credentials gives the candidates back. -/
private theorem credentials_stripped {cs : List Candidate}
    (h : ∀ c ∈ cs, c.username = none ∧ c.password = none) (u p : Option (List Char)) :
    (if u.isSome then cs.map (withCredentials u p) else cs).map (withCredentials none none) = cs := by
  have hid : ∀ c ∈ cs, withCredentials none none c = c := fun c hc => by
    obtain ⟨hu, hp⟩ := h c hc
    cases c
    simp_all [withCredentials]
  calc (if u.isSome then cs.map (withCredentials u p) else cs).map (withCredentials none none)
      = cs.map (withCredentials none none) := by
        cases u <;> simp [Function.comp_def, withCredentials]
    _ = cs := by rw [List.map_congr_left hid, List.map_id']

/-- For an attribute set whose `candidate` values all have eight single-space-separated tokens
with their integers in range, the resolver reads every value once and keeps, in attribute order,
the candidate of every UDP value of known type, leaving `legacy_mode` as it was. When it keeps
none it returns the RTP and RTCP host pair at the remote address, the RTCP port one above the RTP
port below 65535, and sets `legacy_mode`. When the first `ice-ufrag` attribute has a value, every
candidate carries it and the first `ice-pwd` value; otherwise none carries credentials. -/
theorem sipeMediaParseRemoteCandidates_values (call : SipeMediaCall) (vs : List CandidateValue)
    (h : instances call.sdpAttrs "candidate".toList = vs.map fun v => some v.text) :
    ∃ cands legacy, sipeMediaParseRemoteCandidates call = .ok (cands, legacy) ∧
      (vs.filterMap CandidateValue.candidate ≠ [] →
        cands.map (withCredentials none none) = vs.filterMap CandidateValue.candidate ∧
        legacy = call.legacyMode) ∧
      (vs.filterMap CandidateValue.candidate = [] → legacy = true ∧ ∃ rtcpPort : UInt16,
        cands.map (withCredentials none none) =
          [purpleMediaCandidateNew (some "foundation".toList) .rtp .host .udp call.remoteIp
            call.remotePort,
           purpleMediaCandidateNew (some "foundation".toList) .rtcp .host .udp call.remoteIp
            rtcpPort] ∧
        (call.remotePort.toNat < 65535 → rtcpPort.toNat = call.remotePort.toNat + 1)) ∧
      ((namevalFind call.sdpAttrs "ice-ufrag".toList).isSome → ∀ c ∈ cands,
        c.username = namevalFind call.sdpAttrs "ice-ufrag".toList ∧
        c.password = namevalFind call.sdpAttrs "ice-pwd".toList) ∧
      (namevalFind call.sdpAttrs "ice-ufrag".toList = none → ∀ c ∈ cands,
        c.username = none ∧ c.password = none) := by
  have hloop : collectInstances parseCandidateAttr (instances call.sdpAttrs "candidate".toList) =
      .ok (vs.filterMap CandidateValue.candidate) := by
    rw [h]
    exact collectInstances_map_some_eq CandidateValue.text fun v _ => parseCandidateAttr_text v
  have hfound : ∀ c ∈ vs.filterMap CandidateValue.candidate,
      c.username = none ∧ c.password = none := fun c hc =>
    let ⟨_, _, hv⟩ := List.mem_filterMap.mp hc
    credentials_candidate hv
  have hlegacy : ∀ c ∈ legacyCandidates call.remoteIp call.remotePort,
      c.username = none ∧ c.password = none := by
    simp [legacyCandidates, purpleMediaCandidateNew]
  set found := vs.filterMap CandidateValue.candidate
  set u := namevalFind call.sdpAttrs "ice-ufrag".toList
  set p := namevalFind call.sdpAttrs "ice-pwd".toList
  set bare := if found.isEmpty then legacyCandidates call.remoteIp call.remotePort else found
  have hbare : ∀ c ∈ bare, c.username = none ∧ c.password = none := by
    by_cases hE : found.isEmpty <;> simp only [bare, hE] <;> assumption
  have hres : sipeMediaParseRemoteCandidates call =
      .ok (if u.isSome then bare.map (withCredentials u p) else bare,
        found.isEmpty || call.legacyMode) :=
    sipeMediaParseRemoteCandidates_of_found hloop
  refine ⟨_, _, hres, fun hne => ?_, fun he => ?_, fun hu c hc => ?_, fun hu c hc => ?_⟩
  · have hE : found.isEmpty = false := by simpa using hne
    simpa [bare, hE] using credentials_stripped hfound u p
  · have hE : found.isEmpty = true := by simpa using he
    refine ⟨by simp [hE], call.remotePort + 1, by simpa [bare, hE] using credentials_stripped hlegacy u p,
      fun hp => ?_⟩
    exact toNat_add_one_of_lt hp
  · simpa [hu] using credentials_attached hbare u p c hc
  · simpa [hu] using credentials_attached hbare u p c hc

/-- The peer's candidate values: RTP and RTCP host candidates around a TCP one. -/
def peerValues : List CandidateValue :=
  [⟨["1", "1", "UDP", "100", "10.0.0.5", "5004", "typ", "host"].map String.toList,
      by decide, by decide, by decide, by decide, by decide⟩,
    ⟨["2", "1", "TCP", "90", "10.0.0.5", "5010", "typ", "host"].map String.toList,
      by decide, by decide, by decide, by decide, by decide⟩,
    ⟨["1", "2", "UDP", "99", "10.0.0.5", "5005", "typ", "host"].map String.toList,
      by decide, by decide, by decide, by decide, by decide⟩]

/-- A call whose attribute set holds the peer's credentials and candidate values. -/
def peerOffer : SipeMediaCall :=
  { SipeMediaCall.zeroed with sdpAttrs := ("ice-ufrag".toList, some "U".toList) ::
      ("ice-pwd".toList, some "P".toList) :: peerValues.map fun v => ("candidate".toList, some v.text) }

/-- The peer's offer: the TCP value is skipped, the two UDP values kept with the credentials. -/
theorem sipeMediaParseRemoteCandidates_values_peer :
    instances peerOffer.sdpAttrs "candidate".toList = peerValues.map (fun v => some v.text) ∧
    ∃ cands legacy, sipeMediaParseRemoteCandidates peerOffer = .ok (cands, legacy) ∧
      cands.map (withCredentials none none) = peerValues.filterMap CandidateValue.candidate ∧
      legacy = false ∧ ∀ c ∈ cands, c.username = some "U".toList ∧ c.password = some "P".toList := by
  have h : instances peerOffer.sdpAttrs "candidate".toList = peerValues.map (fun v => some v.text) := by
    decide
  obtain ⟨cands, legacy, hr, hkept, -, hu, -⟩ := sipeMediaParseRemoteCandidates_values peerOffer _ h
  have hne : peerValues.filterMap CandidateValue.candidate ≠ [] := by decide
  have hU : namevalFind peerOffer.sdpAttrs "ice-ufrag".toList = some "U".toList := by decide
  have hP : namevalFind peerOffer.sdpAttrs "ice-pwd".toList = some "P".toList := by decide
  exact ⟨h, cands, legacy, hr, (hkept hne).1, (hkept hne).2,
    fun c hc => hU ▸ hP ▸ hu (by rw [hU]; rfl) c hc⟩

/-- A call whose first `ice-ufrag` line has no value. -/
def flagUfragOffer : SipeMediaCall :=
  { SipeMediaCall.zeroed with sdpAttrs := [("ice-ufrag".toList, none),
      ("ice-pwd".toList, some "P".toList),
      ("candidate".toList, some "1 1 UDP 100 10.0.0.5 5004 typ host".toList)] }

/-- An `ice-ufrag` attribute without a value attaches no credentials, so the candidate does not
carry the first `ice-pwd` value; and the legacy pair of an `m=` port of 65535 has its RTCP
candidate at port 0. -/
theorem sipeMediaParseRemoteCandidates_values_breaks :
    instances flagUfragOffer.sdpAttrs "ice-ufrag".toList = [none] ∧
    namevalFind flagUfragOffer.sdpAttrs "ice-pwd".toList = some "P".toList ∧
    (sipeMediaParseRemoteCandidates flagUfragOffer).map (·.1.map fun c => (c.username, c.password)) =
      .ok [(none, none)] ∧
    (sipeMediaParseRemoteCandidates { SipeMediaCall.zeroed with remotePort := 65535 }).map
      (·.1.map (·.port)) = .ok [65535, 0] := by
  decide

/-- The ports of an INVITE are stored in `guint16`s without a range check: an `m=` port of
65535 puts the synthesized RTCP candidate at port 0, an `m=` port of 70000 puts the legacy pair
at 4464 and 4465, and a candidate port of 70000 becomes 4464. -/
theorem callInit_ports_reduced :
    (sipeMediaCallInit (inviteMsg 0 "v=0\r\no=- 0 0 IN IP4 10.0.0.5\r\nm=audio 65535 RTP/AVP 0\r\n")).map
      (·.map fun c => c.remoteCandidates.map (·.port)) = .ok (some [65535, 0]) ∧
    (sipeMediaCallInit (inviteMsg 0 "v=0\r\no=- 0 0 IN IP4 10.0.0.5\r\nm=audio 70000 RTP/AVP 0\r\n")).map
      (·.map fun c => c.remoteCandidates.map (·.port)) = .ok (some [4464, 4465]) ∧
    (sipeMediaCallInit (inviteMsg 0 ("v=0\r\no=- 0 0 IN IP4 10.0.0.5\r\nm=audio 5004 RTP/AVP 0\r\n" ++
      "a=candidate:1 1 UDP 100 10.0.0.5 70000 typ host\r\n"))).map
      (·.map fun c => c.remoteCandidates.map (·.port)) = .ok (some [4464]) := by
  decide

end SipeMedia.Sdp
