import SipeMedia.Call.Types

/-!
# Remote codecs and candidates from the attribute set

`sipe_media_parse_remote_codecs`, `codec_name_compare`, `sipe_media_prune_remote_codecs`
and `sipe_media_parse_remote_candidates`, `src/core/sipe-media.c:97–259`. Both parsers
walk the `i`-th instance of one attribute name until the lookup returns NULL; the
candidate parser skips non-UDP and unknown-type lines and, when it keeps none, falls back
to an RTP/RTCP pair at the `o=`/`m=` address and latches `legacy_mode`.
-/

namespace SipeMedia.Sdp

open SipeMedia.Base SipeMedia.Purple SipeMedia.Call

/-- The loop `while ((attr = sipe_utils_nameval_find_instance (attrs, name, i++)))` with
body `body`, which may `continue` (`none`). The index `i` never passes the number of
instances, so `fuel = attrs.length + 1` is never used up (`instanceLoop_eq`). -/
def instanceLoop {α : Type} (attrs : List Attr) (name : List Char)
    (body : List Char → Except Fault (Option α)) : Nat → Nat → Except Fault (List α)
  | 0, _ => .ok []
  | fuel + 1, i =>
    match namevalFindInstance attrs name i with
    | none => .ok []
    | some attr => do
      let r ← body attr
      let rest ← instanceLoop attrs name body fuel (i + 1)
      return r.toList ++ rest

/-- The loop of `instanceLoop` run over the instance values themselves: it stops at the
first NULL value or at the end. -/
def collectInstances {α : Type} (body : List Char → Except Fault (Option α)) :
    List (Option (List Char)) → Except Fault (List α)
  | [] => .ok []
  | none :: _ => .ok []
  | some v :: vs => do
    let r ← body v
    let rest ← collectInstances body vs
    return r.toList ++ rest

/-- With fuel for every instance left, the index loop is the loop over the values. -/
theorem instanceLoop_eq {α : Type} {attrs : List Attr} {name : List Char}
    (body : List Char → Except Fault (Option α)) {fuel i : Nat}
    (h : (instances attrs name).length ≤ fuel + i) :
    instanceLoop attrs name body fuel i =
      collectInstances body ((instances attrs name).drop i) := by
  induction fuel generalizing i with
  | zero => rw [List.drop_eq_nil_of_le (by omega)]; rfl
  | succ fuel ih =>
    rw [instanceLoop, namevalFindInstance]
    by_cases hi : i < (instances attrs name).length
    · rw [List.getElem?_eq_getElem hi, List.drop_eq_getElem_cons hi]
      cases (instances attrs name)[i] with
      | none => rfl
      | some v => rw [ih (show _ ≤ fuel + (i + 1) by omega)]; rfl
    · rw [List.getElem?_eq_none (by omega), List.drop_eq_nil_of_le (by omega)]
      rfl

/-- A loop whose every value the body turns into an item returns the items, in order. -/
theorem collectInstances_map_some {α : Type} {body : List Char → Except Fault (Option α)}
    {vs : List (List Char)} {xs : List α}
    (h : List.Forall₂ (fun v x => body v = .ok (some x)) vs xs) :
    collectInstances body (vs.map some) = .ok xs := by
  induction h with
  | nil => rfl
  | cons hx _ ih => simp [collectInstances, hx, ih, bind, Except.bind, pure, Except.pure]

/-- A loop whose body reads every value without undefined behaviour keeps, in order, what the
body makes of each value. -/
theorem collectInstances_map_some_eq {α β : Type} {body : List Char → Except Fault (Option α)}
    (text : β → List Char) {f : β → Option α} {xs : List β}
    (h : ∀ x ∈ xs, body (text x) = .ok (f x)) :
    collectInstances body (xs.map fun x => some (text x)) = .ok (xs.filterMap f) := by
  induction xs with
  | nil => rfl
  | cons x xs ih =>
    rw [List.map_cons, collectInstances, h x (List.mem_cons_self _ _),
      ih fun y hy => h y (List.mem_cons_of_mem _ hy)]
    cases hx : f x <;> simp [List.filterMap_cons, hx, bind, Except.bind, pure, Except.pure]

theorem length_instances_le (attrs : List Attr) (name : List Char) :
    (instances attrs name).length ≤ attrs.length := by
  simpa [instances] using List.length_filter_le _ attrs

/-- The body of `sipe_media_parse_remote_codecs`' loop (lines 111–118): `ID NAME/RATE`. -/
def parseRtpmap (attr : List Char) : Except Fault (Option Codec) := do
  let tokens := gStrsplitSet attr [' ', '/'] 3
  let id ← atoiArg (← vecAt tokens 0)
  let codecName ← vecAt tokens 1
  let clockRate ← atoiArg (← vecAt tokens 2)
  return some (purpleMediaCodecNew id codecName .audio clockRate)

/-- A value `ID NAME/RATE` whose first two tokens hold neither separator is cut into its three
tokens: `atoi` reads the id and the clock rate, the clock rate from the whole rest of the
value. -/
theorem parseRtpmap_tokens {id name : List Char} (rate : List Char)
    (hid : ∀ c ∈ id, c ∉ [' ', '/']) (hname : ∀ c ∈ name, c ∉ [' ', '/']) :
    parseRtpmap (id ++ ' ' :: (name ++ '/' :: rate)) =
      .ok (some (purpleMediaCodecNew (atoi id) (some name) .audio (atoi rate))) := by
  have htok : gStrsplitSet (id ++ ' ' :: (name ++ '/' :: rate)) [' ', '/'] 3 =
      [id, name, rate] := by
    rw [gStrsplitSet, if_neg (by simp),
      strsplitSetScan_cut _ (show ' ' ∈ [' ', '/'] by decide) (show mayCut 3 0 by decide) hid,
      strsplitSetScan_cut _ (show '/' ∈ [' ', '/'] by decide) (show mayCut 3 1 by decide) hname,
      strsplitSetScan_of_not_mayCut (show ¬ mayCut 3 2 by decide)]
    simp
  simp [parseRtpmap, htok, atoiArg, bind, Except.bind, pure, Except.pure]

/-- `sipe_media_parse_remote_codecs`: one codec per `rtpmap` instance, in order. -/
def sipeMediaParseRemoteCodecs (call : SipeMediaCall) : Except Fault (List Codec) :=
  instanceLoop call.sdpAttrs "rtpmap".toList parseRtpmap (call.sdpAttrs.length + 1) 0

/-- `sipe_media_parse_remote_codecs` never runs out of fuel: it reads every `rtpmap` value up
to the first NULL one. -/
theorem sipeMediaParseRemoteCodecs_eq (call : SipeMediaCall) :
    sipeMediaParseRemoteCodecs call =
      collectInstances parseRtpmap (instances call.sdpAttrs "rtpmap".toList) :=
  instanceLoop_eq _ (by simpa using Nat.le_succ_of_le (length_instances_le _ _))

/-- The values a `sipe_utils_nameval_find_instance` loop reads: those before the first NULL
one. -/
def readValues (vs : List (Option (List Char))) : List (List Char) :=
  (vs.takeWhile (·.isSome)).filterMap id

/-- A loop over instance values faults exactly when its body faults on a value it reads. -/
theorem collectInstances_faults_iff {α : Type} (body : List Char → Except Fault (Option α))
    (vs : List (Option (List Char))) :
    (∃ f, collectInstances body vs = .error f) ↔ ∃ v ∈ readValues vs, ∃ f, body v = .error f := by
  induction vs with
  | nil => exact iff_of_false (fun ⟨_, h⟩ => by cases h) (fun ⟨_, hv, _⟩ => by cases hv)
  | cons v vs ih =>
    cases v with
    | none => exact iff_of_false (fun ⟨_, h⟩ => by cases h) (fun ⟨_, hv, _⟩ => by cases hv)
    | some v =>
      simp only [readValues, collectInstances, bind, Except.bind, List.takeWhile_cons,
        Option.isSome_some, if_true, List.filterMap_cons, id, List.mem_cons, exists_eq_or_imp]
      rw [← readValues]
      cases body v with
      | error f => exact iff_of_true ⟨f, rfl⟩ (.inl ⟨f, rfl⟩)
      | ok r =>
        simp only [reduceCtorEq, exists_false, false_or, ← ih]
        cases collectInstances body vs
        · exact Iff.rfl
        · exact iff_of_false (fun ⟨_, h⟩ => by cases h) (fun ⟨_, h⟩ => by cases h)

/-- An `rtpmap` value whose id or clock rate `atoi` reads outside its tokens: one with fewer
than two separators, spaces or slashes (`ID NAME/RATE` has two). -/
def RtpmapUnreadable (attr : List Char) : Prop := attr.countP (· ∈ [' ', '/']) < 2

instance instDecidableRtpmapUnreadable (attr : List Char) : Decidable (RtpmapUnreadable attr) :=
  inferInstanceAs (Decidable (_ < _))

/-- The loop body reads its three tokens inside the token vector exactly when the value has at
least two separators: with fewer, `atoi` reads the NULL terminator or past it. -/
theorem parseRtpmap_faults_iff (attr : List Char) :
    (∃ f, parseRtpmap attr = .error f) ↔ RtpmapUnreadable attr := by
  have hlen : (gStrsplitSet attr [' ', '/'] 3).length =
      if attr = [] then 0 else min (attr.countP (· ∈ [' ', '/'])) 2 + 1 :=
    length_gStrsplitSet attr _ 2
  have hfault : (∃ f, parseRtpmap attr = .error f) ↔ (gStrsplitSet attr [' ', '/'] 3).length < 3 := by
    simp only [parseRtpmap]
    rcases gStrsplitSet attr [' ', '/'] 3 with _ | ⟨t0, _ | ⟨t1, _ | ⟨t2, ts⟩⟩⟩ <;>
      simp only [vecAt_nil_zero, vecAt_nil_succ, vecAt_cons_zero, vecAt_cons_succ, atoiArg, bind,
        Except.bind, List.length_cons, List.length_nil]
    all_goals first
      | exact iff_of_true ⟨_, rfl⟩ (by omega)
      | exact iff_of_false (fun ⟨_, h⟩ => by cases h) (by omega)
  rw [hfault, hlen, RtpmapUnreadable]
  split
  · simp_all
  · omega

/-- `sipe_media_parse_remote_codecs` reaches undefined behaviour exactly when an `rtpmap` value
it reads, before the first NULL one, has fewer than two separators. -/
theorem sipeMediaParseRemoteCodecs_faults_iff (call : SipeMediaCall) :
    (∃ f, sipeMediaParseRemoteCodecs call = .error f) ↔
      ∃ v ∈ readValues (instances call.sdpAttrs "rtpmap".toList), RtpmapUnreadable v := by
  simp only [sipeMediaParseRemoteCodecs_eq, collectInstances_faults_iff, parseRtpmap_faults_iff]

/-- `codec_name_compare`: `g_strcmp0` of the encoding names is zero. -/
def codecNameCompare (c1 c2 : Codec) : Bool := c1.encodingName == c2.encodingName

/-- `sipe_media_prune_remote_codecs`: the remote codecs, in order, whose encoding name some
local codec of the session has (`g_list_find_custom` with `codec_name_compare`). -/
def sipeMediaPruneRemoteCodecs (localCodecs codecs : List Codec) : List Codec :=
  codecs.filter fun c => localCodecs.any fun l => codecNameCompare l c

/-- The loop of `sipe_media_prune_remote_codecs` (lines 143–155) over the cells of the remote
list: a codec that some local codec names is appended to the result and its cell's `data` set
to NULL, the others stay in their cells. The result, and the cells' `data` after the loop. -/
def pruneLoop (localCodecs : List Codec) : List Codec → List Codec × List (Option Codec)
  | [] => ([], [])
  | c :: cs =>
    let rest := pruneLoop localCodecs cs
    if localCodecs.any fun l => codecNameCompare l c then (c :: rest.1, none :: rest.2)
    else (rest.1, some c :: rest.2)

/-- libpurple's `purple_media_codec_list_free` (line 157) unrefs the `data` of every cell;
`g_object_unref (NULL)` is refused with a warning and releases nothing. The codecs it
releases, in list order. -/
def purpleMediaCodecListFree (cells : List (Option Codec)) : List Codec := cells.filterMap id

/-- The loop returns the pruned list. -/
theorem pruneLoop_fst (localCodecs codecs : List Codec) :
    (pruneLoop localCodecs codecs).1 = sipeMediaPruneRemoteCodecs localCodecs codecs := by
  induction codecs with
  | nil => rfl
  | cons c cs ih =>
    simp only [pruneLoop, sipeMediaPruneRemoteCodecs, List.filter_cons] at ih ⊢
    split <;> simp_all

/-- After the loop the cell of every kept codec is NULL, and every other cell still holds its
codec. -/
theorem pruneLoop_snd (localCodecs codecs : List Codec) :
    (pruneLoop localCodecs codecs).2 =
      codecs.map fun c => if localCodecs.any fun l => codecNameCompare l c then none else some c := by
  induction codecs with
  | nil => rfl
  | cons c cs ih =>
    simp only [pruneLoop, List.map_cons]
    split <;> simp_all

/-- The list free releases the codecs left in their cells, in order. -/
theorem purpleMediaCodecListFree_map {α : Type} (kept : α → Bool) (codec : α → Codec)
    (xs : List α) :
    purpleMediaCodecListFree (xs.map fun x => if kept x then none else some (codec x)) =
      (xs.filter fun x => !kept x).map codec := by
  induction xs with
  | nil => rfl
  | cons x xs ih =>
    by_cases hx : kept x <;> simp_all [purpleMediaCodecListFree, List.filter_cons]

/-- `sipe_strequal` of `sipe-utils.c`, which is not in the repository, taken as string
equality in which NULL equals no literal. -/
def sipeStrequal (s : Option (List Char)) (lit : List Char) : Bool := s == some lit

/-- The component of `atoi (tokens[1])` (lines 188–197). -/
def componentOfInt (n : Int) : ComponentType :=
  if n = 1 then .rtp else if n = 2 then .rtcp else .none

/-- The candidate type of `tokens[7]` (lines 211–220); `none` is a `continue`. -/
def candidateTypeOf (tok : Option (List Char)) : Option CandidateType :=
  if sipeStrequal tok "host".toList then some .host
  else if sipeStrequal tok "relay".toList then some .relay
  else if sipeStrequal tok "srflx".toList then some .srflx
  else none

/-- The body of `sipe_media_parse_remote_candidates`' loop (lines 184–227):
`foundation component transport priority ip port _ type`; non-UDP lines and unknown types
are skipped. -/
def parseCandidateAttr (attr : List Char) : Except Fault (Option Candidate) := do
  let tokens := gStrsplitSet attr [' '] 0
  let foundation ← vecAt tokens 0
  let component := componentOfInt (← atoiArg (← vecAt tokens 1))
  let protocol ← vecAt tokens 2
  if !sipeStrequal protocol "UDP".toList then pure none
  else do
    let priority := toGuint32 (← atoiArg (← vecAt tokens 3))
    let ip ← vecAt tokens 4
    let port := toGuint16 (← atoiArg (← vecAt tokens 5))
    return (candidateTypeOf (← vecAt tokens 7)).map fun type =>
      { purpleMediaCandidateNew foundation component type .udp ip port with priority }

/-- A value of at least eight tokens joined by single spaces: the body reads tokens 0 to 5
and 7 in place, and skips the line when its transport is not `UDP` or its type is unknown. -/
theorem parseCandidateAttr_tokens {ts : List (List Char)} (hlen : 8 ≤ ts.length)
    (hsp : ∀ t ∈ ts, ' ' ∉ t) :
    parseCandidateAttr ([' '].intercalate ts) =
      .ok (if ts.getD 2 [] = "UDP".toList then
        (candidateTypeOf (some (ts.getD 7 []))).map fun type =>
          { purpleMediaCandidateNew (some (ts.getD 0 [])) (componentOfInt (atoi (ts.getD 1 [])))
              type .udp (some (ts.getD 4 [])) (toGuint16 (atoi (ts.getD 5 []))) with
            priority := toGuint32 (atoi (ts.getD 3 [])) }
        else none) := by
  match ts, hlen, hsp with
  | t0 :: t1 :: t2 :: t3 :: t4 :: t5 :: t6 :: t7 :: rest, _, hsp =>
    have hsplit : gStrsplitSet ([' '].intercalate (t0 :: t1 :: t2 :: t3 :: t4 :: t5 :: t6 :: t7 ::
        rest)) [' '] 0 = t0 :: t1 :: t2 :: t3 :: t4 :: t5 :: t6 :: t7 :: rest := by
      rw [gStrsplitSet, if_neg (by simp [List.intercalate]),
        strsplitSetScan_intercalate (List.mem_singleton_self _) (List.cons_ne_nil _ _)
          fun t ht c hc hs => hsp t ht (by rwa [List.mem_singleton.mp hs] at hc)]
    rw [parseCandidateAttr, hsplit]
    by_cases hu : t2 = "UDP".toList
    · subst hu
      simp [vecAt, atoiArg, sipeStrequal, bind, Except.bind, pure, Except.pure]
    · simp at hu
      simp [vecAt, atoiArg, sipeStrequal, hu, bind, Except.bind, pure, Except.pure]

/-- The OC2005 fallback (lines 232–244): RTP and RTCP host candidates at the remote address,
the RTCP port one above (the `int` sum stored in a `guint16`). -/
def legacyCandidates (ip : Option (List Char)) (port : UInt16) : List Candidate :=
  [purpleMediaCandidateNew (some "foundation".toList) .rtp .host .udp ip port,
   purpleMediaCandidateNew (some "foundation".toList) .rtcp .host .udp ip (port + 1)]

/-- The ICE credentials attached to a candidate (line 253). -/
def withCredentials (username password : Option (List Char)) (c : Candidate) : Candidate :=
  { c with username, password }

/-- `sipe_media_parse_remote_candidates`: the candidates and the call's new `legacy_mode`,
which is set when no candidate line was kept and otherwise left as it was. -/
def sipeMediaParseRemoteCandidates (call : SipeMediaCall) :
    Except Fault (List Candidate × Bool) := do
  let username := namevalFind call.sdpAttrs "ice-ufrag".toList
  let password := namevalFind call.sdpAttrs "ice-pwd".toList
  let found ← instanceLoop call.sdpAttrs "candidate".toList parseCandidateAttr
    (call.sdpAttrs.length + 1) 0
  let (candidates, legacy) :=
    if found.isEmpty then (legacyCandidates call.remoteIp call.remotePort, true)
    else (found, call.legacyMode)
  return (if username.isSome then candidates.map (withCredentials username password)
    else candidates, legacy)

/-- `sipe_media_parse_remote_candidates` never runs out of fuel: its loop reads every
`candidate` value up to the first NULL one. -/
theorem sipeMediaParseRemoteCandidates_eq (call : SipeMediaCall) :
    sipeMediaParseRemoteCandidates call = do
      let found ← collectInstances parseCandidateAttr
        (instances call.sdpAttrs "candidate".toList)
      let username := namevalFind call.sdpAttrs "ice-ufrag".toList
      let password := namevalFind call.sdpAttrs "ice-pwd".toList
      let (candidates, legacy) :=
        if found.isEmpty then (legacyCandidates call.remoteIp call.remotePort, true)
        else (found, call.legacyMode)
      return (if username.isSome then candidates.map (withCredentials username password)
        else candidates, legacy) := by
  rw [sipeMediaParseRemoteCandidates,
    instanceLoop_eq _ (by simpa using Nat.le_succ_of_le (length_instances_le _ _)), List.drop_zero]

/-- Once its loop has read the candidates `found`, the resolver falls back to the legacy host
pair when there are none, and attaches the first `ice-ufrag` and `ice-pwd` values to what it
returns when the username has one. -/
theorem sipeMediaParseRemoteCandidates_of_found {call : SipeMediaCall} {found : List Candidate}
    (h : collectInstances parseCandidateAttr (instances call.sdpAttrs "candidate".toList) =
      .ok found) :
    sipeMediaParseRemoteCandidates call =
      let username := namevalFind call.sdpAttrs "ice-ufrag".toList
      let candidates :=
        if found.isEmpty then legacyCandidates call.remoteIp call.remotePort else found
      .ok (if username.isSome then
          candidates.map (withCredentials username (namevalFind call.sdpAttrs "ice-pwd".toList))
        else candidates, found.isEmpty || call.legacyMode) := by
  rw [sipeMediaParseRemoteCandidates_eq, h]
  simp only [bind, Except.bind]
  cases found.isEmpty <;> rfl

/-- The resolver sets `legacy_mode` when its loop kept no candidate and leaves it as it was
otherwise. -/
theorem sipeMediaParseRemoteCandidates_legacy {call : SipeMediaCall} {cands : List Candidate}
    {legacy : Bool} (h : sipeMediaParseRemoteCandidates call = .ok (cands, legacy)) :
    ∃ found, collectInstances parseCandidateAttr (instances call.sdpAttrs "candidate".toList) =
      .ok found ∧ legacy = (found.isEmpty || call.legacyMode) := by
  rw [sipeMediaParseRemoteCandidates_eq, bind_eq_ok] at h
  obtain ⟨found, hf, h⟩ := h
  refine ⟨found, hf, ?_⟩
  cases hfe : found.isEmpty <;> simp_all [pure, Except.pure]

/-- The resolver always returns a candidate: those its loop kept, or the legacy pair. -/
theorem sipeMediaParseRemoteCandidates_ne_nil {call : SipeMediaCall} {cands : List Candidate}
    {legacy : Bool} (h : sipeMediaParseRemoteCandidates call = .ok (cands, legacy)) :
    cands ≠ [] := by
  obtain ⟨found, hf, -⟩ := sipeMediaParseRemoteCandidates_legacy h
  rw [sipeMediaParseRemoteCandidates_of_found hf] at h
  cases (Prod.mk.inj (Except.ok.inj h)).1
  cases hE : found.isEmpty
  · have hne : found ≠ [] := fun h0 => by simp [h0] at hE
    split <;> simpa [hE] using hne
  · split <;> simp [hE, legacyCandidates]

/-! ## What the loop body does with a value -/

/-- A `candidate` value the loop body keeps: a UDP line (third token `UDP`, line 198) whose
eighth token is `host`, `relay` or `srflx` (lines 215–225). -/
def CandidateKept (attr : List Char) : Prop :=
  (gStrsplitSet attr [' '] 0)[2]? = some "UDP".toList ∧
    (candidateTypeOf (gStrsplitSet attr [' '] 0)[7]?).isSome

instance instDecidableCandidateKept (attr : List Char) : Decidable (CandidateKept attr) :=
  inferInstanceAs (Decidable (_ ∧ _))

/-- What the loop body does with a value, by the shape of its token vector: it reads past the
vector when the value has fewer than two tokens, or is a UDP line of fewer than seven; otherwise
it keeps the value exactly when it is a UDP line of a known type. -/
theorem parseCandidateAttr_outcome (attr : List Char) :
    ((∃ f, parseCandidateAttr attr = .error f) ↔ (gStrsplitSet attr [' '] 0).length < 2 ∨
        (gStrsplitSet attr [' '] 0)[2]? = some "UDP".toList ∧
          (gStrsplitSet attr [' '] 0).length < 7) ∧
      ∀ r, parseCandidateAttr attr = .ok r → (r.isSome ↔ CandidateKept attr) := by
  unfold CandidateKept
  simp only [parseCandidateAttr]
  rcases gStrsplitSet attr [' '] 0 with
    _ | ⟨t0, _ | ⟨t1, _ | ⟨t2, _ | ⟨t3, _ | ⟨t4, _ | ⟨t5, _ | ⟨t6, _ | ⟨t7, ts⟩⟩⟩⟩⟩⟩⟩⟩ <;>
    simp only [vecAt_nil_zero, vecAt_nil_succ, vecAt_cons_zero, vecAt_cons_succ, atoiArg, bind,
      Except.bind, sipeStrequal, List.length_cons, List.length_nil, List.getElem?_cons_succ,
      List.getElem?_cons_zero, List.getElem?_nil, Option.some.injEq, beq_iff_eq]
  all_goals refine ⟨?_, fun r h => ?_⟩
  all_goals first
    | cases h; done
    | exact iff_of_true ⟨_, rfl⟩ (.inl (by decide))
    | (split at h <;> cases h <;> simp_all [candidateTypeOf])
    | (split <;> simp_all [pure, Except.pure])

/-! ## When the candidate resolver faults -/

/-- A `candidate` value the loop body reads outside its tokens: one with no space (`atoi` reads
`tokens[1]`), or a UDP line (third token `UDP`) with fewer than six (it reads `tokens[3]` and
`tokens[5]` and compares `tokens[7]`). -/
def CandidateUnreadable (attr : List Char) : Prop :=
  ' ' ∉ attr ∨ (gStrsplitSet attr [' '] 0)[2]? = some "UDP".toList ∧ attr.count ' ' < 6

instance instDecidableCandidateUnreadable (attr : List Char) :
    Decidable (CandidateUnreadable attr) :=
  inferInstanceAs (Decidable (_ ∨ _))

/-- The loop body reads inside its token vector exactly when the value is readable. -/
theorem parseCandidateAttr_faults_iff (attr : List Char) :
    (∃ f, parseCandidateAttr attr = .error f) ↔ CandidateUnreadable attr := by
  have hlen : (gStrsplitSet attr [' '] 0).length = if attr = [] then 0 else attr.count ' ' + 1 := by
    rw [length_gStrsplitSet_unlimited, List.count]
    congr 2
    exact List.countP_congr fun c _ => by simp
  have hfault := (parseCandidateAttr_outcome attr).1
  by_cases ha : attr = []
  · subst ha
    exact iff_of_true ⟨.pastEnd, rfl⟩ (.inl (List.not_mem_nil _))
  · have h2 : (gStrsplitSet attr [' '] 0).length < 2 ↔ ' ' ∉ attr := by
      rw [hlen, if_neg ha, ← List.count_pos_iff]
      omega
    have h7 : (gStrsplitSet attr [' '] 0).length < 7 ↔ attr.count ' ' < 6 := by
      rw [hlen, if_neg ha]
      omega
    rw [hfault, h2, h7, CandidateUnreadable]

/-- `sipe_media_parse_remote_candidates` reaches undefined behaviour exactly when a `candidate`
value it reads, before the first NULL one, has no space, or is a UDP line with fewer than six
spaces. -/
theorem sipeMediaParseRemoteCandidates_faults_iff (call : SipeMediaCall) :
    (∃ f, sipeMediaParseRemoteCandidates call = .error f) ↔
      ∃ v ∈ readValues (instances call.sdpAttrs "candidate".toList), CandidateUnreadable v := by
  simp only [← parseCandidateAttr_faults_iff]
  rw [← collectInstances_faults_iff, sipeMediaParseRemoteCandidates_eq, bind_faults_iff,
    or_iff_left (by rintro ⟨_, _, _, ⟨⟩⟩)]

/-! ## When the resolver falls back to legacy mode -/

/-- A loop over instance values that returns keeps nothing exactly when its body skips every
value it reads. -/
theorem collectInstances_eq_nil_iff {α : Type} {body : List Char → Except Fault (Option α)}
    {vs : List (Option (List Char))} {xs : List α} (h : collectInstances body vs = .ok xs) :
    xs = [] ↔ ∀ v ∈ readValues vs, body v = .ok none := by
  induction vs generalizing xs with
  | nil => cases h; simp [readValues]
  | cons v vs ih =>
    cases v with
    | none => cases h; simp [readValues]
    | some v =>
      obtain ⟨r, hr, h⟩ := bind_eq_ok.mp h
      obtain ⟨rest, hrest, h⟩ := bind_eq_ok.mp h
      cases h
      simp only [readValues, List.takeWhile_cons, Option.isSome_some, if_true,
        List.filterMap_cons, id, List.forall_mem_cons]
      rw [← readValues, ← ih hrest, hr]
      cases r <;> simp [pure, Except.pure]

/-- `sipe_media_parse_remote_candidates` sets `legacy_mode` exactly when the call already was
in legacy mode or its loop keeps no candidate: every `candidate` value it reads, before the
first NULL one, is skipped as a non-UDP line or one of an unknown type. An offer whose
candidate lines are all TCP is answered as a legacy peer. -/
theorem sipeMediaParseRemoteCandidates_legacy_iff {call : SipeMediaCall}
    {cands : List Candidate} {legacy : Bool}
    (h : sipeMediaParseRemoteCandidates call = .ok (cands, legacy)) :
    legacy = true ↔ call.legacyMode = true ∨
      ∀ v ∈ readValues (instances call.sdpAttrs "candidate".toList), ¬ CandidateKept v := by
  obtain ⟨found, hf, rfl⟩ := sipeMediaParseRemoteCandidates_legacy h
  have hok : ∀ v ∈ readValues (instances call.sdpAttrs "candidate".toList),
      ∃ r, parseCandidateAttr v = .ok r := fun v hv => by
    cases hp : parseCandidateAttr v with
    | ok r => exact ⟨r, rfl⟩
    | error e =>
      obtain ⟨f, hf'⟩ := (collectInstances_faults_iff _ _).mpr ⟨v, hv, e, hp⟩
      rw [hf] at hf'
      cases hf'
  rw [Bool.or_eq_true, List.isEmpty_iff, collectInstances_eq_nil_iff hf, or_comm]
  refine or_congr_right (forall₂_congr fun v hv => ?_)
  obtain ⟨r, hr⟩ := hok v hv
  rw [hr, ← (parseCandidateAttr_outcome v).2 r hr]
  cases r <;> simp

/-- A call whose one candidate line is TCP: the resolver falls back to legacy mode. -/
theorem sipeMediaParseRemoteCandidates_legacy_iff_tcp :
    let call : SipeMediaCall := ⟨0, [], [], some "10.0.0.5".toList, 5004,
      [("candidate".toList, some "1 1 TCP 100 10.0.0.5 5004 typ host".toList)], 0, [], [], none,
      false, .connecting⟩
    ∃ cands legacy, sipeMediaParseRemoteCandidates call = .ok (cands, legacy) ∧ legacy = true ∧
      (legacy = true ↔ call.legacyMode = true ∨
        ∀ v ∈ readValues (instances call.sdpAttrs "candidate".toList), ¬ CandidateKept v) := by
  intro call
  obtain ⟨cands, legacy, h, hl⟩ : ∃ cands legacy,
      sipeMediaParseRemoteCandidates call = .ok (cands, legacy) ∧ legacy = true :=
    ⟨_, _, rfl, rfl⟩
  exact ⟨cands, legacy, h, hl, sipeMediaParseRemoteCandidates_legacy_iff h⟩

end SipeMedia.Sdp
