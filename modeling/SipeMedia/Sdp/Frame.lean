import SipeMedia.Base.CText

/-!
# SDP attribute sets and frame parsing

`sipe_media_parse_sdp_frame`, `src/core/sipe-media.c:553–596`. The body is cut into
CRLF-separated lines; `a=` lines add a name/value pair, `o=` sets the remote IP (field 5)
and `m=` the remote port (field 1). A line `a=` with nothing after it aborts the parse;
the caller then keeps its previous attribute set.

The attribute list helpers `sipe_utils_nameval_*` live in `sipe-utils.c`, which is not in
the repository; they are modelled from the spec's attribute set: an ordered multimap whose
names are never case-normalized or deduplicated.
-/

namespace SipeMedia.Sdp

open SipeMedia.Base

/-- A `struct sipnameval`: an attribute name and its value, NULL for a line with no `:`. -/
abbrev Attr := List Char × Option (List Char)

/-- Modelled from the spec: `sipe_utils_nameval_add` of `sipe-utils.c` (not in the
repository) appends the pair, keeping insertion order and duplicate names. -/
def namevalAdd (attrs : List Attr) (name : List Char) (value : Option (List Char)) :
    List Attr :=
  attrs ++ [(name, value)]

/-- The values of the pairs named `name`, in insertion order. -/
def instances (attrs : List Attr) (name : List Char) : List (Option (List Char)) :=
  (attrs.filter (fun a => a.1 == name)).map Prod.snd

@[simp] theorem instances_nil (name : List Char) : instances [] name = [] := rfl

@[simp] theorem instances_cons (a : Attr) (attrs : List Attr) (name : List Char) :
    instances (a :: attrs) name =
      if a.1 = name then a.2 :: instances attrs name else instances attrs name := by
  by_cases h : a.1 = name <;> simp [instances, List.filter_cons, h]

@[simp] theorem instances_append (attrs attrs' : List Attr) (name : List Char) :
    instances (attrs ++ attrs') name = instances attrs name ++ instances attrs' name := by
  simp [instances]

theorem instances_flatMap {α : Type} (f : α → List Attr) (xs : List α) (name : List Char) :
    instances (xs.flatMap f) name = xs.flatMap fun x => instances (f x) name := by
  induction xs with
  | nil => rfl
  | cons x xs ih => simp [ih]

/-- The pairs of one name, one per item. -/
theorem instances_map_pair {α : Type} (n : List Char) (f : α → Option (List Char)) (xs : List α)
    (name : List Char) :
    instances (xs.map fun x => (n, f x)) name = if n = name then xs.map f else [] := by
  induction xs with
  | nil => simp
  | cons x xs ih => by_cases h : n = name <;> simp_all

/-- Modelled from the spec: `sipe_utils_nameval_find_instance` of `sipe-utils.c` (not in
the repository) returns the value of the `which`-th pair named `name` (exact name match),
or NULL when there is no such pair. -/
def namevalFindInstance (attrs : List Attr) (name : List Char) (which : Nat) :
    Option (List Char) :=
  ((instances attrs name)[which]?).join

/-- Modelled from the spec: `sipe_utils_nameval_find` is the first instance. -/
def namevalFind (attrs : List Attr) (name : List Char) : Option (List Char) :=
  namevalFindInstance attrs name 0

/-- The line separator of SDP bodies. -/
def crlf : List Char := ['\r', '\n']

/-- The text of `lines`, each ended by CRLF: how an SDP body is laid out. -/
def joinLines (lines : List (List Char)) : List Char := lines.flatMap (· ++ crlf)

theorem joinLines_append (ls ls' : List (List Char)) :
    joinLines (ls ++ ls') = joinLines ls ++ joinLines ls' := List.flatMap_append _ _ _

/-- A text in which CRLF does not occur, so that it stays inside one line of a body. -/
def CrlfFree (s : List Char) : Prop := ¬ crlf <:+: s

instance (s : List Char) : Decidable (CrlfFree s) := inferInstanceAs (Decidable (¬ _))

/-- The locals of the parse loop: `sdp_attrs`, `remote_ip` and `remote_port`. -/
structure FrameScan where
  attrs : List Attr
  remoteIp : Option (List Char)
  remotePort : UInt16
  deriving DecidableEq, Repr

/-- The locals before the first line. -/
def FrameScan.init : FrameScan := ⟨[], none, 0⟩

/-- `atoi` on a token that may be NULL. -/
def atoiArg : Option (List Char) → Except Fault Int
  | some s => .ok (atoi s)
  | none => .error .nullString

/-- One pass of the loop of `sipe_media_parse_sdp_frame` (lines 563–583); `none` is the
`a=` failure that breaks out of the loop. -/
def parseSdpLine (st : FrameScan) (line : List Char) : Except Fault (Option FrameScan) :=
  if gStrHasPrefix line ['a', '='] then do
    let parts := gStrsplit (line.drop 2) [':'] 2
    match ← vecAt parts 0 with
    | none => return none
    | some name => return some { st with attrs := namevalAdd st.attrs name (← vecAt parts 1) }
  else if gStrHasPrefix line ['o', '='] then do
    let parts := gStrsplit (line.drop 2) [' '] 6
    return some { st with remoteIp := ← vecAt parts 5 }
  else if gStrHasPrefix line ['m', '='] then do
    let parts := gStrsplit (line.drop 2) [' '] 3
    return some { st with remotePort := toGuint16 (← atoiArg (← vecAt parts 1)) }
  else return some st

/-- The loop of `sipe_media_parse_sdp_frame` over the lines, stopping at the first
failure. -/
def parseSdpLines : FrameScan → List (List Char) → Except Fault (Option FrameScan)
  | st, [] => .ok (some st)
  | st, line :: lines => do
    match ← parseSdpLine st line with
    | none => return none
    | some st' => parseSdpLines st' lines

/-- The parse of `sipe_media_parse_sdp_frame`: the new attribute set, remote IP and port,
or `none` when an `a=` line has no name. -/
def parseSdpFrame (frame : List Char) : Except Fault (Option FrameScan) :=
  parseSdpLines .init (gStrsplit frame crlf 0)

/-! ## Texts without CRLF -/

@[simp] theorem crlfFree_nil : CrlfFree [] := by decide

theorem crlfFree_cons (c : Char) (t : List Char) :
    CrlfFree (c :: t) ↔ ¬ (c = '\r' ∧ t.head? = some '\n') ∧ CrlfFree t := by
  rw [CrlfFree, CrlfFree, List.infix_cons_iff, crlf]
  cases t <;> simp [List.cons_prefix_cons, @eq_comm _ '\r', @eq_comm _ '\n']

@[simp] theorem crlfFree_cons_of_ne {c : Char} (hc : c ≠ '\r') (t : List Char) :
    CrlfFree (c :: t) ↔ CrlfFree t := by
  simp [crlfFree_cons, hc]

/-- A text with no CR adds no CRLF in front of another. -/
theorem crlfFree_append_of_not_mem {s : List Char} (hs : '\r' ∉ s) (t : List Char) :
    CrlfFree (s ++ t) ↔ CrlfFree t := by
  induction s with
  | nil => rfl
  | cons c s ih =>
    simp only [List.mem_cons, not_or] at hs
    rw [List.cons_append, crlfFree_cons_of_ne (Ne.symm hs.1), ih hs.2]

/-- Two texts joined by a character other than CR and LF have no CRLF when neither has. -/
theorem crlfFree_append_cons {c : Char} (hc : c ≠ '\r') (hc' : c ≠ '\n') (s t : List Char) :
    CrlfFree (s ++ c :: t) ↔ CrlfFree s ∧ CrlfFree t := by
  induction s with
  | nil => simp [hc]
  | cons x s ih =>
    rw [List.cons_append, crlfFree_cons, crlfFree_cons, ih]
    cases s <;> simp [hc', and_assoc]

theorem crlfFree_append_cr {l : List Char} : CrlfFree (l ++ ['\r']) ↔ CrlfFree l := by
  induction l with
  | nil => decide
  | cons x l ih =>
    rw [List.cons_append, crlfFree_cons, crlfFree_cons, ih]
    cases l <;> simp

theorem crlfFree_of_not_mem {s : List Char} (hs : '\r' ∉ s) : CrlfFree s := by
  simpa using (crlfFree_append_of_not_mem hs []).mpr crlfFree_nil

@[simp] theorem cr_not_mem_fmtU (n : Nat) : '\r' ∉ fmtU n :=
  fun h => absurd (mem_fmtU h) (by decide)

@[simp] theorem cr_not_mem_fmtD (v : Int) : '\r' ∉ fmtD v :=
  fun h => absurd (mem_fmtD h) (by decide)

@[simp] theorem crlfFree_fmtU (n : Nat) : CrlfFree (fmtU n) :=
  crlfFree_of_not_mem (cr_not_mem_fmtU n)

@[simp] theorem crlfFree_fmtD (v : Int) : CrlfFree (fmtD v) :=
  crlfFree_of_not_mem (cr_not_mem_fmtD v)

/-- Tokens without CRLF, joined by spaces, have none. -/
theorem crlfFree_intercalate_space {ts : List (List Char)} (h : ∀ t ∈ ts, CrlfFree t) :
    CrlfFree ([' '].intercalate ts) := by
  induction ts with
  | nil => exact crlfFree_nil
  | cons t ts ih =>
    have ht := h t (List.mem_cons_self _ _)
    cases ts with
    | nil => simpa [List.intercalate] using ht
    | cons t' ts =>
      show CrlfFree (t ++ ' ' :: [' '].intercalate (t' :: ts))
      rw [crlfFree_append_cons (by decide) (by decide)]
      exact ⟨ht, ih fun x hx => h x (List.mem_cons_of_mem _ hx)⟩

/-! ## Lines of a body -/

private theorem strsplitScan_joinLines (n : Nat) {ls : List (List Char)}
    (h : ∀ l ∈ ls, CrlfFree l) : strsplitScan crlf 0 n [] (joinLines ls) = ls ++ [[]] := by
  induction ls generalizing n with
  | nil => rfl
  | cons l ls ih =>
    have hl : CrlfFree (l ++ ['\r']) := crlfFree_append_cr.mpr (h l (List.mem_cons_self _ _))
    have hcut : strsplitScan crlf 0 n [] (l ++ crlf ++ joinLines ls) =
        l :: strsplitScan crlf 0 (n + 1) [] (joinLines ls) :=
      strsplitScan_cut l ['\r'] '\n' (Or.inl rfl) (by simpa [CrlfFree, crlf] using hl)
    rw [joinLines, List.flatMap_cons, ← joinLines, hcut,
      ih _ (fun l' hl' => h l' (List.mem_cons_of_mem _ hl'))]
    rfl

/-- `g_strsplit (body, "\r\n", 0)` of a body of CRLF-free lines gives the lines back, and
the empty text after the last CRLF. -/
theorem gStrsplit_joinLines {ls : List (List Char)} (hne : ls ≠ [])
    (h : ∀ l ∈ ls, CrlfFree l) : gStrsplit (joinLines ls) crlf 0 = ls ++ [[]] := by
  obtain ⟨l, ls, rfl⟩ := List.exists_cons_of_ne_nil hne
  rw [gStrsplit, if_neg (by simp [joinLines, crlf]), strsplitScan_joinLines 0 h]

/-- The loop stops at no line of a prefix that it reads through. -/
theorem parseSdpLines_append {st st' : FrameScan} {ls : List (List Char)}
    (h : parseSdpLines st ls = .ok (some st')) (rest : List (List Char)) :
    parseSdpLines st (ls ++ rest) = parseSdpLines st' rest := by
  induction ls generalizing st with
  | nil => cases h; rfl
  | cons l ls ih =>
    simp only [parseSdpLines, List.cons_append, bind, Except.bind] at h ⊢
    rcases hl : parseSdpLine st l with _ | _ | st1 <;> simp only [hl] at h ⊢
    · cases h
    · cases h
    · exact ih h

/-! ## Line lemmas -/

private theorem split_colon_flag {name : List Char} (hn : name ≠ []) (hc : ':' ∉ name) :
    gStrsplit name [':'] 2 = [name] := by
  rw [gStrsplit_singleton, gStrsplitSet, if_neg hn]
  have h : strsplitSetScan [':'] 2 0 [] (name ++ []) =
      strsplitSetScan [':'] 2 0 (name.reverse ++ []) [] :=
    strsplitSetScan_append name (fun c h h' => hc (by rwa [List.mem_singleton.mp h'] at h))
  simpa [strsplitSetScan] using h

private theorem split_colon_attr {name : List Char} (value : List Char) (hc : ':' ∉ name) :
    gStrsplit (name ++ ':' :: value) [':'] 2 = [name, value] := by
  rw [gStrsplit_singleton, gStrsplitSet, if_neg (by simp),
    strsplitSetScan_cut name (List.mem_singleton_self _) (by decide)
      (fun c h h' => hc (by rwa [List.mem_singleton.mp h'] at h)),
    strsplitSetScan_of_not_mayCut (by decide)]
  simp

/-- A line that starts with no `a=`, `o=` or `m=` changes nothing. -/
theorem parseSdpLine_skip (st : FrameScan) {c : Char} (hc : c ∉ ['a', 'o', 'm'])
    (line : List Char) : parseSdpLine st (c :: line) = .ok (some st) := by
  simp only [List.mem_cons, List.mem_singleton, not_or, List.not_mem_nil] at hc
  simp [parseSdpLine, gStrHasPrefix, List.isPrefixOf, Ne.symm hc.1, Ne.symm hc.2.1,
    Ne.symm hc.2.2.1, pure, Except.pure]

/-- The empty text after the last CRLF changes nothing. -/
theorem parseSdpLine_nil (st : FrameScan) : parseSdpLine st [] = .ok (some st) := rfl

/-- An attribute line `a=name:value` adds the pair `(name, value)`, split at the first `:`. -/
theorem parseSdpLine_attr (st : FrameScan) {name : List Char} (value : List Char)
    (hc : ':' ∉ name) :
    parseSdpLine st ('a' :: '=' :: (name ++ ':' :: value)) =
      .ok (some { st with attrs := namevalAdd st.attrs name (some value) }) := by
  simp [parseSdpLine, gStrHasPrefix, split_colon_attr value hc, bind, Except.bind, pure,
    Except.pure, vecAt]

/-- An attribute line `a=name` with no `:` adds the pair `(name, NULL)`. -/
theorem parseSdpLine_flag (st : FrameScan) {name : List Char} (hn : name ≠ [])
    (hc : ':' ∉ name) :
    parseSdpLine st ('a' :: '=' :: name) =
      .ok (some { st with attrs := namevalAdd st.attrs name none }) := by
  simp [parseSdpLine, gStrHasPrefix, split_colon_flag hn hc, bind, Except.bind, pure,
    Except.pure, vecAt]

/-- The line of an attribute: `a=name:value`, or `a=name` for a NULL value. -/
def attrLine : Attr → List Char
  | (name, some v) => 'a' :: '=' :: (name ++ ':' :: v)
  | (name, none) => 'a' :: '=' :: name

/-- An attribute that a body can carry and the parse read back: a nonempty name with no
`:`, and no CRLF in the name or the value. -/
structure Attr.Sendable (a : Attr) : Prop where
  name_ne : a.1 ≠ []
  colon : ':' ∉ a.1
  name_crlf : CrlfFree a.1
  value_crlf : ∀ v ∈ a.2, CrlfFree v

theorem crlfFree_attrLine {a : Attr} (ha : Attr.Sendable a) : CrlfFree (attrLine a) := by
  obtain ⟨name, _ | v⟩ := a
  · simpa [attrLine] using ha.name_crlf
  · simpa [attrLine, crlfFree_append_cons] using ⟨ha.name_crlf, ha.value_crlf v rfl⟩

/-- The line of a sendable attribute adds it to the set. -/
theorem parseSdpLine_attrLine (st : FrameScan) {a : Attr} (ha : Attr.Sendable a) :
    parseSdpLine st (attrLine a) = .ok (some { st with attrs := namevalAdd st.attrs a.1 a.2 }) := by
  obtain ⟨name, _ | v⟩ := a
  · exact parseSdpLine_flag st ha.name_ne ha.colon
  · exact parseSdpLine_attr st v ha.colon

/-- The lines of sendable attributes add them to the set, in order. -/
theorem parseSdpLines_attrLines (st : FrameScan) {as : List Attr}
    (h : ∀ a ∈ as, Attr.Sendable a) (rest : List (List Char)) :
    parseSdpLines st (as.map attrLine ++ rest) =
      parseSdpLines { st with attrs := st.attrs ++ as } rest := by
  induction as generalizing st with
  | nil => simp
  | cons a as ih =>
    simp only [List.map_cons, List.cons_append, parseSdpLines,
      parseSdpLine_attrLine st (h a (List.mem_cons_self _ _))]
    simp [bind, Except.bind, ih _ (fun a' ha' => h a' (List.mem_cons_of_mem _ ha')), namevalAdd]

/-! ## Lines of any body -/

/-- An attribute line's text after `a=` read as a pair: the text before the first `:`, and the
text after it, NULL when there is no `:`. -/
def splitAtColon : List Char → Attr
  | [] => ([], none)
  | c :: cs => if c = ':' then ([], some cs) else (c :: (splitAtColon cs).1, (splitAtColon cs).2)

/-- The pair an `a=` line stands for; no pair for other lines. -/
def lineAttr (line : List Char) : Option Attr :=
  if gStrHasPrefix line ['a', '='] then some (splitAtColon (line.drop 2)) else none

/-- A line whose `o=` or `m=` field the loop reads inside its vector: at least five fields
after `o=` (line 577 reads `parts[5]`), at least two after `m=` (line 581 reads `parts[1]`). -/
def LineReadable (line : List Char) : Prop :=
  (gStrHasPrefix line ['o', '='] = true → 5 ≤ (gStrsplit (line.drop 2) [' '] 6).length) ∧
  (gStrHasPrefix line ['m', '='] = true → 2 ≤ (gStrsplit (line.drop 2) [' '] 3).length)

instance (line : List Char) : Decidable (LineReadable line) :=
  inferInstanceAs (Decidable (_ ∧ _))

/-- The text after `a=` is its name when it has no `:`, and is cut at its first `:`
otherwise. -/
theorem splitAtColon_cases (rest : List Char) :
    (':' ∉ rest ∧ splitAtColon rest = (rest, none)) ∨
      ∃ name v, ':' ∉ name ∧ rest = name ++ ':' :: v ∧ splitAtColon rest = (name, some v) := by
  induction rest with
  | nil => exact .inl ⟨List.not_mem_nil _, rfl⟩
  | cons c cs ih =>
    by_cases hc : c = ':'
    · exact .inr ⟨[], cs, List.not_mem_nil _, by rw [hc]; rfl, by simp [splitAtColon, hc]⟩
    · rcases ih with ⟨hcs, he⟩ | ⟨name, v, hn, rfl, he⟩
      · exact .inl ⟨by simp [hcs, Ne.symm hc], by simp [splitAtColon, hc, he]⟩
      · exact .inr ⟨c :: name, v, by simp [hn, Ne.symm hc], rfl, by simp [splitAtColon, hc, he]⟩

/-- An `a=` line with text after it adds the pair of that text, cut at the first `:`. -/
theorem parseSdpLine_attrRest (st : FrameScan) {rest : List Char} (hr : rest ≠ []) :
    parseSdpLine st ('a' :: '=' :: rest) =
      .ok (some { st with attrs := namevalAdd st.attrs (splitAtColon rest).1 (splitAtColon rest).2 }) := by
  rcases splitAtColon_cases rest with ⟨hc, he⟩ | ⟨name, v, hc, rfl, he⟩ <;> rw [he]
  · exact parseSdpLine_flag st hr hc
  · exact parseSdpLine_attr st v hc

/-- A readable line stops the loop exactly when it is `a=` with nothing after it; otherwise it
adds the pair of an `a=` line and no pair for any other line. -/
theorem parseSdpLine_readable (st : FrameScan) {line : List Char} (hl : LineReadable line) :
    ∃ st', parseSdpLine st line = .ok (if line = ['a', '='] then none else some st') ∧
      st'.attrs = st.attrs ++ (lineAttr line).toList := by
  by_cases ha : gStrHasPrefix line ['a', '='] = true
  · obtain ⟨rest, rfl⟩ := List.isPrefixOf_iff_prefix.mp ha
    by_cases hr : rest = []
    · subst hr
      exact ⟨{ st with attrs := st.attrs ++ (lineAttr ['a', '=']).toList }, rfl, rfl⟩
    · refine ⟨{ st with attrs := namevalAdd st.attrs (splitAtColon rest).1 (splitAtColon rest).2 },
        ?_, by simp [lineAttr, gStrHasPrefix, namevalAdd]⟩
      simp only [List.cons_append, List.nil_append, List.cons.injEq, true_and, hr, if_false]
      exact parseSdpLine_attrRest st hr
  · have hla : lineAttr line = none := by simp [lineAttr, ha]
    have hne : line ≠ ['a', '='] := fun h => ha (by rw [h]; rfl)
    by_cases ho : gStrHasPrefix line ['o', '='] = true
    · obtain ⟨x, hx⟩ := vecAt_ok (hl.1 ho)
      exact ⟨{ st with remoteIp := x }, by
        simp [parseSdpLine, ha, ho, hx, hne, bind, Except.bind, pure, Except.pure], by simp [hla]⟩
    · by_cases hm : gStrHasPrefix line ['m', '='] = true
      · obtain ⟨t, hx⟩ : ∃ t, vecAt (gStrsplit (line.drop 2) [' '] 3) 1 = .ok (some t) :=
          ⟨_, vecAt_of_lt (Nat.lt_of_lt_of_le (show 1 < 2 by decide) (hl.2 hm))⟩
        exact ⟨{ st with remotePort := toGuint16 (atoi t) }, by
          simp [parseSdpLine, ha, ho, hm, hx, hne, atoiArg, bind, Except.bind, pure, Except.pure],
          by simp [hla]⟩
      · exact ⟨st, by simp [parseSdpLine, ha, ho, hm, hne, pure, Except.pure], by simp [hla]⟩

/-- Over readable lines the loop stops exactly when some line is `a=` with nothing after it;
otherwise it adds one pair per `a=` line, in line order. -/
theorem parseSdpLines_readable (st : FrameScan) {lines : List (List Char)}
    (h : ∀ l ∈ lines, LineReadable l) :
    ∃ st', parseSdpLines st lines = .ok (if ['a', '='] ∈ lines then none else some st') ∧
      st'.attrs = st.attrs ++ lines.filterMap lineAttr := by
  induction lines generalizing st with
  | nil => exact ⟨st, rfl, by simp⟩
  | cons l ls ih =>
    obtain ⟨st1, h1, ha1⟩ := parseSdpLine_readable st (h l (List.mem_cons_self _ _))
    by_cases hl : l = ['a', '=']
    · refine ⟨{ st with attrs := st.attrs ++ (l :: ls).filterMap lineAttr }, ?_, rfl⟩
      subst hl
      simp [parseSdpLines, h1, bind, Except.bind, pure, Except.pure]
    · obtain ⟨st2, h2, ha2⟩ := ih st1 fun l' hl' => h l' (List.mem_cons_of_mem _ hl')
      refine ⟨st2, ?_, ?_⟩
      · simp [parseSdpLines, h1, hl, h2, bind, Except.bind, Ne.symm hl]
      · rw [ha2, ha1, List.append_assoc]
        cases hla : lineAttr l <;> simp [List.filterMap_cons, hla]

/-! ## When the frame parser faults -/

/-- An `o=` line is readable when it has at least four spaces after `o=`, an `m=` line when it
has one. -/
theorem lineReadable_iff (line : List Char) :
    LineReadable line ↔ (gStrHasPrefix line ['o', '='] = true → 4 ≤ (line.drop 2).count ' ') ∧
      (gStrHasPrefix line ['m', '='] = true → ' ' ∈ line.drop 2) := by
  have h6 : (gStrsplit (line.drop 2) [' '] 6).length =
      if line.drop 2 = [] then 0 else min ((line.drop 2).count ' ') 5 + 1 :=
    length_gStrsplit_singleton _ _ 5
  have h3 : (gStrsplit (line.drop 2) [' '] 3).length =
      if line.drop 2 = [] then 0 else min ((line.drop 2).count ' ') 2 + 1 :=
    length_gStrsplit_singleton _ _ 2
  rw [LineReadable, h6, h3, ← List.count_pos_iff]
  by_cases hr : line.drop 2 = []
  · simp [hr]
  · simp only [hr, if_false]
    constructor <;> rintro ⟨ho, hm⟩ <;>
      exact ⟨fun h => by have := ho h; omega, fun h => by have := hm h; omega⟩

/-- A line the loop cannot read faults: `parts[5]` of a short `o=` line or `parts[1]` of an
`m=` line with no space lies past the vector's terminator, or is the terminator, which `atoi`
then reads. -/
theorem parseSdpLine_faults (st : FrameScan) {line : List Char} (hl : ¬ LineReadable line) :
    ∃ f, parseSdpLine st line = .error f := by
  unfold LineReadable at hl
  by_cases ho : gStrHasPrefix line ['o', '='] = true
  · obtain ⟨rest, rfl⟩ := List.isPrefixOf_iff_prefix.mp ho
    have hlt : (gStrsplit rest [' '] 6).length < 5 := by
      simp [gStrHasPrefix] at hl
      omega
    refine ⟨.pastEnd, ?_⟩
    simp [parseSdpLine, gStrHasPrefix, vecAt_eq_error.mpr ⟨hlt, rfl⟩, bind, Except.bind]
  · by_cases hm : gStrHasPrefix line ['m', '='] = true
    · obtain ⟨rest, rfl⟩ := List.isPrefixOf_iff_prefix.mp hm
      have hlt : (gStrsplit rest [' '] 3).length < 2 := by
        simp [gStrHasPrefix] at hl
        omega
      simp only [parseSdpLine, gStrHasPrefix, List.isPrefixOf, List.cons_append,
        List.nil_append, List.drop_succ_cons, List.drop_zero, bind, Except.bind]
      rcases hv : gStrsplit rest [' '] 3 with _ | ⟨t, _ | ⟨t', ts⟩⟩
      · exact ⟨.pastEnd, rfl⟩
      · exact ⟨.nullString, rfl⟩
      · exact absurd hlt (by simp [hv])
    · exact absurd ⟨fun h => absurd h ho, fun h => absurd h hm⟩ hl

/-- The loop faults exactly when it meets, before any `a=` line with nothing after it, a line
it cannot read. -/
theorem parseSdpLines_faults_iff (st : FrameScan) (lines : List (List Char)) :
    (∃ f, parseSdpLines st lines = .error f) ↔
      ∃ line ∈ lines.takeWhile (· ≠ ['a', '=']), ¬ LineReadable line := by
  induction lines generalizing st with
  | nil => exact iff_of_false (fun ⟨_, h⟩ => by cases h) (by simp)
  | cons l ls ih =>
    by_cases hr : LineReadable l
    · obtain ⟨st1, h1, -⟩ := parseSdpLine_readable st hr
      by_cases hl : l = ['a', '=']
      · simp only [parseSdpLines, h1, if_pos hl, bind, Except.bind]
        exact iff_of_false (fun ⟨_, h⟩ => by cases h) (by simp [hl])
      · simp only [parseSdpLines, h1, hl, if_false, bind, Except.bind, ih]
        simp [List.takeWhile_cons, hl, hr]
    · obtain ⟨f, hf⟩ := parseSdpLine_faults st hr
      have hl : l ≠ ['a', '='] := fun h => hr (h ▸ by decide)
      simp only [parseSdpLines, hf, bind, Except.bind]
      exact iff_of_true ⟨f, rfl⟩ ⟨l, by simp [List.takeWhile_cons, hl], hr⟩

/-- `sipe_media_parse_sdp_frame` reaches undefined behaviour exactly when, before the first
line `a=` with nothing after it (which stops the loop), the body has an `o=` line with fewer
than four spaces or an `m=` line with none. -/
theorem parseSdpFrame_faults_iff (frame : List Char) :
    (∃ f, parseSdpFrame frame = .error f) ↔
      ∃ line ∈ (gStrsplit frame crlf 0).takeWhile (· ≠ ['a', '=']),
        gStrHasPrefix line ['o', '='] = true ∧ (line.drop 2).count ' ' < 4 ∨
          gStrHasPrefix line ['m', '='] = true ∧ ' ' ∉ line.drop 2 := by
  rw [parseSdpFrame, parseSdpLines_faults_iff]
  refine exists_congr fun line => and_congr_right fun _ => ?_
  have hom : ¬ (gStrHasPrefix line ['o', '='] = true ∧ gStrHasPrefix line ['m', '='] = true) := by
    rintro ⟨ho, hm⟩
    obtain ⟨rest, rfl⟩ := List.isPrefixOf_iff_prefix.mp ho
    simp [gStrHasPrefix] at hm
  rw [lineReadable_iff]
  by_cases ho : gStrHasPrefix line ['o', '='] = true <;>
    by_cases hm : gStrHasPrefix line ['m', '='] = true
  · exact absurd ⟨ho, hm⟩ hom
  all_goals simp [ho, hm]

end SipeMedia.Sdp
