import Mathlib.Data.List.Basic
import Mathlib.Tactic.IntervalCases
import Mathlib.Data.Nat.Digits

/-!
# C strings: GLib splitting, `atoi`, printf decimals and undefined behaviour

Library support for `src/core/sipe-media.c`. A C string is a `List Char`. The GLib and
libc functions the file calls are modelled as their documented behaviour on glibc:
`g_strsplit` and `g_strsplit_set` cut at the leftmost delimiters and return a
NULL-terminated vector, `atoi` is `(int) strtol (s, NULL, 10)`, and printf's `%d`/`%u`
write decimal digits. Reads the C standard leaves undefined stop the model with a `Fault`.
-/

namespace SipeMedia.Base

/-- Undefined behaviour that `sipe-media.c` can reach; the model stops there. -/
inductive Fault where
  /-- `v[k]` of a `g_strsplit` vector with `k` past its NULL terminator -/
  | pastEnd
  /-- a NULL string passed to `atoi` -/
  | nullString
  /-- a NULL `sipe_media_call *` dereferenced -/
  | nullCall
  /-- a freed `sipe_media_call *` dereferenced -/
  | freedCall
  /-- `->data` or `->next` of an empty or one-cell `GList` -/
  | emptyList
  /-- an automatic variable read before it was written -/
  | uninitialized
  deriving DecidableEq, Repr

/-- Equality of results, so that runs of the model can be compared by `decide`. -/
instance instDecidableEqExcept {ε α : Type} [DecidableEq ε] [DecidableEq α] :
    DecidableEq (Except ε α)
  | .error e, .error e' => decidable_of_iff (e = e') (by simp)
  | .ok a, .ok a' => decidable_of_iff (a = a') (by simp)
  | .error _, .ok _ => isFalse (by simp)
  | .ok _, .error _ => isFalse (by simp)

/-- A computation that may stop at undefined behaviour returns `b` when its first part
returns some `a` and the rest returns `b` from it. -/
theorem bind_eq_ok {α β ε : Type} {x : Except ε α} {f : α → Except ε β} {b : β} :
    x >>= f = .ok b ↔ ∃ a, x = .ok a ∧ f a = .ok b := by
  cases x <;> simp [bind, Except.bind]

/-- A computation faults when its first part faults, or returns and the rest faults. -/
theorem bind_faults_iff {α β ε : Type} {x : Except ε α} {g : α → Except ε β} :
    (∃ e, (x >>= g) = .error e) ↔
      (∃ e, x = .error e) ∨ ∃ a, x = .ok a ∧ ∃ e, g a = .error e := by
  cases x <;> simp [bind, Except.bind]

/-- A computation that returns does not fault: whatever is equivalent to its faulting fails. -/
theorem not_of_faults_iff {α ε : Type} {x : Except ε α} {a : α} {P : Prop} (hx : x = .ok a)
    (h : (∃ e, x = .error e) ↔ P) : ¬ P :=
  fun hp => by
    obtain ⟨e, he⟩ := h.mpr hp
    rw [hx] at he
    cases he

/-! ## NULL-terminated token vectors -/

/-- `v[k]` of a NULL-terminated string vector: the token, NULL at the terminator, and
undefined behaviour past it. -/
def vecAt (v : List (List Char)) (k : Nat) : Except Fault (Option (List Char)) :=
  match v[k]? with
  | some t => .ok (some t)
  | none => if k = v.length then .ok none else .error .pastEnd

/-- A token inside the vector is read as itself. -/
@[simp] theorem vecAt_of_lt {v : List (List Char)} {k : Nat} (h : k < v.length) :
    vecAt v k = .ok (some v[k]) := by
  simp [vecAt, List.getElem?_eq_getElem h]

/-- Token reads on a vector given token by token. -/
theorem vecAt_nil_zero : vecAt [] 0 = .ok none := rfl

theorem vecAt_nil_succ (k : Nat) : vecAt [] (k + 1) = .error .pastEnd := rfl

theorem vecAt_cons_zero (t : List Char) (v : List (List Char)) :
    vecAt (t :: v) 0 = .ok (some t) := by
  simp only [vecAt, List.getElem?_cons_zero]

theorem vecAt_cons_succ (t : List Char) (v : List (List Char)) (k : Nat) :
    vecAt (t :: v) (k + 1) = vecAt v k := by
  simp only [vecAt, List.getElem?_cons_succ, List.length_cons, Nat.add_right_cancel_iff]

/-- A read at most at the terminator does not fault. -/
theorem vecAt_ok {v : List (List Char)} {k : Nat} (h : k ≤ v.length) : ∃ t, vecAt v k = .ok t := by
  unfold vecAt
  split
  · exact ⟨_, rfl⟩
  · next hk => exact ⟨none, if_pos (by simp at hk; omega)⟩

/-- Reading past the terminator is the only fault of a vector read. -/
theorem vecAt_eq_error {v : List (List Char)} {k : Nat} {f : Fault} :
    vecAt v k = .error f ↔ v.length < k ∧ f = .pastEnd := by
  by_cases hk : k < v.length
  · simp [hk]; omega
  · simp only [vecAt, List.getElem?_eq_none (Nat.le_of_not_lt hk)]
    split <;> simp [eq_comm] <;> omega

/-! ## `g_strsplit` and `g_strsplit_set` -/

/-- Whether a `g_strsplit`/`g_strsplit_set` scan that has cut `n` tokens may cut again:
GLib cuts while `n + 1 < max_tokens`, and splits completely when `max_tokens < 1`. -/
def mayCut (maxTokens n : Nat) : Prop := maxTokens = 0 ∨ n + 1 < maxTokens

instance (maxTokens n : Nat) : Decidable (mayCut maxTokens n) :=
  inferInstanceAs (Decidable (_ ∨ _))

/-- The scan of `g_strsplit`: `acc` is the current token reversed and `n` the number of
tokens cut. A cut happens when the token read so far ends with the delimiter; since all
occurrences have the delimiter's length, this is `strstr`'s leftmost occurrence. -/
def strsplitScan (delim : List Char) (maxTokens : Nat) :
    Nat → List Char → List Char → List (List Char)
  | _, acc, [] => [acc.reverse]
  | n, acc, c :: cs =>
    if mayCut maxTokens n ∧ delim.reverse <+: c :: acc then
      ((c :: acc).drop delim.length).reverse :: strsplitScan delim maxTokens (n + 1) [] cs
    else strsplitScan delim maxTokens n (c :: acc) cs

/-- GLib's `g_strsplit (string, delimiter, max_tokens)`; the empty string gives the empty
vector. -/
def gStrsplit (s delim : List Char) (maxTokens : Nat) : List (List Char) :=
  if s = [] then [] else strsplitScan delim maxTokens 0 [] s

/-- The scan of `g_strsplit_set`: a cut at every character of `delims` while cuts remain. -/
def strsplitSetScan (delims : List Char) (maxTokens : Nat) :
    Nat → List Char → List Char → List (List Char)
  | _, acc, [] => [acc.reverse]
  | n, acc, c :: cs =>
    if c ∈ delims ∧ mayCut maxTokens n then
      acc.reverse :: strsplitSetScan delims maxTokens (n + 1) [] cs
    else strsplitSetScan delims maxTokens n (c :: acc) cs

/-- GLib's `g_strsplit_set (string, delimiters, max_tokens)`. -/
def gStrsplitSet (s delims : List Char) (maxTokens : Nat) : List (List Char) :=
  if s = [] then [] else strsplitSetScan delims maxTokens 0 [] s

/-- GLib's `g_str_has_prefix`. -/
def gStrHasPrefix (s pre : List Char) : Bool := pre.isPrefixOf s

/-! ## `atoi` and printf decimals -/

/-- `isspace` in the C locale. -/
def isCSpace (c : Char) : Bool :=
  c = ' ' || c = '\t' || c = '\n' || c = '\x0B' || c = '\x0C' || c = '\r'

/-- One step of `strtol`'s digit loop: `acc * 10 + (c - '0')`. -/
def digitStep (v : Nat) (c : Char) : Nat := 10 * v + (c.toNat - '0'.toNat)

/-- Value of the leading decimal digits of `s`, read after the value `v`. -/
def digitsValue (v : Nat) : List Char → Nat
  | [] => v
  | c :: cs => if c.isDigit then digitsValue (digitStep v c) cs else v

/-- A `long` of glibc on a 64-bit target: `strtol` saturates at its bounds. -/
def clampLong (v : Int) : Int := max (-2 ^ 63) (min v (2 ^ 63 - 1))

/-- glibc's `strtol (s, NULL, 10)`: blanks, an optional sign, then decimal digits. -/
def strtol (s : List Char) : Int :=
  match s.dropWhile isCSpace with
  | '-' :: t => clampLong (-(digitsValue 0 t : Int))
  | '+' :: t => clampLong (digitsValue 0 t)
  | t => clampLong (digitsValue 0 t)

/-- The conversion of a `long` to `int`, wrapping modulo 2^32 as gcc does. -/
def wrapInt (v : Int) : Int := (v + 2 ^ 31) % 2 ^ 32 - 2 ^ 31

/-- glibc's `atoi`, which is `(int) strtol (s, NULL, 10)`. -/
def atoi (s : List Char) : Int := wrapInt (strtol s)

/-- The conversion of an `int` to a 16-bit unsigned C type, modulo 2^16. -/
def toGuint16 (v : Int) : UInt16 := UInt16.ofNat (v % 2 ^ 16).toNat

/-- The conversion of an `int` to a 32-bit unsigned C type, modulo 2^32. -/
def toGuint32 (v : Int) : UInt32 := UInt32.ofNat (v % 2 ^ 32).toNat

/-- An unsigned 32-bit value read as an `int`, as `%d` reads a `guint`. -/
def asInt (n : Nat) : Int := if n < 2 ^ 31 then n else n - 2 ^ 32

/-- printf's `%u`. -/
def fmtU (n : Nat) : List Char := Nat.toDigits 10 n

/-- printf's `%d`. -/
def fmtD : Int → List Char
  | .ofNat n => fmtU n
  | .negSucc n => '-' :: fmtU (n + 1)

/-- The characters printf's `%d` and `%u` write: a sign and decimal digits. -/
def decimalChars : List Char := "-0123456789".toList

/-! ## Splitting lemmas -/

section Split

variable {delim delims acc rest : List Char} {maxTokens n : Nat}

/-- Characters read while the delimiter cannot end in the text go to the current token. -/
theorem strsplitScan_append (L : List Char) (h : ¬ delim <:+: acc.reverse ++ L) :
    strsplitScan delim maxTokens n acc (L ++ rest) =
      strsplitScan delim maxTokens n (L.reverse ++ acc) rest := by
  induction L generalizing acc with
  | nil => rfl
  | cons c L ih =>
    have hc : ¬ delim.reverse <+: c :: acc := fun hp => by
      have hs : delim <:+ acc.reverse ++ [c] := List.reverse_prefix.mp (by simpa using hp)
      exact h (hs.isInfix.trans (by simpa using List.infix_append [] (acc.reverse ++ [c]) L))
    rw [List.cons_append, strsplitScan, if_neg (fun hh => hc hh.2),
      ih (by simpa using h)]
    simp

/-- A scan cuts at the first occurrence of the delimiter `d0 ++ [z]`. -/
theorem strsplitScan_cut (L d0 : List Char) (z : Char) (hcut : mayCut maxTokens n)
    (h : ¬ d0 ++ [z] <:+: acc.reverse ++ L ++ d0) :
    strsplitScan (d0 ++ [z]) maxTokens n acc (L ++ (d0 ++ [z]) ++ rest) =
      (acc.reverse ++ L) :: strsplitScan (d0 ++ [z]) maxTokens (n + 1) [] rest := by
  rw [show L ++ (d0 ++ [z]) ++ rest = (L ++ d0) ++ z :: rest by simp,
    strsplitScan_append _ (by simpa using h), strsplitScan,
    if_pos ⟨hcut, by simp⟩]
  simp

/-- A scan that may cut no more returns the rest as its last token. -/
theorem strsplitScan_of_not_mayCut (hcut : ¬ mayCut maxTokens n) (s : List Char) :
    strsplitScan delim maxTokens n acc s = [acc.reverse ++ s] := by
  induction s generalizing acc with
  | nil => simp [strsplitScan]
  | cons c s ih => simp [strsplitScan, hcut, ih]

/-- Characters outside the delimiter set go to the current token. -/
theorem strsplitSetScan_append (L : List Char) (h : ∀ c ∈ L, c ∉ delims) :
    strsplitSetScan delims maxTokens n acc (L ++ rest) =
      strsplitSetScan delims maxTokens n (L.reverse ++ acc) rest := by
  induction L generalizing acc with
  | nil => rfl
  | cons c L ih =>
    rw [List.cons_append, strsplitSetScan,
      if_neg (fun hh => h c (List.mem_cons_self _ _) hh.1),
      ih (fun x hx => h x (List.mem_cons_of_mem _ hx))]
    simp

/-- A set scan cuts at the first delimiter character. -/
theorem strsplitSetScan_cut (L : List Char) {z : Char} (hz : z ∈ delims)
    (hcut : mayCut maxTokens n) (h : ∀ c ∈ L, c ∉ delims) :
    strsplitSetScan delims maxTokens n acc (L ++ z :: rest) =
      (acc.reverse ++ L) :: strsplitSetScan delims maxTokens (n + 1) [] rest := by
  rw [strsplitSetScan_append _ h, strsplitSetScan, if_pos ⟨hz, hcut⟩]
  simp

/-- A set scan that may cut no more returns the rest as its last token. -/
theorem strsplitSetScan_of_not_mayCut (hcut : ¬ mayCut maxTokens n) (s : List Char) :
    strsplitSetScan delims maxTokens n acc s = [acc.reverse ++ s] := by
  induction s generalizing acc with
  | nil => simp [strsplitSetScan]
  | cons c s ih => simp [strsplitSetScan, hcut, ih]

/-- Tokens free of the delimiters, joined by one delimiter each, are cut back apart when
no token limit is set. -/
theorem strsplitSetScan_intercalate {z : Char} (hz : z ∈ delims) {ts : List (List Char)}
    (hne : ts ≠ []) (h : ∀ t ∈ ts, ∀ c ∈ t, c ∉ delims) :
    strsplitSetScan delims 0 n [] ([z].intercalate ts) = ts := by
  induction ts generalizing n with
  | nil => exact absurd rfl hne
  | cons t ts ih =>
    have ht := h t (List.mem_cons_self _ _)
    cases ts with
    | nil =>
      show strsplitSetScan delims 0 n [] (t ++ []) = [t]
      rw [strsplitSetScan_append t ht]
      simp [strsplitSetScan]
    | cons t' ts =>
      show strsplitSetScan delims 0 n [] (t ++ z :: [z].intercalate (t' :: ts)) = _
      rw [strsplitSetScan_cut t hz (Or.inl rfl) ht,
        ih (List.cons_ne_nil _ _) (fun x hx => h x (List.mem_cons_of_mem _ hx))]
      rfl

/-- On a one-character delimiter `g_strsplit` and `g_strsplit_set` agree. -/
theorem strsplitScan_singleton (z : Char) (s : List Char) :
    strsplitScan [z] maxTokens n acc s = strsplitSetScan [z] maxTokens n acc s := by
  induction s generalizing n acc with
  | nil => rfl
  | cons c s ih =>
    simp only [strsplitScan, strsplitSetScan, List.reverse_singleton, List.cons_prefix_cons,
      List.nil_prefix, and_true, List.mem_singleton, List.length_singleton, List.drop_one,
      List.tail_cons, ih, eq_comm (a := z)]
    by_cases hc : c = z <;> simp [hc, and_comm]

/-- `g_strsplit` with a one-character delimiter is `g_strsplit_set` with that character. -/
theorem gStrsplit_singleton (s : List Char) (z : Char) (m : Nat) :
    gStrsplit s [z] m = gStrsplitSet s [z] m := by
  simp only [gStrsplit, gStrsplitSet, strsplitScan_singleton]

/-- A set scan under `max_tokens = k + 1` that has cut `n ≤ k` tokens cuts at the next `k - n`
delimiters and no more. -/
theorem length_strsplitSetScan {k : Nat} (hn : n ≤ k) (s : List Char) :
    (strsplitSetScan delims (k + 1) n acc s).length = min (s.countP (· ∈ delims)) (k - n) + 1 := by
  induction s generalizing n acc with
  | nil => simp [strsplitSetScan]
  | cons c s ih =>
    simp only [strsplitSetScan, mayCut, Nat.add_eq_zero, one_ne_zero, and_false, false_or,
      Nat.add_lt_add_iff_right, List.countP_cons, decide_eq_true_eq]
    by_cases hc : c ∈ delims
    · by_cases hk : n < k
      · rw [if_pos ⟨hc, hk⟩, List.length_cons, ih hk, if_pos hc]
        omega
      · rw [if_neg (fun h => hk h.2), ih hn, if_pos hc]
        omega
    · rw [if_neg (fun h => hc h.1), ih hn, if_neg hc, Nat.add_zero]
      rfl

/-- `g_strsplit_set (s, delims, k + 1)` has one token more than the cuts it makes: one per
delimiter, at most `k`; the empty string has none. -/
theorem length_gStrsplitSet (s delims : List Char) (k : Nat) :
    (gStrsplitSet s delims (k + 1)).length =
      if s = [] then 0 else min (s.countP (· ∈ delims)) k + 1 := by
  rw [gStrsplitSet]
  split
  · rfl
  · exact length_strsplitSetScan (Nat.zero_le k) s

/-- With no token limit a set scan cuts at every delimiter. -/
theorem length_strsplitSetScan_unlimited (s : List Char) :
    (strsplitSetScan delims 0 n acc s).length = s.countP (· ∈ delims) + 1 := by
  induction s generalizing n acc with
  | nil => simp [strsplitSetScan]
  | cons c s ih =>
    simp only [strsplitSetScan, mayCut, true_or, and_true, List.countP_cons, decide_eq_true_eq]
    by_cases hc : c ∈ delims
    · rw [if_pos hc, List.length_cons, ih, if_pos hc]
    · rw [if_neg hc, ih, if_neg hc]

/-- `g_strsplit_set (s, delims, 0)` has one token more than the delimiters of `s`; the empty
string has none. -/
theorem length_gStrsplitSet_unlimited (s delims : List Char) :
    (gStrsplitSet s delims 0).length = if s = [] then 0 else s.countP (· ∈ delims) + 1 := by
  rw [gStrsplitSet]
  split
  · rfl
  · exact length_strsplitSetScan_unlimited s

/-- `g_strsplit (s, "z", k + 1)` has one token more than the cuts it makes: one per `z`, at
most `k`. -/
theorem length_gStrsplit_singleton (s : List Char) (z : Char) (k : Nat) :
    (gStrsplit s [z] (k + 1)).length = if s = [] then 0 else min (s.count z) k + 1 := by
  rw [gStrsplit_singleton, length_gStrsplitSet]
  congr 3
  simp only [List.count, List.mem_singleton]
  exact List.countP_congr fun c _ => by simp

end Split

/-! ## Decimal lemmas -/

section Decimal

/-- The digit characters `Nat.digitChar` writes below ten: digits of the right code, and
characters of `%d`'s output. -/
theorem digitChar_spec {d : Nat} (hd : d < 10) :
    (Nat.digitChar d).isDigit ∧ (Nat.digitChar d).toNat = d + 48 ∧
      Nat.digitChar d ∈ decimalChars := by
  interval_cases d <;> decide

private theorem toDigitsCore_append (f m : Nat) (ds : List Char) :
    Nat.toDigitsCore 10 f m ds = Nat.toDigitsCore 10 f m [] ++ ds := by
  induction f generalizing m ds with
  | zero => rfl
  | succ f ih =>
    simp only [Nat.toDigitsCore]
    split
    · simp
    · rw [ih, ih _ [_]]
      simp

private theorem toDigitsCore_fuel {f m : Nat} (f' : Nat) (hf : m < f) (hf' : m < f')
    (ds : List Char) :
    Nat.toDigitsCore 10 f m ds = Nat.toDigitsCore 10 f' m ds := by
  induction f generalizing f' m ds with
  | zero => omega
  | succ f ih =>
    obtain ⟨g, rfl⟩ : ∃ g, f' = g + 1 := ⟨f' - 1, by omega⟩
    simp only [Nat.toDigitsCore]
    split
    · rfl
    · exact ih _ (by omega) (by omega) _

/-- The decimal digits of `n` are those of `n / 10` followed by its last digit. -/
theorem toDigits_eq (n : Nat) :
    Nat.toDigits 10 n =
      (if n < 10 then [] else Nat.toDigits 10 (n / 10)) ++ [Nat.digitChar (n % 10)] := by
  rw [Nat.toDigits, Nat.toDigitsCore]
  split
  · next h => simp [show n < 10 by omega]
  · next h =>
    rw [toDigitsCore_append, toDigitsCore_fuel (n / 10 + 1) (by omega) (by omega)]
    simp [show ¬ n < 10 by omega, Nat.toDigits]

/-- Every character of a decimal is a digit character. -/
theorem mem_toDigits {n : Nat} {c : Char} (h : c ∈ Nat.toDigits 10 n) :
    ∃ d < 10, c = Nat.digitChar d := by
  induction n using Nat.strongRecOn with
  | ind n ih =>
    rw [toDigits_eq, List.mem_append, List.mem_singleton] at h
    rcases h with h | h
    · split at h
      · simp at h
      · exact ih _ (by omega) h
    · exact ⟨n % 10, Nat.mod_lt _ (by omega), h⟩

/-- printf's `%u` writes only digits. -/
theorem mem_fmtU {n : Nat} {c : Char} (h : c ∈ fmtU n) : c ∈ decimalChars := by
  obtain ⟨d, hd, rfl⟩ := mem_toDigits h
  exact (digitChar_spec hd).2.2

/-- printf's `%d` writes only a sign and digits. -/
theorem mem_fmtD {v : Int} {c : Char} (h : c ∈ fmtD v) : c ∈ decimalChars := by
  cases v with
  | ofNat n => exact mem_fmtU h
  | negSucc n =>
    rcases List.mem_cons.mp h with rfl | h
    · decide
    · exact mem_fmtU h

/-- A delimiter that is no decimal character is never written by `%u`. -/
theorem not_mem_fmtU_of {delims : List Char} (h : ∀ x ∈ decimalChars, x ∉ delims) (n : Nat) :
    ∀ x ∈ fmtU n, x ∉ delims := fun x hx => h x (mem_fmtU hx)

/-- A delimiter that is no decimal character is never written by `%d`. -/
theorem not_mem_fmtD_of {delims : List Char} (h : ∀ x ∈ decimalChars, x ∉ delims) (v : Int) :
    ∀ x ∈ fmtD v, x ∉ delims := fun x hx => h x (mem_fmtD hx)

/-- A decimal starts with a digit character. -/
theorem toDigits_eq_cons (n : Nat) :
    ∃ d < 10, ∃ t, Nat.toDigits 10 n = Nat.digitChar d :: t := by
  cases h : Nat.toDigits 10 n with
  | nil => simp [toDigits_eq n] at h
  | cons c t =>
    obtain ⟨d, hd, rfl⟩ := mem_toDigits (h ▸ List.mem_cons_self c t)
    exact ⟨d, hd, t, rfl⟩

private theorem digitsValue_append {v : Nat} {ds : List Char} (h : ∀ c ∈ ds, c.isDigit)
    (rest : List Char) :
    digitsValue v (ds ++ rest) =
      digitsValue (ds.foldl digitStep v) rest := by
  induction ds generalizing v with
  | nil => rfl
  | cons c ds ih =>
    simp [digitsValue, h c (List.mem_cons_self _ _), ih (fun x hx => h x (by simp [hx]))]

private theorem foldl_toDigits (n : Nat) :
    (Nat.toDigits 10 n).foldl digitStep 0 = n := by
  induction n using Nat.strongRecOn with
  | ind n ih =>
    rw [toDigits_eq, List.foldl_append]
    have hd := (digitChar_spec (Nat.mod_lt n (by omega : 10 > 0))).2.1
    split
    · simp [digitStep, hd]; omega
    · rw [ih (n / 10) (by omega)]
      simp [digitStep, hd]; omega

/-- Reading a decimal back gives its value. -/
theorem digitsValue_toDigits (n : Nat) : digitsValue 0 (Nat.toDigits 10 n) = n := by
  have h : ∀ c ∈ Nat.toDigits 10 n, c.isDigit := fun c hc => by
    obtain ⟨d, hd, rfl⟩ := mem_toDigits hc
    exact (digitChar_spec hd).1
  have hv := digitsValue_append (v := 0) h []
  rwa [List.append_nil, foldl_toDigits] at hv

private theorem strtol_digitChar {d : Nat} (hd : d < 10) (t : List Char) :
    strtol (Nat.digitChar d :: t) = clampLong (digitsValue 0 (Nat.digitChar d :: t)) := by
  interval_cases d <;> rfl

private theorem clampLong_of_bounds {v : Int} (h1 : -2 ^ 63 ≤ v) (h2 : v ≤ 2 ^ 63 - 1) :
    clampLong v = v := by
  rw [clampLong, min_eq_left h2, max_eq_right h1]

private theorem wrapInt_of_bounds {v : Int} (h1 : -2 ^ 31 ≤ v) (h2 : v < 2 ^ 31) :
    wrapInt v = v := by
  rw [wrapInt, Int.emod_eq_of_lt (by omega) (by omega)]
  omega

/-- `strtol` reads back what `%u` writes inside the `long` range. -/
theorem strtol_fmtU {n : Nat} (h : n < 2 ^ 63) : strtol (fmtU n) = n := by
  obtain ⟨d, hd, t, ht⟩ := toDigits_eq_cons n
  rw [fmtU, ht, strtol_digitChar hd, ← ht, digitsValue_toDigits,
    clampLong_of_bounds (by omega) (by omega)]

/-- `atoi` reads back what `%u` writes below 2^31. -/
theorem atoi_fmtU {n : Nat} (h : n < 2 ^ 31) : atoi (fmtU n) = n := by
  rw [atoi, strtol_fmtU (by omega), wrapInt_of_bounds (by omega) (by omega)]

/-- `atoi` keeps an integer that lies inside the `int` range. -/
theorem atoi_of_bounds {s : List Char} (h1 : -2 ^ 31 ≤ strtol s) (h2 : strtol s < 2 ^ 31) :
    atoi s = strtol s :=
  wrapInt_of_bounds h1 h2

/-- Storing `atoi`'s `int` in a `guint32` keeps an integer inside the `guint32` range, even
one that the `int` wrapped. -/
theorem toGuint32_atoi {s : List Char} (h1 : 0 ≤ strtol s) (h2 : strtol s < 2 ^ 32) :
    toGuint32 (atoi s) = UInt32.ofNat (strtol s).toNat := by
  rw [toGuint32, atoi, show wrapInt (strtol s) % 2 ^ 32 = strtol s by unfold wrapInt; omega]

/-- Storing `atoi`'s `int` in a `guint16` keeps an integer inside the `guint16` range. -/
theorem toGuint16_atoi {s : List Char} (h1 : 0 ≤ strtol s) (h2 : strtol s < 2 ^ 16) :
    toGuint16 (atoi s) = UInt16.ofNat (strtol s).toNat := by
  rw [toGuint16, atoi_of_bounds (by omega) (by omega), Int.emod_eq_of_lt h1 (by omega)]

/-- A `guint32` printed with `%u`, read with `atoi` and stored in a `guint32` is kept. -/
theorem toGuint32_atoi_fmtU (x : UInt32) : toGuint32 (atoi (fmtU x.toNat)) = x := by
  have hx := x.toNat_lt_size
  have hs : strtol (fmtU x.toNat) = x.toNat := strtol_fmtU (by simp [UInt32.size] at hx; omega)
  rw [toGuint32_atoi (by omega) (by simp [UInt32.size] at hx; omega), hs, Int.toNat_ofNat]
  exact UInt32.toNat.inj (UInt32.toNat_ofNat_of_lt hx)

/-- `atoi` reads back what `%d` writes for every `int`. -/
theorem atoi_fmtD {v : Int} (h1 : -2 ^ 31 ≤ v) (h2 : v < 2 ^ 31) : atoi (fmtD v) = v := by
  cases v with
  | ofNat n => exact atoi_fmtU (by simp only [Int.ofNat_eq_coe] at h2; omega)
  | negSucc n =>
    show wrapInt (clampLong (-(digitsValue 0 (fmtU (n + 1)) : Int))) = _
    rw [fmtU, digitsValue_toDigits, Int.negSucc_eq] at *
    rw [clampLong_of_bounds (by omega) (by omega), wrapInt_of_bounds (by omega) (by omega)]
    omega

/-- `%d` of a `guint` stays inside the `int` range. -/
theorem asInt_bounds {n : Nat} (h : n < 2 ^ 32) : -2 ^ 31 ≤ asInt n ∧ asInt n < 2 ^ 31 := by
  unfold asInt; split <;> omega

/-- Storing the `int` that `%d` reads from a `guint` gives the `guint` back. -/
theorem toGuint32_asInt (x : UInt32) : toGuint32 (asInt x.toNat) = x := by
  have hx := x.toNat_lt_size
  apply UInt32.toNat.inj
  rw [toGuint32, UInt32.toNat_ofNat_of_lt] <;> (unfold asInt; split) <;>
    simp_all [UInt32.size] <;> omega

/-- Storing a non-negative `int` below 2^16 in a `guint16` keeps it. -/
theorem toGuint16_natCast (x : UInt16) : toGuint16 x.toNat = x := by
  have hx := x.toNat_lt_size
  apply UInt16.toNat.inj
  rw [toGuint16, UInt16.toNat_ofNat_of_lt] <;> simp_all [UInt16.size] <;> omega

/-- A `guint16` printed with `%d`, read with `atoi` and stored in a `guint16` is kept. -/
theorem toGuint16_atoi_fmtD (x : UInt16) : toGuint16 (atoi (fmtD x.toNat)) = x := by
  have hx := x.toNat_lt_size
  rw [atoi_fmtD (by omega) (by simp [UInt16.size] at hx; omega), toGuint16_natCast]

/-- A `guint16` below 65535 has its successor one above it. -/
theorem toNat_add_one_of_lt {x : UInt16} (h : x.toNat < 65535) : (x + 1).toNat = x.toNat + 1 := by
  have h1 : (UInt16.toBitVec 1).toNat = 1 := rfl
  simp only [UInt16.toNat, UInt16.add_def, BitVec.toNat_add, h1] at *
  omega

/-- Storing a non-negative `int` below 2^32 in a `guint32` keeps it. -/
theorem toGuint32_natCast (x : UInt32) : toGuint32 x.toNat = x := by
  have hx := x.toNat_lt_size
  apply UInt32.toNat.inj
  rw [toGuint32, UInt32.toNat_ofNat_of_lt] <;> simp_all [UInt32.size] <;> omega

end Decimal

end SipeMedia.Base
