import TlsInterop.Py.Unicode

/-!
# Python string operations

Strings are Lean's `String`, a sequence of Unicode scalar values; every
operation is defined on the list of characters and wrapped, so that a proof
works on lists and an evaluation still runs.

## Main definitions

* `strip s` — `s.strip()`.
* `lower`, `removeChar`, `replaceChar` — the character-wise operations.
* `split sep s`, `splitOnce sep s` — `s.split(sep)` and, when `sep` occurs,
  `s.split(sep, 1)`.
* `contains needle s` — `needle in s`.
* `csvTokens s` — `[p.strip() for p in s.split(",") if p.strip()]`.
* `parseInt s` — `int(s)`, `none` where it raises `ValueError`.

## Main results

* `strip_strip` — stripping is idempotent.
* `colon_notMem_of_parseInt` — a `SERVER:CLIENT` value is no integer literal.
* `csvTokens_strip` — the tokens of a comma list do not depend on its outer whitespace.
* `lower_of_isFolded` — text without capitals is its own lowercase form.
* `isFolded_of_isFoldedText` — a check of this on the bytes.
-/

namespace Py

/-! ### Stripping -/

/-- `strip` on the characters of a string. -/
def stripL (l : List Char) : List Char := (l.dropWhile isSpace).rdropWhile isSpace

/-- `s.strip()`. -/
def strip (s : String) : String := String.ofList (stripL s.toList)

@[simp] theorem toList_strip (s : String) : (strip s).toList = stripL s.toList := by
  simp [strip]

@[simp] theorem stripL_nil : stripL [] = [] := rfl

@[simp] theorem strip_empty : strip "" = "" := rfl

theorem stripL_cons_space {c : Char} (hc : isSpace c = true) (l : List Char) :
    stripL (c :: l) = stripL l := by
  simp [stripL, hc]

theorem stripL_concat_space {c : Char} (hc : isSpace c = true) (l : List Char) :
    stripL (l ++ [c]) = stripL l := by
  unfold stripL
  rw [List.dropWhile_append]
  split
  · next h => simp [hc, List.isEmpty_iff.mp h]
  · rw [List.rdropWhile_concat_pos _ _ _ hc]

/-- A predicate that ignores a leading and a trailing whitespace character
cannot tell a string from its stripped form. -/
theorem eq_stripL_of_invariant {α : Type*} {f : List Char → α}
    (hcons : ∀ c l, isSpace c = true → f (c :: l) = f l)
    (hconcat : ∀ c l, isSpace c = true → f (l ++ [c]) = f l) (l : List Char) :
    f (stripL l) = f l := by
  have hleft : ∀ l : List Char, f (l.dropWhile isSpace) = f l := by
    intro l
    induction l with
    | nil => rfl
    | cons c l ih =>
      rw [List.dropWhile_cons]
      split
      · next hc => rw [ih, hcons c l hc]
      · rfl
  have hright : ∀ l : List Char, f (l.rdropWhile isSpace) = f l := by
    intro l
    induction l using List.reverseRecOn with
    | nil => rfl
    | append_singleton l c ih =>
      by_cases hc : isSpace c = true
      · rw [List.rdropWhile_concat_pos _ _ _ hc, ih, hconcat c l hc]
      · rw [List.rdropWhile_concat_neg _ _ _ hc]
  rw [stripL, hright, hleft]

theorem stripL_stripL (l : List Char) : stripL (stripL l) = stripL l :=
  eq_stripL_of_invariant (fun _ l hc => stripL_cons_space hc l)
    (fun _ l hc => stripL_concat_space hc l) l

/-- Stripping is idempotent. -/
@[simp] theorem strip_strip (s : String) : strip (strip s) = strip s := by
  rw [← String.toList_inj]
  simp [stripL_stripL]

theorem strip_eq_self_of_forall {s : String} (h : ∀ c ∈ s.toList, isSpace c = false) :
    strip s = s := by
  rw [← String.toList_inj, toList_strip, stripL]
  have hdrop : s.toList.dropWhile isSpace = s.toList := by
    cases hs : s.toList with
    | nil => rfl
    | cons c l =>
      have hc : isSpace c = false := h c (by simp [hs])
      simp [hc]
  rw [hdrop, List.rdropWhile_eq_self_iff]
  intro hne
  simp [h _ (List.getLast_mem hne)]

/-- Only whitespace strips to nothing. -/
theorem strip_eq_empty_iff {s : String} : strip s = "" ↔ ∀ c ∈ s.toList, isSpace c = true := by
  rw [← String.toList_inj, toList_strip, stripL, String.toList_empty, List.rdropWhile_eq_nil_iff]
  constructor
  · intro h c hc
    rw [← List.takeWhile_append_dropWhile (p := isSpace) (l := s.toList), List.mem_append] at hc
    rcases hc with hc | hc
    · exact List.mem_takeWhile_imp hc
    · exact h c hc
  · intro h c hc
    exact h c ((List.dropWhile_sublist _).subset hc)

theorem strip_append_ne_empty {s : String} (h : strip s ≠ "") (t : String) :
    strip (s ++ t) ≠ "" := by
  rw [Ne, strip_eq_empty_iff] at h ⊢
  intro hall
  exact h fun c hc => hall c (by simp [hc])

/-- Whitespace in front of a string is stripped. -/
theorem strip_append_of_blank_left {s : String} (h : strip s = "") (t : String) :
    strip (s ++ t) = strip t := by
  have hleft : ∀ l l' : List Char, (∀ c ∈ l, isSpace c = true) → stripL (l ++ l') = stripL l' := by
    intro l l' hl
    induction l with
    | nil => rfl
    | cons c l ih =>
      rw [List.cons_append, stripL_cons_space (hl c List.mem_cons_self)]
      exact ih fun c hc => hl c (List.mem_cons_of_mem _ hc)
  rw [← String.toList_inj, toList_strip, toList_strip, String.toList_append]
  exact hleft _ _ (strip_eq_empty_iff.mp h)

/-- Whitespace behind a string is stripped. -/
theorem strip_append_of_blank_right (s : String) {t : String} (h : strip t = "") :
    strip (s ++ t) = strip s := by
  have hright : ∀ l l' : List Char, (∀ c ∈ l', isSpace c = true) → stripL (l ++ l') = stripL l := by
    intro l l' hl
    induction l' using List.reverseRecOn with
    | nil => rw [List.append_nil]
    | append_singleton l' c ih =>
      rw [← List.append_assoc, stripL_concat_space (hl c (by simp))]
      exact ih fun c hc => hl c (List.mem_append_left _ hc)
  rw [← String.toList_inj, toList_strip, toList_strip, String.toList_append]
  exact hright _ _ (strip_eq_empty_iff.mp h)

/-! ### Character-wise operations -/

/-- A capital sigma ends a word: before it (backwards) there is a letter with a case, and
behind it none. -/
def finalSigma (before after : List Char) : Bool :=
  (before.dropWhile isCaseIgnorable).head?.any isCased &&
    !(after.dropWhile isCaseIgnorable).head?.any isCased

/-- The lowercase form of a character, between what stands before it (backwards) and behind
it. -/
def lowerAt (before : List Char) (c : Char) (after : List Char) : List Char :=
  if c.toNat = 931 && finalSigma before after then [Char.ofNat 962] else lowerChar c

/-- The lowercase form of the characters behind the given ones (backwards). -/
def lowerFrom (before : List Char) : List Char → List Char
  | [] => []
  | c :: l => lowerAt before c l ++ lowerFrom (c :: before) l

/-- The lowercase form of a list of characters. -/
def lowerL (l : List Char) : List Char := lowerFrom [] l

/-- `s.lower()`. -/
def lower (s : String) : String := String.ofList (lowerL s.toList)

@[simp] theorem toList_lower (s : String) : (lower s).toList = lowerL s.toList := by
  simp [lower]

theorem lowerAt_of_ne {c : Char} (hc : c.toNat ≠ 931) (before after : List Char) :
    lowerAt before c after = lowerChar c := by
  simp [lowerAt, hc]

/-- `s.replace(c, "")` for a one-character `c`. -/
def removeChar (c : Char) (s : String) : String := String.ofList (s.toList.filter (· ≠ c))

/-- `s.replace(a, b)` for one-character `a` and `b`. -/
def replaceChar (a b : Char) (s : String) : String :=
  String.ofList (s.toList.map fun c => if c = a then b else c)

/-- An ASCII character that is neither a capital letter nor whitespace. -/
def isFoldedChar (c : Char) : Bool :=
  c.toNat < 128 && !(65 ≤ c.toNat && c.toNat ≤ 90) && !isSpace c

theorem lowerChar_of_isFoldedChar {c : Char} (h : isFoldedChar c = true) : lowerChar c = [c] := by
  simp only [isFoldedChar, Bool.and_eq_true, decide_eq_true_eq, Bool.not_eq_true'] at h
  simp [lowerChar, h.1.1, h.1.2]

/-- Text of characters that are their own lowercase form. -/
theorem lowerFrom_of_fixed {l : List Char} (h : ∀ c ∈ l, lowerChar c = [c]) (before : List Char) :
    lowerFrom before l = l := by
  induction l generalizing before with
  | nil => rfl
  | cons c l ih =>
    have hc : lowerChar c = [c] := h c List.mem_cons_self
    have hsigma : c.toNat ≠ 931 := by
      intro hsigma
      rw [← Char.ofNat_toNat c, hsigma] at hc
      exact absurd hc (by decide)
    rw [lowerFrom, lowerAt_of_ne hsigma, hc, ih fun d hd => h d (List.mem_cons_of_mem _ hd)]
    rfl

/-- Text without capitals is its own lowercase form. -/
theorem lower_of_isFolded {s : String} (h : ∀ c ∈ s.toList, isFoldedChar c = true) :
    lower s = s := by
  rw [← String.toList_inj, toList_lower, lowerL,
    lowerFrom_of_fixed fun c hc => lowerChar_of_isFoldedChar (h c hc)]

theorem isSpace_of_isFoldedChar {c : Char} (h : isFoldedChar c = true) : isSpace c = false := by
  simp only [isFoldedChar, Bool.and_eq_true, Bool.not_eq_true'] at h
  exact h.2

theorem removeChar_of_notMem {c : Char} {s : String} (h : c ∉ s.toList) : removeChar c s = s := by
  rw [← String.toList_inj, removeChar, String.toList_ofList, List.filter_eq_self]
  intro d hd
  rw [decide_eq_true_eq]
  rintro rfl
  exact h hd

/-- A printable ASCII byte that is no capital letter. -/
def isFoldedByte (b : UInt8) : Bool :=
  33 ≤ b.toNat && b.toNat ≤ 126 && !(65 ≤ b.toNat && b.toNat ≤ 90)

theorem isFoldedChar_of_bytes {c : Char} (h : (String.utf8EncodeChar c).all isFoldedByte = true) :
    isFoldedChar c = true := by
  -- the lead byte of a longer encoding
  have hlead : ∀ n, 192 ≤ n → n < 256 → isFoldedByte (UInt8.ofNat n) = false := by
    intro n hlo hhi
    have hn : (UInt8.ofNat n).toNat = n := by rw [UInt8.toNat_ofNat']; omega
    simp [isFoldedByte, hn]
    omega
  unfold String.utf8EncodeChar at h
  dsimp only at h
  split at h
  · next hc =>
    have hn : (UInt8.ofNat c.val.toNat).toNat = c.toNat := by
      rw [UInt8.toNat_ofNat']
      exact Nat.mod_eq_of_lt (by omega)
    simp only [List.all_cons, List.all_nil, Bool.and_true, isFoldedByte, hn, Bool.and_eq_true,
      decide_eq_true_eq, Bool.not_eq_true', Bool.and_eq_false_iff, decide_eq_false_iff_not] at h
    simp only [isFoldedChar, isSpace, Bool.and_eq_true, decide_eq_true_eq, Bool.not_eq_true',
      Bool.or_eq_false_iff, Bool.and_eq_false_iff, decide_eq_false_iff_not, beq_eq_false_iff_ne]
    omega
  · -- the first byte of a longer encoding is no ASCII byte
    have hfirst : ∀ b l, (b :: l).all isFoldedByte = true → isFoldedByte b = true := by
      intro b l hall
      exact (List.all_eq_true.mp hall) b List.mem_cons_self
    split at h
    · have := hfirst _ _ h
      rw [hlead _ (by omega) (by omega)] at this
      cases this
    · split at h
      all_goals
        have := hfirst _ _ h
        rw [hlead _ (by omega) (by omega)] at this
        cases this

theorem toList_toByteArray (s : String) :
    s.toByteArray.data.toList = s.toList.flatMap String.utf8EncodeChar := by
  rw [← String.utf8Encode_toList]
  simp [List.utf8Encode]

/-- Printable ASCII text without capitals, checked on its bytes: the kernel
evaluates this much faster than a check on the characters. -/
def isFoldedText (s : String) : Bool := s.toByteArray.data.toList.all isFoldedByte

theorem isFolded_of_isFoldedText {s : String} (h : isFoldedText s = true) :
    ∀ c ∈ s.toList, isFoldedChar c = true := by
  intro c hc
  rw [isFoldedText, toList_toByteArray, List.all_flatMap] at h
  exact isFoldedChar_of_bytes (List.all_eq_true.mp h c hc)

/-! ### Substrings -/

/-- `pat` occurs in the list as a contiguous block. -/
def hasBlock (pat : List Char) : List Char → Bool
  | [] => pat.isEmpty
  | c :: l => pat.isPrefixOf (c :: l) || hasBlock pat l

/-- `needle in s`. -/
def contains (needle s : String) : Bool := hasBlock needle.toList s.toList

/-- `s.startswith(pre)`. -/
def startsWith (pre s : String) : Bool := pre.toList.isPrefixOf s.toList

/-- `hasBlock` decides whether the pattern is an infix. -/
theorem hasBlock_iff {pat l : List Char} : hasBlock pat l = true ↔ pat <:+: l := by
  induction l with
  | nil => simp [hasBlock]
  | cons c l ih =>
    rw [hasBlock, Bool.or_eq_true, List.isPrefixOf_iff_prefix, ih, List.infix_cons_iff]

/-- A prefix without the separator ends before it. -/
theorem prefix_of_append_cons {sep : Char} {p a b : List Char} (hsep : sep ∉ p)
    (h : p <+: a ++ sep :: b) : p <+: a := by
  induction a generalizing p with
  | nil =>
    cases p with
    | nil => exact List.nil_prefix
    | cons c p =>
      have hc : c = sep := (List.cons_prefix_cons.mp h).1
      exact absurd (hc ▸ List.mem_cons_self) hsep
  | cons x a ih =>
    cases p with
    | nil => exact List.nil_prefix
    | cons c p =>
      obtain ⟨hc, hp⟩ := List.cons_prefix_cons.mp h
      have hnot : sep ∉ p := fun hmem => hsep (List.mem_cons_of_mem c hmem)
      exact List.cons_prefix_cons.mpr ⟨hc, ih hnot hp⟩

/-- A block without the separator lies on one side of it. -/
theorem infix_append_cons_iff {sep : Char} {p a b : List Char} (hsep : sep ∉ p) :
    p <:+: a ++ sep :: b ↔ p <:+: a ∨ p <:+: b := by
  induction a with
  | nil =>
    rw [List.nil_append, List.infix_cons_iff]
    constructor
    · rintro (h | h)
      · exact .inl (prefix_of_append_cons (a := []) hsep h).isInfix
      · exact .inr h
    · rintro (h | h)
      · rw [List.infix_nil.mp h]
        exact .inr List.nil_infix
      · exact .inr h
  | cons x a ih =>
    have hcons : p <:+: x :: a ↔ p <+: x :: a ∨ p <:+: a := List.infix_cons_iff
    rw [List.cons_append, List.infix_cons_iff, ih, hcons]
    constructor
    · rintro (h | h | h)
      · exact .inl (.inl (prefix_of_append_cons (a := x :: a) hsep h))
      · exact .inl (.inr h)
      · exact .inr h
    · rintro ((h | h) | h)
      · exact .inl (h.trans (List.prefix_append (x :: a) (sep :: b)))
      · exact .inr (.inl h)
      · exact .inr (.inr h)

/-! ### Splitting -/

/-- `s.split(sep)` for a one-character separator. -/
def split (sep : Char) (s : String) : List String := (s.toList.splitOn sep).map String.ofList

/-- The parts before and after the first occurrence of `sep`, if there is one. -/
def cut (sep : Char) : List Char → Option (List Char × List Char)
  | [] => none
  | c :: l => if c = sep then some ([], l) else (cut sep l).map fun p => (c :: p.1, p.2)

/-- `s.split(sep, 1)` when `sep in s`, else `none`. -/
def splitOnce (sep : Char) (s : String) : Option (String × String) :=
  (cut sep s.toList).map fun p => (String.ofList p.1, String.ofList p.2)

theorem cut_eq_none_iff (sep : Char) (l : List Char) : cut sep l = none ↔ sep ∉ l := by
  induction l with
  | nil => simp [cut]
  | cons c l ih =>
    by_cases hc : c = sep
    · simp [cut, hc]
    · simp [cut, hc, ih, Ne.symm hc]

theorem splitOnce_eq_none_iff (sep : Char) (s : String) :
    splitOnce sep s = none ↔ sep ∉ s.toList := by
  simp [splitOnce, cut_eq_none_iff]

theorem ne_empty_of_splitOnce {sep : Char} {s : String} {p : String × String}
    (h : splitOnce sep s = some p) : s ≠ "" := by
  rintro rfl
  simp [splitOnce, cut] at h

/-- The tokens of a comma list: `[p.strip() for p in s.split(",") if p.strip()]`. -/
def csvTokens (s : String) : List String :=
  ((split ',' s).map strip).filter (· ≠ "")

/-- `csvTokens` on the characters of a string. -/
def csvTokensL (l : List Char) : List (List Char) :=
  ((l.splitOn ',').map stripL).filter (· ≠ [])

theorem csvTokens_eq (s : String) : csvTokens s = (csvTokensL s.toList).map String.ofList := by
  have hstrip : ∀ l : List Char, strip (String.ofList l) = String.ofList (stripL l) := by
    simp [strip]
  have hempty : ∀ l : List Char, (String.ofList l = "") ↔ l = [] := by
    intro l
    rw [← String.toList_inj]
    simp
  simp only [csvTokens, csvTokensL, split, List.map_map, List.filter_map]
  congr 1
  · funext l; simp [hstrip]
  · congr 1; funext l; simp [hstrip, hempty]

theorem comma_not_space : isSpace ',' = false := by decide

theorem csvTokensL_cons_space {c : Char} (hc : isSpace c = true) (l : List Char) :
    csvTokensL (c :: l) = csvTokensL l := by
  have hne : (c == ',') = false := by
    rw [beq_eq_false_iff_ne]
    rintro rfl
    exact absurd hc (by simp [comma_not_space])
  rw [csvTokensL, List.splitOn_cons_eq_if_modifyHead, hne, csvTokensL]
  obtain ⟨hd, tl, h⟩ := List.exists_cons_of_ne_nil (List.splitOn_ne_nil ',' l)
  simp [h, stripL_cons_space hc]

/-- Appending a character other than the separator extends the last part. -/
theorem splitOn_concat {sep c : Char} (hc : (c == sep) = false) (l : List Char) :
    ∃ ini last, l.splitOn sep = ini ++ [last] ∧ (l ++ [c]).splitOn sep = ini ++ [last ++ [c]] := by
  induction l with
  | nil => exact ⟨[], [], by simp [List.splitOn_cons_eq_if_modifyHead, hc]⟩
  | cons x l ih =>
    obtain ⟨ini, last, h1, h2⟩ := ih
    rw [List.cons_append, List.splitOn_cons_eq_if_modifyHead, List.splitOn_cons_eq_if_modifyHead,
      h1, h2]
    split
    · exact ⟨[] :: ini, last, rfl, rfl⟩
    · cases ini with
      | nil => exact ⟨[], x :: last, rfl, rfl⟩
      | cons i ini => exact ⟨(x :: i) :: ini, last, rfl, rfl⟩

theorem csvTokensL_concat_space {c : Char} (hc : isSpace c = true) (l : List Char) :
    csvTokensL (l ++ [c]) = csvTokensL l := by
  have hne : (c == ',') = false := by
    rw [beq_eq_false_iff_ne]
    rintro rfl
    exact absurd hc (by simp [comma_not_space])
  obtain ⟨ini, last, h1, h2⟩ := splitOn_concat hne l
  rw [csvTokensL, csvTokensL, h1, h2]
  simp [stripL_concat_space hc]

/-- The tokens of a comma list do not depend on its outer whitespace. -/
@[simp] theorem csvTokens_strip (s : String) : csvTokens (strip s) = csvTokens s := by
  rw [csvTokens_eq, csvTokens_eq, toList_strip]
  congr 1
  exact eq_stripL_of_invariant (fun _ l hc => csvTokensL_cons_space hc l)
    (fun _ l hc => csvTokensL_concat_space hc l) s.toList

@[simp] theorem csvTokens_empty : csvTokens "" = [] := by decide

theorem strip_of_mem_csvTokens {s t : String} (h : t ∈ csvTokens s) : strip t = t := by
  simp only [csvTokens, List.mem_filter, List.mem_map] at h
  obtain ⟨⟨p, -, rfl⟩, -⟩ := h
  exact strip_strip p

theorem ne_empty_of_mem_csvTokens {s t : String} (h : t ∈ csvTokens s) : t ≠ "" := by
  simpa using (List.mem_filter.mp h).2

/-! ### Integers -/

/-- The digits of a decimal literal, single underscores between them dropped. -/
def digitsL : List Char → Option (List ℕ)
  | [] => none
  | [c] => (digitVal c).map fun d => [d]
  | c :: '_' :: l => (digitVal c).bind fun d => (digitsL l).map fun ds => d :: ds
  | c :: l => (digitVal c).bind fun d => (digitsL l).map fun ds => d :: ds

/-- The limit `int` puts on the number of digits of a literal. -/
def maxStrDigits : ℕ := 4300

/-- The number an unsigned decimal literal denotes. -/
def parseNat (l : List Char) : Option ℕ :=
  (digitsL l).bind fun ds =>
    if ds.length ≤ maxStrDigits then some (ds.foldl (fun n d => 10 * n + d) 0) else none

/-- `int(s)`; `none` where it raises `ValueError`. -/
def parseInt (s : String) : Option ℤ :=
  match stripL s.toList with
  | '-' :: l => (parseNat l).map fun n : ℕ => -(n : ℤ)
  | '+' :: l => (parseNat l).map fun n : ℕ => (n : ℤ)
  | l => (parseNat l).map fun n : ℕ => (n : ℤ)

/-- The characters of a decimal literal are digits and underscores. -/
theorem digit_of_mem_digitsL {l : List Char} {ds : List ℕ} (h : digitsL l = some ds) {c : Char}
    (hc : c ∈ l) : c = '_' ∨ (digitVal c).isSome := by
  induction l using digitsL.induct generalizing ds with
  | case1 => cases hc
  | case2 d =>
    rw [List.mem_singleton] at hc
    subst hc
    rw [digitsL, Option.map_eq_some_iff] at h
    obtain ⟨v, hv, -⟩ := h
    exact .inr (by simp [hv])
  | case3 d l ih =>
    rw [digitsL, Option.bind_eq_some_iff] at h
    obtain ⟨v, hv, hl⟩ := h
    obtain ⟨ds', hds', -⟩ := Option.map_eq_some_iff.mp hl
    rcases List.mem_cons.mp hc with rfl | hc
    · exact .inr (by simp [hv])
    · rcases List.mem_cons.mp hc with rfl | hc
      · exact .inl rfl
      · exact ih hds' hc
  | case4 d l hne hnu ih =>
    rw [digitsL, Option.bind_eq_some_iff] at h
    · obtain ⟨v, hv, hl⟩ := h
      obtain ⟨ds', hds', -⟩ := Option.map_eq_some_iff.mp hl
      rcases List.mem_cons.mp hc with rfl | hc
      · exact .inr (by simp [hv])
      · exact ih hds' hc
    · exact hne
    · exact hnu

/-- A colon is in no integer literal. -/
theorem colon_notMem_of_parseInt {s : String} {n : ℤ} (h : parseInt s = some n) :
    ':' ∉ (strip s).toList := by
  have hnat : ∀ l m, parseNat l = some m → ':' ∉ l := by
    intro l m hl hmem
    obtain ⟨ds, hds, -⟩ := Option.bind_eq_some_iff.mp hl
    rcases digit_of_mem_digitsL hds hmem with he | hd
    · exact absurd he (by decide)
    · exact absurd hd (by decide)
  rw [toList_strip]
  unfold parseInt at h
  split at h
  all_goals
    obtain ⟨m, hm, -⟩ := Option.map_eq_some_iff.mp h
  · next l hl =>
    rw [hl]
    exact fun hmem => hnat l m hm ((List.mem_cons.mp hmem).resolve_left (by decide))
  · next l hl =>
    rw [hl]
    exact fun hmem => hnat l m hm ((List.mem_cons.mp hmem).resolve_left (by decide))
  · exact hnat _ m hm

@[simp] theorem parseInt_strip (s : String) : parseInt (strip s) = parseInt s := by
  rw [parseInt, parseInt, toList_strip, stripL_stripL]

end Py
