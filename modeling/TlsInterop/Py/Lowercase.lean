import TlsInterop.Py.Text

/-!
# Lowercase text

The lowercase mapping neither makes nor removes whitespace, and what it gives is
lowercase, so `lower` and `strip` commute and bringing a name into normal form
twice is bringing it there once.

## Main results

* `strip_lower` — stripping the lowercase form is the lowercase form of what is stripped.
* `lower_lower` — the lowercase form is its own lowercase form.
* `lower_strip_lower_strip` — a name in normal form is in normal form.
-/

namespace Py

/-- The runs of code points that are whitespace. -/
def spaceRanges : List (ℕ × ℕ) :=
  [(9, 13), (28, 32), (133, 133), (160, 160), (5760, 5760), (8192, 8202), (8232, 8233),
    (8239, 8239), (8287, 8287), (12288, 12288)]

/-- No code point between `lo` and `hi` is whitespace. -/
def spaceless (lo hi : ℤ) : Bool := spaceRanges.all fun w => decide (hi < w.1) || decide (w.2 < lo)

/-- No character from `lo` to `hi`, all of them or every second one, is in the run. -/
def apart (lo hi : ℕ) (second : Bool) (r : ℕ × ℕ × ℕ × ℤ) : Bool :=
  hi.blt r.1 || r.2.1.blt lo || (second && r.2.2.1 == 2 && (lo + r.1) % 2 == 1)

/-- The images of a run are in none of the runs. -/
def imageApart (r : ℕ × ℕ × ℕ × ℤ) : Bool :=
  lowerRanges.all (apart (r.1 + r.2.2.2).toNat (r.2.1 + r.2.2.2).toNat
    (r.2.2.1 == 2 || r.1 == r.2.1))

/-- What a run is mapped from and to: no whitespace, and no capital letters. -/
def lawful (r : ℕ × ℕ × ℕ × ℤ) : Bool :=
  spaceless r.1 r.2.1 && spaceless (r.1 + r.2.2.2) (r.2.1 + r.2.2.2) && decide (128 ≤ r.1) &&
    decide (91 ≤ r.1 + r.2.2.2) &&
    (decide (r.2.1 + r.2.2.2 < 304) || decide (304 < r.1 + r.2.2.2)) &&
    (decide (r.2.1 + r.2.2.2 < 55296) ||
      decide (57344 ≤ r.1 + r.2.2.2) && decide (r.2.1 + r.2.2.2 < 1114112))

theorem lowerRanges_lawful : ∀ r ∈ lowerRanges, lawful r = true := by decide +kernel

theorem lowerRanges_apart : ∀ r ∈ lowerRanges, imageApart r = true := by decide +kernel

theorem isSpace_eq_false_of_spaceless {lo hi : ℤ} (h : spaceless lo hi = true) {c : Char}
    (hlo : lo ≤ c.toNat) (hhi : (c.toNat : ℤ) ≤ hi) : isSpace c = false := by
  simp [spaceless, spaceRanges] at h
  simp [isSpace]
  omega

/-- How a character is mapped: it stays, or it is one of three kinds of capital. -/
inductive LowerCase (c : Char) : Prop
  | same (h : lowerChar c = [c])
  | ascii (hlo : 65 ≤ c.toNat) (hhi : c.toNat ≤ 90) (h : lowerChar c = [Char.ofNat (c.toNat + 32)])
  | dotted (hc : c.toNat = 304) (h : lowerChar c = ['i', Char.ofNat 775])
  | run (r : ℕ × ℕ × ℕ × ℤ) (hr : r ∈ lowerRanges) (hlo : r.1 ≤ c.toNat) (hhi : c.toNat ≤ r.2.1)
      (hstep : (c.toNat - r.1) % r.2.2.1 = 0)
      (h : lowerChar c = [Char.ofNat (c.toNat + r.2.2.2).toNat])

theorem lowerCase (c : Char) : LowerCase c := by
  by_cases hascii : c.toNat < 128
  · by_cases hcap : 65 ≤ c.toNat ∧ c.toNat ≤ 90
    · exact .ascii hcap.1 hcap.2 (by simp [lowerChar, hascii, hcap])
    · exact .same (by simp [lowerChar, hascii]; omega)
  · by_cases hdot : c.toNat = 304
    · exact .dotted hdot (by simp [lowerChar, hdot])
    · cases hfind : lowerRanges.find? fun r =>
          r.1 ≤ c.toNat && c.toNat ≤ r.2.1 && (c.toNat - r.1) % r.2.2.1 == 0 with
      | none => exact .same (by simp only [lowerChar, if_neg hascii, if_neg hdot, hfind])
      | some r =>
        have hr := List.find?_some hfind
        simp only [Bool.and_eq_true, decide_eq_true_eq, beq_iff_eq] at hr
        exact .run r (List.mem_of_find?_eq_some hfind) hr.1.1 hr.1.2 hr.2
          (by simp only [lowerChar, if_neg hascii, if_neg hdot, hfind])

theorem toNat_ofNat_of_isValidChar {n : ℕ} (h : n.isValidChar) : (Char.ofNat n).toNat = n := by
  unfold Char.ofNat
  rw [dif_pos h]
  rfl

/-- The image of a run, as a code point. -/
theorem toNat_run {r : ℕ × ℕ × ℕ × ℤ} (h : lawful r = true) {n : ℕ} (hlo : r.1 ≤ n)
    (hhi : n ≤ r.2.1) : ((Char.ofNat (n + r.2.2.2).toNat).toNat : ℤ) = n + r.2.2.2 := by
  simp only [lawful, Bool.and_eq_true, Bool.or_eq_true, decide_eq_true_eq] at h
  have hvalid : (n + r.2.2.2).toNat.isValidChar := by
    unfold Nat.isValidChar
    omega
  rw [toNat_ofNat_of_isValidChar hvalid]
  omega

/-- What a character is mapped to stays, and is whitespace only when the character is. -/
theorem lowerChar_of_mem {c d : Char} (h : d ∈ lowerChar c) :
    lowerChar d = [d] ∧ isSpace d = isSpace c := by
  cases lowerCase c with
  | same hc =>
    rw [hc, List.mem_singleton] at h
    subst h
    exact ⟨hc, rfl⟩
  | ascii hlo hhi hc =>
    rw [hc, List.mem_singleton] at h
    have hd : d.toNat = c.toNat + 32 := by
      have hvalid : (c.toNat + 32).isValidChar := by
        unfold Nat.isValidChar
        omega
      rw [h, toNat_ofNat_of_isValidChar hvalid]
    -- a small letter is its own image, and no whitespace
    constructor
    · have hsmall : d.toNat < 128 := by omega
      have hplain : ¬ (65 ≤ d.toNat ∧ d.toNat ≤ 90) := by omega
      simp [lowerChar, hsmall, hplain]
    · have hspace : ∀ e : Char, 65 ≤ e.toNat → e.toNat ≤ 122 → isSpace e = false := by
        intro e hlow hhigh
        simp [isSpace]
        omega
      rw [hspace d (by omega) (by omega), hspace c hlo (by omega)]
  | dotted hc hlower =>
    -- its image is an i and a dot above
    have hspace : isSpace c = false := by simp [isSpace, hc]
    rw [hlower] at h
    rw [hspace]
    rcases List.mem_pair.mp h with rfl | rfl <;> decide +kernel
  | run r hr hlo hhi hstep hc =>
    have hlawful := lowerRanges_lawful r hr
    have hd := toNat_run hlawful hlo hhi
    rw [hc, List.mem_singleton] at h
    rw [← h] at hd
    simp only [lawful, Bool.and_eq_true, Bool.or_eq_true, decide_eq_true_eq] at hlawful
    obtain ⟨⟨⟨⟨⟨hfrom, hto⟩, hbig⟩, hcap⟩, hdot⟩, -⟩ := hlawful
    rw [isSpace_eq_false_of_spaceless hfrom (c := c) (by omega) (by omega),
      isSpace_eq_false_of_spaceless hto (c := d) (by omega) (by omega)]
    -- the image of a run is in no run
    refine ⟨?_, rfl⟩
    cases lowerCase d with
    | same hsame => exact hsame
    | ascii hlo' hhi' => omega
    | dotted hdotted => omega
    | run r' hr' hlo' hhi' hstep' =>
      have hapart := List.all_eq_true.mp (lowerRanges_apart r hr) r' hr'
      simp only [apart, Bool.and_eq_true, Bool.or_eq_true, Nat.blt_eq, beq_iff_eq] at hapart
      obtain (hbefore | hafter) | ⟨⟨htwo | hone, htwo'⟩, hodd⟩ := hapart
      · omega
      · omega
      · -- both runs have every second character, but not the same ones
        rw [htwo] at hstep
        rw [htwo'] at hstep'
        omega
      · rw [htwo'] at hstep'
        omega

theorem lowerChar_ne_nil (c : Char) : lowerChar c ≠ [] := by
  cases lowerCase c with
  | same h | ascii _ _ h | dotted _ h | run _ _ _ _ _ h =>
    rw [h]
    exact List.cons_ne_nil _ _

theorem lowerChar_of_isSpace {c : Char} (hc : isSpace c = true) : lowerChar c = [c] := by
  cases lowerCase c with
  | same h => exact h
  | ascii hlo hhi =>
    simp [isSpace] at hc
    omega
  | dotted hdot =>
    simp [isSpace, hdot] at hc
  | run r hr hlo hhi =>
    have hlawful := lowerRanges_lawful r hr
    simp only [lawful, Bool.and_eq_true] at hlawful
    rw [isSpace_eq_false_of_spaceless hlawful.1.1.1.1.1 (by omega) (by omega)] at hc
    cases hc

/-! ### Texts -/

/-- What a character of a text is mapped to stays, and is whitespace only when the character
is. -/
theorem lowerChar_of_mem_lowerAt {before after : List Char} {c d : Char}
    (h : d ∈ lowerAt before c after) : lowerChar d = [d] ∧ isSpace d = isSpace c := by
  unfold lowerAt at h
  split at h
  · next hsigma =>
    rw [Bool.and_eq_true, decide_eq_true_eq] at hsigma
    obtain rfl := List.mem_singleton.mp h
    obtain rfl : c = Char.ofNat 931 := by rw [← hsigma.1, Char.ofNat_toNat]
    decide +kernel
  · exact lowerChar_of_mem h

theorem lowerAt_ne_nil (before : List Char) (c : Char) (after : List Char) :
    lowerAt before c after ≠ [] := by
  unfold lowerAt
  split
  · exact List.cons_ne_nil _ _
  · exact lowerChar_ne_nil c

theorem lowerAt_of_isSpace {c : Char} (hc : isSpace c = true) (before after : List Char) :
    lowerAt before c after = [c] := by
  have hsigma : c.toNat ≠ 931 := by
    intro hsigma
    simp [isSpace, hsigma] at hc
  rw [lowerAt_of_ne hsigma, lowerChar_of_isSpace hc]

/-- Whitespace has no case, and a capital sigma does not look past it. -/
theorem not_cased_of_isSpace {c : Char} (hc : isSpace c = true) :
    isCaseIgnorable c = false ∧ isCased c = false := by
  have houtside : ∀ ranges : List (ℕ × ℕ), (∀ r ∈ ranges, spaceless r.1 r.2 = true) →
      inRanges ranges c = false := by
    intro ranges hranges
    rw [inRanges, List.any_eq_false]
    intro r hr hin
    rw [Bool.and_eq_true, decide_eq_true_eq, decide_eq_true_eq] at hin
    have hspace : isSpace c = false :=
      isSpace_eq_false_of_spaceless (hranges r hr) (by omega) (by omega)
    rw [hc] at hspace
    cases hspace
  exact ⟨houtside caseIgnorableRanges (by decide +kernel), houtside casedRanges (by decide +kernel)⟩

/-- Whitespace at the far end of a side of a character counts like no text there. -/
theorem head_cased_append {blank : List Char} (h : ∀ c ∈ blank, isSpace c = true)
    (l : List Char) : ((l ++ blank).dropWhile isCaseIgnorable).head?.any isCased
      = (l.dropWhile isCaseIgnorable).head?.any isCased := by
  rw [List.dropWhile_append]
  split
  · next hnone =>
    rw [List.isEmpty_iff.mp hnone]
    cases blank with
    | nil => rfl
    | cons c blank =>
      obtain ⟨hignorable, hcased⟩ := not_cased_of_isSpace (h c List.mem_cons_self)
      rw [List.dropWhile_cons_of_neg (by rw [hignorable]; exact Bool.false_ne_true)]
      exact hcased
  · next hsome =>
    rw [List.isEmpty_iff] at hsome
    rw [List.head?_append_of_ne_nil _ hsome]

/-- Leading whitespace does not change the lowercase form of what follows. -/
theorem lowerFrom_of_blank {blank : List Char} (h : ∀ c ∈ blank, isSpace c = true)
    (before l : List Char) : lowerFrom (before ++ blank) l = lowerFrom before l := by
  induction l generalizing before with
  | nil => rfl
  | cons c l ih =>
    rw [lowerFrom, lowerFrom, ← List.cons_append, ih, lowerAt, lowerAt, finalSigma, finalSigma,
      head_cased_append h]

/-- Trailing whitespace does not change the lowercase form of what stands before it. -/
theorem lowerFrom_concat_of_isSpace {c : Char} (hc : isSpace c = true) (before l : List Char) :
    lowerFrom before (l ++ [c]) = lowerFrom before l ++ [c] := by
  induction l generalizing before with
  | nil =>
    show lowerAt before c [] ++ [] = [c]
    rw [List.append_nil, lowerAt_of_isSpace hc]
  | cons d l ih =>
    have hblank : ∀ e ∈ [c], isSpace e = true := fun e he => by rwa [List.mem_singleton.mp he]
    rw [List.cons_append, lowerFrom, lowerFrom, ih, lowerAt, lowerAt, finalSigma, finalSigma,
      head_cased_append hblank, List.append_assoc]

/-- The last character of a text gives the end of the lowercase form. -/
theorem exists_lowerFrom_concat (before l : List Char) (c : Char) :
    ∃ p b, lowerFrom before (l ++ [c]) = p ++ lowerAt b c [] := by
  induction l generalizing before with
  | nil => exact ⟨[], before, List.append_nil _⟩
  | cons d l ih =>
    obtain ⟨p, b, hp⟩ := ih (d :: before)
    exact ⟨_, b, by rw [List.cons_append, lowerFrom, hp, ← List.append_assoc]⟩

/-- Leading whitespace may be dropped before or after. -/
theorem dropWhile_lowerL (l : List Char) :
    (lowerL l).dropWhile isSpace = lowerL (l.dropWhile isSpace) := by
  have hblank : ∀ blank : List Char, (∀ c ∈ blank, isSpace c = true) →
      (lowerFrom blank l).dropWhile isSpace = lowerL (l.dropWhile isSpace) := by
    induction l with
    | nil => exact fun _ _ => rfl
    | cons c l ih =>
      intro blank hblank
      cases hc : isSpace c with
      | true =>
        rw [lowerFrom, lowerAt_of_isSpace hc, List.dropWhile_cons_of_pos hc, List.singleton_append,
          List.dropWhile_cons_of_pos hc, ih _ (List.forall_mem_cons.mpr ⟨hc, hblank⟩)]
      | false =>
        have hfirst : lowerFrom blank (c :: l) = lowerL (c :: l) :=
          lowerFrom_of_blank hblank [] (c :: l)
        obtain ⟨d, ds, hd⟩ := List.exists_cons_of_ne_nil (lowerAt_ne_nil [] c l)
        have hspace : isSpace d = false := by
          rw [(lowerChar_of_mem_lowerAt (hd ▸ List.mem_cons_self)).2, hc]
        rw [hfirst, List.dropWhile_cons_of_neg (by rw [hc]; exact Bool.false_ne_true), lowerL,
          lowerFrom, hd, List.cons_append,
          List.dropWhile_cons_of_neg (by rw [hspace]; exact Bool.false_ne_true)]
  exact hblank [] (List.forall_mem_nil _)

/-- Trailing whitespace may be dropped before or after. -/
theorem rdropWhile_lowerL (l : List Char) :
    (lowerL l).rdropWhile isSpace = lowerL (l.rdropWhile isSpace) := by
  induction l using List.reverseRecOn with
  | nil => rfl
  | append_singleton l c ih =>
    cases hc : isSpace c with
    | true =>
      rw [lowerL, lowerFrom_concat_of_isSpace hc, List.rdropWhile_concat_pos _ _ _ hc,
        List.rdropWhile_concat_pos _ _ _ hc, ← ih, lowerL]
    | false =>
      obtain ⟨p, b, hp⟩ := exists_lowerFrom_concat [] l c
      have hlast : isSpace ((lowerAt b c []).getLast (lowerAt_ne_nil b c [])) = false := by
        rw [(lowerChar_of_mem_lowerAt (List.getLast_mem _)).2, hc]
      rw [List.rdropWhile_concat_neg _ _ _ (by rw [hc]; exact Bool.false_ne_true), lowerL, hp,
        ← List.dropLast_concat_getLast (lowerAt_ne_nil b c []), ← List.append_assoc,
        List.rdropWhile_concat_neg _ _ _ (by rw [hlast]; exact Bool.false_ne_true)]

/-- Stripping the lowercase form is the lowercase form of what is stripped. -/
theorem strip_lower (s : String) : strip (lower s) = lower (strip s) := by
  rw [← String.toList_inj, toList_strip, toList_lower, toList_lower, toList_strip, stripL, stripL,
    dropWhile_lowerL, rdropWhile_lowerL]

/-- What a text is mapped to stays. -/
theorem lowerChar_of_mem_lowerFrom {before l : List Char} {d : Char}
    (h : d ∈ lowerFrom before l) : lowerChar d = [d] := by
  induction l generalizing before with
  | nil => cases h
  | cons c l ih =>
    rw [lowerFrom] at h
    rcases List.mem_append.mp h with h | h
    · exact (lowerChar_of_mem_lowerAt h).1
    · exact ih h

/-- The lowercase form is its own lowercase form. -/
theorem lower_lower (s : String) : lower (lower s) = lower s := by
  rw [← String.toList_inj, toList_lower, toList_lower]
  exact lowerFrom_of_fixed (fun d hd => lowerChar_of_mem_lowerFrom hd) []

/-- A name in normal form is in normal form. -/
theorem lower_strip_lower_strip (s : String) :
    lower (strip (lower (strip s))) = lower (strip s) := by
  rw [strip_lower, strip_strip, lower_lower]

end Py
