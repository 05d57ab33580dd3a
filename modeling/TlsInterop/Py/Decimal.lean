import TlsInterop.Py.Text

/-!
# Decimal numerals

`int(str(n))` for a natural number.

## Main results

* `digitsL_eq_map` — the digits of a text without underscores.
* `parseInt_toString` — a numeral within the limit of `int` is read back.
-/

namespace Py

theorem digitVal_of_isDigit {c : Char} (h : c.isDigit) : digitVal c = some (c.toNat - 48) := by
  have hbounds : 48 ≤ c.toNat ∧ c.toNat ≤ 57 := by
    simpa [Char.isDigit, UInt32.le_iff_toNat_le] using h
  unfold digitVal
  dsimp only
  rw [if_pos (by omega), if_pos (by simpa using hbounds)]

theorem not_isSpace_of_isDigit {c : Char} (h : c.isDigit) : isSpace c = false := by
  have hbounds : 48 ≤ c.toNat ∧ c.toNat ≤ 57 := by
    simpa [Char.isDigit, UInt32.le_iff_toNat_le] using h
  simp [isSpace]
  omega

/-- A text without whitespace is its own strip. -/
theorem stripL_of_forall {l : List Char} (h : ∀ c ∈ l, isSpace c = false) : stripL l = l := by
  have hdrop : ∀ l' : List Char, (∀ c ∈ l', isSpace c = false) → l'.dropWhile isSpace = l' := by
    intro l' hl'
    cases l' with
    | nil => rfl
    | cons c l' => exact List.dropWhile_cons_of_neg (by simp [hl' c List.mem_cons_self])
  unfold stripL
  rw [hdrop l h, List.rdropWhile, hdrop l.reverse fun c hc => h c (List.mem_reverse.mp hc),
    List.reverse_reverse]

/-- The digits of a text without underscores. -/
theorem digitsL_eq_map {l : List Char} (hne : l ≠ []) (h : ∀ c ∈ l, c.isDigit) :
    digitsL l = some (l.map fun c => c.toNat - 48) := by
  induction l with
  | nil => exact absurd rfl hne
  | cons c l ih =>
    have hc := digitVal_of_isDigit (h c List.mem_cons_self)
    have hl : ∀ c ∈ l, c.isDigit := fun c' hc' => h c' (List.mem_cons_of_mem _ hc')
    cases l with
    | nil =>
      rw [digitsL, hc]
      rfl
    | cons d l =>
      have hd : d ≠ '_' := by
        rintro rfl
        exact absurd (hl '_' List.mem_cons_self) (by decide)
      rw [digitsL, hc, ih (List.cons_ne_nil _ _) hl]
      · rfl
      · simp
      · intro l' hl'
        exact hd (List.cons.inj hl').1

theorem parseNat_toDigits {n : ℕ} (h : n < 10 ^ maxStrDigits) :
    parseNat (Nat.toDigits 10 n) = some n := by
  have hdigit : ∀ c ∈ Nat.toDigits 10 n, c.isDigit :=
    fun c hc => Nat.isDigit_of_mem_toDigits (by decide) (by decide) hc
  have hne : Nat.toDigits 10 n ≠ [] := List.length_pos_iff.mp Nat.length_toDigits_pos
  have hlen : (Nat.toDigits 10 n).length ≤ maxStrDigits :=
    (Nat.length_toDigits_le_iff (by decide) (by decide)).mpr h
  have hvalue : ((Nat.toDigits 10 n).map fun c => c.toNat - 48).foldl (fun m d => 10 * m + d) 0
      = n := by
    rw [List.foldl_map]
    exact Nat.ofDigitChars_ten_toDigits
  rw [parseNat, digitsL_eq_map hne hdigit, Option.bind_some, List.length_map, if_pos hlen, hvalue]

/-- The characters of a numeral. -/
theorem toList_toString (n : ℕ) : (toString (n : ℤ)).toList = Nat.toDigits 10 n := by
  show n.repr.toList = _
  exact Nat.toList_repr

/-- A numeral within the limit of `int` is read back. -/
theorem parseInt_toString {n : ℕ} (h : n < 10 ^ maxStrDigits) :
    parseInt (toString (n : ℤ)) = some n := by
  have hdigit : ∀ c ∈ Nat.toDigits 10 n, c.isDigit :=
    fun c hc => Nat.isDigit_of_mem_toDigits (by decide) (by decide) hc
  unfold parseInt
  rw [toList_toString, stripL_of_forall fun c hc => not_isSpace_of_isDigit (hdigit c hc)]
  split
  · next l hl => exact absurd (hdigit '-' (hl ▸ List.mem_cons_self)) (by decide)
  · next l hl => exact absurd (hdigit '+' (hl ▸ List.mem_cons_self)) (by decide)
  · rw [parseNat_toDigits h]
    rfl

end Py
