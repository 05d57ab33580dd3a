import TlsInterop.Py.Output

/-!
# Where a search looks

On a text of two parts, the matches that end in the first part are the matches on
that part.  So two texts that differ in one place give the same matches wherever the
place is not touched, and a search that is decided by such matches finds the same in
both.

## Main definitions

* `Regex.takes` — no match of the expression is empty.
* `Regex.searchAt`, `Regex.searchAll` — the first match and where it begins, of one
  expression and of several ones after each other.
* `Regex.Apart` — none of these matches touches the middle of a text.
* `Scan`, `Scan.Unsplit` — a search in a view of a text, which two texts do not split.

## Main results

* `Regex.matches_append` — the matches that leave the second part of a text.
* `Regex.groups_searchAll` — what is found apart from the middle is found in the parts.
* `Scan.run_eq` — a scan finds the same in two texts that do not split it.
-/

namespace Py

namespace Regex

/-! ### The matches at a position -/

/-- A match, in a text that goes on. -/
def Match.extend (m : Match) (z : List Char) : Match := ⟨m.rest ++ z, m.groups⟩

/-- One match after the other. -/
def Match.after (m m' : Match) : Match := ⟨m'.rest, m.groups ++ m'.groups⟩

theorem matches_seq (r s : Regex) (l : List Char) :
    (seq r s).matches l = (r.matches l).flatMap fun m => (s.matches m.rest).map m.after := rfl

/-- More fuel than characters changes nothing. -/
theorem repeated_fuel (greedy : Bool) (step : List Char → List Match) (n : ℕ) :
    ∀ (k : ℕ) (l : List Char), l.length ≤ n → l.length ≤ k →
      repeated greedy step n l = repeated greedy step k l := by
  induction n with
  | zero =>
    intro k l hn _
    obtain rfl := List.eq_nil_of_length_eq_zero (Nat.le_zero.mp hn)
    cases k <;> simp [repeated]
  | succ n ih =>
    intro k l hn hk
    cases k with
    | zero =>
      obtain rfl := List.eq_nil_of_length_eq_zero (Nat.le_zero.mp hk)
      simp [repeated]
    | succ k =>
      have hmore : ∀ m ∈ (step l).filter fun m => m.rest.length < l.length,
          repeated greedy step n m.rest = repeated greedy step k m.rest := by
        intro m hm
        have hlt : m.rest.length < l.length := by simpa using (List.mem_filter.mp hm).2
        exact ih k m.rest (by omega) (by omega)
      simp only [repeated]
      rw [List.flatMap_congr fun m hm => congrArg _ (hmore m hm)]

/-- A repetition takes one more part, or none. -/
theorem matches_star (greedy : Bool) (r : Regex) (l : List Char) :
    (star greedy r).matches l =
      let more := ((r.matches l).filter fun m => m.rest.length < l.length).flatMap fun m =>
        ((star greedy r).matches m.rest).map m.after
      if greedy then more ++ [⟨l, []⟩] else ⟨l, []⟩ :: more := by
  have hfuel : (star greedy r).matches l = repeated greedy r.matches (l.length + 1) l :=
    repeated_fuel greedy r.matches l.length _ l le_rfl (Nat.le_succ _)
  have hmore : ∀ m ∈ (r.matches l).filter fun m => m.rest.length < l.length,
      repeated greedy r.matches l.length m.rest = (star greedy r).matches m.rest := by
    intro m hm
    have hlt : m.rest.length < l.length := by simpa using (List.mem_filter.mp hm).2
    exact repeated_fuel greedy r.matches l.length _ m.rest hlt.le le_rfl
  rw [hfuel]
  simp only [repeated]
  rw [List.flatMap_congr fun m hm => congrArg _ (hmore m hm)]
  rfl

/-- A match leaves no more than there was. -/
theorem length_rest_le (r : Regex) : ∀ {l : List Char} {m : Match}, m ∈ r.matches l →
    m.rest.length ≤ l.length := by
  induction r with
  | empty =>
    intro l m hm
    rw [List.mem_singleton.mp hm]
  | char accepts =>
    intro l m hm
    cases l with
    | nil => cases hm
    | cons c l =>
      simp only [«matches»] at hm
      split at hm
      · rw [List.mem_singleton.mp hm]
        simp
      · cases hm
  | seq r s ihr ihs =>
    intro l m hm
    rw [matches_seq, List.mem_flatMap] at hm
    obtain ⟨m₁, hm₁, hm⟩ := hm
    obtain ⟨m₂, hm₂, rfl⟩ := List.mem_map.mp hm
    exact (ihs hm₂).trans (ihr hm₁)
  | alt r s ihr ihs =>
    intro l m hm
    exact (List.mem_append.mp hm).elim ihr ihs
  | star greedy r ih =>
    intro l
    -- each round of the repetition has a shorter rest
    induction hn : l.length using Nat.strong_induction_on generalizing l with
    | _ n ihn =>
      intro m hm
      rw [matches_star] at hm
      have hcases : m = ⟨l, []⟩ ∨ m ∈ ((r.matches l).filter fun m => m.rest.length < l.length).flatMap
          fun m => ((star greedy r).matches m.rest).map m.after := by
        dsimp only at hm
        split at hm
        · simpa [or_comm] using hm
        · simpa using hm
      rcases hcases with rfl | hm
      · exact hn.le
      · obtain ⟨m₁, hm₁, hm⟩ := List.mem_flatMap.mp hm
        obtain ⟨m₂, hm₂, rfl⟩ := List.mem_map.mp hm
        have hlt : m₁.rest.length < l.length := by simpa using (List.mem_filter.mp hm₁).2
        have hle := ihn m₁.rest.length (by omega) rfl hm₂
        show m₂.rest.length ≤ n
        omega
  | group index r ih =>
    intro l m hm
    obtain ⟨m₁, hm₁, rfl⟩ := List.mem_map.mp hm
    exact (ih hm₁ : m₁.rest.length ≤ l.length)

/-- No match of the expression is empty. -/
def takes : Regex → Bool
  | empty => false
  | char _ => true
  | seq r s => r.takes || s.takes
  | alt r s => r.takes && s.takes
  | star _ _ => false
  | group _ r => r.takes

theorem length_rest_lt (r : Regex) : ∀ {l : List Char} {m : Match}, r.takes = true →
    m ∈ r.matches l → m.rest.length < l.length := by
  induction r with
  | empty => exact fun ht => Bool.noConfusion ht
  | char accepts =>
    intro l m _ hm
    cases l with
    | nil => cases hm
    | cons c l =>
      simp only [«matches»] at hm
      split at hm
      · rw [List.mem_singleton.mp hm]
        simp
      · cases hm
  | seq r s ihr ihs =>
    intro l m ht hm
    rw [matches_seq, List.mem_flatMap] at hm
    obtain ⟨m₁, hm₁, hm⟩ := hm
    obtain ⟨m₂, hm₂, rfl⟩ := List.mem_map.mp hm
    rcases Bool.or_eq_true_iff.mp ht with ht | ht
    · exact (s.length_rest_le hm₂).trans_lt (ihr ht hm₁)
    · exact (ihs ht hm₂).trans_le (r.length_rest_le hm₁)
  | alt r s ihr ihs =>
    intro l m ht hm
    obtain ⟨htr, hts⟩ := Bool.and_eq_true_iff.mp ht
    exact (List.mem_append.mp hm).elim (ihr htr) (ihs hts)
  | star greedy r => exact fun ht => Bool.noConfusion ht
  | group index r ih =>
    intro l m ht hm
    obtain ⟨m₁, hm₁, rfl⟩ := List.mem_map.mp hm
    exact (ih ht hm₁ : m₁.rest.length < l.length)

/-! ### Texts of two parts -/

/-- Whether a match leaves at least so many characters. -/
def Match.leaves (n : ℕ) (m : Match) : Bool := n ≤ m.rest.length

@[simp] theorem Match.leaves_after (n : ℕ) (m m' : Match) :
    (m.after m').leaves n = m'.leaves n := rfl

/-- What the matches of a sequence leave, the matches of its first part leave. -/
theorem filter_leaves_flatMap {s : Regex} {ms : List Match} {n : ℕ} :
    (ms.flatMap fun m => (s.matches m.rest).map m.after).filter (Match.leaves n)
      = (ms.filter (Match.leaves n)).flatMap fun m =>
          ((s.matches m.rest).filter (Match.leaves n)).map m.after := by
  have hpart : ∀ m : Match, ((s.matches m.rest).map m.after).filter (Match.leaves n)
      = ((s.matches m.rest).filter (Match.leaves n)).map m.after := fun m => List.filter_map
  induction ms with
  | nil => rfl
  | cons m ms ih =>
    rw [List.flatMap_cons, List.filter_append, ih, hpart]
    by_cases hm : m.leaves n = true
    · rw [List.filter_cons_of_pos hm, List.flatMap_cons]
    · -- nothing after this match leaves more than it does
      have hnone : (s.matches m.rest).filter (Match.leaves n) = [] := by
        rw [List.filter_eq_nil_iff]
        intro m' hm' hleaves
        have hle := s.length_rest_le hm'
        simp only [Match.leaves, decide_eq_true_eq] at hm hleaves
        omega
      rw [List.filter_cons_of_neg hm, hnone, List.map_nil, List.nil_append]

/-- On a text of two parts: when the first matches that leave the second part are those on the
first part, and what follows them does the same, so do the two together. -/
theorem filter_leaves_flatMap_extend {s : Regex} {ms ms' : List Match} {z : List Char}
    (hms : ms'.filter (Match.leaves z.length) = ms.map fun m => m.extend z)
    (hs : ∀ m ∈ ms, (s.matches (m.rest ++ z)).filter (Match.leaves z.length)
      = (s.matches m.rest).map fun m' => m'.extend z) :
    (ms'.flatMap fun m => (s.matches m.rest).map m.after).filter (Match.leaves z.length)
      = (ms.flatMap fun m => (s.matches m.rest).map m.after).map fun m => m.extend z := by
  rw [filter_leaves_flatMap, hms, List.flatMap_map, List.map_flatMap]
  refine List.flatMap_congr fun m hm => ?_
  rw [List.map_map]
  show ((s.matches (m.rest ++ z)).filter _).map _ = _
  rw [hs m hm, List.map_map]
  rfl

/-- The repetition of an expression whose matches that leave the second part are those of the
first part. -/
theorem matches_star_append {r : Regex} (hr : ∀ x z : List Char,
      (r.matches (x ++ z)).filter (Match.leaves z.length) = (r.matches x).map fun m => m.extend z)
    (greedy : Bool) (x z : List Char) :
    ((star greedy r).matches (x ++ z)).filter (Match.leaves z.length)
      = ((star greedy r).matches x).map fun m => m.extend z := by
  -- on the length of the first part, of which every round takes something
  induction hn : x.length using Nat.strong_induction_on generalizing x with
  | _ n ihn =>
    have hparts : ((r.matches (x ++ z)).filter fun m => m.rest.length < (x ++ z).length).filter
          (Match.leaves z.length)
        = ((r.matches x).filter fun m => m.rest.length < x.length).map fun m => m.extend z := by
      rw [List.filter_comm, hr, List.filter_map]
      congr 1
      refine List.filter_congr fun m _ => ?_
      simp [Match.extend]
    have hmore := filter_leaves_flatMap_extend (s := star greedy r) hparts fun m hm => by
      have hlt : m.rest.length < x.length := by simpa using (List.mem_filter.mp hm).2
      exact ihn m.rest.length (hn ▸ hlt) m.rest rfl
    rw [matches_star, matches_star]
    dsimp only
    cases greedy with
    | true =>
      rw [if_pos rfl, if_pos rfl, List.filter_append, hmore, List.map_append]
      simp [Match.leaves, Match.extend]
    | false =>
      rw [if_neg Bool.false_ne_true, if_neg Bool.false_ne_true, List.filter_cons_of_pos
        (by simp [Match.leaves]), hmore]
      rfl

/-- A group around such an expression. -/
theorem matches_group_append {r : Regex} (hr : ∀ x z : List Char,
      (r.matches (x ++ z)).filter (Match.leaves z.length) = (r.matches x).map fun m => m.extend z)
    (index : ℕ) (x z : List Char) :
    ((group index r).matches (x ++ z)).filter (Match.leaves z.length)
      = ((group index r).matches x).map fun m => m.extend z := by
  show ((r.matches (x ++ z)).map _).filter _ = ((r.matches x).map _).map _
  rw [List.filter_map]
  have hfilter : ∀ l : List Match, l.filter (Match.leaves z.length ∘ fun m : Match =>
      (⟨m.rest, (index, (x ++ z).take ((x ++ z).length - m.rest.length)) :: m.groups⟩ : Match))
        = l.filter (Match.leaves z.length) := fun l => rfl
  rw [hfilter, hr, List.map_map, List.map_map]
  refine List.map_congr_left fun m hm => ?_
  have hle := r.length_rest_le hm
  -- the group is what the match has taken, which ends before `z`
  have htake : (x ++ z).take ((x ++ z).length - (m.rest ++ z).length)
      = x.take (x.length - m.rest.length) := by
    rw [List.length_append, List.length_append, Nat.add_sub_add_right,
      List.take_append_of_le_length (Nat.sub_le ..)]
  simp only [Function.comp_apply, Match.extend, htake]

/-- **The matches that leave the second part of a text are those of the first part.** -/
theorem matches_append (r : Regex) : ∀ x z : List Char,
    (r.matches (x ++ z)).filter (Match.leaves z.length)
      = (r.matches x).map fun m => m.extend z := by
  induction r with
  | empty =>
    intro x z
    simp [«matches», Match.leaves, Match.extend]
  | char accepts =>
    intro x z
    cases x with
    | nil =>
      cases z with
      | nil => rfl
      | cons c z =>
        simp only [List.nil_append, «matches»]
        split <;> simp [Match.leaves]
    | cons c x =>
      simp only [List.cons_append, «matches»]
      split <;> simp [Match.leaves, Match.extend]
  | seq r s ihr ihs =>
    intro x z
    -- what the first part leaves, the second one starts from
    rw [matches_seq, matches_seq]
    exact filter_leaves_flatMap_extend (ihr x z) fun m _ => ihs m.rest z
  | alt r s ihr ihs =>
    intro x z
    show (r.matches (x ++ z) ++ s.matches (x ++ z)).filter _ = (r.matches x ++ s.matches x).map _
    rw [List.filter_append, List.map_append, ihr, ihs]
  | star greedy r ih => exact matches_star_append ih greedy
  | group index r ih => exact matches_group_append ih index

/-- An expression that matches nowhere on a longer text does not match. -/
theorem matches_eq_nil_of_append {r : Regex} {x z : List Char} (h : r.matches (x ++ z) = []) :
    r.matches x = [] := by
  have happend := r.matches_append x z
  rw [h] at happend
  exact List.map_eq_nil_iff.mp happend.symm

/-- The first match on a longer text, when it leaves what the text is longer by. -/
theorem head?_matches_append {r : Regex} {x z : List Char} {m : Match}
    (h : (r.matches (x ++ z)).head? = some m) (hm : m.leaves z.length = true) :
    ∃ m', (r.matches x).head? = some m' ∧ m = m'.extend z := by
  have happend := r.matches_append x z
  obtain ⟨ms, hms⟩ := List.head?_eq_some_iff.mp h
  rw [hms, List.filter_cons_of_pos hm] at happend
  cases hx : r.matches x with
  | nil =>
    rw [hx] at happend
    cases happend
  | cons m' ms' =>
    rw [hx] at happend
    exact ⟨m', rfl, (List.cons.inj happend).1⟩

/-! ### Searches -/

/-- The first match, from the left, and the number of characters there are where it begins. -/
def searchAt (r : Regex) : List Char → Option (ℕ × Match)
  | [] => (r.matches []).head?.map fun m => (0, m)
  | c :: l => ((r.matches (c :: l)).head?.map fun m => (l.length + 1, m)).or (r.searchAt l)

theorem searchL_eq (r : Regex) (l : List Char) : r.searchL l = (r.searchAt l).map Prod.snd := by
  induction l with
  | nil =>
    rw [searchL, searchAt]
    cases (r.matches []).head? <;> rfl
  | cons c l ih =>
    rw [searchL, searchAt, ih]
    cases (r.matches (c :: l)).head? <;> rfl

theorem searchAt_nil {r : Regex} (ht : r.takes = true) : r.searchAt [] = none := by
  have hnil : r.matches [] = [] :=
    List.eq_nil_iff_forall_not_mem.mpr fun m hm => absurd (r.length_rest_lt ht hm) (Nat.not_lt_zero _)
  rw [searchAt, hnil]
  rfl

/-- Where a match begins, and that it takes something. -/
theorem searchAt_bounds {r : Regex} (ht : r.takes = true) {l : List Char} {b : ℕ} {m : Match}
    (h : r.searchAt l = some (b, m)) : m.rest.length < b ∧ b ≤ l.length := by
  induction l with
  | nil =>
    rw [searchAt_nil ht] at h
    cases h
  | cons c l ih =>
    rw [searchAt] at h
    cases hhead : (r.matches (c :: l)).head? with
    | none =>
      rw [hhead] at h
      obtain ⟨hrest, hb⟩ := ih h
      exact ⟨hrest, hb.trans (Nat.le_succ _)⟩
    | some m' =>
      rw [hhead] at h
      cases h
      exact ⟨r.length_rest_lt ht (List.mem_of_mem_head? hhead), le_rfl⟩

/-- Nothing is found in the parts of a text in which nothing is found. -/
theorem searchAt_append_eq_none {r : Regex} {x z : List Char} (h : r.searchAt (x ++ z) = none) :
    r.searchAt x = none ∧ r.searchAt z = none := by
  induction x with
  | nil =>
    refine ⟨?_, h⟩
    have hnil : r.matches z = [] := by
      cases z with
      | nil => simpa [searchAt] using h
      | cons c z =>
        rw [List.nil_append, searchAt, Option.or_eq_none_iff, Option.map_eq_none_iff,
          List.head?_eq_none_iff] at h
        exact h.1
    rw [searchAt, matches_eq_nil_of_append (z := z) hnil]
    rfl
  | cons c x ih =>
    rw [List.cons_append, searchAt, Option.or_eq_none_iff, Option.map_eq_none_iff,
      List.head?_eq_none_iff] at h
    obtain ⟨hx, hz⟩ := ih h.2
    refine ⟨?_, hz⟩
    rw [searchAt, matches_eq_nil_of_append (z := z) h.1, hx]
    rfl

/-- A first match that ends in the first part of a text is found there. -/
theorem searchAt_append_left {r : Regex} (ht : r.takes = true) {x z : List Char} {b : ℕ} {m : Match}
    (h : r.searchAt (x ++ z) = some (b, m)) (hm : z.length ≤ m.rest.length) :
    ∃ b' m', r.searchAt x = some (b', m') ∧ m = m'.extend z := by
  have hleaves : m.leaves z.length = true := decide_eq_true hm
  induction x with
  | nil =>
    have hbounds := searchAt_bounds ht h
    rw [List.nil_append] at hbounds
    omega
  | cons c x ih =>
    rw [List.cons_append, searchAt, ← List.cons_append] at h
    cases hhead : (r.matches (c :: x ++ z)).head? with
    | none =>
      rw [hhead] at h
      obtain ⟨b', m', hx, hrest⟩ := ih h
      rw [searchAt, matches_eq_nil_of_append (List.head?_eq_none_iff.mp hhead)]
      exact ⟨b', m', hx, hrest⟩
    | some m₁ =>
      rw [hhead] at h
      cases h
      obtain ⟨m', hm', hrest⟩ := head?_matches_append hhead hleaves
      rw [searchAt, hm']
      exact ⟨_, m', rfl, hrest⟩

/-- A first match that begins in the second part of a text is found there, and none in
the first part. -/
theorem searchAt_append_right {r : Regex} (ht : r.takes = true) {x z : List Char} {b : ℕ}
    {m : Match} (h : r.searchAt (x ++ z) = some (b, m)) (hb : b ≤ z.length) :
    r.searchAt x = none ∧ r.searchAt z = some (b, m) := by
  induction x with
  | nil => exact ⟨searchAt_nil ht, h⟩
  | cons c x ih =>
    rw [List.cons_append, searchAt, ← List.cons_append] at h
    cases hhead : (r.matches (c :: x ++ z)).head? with
    | none =>
      rw [hhead] at h
      obtain ⟨hx, hz⟩ := ih h
      rw [searchAt, matches_eq_nil_of_append (List.head?_eq_none_iff.mp hhead)]
      exact ⟨hx, hz⟩
    | some m₁ =>
      rw [hhead] at h
      cases h
      rw [List.length_append] at hb
      omega

/-- The first matches of several expressions, each searched after the one before. -/
def searchAll : List Regex → List Char → List (ℕ × Match)
  | [], _ => []
  | r :: rs, l => match r.searchAt l with
    | none => []
    | some p => p :: searchAll rs p.2.rest

/-- The groups of the matches. -/
def groupsOf (ps : List (ℕ × Match)) : List (List (ℕ × List Char)) := ps.map fun p => p.2.groups

/-- None of the matches in the text of three parts touches the middle: it ends before the
middle, or begins after it. -/
def Apart (rs : List Regex) (x g y : List Char) : Prop :=
  ∀ p ∈ searchAll rs (x ++ (g ++ y)), (g ++ y).length ≤ p.2.rest.length ∨ p.1 ≤ y.length

instance (rs : List Regex) (x g y : List Char) : Decidable (Apart rs x g y) :=
  inferInstanceAs (Decidable (∀ p ∈ searchAll rs (x ++ (g ++ y)), _))

/-- What is found in two parts of a text: in the first one, and what is not found there
in the second one. -/
def searchParts : List Regex → List Char → List Char → List (List (ℕ × List Char))
  | [], _, _ => []
  | r :: rs, x, y => match r.searchAt x with
    | some p => p.2.groups :: searchParts rs p.2.rest y
    | none => groupsOf (searchAll (r :: rs) y)

/-- **What is found apart from the middle of a text is found in its other parts.** -/
theorem groups_searchAll {rs : List Regex} (ht : ∀ r ∈ rs, r.takes = true) {x g y : List Char}
    (h : Apart rs x g y) : groupsOf (searchAll rs (x ++ (g ++ y))) = searchParts rs x y := by
  induction rs generalizing x with
  | nil => rfl
  | cons r rs ih =>
    have htr : r.takes = true := ht r List.mem_cons_self
    unfold Apart at h
    rw [searchAll] at h ⊢
    rw [searchParts]
    cases hfirst : r.searchAt (x ++ (g ++ y)) with
    | none =>
      obtain ⟨hx, hz⟩ := searchAt_append_eq_none hfirst
      rw [hx, searchAll, (searchAt_append_eq_none hz).2]
    | some p =>
      obtain ⟨b, m⟩ := p
      rw [hfirst] at h
      rcases h (b, m) List.mem_cons_self with hend | hbegin
      · -- the match ends before the middle
        obtain ⟨b', m', hx, rfl⟩ := searchAt_append_left htr hfirst hend
        rw [hx]
        show m'.groups :: groupsOf (searchAll rs (m'.rest ++ (g ++ y))) = _
        rw [ih (fun r' hr' => ht r' (List.mem_cons_of_mem _ hr'))
          fun q hq => h q (List.mem_cons_of_mem _ hq)]
      · -- the match begins after the middle
        have hle : b ≤ (g ++ y).length := by
          rw [List.length_append]
          exact hbegin.trans (Nat.le_add_left ..)
        obtain ⟨hx, hz⟩ := searchAt_append_right htr hfirst hle
        obtain ⟨-, hy⟩ := searchAt_append_right htr hz hbegin
        rw [hx, searchAll, hy]

/-! ### What the functions of `re` find -/

theorem searchAll_single (r : Regex) (l : List Char) :
    groupsOf (searchAll [r] l) = ((r.searchL l).map Match.groups).toList := by
  rw [searchAll, searchL_eq]
  cases r.searchAt l with
  | none => rfl
  | some p => rfl

/-- What `re.search` finds depends on the groups of the first match only. -/
theorem search_eq {r : Regex} {s t : String}
    (h : groupsOf (searchAll [r] s.toList) = groupsOf (searchAll [r] t.toList)) :
    r.search s = r.search t := by
  rw [searchAll_single, searchAll_single] at h
  unfold search
  cases hs : r.searchL s.toList with
  | none =>
    cases ht : r.searchL t.toList with
    | none => rfl
    | some m => simp [hs, ht] at h
  | some m =>
    cases ht : r.searchL t.toList with
    | none => simp [hs, ht] at h
    | some m' =>
      have hgroups : m.groups = m'.groups := by simpa [hs, ht] using h
      rw [Option.map_some, Option.map_some, hgroups]

/-- The characters themselves, in their case. -/
def exact (needle : List Char) : Regex :=
  needle.foldr (fun c r => seq (char fun x => x == c) r) empty

end Regex

/-! ### Scans -/

/-- A search of a program: the view of a text that it looks at, and the expressions it
searches in it, each after the one before. -/
structure Scan where
  view : List Char → List Char
  parts : List Regex

namespace Scan

open Regex

variable (sc : Scan)

/-- What the scan finds in a text. -/
def run (text : String) : List (List (ℕ × List Char)) :=
  groupsOf (searchAll sc.parts (sc.view text.toList))

/-- The texts differ in one place, which no match of the scan touches in either of them. -/
def Unsplit (l l' : List Char) : Prop :=
  ∃ x g g' y, sc.view l = x ++ (g ++ y) ∧ sc.view l' = x ++ (g' ++ y) ∧
    Apart sc.parts x g y ∧ Apart sc.parts x g' y

variable {sc}

theorem Unsplit.refl (l : List Char) : sc.Unsplit l l := by
  have hall : Apart sc.parts (sc.view l) [] [] := fun p _ => .inl (Nat.zero_le _)
  exact ⟨_, [], [], [], by simp, by simp, hall, hall⟩

/-- **A scan finds the same in two texts that do not split it.** -/
theorem run_eq (ht : ∀ r ∈ sc.parts, r.takes = true) {text text' : String}
    (h : sc.Unsplit text.toList text'.toList) : sc.run text = sc.run text' := by
  obtain ⟨x, g, g', y, hview, hview', hapart, hapart'⟩ := h
  rw [run, run, hview, hview', groups_searchAll ht hapart, groups_searchAll ht hapart']

end Scan

end Py
