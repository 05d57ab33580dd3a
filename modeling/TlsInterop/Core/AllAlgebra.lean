import Mathlib.Data.String.Basic
import TlsInterop.Core.Matrix

/-!
# The algebra of `ALL`

A value of an axis is `ALL`, `ALL` less some members, or a comma list.  The
plain expansion and the expansion over the capabilities read these forms in two
places each.  One law is stated for both: subtracting from `ALL` takes members
away and keeps the order, and a comma list expands to its own tokens.

The one place where the law fails is a comma list that begins with the letters
of `ALL` without being an `ALL` form: the filter of the cipher axis takes it for
one.

## Main definitions

* `IsAllMinus`, `IsCommaList` — the forms of a value.
* `AllAlgebra` — the law, of any expansion.
* `AllAlgebraSafe` — the condition on the value and the choices.

## Main results

* `expandDimension_minus`, `expandCapabilityDimension_minus` — subtracting from `ALL`.
* `expandDimension_list`, `expandCapabilityDimension_list` — a comma list.
* `all_algebra_iff` — when both expansions obey the law.
* `all_prefix_loses_every_token` — a known cipher whose id begins with `all`.
-/

namespace TlsInterop

open Py

/-! ### Sorted sets -/

theorem pairwise_lt_sortedSet (l : List String) : (sortedSet l).Pairwise (· < ·) := by
  have hle : (sortedSet l).Pairwise (· ≤ ·) := List.pairwise_insertionSort _ _
  have hnodup : (sortedSet l).Nodup :=
    (List.perm_insertionSort _ _).nodup_iff.mpr (List.nodup_dedup l)
  exact (hle.and hnodup).imp fun h => lt_of_le_of_ne h.1 h.2

theorem eq_of_pairwise_lt {l l' : List String} (hl : l.Pairwise (· < ·))
    (hl' : l'.Pairwise (· < ·)) (hmem : ∀ x, x ∈ l ↔ x ∈ l') : l = l' := by
  have hperm : l.Perm l' :=
    (List.perm_ext_iff_of_nodup (hl.imp fun h => h.ne) (hl'.imp fun h => h.ne)).mpr hmem
  exact hperm.eq_of_pairwise (fun _ _ _ _ h h' => absurd h' h.not_gt) hl hl'

/-- Sorting changes nothing exactly when the list is in order and without repetition. -/
theorem sortedSet_eq_self_iff {l : List String} : sortedSet l = l ↔ l.Pairwise (· < ·) := by
  constructor
  · intro h
    rw [← h]
    exact pairwise_lt_sortedSet l
  · intro h
    exact eq_of_pairwise_lt (pairwise_lt_sortedSet l) h fun x => mem_sortedSet

theorem sortedSet_filter (p : String → Bool) (l : List String) :
    sortedSet (l.filter p) = (sortedSet l).filter p := by
  refine eq_of_pairwise_lt (pairwise_lt_sortedSet _) ((pairwise_lt_sortedSet l).filter p) ?_
  intro x
  simp only [mem_sortedSet, List.mem_filter]

/-! ### The forms of a value -/

/-- A value is `ALL\x` or `ALL-x`, in any letter case and spacing. -/
def IsAllMinus (value x : String) : Prop :=
  ∃ spaces sign, (∀ c ∈ spaces, isSpace c = true) ∧ (sign = '\\' ∨ sign = '-') ∧ strip x ≠ "" ∧
    afterAll value.toList = some (spaces ++ sign :: x.toList)

/-- A value is a comma list: not blank, without a colon and no `ALL` form. -/
structure IsCommaList (value : String) : Prop where
  notBlank : value ≠ ""
  noColon : ':' ∉ value.toList
  notAll : isAll value = false
  notMinus : ∀ x, ¬ IsAllMinus value x

theorem isSpace_of_sign {c : Char} (h : c = '\\' ∨ c = '-') : isSpace c = false := by
  rcases h with rfl | rfl <;> decide

theorem dropWhile_spaces {spaces : List Char} (h : ∀ c ∈ spaces, isSpace c = true) {c : Char}
    (hc : isSpace c = false) (l : List Char) : (spaces ++ c :: l).dropWhile isSpace = c :: l := by
  induction spaces with
  | nil => simp [hc]
  | cons s spaces ih =>
    have hs : isSpace s = true := h s List.mem_cons_self
    rw [List.cons_append, List.dropWhile_cons_of_pos hs]
    exact ih fun c' hc' => h c' (List.mem_cons_of_mem s hc')

theorem csvTokensL_dropWhile (l : List Char) :
    csvTokensL (l.dropWhile isSpace) = csvTokensL l := by
  induction l with
  | nil => rfl
  | cons c l ih =>
    by_cases hc : isSpace c = true
    · rw [List.dropWhile_cons_of_pos hc, ih, csvTokensL_cons_space hc]
    · rw [List.dropWhile_cons_of_neg hc]

/-- The group of the pattern names what is subtracted. -/
theorem IsAllMinus.subtrahend {value x : String} (h : IsAllMinus value x) :
    ∃ group, allSubtrahend value = some group ∧ exclusionsOf group = csvTokens x := by
  obtain ⟨spaces, sign, hspaces, hsign, hx, hafter⟩ := h
  have hdrop : x.toList.dropWhile isSpace ≠ [] := by
    intro hnil
    rw [List.dropWhile_eq_nil_iff] at hnil
    exact hx (strip_eq_empty_iff.mpr hnil)
  obtain ⟨c, l, hcl⟩ := List.exists_cons_of_ne_nil hdrop
  refine ⟨String.ofList (c :: l), ?_, ?_⟩
  · unfold allSubtrahend
    rw [hafter, Option.map_some, dropWhile_spaces hspaces (isSpace_of_sign hsign)]
    dsimp only
    rw [if_pos hsign, hcl]
  · rw [exclusionsOf, csvTokens_eq, csvTokens_eq, String.toList_ofList, ← hcl,
      csvTokensL_dropWhile]

theorem afterAll_eq_some {l rest : List Char} (h : afterAll l = some rest) :
    ∃ a b c, l = a :: b :: c :: rest := by
  unfold afterAll at h
  split at h
  · next a b c l' =>
    by_cases hall : (a = 'A' ∨ a = 'a') ∧ (b = 'L' ∨ b = 'l') ∧ (c = 'L' ∨ c = 'l')
    · rw [if_pos hall] at h
      exact ⟨a, b, c, by rw [Option.some.inj h]⟩
    · rw [if_neg hall] at h
      cases h
  · cases h

/-- The last character of a stripped value is no whitespace. -/
theorem isSpace_getLast_of_strip {value : String} (h : strip value = value)
    (hne : value.toList ≠ []) : isSpace (value.toList.getLast hne) = false := by
  have hself : (value.toList.dropWhile isSpace).rdropWhile isSpace = value.toList := by
    have htext := congrArg String.toList h
    rw [toList_strip] at htext
    exact htext
  have hlast := List.rdropWhile_last_not isSpace (value.toList.dropWhile isSpace)
    (by rw [hself]; exact hne)
  simpa only [hself, Bool.not_eq_true] using hlast

/-- In a stripped value the pattern matches the `ALL` forms only. -/
theorem exists_isAllMinus {value group : String} (hstrip : strip value = value)
    (h : allSubtrahend value = some group) : ∃ x, IsAllMinus value x := by
  unfold allSubtrahend at h
  cases hafter : afterAll value.toList with
  | none => rw [hafter] at h; cases h
  | some rest =>
    rw [hafter, Option.map_some] at h
    cases hrest : rest.dropWhile isSpace with
    | nil => rw [hrest] at h; cases h
    | cons sign l =>
      rw [hrest] at h
      dsimp only at h
      -- behind the blanks there has to be a sign
      by_cases hsign : sign = '\\' ∨ sign = '-'
      · refine ⟨String.ofList l, rest.takeWhile isSpace, sign,
          fun c hc => List.mem_takeWhile_imp hc, hsign, ?_, ?_⟩
        · -- a blank group would leave whitespace at the end of the value
          intro hblank
          have hspaces : ∀ c ∈ l, isSpace c = true := by
            simpa using strip_eq_empty_iff.mp hblank
          have hl : l ≠ [] := by
            rintro rfl
            rw [if_pos hsign] at h
            cases h
          obtain ⟨a, b, c, hvalue⟩ := afterAll_eq_some hafter
          have hsplit : value.toList = (a :: b :: c :: (rest.takeWhile isSpace ++ [sign])) ++ l := by
            have hjoin : rest.takeWhile isSpace ++ sign :: l = rest := by
              rw [← hrest, List.takeWhile_append_dropWhile]
            rw [hvalue, List.cons_append, List.cons_append, List.cons_append, List.append_assoc,
              List.singleton_append, hjoin]
          have hne : value.toList ≠ [] := by
            rw [hvalue]
            exact List.cons_ne_nil _ _
          have hlast := isSpace_getLast_of_strip hstrip hne
          have hmem : value.toList.getLast hne = l.getLast hl := by
            simp only [hsplit]
            exact List.getLast_append_of_ne_nil _ hl
          rw [hmem, hspaces _ (List.getLast_mem hl)] at hlast
          cases hlast
        · rw [String.toList_ofList, ← hrest, List.takeWhile_append_dropWhile]
          exact hafter
      · rw [if_neg hsign] at h
        cases h

theorem IsCommaList.allSubtrahend {value : String} (h : IsCommaList (strip value)) :
    allSubtrahend (strip value) = none := by
  cases hgroup : TlsInterop.allSubtrahend (strip value) with
  | none => rfl
  | some group =>
    obtain ⟨x, hx⟩ := exists_isAllMinus (strip_strip value) hgroup
    exact absurd hx (h.notMinus x)

theorem IsAllMinus.isAll {value x : String} (h : IsAllMinus value x) : isAll value = false := by
  obtain ⟨spaces, sign, -, hsign, -, hafter⟩ := h
  rw [TlsInterop.isAll, hafter, Option.any_some, List.all_append, List.all_cons,
    isSpace_of_sign hsign]
  simp

theorem IsAllMinus.ne_empty {value x : String} (h : IsAllMinus value x) : value ≠ "" := by
  obtain ⟨spaces, sign, -, -, -, hafter⟩ := h
  rintro rfl
  cases hafter

/-! ### The law -/

/-- An expansion gives a list when a condition holds, and raises `ValueError` otherwise. -/
structure GivesIf (p : Prop) (result : Except PyExc (List String)) (l : List String) : Prop where
  ok : p → result = .ok l
  error : ¬ p → ∃ text, result = .error ⟨.valueError, text⟩

/-- The algebra of `ALL`, for an expansion, the known choices and what the mode
keeps of a list. -/
structure AllAlgebra (expand : String → Except PyExc (List String)) (known : List String)
    (kept : List String → List String) (value : String) : Prop where
  minus : ∀ x, IsAllMinus (strip value) x → ∃ all, expand "ALL" = .ok all ∧
    GivesIf (all.filter (· ∉ csvTokens x) ≠ []) (expand value) (all.filter (· ∉ csvTokens x))
  list : IsCommaList (strip value) →
    GivesIf (csvTokens value ≠ [] ∧ ∀ t ∈ csvTokens value, t ∈ known) (expand value)
      (kept (csvTokens value))

/-- The mode that filters a dimension. -/
def dimensionMode (dimension : String) (tlsMode : Option TlsMode) : Option TlsMode :=
  if dimension = "cipher_suite" then tlsMode else none

/-- With a mode, the tokens some wrapper of the matrix supports are kept, when
there is one. -/
def keptTokens (mode : Option TlsMode) (wrapperIds : List String)
    (capsByWrapper : Dict String Capabilities) (tokens : List String) : List String :=
  match mode with
  | none => tokens
  | some m =>
    let allowed := unionCipherSuiteIdsForWrappers capsByWrapper wrapperIds (some m)
    if ∃ t ∈ tokens, t ∈ allowed then tokens.filter (· ∈ allowed) else tokens

section

variable {value x dimension : String} {choices wrapperIds : List String}
  {capsByWrapper : Dict String Capabilities} {tlsMode : Option TlsMode}

/-! ### The plain expansion -/

theorem expandDimension_of_no_choices (h : choiceTokens choices = []) (value : String) :
    expandDimension value choices = .ok [strip value] := by
  unfold expandDimension
  simp only [h, if_true]
  rfl

theorem strip_ALL : strip "ALL" = "ALL" := by decide

theorem expandDimension_all (h : choiceTokens choices ≠ []) :
    expandDimension "ALL" choices = .ok (choiceTokens choices) := by
  have hall : isAll "ALL" = true := by decide
  have hne : ¬ "ALL" = "" := by decide
  unfold expandDimension expandDimensionAllForms
  simp only [strip_ALL, h, hne, hall, if_false, if_true]
  rfl

/-- Subtracting from `ALL` takes the members away, unless nothing remains. -/
theorem expandDimension_minus (h : choiceTokens choices ≠ [])
    (hx : IsAllMinus (strip value) x) :
    GivesIf ((choiceTokens choices).filter (· ∉ csvTokens x) ≠ []) (expandDimension value choices)
      ((choiceTokens choices).filter (· ∉ csvTokens x)) := by
  obtain ⟨group, hgroup, hexcl⟩ := hx.subtrahend
  unfold expandDimension expandDimensionAllForms expandAllSubtraction
  simp only [h, hx.ne_empty, hx.isAll, hgroup, hexcl, if_false, Bool.false_eq_true]
  constructor
  · intro hrest
    rw [if_neg hrest]
    rfl
  · intro hrest
    rw [if_pos (not_not.mp hrest)]
    exact ⟨_, rfl⟩

example : expandDimension " all \\ b , c" ["a", "b", "c"] = .ok ["a"] := by decide

theorem expandCsvDimensionTokens_gives (val : String) (known : List String) :
    GivesIf (csvTokens val ≠ [] ∧ ∀ t ∈ csvTokens val, t ∈ known)
      (expandCsvDimensionTokens val known) (csvTokens val) := by
  have hinvalid : (csvTokens val).filter (· ∉ known) = [] ↔ ∀ t ∈ csvTokens val, t ∈ known := by
    rw [List.filter_eq_nil_iff]
    simp
  unfold expandCsvDimensionTokens
  dsimp only
  constructor
  · intro h
    rw [if_neg h.1, if_neg (not_not.mpr (hinvalid.mpr h.2))]
  · intro h
    by_cases hparts : csvTokens val = []
    · rw [if_pos hparts]
      exact ⟨_, rfl⟩
    · rw [if_neg hparts, if_pos fun hnil => h ⟨hparts, hinvalid.mp hnil⟩]
      exact ⟨_, rfl⟩

theorem expandDimension_of_list (h : choiceTokens choices ≠ []) (hl : IsCommaList (strip value)) :
    expandDimension value choices
      = expandCsvDimensionTokens (strip value) (choiceTokens choices) := by
  have hcolon : splitOnce ':' (strip value) = none := (splitOnce_eq_none_iff _ _).mpr hl.noColon
  unfold expandDimension expandDimensionAllForms expandAllSubtraction
  simp only [h, hl.notBlank, hl.notAll, hl.allSubtrahend, hcolon, if_false, Bool.false_eq_true,
    Option.isSome_none, bind, Except.bind]

/-- A comma list expands to its tokens, when it has any and all are known. -/
theorem expandDimension_list (h : choiceTokens choices ≠ []) (hl : IsCommaList (strip value)) :
    GivesIf (csvTokens value ≠ [] ∧ ∀ t ∈ csvTokens value, t ∈ choiceTokens choices)
      (expandDimension value choices) (csvTokens value) := by
  have hgives := expandCsvDimensionTokens_gives (strip value) (choiceTokens choices)
  rw [csvTokens_strip] at hgives
  rw [expandDimension_of_list h hl]
  exact hgives

/-! ### The expansion over the capabilities -/

theorem expandCapabilityDimension_all :
    expandCapabilityDimension "ALL" dimension wrapperIds capsByWrapper choices tlsMode
      = .ok (expandCapDimAll dimension wrapperIds capsByWrapper (choiceTokens choices)
          (dimensionMode dimension tlsMode)) := by
  have hall : isAll "ALL" = true := by decide
  unfold expandCapabilityDimension
  simp only [strip_ALL, hall, if_true]
  rfl

/-- What `ALL` less some members is computed from. -/
theorem expandCapabilityDimension_of_minus (hx : IsAllMinus (strip value) x) :
    expandCapabilityDimension value dimension wrapperIds capsByWrapper choices tlsMode
      = let keys := unionCapabilityKeys dimension wrapperIds capsByWrapper
          (dimensionMode dimension tlsMode)
        let output := sortedSet ((if keys = [] then choiceTokens choices else keys).filter
          (· ∉ csvTokens x))
        if output = [] then .error (emptySetError (strip value)) else .ok output := by
  obtain ⟨group, hgroup, hexcl⟩ := hx.subtrahend
  unfold expandCapabilityDimension expandCapDimAllSubtraction dimensionMode
  simp only [hx.isAll, hgroup, hexcl, if_false, Bool.false_eq_true]
  generalize (if dimension = "cipher_suite" then tlsMode else none) = mode
  generalize sortedSet ((if unionCapabilityKeys dimension wrapperIds capsByWrapper mode = [] then
    choiceTokens choices else unionCapabilityKeys dimension wrapperIds capsByWrapper mode).filter
      (· ∉ csvTokens x)) = output
  by_cases houtput : output = []
  · rw [if_pos houtput, if_pos houtput]
    rfl
  · rw [if_neg houtput, if_neg houtput]
    rfl

/-- Subtracting from `ALL` takes the members away exactly when the catalog's
choices are not needed, or what is left of them is in order. -/
theorem expandCapabilityDimension_minus (hx : IsAllMinus (strip value) x) :
    (∃ all, expandCapabilityDimension "ALL" dimension wrapperIds capsByWrapper choices tlsMode
        = .ok all ∧
      GivesIf (all.filter (· ∉ csvTokens x) ≠ [])
        (expandCapabilityDimension value dimension wrapperIds capsByWrapper choices tlsMode)
        (all.filter (· ∉ csvTokens x))) ↔
    (unionCapabilityKeys dimension wrapperIds capsByWrapper (dimensionMode dimension tlsMode) = [] →
      ((choiceTokens choices).filter (· ∉ csvTokens x)).Pairwise (· < ·)) := by
  rw [expandCapabilityDimension_all, expandCapabilityDimension_of_minus hx]
  simp only [Except.ok.injEq, exists_eq_left']
  unfold expandCapDimAll
  generalize unionCapabilityKeys dimension wrapperIds capsByWrapper
    (dimensionMode dimension tlsMode) = keys
  by_cases hkeys : keys = []
  · -- the catalog's choices stand in, and are sorted on one side only
    subst hkeys
    simp only [if_true, ne_eq, not_true_eq_false, if_false, true_implies, sortedSet_eq_nil_iff]
    rw [← sortedSet_eq_self_iff]
    generalize (choiceTokens choices).filter (· ∉ csvTokens x) = rest
    by_cases hrest : rest = []
    · subst hrest
      refine iff_of_true ⟨fun h => absurd rfl h, fun _ => ⟨_, if_pos rfl⟩⟩ ?_
      exact sortedSet_eq_nil_iff.mpr rfl
    · rw [if_neg hrest]
      constructor
      · intro h
        exact Except.ok.inj (h.ok hrest)
      · intro h
        rw [h]
        exact ⟨fun _ => rfl, fun h' => absurd hrest h'⟩
  · -- with keys declared both sides filter one sorted list
    simp only [hkeys, ne_eq, not_false_eq_true, if_true, if_false, false_implies, iff_true,
      sortedSet_filter]
    constructor
    · intro hrest
      rw [if_neg hrest]
    · intro hrest
      rw [if_pos (not_not.mp hrest)]
      exact ⟨_, rfl⟩

theorem expandCapabilityDimension_of_list (hl : IsCommaList (strip value)) :
    expandCapabilityDimension value dimension wrapperIds capsByWrapper choices tlsMode
      = (expandDimension (strip value) (choiceTokens choices)).map fun expanded =>
          match dimensionMode dimension tlsMode with
          | none => expanded
          | some mode => filterExpandedCipherSuite expanded (strip value) mode wrapperIds
              capsByWrapper := by
  have hcolon : splitOnce ':' (strip value) = none := (splitOnce_eq_none_iff _ _).mpr hl.noColon
  unfold expandCapabilityDimension expandCapDimAllSubtraction expandCapDimTokens dimensionMode
  simp only [hl.notAll, hl.allSubtrahend, hcolon, if_false, Bool.false_eq_true,
    Option.isSome_none, bind, Except.bind]
  cases expandDimension (strip value) (choiceTokens choices) with
  | error e => rfl
  | ok expanded =>
    by_cases hd : dimension = "cipher_suite"
    · simp only [hd, if_true]
      cases tlsMode <;> rfl
    · simp only [hd, if_false]
      rfl

theorem filterExpandedCipherSuite_of_kept {tokens : List String} {m : TlsMode}
    (h : ∃ t ∈ tokens, t ∈ unionCipherSuiteIdsForWrappers capsByWrapper wrapperIds (some m))
    (val : String) :
    filterExpandedCipherSuite tokens val m wrapperIds capsByWrapper
      = keptTokens (some m) wrapperIds capsByWrapper tokens := by
  unfold filterExpandedCipherSuite keptTokens
  dsimp only
  generalize unionCipherSuiteIdsForWrappers capsByWrapper wrapperIds (some m) = allowed at h ⊢
  obtain ⟨t, ht, hallowed⟩ := h
  have hmem : t ∈ tokens.filter (· ∈ allowed) := List.mem_filter.mpr ⟨ht, by simpa using hallowed⟩
  rw [if_pos (List.ne_nil_of_mem hmem), if_pos ⟨t, ht, hallowed⟩]

/-- Where no token is supported, the filter keeps the list, or takes it for an
`ALL` form and drops every token. -/
theorem filterExpandedCipherSuite_of_none_kept {tokens : List String} {m : TlsMode} {val : String}
    (h : ∀ t ∈ tokens, t ∉ unionCipherSuiteIdsForWrappers capsByWrapper wrapperIds (some m))
    (htokens : tokens ≠ []) (hval : val ≠ "") :
    filterExpandedCipherSuite tokens val m wrapperIds capsByWrapper
        = if startsWithAll val = true then [] else tokens := by
  unfold filterExpandedCipherSuite
  dsimp only
  generalize unionCipherSuiteIdsForWrappers capsByWrapper wrapperIds (some m) = allowed at h ⊢
  have hnone : tokens.filter (· ∈ allowed) = [] := by
    rw [List.filter_eq_nil_iff]
    intro t ht
    simpa using h t ht
  rw [if_neg (not_not.mpr hnone), if_neg hval, if_pos htokens]
  cases startsWithAll val <;> rfl

/-- A comma list that begins with the letters of `ALL`, all of whose tokens are
known and none supported in the mode. -/
def TakenForAll (value dimension : String) (wrapperIds : List String)
    (capsByWrapper : Dict String Capabilities) (choices : List String) (tlsMode : Option TlsMode) :
    Prop :=
  startsWithAll (strip value) = true ∧ csvTokens value ≠ [] ∧
    (∀ t ∈ csvTokens value, t ∈ choiceTokens choices) ∧
    ∃ m, dimensionMode dimension tlsMode = some m ∧
      ∀ t ∈ csvTokens value, t ∉ unionCipherSuiteIdsForWrappers capsByWrapper wrapperIds (some m)

/-- A comma list expands to what the mode keeps of its tokens exactly when it is
not taken for an `ALL` form. -/
theorem expandCapabilityDimension_list (h : choiceTokens choices ≠ [])
    (hl : IsCommaList (strip value)) :
    GivesIf (csvTokens value ≠ [] ∧ ∀ t ∈ csvTokens value, t ∈ choiceTokens choices)
        (expandCapabilityDimension value dimension wrapperIds capsByWrapper choices tlsMode)
        (keptTokens (dimensionMode dimension tlsMode) wrapperIds capsByWrapper (csvTokens value)) ↔
      ¬ TakenForAll value dimension wrapperIds capsByWrapper choices tlsMode := by
  rw [expandCapabilityDimension_of_list hl]
  -- without the filter of the mode the tokens themselves are given
  have hplain : GivesIf (csvTokens value ≠ [] ∧ ∀ t ∈ csvTokens value, t ∈ choiceTokens choices)
      (expandDimension (strip value) (choiceTokens choices)) (csvTokens value) := by
    have hne : choiceTokens (choiceTokens choices) ≠ [] := by rwa [choiceTokens_choiceTokens]
    have hlist : IsCommaList (strip (strip value)) := by rwa [strip_strip]
    have hgives := expandDimension_list hne hlist
    rwa [choiceTokens_choiceTokens, csvTokens_strip] at hgives
  unfold TakenForAll
  by_cases hgood : csvTokens value ≠ [] ∧ ∀ t ∈ csvTokens value, t ∈ choiceTokens choices
  · rw [hplain.ok hgood]
    have hgives : ∀ l l' : List String,
        GivesIf (csvTokens value ≠ [] ∧ ∀ t ∈ csvTokens value, t ∈ choiceTokens choices)
          (.ok l) l' ↔ l = l' := by
      intro l l'
      constructor
      · intro hok
        exact Except.ok.inj (hok.ok hgood)
      · intro hll
        exact ⟨fun _ => by rw [hll], fun hbad => absurd hgood hbad⟩
    rw [Except.map, hgives]
    cases dimensionMode dimension tlsMode with
    | none => simp [keptTokens]
    | some m =>
      dsimp only
      -- the filter of the mode drops tokens, and may drop them all
      by_cases hkept : ∃ t ∈ csvTokens value,
          t ∈ unionCipherSuiteIdsForWrappers capsByWrapper wrapperIds (some m)
      · rw [filterExpandedCipherSuite_of_kept hkept]
        obtain ⟨t, ht, hallowed⟩ := hkept
        refine iff_of_true rfl ?_
        rintro ⟨-, -, -, m', hm', hnone⟩
        rw [← Option.some.inj hm'] at hnone
        exact hnone t ht hallowed
      · have hnone : ∀ t ∈ csvTokens value,
            t ∉ unionCipherSuiteIdsForWrappers capsByWrapper wrapperIds (some m) :=
          fun t ht hallowed => hkept ⟨t, ht, hallowed⟩
        rw [filterExpandedCipherSuite_of_none_kept hnone hgood.1 hl.notBlank, keptTokens,
          if_neg hkept]
        -- then a value that begins like ALL is taken for ALL
        by_cases hstart : startsWithAll (strip value) = true
        · rw [if_pos hstart]
          refine iff_of_false (Ne.symm hgood.1) ?_
          exact not_not.mpr ⟨hstart, hgood.1, hgood.2, m, rfl, hnone⟩
        · rw [if_neg hstart]
          exact iff_of_true rfl fun htaken => hstart htaken.1
  · -- tokens that are unknown are refused before
    obtain ⟨text, htext⟩ := hplain.error hgood
    rw [htext]
    refine iff_of_true ⟨fun h' => absurd h' hgood, fun _ => ⟨text, rfl⟩⟩ ?_
    exact fun htaken => hgood ⟨htaken.2.1, htaken.2.2.1⟩

/-! ### Both expansions -/

/-- The condition on a value and the choices.  A form of `ALL` needs a choice
that is not blank, and choices in order where no wrapper of the matrix lists
the dimension; a comma list must not be taken for a form of `ALL`. -/
structure AllAlgebraSafe (value dimension : String) (wrapperIds : List String)
    (capsByWrapper : Dict String Capabilities) (choices : List String) (tlsMode : Option TlsMode) :
    Prop where
  minus : ∀ x, IsAllMinus (strip value) x → choiceTokens choices ≠ [] ∧
    (unionCapabilityKeys dimension wrapperIds capsByWrapper (dimensionMode dimension tlsMode) = [] →
      ((choiceTokens choices).filter (· ∉ csvTokens x)).Pairwise (· < ·))
  list : IsCommaList (strip value) → choiceTokens choices ≠ [] ∧
    ¬ TakenForAll value dimension wrapperIds capsByWrapper choices tlsMode

theorem not_isAllMinus_ALL (x : String) : ¬ IsAllMinus "ALL" x := by
  rintro ⟨spaces, sign, -, -, -, hafter⟩
  have hnil : spaces ++ sign :: x.toList = [] := (Option.some.inj hafter).symm
  simp at hnil

/-- Without choices the plain expansion gives the value back, form or not. -/
theorem choiceTokens_ne_nil_of_minus (hx : IsAllMinus (strip value) x)
    (h : ∃ all, expandDimension "ALL" choices = .ok all ∧
      GivesIf (all.filter (· ∉ csvTokens x) ≠ []) (expandDimension value choices)
        (all.filter (· ∉ csvTokens x))) : choiceTokens choices ≠ [] := by
  intro hnil
  obtain ⟨all, hall, hgives⟩ := h
  rw [expandDimension_of_no_choices hnil] at hall hgives
  rw [strip_ALL] at hall
  have hall' : ["ALL"] = all := Except.ok.inj hall
  by_cases hrest : all.filter (· ∉ csvTokens x) ≠ []
  · have hval : [strip value] = all.filter (· ∉ csvTokens x) := Except.ok.inj (hgives.ok hrest)
    have hmem : strip value ∈ all.filter (· ∉ csvTokens x) := by
      rw [← hval]
      exact List.mem_singleton_self _
    have hALL : strip value = "ALL" := by
      rw [← hall'] at hmem
      exact List.mem_singleton.mp (List.mem_filter.mp hmem).1
    rw [hALL] at hx
    exact not_isAllMinus_ALL x hx
  · obtain ⟨text, htext⟩ := hgives.error hrest
    cases htext

theorem choiceTokens_ne_nil_of_list
    (h : GivesIf (csvTokens value ≠ [] ∧ ∀ t ∈ csvTokens value, t ∈ choiceTokens choices)
      (expandDimension value choices) (csvTokens value)) : choiceTokens choices ≠ [] := by
  intro hnil
  have hbad : ¬ (csvTokens value ≠ [] ∧ ∀ t ∈ csvTokens value, t ∈ choiceTokens choices) := by
    rintro ⟨hne, hknown⟩
    obtain ⟨t, ht⟩ := List.exists_mem_of_ne_nil _ hne
    have hmem := hknown t ht
    rw [hnil] at hmem
    cases hmem
  obtain ⟨text, htext⟩ := h.error hbad
  rw [expandDimension_of_no_choices hnil] at htext
  cases htext

/-- **Both expansions obey the algebra of `ALL`** exactly when the value is not
a comma list that the cipher filter takes for an `ALL` form, the choices are
not blank, and the ones that stand in for an empty union are in order.  The expansion over
the choices and the one over the capability documents are two functions; the law is one,
stated once for a function on values. -/
theorem all_algebra_iff (value dimension : String) (wrapperIds : List String)
    (capsByWrapper : Dict String Capabilities) (choices : List String)
    (tlsMode : Option TlsMode) :
    (AllAlgebra (expandDimension · choices) (choiceTokens choices) id value ∧
      AllAlgebra (expandCapabilityDimension · dimension wrapperIds capsByWrapper choices tlsMode)
        (choiceTokens choices)
        (keptTokens (dimensionMode dimension tlsMode) wrapperIds capsByWrapper) value) ↔
    AllAlgebraSafe value dimension wrapperIds capsByWrapper choices tlsMode := by
  constructor
  · rintro ⟨hplain, hcaps⟩
    constructor
    · intro x hx
      exact ⟨choiceTokens_ne_nil_of_minus hx (hplain.minus x hx),
        (expandCapabilityDimension_minus hx).mp (hcaps.minus x hx)⟩
    · intro hl
      have htokens := choiceTokens_ne_nil_of_list (hplain.list hl)
      exact ⟨htokens, (expandCapabilityDimension_list htokens hl).mp (hcaps.list hl)⟩
  · intro hsafe
    refine ⟨⟨?_, ?_⟩, ⟨?_, ?_⟩⟩
    · intro x hx
      have htokens := (hsafe.minus x hx).1
      exact ⟨choiceTokens choices, expandDimension_all htokens, expandDimension_minus htokens hx⟩
    · intro hl
      exact expandDimension_list (hsafe.list hl).1 hl
    · intro x hx
      exact (expandCapabilityDimension_minus hx).mpr (hsafe.minus x hx).2
    · intro hl
      obtain ⟨htokens, htaken⟩ := hsafe.list hl
      exact (expandCapabilityDimension_list htokens hl).mpr htaken

end

/-! ### A cipher whose id begins with `all` -/

/-- A wrapper that lists one cipher for each mode. -/
def twoCipherCaps : Dict String Capabilities :=
  [("openssl",
    [("tls12", .obj [("cipher_suite", .obj [("allcipher", .str "ALLCIPHER")])]),
      ("tls13", .obj [("cipher_suite", .obj [("aes-128-gcm", .str "TLS_AES_128_GCM_SHA256")])])])]

/-- A known cipher that TLS 1.3 does not have is dropped, and the axis is empty,
although no listed token is supported. -/
theorem all_prefix_loses_every_token :
    ["aes-128-gcm", "allcipher"].Pairwise (· < ·) ∧
      expandCapabilityDimension "allcipher" "cipher_suite" ["openssl"] twoCipherCaps
        ["aes-128-gcm", "allcipher"] (some .v13) = .ok [] ∧
      ¬ AllAlgebra (expandCapabilityDimension · "cipher_suite" ["openssl"] twoCipherCaps
          ["aes-128-gcm", "allcipher"] (some .v13))
        (choiceTokens ["aes-128-gcm", "allcipher"])
        (keptTokens (dimensionMode "cipher_suite" (some .v13)) ["openssl"] twoCipherCaps)
        "allcipher" := by
  have hempty : expandCapabilityDimension "allcipher" "cipher_suite" ["openssl"] twoCipherCaps
      ["aes-128-gcm", "allcipher"] (some .v13) = .ok [] := by
    decide
  refine ⟨by decide, hempty, ?_⟩
  intro h
  have hlist : IsCommaList (strip "allcipher") := by
    refine ⟨by decide, by decide, by decide, fun x hx => ?_⟩
    obtain ⟨group, hgroup, -⟩ := hx.subtrahend
    have hnone : allSubtrahend (strip "allcipher") = none := by decide
    rw [hnone] at hgroup
    cases hgroup
  have hok := (h.list hlist).ok (by decide)
  have hkept : keptTokens (dimensionMode "cipher_suite" (some .v13)) ["openssl"] twoCipherCaps
      (csvTokens "allcipher") = ["allcipher"] := by
    decide
  rw [hkept, hempty] at hok
  cases hok

end TlsInterop
