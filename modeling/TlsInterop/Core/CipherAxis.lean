import TlsInterop.Core.Shipped

/-!
# The cipher axis and the version axis of a plan

The cipher axis is filtered by one mode, read off the `tls_version` argument
before that argument is expanded.  The version axis is expanded by itself.  The
two fit together when the filter is off, or every requested version has its
mode, or nothing is lost by it.

## Main definitions

* `PlanInputs`, `planInputs`, `planAxis` — what the axes of a plan are computed from.
* `requestedVersions`, `versionModes` — the versions an argument asks for, and their modes.
* `AllCiphersCovered`, `DefaultCipherCovers` — when the filter loses nothing.

## Main results

* `planAxis_tlsVersion` — the version axis holds the requested versions.
* `planAxis_cipherSuite_of_isAll`, `planAxis_cipherSuite_of_blank` — the cipher axis.
* `cipher_axis_covers_iff` — when the cipher axis covers every requested version.
* `all_versions_lose_tls12_ciphers` — `ALL` versions with `ALL` ciphers.
-/

namespace TlsInterop

open Py

/-! ### What the axes are computed from -/

/-- The documents and the wrappers the options of a plan are expanded over. -/
structure PlanInputs where
  cache : Dict String Capabilities
  catalog : Dict String Capabilities
  wrappers : List String

/-- The part of `matrix_axis_plan` before the options. -/
def planInputs (repo : Repo) (args : Args) (known : List String) : Except PyExc PlanInputs := do
  let cache ← capsCache repo known
  let catalog ← capsCache repo repo.discoverWrapperIds
  let serverVals ← expandDimension (args.getattrText "server") (sortedSet known)
  let clientVals ← expandDimension (args.getattrText "client") (sortedSet known)
  return ⟨cache, catalog, sortedSet (serverVals ++ clientVals)⟩

/-- The values of one axis of a plan. -/
def planAxis (plan : List String × List (List String)) (optionId : String) : List String :=
  (Dict.get? (plan.1.zip plan.2) optionId).getD []

namespace PlanInputs

/-- The cipher ids some wrapper of the matrix lists for a mode. -/
def ids (inp : PlanInputs) (m : TlsMode) : List String :=
  unionCipherSuiteIdsForWrappers inp.cache inp.wrappers (some m)

/-- Some wrapper of the matrix supports a cipher in a mode. -/
def Supports (inp : PlanInputs) (cipher : String) (m : TlsMode) : Prop :=
  ∃ w ∈ inp.wrappers, (capsOf inp.cache w).supportsCipher cipher m = true

/-- The cipher ids the catalog of options offers. -/
def offeredCiphers (inp : PlanInputs) : List String := optionChoiceTokens inp.catalog "cipher_suite"

/-- The versions `ALL` stands for. -/
def offeredVersions (inp : PlanInputs) : List String :=
  let keys := unionCapabilityKeys "tls_version" inp.wrappers inp.cache none
  if keys ≠ [] then keys else ["1.2", "1.3"]

end PlanInputs

/-- The versions the `tls_version` argument asks for. -/
def requestedVersions (inp : PlanInputs) (args : Args) : List String :=
  let val := strip (args.getattrText "tls_version")
  if isAll val then inp.offeredVersions
  else match allSubtrahend val with
    | some group => inp.offeredVersions.filter fun v => v ∉ exclusionsOf group
    | none => if val = "" ∨ (splitOnce ':' val).isSome then [val] else csvTokens val

/-- The modes of a version value: one for each side that is not empty. -/
def versionModes (v : String) : Finset TlsMode :=
  match splitOnce ':' (strip v) with
  | none => {tlsModeFromVersion v}
  | some _ =>
    let (left, right) := parseAsymmetric v
    (if left = "" then ∅ else {tlsModeFromVersion left}) ∪
      (if right = "" then ∅ else {tlsModeFromVersion right})

/-- With `ALL` ciphers, the filter loses no cipher of a requested version.  When
the catalog offers no cipher at all, the axis is the argument's own text. -/
def AllCiphersCovered (inp : PlanInputs) (args : Args) : Prop :=
  ∀ v ∈ requestedVersions inp args, ∀ m' ∈ versionModes v,
    if inp.offeredCiphers = [] then ∀ c ∈ inp.ids m', c = args.getattrText "cipher_suite"
    else ∀ m, tlsModeFilterFromArgs args = some m → m' ≠ m →
      (∀ c ∈ inp.ids m', c ∈ inp.ids m) ∨
        (inp.ids m = [] ∧ ∀ c ∈ inp.ids m', c ∈ inp.offeredCiphers)

/-- With no cipher, the default cipher of the filter's mode serves the other
mode too, or there is no default. -/
def DefaultCipherCovers (inp : PlanInputs) (args : Args) : Prop :=
  inp.offeredCiphers ≠ [] → ∀ m, tlsModeFilterFromArgs args = some m →
    ∀ v ∈ requestedVersions inp args, ∀ m' ∈ versionModes v, m' ≠ m → inp.ids m' ≠ [] →
      strip (defaultCipherForTlsMode m (inp.ids m)) = "" ∨
        inp.Supports (defaultCipherForTlsMode m (inp.ids m)) m'

section

variable {repo : Repo} {args : Args} {known : List String} {inp : PlanInputs}
  {plan : List String × List (List String)}

/-- Every option of a plan is expanded over the plan's inputs. -/
theorem planAxis_eq_ok (hinp : planInputs repo args known = .ok inp)
    (hplan : matrixAxisPlan repo args known = .ok plan) {o : String} (ho : o ∈ axisOptionIds) :
    getDimensionMatrixValues o (optionChoiceTokens inp.catalog o) args inp.wrappers inp.cache
      (tlsModeFilterFromArgs args) = .ok (planAxis plan o) := by
  unfold planInputs at hinp
  simp only [bind_eq_ok] at hinp
  obtain ⟨cache, hcache, catalog, hcatalog, sv, hsv, cv, hcv, hinp⟩ := hinp
  cases hinp
  unfold matrixAxisPlan at hplan
  simp only [bind_eq_ok, hcache, hcatalog, hsv, hcv, Except.ok.injEq, exists_eq_left'] at hplan
  obtain ⟨vals, hvals, hplan⟩ := hplan
  cases hplan
  rw [mapM_eq_ok] at hvals
  obtain ⟨v, hv, hok⟩ := Dict.get?_zip_of_forall₂ hvals ho
  have hroles : ∀ o ∈ axisOptionIds, o ≠ "server" ∧ o ≠ "client" := by decide
  have hne := hroles o ho
  have haxis : planAxis (["server", "client"] ++ axisOptionIds, [sv, cv] ++ vals) o = v := by
    simp [planAxis, Ne.symm hne.1, Ne.symm hne.2, hv]
  rw [haxis]
  exact hok

/-! ### The forms of a value -/

/-- The values of a dimension that `ALL` stands for. -/
def dimensionChoices (dimension : String) (wrapperIds : List String)
    (capsByWrapper : Dict String Capabilities) (catalogTokens : List String)
    (mode : Option TlsMode) : List String :=
  let keys := unionCapabilityKeys dimension wrapperIds capsByWrapper mode
  if keys ≠ [] then keys else catalogTokens

section Forms

variable {value dimension : String} {wrapperIds : List String}
  {capsByWrapper : Dict String Capabilities} {tokens axis : List String} {mode : Option TlsMode}

theorem mem_expandCapDimAll {x : String} :
    x ∈ expandCapDimAll dimension wrapperIds capsByWrapper tokens mode ↔
      x ∈ dimensionChoices dimension wrapperIds capsByWrapper tokens mode := by
  unfold expandCapDimAll dimensionChoices
  by_cases h : unionCapabilityKeys dimension wrapperIds capsByWrapper mode = [] <;> simp [h]

theorem expandCapDimAllSubtraction_eq_none
    (h : expandCapDimAllSubtraction value dimension wrapperIds capsByWrapper tokens mode
      = .ok none) : allSubtrahend value = none := by
  unfold expandCapDimAllSubtraction at h
  cases hgroup : allSubtrahend value with
  | none => rfl
  | some group =>
    rw [hgroup] at h
    by_cases hown : unionCapabilityKeys dimension wrapperIds capsByWrapper mode = []
    all_goals
      simp only [hown, if_true, if_false] at h
      split at h <;> cases h

theorem expandCapDimAllSubtraction_eq_some
    (h : expandCapDimAllSubtraction value dimension wrapperIds capsByWrapper tokens mode
      = .ok (some axis)) :
    ∃ group, allSubtrahend value = some group ∧ ∀ x, x ∈ axis ↔
      x ∈ dimensionChoices dimension wrapperIds capsByWrapper tokens mode ∧
        x ∉ exclusionsOf group := by
  unfold expandCapDimAllSubtraction at h
  cases hgroup : allSubtrahend value with
  | none => rw [hgroup] at h; cases h
  | some group =>
    rw [hgroup] at h
    refine ⟨group, rfl, fun x => ?_⟩
    unfold dimensionChoices
    by_cases hown : unionCapabilityKeys dimension wrapperIds capsByWrapper mode = []
    all_goals
      simp only [hown, if_true, if_false, ne_eq, not_true_eq_false, not_false_eq_true] at h ⊢
      split at h
      · cases h
      · cases h
        rw [mem_sortedSet, List.mem_filter, decide_eq_true_eq]

/-- The three ways a capability dimension expands. -/
theorem expandCapabilityDimension_cases {choices : List String} {tlsMode : Option TlsMode}
    (hmode : (if dimension = "cipher_suite" then tlsMode else none) = mode)
    (h : expandCapabilityDimension value dimension wrapperIds capsByWrapper choices tlsMode
      = .ok axis) :
    (isAll (strip value) = true ∧ ∀ x, x ∈ axis ↔
      x ∈ dimensionChoices dimension wrapperIds capsByWrapper (choiceTokens choices) mode) ∨
    (isAll (strip value) = false ∧ ∃ group, allSubtrahend (strip value) = some group ∧
      ∀ x, x ∈ axis ↔
        x ∈ dimensionChoices dimension wrapperIds capsByWrapper (choiceTokens choices) mode ∧
          x ∉ exclusionsOf group) ∨
    (isAll (strip value) = false ∧ allSubtrahend (strip value) = none ∧
      expandCapDimTokens (strip value) dimension wrapperIds capsByWrapper (choiceTokens choices) mode
        = .ok axis) := by
  unfold expandCapabilityDimension at h
  dsimp only at h
  rw [hmode] at h
  by_cases hall : isAll (strip value) = true
  · left
    rw [if_pos hall] at h
    cases h
    exact ⟨hall, fun x => mem_expandCapDimAll⟩
  · right
    rw [if_neg hall] at h
    rw [Bool.not_eq_true] at hall
    obtain ⟨sub, hsub, h⟩ := bind_eq_ok.mp h
    cases sub with
    | none => exact .inr ⟨hall, expandCapDimAllSubtraction_eq_none hsub, h⟩
    | some axis' =>
      cases h
      exact .inl ⟨hall, expandCapDimAllSubtraction_eq_some hsub⟩

end Forms

/-- A plain value expands to its tokens. -/
theorem expandDimension_of_plain {value : String} {choices axis : List String}
    (hchoices : choiceTokens choices ≠ []) (hstrip : strip value = value)
    (hall : isAll value = false) (hsub : allSubtrahend value = none)
    (hcolon : splitOnce ':' value = none) (h : expandDimension value choices = .ok axis) :
    axis = if value = "" then [""] else csvTokens value := by
  unfold expandDimension expandDimensionAllForms expandAllSubtraction at h
  simp only [hstrip, hchoices, if_false, hall, hsub, hcolon, Bool.false_eq_true,
    Option.isSome_none] at h
  by_cases hv : value = ""
  · rw [if_pos hv] at h
    cases h
    rw [if_pos hv]
  · rw [if_neg hv] at h
    rw [if_neg hv]
    change expandCsvDimensionTokens value (choiceTokens choices) = .ok axis at h
    unfold expandCsvDimensionTokens at h
    dsimp only at h
    split at h
    · cases h
    · split at h
      · cases h
      · cases h
        rfl

/-! ### The version axis -/

theorem optionChoiceTokens_tlsVersion (capsByWrapper : Dict String Capabilities) :
    optionChoiceTokens capsByWrapper "tls_version" = ["1.2", "1.3"] := by
  have hget : (aggregateUnion capsByWrapper).get? "tls_version" = some ["1.2", "1.3"] := rfl
  rw [optionChoiceTokens, hget]
  decide

/-- An option that is a dimension with choices expands as a capability dimension. -/
theorem getDimensionMatrixValues_of_dimension {optionId : String}
    (hdim : optionId ∈ capabilityDimensions) (halpn : optionId ≠ "alpn") {tokens : List String}
    (htokens : tokens ≠ []) {args : Args} {wrappers : List String}
    {cache : Dict String Capabilities} {mode : Option TlsMode} :
    getDimensionMatrixValues optionId tokens args wrappers cache mode
      = expandCapabilityDimension (args.getattrText optionId) (capabilityDimensionName optionId)
          wrappers cache tokens (if optionId = "cipher_suite" then mode else none) := by
  unfold getDimensionMatrixValues
  dsimp only
  rw [if_pos ⟨hdim, htokens⟩, if_neg halpn]

/-- The version axis holds the requested versions. -/
theorem planAxis_tlsVersion (hinp : planInputs repo args known = .ok inp)
    (hplan : matrixAxisPlan repo args known = .ok plan) (v : String) :
    v ∈ planAxis plan "tls_version" ↔ v ∈ requestedVersions inp args := by
  have htokens : choiceTokens ["1.2", "1.3"] = ["1.2", "1.3"] := by decide
  have haxis := planAxis_eq_ok hinp hplan (by decide : "tls_version" ∈ axisOptionIds)
  rw [optionChoiceTokens_tlsVersion] at haxis
  rw [getDimensionMatrixValues_of_dimension (by decide) (by decide) (by decide)] at haxis
  have hname : capabilityDimensionName "tls_version" = "tls_version" := by decide
  rw [hname] at haxis
  have hcases := expandCapabilityDimension_cases (if_neg (by decide)) haxis
  rw [htokens] at hcases
  unfold requestedVersions
  dsimp only
  -- ALL, ALL without some, or tokens of their own
  rcases hcases with ⟨hall, hmem⟩ | ⟨hall, group, hgroup, hmem⟩ | ⟨hall, hgroup, htoks⟩
  · rw [hmem, if_pos hall]
    exact Iff.rfl
  · rw [hmem, hall, hgroup, if_neg Bool.false_ne_true, List.mem_filter, decide_eq_true_eq]
    exact Iff.rfl
  · rw [hall, hgroup, if_neg Bool.false_ne_true]
    dsimp only
    unfold expandCapDimTokens at htoks
    cases hcolon : splitOnce ':' (strip (args.getattrText "tls_version")) with
    -- a text with a colon is taken as it stands
    | some p =>
      rw [hcolon] at htoks
      have hval : [strip (args.getattrText "tls_version")] = planAxis plan "tls_version" :=
        Except.ok.inj htoks
      rw [← hval]
      simp
    | none =>
      rw [hcolon] at htoks
      -- any other text is expanded over the two versions
      have hplain : expandDimension (strip (args.getattrText "tls_version")) ["1.2", "1.3"]
          = .ok (planAxis plan "tls_version") := by
        cases hd : expandDimension (strip (args.getattrText "tls_version")) ["1.2", "1.3"] with
        | error e => rw [hd] at htoks; cases htoks
        | ok l => rw [hd] at htoks; cases htoks; rfl
      rw [expandDimension_of_plain (by decide) (strip_strip _) hall hgroup hcolon hplain]
      by_cases hv : strip (args.getattrText "tls_version") = "" <;> simp [hv]

/-! ### The cipher axis -/

theorem mem_cipherIds {caps : Capabilities} {m : TlsMode} {c : String} :
    c ∈ caps.cipherIds (some m) ↔ c ∈ (caps.cipherMap m).map Prod.fst ∧ c ≠ "" := by
  simp [Capabilities.cipherIds]

/-- The ids of a mode are among the ids of both. -/
theorem mem_cipherIds_none {caps : Capabilities} {m : TlsMode} {c : String}
    (h : c ∈ caps.cipherIds (some m)) : c ∈ caps.cipherIds none := by
  have hmap := (mem_cipherIds.mp h).1
  rw [Capabilities.cipherIds, mem_sortedSet, List.mem_append]
  cases m with
  | v12 => exact .inr hmap
  | v13 => exact .inl hmap

theorem PlanInputs.mem_ids {m : TlsMode} {c : String} :
    c ∈ inp.ids m ↔ ∃ w ∈ inp.wrappers, c ∈ (capsOf inp.cache w).cipherIds (some m) := by
  rw [PlanInputs.ids, unionCipherSuiteIdsForWrappers, mem_sortedSet, List.mem_flatMap]

theorem PlanInputs.ne_empty_of_mem_ids {m : TlsMode} {c : String} (h : c ∈ inp.ids m) :
    c ≠ "" := by
  obtain ⟨w, -, hc⟩ := PlanInputs.mem_ids.mp h
  exact (mem_cipherIds.mp hc).2

/-- A listed id is supported. -/
theorem PlanInputs.supports_of_mem_ids {m : TlsMode} {c : String} (h : c ∈ inp.ids m) :
    inp.Supports c m := by
  obtain ⟨w, hw, hc⟩ := PlanInputs.mem_ids.mp h
  refine ⟨w, hw, ?_⟩
  rw [Capabilities.supportsCipher, Capabilities.listsCipher, Bool.or_eq_true]
  exact .inr (Dict.get?_isSome_iff.mpr (mem_cipherIds.mp hc).1)

/-- The ids of a document are offered, as far as they are not blank. -/
theorem mem_offeredCiphers {name : String} {caps : Capabilities}
    (hcaps : (name, caps) ∈ inp.catalog) {c : String} (hc : c ∈ caps.cipherIds none)
    (hstrip : strip c = c) (hne : c ≠ "") : c ∈ inp.offeredCiphers := by
  have hget : (aggregateUnion inp.catalog).get? "cipher_suite"
      = some (sortedSet ((inp.catalog.map Prod.snd).flatMap fun c => c.cipherIds none)) := rfl
  rw [PlanInputs.offeredCiphers, optionChoiceTokens, hget, Option.getD_some, choiceTokens,
    List.mem_filter, List.mem_map]
  refine ⟨⟨c, ?_, hstrip⟩, by simpa using hne⟩
  rw [mem_sortedSet, List.mem_flatMap]
  exact ⟨caps, List.mem_map.mpr ⟨_, hcaps, rfl⟩, hc⟩

/-- What `ALL` ciphers stand for, under a filter and without one. -/
theorem mem_dimensionChoices_cipherSuite {tokens : List String} {filter : Option TlsMode}
    {c : String} :
    c ∈ dimensionChoices "cipher_suite" inp.wrappers inp.cache tokens filter ↔
      match filter with
      | some m => if inp.ids m = [] then c ∈ tokens else c ∈ inp.ids m
      | none => if (inp.wrappers.flatMap fun w => (capsOf inp.cache w).cipherIds none) = [] then
          c ∈ tokens
        else ∃ w ∈ inp.wrappers, c ∈ (capsOf inp.cache w).cipherIds none := by
  cases filter with
  | some m =>
    have hkeys : unionCapabilityKeys "cipher_suite" inp.wrappers inp.cache (some m) = inp.ids m := by
      simp [unionCapabilityKeys, PlanInputs.ids]
    unfold dimensionChoices
    rw [hkeys]
    by_cases h : inp.ids m = [] <;> simp [h]
  | none =>
    have hkeys : unionCapabilityKeys "cipher_suite" inp.wrappers inp.cache none
        = inp.wrappers.flatMap fun w => (capsOf inp.cache w).cipherIds none := by
      simp [unionCapabilityKeys, Capabilities.dimensionKeys]
    unfold dimensionChoices
    rw [hkeys]
    by_cases h : (inp.wrappers.flatMap fun w => (capsOf inp.cache w).cipherIds none) = []
    · simp only [h, if_true, ne_eq, not_true_eq_false, if_false]
    · simp only [h, if_false, ne_eq, not_false_eq_true, if_true, List.mem_flatMap]

/-- The cipher axis of `ALL`. -/
theorem planAxis_cipherSuite_of_isAll (hinp : planInputs repo args known = .ok inp)
    (hplan : matrixAxisPlan repo args known = .ok plan)
    (hall : isAll (strip (args.getattrText "cipher_suite")) = true) (c : String) :
    c ∈ planAxis plan "cipher_suite" ↔
      if inp.offeredCiphers = [] then c = args.getattrText "cipher_suite"
      else c ∈ dimensionChoices "cipher_suite" inp.wrappers inp.cache inp.offeredCiphers
        (tlsModeFilterFromArgs args) := by
  have haxis := planAxis_eq_ok hinp hplan (by decide : "cipher_suite" ∈ axisOptionIds)
  change getDimensionMatrixValues "cipher_suite" inp.offeredCiphers _ _ _ _ = _ at haxis
  by_cases hoff : inp.offeredCiphers = []
  · rw [hoff] at haxis
    have hraw : [args.getattrText "cipher_suite"] = planAxis plan "cipher_suite" :=
      Except.ok.inj haxis
    rw [if_pos hoff, ← hraw, List.mem_singleton]
  · rw [if_neg hoff]
    rw [getDimensionMatrixValues_of_dimension (by decide) (by decide) hoff, if_pos rfl] at haxis
    have hname : capabilityDimensionName "cipher_suite" = "cipher_suite" := by decide
    rw [hname] at haxis
    have htokens : choiceTokens inp.offeredCiphers = inp.offeredCiphers :=
      choiceTokens_choiceTokens _
    rcases expandCapabilityDimension_cases (if_pos rfl) haxis with
      ⟨-, hmem⟩ | ⟨hnot, -⟩ | ⟨hnot, -⟩
    · rw [hmem, htokens]
    · rw [hall] at hnot; cases hnot
    · rw [hall] at hnot; cases hnot

theorem filterExpandedCipherSuite_of_blank (m : TlsMode) :
    filterExpandedCipherSuite [""] "" m inp.wrappers inp.cache
      = [defaultCipherForTlsMode m (inp.ids m)] := by
  have hnot : "" ∉ inp.ids m := fun h => PlanInputs.ne_empty_of_mem_ids h rfl
  unfold filterExpandedCipherSuite
  change (let filtered := [""].filter fun x => x ∈ inp.ids m
    if filtered ≠ [] then filtered
    else if "" = "" then [defaultCipherForTlsMode m (inp.ids m)] else _) = _
  simp [hnot]

/-- The cipher axis of a blank argument: no cipher, or the default of the filter's mode. -/
theorem planAxis_cipherSuite_of_blank (hinp : planInputs repo args known = .ok inp)
    (hplan : matrixAxisPlan repo args known = .ok plan)
    (hblank : strip (args.getattrText "cipher_suite") = "") :
    planAxis plan "cipher_suite"
      = if inp.offeredCiphers = [] then [args.getattrText "cipher_suite"]
        else match tlsModeFilterFromArgs args with
          | none => [""]
          | some m => [defaultCipherForTlsMode m (inp.ids m)] := by
  have haxis := planAxis_eq_ok hinp hplan (by decide : "cipher_suite" ∈ axisOptionIds)
  change getDimensionMatrixValues "cipher_suite" inp.offeredCiphers _ _ _ _ = _ at haxis
  by_cases hoff : inp.offeredCiphers = []
  · rw [hoff] at haxis
    rw [if_pos hoff]
    exact (Except.ok.inj haxis).symm
  · rw [if_neg hoff]
    rw [getDimensionMatrixValues_of_dimension (by decide) (by decide) hoff, if_pos rfl] at haxis
    have hname : capabilityDimensionName "cipher_suite" = "cipher_suite" := by decide
    rw [hname] at haxis
    -- a blank argument is no form of ALL, so that the filter gives its default
    rcases expandCapabilityDimension_cases (if_pos rfl) haxis with
      ⟨hall, -⟩ | ⟨-, group, hgroup, -⟩ | ⟨-, -, htoks⟩
    · rw [hblank] at hall; cases hall
    · rw [hblank, allSubtrahend_empty] at hgroup; cases hgroup
    · unfold expandCapDimTokens at htoks
      rw [hblank, splitOnce_empty, expandDimension_of_blank strip_empty] at htoks
      cases hfilter : tlsModeFilterFromArgs args with
      | none =>
        rw [hfilter] at htoks
        exact (Except.ok.inj htoks).symm
      | some m =>
        rw [hfilter] at htoks
        change planAxis plan "cipher_suite" = [defaultCipherForTlsMode m (inp.ids m)]
        rw [← filterExpandedCipherSuite_of_blank m]
        exact (Except.ok.inj htoks).symm

/-! ### Coverage -/

theorem defaultCipher_mem {m : TlsMode} {allowed : List String} (h : allowed ≠ []) :
    defaultCipherForTlsMode m allowed ∈ allowed := by
  unfold defaultCipherForTlsMode
  dsimp only
  split
  · next hp => exact hp.2
  · have hne : sortedSet allowed ≠ [] := fun he => h (sortedSet_eq_nil_iff.mp he)
    obtain ⟨x, xs, hx⟩ := List.exists_cons_of_ne_nil hne
    rw [hx, List.head?_cons, Option.getD_some, ← mem_sortedSet, hx]
    exact List.mem_cons_self

theorem all_ciphers_covered_iff (hinp : planInputs repo args known = .ok inp)
    (hplan : matrixAxisPlan repo args known = .ok plan)
    (hall : isAll (strip (args.getattrText "cipher_suite")) = true) :
    (∀ v ∈ planAxis plan "tls_version", ∀ m' ∈ versionModes v, ∀ c ∈ inp.ids m',
        c ∈ planAxis plan "cipher_suite") ↔ AllCiphersCovered inp args := by
  unfold AllCiphersCovered
  simp only [planAxis_tlsVersion hinp hplan, planAxis_cipherSuite_of_isAll hinp hplan hall]
  refine forall₂_congr fun v _ => forall₂_congr fun m' _ => ?_
  by_cases hoff : inp.offeredCiphers = []
  · simp only [hoff, if_true]
  · simp only [hoff, if_false, mem_dimensionChoices_cipherSuite]
    cases hfilter : tlsModeFilterFromArgs args with
    | none =>
      -- no filter: every id of either mode is on the axis
      refine iff_of_true (fun c hc => ?_) (by simp)
      obtain ⟨w, hw, hcw⟩ := PlanInputs.mem_ids.mp hc
      have hmem : c ∈ inp.wrappers.flatMap fun w => (capsOf inp.cache w).cipherIds none :=
        List.mem_flatMap.mpr ⟨w, hw, mem_cipherIds_none hcw⟩
      rw [if_neg (List.ne_nil_of_mem hmem)]
      exact List.mem_flatMap.mp hmem
    | some m =>
      simp only [Option.some.injEq, forall_eq']
      by_cases hids : inp.ids m = []
      · simp only [hids, if_true, List.not_mem_nil, true_and]
        constructor
        · exact fun h _ => .inr h
        · intro h c hc
          by_cases hm : m' = m
          · rw [hm, hids] at hc; cases hc
          · rcases h hm with h | h
            · exact absurd hc (h c)
            · exact h c hc
      · simp only [hids, if_false, false_and, or_false]
        constructor
        · exact fun h _ => h
        · intro h c hc
          by_cases hm : m' = m
          · exact hm ▸ hc
          · exact h hm c hc

theorem default_cipher_covers_iff (hinp : planInputs repo args known = .ok inp)
    (hplan : matrixAxisPlan repo args known = .ok plan)
    (hblank : strip (args.getattrText "cipher_suite") = "") :
    (∀ v ∈ planAxis plan "tls_version", ∀ m' ∈ versionModes v, inp.ids m' ≠ [] →
        (∃ c ∈ planAxis plan "cipher_suite", c ≠ "" ∧ inp.Supports c m') ∨
          ∀ c ∈ planAxis plan "cipher_suite", strip c = "") ↔ DefaultCipherCovers inp args := by
  unfold DefaultCipherCovers
  simp only [planAxis_tlsVersion hinp hplan, planAxis_cipherSuite_of_blank hinp hplan hblank]
  by_cases hoff : inp.offeredCiphers = []
  · simp [hoff, hblank]
  · simp only [hoff, if_false, ne_eq, not_false_eq_true, true_implies]
    cases hfilter : tlsModeFilterFromArgs args with
    | none => simp
    | some m =>
      simp only [Option.some.injEq, forall_eq', List.mem_singleton, exists_eq_left, forall_eq]
      refine forall₂_congr fun v _ => forall₂_congr fun m' _ => ?_
      constructor
      · rintro h - hids
        rcases h hids with ⟨-, hsup⟩ | hempty
        · exact .inr hsup
        · exact .inl hempty
      · intro h hids
        by_cases hm : m' = m
        · subst hm
          have hmem : defaultCipherForTlsMode m' (inp.ids m') ∈ inp.ids m' := defaultCipher_mem hids
          exact .inl ⟨PlanInputs.ne_empty_of_mem_ids hmem, PlanInputs.supports_of_mem_ids hmem⟩
        · rcases h hm hids with hempty | hsup
          · exact .inr hempty
          · by_cases hd : defaultCipherForTlsMode m (inp.ids m) = ""
            · exact .inr (by rw [hd]; rfl)
            · exact .inl ⟨hd, hsup⟩

/-- **The cipher axis covers every requested version** exactly when the filter
loses nothing: with `ALL` ciphers no id of another mode, and with no cipher no
mode the default does not serve.  The filter is a single mode, read off the version
argument as a whole, while the axis of the versions may hold versions of both. -/
theorem cipher_axis_covers_iff (hinp : planInputs repo args known = .ok inp)
    (hplan : matrixAxisPlan repo args known = .ok plan) :
    (isAll (strip (args.getattrText "cipher_suite")) = true →
      ((∀ v ∈ planAxis plan "tls_version", ∀ m' ∈ versionModes v, ∀ c ∈ inp.ids m',
          c ∈ planAxis plan "cipher_suite") ↔ AllCiphersCovered inp args)) ∧
    (strip (args.getattrText "cipher_suite") = "" →
      ((∀ v ∈ planAxis plan "tls_version", ∀ m' ∈ versionModes v, inp.ids m' ≠ [] →
          (∃ c ∈ planAxis plan "cipher_suite", c ≠ "" ∧ inp.Supports c m') ∨
            ∀ c ∈ planAxis plan "cipher_suite", strip c = "") ↔ DefaultCipherCovers inp args)) :=
  ⟨all_ciphers_covered_iff hinp hplan, default_cipher_covers_iff hinp hplan⟩

end

/-! ### `ALL` versions -/

/-- A command line with `--cipher-suite ALL` and a version. -/
def allCiphersArgs (version : String) : Args where
  attrs := (defaultArgs.attrs.set "cipher_suite" (.str "ALL")).set "tls_version" (.str version)
  suiteCases := none

/-- What the plan of such a command line is computed from. -/
def opensslInputs : PlanInputs := ⟨shippedCapsCache, shippedCapsCache, ["openssl"]⟩

theorem mem_offeredCiphers_openssl : "aes-128-gcm" ∈ opensslInputs.offeredCiphers := by
  have hids : "aes-128-gcm" ∈ opensslCapabilities.cipherIds (some .v13) :=
    mem_cipherIds.mpr ⟨by decide, by decide⟩
  have hdoc : ("openssl", opensslCapabilities) ∈ opensslInputs.catalog :=
    .tail _ (.tail _ (.head _))
  exact mem_offeredCiphers hdoc (mem_cipherIds_none hids) (by decide) (by decide)

theorem getDimensionMatrixValues_of_isAll {args : Args} {optionId : String}
    (hdim : optionId ∈ capabilityDimensions) (halpn : optionId ≠ "alpn")
    (hall : isAll (strip (args.getattrText optionId)) = true) (tokens wrappers : List String)
    (cache : Dict String Capabilities) (mode : Option TlsMode) :
    ∃ vals, getDimensionMatrixValues optionId tokens args wrappers cache mode = .ok vals := by
  by_cases htokens : tokens = []
  · subst htokens
    exact ⟨[args.getattrText optionId], by simp [getDimensionMatrixValues]⟩
  · rw [getDimensionMatrixValues_of_dimension hdim halpn htokens, expandCapabilityDimension,
      if_pos hall]
    exact ⟨_, rfl⟩

theorem allCiphersArgs_cipherSuite (version : String) :
    (allCiphersArgs version).getattrText "cipher_suite" = "ALL" := rfl

/-- The options such a command line leaves blank. -/
theorem allCiphersArgs_blank (version : String) {o : String}
    (ho : o ∈ ["alpn", "signature_schemes", "supported_groups"]) :
    (allCiphersArgs version).getattrText o = "" := by
  simp only [List.mem_cons, List.not_mem_nil, or_false] at ho
  rcases ho with rfl | rfl | rfl <;> rfl

theorem planInputs_allCiphers (version : String) :
    planInputs (shippedRepo "/repo" noCerts) (allCiphersArgs version) ["gnutls", "nss", "openssl"]
      = .ok opensslInputs := by
  have hroles : (allCiphersArgs version).getattrText "server" = "openssl" ∧
      (allCiphersArgs version).getattrText "client" = "openssl" := ⟨rfl, rfl⟩
  have hexp : expandDimension "openssl" (sortedSet ["gnutls", "nss", "openssl"])
      = .ok ["openssl"] := by
    decide
  have hwrappers : sortedSet (["openssl"] ++ ["openssl"]) = ["openssl"] := by decide
  unfold planInputs
  rw [capsCache_shippedRepo, discoverWrapperIds_shippedRepo, capsCache_shippedRepo, hroles.1,
    hroles.2, hexp]
  change Except.ok (PlanInputs.mk _ _ (sortedSet (["openssl"] ++ ["openssl"]))) = _
  rw [hwrappers]
  rfl

/-- The plan of such a command line, when its version expands. -/
theorem matrixAxisPlan_allCiphers {version : String}
    (hversion : ∃ vals, getDimensionMatrixValues "tls_version"
      (optionChoiceTokens shippedCapsCache "tls_version") (allCiphersArgs version) ["openssl"]
      shippedCapsCache (tlsModeFilterFromArgs (allCiphersArgs version)) = .ok vals) :
    ∃ plan, matrixAxisPlan (shippedRepo "/repo" noCerts) (allCiphersArgs version)
      ["gnutls", "nss", "openssl"] = .ok plan := by
  have hcatalog : capsCache (shippedRepo "/repo" noCerts)
      (shippedRepo "/repo" noCerts).discoverWrapperIds = .ok shippedCapsCache := by
    rw [discoverWrapperIds_shippedRepo]
    exact capsCache_shippedRepo
  have hexp : expandDimension "openssl" (sortedSet ["gnutls", "nss", "openssl"])
      = .ok ["openssl"] := by
    decide
  have hwrappers : sortedSet (["openssl"] ++ ["openssl"]) = ["openssl"] := by decide
  have hopts : ∀ o ∈ axisOptionIds, ∃ vals,
      getDimensionMatrixValues o (optionChoiceTokens shippedCapsCache o) (allCiphersArgs version)
        (sortedSet (["openssl"] ++ ["openssl"])) shippedCapsCache
        (tlsModeFilterFromArgs (allCiphersArgs version)) = .ok vals := by
    intro o ho
    rw [hwrappers]
    have hids : ∀ o ∈ axisOptionIds, o = "tls_version" ∨ o = "cipher_suite" ∨
        o ∈ ["alpn", "signature_schemes", "supported_groups"] := by decide
    -- every other option is left blank
    rcases hids o ho with rfl | rfl | hblank
    · exact hversion
    · refine getDimensionMatrixValues_of_isAll (by decide) (by decide) ?_ _ _ _ _
      rw [allCiphersArgs_cipherSuite]
      decide
    · refine getDimensionMatrixValues_of_blank ?_ _ _ _ _
      rw [allCiphersArgs_blank version hblank, strip_empty]
  obtain ⟨vals, hplan⟩ := matrixAxisPlan_eq_ok capsCache_shippedRepo hcatalog
    (by exact hexp) (by exact hexp) hopts
  exact ⟨_, hplan⟩

/-- One version and `ALL` ciphers: the axis holds every cipher of TLS 1.3. -/
theorem tls13_covers_all_ciphers :
    ∃ plan, matrixAxisPlan (shippedRepo "/repo" noCerts) (allCiphersArgs "1.3")
        ["gnutls", "nss", "openssl"] = .ok plan ∧
      ∀ v ∈ planAxis plan "tls_version", ∀ m' ∈ versionModes v, ∀ c ∈ opensslInputs.ids m',
        c ∈ planAxis plan "cipher_suite" := by
  obtain ⟨plan, hplan⟩ : ∃ plan, matrixAxisPlan (shippedRepo "/repo" noCerts)
      (allCiphersArgs "1.3") ["gnutls", "nss", "openssl"] = .ok plan :=
    matrixAxisPlan_allCiphers ⟨["1.3"], by decide⟩
  refine ⟨plan, hplan, ((cipher_axis_covers_iff (planInputs_allCiphers "1.3") hplan).1
    (by decide)).mpr ?_⟩
  have hmodes : ∀ v ∈ requestedVersions opensslInputs (allCiphersArgs "1.3"),
      versionModes v = {.v13} := by
    decide
  have hfilter : tlsModeFilterFromArgs (allCiphersArgs "1.3") = some .v13 := by decide
  intro v hv m' hm'
  rw [hmodes v hv, Finset.mem_singleton] at hm'
  rw [if_neg (List.ne_nil_of_mem mem_offeredCiphers_openssl), hfilter]
  rintro m hm hne
  cases hm
  exact absurd hm' hne

/-- `ALL` versions and `ALL` ciphers: the filter is TLS 1.3, and the TLS 1.2
ciphers are not on the axis although TLS 1.2 is. -/
theorem all_versions_lose_tls12_ciphers :
    ∃ plan, matrixAxisPlan (shippedRepo "/repo" noCerts) (allCiphersArgs "ALL")
        ["gnutls", "nss", "openssl"] = .ok plan ∧
      planInputs (shippedRepo "/repo" noCerts) (allCiphersArgs "ALL") ["gnutls", "nss", "openssl"]
        = .ok opensslInputs ∧
      isAll (strip ((allCiphersArgs "ALL").getattrText "cipher_suite")) = true ∧
      "1.2" ∈ planAxis plan "tls_version" ∧ .v12 ∈ versionModes "1.2" ∧
      "rsa-aes-128-gcm-sha256" ∈ opensslInputs.ids .v12 ∧
      "rsa-aes-128-gcm-sha256" ∉ planAxis plan "cipher_suite" := by
  obtain ⟨plan, hplan⟩ : ∃ plan, matrixAxisPlan (shippedRepo "/repo" noCerts)
      (allCiphersArgs "ALL") ["gnutls", "nss", "openssl"] = .ok plan :=
    matrixAxisPlan_allCiphers
      (getDimensionMatrixValues_of_isAll (by decide) (by decide) (by decide) _ _ _ _)
  have hinp := planInputs_allCiphers "ALL"
  have hall : isAll (strip ((allCiphersArgs "ALL").getattrText "cipher_suite")) = true := by
    decide
  have hids : ∀ m c, c ∈ opensslInputs.ids m ↔ c ∈ (opensslCapabilities.cipherMap m).map Prod.fst
      ∧ c ≠ "" := by
    intro m c
    rw [PlanInputs.mem_ids]
    simp only [opensslInputs, List.mem_singleton, exists_eq_left]
    exact mem_cipherIds
  have hfilter : tlsModeFilterFromArgs (allCiphersArgs "ALL") = some .v13 := by decide
  have h13 : "aes-128-gcm" ∈ opensslInputs.ids .v13 :=
    (hids _ _).mpr ⟨by decide, by decide⟩
  refine ⟨plan, hplan, hinp, hall, ?_, by decide, ?_, ?_⟩
  · rw [planAxis_tlsVersion hinp hplan]
    decide
  · exact (hids _ _).mpr ⟨by decide, by decide⟩
  · rw [planAxis_cipherSuite_of_isAll hinp hplan hall, if_neg (List.ne_nil_of_mem mem_offeredCiphers_openssl), hfilter,
      mem_dimensionChoices_cipherSuite]
    dsimp only
    rw [if_neg (List.ne_nil_of_mem h13), hids]
    decide

end TlsInterop
