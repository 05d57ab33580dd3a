import TlsInterop.Core.Args

/-!
# Axis expansion and cell normalisation

The model of `core/matrix.py`: how an option's value is expanded into the
values of its axis, and how a cell is completed before it is checked and run.

## Main definitions

* `expandDimension`, `expandCapabilityDimension` — the expansion of a value.
* `tlsModeFilterFromArgs` — the mode the cipher axis is filtered by.
* `effectiveCellTlsMode`, `applyImplicitTlsVersion`,
  `normalizeCellTlsMicroParams` — the normaliser.
* `matrixAxisPlan` — the axes of a run and their values.
-/

namespace TlsInterop

open Py

/-! ### The cipher catalog of a set of wrappers -/

/-- `caps_by_wrapper.get(wrapper_id, {})`. -/
def capsOf (capsByWrapper : Dict String Capabilities) (wrapperId : String) : Capabilities :=
  (capsByWrapper.get? wrapperId).getD []

/-- `union_cipher_suite_ids_for_wrappers`. -/
def unionCipherSuiteIdsForWrappers (capsByWrapper : Dict String Capabilities)
    (wrapperIds : List String) (mode : Option TlsMode) : List String :=
  sortedSet (wrapperIds.flatMap fun w => (capsOf capsByWrapper w).cipherIds mode)

/-- `default_cipher_for_tls_mode`. -/
def defaultCipherForTlsMode (mode : TlsMode) (allowed : List String) : String :=
  let preferred := defaultCipherByTlsMode mode
  if preferred ≠ "" ∧ preferred ∈ allowed then preferred
  else ((sortedSet allowed).head?).getD ""

/-- `tls_mode_filter_from_args`. -/
def tlsModeFilterFromArgs (args : Args) : Option TlsMode :=
  let rawVersion := strip (args.getattrText "tls_version")
  if rawVersion = "" then none
  else match splitOnce ':' rawVersion with
    | some _ =>
      let (left, right) := parseAsymmetric rawVersion
      if left ≠ "" ∧ right ≠ "" ∧ tlsModeFromVersion left = tlsModeFromVersion right then
        some (tlsModeFromVersion left)
      else none
    | none => some (tlsModeFromVersion rawVersion)

/-! ### The `ALL` forms -/

/-- What follows a leading `ALL`, in any letter case. -/
def afterAll : List Char → Option (List Char)
  | a :: b :: c :: l =>
    if (a = 'A' ∨ a = 'a') ∧ (b = 'L' ∨ b = 'l') ∧ (c = 'L' ∨ c = 'l') then some l else none
  | _ => none

/-- `(?is)^ALL` matches. -/
def startsWithAll (value : String) : Bool := (afterAll value.toList).isSome

/-- `(?is)^ALL\s*$` matches. -/
def isAll (value : String) : Bool := (afterAll value.toList).any fun l => l.all isSpace

/-- The group of `(?is)^ALL\s*[\\-]\s*(.+)$`.  After the sign the whitespace is
greedy, and gives one character back when nothing else is left for the group. -/
def allSubtrahend (value : String) : Option String :=
  match (afterAll value.toList).map (List.dropWhile isSpace) with
  | some (c :: l) =>
    if c = '\\' ∨ c = '-' then
      match l.dropWhile isSpace with
      | [] => l.getLast?.map fun d => String.ofList [d]
      | rest => some (String.ofList rest)
    else none
  | _ => none

/-- `{x.strip() for x in group.split(",") if x.strip()}`. -/
def exclusionsOf (group : String) : List String := csvTokens group

/-! ### Plain dimensions -/

/-- The error of an `ALL` form that excludes everything. -/
def emptySetError (value : String) : PyExc :=
  ⟨.valueError, "ALL minus exclusions leaves empty set: " ++ reprStr value⟩

/-- `_expand_all_subtraction`. -/
def expandAllSubtraction (value : String) (baseChoices : List String) :
    Except PyExc (Option (List String)) :=
  match allSubtrahend value with
  | none => .ok none
  | some group =>
    let output := baseChoices.filter fun x => x ∉ exclusionsOf group
    if output = [] then .error (emptySetError value) else .ok (some output)

/-- `_expand_csv_dimension_tokens`. -/
def expandCsvDimensionTokens (val : String) (baseChoices : List String) :
    Except PyExc (List String) :=
  let parts := csvTokens val
  if parts = [] then .error ⟨.valueError, "Empty dimension value: " ++ reprStr val⟩
  else
    let invalidParts := parts.filter fun p => p ∉ baseChoices
    if invalidParts ≠ [] then
      .error ⟨.valueError, "Unknown value(s) [" ++ String.intercalate ", " (invalidParts.map reprStr)
        ++ "]; known:\n" ++ String.intercalate "\n" (sortedSet baseChoices)⟩
    else .ok parts

/-- `_expand_dimension_all_forms`. -/
def expandDimensionAllForms (val : String) (baseChoices : List String) :
    Except PyExc (Option (List String)) :=
  if isAll val then .ok (some baseChoices) else expandAllSubtraction val baseChoices

/-- `[str(c).strip() for c in choices if c and str(c).strip()]`. -/
def choiceTokens (choices : List String) : List String := (choices.map strip).filter (· ≠ "")

theorem choiceTokens_choiceTokens (l : List String) :
    choiceTokens (choiceTokens l) = choiceTokens l := by
  have hmap : (choiceTokens l).map strip = choiceTokens l := by
    rw [← List.map_id (choiceTokens l), List.map_map]
    refine List.map_congr_left fun c hc => ?_
    obtain ⟨d, -, rfl⟩ := List.mem_map.mp (List.mem_filter.mp hc).1
    exact strip_strip d
  rw [choiceTokens, hmap, List.filter_eq_self]
  exact fun c hc => (List.mem_filter.mp hc).2

/-- `expand_dimension`. -/
def expandDimension (value : String) (choices : List String) : Except PyExc (List String) := do
  let baseChoices := choiceTokens choices
  let val := strip value
  if baseChoices = [] then return [val]
  if val = "" then return [""]
  match ← expandDimensionAllForms val baseChoices with
  | some special => return special
  | none =>
    if (splitOnce ':' val).isSome then return [val]
    expandCsvDimensionTokens val baseChoices

/-! ### Capability dimensions -/

/-- `_union_capability_keys`. -/
def unionCapabilityKeys (dimension : String) (wrapperIds : List String)
    (capsByWrapper : Dict String Capabilities) (cipherMode : Option TlsMode) : List String :=
  if dimension = "cipher_suite" ∧ cipherMode ≠ none then
    unionCipherSuiteIdsForWrappers capsByWrapper wrapperIds cipherMode
  else
    wrapperIds.flatMap fun w => (capsOf capsByWrapper w).dimensionKeys dimension cipherMode

/-- `_expand_cap_dim_all_subtraction`. -/
def expandCapDimAllSubtraction (value dimension : String) (wrapperIds : List String)
    (capsByWrapper : Dict String Capabilities) (catalogTokens : List String)
    (cipherMode : Option TlsMode) : Except PyExc (Option (List String)) :=
  match allSubtrahend value with
  | none => .ok none
  | some group =>
    let own := unionCapabilityKeys dimension wrapperIds capsByWrapper cipherMode
    let keys := if own = [] then catalogTokens else own
    let output := sortedSet (keys.filter fun k => k ∉ exclusionsOf group)
    if output = [] then .error (emptySetError value) else .ok (some output)

/-- `_filter_expanded_cipher_suite`. -/
def filterExpandedCipherSuite (expanded : List String) (val : String) (cipherMode : TlsMode)
    (wrapperIds : List String) (capsByWrapper : Dict String Capabilities) : List String :=
  let allowed := unionCipherSuiteIdsForWrappers capsByWrapper wrapperIds (some cipherMode)
  let filtered := expanded.filter fun x => x ∈ allowed
  if filtered ≠ [] then filtered
  else if val = "" then [defaultCipherForTlsMode cipherMode allowed]
  else if !startsWithAll val then (if expanded ≠ [] then expanded else [val])
  else []

/-- `_expand_cap_dim_all`. -/
def expandCapDimAll (dimension : String) (wrapperIds : List String)
    (capsByWrapper : Dict String Capabilities) (catalogTokens : List String)
    (cipherMode : Option TlsMode) : List String :=
  let keys := unionCapabilityKeys dimension wrapperIds capsByWrapper cipherMode
  if keys ≠ [] then sortedSet keys else catalogTokens

/-- `_expand_cap_dim_tokens`. -/
def expandCapDimTokens (val dimension : String) (wrapperIds : List String)
    (capsByWrapper : Dict String Capabilities) (catalogTokens : List String)
    (cipherMode : Option TlsMode) : Except PyExc (List String) := do
  if (splitOnce ':' val).isSome then return [val]
  let expanded ← expandDimension val catalogTokens
  match cipherMode with
  | some mode =>
    if dimension = "cipher_suite" then
      return filterExpandedCipherSuite expanded val mode wrapperIds capsByWrapper
    return expanded
  | none => return expanded

/-- `expand_capability_dimension`. -/
def expandCapabilityDimension (value dimension : String) (wrapperIds : List String)
    (capsByWrapper : Dict String Capabilities) (catalogChoices : List String)
    (tlsMode : Option TlsMode) : Except PyExc (List String) := do
  let val := strip value
  let catalogTokens := choiceTokens catalogChoices
  let cipherMode := if dimension = "cipher_suite" then tlsMode else none
  if isAll val then
    return expandCapDimAll dimension wrapperIds capsByWrapper catalogTokens cipherMode
  match ← expandCapDimAllSubtraction val dimension wrapperIds capsByWrapper catalogTokens
      cipherMode with
  | some subtracted => return subtracted
  | none => expandCapDimTokens val dimension wrapperIds capsByWrapper catalogTokens cipherMode

/-- `expand_alpn_matrix_axis`. -/
def expandAlpnMatrixAxis (value : String) (wrapperIds : List String)
    (capsByWrapper : Dict String Capabilities) (catalogChoices : List String) :
    Except PyExc (List String) := do
  let val := strip value
  if val = "" then return [""]
  let tokens ← expandCapabilityDimension val "alpn_protocols" wrapperIds capsByWrapper
    catalogChoices none
  if (splitOnce ':' val).isSome then return tokens
  if tokens = [] ∨ tokens = [""] then return [""]
  return tokens.flatMap fun srv => tokens.map fun cli => srv ++ ":" ++ cli

/-! ### Normalising a cell -/

/-- `load_role_capabilities`. -/
def loadRoleCapabilities (repo : Repo) (server client : String) :
    Option (Capabilities × Capabilities) :=
  let load (name : String) : Option Capabilities :=
    if name = "" then some [] else (repo.loadBackendCapabilities name).toOption
  (load server).bind fun srvCaps => (load client).map fun cliCaps => (srvCaps, cliCaps)

/-- Two backends that load give their documents to the normaliser. -/
theorem loadRoleCapabilities_eq_some {repo : Repo} {server client : String}
    {srvCaps cliCaps : Capabilities} (hs : repo.loadBackendCapabilities server = .ok srvCaps)
    (hc : repo.loadBackendCapabilities client = .ok cliCaps) :
    loadRoleCapabilities repo server client = some (srvCaps, cliCaps) := by
  simp [loadRoleCapabilities, Repo.ne_empty_of_load hs, Repo.ne_empty_of_load hc, hs, hc,
    Except.toOption]

/-- `cell_cipher_id`. -/
def cellCipherId (cell : Cell) (server : Bool) : String :=
  let cipherSuite := strip (cell.field "cipher_suite")
  match splitOnce ':' cipherSuite with
  | some (left, right) => strip (if server then left else right)
  | none => cipherSuite

/-- The modes of a cell's cipher on one side; none when the side has no cipher. -/
def cellCipherModes (cell : Cell) (server : Bool) (caps : Capabilities) : Finset TlsMode :=
  let cid := cellCipherId cell server
  if cid = "" then ∅ else caps.cipherModes cid

/-- `effective_cell_tls_mode`. -/
def effectiveCellTlsMode (cell : Cell) (srvCaps cliCaps : Capabilities) : TlsMode :=
  let tv := strip (cell.field "tls_version")
  let fromCiphers :=
    if cellCipherModes cell true srvCaps ∪ cellCipherModes cell false cliCaps = {.v12} then
      TlsMode.v12
    else .v13
  if tv = "" then fromCiphers
  else match splitOnce ':' tv with
    | none => tlsModeFromVersion tv
    | some _ =>
      let (left, _) := parseAsymmetric tv
      if left ≠ "" then tlsModeFromVersion left else fromCiphers

/-- `_implicit_tls_version_for_side`. -/
def implicitTlsVersionForSide (cell : Cell) (server : Bool) (caps : Capabilities) : String :=
  let modes := cellCipherModes cell server caps
  if modes = {.v13} then "1.3"
  else if modes = {.v12} then "1.2"
  else ""

/-- `_apply_implicit_tls_version`. -/
def applyImplicitTlsVersion (output : Cell) (srvCaps cliCaps : Capabilities) : Cell :=
  if strip (output.field "tls_version") ≠ "" then output
  else
    let srvVer := implicitTlsVersionForSide output true srvCaps
    let cliVer := implicitTlsVersionForSide output false cliCaps
    if srvVer = "" ∧ cliVer = "" then output
    else if srvVer ≠ "" ∧ cliVer ≠ "" ∧ srvVer ≠ cliVer then
      output.setField "tls_version" (srvVer ++ ":" ++ cliVer)
    else output.setField "tls_version" (if srvVer ≠ "" then srvVer else cliVer)

/-- `TLS13_ORTHOGONAL_DIMS`. -/
def tls13OrthogonalDims : List String := ["supported_groups", "signature_schemes"]

/-- `_clear_unset_tls13_orthogonal_dims`. -/
def clearUnsetTls13OrthogonalDims (output : Cell) (argsTemplate : Args) : Cell :=
  tls13OrthogonalDims.foldl (fun output dim =>
    if strip (argsTemplate.getattrText dim) = "" then output.setField dim "" else output) output

/-- The part of `normalize_cell_tls_micro_params` that runs once both roles'
documents are loaded. -/
def normalizeLoadedCell (output : Cell) (argsTemplate : Args) (srvCaps cliCaps : Capabilities) :
    Cell :=
  let output := applyImplicitTlsVersion output srvCaps cliCaps
  let feats := strip (argsTemplate.getattrText "test_features")
  let output :=
    if effectiveCellTlsMode output srvCaps cliCaps = .v12 then
      clearUnsetTls13OrthogonalDims output argsTemplate
    else output
  output.setField "test_features" feats

/-- `output["tls_port"] = str(port)` when the template names a port. -/
def overridePort (cell : Cell) (port : ℤ) : Cell :=
  if port ≠ 0 then cell.setField "tls_port" (toString port) else cell

/-- `normalize_cell_tls_micro_params`. -/
def normalizeCellTlsMicroParams (repo : Repo) (cell : Cell) (argsTemplate : Args) :
    Except PyExc Cell := do
  let port ← argsTemplate.getattrInt "tls_port"
  let output := overridePort cell port
  let server := lower (strip (cell.field "server"))
  let client := lower (strip (cell.field "client"))
  match loadRoleCapabilities repo server client with
  | none => return output
  | some (srvCaps, cliCaps) => return normalizeLoadedCell output argsTemplate srvCaps cliCaps

/-! ### What the normaliser changes -/

section Normalize

variable {cell cell' : Cell} {argsTemplate : Args} {srvCaps cliCaps : Capabilities}

theorem cellCipherId_congr (h : cell'.field "cipher_suite" = cell.field "cipher_suite")
    (server : Bool) : cellCipherId cell' server = cellCipherId cell server := by
  rw [cellCipherId, cellCipherId, h]

theorem cellCipherModes_congr (h : cell'.field "cipher_suite" = cell.field "cipher_suite")
    (server : Bool) (caps : Capabilities) :
    cellCipherModes cell' server caps = cellCipherModes cell server caps := by
  rw [cellCipherModes, cellCipherModes, cellCipherId_congr h]

/-- The mode of a cell depends on the version and the cipher fields only. -/
theorem effectiveCellTlsMode_congr (htv : cell'.field "tls_version" = cell.field "tls_version")
    (hcs : cell'.field "cipher_suite" = cell.field "cipher_suite") :
    effectiveCellTlsMode cell' srvCaps cliCaps = effectiveCellTlsMode cell srvCaps cliCaps := by
  simp only [effectiveCellTlsMode, htv, cellCipherModes_congr hcs]

theorem overridePort_get? {port : ℤ} (k : AxisKey) :
    (overridePort cell port).get? k
      = if k = .str "tls_port" ∧ port ≠ 0 then some (toString port) else cell.get? k := by
  unfold overridePort
  by_cases hp : port = 0
  · simp [hp]
  · simp [hp, eq_comm]

theorem overridePort_field {port : ℤ} {name : String} (h : name ≠ "tls_port") :
    (overridePort cell port).field name = cell.field name := by
  unfold overridePort
  split
  · simp [Ne.symm h]
  · rfl

/-- The version the implicit rule gives a cell: its own, or the one its ciphers settle. -/
def implicitTlsVersion (cell : Cell) (srvCaps cliCaps : Capabilities) : String :=
  let srvVer := implicitTlsVersionForSide cell true srvCaps
  let cliVer := implicitTlsVersionForSide cell false cliCaps
  if strip (cell.field "tls_version") ≠ "" ∨ (srvVer = "" ∧ cliVer = "") then
    cell.field "tls_version"
  else if srvVer ≠ "" ∧ cliVer ≠ "" ∧ srvVer ≠ cliVer then srvVer ++ ":" ++ cliVer
  else if srvVer ≠ "" then srvVer
  else cliVer

/-- The implicit rule writes the version field and nothing else. -/
theorem applyImplicitTlsVersion_get? (k : AxisKey) (h : k ≠ .str "tls_version") :
    (applyImplicitTlsVersion cell srvCaps cliCaps).get? k = cell.get? k := by
  unfold applyImplicitTlsVersion
  dsimp only
  split_ifs <;> simp [Ne.symm h]

theorem applyImplicitTlsVersion_field {name : String} (h : name ≠ "tls_version") :
    (applyImplicitTlsVersion cell srvCaps cliCaps).field name = cell.field name := by
  rw [Cell.field, Cell.field, applyImplicitTlsVersion_get? _ (by simpa using h)]

theorem implicitTlsVersionForSide_congr
    (h : cell'.field "cipher_suite" = cell.field "cipher_suite") (server : Bool)
    (caps : Capabilities) :
    implicitTlsVersionForSide cell' server caps = implicitTlsVersionForSide cell server caps := by
  rw [implicitTlsVersionForSide, implicitTlsVersionForSide, cellCipherModes_congr h]

/-- The implicit version depends on the version and the cipher fields only. -/
theorem implicitTlsVersion_congr (htv : cell'.field "tls_version" = cell.field "tls_version")
    (hcs : cell'.field "cipher_suite" = cell.field "cipher_suite") :
    implicitTlsVersion cell' srvCaps cliCaps = implicitTlsVersion cell srvCaps cliCaps := by
  rw [implicitTlsVersion, implicitTlsVersion, htv, implicitTlsVersionForSide_congr hcs,
    implicitTlsVersionForSide_congr hcs]

theorem applyImplicitTlsVersion_tlsVersion :
    (applyImplicitTlsVersion cell srvCaps cliCaps).field "tls_version"
      = implicitTlsVersion cell srvCaps cliCaps := by
  unfold applyImplicitTlsVersion implicitTlsVersion
  dsimp only
  split_ifs <;> simp_all

/-- Clearing the orthogonal dimensions writes those two fields and nothing else. -/
theorem clearUnsetTls13OrthogonalDims_get? (k : AxisKey) :
    (clearUnsetTls13OrthogonalDims cell argsTemplate).get? k
      = if ∃ dim ∈ tls13OrthogonalDims, k = .str dim ∧ strip (argsTemplate.getattrText dim) = ""
        then some "" else cell.get? k := by
  simp only [clearUnsetTls13OrthogonalDims, tls13OrthogonalDims, List.foldl_cons, List.foldl_nil,
    List.mem_cons, List.not_mem_nil, or_false, exists_eq_or_imp, exists_eq_left]
  by_cases h1 : strip (argsTemplate.getattrText "supported_groups") = "" <;>
    by_cases h2 : strip (argsTemplate.getattrText "signature_schemes") = "" <;>
    simp only [h1, h2, if_true, if_false, Cell.get?_setField, and_true, and_false, or_false,
      false_or, eq_comm (a := k)]
  split_ifs <;> simp_all

/-- What the normaliser leaves under a key, once both documents are loaded: the
features come from the template, the version from the implicit rule, and the
two orthogonal dimensions are cleared in a TLS 1.2 cell whose template leaves
them unset. -/
theorem normalizeLoadedCell_get? (k : AxisKey) :
    (normalizeLoadedCell cell argsTemplate srvCaps cliCaps).get? k
      = if k = .str "test_features" then some (strip (argsTemplate.getattrText "test_features"))
        else if effectiveCellTlsMode (applyImplicitTlsVersion cell srvCaps cliCaps) srvCaps cliCaps
            = .v12 ∧
          ∃ dim ∈ tls13OrthogonalDims, k = .str dim ∧ strip (argsTemplate.getattrText dim) = ""
        then some ""
        else (applyImplicitTlsVersion cell srvCaps cliCaps).get? k := by
  unfold normalizeLoadedCell
  dsimp only
  rw [Cell.get?_setField]
  by_cases hk : k = .str "test_features"
  · simp [hk]
  · rw [if_neg (Ne.symm hk), if_neg hk]
    by_cases hm : effectiveCellTlsMode (applyImplicitTlsVersion cell srvCaps cliCaps) srvCaps
        cliCaps = .v12
    · rw [if_pos hm, clearUnsetTls13OrthogonalDims_get?]
      simp only [hm, true_and]
    · rw [if_neg hm]
      simp only [hm, false_and, if_false]

theorem normalizeLoadedCell_field {name : String} (hname : name ≠ "test_features")
    (hdims : name ∉ tls13OrthogonalDims) :
    (normalizeLoadedCell cell argsTemplate srvCaps cliCaps).field name
      = (applyImplicitTlsVersion cell srvCaps cliCaps).field name := by
  rw [Cell.field, normalizeLoadedCell_get?, if_neg (by simpa using hname), if_neg, Cell.field]
  rintro ⟨-, dim, hdim, heq, -⟩
  cases heq
  exact hdims hdim

/-- The two roles' documents of a normalised cell, and the cell before the
implicit rule. -/
theorem normalizeCellTlsMicroParams_eq_ok {repo : Repo}
    (hs : repo.loadBackendCapabilities (lower (strip (cell.field "server"))) = .ok srvCaps)
    (hc : repo.loadBackendCapabilities (lower (strip (cell.field "client"))) = .ok cliCaps) :
    normalizeCellTlsMicroParams repo cell argsTemplate = .ok cell' ↔
      ∃ port, argsTemplate.getattrInt "tls_port" = .ok port ∧
        cell' = normalizeLoadedCell (overridePort cell port) argsTemplate srvCaps cliCaps := by
  unfold normalizeCellTlsMicroParams
  simp only [bind_eq_ok, loadRoleCapabilities_eq_some hs hc, pure, Except.pure, Except.ok.injEq,
    eq_comm (b := cell')]

/-- Normalising leaves the two roles of a cell. -/
theorem normalizeCellTlsMicroParams_role {repo : Repo}
    (h : normalizeCellTlsMicroParams repo cell argsTemplate = .ok cell') {name : String}
    (hname : name = "server" ∨ name = "client") : cell'.field name = cell.field name := by
  unfold normalizeCellTlsMicroParams at h
  obtain ⟨port, -, h⟩ := bind_eq_ok.mp h
  have hport : (overridePort cell port).field name = cell.field name :=
    overridePort_field (by rcases hname with rfl | rfl <;> decide)
  dsimp only at h
  split at h
  · rw [← Except.ok.inj h]
    exact hport
  · rw [← Except.ok.inj h, ← hport]
    rcases hname with rfl | rfl
    all_goals
      rw [normalizeLoadedCell_field (by decide) (by decide),
        applyImplicitTlsVersion_field (by decide)]

end Normalize

/-! ### The axes of a run -/

/-- The ids of `STATIC_CLI_OPTIONS`. -/
def staticCliOptions : List String :=
  ["cipher_suite", "tls_version", "tls_port", "supported_groups", "signature_schemes", "alpn",
    "test_features"]

/-- `CAPABILITY_DIMENSIONS`. -/
def capabilityDimensions : List String :=
  ["cipher_suite", "supported_groups", "signature_schemes", "tls_version", "alpn"]

/-- `NON_TLS_OPTION_IDS`, `tls_port` and `NON_MATRIX_OPTION_IDS`: no axis of the matrix. -/
def nonAxisOptions : List String := ["server_wrapper", "client_wrapper", "tls_port", "test_features"]

/-- The option ids that become axes, in the order of the plan. -/
def axisOptionIds : List String :=
  (staticCliOptions.insertionSort (· ≤ ·)).filter fun o => o ∉ nonAxisOptions

/-- `capability_dimension_name`. -/
def capabilityDimensionName (optionId : String) : String :=
  if strip optionId = "alpn" then "alpn_protocols" else strip optionId

/-- `aggregate_union`: the choices each option is offered with. -/
def aggregateUnion (capsByWrapper : Dict String Capabilities) : Dict String (List String) :=
  let docs := capsByWrapper.map Prod.snd
  let keys (dim : String) := sortedSet (docs.flatMap fun c => c.dimensionKeys dim none)
  [("cipher_suite", sortedSet (docs.flatMap fun c => c.cipherIds none)),
    ("supported_groups", keys "supported_groups"),
    ("signature_schemes", keys "signature_schemes"),
    ("alpn", keys "alpn_protocols"),
    ("tls_version", ["1.2", "1.3"])]

/-- `option_choice_tokens` of the catalog item of an option. -/
def optionChoiceTokens (capsByWrapper : Dict String Capabilities) (optionId : String) :
    List String :=
  choiceTokens (((aggregateUnion capsByWrapper).get? optionId).getD [])

/-- `_get_dimension_matrix_values`. -/
def getDimensionMatrixValues (optionId : String) (tokens : List String) (args : Args)
    (matrixWrappers : List String) (capsCache : Dict String Capabilities)
    (cipherTlsMode : Option TlsMode) : Except PyExc (List String) :=
  let rawVal := args.getattrText optionId
  if optionId ∈ capabilityDimensions ∧ tokens ≠ [] then
    if optionId = "alpn" then expandAlpnMatrixAxis rawVal matrixWrappers capsCache tokens
    else
      expandCapabilityDimension rawVal (capabilityDimensionName optionId) matrixWrappers capsCache
        tokens (if optionId = "cipher_suite" then cipherTlsMode else none)
  else if tokens ≠ [] then expandDimension rawVal tokens
  else .ok [rawVal]

/-- The capability documents of the known wrappers: `caps_cache`. -/
def capsCache (repo : Repo) (knownWrappers : List String) :
    Except PyExc (Dict String Capabilities) :=
  knownWrappers.mapM fun wid => (repo.loadBackendCapabilities wid).map fun caps => (wid, caps)

/-- `matrix_axis_plan`: the axis keys and the values of each axis.  The catalog
of choices covers the discovered wrappers, the cache the known ones. -/
def matrixAxisPlan (repo : Repo) (args : Args) (knownWrappers : List String) :
    Except PyExc (List String × List (List String)) := do
  let wrappersSorted := sortedSet knownWrappers
  let cache ← capsCache repo knownWrappers
  let catalog ← capsCache repo repo.discoverWrapperIds
  let serverVals ← expandDimension (args.getattrText "server") wrappersSorted
  let clientVals ← expandDimension (args.getattrText "client") wrappersSorted
  let matrixWrappers := sortedSet (serverVals ++ clientVals)
  let cipherTlsMode := tlsModeFilterFromArgs args
  let vals ← axisOptionIds.mapM fun optionId =>
    getDimensionMatrixValues optionId (optionChoiceTokens catalog optionId) args matrixWrappers
      cache cipherTlsMode
  return (["server", "client"] ++ axisOptionIds, [serverVals, clientVals] ++ vals)

/-! ### A blank option never makes the plan fail -/

theorem isAll_empty : isAll "" = false := by decide

theorem allSubtrahend_empty : allSubtrahend "" = none := by decide

theorem splitOnce_empty : splitOnce ':' "" = none := by decide

theorem expandDimension_of_blank {value : String} (h : strip value = "") (choices : List String) :
    expandDimension value choices = .ok [""] := by
  unfold expandDimension
  simp only [h, if_true]
  split <;> rfl

theorem expandCapabilityDimension_of_blank {value : String} (h : strip value = "")
    (dimension : String) (wrapperIds : List String) (capsByWrapper : Dict String Capabilities)
    (catalogChoices : List String) (tlsMode : Option TlsMode) :
    ∃ vals, expandCapabilityDimension value dimension wrapperIds capsByWrapper catalogChoices
      tlsMode = .ok vals := by
  unfold expandCapabilityDimension expandCapDimAllSubtraction expandCapDimTokens
  simp only [h, isAll_empty, Bool.false_eq_true, if_false, allSubtrahend_empty, splitOnce_empty,
    Option.isSome_none, expandDimension_of_blank strip_empty]
  generalize (if dimension = "cipher_suite" then tlsMode else none) = cipherMode
  cases cipherMode with
  | none => exact ⟨_, rfl⟩
  | some mode =>
    by_cases hd : dimension = "cipher_suite"
    · simp only [hd, if_true]; exact ⟨_, rfl⟩
    · simp only [hd, if_false]; exact ⟨_, rfl⟩

theorem getDimensionMatrixValues_of_blank {args : Args} {optionId : String}
    (h : strip (args.getattrText optionId) = "") (tokens matrixWrappers : List String)
    (capsCache : Dict String Capabilities) (cipherTlsMode : Option TlsMode) :
    ∃ vals, getDimensionMatrixValues optionId tokens args matrixWrappers capsCache cipherTlsMode
      = .ok vals := by
  unfold getDimensionMatrixValues
  dsimp only
  split
  · split
    · refine ⟨[""], ?_⟩
      simp only [expandAlpnMatrixAxis, h, if_true]
      rfl
    · exact expandCapabilityDimension_of_blank h ..
  · split
    · exact ⟨_, expandDimension_of_blank h _⟩
    · exact ⟨_, rfl⟩

/-- A plan whose roles and options all expand. -/
theorem matrixAxisPlan_eq_ok {repo : Repo} {args : Args} {knownWrappers : List String}
    {cache catalog : Dict String Capabilities} {serverVals clientVals : List String}
    (hcache : capsCache repo knownWrappers = .ok cache)
    (hcatalog : capsCache repo repo.discoverWrapperIds = .ok catalog)
    (hserver : expandDimension (args.getattrText "server") (sortedSet knownWrappers)
      = .ok serverVals)
    (hclient : expandDimension (args.getattrText "client") (sortedSet knownWrappers)
      = .ok clientVals)
    (hopts : ∀ o ∈ axisOptionIds, ∃ vals,
      getDimensionMatrixValues o (optionChoiceTokens catalog o) args
        (sortedSet (serverVals ++ clientVals)) cache (tlsModeFilterFromArgs args) = .ok vals) :
    ∃ vals, matrixAxisPlan repo args knownWrappers
      = .ok (["server", "client"] ++ axisOptionIds, vals) := by
  have hvals : ∃ vals, axisOptionIds.mapM (fun o =>
      getDimensionMatrixValues o (optionChoiceTokens catalog o) args
        (sortedSet (serverVals ++ clientVals)) cache (tlsModeFilterFromArgs args)) = .ok vals := by
    choose f hf using hopts
    refine ⟨axisOptionIds.attach.map fun o => f o.1 o.2, mapM_eq_ok.mpr ?_⟩
    rw [List.forall₂_map_right_iff, List.forall₂_iff_get]
    refine ⟨by simp, fun i h₁ h₂ => ?_⟩
    simp only [List.get_eq_getElem, List.getElem_attach]
    exact hf _ _
  obtain ⟨vals, hvals⟩ := hvals
  refine ⟨[serverVals, clientVals] ++ vals, ?_⟩
  unfold matrixAxisPlan
  simp only [bind_eq_ok]
  exact ⟨cache, hcache, catalog, hcatalog, serverVals, hserver, clientVals, hclient, vals, hvals,
    rfl⟩

end TlsInterop
