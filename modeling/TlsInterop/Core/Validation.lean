import TlsInterop.Core.Config

/-!
# Pre-run skip reasons

The model of the checks of `core/validation.py` that decide, before a cell is
run, whether its two backends can be configured as the cell asks.

## Main definitions

* `CellSkipCtx` — the cell with both documents and both modes.
* `cipherSkipReason`, `dimensionSkipReason`, … — the seven checks.
* `resolveCellTlsModes` — the modes the two roles are checked in.
* `cellCapabilitySkipReason` — the first reason, if there is one.

## Main results

* `cellCapabilitySkipReason_eq_none` — an accepted cell passed every check.
* `cipher_of_accepted`, `tokens_of_accepted`, `expectHrr_of_accepted` — what an
  accepted cell offers each side.
-/

namespace TlsInterop

open Py

/-- `_check_cipher_side`. -/
def checkCipherSide (cell : Cell) (server : Bool) (wrapper : String) (caps : Capabilities)
    (mode : TlsMode) : Option String :=
  let cipherId := cellCipherId cell server
  if cipherId = "" then none
  else if caps.supportsCipher cipherId mode then none
  else
    let modes := caps.cipherModes cipherId
    let lacks := wrapper ++ " lacks cipher_suite=" ++ reprStr cipherId
    if modes = ∅ then some lacks
    else
      let names := [TlsMode.v12, .v13].filter fun m => m ∈ modes
      some (lacks ++ " for TLS " ++ mode.text ++ " (supported modes: "
        ++ String.intercalate ", " (names.map TlsMode.text) ++ ")")

/-- `_check_list_dim`. -/
def checkListDim (cell : Cell) (dim : String) (server : Bool) (wrapper : String)
    (caps : Capabilities) (mode : TlsMode) : Option String :=
  if mode = .v12 ∧ dim ∈ tls13OrthogonalDims ∧ strip (cell.field dim) = "" then none
  else
    let tokens := splitCsvTokens (asymmetricRolePart (cell.field dim) server)
    let capDim := capabilityDimensionName dim
    (tokens.find? fun tok => !caps.supportsToken capDim tok (some mode)).map fun tok =>
      wrapper ++ " lacks " ++ dim ++ "=" ++ reprStr tok

/-- `_required_server_identity_prefix`. -/
def requiredServerIdentityPrefix (cell : Cell) : Option String :=
  let schemes := splitCsvTokens (asymmetricRolePart (cell.field "signature_schemes") true)
  if schemes ≠ [] then some (getCertPrefixForSchemes schemes)
  else
    let cipher := cellCipherId cell true
    if cipher = "" || !cipherCatalogIdRequiresIdentityPem cipher then none
    else some (getCertPrefixForScheme cipher)

/-- `_tls12_semantic_skip_reason_side`. -/
def tls12SemanticSkipReasonSide (cell : Cell) (server : Bool) (mode : TlsMode) : Option String :=
  if mode ≠ .v12 then none
  else
    let cipherId := cellCipherId cell server
    if cipherId = "" then none
    else
      let part (field : String) := splitCsvTokens (asymmetricRolePart (cell.field field) server)
      (tls12GroupSemanticSkip cipherId (part "supported_groups")).or
        (tls12SigSemanticSkip cipherId (part "signature_schemes"))

/-- `_CellSkipCtx`. -/
structure CellSkipCtx where
  cell : Cell
  repo : Repo
  server : String
  client : String
  srvCaps : Capabilities
  cliCaps : Capabilities
  modeSrv : TlsMode
  modeCli : TlsMode

namespace CellSkipCtx

/-- The document of a role. -/
def caps (ctx : CellSkipCtx) (server : Bool) : Capabilities :=
  if server then ctx.srvCaps else ctx.cliCaps

/-- The mode a role is checked in. -/
def mode (ctx : CellSkipCtx) (server : Bool) : TlsMode :=
  if server then ctx.modeSrv else ctx.modeCli

/-- The label of the server: `server (name)`. -/
def serverLabel (ctx : CellSkipCtx) : String := "server (" ++ ctx.server ++ ")"

/-- The label of the client: `client (name)`. -/
def clientLabel (ctx : CellSkipCtx) : String := "client (" ++ ctx.client ++ ")"

end CellSkipCtx

/-- `_feature_entry_skip`. -/
def featureEntrySkip (feat roleLabel : String) (caps : Capabilities) (wiredMsg : Option String) :
    Option String :=
  let entry := caps.featureEntry feat
  if !(entry.get? "wired").any Json.truthy then
    some (wiredMsg.getD ("Feature " ++ feat ++ " is not wired in " ++ roleLabel ++ " wrapper"))
  else if !(entry.get? "supported").any Json.truthy then
    some ("Feature " ++ feat ++ " is not supported in " ++ roleLabel ++ " wrapper")
  else none

/-- `_semantic_skip_reason`. -/
def semanticSkipReason (ctx : CellSkipCtx) : Option String :=
  (tls12SemanticSkipReasonSide ctx.cell true ctx.modeSrv).or
    (tls12SemanticSkipReasonSide ctx.cell false ctx.modeCli)

/-- `_enabled_features_skip_reason`. -/
def enabledFeaturesSkipReason (enabled : List String) (roles : List (String × Capabilities)) :
    Option String :=
  (sortedSet enabled).findSome? fun feat =>
    roles.findSome? fun r => featureEntrySkip feat r.1 r.2 none

/-- `_cipher_required_feature_skip_reason`. -/
def cipherRequiredFeatureSkipReason (ctx : CellSkipCtx) (enabled : List String)
    (roles : List (String × Capabilities)) : Option String :=
  let srvCid := cellCipherId ctx.cell true
  let cid := if srvCid ≠ "" then srvCid else cellCipherId ctx.cell false
  if cid = "" then none
  else match cipherRequiredTestFeature cid with
    | none => none
    | some feat =>
      if feat ∉ enabled then some "Feature disabled"
      else roles.findSome? fun r => featureEntrySkip feat r.1 r.2 (some "Not wired")

/-- `_feature_skip_reason`. -/
def featureSkipReason (ctx : CellSkipCtx) : Option String :=
  let roles := [(ctx.serverLabel, ctx.srvCaps), (ctx.clientLabel, ctx.cliCaps)]
  let enabled := parseTestFeaturesEnabled (ctx.cell.field "test_features")
  (enabledFeaturesSkipReason enabled roles).or (cipherRequiredFeatureSkipReason ctx enabled roles)

/-- `_identity_skip_reason`. -/
def identitySkipReason (ctx : CellSkipCtx) : Option String :=
  match requiredServerIdentityPrefix ctx.cell with
  | none => none
  | some certPrefix =>
    if certPrefix = "" || ctx.repo.identityPemPresent certPrefix then none
    else some ("Missing identity PEM: certs/" ++ certPrefix ++ ".crt and certs/" ++ certPrefix
      ++ ".key")

/-- `_expect_hrr_skip_reason`. -/
def expectHrrSkipReason (ctx : CellSkipCtx) : Option String :=
  if lower (strip (ctx.cell.field "expect_hrr")) ∉ ["true", "1", "yes"] then none
  else
    let blocked := ctx.cliCaps.unsupportedTlsFields.map fun x => strip x.pyStr
    if "expect_hrr" ∈ blocked then some (ctx.clientLabel ++ " does not support expect_hrr")
    else none

/-- `_cipher_skip_reason`. -/
def cipherSkipReason (ctx : CellSkipCtx) : Option String :=
  (checkCipherSide ctx.cell true ctx.serverLabel ctx.srvCaps ctx.modeSrv).or
    (checkCipherSide ctx.cell false ctx.clientLabel ctx.cliCaps ctx.modeCli)

/-- `_dimension_skip_reason`. -/
def dimensionSkipReason (ctx : CellSkipCtx) : Option String :=
  ["supported_groups", "signature_schemes", "alpn"].findSome? fun dim =>
    (checkListDim ctx.cell dim true ctx.serverLabel ctx.srvCaps ctx.modeSrv).or
      (checkListDim ctx.cell dim false ctx.clientLabel ctx.cliCaps ctx.modeCli)

/-- `_tls_version_skip_reason`. -/
def tlsVersionSkipReason (ctx : CellSkipCtx) : Option String :=
  let tv := strip (ctx.cell.field "tls_version")
  if tv = "" || (splitOnce ':' tv).isSome then none
  else
    [(ctx.serverLabel, ctx.srvCaps, ctx.modeSrv),
      (ctx.clientLabel, ctx.cliCaps, ctx.modeCli)].findSome? fun w =>
        match (w.2.1.get? "tls_version").bind Json.asDict with
        | some block =>
          let key := w.2.2.text
          if block ≠ [] ∧ (block.get? key).isNone then
            some (w.1 ++ " lacks tls_version=" ++ reprStr key)
          else none
        | none => none

/-- `_resolve_cell_tls_modes`. -/
def resolveCellTlsModes (cell : Cell) (srvCaps cliCaps : Capabilities) : TlsMode × TlsMode :=
  let mode := effectiveCellTlsMode cell srvCaps cliCaps
  let tv := strip (cell.field "tls_version")
  if (splitOnce ':' tv).isSome then
    let (lv, rv) := parseAsymmetric tv
    (if lv ≠ "" then tlsModeFromVersion lv else mode,
      if rv ≠ "" then tlsModeFromVersion rv else mode)
  else (mode, mode)

/-- `CELL_SKIP_CHECKS`. -/
def cellSkipChecks : List (CellSkipCtx → Option String) :=
  [semanticSkipReason, featureSkipReason, identitySkipReason, expectHrrSkipReason,
    cipherSkipReason, dimensionSkipReason, tlsVersionSkipReason]

/-- The context `cell_capability_skip_reason` checks a cell in. -/
def cellSkipCtx (repo : Repo) (cell : Cell) (srvCaps cliCaps : Capabilities) : CellSkipCtx where
  cell := cell
  repo := repo
  server := lower (strip (cell.field "server"))
  client := lower (strip (cell.field "client"))
  srvCaps := srvCaps
  cliCaps := cliCaps
  modeSrv := (resolveCellTlsModes cell srvCaps cliCaps).1
  modeCli := (resolveCellTlsModes cell srvCaps cliCaps).2

/-- `cell_capability_skip_reason`. -/
def cellCapabilitySkipReason (repo : Repo) (cell : Cell) : Option String :=
  let server := lower (strip (cell.field "server"))
  let client := lower (strip (cell.field "client"))
  if server = "" ∨ client = "" then none
  else
    match repo.loadBackendCapabilities server, repo.loadBackendCapabilities client with
    | .ok srvCaps, .ok cliCaps =>
      cellSkipChecks.findSome? fun check => check (cellSkipCtx repo cell srvCaps cliCaps)
    | .error e, _ => some e.msg
    | .ok _, .error e => some e.msg

/-- An accepted cell with two named backends loads both and passes every check. -/
theorem cellCapabilitySkipReason_eq_none {repo : Repo} {cell : Cell}
    (hserver : lower (strip (cell.field "server")) ≠ "")
    (hclient : lower (strip (cell.field "client")) ≠ "")
    (h : cellCapabilitySkipReason repo cell = none) :
    ∃ srvCaps cliCaps,
      repo.loadBackendCapabilities (lower (strip (cell.field "server"))) = .ok srvCaps ∧
      repo.loadBackendCapabilities (lower (strip (cell.field "client"))) = .ok cliCaps ∧
      ∀ check ∈ cellSkipChecks, check (cellSkipCtx repo cell srvCaps cliCaps) = none := by
  unfold cellCapabilitySkipReason at h
  simp only [hserver, hclient, or_self, if_false] at h
  split at h
  · next srvCaps cliCaps hs hc => exact ⟨srvCaps, cliCaps, hs, hc, List.findSome?_eq_none_iff.mp h⟩
  · simp at h
  · simp at h

/-! ### What an accepted cell offers each side -/

section

variable {cell : Cell} {server : Bool} {wrapper : String} {caps : Capabilities} {mode : TlsMode}

theorem checkCipherSide_eq_none (h : checkCipherSide cell server wrapper caps mode = none)
    (hne : cellCipherId cell server ≠ "") :
    caps.supportsCipher (cellCipherId cell server) mode = true := by
  unfold checkCipherSide at h
  dsimp only at h
  rw [if_neg hne] at h
  by_contra hsup
  rw [if_neg hsup] at h
  split at h <;> cases h

theorem checkListDim_eq_none {dim : String}
    (h : checkListDim cell dim server wrapper caps mode = none)
    (hmode : mode = .v13 ∨ dim ∉ tls13OrthogonalDims) {tok : String}
    (htok : tok ∈ splitCsvTokens (asymmetricRolePart (cell.field dim) server)) :
    caps.supportsToken (capabilityDimensionName dim) tok (some mode) = true := by
  unfold checkListDim at h
  rw [if_neg] at h
  · rw [Option.map_eq_none_iff, List.find?_eq_none] at h
    simpa using h tok htok
  · rintro ⟨hm, hdim, -⟩
    rcases hmode with hmode | hmode
    · rw [hm] at hmode; cases hmode
    · exact hmode hdim

end

/-- An accepted cell's cipher is supported on each side, in the mode of that side. -/
theorem cipher_of_accepted {ctx : CellSkipCtx} (h : ∀ check ∈ cellSkipChecks, check ctx = none)
    (server : Bool) (hne : cellCipherId ctx.cell server ≠ "") :
    (ctx.caps server).supportsCipher (cellCipherId ctx.cell server) (ctx.mode server) = true := by
  have hcheck := h cipherSkipReason (by simp [cellSkipChecks])
  rw [cipherSkipReason, Option.or_eq_none_iff] at hcheck
  cases server with
  | true => exact checkCipherSide_eq_none hcheck.1 hne
  | false => exact checkCipherSide_eq_none hcheck.2 hne

/-- An accepted cell's list values are supported on each side, except the
TLS 1.3 dimensions in TLS 1.2. -/
theorem tokens_of_accepted {ctx : CellSkipCtx} (h : ∀ check ∈ cellSkipChecks, check ctx = none)
    (server : Bool) {dim : String} (hdim : dim ∈ ["supported_groups", "signature_schemes", "alpn"])
    (hmode : ctx.mode server = .v13 ∨ dim ∉ tls13OrthogonalDims) {tok : String}
    (htok : tok ∈ pickList ctx.cell dim server) :
    (ctx.caps server).supportsToken (capabilityDimensionName dim) tok (some (ctx.mode server))
      = true := by
  have hcheck := h dimensionSkipReason (by simp [cellSkipChecks])
  rw [dimensionSkipReason, List.findSome?_eq_none_iff] at hcheck
  have hsides := hcheck dim hdim
  rw [Option.or_eq_none_iff] at hsides
  rw [pickList_eq] at htok
  cases server with
  | true => exact checkListDim_eq_none hsides.1 hmode htok
  | false => exact checkListDim_eq_none hsides.2 hmode htok

/-- An accepted cell expects no retry of a client that cannot report one. -/
theorem expectHrr_of_accepted {ctx : CellSkipCtx} (h : ∀ check ∈ cellSkipChecks, check ctx = none)
    (hrr : ctx.cell.field "expect_hrr" = "true") :
    "expect_hrr" ∉ ctx.cliCaps.unsupportedTlsFields.map fun x => strip x.pyStr := by
  have hcheck := h expectHrrSkipReason (by simp [cellSkipChecks])
  unfold expectHrrSkipReason at hcheck
  rw [hrr, if_neg (by decide)] at hcheck
  dsimp only at hcheck
  intro hmem
  rw [if_pos hmem] at hcheck
  cases hcheck

end TlsInterop
