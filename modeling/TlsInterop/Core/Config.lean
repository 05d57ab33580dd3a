import TlsInterop.Core.Identity
import TlsInterop.Core.Matrix
import TlsInterop.Core.Proto

/-!
# From a cell to the two TLS configurations

The model of `tls_config_from_cell` in `core/runner.py`.

## Main definitions

* `pickScalar`, `pickList` — the value of a field on one side of a cell.
* `applyIdentityMaterial` — the inline certificate of the server configuration.
* `tlsConfigFromCell` — the configuration sent to one role.

## Main results

* `pickScalar_cipherSuite` — the cipher sent is the cipher that is checked.
* `pickList_eq` — the list sent is the list that is checked.
-/

namespace TlsInterop

open Py

/-- `_pick_scalar`. -/
def pickScalar (cell : Cell) (field : String) (server : Bool) : String :=
  let raw := strip (cell.field field)
  if raw = "" then ""
  else if (splitOnce ':' raw).isSome then
    let (left, right) := parseAsymmetric raw
    if server then left else right
  else raw

/-- `split_asymmetric_csv`. -/
def splitAsymmetricCsv (val : String) : List String × List String :=
  let whole := strip val
  if whole = "" then ([], [])
  else match splitOnce ':' whole with
    | some (left, right) => (csvTokens left, csvTokens right)
    | none => (csvTokens whole, csvTokens whole)

/-- `_pick_list`. -/
def pickList (cell : Cell) (field : String) (server : Bool) : List String :=
  let raw := strip (cell.field field)
  if raw = "" then []
  else
    let (left, right) := splitAsymmetricCsv raw
    if server then left else right

/-- The range of the protobuf type `int32`. -/
def inInt32 (n : ℤ) : Bool := -2147483648 ≤ n && n ≤ 2147483647

/-- Assigning to an `int32` field. -/
def assignInt32 (n : ℤ) : Except PyExc ℤ :=
  if inInt32 n then .ok n else .error ⟨.valueError, "Value out of range: " ++ toString n⟩

/-- `int(s)`. -/
def intOfText (s : String) : Except PyExc ℤ :=
  match parseInt s with
  | some n => .ok n
  | none => .error ⟨.valueError, "invalid literal for int() with base 10: " ++ reprStr s⟩

/-- The blocked fields of a backend; empty when its document does not load. -/
def blockedFields (repo : Repo) (backend : String) : List Json :=
  match repo.loadBackendCapabilities backend with
  | .error _ => []
  | .ok caps => caps.unsupportedTlsFields

/-- The bundle `_apply_identity_material` attaches: by the first signature
scheme of the server, else by its cipher. -/
def serverLeafPrefix (cell : Cell) : String :=
  let schemes := pickList cell "signature_schemes" true
  if schemes ≠ [] then getCertPrefixForSchemes schemes
  else getCertPrefixForScheme (pickScalar cell "cipher_suite" true)

/-- `_apply_identity_material`. -/
def applyIdentityMaterial (repo : Repo) (cfg : TlsConfig) (cell : Cell) : TlsConfig :=
  let blocked := blockedFields repo (lower (strip (cell.field "server")))
  if blocked.any (Json.isStr "certificate") || blocked.any (Json.isStr "private_key") then cfg
  else
    let pem := repo.readIdentityPemBytes (serverLeafPrefix cell)
    if pem.1 ≠ [] ∧ pem.2 ≠ [] then { cfg with certificate := pem.1, privateKey := pem.2 }
    else cfg

/-- The fields `tls_config_from_cell` copies out of the cell, for a given port. -/
def cellConfig (cell : Cell) (server : Bool) (port : ℤ) : TlsConfig where
  version :=
    let v := pickScalar cell "tls_version" server
    if v = "" then "1.3" else v
  cipherSuite := pickScalar cell "cipher_suite" server
  port := port
  supportedGroups := pickList cell "supported_groups" server
  signatureSchemes := pickList cell "signature_schemes" server
  signatureSchemesCert := pickList cell "signature_schemes" !server
  alpnProtocols := pickList cell "alpn" server
  pskModes := sortedSet (parseTestFeaturesEnabled (cell.field "test_features"))
  expectHrr := !server && cell.field "expect_hrr" == "true"

/-- The port of a configuration: the cell's, or the default scenario port. -/
def cellPort (cell : Cell) (server : Bool) : Except PyExc ℤ := do
  let portRaw := pickScalar cell "tls_port" server
  if portRaw = "" then pure 5555 else assignInt32 (← intOfText portRaw)

/-- `tls_config_from_cell`, with the repository root given. -/
def tlsConfigFromCell (repo : Repo) (cell : Cell) (server : Bool) : Except PyExc TlsConfig := do
  let port ← cellPort cell server
  let cfg := cellConfig cell server port
  return if server then applyIdentityMaterial repo cfg cell else cfg

/-! ### What is sent is what is checked -/

/-- The cipher sent to a role is the one the skip checks look at. -/
theorem pickScalar_cipherSuite (cell : Cell) (server : Bool) :
    pickScalar cell "cipher_suite" server = cellCipherId cell server := by
  unfold pickScalar cellCipherId parseAsymmetric
  simp only [strip_strip]
  generalize strip (cell.field "cipher_suite") = raw
  cases h : splitOnce ':' raw with
  | none =>
    simp only [Option.isSome_none, Bool.false_eq_true, if_false]
    split
    · next he => exact he.symm
    · rfl
  | some p =>
    simp only [ne_empty_of_splitOnce h, if_false, Option.isSome_some, if_true]
    cases server <;> rfl

/-- The list sent to a role is the one the skip checks look at. -/
theorem pickList_eq (cell : Cell) (field : String) (server : Bool) :
    pickList cell field server = splitCsvTokens (asymmetricRolePart (cell.field field) server) := by
  unfold pickList splitAsymmetricCsv splitCsvTokens asymmetricRolePart parseAsymmetric
  simp only [strip_strip]
  generalize strip (cell.field field) = raw
  cases h : splitOnce ':' raw with
  | none =>
    split
    · next he => simp [he]
    · cases server <;> rfl
  | some p =>
    simp only [ne_empty_of_splitOnce h, if_false]
    cases server <;> simp

/-- The identity material touches the two certificate fields only. -/
theorem applyIdentityMaterial_eq (repo : Repo) (cfg : TlsConfig) (cell : Cell) :
    ∃ certB keyB,
      applyIdentityMaterial repo cfg cell = { cfg with certificate := certB, privateKey := keyB } := by
  unfold applyIdentityMaterial
  dsimp only
  split
  · exact ⟨cfg.certificate, cfg.privateKey, rfl⟩
  · split
    · exact ⟨_, _, rfl⟩
    · exact ⟨cfg.certificate, cfg.privateKey, rfl⟩

/-- A configuration is the cell's fields, up to the certificate of the server. -/
theorem tlsConfigFromCell_eq_ok {repo : Repo} {cell : Cell} {server : Bool} {cfg : TlsConfig}
    (h : tlsConfigFromCell repo cell server = .ok cfg) :
    ∃ port certB keyB, cellPort cell server = .ok port ∧
      cfg = { cellConfig cell server port with certificate := certB, privateKey := keyB } := by
  unfold tlsConfigFromCell at h
  obtain ⟨port, hport, h⟩ := bind_eq_ok.mp h
  generalize hcfg : cellConfig cell server port = cfg₀ at h
  obtain rfl := Except.ok.inj h
  split
  · obtain ⟨certB, keyB, heq⟩ := applyIdentityMaterial_eq repo cfg₀ cell
    exact ⟨port, certB, keyB, hport, by rw [hcfg, heq]⟩
  · exact ⟨port, cfg₀.certificate, cfg₀.privateKey, hport, by rw [hcfg]⟩

/-- A cell without a port, or with a valid one, gives its configurations a port. -/
theorem cellPort_eq_ok {cell : Cell}
    (h : strip (cell.field "tls_port") = "" ∨
      ∃ n, parseInt (cell.field "tls_port") = some n ∧ inInt32 n = true) (server : Bool) :
    ∃ port, cellPort cell server = .ok port := by
  unfold cellPort
  rcases h with h | ⟨n, hn, hrange⟩
  · refine ⟨5555, ?_⟩
    simp [pickScalar, h, pure, Except.pure]
  · have hcolon : splitOnce ':' (strip (cell.field "tls_port")) = none :=
      (splitOnce_eq_none_iff _ _).mpr (colon_notMem_of_parseInt hn)
    have hpick : pickScalar cell "tls_port" server = strip (cell.field "tls_port") := by
      unfold pickScalar
      dsimp only
      split
      · next he => exact he.symm
      · simp [hcolon]
    rw [hpick]
    dsimp only
    split
    · exact ⟨5555, rfl⟩
    · refine ⟨n, bind_eq_ok.mpr ⟨n, ?_, ?_⟩⟩
      · rw [intOfText, parseInt_strip, hn]
      · rw [assignInt32, if_pos hrange]

/-- A cell with a port builds both configurations. -/
theorem tlsConfigFromCell_of_port {repo : Repo} {cell : Cell} {server : Bool} {port : ℤ}
    (h : cellPort cell server = .ok port) :
    tlsConfigFromCell repo cell server
      = .ok (if server then applyIdentityMaterial repo (cellConfig cell server port) cell
        else cellConfig cell server port) := by
  unfold tlsConfigFromCell
  rw [h]
  rfl

end TlsInterop
