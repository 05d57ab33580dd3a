import TlsInterop.Core.Shipped
import TlsInterop.Core.Suite

/-!
# What becomes of the settings of a case

A case of a suite file sets some of the axes; the normaliser then rewrites the
cell with the suite-level arguments as its template.  It overrides the port and
the test features unconditionally, and in a TLS 1.2 cell it clears the groups
and the signature schemes the template leaves unset, also where the case sets
them.

## Main definitions

* `SettingKept` — the condition under which a setting survives.

## Main results

* `case_setting_kept_iff` — a cell holds a case's setting exactly when it does.
* `resumption_case_loses_setting` — a case whose test feature is dropped.
-/

namespace TlsInterop

open Py

/-- A setting `k: s` of a case survives the template `args`. -/
def SettingKept (args : Args) (cell : Cell) (srvCaps cliCaps : Capabilities) (k : AxisKey)
    (s : String) : Prop :=
  (k = .str "tls_port" →
    ∀ port, args.getattrInt "tls_port" = .ok port → port ≠ 0 → toString port = s) ∧
  (k = .str "test_features" → strip (args.getattrText "test_features") = s) ∧
  (∀ dim ∈ tls13OrthogonalDims, k = .str dim → strip (args.getattrText dim) = "" →
    effectiveCellTlsMode (applyImplicitTlsVersion cell srvCaps cliCaps) srvCaps cliCaps ≠ .v12)

section

variable {cell : Cell} {args : Args} {srvCaps cliCaps : Capabilities} {port : ℤ}

/-- The port does not enter the mode of a cell. -/
theorem effectiveCellTlsMode_implicit_overridePort :
    effectiveCellTlsMode (applyImplicitTlsVersion (overridePort cell port) srvCaps cliCaps)
        srvCaps cliCaps
      = effectiveCellTlsMode (applyImplicitTlsVersion cell srvCaps cliCaps) srvCaps cliCaps := by
  apply effectiveCellTlsMode_congr
  · rw [applyImplicitTlsVersion_tlsVersion, applyImplicitTlsVersion_tlsVersion]
    exact implicitTlsVersion_congr (overridePort_field (by decide)) (overridePort_field (by decide))
  · rw [applyImplicitTlsVersion_field (by decide), applyImplicitTlsVersion_field (by decide),
      overridePort_field (by decide)]

/-- The implicit rule leaves a version the cell has. -/
theorem applyImplicitTlsVersion_of_version (h : strip (cell.field "tls_version") ≠ "") :
    applyImplicitTlsVersion cell srvCaps cliCaps = cell := by
  rw [applyImplicitTlsVersion, if_pos h]

/-- The value of an axis that is neither rewritten from the template nor cleared. -/
theorem normalizeLoadedCell_get?_of_set {k : AxisKey} {s : String} (hcell : cell.get? k = some s)
    (hs : strip s ≠ "") :
    (applyImplicitTlsVersion (overridePort cell port) srvCaps cliCaps).get? k
      = (overridePort cell port).get? k := by
  by_cases hk : k = .str "tls_version"
  · have hfield : (overridePort cell port).field "tls_version" = s := by
      rw [overridePort_field (by decide), Cell.field, ← hk, hcell]
      rfl
    rw [applyImplicitTlsVersion_of_version (hfield ▸ hs)]
  · exact applyImplicitTlsVersion_get? k hk

/-- What the normaliser leaves of a value that is not blank. -/
theorem normalizeLoadedCell_get?_eq_iff {k : AxisKey} {s : String} (hcell : cell.get? k = some s)
    (hs : strip s ≠ "") (hport : args.getattrInt "tls_port" = .ok port) :
    (normalizeLoadedCell (overridePort cell port) args srvCaps cliCaps).get? k = some s ↔
      SettingKept args cell srvCaps cliCaps k s := by
  have hne : s ≠ "" := by
    rintro rfl
    exact hs rfl
  rw [normalizeLoadedCell_get?, effectiveCellTlsMode_implicit_overridePort,
    normalizeLoadedCell_get?_of_set hcell hs, overridePort_get?, hcell]
  unfold SettingKept
  simp only [hport, Except.ok.injEq, forall_eq']
  by_cases hfeat : k = .str "test_features"
  · subst hfeat
    simp [tls13OrthogonalDims]
  by_cases hp : k = .str "tls_port"
  · subst hp
    by_cases h0 : port = 0 <;> simp [tls13OrthogonalDims, h0]
  by_cases hclear : effectiveCellTlsMode (applyImplicitTlsVersion cell srvCaps cliCaps) srvCaps
      cliCaps = .v12 ∧
      ∃ dim ∈ tls13OrthogonalDims, k = .str dim ∧ strip (args.getattrText dim) = ""
  · -- the value is cleared, and it was not empty
    obtain ⟨hmode, dim, hdim, hk, hunset⟩ := hclear
    have hkept : ¬ ∀ dim ∈ tls13OrthogonalDims, k = .str dim → strip (args.getattrText dim) = "" →
        effectiveCellTlsMode (applyImplicitTlsVersion cell srvCaps cliCaps) srvCaps cliCaps
          ≠ .v12 := fun hall => hall dim hdim hk hunset hmode
    rw [if_neg hfeat, if_pos ⟨hmode, dim, hdim, hk, hunset⟩]
    simp [hfeat, hp, hne.symm, hkept]
  · rw [if_neg hfeat, if_neg hclear]
    simp only [hfeat, hp, false_and, if_false, false_implies, true_and]
    exact iff_of_true trivial fun dim hdim hk hunset hmode => hclear ⟨hmode, dim, hdim, hk, hunset⟩

end

/-- **A cell holds a case's setting** exactly when the template leaves it alone.  The
normaliser overrides the port and the test features, and clears the dimensions of TLS 1.3
in a TLS 1.2 cell; `SettingKept` says for each of the three when the value stands.  Every
other setting is kept. -/
theorem case_setting_kept_iff {repo : Repo} {args₀ args : Args} {path : String} {file : SuiteFile}
    {cases : List SuiteCase} {known : List String} {axisKeys : List AxisKey}
    {combos : List (List String)} {i : ℕ} {case : SuiteCase} {tup : List String} {k : AxisKey}
    {v : Yaml} {s : String} {srvCaps cliCaps : Capabilities} {cell' : Cell}
    (happly : applySuiteFile args₀ path file = .ok args)
    (hfile : file.casesNode = .list (cases.map some))
    (hbuild : buildMatrixCombos repo args known = .ok (axisKeys, combos))
    (hcase : cases[i]? = some case) (htup : combos[i]? = some tup)
    (hk : case.get? k = some v) (hcoerce : coerceSuiteMatrixValue v k = .ok s) (hne : s ≠ "")
    (hsrv : repo.loadBackendCapabilities (lower (strip ((cellOf axisKeys tup).field "server")))
      = .ok srvCaps)
    (hcli : repo.loadBackendCapabilities (lower (strip ((cellOf axisKeys tup).field "client")))
      = .ok cliCaps)
    (hnorm : normalizeCellTlsMicroParams repo (cellOf axisKeys tup) args = .ok cell') :
    cell'.get? k = some s ↔ SettingKept args (cellOf axisKeys tup) srvCaps cliCaps k s := by
  have hcell := cellOf_get?_of_case hbuild (applySuiteFile_suiteCases happly hfile) hcase htup hk hcoerce
  obtain ⟨port, hport, heq⟩ := (normalizeCellTlsMicroParams_eq_ok hsrv hcli).mp hnorm
  rw [heq]
  exact normalizeLoadedCell_get?_eq_iff hcell (strip_ne_empty_of_coerce hcoerce hne) hport

/-! ### A shipped case -/

/-- GnuTLS serves and OpenSSL resumes: a case of
`rewritten_tests/tls-1-3-interoperability-2way.yaml`. -/
def resumptionCase : SuiteCase :=
  [(.str "server", .str "gnutls"), (.str "client", .str "openssl"),
    (.str "cipher_suite", .str "aes-256-gcm"),
    (.str "signature_schemes", .str "rsa-pss-rsae-sha384"),
    (.str "supported_groups", .str "secp-256r1,secp-384r1"),
    (.str "test_features", .str "resumption"), (.str "expect_hrr", .bool true)]

/-- The suite file with this case only. -/
def resumptionSuite : SuiteFile where
  matrix := some [(⟨"tls_version", "'tls_version'"⟩, .num ⟨"1.3", by decide, by decide⟩)]
  cases := .list ([resumptionCase].map some)

/-- The arguments this suite leaves. -/
def resumptionArgs : Args where
  attrs := defaultArgs.attrs.set "tls_version" (.str "1.3")
  suiteCases := some [resumptionCase]

/-- The axes of the suite: those of the plan, and two more the case sets. -/
def resumptionAxisKeys : List AxisKey :=
  ["server", "client", "alpn", "cipher_suite", "signature_schemes", "supported_groups",
    "tls_version", "test_features", "expect_hrr"].map .str

/-- The tuple of the case. -/
def resumptionTuple : List String :=
  ["gnutls", "openssl", "", "aes-256-gcm", "rsa-pss-rsae-sha384", "secp-256r1,secp-384r1", "1.3",
    "resumption", "true"]

/-- The cell of the case after normalisation: its test feature is gone. -/
def resumptionCell : Cell :=
  cellOf resumptionAxisKeys ["gnutls", "openssl", "", "aes-256-gcm", "rsa-pss-rsae-sha384",
    "secp-256r1,secp-384r1", "1.3", "", "true"]

theorem applySuiteFile_resumption :
    applySuiteFile defaultArgs "tls-1-3-interoperability-2way.yaml" resumptionSuite
      = .ok resumptionArgs := rfl

theorem buildMatrixCombos_resumption :
    buildMatrixCombos (shippedRepo "/repo" noCerts) resumptionArgs ["gnutls", "nss", "openssl"]
      = .ok (resumptionAxisKeys, [resumptionTuple]) := by
  have hopts : ∀ o ∈ axisOptionIds, ∃ vals,
      getDimensionMatrixValues o (optionChoiceTokens shippedCapsCache o) resumptionArgs
        (sortedSet (["openssl"] ++ ["openssl"])) shippedCapsCache
        (tlsModeFilterFromArgs resumptionArgs) = .ok vals := by
    intro o ho
    by_cases hv : o = "tls_version"
    · subst hv
      exact ⟨["1.3"], by decide⟩
    · refine getDimensionMatrixValues_of_blank ?_ _ _ _ _
      have hblank : ∀ o ∈ axisOptionIds, o ≠ "tls_version" →
          strip (resumptionArgs.getattrText o) = "" := by decide
      exact hblank o ho hv
  have hcatalog : capsCache (shippedRepo "/repo" noCerts)
      (shippedRepo "/repo" noCerts).discoverWrapperIds = .ok shippedCapsCache := by
    rw [discoverWrapperIds_shippedRepo]
    exact capsCache_shippedRepo
  obtain ⟨vals, hplan⟩ : ∃ vals, matrixAxisPlan (shippedRepo "/repo" noCerts) resumptionArgs
      ["gnutls", "nss", "openssl"] = .ok (["server", "client"] ++ axisOptionIds, vals) :=
    matrixAxisPlan_eq_ok capsCache_shippedRepo hcatalog (by decide) (by decide) hopts
  exact buildMatrixCombos_eq_ok hplan rfl (List.cons_ne_nil _ _) (by decide)
    (by decide)

theorem normalizeCellTlsMicroParams_resumption :
    normalizeCellTlsMicroParams (shippedRepo "/repo" noCerts)
      (cellOf resumptionAxisKeys resumptionTuple) resumptionArgs = .ok resumptionCell := by
  decide

/-- The cipher the case sets reaches its cell. -/
theorem resumption_case_keeps_cipher :
    resumptionCell.get? (.str "cipher_suite") = some "aes-256-gcm" := by
  have hsrv : (shippedRepo "/repo" noCerts).loadBackendCapabilities
      (lower (strip ((cellOf resumptionAxisKeys resumptionTuple).field "server")))
        = .ok gnutlsCapabilities :=
    shippedRepo_load.mpr (.inl ⟨by decide, rfl⟩)
  have hcli : (shippedRepo "/repo" noCerts).loadBackendCapabilities
      (lower (strip ((cellOf resumptionAxisKeys resumptionTuple).field "client")))
        = .ok opensslCapabilities :=
    shippedRepo_load.mpr (.inr (.inr ⟨by decide, rfl⟩))
  have hcase : [resumptionCase][0]? = some resumptionCase := rfl
  have htup : [resumptionTuple][0]? = some resumptionTuple := rfl
  have hk : resumptionCase.get? (.str "cipher_suite") = some (.str "aes-256-gcm") := rfl
  have hcoerce : coerceSuiteMatrixValue (.str "aes-256-gcm") (.str "cipher_suite")
      = .ok "aes-256-gcm" := by
    decide
  refine (case_setting_kept_iff applySuiteFile_resumption rfl buildMatrixCombos_resumption hcase
    htup hk hcoerce (by decide) hsrv hcli normalizeCellTlsMicroParams_resumption).mpr
    ⟨by simp, by simp, ?_⟩
  intro dim hdim hk
  cases hk
  exact absurd hdim (by decide)

/-- The case asks for resumption and its cell is run without it. -/
theorem resumption_case_loses_setting :
    applySuiteFile defaultArgs "tls-1-3-interoperability-2way.yaml" resumptionSuite
        = .ok resumptionArgs ∧
      buildMatrixCombos (shippedRepo "/repo" noCerts) resumptionArgs ["gnutls", "nss", "openssl"]
        = .ok (resumptionAxisKeys, [resumptionTuple]) ∧
      resumptionCase.get? (.str "test_features") = some (.str "resumption") ∧
      coerceSuiteMatrixValue (.str "resumption") (.str "test_features") = .ok "resumption" ∧
      normalizeCellTlsMicroParams (shippedRepo "/repo" noCerts)
        (cellOf resumptionAxisKeys resumptionTuple) resumptionArgs = .ok resumptionCell ∧
      resumptionCell.get? (.str "test_features") = some "" :=
  ⟨applySuiteFile_resumption, buildMatrixCombos_resumption, rfl, by decide,
    normalizeCellTlsMicroParams_resumption, by decide⟩

end TlsInterop
