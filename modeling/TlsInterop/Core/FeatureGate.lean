import TlsInterop.Core.Shipped
import TlsInterop.Core.Validation

/-!
# Special ciphers and the features they need

A PSK or an anonymous cipher is to run only with its test feature.  The skip
check asks for the feature of one cipher of the cell: the server's, and the
client's where the server has none.

## Main definitions

* `FeatureUsable` — a feature the cell enables and both backends offer.
* `ClientCipherCovered` — the client's cipher asks for nothing the check has not
  looked at.

## Main results

* `special_ciphers_gated_iff` — in an accepted cell each role's special cipher
  has its feature exactly when the client's cipher is covered.
* `clientPskCell_not_gated` — an accepted cell whose client offers PSK without it.
-/

namespace TlsInterop

open Py

/-- The backend has wired the feature and supports it. -/
def Capabilities.OffersFeature (caps : Capabilities) (feat : String) : Prop :=
  ((caps.featureEntry feat).get? "wired").any Json.truthy = true ∧
    ((caps.featureEntry feat).get? "supported").any Json.truthy = true

/-- The cell enables the feature and both backends offer it. -/
def FeatureUsable (cell : Cell) (srvCaps cliCaps : Capabilities) (feat : String) : Prop :=
  feat ∈ parseTestFeaturesEnabled (cell.field "test_features") ∧
    srvCaps.OffersFeature feat ∧ cliCaps.OffersFeature feat

/-- Next to a server cipher, the client's cipher needs no feature, the feature
the server's needs, or one that the cell enables anyway. -/
def ClientCipherCovered (cell : Cell) : Prop :=
  cellCipherId cell true ≠ "" →
    ∀ feat ∈ cipherRequiredTestFeature (cellCipherId cell false),
      cipherRequiredTestFeature (cellCipherId cell true) = some feat ∨
        feat ∈ parseTestFeaturesEnabled (cell.field "test_features")

/-! ### One role of one feature -/

theorem featureEntrySkip_eq_none_iff {feat label : String} {caps : Capabilities}
    {wiredMsg : Option String} :
    featureEntrySkip feat label caps wiredMsg = none ↔ caps.OffersFeature feat := by
  unfold featureEntrySkip Capabilities.OffersFeature
  dsimp only
  generalize ((caps.featureEntry feat).get? "wired").any Json.truthy = wired
  generalize ((caps.featureEntry feat).get? "supported").any Json.truthy = supported
  cases wired <;> cases supported <;> simp

theorem findSome?_roles_eq_none_iff {feat : String} {wiredMsg : Option String}
    {srv cli : String × Capabilities} :
    ([srv, cli].findSome? fun r => featureEntrySkip feat r.1 r.2 wiredMsg) = none ↔
      srv.2.OffersFeature feat ∧ cli.2.OffersFeature feat := by
  rw [List.findSome?_eq_none_iff]
  simp only [List.mem_cons, List.not_mem_nil, or_false, forall_eq_or_imp, forall_eq,
    featureEntrySkip_eq_none_iff]

/-- An empty cipher id needs no feature. -/
theorem cipherRequiredTestFeature_empty : cipherRequiredTestFeature "" = none := by decide

/-! ### What an accepted cell says about its features -/

section

variable {ctx : CellSkipCtx}

/-- Every enabled feature of an accepted cell is usable. -/
theorem featureUsable_of_enabled (h : ∀ check ∈ cellSkipChecks, check ctx = none) {feat : String}
    (henabled : feat ∈ parseTestFeaturesEnabled (ctx.cell.field "test_features")) :
    FeatureUsable ctx.cell ctx.srvCaps ctx.cliCaps feat := by
  have hcheck : featureSkipReason ctx = none := h featureSkipReason (by simp [cellSkipChecks])
  rw [featureSkipReason, Option.or_eq_none_iff] at hcheck
  have hfeats := List.findSome?_eq_none_iff.mp hcheck.1
  have hroles := hfeats feat (mem_sortedSet.mpr henabled)
  exact ⟨henabled, findSome?_roles_eq_none_iff.mp hroles⟩

/-- The feature of the cipher the check looks at is enabled in an accepted cell. -/
theorem enabled_of_checked (h : ∀ check ∈ cellSkipChecks, check ctx = none) {feat : String}
    (hfeat : cipherRequiredTestFeature (if cellCipherId ctx.cell true ≠ ""
      then cellCipherId ctx.cell true else cellCipherId ctx.cell false) = some feat) :
    feat ∈ parseTestFeaturesEnabled (ctx.cell.field "test_features") := by
  have hcheck : featureSkipReason ctx = none := h featureSkipReason (by simp [cellSkipChecks])
  rw [featureSkipReason, Option.or_eq_none_iff] at hcheck
  have hcipher := hcheck.2
  unfold cipherRequiredFeatureSkipReason at hcipher
  dsimp only at hcipher
  generalize (if cellCipherId ctx.cell true ≠ "" then cellCipherId ctx.cell true
    else cellCipherId ctx.cell false) = cid at hcipher hfeat
  have hne : cid ≠ "" := by
    intro hempty
    rw [hempty, cipherRequiredTestFeature_empty] at hfeat
    cases hfeat
  by_contra hnot
  rw [if_neg hne, hfeat] at hcipher
  dsimp only at hcipher
  rw [if_pos hnot] at hcipher
  cases hcipher

/-- In an accepted cell the ciphers of both roles have their features exactly
when the client's cipher is covered. -/
theorem usable_iff_covered (h : ∀ check ∈ cellSkipChecks, check ctx = none) :
    (∀ (server : Bool) (feat : String),
        cipherRequiredTestFeature (cellCipherId ctx.cell server) = some feat →
          FeatureUsable ctx.cell ctx.srvCaps ctx.cliCaps feat) ↔
      ClientCipherCovered ctx.cell := by
  constructor
  · intro husable _ feat hfeat
    exact .inr (husable false feat hfeat).1
  · intro hcovered server feat hfeat
    apply featureUsable_of_enabled h
    by_cases hsrv : cellCipherId ctx.cell true = ""
    · cases server with
      | true =>
        rw [hsrv, cipherRequiredTestFeature_empty] at hfeat
        cases hfeat
      | false =>
        apply enabled_of_checked h
        rw [if_neg (not_not.mpr hsrv)]
        exact hfeat
    · -- the check looks at the server's cipher only
      have hserver : cipherRequiredTestFeature (cellCipherId ctx.cell true) = some feat →
          feat ∈ parseTestFeaturesEnabled (ctx.cell.field "test_features") := by
        intro hs
        apply enabled_of_checked h
        rw [if_pos hsrv]
        exact hs
      cases server with
      | true => exact hserver hfeat
      | false =>
        rcases hcovered hsrv feat hfeat with hsame | henabled
        · exact hserver hsame
        · exact henabled

end

/-- **An accepted cell's special ciphers have their features** exactly when the
client's cipher is covered.  The check looks at one cipher of the cell, the server's
where it has one, so that a client with a special cipher of its own can pass it. -/
theorem special_ciphers_gated_iff {repo : Repo} {cell : Cell} {srvCaps cliCaps : Capabilities}
    (hs : repo.loadBackendCapabilities (lower (strip (cell.field "server"))) = .ok srvCaps)
    (hc : repo.loadBackendCapabilities (lower (strip (cell.field "client"))) = .ok cliCaps)
    (hskip : cellCapabilitySkipReason repo cell = none) :
    (∀ (server : Bool) (feat : String),
        cipherRequiredTestFeature (cellCipherId cell server) = some feat →
          FeatureUsable cell srvCaps cliCaps feat) ↔
      ClientCipherCovered cell := by
  obtain ⟨srvCaps', cliCaps', hs', hc', hchecks⟩ :=
    cellCapabilitySkipReason_eq_none (Repo.ne_empty_of_load hs) (Repo.ne_empty_of_load hc) hskip
  have hsrv : srvCaps = srvCaps' := by rw [hs] at hs'; exact Except.ok.inj hs'
  have hcli : cliCaps = cliCaps' := by rw [hc] at hc'; exact Except.ok.inj hc'
  rw [hsrv, hcli]
  have hiff := usable_iff_covered hchecks
  exact hiff

/-! ### Two asymmetric cells -/

/-- A repository whose certificates are all there. -/
def allCerts : String → Option (List UInt8 × List UInt8) := fun _ => some ([45], [45])

/-- A TLS 1.2 cell whose server has a certificate cipher and whose client a PSK
cipher, with the given features. -/
def clientPskCell (features : String) : Cell :=
  [(.str "server", "openssl"), (.str "client", "openssl"), (.str "tls_version", "1.2"),
    (.str "cipher_suite", "ecdhe-rsa-aes-128-gcm-sha256:psk-aes-128-gcm-sha256"),
    (.str "test_features", features)]

theorem load_clientPskCell {features role : String} (hrole : role = "server" ∨ role = "client") :
    (shippedRepo "/repo" allCerts).loadBackendCapabilities
        (lower (strip ((clientPskCell features).field role))) = .ok opensslCapabilities := by
  have hname : (clientPskCell features).field role = "openssl" := by
    rcases hrole with hrole | hrole <;> rw [hrole] <;> rfl
  rw [hname]
  exact shippedRepo_load.mpr (.inr (.inr ⟨by decide, rfl⟩))

/-- With the feature enabled the client's PSK cipher is gated. -/
theorem clientPskCell_gated :
    cellCapabilitySkipReason (shippedRepo "/repo" allCerts) (clientPskCell "psk") = none ∧
      ∀ (server : Bool) (feat : String),
        cipherRequiredTestFeature (cellCipherId (clientPskCell "psk") server) = some feat →
          FeatureUsable (clientPskCell "psk") opensslCapabilities opensslCapabilities feat := by
  have hskip : cellCapabilitySkipReason (shippedRepo "/repo" allCerts) (clientPskCell "psk")
      = none := by decide
  have hcovered : ClientCipherCovered (clientPskCell "psk") := by
    have hpsk : cipherRequiredTestFeature (cellCipherId (clientPskCell "psk") false)
        = some "psk" := by decide
    intro _ feat hfeat
    rw [hpsk] at hfeat
    cases hfeat
    exact .inr (by decide)
  exact ⟨hskip, (special_ciphers_gated_iff (load_clientPskCell (.inl rfl))
    (load_clientPskCell (.inr rfl)) hskip).mpr hcovered⟩

/-- Without any feature the cell is accepted, and its client's PSK cipher has none. -/
theorem clientPskCell_not_gated :
    (∀ role ∈ ["server", "client"], (shippedRepo "/repo" allCerts).loadBackendCapabilities
        (lower (strip ((clientPskCell "").field role))) = .ok opensslCapabilities) ∧
      cellCapabilitySkipReason (shippedRepo "/repo" allCerts) (clientPskCell "") = none ∧
      cipherRequiredTestFeature (cellCipherId (clientPskCell "") false) = some "psk" ∧
      ¬ FeatureUsable (clientPskCell "") opensslCapabilities opensslCapabilities "psk" := by
  refine ⟨fun role hrole => load_clientPskCell (by simpa using hrole), by decide, by decide, ?_⟩
  intro husable
  have hnot : "psk" ∉ parseTestFeaturesEnabled ((clientPskCell "").field "test_features") := by
    decide
  exact hnot husable.1

end TlsInterop
