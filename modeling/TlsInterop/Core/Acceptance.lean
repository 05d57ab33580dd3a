import TlsInterop.Core.Conflicts
import TlsInterop.Core.ModeAgreement
import TlsInterop.Core.ShippedNormal

/-!
# Accepted cells are applied in full

A cell that passes the skip checks of the driver is built into configurations
the wrappers can apply: no blocked field is set, and each translator maps the
cipher and every token.  The checks and the translators meet in three facts: the
modes agree, the sent values are the checked ones, and the shipped documents are
normal.

## Main definitions

* `roleBackend`, `roleOf` — the backend and the role of a side.

## Main results

* `supported_of_accepted` — the configuration of an accepted cell is supported.
* `unsupportedCliParams_of_accepted` — and sets no blocked field.
* `accepted_cell_has_no_conflicts` — the wrapper finds nothing it cannot apply.
-/

namespace TlsInterop

open Py

/-- The backend of one side of a cell. -/
def roleBackend (cell : Cell) (server : Bool) : String :=
  lower (strip (cell.field (if server then "server" else "client")))

/-- The role of one side. -/
def roleOf (server : Bool) : Role := if server then .server else .client

section

variable {repo : Repo} {cell : Cell} {srvCaps cliCaps : Capabilities}

/-- The documents of a checked cell are those of its backends. -/
theorem load_cellSkipCtx
    (hsrv : repo.loadBackendCapabilities (lower (strip (cell.field "server"))) = .ok srvCaps)
    (hcli : repo.loadBackendCapabilities (lower (strip (cell.field "client"))) = .ok cliCaps)
    (server : Bool) : repo.loadBackendCapabilities (roleBackend cell server)
      = .ok ((cellSkipCtx repo cell srvCaps cliCaps).caps server) := by
  cases server with
  | true =>
    rw [roleBackend, if_pos rfl, hsrv, CellSkipCtx.caps, if_pos rfl]
    rfl
  | false =>
    rw [roleBackend, if_neg Bool.false_ne_true, hcli, CellSkipCtx.caps, if_neg Bool.false_ne_true]
    rfl

/-- A version that is symmetric, or has both sides, leaves no side open. -/
theorem versionSidesSettled_of_sides_ne
    (h : ∀ p, splitOnce ':' (strip (cell.field "tls_version")) = some p →
      strip p.1 ≠ "" ∧ strip p.2 ≠ "") : VersionSidesSettled cell srvCaps cliCaps := by
  cases hp : splitOnce ':' (strip (cell.field "tls_version")) with
  | none => exact versionSidesSettled_of_symmetric hp
  | some p =>
    obtain ⟨hl, hr⟩ := h p hp
    exact (versionSidesSettled_of_sides hp).mpr
      ⟨fun he => absurd he hl, fun _ he => absurd he hr⟩

/-- The mode of a configuration is the mode its side is checked in. -/
theorem tlsMode_of_settled {server : Bool} {cfg : TlsConfig}
    (hsettled : VersionSidesSettled cell srvCaps cliCaps)
    (hempty : strip (cell.field "tls_version") = "" → cellModes cell srvCaps cliCaps ≠ {.v12})
    (hcfg : tlsConfigFromCell repo cell server = .ok cfg) :
    tlsMode12Or13 cfg = (cellSkipCtx repo cell srvCaps cliCaps).mode server := by
  obtain ⟨port, certB, keyB, -, hfields⟩ := tlsConfigFromCell_eq_ok hcfg
  have hversion : cfg.version = (cellConfig cell server port).version := by rw [hfields]
  have hmodes : resolveCellTlsModes cell srvCaps cliCaps
      = (tlsModeFromVersion (cellConfig cell true port).version,
        tlsModeFromVersion (cellConfig cell false port).version) :=
    (resolve_eq_iff port port).mpr ⟨hsettled, hempty⟩
  rw [tlsMode12Or13, hversion]
  cases server with
  | true => rw [CellSkipCtx.mode, if_pos rfl, cellSkipCtx, hmodes]
  | false => rw [CellSkipCtx.mode, if_neg Bool.false_ne_true, cellSkipCtx, hmodes]

end

/-! ### Sent and checked values -/

theorem strip_cellCipherId (cell : Cell) (server : Bool) :
    strip (cellCipherId cell server) = cellCipherId cell server := by
  unfold cellCipherId
  dsimp only
  split <;> exact strip_strip _

theorem repeatedConfigTokens_csvTokens (s : String) :
    repeatedConfigTokens (csvTokens s) = csvTokens s := by
  have hmap : (csvTokens s).map strip = csvTokens s := by
    conv_rhs => rw [← List.map_id (csvTokens s)]
    exact List.map_congr_left fun t ht => strip_of_mem_csvTokens ht
  rw [repeatedConfigTokens, hmap, List.filter_eq_self]
  exact fun t ht => by simpa using ne_empty_of_mem_csvTokens ht

/-- The tokens a translator maps are the cell's. -/
theorem configTokens_cellConfig {cell : Cell} {server : Bool} {cfg : TlsConfig} {port : ℤ}
    {certB keyB : List UInt8}
    (hcfg : cfg = { cellConfig cell server port with certificate := certB, privateKey := keyB })
    {dim : String} (hdim : dim ∈ tls13OrthogonalDims) :
    configTokens cfg dim = pickList cell dim server := by
  simp only [tls13OrthogonalDims, List.mem_cons, List.not_mem_nil, or_false] at hdim
  have htokens : ∀ field, repeatedConfigTokens (pickList cell field server)
      = pickList cell field server := by
    intro field
    rw [pickList_eq]
    exact repeatedConfigTokens_csvTokens _
  have hgroups : cfg.supportedGroups = pickList cell "supported_groups" server := by
    rw [hcfg]
    rfl
  have hschemes : cfg.signatureSchemes = pickList cell "signature_schemes" server := by
    rw [hcfg]
    rfl
  rcases hdim with rfl | rfl
  · rw [configTokens, if_pos rfl, hgroups, htokens]
  · rw [configTokens, if_neg (by decide), if_pos rfl, hschemes, htokens]

/-- What an accepted cell offers a side is supported by the configuration of that side. -/
theorem supported_of_accepted {ctx : CellSkipCtx} {server : Bool} {cfg : TlsConfig} {port : ℤ}
    {certB keyB : List UInt8} (haccept : ∀ check ∈ cellSkipChecks, check ctx = none)
    (hcfg : cfg = { cellConfig ctx.cell server port with
      certificate := certB, privateKey := keyB })
    (hmode : tlsMode12Or13 cfg = ctx.mode server) : Supported (ctx.caps server) cfg where
  cipher hne := by
    have hcipher : strip cfg.cipherSuite = cellCipherId ctx.cell server := by
      have hpick : cfg.cipherSuite = pickScalar ctx.cell "cipher_suite" server := by rw [hcfg]; rfl
      rw [hpick, pickScalar_cipherSuite, strip_cellCipherId]
    rw [hcipher] at hne ⊢
    rw [hmode]
    exact cipher_of_accepted haccept server hne
  tokens hv13 dim hdim tok htok block hblock := by
    rw [configTokens_cellConfig hcfg hdim] at htok
    have hdims : ∀ dim ∈ tls13OrthogonalDims, dim ∈ ["supported_groups", "signature_schemes",
        "alpn"] ∧ capabilityDimensionName dim = dim ∧ dim ≠ "cipher_suite" := by
      decide
    obtain ⟨hmem, hname, hne⟩ := hdims dim hdim
    have hsup := tokens_of_accepted haccept server hmem (.inl (hmode ▸ hv13)) htok
    rw [hname, Capabilities.supportsToken, if_neg hne] at hsup
    unfold Capabilities.block at hblock
    rw [hblock] at hsup
    exact hsup

/-! ### Blocked fields -/

section

variable {root : String} {certs : String → Option (List UInt8 × List UInt8)} {cell : Cell}
  {server : Bool} {port : ℤ}

/-- A blocked certificate is not attached. -/
theorem applyIdentityMaterial_of_blocked {repo : Repo} {cfg : TlsConfig}
    (h : (blockedFields repo (roleBackend cell true)).any (Json.isStr "certificate") = true) :
    applyIdentityMaterial repo cfg cell = cfg := by
  unfold applyIdentityMaterial
  have hbackend : roleBackend cell true = lower (strip (cell.field "server")) := rfl
  rw [hbackend] at h
  dsimp only
  rw [h, Bool.true_or, if_pos rfl]

theorem blockedFields_nss {backend : String}
    (h : (shippedRepo root certs).loadBackendCapabilities backend = .ok nssCapabilities) :
    (blockedFields (shippedRepo root certs) backend).any (Json.isStr "certificate") = true := by
  unfold blockedFields
  rw [h]
  decide

/-- The configurations sent to NSS carry no certificate. -/
theorem tlsConfigFromCell_nss
    (h : (shippedRepo root certs).loadBackendCapabilities (roleBackend cell server)
      = .ok nssCapabilities) (hport : cellPort cell server = .ok port) :
    tlsConfigFromCell (shippedRepo root certs) cell server = .ok (cellConfig cell server port) := by
  rw [tlsConfigFromCell_of_port hport]
  cases server with
  | false => rfl
  | true => rw [if_pos rfl, applyIdentityMaterial_of_blocked (blockedFields_nss h)]

theorem unsupportedCliParams_of_runtime {repo : Repo} {config : TlsConfig} {backend : String}
    {caps : Capabilities} {items : List Json}
    (hload : repo.loadBackendCapabilities (lower (strip backend)) = .ok caps)
    (hitems : caps.runtime "unsupported_tls_fields" = .arr items)
    (hunset : ∀ x ∈ items, configHasValue config (strip x.pyStr) = false) :
    unsupportedCliParams repo config backend = .ok [] := by
  unfold unsupportedCliParams
  simp only [hload, hitems, bind, Except.bind, pure, Except.pure]
  have hempty : ((items.map fun x => strip x.pyStr).filter fun name =>
      name != "" && configHasValue config name) = [] := by
    rw [List.filter_eq_nil_iff]
    intro name hname
    obtain ⟨x, hx, rfl⟩ := List.mem_map.mp hname
    simp [hunset x hx]
  rw [hempty]

/-- NSS has no ALPN: an accepted cell asks for none. -/
theorem alpn_eq_nil_of_accepted {ctx : CellSkipCtx}
    (haccept : ∀ check ∈ cellSkipChecks, check ctx = none) (hcaps : ctx.caps server = nssCapabilities) :
    pickList ctx.cell "alpn" server = [] := by
  rw [List.eq_nil_iff_forall_not_mem]
  intro tok htok
  have hsup := tokens_of_accepted haccept server (by decide) (.inr (by decide)) htok
  have hname : capabilityDimensionName "alpn" = "alpn_protocols" := by decide
  rw [hcaps, hname, Capabilities.supportsToken, if_neg (by decide)] at hsup
  have hblock : (nssCapabilities.get? "alpn_protocols").bind Json.asDict = some nssAlpn := rfl
  have hoff : (nssAlpn.get? "supported").any Json.isFalse = true := rfl
  rw [hblock] at hsup
  dsimp only at hsup
  rw [capabilityTokenSupported, if_pos hoff] at hsup
  cases hsup

/-- The fields NSS blocks, when they are all unset. -/
theorem configHasValue_eq_false {config : TlsConfig} (hcert : config.certificate = [])
    (hkey : config.privateKey = []) (halpn : config.alpnProtocols = [])
    (hhrr : config.expectHrr = false) :
    ∀ name ∈ ["certificate", "private_key", "alpn_protocols", "expect_hrr"],
      configHasValue config name = false := by
  intro name hname
  simp only [List.mem_cons, List.not_mem_nil, or_false] at hname
  rcases hname with rfl | rfl | rfl | rfl
  · simp [configHasValue, TlsConfig.fields, FieldValue.hasValue, hcert]
  · simp [configHasValue, TlsConfig.fields, FieldValue.hasValue, hkey]
  · simp [configHasValue, TlsConfig.fields, FieldValue.hasValue, halpn]
  · simp [configHasValue, TlsConfig.fields, FieldValue.hasValue, hhrr]

/-- A client on NSS expects no retry. -/
theorem expectHrr_eq_false_of_accepted {ctx : CellSkipCtx}
    (haccept : ∀ check ∈ cellSkipChecks, check ctx = none)
    (hcaps : ctx.caps server = nssCapabilities) :
    (cellConfig ctx.cell server port).expectHrr = false := by
  change (!server && ctx.cell.field "expect_hrr" == "true") = false
  cases server with
  | true => rfl
  | false =>
    rw [Bool.not_false, Bool.true_and, beq_eq_false_iff_ne]
    intro hrr
    have hnot := expectHrr_of_accepted haccept hrr
    have hcli : ctx.cliCaps = nssCapabilities := hcaps
    rw [hcli] at hnot
    exact hnot (by decide)

/-- The configuration of an accepted cell sets no field its backend blocks. -/
theorem unsupportedCliParams_of_accepted {ctx : CellSkipCtx} {cfg : TlsConfig}
    (haccept : ∀ check ∈ cellSkipChecks, check ctx = none)
    (hload : (shippedRepo root certs).loadBackendCapabilities (roleBackend ctx.cell server)
      = .ok (ctx.caps server)) (hport : cellPort ctx.cell server = .ok port)
    (hcfg : tlsConfigFromCell (shippedRepo root certs) ctx.cell server = .ok cfg) :
    unsupportedCliParams (shippedRepo root certs) cfg (roleBackend ctx.cell server) = .ok [] := by
  have hload' := shippedRepo_load_normalized hload
  rcases shippedRepo_load.mp hload with ⟨-, hcaps⟩ | ⟨-, hcaps⟩ | ⟨-, hcaps⟩ <;> rw [hcaps] at hload'
  · exact unsupportedCliParams_of_runtime hload' (rfl : _ = Json.arr []) (by simp)
  · have hnss : tlsConfigFromCell (shippedRepo root certs) ctx.cell server
        = .ok (cellConfig ctx.cell server port) := tlsConfigFromCell_nss (hcaps ▸ hload) hport
    obtain rfl : cellConfig ctx.cell server port = cfg := Except.ok.inj (hnss.symm.trans hcfg)
    have hunset := configHasValue_eq_false (rfl : (cellConfig ctx.cell server port).certificate = [])
      rfl (alpn_eq_nil_of_accepted haccept hcaps) (expectHrr_eq_false_of_accepted haccept hcaps)
    refine unsupportedCliParams_of_runtime hload' (rfl : _ = Json.arr [.str "certificate",
      .str "private_key", .str "alpn_protocols", .str "expect_hrr"]) fun x hx => hunset _ ?_
    have hnames : ∀ x ∈ ["certificate", "private_key", "alpn_protocols", "expect_hrr"],
        strip x ∈ ["certificate", "private_key", "alpn_protocols", "expect_hrr"] := by
      decide
    obtain ⟨s, hs, rfl⟩ : ∃ s ∈ ["certificate", "private_key", "alpn_protocols", "expect_hrr"],
        Json.str s = x := by simpa [eq_comm] using hx
    exact hnames s hs
  · exact unsupportedCliParams_of_runtime hload' (rfl : _ = Json.arr []) (by simp)

end

/-! ### The wrapper finds nothing it cannot apply -/

/-- A supported configuration translates in full at every shipped backend. -/
theorem tlsArgvForConfig_of_supported {root : String}
    {certs : String → Option (List UInt8 × List UInt8)} {backend : String} {caps : Capabilities}
    {config : TlsConfig}
    (hload : (shippedRepo root certs).loadBackendCapabilities backend = .ok caps)
    (hs : Supported caps config) (role : Option Role) (repoRoot pskPasswdFile : String) :
    ∃ result, tlsArgvForConfig config backend caps role repoRoot pskPasswdFile = .ok result ∧
      result.unsupported = [] := by
  unfold tlsArgvForConfig
  rcases shippedRepo_load.mp hload with ⟨hname, rfl⟩ | ⟨hname, rfl⟩ | ⟨hname, rfl⟩
  all_goals rw [hname]
  · exact ⟨_, rfl, GnuTLS.unsupported_eq_nil gnutlsCapabilities_normal hs _ _ _⟩
  · exact ⟨_, rfl, NSS.unsupported_eq_nil nssCapabilities_normal hs⟩
  · exact ⟨_, rfl, OpenSSL.unsupported_eq_nil opensslCapabilities_normal hs⟩

theorem catalogParameterConflicts_eq_nil {repo : Repo} {config : TlsConfig} {backend : String}
    {role : Option Role} {caps : Capabilities} {pskPasswdFile : String} {result : TranslationResult}
    (hblocked : unsupportedCliParams repo config backend = .ok [])
    (hargv : tlsArgvForConfig config backend caps role repo.root pskPasswdFile = .ok result)
    (hresult : result.unsupported = []) :
    catalogParameterConflicts repo config backend role caps pskPasswdFile = .ok [] := by
  unfold catalogParameterConflicts
  rw [hblocked]
  refine bind_eq_ok.mpr ⟨[], rfl, ?_⟩
  split
  · rfl
  · exact bind_eq_ok.mpr ⟨result, hargv, by rw [hresult]; rfl⟩

section

variable {root : String} {certs : String → Option (List UInt8 × List UInt8)} {cell cell' : Cell}
  {args : Args}

/-- A valid port fits the field of the message. -/
theorem inInt32_of_validPort (h : strip (cell.field "tls_port") = "" ∨
      ∃ n, parseInt (cell.field "tls_port") = some n ∧ 0 ≤ n ∧ n ≤ 65535) :
    strip (cell.field "tls_port") = "" ∨
      ∃ n, parseInt (cell.field "tls_port") = some n ∧ inInt32 n = true := by
  refine h.imp_right ?_
  rintro ⟨n, hn, hlo, hhi⟩
  refine ⟨n, hn, ?_⟩
  simp only [inInt32, Bool.and_eq_true, decide_eq_true_eq]
  omega

/-- The ciphers of a normalised cell do not decide a missing version. -/
theorem cellModes_ne_of_accepted {repo : Repo} {srvCaps cliCaps : Capabilities}
    (hnorm : normalizeCellTlsMicroParams repo cell args = .ok cell')
    (hsrv : repo.loadBackendCapabilities (lower (strip (cell'.field "server"))) = .ok srvCaps)
    (hcli : repo.loadBackendCapabilities (lower (strip (cell'.field "client"))) = .ok cliCaps) :
    strip (cell'.field "tls_version") = "" → cellModes cell' srvCaps cliCaps ≠ {.v12} := by
  rw [normalizeCellTlsMicroParams_role hnorm (.inl rfl)] at hsrv
  rw [normalizeCellTlsMicroParams_role hnorm (.inr rfl)] at hcli
  obtain ⟨port, -, hcell⟩ := (normalizeCellTlsMicroParams_eq_ok hsrv hcli).mp hnorm
  exact cellModes_ne_of_normalized hcell

/-- The configuration of an accepted side, in the mode it was checked in, has no conflicts. -/
theorem catalogParameterConflicts_of_accepted {ctx : CellSkipCtx} {server : Bool}
    {cfg : TlsConfig} {port : ℤ} (haccept : ∀ check ∈ cellSkipChecks, check ctx = none)
    (hload : (shippedRepo root certs).loadBackendCapabilities (roleBackend ctx.cell server)
      = .ok (ctx.caps server)) (hport : cellPort ctx.cell server = .ok port)
    (hcfg : tlsConfigFromCell (shippedRepo root certs) ctx.cell server = .ok cfg)
    (hmode : tlsMode12Or13 cfg = ctx.mode server) (role : Option Role) (pskPasswdFile : String) :
    catalogParameterConflicts (shippedRepo root certs) cfg (roleBackend ctx.cell server) role
      (ctx.caps server) pskPasswdFile = .ok [] := by
  obtain ⟨port', certB, keyB, -, hfields⟩ := tlsConfigFromCell_eq_ok hcfg
  have hsupported : Supported (ctx.caps server) cfg := supported_of_accepted haccept hfields hmode
  obtain ⟨result, hargv, hresult⟩ := tlsArgvForConfig_of_supported hload hsupported role
    (shippedRepo root certs).root pskPasswdFile
  exact catalogParameterConflicts_eq_nil (unsupportedCliParams_of_accepted haccept hload hport hcfg)
    hargv hresult

/-- **An accepted cell has no conflicts**: when the skip checks find no reason
against a normalised cell, neither wrapper finds a parameter it cannot apply.  The checks
ask the capability documents, dimension by dimension; the wrappers translate the
configuration built from the cell.  Each translator is shown to know what its own document
lists, so that the two agree on every dimension. -/
theorem accepted_cell_has_no_conflicts
    (hnorm : normalizeCellTlsMicroParams (shippedRepo root certs) cell args = .ok cell')
    (hbackends : ∀ server, roleBackend cell' server ∈ ["openssl", "gnutls", "nss"])
    (hport : strip (cell'.field "tls_port") = "" ∨
      ∃ n, parseInt (cell'.field "tls_port") = some n ∧ 0 ≤ n ∧ n ≤ 65535)
    (hversion : ∀ p, splitOnce ':' (strip (cell'.field "tls_version")) = some p →
      strip p.1 ≠ "" ∧ strip p.2 ≠ "")
    (haccept : cellCapabilitySkipReason (shippedRepo root certs) cell' = none) (server : Bool)
    (pskPasswdFile : String) :
    ∃ cfg caps, tlsConfigFromCell (shippedRepo root certs) cell' server = .ok cfg ∧
      (shippedRepo root certs).loadBackendCapabilities (roleBackend cell' server) = .ok caps ∧
      catalogParameterConflicts (shippedRepo root certs) cfg (roleBackend cell' server)
        (some (roleOf server)) caps pskPasswdFile = .ok [] := by
  have hne : ∀ server, roleBackend cell' server ≠ "" := by
    intro server he
    have hnot : "" ∉ ["openssl", "gnutls", "nss"] := by decide
    exact hnot (he ▸ hbackends server)
  obtain ⟨srvCaps, cliCaps, hsrv, hcli, hchecks⟩ :=
    cellCapabilitySkipReason_eq_none (hne true) (hne false) haccept
  obtain ⟨port, hcellPort⟩ := cellPort_eq_ok (inInt32_of_validPort hport) server
  have hcfg : tlsConfigFromCell (shippedRepo root certs) cell' server = .ok _ :=
    tlsConfigFromCell_of_port hcellPort
  have hmode := tlsMode_of_settled (versionSidesSettled_of_sides_ne hversion)
    (cellModes_ne_of_accepted hnorm hsrv hcli) hcfg
  have hload := load_cellSkipCtx hsrv hcli server
  exact ⟨_, _, hcfg, hload, catalogParameterConflicts_of_accepted hchecks hload hcellPort hcfg hmode
    _ _⟩

end

/-- A cell of an OpenSSL server and an NSS client with a TLS 1.3 cipher and a group. -/
def groupedCell : Cell :=
  [(.str "server", "OpenSSL"), (.str "client", "nss"), (.str "tls_version", "1.3"),
    (.str "cipher_suite", "aes-128-gcm"), (.str "supported_groups", "X25519"),
    (.str "tls_port", "4433"), (.str "test_features", "")]

/-- Neither wrapper of the grouped cell finds a parameter it cannot apply. -/
theorem groupedCell_has_no_conflicts :
    (∃ cfg caps, tlsConfigFromCell (shippedRepo "/repo" noCerts) groupedCell true = .ok cfg ∧
      (shippedRepo "/repo" noCerts).loadBackendCapabilities (roleBackend groupedCell true)
        = .ok caps ∧
      catalogParameterConflicts (shippedRepo "/repo" noCerts) cfg (roleBackend groupedCell true)
        (some (roleOf true)) caps "" = .ok []) ∧
    ∃ cfg caps, tlsConfigFromCell (shippedRepo "/repo" noCerts) groupedCell false = .ok cfg ∧
      (shippedRepo "/repo" noCerts).loadBackendCapabilities (roleBackend groupedCell false)
        = .ok caps ∧
      catalogParameterConflicts (shippedRepo "/repo" noCerts) cfg (roleBackend groupedCell false)
        (some (roleOf false)) caps "" = .ok [] := by
  have hnorm : normalizeCellTlsMicroParams (shippedRepo "/repo" noCerts) groupedCell defaultArgs
      = .ok groupedCell := by
    decide
  have hbackends : ∀ server, roleBackend groupedCell server ∈ ["openssl", "gnutls", "nss"] := by
    decide
  have hport : parseInt (groupedCell.field "tls_port") = some 4433 := by
    decide
  have hversion : splitOnce ':' (strip (groupedCell.field "tls_version")) = none := by
    decide
  have haccept : cellCapabilitySkipReason (shippedRepo "/repo" noCerts) groupedCell = none := by
    decide
  have hconflicts := accepted_cell_has_no_conflicts hnorm hbackends
    (.inr ⟨4433, hport, by decide, by decide⟩) (by simp [hversion]) haccept
  exact ⟨hconflicts true "", hconflicts false ""⟩

end TlsInterop
