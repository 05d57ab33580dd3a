import TlsInterop.Backends.Translation

/-!
# The OpenSSL backend

The model of `tls_argv_for_config` in `wrappers/openssl/wrapper.py`.

## Main definitions

* `OpenSSL.tlsArgvForConfig` — the options of `s_server` and `s_client`.

## Main results

* `OpenSSL.unsupported_eq_nil` — a supported configuration is applied in full.
-/

namespace TlsInterop.OpenSSL

open Py

/-- `_openssl_cipher_needs_legacy_dss`. -/
def cipherNeedsLegacyDss (cipherSuite : String) : Bool :=
  let c := normCatalogToken cipherSuite
  c != "" && cipherCatalogIdUsesDsaAuth c

/-- `_append_seclevel_zero`. -/
def appendSeclevelZero (cipherVal : String) : String :=
  if contains ":@SECLEVEL" cipherVal then cipherVal else cipherVal ++ ":@SECLEVEL=0"

/-- `_tls_version_argv`. -/
def tlsVersionArgv (caps : Capabilities) (mode : TlsMode) : List String :=
  match caps.block "tls_version" with
  | none => []
  | some tv =>
    match tv.get? mode.text with
    | some (.arr flags) => flags.map Json.pyStr
    | some flag => if flag.truthy then [flag.pyStr] else []
    | none => []

/-- `_cipher_argv`. -/
def cipherArgv (config : TlsConfig) (rawCipher : String) (mode : TlsMode) (caps : Capabilities) :
    TranslationResult :=
  if rawCipher = "" then {}
  else match (caps.cipherMap mode).get? (normCatalogToken rawCipher) with
    | none => { unsupported :=
        ["cipher_suite:" ++ reprStr rawCipher ++ " (no TLS " ++ mode.text ++ " mapping)"] }
    | some cipherVal =>
      match mode with
      | .v13 => { argv := ["-ciphersuites", cipherVal] }
      | .v12 =>
        if usesAnon config rawCipher || cipherNeedsLegacyDss rawCipher then
          { argv := ["-cipher", appendSeclevelZero cipherVal] }
        else { argv := ["-cipher", cipherVal] }

/-- `_psk_argv`. -/
def pskArgv (config : TlsConfig) (caps : Capabilities) (rawCipher : String) : TranslationResult :=
  if !usesPsk config rawCipher then {}
  else match caps.pskMaterial rawCipher with
    | some mat => { argv := ["-psk_identity", mat.1, "-psk", mat.2] }
    | none => { unsupported := [pskUnsupported] }

/-- `_mapped_colon_argv`. -/
def mappedColonArgv (config : TlsConfig) (caps : Capabilities) (field flag : String) :
    TranslationResult :=
  let items := configTokens config field
  match caps.block field with
  | none => {}
  | some block =>
    let mapped := mapTokens block items
    { argv := if mapped = [] then [] else [flag, String.intercalate ":" mapped]
      unsupported := unsupportedTokens "openssl" field block items }

/-- `tls_argv_for_config` of the OpenSSL wrapper. -/
def tlsArgvForConfig (config : TlsConfig) (caps : Capabilities) : TranslationResult :=
  let mode := tlsMode12Or13 config
  let rawCipher := strip config.cipherSuite
  let fields : TranslationResult :=
    match mode with
    | .v13 => mappedColonArgv config caps "supported_groups" "-groups" ++
        mappedColonArgv config caps "signature_schemes" "-sigalgs"
    | .v12 => {}
  { argv := tlsVersionArgv caps mode } ++ cipherArgv config rawCipher mode caps ++
    pskArgv config caps rawCipher ++ fields

/-! ### A supported configuration is applied in full -/

section

variable {config : TlsConfig} {caps : Capabilities} (h : caps.CatalogNormal)
  (hs : Supported caps config)

include h hs

theorem cipherArgv_unsupported :
    (cipherArgv config (strip config.cipherSuite) (tlsMode12Or13 config) caps).unsupported = [] := by
  unfold cipherArgv
  split
  · rfl
  · next hne =>
    obtain ⟨v, hv⟩ := hs.cipher_isSome h hne
    rw [hv]
    dsimp only
    cases tlsMode12Or13 config with
    | v13 => rfl
    | v12 => dsimp only; split <;> rfl

omit hs in
theorem pskArgv_unsupported (rawCipher : String) :
    (pskArgv config caps rawCipher).unsupported = [] := by
  unfold pskArgv
  split
  · rfl
  · obtain ⟨mat, hmat⟩ := Option.isSome_iff_exists.mp (h.psk rawCipher)
    rw [hmat]

theorem mappedColonArgv_unsupported (hmode : tlsMode12Or13 config = .v13) {dim : String}
    (hdim : dim ∈ tls13OrthogonalDims) (flag : String) :
    (mappedColonArgv config caps dim flag).unsupported = [] := by
  unfold mappedColonArgv
  dsimp only
  split
  · rfl
  · next block hblock => exact hs.unsupportedTokens_eq_nil h hmode hdim hblock "openssl"

/-- A supported configuration is applied in full. -/
theorem unsupported_eq_nil : (tlsArgvForConfig config caps).unsupported = [] := by
  unfold tlsArgvForConfig
  simp only [TranslationResult.unsupported_append, cipherArgv_unsupported h hs,
    pskArgv_unsupported h]
  cases hmode : tlsMode12Or13 config with
  | v12 => rfl
  | v13 =>
    dsimp only
    rw [TranslationResult.unsupported_append, mappedColonArgv_unsupported h hs hmode (by decide),
      mappedColonArgv_unsupported h hs hmode (by decide)]
    rfl

end

end TlsInterop.OpenSSL
