import TlsInterop.Backends.Translation

/-!
# The NSS backend

The model of `tls_argv_for_config` in `wrappers/nss/wrapper.py`.

## Main definitions

* `NSS.tlsArgvForConfig` — the options of `selfserv` and `tstclnt`.

## Main results

* `NSS.unsupported_eq_nil` — a supported configuration is applied in full.
-/

namespace TlsInterop.NSS

open Py

/-- The `-c` option of `tls_argv_for_config`. -/
def cipherArgv (rawCipher : String) (mode : TlsMode) (caps : Capabilities) : TranslationResult :=
  if rawCipher = "" then {}
  else match (caps.cipherMap mode).get? (normCatalogToken rawCipher) with
    | some v => { argv := ["-c", v] }
    | none => { unsupported :=
        ["cipher_suite:" ++ reprStr rawCipher ++ " (no NSS -c mapping)"] }

/-- `_nss_anon_argv`. -/
def nssAnonArgv (config : TlsConfig) : List String :=
  let rawCipher := strip config.cipherSuite
  if !usesAnon config rawCipher then []
  else if startsWith "ecdh-anon" (normCatalogToken rawCipher) then ["-H", "2"]
  else ["-H", "1"]

/-- `_nss_psk_z_argv`. -/
def nssPskZArgv (config : TlsConfig) (caps : Capabilities) : List String :=
  if !testFeatureEnabledInConfig config "psk" || tlsMode12Or13 config ≠ .v13 then []
  else
    let rawCipher := strip config.cipherSuite
    let cipherForPsk :=
      if rawCipher ≠ "" ∧ cipherCatalogIdRequiresPsk rawCipher then rawCipher
      else "psk-aes-128-gcm-sha256"
    match caps.pskMaterial cipherForPsk with
    | some mat => ["-z", "0x" ++ mat.2 ++ ":" ++ mat.1]
    | none => []

/-- `_mapped_csv_argv`. -/
def mappedCsvArgv (config : TlsConfig) (caps : Capabilities) (field flag : String) :
    TranslationResult :=
  let items := configTokens config field
  match caps.block field with
  | none => {}
  | some block =>
    let parts := mapTokens block items
    { argv := if parts = [] then [] else [flag, String.intercalate "," parts]
      unsupported := unsupportedTokens "NSS" field block items }

/-- `tls_argv_for_config` of the NSS wrapper. -/
def tlsArgvForConfig (config : TlsConfig) (caps : Capabilities) : TranslationResult :=
  let mode := tlsMode12Or13 config
  let fields : TranslationResult :=
    match mode with
    | .v13 => mappedCsvArgv config caps "supported_groups" "-I" ++
        mappedCsvArgv config caps "signature_schemes" "-J"
    | .v12 => {}
  cipherArgv (strip config.cipherSuite) mode caps ++ fields ++
    { argv := nssAnonArgv config ++ nssPskZArgv config caps }

/-! ### A supported configuration is applied in full -/

section

variable {config : TlsConfig} {caps : Capabilities} (h : caps.CatalogNormal)
  (hs : Supported caps config)

include h hs

theorem cipherArgv_unsupported :
    (cipherArgv (strip config.cipherSuite) (tlsMode12Or13 config) caps).unsupported = [] := by
  unfold cipherArgv
  split
  · rfl
  · next hne =>
    obtain ⟨v, hv⟩ := hs.cipher_isSome h hne
    rw [hv]

theorem mappedCsvArgv_unsupported (hmode : tlsMode12Or13 config = .v13) {dim : String}
    (hdim : dim ∈ tls13OrthogonalDims) (flag : String) :
    (mappedCsvArgv config caps dim flag).unsupported = [] := by
  unfold mappedCsvArgv
  dsimp only
  split
  · rfl
  · next block hblock => exact hs.unsupportedTokens_eq_nil h hmode hdim hblock "NSS"

/-- A supported configuration is applied in full. -/
theorem unsupported_eq_nil : (tlsArgvForConfig config caps).unsupported = [] := by
  unfold tlsArgvForConfig
  simp only [TranslationResult.unsupported_append, cipherArgv_unsupported h hs]
  cases hmode : tlsMode12Or13 config with
  | v12 => rfl
  | v13 =>
    dsimp only
    rw [TranslationResult.unsupported_append, mappedCsvArgv_unsupported h hs hmode (by decide),
      mappedCsvArgv_unsupported h hs hmode (by decide)]
    rfl

end

end TlsInterop.NSS
