import TlsInterop.Backends.Translation

/-!
# The GnuTLS backend

The model of `tls_argv_for_config` in `wrappers/gnutls/wrapper.py`.  A server
with a PSK cipher writes a password file; its path, fresh at every call, is a
parameter.

## Main definitions

* `GnuTLS.tlsArgvForConfig` — the options of `gnutls-serv` and `gnutls-cli`.

## Main results

* `GnuTLS.unsupported_eq_nil` — a supported configuration is applied in full.
-/

namespace TlsInterop.GnuTLS

open Py

/-- `_gnutls_psk_argv`. -/
def gnutlsPskArgv (pskPasswdFile : String) (role : Option Role) (identity secretHex : String) :
    List String :=
  if isServerRole role then ["--pskpasswd", pskPasswdFile]
  else ["--pskusername", identity, "--pskkey", secretHex]

/-- What `_gnutls_psk_passwd_file` writes. -/
def gnutlsPskPasswdLine (identity secretHex : String) : String :=
  identity ++ ":" ++ secretHex ++ "\n"

/-- `_gnutls_join_priority_tokens`: the fragment and the complaints. -/
def gnutlsJoinPriorityTokens (items : List String) (tokenMap : Dict String Json)
    (reset entryPrefix field : String) : String × List String :=
  let entries := (mapTokens tokenMap items).map fun v => entryPrefix ++ v
  let parts := (if reset = "" then [] else [reset]) ++ entries
  (if reset ≠ "" ∧ parts.length < 2 then "" else String.join parts,
    unsupportedTokens "GnuTLS" field tokenMap items)

/-- One round of `_priority_frags_13`. -/
def priorityFrag13 (config : TlsConfig) (caps : Capabilities) (field reset entryPrefix : String) :
    String × List String :=
  match caps.block field, configTokens config field with
  | some block, it :: items => gnutlsJoinPriorityTokens (it :: items) block reset entryPrefix field
  | _, _ => ("", [])

/-- `_cipher_priority_token`. -/
def cipherPriorityToken (rawCipher : String) (mode : TlsMode) (caps : Capabilities) :
    String × List String :=
  if rawCipher = "" then ("", [])
  else match (caps.cipherMap mode).get? (normCatalogToken rawCipher) with
    | some v => (":-CIPHER-ALL:" ++ v, [])
    | none => ("", ["cipher_suite:" ++ reprStr rawCipher ++ " (no GnuTLS priority mapping)"])

/-- `_psk_and_anon_extras`. -/
def pskAndAnonExtras (repoRoot pskPasswdFile : String) (config : TlsConfig) (role : Option Role)
    (caps : Capabilities) (rawCipher : String) : TranslationResult :=
  let psk : TranslationResult :=
    if !usesPsk config rawCipher then {}
    else match caps.pskMaterial rawCipher with
      | some mat => { argv := gnutlsPskArgv pskPasswdFile role mat.1 mat.2 }
      | none => { unsupported := [pskUnsupported] }
  let anon : TranslationResult :=
    if usesAnon config rawCipher && startsWith "dh-anon" (normCatalogToken rawCipher) &&
        isServerRole role then
      { argv := ["--dhparams", repoRoot ++ "/certs/dh2048.pem"] }
    else {}
  psk ++ anon

/-- The base of `_gnutls_priority_parts` for a role and a mode. -/
def priorityBase (caps : Capabilities) (role : Option Role) (mode : TlsMode) : String :=
  let side := if isServerRole role then "server" else "client"
  match (caps.block "gnutls_priority_base").bind fun b => b.get? (side ++ ":" ++ mode.text) with
  | some base => if base.truthy then base.pyStr else ""
  | none => ""

/-- `_gnutls_priority_parts`, joined, with the complaints. -/
def gnutlsPriorityParts (config : TlsConfig) (role : Option Role) (caps : Capabilities)
    (mode : TlsMode) (rawCipher : String) : String × List String :=
  let cipher := cipherPriorityToken rawCipher mode caps
  let frags :=
    match mode with
    | .v13 =>
      let groups := priorityFrag13 config caps "supported_groups" ":-GROUP-ALL" ":+GROUP-"
      let schemes := priorityFrag13 config caps "signature_schemes" "" ":+"
      (groups.1 ++ schemes.1, groups.2 ++ schemes.2)
    | .v12 =>
      (if rawCipher ≠ "" ∧ cipherCatalogIdUsesDsaAuth rawCipher then
        ":+SIGN-DSA-SHA256:+SIGN-DSA-SHA1" else "", [])
  (priorityBase caps role mode ++ cipher.1 ++ frags.1, cipher.2 ++ frags.2)

/-- `tls_argv_for_config` of the GnuTLS wrapper. -/
def tlsArgvForConfig (repoRoot pskPasswdFile : String) (config : TlsConfig) (role : Option Role)
    (caps : Capabilities) : TranslationResult :=
  let mode := tlsMode12Or13 config
  let rawCipher := strip config.cipherSuite
  let prio := gnutlsPriorityParts config role caps mode rawCipher
  pskAndAnonExtras repoRoot pskPasswdFile config role caps rawCipher ++
    { argv := ["--priority", prio.1], unsupported := prio.2 }

/-! ### A supported configuration is applied in full -/

section

variable {config : TlsConfig} {caps : Capabilities} (h : caps.CatalogNormal)
  (hs : Supported caps config)

include h hs

theorem cipherPriorityToken_unsupported :
    (cipherPriorityToken (strip config.cipherSuite) (tlsMode12Or13 config) caps).2 = [] := by
  unfold cipherPriorityToken
  split
  · rfl
  · next hne =>
    obtain ⟨v, hv⟩ := hs.cipher_isSome h hne
    rw [hv]

theorem priorityFrag13_unsupported (hmode : tlsMode12Or13 config = .v13) {dim : String}
    (hdim : dim ∈ tls13OrthogonalDims) (reset entryPrefix : String) :
    (priorityFrag13 config caps dim reset entryPrefix).2 = [] := by
  unfold priorityFrag13
  split
  · next block it items hblock hitems =>
    rw [← hitems]
    exact hs.unsupportedTokens_eq_nil h hmode hdim hblock "GnuTLS"
  · rfl

theorem gnutlsPriorityParts_unsupported (role : Option Role) :
    (gnutlsPriorityParts config role caps (tlsMode12Or13 config) (strip config.cipherSuite)).2
      = [] := by
  unfold gnutlsPriorityParts
  dsimp only
  rw [cipherPriorityToken_unsupported h hs]
  cases hmode : tlsMode12Or13 config with
  | v12 => rfl
  | v13 =>
    dsimp only
    rw [priorityFrag13_unsupported h hs hmode (by decide),
      priorityFrag13_unsupported h hs hmode (by decide)]
    rfl

omit hs in
theorem pskAndAnonExtras_unsupported (repoRoot pskPasswdFile : String) (role : Option Role)
    (rawCipher : String) :
    (pskAndAnonExtras repoRoot pskPasswdFile config role caps rawCipher).unsupported = [] := by
  obtain ⟨mat, hmat⟩ := Option.isSome_iff_exists.mp (h.psk rawCipher)
  unfold pskAndAnonExtras
  dsimp only
  rw [TranslationResult.unsupported_append, hmat]
  dsimp only
  split <;> split <;> rfl

/-- A supported configuration is applied in full. -/
theorem unsupported_eq_nil (repoRoot pskPasswdFile : String) (role : Option Role) :
    (tlsArgvForConfig repoRoot pskPasswdFile config role caps).unsupported = [] := by
  unfold tlsArgvForConfig
  dsimp only
  rw [TranslationResult.unsupported_append, pskAndAnonExtras_unsupported h,
    gnutlsPriorityParts_unsupported h hs]
  rfl

end

end TlsInterop.GnuTLS
