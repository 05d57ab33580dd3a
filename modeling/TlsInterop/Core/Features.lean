import TlsInterop.Core.Catalog

/-!
# Cipher, group and signature metadata

The model of `core/features.py`, with the two PSK queries of `core/catalog.py`
that need it.  The regular expressions of the source run on normalised tokens,
which end in no newline, so `(^|-)w(-|$)` asks for a dash-separated word.

## Main definitions

* `cipherCatalogIdRequiresPsk`, `cipherCatalogIdRequiresAnon`,
  `cipherRequiredTestFeature` — the credentials a cipher id asks for.
* `tls12GroupSemanticSkip`, `tls12SigSemanticSkip` — the TLS 1.2 consistency checks.
* `parseTestFeaturesEnabled` — the enabled features of a cell.
* `Capabilities.pskMaterial` — identity and key for a PSK cipher.
-/

namespace TlsInterop

open Py

/-- The kinds of TLS 1.2 key exchange `Tls12CipherMetadata.kx` tells apart. -/
inductive KeyExchange
  | ecdhe
  | dhe
  | staticRsa
  | unknown
  deriving DecidableEq, Repr

/-- The authentication kinds of `Tls12CipherMetadata.au` and `signature_scheme_auth_kind`. -/
inductive AuthKind
  | rsa
  | ecdsa
  | dsa
  | eddsa
  | unknown
  deriving DecidableEq, Repr

/-- `Tls12CipherMetadata`. -/
structure Tls12CipherMetadata where
  kx : KeyExchange
  au : AuthKind
  deriving DecidableEq, Repr

/-- `(^|-)word(-|$)` matches in `tok`. -/
def hasDashWord (word tok : String) : Bool := (split '-' tok).contains word

/-- `_tls12_kx_from_token`. -/
def tls12KxFromToken (tok : String) : KeyExchange :=
  if contains "ecdhe" tok then .ecdhe
  else if hasDashWord "dhe" tok then .dhe
  else if contains "rsa" tok || startsWith "aes" tok then .staticRsa
  else .unknown

/-- `_tls12_au_from_token`. -/
def tls12AuFromToken (tok : String) : AuthKind :=
  if hasDashWord "dss" tok then .dsa
  else if contains "ecdsa" tok then .ecdsa
  else if contains "rsa" tok || startsWith "aes" tok then .rsa
  else .unknown

/-- `tls12_cipher_metadata_from_name`. -/
def tls12CipherMetadataFromName (cipherName : String) : Tls12CipherMetadata :=
  let tok := removeChar ' ' (replaceChar '_' '-' (lower (strip cipherName)))
  if tok = "" || startsWith "tls-" tok then ⟨.unknown, .unknown⟩
  else ⟨tls12KxFromToken tok, tls12AuFromToken tok⟩

/-- `cipher_catalog_id_requires_psk`. -/
def cipherCatalogIdRequiresPsk (cipherId : String) : Bool :=
  hasDashWord "psk" (normCatalogToken cipherId)

/-- `cipher_catalog_id_requires_anon`. -/
def cipherCatalogIdRequiresAnon (cipherId : String) : Bool :=
  let c := normCatalogToken cipherId
  hasDashWord "anon" c || startsWith "adh-" c

/-- `cipher_required_test_feature`. -/
def cipherRequiredTestFeature (cipherId : String) : Option String :=
  if cipherCatalogIdRequiresPsk cipherId then some "psk"
  else if cipherCatalogIdRequiresAnon cipherId then some "anonymous"
  else none

/-- `cipher_catalog_id_uses_dsa_auth`. -/
def cipherCatalogIdUsesDsaAuth (cipherCatalogId : String) : Bool :=
  (split '-' (replaceChar '_' '-' (lower (strip cipherCatalogId)))).contains "dss"

/-- `(^|-)(rsa|dhe|ecdhe)-psk` matches: one of the three words, then a word
starting with `psk`. -/
def hasAuthenticatedPsk (parts : List String) : Bool :=
  (parts.zip parts.tail).any fun p =>
    ["rsa", "dhe", "ecdhe"].contains p.1 && startsWith "psk" p.2

/-- `cipher_catalog_id_requires_identity_pem`. -/
def cipherCatalogIdRequiresIdentityPem (cipherId : String) : Bool :=
  let c := normCatalogToken cipherId
  if c = "" || cipherCatalogIdRequiresAnon c then false
  else if cipherCatalogIdRequiresPsk c then hasAuthenticatedPsk (split '-' c)
  else if cipherCatalogIdUsesDsaAuth c then true
  else if contains "ecdsa" c || contains "ed25519" c || contains "ed448" c then true
  else (split '-' c).any fun w => startsWith "rsa" w

/-- `parse_test_features_enabled`: the members of the set of enabled features. -/
def parseTestFeaturesEnabled (raw : String) : List String :=
  if strip raw = "" then [] else (csvTokens raw).map lower

/-- The substrings `psk_key_bits_for_cipher` looks for: the alternatives of its pattern. -/
def aes256Markers : List String :=
  ["aes256", "aes-256", "aria256", "aria-256", "camellia256", "camellia-256"] ++
    (["gcm", "ccm", "cbc"].flatMap fun m =>
      ["-256-" ++ m, "-256/" ++ m, "/256-" ++ m, "/256/" ++ m])

/-- `psk_key_bits_for_cipher`. -/
def pskKeyBitsForCipher (cipherId : String) : ℕ :=
  let c := normCatalogToken cipherId
  if contains "chacha20" c then 256
  else if aes256Markers.any fun m => contains m c then 256
  else 128

/-- `signature_scheme_auth_kind`. -/
def signatureSchemeAuthKind (token : String) : AuthKind :=
  let t := removeChar '-' (removeChar '_' (lower (strip token)))
  if t = "" then .unknown
  else if startsWith "dsa" t then .dsa
  else if contains "rsa" t then .rsa
  else if contains "ecdsa" t then .ecdsa
  else if ["ed25519", "ed448", "eddsa"].any fun p => startsWith p t then .eddsa
  else .unknown

/-- The families `group_family` tells apart. -/
inductive GroupFamily
  | ec
  | ffdhe
  | other
  deriving DecidableEq, Repr

/-- `group_family`. -/
def groupFamily (token : String) : GroupFamily :=
  let t := replaceChar '_' '-' (lower (strip token))
  if t = "" then .other
  else if startsWith "ffdhe" t then .ffdhe
  else if (["secp", "x25519", "x448", "brainpool", "xyber", "mlkem"].any fun p => startsWith p t)
      || contains "mlkem" t then .ec
  else .other

/-- `tls12_group_semantic_skip`. -/
def tls12GroupSemanticSkip (cipherId : String) (grpTokens : List String) : Option String :=
  if grpTokens = [] then none
  else
    let kx := (tls12CipherMetadataFromName cipherId).kx
    if kx = .staticRsa then some "TLS 1.2 static RSA cipher does not support groups"
    else if kx = .ecdhe && grpTokens.any fun g => groupFamily g ≠ .ec then
      some "TLS 1.2 ECDHE cipher requires EC groups (secp*/x25519/x448)"
    else if kx = .dhe && grpTokens.any fun g => groupFamily g ≠ .ffdhe then
      some "TLS 1.2 DHE cipher requires FFDHE groups"
    else none

/-- `tls12_sig_semantic_skip`. -/
def tls12SigSemanticSkip (cipherId : String) (sigTokens : List String) : Option String :=
  if sigTokens = [] then none
  else
    let au := (tls12CipherMetadataFromName cipherId).au
    if au = .unknown then none
    else if sigTokens.any fun s =>
        signatureSchemeAuthKind s ≠ .unknown && au ≠ signatureSchemeAuthKind s then
      some "Signature scheme type conflicts with TLS 1.2 cipher authentication"
    else none

/-! ### PSK material -/

namespace Capabilities

/-- `str(entry.get(field) or ...)`: the text of a field, empty when it is falsy. -/
def entryText (entry : Dict String Json) (field : String) : String :=
  match entry.get? field with
  | some v => if v.truthy then v.pyStr else ""
  | none => ""

/-- `psk_secret_hex`. -/
def pskSecretHex (caps : Capabilities) (cipherId : String) : Option String :=
  let entry := caps.featureEntry "psk"
  let bits := pskKeyBitsForCipher cipherId
  let field := if bits ≥ 256 then "secret_hex_256" else "secret_hex_128"
  let own := entryText entry field
  let secretHex := strip (if own = "" then entryText entry "secret_hex" else own)
  if secretHex = "" || secretHex.length ≠ bits / 4 then none else some secretHex

/-- `psk_material`: the identity and the key. -/
def pskMaterial (caps : Capabilities) (cipherId : String) : Option (String × String) :=
  let own := entryText (caps.featureEntry "psk") "identity"
  let identity := strip (if own = "" then "interop" else own)
  (caps.pskSecretHex cipherId).map fun secretHex => (identity, secretHex)

end Capabilities

end TlsInterop
