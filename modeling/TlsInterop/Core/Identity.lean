import TlsInterop.Core.Features

/-!
# Identity certificates

The model of `core/identity.py`: which certificate bundle a signature scheme or
a cipher id selects.

## Main definitions

* `getCertPrefixForScheme`, `getCertPrefixForSchemes` — the bundle prefix.
* `Repo.identityPemPresent`, `Repo.readIdentityPemBytes` — the bundle on disk.
-/

namespace TlsInterop

open Py

/-- `_SCHEME_PREFIX_RULES`: needle and prefix, the first match wins. -/
def schemePrefixRules : List (String × String) :=
  [("ed25519", "ed25519"), ("ed448", "ed448"), ("secp521", "ecdsa_p521"),
    ("secp384", "ecdsa_p384"), ("ecdsa", "ecdsa_p256"), ("dss", "dsa_default"),
    ("dsa", "dsa_default"), ("rsa-pss-pss", "rsa_pss_pure"), ("rsa", "rsa_default")]

/-- `DEFAULT_PREFIX`. -/
def defaultPrefix : String := "rsa_default"

/-- `get_cert_prefix_for_scheme`. -/
def getCertPrefixForScheme (scheme : String) : String :=
  let tok := replaceChar '_' '-' (removeChar ' ' (lower (strip scheme)))
  if tok = "" then defaultPrefix
  else match schemePrefixRules.find? fun r => contains r.1 tok with
    | some r => r.2
    | none => defaultPrefix

/-- `get_cert_prefix_for_schemes`: the first listed scheme wins. -/
def getCertPrefixForSchemes (schemes : List String) : String :=
  match schemes.find? fun s => strip s ≠ "" with
  | some s => getCertPrefixForScheme s
  | none => defaultPrefix

namespace Repo

/-- The bundle `certs/{prefix}.crt`, `certs/{prefix}.key`, when both files exist. -/
def identityBundle (repo : Repo) (certPrefix : String) : Option (List UInt8 × List UInt8) :=
  let p := strip certPrefix
  repo.certs (if p = "" then defaultPrefix else p)

/-- `identity_pem_present`. -/
def identityPemPresent (repo : Repo) (certPrefix : String) : Bool :=
  (repo.identityBundle certPrefix).isSome

/-- `read_identity_pem_bytes`. -/
def readIdentityPemBytes (repo : Repo) (certPrefix : String) : List UInt8 × List UInt8 :=
  (repo.identityBundle certPrefix).getD ([], [])

end Repo

end TlsInterop
