import TlsInterop.Backends.GnuTLS
import TlsInterop.Backends.NSS
import TlsInterop.Backends.OpenSSL
import TlsInterop.Core.Config

/-!
# Parameters a wrapper cannot apply

The model of `catalog_parameter_conflicts` in `core/validation.py`: the check a
wrapper makes on a configuration before it starts a process.

## Main definitions

* `FieldValue`, `TlsConfig.fields` — the fields of the message, by name.
* `unsupportedCliParams` — the blocked fields that are set.
* `tlsArgvForConfig` — the translator of a backend, by its name.
* `catalogParameterConflicts` — blocked fields and untranslated parameters.
-/

namespace TlsInterop

open Py

/-- The value of a message field, by its kind. -/
inductive FieldValue
  | text (s : String)
  | number (n : ℤ)
  | flag (b : Bool)
  | bytes (b : List UInt8)
  | tokens (l : List String)
  deriving DecidableEq, Repr

namespace FieldValue

/-- A byte that `bytes.strip` removes. -/
def isSpaceByte (b : UInt8) : Bool := [9, 10, 11, 12, 13, 32].contains b.toNat

/-- `_config_has_value` on a value. -/
def hasValue : FieldValue → Bool
  | text s => strip s != ""
  | number n => n != 0
  | flag b => b
  | bytes b => b.any fun x => !isSpaceByte x
  | tokens l => l.any fun x => strip x != ""

end FieldValue

/-- The fields of a configuration, by name; the methods of the message are left out. -/
def TlsConfig.fields (config : TlsConfig) : Dict String FieldValue :=
  [("version", .text config.version), ("cipher_suite", .text config.cipherSuite),
    ("server_hostname", .text config.serverHostname), ("port", .number config.port),
    ("certificate", .bytes config.certificate), ("private_key", .bytes config.privateKey),
    ("supported_groups", .tokens config.supportedGroups),
    ("signature_schemes", .tokens config.signatureSchemes),
    ("signature_schemes_cert", .tokens config.signatureSchemesCert),
    ("alpn_protocols", .tokens config.alpnProtocols), ("psk_modes", .tokens config.pskModes),
    ("resumption_step", .text config.resumptionStep), ("repo_root", .text config.repoRoot),
    ("expect_hrr", .flag config.expectHrr)]

/-- `_config_has_value`. -/
def configHasValue (config : TlsConfig) (field : String) : Bool :=
  (config.fields.get? field).any FieldValue.hasValue

/-- `unsupported_cli_params`. -/
def unsupportedCliParams (repo : Repo) (config : TlsConfig) (backend : String) :
    Except PyExc (List String) := do
  let caps ← repo.loadBackendCapabilities (lower (strip backend))
  match caps.runtime "unsupported_tls_fields" with
  | .arr items =>
    return (items.map fun x => strip x.pyStr).filter fun name =>
      name != "" && configHasValue config name
  | _ => return []

/-- `tls_argv_for_config` of `core/catalog.py`: the translator of the named
backend.  The last two parameters are what the GnuTLS translator uses of its
environment. -/
def tlsArgvForConfig (config : TlsConfig) (backend : String) (capabilities : Capabilities)
    (role : Option Role) (repoRoot pskPasswdFile : String) : Except PyExc TranslationResult :=
  let name := lower (strip backend)
  if name = "openssl" then .ok (OpenSSL.tlsArgvForConfig config capabilities)
  else if name = "gnutls" then
    .ok (GnuTLS.tlsArgvForConfig repoRoot pskPasswdFile config role capabilities)
  else if name = "nss" then .ok (NSS.tlsArgvForConfig config capabilities)
  else .error ⟨.moduleNotFoundError, "No module named 'wrappers." ++ name ++ "'"⟩

/-- The items in order, each once: the loops over `seen` and `output`. -/
def uniqueItems (items : List String) : List String :=
  items.foldl (fun output x => if x ∈ output then output else output ++ [x]) []

/-- `catalog_parameter_conflicts`. -/
def catalogParameterConflicts (repo : Repo) (config : TlsConfig) (backend : String)
    (role : Option Role) (capabilities : Capabilities) (pskPasswdFile : String) :
    Except PyExc (List String) := do
  let blocked ← unsupportedCliParams repo config backend
  if capabilities = [] then pure (uniqueItems blocked)
  else
    let result ← tlsArgvForConfig config backend capabilities role repo.root pskPasswdFile
    pure (uniqueItems (blocked ++ result.unsupported))

end TlsInterop
