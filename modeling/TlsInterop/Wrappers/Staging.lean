import TlsInterop.Core.Conflicts
import TlsInterop.Effects.Eff
import TlsInterop.Py.Output

/-!
# What a wrapper does on the file system

The helpers of `wrappers/utils.py` and `wrappers/base.py` that prepare files for a
CLI process or remove them again.  They make calls of their own, none of which
can start or end a CLI process.

## Main definitions

* `StagingCall`, `StagingAns` — the calls and how they are answered.
* `Staging`, `StagingM` — the files a wrapper keeps track of, and the programs on them.
* `WrapperHost` — what a wrapper process finds at its start.
* `Launch` — a command that is ready to be started.
* `ensureCertPaths` — the identity of a process.
-/

namespace TlsInterop

open Py Effects

/-! ### Calls -/

/-- The calls that prepare and remove files. -/
inductive StagingCall
  /-- `os.getcwd`. -/
  | getcwd
  /-- `Path.is_file`. -/
  | isFile (path : String)
  /-- `os.path.isfile`, which never raises. -/
  | osIsFile (path : String)
  /-- `Path.resolve`. -/
  | resolve (path : String)
  /-- Open a staging file under `/tmp` and write it. -/
  | writeFile (path : String) (content : List UInt8)
  /-- `Path.write_text`, of a session artifact. -/
  | writeText (path : String) (content : String)
  /-- `os.chmod` with mode 0600, its `OSError` suppressed. -/
  | chmod (path : String)
  /-- `os.remove`, its `OSError` suppressed. -/
  | remove (path : String)
  /-- `uuid.uuid4().hex[:8]`. -/
  | uuidHex
  /-- `socket.getaddrinfo`: the first address, if any; its `OSError` suppressed. -/
  | getaddrinfo (host : String) (port : ℤ)
  /-- `_ensure_nss_db_identities`, which runs its tools to their end. -/
  | ensureNssDbIdentities (nssdb : String) (identities : List (String × String × String))
  /-- `shutil.rmtree`, errors ignored, of the absolute path. -/
  | rmtree (path : String)
  deriving DecidableEq

/-- How each call is answered. -/
abbrev StagingAns : StagingCall → Type
  | .getcwd => Except PyExc String
  | .isFile _ => Except PyExc Bool
  | .osIsFile _ => Bool
  | .resolve _ => Except PyExc String
  | .writeFile .. => Except PyExc Unit
  | .writeText .. => Except PyExc Unit
  | .chmod _ => Unit
  | .remove _ => Unit
  | .uuidHex => String
  | .getaddrinfo .. => Except PyExc (Option String)
  | .ensureNssDbIdentities .. => Except PyExc Unit
  | .rmtree _ => Except PyExc Unit

instance : (q : StagingCall) → DecidableEq (StagingAns q)
  | .getcwd | .resolve _ => inferInstanceAs (DecidableEq (Except PyExc String))
  | .isFile _ => inferInstanceAs (DecidableEq (Except PyExc Bool))
  | .osIsFile _ => inferInstanceAs (DecidableEq Bool)
  | .writeFile .. | .writeText .. => inferInstanceAs (DecidableEq (Except PyExc Unit))
  | .chmod _ | .remove _ => inferInstanceAs (DecidableEq Unit)
  | .uuidHex => inferInstanceAs (DecidableEq String)
  | .getaddrinfo .. => inferInstanceAs (DecidableEq (Except PyExc (Option String)))
  | .ensureNssDbIdentities .. | .rmtree _ => inferInstanceAs (DecidableEq (Except PyExc Unit))

/-- The files a wrapper keeps track of: `_active_temp_files`, and `_nss_db_ready` of
the NSS wrapper. -/
structure Staging where
  activeTempFiles : List String := []
  nssDbReady : Bool := false
  deriving DecidableEq, Repr

/-- A program on files. -/
abbrev StagingM (α : Type) : Type := Eff StagingAns PyExc Staging α

/-- What a wrapper process finds at its start: the repository, `os.environ`, and the
database and tools of the NSS wrapper. -/
structure WrapperHost where
  repo : Repo
  environ : Dict String String := []
  nssdb : String := ""
  selfserv : String := "selfserv"
  tstclnt : String := "tstclnt"

/-- `CAPABILITIES` of a wrapper module. -/
def WrapperHost.capabilities (host : WrapperHost) (name : String) : Capabilities :=
  (host.repo.wrappers.get? name).getD []

/-- A command that is ready to be started, with the message of its success. -/
structure Launch where
  cmd : List String
  cwd : String
  env : Option (Dict String String) := none
  message : String

/-! ### Helpers of `wrappers/utils.py` -/

/-- `_interop_slot_part`. -/
def interopSlotPart (host : WrapperHost) : String :=
  let slot := strip ((host.environ.get? "INTEROP_SLOT_ID").getD "")
  if slot = "" then "" else "s" ++ slot ++ "_"

/-- `interop_staging_pem_paths`. -/
def interopStagingPemPaths (host : WrapperHost) (filePrefix : String) :
    StagingM (String × String) := do
  let sessionId ← Eff.call .uuidHex
  let base := "/tmp/interop_" ++ filePrefix ++ "_" ++ interopSlotPart host ++ sessionId
  return (base ++ "_cert.pem", base ++ "_key.pem")

/-- `interop_staging_sidecar_path`, for a name `stem.ext`. -/
def interopStagingSidecarPath (host : WrapperHost) (filePrefix stem ext : String) :
    StagingM String := do
  let sessionId ← Eff.call .uuidHex
  return "/tmp/interop_" ++ filePrefix ++ "_" ++ stem ++ "_" ++ interopSlotPart host ++ sessionId ++
    "." ++ ext

/-- `alpn_cli_protocol_list`. -/
def alpnCliProtocolList (config : TlsConfig) : String :=
  String.intercalate "," (repeatedConfigTokens config.alpnProtocols)

/-- `resumption_or_0rtt_enabled`. -/
def resumptionOr0rttEnabled (config : TlsConfig) : Bool :=
  testFeatureEnabledInConfig config "resumption" || testFeatureEnabledInConfig config "0rtt"

/-- The directory of the session artifacts. -/
def sessionStateRoot (host : WrapperHost) (raw : String) : StagingM String :=
  if raw = "" then return host.repo.root else Eff.invoke (.resolve raw) id

/-- `tls_session_state_paths`. -/
def tlsSessionStatePaths (host : WrapperHost) (config : TlsConfig) :
    StagingM (String × String) := do
  let root ← sessionStateRoot host (strip config.repoRoot)
  return (root ++ "/session.ticket", root ++ "/early_data.txt")

/-- `write_early_data_file`. -/
def writeEarlyDataFile (host : WrapperHost) (config : TlsConfig) : StagingM String := do
  let paths ← tlsSessionStatePaths host config
  Eff.invoke (.writeText paths.2 "Hello 0-RTT") id
  return paths.2

/-- The option for early data of a resumed session, with its payload file. -/
def earlyDataArgv (host : WrapperHost) (config : TlsConfig) (flag : String) :
    StagingM (List String) :=
  if testFeatureEnabledInConfig config "0rtt" then return [flag, ← writeEarlyDataFile host config]
  else return []

/-- The characters `shlex.quote` leaves unquoted. -/
def isShellSafe (c : Char) : Bool :=
  c.toNat < 128 && (c.isAlphanum || "_@%+=:,./-".toList.contains c)

/-- `shlex.quote`. -/
def shlexQuote (s : String) : String :=
  if s = "" then "''"
  else if s.toList.all isShellSafe then s
  else
    let body := s.toList.flatMap fun c => if c = '\'' then "'\"'\"'".toList else [c]
    "'" ++ String.ofList body ++ "'"

/-- `format_executed_command`, for an absolute working directory. -/
def formatExecutedCommand (cmd : List String) (cwd : String) : String :=
  "cwd=" ++ shlexQuote cwd ++ " " ++ String.intercalate " " (cmd.map shlexQuote)

/-! ### Identities -/

/-- `catalog_identity_pem_paths_for_prefix`. -/
def catalogIdentityPemPathsForPrefix (host : WrapperHost) (certPrefix : String) :
    StagingM (String × String) := do
  let p := if strip certPrefix = "" then defaultPrefix else strip certPrefix
  let cert := host.repo.root ++ "/certs/" ++ p ++ ".crt"
  let key := host.repo.root ++ "/certs/" ++ p ++ ".key"
  if !(← Eff.invoke (.isFile cert) id) then return ("", "")
  if !(← Eff.invoke (.isFile key) id) then return ("", "")
  return (← Eff.invoke (.resolve cert) id, ← Eff.invoke (.resolve key) id)

/-- `get_cert_prefix_for_config`. -/
def getCertPrefixForConfig (config : TlsConfig) : String :=
  let schemes := repeatedConfigTokens config.signatureSchemes
  if schemes ≠ [] then getCertPrefixForSchemes schemes
  else getCertPrefixForScheme config.cipherSuite

/-- `server_trust_signature_schemes_tokens`. -/
def serverTrustSignatureSchemesTokens (config : TlsConfig) : List String :=
  let cert := repeatedConfigTokens config.signatureSchemesCert
  if cert ≠ [] then cert else repeatedConfigTokens config.signatureSchemes

/-- A `WrapperSetupError`. -/
def setupError (msg : String) : PyExc := ⟨.wrapperSetupError, msg⟩

/-- The complaint of `_ensure_cert_paths`. -/
def noIdentityPem : PyExc :=
  setupError ("No identity PEM for this test (set certificate/private_key, or use certs/ " ++
    "from core/gen_interop_certs.sh)")

/-- `_track_temp_file`. -/
def trackTempFile (path : String) : StagingM Unit :=
  Eff.modifyState fun st =>
    { st with activeTempFiles :=
        if path ∈ st.activeTempFiles then st.activeTempFiles else st.activeTempFiles ++ [path] }

/-- `_write_inline_cert_key`. -/
def writeInlineCertKey (host : WrapperHost) (componentName : String) (cert key : List UInt8) :
    StagingM (String × String) := do
  let paths ← interopStagingPemPaths host (removeChar ' ' (lower (strip componentName)))
  Eff.invoke (.writeFile paths.1 cert) id
  Eff.invoke (.writeFile paths.2 key) id
  Eff.call (StagingCall.chmod paths.2)
  trackTempFile paths.1
  trackTempFile paths.2
  return paths

/-- `_cleanup_ephemeral_pem_if_needed`. -/
def cleanupEphemeralPemIfNeeded : StagingM Unit := do
  let st ← Eff.getState
  Eff.modifyState fun st => { st with activeTempFiles := [] }
  st.activeTempFiles.forM fun path => Eff.call (StagingCall.remove path)

/-- Both PEM texts of the configuration are there. -/
def hasInlinePem (config : TlsConfig) : Bool :=
  FieldValue.hasValue (.bytes config.certificate) && FieldValue.hasValue (.bytes config.privateKey)

/-- `_dsa_catalog_identity_pem`. -/
def dsaCatalogIdentityPem (host : WrapperHost) (config : TlsConfig) :
    StagingM (Option (String × String)) := do
  if !cipherCatalogIdUsesDsaAuth config.cipherSuite then return none
  let paths ← catalogIdentityPemPathsForPrefix host "dsa_default"
  if paths.1 ≠ "" ∧ paths.2 ≠ "" then return some paths
  if hasInlinePem config then return none
  throw noIdentityPem

/-- `_ensure_cert_paths`. -/
def ensureCertPaths (host : WrapperHost) (componentName : String) (config : TlsConfig) :
    StagingM (String × String) := do
  if let some paths ← dsaCatalogIdentityPem host config then return paths
  if hasInlinePem config then
    return ← writeInlineCertKey host componentName config.certificate config.privateKey
  let paths ← catalogIdentityPemPathsForPrefix host (getCertPrefixForConfig config)
  if paths.1 ≠ "" ∧ paths.2 ≠ "" then return paths
  throw noIdentityPem

/-- The certificate options of a client, when the server asks for one. -/
def clientIdentityArgv (host : WrapperHost) (componentName : String) (config : TlsConfig)
    (certFlag keyFlag : String) : StagingM (List String) := do
  if !testFeatureEnabledInConfig config "mtls" then return []
  let identity ← ensureCertPaths host componentName config
  return [certFlag, identity.1, keyFlag, identity.2]

/-- `path and os.path.isfile(path)`. -/
def isFoundFile (path : String) : StagingM Bool :=
  if path = "" then return false else Eff.call (StagingCall.osIsFile path)

end TlsInterop
