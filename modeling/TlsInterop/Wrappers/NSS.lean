import TlsInterop.Wrappers.Base

/-!
# The NSS wrapper

The model of `NSSWrapper` of `wrappers/nss/wrapper.py`: its database, the commands of
`selfserv` and `tstclnt`, and what is read off their output.

## Main definitions

* `NSS.ensureNssDbReady`, `NSS.cleanupNssDb` — the database.
* `NSS.startServer`, `NSS.startClient` — the commands.
* `NSS.parseNegotiatedParams`, `NSS.clientEstablishOutputIndicatesFailure` — the output.
* `NSS.backend` — the hooks.
-/

namespace TlsInterop.NSS

open Py Effects

/-! ### Database -/

/-- `nss_nickname_for_prefix`. -/
def nssNicknameForPrefix (certPrefix : String) : String :=
  "interop_" ++ if strip certPrefix = "" then defaultPrefix else strip certPrefix

/-- The identity prefixes NSS can import, in the order of `IDENTITY_PREFIXES`. -/
def importPrefixes : List String :=
  (uniqueItems (schemePrefixRules.map Prod.snd)).filter fun p => p ≠ "ed25519" ∧ p ≠ "ed448"

/-- The rows of the prefixes whose bundle is there. -/
def importRows (host : WrapperHost) : List String → StagingM (List (String × String × String))
  | [] => return []
  | p :: ps => do
    let paths ← catalogIdentityPemPathsForPrefix host p
    let rows ← importRows host ps
    return if paths.1 ≠ "" ∧ paths.2 ≠ "" then
        (nssNicknameForPrefix p, paths.1, paths.2) :: rows
      else rows

/-- `nss_interop_identity_import_rows`. -/
def nssInteropIdentityImportRows (host : WrapperHost) :
    StagingM (List (String × String × String)) := importRows host importPrefixes

/-- `_ensure_nss_db_ready`. -/
def ensureNssDbReady (host : WrapperHost) : StagingM Unit := do
  if (← Eff.getState).nssDbReady then return ()
  let rows ← nssInteropIdentityImportRows host
  Eff.invoke (.ensureNssDbIdentities host.nssdb rows) id
  Eff.modifyState fun st => { st with nssDbReady := true }

/-- `_cleanup_nss_db`. -/
def cleanupNssDb (host : WrapperHost) : StagingM Unit :=
  (Eff.invoke (.rmtree host.nssdb) id).finallyDo
    (Eff.modifyState fun st => { st with nssDbReady := false })

/-- `nss_server_nickname_for_config`. -/
def nssServerNicknameForConfig (host : WrapperHost) (config : TlsConfig) : StagingM String := do
  if cipherCatalogIdUsesDsaAuth (strip config.cipherSuite) then
    let paths ← catalogIdentityPemPathsForPrefix host "dsa_default"
    if paths.1 = "" then
      throw ⟨.runtimeError,
        "No identity PEM for this test (use certs/ from core/gen_interop_certs.sh)"⟩
    return nssNicknameForPrefix "dsa_default"
  return nssNicknameForPrefix (getCertPrefixForConfig config)

/-! ### Commands -/

/-- `nss_tstclnt_sni_name`. -/
def nssTstclntSniName (hostname : String) : String :=
  let h := strip hostname
  if h = "" ∨ h ∈ ["127.0.0.1", "localhost", "::1"] then "server-node"
  else if h.toList.head? = some '[' ∧ h.toList.getLast? = some ']' ∧
      ':' ∈ h.toList.tail.dropLast then "server-node"
  else h

/-- `nss_tstclnt_host_and_extra_argv`. -/
def nssTstclntHostAndExtraArgv (host : WrapperHost) (hostname : String) (port : ℤ) :
    StagingM (String × List String) := do
  let h := if hostname = "" then "localhost" else hostname
  let extra := ["-a", nssTstclntSniName h]
  if host.environ.get? "INTEROP_GNUTLS_NSS_PAIR" ≠ some "true" then return (h, extra)
  match ← Eff.invoke (.getaddrinfo h port) id with
  | some address => return (address, extra)
  | none => return (h, extra)

/-- `_tls_version_range`. -/
def tlsVersionRange (config : TlsConfig) : String :=
  let v := lower (strip config.version)
  if v ∈ ["1.2", "1.2.0", "tls1.2", "tls1_2"] then "tls1.2:tls1.2"
  else if v ∈ ["1.3", "1.3.0", "tls1.3", "tls1_3"] then "tls1.3:tls1.3"
  else "tls1.2:tls1.3"

/-- `_db_spec`, for an absolute path. -/
def dbSpec (host : WrapperHost) : String := "sql:" ++ host.nssdb

/-- `_start_server`. -/
def startServer (host : WrapperHost) (config : TlsConfig) : StagingM Launch := do
  ensureNssDbReady host
  let cwd ← Eff.invoke .getcwd id
  let nickname ← nssServerNicknameForConfig host config
  return {
    cmd := ["stdbuf", "-o0", host.selfserv, "-d", dbSpec host, "-n", nickname, "-p",
        toString config.port, "-V", tlsVersionRange config] ++
      (tlsArgvForConfig config (host.capabilities "nss")).argv ++
      (if testFeatureEnabledInConfig config "mtls" then ["-r"] else []) ++ ["-v", "-v"]
    cwd, message := "NSS Server started" }

/-- `_start_client`. -/
def startClient (host : WrapperHost) (config : TlsConfig) : StagingM Launch := do
  let resume := resumptionOr0rttEnabled config && strip config.resumptionStep == "resume"
  ensureNssDbReady host
  let hostname := if config.serverHostname = "" then "localhost" else config.serverHostname
  let (peer, extra) ← nssTstclntHostAndExtraArgv host hostname config.port
  let cwd ← Eff.invoke .getcwd id
  return {
    cmd := [host.tstclnt, "-d", dbSpec host, "-h", peer] ++
      (tlsArgvForConfig config (host.capabilities "nss")).argv ++ ["-o"] ++
      (if resume then ["-R"] else []) ++
      (if testFeatureEnabledInConfig config "mtls" then ["-n", "interop_rsa_default"] else []) ++
      ["-p", toString config.port] ++ extra ++ ["-V", tlsVersionRange config]
    cwd, message := "NSS Client connected" }

/-! ### Output -/

/-- The version of a session. -/
def versionLine : Regex :=
  .all [.any [.all [.text "TLS", .some1 .space, .text "Version"], .text "Version"], .many .space,
    .text ":", .many .space, .group 1 (.some1 .nonSpace)]

/-- The cipher of a session. -/
def cipherLine : Regex :=
  .all [.text "Cipher", .many .space, .text "Suite", .many .space, .text ":", .many .space,
    .group 1 (.some1 .nonSpace)]

/-- The group of a session. -/
def groupLine : Regex :=
  .all [.any [.all [.text "Negotiated", .some1 .space, .text "ECC"],
      .all [.text "Named", .some1 .space, .text "Curve"], .text "Group"],
    .many .space, .char fun c => c == ':' || c == '=', .many .space, .group 1 (.some1 .nonSpace)]

/-- `_parse_negotiated_params`. -/
def parseNegotiatedParams (stdout : String) : Dict String String :=
  [("protocol_version", versionLine), ("cipher_suite", cipherLine),
    ("named_group", groupLine)].filterMap fun e =>
      (e.2.search stdout).map fun m => (e.1, strip (m 1))

/-- `_CLIENT_FAIL_MARKERS`. -/
def clientFailMarkers : List String :=
  ["SSL_ERROR_NO_CYPHER_OVERLAP", "read from socket failed",
    "Cannot communicate securely with peer", "Handshake failed"]

/-- `_client_establish_output_indicates_failure`. -/
def clientEstablishOutputIndicatesFailure (text : String) : Option String :=
  clientFailMarkers.find? fun marker => contains marker (strip text)

/-- The hooks of `NSSWrapper`. -/
def backend (host : WrapperHost) : CliBackend where
  componentName := "NSS"
  host := host
  capabilities := host.capabilities "nss"
  startServer := startServer host
  startClient := startClient host
  parseNegotiatedParams := parseNegotiatedParams
  clientEstablishOutputIndicatesFailure := clientEstablishOutputIndicatesFailure
  serverTransmitPoll := true
  cleanupDb := cleanupNssDb host

end TlsInterop.NSS
