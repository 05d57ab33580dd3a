import TlsInterop.Wrappers.Base

/-!
# The GnuTLS wrapper

The model of `GnuTLSWrapper` of `wrappers/gnutls/wrapper.py`: the commands of
`gnutls-serv` and `gnutls-cli`, and what is read off their output.

## Main definitions

* `GnuTLS.stagePskPasswdFile` — the password file a translation may write.
* `GnuTLS.startServer`, `GnuTLS.startClient` — the commands.
* `GnuTLS.parseNegotiatedParams`, `GnuTLS.inferHrrFromNegotiation` — the output.
* `GnuTLS.backend` — the hooks.
-/

namespace TlsInterop.GnuTLS

open Py Effects

/-- What `tls_argv_for_config` writes: the path of the PSK password file of a server. -/
def stagePskPasswdFile (host : WrapperHost) (config : TlsConfig) (role : Role) :
    StagingM String := do
  let caps := host.capabilities "gnutls"
  let rawCipher := strip config.cipherSuite
  if !(usesPsk config rawCipher && isServerRole (some role)) then return ""
  match caps.pskMaterial rawCipher with
  | none => return ""
  | some mat =>
    let path ← interopStagingSidecarPath host "gnutls" "pskpasswd" "txt"
    Eff.invoke (.writeFile path (gnutlsPskPasswdLine mat.1 mat.2).toUTF8.toList) id
    return path

/-- `_priority_and_mid`. -/
def priorityAndMid (host : WrapperHost) (config : TlsConfig) (role : Role) :
    StagingM (String × List String) := do
  let path ← stagePskPasswdFile host config role
  let argv := (tlsArgvForConfig host.repo.root path config (some role)
    (host.capabilities "gnutls")).argv
  let prio := argv.getLastD ""
  if prio = "" then throw ⟨.runtimeError, "empty GnuTLS priority string"⟩
  return (prio, argv.dropLast.dropLast)

/-- The trust PEM of the signature schemes. -/
def trustCafile (host : WrapperHost) (config : TlsConfig) : StagingM String := do
  let trust ← catalogIdentityPemPathsForPrefix host
    (getCertPrefixForSchemes (serverTrustSignatureSchemesTokens config))
  if ← isFoundFile trust.1 then return trust.1
  throw (setupError
    "No trust PEM under certs/ for this client (run core/gen_interop_certs.sh)")

/-- `_client_x509_cafile`. -/
def clientX509Cafile (host : WrapperHost) (config : TlsConfig) : StagingM String := do
  if !cipherCatalogIdUsesDsaAuth config.cipherSuite then return ← trustCafile host config
  let dsa ← catalogIdentityPemPathsForPrefix host "dsa_default"
  if ← isFoundFile dsa.1 then return dsa.1
  trustCafile host config

/-- `_client_session_bits`. -/
def clientSessionBits (host : WrapperHost) (config : TlsConfig) :
    StagingM (List String × Dict String String) := do
  if !resumptionOr0rttEnabled config then return ([], [])
  let paths ← tlsSessionStatePaths host config
  let step := strip config.resumptionStep
  if step = "save" then
    return (["--resume", "--waitresumption"], [("GNUTLS_INTEROP_SESSION_OUT", paths.1)])
  if step = "resume" then
    let early ← earlyDataArgv host config "--earlydata"
    return (early, [("GNUTLS_INTEROP_SESSION_IN", paths.1)])
  return ([], [])

/-- `_gnutls_popen_env`. -/
def gnutlsPopenEnv (host : WrapperHost) (sessionEnv : Dict String String) :
    StagingM (Dict String String) := do
  let env := sessionEnv.foldl (fun env e => env.set e.1 e.2) host.environ
  let hook := host.repo.root ++ "/wrappers/gnutls/gnutls_session_hook.so"
  if !(← Eff.invoke (.isFile hook) id) then return env
  let prev := (env.get? "LD_PRELOAD").getD ""
  return env.set "LD_PRELOAD" (if prev = "" then hook else hook ++ ":" ++ prev)

/-- The ALPN options. -/
def alpnArgv (config : TlsConfig) : List String :=
  let alpn := alpnCliProtocolList config
  if alpn = "" then [] else ["--alpn", alpn]

/-- `_start_server`. -/
def startServer (host : WrapperHost) (config : TlsConfig) : StagingM Launch := do
  let identity ← ensureCertPaths host "GnuTLS" config
  let (prio, mid) ← priorityAndMid host config .server
  let cwd ← Eff.invoke .getcwd id
  return {
    cmd := ["gnutls-serv", "-p", toString config.port, "--x509certfile", identity.1,
        "--x509keyfile", identity.2,
        if testFeatureEnabledInConfig config "mtls" then "--require-client-cert"
        else "--disable-client-cert"] ++
      mid ++ ["--priority", prio, "-q", "--echo"] ++
      (if testFeatureEnabledInConfig config "0rtt" then ["--earlydata"] else []) ++ alpnArgv config
    cwd, message := "GnuTLS Server started" }

/-- `_start_client`. -/
def startClient (host : WrapperHost) (config : TlsConfig) : StagingM Launch := do
  let (prio, mid) ← priorityAndMid host config .client
  let (sessionExtra, sessionEnv) ← clientSessionBits host config
  let cwd ← Eff.invoke .getcwd id
  let cafile ← clientX509Cafile host config
  let identity ← clientIdentityArgv host "GnuTLS" config "--x509certfile" "--x509keyfile"
  let env ← gnutlsPopenEnv host sessionEnv
  return {
    cmd := ["gnutls-cli", "-p", toString config.port, "--disable-sni", "--insecure",
        "--x509cafile", cafile] ++ mid ++ ["--priority", prio] ++ sessionExtra ++ identity ++
      alpnArgv config ++ (if config.expectHrr then ["--single-key-share"] else []) ++
      [if config.serverHostname = "" then "localhost" else config.serverHostname]
    cwd, env := some env, message := "GnuTLS Client connected" }

/-! ### Output -/

/-- The version of a session. -/
def versionLine : Regex :=
  .all [.text "Version:", .many .space, .group 1 (.any [.all [.text "TLS", .some1 .versionChar],
    .all [.text "DTLS", .some1 .versionChar]])]

/-- The first word with two dashes after the end of the handshake. -/
def cipherLine : Regex :=
  .all [.any [.text "Handshake completed",
      .all [.text "Simple", .some1 .space, .text "client", .some1 .space, .text "mode"]],
    .some1 .space, .star false (.char fun _ => true),
    .group 1 (.all [.some1 .nonSpace, .text "-", .some1 .nonSpace, .text "-", .some1 .nonSpace])]

/-- The group of a session. -/
def groupLine : Regex := .all [.text "Group:", .many .space, .group 1 (.some1 .nonSpace)]

/-- The description of a session, whose second part names the key exchange. -/
def descriptionLine : Regex :=
  .all [.text "Description:", .many .space, .text "(", .some1 (.noneOf ')'), .text ")-(",
    .group 1 (.some1 (.noneOf ')')), .text ")-"]

/-- `_parse_negotiated_params`. -/
def parseNegotiatedParams (stdout : String) : Dict String String :=
  let version := (versionLine.search stdout).map fun m => ("protocol_version", m 1)
  let cipher := (cipherLine.search stdout).map fun m => ("cipher_suite", strip (m 1))
  let named := ((descriptionLine.search stdout).or (groupLine.search stdout)).map fun m =>
    ("named_group", strip (m 1))
  version.toList ++ cipher.toList ++ named.toList

/-- `_infer_hrr_from_negotiation`, with the last command of the client. -/
def inferHrrFromNegotiation (lastClientCmd : String) (config : TlsConfig) (text : String) : Bool :=
  if !config.expectHrr || !contains "--single-key-share" lastClientCmd then false
  else
    let fold (s : String) : String := removeChar '-' (lower s)
    match descriptionLine.search text, repeatedConfigTokens config.supportedGroups with
    | some m, first :: second :: rest =>
      let negotiated := fold (m 1)
      if contains (fold first) negotiated then false
      else (second :: rest).any fun g => contains (fold g) negotiated
    | _, _ => false

/-- The hooks of `GnuTLSWrapper`. -/
def backend (host : WrapperHost) : CliBackend where
  componentName := "GnuTLS"
  host := host
  capabilities := host.capabilities "gnutls"
  startServer := startServer host
  startClient := startClient host
  stageTranslation := stagePskPasswdFile host
  parseNegotiatedParams := parseNegotiatedParams
  inferHrrFromNegotiation := inferHrrFromNegotiation
  serverTransmitPoll := true

end TlsInterop.GnuTLS
