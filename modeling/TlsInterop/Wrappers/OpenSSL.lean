import TlsInterop.Wrappers.Base

/-!
# The OpenSSL wrapper

The model of `OpenSSLWrapper` of `wrappers/openssl/wrapper.py`: the commands of
`s_server` and `s_client`, and what is read off their output.

## Main definitions

* `OpenSSL.startServer`, `OpenSSL.startClient` — the commands.
* `OpenSSL.parseNegotiatedParams` — the negotiated parameters.
* `OpenSSL.backend` — the hooks.
-/

namespace TlsInterop.OpenSSL

open Py Effects

/-- `_openssl_legacy_provider_argv`. -/
def legacyProviderArgv (config : TlsConfig) : List String :=
  if cipherNeedsLegacyDss (strip config.cipherSuite) then
    ["-provider", "legacy", "-provider", "default"]
  else []

/-- `_DNS_LABEL_OK`. -/
def dnsLabelOk (label : List Char) : Bool :=
  let alnum (c : Char) : Bool := c.toNat < 128 && c.isAlphanum
  label.length ≤ 63 && label.head?.any alnum && label.getLast?.any alnum &&
    label.all fun c => alnum c || c == '-'

/-- Four groups of one to three digits. -/
def isIpv4Text (hn : String) : Bool :=
  let parts := hn.toList.splitOn '.'
  parts.length == 4 && parts.all fun p =>
    1 ≤ p.length && p.length ≤ 3 && p.all fun c => (digitVal c).isSome

/-- `_host_ok_for_sni`. -/
def hostOkForSni (hostname : String) : Bool :=
  let hn := String.ofList ((strip hostname).toList.rdropWhile (· == '.'))
  if hn = "" ∨ 253 < hn.length then false
  else if isIpv4Text hn ∨ (hn.toList.head? = some '[' ∧ hn.toList.getLast? = some ']') then false
  else (hn.toList.splitOn '.').all dnsLabelOk

/-- `_state_debug_argv`. -/
def stateDebugArgv (config : TlsConfig) : List String :=
  if tlsMode12Or13 config = .v13 ∨ config.expectHrr then ["-state"] else []

/-- `_common_args`. -/
def commonArgs (caps : Capabilities) (config : TlsConfig) : List String :=
  let alpn := alpnCliProtocolList config
  (tlsArgvForConfig config caps).argv ++ if alpn = "" then [] else ["-alpn", alpn]

/-- `_client_sni_args`. -/
def clientSniArgs (config : TlsConfig) : List String :=
  let host := strip config.serverHostname
  if hostOkForSni host then ["-servername", host] else ["-noservername"]

/-- `_client_session_argv`. -/
def clientSessionArgv (host : WrapperHost) (config : TlsConfig) : StagingM (List String) := do
  if !resumptionOr0rttEnabled config then return []
  let paths ← tlsSessionStatePaths host config
  let step := strip config.resumptionStep
  if step = "save" then return ["-sess_out", paths.1]
  if step = "resume" then
    let early ← earlyDataArgv host config "-early_data"
    return ["-sess_in", paths.1] ++ early
  return []

/-- The trust options of a server that asks for a client certificate. -/
def serverTrustArgv (host : WrapperHost) (config : TlsConfig) (certPath : String) :
    StagingM (List String) := do
  if !testFeatureEnabledInConfig config "mtls" then return []
  let ca ← catalogIdentityPemPathsForPrefix host
    (getCertPrefixForSchemes (serverTrustSignatureSchemesTokens config))
  return ["-Verify", "1", "-CAfile", if ← isFoundFile ca.1 then ca.1 else certPath]

/-- `_start_server`. -/
def startServer (host : WrapperHost) (config : TlsConfig) : StagingM Launch := do
  let caps := host.capabilities "openssl"
  let identity ← ensureCertPaths host "OpenSSL" config
  let cwd ← Eff.invoke .getcwd id
  let trust ← serverTrustArgv host config identity.1
  return {
    cmd := ["openssl", "s_server"] ++ legacyProviderArgv config ++
      ["-accept", "0.0.0.0:" ++ toString config.port, "-cert", identity.1, "-key", identity.2] ++
      commonArgs caps config ++
      (if testFeatureEnabledInConfig config "0rtt" then ["-early_data"] else []) ++ trust ++
      stateDebugArgv config
    cwd, message := "Server started" }

/-- `_start_client`. -/
def startClient (host : WrapperHost) (config : TlsConfig) : StagingM Launch := do
  let caps := host.capabilities "openssl"
  let peer := if config.serverHostname = "" then "localhost" else config.serverHostname
  let cwd ← Eff.invoke .getcwd id
  let session ← clientSessionArgv host config
  let identity ← clientIdentityArgv host "OpenSSL" config "-cert" "-key"
  return {
    cmd := ["openssl", "s_client"] ++ legacyProviderArgv config ++
      ["-connect", peer ++ ":" ++ toString config.port] ++ clientSniArgs config ++
      commonArgs caps config ++ session ++ identity ++ stateDebugArgv config
    cwd, message := "Client connected" }

/-! ### Output -/

/-- A version name: a word and a number. -/
def versionName (word : String) : Regex := .all [.text word, .some1 .versionChar]

/-- The line of a new session. -/
def newSession : Regex :=
  .all [.text "New,", .many .space, .group 1 (.any [versionName "TLSv", versionName "DTLSv"]),
    .many .space, .text ",", .many .space, .text "Cipher", .some1 .space, .text "is", .some1 .space,
    .group 2 (.some1 .nonSpace)]

/-- The protocol, where no new session is reported. -/
def protocolLine : Regex :=
  .all [.any [.text "Protocol", .text "Version"], .many .space, .text ":", .many .space,
    .group 1 (.any [versionName "TLSv", .all [.text "TLS", .many .space, .some1 .versionChar],
      versionName "DTLSv"])]

/-- The cipher, where no new session is reported. -/
def cipherLine : Regex :=
  .all [.text "Cipher", .some1 .space, .any [.text "is", .text "name"], .many .space,
    .any [.char fun c => c == ':' || c == '=', .empty], .many .space, .group 1 (.some1 .nonSpace)]

/-- The group, by name. -/
def groupLine : Regex :=
  .all [.any [.all [.text "Named", .some1 .space, .text "Group"],
      .all [.text "Negotiated", .some1 .space, .text "TLS", .some1 .space, .text "group"],
      .all [.text "Using", .some1 .space, .text "default", .some1 .space, .text "temp",
        .some1 .space, .text "key", .some1 .space, .text "parameters", .some1 .space,
        .text "name"]],
    .many .space, .text ":", .many .space, .group 1 (.some1 .nonSpace)]

/-- The group, as the temporary key of the server. -/
def tempKeyLine : Regex :=
  .all [.text "Server", .some1 .space, .text "Temp", .some1 .space, .text "Key:", .many .space,
    .group 1 (.some1 .nonSpace)]

/-- `_parse_negotiated_params`. -/
def parseNegotiatedParams (stdout : String) : Dict String String :=
  let session : Dict String String :=
    match newSession.search stdout with
    | some m => [("protocol_version", m 1), ("cipher_suite", m 2)]
    | none =>
      let protocol := (protocolLine.search stdout).map fun m =>
        ("protocol_version", removeChar ' ' (m 1))
      let cipher := (cipherLine.search stdout).map fun m => ("cipher_suite", strip (m 1))
      protocol.toList ++ cipher.toList
  let named := ((groupLine.search stdout).or (tempKeyLine.search stdout)).map fun m =>
    ("named_group", strip (m 1))
  session ++ named.toList

/-- The hooks of `OpenSSLWrapper`. -/
def backend (host : WrapperHost) : CliBackend where
  componentName := "OpenSSL"
  host := host
  capabilities := host.capabilities "openssl"
  startServer := startServer host
  startClient := startClient host
  parseNegotiatedParams := parseNegotiatedParams

end TlsInterop.OpenSSL
