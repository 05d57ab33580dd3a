import TlsInterop.Wrappers.Base

/-!
# The servicer of a wrapper

The handlers of `BaseTemplateWrapper` of `wrappers/base.py`.  Every exception of a
handler becomes a response; the fields keep what was written to them before it.

## Main definitions

* `establishServer`, `establishClient`, `handleEstablish` — ESTABLISH.
* `handleTransmit` — TRANSMIT.
* `cleanup`, `handleClose` — CLOSE.
* `executeOperation` — `ExecuteOperation`.
* `serve` — one request after another, as the single worker of the server does.
-/

namespace TlsInterop

open Py Effects

/-- A `WrapperRuntimeError`. -/
def runtimeError (msg : String) : PyExc := ⟨.wrapperRuntimeError, msg⟩

/-! ### ESTABLISH -/

/-- `_release_server_before_establish`. -/
def releaseServerBeforeEstablish : WrapperM Unit := do
  let s ← Eff.getState
  terminateProcessHard s.serverProc
  Eff.modifyState fun s => { s with serverProc := none }

/-- `_release_client_before_establish`. -/
def releaseClientBeforeEstablish : WrapperM Unit := do
  let s ← Eff.getState
  terminateProcessHard s.clientProc
  Eff.modifyState fun s => { s with clientProc := none }

/-- The release of the role a request is for. -/
def releaseBeforeEstablish (role : Role) : WrapperM Unit :=
  if role = .server then releaseServerBeforeEstablish else releaseClientBeforeEstablish

/-- What the translation of a configuration writes while it is checked. -/
def translationFile (b : CliBackend) (config : TlsConfig) (role : Role) : StagingM String :=
  if b.capabilities = [] then return "" else b.stageTranslation config role

/-- `_validate_config_supported`. -/
def validateConfigSupported (b : CliBackend) (config : TlsConfig) (role : Role) :
    StagingM Unit := do
  let backend := lower (strip b.componentName)
  let _ ← Eff.ofExcept (unsupportedCliParams b.host.repo config backend)
  let path ← translationFile b config role
  let unsupported ← Eff.ofExcept
    (catalogParameterConflicts b.host.repo config backend (some role) b.capabilities path)
  if unsupported = [] then return ()
  throw ⟨.wrapperSkipError, "⏭ SKIPPED: " ++ backend ++ " cannot apply requested parameter(s): " ++
    String.intercalate ", " unsupported⟩

/-- `_start_server` and `_start_client`: what the hook prepares is started. -/
def startCli (prepare : StagingM Launch) : WrapperM (Option CliProc × String × String) := do
  let launch ← stage prepare
  let proc ← Eff.invoke (WrapperCall.popen launch.cmd launch.cwd launch.env) id
  return (some proc, formatExecutedCommand launch.cmd launch.cwd, launch.message)

/-- What `_establish_server` does with a started process. -/
def watchServer (b : CliBackend) (request : OperationRequest) (proc : CliProc)
    (cmdLogs msg : String) : WrapperM OperationResponse := do
  if ← exited (some proc) then
    let out ← drainProcessOutput (some proc)
    rememberRoleCli .server cmdLogs out
    throw (setupError "server process exited immediately")
  let port := request.config.port
  if port ≤ 0 then
    throw (setupError "TlsConfig.port is missing or invalid for server ESTABLISH")
  let listen ← waitTcpConnect "127.0.0.1" port (some proc)
  if !listen.1 then
    let detail ← drainProcessOutput (some proc)
    rememberRoleCli .server cmdLogs detail
    throw (runtimeError ("server did not listen on port " ++ toString port ++ " (" ++ listen.2 ++
      ")"))
  let early ← drainProcessOutput (← Eff.getState).serverProc
  rememberRoleCli .server cmdLogs early
  let logs ← buildCliDebugLogs .server cmdLogs (← Eff.getState).serverProc (some early)
  return { status := .success, message := msg, logs, negotiated := buildNegotiated b early }

/-- `_establish_server`. -/
def establishServer (b : CliBackend) (request : OperationRequest) :
    WrapperM OperationResponse := do
  let started ← startCli (b.startServer request.config)
  Eff.modifyState fun s => { s with serverProc := started.1 }
  rememberRoleCli .server started.2.1 ""
  match started.1 with
  | none => throw (setupError "server subprocess was not started")
  | some proc => watchServer b request proc started.2.1 started.2.2

/-- The cached output of the server, with what a running server has to add. -/
def serverOutput (cached : String) (server : Option CliProc) : WrapperM String :=
  match server with
  | none => return cached
  | some p => return joinNonBlank cached (← readDecoded (some p) 2)

/-- `_collect_client_merged_output`. -/
def collectClientMergedOutput (early : String) : WrapperM String := do
  let s ← Eff.getState
  let serverOut ← serverOutput s.lastServerOutput s.serverProc
  let clientExtra ← readDecoded s.clientProc 1
  let clientOut := joinNonBlank early clientExtra
  return if strip serverOut = "" then clientOut else serverOut ++ "\n" ++ clientOut

/-- `_client_fail`, without negotiated parameters. -/
def clientFail (cmdLogs output message : String) : WrapperM OperationResponse := do
  rememberRoleCli .client cmdLogs output
  let logs ← buildCliDebugLogs .client cmdLogs (← Eff.getState).clientProc (some output)
  return { status := .failure, message, logs }

/-- `_wait_client_peer`. -/
def waitClientPeer (request : OperationRequest) (cmdLogs : String) (port : ℤ) :
    WrapperM Unit := do
  let host := strip request.config.serverHostname
  let host := if host = "" then "localhost" else host
  let s ← Eff.getState
  let peer ← waitTcpConnect host port s.clientProc
  if peer.1 then return ()
  let detail ← drainProcessOutput s.clientProc
  rememberRoleCli .client cmdLogs detail
  throw (runtimeError ("no TCP route to peer " ++ host ++ ":" ++ toString port ++ " (" ++ peer.2 ++
    ")"))

/-- The negotiated parameters of a client, a retry inferred by the backend included. -/
def clientNegotiated (b : CliBackend) (config : TlsConfig) (lastClientCmd merged : String) :
    Option Negotiated :=
  (buildNegotiated b merged).map fun n =>
    if !n.hrrOccurred && b.inferHrrFromNegotiation lastClientCmd config merged then
      { n with hrrOccurred := true }
    else n

/-- `_finish_client_establish`. -/
def finishClientEstablish (b : CliBackend) (request : OperationRequest) (cmdLogs merged : String) :
    WrapperM OperationResponse := do
  let s ← Eff.getState
  let negotiated := clientNegotiated b request.config s.lastClientCmd merged
  let logs ← buildCliDebugLogs .client cmdLogs s.clientProc (some merged)
  if ← exited s.clientProc then
    return { status := .failure, message := "Client process exited after handshake", logs, negotiated }
  match b.clientEstablishOutputIndicatesFailure merged with
  | some err =>
    return { status := .failure, message := "Client handshake failed (" ++ err ++ ")", logs,
             negotiated }
  | none => return { status := .success, message := "Client connected", logs, negotiated }

/-- `_establish_client_active`. -/
def establishClientActive (b : CliBackend) (request : OperationRequest) (cmdLogs : String)
    (port : ℤ) : WrapperM OperationResponse := do
  waitClientPeer request cmdLogs port
  let s ← Eff.getState
  if ← exited s.clientProc then
    let out ← drainProcessOutput s.clientProc
    return ← clientFail cmdLogs out "Client process exited (connection failed)"
  let early ← drainProcessOutput s.clientProc
  let merged ← collectClientMergedOutput early
  rememberRoleCli .client cmdLogs merged
  finishClientEstablish b request cmdLogs merged

/-- What `_establish_client` does with a started process. -/
def watchClient (b : CliBackend) (request : OperationRequest) (proc : CliProc) (cmdLogs : String) :
    WrapperM OperationResponse := do
  let port := request.config.port
  if port ≤ 0 then
    throw (setupError "TlsConfig.port is missing or invalid for client ESTABLISH")
  if ← exited (some proc) then
    let out ← drainProcessOutput (← Eff.getState).clientProc
    return ← clientFail cmdLogs out "Client process exited (connection failed)"
  establishClientActive b request cmdLogs port

/-- `_establish_client`. -/
def establishClient (b : CliBackend) (request : OperationRequest) :
    WrapperM OperationResponse := do
  let started ← startCli (b.startClient request.config)
  Eff.modifyState fun s => { s with clientProc := started.1 }
  rememberRoleCli .client started.2.1 ""
  match started.1 with
  | none => throw (setupError "client subprocess was not started")
  | some proc => watchClient b request proc started.2.1

/-- The root whose session artifacts a CLOSE removes; a blank one does not replace
the one before. -/
def rememberRepoRoot (repoRoot : String) : WrapperM Unit :=
  Eff.modifyState fun s => if repoRoot = "" then s else { s with sessionArtifactRepoRoot := repoRoot }

/-- `_establish_server` or `_establish_client`. -/
def establishRole (b : CliBackend) (request : OperationRequest) : WrapperM OperationResponse :=
  if request.role = .server then establishServer b request else establishClient b request

/-- `_handle_establish`. -/
def handleEstablish (b : CliBackend) (request : OperationRequest) :
    WrapperM OperationResponse := do
  releaseBeforeEstablish request.role
  stage (validateConfigSupported b request.config request.role)
  rememberRepoRoot (strip request.config.repoRoot)
  establishRole b request

/-! ### TRANSMIT -/

/-- `_transmit_payload_bytes`. -/
def transmitPayloadBytes (payload : List UInt8) (role : Role) : List UInt8 :=
  let data := payload ++ "\n".toUTF8.toList
  if role = .client then "POST / HTTP/1.0\r\n\r\n".toUTF8.toList ++ data else data

/-- `_write_transmit_payload`, which is skipped for an empty payload: the error of a
broken pipe, if any. -/
def writeTransmitPayload (target : CliProc) (payload : List UInt8) (role : Role) :
    WrapperM (Option String) := do
  if payload = [] then return none
  match ← Eff.call (WrapperCall.writeStdin target (transmitPayloadBytes payload role)) with
  | .ok () => return none
  | .error e =>
    if e.cls = .brokenPipeError then
      return some "[TRANSMIT] Broken pipe (process may have exited)"
    throw e

/-- `_read_transmit_stdout`. -/
def readTransmitStdout (b : CliBackend) (proc : CliProc) (role : Role) : WrapperM (List UInt8) :=
  Eff.call (WrapperCall.readStdout proc
    (if b.serverTransmitPoll ∧ role = .server then 5 else 3) 1048576)

/-- `_handle_transmit`, once the process is found. -/
def transmitTo (b : CliBackend) (request : OperationRequest) (target : CliProc) :
    WrapperM OperationResponse := do
  let role := request.role
  if ← exited (some target) then
    let out ← drainProcessOutput (some target)
    let logs ← buildCliDebugLogs role "" (some target) (some out)
    return { status := .failure, message := "[TRANSMIT] Process already exited", logs }
  match ← writeTransmitPayload target request.payload role with
  | some err =>
    let out ← drainProcessOutput (some target)
    let logs ← buildCliDebugLogs role "" (some target) (some out)
    return { status := .error, message := err, logs }
  | none =>
    let outputData ← readTransmitStdout b target role
    let logs ← buildCliDebugLogs role "" (some target) (some (decodeReplace outputData))
    return { status := .success, logs, outputData }

/-- `_handle_transmit`. -/
def handleTransmit (b : CliBackend) (request : OperationRequest) :
    WrapperM OperationResponse := do
  match (← Eff.getState).proc request.role with
  | none =>
    let logs ← buildCliDebugLogs request.role "" none none
    return { status := .failure, message := "[TRANSMIT] Process not found (ESTABLISH missing?)", logs }
  | some target => transmitTo b request target

/-! ### CLOSE -/

/-- `os.path.join(root, name)`, for a plain name. -/
def joinPath (root name : String) : String :=
  if root.toList.getLast? = some '/' then root ++ name else root ++ "/" ++ name

/-- `remove_tls_session_artifact_files`, for a root without blanks at its ends; a path
with a null character makes `os.unlink` raise a `ValueError`. -/
def removeSessionArtifacts (root : String) : WrapperM Unit :=
  ["session.ticket", "early_data.txt"].forM fun name =>
    if root.toList.contains '\x00' then throw ⟨.valueError, "embedded null byte"⟩
    else Eff.call (WrapperCall.unlinkArtifact (joinPath root name))

/-- `_extra_cleanup`. -/
def extraCleanup (b : CliBackend) : WrapperM Unit := do
  stage cleanupEphemeralPemIfNeeded
  let s ← Eff.getState
  if s.sessionArtifactRepoRoot ≠ "" then removeSessionArtifacts s.sessionArtifactRepoRoot
  stage b.cleanupDb

/-- `_cleanup`. -/
def cleanup (b : CliBackend) : WrapperM Unit := do
  let s ← Eff.getState
  terminateProcessHard s.serverProc
  terminateProcessHard s.clientProc
  Eff.modifyState fun s => { s with serverProc := none, clientProc := none }
  extraCleanup b

/-- `_handle_close`. -/
def handleClose (b : CliBackend) : WrapperM OperationResponse := do
  cleanup b
  return { status := .success, message := "Cleanup successful" }

/-! ### ExecuteOperation -/

/-- The number of an operation type. -/
def OpType.number : OpType → ℤ
  | .establish => 0
  | .transmit => 1
  | .keyUpdate => 2
  | .close => 3
  | .unrecognized n => n

/-- `_dispatch_op`. -/
def dispatchOp (b : CliBackend) (request : OperationRequest) : WrapperM OperationResponse :=
  match request.type with
  | .establish => handleEstablish b request
  | .transmit => handleTransmit b request
  | .close => handleClose b
  | type => return { status := .error, message := "Unsupported OpType: " ++ toString type.number }

/-- `type(exc).__name__`. -/
def ExcClass.name : ExcClass → String
  | valueError => "ValueError"
  | typeError => "TypeError"
  | keyError => "KeyError"
  | fileNotFoundError => "FileNotFoundError"
  | moduleNotFoundError => "ModuleNotFoundError"
  | runtimeError => "RuntimeError"
  | timeoutError => "TimeoutError"
  | calledProcessError => "CalledProcessError"
  | overflowError => "OverflowError"
  | osError => "OSError"
  | rpcError => "RpcError"
  | brokenPipeError => "BrokenPipeError"
  | wrapperSetupError => "WrapperSetupError"
  | wrapperRuntimeError => "WrapperRuntimeError"
  | wrapperSkipError => "WrapperSkipError"
  | named name => name

/-- `_format_op_error`, with no logs yet. -/
def formatOpError (e : PyExc) (phase : String) (status : Status) (role : Role) :
    WrapperM OperationResponse := do
  let logs ← buildCliDebugLogs role "" none none
  return { status, message := "[" ++ phase ++ "] " ++ e.cls.name ++ ": " ++ e.msg, logs }

/-- The handlers of `ExecuteOperation`. -/
def handleOpError (role : Role) (e : PyExc) : WrapperM OperationResponse :=
  match e.cls with
  | .wrapperSetupError => formatOpError e "ESTABLISH/setup" .error role
  | .wrapperSkipError => return { status := .success, message := "SKIP: " ++ e.msg }
  | .wrapperRuntimeError => formatOpError e "ESTABLISH/runtime" .failure role
  | _ => formatOpError e "ExecuteOperation/unexpected" .error role

/-- `ExecuteOperation`. -/
def executeOperation (b : CliBackend) (request : OperationRequest) : WrapperM OperationResponse :=
  tryCatch (dispatchOp b request) (handleOpError request.role)

/-- The requests one after another. -/
def serve (b : CliBackend) : List OperationRequest → WrapperM (List OperationResponse)
  | [] => return []
  | request :: rest => do
    let resp ← executeOperation b request
    return resp :: (← serve b rest)

end TlsInterop
