import TlsInterop.Wrappers.Staging
import Mathlib.Data.Rat.Defs

/-!
# Processes and outputs of a wrapper

The fields and the helpers of `BaseTemplateWrapper` of `wrappers/base.py`: how a
wrapper watches and ends a CLI process, and how it caches and reads outputs.  What
a backend adds is a record of hooks.  Pauses are left out.

## Main definitions

* `WrapperCall`, `WrapperAns` — the calls of a wrapper and how they are answered.
* `WrapperState`, `WrapperM` — the fields of a wrapper, and its programs.
* `CliBackend` — the hooks of a backend.
* `terminateProcessHard`, `waitTcpConnect` — on processes.
* `rememberRoleCli`, `buildCliDebugLogs`, `buildNegotiated` — on commands and outputs.
-/

namespace TlsInterop

open Py Effects

/-! ### Calls -/

/-- A started CLI process: the `Popen` object. -/
abbrev CliProc := ℕ

/-- The calls of a wrapper. -/
inductive WrapperCall
  /-- A call that prepares or removes files. -/
  | stage (q : StagingCall)
  /-- `popen_stdio_merged`. -/
  | popen (cmd : List String) (cwd : String) (env : Option (Dict String String))
  /-- `proc.poll`. -/
  | poll (proc : CliProc)
  /-- `proc.terminate`. -/
  | terminate (proc : CliProc)
  /-- `proc.kill`. -/
  | kill (proc : CliProc)
  /-- `proc.wait`. -/
  | wait (proc : CliProc) (timeoutS : ℚ)
  /-- `read_nonblocking_stdout`. -/
  | readStdout (proc : CliProc) (timeoutS : ℚ) (maxBytes : ℕ)
  /-- Write to `proc.stdin` and flush it. -/
  | writeStdin (proc : CliProc) (data : List UInt8)
  /-- How many rounds of `wait_tcp_connect` begin before its deadline. -/
  | tcpRounds (timeoutS : ℚ)
  /-- `socket.create_connection` and the shutdown of what it gives. -/
  | tcpAttempt (host : String) (port : ℤ)
  /-- `os.unlink` of a session artifact, its `OSError` suppressed. -/
  | unlinkArtifact (path : String)
  deriving DecidableEq

/-- How each call is answered: `poll` with the exit code, `terminate` and `kill` with
whether there still was a process, `wait` with whether it ended in time, and a TCP
attempt with the text of its `OSError`, if it failed. -/
abbrev WrapperAns : WrapperCall → Type
  | .stage q => StagingAns q
  | .popen .. => Except PyExc CliProc
  | .poll _ => Option ℤ
  | .terminate _ => Bool
  | .kill _ => Bool
  | .wait .. => Bool
  | .readStdout .. => List UInt8
  | .writeStdin .. => Except PyExc Unit
  | .tcpRounds _ => ℕ
  | .tcpAttempt .. => Except PyExc (Option String)
  | .unlinkArtifact _ => Unit

instance : (q : WrapperCall) → DecidableEq (WrapperAns q)
  | .stage q => inferInstanceAs (DecidableEq (StagingAns q))
  | .popen .. => inferInstanceAs (DecidableEq (Except PyExc CliProc))
  | .poll _ => inferInstanceAs (DecidableEq (Option ℤ))
  | .terminate _ | .kill _ | .wait .. => inferInstanceAs (DecidableEq Bool)
  | .readStdout .. => inferInstanceAs (DecidableEq (List UInt8))
  | .writeStdin .. => inferInstanceAs (DecidableEq (Except PyExc Unit))
  | .tcpRounds _ => inferInstanceAs (DecidableEq ℕ)
  | .tcpAttempt .. => inferInstanceAs (DecidableEq (Except PyExc (Option String)))
  | .unlinkArtifact _ => inferInstanceAs (DecidableEq Unit)

/-- The fields of a wrapper. -/
structure WrapperState where
  serverProc : Option CliProc := none
  clientProc : Option CliProc := none
  staging : Staging := {}
  sessionArtifactRepoRoot : String := ""
  lastServerCmd : String := ""
  lastClientCmd : String := ""
  lastServerOutput : String := ""
  lastClientOutput : String := ""
  deriving DecidableEq, Repr

/-- A program of a wrapper. -/
abbrev WrapperM (α : Type) : Type := Eff WrapperAns PyExc WrapperState α

namespace WrapperState

/-- The process of a role; every role but the server's is the client's. -/
def proc (s : WrapperState) (role : Role) : Option CliProc :=
  if role = .server then s.serverProc else s.clientProc

/-- The cached command of a role. -/
def lastCmd (s : WrapperState) (role : Role) : String :=
  if role = .server then s.lastServerCmd else s.lastClientCmd

/-- The cached output of a role. -/
def lastOutput (s : WrapperState) (role : Role) : String :=
  if role = .server then s.lastServerOutput else s.lastClientOutput

end WrapperState

/-- A program on files, as a program of a wrapper. -/
def stage {α : Type} (m : StagingM α) : WrapperM α :=
  Eff.zoom WrapperCall.stage WrapperState.staging (fun st s => { s with staging := st }) m

/-- What a backend adds to the base class.  `startServer` and `startClient` are the
hooks up to their `popen_stdio_merged`; `stageTranslation` is what the translation of
a configuration writes to disk, and `cleanupDb` what `_extra_cleanup` adds. -/
structure CliBackend where
  componentName : String
  host : WrapperHost
  capabilities : Capabilities
  startServer : TlsConfig → StagingM Launch
  startClient : TlsConfig → StagingM Launch
  stageTranslation : TlsConfig → Role → StagingM String := fun _ _ => pure ""
  parseNegotiatedParams : String → Dict String String
  inferHrrFromNegotiation : String → TlsConfig → String → Bool := fun _ _ _ => false
  clientEstablishOutputIndicatesFailure : String → Option String := fun _ => none
  serverTransmitPoll : Bool := false
  cleanupDb : StagingM Unit := pure ()

/-! ### Processes -/

/-- `_terminate_process_hard`. -/
def terminateProcessHard (proc : Option CliProc) : WrapperM Unit := do
  match proc with
  | none => return ()
  | some p =>
    if (← Eff.call (WrapperCall.poll p)).isSome then return ()
    if !(← Eff.call (WrapperCall.terminate p)) then return ()
    if ← Eff.call (WrapperCall.wait p 3) then return ()
    if !(← Eff.call (WrapperCall.kill p)) then return ()
    let _ ← Eff.call (WrapperCall.wait p 2)

/-- `proc and proc.poll() is not None`. -/
def exited (proc : Option CliProc) : WrapperM Bool := do
  match proc with
  | none => return false
  | some p => return (← Eff.call (WrapperCall.poll p)).isSome

/-- `_drain_process_output`. -/
def drainProcessOutput (proc : Option CliProc) : WrapperM String := do
  match proc with
  | none => return ""
  | some p => return strip (decodeReplace (← Eff.call (WrapperCall.readStdout p (1 / 5) 65536)))

/-- `read_nonblocking_stdout(proc, timeout_s=..).decode(errors="replace")`. -/
def readDecoded (proc : Option CliProc) (timeoutS : ℚ) : WrapperM String := do
  match proc with
  | none => return ""
  | some p => return decodeReplace (← Eff.call (WrapperCall.readStdout p timeoutS 1048576))

/-- The rounds of `wait_tcp_connect`. -/
def tcpConnectRounds (host : String) (port : ℤ) (proc : Option CliProc) :
    ℕ → String → WrapperM (Bool × String)
  | 0, lastErr => return (false, if lastErr = "" then "timeout" else lastErr)
  | rounds + 1, _ => do
    if ← exited proc then return (false, "subprocess exited before TCP became ready")
    match ← Eff.invoke (WrapperCall.tcpAttempt host port) id with
    | none => return (true, "")
    | some err => tcpConnectRounds host port proc rounds err

/-- `wait_tcp_connect`, with `TCP_READY_TIMEOUT_S`. -/
def waitTcpConnect (host : String) (port : ℤ) (proc : Option CliProc) :
    WrapperM (Bool × String) := do
  let rounds ← Eff.call (WrapperCall.tcpRounds 30)
  tcpConnectRounds host port proc rounds ""

/-! ### Commands, outputs and logs -/

/-- `s.rstrip()`. -/
def rstrip (s : String) : String := String.ofList (s.toList.rdropWhile isSpace)

/-- `format_cli_debug_logs`, its `stderr` empty. -/
def formatCliDebugLogs (cmd : String) (exitCode : Option ℤ) (stdout : String) : String :=
  let cmdS := strip cmd
  let cmdLine :=
    if cmdS ≠ "" ∧ startsWith "CMD:" cmdS = false then "CMD: " ++ cmdS
    else if cmdS = "" then "CMD: (unknown)" else cmdS
  let outBody := if rstrip stdout = "" then "(empty)" else rstrip stdout
  let exitS := match exitCode with
    | none => "Exit code: (running)"
    | some code => "Exit code: " ++ toString code
  String.intercalate "\n" [cmdLine, exitS, "--- stdout ---", outBody, "--- stderr ---",
    "(stderr merged into stdout; see stdout above)"]

/-- `"\n".join(x for x in (a, b) if x.strip()).strip()`. -/
def joinNonBlank (a b : String) : String :=
  strip (String.intercalate "\n" ([a, b].filter fun x => strip x ≠ ""))

/-- `target.returncode`, once the process has ended. -/
def exitCodeOf (target : Option CliProc) : WrapperM (Option ℤ) :=
  match target with
  | none => return none
  | some p => Eff.call (WrapperCall.poll p)

/-- The output of a log: the given text, or what is cached and what is there to read. -/
def cliOutput (cached : String) (target : Option CliProc) (output : Option String) :
    WrapperM String :=
  match output with
  | some text => return text
  | none => return joinNonBlank cached (← drainProcessOutput target)

/-- `_build_cli_debug_logs`. -/
def buildCliDebugLogs (role : Role) (cmd : String) (proc : Option CliProc)
    (output : Option String) : WrapperM String := do
  let s ← Eff.getState
  let cmdS := strip (if cmd = "" then s.lastCmd role else cmd)
  let target := proc.or (s.proc role)
  let outText ← cliOutput (s.lastOutput role) target output
  let exitCode ← exitCodeOf target
  return formatCliDebugLogs cmdS exitCode outText

/-- `_remember_role_cli`. -/
def rememberRoleCli (role : Role) (cmd output : String) : WrapperM Unit :=
  Eff.modifyState fun s =>
    if role = .server then
      { s with lastServerCmd := cmd
               lastServerOutput := if output = "" then s.lastServerOutput else output }
    else
      { s with lastClientCmd := cmd
               lastClientOutput := if output = "" then s.lastClientOutput else output }

/-- `_HRR_OUTPUT_PATTERNS`. -/
def hrrOutputPatterns : List Regex :=
  [.all [.text "hello", .many .space, .text "retry", .many .space, .text "request"],
    .text "helloretryrequest", .text "hello_retry_request",
    .all [.text "received", .some1 .space, .text "hrr"],
    .all [.text "retry", .some1 .space, .text "request"]]

/-- The pattern of a client hello in a handshake message. -/
def clientHelloMessage : Regex :=
  .all [.text "handshake", .many .space, .text "[", .many .space, .text "length", .some1 .space,
    .some1 (.noneOf ']'), .text "]", .many .space, .text ",", .many .space, .text "clienthello"]

/-- `hrr_detected_in_cli_output`. -/
def hrrDetectedInCliOutput (text : String) : Bool :=
  let blob := strip text
  if blob = "" then false
  else if hrrOutputPatterns.any fun pat => pat.found blob then true
  else if 2 ≤ countOf "write client hello" (lower blob) ∨
      2 ≤ countOf "read client hello" (lower blob) then true
  else decide (2 ≤ clientHelloMessage.count blob)

/-- `_build_negotiated`, for a given text. -/
def buildNegotiated (b : CliBackend) (text : String) : Option Negotiated :=
  let d := b.parseNegotiatedParams text
  let negotiated : Negotiated :=
    { protocolVersion := strip ((d.get? "protocol_version").getD "")
      cipherSuite := strip ((d.get? "cipher_suite").getD "")
      namedGroup := strip ((d.get? "named_group").getD "")
      hrrOccurred := hrrDetectedInCliOutput text }
  if negotiated = {} then none else some negotiated

end TlsInterop
