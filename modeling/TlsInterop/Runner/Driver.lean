import TlsInterop.Core.Proto
import TlsInterop.Effects.Eff
import Mathlib.Data.Rat.Defs

/-!
# The driver of one cell

The model of `InteropDriver` of `core/runner.py`.  A driver calls the wrappers
and keeps the reason of a skip and the log of what happened; console output is
left out.

## Main definitions

* `DriverCall`, `DriverAns` — the calls of the runner and how they are answered.
* `InteropDriver`, `DriverM` — the state of a driver and its programs.
* `runTestWithConfigs` — one test: ESTABLISH, TRANSMIT, and CLOSE in the end.
* `emergencyCleanup` — the CLOSE calls of a timed-out cell.
-/

namespace TlsInterop

open Py Effects

/-- `EXIT_SKIP`. -/
def exitSkip : ℤ := 77

/-- `EXIT_TIMEOUT`. -/
def exitTimeout : ℤ := 78

/-- `EMERGENCY_CLOSE_GRPC_S`. -/
def emergencyCloseGrpcS : ℚ := 10

/-- `TCP_AFTER_ESTABLISH_S`. -/
def tcpAfterEstablishS : ℚ := 20

/-- `TEST_PAYLOAD`. -/
def testPayload : List UInt8 := "PAYLOAD".toUTF8.toList

/-- The calls of the runner. -/
inductive DriverCall
  /-- `ExecuteOperation` of the stub of the server or of the client. -/
  | execute (toServer : Bool) (request : OperationRequest) (timeoutS : Option ℚ)
  /-- `wait_tcp_connect`. -/
  | waitTcp (host : String) (port : ℤ) (timeoutS : ℚ)
  /-- The join with the deadline of the cell. -/
  | joinWorker
  /-- The bounded join after the emergency cleanup. -/
  | rejoinWorker
  /-- The lines the worker has noted since it was last asked: none once it has ended. -/
  | workerNotes
  /-- Write one file of `debug_logs/`. -/
  | writeLog (kind server client : String) (body : List String)
  /-- `os.unlink`, its `OSError` suppressed. -/
  | unlink (path : String)

/-- How each call is answered.  A join says whether the worker has ended or is
still alive, having noted the given lines. -/
abbrev DriverAns : DriverCall → Type
  | .execute .. => Except PyExc OperationResponse
  | .waitTcp .. => Except PyExc (Bool × String)
  | .joinWorker => Option (List String)
  | .rejoinWorker => Unit
  | .workerNotes => List String
  | .writeLog .. => Except PyExc Unit
  | .unlink _ => Unit

/-- `InteropDriver`: what a cell changes of it. -/
structure InteropDriver where
  lastSkipReason : Option String := none
  failLog : List String := []
  deriving DecidableEq, Repr

/-- A program of the runner. -/
abbrev DriverM (α : Type) : Type := Eff DriverAns PyExc InteropDriver α

namespace DriverM

/-- Append one entry to `fail_log`. -/
def note (entry : String) : DriverM Unit :=
  Eff.modifyState fun d => { d with failLog := d.failLog ++ [entry] }

/-- A worker that is still alive goes on noting: its lines come before what is noted next. -/
def catchUp : DriverM Unit := do
  let noted ← Eff.call DriverCall.workerNotes
  Eff.modifyState fun d => { d with failLog := d.failLog ++ noted }

/-- `InteropDriver._execute`. -/
def execute (type : OpType) (role : Role) (config : TlsConfig) (payload : List UInt8)
    (timeoutS : Option ℚ) : DriverM OperationResponse :=
  Eff.invoke (.execute (role == .server) { type, role, payload, config }
    (timeoutS.map fun t => max (1 / 2) t)) id

/-- `wait_tcp_connect`, as the driver calls it. -/
def waitTcpConnect (host : String) (port : ℤ) (timeoutS : ℚ) : DriverM (Bool × String) :=
  Eff.invoke (.waitTcp host port timeoutS) id

end DriverM

/-- `repr` of a byte string. -/
def reprBytes (bytes : List UInt8) : String :=
  let quote := if bytes.contains 39 && !bytes.contains 34 then '"' else '\''
  let hex (n : ℕ) : List Char := [Nat.digitChar (n / 16), Nat.digitChar (n % 16)]
  let body := bytes.flatMap fun b =>
    let c := Char.ofNat b.toNat
    if c = '\\' || c = quote then ['\\', c]
    else if c = '\n' then ['\\', 'n']
    else if c = '\r' then ['\\', 'r']
    else if c = '\t' then ['\\', 't']
    else if b < 32 || 127 ≤ b then ['\\', 'x'] ++ hex b.toNat
    else [c]
  String.ofList ('b' :: quote :: body ++ [quote])

/-- The name of a status in the log. -/
def Status.name : Status → String
  | .success => "SUCCESS"
  | .failure => "FAILURE"
  | .error => "ERROR"
  | .unrecognized n => toString n

/-- The message of a response, as the driver reads it. -/
def OperationResponse.msg (resp : OperationResponse) : String := strip resp.message

/-- A SUCCESS whose message asks to skip the test. -/
def OperationResponse.isSkip (resp : OperationResponse) : Bool :=
  resp.status == .success && startsWith "skip:" (lower resp.msg)

namespace InteropDriver

open DriverM

/-- `_note_response`. -/
def noteResponse (label : String) (resp : OperationResponse) : DriverM Unit :=
  let logs := strip resp.logs
  note ("\n".intercalate (["--- " ++ label ++ " (" ++ resp.status.name ++ ") ---"]
    ++ (if resp.msg ≠ "" then [resp.msg] else [])
    ++ (if logs ≠ "" then [logs] else [])
    ++ (if resp.outputData ≠ [] then ["output_data: " ++ reprBytes resp.outputData] else [])))

/-- `_note_failure`. -/
def noteFailure (label summary : String) : DriverM Unit :=
  note ("--- " ++ label ++ " (FAILURE) ---\n" ++ summary)

/-- The reason of a skip: what follows `skip:`. -/
def skipReason (msg : String) : String :=
  let rest := strip (String.ofList (msg.toList.drop 5))
  if rest ≠ "" then rest else "wrapper reported unsupported option"

/-- `_check_response`. -/
def checkResponse (resp : OperationResponse) (label : String) : DriverM Bool := do
  noteResponse label resp
  if resp.status = .success then
    if startsWith "skip:" (lower resp.msg) then
      Eff.modifyState fun d => { d with lastSkipReason := some (skipReason resp.msg) }
      return false
    return true
  return false

/-- `_check_hrr_assertion`. -/
def checkHrrAssertion (resp : OperationResponse) (clientConf : TlsConfig) (label : String) :
    DriverM Bool := do
  if !clientConf.expectHrr then return true
  if resp.negotiatedOrDefault.hrrOccurred then return true
  noteFailure label
    "expected Hello Retry Request (expect_hrr=true) but negotiated.hrr_occurred is false"
  return false

/-- The CLOSE of one role in `_cleanup`. -/
def closeRole (label : String) (role : Role) : DriverM Unit :=
  tryCatch
    (do
      let resp ← execute .close role {} [] none
      let _ ← checkResponse resp ("CLOSE " ++ label))
    fun _ => pure ()

/-- `_cleanup`. -/
def cleanup : DriverM Unit := do
  closeRole "server" .server
  closeRole "client" .client

/-- The CLOSE of one role in `emergency_cleanup`. -/
def emergencyCloseRole (label : String) (role : Role) : DriverM Unit :=
  tryCatch
    (do
      let resp ← execute .close role {} [] (some emergencyCloseGrpcS)
      catchUp
      noteResponse ("CLOSE " ++ label ++ " (timeout watchdog)") resp)
    fun e => do
      catchUp
      note ("--- CLOSE " ++ label ++ " (timeout watchdog) (ERROR) ---\n" ++ e.msg)

/-- `emergency_cleanup`. -/
def emergencyCleanup : DriverM Unit := do
  emergencyCloseRole "server" .server
  emergencyCloseRole "client" .client

/-- The check of the echoed payload at the end of `_run_post_establish_round_trip`. -/
def checkEcho (rTx rSrv : OperationResponse) : DriverM Bool := do
  if testPayload <:+: rSrv.outputData then return true
  noteFailure "verify" ("server output did not contain echoed payload\nexpected: "
    ++ reprBytes testPayload ++ "\nclient out: " ++ reprBytes rTx.outputData ++ "\nserver out: "
    ++ reprBytes rSrv.outputData)
  return false

/-- The TRANSMIT calls of `_run_post_establish_round_trip`. -/
def transmitRoundTrip : DriverM Bool := do
  let rTx ← execute .transmit .client {} testPayload none
  if !(← checkResponse rTx "TRANSMIT client") then return false
  let rSrv ← execute .transmit .server {} [] none
  if !(← checkResponse rSrv "TRANSMIT server") then return false
  checkEcho rTx rSrv

/-- `_run_post_establish_round_trip`. -/
def runPostEstablishRoundTrip (tcpHost : String) (tcpPort : ℤ) : DriverM Bool := do
  let (okPeer, tcpErr) ← waitTcpConnect tcpHost tcpPort tcpAfterEstablishS
  if !okPeer then
    noteFailure "wait_tcp" ("TCP " ++ tcpHost ++ ":" ++ toString tcpPort
      ++ " not accepting after ESTABLISH (" ++ tcpErr ++ ")")
    return false
  transmitRoundTrip

/-- The configuration of one step of a resumption. -/
def stepConf (clientConf : TlsConfig) (step : String) : TlsConfig :=
  { clientConf with resumptionStep := step }

/-- `_establish_client`. -/
def establishClient (clientConf : TlsConfig) (resumption : Bool) : DriverM Bool := do
  if !resumption then
    let r ← execute .establish .client clientConf [] none
    if !(← checkResponse r "ESTABLISH client") then return false
    checkHrrAssertion r clientConf "ESTABLISH client"
  else
    let r ← execute .establish .client (stepConf clientConf "save") [] none
    if !(← checkResponse r "ESTABLISH client (resumption save)") then return false
    if !(← checkHrrAssertion r clientConf "ESTABLISH client (resumption save)") then return false
    let r ← execute .establish .client (stepConf clientConf "resume") [] none
    checkResponse r "ESTABLISH client (resumption resume)"

/-- Whether a test runs two client connections. -/
def usesResumption (clientConf : TlsConfig) : Bool :=
  testFeatureEnabledInConfig clientConf "resumption" || testFeatureEnabledInConfig clientConf "0rtt"

/-- The `try` block of `run_test_with_configs`. -/
def runProtocol (serverConf clientConf : TlsConfig) (tcpHost : String) (tcpPort : ℤ) :
    DriverM Bool := do
  let r ← execute .establish .server serverConf [] none
  if !(← checkResponse r "ESTABLISH server") then return false
  if !(← establishClient clientConf (usesResumption clientConf)) then return false
  runPostEstablishRoundTrip tcpHost tcpPort

/-- `run_test_with_configs`. -/
def runTestWithConfigs (serverConf clientConf : TlsConfig) (tcpHost : String) (tcpPort : ℤ) :
    DriverM Bool := do
  Eff.modifyState fun d => { d with lastSkipReason := none }
  (runProtocol serverConf clientConf tcpHost tcpPort).finallyDo cleanup

end InteropDriver

end TlsInterop
