import TlsInterop.Core.Orchestration
import TlsInterop.Runner.Driver

/-!
# The run of one cell

The model of `execute_matrix_cell` of `core/runner.py`.  The worker thread is run
in one piece: the join answers first whether it ends in time.  A worker that does
not is seen through the lines it notes, up to the join and beside what the cell
does after it.

## Main definitions

* `runCellWorkerThread` — the worker and the two joins.
* `executeConfiguredCell` — the `try` statement of `execute_matrix_cell`.
* `executeMatrixCell` — a whole cell.
-/

namespace TlsInterop

open Py Effects DriverM InteropDriver

/-- What a cell is run with: the parties, the cell and whether failures are logged. -/
structure CellRun where
  server : String
  client : String
  cell : Cell
  debugLogs : Bool

/-- `_run_cell_worker_thread`: the result, whether the cell timed out, and the
exception of the worker. -/
def runCellWorkerThread (serverConf clientConf : TlsConfig) (tcpHost : String) (tcpPort : ℤ) :
    DriverM (Option Bool × Bool × Option PyExc) := do
  match ← Eff.call DriverCall.joinWorker with
  | some noted =>
    Eff.modifyState fun d => { d with failLog := d.failLog ++ noted }
    emergencyCleanup
    Eff.call DriverCall.rejoinWorker
    return (none, true, none)
  | none =>
    tryCatch
      (do
        let ok ← runTestWithConfigs serverConf clientConf tcpHost tcpPort
        return (some ok, false, none))
      fun e => return (none, false, some e)

/-- The order of the entries of a mapping: of pairs, the first decides before the second. -/
def entryLe (a b : String × String) : Bool := if a.1 = b.1 then a.2 ≤ b.2 else a.1 ≤ b.1

/-- The cell in the log: its entries in order, the blank ones left out.  Keys of
different kinds cannot be ordered. -/
def cellText (cell : Cell) : Except PyExc String :=
  let entries := cell.filterMap fun e => match e.1 with
    | .str k => some (k, e.2)
    | .other _ => none
  if entries.length ≠ cell.length then
    .error ⟨.typeError, "'<' not supported between instances"⟩
  else
    let sorted := (entries.mergeSort entryLe).filter fun e => strip e.2 ≠ ""
    .ok (", ".intercalate (sorted.map fun e => e.1 ++ "=" ++ e.2))

/-- `_fail_log_body`. -/
def failLogBody (kind : String) (run : CellRun) (d : InteropDriver) :
    Except PyExc (List String) := do
  let cellLine ← if run.cell ≠ [] then (cellText run.cell).map fun t => ["cell: " ++ t] else pure []
  return ["TLS interop " ++ kind, "server=" ++ run.server ++ " client=" ++ run.client] ++ cellLine
    ++ [""] ++ (if d.failLog ≠ [] then d.failLog else ["(no operation logs)"])

/-- `_save_cell_debug_log`. -/
def saveCellDebugLog (run : CellRun) (kind : String) : DriverM Unit := do
  if run.debugLogs then
    let d ← Eff.getState
    let body ← Eff.ofExcept (failLogBody kind run d)
    Eff.invoke (.writeLog kind run.server run.client body) id

/-- The summary of a timeout, under the limit `DEFAULT_CELL_TIMEOUT_S` of every cell. -/
def timeoutSummary : String :=
  "cell exceeded 45.0s wall-clock limit (CLOSE sent, CLI processes killed)"

/-- `_process_cell_outcome`.  The worker of a timed-out cell may be alive still. -/
def processCellOutcome (run : CellRun) (ok : Option Bool) (timedOut : Bool) : DriverM ℤ := do
  if timedOut then
    catchUp
    noteFailure "cell_timeout" timeoutSummary
    catchUp
    saveCellDebugLog run "TIMEOUT"
    return exitTimeout
  let d ← Eff.getState
  if d.lastSkipReason.any (· ≠ "") then return exitSkip
  if ok ≠ some true then
    saveCellDebugLog run "FAIL"
    return 1
  return 0

/-- The addresses `InteropDriver` is constructed with. -/
def stubAddresses (repo : Repo) (session : WrapperSession) (server client : String) :
    Except PyExc (String × String) := do
  return (← session.grpcAddr repo server, ← session.grpcAddr repo client)

/-- Construct the driver. -/
def newDriver (addresses : Except PyExc (String × String)) : DriverM Unit := do
  let _ ← Eff.ofExcept addresses
  Eff.modifyState fun _ => {}

/-- The body of the `try` statement of `execute_matrix_cell`. -/
def runConfiguredCell (addresses : Except PyExc (String × String)) (run : CellRun)
    (serverConf clientConf : TlsConfig) (tcpHost : String) (tcpPort : ℤ) : DriverM ℤ := do
  newDriver addresses
  let (ok, timedOut, workerExc) ← runCellWorkerThread serverConf clientConf tcpHost tcpPort
  match workerExc with
  | some e => throw e
  | none => processCellOutcome run ok timedOut

/-- The handler of the `try` statement: a driver that could not be constructed is
constructed once more. -/
def failConfiguredCell (addresses : Except PyExc (String × String)) (run : CellRun) (e : PyExc) :
    DriverM ℤ := do
  if (addresses.toOption).isNone then newDriver addresses
  catchUp
  noteFailure "grpc" e.msg
  catchUp
  saveCellDebugLog run "FAIL"
  return 1

/-- `remove_tls_session_artifact_files`, under a root without null characters. -/
def removeTlsSessionArtifactFiles (repoRoot : String) : DriverM Unit := do
  let root := strip repoRoot
  if root ≠ "" then
    Eff.call (DriverCall.unlink (root ++ "/session.ticket"))
    Eff.call (DriverCall.unlink (root ++ "/early_data.txt"))

/-- The `try` statement of `execute_matrix_cell`. -/
def executeConfiguredCell (addresses : Except PyExc (String × String)) (run : CellRun)
    (serverConf clientConf : TlsConfig) (tcpHost : String) (tcpPort : ℤ) (wroot : String) :
    DriverM ℤ :=
  Eff.finallyDo
    (tryCatch (runConfiguredCell addresses run serverConf clientConf tcpHost tcpPort)
      (failConfiguredCell addresses run))
    (removeTlsSessionArtifactFiles wroot)

/-- The configurations and the endpoint of a cell, built before the `try` statement. -/
def cellSetup (repo : Repo) (session : WrapperSession) (cell : Cell) :
    Except PyExc ((String × ℤ) × TlsConfig × TlsConfig) := do
  let serverConf ← tlsConfigFromCell repo cell true
  let clientConf ← tlsConfigFromCell repo cell false
  let wroot := session.filesystemRoot repo
  applyMatrixTlsEndpoints repo session cell (lower (strip (cell.field "server")))
    { serverConf with repoRoot := wroot } { clientConf with repoRoot := wroot }

/-- `execute_matrix_cell`. -/
def executeMatrixCell (repo : Repo) (session : WrapperSession) (cell : Cell)
    (debugLogs : Bool) : DriverM ℤ := do
  let server := lower (strip (cell.field "server"))
  let client := lower (strip (cell.field "client"))
  let (endpoint, serverConf, clientConf) ← Eff.ofExcept (cellSetup repo session cell)
  executeConfiguredCell (stubAddresses repo session server client)
    { server, client, cell, debugLogs } serverConf clientConf endpoint.1 endpoint.2
    (session.filesystemRoot repo)

end TlsInterop
