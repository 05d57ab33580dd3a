import TlsInterop.Runner.Ports

/-!
# The wrapper processes of a run

The model of `start` and `stop` of `WrapperSession`, and of where
`execute_matrix_execution` calls them.  A run starts its sessions one after another,
each of them its wrappers one after another; it stops the sessions in a `finally`
block that is entered once all of them are started.

## Main definitions

* `SessionCall`, `SessionAns`, `SessionM` — the calls of a session and the programs on them.
* `WrapperSession.start`, `WrapperSession.stop` — the start and the end of a session.
* `MatrixRun.startAll`, `MatrixRun.executeMatrixExecution` — those of a run.
* `spawned`, `Stopped`, `StartFails` — the processes of a run, those `stop` has had, and the
  runs whose start fails.

## Main results

* `startAll_startsOnly` — the start of a run never stops a process.
* `executeMatrixExecution_untouched` — in attach mode no process is touched.
* `failed_start_iff` — **a start that fails leaves every process it has spawned.**
* `running_wrapper_left` — the second wrapper exits at once, and the first one stays.
-/

namespace TlsInterop

open Py Effects

/-! ### Calls -/

/-- A wrapper process: the `Popen` object. -/
abbrev WrapperProc := ℕ

/-- The calls of the sessions of a run. -/
inductive SessionCall
  /-- `ensure_certs`. -/
  | ensureCerts
  /-- `check_local_cli_tools`. -/
  | checkLocalCliTools (backends : List String)
  /-- `wait_tcp_connect`, on a port that should be free. -/
  | portInUse (host : String) (port : ℤ)
  /-- `session_wrapper_env`. -/
  | sessionWrapperEnv (backend : String) (slotId : Option ℕ)
  /-- `subprocess.Popen` of a wrapper. -/
  | popen (backend : String) (env : Dict String String)
  /-- `proc.poll`. -/
  | poll (proc : WrapperProc)
  /-- Read what a wrapper has printed, errors ignored. -/
  | readOutput (proc : WrapperProc)
  /-- How many rounds of `_wait_grpc_ready` begin before its deadline. -/
  | readyRounds
  /-- `_probe_grpc_addr`. -/
  | probe (addr : String)
  /-- `GetMetadata`. -/
  | getMetadata (addr : String)
  /-- The cells of the run, in the started sessions. -/
  | runCells
  /-- `os.killpg`, with SIGKILL or with SIGTERM. -/
  | killpg (proc : WrapperProc) (force : Bool)
  /-- `proc.terminate` or `proc.kill`. -/
  | signal (proc : WrapperProc) (force : Bool)
  /-- `proc.wait`, until the deadline of `stop`. -/
  | wait (proc : WrapperProc)

/-- How each call is answered: `killpg` with whether the signal was sent, `wait` with
whether the process ended in time. -/
abbrev SessionAns : SessionCall → Type
  | .ensureCerts => Except PyExc Unit
  | .checkLocalCliTools _ => Except PyExc (List String)
  | .portInUse .. => Except PyExc Bool
  | .sessionWrapperEnv .. => Except PyExc (Dict String String)
  | .popen .. => Except PyExc WrapperProc
  | .poll _ => Option ℤ
  | .readOutput _ => String
  | .readyRounds => ℕ
  | .probe _ => Bool
  | .getMetadata _ => Except PyExc Unit
  | .runCells => Except PyExc (List (String × ℤ))
  | .killpg .. => Bool
  | .signal .. => Except PyExc Unit
  | .wait _ => Bool

/-- `_procs` of the sessions, by slot. -/
abbrev SessionProcs := ℕ → List WrapperProc

/-- A program on the sessions of a run. -/
abbrev SessionM (α : Type) : Type := Eff SessionAns PyExc SessionProcs α

/-- What a run finds at its start: `os.environ`, and the arguments for its sessions. -/
structure RunHost where
  environ : Dict String String := []
  verbose : Bool := false
  attach : Bool := false

namespace WrapperSession

variable (host : RunHost) (repo : Repo) (session : WrapperSession)

/-- The place of the processes of the session. -/
def slot : ℕ := session.slotId.getD 0

/-! ### Start -/

/-- What a process has printed, if that is kept. -/
def processOutput (proc : WrapperProc) : SessionM String :=
  if host.verbose then Eff.call (SessionCall.readOutput proc) else return ""

/-- `_wrapper_env`. -/
def wrapperEnv (backend : String) : SessionM (Dict String String) := do
  let addr ← Eff.ofExcept (session.grpcAddr repo backend)
  let address ← Eff.ofExcept (grpcHostPort addr)
  let env := (host.environ.set "GRPC_PORT" (toString address.2)).set "WRAPPER" backend
  let env := match session.slotId with
    | some slot => env.set "INTEROP_SLOT_ID" (toString slot)
    | none => env
  let own ← Eff.invoke (SessionCall.sessionWrapperEnv backend session.slotId) id
  return (own.foldl (fun env e => env.set e.1 e.2) env).filter fun e => e.1 ≠ "PYTHONPATH"

/-- The complaint about a wrapper that has exited. -/
def exitedDetail (how backend : String) (code : ℤ) (out : String) : String :=
  "Wrapper " ++ backend ++ " exited " ++ how ++ "(code " ++ toString code ++ ")" ++
    if out = "" then "" else ":\n" ++ out

/-- `_start_one_wrapper`. -/
def startOneWrapper (backend : String) : SessionM Unit := do
  let env ← session.wrapperEnv host repo backend
  let proc ← Eff.invoke (SessionCall.popen backend env) id
  Eff.modifyState fun procs => Function.update procs session.slot (procs session.slot ++ [proc])
  match ← Eff.call (SessionCall.poll proc) with
  | none => return ()
  | some code =>
    let out ← processOutput host proc
    throw ⟨.runtimeError, exitedDetail "immediately " backend code out⟩

/-- The wrappers, one after another. -/
def startWrappers : List String → SessionM Unit
  | [] => return ()
  | backend :: rest => do
    session.startOneWrapper host repo backend
    startWrappers rest

/-- `_assert_grpc_ports_free`. -/
def assertGrpcPortsFree : List String → SessionM Unit
  | [] => return ()
  | backend :: rest => do
    let addr ← Eff.ofExcept (session.grpcAddr repo backend)
    let address ← Eff.ofExcept (grpcHostPort addr)
    if ← Eff.invoke (SessionCall.portInUse address.1 address.2) id then
      throw ⟨.runtimeError, "gRPC port collision: " ++ toString address.2 ++ " already in use (" ++
        addr ++ "). Stop other wrapper processes, or lower --jobs (each worker slot offsets " ++
        "ports by " ++ toString workerPortStride ++ ")"⟩
    assertGrpcPortsFree rest

/-- `_spawn_wrappers`; the addresses are formatted for the note on the attach mode. -/
def spawnWrappers : SessionM Unit := do
  if session.backends = [] then return ()
  if session.attach then
    let _ ← Eff.ofExcept (session.backends.mapM (session.grpcAddr repo))
    return ()
  Eff.invoke SessionCall.ensureCerts id
  let missing ← Eff.invoke (SessionCall.checkLocalCliTools session.backends) id
  if missing ≠ [] then
    throw ⟨.runtimeError, "Requires TLS CLI tools on PATH:\n  " ++ "\n  ".intercalate missing⟩
  session.assertGrpcPortsFree repo session.backends
  session.startWrappers host repo session.backends

/-- `_wrapper_crash_report`. -/
def wrapperCrashReport : List (String × WrapperProc) → SessionM (List String)
  | [] => return []
  | (backend, proc) :: rest => do
    match ← Eff.call (SessionCall.poll proc) with
    | none => wrapperCrashReport rest
    | some code =>
      let out ← processOutput host proc
      return exitedDetail "" backend code (strip out) :: (← wrapperCrashReport rest)

/-- `_raise_if_wrappers_crashed`. -/
def raiseIfWrappersCrashed : SessionM Unit := do
  let procs ← Eff.getState
  let parts ← wrapperCrashReport host (session.backends.zip (procs session.slot))
  if parts ≠ [] then throw ⟨.runtimeError, "\n".intercalate parts⟩

/-- The addresses that are not reachable yet. -/
def probePending : List String → SessionM (List String)
  | [] => return []
  | addr :: rest => do
    let reachable ← Eff.call (SessionCall.probe addr)
    let pending ← probePending rest
    return if reachable then pending else addr :: pending

/-- The rounds of `_wait_grpc_ready`. -/
def readyRounds : ℕ → List String → SessionM (List String)
  | 0, pending => return pending
  | rounds + 1, pending => do
    if pending = [] then return []
    session.raiseIfWrappersCrashed host
    readyRounds rounds (← probePending pending)

/-- `_wait_grpc_ready`, with `DEFAULT_GRPC_STARTUP_S`. -/
def waitGrpcReady : SessionM Unit := do
  let addrs ← Eff.ofExcept (session.backends.mapM (session.grpcAddr repo))
  if addrs = [] then return ()
  let rounds ← Eff.call SessionCall.readyRounds
  let pending ← session.readyRounds host rounds (sortedSet addrs)
  if pending = [] then return ()
  session.raiseIfWrappersCrashed host
  throw ⟨.timeoutError, "gRPC not reachable within 90.0s: " ++ ", ".intercalate pending⟩

/-- `_load_metadata`; the metadata are left out. -/
def loadMetadata : List String → SessionM Unit
  | [] => return ()
  | backend :: rest => do
    let addr ← Eff.ofExcept (session.grpcAddr repo backend)
    Eff.invoke (SessionCall.getMetadata addr) id
    loadMetadata rest

/-- `start`. -/
def start : SessionM Unit := do
  session.spawnWrappers host repo
  session.waitGrpcReady host repo
  session.loadMetadata repo session.backends

/-! ### Stop -/

/-- SIGTERM to a process that still runs. -/
def terminateOne (proc : WrapperProc) : SessionM Unit := do
  if (← Eff.call (SessionCall.poll proc)).isSome then return ()
  if ← Eff.call (SessionCall.killpg proc false) then return ()
  Eff.invoke (SessionCall.signal proc false) id

/-- Wait for a process, and SIGKILL to one that does not end. -/
def awaitOne (proc : WrapperProc) : SessionM Unit := do
  if ← Eff.call (SessionCall.wait proc) then return ()
  if ← Eff.call (SessionCall.killpg proc true) then return ()
  Eff.invoke (SessionCall.signal proc true) id

/-- `stop`. -/
def stop : SessionM Unit := do
  if session.attach then return ()
  let procs := (← Eff.getState) session.slot
  procs.forM terminateOne
  procs.forM awaitOne
  Eff.modifyState fun procs => Function.update procs session.slot []

end WrapperSession

/-! ### The sessions of a run -/

/-- `WrapperSession(repo, backends, attach=attach)`. -/
def serialSession (repo : Repo) (backends : List String) (attach : Bool) :
    Except PyExc WrapperSession := do
  let unknown := backends.filter fun name => name ∉ repo.discoverWrapperIds
  if unknown ≠ [] then
    throw ⟨.valueError, "Unknown backend(s): ["
      ++ String.intercalate ", " ((sortedSet unknown).map reprStr) ++ "]"⟩
  return { backends := sortedSet backends, attach, slotId := none, grpcPortOverrides := [] }

namespace MatrixRun

variable (host : RunHost) (run : MatrixRun)

/-- The sessions of a run: those of the slots, or the one of a serial run. -/
def sessions (backends : List String) (jobs : ℤ) : Except PyExc (List WrapperSession) :=
  if 1 < jobs ∧ backends ≠ [] then run.slotSessions backends jobs
  else if backends ≠ [] then (serialSession run.repo backends host.attach).map fun s => [s]
  else .ok []

/-- The sessions are created, and then started one after another. -/
def startAll (backends : List String) (jobs : ℤ) : SessionM (List WrapperSession) := do
  let sessions ← Eff.ofExcept (run.sessions host backends jobs)
  sessions.forM fun session => session.start host run.repo
  return sessions

/-- `execute_matrix_execution`, and `run_matrix_parallel` of it. -/
def executeMatrixExecution (backends : List String) (jobs : ℤ) :
    SessionM (List (String × ℤ)) := do
  let sessions ← run.startAll host backends jobs
  Eff.finallyDo (Eff.invoke SessionCall.runCells id) (sessions.forM fun session => session.stop)

end MatrixRun

/-! ### The processes of a run -/

/-- The process a call starts. -/
def spawnedBy : Event SessionAns → Option WrapperProc
  | ⟨.popen .., .ok proc⟩ => some proc
  | _ => none

/-- The processes a trace starts, in order. -/
def spawned (tr : List (Event SessionAns)) : List WrapperProc := tr.filterMap spawnedBy

/-- `stop` has had the process: nothing else waits for it. -/
def Stopped (proc : WrapperProc) (tr : List (Event SessionAns)) : Prop :=
  ∃ ans, (⟨.wait proc, ans⟩ : Event SessionAns) ∈ tr

/-- The call starts, asks or signals a process. -/
def SessionCall.touches : SessionCall → Bool
  | popen .. => true
  | poll _ => true
  | readOutput _ => true
  | killpg .. => true
  | signal .. => true
  | wait _ => true
  | _ => false

/-- The run ends in an exception before its cells are run. -/
def StartFails (tr : List (Event SessionAns)) (r : Except PyExc (List (String × ℤ))) : Prop :=
  (∃ e, r = .error e) ∧ ∀ ans, (⟨.runCells, ans⟩ : Event SessionAns) ∉ tr

/-! ### What a start does -/

/-- The calls of a start. -/
def SessionCall.starts : SessionCall → Bool
  | runCells => false
  | killpg .. => false
  | signal .. => false
  | wait _ => false
  | _ => true

/-- Nothing is run, signalled or waited for. -/
abbrev startsOnly : Eff.Frame SessionAns SessionProcs := Eff.callsOnly SessionCall.starts

section

variable {host : RunHost} {repo : Repo} {run : MatrixRun} {session : WrapperSession}

/-- A call of a start. -/
theorem call_startsOnly {q : SessionCall} (hq : q.starts = true) :
    Eff.Within startsOnly (Eff.call q : SessionM (SessionAns q)) := .call (Eff.callsOnly_single hq)

theorem invoke_startsOnly {α : Type} {q : SessionCall} {answer : SessionAns q → Except PyExc α}
    (hq : q.starts = true) : Eff.Within startsOnly (Eff.invoke q answer) :=
  .invoke (Eff.callsOnly_single hq)

theorem processOutput_startsOnly (proc : WrapperProc) :
    Eff.Within startsOnly (WrapperSession.processOutput host proc) :=
  .ite (call_startsOnly rfl) (.pure _)

theorem startOneWrapper_startsOnly (backend : String) :
    Eff.Within startsOnly (session.startOneWrapper host repo backend) := by
  have henv : Eff.Within startsOnly (session.wrapperEnv host repo backend) :=
    .bind (.ofExcept _) fun _ => .bind (.ofExcept _) fun _ =>
      .bind (invoke_startsOnly rfl) fun _ => .pure _
  refine .bind henv fun _ => .bind (invoke_startsOnly rfl) fun _ =>
    .bind (.modifyState fun s => startsOnly.refl s) fun _ => .bind (call_startsOnly rfl) fun code => ?_
  cases code with
  | none => exact .pure _
  | some code => exact .bind (processOutput_startsOnly _) fun _ => .throw _

theorem startWrappers_startsOnly (backends : List String) :
    Eff.Within startsOnly (session.startWrappers host repo backends) := by
  induction backends with
  | nil => exact .pure _
  | cons backend rest ih => exact .bind (startOneWrapper_startsOnly backend) fun _ => ih

theorem assertGrpcPortsFree_startsOnly (backends : List String) :
    Eff.Within startsOnly (session.assertGrpcPortsFree repo backends) := by
  induction backends with
  | nil => exact .pure _
  | cons backend rest ih =>
    exact .bind (.ofExcept _) fun _ => .bind (.ofExcept _) fun _ =>
      .bind (invoke_startsOnly rfl) fun _ => .ite (.bind (.throw _) fun _ => ih) ih

theorem spawnWrappers_startsOnly : Eff.Within startsOnly (session.spawnWrappers host repo) := by
  refine .ite (.pure _) (.ite (.bind (.ofExcept _) fun _ => .pure _) ?_)
  refine .bind (invoke_startsOnly rfl) fun _ => .bind (invoke_startsOnly rfl) fun missing => ?_
  have hrest : Eff.Within startsOnly (do
      session.assertGrpcPortsFree repo session.backends
      session.startWrappers host repo session.backends) :=
    .bind (assertGrpcPortsFree_startsOnly _) fun _ => startWrappers_startsOnly _
  exact .ite (.bind (.throw _) fun _ => hrest) hrest

theorem wrapperCrashReport_startsOnly (procs : List (String × WrapperProc)) :
    Eff.Within startsOnly (WrapperSession.wrapperCrashReport host procs) := by
  induction procs with
  | nil => exact .pure _
  | cons entry rest ih =>
    refine .bind (call_startsOnly rfl) fun code => ?_
    cases code with
    | none => exact ih
    | some code => exact .bind (processOutput_startsOnly _) fun _ => .bind ih fun _ => .pure _

theorem raiseIfWrappersCrashed_startsOnly :
    Eff.Within startsOnly (session.raiseIfWrappersCrashed host) :=
  .bind .getState fun _ => .bind (wrapperCrashReport_startsOnly _) fun _ => .ite (.throw _) (.pure _)

theorem probePending_startsOnly (addrs : List String) :
    Eff.Within startsOnly (WrapperSession.probePending addrs) := by
  induction addrs with
  | nil => exact .pure _
  | cons addr rest ih => exact .bind (call_startsOnly rfl) fun _ => .bind ih fun _ => .pure _

theorem readyRounds_startsOnly (rounds : ℕ) (pending : List String) :
    Eff.Within startsOnly (session.readyRounds host rounds pending) := by
  induction rounds generalizing pending with
  | zero => exact .pure _
  | succ rounds ih =>
    exact .ite (.pure _) <| .bind raiseIfWrappersCrashed_startsOnly fun _ =>
      .bind (probePending_startsOnly _) fun _ => ih _

theorem waitGrpcReady_startsOnly : Eff.Within startsOnly (session.waitGrpcReady host repo) :=
  .bind (.ofExcept _) fun _ => .ite (.pure _) <| .bind (call_startsOnly rfl) fun _ =>
    .bind (readyRounds_startsOnly ..) fun _ => .ite (.pure _) <|
    .bind raiseIfWrappersCrashed_startsOnly fun _ => .throw _

theorem loadMetadata_startsOnly (backends : List String) :
    Eff.Within startsOnly (session.loadMetadata repo backends) := by
  induction backends with
  | nil => exact .pure _
  | cons backend rest ih =>
    exact .bind (.ofExcept _) fun _ => .bind (invoke_startsOnly rfl) fun _ => ih

theorem start_startsOnly : Eff.Within startsOnly (session.start host repo) :=
  .bind spawnWrappers_startsOnly fun _ => .bind waitGrpcReady_startsOnly fun _ =>
    loadMetadata_startsOnly _

/-- The start of a run never stops a process. -/
theorem startAll_startsOnly (backends : List String) (jobs : ℤ) :
    Eff.Within startsOnly (run.startAll host backends jobs) :=
  .bind (.ofExcept _) fun _ => .bind (.forM fun _ _ => start_startsOnly) fun _ => .pure _

theorem not_stopped_of_startsOnly {tr : List (Event SessionAns)}
    (h : ∀ e ∈ tr, e.1.starts = true) (proc : WrapperProc) : ¬ Stopped proc tr := by
  rintro ⟨ans, hmem⟩
  have hstarts := h _ hmem
  cases hstarts

/-- A run whose start fails is a run of the start. -/
theorem exec_of_startFails {backends : List String} {jobs : ℤ} {procs procs' : SessionProcs}
    {tr : List (Event SessionAns)} {r : Except PyExc (List (String × ℤ))}
    (h : (run.executeMatrixExecution host backends jobs).Exec procs tr r procs')
    (hfails : StartFails tr r) :
    ∃ e, (run.startAll host backends jobs).Exec procs tr (.error e) procs' := by
  unfold MatrixRun.executeMatrixExecution at h
  rcases Eff.exec_bind.mp h with ⟨e, -, hstart⟩ | ⟨sessions, procs₁, tr₁, tr₂, rfl, -, hrest⟩
  · exact ⟨e, hstart⟩
  · -- the cells are run once the start succeeds
    obtain ⟨r₁, r₂, procs₂, tr₃, tr₄, rfl, -, hcells, -⟩ := Eff.exec_finallyDo.mp hrest
    obtain ⟨ans, rfl, -, -⟩ := Eff.exec_invoke.mp hcells
    exact absurd (List.mem_append_right _ List.mem_cons_self) (hfails.2 ans)

/-! ### Attach mode -/

/-- Where there are no processes none is touched. -/
def untouched : Eff.Frame SessionAns SessionProcs where
  holds procs tr procs' := (∀ i, procs i = []) →
    (∀ e ∈ tr, e.1.touches = false) ∧ ∀ i, procs' i = []
  refl _ hnone := ⟨fun _ he => absurd he List.not_mem_nil, hnone⟩
  trans := by
    intro procs procs₁ procs₂ tr tr' h h' hnone
    obtain ⟨htr, hnone₁⟩ := h hnone
    obtain ⟨htr', hnone₂⟩ := h' hnone₁
    exact ⟨fun e he => (List.mem_append.mp he).elim (htr e) (htr' e), hnone₂⟩

theorem untouched_single {q : SessionCall} (hq : q.touches = false) (procs : SessionProcs)
    (ans : SessionAns q) : untouched.holds procs [⟨q, ans⟩] procs := by
  intro hnone
  refine ⟨fun e he => ?_, hnone⟩
  rw [List.mem_singleton.mp he]
  exact hq

theorem probePending_untouched (addrs : List String) :
    Eff.Within untouched (WrapperSession.probePending addrs) := by
  induction addrs with
  | nil => exact .pure _
  | cons addr rest ih => exact .bind (.call (untouched_single rfl)) fun _ => .bind ih fun _ => .pure _

/-- Without processes there is none to ask. -/
theorem raiseIfWrappersCrashed_untouched :
    Eff.Within untouched (session.raiseIfWrappersCrashed host) := by
  intro procs tr r procs' h hnone
  unfold WrapperSession.raiseIfWrappersCrashed at h
  rw [Eff.exec_getState_bind, hnone, List.zip_nil_right] at h
  have hquiet : Eff.Within untouched (do
      let parts ← WrapperSession.wrapperCrashReport host []
      if parts ≠ [] then throw ⟨.runtimeError, "\n".intercalate parts⟩ : SessionM Unit) :=
    .bind (.pure _) fun _ => .ite (.throw _) (.pure _)
  exact hquiet h hnone

theorem readyRounds_untouched (rounds : ℕ) (pending : List String) :
    Eff.Within untouched (session.readyRounds host rounds pending) := by
  induction rounds generalizing pending with
  | zero => exact .pure _
  | succ rounds ih =>
    exact .ite (.pure _) <| .bind raiseIfWrappersCrashed_untouched fun _ =>
      .bind (probePending_untouched _) fun _ => ih _

theorem start_untouched (hattach : session.attach = true) :
    Eff.Within untouched (session.start host repo) := by
  have hspawn : Eff.Within untouched (session.spawnWrappers host repo) := by
    unfold WrapperSession.spawnWrappers
    rw [hattach]
    exact .ite (.pure _) (.bind (.ofExcept _) fun _ => .pure _)
  have hwait : Eff.Within untouched (session.waitGrpcReady host repo) :=
    .bind (.ofExcept _) fun _ => .ite (.pure _) <| .bind (.call (untouched_single rfl)) fun _ =>
      .bind (readyRounds_untouched ..) fun _ => .ite (.pure _) <|
      .bind raiseIfWrappersCrashed_untouched fun _ => .throw _
  have hload : ∀ backends, Eff.Within untouched (session.loadMetadata repo backends) := by
    intro backends
    induction backends with
    | nil => exact .pure _
    | cons backend rest ih =>
      exact .bind (.ofExcept _) fun _ => .bind (.invoke (untouched_single rfl)) fun _ => ih
  exact .bind hspawn fun _ => .bind hwait fun _ => hload _

theorem stop_untouched (hattach : session.attach = true) :
    Eff.Within untouched session.stop := by
  unfold WrapperSession.stop
  rw [if_pos hattach]
  exact .pure _

theorem attach_of_serialSession {backends : List String} {attach : Bool}
    (h : serialSession repo backends attach = .ok session) : session.attach = attach := by
  unfold serialSession at h
  dsimp only at h
  by_cases hunknown : (backends.filter fun name => name ∉ repo.discoverWrapperIds) ≠ []
  · rw [if_pos hunknown] at h
    cases h
  · rw [if_neg hunknown] at h
    rw [← Except.ok.inj h]

/-- The one session of a serial run is attached when the run is. -/
theorem attach_of_sessions {backends : List String} {jobs : ℤ} {sessions : List WrapperSession}
    (hattach : host.attach = true) (hjobs : jobs ≤ 1)
    (h : run.sessions host backends jobs = .ok sessions) : ∀ s ∈ sessions, s.attach = true := by
  unfold MatrixRun.sessions at h
  rw [if_neg fun hp => absurd hp.1 (not_lt.mpr hjobs)] at h
  by_cases hback : backends ≠ []
  · rw [if_pos hback, hattach] at h
    cases hsession : serialSession run.repo backends true with
    | error e =>
      rw [hsession] at h
      cases h
    | ok session =>
      rw [hsession] at h
      obtain rfl := Except.ok.inj h
      intro s hs
      rw [List.mem_singleton.mp hs]
      exact attach_of_serialSession hsession
  · rw [if_neg hback] at h
    rw [← Except.ok.inj h]
    exact fun s hs => absurd hs List.not_mem_nil

theorem sessions_of_startAll {backends : List String} {jobs : ℤ} {procs procs' : SessionProcs}
    {tr : List (Event SessionAns)} {sessions : List WrapperSession}
    (h : (run.startAll host backends jobs).Exec procs tr (.ok sessions) procs') :
    run.sessions host backends jobs = .ok sessions := by
  obtain ⟨made, procs₁, tr₁, tr₂, rfl, hmade, hrest⟩ := Eff.exec_bind_ok.mp h
  obtain ⟨rfl, hsessions, rfl⟩ := Eff.exec_ofExcept.mp hmade
  obtain ⟨_, procs₂, tr₃, tr₄, rfl, -, hret⟩ := Eff.exec_bind_ok.mp hrest
  obtain ⟨-, hsame, -⟩ := Eff.exec_pure.mp hret
  rw [hsessions]
  exact hsame

/-- **In attach mode no process is touched**, however the run ends. -/
theorem executeMatrixExecution_untouched {backends : List String} {jobs : ℤ}
    (hattach : host.attach = true) (hjobs : jobs ≤ 1) :
    Eff.Within untouched (run.executeMatrixExecution host backends jobs) := by
  have hstart : Eff.Within untouched (run.startAll host backends jobs) := by
    refine .ofExcept_bind fun sessions hsessions => ?_
    have hall := attach_of_sessions hattach hjobs hsessions
    exact .bind (.forM fun s hs => start_untouched (hall s hs)) fun _ => .pure _
  intro procs tr r procs' h
  unfold MatrixRun.executeMatrixExecution at h
  rcases Eff.exec_bind.mp h with ⟨e, -, h₁⟩ | ⟨sessions, procs₁, tr₁, tr₂, rfl, h₁, h₂⟩
  · exact hstart h₁
  · have hall := attach_of_sessions hattach hjobs (sessions_of_startAll h₁)
    have hrest : Eff.Within untouched (Eff.finallyDo (Eff.invoke SessionCall.runCells id)
        (sessions.forM fun session => session.stop)) :=
      .finallyDo (.invoke (untouched_single rfl)) (.forM fun s hs => stop_untouched (hall s hs))
    exact untouched.trans (hstart h₁) (hrest h₂)

/-! ### A start that fails -/

/-- **A start that fails stops nothing**: every process it has spawned is left, so
that all of them are stopped only when there is none.  The sessions are started before the
`try` whose `finally` stops them, and a session that fails half way does not stop the
wrappers it has already started. -/
theorem failed_start_iff {backends : List String} {jobs : ℤ} {procs : SessionProcs}
    {tr : List (Event SessionAns)} {r : Except PyExc (List (String × ℤ))}
    (h : (run.executeMatrixExecution host backends jobs).Exec (fun _ => []) tr r procs)
    (hfails : StartFails tr r) (hattach : host.attach = true → jobs ≤ 1) :
    ((∀ proc ∈ spawned tr, Stopped proc tr) ∧
      (host.attach = true → ∀ e ∈ tr, e.1.touches = false)) ↔ spawned tr = [] := by
  obtain ⟨e, hstart⟩ := exec_of_startFails h hfails
  have hstarts := startAll_startsOnly backends jobs hstart
  constructor
  · rintro ⟨hstopped, -⟩
    refine List.eq_nil_iff_forall_not_mem.mpr fun proc hproc => ?_
    exact not_stopped_of_startsOnly hstarts proc (hstopped proc hproc)
  · intro hnone
    refine ⟨fun proc hproc => ?_, fun ha => ?_⟩
    · rw [hnone] at hproc
      exact absurd hproc List.not_mem_nil
    · exact (executeMatrixExecution_untouched ha (hattach ha) h fun _ => rfl).1

end

/-! ### Runs -/

/-- A matrix over the shipped documents. -/
def startRun : MatrixRun where
  repo := shippedRepo "/repo" fun _ => none
  axisKeys := []
  args := ⟨[], none⟩
  combos := [[]]

/-- Every tool and identity is there; the ports are in use or not, and the wrappers
of GnuTLS run while those of OpenSSL exit at once. -/
def startEnv (inUse : Bool) : Prog.Env SessionAns
  | _, .ensureCerts => .ok ()
  | _, .checkLocalCliTools _ => .ok []
  | _, .portInUse .. => .ok inUse
  | _, .sessionWrapperEnv .. => .ok []
  | _, .popen backend _ => .ok (if backend = "gnutls" then 0 else 1)
  | _, .poll proc => if proc = 0 then none else some 1
  | _, .readOutput _ => ""
  | _, .readyRounds => 1
  | _, .probe _ => true
  | _, .getMetadata _ => .ok ()
  | _, .runCells => .ok []
  | _, .killpg .. => true
  | _, .signal .. => .ok ()
  | _, .wait _ => true

/-- The serial run of GnuTLS and OpenSSL. -/
abbrev startedRun (inUse : Bool) :
    (Except PyExc (List (String × ℤ)) × SessionProcs) × List (Event SessionAns) :=
  ((startRun.executeMatrixExecution {} ["gnutls", "openssl"] 1).prog fun _ => []).exec
    (startEnv inUse) []

theorem startedRun_exec (inUse : Bool) :
    (startRun.executeMatrixExecution {} ["gnutls", "openssl"] 1).Exec (fun _ => [])
      (startedRun inUse).2 (startedRun inUse).1.1 (startedRun inUse).1.2 := Eff.exec_run ..

/-- Both starts fail before the cells are run. -/
theorem startedRun_fails (inUse : Bool) :
    StartFails (startedRun inUse).2 (startedRun inUse).1.1 := by
  have herror : (startedRun inUse).1.1.isOk = false := by
    cases inUse <;> decide +kernel
  have hstarts : ∀ e ∈ (startedRun inUse).2, e.1.starts = true := by
    cases inUse <;> decide +kernel
  refine ⟨?_, fun ans hmem => ?_⟩
  · cases hr : (startedRun inUse).1.1 with
    | error e => exact ⟨e, rfl⟩
    | ok results =>
      rw [hr] at herror
      cases herror
  · cases hstarts _ hmem

/-- A port collision is found before anything is spawned. -/
theorem collision_leaves_nothing :
    StartFails (startedRun true).2 (startedRun true).1.1 ∧
      ∀ proc ∈ spawned (startedRun true).2, Stopped proc (startedRun true).2 := by
  have hnone : spawned (startedRun true).2 = [] := by decide +kernel
  have hiff := failed_start_iff (startedRun_exec true) (startedRun_fails true) nofun
  exact ⟨startedRun_fails true, (hiff.mpr hnone).1⟩

/-- The wrapper of OpenSSL exits at once, and that of GnuTLS is left. -/
theorem running_wrapper_left :
    ∃ tr r procs, (startRun.executeMatrixExecution {} ["gnutls", "openssl"] 1).Exec (fun _ => [])
      tr r procs ∧ StartFails tr r ∧ 0 ∈ spawned tr ∧ ¬ Stopped 0 tr := by
  have hspawned : 0 ∈ spawned (startedRun false).2 := by decide +kernel
  have hstarts : ∀ e ∈ (startedRun false).2, e.1.starts = true := by decide +kernel
  exact ⟨_, _, _, startedRun_exec false, startedRun_fails false, hspawned,
    not_stopped_of_startsOnly hstarts 0⟩

end TlsInterop
