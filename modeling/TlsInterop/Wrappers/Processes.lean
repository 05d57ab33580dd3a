import TlsInterop.Wrappers.Servicer

/-!
# What a wrapper does to its processes

Which processes a run of a wrapper starts and which it sends a signal can be read
off its calls.  Most helpers do neither and leave the two process fields alone.

## Main definitions

* `started`, `signalled` — the processes a trace starts, and those it signals.
* `LookFrame` — a specification that looking at processes meets.
* `watches` — the specification of a run that leaves processes alone.
* `Ended` — a trace in which a process is terminated.

## Main results

* `watchServer_looks`, `watchClient_looks`, `handleTransmit_looks`,
  `handleOpError_looks` — the handlers only look, once a process is started.
* `exec_terminateProcessHard`, `exec_startCli` — the two that do not.
-/

namespace TlsInterop

open Py Effects

/-- The process a call starts. -/
def startedBy : Event WrapperAns → Option CliProc
  | ⟨.popen .., .ok p⟩ => some p
  | _ => none

/-- The process a call signals. -/
def signalledBy : Event WrapperAns → Option CliProc
  | ⟨.terminate p, _⟩ => some p
  | ⟨.kill p, _⟩ => some p
  | _ => none

/-- The processes a trace starts, in order. -/
def started (tr : List (Event WrapperAns)) : List CliProc := tr.filterMap startedBy

/-- The processes a trace sends a signal. -/
def signalled (tr : List (Event WrapperAns)) : List CliProc := tr.filterMap signalledBy

@[simp] theorem started_nil : started [] = [] := rfl

@[simp] theorem started_append (tr tr' : List (Event WrapperAns)) :
    started (tr ++ tr') = started tr ++ started tr' := List.filterMap_append

@[simp] theorem signalled_nil : signalled [] = [] := rfl

@[simp] theorem signalled_append (tr tr' : List (Event WrapperAns)) :
    signalled (tr ++ tr') = signalled tr ++ signalled tr' := List.filterMap_append

/-! ### Programs that only look -/

namespace WrapperCall

/-- The calls that look at a process, write to it, or remove a session artifact. -/
def isLook : WrapperCall → Bool
  | poll _ => true
  | readStdout .. => true
  | writeStdin .. => true
  | tcpRounds _ => true
  | tcpAttempt .. => true
  | unlinkArtifact _ => true
  | _ => false

end WrapperCall

/-- A specification that looking at processes meets, and that does not depend on the
cached commands and outputs and on the artifact root. -/
structure LookFrame extends Eff.Frame WrapperAns WrapperState where
  look : ∀ {q : WrapperCall} (s ans), q.isLook = true → holds s [⟨q, ans⟩] s
  remember : ∀ (s : WrapperState) (root serverCmd clientCmd serverOutput clientOutput : String),
    holds s [] { s with sessionArtifactRepoRoot := root, lastServerCmd := serverCmd
                        lastClientCmd := clientCmd, lastServerOutput := serverOutput
                        lastClientOutput := clientOutput }

/-- A program all of whose runs meet the specification. -/
abbrev Looks {α : Type} (F : LookFrame) (m : WrapperM α) : Prop := Eff.Within F.toFrame m

section

variable {F : LookFrame}

theorem call_looks {q : WrapperCall} (hq : q.isLook = true) : Looks F (Eff.call q) :=
  .call fun s ans => F.look s ans hq

theorem exited_looks (proc : Option CliProc) : Looks F (exited proc) := by
  cases proc with
  | none => exact .pure false
  | some p => exact .bind (call_looks rfl) fun _ => .pure _

theorem drainProcessOutput_looks (proc : Option CliProc) : Looks F (drainProcessOutput proc) := by
  cases proc with
  | none => exact .pure ""
  | some p => exact .bind (call_looks rfl) fun _ => .pure _

theorem readDecoded_looks (proc : Option CliProc) (timeoutS : ℚ) :
    Looks F (readDecoded proc timeoutS) := by
  cases proc with
  | none => exact .pure ""
  | some p => exact .bind (call_looks rfl) fun _ => .pure _

theorem tcpConnectRounds_looks (host : String) (port : ℤ) (proc : Option CliProc) (rounds : ℕ)
    (lastErr : String) : Looks F (tcpConnectRounds host port proc rounds lastErr) := by
  induction rounds generalizing lastErr with
  | zero => exact .pure _
  | succ rounds ih =>
    refine .bind (exited_looks proc) fun ended => .ite (.pure _) ?_
    refine .bind (.invoke fun s ans => F.look s ans rfl) fun attempt => ?_
    cases attempt with
    | none => exact .pure _
    | some err => exact ih err

theorem waitTcpConnect_looks (host : String) (port : ℤ) (proc : Option CliProc) :
    Looks F (waitTcpConnect host port proc) :=
  .bind (call_looks rfl) fun _ => tcpConnectRounds_looks ..

theorem rememberRoleCli_looks (role : Role) (cmd output : String) :
    Looks F (rememberRoleCli role cmd output) :=
  .modifyState fun s => by
    split
    · exact F.remember s _ cmd _ _ _
    · exact F.remember s _ _ cmd _ _

theorem exitCodeOf_looks (target : Option CliProc) : Looks F (exitCodeOf target) := by
  cases target with
  | none => exact .pure none
  | some p => exact call_looks rfl

theorem cliOutput_looks (cached : String) (target : Option CliProc) (output : Option String) :
    Looks F (cliOutput cached target output) := by
  cases output with
  | some text => exact .pure text
  | none => exact .bind (drainProcessOutput_looks target) fun _ => .pure _

theorem buildCliDebugLogs_looks (role : Role) (cmd : String) (proc : Option CliProc)
    (output : Option String) : Looks F (buildCliDebugLogs role cmd proc output) :=
  .bind .getState fun _ => .bind (cliOutput_looks ..) fun _ =>
    .bind (exitCodeOf_looks _) fun _ => .pure _

/-! ### The handlers, once a process is started -/

theorem watchServer_looks (b : CliBackend) (request : OperationRequest) (proc : CliProc)
    (cmdLogs msg : String) : Looks F (watchServer b request proc cmdLogs msg) := by
  refine .bind (exited_looks _) fun ended => .ite ?_ (.ite (.throw _) ?_)
  · exact .bind (drainProcessOutput_looks _) fun _ => .bind (rememberRoleCli_looks ..) fun _ =>
      .throw _
  refine .bind (waitTcpConnect_looks ..) fun listen => .ite ?_ ?_
  · exact .bind (drainProcessOutput_looks _) fun _ => .bind (rememberRoleCli_looks ..) fun _ =>
      .throw _
  exact .bind .getState fun _ => .bind (drainProcessOutput_looks _) fun _ =>
    .bind (rememberRoleCli_looks ..) fun _ => .bind .getState fun _ =>
    .bind (buildCliDebugLogs_looks ..) fun _ => .pure _

theorem serverOutput_looks (cached : String) (server : Option CliProc) :
    Looks F (serverOutput cached server) := by
  cases server with
  | none => exact .pure cached
  | some p => exact .bind (readDecoded_looks ..) fun _ => .pure _

theorem collectClientMergedOutput_looks (early : String) :
    Looks F (collectClientMergedOutput early) :=
  .bind .getState fun _ => .bind (serverOutput_looks ..) fun _ =>
    .bind (readDecoded_looks ..) fun _ => .pure _

theorem clientFail_looks (cmdLogs output message : String) :
    Looks F (clientFail cmdLogs output message) :=
  .bind (rememberRoleCli_looks ..) fun _ => .bind .getState fun _ =>
    .bind (buildCliDebugLogs_looks ..) fun _ => .pure _

theorem waitClientPeer_looks (request : OperationRequest) (cmdLogs : String) (port : ℤ) :
    Looks F (waitClientPeer request cmdLogs port) :=
  .bind .getState fun _ => .bind (waitTcpConnect_looks ..) fun _ => .ite (.pure _) <|
    .bind (drainProcessOutput_looks _) fun _ => .bind (rememberRoleCli_looks ..) fun _ =>
    .throw _

theorem finishClientEstablish_looks (b : CliBackend) (request : OperationRequest)
    (cmdLogs merged : String) : Looks F (finishClientEstablish b request cmdLogs merged) := by
  refine .bind .getState fun s => .bind (buildCliDebugLogs_looks ..) fun _ =>
    .bind (exited_looks _) fun _ => .ite (.pure _) ?_
  cases b.clientEstablishOutputIndicatesFailure merged with
  | none => exact .pure _
  | some err => exact .pure _

theorem establishClientActive_looks (b : CliBackend) (request : OperationRequest)
    (cmdLogs : String) (port : ℤ) : Looks F (establishClientActive b request cmdLogs port) := by
  refine .bind (waitClientPeer_looks ..) fun _ => .bind .getState fun s =>
    .bind (exited_looks _) fun _ => .ite ?_ ?_
  · exact .bind (drainProcessOutput_looks _) fun _ => clientFail_looks ..
  · exact .bind (drainProcessOutput_looks _) fun _ =>
      .bind (collectClientMergedOutput_looks _) fun _ =>
      .bind (rememberRoleCli_looks ..) fun _ => finishClientEstablish_looks ..

theorem watchClient_looks (b : CliBackend) (request : OperationRequest) (proc : CliProc)
    (cmdLogs : String) : Looks F (watchClient b request proc cmdLogs) := by
  refine .ite (.throw _) (.bind (exited_looks _) fun _ => .ite ?_ ?_)
  · exact .bind .getState fun _ => .bind (drainProcessOutput_looks _) fun _ =>
      clientFail_looks ..
  · exact establishClientActive_looks ..

theorem writeTransmitPayload_looks (target : CliProc) (payload : List UInt8) (role : Role) :
    Looks F (writeTransmitPayload target payload role) := by
  refine .ite (.pure _) (.bind (call_looks rfl) fun written => ?_)
  cases written with
  | ok _ => exact .pure _
  | error e => exact .ite (.pure _) (.throw _)

theorem transmitTo_looks (b : CliBackend) (request : OperationRequest) (target : CliProc) :
    Looks F (transmitTo b request target) := by
  refine .bind (exited_looks _) fun _ => .ite ?_ ?_
  · exact .bind (drainProcessOutput_looks _) fun _ =>
      .bind (buildCliDebugLogs_looks ..) fun _ => .pure _
  refine .bind (writeTransmitPayload_looks ..) fun failed => ?_
  cases failed with
  | some err =>
    exact .bind (drainProcessOutput_looks _) fun _ =>
      .bind (buildCliDebugLogs_looks ..) fun _ => .pure _
  | none =>
    exact .bind (call_looks rfl) fun _ =>
      .bind (buildCliDebugLogs_looks ..) fun _ => .pure _

theorem handleTransmit_looks (b : CliBackend) (request : OperationRequest) :
    Looks F (handleTransmit b request) := by
  refine .bind .getState fun s => ?_
  cases s.proc request.role with
  | none => exact .bind (buildCliDebugLogs_looks ..) fun _ => .pure _
  | some target => exact transmitTo_looks ..

theorem rememberRepoRoot_looks (repoRoot : String) : Looks F (rememberRepoRoot repoRoot) :=
  .modifyState fun s => by
    split
    · exact F.refl s
    · exact F.remember s repoRoot _ _ _ _

theorem handleOpError_looks (role : Role) (e : PyExc) : Looks F (handleOpError role e) := by
  have hformat : ∀ phase status, Looks F (formatOpError e phase status role) := fun _ _ =>
    .bind (buildCliDebugLogs_looks ..) fun _ => .pure _
  unfold handleOpError
  split
  · exact hformat _ _
  · exact .pure _
  · exact hformat _ _
  · exact hformat _ _

theorem drainProcessOutput_total (proc : Option CliProc) : (drainProcessOutput proc).Total := by
  cases proc with
  | none => exact .pure ""
  | some p => exact .bind (.call _) fun _ => .pure _

theorem buildCliDebugLogs_total (role : Role) (cmd : String) (proc : Option CliProc)
    (output : Option String) : (buildCliDebugLogs role cmd proc output).Total := by
  have hcode : ∀ target, (exitCodeOf target).Total := by
    intro target
    cases target with
    | none => exact .pure none
    | some p => exact .call _
  refine .bind .getState fun s => .bind ?_ fun _ => .bind (hcode _) fun _ => .pure _
  cases output with
  | some text => exact .pure text
  | none => exact .bind (drainProcessOutput_total _) fun _ => .pure _

theorem handleOpError_total (role : Role) (e : PyExc) : (handleOpError role e).Total := by
  have hformat : ∀ phase status, (formatOpError e phase status role).Total := fun _ _ =>
    .bind (buildCliDebugLogs_total ..) fun _ => .pure _
  unfold handleOpError
  split
  · exact hformat _ _
  · exact .pure _
  · exact hformat _ _
  · exact hformat _ _

/-- `ExecuteOperation` always answers. -/
theorem executeOperation_total (b : CliBackend) (request : OperationRequest) :
    (executeOperation b request).Total :=
  .tryCatch (handleOpError_total _)

theorem removeSessionArtifacts_looks (root : String) : Looks F (removeSessionArtifacts root) := by
  have hone : ∀ name, Looks F (if root.toList.contains '\x00' then
      throw ⟨.valueError, "embedded null byte"⟩
      else Eff.call (WrapperCall.unlinkArtifact (joinPath root name))) := fun _ =>
    .ite (.throw _) (call_looks rfl)
  exact .bind (hone _) fun _ => .bind (hone _) fun _ => .pure _

/-! ### The requests -/

section

variable {b : CliBackend} {request : OperationRequest}
  (hterm : ∀ proc, Looks F (terminateProcessHard proc))
  (hprocs : ∀ (s : WrapperState) (server client : Option CliProc),
    F.holds s [] { s with serverProc := server, clientProc := client })

include hterm hprocs

/-- An ESTABLISH meets what its validation and the start of its role meet. -/
theorem handleEstablish_looks
    (hvalidate : Looks F (stage (validateConfigSupported b request.config request.role)))
    (hserver : request.role = .server → Looks F (startCli (b.startServer request.config)))
    (hclient : request.role ≠ .server → Looks F (startCli (b.startClient request.config))) :
    Looks F (handleEstablish b request) := by
  refine .bind ?_ fun _ => .bind hvalidate fun _ => .bind (rememberRepoRoot_looks _) fun _ => ?_
  · exact .ite (.bind .getState fun _ => .bind (hterm _) fun _ => .modifyState fun s => hprocs s ..)
      (.bind .getState fun _ => .bind (hterm _) fun _ => .modifyState fun s => hprocs s ..)
  · unfold establishRole
    split
    · next hrole =>
      refine .bind (hserver hrole) fun started => .bind (.modifyState fun s => hprocs s ..)
        fun _ => .bind (rememberRoleCli_looks ..) fun _ => ?_
      cases started.1 with
      | none => exact .throw _
      | some proc => exact watchServer_looks ..
    · next hrole =>
      refine .bind (hclient hrole) fun started => .bind (.modifyState fun s => hprocs s ..)
        fun _ => .bind (rememberRoleCli_looks ..) fun _ => ?_
      cases started.1 with
      | none => exact .throw _
      | some proc => exact watchClient_looks ..

/-- A CLOSE meets what the removal of the tracked files and of the database meets. -/
theorem handleClose_looks (hpems : Looks F (stage cleanupEphemeralPemIfNeeded))
    (hdb : Looks F (stage b.cleanupDb)) : Looks F (handleClose b) := by
  have hextra : Looks F (extraCleanup b) :=
    .bind hpems fun _ => .bind .getState fun _ =>
      .ite (.bind (removeSessionArtifacts_looks _) fun _ => hdb) hdb
  exact .bind (.bind .getState fun _ => .bind (hterm _) fun _ => .bind (hterm _) fun _ =>
    .bind (.modifyState fun s => hprocs s ..) fun _ => hextra) fun _ => .pure _

end

/-- A request meets what its handler meets. -/
theorem executeOperation_looks {b : CliBackend} {request : OperationRequest}
    (hestablish : request.type = .establish → Looks F (handleEstablish b request))
    (hclose : request.type = .close → Looks F (handleClose b)) :
    Looks F (executeOperation b request) := by
  refine .tryCatch ?_ fun e => handleOpError_looks _ e
  cases hty : request.type with
  | establish => rw [dispatchOp, hty]; exact hestablish hty
  | transmit => rw [dispatchOp, hty]; exact handleTransmit_looks b request
  | close => rw [dispatchOp, hty]; exact hclose hty
  | keyUpdate => rw [dispatchOp, hty]; exact .pure _
  | unrecognized n => rw [dispatchOp, hty]; exact .pure _

end

/-! ### Processes are left alone -/

/-- Nothing is started or signalled, and the process fields stay as they are. -/
def watches : LookFrame where
  holds s tr s' := started tr = [] ∧ signalled tr = [] ∧ s'.serverProc = s.serverProc ∧
    s'.clientProc = s.clientProc
  refl s := ⟨rfl, rfl, rfl, rfl⟩
  trans := by
    rintro s s₁ s₂ tr₁ tr₂ ⟨hst, hsig, hserver, hclient⟩ ⟨hst', hsig', hserver', hclient'⟩
    refine ⟨?_, ?_, hserver'.trans hserver, hclient'.trans hclient⟩
    · rw [started_append, hst, hst', List.append_nil]
    · rw [signalled_append, hsig, hsig', List.append_nil]
  look := by
    intro q s ans hq
    cases q <;> first | exact ⟨rfl, rfl, rfl, rfl⟩ | cases hq
  remember _ _ _ _ _ _ := ⟨rfl, rfl, rfl, rfl⟩

/-- A program that leaves processes alone. -/
abbrev Watches {α : Type} (m : WrapperM α) : Prop := Looks watches m

/-- Files are not processes. -/
theorem stage_watches {α : Type} (m : StagingM α) : Watches (stage m) := by
  intro s tr r s' h
  obtain ⟨tr₀, st, rfl, -, rfl⟩ := Eff.exec_zoom.mp h
  refine ⟨?_, ?_, rfl, rfl⟩
  · exact List.filterMap_eq_nil_iff.mpr fun e he => by
      obtain ⟨e₀, -, rfl⟩ := List.mem_map.mp he
      rfl
  · exact List.filterMap_eq_nil_iff.mpr fun e he => by
      obtain ⟨e₀, -, rfl⟩ := List.mem_map.mp he
      rfl

theorem extraCleanup_watches (b : CliBackend) : Watches (extraCleanup b) := by
  refine .bind (stage_watches _) fun _ => .bind .getState fun s => ?_
  exact .ite (.bind (removeSessionArtifacts_looks _) fun _ => stage_watches _) (stage_watches _)

/-! ### The two programs that do more -/

/-- The trace terminates the process. -/
def Ended (p : CliProc) (tr : List (Event WrapperAns)) : Prop :=
  ∃ tr₀ tr₁ tr₂ s r s', tr = tr₀ ++ tr₁ ++ tr₂ ∧ (terminateProcessHard (some p)).Exec s tr₁ r s'

theorem Ended.append_left {p : CliProc} {tr : List (Event WrapperAns)} (h : Ended p tr)
    (tr' : List (Event WrapperAns)) : Ended p (tr' ++ tr) := by
  obtain ⟨tr₀, tr₁, tr₂, s, r, s', rfl, hexec⟩ := h
  exact ⟨tr' ++ tr₀, tr₁, tr₂, s, r, s', by simp only [List.append_assoc], hexec⟩

theorem Ended.append_right {p : CliProc} {tr : List (Event WrapperAns)} (h : Ended p tr)
    (tr' : List (Event WrapperAns)) : Ended p (tr ++ tr') := by
  obtain ⟨tr₀, tr₁, tr₂, s, r, s', rfl, hexec⟩ := h
  exact ⟨tr₀, tr₁, tr₂ ++ tr', s, r, s', by simp only [List.append_assoc], hexec⟩

/-- Nothing is started, no other process is signalled, and the fields are kept. -/
def signalsOnly (p : CliProc) : Eff.Frame WrapperAns WrapperState where
  holds s tr s' := started tr = [] ∧ (∀ q ∈ signalled tr, q = p) ∧ s' = s
  refl s := ⟨rfl, fun _ hq => absurd hq List.not_mem_nil, rfl⟩
  trans := by
    rintro s _ _ tr₁ tr₂ ⟨hst, hsig, rfl⟩ ⟨hst', hsig', rfl⟩
    refine ⟨by rw [started_append, hst, hst', List.append_nil], fun q hq => ?_, rfl⟩
    rw [signalled_append, List.mem_append] at hq
    exact hq.elim (hsig q) (hsig' q)

theorem terminateProcessHard_total (proc : Option CliProc) : (terminateProcessHard proc).Total := by
  cases proc with
  | none => exact .pure ()
  | some p =>
    exact .bind (.call _) fun _ => .ite (.pure ()) <| .bind (.call _) fun _ => .ite (.pure ()) <|
      .bind (.call _) fun _ => .ite (.pure ()) <| .bind (.call _) fun _ => .ite (.pure ()) <|
      .bind (.call _) fun _ => .pure ()

/-- `_terminate_process_hard` signals the given process only. -/
theorem terminateProcessHard_signalsOnly (p : CliProc) :
    Eff.Within (signalsOnly p) (terminateProcessHard (some p)) := by
  have hquiet : ∀ q : WrapperCall, (∀ ans, startedBy ⟨q, ans⟩ = none) →
      (∀ ans, ∀ p', signalledBy ⟨q, ans⟩ = some p' → p' = p) →
      Eff.Within (signalsOnly p) (Eff.call q : WrapperM (WrapperAns q)) := by
    intro q hst hsig
    refine .call fun s ans => ⟨by simp [started, hst], fun p' hp' => ?_, rfl⟩
    obtain ⟨e, he, hp'⟩ := List.mem_filterMap.mp hp'
    rw [List.mem_singleton.mp he] at hp'
    exact hsig ans p' hp'
  exact .bind (hquiet _ (fun _ => rfl) nofun) fun _ => .ite (.pure ()) <|
    .bind (hquiet _ (fun _ => rfl) fun _ _ h => (Option.some.inj h).symm) fun _ =>
    .ite (.pure ()) <| .bind (hquiet _ (fun _ => rfl) nofun) fun _ => .ite (.pure ()) <|
    .bind (hquiet _ (fun _ => rfl) fun _ _ h => (Option.some.inj h).symm) fun _ =>
    .ite (.pure ()) <| .bind (hquiet _ (fun _ => rfl) nofun) fun _ => .pure ()

/-- What `_terminate_process_hard` does. -/
theorem exec_terminateProcessHard {proc : Option CliProc} {s s' : WrapperState}
    {tr : List (Event WrapperAns)} {r : Except PyExc Unit}
    (h : (terminateProcessHard proc).Exec s tr r s') :
    s' = s ∧ started tr = [] ∧ (∀ p ∈ signalled tr, proc = some p) ∧
      ∀ p, proc = some p → Ended p tr := by
  cases proc with
  | none =>
    obtain ⟨rfl, -, rfl⟩ := Eff.exec_pure.mp h
    exact ⟨rfl, rfl, fun _ hp => absurd hp List.not_mem_nil, nofun⟩
  | some p =>
    obtain ⟨hst, hsig, hs⟩ := terminateProcessHard_signalsOnly p h
    refine ⟨hs, hst, fun q hq => by rw [hsig q hq], fun q hq => ?_⟩
    obtain rfl := Option.some.inj hq
    exact ⟨[], tr, [], s, r, s', by simp, h⟩

/-- What `_start_server` and `_start_client` do: one process is started, or none and
an exception is raised. -/
theorem exec_startCli {prepare : StagingM Launch} {s s' : WrapperState}
    {tr : List (Event WrapperAns)} {r : Except PyExc (Option CliProc × String × String)}
    (h : (startCli prepare).Exec s tr r s') :
    signalled tr = [] ∧ s'.serverProc = s.serverProc ∧ s'.clientProc = s.clientProc ∧
      ((∃ e, r = .error e ∧ started tr = []) ∨
        ∃ p cmd msg, r = .ok (some p, cmd, msg) ∧ started tr = [p]) := by
  rcases Eff.exec_bind.mp h with ⟨e, rfl, h₁⟩ | ⟨launch, s₁, tr₁, tr', rfl, h₁, h'⟩
  · obtain ⟨hst, hsig, hserver, hclient⟩ := stage_watches _ h₁
    exact ⟨hsig, hserver, hclient, .inl ⟨e, rfl, hst⟩⟩
  obtain ⟨hst, hsig, hserver, hclient⟩ := stage_watches _ h₁
  rcases Eff.exec_bind.mp h' with ⟨e, rfl, h₂⟩ | ⟨p, s₂, tr₂, tr₃, rfl, h₂, h₃⟩
  · obtain ⟨ans, rfl, rfl, rfl⟩ := Eff.exec_invoke.mp h₂
    refine ⟨by rw [signalled_append, hsig]; rfl, hserver, hclient, .inl ⟨e, rfl, ?_⟩⟩
    rw [started_append, hst]
    rfl
  · obtain ⟨ans, rfl, rfl, rfl⟩ := Eff.exec_invoke.mp h₂
    obtain ⟨rfl, rfl, rfl⟩ := Eff.exec_pure.mp h₃
    refine ⟨by rw [signalled_append, hsig]; rfl, hserver, hclient, .inr ⟨p, _, _, rfl, ?_⟩⟩
    rw [started_append, hst]
    rfl

/-! ### One request after another -/

/-- Requests meet what each of them meets. -/
theorem serve_looks {F : LookFrame} {b : CliBackend}
    (h : ∀ request, Looks F (executeOperation b request)) (requests : List OperationRequest) :
    Looks F (serve b requests) := by
  induction requests with
  | nil => exact .pure _
  | cons request rest ih => exact .bind (h request) fun _ => .bind ih fun _ => .pure _

/-- A run of a list of requests is a run of the first and one of the rest. -/
theorem exec_serve_cons {b : CliBackend} {request : OperationRequest}
    {rest : List OperationRequest} {s s' : WrapperState} {tr : List (Event WrapperAns)}
    {r : Except PyExc (List OperationResponse)} (h : (serve b (request :: rest)).Exec s tr r s') :
    ∃ resp s₁ tr₁ tr₂ r', tr = tr₁ ++ tr₂ ∧ (executeOperation b request).Exec s tr₁ (.ok resp) s₁ ∧
      (serve b rest).Exec s₁ tr₂ r' s' := by
  obtain ⟨resp, s₁, tr₁, tr', rfl, h₁, h'⟩ := (executeOperation_total b request).exec_bind h
  rcases Eff.exec_bind.mp h' with ⟨e, -, h₂⟩ | ⟨_, s₂, tr₂, tr₃, rfl, h₂, h₃⟩
  · exact ⟨resp, s₁, tr₁, tr', _, rfl, h₁, h₂⟩
  · obtain ⟨rfl, -, rfl⟩ := Eff.exec_pure.mp h₃
    exact ⟨resp, s₁, tr₁, tr₂, _, by rw [List.append_nil], h₁, h₂⟩

/-- A run of a list of requests ends with a run of the last one. -/
theorem exec_serve_concat {b : CliBackend} {requests : List OperationRequest}
    {last : OperationRequest} {s s' : WrapperState} {tr : List (Event WrapperAns)}
    {r : Except PyExc (List OperationResponse)}
    (h : (serve b (requests ++ [last])).Exec s tr r s') :
    ∃ r' s₁ tr₁ tr₂ resp, tr = tr₁ ++ tr₂ ∧ (serve b requests).Exec s tr₁ r' s₁ ∧
      (executeOperation b last).Exec s₁ tr₂ (.ok resp) s' := by
  induction requests generalizing s tr r with
  | nil =>
    obtain ⟨resp, s₁, tr₁, tr₂, r', rfl, h₁, h₂⟩ := exec_serve_cons h
    obtain ⟨rfl, -, rfl⟩ := Eff.exec_pure.mp h₂
    exact ⟨.ok [], s, [], tr₁, resp, by simp, Eff.exec_pure.mpr ⟨rfl, rfl, rfl⟩, h₁⟩
  | cons request rest ih =>
    obtain ⟨resp, s₁, tr₁, tr', r', rfl, h₁, h'⟩ := exec_serve_cons h
    obtain ⟨r'', s₂, tr₂, tr₃, resp', rfl, h₂, h₃⟩ := ih h'
    refine ⟨r''.map (resp :: ·), s₂, tr₁ ++ tr₂, tr₃, resp', by rw [List.append_assoc], ?_, h₃⟩
    refine Eff.exec_bind.mpr (.inr ⟨resp, s₁, tr₁, tr₂, rfl, h₁, ?_⟩)
    cases r'' with
    | error e => exact Eff.exec_bind.mpr (.inl ⟨e, rfl, h₂⟩)
    | ok resps =>
      exact Eff.exec_bind.mpr (.inr ⟨resps, s₂, tr₂, [], by simp, h₂,
        Eff.exec_pure.mpr ⟨rfl, rfl, rfl⟩⟩)

end TlsInterop
