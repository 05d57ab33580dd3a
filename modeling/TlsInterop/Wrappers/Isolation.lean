import TlsInterop.Effects.Relation
import TlsInterop.Wrappers.FileFrame
import TlsInterop.Wrappers.Ownership

/-!
# What a CLOSE keeps of a cell

A CLOSE ends both processes and forgets the tracked files and the database.  It keeps
the cached commands and outputs, and the root of the session artifacts.  Of these the
cached output of the server goes into the output of the next client, and a root with a
null character makes every later CLOSE fail; the others are only logged, overwritten
before they are read, or lead to removals whose outcome nobody sees.

## Main definitions

* `Matches` — two states of a wrapper that later requests cannot tell apart.
* `observe` — what the responses to some requests tell, and what a client that
  followed them would merge.
* `Isolates` — a wrapper that answers like a new one.

## Main results

* `executeOperation_alike`, `observe_alike` — matching states answer alike.
* `exec_close` — what a CLOSE leaves.
* `close_isolates_iff` — **after a CLOSE a wrapper answers like a new one exactly when
  the cached server output is blank and the artifact root has no null character.**
* `stale_output_seen` — a retry of an earlier server that a later client reports.
-/

namespace TlsInterop

open Py Effects

/-! ### States that answer alike -/

/-- The calls whose outcome is not seen. -/
def silentCall : WrapperCall → Bool
  | .unlinkArtifact _ => true
  | _ => false

theorem subsingleton_of_silent (q : WrapperCall) (hq : silentCall q = true) :
    Subsingleton (WrapperAns q) := by
  cases q with
  | unlinkArtifact path => exact inferInstanceAs (Subsingleton Unit)
  | _ => cases hq

/-- The outputs are the same when they are put together with others. -/
def SameOutput (out out' : String) : Prop := out = out' ∨ strip out = "" ∧ strip out' = ""

/-- A root whose session artifacts can be named. -/
def NoNul (root : String) : Prop := root.toList.contains '\x00' = false

instance (root : String) : Decidable (NoNul root) := inferInstanceAs (Decidable (_ = _))

/-- Two states that later requests cannot tell apart; `cmds` is whether the last commands
of the client are the same too. -/
structure Matches (cmds : Prop) (s s' : WrapperState) : Prop where
  server : s.serverProc = s'.serverProc
  client : s.clientProc = s'.clientProc
  staging : s.staging = s'.staging
  output : SameOutput s.lastServerOutput s'.lastServerOutput
  root : s.sessionArtifactRepoRoot = s'.sessionArtifactRepoRoot ∨
    NoNul s.sessionArtifactRepoRoot ∧ NoNul s'.sessionArtifactRepoRoot
  command : cmds → s.lastClientCmd = s'.lastClientCmd

/-- The responses differ in their logs at most. -/
def SameButLogs (resp resp' : OperationResponse) : Prop :=
  { resp with logs := "" } = { resp' with logs := "" }

/-- Two programs of a wrapper that cannot tell matching states apart. -/
abbrev SameRun {α β : Type} (cmds : Prop) (P : α → β → Prop) (m : WrapperM α) (m' : WrapperM β) :
    Prop := Eff.Alike silentCall (Matches cmds) P m m'

section

variable {cmds : Prop}

theorem Matches.proc {s s' : WrapperState} (h : Matches cmds s s') (role : Role) :
    s.proc role = s'.proc role := by
  unfold WrapperState.proc
  rw [h.server, h.client]

/-! ### Processes and outputs -/

theorem stage_alike {α : Type} (m : StagingM α) : SameRun cmds Eq (stage m) (stage m) :=
  .zoom (fun _ _ h => h.staging) fun _ _ _ h => { h with staging := rfl }

theorem terminateProcessHard_alike (proc : Option CliProc) :
    SameRun cmds Eq (terminateProcessHard proc) (terminateProcessHard proc) := by
  cases proc with
  | none => exact .pure rfl
  | some p =>
    exact .bind_eq (.call _) fun _ => .ite (.pure rfl) <| .bind_eq (.call _) fun _ =>
      .ite (.pure rfl) <| .bind_eq (.call _) fun _ => .ite (.pure rfl) <|
      .bind_eq (.call _) fun _ => .ite (.pure rfl) <| .bind_eq (.call _) fun _ => .pure rfl

theorem exited_alike (proc : Option CliProc) : SameRun cmds Eq (exited proc) (exited proc) := by
  cases proc with
  | none => exact .pure rfl
  | some p => exact .bind_eq (.call _) fun _ => .pure rfl

theorem drainProcessOutput_alike (proc : Option CliProc) :
    SameRun cmds Eq (drainProcessOutput proc) (drainProcessOutput proc) := by
  cases proc with
  | none => exact .pure rfl
  | some p => exact .bind_eq (.call _) fun _ => .pure rfl

theorem readDecoded_alike (proc : Option CliProc) (timeoutS : ℚ) :
    SameRun cmds Eq (readDecoded proc timeoutS) (readDecoded proc timeoutS) := by
  cases proc with
  | none => exact .pure rfl
  | some p => exact .bind_eq (.call _) fun _ => .pure rfl

theorem tcpConnectRounds_alike (host : String) (port : ℤ) (proc : Option CliProc) (rounds : ℕ)
    (lastErr : String) : SameRun cmds Eq (tcpConnectRounds host port proc rounds lastErr)
      (tcpConnectRounds host port proc rounds lastErr) := by
  induction rounds generalizing lastErr with
  | zero => exact .pure rfl
  | succ rounds ih =>
    refine .bind_eq (exited_alike proc) fun _ => .ite (.pure rfl) ?_
    refine .bind_eq (.invoke _ _) fun attempt => ?_
    cases attempt with
    | none => exact .pure rfl
    | some err => exact ih err

theorem waitTcpConnect_alike (host : String) (port : ℤ) (proc : Option CliProc) :
    SameRun cmds Eq (waitTcpConnect host port proc) (waitTcpConnect host port proc) :=
  .bind_eq (.call _) fun _ => tcpConnectRounds_alike host port proc _ ""

theorem startCli_alike (prepare : StagingM Launch) :
    SameRun cmds Eq (startCli prepare) (startCli prepare) :=
  .bind_eq (stage_alike prepare) fun _ => .bind_eq (.invoke _ _) fun _ => .pure rfl

theorem rememberRoleCli_alike (role : Role) (cmd output : String) :
    SameRun cmds Eq (rememberRoleCli role cmd output) (rememberRoleCli role cmd output) := by
  refine .modifyState fun s s' h => ?_
  split
  · refine { h with output := ?_ }
    change SameOutput (if output = "" then _ else output) (if output = "" then _ else output)
    split
    · exact h.output
    · exact .inl rfl
  · exact { h with command := fun _ => rfl }

/-- Only the text of a log depends on what is cached. -/
theorem buildCliDebugLogs_alike (role : Role) (cmd : String) (proc : Option CliProc)
    (output : Option String) : SameRun cmds (fun _ _ => True)
      (buildCliDebugLogs role cmd proc output) (buildCliDebugLogs role cmd proc output) := by
  refine .getState_bind fun s s' h => ?_
  dsimp only
  rw [h.proc]
  have hcode : ∀ target, SameRun cmds Eq (exitCodeOf target) (exitCodeOf target) := by
    intro target
    cases target with
    | none => exact .pure rfl
    | some p => exact Eff.Alike.call (WrapperCall.poll p)
  refine .bind (P := fun _ _ => True) ?_ fun _ _ _ => .bind_eq (hcode _) fun _ => .pure trivial
  cases output with
  | some text => exact .pure trivial
  | none => exact .bind_eq (drainProcessOutput_alike _) fun _ => .pure trivial

theorem joinNonBlank_congr {out out' : String} (h : SameOutput out out') (extra : String) :
    joinNonBlank out extra = joinNonBlank out' extra := by
  rcases h with rfl | ⟨hout, hout'⟩
  · rfl
  · simp [joinNonBlank, hout, hout']

theorem serverOutput_alike {out out' : String} (h : SameOutput out out')
    (server : Option CliProc) :
    SameRun cmds SameOutput (serverOutput out server) (serverOutput out' server) := by
  cases server with
  | none => exact .pure h
  | some p =>
    exact .bind_eq (readDecoded_alike _ _) fun extra => .pure (.inl (joinNonBlank_congr h extra))

/-- The merged output of a client is the same. -/
theorem collectClientMergedOutput_alike (early : String) :
    SameRun cmds Eq (collectClientMergedOutput early) (collectClientMergedOutput early) := by
  refine .getState_bind fun s s' h => ?_
  rw [h.server, h.client]
  refine .bind (serverOutput_alike h.output _) fun out out' hout =>
    .bind_eq (readDecoded_alike _ _) fun extra => .pure ?_
  rcases hout with rfl | ⟨hout, hout'⟩
  · rfl
  · simp [hout, hout']

/-! ### The handlers -/

theorem watchServer_alike (b : CliBackend) (request : OperationRequest) (proc : CliProc)
    (cmdLogs msg : String) : SameRun cmds SameButLogs (watchServer b request proc cmdLogs msg)
      (watchServer b request proc cmdLogs msg) := by
  refine .bind_eq (exited_alike _) fun _ => .ite ?_ (.ite (.throw _) ?_)
  · exact .bind_eq (drainProcessOutput_alike _) fun _ =>
      .bind_eq (rememberRoleCli_alike _ _ _) fun _ => .throw _
  refine .bind_eq (waitTcpConnect_alike _ _ _) fun _ => .ite ?_ ?_
  · exact .bind_eq (drainProcessOutput_alike _) fun _ =>
      .bind_eq (rememberRoleCli_alike _ _ _) fun _ => .throw _
  refine .getState_bind fun s s' h => ?_
  rw [h.server]
  refine .bind_eq (drainProcessOutput_alike _) fun early =>
    .bind_eq (rememberRoleCli_alike _ _ _) fun _ => .getState_bind fun s s' h => ?_
  rw [h.server]
  exact .bind (buildCliDebugLogs_alike _ _ _ _) fun _ _ _ => .pure rfl

theorem clientFail_alike (cmdLogs output message : String) :
    SameRun cmds SameButLogs (clientFail cmdLogs output message)
      (clientFail cmdLogs output message) := by
  refine .bind_eq (rememberRoleCli_alike _ _ _) fun _ => .getState_bind fun s s' h => ?_
  rw [h.client]
  exact .bind (buildCliDebugLogs_alike _ _ _ _) fun _ _ _ => .pure rfl

theorem waitClientPeer_alike (request : OperationRequest) (cmdLogs : String) (port : ℤ) :
    SameRun cmds Eq (waitClientPeer request cmdLogs port)
      (waitClientPeer request cmdLogs port) := by
  refine .getState_bind fun s s' h => ?_
  rw [h.client]
  exact .bind_eq (waitTcpConnect_alike _ _ _) fun _ => .ite (.pure rfl) <|
    .bind_eq (drainProcessOutput_alike _) fun _ =>
    .bind_eq (rememberRoleCli_alike _ _ _) fun _ => .throw _

/-- The last command of the client goes into the inference of a retry. -/
theorem finishClientEstablish_alike (b : CliBackend) (request : OperationRequest)
    (cmdLogs merged : String) : SameRun True SameButLogs
      (finishClientEstablish b request cmdLogs merged)
      (finishClientEstablish b request cmdLogs merged) := by
  refine .getState_bind fun s s' h => ?_
  dsimp only
  rw [h.client, h.command trivial]
  refine .bind (buildCliDebugLogs_alike _ _ _ _) fun _ _ _ =>
    .bind_eq (exited_alike _) fun _ => .ite (.pure rfl) ?_
  cases b.clientEstablishOutputIndicatesFailure merged with
  | none => exact .pure rfl
  | some err => exact .pure rfl

theorem establishClientActive_alike (b : CliBackend) (request : OperationRequest)
    (cmdLogs : String) (port : ℤ) : SameRun True SameButLogs
      (establishClientActive b request cmdLogs port)
      (establishClientActive b request cmdLogs port) := by
  refine .bind_eq (waitClientPeer_alike _ _ _) fun _ => .getState_bind fun s s' h => ?_
  rw [h.client]
  refine .bind_eq (exited_alike _) fun _ => .ite ?_ ?_
  · exact .bind_eq (drainProcessOutput_alike _) fun _ => clientFail_alike _ _ _
  · exact .bind_eq (drainProcessOutput_alike _) fun _ =>
      .bind_eq (collectClientMergedOutput_alike _) fun _ =>
      .bind_eq (rememberRoleCli_alike _ _ _) fun _ => finishClientEstablish_alike _ _ _ _

theorem watchClient_alike (b : CliBackend) (request : OperationRequest) (proc : CliProc)
    (cmdLogs : String) : SameRun True SameButLogs (watchClient b request proc cmdLogs)
      (watchClient b request proc cmdLogs) := by
  refine .ite (.throw _) (.bind_eq (exited_alike _) fun _ => .ite ?_ ?_)
  · refine .getState_bind fun s s' h => ?_
    rw [h.client]
    exact .bind_eq (drainProcessOutput_alike _) fun _ => clientFail_alike _ _ _
  · exact establishClientActive_alike _ _ _ _

theorem establishServer_alike (b : CliBackend) (request : OperationRequest) :
    SameRun cmds SameButLogs (establishServer b request) (establishServer b request) := by
  refine .bind_eq (startCli_alike _) fun started =>
    .bind_eq (.modifyState fun _ _ h => { h with server := rfl }) fun _ =>
    .bind_eq (rememberRoleCli_alike _ _ _) fun _ => ?_
  cases started.1 with
  | none => exact .throw _
  | some proc => exact watchServer_alike _ _ _ _ _

/-- The start of a client remembers its command, whatever the last one was. -/
theorem establishClient_alike (b : CliBackend) (request : OperationRequest) :
    SameRun cmds SameButLogs (establishClient b request) (establishClient b request) := by
  refine .bind_eq (startCli_alike _) fun started =>
    .bind_eq (.modifyState fun _ _ h => { h with client := rfl }) fun _ =>
    .modifyState_bind (T := Matches True) (fun s s' h => ?_) ?_ fun _ _ h =>
      { h with command := fun _ => h.command trivial }
  · exact { h with command := fun _ => rfl }
  · cases started.1 with
    | none => exact .throw _
    | some proc => exact watchClient_alike _ _ _ _

theorem handleEstablish_alike (b : CliBackend) (request : OperationRequest) :
    SameRun cmds SameButLogs (handleEstablish b request) (handleEstablish b request) := by
  refine .bind_eq (.ite (.getState_bind fun s s' h => ?_) (.getState_bind fun s s' h => ?_))
    fun _ => .bind_eq (stage_alike _) fun _ => .bind_eq (.modifyState fun s s' h => ?_)
    fun _ => .ite (establishServer_alike _ _) (establishClient_alike _ _)
  · rw [h.server]
    exact .bind_eq (terminateProcessHard_alike _) fun _ =>
      .modifyState fun _ _ h => { h with server := rfl }
  · rw [h.client]
    exact .bind_eq (terminateProcessHard_alike _) fun _ =>
      .modifyState fun _ _ h => { h with client := rfl }
  · split
    · exact h
    · exact { h with root := .inl rfl }

theorem writeTransmitPayload_alike (target : CliProc) (payload : List UInt8) (role : Role) :
    SameRun cmds Eq (writeTransmitPayload target payload role)
      (writeTransmitPayload target payload role) := by
  refine .ite (.pure rfl) (.bind_eq (.call _) fun written => ?_)
  cases written with
  | ok _ => exact .pure rfl
  | error e => exact .ite (.pure rfl) (.throw _)

theorem transmitTo_alike (b : CliBackend) (request : OperationRequest) (target : CliProc) :
    SameRun cmds SameButLogs (transmitTo b request target) (transmitTo b request target) := by
  refine .bind_eq (exited_alike _) fun _ => .ite ?_ ?_
  · exact .bind_eq (drainProcessOutput_alike _) fun _ =>
      .bind (buildCliDebugLogs_alike _ _ _ _) fun _ _ _ => .pure rfl
  refine .bind_eq (writeTransmitPayload_alike _ _ _) fun failed => ?_
  cases failed with
  | some err =>
    exact .bind_eq (drainProcessOutput_alike _) fun _ =>
      .bind (buildCliDebugLogs_alike _ _ _ _) fun _ _ _ => .pure rfl
  | none =>
    exact .bind_eq (Eff.Alike.call (WrapperCall.readStdout ..)) fun _ =>
      .bind (buildCliDebugLogs_alike _ _ _ _) fun _ _ _ => .pure rfl

theorem handleTransmit_alike (b : CliBackend) (request : OperationRequest) :
    SameRun cmds SameButLogs (handleTransmit b request) (handleTransmit b request) := by
  refine .getState_bind fun s s' h => ?_
  rw [h.proc]
  cases s'.proc request.role with
  | none => exact .bind (buildCliDebugLogs_alike _ _ _ _) fun _ _ _ => .pure rfl
  | some target => exact transmitTo_alike _ _ _

/-- The removal of session artifacts that can be named is silent. -/
theorem removeSessionArtifacts_eq {root : String} (h : NoNul root) :
    removeSessionArtifacts root = (do
      Eff.call (WrapperCall.unlinkArtifact (joinPath root "session.ticket"))
      Eff.call (WrapperCall.unlinkArtifact (joinPath root "early_data.txt")) : WrapperM Unit) := by
  have hone : ∀ name, (if root.toList.contains '\x00' then
      throw ⟨.valueError, "embedded null byte"⟩
      else Eff.call (WrapperCall.unlinkArtifact (joinPath root name)) : WrapperM Unit)
        = Eff.call (WrapperCall.unlinkArtifact (joinPath root name)) := fun name => by
    rw [h]
    rfl
  unfold removeSessionArtifacts
  simp only [hone]
  rfl

theorem removeSessionArtifacts_left {root : String} (h : NoNul root) {m m' : WrapperM Unit}
    (hm : SameRun cmds Eq m m') :
    SameRun cmds Eq (removeSessionArtifacts root >>= fun _ => m) m' := by
  rw [removeSessionArtifacts_eq h]
  exact .left rfl (.left rfl hm)

theorem removeSessionArtifacts_right {root : String} (h : NoNul root) {m m' : WrapperM Unit}
    (hm : SameRun cmds Eq m m') :
    SameRun cmds Eq m (removeSessionArtifacts root >>= fun _ => m') := by
  rw [removeSessionArtifacts_eq h]
  exact .right rfl (.right rfl hm)

/-- The removal of the same session artifacts. -/
theorem removeSessionArtifacts_alike (root : String) :
    SameRun cmds Eq (removeSessionArtifacts root) (removeSessionArtifacts root) := by
  have hone : ∀ name, SameRun cmds Eq (if root.toList.contains '\x00' then
      throw ⟨.valueError, "embedded null byte"⟩
      else Eff.call (WrapperCall.unlinkArtifact (joinPath root name)) : WrapperM Unit)
      (if root.toList.contains '\x00' then throw ⟨.valueError, "embedded null byte"⟩
      else Eff.call (WrapperCall.unlinkArtifact (joinPath root name))) := fun _ =>
    .ite (.throw _) (Eff.Alike.call (WrapperCall.unlinkArtifact _))
  exact .bind_eq (hone _) fun _ => .bind_eq (hone _) fun _ => .pure rfl

/-- What is done with the artifact roots is not seen when both can be named. -/
theorem forgetArtifacts_alike {root root' : String} (h : root = root' ∨ NoNul root ∧ NoNul root')
    {m : WrapperM Unit} (hm : SameRun cmds Eq m m) :
    SameRun cmds Eq (if root ≠ "" then removeSessionArtifacts root >>= fun _ => m else m)
      (if root' ≠ "" then removeSessionArtifacts root' >>= fun _ => m else m) := by
  rcases h with rfl | ⟨hroot, hroot'⟩
  · exact .ite (.bind_eq (removeSessionArtifacts_alike root) fun _ => hm) hm
  · have hright : SameRun cmds Eq m
        (if root' ≠ "" then removeSessionArtifacts root' >>= fun _ => m else m) := by
      split
      · exact removeSessionArtifacts_right hroot' hm
      · exact hm
    split
    · exact removeSessionArtifacts_left hroot hright
    · exact hright

theorem handleClose_alike (b : CliBackend) :
    SameRun cmds SameButLogs (handleClose b) (handleClose b) := by
  have hextra : SameRun cmds Eq (extraCleanup b) (extraCleanup b) :=
    .bind_eq (stage_alike _) fun _ => .getState_bind fun s s' h =>
      forgetArtifacts_alike h.root (stage_alike _)
  refine .bind_eq (.getState_bind fun s s' h => ?_) fun _ => .pure rfl
  rw [h.server, h.client]
  exact .bind_eq (terminateProcessHard_alike _) fun _ => .bind_eq (terminateProcessHard_alike _)
    fun _ => .bind_eq (.modifyState fun _ _ h => { h with server := rfl, client := rfl })
    fun _ => hextra

theorem handleOpError_alike (role : Role) (e : PyExc) :
    SameRun cmds SameButLogs (handleOpError role e) (handleOpError role e) := by
  have hformat : ∀ phase status, SameRun cmds SameButLogs (formatOpError e phase status role)
      (formatOpError e phase status role) := fun _ _ =>
    .bind (buildCliDebugLogs_alike _ _ _ _) fun _ _ _ => .pure rfl
  unfold handleOpError
  split
  · exact hformat _ _
  · exact .pure rfl
  · exact hformat _ _
  · exact hformat _ _

/-- Matching states answer a request alike. -/
theorem executeOperation_alike (b : CliBackend) (request : OperationRequest) :
    SameRun cmds SameButLogs (executeOperation b request) (executeOperation b request) := by
  refine .tryCatch ?_ fun e => handleOpError_alike request.role e
  unfold dispatchOp
  split
  · exact handleEstablish_alike b request
  · exact handleTransmit_alike b request
  · exact handleClose_alike b
  · exact .pure rfl

theorem serve_alike (b : CliBackend) (requests : List OperationRequest) :
    SameRun cmds (List.Forall₂ SameButLogs) (serve b requests) (serve b requests) := by
  induction requests with
  | nil => exact .pure .nil
  | cons request rest ih =>
    exact .bind (executeOperation_alike b request) fun _ _ hresp =>
      .bind ih fun _ _ hrest => .pure (.cons hresp hrest)

end

/-! ### What is seen of a wrapper -/

/-- What a response tells of its request: the logs and the payload apart. -/
def OperationResponse.told (resp : OperationResponse) : Status × String × Option Negotiated :=
  (resp.status, resp.message, resp.negotiated)

theorem told_eq_of_sameButLogs {resp resp' : OperationResponse} (h : SameButLogs resp resp') :
    resp.told = resp'.told := by
  unfold SameButLogs at h
  obtain ⟨⟩ := resp
  obtain ⟨⟩ := resp'
  simp_all [OperationResponse.told]

/-- What the responses to some requests tell, and what a client that was established after
them with the output `early` would merge. -/
def observe (b : CliBackend) (requests : List OperationRequest) (early : String) :
    WrapperM (List (Status × String × Option Negotiated) × String) := do
  let responses ← serve b requests
  let merged ← collectClientMergedOutput early
  return (responses.map OperationResponse.told, merged)

/-- Nothing that is seen of them tells matching states apart. -/
theorem observe_alike {cmds : Prop} (b : CliBackend) (requests : List OperationRequest)
    (early : String) : SameRun cmds Eq (observe b requests early) (observe b requests early) := by
  refine .bind (serve_alike b requests) fun responses responses' hresponses =>
    .bind_eq (collectClientMergedOutput_alike early) fun merged => .pure ?_
  have htold : responses.map OperationResponse.told = responses'.map OperationResponse.told := by
    induction hresponses with
    | nil => rfl
    | cons h _ ih => rw [List.map_cons, List.map_cons, told_eq_of_sameButLogs h, ih]
  rw [htold]

/-- After the calls of `past` the wrapper answers like a new one, in all environments that
answer alike from then on. -/
def Isolates (b : CliBackend) (past : List (Event WrapperAns)) (s : WrapperState) : Prop :=
  ∀ env env', Prog.AnswerAlike silentCall env env' past [] → ∀ requests early,
    (((observe b requests early).prog s).exec env past).1.1
      = (((observe b requests early).prog {}).exec env' []).1.1

theorem isolates_of_matches {b : CliBackend} {past : List (Event WrapperAns)} {s : WrapperState}
    (h : Matches False s {}) : Isolates b past s := by
  intro env env' henv requests early
  exact ((observe_alike b requests early).exec h subsingleton_of_silent henv).1.eq

/-! ### The flag of the database -/

/-- The flag of the database is as it was. -/
def keepsReady : FileFrame where
  holds st _ st' := st'.nssDbReady = st.nssDbReady
  refl _ := rfl
  trans h h' := h'.trans h
  plain _ _ _ := rfl
  inline _ _ _ _ :=
    .bind (.bind (.call fun _ _ => rfl) fun _ => .pure _) fun _ =>
      .bind (.invoke fun _ _ => rfl) fun _ => .bind (.invoke fun _ _ => rfl) fun _ =>
      .bind (.call fun _ _ => rfl) fun _ => .bind (.modifyState fun _ => rfl) fun _ =>
      .bind (.modifyState fun _ => rfl) fun _ => .pure _

theorem stagePskPasswdFile_keepsReady (host : WrapperHost) (config : TlsConfig) (role : Role) :
    Eff.Within keepsReady.toFrame (GnuTLS.stagePskPasswdFile host config role) := by
  refine .ite (.pure _) ?_
  cases (host.capabilities "gnutls").pskMaterial (strip config.cipherSuite) with
  | none => exact .pure _
  | some mat =>
    exact .bind (.bind (.call fun _ _ => rfl) fun _ => .pure _) fun _ =>
      .bind (.invoke fun _ _ => rfl) fun _ => .pure _

/-- Only the NSS wrapper has a database. -/
theorem executeOperation_keepsReady {kind : WrapperKind} (hkind : kind ≠ .nss)
    (host : WrapperHost) (request : OperationRequest) :
    Looks (onFiles keepsReady.toFrame) (executeOperation (kind.backend host) request) := by
  have hpems : Eff.Within keepsReady.toFrame cleanupEphemeralPemIfNeeded :=
    .bind .getState fun _ => .bind (.modifyState fun _ => rfl) fun _ =>
      .forM fun _ _ => .call fun _ _ => rfl
  cases kind with
  | nss => exact absurd rfl hkind
  | openssl =>
    exact executeOperation_looks (fun _ => handleEstablish_onFiles
      (fun _ => OpenSSL.startServer_within (F := keepsReady) ..)
      (fun _ => OpenSSL.startClient_within (F := keepsReady) ..) (.pure _))
      fun _ => handleClose_onFiles hpems (.pure _)
  | gnutls =>
    have hpsk : ∀ role, Eff.Within keepsReady.toFrame
        (GnuTLS.stagePskPasswdFile host request.config role) := fun role =>
      stagePskPasswdFile_keepsReady host request.config role
    exact executeOperation_looks (fun _ => handleEstablish_onFiles
      (fun _ => GnuTLS.startServer_within (F := keepsReady) (hpsk .server))
      (fun _ => GnuTLS.startClient_within (F := keepsReady) ..) (hpsk request.role))
      fun _ => handleClose_onFiles hpems (.pure _)

/-! ### What a CLOSE leaves -/

section

variable {b : CliBackend} {request : OperationRequest} {s s' : WrapperState}
  {tr : List (Event WrapperAns)}

theorem buildCliDebugLogs_stays (role : Role) (cmd : String) (proc : Option CliProc)
    (output : Option String) : Eff.Within Eff.stays (buildCliDebugLogs role cmd proc output) := by
  have hdrain : ∀ target, Eff.Within Eff.stays (drainProcessOutput target) := by
    intro target
    cases target with
    | none => exact .pure _
    | some p => exact .bind (.call fun _ _ => rfl) fun _ => .pure _
  have hcode : ∀ target, Eff.Within Eff.stays (exitCodeOf target) := by
    intro target
    cases target with
    | none => exact .pure _
    | some p => exact Eff.Within.call (q := WrapperCall.poll p) fun _ _ => rfl
  refine .bind .getState fun s => .bind ?_ fun _ => .bind (hcode _) fun _ => .pure _
  cases output with
  | some text => exact .pure _
  | none => exact .bind (hdrain _) fun _ => .pure _

theorem handleOpError_stays (role : Role) (e : PyExc) :
    Eff.Within Eff.stays (handleOpError role e) := by
  have hformat : ∀ phase status, Eff.Within Eff.stays (formatOpError e phase status role) :=
    fun _ _ => .bind (buildCliDebugLogs_stays ..) fun _ => .pure _
  unfold handleOpError
  split
  · exact hformat _ _
  · exact .pure _
  · exact hformat _ _
  · exact hformat _ _

/-- The removal of the tracked files forgets them, and never raises. -/
theorem exec_cleanupEphemeralPem {st st' : Staging} {tr : List (Event StagingAns)}
    {r : Except PyExc Unit} (h : cleanupEphemeralPemIfNeeded.Exec st tr r st') :
    r = .ok () ∧ st' = { st with activeTempFiles := [] } := by
  have hremove := Eff.exec_modifyState_bind.mp (Eff.exec_getState_bind.mp h)
  have hstays : Eff.Within Eff.stays (st.activeTempFiles.forM fun path =>
      Eff.call (StagingCall.remove path) : StagingM Unit) := .forM fun _ _ => .call fun _ _ => rfl
  have htotal : (st.activeTempFiles.forM fun path =>
      Eff.call (StagingCall.remove path) : StagingM Unit).Total := .forM fun _ => .call _
  obtain ⟨_, rfl⟩ := htotal hremove
  exact ⟨rfl, hstays hremove⟩

/-- The removal of session artifacts raises exactly when the root cannot be named. -/
theorem exec_removeSessionArtifacts {root : String} {r : Except PyExc Unit}
    (h : (removeSessionArtifacts root).Exec s tr r s') :
    s' = s ∧ (NoNul root → r = .ok ()) ∧
      (¬ NoNul root → r = .error ⟨.valueError, "embedded null byte"⟩) := by
  by_cases hroot : NoNul root
  · rw [removeSessionArtifacts_eq hroot] at h
    obtain ⟨_, s₁, tr₁, tr₂, rfl, h₁, h₂⟩ := (Eff.Total.call _).exec_bind h
    obtain ⟨_, rfl, -, rfl⟩ := Eff.exec_call.mp h₁
    obtain ⟨_, rfl, rfl, rfl⟩ := Eff.exec_call.mp h₂
    exact ⟨rfl, fun _ => rfl, fun hnot => absurd hroot hnot⟩
  · have hnul : root.toList.contains '\x00' = true := Bool.not_eq_false _ ▸ hroot
    unfold removeSessionArtifacts at h
    simp only [hnul, if_true] at h
    obtain ⟨rfl, rfl, rfl⟩ := Eff.exec_throw_bind.mp h
    exact ⟨rfl, fun hnot => absurd hnot hroot, fun _ => rfl⟩

/-- What a CLOSE changes: the processes and the tracked files. -/
structure Closed (b : CliBackend) (s : WrapperState) (r : Except PyExc Unit) (s' : WrapperState) :
    Prop where
  kept : s' = { s with serverProc := none, clientProc := none, staging := s'.staging }
  db : NoNul s.sessionArtifactRepoRoot →
    ∃ tr r', b.cleanupDb.Exec { s.staging with activeTempFiles := [] } tr r' s'.staging
  raised : ¬ NoNul s.sessionArtifactRepoRoot → r = .error ⟨.valueError, "embedded null byte"⟩

theorem exec_cleanup_staging {r : Except PyExc Unit} (h : (cleanup b).Exec s tr r s') :
    Closed b s r s' := by
  -- both processes are ended first, and that never raises
  rw [cleanup, Eff.exec_getState_bind] at h
  obtain ⟨_, s₁, tr₁, tr', rfl, h₁, h'⟩ := (terminateProcessHard_total _).exec_bind h
  obtain ⟨_, s₂, tr₂, tr₃, rfl, h₂, h₃⟩ := (terminateProcessHard_total _).exec_bind h'
  obtain ⟨rfl, -⟩ := exec_terminateProcessHard h₁
  obtain ⟨rfl, -⟩ := exec_terminateProcessHard h₂
  rw [Eff.exec_modifyState_bind, extraCleanup] at h₃
  have hstage : ∀ {s s' : WrapperState} {tr : List (Event WrapperAns)} {r : Except PyExc Unit}
      {m : StagingM Unit}, (stage m).Exec s tr r s' → ∃ tr₀,
        m.Exec s.staging tr₀ r s'.staging ∧ s' = { s with staging := s'.staging } := by
    intro s s' tr r m hexec
    obtain ⟨tr₀, st, -, h₀, rfl⟩ := Eff.exec_zoom.mp hexec
    exact ⟨tr₀, h₀, rfl⟩
  -- the tracked files are removed first
  have hpems : (stage cleanupEphemeralPemIfNeeded).Total := by
    intro s tr r s' hexec
    obtain ⟨tr₀, h₀, -⟩ := hstage hexec
    exact ⟨(), (exec_cleanupEphemeralPem h₀).1⟩
  obtain ⟨_, s₄, tr₄, tr₅, rfl, h₄, h₅⟩ := hpems.exec_bind h₃
  obtain ⟨tr₀, h₀, hs₄⟩ := hstage h₄
  obtain ⟨-, hst⟩ := exec_cleanupEphemeralPem h₀
  have hroot : s₄.sessionArtifactRepoRoot = s₂.sessionArtifactRepoRoot := by rw [hs₄]
  rw [Eff.exec_getState_bind] at h₅
  -- the database goes last
  have hdb : ∀ {tr : List (Event WrapperAns)} {r' : Except PyExc Unit},
      (stage b.cleanupDb).Exec s₄ tr r' s' →
      s' = { s₂ with serverProc := none, clientProc := none, staging := s'.staging } ∧
        ∃ tr r', b.cleanupDb.Exec { s₂.staging with activeTempFiles := [] } tr r' s'.staging := by
    intro tr r' hexec
    obtain ⟨tr₀, h₀, hs'⟩ := hstage hexec
    refine ⟨?_, tr₀, r', ?_⟩
    · rw [hs', hs₄]
    · rw [← hst]
      exact h₀
  -- the artifacts of the session are removed when the root is not empty
  split at h₅
  · rcases Eff.exec_bind.mp h₅ with ⟨e, rfl, h₆⟩ | ⟨_, s₆, tr₆, tr₇, -, h₆, h₇⟩
    · obtain ⟨rfl, hok, herr⟩ := exec_removeSessionArtifacts h₆
      rw [hroot] at hok herr
      refine ⟨hs₄, fun hnul => ?_, herr⟩
      cases hok hnul
    · obtain ⟨rfl, -, herr⟩ := exec_removeSessionArtifacts h₆
      rw [hroot] at herr
      obtain ⟨hs', hexec⟩ := hdb h₇
      refine ⟨hs', fun _ => hexec, fun hnul => ?_⟩
      cases herr hnul
  · next hempty =>
    obtain ⟨hs', hexec⟩ := hdb h₅
    have hnul : NoNul s₂.sessionArtifactRepoRoot := by
      rw [← hroot, not_not.mp hempty]
      rfl
    exact ⟨hs', fun _ => hexec, fun hnot => absurd hnul hnot⟩

/-- What a CLOSE changes, whatever its handler raises. -/
theorem exec_close {resp : Except PyExc OperationResponse} (hclose : request.type = .close)
    (h : (executeOperation b request).Exec s tr resp s') : ∃ r, Closed b s r s' := by
  have hhandler : ∀ {tr : List (Event WrapperAns)} {resp s'},
      (dispatchOp b request).Exec s tr resp s' → ∃ r, Closed b s r s' := by
    intro tr resp s' h
    rw [dispatchOp, hclose] at h
    rcases Eff.exec_bind.mp h with ⟨e, -, h₁⟩ | ⟨_, s₁, tr₁, tr₂, -, h₁, h₂⟩
    · exact ⟨_, exec_cleanup_staging h₁⟩
    · obtain ⟨-, -, rfl⟩ := Eff.exec_pure.mp h₂
      exact ⟨_, exec_cleanup_staging h₁⟩
  rcases Eff.exec_tryCatch.mp h with ⟨a, -, h₁⟩ | ⟨e, s₁, tr₁, tr₂, -, h₁, h₂⟩
  · exact hhandler h₁
  · obtain rfl : s' = s₁ := handleOpError_stays _ e h₂
    exact hhandler h₁

end

/-! ### A CLOSE isolates what follows -/

section

variable {kind : WrapperKind} {host : WrapperHost} {s s' : WrapperState}

theorem matches_of_closed {r : Except PyExc Unit} (h : Closed (kind.backend host) s r s')
    (hready : kind ≠ .nss → s.staging.nssDbReady = false)
    (hout : strip s.lastServerOutput = "") (hroot : NoNul s.sessionArtifactRepoRoot) :
    Matches False s' {} := by
  have hstaging : s'.staging = {} := by
    obtain ⟨tr, r', hexec⟩ := h.db hroot
    cases kind with
    | openssl =>
      obtain ⟨-, -, hst⟩ := Eff.exec_pure.mp hexec
      rw [← hst]
      exact congrArg (Staging.mk []) (hready (by decide))
    | gnutls =>
      obtain ⟨-, -, hst⟩ := Eff.exec_pure.mp hexec
      rw [← hst]
      exact congrArg (Staging.mk []) (hready (by decide))
    | nss =>
      obtain ⟨_, _, st₁, _, _, -, -, h₁, h₂⟩ := Eff.exec_finallyDo.mp hexec
      obtain ⟨_, -, -, rfl⟩ := Eff.exec_invoke.mp h₁
      obtain ⟨-, -, hst⟩ := Eff.exec_modifyState.mp h₂
      exact hst.symm
  have hblank : strip "" = "" := by decide
  refine ⟨?_, ?_, hstaging, .inr ⟨?_, hblank⟩, .inr ⟨?_, by decide⟩, False.elim⟩
  · rw [h.kept]
  · rw [h.kept]
  · rw [h.kept]
    exact hout
  · rw [h.kept]
    exact hroot

/-- What a client that followed no request would merge, with no process there. -/
theorem observe_nil {b : CliBackend} (hserver : s.serverProc = none)
    (hclient : s.clientProc = none) : (observe b [] "").prog s = .done (.ok ([],
      if strip s.lastServerOutput = "" then joinNonBlank "" ""
      else s.lastServerOutput ++ "\n" ++ joinNonBlank "" ""), s) := by
  obtain ⟨_, _, _, _, _, _, _, _⟩ := s
  dsimp only at hserver hclient
  subst hserver hclient
  rfl

theorem collectClientMergedOutput_total (early : String) :
    (collectClientMergedOutput early).Total := by
  have hread : ∀ proc timeoutS, (readDecoded proc timeoutS).Total := by
    intro proc timeoutS
    cases proc with
    | none => exact .pure _
    | some p => exact .bind (.call _) fun _ => .pure _
  refine .bind .getState fun s => .bind ?_ fun _ => .bind (hread _ _) fun _ => .pure _
  cases s.serverProc with
  | none => exact .pure _
  | some p => exact .bind (hread _ _) fun _ => .pure _

/-- What is seen of one request is what its response tells. -/
theorem exec_observe_singleton {b : CliBackend} {request : OperationRequest} {early : String}
    {tr : List (Event WrapperAns)}
    {r : Except PyExc (List (Status × String × Option Negotiated) × String)}
    (h : (observe b [request] early).Exec s tr r s') :
    ∃ resp merged tr₁ s₁, r = .ok ([resp.told], merged) ∧
      (executeOperation b request).Exec s tr₁ (.ok resp) s₁ := by
  have hserve : (serve b [request]).Total :=
    .bind (executeOperation_total b request) fun _ => .bind (.pure _) fun _ => .pure _
  obtain ⟨resps, s₁, tr₁, tr₂, rfl, h₁, h₂⟩ := hserve.exec_bind h
  obtain ⟨merged, s₂, tr₃, tr₄, rfl, -, h₃⟩ := (collectClientMergedOutput_total early).exec_bind h₂
  obtain ⟨-, rfl, -⟩ := Eff.exec_pure.mp h₃
  obtain ⟨resp, s₃, tr₅, tr₆, rfl, h₄, h₅⟩ := (executeOperation_total b request).exec_bind h₁
  obtain ⟨_, _, _, _, -, h₆, h₇⟩ := (Eff.Total.pure _).exec_bind h₅
  obtain ⟨-, hnil, -⟩ := Eff.exec_pure.mp h₆
  obtain ⟨-, hresps, -⟩ := Eff.exec_pure.mp h₇
  obtain rfl := Except.ok.inj hnil
  obtain rfl := Except.ok.inj hresps
  exact ⟨resp, merged, tr₅, s₃, rfl, h₄⟩

/-- A CLOSE fails when the artifact root cannot be named. -/
theorem status_of_nul {b : CliBackend} {request : OperationRequest}
    {tr : List (Event WrapperAns)} {resp : OperationResponse} (hclose : request.type = .close)
    (hroot : ¬ NoNul s.sessionArtifactRepoRoot)
    (h : (executeOperation b request).Exec s tr (.ok resp) s') : resp.status = .error := by
  have hraise : ∀ {tr : List (Event WrapperAns)} {r s'}, (dispatchOp b request).Exec s tr r s' →
      r = .error ⟨.valueError, "embedded null byte"⟩ := by
    intro tr r s' h
    rw [dispatchOp, hclose] at h
    rcases Eff.exec_bind.mp h with ⟨e, rfl, h₁⟩ | ⟨_, s₁, tr₁, tr₂, -, h₁, -⟩
    · exact Except.error.inj ((exec_cleanup_staging h₁).raised hroot) ▸ rfl
    · cases (exec_cleanup_staging h₁).raised hroot
  rcases Eff.exec_tryCatch.mp h with ⟨a, -, h₁⟩ | ⟨e, s₁, tr₁, tr₂, -, h₁, h₂⟩
  · cases hraise h₁
  · obtain rfl := Except.error.inj (hraise h₁)
    obtain ⟨logs, s₂, tr₃, tr₄, -, -, h₃⟩ := (buildCliDebugLogs_total _ _ _ _).exec_bind h₂
    obtain ⟨-, hresp, -⟩ := Eff.exec_pure.mp h₃
    rw [← Except.ok.inj hresp]

/-- Every call is answered as if it was the first one. -/
def stillEnv : Prog.Env WrapperAns := fun _ q => quietEnv [] q

theorem stillEnv_alike (past past' : List (Event WrapperAns)) :
    Prog.AnswerAlike silentCall stillEnv stillEnv past past' := fun _ _ _ _ _ => rfl

/-- A CLOSE of a new wrapper succeeds. -/
theorem observe_close_new (kind : WrapperKind) (host : WrapperHost) {request : OperationRequest}
    (hclose : request.type = .close) :
    (((observe (kind.backend host) [request] "").prog {}).exec stillEnv []).1.1
      = .ok ([(.success, "Cleanup successful", none)], "") := by
  obtain ⟨_, _, _, _⟩ := request
  dsimp only at hclose
  subst hclose
  cases kind <;> rfl

end

/-- **When a CLOSE isolates**: after every history that ends with a CLOSE, a wrapper
answers every continuation like a new one, but for the logs, exactly when the cached
output of the server is blank and the artifact root has no null character.  The output is
merged into what the next client prints; the root is used by the next CLOSE, which fails on
a path with a null character.  Everything else that a request looks at is reset. -/
theorem close_isolates_iff (kind : WrapperKind) (host : WrapperHost)
    {history : List OperationRequest} {close : OperationRequest} {s s' : WrapperState}
    {past tr : List (Event WrapperAns)} {r : Except PyExc (List OperationResponse)}
    {resp : Except PyExc OperationResponse} (hclose : close.type = .close)
    (hhistory : (serve (kind.backend host) history).Exec {} past r s)
    (hrun : (executeOperation (kind.backend host) close).Exec s tr resp s') :
    Isolates (kind.backend host) (past ++ tr) s' ↔
      strip s.lastServerOutput = "" ∧ NoNul s.sessionArtifactRepoRoot := by
  obtain ⟨r', hclosed⟩ := exec_close hclose hrun
  constructor
  · intro hiso
    refine ⟨?_, ?_⟩
    · -- what a client would merge right after the CLOSE
      have hmerged := hiso stillEnv stillEnv (stillEnv_alike _ _) [] ""
      rw [observe_nil (by rw [hclosed.kept]) (by rw [hclosed.kept]), observe_nil rfl rfl] at hmerged
      have houtput : s'.lastServerOutput = s.lastServerOutput := by rw [hclosed.kept]
      simp only [Prog.exec_done, houtput] at hmerged
      by_contra hout
      rw [if_neg hout] at hmerged
      have hlen := congrArg (fun x : Except PyExc (List (Status × String × Option Negotiated) ×
        String) => match x with | .ok v => v.2.length | .error _ => 0) hmerged
      simp [strip] at hlen
    · -- what a further CLOSE answers
      by_contra hroot
      have hroot' : ¬ NoNul s'.sessionArtifactRepoRoot := by
        rw [hclosed.kept]
        exact hroot
      have htold := hiso stillEnv stillEnv (stillEnv_alike _ _) [close] ""
      rw [observe_close_new kind host hclose] at htold
      obtain ⟨resp', merged, tr₁, s₁, hr, hexec⟩ :=
        exec_observe_singleton (Eff.exec_run stillEnv (observe (kind.backend host) [close] "") s'
          (past ++ tr))
      rw [hr] at htold
      have hstatus := status_of_nul hclose hroot' hexec
      have hsame : resp'.told = (.success, "Cleanup successful", none) :=
        (List.cons.inj (Prod.mk.inj (Except.ok.inj htold)).1).1
      have hsuccess : resp'.status = .success := congrArg Prod.fst hsame
      rw [hstatus] at hsuccess
      cases hsuccess
  · -- nothing else is left that a request looks at
    rintro ⟨hout, hroot⟩
    have hready : kind ≠ .nss → s.staging.nssDbReady = false := fun hkind =>
      serve_looks (executeOperation_keepsReady hkind host) history hhistory
    exact isolates_of_matches (matches_of_closed hclosed hready hout hroot)

/-! ### Two runs -/

/-- The requests of `establishBoth` and a CLOSE, with quiet processes. -/
theorem quiet_close_isolates :
    ∃ past tr s s', (∃ r, (serve (WrapperKind.openssl.backend shippedHost) establishBoth).Exec {}
        past r s) ∧
      (∃ resp, (executeOperation (WrapperKind.openssl.backend shippedHost) closeRequest).Exec s tr
        resp s') ∧
      Isolates (WrapperKind.openssl.backend shippedHost) (past ++ tr) s' := by
  have hrun : (serve (WrapperKind.openssl.backend shippedHost) establishBoth).Exec {}
      establishBothRun.2 establishBothRun.1.1 establishBothRun.1.2 := Eff.exec_run ..
  have hclean : strip establishBothRun.1.2.lastServerOutput = "" ∧
      NoNul establishBothRun.1.2.sessionArtifactRepoRoot := by decide +kernel
  -- only these two facts of the run are needed
  obtain ⟨past, r, s, hrun, hclean⟩ : ∃ past r s,
      (serve (WrapperKind.openssl.backend shippedHost) establishBoth).Exec {} past r s ∧
        strip s.lastServerOutput = "" ∧ NoNul s.sessionArtifactRepoRoot :=
    ⟨_, _, _, hrun, hclean⟩
  have hclose := Eff.exec_run quietEnv
    (executeOperation (WrapperKind.openssl.backend shippedHost) closeRequest) s past
  exact ⟨past, _, s, _, ⟨r, hrun⟩, ⟨_, hclose⟩,
    (close_isolates_iff .openssl shippedHost rfl hrun hclose).mpr hclean⟩

/-- Servers print a retry and clients print nothing; apart from that every call is answered
as if it was the first one. -/
def retryEnv : Prog.Env WrapperAns
  | _, .popen cmd _ _ => .ok (if cmd.contains "s_server" then 0 else 1)
  | _, .readStdout p _ _ => if p = 0 then "retry request".toUTF8.toList else []
  | _, q => quietEnv [] q

theorem retryEnv_alike (past past' : List (Event WrapperAns)) :
    Prog.AnswerAlike silentCall retryEnv retryEnv past past' := by
  intro tr tr' _ q _
  cases q <;> rfl

/-- The requests of a cell that only has a server. -/
def serverCell : List OperationRequest := establishBoth.take 1 ++ [closeRequest]

/-- The run of the cell on a new wrapper. -/
abbrev serverCellRun : (Except PyExc (List OperationResponse) × WrapperState) ×
    List (Event WrapperAns) :=
  ((serve (WrapperKind.openssl.backend shippedHost) serverCell).prog {}).exec retryEnv []

/-- The retries an ESTABLISH of a client reports from the state. -/
def reportedRetries (past : List (Event WrapperAns)) (s : WrapperState) :
    Except PyExc (List (Option Bool)) :=
  (((serve (WrapperKind.openssl.backend shippedHost) (establishBoth.drop 1)).prog s).exec retryEnv
    past).1.1.map fun resps => resps.map fun resp => resp.negotiated.map Negotiated.hrrOccurred

/-- A retry that the server of an earlier cell printed is reported by a client of a later
cell, and by no client of a new wrapper. -/
theorem stale_output_seen :
    serverCell.getLast? = some closeRequest ∧
      (∃ r, (serve (WrapperKind.openssl.backend shippedHost) serverCell).Exec {} serverCellRun.2 r
        serverCellRun.1.2) ∧
      Prog.AnswerAlike silentCall retryEnv retryEnv serverCellRun.2 [] ∧
      reportedRetries serverCellRun.2 serverCellRun.1.2 = .ok [some true] ∧
      reportedRetries [] {} = .ok [none] := by
  have hrun : (serve (WrapperKind.openssl.backend shippedHost) serverCell).Exec {} serverCellRun.2
      serverCellRun.1.1 serverCellRun.1.2 := Eff.exec_run ..
  have hretries : reportedRetries serverCellRun.2 serverCellRun.1.2 = .ok [some true] ∧
      reportedRetries [] {} = .ok [none] := by decide +kernel
  exact ⟨rfl, ⟨_, hrun⟩, retryEnv_alike _ _, hretries⟩

end TlsInterop
