import TlsInterop.Wrappers.Ownership
import TlsInterop.Py.Lowercase
import TlsInterop.Runner.Protocol

/-!
# What a plain success of a wrapper stands for

The driver goes on after a SUCCESS that does not ask to skip.  What a wrapper has
done when it answers so: the process it started, and what it read and wrote.

## Main definitions

* `Prepares`, `launched` — what a hook prepares, and the event of its start.
* `Started` — the process that an ESTABLISH has started.
* `exchange` — what a TRANSMIT does with a process.
* `peerHost` — the host a client is to reach.

## Main results

* `serverUp_of_establish` — a server is started, and listens on its port.
* `clientUp_of_establish` — a client is started, its peer answers, and it stays.
* `exchange_of_transmit` — what is written to the process of a role and read from it.
-/

namespace TlsInterop

open Py Effects

/-! ### Exceptions are no plain successes -/

/-- A message that asks to skip does so after stripping. -/
theorem startsWith_skip_lower_strip (rest : String) :
    startsWith "skip:" (lower (strip ("SKIP: " ++ rest))) = true := by
  -- nothing before the colon is a blank, so that stripping keeps it
  have hstrip : ∃ l, (strip ("SKIP: " ++ rest)).toList = ['S', 'K', 'I', 'P', ':'] ++ l := by
    rw [toList_strip, String.toList_append, stripL]
    have hleft : List.dropWhile isSpace ("SKIP: ".toList ++ rest.toList)
        = ['S', 'K', 'I', 'P', ':'] ++ (' ' :: rest.toList) := by
      rw [show "SKIP: ".toList = ['S', 'K', 'I', 'P', ':', ' '] from rfl]
      exact List.dropWhile_cons_of_neg (by decide)
    rw [hleft, List.rdropWhile, List.reverse_append]
    have hkeep : List.dropWhile isSpace ['S', 'K', 'I', 'P', ':'].reverse
        = ['S', 'K', 'I', 'P', ':'].reverse := by decide
    rw [List.dropWhile_append, hkeep]
    split
    · exact ⟨[], by simp⟩
    · exact ⟨(List.dropWhile isSpace (' ' :: rest.toList).reverse).reverse, by simp⟩
  obtain ⟨l, hl⟩ := hstrip
  have hlower : (lower (strip ("SKIP: " ++ rest))).toList
      = "skip:".toList ++ lowerFrom [':', 'P', 'I', 'K', 'S'] l := by
    rw [toList_lower, hl]
    rfl
  rw [startsWith, hlower]
  exact List.isPrefixOf_iff_prefix.mpr (List.prefix_append ..)

section

variable {b : CliBackend} {request : OperationRequest} {resp : OperationResponse}
  {s s' : WrapperState} {tr : List (Event WrapperAns)}

/-- The response to an exception is no plain success. -/
theorem not_plain_of_handleOpError {role : Role} {e : PyExc}
    (h : (handleOpError role e).Exec s tr (.ok resp) s') : resp.isPlainSuccess = false := by
  have hformat : ∀ {phase status}, status ≠ Status.success →
      (formatOpError e phase status role).Exec s tr (.ok resp) s' → resp.isPlainSuccess = false := by
    intro phase status hstatus hexec
    obtain ⟨logs, s₁, tr₁, tr₂, rfl, -, hret⟩ := Eff.exec_bind_ok.mp hexec
    cases (Eff.exec_pure.mp hret).2.1
    simp [OperationResponse.isPlainSuccess, hstatus]
  unfold handleOpError at h
  split at h
  · refine hformat ?_ h
    decide
  · cases (Eff.exec_pure.mp h).2.1
    simp [OperationResponse.isPlainSuccess, OperationResponse.msg, startsWith_skip_lower_strip]
  · refine hformat ?_ h
    decide
  · refine hformat ?_ h
    decide

/-- A plain success is the response of the handler of the request. -/
theorem dispatchOp_of_plain (h : (executeOperation b request).Exec s tr (.ok resp) s')
    (hplain : resp.isPlainSuccess = true) : (dispatchOp b request).Exec s tr (.ok resp) s' := by
  rcases Eff.exec_tryCatch.mp h with ⟨a, ha, hrun⟩ | ⟨e, s₁, tr₁, tr₂, rfl, -, hhandle⟩
  · cases ha
    exact hrun
  · rw [not_plain_of_handleOpError hhandle] at hplain
    cases hplain

theorem success_of_plain (h : resp.isPlainSuccess = true) : resp.status = .success := by
  simp only [OperationResponse.isPlainSuccess, Bool.and_eq_true, beq_iff_eq] at h
  exact h.1

end

/-! ### Looking at processes -/

section

variable {s s' : WrapperState} {tr : List (Event WrapperAns)}

/-- A process that has not exited was asked. -/
theorem exec_exited_false {p : CliProc} (h : (exited (some p)).Exec s tr (.ok false) s') :
    tr = [⟨.poll p, (none : Option ℤ)⟩] ∧ s' = s := by
  obtain ⟨code, s₁, tr₁, tr₂, rfl, hpoll, hret⟩ := Eff.exec_bind_ok.mp h
  obtain ⟨ans, rfl, hans, rfl⟩ := Eff.exec_call.mp hpoll
  cases hans
  obtain ⟨rfl, hcode, rfl⟩ := Eff.exec_pure.mp hret
  rw [Option.isSome_eq_false_iff.mp (Except.ok.inj hcode) |> Option.isNone_iff_eq_none.mp]
  exact ⟨rfl, rfl⟩

/-- Rounds that succeed end in a connection. -/
theorem exec_tcpConnectRounds_true {host : String} {port : ℤ} {proc : Option CliProc} {rounds : ℕ}
    {lastErr err : String}
    (h : (tcpConnectRounds host port proc rounds lastErr).Exec s tr (.ok (true, err)) s') :
    (⟨.tcpAttempt host port, .ok none⟩ : Event WrapperAns) ∈ tr := by
  induction rounds generalizing s tr lastErr with
  | zero => cases (Eff.exec_pure.mp h).2.1
  | succ rounds ih =>
    obtain ⟨gone, s₁, tr₁, tr', rfl, -, h'⟩ := Eff.exec_bind_ok.mp h
    cases gone with
    | true => cases (Eff.exec_pure.mp h').2.1
    | false =>
      obtain ⟨answer, s₂, tr₂, tr₃, rfl, hattempt, hrest⟩ := Eff.exec_bind_ok.mp h'
      obtain ⟨ans, rfl, hans, rfl⟩ := Eff.exec_invoke.mp hattempt
      obtain rfl : ans = .ok answer := hans
      cases answer with
      | none => exact List.mem_append_right _ List.mem_cons_self
      | some err' => exact List.mem_append_right _ (List.mem_append_right _ (ih hrest))

theorem exec_waitTcpConnect_true {host : String} {port : ℤ} {proc : Option CliProc} {err : String}
    (h : (waitTcpConnect host port proc).Exec s tr (.ok (true, err)) s') :
    (⟨.tcpAttempt host port, .ok none⟩ : Event WrapperAns) ∈ tr := by
  obtain ⟨rounds, s₁, tr₁, tr₂, rfl, -, hrounds⟩ := Eff.exec_bind_ok.mp h
  exact List.mem_append_right _ (exec_tcpConnectRounds_true hrounds)

end

/-! ### The start of a process -/

/-- A hook prepares a launch. -/
def Prepares (prepare : StagingM Launch) (launch : Launch) : Prop :=
  ∃ st tr st', prepare.Exec st tr (.ok launch) st'

/-- The start of a launch as a process. -/
abbrev launched (launch : Launch) (p : CliProc) : Event WrapperAns :=
  ⟨.popen launch.cmd launch.cwd launch.env, .ok p⟩

/-- What a start that succeeds has done last. -/
theorem exec_startCli_ok {prepare : StagingM Launch} {s s' : WrapperState}
    {tr : List (Event WrapperAns)} {proc : Option CliProc × String × String}
    (h : (startCli prepare).Exec s tr (.ok proc) s') :
    ∃ launch p tr₀, Prepares prepare launch ∧ tr = tr₀ ++ [launched launch p] ∧
      proc = (some p, formatExecutedCommand launch.cmd launch.cwd, launch.message) := by
  obtain ⟨launch, s₁, tr₁, tr', rfl, hstage, h'⟩ := Eff.exec_bind_ok.mp h
  obtain ⟨p, s₂, tr₂, tr₃, rfl, hpopen, hret⟩ := Eff.exec_bind_ok.mp h'
  obtain ⟨tr₀, st, -, hprepare, -⟩ := Eff.exec_zoom.mp hstage
  obtain ⟨ans, rfl, hans, rfl⟩ := Eff.exec_invoke.mp hpopen
  obtain rfl : ans = .ok p := hans
  obtain ⟨rfl, hproc, rfl⟩ := Eff.exec_pure.mp hret
  exact ⟨launch, p, tr₁, ⟨_, _, _, hprepare⟩, by simp, (Except.ok.inj hproc).symm⟩

/-! ### ESTABLISH -/

section

variable {b : CliBackend} {request : OperationRequest} {resp : OperationResponse}
  {s s' : WrapperState} {tr : List (Event WrapperAns)}

/-- A watched server that is reported listens on its port. -/
theorem listens_of_watchServer {proc : CliProc} {cmdLogs msg : String}
    (h : (watchServer b request proc cmdLogs msg).Exec s tr (.ok resp) s') :
    (⟨.tcpAttempt "127.0.0.1" request.config.port, .ok none⟩ : Event WrapperAns) ∈ tr := by
  obtain ⟨gone, s₁, tr₁, tr', rfl, -, h'⟩ := Eff.exec_bind_ok.mp h
  cases gone with
  | true =>
    obtain ⟨out, s₂, tr₂, tr₃, rfl, -, h₃⟩ := Eff.exec_bind_ok.mp h'
    obtain ⟨_, s₃, tr₄, tr₅, rfl, -, hthrow⟩ := Eff.exec_bind_ok.mp h₃
    cases (Eff.exec_throw.mp hthrow).2.1
  | false =>
    dsimp only at h'
    rw [if_neg Bool.false_ne_true] at h'
    split at h'
    · cases (Eff.exec_throw_bind.mp h').2.1
    obtain ⟨⟨listen, err⟩, s₂, tr₂, tr₃, rfl, hwait, hrest⟩ := Eff.exec_bind_ok.mp h'
    cases listen with
    | true => exact List.mem_append_right _ (List.mem_append_left _ (exec_waitTcpConnect_true hwait))
    | false =>
      obtain ⟨detail, s₃, tr₄, tr₅, rfl, -, h₅⟩ := Eff.exec_bind_ok.mp hrest
      obtain ⟨_, s₄, tr₆, tr₇, rfl, -, hthrow⟩ := Eff.exec_bind_ok.mp h₅
      cases (Eff.exec_throw.mp hthrow).2.1

/-- The host a client is to reach. -/
def peerHost (config : TlsConfig) : String :=
  if strip config.serverHostname = "" then "localhost" else strip config.serverHostname

/-- A peer that was waited for has answered. -/
theorem reached_of_waitClientPeer {cmdLogs : String} {port : ℤ}
    (h : (waitClientPeer request cmdLogs port).Exec s tr (.ok ()) s') :
    (⟨.tcpAttempt (peerHost request.config) port, .ok none⟩ : Event WrapperAns) ∈ tr := by
  unfold waitClientPeer at h
  rw [Eff.exec_getState_bind] at h
  obtain ⟨⟨reached, err⟩, s₁, tr₁, tr₂, rfl, hwait, hrest⟩ := Eff.exec_bind_ok.mp h
  cases reached with
  | true => exact List.mem_append_left _ (exec_waitTcpConnect_true hwait)
  | false =>
    obtain ⟨detail, s₂, tr₃, tr₄, rfl, -, h₄⟩ := Eff.exec_bind_ok.mp hrest
    obtain ⟨_, s₃, tr₅, tr₆, rfl, -, hthrow⟩ := Eff.exec_bind_ok.mp h₄
    cases (Eff.exec_throw.mp hthrow).2.1

theorem status_of_clientFail {cmdLogs output message : String}
    (h : (clientFail cmdLogs output message).Exec s tr (.ok resp) s') : resp.status = .failure := by
  obtain ⟨_, s₁, tr₁, tr₂, rfl, -, h₂⟩ := Eff.exec_bind_ok.mp h
  obtain ⟨logs, s₂, tr₃, tr₄, rfl, -, hret⟩ := Eff.exec_bind_ok.mp (Eff.exec_getState_bind.mp h₂)
  cases (Eff.exec_pure.mp hret).2.1
  rfl

/-- A client that is reported connected has not exited. -/
theorem stays_of_finishClientEstablish {p : CliProc} {cmdLogs merged : String}
    (hproc : s.clientProc = some p)
    (h : (finishClientEstablish b request cmdLogs merged).Exec s tr (.ok resp) s')
    (hstatus : resp.status = .success) :
    (⟨.poll p, (none : Option ℤ)⟩ : Event WrapperAns) ∈ tr := by
  unfold finishClientEstablish at h
  rw [Eff.exec_getState_bind] at h
  obtain ⟨logs, s₁, tr₁, tr', rfl, -, h'⟩ := Eff.exec_bind_ok.mp h
  obtain ⟨gone, s₂, tr₂, tr₃, rfl, hexited, hrest⟩ := Eff.exec_bind_ok.mp h'
  cases gone with
  | true =>
    cases (Eff.exec_pure.mp hrest).2.1
    cases hstatus
  | false =>
    rw [hproc] at hexited
    rw [(exec_exited_false hexited).1]
    exact List.mem_append_right _ (List.mem_append_left _ List.mem_cons_self)

/-- A watched client that is reported connected has reached its peer, and stays. -/
theorem stays_of_watchClient {p : CliProc} {cmdLogs : String} (hproc : s.clientProc = some p)
    (h : (watchClient b request p cmdLogs).Exec s tr (.ok resp) s')
    (hstatus : resp.status = .success) :
    [⟨.tcpAttempt (peerHost request.config) request.config.port, .ok none⟩,
      (⟨.poll p, (none : Option ℤ)⟩ : Event WrapperAns)].Sublist tr := by
  -- what ends with `_client_fail` is no success
  have hfail : ∀ {s tr s'} {output : WrapperM String} {message}, (do
      let out ← output
      clientFail cmdLogs out message : WrapperM OperationResponse).Exec s tr (.ok resp) s' →
      False := by
    intro s tr s' output message hexec
    obtain ⟨out, s₁, tr₁, tr₂, rfl, -, hclient⟩ := Eff.exec_bind_ok.mp hexec
    rw [status_of_clientFail hclient] at hstatus
    cases hstatus
  unfold watchClient at h
  dsimp only at h
  split at h
  · cases (Eff.exec_throw_bind.mp h).2.1
  -- it is asked whether the client is there, before its peer is waited for
  obtain ⟨gone, s₁, tr₁, tr', rfl, hexited, h'⟩ := Eff.exec_bind_ok.mp h
  cases gone with
  | true => exact (hfail (Eff.exec_getState_bind.mp h')).elim
  | false =>
    obtain ⟨rfl, rfl⟩ := exec_exited_false hexited
    obtain ⟨⟨⟩, s₂, tr₂, tr₃, rfl, hpeer, h₃⟩ := Eff.exec_bind_ok.mp h'
    have hproc₂ := (procOf_of_watches (waitClientPeer_looks _ _ _ hpeer) false).trans hproc
    -- and once more behind the wait
    rw [Eff.exec_getState_bind] at h₃
    obtain ⟨gone, s₃, tr₄, tr₅, rfl, hexited, h₅⟩ := Eff.exec_bind_ok.mp h₃
    cases gone with
    | true => exact (hfail h₅).elim
    | false =>
      have hproc₃ := (procOf_of_watches (exited_looks _ hexited) false).trans hproc₂
      obtain ⟨early, s₄, tr₆, tr₇, rfl, hdrain, h₇⟩ := Eff.exec_bind_ok.mp h₅
      have hproc₄ := (procOf_of_watches (drainProcessOutput_looks _ hdrain) false).trans hproc₃
      obtain ⟨merged, s₅, tr₈, tr₉, rfl, hcollect, h₉⟩ := Eff.exec_bind_ok.mp h₇
      have hproc₅ := (procOf_of_watches (collectClientMergedOutput_looks _ hcollect) false).trans hproc₄
      obtain ⟨_, s₆, tr₁₀, tr₁₁, rfl, hremember, hfinish⟩ := Eff.exec_bind_ok.mp h₉
      have hproc₆ := (procOf_of_watches (rememberRoleCli_looks _ _ _ hremember) false).trans hproc₅
      -- and at last when the output has been read
      have hstay := stays_of_finishClientEstablish hproc₆ hfinish hstatus
      rw [← List.append_assoc]
      have hreached := List.mem_append_right [(⟨.poll p, (none : Option ℤ)⟩ : Event WrapperAns)]
        (reached_of_waitClientPeer hpeer)
      exact (List.singleton_sublist.mpr hreached).append (List.singleton_sublist.mpr (by simp [hstay]))

/-- What an ESTABLISH that succeeds has started, and what it has watched then. -/
theorem exec_start_ok (server : Bool) {prepare : StagingM Launch}
    (keep : Option CliProc → WrapperState → WrapperState)
    {watch : Option CliProc × String × String → WrapperM OperationResponse}
    (hown : ∀ proc s, (keep proc s).procOf server = proc)
    (h : (do
      let started ← startCli prepare
      Eff.modifyState (keep started.1)
      watch started : WrapperM OperationResponse).Exec s tr (.ok resp) s') :
    ∃ launch p s₁ tr₁ tr₂, Prepares prepare launch ∧ tr = tr₁ ++ launched launch p :: tr₂ ∧
      s₁.procOf server = some p ∧
      (watch (some p, formatExecutedCommand launch.cmd launch.cwd, launch.message)).Exec
        s₁ tr₂ (.ok resp) s' := by
  obtain ⟨started, s₁, tr₁, tr₂, rfl, hstart, hrest⟩ := Eff.exec_bind_ok.mp h
  obtain ⟨launch, p, tr₀, hprepares, rfl, rfl⟩ := exec_startCli_ok hstart
  exact ⟨launch, p, _, tr₀, tr₂, hprepares, by simp, hown _ _, Eff.exec_modifyState_bind.mp hrest⟩

/-- The process that an ESTABLISH has started for a role. -/
structure Started (server : Bool) (prepare : StagingM Launch) (watched : CliProc → List (Event WrapperAns))
    (s : WrapperState) (tr : List (Event WrapperAns)) (s' : WrapperState) (launch : Launch)
    (p : CliProc) : Prop where
  prepares : Prepares prepare launch
  own : s'.procOf server = some p
  other : s'.procOf (!server) = s.procOf (!server)
  watched : (launched launch p :: watched p).Sublist tr

theorem exec_handleEstablish_ok (h : (handleEstablish b request).Exec s tr (.ok resp) s') :
    ∃ s₁ tr₁ tr₂, tr = tr₁ ++ tr₂ ∧ (establishRole b request).Exec s₁ tr₂ (.ok resp) s' := by
  obtain ⟨_, s₁, tr₁, tr', rfl, -, h'⟩ := Eff.exec_bind_ok.mp h
  obtain ⟨_, s₂, tr₂, tr'', rfl, -, h''⟩ := Eff.exec_bind_ok.mp h'
  obtain ⟨_, s₃, tr₃, tr₄, rfl, -, hrole⟩ := Eff.exec_bind_ok.mp h''
  exact ⟨s₃, tr₁ ++ (tr₂ ++ tr₃), tr₄, by simp, hrole⟩

/-- **A server that is reported established was started as its hook prepared, and listens.** -/
theorem serverUp_of_establish (htype : request.type = .establish) (hrole : request.role = .server)
    (h : (executeOperation b request).Exec s tr (.ok resp) s') (hplain : resp.isPlainSuccess = true) :
    ∃ launch p, Started true (b.startServer request.config)
      (fun _ => [⟨.tcpAttempt "127.0.0.1" request.config.port, .ok none⟩]) s tr s' launch p := by
  have heffect := executeOperation_effect h
  have hdispatch := dispatchOp_of_plain h hplain
  rw [dispatchOp, htype] at hdispatch
  rw [Effect, htype, isServer, hrole] at heffect
  obtain ⟨s₁, tr₁, tr₂, rfl, hestablish⟩ := exec_handleEstablish_ok hdispatch
  rw [establishRole, if_pos hrole] at hestablish
  obtain ⟨launch, p, s₂, tr₃, tr₄, hprepares, rfl, hproc, hwatch⟩ :=
    exec_start_ok true (fun proc s => { s with serverProc := proc }) (fun _ _ => rfl) hestablish
  obtain ⟨_, s₃, tr₅, tr₆, rfl, hremember, hwatch⟩ := Eff.exec_bind_ok.mp hwatch
  have hproc₃ := (procOf_of_watches (rememberRoleCli_looks _ _ _ hremember) true).trans hproc
  refine ⟨launch, p, hprepares, (procOf_of_watches (watchServer_looks _ _ _ _ _ hwatch) true).trans
    hproc₃, heffect.other, ?_⟩
  refine ((List.Sublist.cons_cons _ ?_).trans (List.sublist_append_right tr₃ _)).trans
    (List.sublist_append_right tr₁ _)
  exact List.singleton_sublist.mpr (List.mem_append_right _ (listens_of_watchServer hwatch))

/-- **A client that is reported established was started as its hook prepared, its peer
answers, and it has not exited.** -/
theorem clientUp_of_establish (htype : request.type = .establish) (hrole : request.role ≠ .server)
    (h : (executeOperation b request).Exec s tr (.ok resp) s') (hplain : resp.isPlainSuccess = true) :
    ∃ launch p, Started false (b.startClient request.config)
      (fun p => [⟨.tcpAttempt (peerHost request.config) request.config.port, .ok none⟩,
        ⟨.poll p, (none : Option ℤ)⟩]) s tr s' launch p := by
  have heffect := executeOperation_effect h
  have hdispatch := dispatchOp_of_plain h hplain
  rw [dispatchOp, htype] at hdispatch
  rw [Effect, htype, isServer, decide_eq_false hrole] at heffect
  obtain ⟨s₁, tr₁, tr₂, rfl, hestablish⟩ := exec_handleEstablish_ok hdispatch
  rw [establishRole, if_neg hrole] at hestablish
  obtain ⟨launch, p, s₂, tr₃, tr₄, hprepares, rfl, hproc, hwatch⟩ :=
    exec_start_ok false (fun proc s => { s with clientProc := proc }) (fun _ _ => rfl) hestablish
  obtain ⟨_, s₃, tr₅, tr₆, rfl, hremember, hwatch⟩ := Eff.exec_bind_ok.mp hwatch
  have hproc₃ := (procOf_of_watches (rememberRoleCli_looks _ _ _ hremember) false).trans hproc
  refine ⟨launch, p, hprepares, (procOf_of_watches (watchClient_looks _ _ _ _ hwatch) false).trans
    hproc₃, heffect.other, ?_⟩
  refine ((List.Sublist.cons_cons _ ?_).trans (List.sublist_append_right tr₃ _)).trans
    (List.sublist_append_right tr₁ _)
  exact (stays_of_watchClient hproc₃ hwatch (success_of_plain hplain)).trans
    (List.sublist_append_right tr₅ _)

/-! ### TRANSMIT -/

/-- What a TRANSMIT does with a process: it is asked, written to, and read from. -/
def exchange (role : Role) (payload output : List UInt8) (timeoutS : ℚ) (p : CliProc) :
    List (Event WrapperAns) :=
  ⟨.poll p, (none : Option ℤ)⟩ :: ((if payload = [] then [] else
    [⟨.writeStdin p (transmitPayloadBytes payload role), .ok ()⟩]) ++
      [⟨.readStdout p timeoutS 1048576, output⟩])

/-- A payload that was written was taken. -/
theorem exec_writeTransmitPayload_none {target : CliProc} {payload : List UInt8} {role : Role}
    (h : (writeTransmitPayload target payload role).Exec s tr (.ok none) s') :
    tr = if payload = [] then [] else
      [⟨.writeStdin target (transmitPayloadBytes payload role), .ok ()⟩] := by
  unfold writeTransmitPayload at h
  by_cases hempty : payload = []
  · rw [if_pos hempty] at h ⊢
    exact (Eff.exec_pure.mp h).1
  · rw [if_neg hempty] at h ⊢
    obtain ⟨written, s₁, tr₁, tr₂, rfl, hwrite, hrest⟩ := Eff.exec_bind_ok.mp h
    obtain ⟨ans, rfl, hans, rfl⟩ := Eff.exec_call.mp hwrite
    obtain rfl : ans = written := Except.ok.inj hans
    rcases ans with e | _
    · dsimp only at hrest
      split at hrest
      · cases (Eff.exec_pure.mp hrest).2.1
      · cases (Eff.exec_throw.mp hrest).2.1
    · rw [(Eff.exec_pure.mp hrest).1]
      rfl

/-- **What a TRANSMIT that succeeds has written to the process of its role, and read from it.** -/
theorem exchange_of_transmit (htype : request.type = .transmit)
    (h : (executeOperation b request).Exec s tr (.ok resp) s') (hplain : resp.isPlainSuccess = true) :
    ∃ p timeoutS, s.proc request.role = some p ∧
      (exchange request.role request.payload resp.outputData timeoutS p).Sublist tr := by
  have hstatus := success_of_plain hplain
  have hdispatch := dispatchOp_of_plain h hplain
  rw [dispatchOp, htype] at hdispatch
  have hhandle := Eff.exec_getState_bind.mp hdispatch
  cases hproc : s.proc request.role with
  | none =>
    -- without a process of the role there is no success
    rw [hproc] at hhandle
    obtain ⟨logs, s₁, tr₁, tr₂, rfl, -, hret⟩ := Eff.exec_bind_ok.mp hhandle
    cases (Eff.exec_pure.mp hret).2.1
    cases hstatus
  | some p =>
    rw [hproc] at hhandle
    obtain ⟨gone, s₁, tr₁, tr', rfl, hexited, h'⟩ := Eff.exec_bind_ok.mp hhandle
    cases gone with
    | true =>
      -- nor with one that has exited
      obtain ⟨out, s₂, tr₂, tr₃, rfl, -, h₃⟩ := Eff.exec_bind_ok.mp h'
      obtain ⟨logs, s₃, tr₄, tr₅, rfl, -, hret⟩ := Eff.exec_bind_ok.mp h₃
      cases (Eff.exec_pure.mp hret).2.1
      cases hstatus
    | false =>
      obtain ⟨rfl, rfl⟩ := exec_exited_false hexited
      obtain ⟨err, s₂, tr₂, tr₃, rfl, hwrite, h₃⟩ := Eff.exec_bind_ok.mp h'
      cases err with
      | some err =>
        -- nor when its stdin is closed
        obtain ⟨out, s₃, tr₄, tr₅, rfl, -, h₅⟩ := Eff.exec_bind_ok.mp h₃
        obtain ⟨logs, s₄, tr₆, tr₇, rfl, -, hret⟩ := Eff.exec_bind_ok.mp h₅
        cases (Eff.exec_pure.mp hret).2.1
        cases hstatus
      | none =>
        obtain ⟨output, s₃, tr₄, tr₅, rfl, hread, h₅⟩ := Eff.exec_bind_ok.mp h₃
        obtain ⟨logs, s₄, tr₆, tr₇, rfl, -, hret⟩ := Eff.exec_bind_ok.mp h₅
        obtain ⟨ans, rfl, hans, rfl⟩ := Eff.exec_call.mp hread
        cases hans
        cases (Eff.exec_pure.mp hret).2.1
        refine ⟨p, if b.serverTransmitPoll ∧ request.role = .server then 5 else 3, rfl, ?_⟩
        rw [exec_writeTransmitPayload_none hwrite, exchange, List.singleton_append]
        exact ((List.Sublist.refl _).append (List.sublist_append_left _ _)).cons_cons _

end

end TlsInterop
