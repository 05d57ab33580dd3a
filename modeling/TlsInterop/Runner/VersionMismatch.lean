import TlsInterop.Runner.Verdict

/-!
# The negotiated version and the verdict

A cell is passed when its worker ended in time, its test passed and no CLOSE asked
to skip.  The version the client reports is not among the answers that count.

## Main definitions

* `Quiet` — events of the bookkeeping after a test.
* `VersionMismatch` — the client reports another version than it was asked for.

## Main results

* `executeConfiguredCell_eq_zero_iff` — when a cell is passed, for every run.
* `mismatch_not_passed_iff` — **a mismatch is kept from passing just when something
  else does not pass.**
* `mismatch_passes` — a cell that passes with another version.
-/

namespace TlsInterop

open Py Effects DriverM InteropDriver

/-! ### Bookkeeping -/

/-- No call of a test, no CLOSE and no join. -/
def Quiet (tr : List (Event DriverAns)) : Prop :=
  ∀ e ∈ tr, isTestCall e.1 = false ∧ isClose e.1 = false ∧ e.1 ≠ .joinWorker

theorem Quiet.auxiliary {tr : List (Event DriverAns)} (h : Quiet tr) : Auxiliary tr :=
  fun e he => ⟨(h e he).1, (h e he).2.2⟩

theorem Quiet.append {tr tr' : List (Event DriverAns)} (h : Quiet tr) (h' : Quiet tr') :
    Quiet (tr ++ tr') := fun e he => (List.mem_append.mp he).elim (h e) (h' e)

/-- The program only keeps books. -/
def bookkeeping : Eff.Frame DriverAns InteropDriver where
  holds _ tr _ := Quiet tr
  refl _ _ he := absurd he List.not_mem_nil
  trans h h' := h.append h'

theorem note_bookkeeping (entry : String) : Eff.Within bookkeeping (note entry) :=
  .modifyState fun _ => bookkeeping.refl {}

theorem call_bookkeeping {q : DriverCall} (ans : DriverAns q) (htest : isTestCall q = false)
    (hclose : isClose q = false) (hjoin : q ≠ .joinWorker) : Quiet [⟨q, ans⟩] := by
  intro e he
  rw [List.mem_singleton.mp he]
  exact ⟨htest, hclose, hjoin⟩

theorem saveCellDebugLog_bookkeeping (run : CellRun) (kind : String) :
    Eff.Within bookkeeping (saveCellDebugLog run kind) :=
  .ite (.bind .getState fun _ => .bind (.ofExcept _) fun _ =>
    .invoke fun _ ans => call_bookkeeping ans rfl rfl nofun) (.pure ())

theorem catchUp_bookkeeping : Eff.Within bookkeeping catchUp :=
  .bind (.call fun _ ans => call_bookkeeping ans rfl rfl nofun) fun _ =>
    .modifyState fun _ => bookkeeping.refl {}

theorem saveLast_bookkeeping (run : CellRun) (label summary kind : String) (rc : ℤ) :
    Eff.Within bookkeeping (do
      catchUp
      noteFailure label summary
      catchUp
      saveCellDebugLog run kind
      return rc : DriverM ℤ) :=
  .bind catchUp_bookkeeping fun _ => .bind (note_bookkeeping _) fun _ =>
    .bind catchUp_bookkeeping fun _ => .bind (saveCellDebugLog_bookkeeping run _) fun _ => .pure _

theorem processCellOutcome_bookkeeping (run : CellRun) (ok : Option Bool) (timedOut : Bool) :
    Eff.Within bookkeeping (processCellOutcome run ok timedOut) := by
  have hsave : ∀ kind (rc : ℤ), Eff.Within bookkeeping (do
      saveCellDebugLog run kind
      return rc : DriverM ℤ) :=
    fun kind rc => .bind (saveCellDebugLog_bookkeeping run kind) fun _ => .pure rc
  exact .ite (saveLast_bookkeeping run _ _ _ _) <| .bind .getState fun _ =>
    .ite (.pure _) <| .ite (hsave _ _) (.pure _)

theorem removeTlsSessionArtifactFiles_bookkeeping (root : String) :
    Eff.Within bookkeeping (removeTlsSessionArtifactFiles root) :=
  have hunlink : ∀ path, Eff.Within bookkeeping
      (Eff.call (DriverCall.unlink path) : DriverM Unit) :=
    fun _ => .call fun _ ans => call_bookkeeping ans rfl rfl nofun
  .ite (.bind (hunlink _) fun _ => hunlink _) (.pure ())

theorem newDriver_bookkeeping (addresses : Except PyExc (String × String)) :
    Eff.Within bookkeeping (newDriver addresses) :=
  .bind (.ofExcept _) fun _ => .modifyState fun _ => bookkeeping.refl {}

theorem failConfiguredCell_bookkeeping (addresses : Except PyExc (String × String)) (run : CellRun)
    (e : PyExc) : Eff.Within bookkeeping (failConfiguredCell addresses run e) := by
  unfold failConfiguredCell
  split
  · exact .bind (newDriver_bookkeeping addresses) fun _ => saveLast_bookkeeping run _ _ _ _
  · exact saveLast_bookkeeping run _ _ _ _

/-! ### CLOSE calls that ask to skip -/

theorem skipAfter_eq_none_iff {ans : Except PyExc OperationResponse} {before : Option String} :
    skipAfter ans before = none ↔
      (∀ resp, ans = .ok resp → resp.isSkip = false) ∧ before = none := by
  unfold skipAfter
  cases ans with
  | error e => exact ⟨fun h => ⟨nofun, h⟩, And.right⟩
  | ok resp =>
    cases hskip : resp.isSkip with
    | true =>
      dsimp only
      rw [hskip, if_pos rfl]
      refine iff_of_false nofun fun h => ?_
      rw [h.1 resp rfl] at hskip
      cases hskip
    | false =>
      dsimp only
      rw [hskip, if_neg Bool.false_ne_true]
      refine ⟨fun h => ⟨fun resp' hresp => ?_, h⟩, And.right⟩
      rwa [← Except.ok.inj hresp]

/-- A reason that a CLOSE gives is not blank. -/
theorem skipAfter_any {ans : Except PyExc OperationResponse} {before : Option String}
    (hbefore : before.any (· ≠ "") = false ↔ before = none) :
    (skipAfter ans before).any (· ≠ "") = false ↔ skipAfter ans before = none := by
  unfold skipAfter
  cases ans with
  | error e => exact hbefore
  | ok resp =>
    dsimp only
    split
    · simp [skipReason_ne_empty]
    · exact hbefore

/-- The events around the CLOSE calls of a test do not matter to `ClosesPlain`. -/
theorem closesPlain_iff {tr₁ tr₂ : List (Event DriverAns)}
    {server client : Except PyExc OperationResponse} (htest : testEvents tr₁ = tr₁)
    (hquiet : Quiet tr₂) :
    ClosesPlain (⟨.joinWorker, none⟩ :: ((tr₁ ++ closeEvents server client) ++ tr₂)) ↔
      skipAfter client (skipAfter server none) = none := by
  rw [skipAfter_eq_none_iff, skipAfter_eq_none_iff]
  constructor
  · intro h
    have hclose : ∀ role (ans : Except PyExc OperationResponse) resp, ans = .ok resp →
        (⟨executeCall .close role {} [], ans⟩ : Event DriverAns) ∈ closeEvents server client →
        resp.isSkip = false := by
      rintro role ans resp rfl hmem
      exact h _ _ _ resp (List.mem_cons_of_mem _ (List.mem_append_left _
        (List.mem_append_right _ hmem))) rfl
    exact ⟨fun resp hresp => hclose .client client resp hresp (by simp [closeEvents]),
      fun resp hresp => hclose .server server resp hresp (by simp [closeEvents]), rfl⟩
  · rintro ⟨hclient, hserver, -⟩ toServer request timeoutS resp hmem htype
    have hisClose : isClose (.execute toServer request timeoutS) = true := by simp [isClose, htype]
    rcases List.mem_cons.mp hmem with h | hmem
    · cases h
    rcases List.mem_append.mp hmem with hmem | hmem
    · rcases List.mem_append.mp hmem with hmem | hmem
      · -- a call of the test is no CLOSE
        have hcall := (List.mem_filter.mp (htest.symm ▸ hmem)).2
        simp [isTestCall, htype] at hcall
      · simp only [closeEvents, List.mem_cons, List.not_mem_nil, or_false] at hmem
        rcases hmem with h | h
        · cases h
          exact hserver resp rfl
        · cases h
          exact hclient resp rfl
    · -- nor is one of the calls that save the log
      rw [(hquiet _ hmem).2.1] at hisClose
      cases hisClose

/-! ### When a cell is passed -/

section

variable {addresses : Except PyExc (String × String)} {run : CellRun}
  {serverConf clientConf : TlsConfig} {tcpHost : String} {tcpPort : ℤ} {wroot : String}
  {d d' : InteropDriver} {tr : List (Event DriverAns)} {r : Except PyExc ℤ}

theorem exec_processCellOutcome_zero {ok : Option Bool} {timedOut : Bool}
    (h : (processCellOutcome run ok timedOut).Exec d tr r d') :
    r = .ok 0 ↔ timedOut = false ∧ d.lastSkipReason.any (· ≠ "") = false ∧ ok = some true := by
  have hsaved : ∀ {d tr r d'} {kind : String} {rc : ℤ}, rc ≠ 0 → (do
      saveCellDebugLog run kind
      return rc : DriverM ℤ).Exec d tr r d' → r ≠ .ok 0 := by
    rintro d tr r d' kind rc hrc h rfl
    obtain ⟨_, _, _, _, rfl, -, hret⟩ := Eff.exec_bind_ok.mp h
    exact hrc (Except.ok.inj (Eff.exec_pure.mp hret).2.1)
  unfold processCellOutcome at h
  cases timedOut with
  | true =>
    refine iff_of_false (fun hr => ?_) fun hr => Bool.false_ne_true hr.1.symm
    rw [hr] at h
    exact absurd (code_of_saveLast h) (by decide)
  | false =>
    rw [if_neg Bool.false_ne_true, Eff.exec_getState_bind] at h
    by_cases hskip : d.lastSkipReason.any (· ≠ "") = true
    · rw [if_pos hskip] at h
      obtain ⟨-, rfl, -⟩ := Eff.exec_pure.mp h
      exact iff_of_false (by decide) fun hr => by rw [hr.2.1] at hskip; cases hskip
    · rw [if_neg hskip] at h
      rw [Bool.not_eq_true] at hskip
      by_cases hok : ok = some true
      · rw [if_neg (not_not.mpr hok)] at h
        obtain ⟨-, rfl, -⟩ := Eff.exec_pure.mp h
        exact iff_of_true rfl ⟨rfl, hskip, hok⟩
      · rw [if_pos hok] at h
        exact iff_of_false (hsaved (by decide) h) fun hr => hok hr.2.2

/-- The shapes of the body of the `try` statement, and when it returns 0. -/
theorem exec_runConfiguredCell_zero
    (h : (runConfiguredCell addresses run serverConf clientConf tcpHost tcpPort).Exec d tr r d') :
    (Quiet tr ∧ r ≠ .ok 0) ∨ (TimedOut tr ∧ r ≠ .ok 0) ∨
    ∃ tr₁ server client v tr₂,
      tr = ⟨.joinWorker, none⟩ :: ((tr₁ ++ closeEvents server client) ++ tr₂) ∧
      CheckedCall.Runs (protocol serverConf clientConf tcpHost tcpPort) tr₁ v ∧ Quiet tr₂ ∧
      (r = .ok 0 ↔ v = none ∧ skipAfter client (skipAfter server none) = none) := by
  rcases Eff.exec_bind.mp h with ⟨e, rfl, hraise⟩ | ⟨⟨⟩, d₁, tr₁, tr₂, rfl, hnew, hrest⟩
  · exact .inl ⟨newDriver_bookkeeping addresses hraise, nofun⟩
  -- the driver is made without a call
  have hquiet : tr₁ = [] := by
    obtain ⟨_, _, _, _, rfl, haddr, hset⟩ := Eff.exec_bind_ok.mp hnew
    rw [(Eff.exec_ofExcept.mp haddr).1, (Eff.exec_modifyState.mp hset).1]
    rfl
  subst hquiet
  rw [List.nil_append]
  rcases Eff.exec_bind.mp hrest with ⟨e, rfl, hraise⟩ | ⟨p, d₂, tr₃, tr₄, rfl, hworker, hrest⟩
  · rcases exec_runCellWorkerThread hraise with
      ⟨hr, -⟩ | ⟨-, -, -, -, -, -, -, -, ⟨ok, hr, -⟩ | ⟨e', hr, -⟩⟩
    · cases hr
    · cases hr
    · cases hr
  rcases exec_runCellWorkerThread hworker with ⟨hp, noted, tr₅, rfl, -⟩ |
    ⟨tr₅, server, client, v, d₃, rfl, hrun, hskip, ⟨ok, hp, hv⟩ | ⟨e, hp, rfl⟩⟩
  · -- the timeout
    obtain rfl := Except.ok.inj hp
    refine .inr (.inl ⟨⟨noted, List.mem_append_left _ List.mem_cons_self⟩, fun hr => ?_⟩)
    cases ((exec_processCellOutcome_zero hrest).mp hr).1
  · -- the worker has returned
    obtain rfl := Except.ok.inj hp
    refine .inr (.inr ⟨tr₅, server, client, v, tr₄, rfl, hrun,
      processCellOutcome_bookkeeping run _ _ hrest, ?_⟩)
    rw [exec_processCellOutcome_zero hrest, hskip]
    rcases v with _ | ⟨e⟩ | _ | _
    · obtain ⟨hok, hnone⟩ := hv
      rw [hnone, Except.ok.inj hok, skipAfter_any (skipAfter_any (by simp))]
      simp
    · cases hv.1
    · rw [Except.ok.inj hv.1]
      simp
    · rw [Except.ok.inj hv.1]
      simp
  · -- the worker has raised
    obtain rfl := Except.ok.inj hp
    obtain ⟨rfl, rfl, -⟩ := Eff.exec_throw.mp hrest
    refine .inr (.inr ⟨tr₅, server, client, _, [], rfl, hrun, fun _ he => absurd he
      List.not_mem_nil, iff_of_false nofun nofun⟩)

/-- When the body of the `try` statement returns 0, read off the events of the cell. -/
theorem runConfiguredCell_eq_zero_iff {tail : List (Event DriverAns)}
    (h : (runConfiguredCell addresses run serverConf clientConf tcpHost tcpPort).Exec d tr r d')
    (htail : Quiet tail) :
    r = .ok 0 ↔ ¬ TimedOut (tr ++ tail) ∧
      Passed serverConf clientConf tcpHost tcpPort (tr ++ tail) ∧ ClosesPlain (tr ++ tail) := by
  rcases exec_runConfiguredCell_zero h with
    ⟨hquiet, hr⟩ | ⟨⟨noted, hmem⟩, hr⟩ | ⟨tr₁, server, client, v, tr₂, rfl, hrun, hquiet, hr⟩
  · -- no call of the test is made
    refine iff_of_false hr fun hpassed => ?_
    have hnone : testEvents (tr ++ tail) = [] :=
      testEvents_of_auxiliary (hquiet.auxiliary.append htail.auxiliary)
    have hcalls := hpassed.2.1.calls
    rw [hnone] at hcalls
    cases hcalls
  · exact iff_of_false hr fun hpassed => hpassed.1 ⟨noted, List.mem_append_left _ hmem⟩
  · have hsound := soundStep_protocol serverConf clientConf tcpHost tcpPort
    have hrest : Quiet (tr₂ ++ tail) := hquiet.append htail
    have haux : Auxiliary (closeEvents server client ++ (tr₂ ++ tail)) :=
      (auxiliary_closeEvents server client).append hrest.auxiliary
    have hsplit : ⟨.joinWorker, none⟩ :: ((tr₁ ++ closeEvents server client) ++ tr₂) ++ tail
        = (⟨.joinWorker, none⟩ : Event DriverAns) ::
          ((tr₁ ++ closeEvents server client) ++ (tr₂ ++ tail)) := by simp
    rw [hr, hsplit, closesPlain_iff (testEvents_of_runs hsound hrun) hrest, List.append_assoc,
      passed_iff hrun (testEvents_ended hsound hrun haux)]
    exact (and_iff_right (not_timedOut_ended hsound hrun haux)).symm

/-- **A cell is passed** just when its worker ended in time, its test passed and no
CLOSE asked to skip, whatever the environment answers. -/
theorem executeConfiguredCell_eq_zero_iff
    (h : (executeConfiguredCell addresses run serverConf clientConf tcpHost tcpPort wroot).Exec
      d tr r d') :
    r = .ok 0 ↔
      ¬ TimedOut tr ∧ Passed serverConf clientConf tcpHost tcpPort tr ∧ ClosesPlain tr := by
  obtain ⟨r₁, r₂, d₁, tr₁, tr₂, rfl, rfl, hbody, hremove⟩ := Eff.exec_finallyDo.mp h
  have hremoved : Quiet tr₂ := removeTlsSessionArtifactFiles_bookkeeping wroot hremove
  obtain ⟨rfl, -⟩ := exec_removeTlsSessionArtifactFiles hremove
  rcases Eff.exec_tryCatch.mp hbody with
    ⟨rc, rfl, hrun⟩ | ⟨e, d₂, tr₃, tr₄, rfl, hraise, hhandle⟩
  · exact runConfiguredCell_eq_zero_iff hrun hremoved
  · -- the handler returns 1, or raises
    have hhandled : Quiet tr₄ := failConfiguredCell_bookkeeping addresses run e hhandle
    have hne : r₁ ≠ .ok 0 := by
      rintro rfl
      unfold failConfiguredCell at hhandle
      split at hhandle
      · obtain ⟨_, _, _, _, rfl, -, hrest⟩ := Eff.exec_bind_ok.mp hhandle
        exact absurd (code_of_saveLast hrest) (by decide)
      · exact absurd (code_of_saveLast hhandle) (by decide)
    rw [List.append_assoc]
    refine iff_of_false (fun hr => hne ?_) fun hpassed => ?_
    · cases r₁ with
      | ok rc => exact hr
      | error e' => cases hr
    · have hzero := (runConfiguredCell_eq_zero_iff hraise (hhandled.append hremoved)).mpr hpassed
      cases hzero

end

/-! ### The negotiated version -/

/-- The response to the last ESTABLISH of the client. -/
def lastClientResponse (tr : List (Event DriverAns)) : Option OperationResponse :=
  (((testResponses tr).filter fun p => isRequest .establish .client p.1).getLast?).map Prod.snd

/-- The client reports a version of another mode than it was asked for. -/
def VersionMismatch (clientConf : TlsConfig) (tr : List (Event DriverAns)) : Prop :=
  ∃ resp, lastClientResponse tr = some resp ∧ resp.negotiatedOrDefault.protocolVersion ≠ "" ∧
    tlsModeFromVersion resp.negotiatedOrDefault.protocolVersion
      ≠ tlsModeFromVersion clientConf.version

/-- **A mismatch is kept from passing just when something else does not pass**: the
deadline passes, an answer of the test is not as it should be, or a CLOSE asks to skip.
No check of the driver reads the version that a wrapper reports. -/
theorem mismatch_not_passed_iff {addresses : Except PyExc (String × String)} {run : CellRun}
    {serverConf clientConf : TlsConfig} {tcpHost : String} {tcpPort : ℤ} {wroot : String}
    {d d' : InteropDriver} {tr : List (Event DriverAns)} {r : Except PyExc ℤ}
    (h : (executeConfiguredCell addresses run serverConf clientConf tcpHost tcpPort wroot).Exec
      d tr r d') :
    (VersionMismatch clientConf tr → r ≠ .ok 0) ↔
      ¬ (VersionMismatch clientConf tr ∧ ¬ TimedOut tr ∧
        Passed serverConf clientConf tcpHost tcpPort tr ∧ ClosesPlain tr) := by
  rw [← executeConfiguredCell_eq_zero_iff h, not_and]

/-- Wrappers of which the client reports TLS 1.2. -/
def fallbackEnv : Prog.Env DriverAns
  | _, .execute .. => .ok { status := .success, outputData := testPayload
                            negotiated := some { protocolVersion := "TLSv1.2" } }
  | _, .waitTcp .. => .ok (true, "")
  | _, .joinWorker => none
  | _, .rejoinWorker => ()
  | _, .workerNotes => []
  | _, .writeLog .. => .ok ()
  | _, .unlink _ => ()

/-- The run of a cell of TLS 1.3 whose client falls back. -/
abbrev fallbackRun : (Except PyExc ℤ × InteropDriver) × List (Event DriverAns) :=
  ((executeConfiguredCell (.ok ("127.0.0.1:15051", "127.0.0.1:15052"))
    { server := "openssl", client := "gnutls", cell := [], debugLogs := true } { version := "1.3" }
    { version := "1.3" } "127.0.0.1" 5555 "/repo").prog {}).exec fallbackEnv []

theorem fallbackRun_exec :
    (executeConfiguredCell (.ok ("127.0.0.1:15051", "127.0.0.1:15052"))
      { server := "openssl", client := "gnutls", cell := [], debugLogs := true }
      { version := "1.3" } { version := "1.3" } "127.0.0.1" 5555 "/repo").Exec {} fallbackRun.2
      fallbackRun.1.1 fallbackRun.1.2 := Eff.exec_run ..

theorem mismatch_not_passed_iff_fallback :
    (VersionMismatch { version := "1.3" } fallbackRun.2 → fallbackRun.1.1 ≠ .ok 0) ↔
      ¬ (VersionMismatch { version := "1.3" } fallbackRun.2 ∧ ¬ TimedOut fallbackRun.2 ∧
        Passed { version := "1.3" } { version := "1.3" } "127.0.0.1" 5555 fallbackRun.2 ∧
        ClosesPlain fallbackRun.2) :=
  mismatch_not_passed_iff fallbackRun_exec

/-- A cell of TLS 1.3 passes with a client that reports TLS 1.2. -/
theorem mismatch_passes :
    VersionMismatch { version := "1.3" } fallbackRun.2 ∧ fallbackRun.1.1 = .ok 0 := by
  have hrun : ((lastClientResponse fallbackRun.2).map fun resp => resp.negotiatedOrDefault)
        = some { protocolVersion := "TLSv1.2" } ∧ fallbackRun.1.1 = .ok 0 := by
    decide +kernel
  refine ⟨?_, hrun.2⟩
  unfold VersionMismatch
  generalize lastClientResponse fallbackRun.2 = last at hrun
  obtain ⟨resp, rfl, hresp⟩ := Option.map_eq_some_iff.mp hrun.1
  refine ⟨resp, rfl, ?_, ?_⟩
  · rw [hresp]
    decide
  · rw [hresp]
    decide

end TlsInterop
