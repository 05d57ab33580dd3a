import TlsInterop.Runner.Cell
import TlsInterop.Runner.Protocol

/-!
# What a cell returns

Every run of a cell has one of two shapes.  Either the worker is alive at the
deadline and the cell is a timeout, or the cell consists of a run of the protocol
of its test followed by CLOSE calls and bookkeeping, and its code is that of the
verdict of the protocol.

## Main definitions

* `isTestCall`, `isClose` — the calls of the test itself, and the CLOSE calls.
* `Auxiliary` — events that are neither calls of the test nor the join.
* `LogsWritten`, `ClosesPlain` — what is assumed of the environment.
* `verdictCode` — the code of a verdict.

## Main results

* `executeConfiguredCell_shape` — the two shapes of a run.
-/

namespace TlsInterop

open Py Effects DriverM InteropDriver

/-- An `ExecuteOperation` of type CLOSE. -/
def isClose : DriverCall → Bool
  | .execute _ request _ => request.type == .close
  | _ => false

/-- A call of the test itself: ESTABLISH, TRANSMIT or the TCP wait. -/
def isTestCall : DriverCall → Bool
  | .execute _ request _ => request.type != .close
  | .waitTcp .. => true
  | _ => false

/-- Events that belong neither to the test nor to the join with the deadline. -/
def Auxiliary (tr : List (Event DriverAns)) : Prop :=
  ∀ e ∈ tr, isTestCall e.1 = false ∧ e.1 ≠ .joinWorker

/-- No debug log failed to be written. -/
def LogsWritten (tr : List (Event DriverAns)) : Prop :=
  ∀ kind server client body ans,
    (⟨.writeLog kind server client body, ans⟩ : Event DriverAns) ∈ tr → ans = .ok ()

/-- No CLOSE was answered by a SUCCESS with a `skip:` message. -/
def ClosesPlain (tr : List (Event DriverAns)) : Prop :=
  ∀ toServer request timeoutS resp,
    (⟨.execute toServer request timeoutS, .ok resp⟩ : Event DriverAns) ∈ tr →
      request.type = .close → resp.isSkip = false

section

variable {tr tr' : List (Event DriverAns)}

theorem Auxiliary.append (h : Auxiliary tr) (h' : Auxiliary tr') : Auxiliary (tr ++ tr') :=
  fun e he => (List.mem_append.mp he).elim (h e) (h' e)

theorem auxiliary_nil : Auxiliary [] := fun _ he => absurd he List.not_mem_nil

theorem auxiliary_singleton {e : Event DriverAns} (h : isTestCall e.1 = false)
    (hj : e.1 ≠ .joinWorker) : Auxiliary [e] := by
  intro e' he'
  rw [List.mem_singleton.mp he']
  exact ⟨h, hj⟩

theorem auxiliary_workerNotes (noted : List String) : Auxiliary [⟨.workerNotes, noted⟩] :=
  auxiliary_singleton rfl nofun

theorem LogsWritten.left (h : LogsWritten (tr ++ tr')) : LogsWritten tr :=
  fun _ _ _ _ _ he => h _ _ _ _ _ (List.mem_append_left _ he)

theorem LogsWritten.right (h : LogsWritten (tr ++ tr')) : LogsWritten tr' :=
  fun _ _ _ _ _ he => h _ _ _ _ _ (List.mem_append_right _ he)

theorem ClosesPlain.left (h : ClosesPlain (tr ++ tr')) : ClosesPlain tr :=
  fun _ _ _ _ he => h _ _ _ _ (List.mem_append_left _ he)

theorem ClosesPlain.right (h : ClosesPlain (tr ++ tr')) : ClosesPlain tr' :=
  fun _ _ _ _ he => h _ _ _ _ (List.mem_append_right _ he)

end

/-! ### Closing -/

section

variable {d d' : InteropDriver} {tr : List (Event DriverAns)}

/-- The skip reason after the answer to a CLOSE. -/
def skipAfter (ans : Except PyExc OperationResponse) (before : Option String) : Option String :=
  match ans with
  | .ok resp => if resp.isSkip then some (skipReason resp.msg) else before
  | .error _ => before

/-- A CLOSE of the cleanup is one call and never raises. -/
theorem exec_closeRole {label : String} {role : Role} {r : Except PyExc Unit}
    (h : (closeRole label role).Exec d tr r d') :
    r = .ok () ∧ ∃ ans, tr = [⟨executeCall .close role {} [], ans⟩] ∧
      d'.lastSkipReason = skipAfter ans d.lastSkipReason := by
  rcases Eff.exec_tryCatch.mp h with ⟨⟨⟩, rfl, hbody⟩ | ⟨e, d₁, tr₁, tr₂, rfl, hbody, hhandle⟩
  · obtain ⟨resp, d₁, tr₁, tr₂, rfl, hcall, hrest⟩ := Eff.exec_bind_ok.mp hbody
    obtain ⟨ans, rfl, hans, rfl⟩ := Eff.exec_invoke.mp hcall
    obtain rfl : ans = .ok resp := hans
    obtain ⟨b, d₂, tr₃, tr₄, rfl, hcheck, hret⟩ := Eff.exec_bind_ok.mp hrest
    obtain ⟨rfl, -, hskip⟩ := exec_checkResponse hcheck
    obtain ⟨rfl, -, rfl⟩ := Eff.exec_pure.mp hret
    exact ⟨rfl, .ok resp, rfl, hskip⟩
  · obtain ⟨rfl, rfl, rfl⟩ := Eff.exec_pure.mp hhandle
    rcases Eff.exec_bind.mp hbody with ⟨e', -, hraise⟩ | ⟨resp, d₁, tr₃, tr₄, rfl, -, hrest⟩
    · obtain ⟨ans, rfl, hans, rfl⟩ := Eff.exec_invoke.mp hraise
      obtain rfl : ans = .error e' := hans
      exact ⟨rfl, .error e', rfl, rfl⟩
    · rcases Eff.exec_bind.mp hrest with ⟨e', -, hraise⟩ | ⟨b, d₂, tr₅, tr₆, rfl, -, hret⟩
      · cases (exec_checkResponse hraise).2.1
      · cases (Eff.exec_pure.mp hret).2.1

/-- The two CLOSE calls of a cleanup. -/
def closeEvents (server client : Except PyExc OperationResponse) : List (Event DriverAns) :=
  [⟨executeCall .close .server {} [], server⟩, ⟨executeCall .close .client {} [], client⟩]

theorem auxiliary_closeEvents (server client : Except PyExc OperationResponse) :
    Auxiliary (closeEvents server client) :=
  have hclose : ∀ role (ans : Except PyExc OperationResponse),
      Auxiliary [⟨executeCall .close role {} [], ans⟩] :=
    fun _ _ => auxiliary_singleton rfl nofun
  (hclose .server server).append (hclose .client client)

/-- A cleanup is the CLOSE of the server, then the CLOSE of the client, whatever they answer. -/
theorem exec_cleanup {r : Except PyExc Unit} (h : cleanup.Exec d tr r d') :
    r = .ok () ∧ ∃ server client, tr = closeEvents server client ∧
      d'.lastSkipReason = skipAfter client (skipAfter server d.lastSkipReason) := by
  rcases Eff.exec_bind.mp h with ⟨e, -, hraise⟩ | ⟨⟨⟩, d₁, tr₁, tr₂, rfl, hserver, hclient⟩
  · cases (exec_closeRole hraise).1
  · obtain ⟨-, server, rfl, hskip₁⟩ := exec_closeRole hserver
    obtain ⟨rfl, client, rfl, hskip₂⟩ := exec_closeRole hclient
    exact ⟨rfl, server, client, rfl, hskip₂.trans (by rw [hskip₁])⟩

/-- Plain answers to the CLOSE calls leave the skip reason. -/
theorem skipAfter_of_closesPlain {server client : Except PyExc OperationResponse}
    (h : ClosesPlain (closeEvents server client)) (before : Option String) :
    skipAfter client (skipAfter server before) = before := by
  have hplain : ∀ role (ans : Except PyExc OperationResponse),
      (⟨executeCall .close role {} [], ans⟩ : Event DriverAns) ∈ closeEvents server client →
      ∀ before, skipAfter ans before = before := by
    intro role ans hmem before
    cases ans with
    | error e => rfl
    | ok resp => rw [skipAfter, h _ _ _ resp hmem rfl, if_neg Bool.false_ne_true]
  rw [hplain .server server List.mem_cons_self,
    hplain .client client (List.mem_cons_of_mem _ List.mem_cons_self)]

/-- A CLOSE of the watchdog never raises. -/
theorem exec_emergencyCloseRole {label : String} {role : Role} {r : Except PyExc Unit}
    (h : (emergencyCloseRole label role).Exec d tr r d') : r = .ok () ∧ Auxiliary tr := by
  rcases Eff.exec_tryCatch.mp h with ⟨⟨⟩, rfl, hbody⟩ | ⟨e, d₁, tr₁, tr₂, rfl, hbody, hhandle⟩
  · rcases Eff.exec_bind.mp hbody with ⟨e, he, -⟩ | ⟨resp, d₁, tr₁, tr₂, rfl, hcall, hrest⟩
    · cases he
    obtain ⟨ans, rfl, -, rfl⟩ := Eff.exec_invoke.mp hcall
    obtain ⟨noted, tr₃, rfl, hnote⟩ := exec_catchUp_bind.mp hrest
    obtain ⟨rfl, -, -⟩ := exec_note hnote
    refine ⟨rfl, Auxiliary.append ?_ (auxiliary_workerNotes noted)⟩
    exact auxiliary_singleton rfl nofun
  · obtain ⟨noted, tr₃, rfl, hnote⟩ := exec_catchUp_bind.mp hhandle
    obtain ⟨rfl, rfl, -⟩ := exec_note hnote
    rcases Eff.exec_bind.mp hbody with ⟨e', -, hraise⟩ | ⟨resp, d₁, tr₄, tr₅, rfl, -, hrest⟩
    · obtain ⟨ans, rfl, -, rfl⟩ := Eff.exec_invoke.mp hraise
      refine ⟨rfl, Auxiliary.append ?_ (auxiliary_workerNotes noted)⟩
      exact auxiliary_singleton rfl nofun
    · obtain ⟨noted', tr₆, rfl, hresp⟩ := exec_catchUp_bind.mp hrest
      cases (exec_note hresp).2.1

theorem exec_emergencyCleanup {r : Except PyExc Unit} (h : emergencyCleanup.Exec d tr r d') :
    r = .ok () ∧ Auxiliary tr := by
  rcases Eff.exec_bind.mp h with ⟨e, -, hraise⟩ | ⟨⟨⟩, d₁, tr₁, tr₂, rfl, hserver, hclient⟩
  · cases (exec_emergencyCloseRole hraise).1
  · obtain ⟨rfl, haux⟩ := exec_emergencyCloseRole hclient
    exact ⟨rfl, (exec_emergencyCloseRole hserver).2.append haux⟩

end

/-! ### Bookkeeping -/

/-- The log of a cell has a text: its keys can be put in order. -/
def CellRun.LogText (run : CellRun) : Prop := run.debugLogs = true → ∃ t, cellText run.cell = .ok t

section

variable {run : CellRun} {d d' : InteropDriver} {tr : List (Event DriverAns)}

theorem failLogBody_eq_ok (h : ∃ t, cellText run.cell = .ok t) (kind : String)
    (d : InteropDriver) : ∃ body, failLogBody kind run d = .ok body := by
  obtain ⟨t, ht⟩ := h
  unfold failLogBody
  rw [ht]
  by_cases hcell : run.cell ≠ []
  · rw [if_pos hcell]
    exact ⟨_, rfl⟩
  · rw [if_neg hcell]
    exact ⟨_, rfl⟩

/-- Saving the log does not raise when logs can be written, and changes nothing. -/
theorem exec_saveCellDebugLog {kind : String} {r : Except PyExc Unit}
    (h : (saveCellDebugLog run kind).Exec d tr r d') (htext : run.LogText)
    (hlogs : LogsWritten tr) : r = .ok () ∧ Auxiliary tr ∧ d' = d := by
  unfold saveCellDebugLog at h
  cases hdebug : run.debugLogs with
  | false =>
    rw [hdebug] at h
    obtain ⟨rfl, rfl, rfl⟩ := Eff.exec_pure.mp h
    exact ⟨rfl, auxiliary_nil, rfl⟩
  | true =>
    rw [hdebug] at h
    rcases Eff.exec_bind.mp h with ⟨e, -, hraise⟩ | ⟨d₁, d₂, tr₁, tr₂, rfl, hget, hrest⟩
    · cases (Eff.exec_getState.mp hraise).2.1
    obtain ⟨rfl, -, rfl⟩ := Eff.exec_getState.mp hget
    obtain ⟨body, hbody⟩ := failLogBody_eq_ok (htext hdebug) kind d₁
    rcases Eff.exec_bind.mp hrest with ⟨e, -, hraise⟩ | ⟨body', d₂, tr₃, tr₄, rfl, htext', hwrite⟩
    · rw [hbody] at hraise
      cases (Eff.exec_ofExcept.mp hraise).2.1
    · obtain ⟨rfl, -, rfl⟩ := Eff.exec_ofExcept.mp htext'
      obtain ⟨ans, rfl, hans, rfl⟩ := Eff.exec_invoke.mp hwrite
      obtain rfl : ans = r := hans
      exact ⟨hlogs _ _ _ _ _ (List.mem_singleton_self _), auxiliary_singleton rfl nofun, rfl⟩

/-- The last failure of a cell is noted beside what its worker notes, and the log saved. -/
theorem exec_saveLast {label summary kind : String} {rc : ℤ} {r : Except PyExc ℤ}
    (h : (do
      catchUp
      noteFailure label summary
      catchUp
      saveCellDebugLog run kind
      return rc : DriverM ℤ).Exec d tr r d') (htext : run.LogText)
    (hlogs : LogsWritten tr) : r = .ok rc ∧ Auxiliary tr := by
  obtain ⟨noted, tr₁, rfl, hfail⟩ := exec_catchUp_bind.mp h
  rcases Eff.exec_bind.mp hfail with ⟨e, -, hraise⟩ | ⟨⟨⟩, d₁, tr₂, tr₃, rfl, hnote, hlast⟩
  · cases (exec_note hraise).2.1
  obtain ⟨rfl, -, -⟩ := exec_note hnote
  obtain ⟨noted', tr₄, rfl, hrest⟩ := exec_catchUp_bind.mp hlast
  have hlogs₄ : LogsWritten tr₄ := fun _ _ _ _ _ he =>
    hlogs _ _ _ _ _ (List.mem_cons_of_mem _ (List.mem_cons_of_mem _ he))
  rcases Eff.exec_bind.mp hrest with ⟨e, -, hraise⟩ | ⟨⟨⟩, d₂, tr₅, tr₆, rfl, hsave, hret⟩
  · cases (exec_saveCellDebugLog hraise htext hlogs₄).1
  · obtain ⟨-, haux, -⟩ := exec_saveCellDebugLog hsave htext hlogs₄.left
    obtain ⟨rfl, rfl, -⟩ := Eff.exec_pure.mp hret
    exact ⟨rfl, (auxiliary_workerNotes noted).append
      ((auxiliary_workerNotes noted').append (haux.append auxiliary_nil))⟩

/-- A cell whose log is saved last returns its code, if anything. -/
theorem code_of_saveLast {label summary kind : String} {rc rc' : ℤ} (h : (do
      catchUp
      noteFailure label summary
      catchUp
      saveCellDebugLog run kind
      return rc : DriverM ℤ).Exec d tr (.ok rc') d') : rc = rc' := by
  obtain ⟨_, _, _, _, rfl, -, h⟩ := Eff.exec_bind_ok.mp h
  obtain ⟨_, _, _, _, rfl, -, h⟩ := Eff.exec_bind_ok.mp h
  obtain ⟨_, _, _, _, rfl, -, h⟩ := Eff.exec_bind_ok.mp h
  obtain ⟨_, _, _, _, rfl, -, h⟩ := Eff.exec_bind_ok.mp h
  exact Except.ok.inj (Eff.exec_pure.mp h).2.1

/-- The code of a cell whose worker has ended. -/
def outcomeCode (ok : Option Bool) (skip : Option String) : ℤ :=
  if skip.any (· ≠ "") then exitSkip else if ok ≠ some true then 1 else 0

theorem exec_processCellOutcome {ok : Option Bool} {timedOut : Bool} {r : Except PyExc ℤ}
    (h : (processCellOutcome run ok timedOut).Exec d tr r d') (htext : run.LogText)
    (hlogs : LogsWritten tr) :
    r = .ok (if timedOut then exitTimeout else outcomeCode ok d.lastSkipReason) ∧
      Auxiliary tr := by
  unfold processCellOutcome at h
  cases timedOut with
  | true =>
    exact exec_saveLast h htext hlogs
  | false =>
    rcases Eff.exec_bind.mp h with ⟨e, -, hraise⟩ | ⟨d₁, d₂, tr₁, tr₂, rfl, hget, hrest⟩
    · cases (Eff.exec_getState.mp hraise).2.1
    obtain ⟨rfl, hd₁, rfl⟩ := Eff.exec_getState.mp hget
    cases hd₁
    unfold outcomeCode
    -- a reason to skip comes before the result of the test
    by_cases hskip : d.lastSkipReason.any (· ≠ "") = true
    · rw [if_pos hskip] at hrest
      obtain ⟨rfl, rfl, -⟩ := Eff.exec_pure.mp hrest
      rw [if_neg Bool.false_ne_true, if_pos hskip]
      exact ⟨rfl, auxiliary_nil⟩
    · rw [if_neg hskip] at hrest
      by_cases hok : ok ≠ some true
      · rw [if_pos hok] at hrest
        rcases Eff.exec_bind.mp hrest with ⟨e, -, hraise⟩ | ⟨⟨⟩, d₃, tr₃, tr₄, rfl, hsave, hret⟩
        · cases (exec_saveCellDebugLog hraise htext hlogs).1
        · obtain ⟨-, haux, -⟩ := exec_saveCellDebugLog hsave htext hlogs.right.left
          obtain ⟨rfl, rfl, -⟩ := Eff.exec_pure.mp hret
          rw [if_neg Bool.false_ne_true, if_neg hskip, if_pos hok]
          exact ⟨rfl, haux.append auxiliary_nil⟩
      · rw [if_neg hok] at hrest
        obtain ⟨rfl, rfl, -⟩ := Eff.exec_pure.mp hrest
        rw [if_neg Bool.false_ne_true, if_neg hskip, if_neg hok]
        exact ⟨rfl, auxiliary_nil⟩

theorem exec_removeTlsSessionArtifactFiles {root : String} {r : Except PyExc Unit}
    (h : (removeTlsSessionArtifactFiles root).Exec d tr r d') : r = .ok () ∧ Auxiliary tr := by
  unfold removeTlsSessionArtifactFiles at h
  dsimp only at h
  split at h
  · rcases Eff.exec_bind.mp h with ⟨e, -, hraise⟩ | ⟨u, d₁, tr₁, tr₂, rfl, hticket, hearly⟩
    · obtain ⟨ans, -, he, -⟩ := Eff.exec_call.mp hraise
      cases he
    · obtain ⟨_, rfl, -, -⟩ := Eff.exec_call.mp hticket
      obtain ⟨_, rfl, rfl, -⟩ := Eff.exec_call.mp hearly
      have hunlink : ∀ path ans, Auxiliary [⟨.unlink path, ans⟩] :=
        fun _ _ => auxiliary_singleton rfl nofun
      exact ⟨rfl, (hunlink _ _).append (hunlink _ _)⟩
  · obtain ⟨rfl, rfl, -⟩ := Eff.exec_pure.mp h
    exact ⟨rfl, auxiliary_nil⟩

end

/-! ### The shapes of a run -/

/-- The code of a verdict. -/
def verdictCode : Option Stop → ℤ
  | none => 0
  | some (.raised _) => 1
  | some .skipped => exitSkip
  | some .failed => 1

/-- A run of a cell: a timeout, or a run of the protocol of its test. -/
inductive CellShape (cs : List (CheckedCall DriverAns Stop)) : List (Event DriverAns) → ℤ → Prop
  | timeout {noted : List String} {tr : List (Event DriverAns)} (haux : Auxiliary tr) :
      CellShape cs (⟨.joinWorker, some noted⟩ :: tr) exitTimeout
  | ended {tr tr' : List (Event DriverAns)} {v : Option Stop} (hrun : CheckedCall.Runs cs tr v)
      (haux : Auxiliary tr') : CellShape cs (⟨.joinWorker, none⟩ :: (tr ++ tr')) (verdictCode v)

section

variable {serverConf clientConf : TlsConfig} {tcpHost : String} {tcpPort : ℤ}
  {d d' : InteropDriver} {tr : List (Event DriverAns)}

theorem Reflects.of_skip_eq {v : Option Stop} {r : Except PyExc Bool} (h : Reflects v r d)
    (hskip : d'.lastSkipReason = d.lastSkipReason) : Reflects v r d' := by
  rcases v with _ | ⟨e⟩ | _ | _
  · exact ⟨h.1, hskip.trans h.2⟩
  · exact ⟨h.1, hskip.trans h.2⟩
  · obtain ⟨hr, reason, hne, hreason⟩ := h
    exact ⟨hr, reason, hne, hskip.trans hreason⟩
  · exact ⟨h.1, hskip.trans h.2⟩

/-- A test is a run of its protocol, then the CLOSE calls. -/
theorem exec_runTestWithConfigs {r : Except PyExc Bool}
    (h : (runTestWithConfigs serverConf clientConf tcpHost tcpPort).Exec d tr r d') :
    ∃ tr₁ server client v d₁, tr = tr₁ ++ closeEvents server client ∧
      CheckedCall.Runs (protocol serverConf clientConf tcpHost tcpPort) tr₁ v ∧
      Reflects v r d₁ ∧
      d'.lastSkipReason = skipAfter client (skipAfter server d₁.lastSkipReason) := by
  rw [runTestWithConfigs, Eff.exec_modifyState_bind] at h
  obtain ⟨r₁, r₂, d₁, tr₁, tr₂, rfl, rfl, hprotocol, hcleanup⟩ := Eff.exec_finallyDo.mp h
  obtain ⟨v, hrun, hv⟩ := runProtocol_implements serverConf clientConf tcpHost tcpPort _ _ _ _ rfl
    hprotocol
  obtain ⟨rfl, server, client, rfl, hskip⟩ := exec_cleanup hcleanup
  refine ⟨tr₁, server, client, v, d₁, rfl, hrun, ?_, hskip⟩
  rcases v with _ | ⟨e⟩ | _ | _ <;> exact hv

/-- What is left of the verdict of a test after its worker has ended. -/
theorem outcomeCode_of_reflects {v : Option Stop} {ok : Bool} (h : Reflects v (.ok ok) d) :
    outcomeCode (some ok) d.lastSkipReason = verdictCode v := by
  rcases v with _ | ⟨e⟩ | _ | _
  · obtain ⟨hr, hskip⟩ := h
    cases hr
    rw [hskip]
    rfl
  · cases h.1
  · obtain ⟨-, reason, hne, hskip⟩ := h
    rw [outcomeCode, hskip, if_pos (by simpa using hne)]
    rfl
  · obtain ⟨hr, hskip⟩ := h
    cases hr
    rw [hskip]
    rfl

/-- The worker thread: a timeout, or the test and what it ended with. -/
theorem exec_runCellWorkerThread {r : Except PyExc (Option Bool × Bool × Option PyExc)}
    (h : (runCellWorkerThread serverConf clientConf tcpHost tcpPort).Exec d tr r d') :
    (r = .ok (none, true, none) ∧ ∃ noted tr', tr = ⟨.joinWorker, some noted⟩ :: tr' ∧
      Auxiliary tr') ∨
    ∃ tr₁ server client v d₁,
      tr = ⟨.joinWorker, none⟩ :: (tr₁ ++ closeEvents server client) ∧
      CheckedCall.Runs (protocol serverConf clientConf tcpHost tcpPort) tr₁ v ∧
      d'.lastSkipReason = skipAfter client (skipAfter server d₁.lastSkipReason) ∧
      ((∃ ok, r = .ok (some ok, false, none) ∧ Reflects v (.ok ok) d₁) ∨
        ∃ e, r = .ok (none, false, some e) ∧ v = some (.raised e)) := by
  rcases Eff.exec_bind.mp h with ⟨e, -, hraise⟩ | ⟨ans, d₁, tr₁, tr₂, rfl, hjoin, hrest⟩
  · obtain ⟨ans, -, he, -⟩ := Eff.exec_call.mp hraise
    cases he
  obtain ⟨_, rfl, hans, rfl⟩ := Eff.exec_call.mp hjoin
  cases hans
  cases ans with
  | some noted =>
    -- the worker is alive: CLOSE both roles, and wait once more
    left
    rw [Eff.exec_modifyState_bind] at hrest
    rcases Eff.exec_bind.mp hrest with ⟨e, -, hraise⟩ | ⟨⟨⟩, d₃, tr₅, tr₆, rfl, hclosed, hrest⟩
    · cases (exec_emergencyCleanup hraise).1
    obtain ⟨-, haux⟩ := exec_emergencyCleanup hclosed
    rcases Eff.exec_bind.mp hrest with ⟨e, -, hraise⟩ | ⟨u, d₄, tr₇, tr₈, rfl, hrejoin, hret⟩
    · obtain ⟨ans, -, he, -⟩ := Eff.exec_call.mp hraise
      cases he
    obtain ⟨_, rfl, -, rfl⟩ := Eff.exec_call.mp hrejoin
    obtain ⟨rfl, rfl, rfl⟩ := Eff.exec_pure.mp hret
    exact ⟨rfl, noted, _, rfl, haux.append (auxiliary_singleton rfl nofun)⟩
  | none =>
    right
    -- the worker has ended: with the value of the test, or with what it raised
    rcases Eff.exec_tryCatch.mp hrest with
      ⟨a, rfl, hbody⟩ | ⟨e, d₂, tr₃, tr₄, rfl, hbody, hhandle⟩
    · obtain ⟨ok, d₂, tr₃, tr₄, rfl, htest, hret⟩ := Eff.exec_bind_ok.mp hbody
      obtain ⟨tr₅, server, client, v, d₃, rfl, hrun, hv, hskip⟩ := exec_runTestWithConfigs htest
      obtain ⟨rfl, ha, rfl⟩ := Eff.exec_pure.mp hret
      cases ha
      exact ⟨tr₅, server, client, v, d₃, by simp, hrun, hskip, .inl ⟨ok, rfl, hv⟩⟩
    · obtain ⟨rfl, rfl, rfl⟩ := Eff.exec_pure.mp hhandle
      rcases Eff.exec_bind.mp hbody with ⟨e', he, htest⟩ | ⟨ok, d₂, tr₅, tr₆, rfl, -, hret⟩
      · cases he
        obtain ⟨tr₅, server, client, v, d₃, rfl, hrun, hv, hskip⟩ := exec_runTestWithConfigs htest
        refine ⟨tr₅, server, client, v, d₃, by simp, hrun, hskip, .inr ⟨e, rfl, ?_⟩⟩
        rcases v with _ | ⟨e'⟩ | _ | _
        · cases hv.1
        · rw [Except.error.inj hv.1]
        · cases hv.1
        · cases hv.1
      · cases (Eff.exec_pure.mp hret).2.1

theorem CellShape.append {cs : List (CheckedCall DriverAns Stop)} {tr' : List (Event DriverAns)}
    {rc : ℤ} (h : CellShape cs tr rc) (haux : Auxiliary tr') : CellShape cs (tr ++ tr') rc := by
  cases h with
  | timeout haux₁ => exact .timeout (haux₁.append haux)
  | ended hrun haux₁ =>
    rw [List.cons_append, List.append_assoc]
    exact .ended hrun (haux₁.append haux)

theorem exec_newDriver {addresses : String × String} {r : Except PyExc Unit}
    (h : (newDriver (.ok addresses)).Exec d tr r d') : tr = [] ∧ r = .ok () := by
  rcases Eff.exec_bind.mp h with ⟨e, -, hraise⟩ | ⟨p, d₂, tr₃, tr₄, rfl, haddr, hset⟩
  · cases (Eff.exec_ofExcept.mp hraise).2.1
  · obtain ⟨rfl, -, -⟩ := Eff.exec_ofExcept.mp haddr
    obtain ⟨rfl, rfl, -⟩ := Eff.exec_modifyState.mp hset
    exact ⟨rfl, rfl⟩

/-- The body of the `try` statement: it returns, or raises what the worker raised. -/
theorem exec_runConfiguredCell {addresses : String × String} {run : CellRun} {r : Except PyExc ℤ}
    (h : (runConfiguredCell (.ok addresses) run serverConf clientConf tcpHost tcpPort).Exec d tr r d')
    (htext : run.LogText) (hlogs : LogsWritten tr) (hclose : ClosesPlain tr) :
    (∃ rc, r = .ok rc ∧ CellShape (protocol serverConf clientConf tcpHost tcpPort) tr rc) ∨
    ∃ e, r = .error e ∧ CellShape (protocol serverConf clientConf tcpHost tcpPort) tr 1 := by
  rcases Eff.exec_bind.mp h with ⟨e, -, hraise⟩ | ⟨⟨⟩, d₁, tr₁, tr₂, rfl, hnew, hrest⟩
  · cases (exec_newDriver hraise).2
  obtain ⟨rfl, -⟩ := exec_newDriver hnew
  rcases Eff.exec_bind.mp hrest with ⟨e, -, hraise⟩ | ⟨p, d₂, tr₃, tr₄, rfl, hworker, hrest⟩
  · -- joining the worker does not raise
    rcases exec_runCellWorkerThread hraise with
      ⟨hr, -⟩ | ⟨-, -, -, -, -, -, -, -, ⟨ok, hr, -⟩ | ⟨e', hr, -⟩⟩
    · cases hr
    · cases hr
    · cases hr
  rw [List.nil_append] at *
  rcases exec_runCellWorkerThread hworker with ⟨hp, noted, tr₅, rfl, haux⟩ |
    ⟨tr₅, server, client, v, d₃, rfl, hrun, hskip, ⟨ok, hp, hv⟩ | ⟨e, hp, rfl⟩⟩
  · -- the timeout
    cases hp
    obtain ⟨rfl, haux'⟩ := exec_processCellOutcome hrest htext hlogs.right
    exact .inl ⟨_, rfl, (CellShape.timeout haux).append haux'⟩
  · -- the worker has returned
    cases hp
    obtain ⟨rfl, haux'⟩ := exec_processCellOutcome hrest htext hlogs.right
    refine .inl ⟨_, rfl, ?_⟩
    have hplain : ClosesPlain (closeEvents server client) := fun t q s resp he =>
      hclose.left t q s resp (List.mem_cons_of_mem _ (List.mem_append_right _ he))
    rw [if_neg Bool.false_ne_true, outcomeCode_of_reflects
      (hv.of_skip_eq (hskip.trans (skipAfter_of_closesPlain hplain _)))]
    exact (CellShape.ended hrun (auxiliary_closeEvents server client)).append haux'
  · -- the worker has raised
    cases hp
    obtain ⟨rfl, rfl, -⟩ := Eff.exec_throw.mp hrest
    exact .inr ⟨e, rfl,
      (CellShape.ended hrun (auxiliary_closeEvents server client)).append auxiliary_nil⟩

/-- The handler of the `try` statement returns a failure. -/
theorem exec_failConfiguredCell {addresses : String × String} {run : CellRun} {e : PyExc}
    {r : Except PyExc ℤ} (h : (failConfiguredCell (.ok addresses) run e).Exec d tr r d')
    (htext : run.LogText) (hlogs : LogsWritten tr) : r = .ok 1 ∧ Auxiliary tr :=
  exec_saveLast h htext hlogs

/-- **The shapes of a run of a cell** whose stubs can be created and whose logs
can be written. -/
theorem executeConfiguredCell_shape {addresses : String × String} {run : CellRun}
    {wroot : String} {r : Except PyExc ℤ}
    (h : (executeConfiguredCell (.ok addresses) run serverConf clientConf tcpHost tcpPort
      wroot).Exec d tr r d') (htext : run.LogText) (hlogs : LogsWritten tr)
    (hclose : ClosesPlain tr) :
    ∃ rc, r = .ok rc ∧ CellShape (protocol serverConf clientConf tcpHost tcpPort) tr rc := by
  obtain ⟨r₁, r₂, d₁, tr₁, tr₂, rfl, rfl, hbody, hremove⟩ := Eff.exec_finallyDo.mp h
  obtain ⟨rfl, hauxRemove⟩ := exec_removeTlsSessionArtifactFiles hremove
  rcases Eff.exec_tryCatch.mp hbody with
    ⟨rc, rfl, hrun⟩ | ⟨e, d₂, tr₃, tr₄, rfl, hraise, hhandle⟩
  · rcases exec_runConfiguredCell hrun htext hlogs.left hclose.left with
      ⟨rc', hr, hshape⟩ | ⟨e, hr, -⟩
    · cases hr
      exact ⟨_, rfl, hshape.append hauxRemove⟩
    · cases hr
  · obtain ⟨rfl, hauxHandle⟩ := exec_failConfiguredCell hhandle htext hlogs.left.right
    rcases exec_runConfiguredCell hraise htext hlogs.left.left hclose.left.left with
      ⟨rc', hr, -⟩ | ⟨e', -, hshape⟩
    · cases hr
    · exact ⟨1, rfl, (hshape.append hauxHandle).append hauxRemove⟩

end

end TlsInterop
