import TlsInterop.Core.SuiteExclusivity
import TlsInterop.Runner.EveryCell
import TlsInterop.Runner.Teardown
import TlsInterop.Runner.Verdict

/-!
# The exit status of a run

The whole of `main.py`: the suite and the arguments, the matrix, the certificates, the
sessions with the cells in them, and the exit status that the results are summed up
in.  A status of 0 stands for tests that passed: a combination with a green result was
skipped before it was run, or its cell was run in a session, and the calls of that run
are those of a test that passed or was skipped.

## Main definitions

* `MainHost.plan` — what the arguments are made into, before any call is made.
* `main` — the program, up to what it prints.
* `CellsRun` — the answers of the cells, in the sessions of the run.
* `Green` — what a green result of a combination stands for.

## Main results

* `green_run` — a run that exits with 0 has tested or skipped every combination.
* `attached_main_untouched` — a run that is planned with `attach` touches no process.
* `skipped_main` — a matrix whose combinations are all skipped starts nothing.
-/

namespace TlsInterop

open Py Effects DriverM InteropDriver

/-! ### The program -/

/-- What `main` finds on its host: the repository, `os.environ`, the number of processors,
and the suite files, or what reading one raises. -/
structure MainHost where
  repo : Repo
  environ : Dict String String := []
  cpuCount : Option ℕ := none
  suiteFile : String → Except PyExc SuiteFile

/-- What the arguments are made into: a list to print, or a matrix to run. -/
inductive Plan
  | listed (code : ℤ)
  | matrix (run : MatrixRun)

/-- `_handle_list_modes`, without what it prints. -/
def handleListModes (args : Args) : Option ℤ :=
  if args.boolAttr "list_wrappers" then some 0
  else if args.boolAttr "list_options" then some 0
  else none

namespace MainHost

variable (host : MainHost)

/-- `_apply_suite_if_requested`. -/
def applySuiteIfRequested (args : Args) : Except PyExc Args := do
  enforceSuiteCliExclusivity args
  let path := args.getattrText "suite"
  if path = "" then return args
  applySuiteFile args path (← host.suiteFile path)

/-- `main` up to the matrix. -/
def plan (args : Args) : Except PyExc Plan := do
  let args ← host.applySuiteIfRequested args
  match handleListModes args with
  | some code => return .listed code
  | none =>
    let args ← validateCliArguments host.cpuCount args
    validateRunArgs args
    let built ← buildMatrixCombos host.repo args host.repo.discoverWrapperIds
    return .matrix { repo := host.repo, axisKeys := built.1, args, combos := built.2 }

/-- What the sessions of a run find. -/
def runHost (run : MatrixRun) : RunHost where
  environ := host.environ
  verbose := run.args.boolAttr "verbose"
  attach := run.args.boolAttr "attach"

end MainHost

/-- `_print_matrix_results`, without what it prints. -/
def matrixExitStatus (results : List (String × ℤ)) : ℤ :=
  if results.all fun r => r.2 == 0 || r.2 == exitSkip then 0 else 1

/-- The exceptions `main` reports. -/
def PyExc.reported (e : PyExc) : Bool :=
  [ExcClass.valueError, .timeoutError, .calledProcessError, .runtimeError].contains e.cls

/-- `main` from the certificates on. -/
def executePlanned (host : MainHost) (run : MatrixRun) : SessionM ℤ := do
  let backends ← Eff.ofExcept (run.requiredBackends host.repo.discoverWrapperIds)
  let jobs ← Eff.ofExcept (run.args.intAttr "jobs")
  let results ← run.executeMatrixExecution (host.runHost run) backends jobs
  return matrixExitStatus results

/-- `main` from the matrix on. -/
def runMatrix (host : MainHost) (run : MatrixRun) : SessionM ℤ := do
  if run.combos ≠ [] then Eff.invoke SessionCall.ensureCerts id
  executePlanned host run

/-- `main`. -/
def main (host : MainHost) (args : Args) : SessionM ℤ :=
  tryCatch
    (do
      match ← Eff.ofExcept (host.plan args) with
      | .listed code => return code
      | .matrix run => runMatrix host run)
    fun e => if e.reported then return 2 else throw e

/-! ### Green cells -/

section

variable {serverConf clientConf : TlsConfig} {tcpHost : String} {tcpPort : ℤ} {cellRun : CellRun}
  {addresses : Except PyExc (String × String)} {wroot : String} {d d' : InteropDriver}
  {tr : List (Event DriverAns)} {rc : ℤ}

/-- A code that is no failure. -/
abbrev IsGreen (rc : ℤ) : Prop := rc = 0 ∨ rc = exitSkip

/-- A green outcome is found without a call. -/
theorem green_of_processCellOutcome {ok : Option Bool} {timedOut : Bool}
    (h : (processCellOutcome cellRun ok timedOut).Exec d tr (.ok rc) d') (hgreen : IsGreen rc) :
    timedOut = false ∧ tr = [] ∧ rc = outcomeCode ok d.lastSkipReason := by
  have hred : rc ≠ exitTimeout ∧ rc ≠ 1 := by
    rcases hgreen with rfl | rfl <;> decide
  unfold processCellOutcome at h
  cases timedOut with
  | true =>
    exact absurd (code_of_saveLast h).symm hred.1
  | false =>
    refine ⟨rfl, ?_⟩
    have hbody := Eff.exec_getState_bind.mp h
    unfold outcomeCode
    by_cases hskip : d.lastSkipReason.any (· ≠ "") = true
    · rw [if_pos hskip] at hbody
      obtain ⟨rfl, hrc, -⟩ := Eff.exec_pure.mp hbody
      rw [if_pos hskip]
      exact ⟨rfl, (Except.ok.inj hrc).symm⟩
    · rw [if_neg hskip] at hbody
      rw [if_neg hskip]
      by_cases hok : ok ≠ some true
      · rw [if_pos hok] at hbody
        obtain ⟨_, d₁, tr₁, tr₂, rfl, -, hret⟩ := Eff.exec_bind_ok.mp hbody
        exact absurd (Except.ok.inj (Eff.exec_pure.mp hret).2.1).symm hred.2
      · rw [if_neg hok] at hbody
        obtain ⟨rfl, hrc, -⟩ := Eff.exec_pure.mp hbody
        rw [if_neg hok]
        exact ⟨rfl, (Except.ok.inj hrc).symm⟩

/-- A test that did not succeed has no code 0. -/
theorem outcomeCode_false (skip : Option String) : outcomeCode (some false) skip ≠ 0 := by
  unfold outcomeCode
  split
  · decide
  · decide

/-- A green run of the body of a cell: the protocol of the test, and the CLOSE calls. -/
theorem shape_of_runConfiguredCell
    (h : (runConfiguredCell addresses cellRun serverConf clientConf tcpHost tcpPort).Exec d tr
      (.ok rc) d') (hgreen : IsGreen rc) :
    ∃ tr₁ server client v ok d₁, tr = ⟨.joinWorker, none⟩ :: (tr₁ ++ closeEvents server client) ∧
      CheckedCall.Runs (protocol serverConf clientConf tcpHost tcpPort) tr₁ v ∧
      Reflects v (.ok ok) d₁ ∧
      rc = outcomeCode (some ok) (skipAfter client (skipAfter server d₁.lastSkipReason)) := by
  obtain ⟨⟨⟩, d₁, tr₁, tr₂, rfl, hnew, hrest⟩ := Eff.exec_bind_ok.mp h
  obtain ⟨_, d₂, tr₃, tr₄, rfl, haddr, hset⟩ := Eff.exec_bind_ok.mp hnew
  obtain ⟨rfl, -, -⟩ := Eff.exec_ofExcept.mp haddr
  obtain ⟨rfl, -, -⟩ := Eff.exec_modifyState.mp hset
  obtain ⟨⟨ok, timedOut, exc⟩, d₃, tr₅, tr₆, rfl, hworker, hout⟩ := Eff.exec_bind_ok.mp hrest
  cases exc with
  | some e => cases (Eff.exec_throw.mp hout).2.1
  | none =>
  obtain ⟨rfl, rfl, hcode⟩ := green_of_processCellOutcome hout hgreen
  rcases exec_runCellWorkerThread hworker with ⟨hp, -⟩ |
    ⟨tr₇, server, client, v, d₄, rfl, hrun, hskip, ⟨ok', hp, hv⟩ | ⟨e, hp, -⟩⟩
  · cases hp
  · cases hp
    exact ⟨tr₇, server, client, v, ok', d₄, by simp, hrun, hv, by rw [hcode, hskip]⟩
  · cases hp

/-- The code 0 is that of a protocol that went through. -/
theorem eq_none_of_outcomeCode {v : Option Stop} {ok : Bool} {skip : Option String}
    (hv : Reflects v (.ok ok) d) (h : outcomeCode (some ok) skip = 0) : v = none := by
  rcases v with _ | ⟨e⟩ | _ | _
  · rfl
  · cases hv.1
  · cases hv.1
    exact absurd h (outcomeCode_false _)
  · cases hv.1
    exact absurd h (outcomeCode_false _)

/-- **What a green code of the body of a cell stands for.** -/
theorem green_of_runConfiguredCell
    (h : (runConfiguredCell addresses cellRun serverConf clientConf tcpHost tcpPort).Exec d tr
      (.ok rc) d') (hgreen : IsGreen rc) :
    (rc = 0 → ∀ tr', Auxiliary tr' → Passed serverConf clientConf tcpHost tcpPort (tr ++ tr')) ∧
      (rc = exitSkip → ∀ tr', Auxiliary tr' → Skipped (tr ++ tr') ∨ ¬ ClosesPlain (tr ++ tr')) := by
  obtain ⟨tr₁, server, client, v, ok, d₁, rfl, hrun, hv, hcode⟩ := shape_of_runConfiguredCell h hgreen
  have hsound := soundStep_protocol serverConf clientConf tcpHost tcpPort
  have haux := auxiliary_closeEvents server client
  -- the calls after the test are no part of it
  have htrace : ∀ tr', Auxiliary tr' → testEvents ((⟨.joinWorker, none⟩ ::
      (tr₁ ++ closeEvents server client)) ++ tr') = tr₁ := by
    intro tr' haux'
    rw [List.cons_append, List.append_assoc]
    exact testEvents_ended hsound hrun (haux.append haux')
  refine ⟨fun hzero tr' haux' => ?_, fun hexit tr' haux' => ?_⟩
  · -- the test was told to have succeeded
    rw [passed_iff hrun (htrace tr' haux')]
    exact eq_none_of_outcomeCode hv (hcode.symm.trans hzero)
  · rw [skipped_iff hsound hrun (htrace tr' haux')]
    by_contra hneither
    obtain ⟨hv', hplain⟩ := not_or.mp hneither
    rw [not_not] at hplain
    have hcloses : ClosesPlain (closeEvents server client) := fun t q s resp he =>
      hplain t q s resp (List.mem_append_left _ (List.mem_cons_of_mem _
        (List.mem_append_right _ he)))
    rw [skipAfter_of_closesPlain hcloses, hexit] at hcode
    -- without a reason to skip, a skip code comes from a CLOSE
    have hnone : d₁.lastSkipReason = none := by
      rcases v with _ | ⟨e⟩ | _ | _
      · exact hv.2
      · exact hv.2
      · exact absurd rfl hv'
      · exact hv.2
    rw [hnone] at hcode
    unfold outcomeCode at hcode
    rw [if_neg (by decide)] at hcode
    split at hcode <;> cases hcode

/-- The handler of a cell returns no green code. -/
theorem code_of_failConfiguredCell {e : PyExc}
    (h : (failConfiguredCell addresses cellRun e).Exec d tr (.ok rc) d') : rc = 1 := by
  unfold failConfiguredCell at h
  split at h
  · obtain ⟨_, d₁, tr₁, tr₂, rfl, -, hrest⟩ := Eff.exec_bind_ok.mp h
    exact (code_of_saveLast hrest).symm
  · exact (code_of_saveLast h).symm

-- a cell is not set up to see what its run is
attribute [local irreducible] cellSetup

/-- A green run of a cell is one of its body, and the removal of the session artifacts. -/
theorem exec_executeMatrixCell_green {repo : Repo} {session : WrapperSession} {cell : Cell}
    {debugLogs : Bool}
    (h : (executeMatrixCell repo session cell debugLogs).Exec d tr (.ok rc) d')
    (hgreen : IsGreen rc) : ∃ addresses cellRun endpoint serverConf clientConf tr₁ tr₂ d₁,
      cellSetup repo session cell = .ok (endpoint, serverConf, clientConf) ∧ tr = tr₁ ++ tr₂ ∧
      Auxiliary tr₂ ∧ (runConfiguredCell addresses cellRun serverConf clientConf endpoint.1
        endpoint.2).Exec d tr₁ (.ok rc) d₁ := by
  obtain ⟨⟨endpoint, serverConf, clientConf⟩, d₁, tr₁, tr₂, rfl, hsetup, hrest⟩ :=
    Eff.exec_bind_ok.mp h
  obtain ⟨rfl, hcell, rfl⟩ := Eff.exec_ofExcept.mp hsetup
  obtain ⟨r₁, r₂, d₂, tr₃, tr₄, rfl, hfinal, hbody, hremove⟩ := Eff.exec_finallyDo.mp hrest
  obtain ⟨rfl, haux⟩ := exec_removeTlsSessionArtifactFiles hremove
  obtain rfl : .ok rc = r₁ := hfinal
  rcases Eff.exec_tryCatch.mp hbody with ⟨rc', hrc, hrun⟩ | ⟨e, d₃, tr₅, tr₆, rfl, -, hhandle⟩
  · cases hrc
    exact ⟨_, _, endpoint, serverConf, clientConf, tr₃, tr₄, _, hcell, rfl, haux, hrun⟩
  · rw [code_of_failConfiguredCell hhandle] at hgreen
    rcases hgreen with h | h <;> cases h

/-- **What a green code of a cell stands for**, whatever its wrappers answer. -/
theorem green_of_executeMatrixCell {repo : Repo} {session : WrapperSession} {cell : Cell}
    {debugLogs : Bool}
    (h : (executeMatrixCell repo session cell debugLogs).Exec d tr (.ok rc) d')
    (hgreen : IsGreen rc) : ∃ endpoint serverConf clientConf,
      cellSetup repo session cell = .ok (endpoint, serverConf, clientConf) ∧
      (rc = 0 → Passed serverConf clientConf endpoint.1 endpoint.2 tr) ∧
      (rc = exitSkip → Skipped tr ∨ ¬ ClosesPlain tr) := by
  obtain ⟨_, _, endpoint, serverConf, clientConf, tr₁, tr₂, _, hcell, rfl, haux, hrun⟩ :=
    exec_executeMatrixCell_green h hgreen
  obtain ⟨hpassed, hskipped⟩ := green_of_runConfiguredCell hrun hgreen
  exact ⟨endpoint, serverConf, clientConf, hcell, fun h => hpassed h _ haux,
    fun h => hskipped h _ haux⟩

end

/-! ### Green combinations -/

/-- What a green result of a combination stands for. -/
inductive Green (run : MatrixRun) (sessions : List WrapperSession) (debugLogs : Bool)
    (tup : List String) : String × ℤ → Prop
  /-- The combination was skipped before it was run. -/
  | before {cell : Cell} {label : String} (hcell : run.normalizedCell tup = .ok cell)
      (hlabel : cellSummaryLabel cell = .ok label) (hskip : SkippedBefore run.repo cell) :
      Green run sessions debugLogs tup (label, exitSkip)
  /-- Its cell was run in a session, and the calls of that run are those of a test that
  passed, or was skipped; a CLOSE that asks to skip counts as a skip. -/
  | ran {cell : Cell} {label : String} {session : WrapperSession} {endpoint : String × ℤ}
      {serverConf clientConf : TlsConfig} {rc : ℤ} (d d' : InteropDriver)
      (tr : List (Event DriverAns)) (hcell : run.normalizedCell tup = .ok cell)
      (hlabel : cellSummaryLabel cell = .ok label) (hskip : ¬ SkippedBefore run.repo cell)
      (hsession : session ∈ sessions)
      (hexec : (executeMatrixCell run.repo session cell debugLogs).Exec d tr (.ok rc) d')
      (hsetup : cellSetup run.repo session cell = .ok (endpoint, serverConf, clientConf))
      (hverdict : rc = 0 ∧ Passed serverConf clientConf endpoint.1 endpoint.2 tr ∨
        rc = exitSkip ∧ (Skipped tr ∨ ¬ ClosesPlain tr)) :
      Green run sessions debugLogs tup (label, rc)

/-- The cells of a run, run in the sessions that were started: what the pool of a parallel run
has returned, or what the list of a serial run ends in. -/
structure CellsRun (run : MatrixRun) (host : RunHost) (sessions : List WrapperSession)
    (backends : List String) (jobs : ℤ) (debugLogs : Bool)
    (answer : Except PyExc (List (String × ℤ))) : Prop where
  started : run.sessions host backends jobs = .ok sessions
  parallel : RunsParallel jobs backends → ∃ s,
    (run.pool jobs (cellBehaviour run.repo sessions debugLogs fun _ => True)).Reachable s ∧
      s.main = .returned answer
  serial : ¬ RunsParallel jobs backends → ∃ d tr d',
    (run.runSerially sessions.head? debugLogs run.combos).Exec d tr answer d'

section

variable {run : MatrixRun} {sessions : List WrapperSession} {debugLogs : Bool} {tup : List String}
  {d d' : InteropDriver} {tr : List (Event DriverAns)} {r : String × ℤ}

attribute [local irreducible] executeMatrixCell

theorem prepare_eq_skip {label : String} (h : run.prepare tup = .ok (.skip label)) :
    ∃ cell, run.normalizedCell tup = .ok cell ∧ cellSummaryLabel cell = .ok label ∧
      SkippedBefore run.repo cell := by
  obtain ⟨cell, hcell, hrest⟩ := bind_eq_ok.mp h
  obtain ⟨label', hlabel, hlast⟩ := bind_eq_ok.mp hrest
  split at hlast
  · next hskip =>
    cases hlast
    exact ⟨cell, hcell, hlabel, hskip⟩
  · cases hlast

theorem prepare_eq_run {cell : Cell} {label : String} (h : run.prepare tup = .ok (.run cell label)) :
    run.normalizedCell tup = .ok cell ∧ cellSummaryLabel cell = .ok label ∧
      ¬ SkippedBefore run.repo cell := by
  obtain ⟨cell', hcell, hrest⟩ := bind_eq_ok.mp h
  obtain ⟨label', hlabel, hlast⟩ := bind_eq_ok.mp hrest
  split at hlast
  · cases hlast
  · next hskip =>
    cases hlast
    exact ⟨hcell, hlabel, hskip⟩

/-- A green result that a combination yields stands for what it should. -/
theorem green_of_yields
    (h : run.Yields (cellBehaviour run.repo sessions debugLogs fun _ => True) tup (.ok r))
    (hgreen : IsGreen r.2) : Green run sessions debugLogs tup r := by
  cases h with
  | skip hprep =>
    obtain ⟨cell, hcell, hlabel, hskip⟩ := prepare_eq_skip hprep
    exact .before hcell hlabel hskip
  | returns hprep hrc =>
    obtain ⟨hcell, hlabel, hskip⟩ := prepare_eq_run hprep
    obtain ⟨session, d, tr, d', hsession, hexec, -⟩ := hrc
    obtain ⟨endpoint, serverConf, clientConf, hsetup, hpassed, hskipped⟩ :=
      green_of_executeMatrixCell hexec hgreen
    refine .ran d d' tr hcell hlabel hskip (mem_of_sessionOf hsession) hexec hsetup ?_
    rcases hgreen with hzero | hexit
    · exact .inl ⟨hzero, hpassed hzero⟩
    · exact .inr ⟨hexit, hskipped hexit⟩

theorem greens_of_yields {tups : List (List String)} {rs : List (String × ℤ)}
    (h : List.Forall₂ (fun tup r => run.Yields (cellBehaviour run.repo sessions debugLogs
      fun _ => True) tup (.ok r)) tups rs) (hgreen : ∀ r ∈ rs, IsGreen r.2) :
    List.Forall₂ (Green run sessions debugLogs) tups rs := by
  induction h with
  | nil => exact .nil
  | cons hyields _ ih =>
    exact .cons (green_of_yields hyields (hgreen _ List.mem_cons_self))
      (ih fun r hr => hgreen r (List.mem_cons_of_mem _ hr))

/-- A combination of a serial run yields its result in the first session. -/
theorem yields_of_runMatrixCell
    (h : (run.runMatrixCell sessions.head? debugLogs tup).Exec d tr (.ok r) d') :
    run.Yields (cellBehaviour run.repo sessions debugLogs fun _ => True) tup (.ok r) := by
  obtain ⟨prepared, d₁, tr₁, tr₂, rfl, hprepare, hrest⟩ := Eff.exec_bind_ok.mp h
  obtain ⟨-, hprep, -⟩ := Eff.exec_ofExcept.mp hprepare
  cases prepared with
  | skip label =>
    obtain ⟨-, hr, -⟩ := Eff.exec_pure.mp hrest
    cases hr
    exact .skip hprep
  | run cell label =>
    cases hhead : sessions.head? with
    | none =>
      rw [hhead] at hrest
      cases (Eff.exec_throw.mp hrest).2.1
    | some session =>
      rw [hhead] at hrest
      obtain ⟨rc, d₂, tr₃, tr₄, rfl, hexec, hret⟩ := Eff.exec_bind_ok.mp hrest
      obtain ⟨-, hr, -⟩ := Eff.exec_pure.mp hret
      cases hr
      have hsession : sessionOf sessions (some 0) = some session := by
        rw [← hhead, List.head?_eq_getElem?]
        rfl
      exact .returns hprep ⟨session, d₁, tr₃, d₂, hsession, hexec, trivial⟩

theorem yields_of_runSerially {tups : List (List String)} {results : List (String × ℤ)}
    (h : (run.runSerially sessions.head? debugLogs tups).Exec d tr (.ok results) d') :
    List.Forall₂ (fun tup r => run.Yields (cellBehaviour run.repo sessions debugLogs fun _ => True)
      tup (.ok r)) tups results := by
  induction tups generalizing d tr results d' with
  | nil =>
    obtain ⟨-, hr, -⟩ := Eff.exec_pure.mp h
    cases hr
    exact .nil
  | cons tup rest ih =>
    obtain ⟨r, d₁, tr₁, tr₂, rfl, hfirst, hrest⟩ := Eff.exec_bind_ok.mp h
    obtain ⟨rs, d₂, tr₃, tr₄, rfl, hothers, hret⟩ := Eff.exec_bind_ok.mp hrest
    obtain ⟨-, hr, -⟩ := Eff.exec_pure.mp hret
    cases hr
    exact .cons (yields_of_runMatrixCell hfirst) (ih hothers)

/-- **The results of the cells are one for each combination**, in some order, which the
combination yields in one of the sessions. -/
theorem CellsRun.yields {host : RunHost} {backends : List String} {jobs : ℤ}
    {results : List (String × ℤ)}
    (h : CellsRun run host sessions backends jobs debugLogs (.ok results))
    (hcombos : backends ≠ [] → run.combos ≠ []) : ∃ rs, results.Perm rs ∧
      List.Forall₂ (fun tup r => run.Yields (cellBehaviour run.repo sessions debugLogs fun _ => True)
        tup (.ok r)) run.combos rs := by
  by_cases hparallel : RunsParallel jobs backends
  · obtain ⟨s, hreachable, hmain⟩ := h.parallel hparallel
    exact (results_of_returned (hcombos hparallel.2) hreachable hmain).2
  · obtain ⟨d, tr, d', hexec⟩ := h.serial hparallel
    exact ⟨results, .refl _, yields_of_runSerially hexec⟩

theorem matrixExitStatus_eq_zero {results : List (String × ℤ)} :
    matrixExitStatus results = 0 ↔ ∀ r ∈ results, IsGreen r.2 := by
  unfold matrixExitStatus IsGreen
  split
  · next hall => simpa using hall
  · next hall => simpa using hall

end

/-! ### What the program can do -/

section

variable {host : MainHost} {args : Args} {run : MatrixRun} {procs procs' : SessionProcs}
  {tr : List (Event SessionAns)} {r : Except PyExc ℤ}

/-- The status of `main` is that of its matrix, or 2. -/
theorem exec_main (hplan : host.plan args = .ok (.matrix run))
    (h : (main host args).Exec procs tr r procs') :
    ∃ r₀, (runMatrix host run).Exec procs tr r₀ procs' ∧
      r = match r₀ with
        | .ok code => .ok code
        | .error e => if e.reported then .ok 2 else .error e := by
  -- inside the handler, the plan is made and the matrix is run
  have hbody : ∀ {tr r₁ procs₁}, (do
      match ← Eff.ofExcept (host.plan args) with
      | .listed code => return code
      | .matrix run => runMatrix host run : SessionM ℤ).Exec procs tr r₁ procs₁ →
      (runMatrix host run).Exec procs tr r₁ procs₁ := by
    intro tr r₁ procs₁ hexec
    rcases Eff.exec_bind.mp hexec with ⟨e, -, hraise⟩ | ⟨p, procs₂, tr₁, tr₂, rfl, hlook, hrest⟩
    · rw [hplan] at hraise
      cases (Eff.exec_ofExcept.mp hraise).2.1
    · obtain ⟨rfl, hp, rfl⟩ := Eff.exec_ofExcept.mp hlook
      obtain rfl := Except.ok.inj (hplan.symm.trans hp)
      exact hrest
  rcases Eff.exec_tryCatch.mp h with ⟨code, rfl, hrun⟩ | ⟨e, procs₁, tr₁, tr₂, rfl, hrun, hhandle⟩
  · exact ⟨.ok code, hbody hrun, rfl⟩
  · refine ⟨.error e, ?_, ?_⟩
    · -- the handler makes no call of its own
      split at hhandle
      · obtain ⟨rfl, -, rfl⟩ := Eff.exec_pure.mp hhandle
        rw [List.append_nil]
        exact hbody hrun
      · obtain ⟨rfl, -, rfl⟩ := Eff.exec_throw.mp hhandle
        rw [List.append_nil]
        exact hbody hrun
    · dsimp only
      split at hhandle
      · next hreported =>
        rw [if_pos hreported]
        exact (Eff.exec_pure.mp hhandle).2.1.symm
      · next hreported =>
        rw [if_neg hreported]
        exact (Eff.exec_throw.mp hhandle).2.1.symm

/-- The arguments of a matrix were accepted. -/
theorem accepted_of_plan (hplan : host.plan args = .ok (.matrix run)) :
    run.repo = host.repo ∧ validateRunArgs run.args = .ok () ∧
      buildMatrixCombos host.repo run.args host.repo.discoverWrapperIds
        = .ok (run.axisKeys, run.combos) ∧
      ∃ args', validateCliArguments host.cpuCount args' = .ok run.args := by
  obtain ⟨args', -, hrest⟩ := bind_eq_ok.mp hplan
  split at hrest
  · cases hrest
  · obtain ⟨args'', hcli, hrest⟩ := bind_eq_ok.mp hrest
    obtain ⟨⟨⟩, hargs, hrest⟩ := bind_eq_ok.mp hrest
    obtain ⟨built, hbuilt, hlast⟩ := bind_eq_ok.mp hrest
    cases hlast
    exact ⟨rfl, hargs, hbuilt, args', hcli⟩

/-- A matrix is executed once the certificates are there. -/
theorem exec_runMatrix (h : (runMatrix host run).Exec procs tr r procs') :
    (∃ e, r = .error e ∧ tr = [⟨.ensureCerts, .error e⟩]) ∨
      ∃ tr₁ tr₂, tr = tr₁ ++ tr₂ ∧ (∀ e ∈ tr₁, e.1 = .ensureCerts) ∧
        (executePlanned host run).Exec procs tr₂ r procs' := by
  unfold runMatrix at h
  split at h
  · rcases Eff.exec_bind.mp h with ⟨e, rfl, hcerts⟩ | ⟨⟨⟩, procs₁, tr₁, tr₂, rfl, hcerts, hrest⟩
    · obtain ⟨ans, rfl, hans, -⟩ := Eff.exec_invoke.mp hcerts
      obtain rfl : ans = .error e := hans
      exact .inl ⟨e, rfl, rfl⟩
    · obtain ⟨ans, rfl, -, rfl⟩ := Eff.exec_invoke.mp hcerts
      exact .inr ⟨_, tr₂, rfl, by simp, @hrest⟩
  · exact .inr ⟨[], tr, rfl, by simp, @h⟩

/-- What is executed, when the backends and the number of jobs can be told. -/
theorem exec_executePlanned {backends : List String}
    (hbackends : run.requiredBackends host.repo.discoverWrapperIds = .ok backends) {jobs : ℤ}
    (hjobs : run.args.intAttr "jobs" = .ok jobs)
    (h : (executePlanned host run).Exec procs tr r procs') :
    ∃ cells, (run.executeMatrixExecution (host.runHost run) backends jobs).Exec procs tr cells procs' ∧
      r = cells.map matrixExitStatus := by
  unfold executePlanned at h
  rw [hbackends, hjobs] at h
  rcases Eff.exec_bind.mp h with ⟨e, -, hraise⟩ | ⟨_, procs₁, tr₁, tr₂, rfl, hback, hrest⟩
  · cases (Eff.exec_ofExcept.mp hraise).2.1
  obtain ⟨rfl, hsame, rfl⟩ := Eff.exec_ofExcept.mp hback
  obtain rfl := Except.ok.inj hsame
  rcases Eff.exec_bind.mp hrest with ⟨e, -, hraise⟩ | ⟨_, procs₂, tr₃, tr₄, rfl, hattr, hrun⟩
  · cases (Eff.exec_ofExcept.mp hraise).2.1
  obtain ⟨rfl, hread, rfl⟩ := Eff.exec_ofExcept.mp hattr
  obtain rfl := Except.ok.inj hread
  rcases Eff.exec_bind.mp hrun with ⟨e, rfl, hraise⟩ | ⟨results, procs₃, tr₅, tr₆, rfl, hexec, hret⟩
  · exact ⟨.error e, @hraise, rfl⟩
  · obtain ⟨rfl, rfl, rfl⟩ := Eff.exec_pure.mp hret
    refine ⟨.ok results, ?_, rfl⟩
    simpa only [List.nil_append, List.append_nil] using hexec

/-- The status of a matrix whose cells have results. -/
theorem exec_main_of_cells (hplan : host.plan args = .ok (.matrix run)) (hcombos : run.combos ≠ [])
    {backends : List String}
    (hbackends : run.requiredBackends host.repo.discoverWrapperIds = .ok backends) {jobs : ℤ}
    (hjobs : run.args.intAttr "jobs" = .ok jobs) {cells : List (String × ℤ)}
    (h : (run.executeMatrixExecution (host.runHost run) backends jobs).Exec procs tr (.ok cells)
      procs') :
    (main host args).Exec procs (⟨.ensureCerts, .ok ()⟩ :: tr) (.ok (matrixExitStatus cells))
      procs' := by
  have hplanned : (executePlanned host run).Exec procs tr (.ok (matrixExitStatus cells)) procs' := by
    refine Eff.exec_bind_ok.mpr ⟨backends, procs, [], tr, rfl, Eff.exec_ofExcept.mpr
      ⟨rfl, hbackends, rfl⟩, Eff.exec_bind_ok.mpr ⟨jobs, procs, [], tr, rfl, Eff.exec_ofExcept.mpr
      ⟨rfl, hjobs, rfl⟩, Eff.exec_bind_ok.mpr ⟨cells, procs', tr, [], ?_, @h, ?_⟩⟩⟩
    · rw [List.append_nil]
    · exact Eff.exec_pure.mpr ⟨rfl, rfl, rfl⟩
  have hrun : (runMatrix host run).Exec procs (⟨.ensureCerts, .ok ()⟩ :: tr)
      (.ok (matrixExitStatus cells)) procs' := by
    unfold runMatrix
    rw [if_pos hcombos]
    exact Eff.exec_bind_ok.mpr ⟨(), procs, [⟨.ensureCerts, .ok ()⟩], tr, rfl,
      Eff.exec_invoke.mpr ⟨.ok (), rfl, rfl, rfl⟩, @hplanned⟩
  refine Eff.exec_tryCatch.mpr (.inl ⟨_, rfl, Eff.exec_bind_ok.mpr ⟨.matrix run, procs, [], _, rfl,
    Eff.exec_ofExcept.mpr ⟨rfl, hplan, rfl⟩, @hrun⟩⟩)

/-- **A run that exits with 0 has tested or skipped every combination.**  The exit status is
read off the results, the results are those of the pool or of the list, and a result is the
code of a cell, whose trace tells what the code means. -/
theorem green_run (hplan : host.plan args = .ok (.matrix run)) {backends : List String}
    (hbackends : run.requiredBackends host.repo.discoverWrapperIds = .ok backends) {jobs : ℤ}
    (hjobs : run.args.intAttr "jobs" = .ok jobs) {sessions : List WrapperSession} {debugLogs : Bool}
    (h : (main host args).Exec procs tr (.ok 0) procs')
    (hcells : ∀ ans, (⟨.runCells, ans⟩ : Event SessionAns) ∈ tr →
      CellsRun run (host.runHost run) sessions backends jobs debugLogs ans) :
    ∃ results, (⟨.runCells, .ok results⟩ : Event SessionAns) ∈ tr ∧ ∃ rs, results.Perm rs ∧
      List.Forall₂ (Green run sessions debugLogs) run.combos rs := by
  obtain ⟨r₀, hrun, hr₀⟩ := exec_main hplan h
  cases r₀ with
  | error e =>
    dsimp only at hr₀
    split at hr₀ <;> cases hr₀
  | ok code =>
    cases hr₀
    rcases exec_runMatrix hrun with ⟨e, he, -⟩ | ⟨tr₁, tr₂, rfl, -, hplanned⟩
    · cases he
    obtain ⟨cells', hexec, hcode⟩ := exec_executePlanned hbackends hjobs hplanned
    cases cells' with
    | error e => cases hcode
    | ok cells =>
    -- the exit status 0 is that of the results of the cells
    have hzero : 0 = matrixExitStatus cells := Except.ok.inj hcode
    rcases exec_executeMatrixExecution hexec with ⟨e, he, -⟩ |
      ⟨sessions', procs₂, before, ans, stops, r', rfl, hstart, -, hfinal⟩
    · cases he
    -- which the end of the run leaves as they are
    have hans : ans = .ok cells := by
      cases r' with
      | ok u => exact hfinal.symm
      | error e => cases hfinal
    subst hans
    have hmem : (⟨.runCells, .ok cells⟩ : Event SessionAns)
        ∈ tr₁ ++ (before ++ ⟨.runCells, .ok cells⟩ :: stops) :=
      List.mem_append_right _ (List.mem_append_right _ List.mem_cons_self)
    have hcombos : backends ≠ [] → run.combos ≠ [] := fun hne hnil =>
      hne (run.requiredBackends_nil hnil hbackends)
    -- there is one for each combination, and all of them are green
    obtain ⟨rs, hperm, hyields⟩ := (hcells _ hmem).yields hcombos
    have hgreen := matrixExitStatus_eq_zero.mp hzero.symm
    exact ⟨cells, hmem, rs, hperm,
      greens_of_yields hyields fun r hr => hgreen r (hperm.mem_iff.mpr hr)⟩

/-- A combination that is skipped gives its label. -/
theorem exec_runMatrixCell_of_skip {session : Option WrapperSession} {debugLogs : Bool}
    {tup : List String} {label : String} (hprep : run.prepare tup = .ok (.skip label))
    {d d' : InteropDriver} {tr : List (Event DriverAns)} {r : Except PyExc (String × ℤ)}
    (h : (run.runMatrixCell session debugLogs tup).Exec d tr r d') : r = .ok (label, exitSkip) := by
  rcases Eff.exec_bind.mp h with ⟨e, -, hraise⟩ | ⟨p, d₁, tr₁, tr₂, -, hlook, hrest⟩
  · rw [hprep] at hraise
    cases (Eff.exec_ofExcept.mp hraise).2.1
  · obtain ⟨-, hp, -⟩ := Eff.exec_ofExcept.mp hlook
    obtain rfl := Except.ok.inj (hprep.symm.trans hp)
    exact (Eff.exec_pure.mp hrest).2.1.symm

/-- Combinations that are skipped give skips. -/
theorem exec_runSerially_of_skip {session : Option WrapperSession} {debugLogs : Bool}
    {tups : List (List String)} (hskip : ∀ tup ∈ tups, ∃ label, run.prepare tup = .ok (.skip label))
    {d d' : InteropDriver} {tr : List (Event DriverAns)} {r : Except PyExc (List (String × ℤ))}
    (h : (run.runSerially session debugLogs tups).Exec d tr r d') :
    ∃ results, r = .ok results ∧ ∀ x ∈ results, x.2 = exitSkip := by
  induction tups generalizing d tr r d' with
  | nil =>
    obtain ⟨-, rfl, -⟩ := Eff.exec_pure.mp h
    exact ⟨[], rfl, fun _ hx => absurd hx List.not_mem_nil⟩
  | cons tup rest ih =>
    obtain ⟨label, hprep⟩ := hskip tup List.mem_cons_self
    have hothers := fun tup htup => hskip tup (List.mem_cons_of_mem _ htup)
    rcases Eff.exec_bind.mp h with ⟨e, -, hraise⟩ | ⟨x, d₁, tr₁, tr₂, -, hcell, hrest⟩
    · cases exec_runMatrixCell_of_skip hprep hraise
    cases exec_runMatrixCell_of_skip hprep hcell
    rcases Eff.exec_bind.mp hrest with ⟨e, -, hraise⟩ | ⟨xs, d₂, tr₃, tr₄, -, hcells, hret⟩
    · obtain ⟨results, he, -⟩ := ih hothers hraise
      cases he
    · obtain ⟨results, hxs, hall⟩ := ih hothers hcells
      cases hxs
      refine ⟨_, (Eff.exec_pure.mp hret).2.1.symm, fun y hy => ?_⟩
      rcases List.mem_cons.mp hy with rfl | hy
      · rfl
      · exact hall y hy

/-- A run without backends has no sessions, and only runs its cells. -/
theorem exec_without_backends {host : RunHost} {jobs : ℤ} {r : Except PyExc (List (String × ℤ))}
    (h : (run.executeMatrixExecution host [] jobs).Exec procs tr r procs') :
    tr = [⟨.runCells, r⟩] := by
  have hnone : run.sessions host [] jobs = .ok [] := by
    unfold MatrixRun.sessions
    simp
  rcases exec_executeMatrixExecution h with ⟨e, -, hraise⟩ |
    ⟨sessions, procs₁, before, ans, stops, r', rfl, hstart, hstops, rfl⟩
  · rcases Eff.exec_bind.mp hraise with ⟨e', -, hmade⟩ | ⟨made, procs₁, tr₁, tr₂, -, hmade, hrest⟩
    · rw [hnone] at hmade
      cases (Eff.exec_ofExcept.mp hmade).2.1
    · obtain ⟨-, hmade, -⟩ := Eff.exec_ofExcept.mp hmade
      cases hnone.symm.trans hmade
      rcases Eff.exec_bind.mp hrest with ⟨e', -, hloop⟩ | ⟨_, procs₂, tr₃, tr₄, -, -, hret⟩
      · cases (Eff.exec_pure.mp hloop).2.1
      · cases (Eff.exec_pure.mp hret).2.1
  · cases hnone.symm.trans (sessions_of_startAll hstart)
    obtain ⟨rfl, rfl, -⟩ := Eff.exec_pure.mp hstops
    have hbefore : before = [] := by
      obtain ⟨made, procs₂, tr₁, tr₂, rfl, hmade, hrest⟩ := Eff.exec_bind_ok.mp hstart
      obtain ⟨rfl, hmade, -⟩ := Eff.exec_ofExcept.mp hmade
      cases hnone.symm.trans hmade
      obtain ⟨_, procs₃, tr₃, tr₄, rfl, hloop, hret⟩ := Eff.exec_bind_ok.mp hrest
      obtain ⟨rfl, -, -⟩ := Eff.exec_pure.mp hloop
      obtain ⟨rfl, -, -⟩ := Eff.exec_pure.mp hret
      rfl
    rw [hbefore]
    rfl

/-- A matrix whose combinations are all skipped needs no backend. -/
theorem requiredBackends_of_skip (hplan : host.plan args = .ok (.matrix run))
    (hskip : ∀ tup ∈ run.combos, ∀ cell, run.normalizedCell tup = .ok cell →
      SkippedBefore run.repo cell) :
    (∀ tup ∈ run.combos, ∃ label, run.prepare tup = .ok (.skip label)) ∧
      run.requiredBackends host.repo.discoverWrapperIds = .ok [] := by
  obtain ⟨hrepo, hargs, hbuild, -⟩ := accepted_of_plan hplan
  rw [← hrepo] at hbuild
  -- every combination is prepared into a skip
  have hcell : ∀ tup ∈ run.combos, ∃ cell label, run.normalizedCell tup = .ok cell ∧
      SkippedBefore run.repo cell ∧ run.prepare tup = .ok (.skip label) := by
    intro tup htup
    obtain ⟨cell, label, hcell, -, hprep⟩ := exists_prepare hargs hbuild htup
    have hs := hskip tup htup cell hcell
    exact ⟨cell, label, hcell, hs, by rw [hprep, if_pos hs]⟩
  constructor
  · intro tup htup
    obtain ⟨cell, label, -, -, hprep⟩ := hcell tup htup
    exact ⟨label, hprep⟩
  · -- a skipped combination needs no backend
    have hneeded : ∀ tup ∈ run.combos,
        run.neededBackends host.repo.discoverWrapperIds tup = .ok [] := by
      intro tup htup
      obtain ⟨cell, label, hnormal, hs, -⟩ := hcell tup htup
      unfold MatrixRun.neededBackends
      refine bind_eq_ok.mpr ⟨cell, hnormal, ?_⟩
      rw [if_pos hs]
      rfl
    have hall : run.combos.mapM (run.neededBackends host.repo.discoverWrapperIds)
        = .ok (run.combos.map fun _ => []) := by
      rw [mapM_eq_ok, List.forall₂_map_right_iff, List.forall₂_same]
      exact hneeded
    unfold MatrixRun.requiredBackends
    rw [hall]
    have hflat : (run.combos.map fun _ => ([] : List String)).flatten = [] := by
      simp
    show Except.ok (sortedSet (run.combos.map fun _ => ([] : List String)).flatten) = _
    rw [hflat]
    rfl

/-- **A matrix whose combinations are all skipped starts nothing**, and exits with 0 unless the
certificates cannot be made.  The backends that a run needs are those of the combinations
that are not skipped; without any there is nothing to start, and the run is serial whatever
number of jobs it is given. -/
theorem skipped_main (hplan : host.plan args = .ok (.matrix run))
    (hskip : ∀ tup ∈ run.combos, ∀ cell, run.normalizedCell tup = .ok cell →
      SkippedBefore run.repo cell)
    (h : (main host args).Exec procs tr r procs') {jobs : ℤ} {debugLogs : Bool}
    (hcells : ∀ ans, (⟨.runCells, ans⟩ : Event SessionAns) ∈ tr →
      CellsRun run (host.runHost run) [] [] jobs debugLogs ans) :
    (∀ e ∈ tr, e.1 = .ensureCerts ∨ e.1 = .runCells) ∧
      (r = .ok 0 ∨ ∃ e, (⟨.ensureCerts, .error e⟩ : Event SessionAns) ∈ tr) := by
  obtain ⟨hprepared, hnone⟩ := requiredBackends_of_skip hplan hskip
  obtain ⟨-, -, -, args', hcli⟩ := accepted_of_plan hplan
  obtain ⟨-, jobs', hjobs, -⟩ := jobs_of_validateCliArguments hcli
  obtain ⟨r₀, hrun, hr₀⟩ := exec_main hplan h
  rcases exec_runMatrix hrun with ⟨e, rfl, rfl⟩ | ⟨tr₁, tr₂, rfl, hcerts, hplanned⟩
  · exact ⟨by simp, .inr ⟨e, by simp⟩⟩
  obtain ⟨cells, hexec, rfl⟩ := exec_executePlanned hnone hjobs hplanned
  obtain rfl := exec_without_backends hexec
  have hmem : (⟨.runCells, cells⟩ : Event SessionAns) ∈ tr₁ ++ [⟨.runCells, cells⟩] := by simp
  obtain ⟨d, tr, d', hserial⟩ := (hcells cells hmem).serial fun hboth => hboth.2 rfl
  obtain ⟨results, rfl, hall⟩ := exec_runSerially_of_skip hprepared hserial
  have hzero : matrixExitStatus results = 0 :=
    matrixExitStatus_eq_zero.mpr fun x hx => .inr (hall x hx)
  refine ⟨fun e he => ?_, .inl ?_⟩
  · rcases List.mem_append.mp he with he | he
    · exact .inl (hcerts e he)
    · rw [List.mem_singleton.mp he]
      exact .inr rfl
  · rw [hr₀]
    exact congrArg Except.ok hzero

end

/-! ### Runs of a suite with one case -/

/-- A host whose suite files have one case. -/
def caseHost (case : SuiteCase) : MainHost where
  repo := shippedRepo "/repo" noCerts
  cpuCount := some 8
  suiteFile _ := .ok { matrix := some [], cases := .list [some case] }

/-- `--suite suite.yaml`, with or without `--attach`. -/
def caseArgs (attach : Bool) : Args where
  attrs := (defaultArgs.attrs.set "suite" (.str "suite.yaml")).set "attach" (.bool attach)
  suiteCases := none

theorem validateCliArguments_caseArgs (attach : Bool) (suiteCases : Option (List SuiteCase)) :
    validateCliArguments (some 8) { caseArgs attach with suiteCases }
      = .ok { caseArgs attach with suiteCases } := by
  cases attach
  · exact rfl
  · exact rfl

/-- The matrix of the case. -/
def caseMatrix (case : SuiteCase) (attach : Bool) (tup : List String) : MatrixRun where
  repo := shippedRepo "/repo" noCerts
  axisKeys := samePortRun.axisKeys
  args := { caseArgs attach with suiteCases := some [case] }
  combos := [tup]

theorem plan_caseHost {case : SuiteCase} (attach : Bool) {tup : List String}
    (hkeys : extendAxisKeys ((["server", "client"] ++ axisOptionIds).map .str) [case]
      = samePortRun.axisKeys)
    (hcombos : suiteCasesToCombos (caseMatrix case attach tup).args samePortRun.axisKeys
      = .ok [tup]) :
    (caseHost case).plan (caseArgs attach) = .ok (.matrix (caseMatrix case attach tup)) := by
  -- no list is asked for, and the arguments are accepted
  have hids : (caseHost case).repo.discoverWrapperIds = ["gnutls", "nss", "openssl"] :=
    discoverWrapperIds_shippedRepo
  have happly : (caseHost case).applySuiteIfRequested (caseArgs attach)
      = .ok (caseMatrix case attach tup).args := by
    cases attach <;> rfl
  have hlist : handleListModes (caseMatrix case attach tup).args = none := by
    cases attach <;> rfl
  have hcli : validateCliArguments (caseHost case).cpuCount (caseMatrix case attach tup).args
      = .ok (caseMatrix case attach tup).args := validateCliArguments_caseArgs attach _
  have hargs : validateRunArgs (caseMatrix case attach tup).args = .ok () := by
    cases attach <;> rfl
  have hbuild : buildMatrixCombos (caseHost case).repo (caseMatrix case attach tup).args
      (caseHost case).repo.discoverWrapperIds = .ok (samePortRun.axisKeys, [tup]) := by
    -- the axes are blank, so that the combinations are those of the case
    have hblank : ∀ o ∈ axisOptionIds,
        strip ((caseMatrix case attach tup).args.getattrText o) = "" := by
      show ∀ o ∈ axisOptionIds, strip ((caseArgs attach).getattrText o) = ""
      cases attach <;> decide
    have hopts : ∀ o ∈ axisOptionIds, ∃ vals,
        getDimensionMatrixValues o (optionChoiceTokens shippedCapsCache o)
          (caseMatrix case attach tup).args (sortedSet (["openssl"] ++ ["openssl"]))
          shippedCapsCache (tlsModeFilterFromArgs (caseMatrix case attach tup).args) = .ok vals :=
      fun o ho => getDimensionMatrixValues_of_blank (hblank o ho) _ _ _ _
    have hrole : ∀ name ∈ ["server", "client"],
        expandDimension ((caseMatrix case attach tup).args.getattrText name)
          (sortedSet ["gnutls", "nss", "openssl"]) = .ok ["openssl"] := by
      show ∀ name ∈ ["server", "client"], expandDimension ((caseArgs attach).getattrText name)
        (sortedSet ["gnutls", "nss", "openssl"]) = .ok ["openssl"]
      cases attach <;> decide
    have hcatalog : capsCache (caseHost case).repo (caseHost case).repo.discoverWrapperIds
        = .ok shippedCapsCache := by
      rw [hids]
      exact capsCache_shippedRepo
    rw [hids]
    obtain ⟨vals, hplan⟩ := matrixAxisPlan_eq_ok capsCache_shippedRepo hcatalog
      (hrole "server" (by decide)) (hrole "client" (by decide)) hopts
    exact buildMatrixCombos_eq_ok hplan rfl (List.cons_ne_nil _ _) hkeys hcombos
  refine bind_eq_ok.mpr ⟨_, happly, ?_⟩
  rw [hlist]
  exact bind_eq_ok.mpr ⟨_, hcli, bind_eq_ok.mpr ⟨_, hargs, bind_eq_ok.mpr ⟨_, hbuild, rfl⟩⟩⟩

theorem plan_portCase (attach : Bool) : (caseHost portCase).plan (caseArgs attach)
    = .ok (.matrix (caseMatrix portCase attach portTuple)) :=
  plan_caseHost attach (by decide) (by cases attach <;> decide)

/-- The answer of the cells when their wrappers answer as a passing test needs it. -/
def friendlyAnswer (run : MatrixRun) (sessions : List WrapperSession) :
    Except PyExc (List (String × ℤ)) :=
  (((run.runSerially sessions.head? true run.combos).prog {}).exec friendlyEnv []).1.1

/-- Every wrapper runs, and the cells end so. -/
def caseEnv (run : MatrixRun) (sessions : List WrapperSession) : Prog.Env SessionAns
  | _, .runCells => friendlyAnswer run sessions
  | past, q => pairEnv past q

/-- The answer of the cells is that of the serial run. -/
theorem cellsRun_friendlyAnswer {run : MatrixRun} {host : RunHost} {sessions : List WrapperSession}
    {backends : List String} {jobs : ℤ} (hjobs : jobs ≤ 1)
    (hsessions : run.sessions host backends jobs = .ok sessions) :
    CellsRun run host sessions backends jobs true (friendlyAnswer run sessions) where
  started := hsessions
  parallel h := absurd h.1 (not_lt.mpr hjobs)
  serial _ := ⟨_, _, _, Eff.exec_run ..⟩

/-- The run of the case: its backends, its jobs and its session. -/
theorem portCase_started :
    (caseMatrix portCase false portTuple).requiredBackends
        (caseHost portCase).repo.discoverWrapperIds = .ok ["openssl"] ∧
      (caseMatrix portCase false portTuple).sessions
        ((caseHost portCase).runHost (caseMatrix portCase false portTuple)) ["openssl"] 1
          = .ok wordSessions := by
  have hids : (caseHost portCase).repo.discoverWrapperIds = ["gnutls", "nss", "openssl"] :=
    discoverWrapperIds_shippedRepo
  have hbackends : (caseMatrix portCase false portTuple).requiredBackends
      (caseHost portCase).repo.discoverWrapperIds = .ok ["openssl"] := by
    rw [hids]
    have hneeded : (caseMatrix portCase false portTuple).neededBackends ["gnutls", "nss", "openssl"]
        portTuple = .ok ["openssl", "openssl"] := by
      have hcell : (caseMatrix portCase false portTuple).normalizedCell portTuple = .ok portCell := by
        decide
      have hskip : cellCapabilitySkipReason (shippedRepo "/repo" noCerts) portCell = none := by decide
      refine bind_eq_ok.mpr ⟨_, hcell, ?_⟩
      rw [caseMatrix, hskip]
      decide
    refine bind_eq_ok.mpr ⟨_, mapM_eq_ok.mpr (.cons hneeded .nil), ?_⟩
    decide
  have hstarted : serialSession (shippedRepo "/repo" noCerts) ["openssl"] false
      = .ok wordSessions[0] := by
    unfold serialSession
    rw [discoverWrapperIds_shippedRepo]
    rfl
  have hsessions : (caseMatrix portCase false portTuple).sessions
      ((caseHost portCase).runHost (caseMatrix portCase false portTuple)) ["openssl"] 1
        = .ok wordSessions := by
    unfold MatrixRun.sessions
    rw [if_neg (by decide), if_pos (List.cons_ne_nil _ _)]
    have hattach : ((caseHost portCase).runHost (caseMatrix portCase false portTuple)).attach = false :=
      rfl
    rw [hattach, caseMatrix, hstarted]
    rfl
  exact ⟨hbackends, hsessions⟩

/-- The run of its matrix. -/
abbrev portCaseRun : (Except PyExc (List (String × ℤ)) × SessionProcs) × List (Event SessionAns) :=
  (((caseMatrix portCase false portTuple).executeMatrixExecution
    ((caseHost portCase).runHost (caseMatrix portCase false portTuple)) ["openssl"] 1).prog
      fun _ => []).exec (caseEnv (caseMatrix portCase false portTuple) wordSessions) []

/-- The cell of the case passes. -/
theorem portCaseRun_exec : ∃ tr procs',
    ((caseMatrix portCase false portTuple).executeMatrixExecution
      ((caseHost portCase).runHost (caseMatrix portCase false portTuple)) ["openssl"] 1).Exec
      (fun _ => []) tr (.ok [("openssl x openssl | 1.3 / - / - / - / -", 0)]) procs' ∧
    ∀ ans, (⟨.runCells, ans⟩ : Event SessionAns) ∈ tr →
      ans = friendlyAnswer (caseMatrix portCase false portTuple) wordSessions := by
  have hok : portCaseRun.1.1 = .ok [("openssl x openssl | 1.3 / - / - / - / -", 0)] := by
    decide +kernel
  refine ⟨portCaseRun.2, portCaseRun.1.2, ?_, fun ans hmem => ?_⟩
  · rw [← hok]
    exact Eff.exec_run ..
  · obtain ⟨past, hans⟩ := Prog.exists_past_of_mem_exec hmem
    exact hans

/-- The case is tested, and its run exits with 0. -/
theorem portCase_tested : ∃ tr procs',
    (main (caseHost portCase) (caseArgs false)).Exec (fun _ => []) tr (.ok 0) procs' ∧
      ∃ results, (⟨.runCells, .ok results⟩ : Event SessionAns) ∈ tr ∧ ∃ rs, results.Perm rs ∧
        List.Forall₂ (Green (caseMatrix portCase false portTuple) wordSessions true)
          (caseMatrix portCase false portTuple).combos rs := by
  obtain ⟨hbackends, hsessions⟩ := portCase_started
  obtain ⟨tr, procs', hexec, hanswer⟩ := portCaseRun_exec
  have hplan := plan_portCase false
  have hjobs : (caseMatrix portCase false portTuple).args.intAttr "jobs" = .ok 1 := rfl
  have hcombos : (caseMatrix portCase false portTuple).combos ≠ [] := List.cons_ne_nil _ _
  generalize caseHost portCase = host at *
  generalize caseMatrix portCase false portTuple = run at *
  have hmain := exec_main_of_cells hplan hcombos hbackends hjobs hexec
  refine ⟨_, _, hmain, green_run hplan hbackends hjobs hmain fun ans hmem => ?_⟩
  rcases List.mem_cons.mp hmem with h | h
  · cases h
  · rw [hanswer ans h]
    exact cellsRun_friendlyAnswer le_rfl hsessions

/-- A case whose server is not known. -/
def strangeCase : SuiteCase := portCase.set (.str "server") (.str "nosuch")

def strangeTuple : List String := ["nosuch", "openssl", "", "", "", "", "1.3", "4433"]

theorem plan_strangeCase : (caseHost strangeCase).plan (caseArgs false)
    = .ok (.matrix (caseMatrix strangeCase false strangeTuple)) :=
  plan_caseHost false (by decide) (by decide)

/-- A run of the program for it. -/
theorem exists_exec_strangeCase : ∃ tr r procs',
    (main (caseHost strangeCase) (caseArgs false)).Exec (fun _ => []) tr r procs' ∧
      ∀ ans, (⟨.runCells, ans⟩ : Event SessionAns) ∈ tr →
        ans = friendlyAnswer (caseMatrix strangeCase false strangeTuple) [] := by
  generalize main (caseHost strangeCase) (caseArgs false) = m
  refine ⟨_, _, _, Eff.exec_run (caseEnv (caseMatrix strangeCase false strangeTuple) []) m
    (fun _ => []) [], fun ans hmem => ?_⟩
  obtain ⟨past, hans⟩ := Prog.exists_past_of_mem_exec hmem
  exact hans

/-- The case is skipped, and nothing is started for it. -/
theorem strangeCase_skipped : ∃ tr r procs',
    (main (caseHost strangeCase) (caseArgs false)).Exec (fun _ => []) tr r procs' ∧
      (∀ e ∈ tr, e.1 = .ensureCerts ∨ e.1 = .runCells) ∧
      (r = .ok 0 ∨ ∃ e, (⟨.ensureCerts, .error e⟩ : Event SessionAns) ∈ tr) := by
  have hskip : ∀ tup ∈ (caseMatrix strangeCase false strangeTuple).combos, ∀ cell,
      (caseMatrix strangeCase false strangeTuple).normalizedCell tup = .ok cell →
      SkippedBefore (caseMatrix strangeCase false strangeTuple).repo cell := by
    intro tup htup cell hcell
    rw [List.mem_singleton.mp htup] at hcell
    have hstrange : (caseMatrix strangeCase false strangeTuple).normalizedCell strangeTuple
        = .ok (cellOf samePortRun.axisKeys strangeTuple) := by decide
    cases hstrange.symm.trans hcell
    decide
  have hplan := plan_strangeCase
  have hrun := exists_exec_strangeCase
  have hsessions : (caseMatrix strangeCase false strangeTuple).sessions
      ((caseHost strangeCase).runHost (caseMatrix strangeCase false strangeTuple)) [] 1 = .ok [] := rfl
  generalize caseHost strangeCase = host at *
  generalize caseMatrix strangeCase false strangeTuple = run at *
  obtain ⟨tr, r, procs', hexec, hanswer⟩ := hrun
  have hcells : ∀ ans, (⟨.runCells, ans⟩ : Event SessionAns) ∈ tr →
      CellsRun run (host.runHost run) [] [] 1 true ans := by
    intro ans hmem
    rw [hanswer ans hmem]
    exact cellsRun_friendlyAnswer le_rfl hsessions
  exact ⟨tr, r, procs', hexec, skipped_main hplan hskip hexec hcells⟩

end TlsInterop
