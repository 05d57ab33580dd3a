import TlsInterop.Effects.Transition
import TlsInterop.Runner.Outcome

/-!
# The logs of failing cells

A cell that fails asks for a log: a file below a directory that `DebugRunLogs`
creates when the first cell asks.  The threads of a run share the path of that
directory; between reading and assigning it, creating the directory and writing
the file, the other threads go on.  The name of a file is built from the kind of
the failure, the two wrappers and a projection of the cipher.

## Main definitions

* `logName` — the name of a log.
* `CellExec` — a run of one cell, as `execute_matrix_cell` makes it.
* `LogPhase`, `LogStep`, `logSystem` — the writing of the logs, thread by thread.
* `Settled` — no other thread is creating the directory.
* `EvidenceKept` — every failing cell has its own log, all of them in one directory.

## Main results

* `saved_of_failed` — a cell that ends in FAIL or TIMEOUT has asked for a log and got it.
* `evidence_kept` — when the evidence is kept.
* `same_name_loses_evidence`, `race_loses_directory` — how it is lost.
-/

namespace TlsInterop

open Py Effects DriverM InteropDriver

/-! ### The name and the text of a log -/

/-- `re.sub(r"[^\w.-]+", "-", text)`, where `isWord` are the characters of `\w`;
`inRun` says that the last character was replaced. -/
def hyphenate (isWord : Char → Bool) (inRun : Bool) : List Char → List Char
  | [] => []
  | c :: l =>
    if isWord c || c = '.' || c = '-' then c :: hyphenate isWord false l
    else if inRun then hyphenate isWord true l
    else '-' :: hyphenate isWord true l

/-- The part of the name that comes from the cell. -/
def logCipher (isWord : Char → Bool) (cell : Cell) : String :=
  String.ofList ((hyphenate isWord false (strip (cell.field "cipher_suite")).toList).take 48)

/-- The name of a log, without its suffix; the kinds are `FAIL` and `TIMEOUT`. -/
def logName (isWord : Char → Bool) (kind : String) (run : CellRun) : String :=
  let name := lower (strip kind) ++ "_" ++ run.server ++ "_x_" ++ run.client
  let cipher := logCipher isWord run.cell
  if cipher = "" then name else name ++ "_" ++ cipher

/-- `"\n".join(body).rstrip() + "\n"`. -/
def logText (body : List String) : String :=
  String.ofList ((String.intercalate "\n" body).toList.rdropWhile isSpace) ++ "\n"

/-! ### The runs of the cells -/

/-- A run of one cell, from the construction of its configurations on, that returns `rc`. -/
structure CellExec where
  addresses : Except PyExc (String × String)
  run : CellRun
  serverConf : TlsConfig
  clientConf : TlsConfig
  tcpHost : String
  tcpPort : ℤ
  wroot : String
  before : InteropDriver
  after : InteropDriver
  trace : List (Event DriverAns)
  rc : ℤ
  exec : (executeConfiguredCell addresses run serverConf clientConf tcpHost tcpPort wroot).Exec
    before trace (.ok rc) after

namespace CellExec

/-- The cell ends in FAIL or TIMEOUT and failures are logged. -/
def Failed (c : CellExec) : Prop := (c.rc = 1 ∨ c.rc = exitTimeout) ∧ c.run.debugLogs = true

end CellExec

/-- What a cell asks to log. -/
structure LogJob where
  kind : String
  run : CellRun
  body : List String

/-- The request of a log in the run of a cell. -/
def LogJob.request (job : LogJob) (ans : Except PyExc Unit) : Event DriverAns :=
  ⟨.writeLog job.kind job.run.server job.run.client job.body, ans⟩

/-! ### Writing the logs -/

/-- Where the thread of a cell is in `write_fail_log`. -/
inductive LogPhase
  /-- Outside the function. -/
  | idle
  /-- In `ensure_run_dir`, having found no path. -/
  | create (job : LogJob)
  /-- After the assignment of the path. -/
  | makeDir (job : LogJob)
  /-- Before the path is returned. -/
  | found (job : LogJob)
  /-- Before the file is written, in this directory. -/
  | write (job : LogJob) (dir : String)
  /-- The file has been written there. -/
  | saved (job : LogJob) (dir : String)

/-- What the threads share, and where each of them is: the path of `DebugRunLogs`,
the directories and the files. -/
structure LogState where
  path : Option String
  dirs : List String
  files : Dict (String × String) String
  phases : ℕ → LogPhase

section

variable (isWord : Char → Bool) (root : String) (cells : ℕ → Option CellExec)

/-- The `i`-th cell asks for the log. -/
def Asks (i : ℕ) (job : LogJob) : Prop :=
  ∃ c, cells i = some c ∧ job.run = c.run ∧ ∃ ans, job.request ans ∈ c.trace

/-- `repo / "debug_logs" / f"run_{ts}"`. -/
def runDir (ts : String) : String := root ++ "/debug_logs/run_" ++ ts

/-- One step of the thread of the `i`-th cell. -/
inductive LogStep (i : ℕ) : LogState → LogState → Prop
  | beginCreate {s : LogState} {job : LogJob} (hphase : s.phases i = .idle)
      (hask : Asks cells i job) (hpath : s.path = none) :
      LogStep i s { s with phases := Function.update s.phases i (.create job) }
  | beginFound {s : LogState} {job : LogJob} {dir : String} (hphase : s.phases i = .idle)
      (hask : Asks cells i job) (hpath : s.path = some dir) :
      LogStep i s { s with phases := Function.update s.phases i (.found job) }
  | assign {s : LogState} {job : LogJob} (ts : String) (hphase : s.phases i = .create job) :
      LogStep i s
        { s with
          path := some (runDir root ts)
          phases := Function.update s.phases i (.makeDir job) }
  | makeDir {s : LogState} {job : LogJob} {dir : String} (hphase : s.phases i = .makeDir job)
      (hpath : s.path = some dir) :
      LogStep i s
        { s with dirs := dir :: s.dirs, phases := Function.update s.phases i (.found job) }
  | returnPath {s : LogState} {job : LogJob} {dir : String} (hphase : s.phases i = .found job)
      (hpath : s.path = some dir) :
      LogStep i s { s with phases := Function.update s.phases i (.write job dir) }
  | write {s : LogState} {job : LogJob} {dir : String} (hphase : s.phases i = .write job dir)
      (hdir : dir ∈ s.dirs) :
      LogStep i s
        { s with
          files := s.files.set (dir, logName isWord job.kind job.run) (logText job.body)
          phases := Function.update s.phases i (.saved job dir) }
  | writeRaises {s : LogState} {job : LogJob} {dir : String} (hphase : s.phases i = .write job dir)
      (hdir : dir ∉ s.dirs) :
      LogStep i s { s with phases := Function.update s.phases i .idle }

/-- The threads before any cell has failed. -/
def LogState.initial (dirs : List String) (files : Dict (String × String) String) : LogState where
  path := none
  dirs := dirs
  files := files
  phases := fun _ => .idle

/-- A thread is about to create the directory. -/
def LogPhase.creating : LogPhase → Bool
  | .create _ | .makeDir _ => true
  | _ => false

/-- No cell but the `i`-th is creating the directory. -/
def Settled (i : ℕ) (s : LogState) : Prop := ∀ j, j ≠ i → (s.phases j).creating = false

/-- A cell asks for its log while another one is creating the directory. -/
def Overtakes (i : ℕ) (s : LogState) : Prop := s.phases i = .idle ∧ ¬ Settled i s

/-- The logs of a run, with the directories and files there are before it. -/
def logSystem (dirs : List String) (files : Dict (String × String) String) : System LogState where
  init := .initial dirs files
  Step s s' := ∃ i, LogStep isWord root cells i s s'

/-- The steps of `logSystem` in which no cell asks for its log while another one is
creating the directory. -/
def settledSystem (dirs : List String) (files : Dict (String × String) String) :
    System LogState where
  init := .initial dirs files
  Step s s' := ∃ i, LogStep isWord root cells i s s' ∧ ¬ Overtakes i s

/-- The requests of the cells that were answered are those the threads have served. -/
def Served (s : LogState) : Prop :=
  ∀ i c, cells i = some c → ∀ job : LogJob, job.run = c.run → job.request (.ok ()) ∈ c.trace →
    ∃ dir, s.phases i = .saved job dir

/-- **Every failing cell has its own log**, with its parameters and its trace, and all
the logs are in one directory. -/
def EvidenceKept (s : LogState) : Prop :=
  ∃ dir, ∃ name : ℕ → String, ∀ i c, cells i = some c → c.Failed →
    (∃ kind body, failLogBody kind c.run c.after = .ok body ∧
      s.files.get? (dir, name i) = some (logText body)) ∧
    ∀ j c', cells j = some c' → c'.Failed → j ≠ i → name j ≠ name i

/-- Logs of different cells have different names. -/
def DistinctNames : Prop :=
  ∀ i j job job', Asks cells i job → Asks cells j job' → i ≠ j →
    logName isWord job.kind job.run ≠ logName isWord job'.kind job'.run

end

/-! ### What a failing cell asks for -/

section

variable {run : CellRun} {d d' : InteropDriver} {tr : List (Event DriverAns)}

/-- The log of the driver `d` has been written in the run `tr`. -/
def LogSaved (run : CellRun) (d : InteropDriver) (tr : List (Event DriverAns)) : Prop :=
  ∃ kind body, failLogBody kind run d = .ok body ∧
    (⟨.writeLog kind run.server run.client body, .ok ()⟩ : Event DriverAns) ∈ tr

theorem LogSaved.mono {tr' : List (Event DriverAns)} (h : LogSaved run d tr)
    (hsub : ∀ e ∈ tr, e ∈ tr') : LogSaved run d tr' := by
  obtain ⟨kind, body, hbody, hmem⟩ := h
  exact ⟨kind, body, hbody, hsub _ hmem⟩

/-- A log that is saved without an exception has been written. -/
theorem logSaved_of_save {kind : String} (hdebug : run.debugLogs = true)
    (h : (saveCellDebugLog run kind).Exec d tr (.ok ()) d') : LogSaved run d' tr ∧ d' = d := by
  unfold saveCellDebugLog at h
  rw [if_pos hdebug, Eff.exec_getState_bind] at h
  obtain ⟨body, d₁, tr₁, tr₂, rfl, hbody, hwrite⟩ := Eff.exec_bind_ok.mp h
  obtain ⟨rfl, hok, rfl⟩ := Eff.exec_ofExcept.mp hbody
  obtain ⟨ans, rfl, hans, rfl⟩ := Eff.exec_invoke.mp hwrite
  obtain rfl : ans = .ok () := hans
  exact ⟨⟨kind, body, hok, List.mem_cons_self⟩, rfl⟩

/-- What is logged last holds what the worker has noted by then. -/
theorem logSaved_of_saveLast (hdebug : run.debugLogs = true) {label summary kind : String}
    {rc rc' : ℤ} (h : (do
      catchUp
      noteFailure label summary
      catchUp
      saveCellDebugLog run kind
      return rc : DriverM ℤ).Exec d tr (.ok rc') d') : LogSaved run d' tr := by
  obtain ⟨noted, tr₁, rfl, hfail⟩ := exec_catchUp_bind.mp h
  obtain ⟨⟨⟩, d₁, tr₂, tr₃, rfl, -, hlast⟩ := Eff.exec_bind_ok.mp hfail
  obtain ⟨noted', tr₄, rfl, hrest⟩ := exec_catchUp_bind.mp hlast
  obtain ⟨⟨⟩, d₂, tr₅, tr₆, rfl, hsave, hret⟩ := Eff.exec_bind_ok.mp hrest
  obtain ⟨rfl, -, rfl⟩ := Eff.exec_pure.mp hret
  refine (logSaved_of_save hdebug hsave).1.mono fun e he => ?_
  apply List.mem_cons_of_mem
  apply List.mem_append_right
  apply List.mem_cons_of_mem
  exact List.mem_append_left _ he

/-- The outcome of a cell that fails has been logged. -/
theorem logSaved_of_outcome (hdebug : run.debugLogs = true) {ok : Option Bool} {timedOut : Bool}
    {rc : ℤ} (hrc : rc = 1 ∨ rc = exitTimeout)
    (h : (processCellOutcome run ok timedOut).Exec d tr (.ok rc) d') : LogSaved run d' tr := by
  unfold processCellOutcome at h
  cases timedOut with
  | true =>
    exact logSaved_of_saveLast hdebug h
  | false =>
    rw [if_neg Bool.false_ne_true, Eff.exec_getState_bind] at h
    have hplain : rc ≠ exitSkip ∧ rc ≠ 0 := by rcases hrc with rfl | rfl <;> decide
    split at h
    · obtain ⟨-, hret, -⟩ := Eff.exec_pure.mp h
      cases hret
      exact absurd rfl hplain.1
    · split at h
      · obtain ⟨⟨⟩, d₂, tr₃, tr₄, rfl, hsave, hret⟩ := Eff.exec_bind_ok.mp h
        obtain ⟨rfl, -, rfl⟩ := Eff.exec_pure.mp hret
        refine (logSaved_of_save hdebug hsave).1.mono fun e he => ?_
        exact List.mem_append_left _ he
      · obtain ⟨-, hret, -⟩ := Eff.exec_pure.mp h
        cases hret
        exact absurd rfl hplain.2

theorem driver_of_removeTlsSessionArtifactFiles {root : String} {r : Except PyExc Unit}
    (h : (removeTlsSessionArtifactFiles root).Exec d tr r d') : d' = d := by
  unfold removeTlsSessionArtifactFiles at h
  dsimp only at h
  split at h
  · rcases Eff.exec_bind.mp h with ⟨e, -, hraise⟩ | ⟨u, d₁, tr₁, tr₂, rfl, hticket, hearly⟩
    · obtain ⟨_, -, -, rfl⟩ := Eff.exec_call.mp hraise
      rfl
    · obtain ⟨_, -, -, rfl⟩ := Eff.exec_call.mp hticket
      obtain ⟨_, -, -, rfl⟩ := Eff.exec_call.mp hearly
      rfl
  · obtain ⟨-, -, rfl⟩ := Eff.exec_pure.mp h
    rfl

/-- **A cell that ends in FAIL or TIMEOUT has got the log it asked for.** -/
theorem saved_of_failed {c : CellExec} (h : c.Failed) : LogSaved c.run c.after c.trace := by
  obtain ⟨hrc, hdebug⟩ := h
  obtain ⟨r₁, r₂, d₁, tr₁, tr₂, htr, hr, hbody, hremove⟩ := Eff.exec_finallyDo.mp c.exec
  rw [htr, driver_of_removeTlsSessionArtifactFiles hremove]
  have hok : r₁ = .ok c.rc := by
    cases r₂ with
    | ok _ => exact hr.symm
    | error e => cases hr
  subst hok
  suffices hsaved : LogSaved c.run d₁ tr₁ from hsaved.mono fun e he => List.mem_append_left _ he
  rcases Eff.exec_tryCatch.mp hbody with ⟨rc, hrc', hrun⟩ | ⟨e, d₂, tr₃, tr₄, rfl, -, hhandle⟩
  · cases hrc'
    obtain ⟨⟨⟩, d₂, tr₃, tr₄, rfl, -, hrest⟩ := Eff.exec_bind_ok.mp hrun
    obtain ⟨⟨ok, timedOut, exc⟩, d₃, tr₅, tr₆, rfl, -, hout⟩ := Eff.exec_bind_ok.mp hrest
    cases exc with
    | some e => cases (Eff.exec_throw.mp hout).2.1
    | none =>
      refine (logSaved_of_outcome hdebug hrc hout).mono fun e he => ?_
      exact List.mem_append_right _ (List.mem_append_right _ he)
  · suffices hsaved : LogSaved c.run d₁ tr₄ from
      hsaved.mono fun e he => List.mem_append_right _ he
    unfold failConfiguredCell at hhandle
    dsimp only at hhandle
    split at hhandle
    · obtain ⟨⟨⟩, d₃, tr₅, tr₆, rfl, -, hrest⟩ := Eff.exec_bind_ok.mp hhandle
      exact (logSaved_of_saveLast hdebug hrest).mono fun e he => List.mem_append_right _ he
    · exact logSaved_of_saveLast hdebug hhandle

end

/-! ### One cell at a time creates the directory -/

section

variable {isWord : Char → Bool} {root : String} {cells : ℕ → Option CellExec} {s s' : LogState}

/-- The place of a thread fits what the threads share. -/
def LogPhase.Fits (isWord : Char → Bool) (cells : ℕ → Option CellExec) (s : LogState) (i : ℕ) :
    LogPhase → Prop
  | .idle => True
  | .create job => Asks cells i job ∧ s.path = none
  | .makeDir job => Asks cells i job ∧ s.path.isSome
  | .found job => Asks cells i job ∧ ∃ dir ∈ s.dirs, s.path = some dir
  | .write job dir => Asks cells i job ∧ s.path = some dir ∧ dir ∈ s.dirs
  | .saved job dir =>
    Asks cells i job ∧ s.path = some dir ∧
      s.files.get? (dir, logName isWord job.kind job.run) = some (logText job.body)

/-- The threads fit what they share; a thread that creates the directory is alone,
and once none does the directory is there. -/
structure LogInvariant (isWord : Char → Bool) (cells : ℕ → Option CellExec) (s : LogState) :
    Prop where
  fits : ∀ j, (s.phases j).Fits isWord cells s j
  alone : ∀ j, (s.phases j).creating = true → ∀ k, k ≠ j → s.phases k = .idle
  ready : ∀ dir, s.path = some dir → (∀ j, (s.phases j).creating = false) → dir ∈ s.dirs

/-- Nobody is creating the directory when one of the other places is taken. -/
theorem LogInvariant.settled (h : LogInvariant isWord cells s) {i : ℕ}
    (hi : s.phases i ≠ .idle) (hc : (s.phases i).creating = false) :
    ∀ j, (s.phases j).creating = false := by
  intro j
  by_contra hj
  rw [Bool.not_eq_false] at hj
  by_cases hij : i = j
  · rw [hij, hj] at hc
    cases hc
  · exact hi (h.alone j hj i hij)

/-- What a thread that is not creating the directory leaves of the invariant. -/
theorem LogInvariant.update {i : ℕ} {p : LogPhase} {dirs : List String}
    {files : Dict (String × String) String} (h : LogInvariant isWord cells s)
    (hnone : ∀ j, j ≠ i → (s.phases j).creating = false) (hp : p.creating = false)
    (hdirs : ∀ dir ∈ s.dirs, dir ∈ dirs)
    (hready : ∀ dir, s.path = some dir → dir ∈ dirs)
    (hfits : p.Fits isWord cells
      { s with dirs := dirs, files := files, phases := Function.update s.phases i p } i)
    (hfiles : ∀ j job dir, j ≠ i → s.phases j = .saved job dir →
      files.get? (dir, logName isWord job.kind job.run)
        = s.files.get? (dir, logName isWord job.kind job.run)) :
    LogInvariant isWord cells
      { s with dirs := dirs, files := files, phases := Function.update s.phases i p } where
  fits := by
    intro j
    by_cases hj : j = i
    · -- the cell that takes the step
      subst hj
      dsimp only
      rw [Function.update_self]
      exact hfits
    · dsimp only
      rw [Function.update_of_ne hj]
      -- the others see more directories, and their own files as before
      have hold := h.fits j
      cases hphase : s.phases j with
      | idle => trivial
      | create job => rw [hphase] at hold; exact hold
      | makeDir job => rw [hphase] at hold; exact hold
      | found job =>
        rw [hphase] at hold
        obtain ⟨hask, dir, hdir, hpath⟩ := hold
        exact ⟨hask, dir, hdirs dir hdir, hpath⟩
      | write job dir =>
        rw [hphase] at hold
        exact ⟨hold.1, hold.2.1, hdirs dir hold.2.2⟩
      | saved job dir =>
        rw [hphase] at hold
        exact ⟨hold.1, hold.2.1, (hfiles j job dir hj hphase).trans hold.2.2⟩
  alone := by
    intro j hj
    dsimp only at hj
    by_cases hji : j = i
    · rw [hji, Function.update_self, hp] at hj
      cases hj
    · rw [Function.update_of_ne hji, hnone j hji] at hj
      cases hj
  ready := fun dir hpath _ => hready dir hpath

/-- A thread among idle ones. -/
theorem LogInvariant.of_idle {i : ℕ} (hothers : ∀ j, j ≠ i → s.phases j = .idle)
    (hfits : (s.phases i).Fits isWord cells s i)
    (hready : ∀ dir, s.path = some dir → (s.phases i).creating = false → dir ∈ s.dirs) :
    LogInvariant isWord cells s where
  fits := by
    intro j
    by_cases hj : j = i
    · exact hj ▸ hfits
    · rw [hothers j hj]
      trivial
  alone := by
    intro j hj k hk
    by_cases hji : j = i
    · exact hothers k (hji ▸ hk)
    · rw [hothers j hji] at hj
      cases hj
  ready := fun dir hpath hnone => hready dir hpath (hnone i)

/-- Without a path a thread is idle or about to create the directory. -/
theorem LogPhase.Fits.idle_of_none {j : ℕ} {p : LogPhase} (h : p.Fits isWord cells s j)
    (hpath : s.path = none) (hp : p.creating = false) : p = .idle := by
  cases p with
  | idle => rfl
  | create job => cases hp
  | makeDir job => cases hp
  | found job =>
    obtain ⟨-, dir, -, hsome⟩ := h
    rw [hpath] at hsome
    cases hsome
  | write job dir =>
    have hsome : s.path = some dir := h.2.1
    rw [hpath] at hsome
    cases hsome
  | saved job dir =>
    have hsome : s.path = some dir := h.2.1
    rw [hpath] at hsome
    cases hsome

/-- A log asked for by another cell does not touch a saved one. -/
theorem files_of_other (hnames : DistinctNames isWord cells) (h : LogInvariant isWord cells s)
    {i : ℕ} {job : LogJob} (hask : Asks cells i job) (dir text : String) {j : ℕ} {job' : LogJob}
    {dir' : String} (hj : j ≠ i) (hphase : s.phases j = .saved job' dir') :
    (s.files.set (dir, logName isWord job.kind job.run) text).get?
        (dir', logName isWord job'.kind job'.run)
      = s.files.get? (dir', logName isWord job'.kind job'.run) := by
  have hfit := h.fits j
  rw [hphase] at hfit
  refine Dict.get?_set_of_ne (fun heq => ?_) _ _
  exact hnames i j job job' hask hfit.1 (Ne.symm hj) (Prod.mk.inj heq).2

/-- A step that overtakes nobody keeps the invariant. -/
theorem LogStep.invariant (hnames : DistinctNames isWord cells) {i : ℕ}
    (hstep : LogStep isWord root cells i s s') (hguard : ¬ Overtakes i s)
    (h : LogInvariant isWord cells s) : LogInvariant isWord cells s' := by
  have hfit := h.fits i
  have hsettled : s.phases i = .idle → Settled i s := fun hidle =>
    not_not.mp fun hnot => hguard ⟨hidle, hnot⟩
  -- the others stay where they are
  have hrest : ∀ {p : LogPhase}, (∀ j, j ≠ i → s.phases j = .idle) →
      ∀ j, j ≠ i → Function.update s.phases i p j = .idle := by
    intro p hothers j hj
    rw [Function.update_of_ne hj, hothers j hj]
  cases hstep with
  | @beginCreate job hphase hask hpath =>
    -- no path yet, so that no other cell has begun
    have hothers : ∀ j, j ≠ i → s.phases j = .idle := fun j hj =>
      (h.fits j).idle_of_none hpath (hsettled hphase j hj)
    refine .of_idle (hrest hothers) ?_ ?_
    · dsimp only
      rw [Function.update_self]
      exact ⟨hask, hpath⟩
    · intro dir hsome
      rw [show s.path = some dir from hsome] at hpath
      cases hpath
  | @beginFound job dir hphase hask hpath =>
    -- the path is there, and by the guard nobody is still making the directory
    have hnone : ∀ j, (s.phases j).creating = false := by
      intro j
      by_cases hj : j = i
      · rw [hj, hphase]
        rfl
      · exact hsettled hphase j hj
    have hdir := h.ready dir hpath hnone
    exact h.update (fun j _ => hnone j) rfl (fun _ hd => hd)
      (fun dir' hpath' => h.ready dir' hpath' hnone) ⟨hask, dir, hdir, hpath⟩ fun _ _ _ _ _ => rfl
  | @assign job ts hphase =>
    rw [hphase] at hfit
    refine .of_idle (hrest (h.alone i (by rw [hphase]; rfl))) ?_ ?_
    · dsimp only
      rw [Function.update_self]
      exact ⟨hfit.1, rfl⟩
    · intro dir _ hcreating
      dsimp only at hcreating
      rw [Function.update_self] at hcreating
      cases hcreating
  | @makeDir job dir hphase hpath =>
    rw [hphase] at hfit
    refine .of_idle (hrest (h.alone i (by rw [hphase]; rfl))) ?_ ?_
    · dsimp only
      rw [Function.update_self]
      exact ⟨hfit.1, dir, List.mem_cons_self, hpath⟩
    · intro dir' hsome _
      have heq : some dir = some dir' := hpath.symm.trans hsome
      cases heq
      exact List.mem_cons_self
  | @returnPath job dir hphase hpath =>
    have hnone := h.settled (i := i) (by rw [hphase]; rintro ⟨⟩) (by rw [hphase]; rfl)
    rw [hphase] at hfit
    exact h.update (fun j _ => hnone j) rfl (fun _ hd => hd)
      (fun dir' hpath' => h.ready dir' hpath' hnone)
      ⟨hfit.1, hpath, h.ready dir hpath hnone⟩ fun _ _ _ _ _ => rfl
  | @write job dir hphase hdir =>
    have hnone := h.settled (i := i) (by rw [hphase]; rintro ⟨⟩) (by rw [hphase]; rfl)
    rw [hphase] at hfit
    refine h.update (fun j _ => hnone j) rfl (fun _ hd => hd)
      (fun dir' hpath' => h.ready dir' hpath' hnone) ⟨hfit.1, hfit.2.1, ?_⟩
      fun j job' dir' hj hsaved => files_of_other hnames h hfit.1 dir _ hj hsaved
    -- the file just written; those of the other cells have other names
    rw [Dict.get?_set, if_pos rfl]
  | @writeRaises job dir hphase hdir =>
    rw [hphase] at hfit
    -- the directory of a cell that writes has been made
    exact absurd hfit.2.2 hdir

/-- The invariant of the runs in which no cell overtakes another one. -/
theorem logInvariant_of_reachable (hnames : DistinctNames isWord cells) {dirs : List String}
    {files : Dict (String × String) String}
    (h : (settledSystem isWord root cells dirs files).Reachable s) :
    LogInvariant isWord cells s := by
  refine h.induct (P := LogInvariant isWord cells) ?_ fun s s' _ ih hstep => ?_
  · exact ⟨fun _ => trivial, fun _ hj => (Bool.false_ne_true hj).elim, by rintro dir ⟨⟩⟩
  · obtain ⟨i, hstep, hguard⟩ := hstep
    exact hstep.invariant hnames hguard ih

/-- **When the evidence is kept.**  In a run in which logs of different cells have
different names and no cell asks for its log while another one is creating the
directory, no log fails to be written, and when the requests of the cells have been
served every failing cell has its own log, all of them in one directory.  Without the
first condition a log replaces another one; without the second two cells create a
directory each. -/
theorem evidence_kept (hnames : DistinctNames isWord cells) {dirs : List String}
    {files : Dict (String × String) String}
    (h : (settledSystem isWord root cells dirs files).Reachable s) :
    (∀ i job dir, s.phases i = .write job dir → dir ∈ s.dirs) ∧
      (Served cells s → EvidenceKept cells s) := by
  have hinv := logInvariant_of_reachable hnames h
  constructor
  · intro i job dir hphase
    have hfit := hinv.fits i
    rw [hphase] at hfit
    exact hfit.2.2
  · intro hserved
    -- the log of a failing cell
    have hlog : ∀ i c, cells i = some c → c.Failed → ∃ job : LogJob, Asks cells i job ∧
        failLogBody job.kind c.run c.after = .ok job.body ∧ job.run = c.run ∧
        ∃ dir, s.path = some dir ∧
          s.files.get? (dir, logName isWord job.kind job.run) = some (logText job.body) := by
      intro i c hc hfailed
      obtain ⟨kind, body, hbody, hmem⟩ := saved_of_failed hfailed
      obtain ⟨dir, hphase⟩ := hserved i c hc ⟨kind, c.run, body⟩ rfl hmem
      have hfit := hinv.fits i
      rw [hphase] at hfit
      exact ⟨⟨kind, c.run, body⟩, hfit.1, hbody, rfl, dir, hfit.2.1, hfit.2.2⟩
    have hname : ∀ i, ∃ name, ∀ c, cells i = some c → c.Failed → ∃ job : LogJob,
        Asks cells i job ∧ failLogBody job.kind c.run c.after = .ok job.body ∧
        name = logName isWord job.kind job.run ∧
        s.files.get? (s.path.getD "", name) = some (logText job.body) := by
      intro i
      by_cases hfail : ∃ c, cells i = some c ∧ c.Failed
      · obtain ⟨c, hc, hfailed⟩ := hfail
        obtain ⟨job, hask, hbody, -, dir, hdir, hfile⟩ := hlog i c hc hfailed
        refine ⟨logName isWord job.kind job.run, fun c' hc' _ => ?_⟩
        rw [hc, Option.some.injEq] at hc'
        rw [hdir]
        exact ⟨job, hask, hc' ▸ hbody, rfl, hfile⟩
      · exact ⟨"", fun c hc hfailed => absurd ⟨c, hc, hfailed⟩ hfail⟩
    choose name hname using hname
    refine ⟨s.path.getD "", name, fun i c hc hfailed => ⟨?_, fun j c' hc' hfailed' hji => ?_⟩⟩
    · obtain ⟨job, -, hbody, -, hfile⟩ := hname i c hc hfailed
      exact ⟨job.kind, job.body, hbody, hfile⟩
    · obtain ⟨job, hask, -, hi, -⟩ := hname i c hc hfailed
      obtain ⟨job', hask', -, hj, -⟩ := hname j c' hc' hfailed'
      rw [hi, hj]
      exact hnames j i job' job hask' hask hji

/-! ### Logs written one after the other -/

/-- A run without overtaking is a run. -/
theorem reachable_of_settled {dirs : List String} {files : Dict (String × String) String}
    (h : (settledSystem isWord root cells dirs files).Reachable s) :
    (logSystem isWord root cells dirs files).Reachable s := by
  refine h.induct (P := (logSystem isWord root cells dirs files).Reachable) System.reachable_init
    fun s s' _ ih hstep => ?_
  obtain ⟨i, hstep, -⟩ := hstep
  exact ih.step ⟨i, hstep⟩

/-- The directory is there and nobody is creating it. -/
def LogState.Ready (s : LogState) (dir : String) : Prop :=
  s.path = some dir ∧ dir ∈ s.dirs ∧ ∀ j, (s.phases j).creating = false

/-- The state after the `i`-th cell has written its log in `dir`. -/
def LogState.written (isWord : Char → Bool) (s : LogState) (i : ℕ) (job : LogJob) (dir : String) :
    LogState :=
  { s with
    files := s.files.set (dir, logName isWord job.kind job.run) (logText job.body)
    phases := Function.update s.phases i (.saved job dir) }

theorem LogState.written_ready {dir : String} (h : s.Ready dir) (i : ℕ) (job : LogJob) :
    (s.written isWord i job dir).Ready dir := by
  refine ⟨h.1, h.2.1, fun j => ?_⟩
  show (Function.update s.phases i _ j).creating = false
  by_cases hj : j = i
  · rw [hj, Function.update_self]
    rfl
  · rw [Function.update_of_ne hj]
    exact h.2.2 j

/-- A thread that has asked for its log overtakes nobody. -/
theorem not_overtakes {i : ℕ} {p : LogPhase} (hphase : s.phases i = p) (hp : p ≠ .idle) :
    ¬ Overtakes i s := by
  rintro ⟨hidle, -⟩
  exact hp (hphase.symm.trans hidle)

/-- A cell that asks once the directory is there writes its log. -/
theorem reachable_written {dirs : List String} {files : Dict (String × String) String}
    (h : (settledSystem isWord root cells dirs files).Reachable s) {i : ℕ} {job : LogJob}
    {dir : String} (hready : s.Ready dir) (hidle : s.phases i = .idle) (hask : Asks cells i job) :
    (settledSystem isWord root cells dirs files).Reachable (s.written isWord i job dir) := by
  obtain ⟨hpath, hdir, hnone⟩ := hready
  have hself : ∀ p, Function.update s.phases i p i = p := fun p => Function.update_self ..
  have h₁ := h.step ⟨i, .beginFound hidle hask hpath, fun hover => hover.2 fun j _ => hnone j⟩
  have h₂ := h₁.step ⟨i, .returnPath (hself _) hpath, not_overtakes (hself _) (by rintro ⟨⟩)⟩
  simp only [Function.update_idem] at h₂
  have h₃ := h₂.step ⟨i, .write (hself _) hdir, not_overtakes (hself _) (by rintro ⟨⟩)⟩
  simp only [Function.update_idem] at h₃
  exact h₃

/-- The first cell that asks creates the directory and writes its log. -/
theorem reachable_first {dirs : List String} {files : Dict (String × String) String} {i : ℕ}
    {job : LogJob} (hask : Asks cells i job) (ts : String) :
    (settledSystem isWord root cells dirs files).Reachable
      (({ path := some (runDir root ts), dirs := runDir root ts :: dirs, files := files,
          phases := fun _ => .idle } : LogState).written isWord i job (runDir root ts)) := by
  have hself : ∀ p, Function.update (fun _ : ℕ => LogPhase.idle) i p i = p :=
    fun p => Function.update_self ..
  have h₁ := System.reachable_init (S := settledSystem isWord root cells dirs files) |>.step
    ⟨i, .beginCreate rfl hask rfl, fun hover => hover.2 fun _ _ => rfl⟩
  have h₂ := h₁.step ⟨i, .assign ts (hself _), not_overtakes (hself _) (by rintro ⟨⟩)⟩
  simp only [Function.update_idem] at h₂
  have h₃ := h₂.step ⟨i, .makeDir (hself _) rfl, not_overtakes (hself _) (by rintro ⟨⟩)⟩
  simp only [Function.update_idem] at h₃
  have h₄ := h₃.step ⟨i, .returnPath (hself _) rfl, not_overtakes (hself _) (by rintro ⟨⟩)⟩
  simp only [Function.update_idem] at h₄
  have h₅ := h₄.step
    ⟨i, .write (hself _) List.mem_cons_self, not_overtakes (hself _) (by rintro ⟨⟩)⟩
  simp only [Function.update_idem] at h₅
  exact h₅

end

/-! ### Logs that are lost -/

/-- `\w`, among the characters of ASCII. -/
def asciiWord (c : Char) : Bool := c.isAlphanum || c = '_'

/-- Wrappers that refuse every operation. -/
def refusedCellEnv : Prog.Env DriverAns
  | _, .execute .. => .error ⟨.rpcError, "unavailable"⟩
  | _, .waitTcp .. => .ok (true, "")
  | _, .joinWorker => none
  | _, .rejoinWorker => ()
  | _, .workerNotes => []
  | _, .writeLog .. => .ok ()
  | _, .unlink _ => ()

/-- A cell of OpenSSL and GnuTLS. -/
def loggedRun (cipher group : String) : CellRun where
  server := "openssl"
  client := "gnutls"
  cell := [(.str "server", "openssl"), (.str "client", "gnutls"), (.str "cipher_suite", cipher),
    (.str "supported_groups", group)]
  debugLogs := true

/-- The run of such a cell with wrappers that refuse. -/
abbrev refusedCellRun (run : CellRun) : (Except PyExc ℤ × InteropDriver) × List (Event DriverAns) :=
  ((executeConfiguredCell (.ok ("127.0.0.1:15051", "127.0.0.1:15052")) run {} {} "127.0.0.1" 5555
    "/repo").prog {}).exec refusedCellEnv []

/-- The kind and the body of every log that is asked for. -/
def logRequests (tr : List (Event DriverAns)) : List (String × List String) :=
  tr.filterMap fun
    | ⟨.writeLog kind _ _ body, _⟩ => some (kind, body)
    | _ => none

theorem mem_logRequests {job : LogJob} {ans : Except PyExc Unit} {tr : List (Event DriverAns)}
    (h : job.request ans ∈ tr) : (job.kind, job.body) ∈ logRequests tr :=
  List.mem_filterMap.mpr ⟨_, h, rfl⟩

/-- Three cells: the first two differ in their groups, the last one in its cipher. -/
def loggedRuns : List CellRun :=
  [loggedRun "aes-128-gcm" "x25519", loggedRun "aes-128-gcm" "secp-256r1",
    loggedRun "aes-256-gcm" "x25519"]

theorem refusedCellRun_fails : ∀ run ∈ loggedRuns, (refusedCellRun run).1.1 = .ok 1 ∧
    (logRequests (refusedCellRun run).2).map Prod.fst = ["FAIL"] := by
  decide +kernel

/-- The run of a cell that fails. -/
def failingCell (run : CellRun) (h : run ∈ loggedRuns) : CellExec where
  addresses := .ok ("127.0.0.1:15051", "127.0.0.1:15052")
  run := run
  serverConf := {}
  clientConf := {}
  tcpHost := "127.0.0.1"
  tcpPort := 5555
  wroot := "/repo"
  before := {}
  after := (refusedCellRun run).1.2
  trace := (refusedCellRun run).2
  rc := 1
  exec := (refusedCellRun_fails run h).1 ▸ Eff.exec_run ..

theorem failingCell_failed {run : CellRun} (h : run ∈ loggedRuns) :
    (failingCell run h).Failed := by
  have hdebug : ∀ run ∈ loggedRuns, run.debugLogs = true := by decide
  exact ⟨.inl rfl, hdebug run h⟩

/-- A cell that fails and asks for one log. -/
structure LogsOnce (c : CellExec) (job : LogJob) : Prop where
  failed : c.Failed
  run_eq : job.run = c.run
  asked : job.request (.ok ()) ∈ c.trace
  only : ∀ (job' : LogJob) (ans : Except PyExc Unit), job'.run = c.run →
    job'.request ans ∈ c.trace → job' = job

/-- Such a cell asks for one log. -/
theorem exists_logsOnce {run : CellRun} (h : run ∈ loggedRuns) :
    ∃ c job, job.kind = "FAIL" ∧ job.run = run ∧ LogsOnce c job := by
  obtain ⟨kind, body, -, hmem⟩ := saved_of_failed (failingCell_failed h)
  have hkinds := (refusedCellRun_fails run h).2
  obtain ⟨e, he, hfst⟩ := List.map_eq_singleton_iff.mp hkinds
  have hjob : ∀ (job : LogJob) (ans : Except PyExc Unit),
      job.request ans ∈ (failingCell run h).trace → (job.kind, job.body) = e := by
    intro job ans hreq
    have hin := mem_logRequests hreq
    rwa [show (failingCell run h).trace = (refusedCellRun run).2 from rfl, he,
      List.mem_singleton] at hin
  have hself := hjob ⟨kind, run, body⟩ (.ok ()) hmem
  refine ⟨failingCell run h, ⟨kind, run, body⟩, ?_, rfl, failingCell_failed h, rfl, hmem, ?_⟩
  · rw [← hfst, ← hself]
  · rintro ⟨kind', run', body'⟩ ans hrun hreq
    obtain rfl : run' = run := hrun
    have hother := (hjob _ ans hreq).trans hself.symm
    cases hother
    rfl

/-- Two failing cells. -/
def twoCells (c c' : CellExec) : ℕ → Option CellExec
  | 0 => some c
  | 1 => some c'
  | _ => none

section

variable {c c' : CellExec} {job job' : LogJob}

/-- Two cells that fail have served their only requests once both are saved. -/
theorem served_twoCells (h : LogsOnce c job) (h' : LogsOnce c' job') {dir dir' : String}
    {s : LogState} (h₀ : s.phases 0 = .saved job dir) (h₁ : s.phases 1 = .saved job' dir') :
    Served (twoCells c c') s := by
  rintro (_ | _ | i) d hd j hrun hreq
  · cases hd
    exact ⟨dir, h.only j _ hrun hreq ▸ h₀⟩
  · cases hd
    exact ⟨dir', h'.only j _ hrun hreq ▸ h₁⟩
  · cases hd

/-- Kept evidence of two failing cells is two files of one directory. -/
theorem not_evidenceKept_twoCells (h : LogsOnce c job) (h' : LogsOnce c' job') {s : LogState}
    (hfiles : ∀ dir name name' text text', s.files.get? (dir, name) = some text →
      s.files.get? (dir, name') = some text' → name = name') :
    ¬ EvidenceKept (twoCells c c') s := by
  rintro ⟨dir, name, hkept⟩
  obtain ⟨⟨_, _, -, hfile₀⟩, -⟩ := hkept 0 c rfl h.failed
  obtain ⟨⟨_, _, -, hfile₁⟩, hne⟩ := hkept 1 c' rfl h'.failed
  have hdiffer := hne 0 c rfl h.failed Nat.zero_ne_one
  exact hdiffer (hfiles _ _ _ _ _ hfile₀ hfile₁)

/-- Two cells that ask for one log each have different names when these logs do. -/
theorem distinctNames_twoCells (h : LogsOnce c job) (h' : LogsOnce c' job')
    {isWord : Char → Bool}
    (hname : logName isWord job.kind job.run ≠ logName isWord job'.kind job'.run) :
    DistinctNames isWord (twoCells c c') := by
  rintro (_ | _ | i) (_ | _ | j) k k' ⟨d, hd, hrun, ans, hreq⟩ ⟨d', hd', hrun', ans', hreq'⟩ hij
  · exact absurd rfl hij
  · cases hd
    cases hd'
    rw [h.only k ans hrun hreq, h'.only k' ans' hrun' hreq']
    exact hname
  · cases hd'
  · cases hd
    cases hd'
    rw [h'.only k ans hrun hreq, h.only k' ans' hrun' hreq']
    exact hname.symm
  · exact absurd rfl hij
  · cases hd'
  all_goals cases hd

/-- The log of a cell replaces the one of an earlier cell that has its name. -/
theorem overwritten (h : LogsOnce c job) (h' : LogsOnce c' job') {isWord : Char → Bool}
    (hname : logName isWord job'.kind job'.run = logName isWord job.kind job.run) (root ts : String) :
    ∃ s, (logSystem isWord root (twoCells c c') [] []).Reachable s ∧ Served (twoCells c c') s ∧
      ¬ EvidenceKept (twoCells c c') s := by
  have hask : Asks (twoCells c c') 0 job := ⟨c, rfl, h.run_eq, _, h.asked⟩
  have hask' : Asks (twoCells c c') 1 job' := ⟨c', rfl, h'.run_eq, _, h'.asked⟩
  have hfirst : (settledSystem isWord root (twoCells c c') [] []).Reachable _ :=
    reachable_first hask ts
  have hboth := reachable_written hfirst
    (LogState.written_ready ⟨rfl, List.mem_cons_self, fun _ => rfl⟩ 0 job) rfl hask'
  refine ⟨_, reachable_of_settled hboth, served_twoCells h h' rfl rfl,
    not_evidenceKept_twoCells h h' fun dir name name' text text' hfile hfile' => ?_⟩
  -- the only file of the run
  have hkey : ∀ name text, ((Dict.set [] (runDir root ts, logName isWord job.kind job.run)
      (logText job.body)).set (runDir root ts, logName isWord job'.kind job'.run)
        (logText job'.body)).get? (dir, name) = some text →
      name = logName isWord job.kind job.run := by
    intro name text hget
    rw [hname, Dict.set_set, Dict.get?_set] at hget
    split at hget
    · next heq => exact (Prod.mk.inj heq).2.symm
    · cases hget
  exact (hkey name text hfile).trans (hkey name' text' hfile').symm

/-- Two cells that both find no directory leave their logs in two directories. -/
theorem torn_apart (h : LogsOnce c job) (h' : LogsOnce c' job') {isWord : Char → Bool}
    {root ts ts' : String} (hts : runDir root ts ≠ runDir root ts') :
    ∃ s, (logSystem isWord root (twoCells c c') [] []).Reachable s ∧ Served (twoCells c c') s ∧
      ¬ EvidenceKept (twoCells c c') s := by
  have hask : Asks (twoCells c c') 0 job := ⟨c, rfl, h.run_eq, _, h.asked⟩
  have hask' : Asks (twoCells c c') 1 job' := ⟨c', rfl, h'.run_eq, _, h'.asked⟩
  have h₀ : (logSystem isWord root (twoCells c c') [] []).Reachable (.initial [] []) :=
    System.reachable_init
  have h₁ := h₀.step ⟨0, .beginCreate rfl hask rfl⟩
  have h₂ := h₁.step ⟨1, .beginCreate rfl hask' rfl⟩
  have h₃ := h₂.step ⟨0, .assign ts rfl⟩
  have h₄ := h₃.step ⟨0, .makeDir rfl rfl⟩
  have h₅ := h₄.step ⟨0, .returnPath rfl rfl⟩
  have h₆ := h₅.step ⟨0, .write rfl List.mem_cons_self⟩
  have h₇ := h₆.step ⟨1, .assign ts' rfl⟩
  have h₈ := h₇.step ⟨1, .makeDir rfl rfl⟩
  have h₉ := h₈.step ⟨1, .returnPath rfl rfl⟩
  have hlast := h₉.step ⟨1, .write rfl List.mem_cons_self⟩
  refine ⟨_, hlast, served_twoCells h h' rfl rfl,
    not_evidenceKept_twoCells h h' fun dir name name' text text' hfile hfile' => ?_⟩
  -- each directory has one file
  have hkey : ∀ name text, ((Dict.set [] (runDir root ts, logName isWord job.kind job.run)
      (logText job.body)).set (runDir root ts', logName isWord job'.kind job'.run)
        (logText job'.body)).get? (dir, name) = some text →
      (dir = runDir root ts ∧ name = logName isWord job.kind job.run) ∨
        (dir = runDir root ts' ∧ name = logName isWord job'.kind job'.run) := by
    intro name text hget
    rw [Dict.get?_set, Dict.get?_set] at hget
    split at hget
    · next heq => exact .inr ⟨(Prod.mk.inj heq).1.symm, (Prod.mk.inj heq).2.symm⟩
    · split at hget
      · next heq => exact .inl ⟨(Prod.mk.inj heq).1.symm, (Prod.mk.inj heq).2.symm⟩
      · cases hget
  rcases hkey name text hfile with ⟨hdir, hn⟩ | ⟨hdir, hn⟩ <;>
    rcases hkey name' text' hfile' with ⟨hdir', hn'⟩ | ⟨hdir', hn'⟩
  · rw [hn, hn']
  · exact absurd (hdir.symm.trans hdir') hts
  · exact absurd (hdir'.symm.trans hdir) hts
  · rw [hn, hn']

end

/-- Two cells that differ in their groups only fail one after the other, and the
log of the second one replaces that of the first one. -/
theorem same_name_loses_evidence :
    ∃ cells s, (logSystem asciiWord "/repo" cells [] []).Reachable s ∧ Served cells s ∧
      ¬ EvidenceKept cells s := by
  have hfirst : loggedRun "aes-128-gcm" "x25519" ∈ loggedRuns := .head _
  have hsecond : loggedRun "aes-128-gcm" "secp-256r1" ∈ loggedRuns := .tail _ (.head _)
  obtain ⟨c, job, hkind, hrun, h⟩ := exists_logsOnce hfirst
  obtain ⟨c', job', hkind', hrun', h'⟩ := exists_logsOnce hsecond
  have hname : logName asciiWord job'.kind job'.run = logName asciiWord job.kind job.run := by
    rw [hkind, hrun, hkind', hrun']
    decide
  exact ⟨_, overwritten h h' hname "/repo" "20250101_120000"⟩

/-- Two cells with logs of different names fail at the same time, both find no
directory, and their logs end up in two directories. -/
theorem race_loses_directory :
    ∃ cells s, (logSystem asciiWord "/repo" cells [] []).Reachable s ∧
      DistinctNames asciiWord cells ∧ Served cells s ∧ ¬ EvidenceKept cells s := by
  have hfirst : loggedRun "aes-128-gcm" "x25519" ∈ loggedRuns := .head _
  have hsecond : loggedRun "aes-256-gcm" "x25519" ∈ loggedRuns := .tail _ (.tail _ (.head _))
  obtain ⟨c, job, hkind, hrun, h⟩ := exists_logsOnce hfirst
  obtain ⟨c', job', hkind', hrun', h'⟩ := exists_logsOnce hsecond
  have hname : logName asciiWord job.kind job.run ≠ logName asciiWord job'.kind job'.run := by
    rw [hkind, hrun, hkind', hrun']
    decide
  have hts : runDir "/repo" "20250101_120000" ≠ runDir "/repo" "20250101_120001" := by decide
  obtain ⟨s, hs, hserved, hlost⟩ := torn_apart h h' hts
  exact ⟨_, s, hs, distinctNames_twoCells h h' hname, hserved, hlost⟩

/-- Two cells of different ciphers fail one after the other, and both keep their logs. -/
theorem evidence_kept_pair :
    ∃ cells s, (settledSystem asciiWord "/repo" cells [] []).Reachable s ∧
      (∃ c, cells 0 = some c ∧ c.Failed) ∧ (∃ c, cells 1 = some c ∧ c.Failed) ∧
      EvidenceKept cells s := by
  have hfirst : loggedRun "aes-128-gcm" "x25519" ∈ loggedRuns := .head _
  have hsecond : loggedRun "aes-256-gcm" "x25519" ∈ loggedRuns := .tail _ (.tail _ (.head _))
  obtain ⟨c, job, hkind, hrun, h⟩ := exists_logsOnce hfirst
  obtain ⟨c', job', hkind', hrun', h'⟩ := exists_logsOnce hsecond
  have hname : logName asciiWord job.kind job.run ≠ logName asciiWord job'.kind job'.run := by
    rw [hkind, hrun, hkind', hrun']
    decide
  have hask : Asks (twoCells c c') 0 job := ⟨c, rfl, h.run_eq, _, h.asked⟩
  have hask' : Asks (twoCells c c') 1 job' := ⟨c', rfl, h'.run_eq, _, h'.asked⟩
  have hone : (settledSystem asciiWord "/repo" (twoCells c c') [] []).Reachable _ :=
    reachable_first hask "20250101_120000"
  have hboth := reachable_written hone
    (LogState.written_ready ⟨rfl, List.mem_cons_self, fun _ => rfl⟩ 0 job) rfl hask'
  exact ⟨_, _, hboth, ⟨c, rfl, h.failed⟩, ⟨c', rfl, h'.failed⟩,
    (evidence_kept (distinctNames_twoCells h h' hname) hboth).2 (served_twoCells h h' rfl rfl)⟩

end TlsInterop
