import TlsInterop.Runner.Launch

/-!
# What becomes of the wrapper processes

A run asks, signals and waits for processes that it has started, and for no others.  It
signals them after its cells have been run, whatever came of the cells, and it kills
only a process that did not end in time.  When no signal is refused, every process of
such a run is gone at its end.

## Main definitions

* `wrapperProcs` — the processes that a run holds, starts and touches.
* `Tended` — what every run keeps to.
* `Reaped` — a process has been asked to end, and is then gone.

## Main results

* `executeMatrixExecution_owned` — a run touches only what it has started.
* `tended_of_run` — every run keeps to its manners, whatever its outcome.
* `started_run_reaped` — a run that comes to its cells leaves no process behind.
-/

namespace TlsInterop

open Py Effects

/-! ### Processes as resources -/

/-- The processes that are held by the sessions, started and touched. -/
def wrapperProcs : Resources SessionAns SessionProcs WrapperProc where
  held procs proc := ∃ i, proc ∈ procs i
  acquires e proc := spawnedBy e = some proc
  uses e proc := e.1.subject = some proc

/-- The process a call sends SIGKILL to. -/
def SessionCall.kills : SessionCall → Option WrapperProc
  | killpg proc true => some proc
  | signal proc true => some proc
  | _ => none

/-- The call is one of `stop` only. -/
def SessionCall.ends : SessionCall → Bool
  | killpg .. => true
  | signal .. => true
  | wait _ => true
  | _ => false

section

variable {host : RunHost} {repo : Repo} {session : WrapperSession} {backend : String}
  {procs procs' : SessionProcs} {tr : List (Event SessionAns)} {X : WrapperProc → Prop}
  {proc : WrapperProc}

@[simp] theorem acquired_wrapperProcs : wrapperProcs.Acquired tr proc ↔ proc ∈ spawned tr := by
  unfold Resources.Acquired spawned
  rw [List.mem_filterMap]
  rfl

@[simp] theorem spawned_append (tr tr' : List (Event SessionAns)) :
    spawned (tr ++ tr') = spawned tr ++ spawned tr' := List.filterMap_append

theorem usesOnly_of_quietly (h : (quietly X).holds procs tr procs') :
    (wrapperProcs.usesOnly X).holds procs tr procs' := by
  obtain ⟨rfl, hevents⟩ := h
  exact ⟨fun e he => (hevents e he).2, fun _ hheld => hheld⟩

theorem spawned_eq_nil (h : ∀ e ∈ tr, e.1.spawns = false) : spawned tr = [] := by
  refine List.filterMap_eq_nil_iff.mpr fun e he => ?_
  obtain ⟨q, ans⟩ := e
  cases q with
  | popen backend env => cases h _ he
  | _ => rfl

/-- A program that only looks at the processes of its session owns them. -/
theorem OnlyLooks.owned {α : Type} {m : SessionM α} (hm : OnlyLooks session m) :
    Eff.Within wrapperProcs.owned m := fun _ _ _ _ h =>
  Resources.owned_of_usesOnly (usesOnly_of_quietly (hm h)) fun _ hmem => ⟨session.slot, hmem⟩

theorem owned_of_quietly {α : Type} {m : SessionM α}
    (hm : Eff.Within (quietly fun _ => False) m) : Eff.Within wrapperProcs.owned m :=
  Resources.within_owned_of_idle fun _ _ _ _ h => usesOnly_of_quietly (hm h)

/-! ### A start owns what it touches -/

theorem startOneWrapper_owned :
    Eff.Within wrapperProcs.owned (session.startOneWrapper host repo backend) := by
  intro procs tr r procs' h
  cases exec_startOneWrapper h with
  -- before the start no process is used
  | fails hquiet =>
    have hidle : (wrapperProcs.usesOnly fun _ => False).holds procs tr procs := by
      refine ⟨fun e he proc huses => ?_, fun _ hheld => hheld⟩
      cases (hquiet e he).2.symm.trans huses
    exact Resources.owned_of_usesOnly hidle fun _ hx => hx.elim
  | refused haddr haddress =>
    refine Resources.owned_of_usesOnly (X := fun _ => False) ⟨?_, fun _ hheld => hheld⟩
      fun _ hx => hx.elim
    intro e he proc huses
    rcases List.mem_cons.mp he with rfl | he
    · cases huses
    · rw [List.mem_singleton.mp he] at huses
      cases huses
  | @starts addr address own proc tr r haddr haddress hlooks =>
    -- the process is acquired, and is held when it is looked at
    have hstart : wrapperProcs.owned.holds procs
        [⟨.sessionWrapperEnv backend session.slotId, .ok own⟩,
          ⟨.popen backend (toldEnv host session backend address.2 own), .ok proc⟩]
        (Function.update procs session.slot (procs session.slot ++ [proc])) := by
      constructor
      · rintro tr₁ e tr₂ htr proc' huses
        rcases tr₁ with _ | ⟨e₁, _ | ⟨e₂, tr₁⟩⟩
        · cases htr
          cases huses
        · cases htr
          cases huses
        · obtain ⟨-, htr⟩ := List.cons.inj htr
          obtain ⟨-, htr⟩ := List.cons.inj htr
          cases tr₁ <;> cases htr
      · rintro proc' ⟨i, hi⟩
        by_cases hslot : i = session.slot
        · rw [hslot, Function.update_self] at hi
          rcases List.mem_append.mp hi with hi | hi
          · exact .inl ⟨session.slot, hi⟩
          · rw [List.mem_singleton.mp hi]
            exact .inr (acquired_wrapperProcs.mpr List.mem_cons_self)
        · rw [Function.update_of_ne hslot] at hi
          exact .inl ⟨i, hi⟩
    have hlooked : (wrapperProcs.usesOnly (· = proc)).holds
        (Function.update procs session.slot (procs session.slot ++ [proc])) tr
        (Function.update procs session.slot (procs session.slot ++ [proc])) :=
      ⟨fun e he => (hlooks e he).2, fun _ hheld => hheld⟩
    refine wrapperProcs.owned.trans hstart (Resources.owned_of_usesOnly hlooked ?_)
    rintro proc' rfl
    exact ⟨session.slot, by simp⟩

theorem startWrappers_owned (backends : List String) :
    Eff.Within wrapperProcs.owned (session.startWrappers host repo backends) := by
  induction backends with
  | nil => exact .pure _
  | cons backend rest ih => exact .bind startOneWrapper_owned fun _ => ih

theorem start_owned : Eff.Within wrapperProcs.owned (session.start host repo) := by
  have hrest : Eff.Within wrapperProcs.owned (do
      session.assertGrpcPortsFree repo session.backends
      session.startWrappers host repo session.backends) :=
    .bind (owned_of_quietly (assertGrpcPortsFree_quietly _)) fun _ => startWrappers_owned _
  have hspawn : Eff.Within wrapperProcs.owned (session.spawnWrappers host repo) := by
    refine .ite (.pure _) (.ite (.bind (.ofExcept _) fun _ => .pure _) ?_)
    exact .bind (owned_of_quietly (.invoke (quietly_single rfl nofun))) fun _ =>
      .bind (owned_of_quietly (.invoke (quietly_single rfl nofun))) fun _ =>
        .ite (.bind (.throw _) fun _ => hrest) hrest
  exact .bind hspawn fun _ => .bind waitGrpcReady_looks.owned fun _ =>
    owned_of_quietly (loadMetadata_quietly _)

/-! ### A stop touches what its session holds -/

theorem terminateOne_quietly (hproc : X proc) :
    Eff.Within (quietly X) (WrapperSession.terminateOne proc) := by
  have hsubject : ∀ proc', some proc = some proc' → X proc' := fun _ h => Option.some.inj h ▸ hproc
  exact .bind (.call (quietly_single rfl hsubject)) fun _ => .ite (.pure _) <|
    .bind (.call (quietly_single rfl hsubject)) fun _ => .ite (.pure _) <|
    .invoke (quietly_single rfl hsubject)

theorem awaitOne_quietly (hproc : X proc) :
    Eff.Within (quietly X) (WrapperSession.awaitOne proc) := by
  have hsubject : ∀ proc', some proc = some proc' → X proc' := fun _ h => Option.some.inj h ▸ hproc
  exact .bind (.call (quietly_single rfl hsubject)) fun _ => .ite (.pure _) <|
    .bind (.call (quietly_single rfl hsubject)) fun _ => .ite (.pure _) <|
    .invoke (quietly_single rfl hsubject)

theorem stop_owned : Eff.Within wrapperProcs.owned session.stop := by
  refine .ite (.pure _) fun procs tr r procs' h => ?_
  rw [Eff.exec_getState_bind] at h
  have hquiet : ∀ {m : SessionM PUnit}, Eff.Within (quietly (· ∈ procs session.slot)) m →
      Eff.Within (wrapperProcs.usesOnly (· ∈ procs session.slot)) m :=
    fun hm _ _ _ _ hexec => usesOnly_of_quietly (hm hexec)
  have hforget : ∀ s : SessionProcs, (wrapperProcs.usesOnly (· ∈ procs session.slot)).holds s []
      (Function.update s session.slot []) := by
    refine fun s => ⟨fun _ he => absurd he List.not_mem_nil, ?_⟩
    rintro proc ⟨i, hi⟩
    by_cases hslot : i = session.slot
    · rw [hslot, Function.update_self] at hi
      exact absurd hi List.not_mem_nil
    · rw [Function.update_of_ne hslot] at hi
      exact ⟨i, hi⟩
  have hbody := (Eff.Within.bind (hquiet (.forM fun _ hp => terminateOne_quietly hp)) fun _ =>
    .bind (hquiet (.forM fun _ hp => awaitOne_quietly hp)) fun _ => .modifyState hforget) h
  exact Resources.owned_of_usesOnly hbody fun _ hmem => ⟨session.slot, hmem⟩

end

/-- **A run touches only processes it has started.** -/
theorem executeMatrixExecution_owned (host : RunHost) (run : MatrixRun) (backends : List String)
    (jobs : ℤ) : Eff.Within wrapperProcs.owned (run.executeMatrixExecution host backends jobs) := by
  have hstart : Eff.Within wrapperProcs.owned (run.startAll host backends jobs) :=
    .ofExcept_bind fun _ _ => .bind (.forM fun _ _ => start_owned) fun _ => .pure _
  exact .bind hstart fun _ =>
    .finallyDo (owned_of_quietly (.invoke (quietly_single rfl nofun))) (.forM fun _ _ => stop_owned)

/-! ### How a process is stopped -/

/-- What the first round of a stop can do to a process. -/
inductive AsksOne (proc : WrapperProc) : List (Event SessionAns) → Except PyExc Unit → Prop
  | ended {code : ℤ} : AsksOne proc [⟨.poll proc, some code⟩] (.ok ())
  | group : AsksOne proc [⟨.poll proc, none⟩, ⟨.killpg proc false, true⟩] (.ok ())
  | alone {ans : Except PyExc Unit} :
      AsksOne proc [⟨.poll proc, none⟩, ⟨.killpg proc false, false⟩, ⟨.signal proc false, ans⟩] ans

/-- What the second round of a stop can do to a process. -/
inductive AwaitsOne (proc : WrapperProc) : List (Event SessionAns) → Except PyExc Unit → Prop
  | ended : AwaitsOne proc [⟨.wait proc, true⟩] (.ok ())
  | group : AwaitsOne proc [⟨.wait proc, false⟩, ⟨.killpg proc true, true⟩] (.ok ())
  | alone {ans : Except PyExc Unit} :
      AwaitsOne proc [⟨.wait proc, false⟩, ⟨.killpg proc true, false⟩, ⟨.signal proc true, ans⟩] ans

/-- The process has ended, or it is asked to. -/
def AskedToEnd (proc : WrapperProc) (tr : List (Event SessionAns)) : Prop :=
  (∃ code : ℤ, (⟨.poll proc, some code⟩ : Event SessionAns) ∈ tr) ∨
    (⟨.killpg proc false, true⟩ : Event SessionAns) ∈ tr ∨
    (⟨.signal proc false, .ok ()⟩ : Event SessionAns) ∈ tr

/-- The process ended in time, or it is killed. -/
def Gone (proc : WrapperProc) (tr : List (Event SessionAns)) : Prop :=
  (⟨.wait proc, true⟩ : Event SessionAns) ∈ tr ∨
    (⟨.killpg proc true, true⟩ : Event SessionAns) ∈ tr ∨
    (⟨.signal proc true, .ok ()⟩ : Event SessionAns) ∈ tr

/-- The process is asked to end, and is then gone. -/
def Reaped (proc : WrapperProc) (tr : List (Event SessionAns)) : Prop :=
  ∃ tr₁ tr₂, tr = tr₁ ++ tr₂ ∧ AskedToEnd proc tr₁ ∧ Gone proc tr₂

/-- A signal to a single process is refused. -/
def SignalRefused (e : Event SessionAns) : Prop :=
  ∃ proc force err, e = ⟨.signal proc force, .error err⟩

section

variable {proc : WrapperProc} {procs procs' : SessionProcs} {tr tr' : List (Event SessionAns)}
  {session : WrapperSession}

theorem exec_terminateOne {r : Except PyExc Unit}
    (h : (WrapperSession.terminateOne proc).Exec procs tr r procs') :
    procs' = procs ∧ AsksOne proc tr r := by
  rcases Eff.exec_bind.mp h with ⟨e, -, hraise⟩ | ⟨code, procs₁, tr₁, tr₂, rfl, hpoll, hrest⟩
  · obtain ⟨ans, -, hok, -⟩ := Eff.exec_call.mp hraise
    cases hok
  obtain ⟨ans, rfl, hans, rfl⟩ := Eff.exec_call.mp hpoll
  cases hans
  cases code with
  | some code =>
    obtain ⟨rfl, rfl, rfl⟩ := Eff.exec_pure.mp hrest
    exact ⟨rfl, .ended⟩
  | none =>
    rcases Eff.exec_bind.mp hrest with ⟨e, -, hraise⟩ | ⟨told, procs₂, tr₃, tr₄, rfl, hkill, hlast⟩
    · obtain ⟨ans, -, hok, -⟩ := Eff.exec_call.mp hraise
      cases hok
    obtain ⟨ans, rfl, hans, rfl⟩ := Eff.exec_call.mp hkill
    cases hans
    cases told with
    | true =>
      obtain ⟨rfl, rfl, rfl⟩ := Eff.exec_pure.mp hlast
      exact ⟨rfl, .group⟩
    | false =>
      obtain ⟨ans, rfl, rfl, rfl⟩ := Eff.exec_invoke.mp hlast
      exact ⟨rfl, .alone⟩

theorem exec_awaitOne {r : Except PyExc Unit}
    (h : (WrapperSession.awaitOne proc).Exec procs tr r procs') :
    procs' = procs ∧ AwaitsOne proc tr r := by
  rcases Eff.exec_bind.mp h with ⟨e, -, hraise⟩ | ⟨ended, procs₁, tr₁, tr₂, rfl, hwait, hrest⟩
  · obtain ⟨ans, -, hok, -⟩ := Eff.exec_call.mp hraise
    cases hok
  obtain ⟨ans, rfl, hans, rfl⟩ := Eff.exec_call.mp hwait
  cases hans
  cases ended with
  | true =>
    obtain ⟨rfl, rfl, rfl⟩ := Eff.exec_pure.mp hrest
    exact ⟨rfl, .ended⟩
  | false =>
    rcases Eff.exec_bind.mp hrest with ⟨e, -, hraise⟩ | ⟨told, procs₂, tr₃, tr₄, rfl, hkill, hlast⟩
    · obtain ⟨ans, -, hok, -⟩ := Eff.exec_call.mp hraise
      cases hok
    obtain ⟨ans, rfl, hans, rfl⟩ := Eff.exec_call.mp hkill
    cases hans
    cases told with
    | true =>
      obtain ⟨rfl, rfl, rfl⟩ := Eff.exec_pure.mp hlast
      exact ⟨rfl, .group⟩
    | false =>
      obtain ⟨ans, rfl, rfl, rfl⟩ := Eff.exec_invoke.mp hlast
      exact ⟨rfl, .alone⟩

/-! ### Patience -/

/-- A process is killed only when it did not end in time. -/
def patient : Eff.Frame SessionAns SessionProcs :=
  Eff.preceded (fun before e => ∀ proc, e.1.kills = some proc →
      (⟨.wait proc, false⟩ : Event SessionAns) ∈ before)
    fun _ _ _ h proc hkills => List.mem_append_right _ (h proc hkills)

theorem patient_of_kind (h : ∀ e ∈ tr, e.1.kills = none) : patient.holds procs tr procs' := by
  rintro tr₁ e tr₂ rfl proc hkills
  cases (h e (List.mem_append_right _ List.mem_cons_self)).symm.trans hkills

theorem kills_eq_none {q : SessionCall} (h : q.ends = false) : q.kills = none := by
  cases q with
  | killpg proc force => cases h
  | signal proc force => cases h
  | _ => rfl

theorem terminateOne_patient : Eff.Within patient (WrapperSession.terminateOne proc) := by
  intro procs tr r procs' h
  refine patient_of_kind ?_
  cases (exec_terminateOne h).2 <;> simp [SessionCall.kills]

theorem awaitOne_patient : Eff.Within patient (WrapperSession.awaitOne proc) := by
  intro procs tr r procs' h tr₁ e tr₂ htr proc' hkills
  -- what kills comes second or third, after a wait that timed out
  have hafter : ∀ {rest : List (Event SessionAns)}, (∀ e ∈ rest, e.1.kills = none ∨ e.1.kills = some proc) →
      (⟨.wait proc, false⟩ : Event SessionAns) :: rest = tr₁ ++ e :: tr₂ →
      (⟨.wait proc', false⟩ : Event SessionAns) ∈ tr₁ := by
    intro rest hrest heq
    cases tr₁ with
    | nil =>
      obtain ⟨rfl, -⟩ := List.cons.inj heq
      cases hkills
    | cons first tr₁ =>
      obtain ⟨rfl, rfl⟩ := List.cons.inj heq
      rcases hrest e (List.mem_append_right _ List.mem_cons_self) with hnone | hsome
      · cases hnone.symm.trans hkills
      · obtain rfl := Option.some.inj (hsome.symm.trans hkills)
        exact List.mem_cons_self
  cases (exec_awaitOne h).2 with
  | ended =>
    rcases tr₁ with _ | ⟨first, tr₁⟩
    · cases htr
      cases hkills
    · obtain ⟨-, htr⟩ := List.cons.inj htr
      cases tr₁ <;> cases htr
  | group => exact hafter (by simp [SessionCall.kills]) htr
  | alone => exact hafter (by simp [SessionCall.kills]) htr

theorem stop_patient : Eff.Within patient session.stop := by
  have hforget : ∀ s : SessionProcs, patient.holds s [] (Function.update s session.slot []) :=
    fun s => patient_of_kind fun _ he => absurd he List.not_mem_nil
  exact .ite (.pure _) <| .bind .getState fun _ => .bind (.forM fun _ _ => terminateOne_patient)
    fun _ => .bind (.forM fun _ _ => awaitOne_patient) fun _ => .modifyState hforget

end

/-- **What every run keeps to**, whatever its outcome. -/
structure Tended (tr : List (Event SessionAns)) : Prop where
  /-- A process that is asked, read, signalled or waited for was started before. -/
  started : ∀ tr₁ e tr₂, tr = tr₁ ++ e :: tr₂ → ∀ proc, e.1.subject = some proc → proc ∈ spawned tr₁
  /-- Processes are signalled and waited for after the cells were run. -/
  cells_first : ∀ tr₁ e tr₂, tr = tr₁ ++ e :: tr₂ → e.1.ends = true →
    ∃ ans, (⟨.runCells, ans⟩ : Event SessionAns) ∈ tr₁
  /-- A process is killed when it did not end in time. -/
  patient : ∀ tr₁ e tr₂, tr = tr₁ ++ e :: tr₂ → ∀ proc, e.1.kills = some proc →
    (⟨.wait proc, false⟩ : Event SessionAns) ∈ tr₁

section

variable {host : RunHost} {run : MatrixRun} {backends : List String} {jobs : ℤ}
  {procs procs' : SessionProcs} {tr : List (Event SessionAns)}
  {r : Except PyExc (List (String × ℤ))}

theorem ends_of_starts {q : SessionCall} (h : q.starts = true) : q.ends = false := by
  cases q with
  | killpg proc force => cases h
  | signal proc force => cases h
  | wait proc => cases h
  | _ => rfl

/-- A run is a start that fails, or a start, the cells and the stops. -/
theorem exec_executeMatrixExecution
    (h : (run.executeMatrixExecution host backends jobs).Exec procs tr r procs') :
    (∃ e, r = .error e ∧ (run.startAll host backends jobs).Exec procs tr (.error e) procs') ∨
      ∃ sessions procs₁ before ans stops r', tr = before ++ ⟨.runCells, ans⟩ :: stops ∧
        (run.startAll host backends jobs).Exec procs before (.ok sessions) procs₁ ∧
        (sessions.forM fun session => session.stop).Exec procs₁ stops r' procs' ∧
        r = Eff.finalResult ans r' := by
  rcases Eff.exec_bind.mp h with ⟨e, rfl, hraise⟩ | ⟨sessions, procs₁, before, tr₂, rfl, hstart, h⟩
  · exact .inl ⟨e, rfl, hraise⟩
  · obtain ⟨r₁, r', procs₂, tr₃, stops, rfl, rfl, hcells, hstops⟩ := Eff.exec_finallyDo.mp h
    obtain ⟨ans, rfl, rfl, rfl⟩ := Eff.exec_invoke.mp hcells
    exact .inr ⟨sessions, procs₁, before, ans, stops, r', rfl, hstart, hstops, rfl⟩

/-- **Every run keeps to its manners**, whatever its outcome: a run may fail to start, its cells
may raise, and signals may be refused. -/
theorem tended_of_run
    (h : (run.executeMatrixExecution host backends jobs).Exec (fun _ => []) tr r procs') :
    Tended tr where
  started tr₁ e tr₂ htr proc hsubject := by
    rcases (executeMatrixExecution_owned host run backends jobs h).1 tr₁ e tr₂ htr proc hsubject
      with ⟨i, hi⟩ | hacquired
    · exact absurd hi List.not_mem_nil
    · exact acquired_wrapperProcs.mp hacquired
  cells_first tr₁ e tr₂ htr hends := by
    have hbefore : ∀ {before r procs₁}, (run.startAll host backends jobs).Exec (fun _ => []) before r
        procs₁ → e ∉ before := by
      intro before r procs₁ hstart hmem
      cases (ends_of_starts (startAll_startsOnly backends jobs hstart e hmem)).symm.trans hends
    -- a run that fails before its cells only starts processes
    rcases exec_executeMatrixExecution h with ⟨_, -, hraise⟩ |
      ⟨sessions, procs₁, before, ans, stops, r', rfl, hstart, -, -⟩
    · subst htr
      exact absurd (List.mem_append_right _ List.mem_cons_self) (hbefore hraise)
    · rcases append_eq_append_cons_iff.mp htr with ⟨mid, rfl, -⟩ | ⟨mid, rfl, hmid⟩
      · exact absurd (List.mem_append_right _ List.mem_cons_self) (hbefore hstart)
      · cases mid with
        | nil =>
          obtain ⟨rfl, -⟩ := List.cons.inj hmid
          cases hends
        | cons first mid =>
          obtain ⟨rfl, -⟩ := List.cons.inj hmid
          exact ⟨ans, List.mem_append_right _ List.mem_cons_self⟩
  patient := by
    -- starting kills nothing, and stopping waits before it kills
    have hstart : Eff.Within patient (run.startAll host backends jobs) := by
      refine fun _ _ _ _ hexec => patient_of_kind fun e he => ?_
      exact kills_eq_none (ends_of_starts (startAll_startsOnly backends jobs hexec e he))
    have hcells : ∀ s ans, patient.holds s [(⟨.runCells, ans⟩ : Event SessionAns)] s :=
      fun s ans => patient_of_kind (by simp [SessionCall.kills])
    exact (Eff.Within.bind hstart fun _ =>
      .finallyDo (.invoke hcells) (.forM fun _ _ => stop_patient)) h

end

/-- Every wrapper is a process of its own; some do not end in time, and no group is killed. -/
def stubbornEnv : Prog.Env SessionAns
  | past, .popen .. => .ok past.length
  | _, .poll _ => none
  | _, .killpg _ force => !force
  | _, .wait proc => proc % 2 = 0
  | past, q => startEnv false past q

/-- A run of two jobs over GnuTLS and NSS with such wrappers. -/
abbrev stubbornRun : (Except PyExc (List (String × ℤ)) × SessionProcs) × List (Event SessionAns) :=
  ((pairRun.executeMatrixExecution {} ["gnutls", "nss"] 2).prog fun _ => []).exec stubbornEnv []

theorem stubbornRun_exec : (pairRun.executeMatrixExecution {} ["gnutls", "nss"] 2).Exec (fun _ => [])
    stubbornRun.2 stubbornRun.1.1 stubbornRun.1.2 := Eff.exec_run ..

/-- Of four processes some are killed. -/
theorem stubborn_wrappers_tended : Tended stubbornRun.2 ∧ (spawned stubbornRun.2).length = 4 ∧
    ∃ e ∈ stubbornRun.2, e.1.kills.isSome = true :=
  ⟨tended_of_run stubbornRun_exec, by decide +kernel, by decide +kernel⟩

/-! ### Nothing is left behind -/

section

variable {proc : WrapperProc} {procs procs' : SessionProcs} {tr : List (Event SessionAns)}
  {session : WrapperSession} {sessions : List WrapperSession}

theorem AskedToEnd.mono {tr tr' : List (Event SessionAns)} (hsub : ∀ e ∈ tr, e ∈ tr')
    (h : AskedToEnd proc tr) : AskedToEnd proc tr' := by
  obtain ⟨code, h⟩ | h | h := h
  · exact .inl ⟨code, hsub _ h⟩
  · exact .inr (.inl (hsub _ h))
  · exact .inr (.inr (hsub _ h))

theorem Gone.mono {tr tr' : List (Event SessionAns)} (hsub : ∀ e ∈ tr, e ∈ tr')
    (h : Gone proc tr) : Gone proc tr' := by
  obtain h | h | h := h
  · exact .inl (hsub _ h)
  · exact .inr (.inl (hsub _ h))
  · exact .inr (.inr (hsub _ h))

theorem Reaped.left {tr : List (Event SessionAns)} (h : Reaped proc tr)
    (tr' : List (Event SessionAns)) : Reaped proc (tr ++ tr') := by
  obtain ⟨tr₁, tr₂, rfl, hasked, hgone⟩ := h
  exact ⟨tr₁, tr₂ ++ tr', List.append_assoc .., hasked,
    hgone.mono fun _ he => List.mem_append_left _ he⟩

theorem Reaped.right {tr' : List (Event SessionAns)} (h : Reaped proc tr')
    (tr : List (Event SessionAns)) : Reaped proc (tr ++ tr') := by
  obtain ⟨tr₁, tr₂, rfl, hasked, hgone⟩ := h
  exact ⟨tr ++ tr₁, tr₂, (List.append_assoc ..).symm,
    hasked.mono fun _ he => List.mem_append_right _ he, hgone⟩

/-- The first round of a stop asks all its processes to end. -/
theorem asked_of_terminateAll {l : List WrapperProc} {r : Except PyExc PUnit}
    (h : (l.forM WrapperSession.terminateOne).Exec procs tr r procs')
    (hgood : ∀ e ∈ tr, ¬ SignalRefused e) : procs' = procs ∧ r = .ok () ∧ ∀ p ∈ l, AskedToEnd p tr := by
  refine Eff.exec_forM_of (fun {p _ _ res _} hone hgood => ?_) (fun {p _ _ err _} hraise => ?_)
    (fun _ hP => hP.mono fun _ he => List.mem_append_left _ he)
    (fun _ hP => hP.mono fun _ he => List.mem_append_right _ he) h hgood
  · obtain ⟨rfl, hasks⟩ := exec_terminateOne hone
    refine ⟨rfl, ?_⟩
    cases hasks with
    | ended => exact ⟨rfl, .inl ⟨_, List.mem_singleton_self _⟩⟩
    | group => exact ⟨rfl, .inr (.inl (by simp))⟩
    | alone =>
      cases res with
      | error e => exact absurd ⟨_, _, e, rfl⟩ (hgood ⟨.signal p false, .error e⟩ (by simp))
      | ok u => exact ⟨rfl, .inr (.inr (by simp))⟩
  · cases (exec_terminateOne hraise).2
    exact ⟨⟨.signal p false, .error err⟩, by simp, _, _, _, rfl⟩

/-- The second round of a stop leaves none of its processes. -/
theorem gone_of_awaitAll {l : List WrapperProc} {r : Except PyExc PUnit}
    (h : (l.forM WrapperSession.awaitOne).Exec procs tr r procs')
    (hgood : ∀ e ∈ tr, ¬ SignalRefused e) : procs' = procs ∧ r = .ok () ∧ ∀ p ∈ l, Gone p tr := by
  refine Eff.exec_forM_of (fun {p _ _ res _} hone hgood => ?_) (fun {p _ _ err _} hraise => ?_)
    (fun _ hP => hP.mono fun _ he => List.mem_append_left _ he)
    (fun _ hP => hP.mono fun _ he => List.mem_append_right _ he) h hgood
  · obtain ⟨rfl, hawaits⟩ := exec_awaitOne hone
    refine ⟨rfl, ?_⟩
    cases hawaits with
    | ended => exact ⟨rfl, .inl (List.mem_singleton_self _)⟩
    | group => exact ⟨rfl, .inr (.inl (by simp))⟩
    | alone =>
      cases res with
      | error e => exact absurd ⟨_, _, e, rfl⟩ (hgood ⟨.signal p true, .error e⟩ (by simp))
      | ok u => exact ⟨rfl, .inr (.inr (by simp))⟩
  · cases (exec_awaitOne hraise).2
    exact ⟨⟨.signal p true, .error err⟩, by simp, _, _, _, rfl⟩

/-- A stop leaves none of the processes of its session. -/
theorem reaped_of_stop {r : Except PyExc Unit} (hattach : session.attach = false)
    (h : session.stop.Exec procs tr r procs') (hgood : ∀ e ∈ tr, ¬ SignalRefused e) :
    r = .ok () ∧ procs' = Function.update procs session.slot [] ∧
      ∀ p ∈ procs session.slot, Reaped p tr := by
  unfold WrapperSession.stop at h
  rw [hattach] at h
  have hbody := Eff.exec_getState_bind.mp h
  rcases Eff.exec_bind.mp hbody with ⟨e, -, hraise⟩ | ⟨⟨⟩, procs₁, tr₁, tr₂, rfl, hasks, hrest⟩
  · cases (asked_of_terminateAll hraise hgood).2.1
  obtain ⟨rfl, -, hasked⟩ :=
    asked_of_terminateAll hasks fun e he => hgood e (List.mem_append_left _ he)
  have hgood₂ := fun e he => hgood e (List.mem_append_right _ he)
  rcases Eff.exec_bind.mp hrest with ⟨e, -, hraise⟩ | ⟨⟨⟩, procs₂, tr₃, tr₄, rfl, hwaits, hlast⟩
  · cases (gone_of_awaitAll hraise hgood₂).2.1
  obtain ⟨rfl, -, hgone⟩ :=
    gone_of_awaitAll hwaits fun e he => hgood₂ e (List.mem_append_left _ he)
  obtain ⟨rfl, rfl, rfl⟩ := Eff.exec_modifyState.mp hlast
  refine ⟨rfl, rfl, fun p hp => ⟨tr₁, tr₃ ++ [], rfl, hasked p hp, ?_⟩⟩
  exact (hgone p hp).mono fun _ he => List.mem_append_left _ he

/-- The stops of sessions leave none of their processes. -/
theorem reaped_of_stops {r : Except PyExc PUnit}
    (h : (sessions.forM fun session => session.stop).Exec procs tr r procs')
    (hgood : ∀ e ∈ tr, ¬ SignalRefused e) :
    r = .ok () ∧ (∀ i, procs i = [] → procs' i = []) ∧ ∀ s ∈ sessions, s.attach = false →
      procs' s.slot = [] ∧ ∀ p ∈ procs s.slot, Reaped p tr := by
  induction sessions generalizing procs tr with
  | nil =>
    obtain ⟨rfl, rfl, rfl⟩ := Eff.exec_pure.mp h
    exact ⟨rfl, fun _ hi => hi, fun _ hs => absurd hs List.not_mem_nil⟩
  | cons first rest ih =>
    -- what a stop does to a place: it empties it, or leaves it
    have hfirst : ∀ {procs tr r procs'}, first.stop.Exec procs tr r procs' →
        (∀ e ∈ tr, ¬ SignalRefused e) → r = .ok () ∧ ∀ i, procs' i = procs i ∨
          procs' i = [] ∧ ∀ p ∈ procs i, Reaped p tr := by
      intro procs tr r procs' hstop hgood
      cases hattach : first.attach with
      | true =>
        unfold WrapperSession.stop at hstop
        rw [hattach] at hstop
        obtain ⟨rfl, rfl, rfl⟩ := Eff.exec_pure.mp hstop
        exact ⟨rfl, fun _ => .inl rfl⟩
      | false =>
        obtain ⟨rfl, rfl, hreaped⟩ := reaped_of_stop hattach hstop hgood
        refine ⟨rfl, fun i => ?_⟩
        by_cases hi : i = first.slot
        · rw [hi, Function.update_self]
          exact .inr ⟨rfl, hreaped⟩
        · exact .inl (Function.update_of_ne hi ..)
    have hempties : ∀ {procs tr r procs'}, first.stop.Exec procs tr r procs' →
        (∀ e ∈ tr, ¬ SignalRefused e) → first.attach = false →
          procs' first.slot = [] ∧ ∀ p ∈ procs first.slot, Reaped p tr := by
      intro procs tr r procs' hstop hgood hattach
      obtain ⟨-, rfl, hreaped⟩ := reaped_of_stop hattach hstop hgood
      exact ⟨Function.update_self .., hreaped⟩
    -- the first session is stopped, and no later stop fills its place again
    rcases Eff.exec_bind.mp h with ⟨e, -, hraise⟩ | ⟨⟨⟩, procs₁, tr₁, tr₂, rfl, hstop, hrest⟩
    · cases (hfirst hraise hgood).1
    have hgood₁ := fun e he => hgood e (List.mem_append_left _ he)
    obtain ⟨-, hplaces⟩ := hfirst hstop hgood₁
    obtain ⟨rfl, hkeeps, hall⟩ := ih hrest fun e he => hgood e (List.mem_append_right _ he)
    refine ⟨rfl, fun i hi => ?_, fun s hs hattach => ?_⟩
    · rcases hplaces i with hsame | ⟨hnil, -⟩
      · exact hkeeps i (hsame.trans hi)
      · exact hkeeps i hnil
    · rcases List.mem_cons.mp hs with rfl | hs
      · obtain ⟨hnil, hreaped⟩ := hempties hstop hgood₁ hattach
        exact ⟨hkeeps _ hnil, fun p hp => (hreaped p hp).left tr₂⟩
      · obtain ⟨hnil, hreaped⟩ := hall s hs hattach
        refine ⟨hnil, fun p hp => ?_⟩
        rcases hplaces s.slot with hsame | ⟨-, hfirst⟩
        · exact (hreaped p (hsame.symm ▸ hp)).right tr₁
        · exact (hfirst p hp).left tr₂

/-- What is started is kept in the places of the sessions that are not attached. -/
def registers (sessions : List WrapperSession) : Eff.Frame SessionAns SessionProcs where
  holds procs tr procs' :=
    (∀ i p, p ∈ procs i → p ∈ procs' i) ∧
    (∀ p ∈ spawned tr, ∃ s ∈ sessions, s.attach = false ∧ p ∈ procs' s.slot) ∧
    ∀ i, procs' i = procs i ∨ ∃ s ∈ sessions, s.attach = false ∧ s.slot = i
  refl _ := ⟨fun _ _ hp => hp, fun _ hp => absurd hp List.not_mem_nil, fun _ => .inl rfl⟩
  trans := by
    rintro procs procs₁ procs₂ tr tr' ⟨hkept, hnew, hplaces⟩ ⟨hkept', hnew', hplaces'⟩
    refine ⟨fun i p hp => hkept' i p (hkept i p hp), fun p hp => ?_, fun i => ?_⟩
    · rw [spawned_append] at hp
      rcases List.mem_append.mp hp with hp | hp
      · obtain ⟨s, hs, hattach, hmem⟩ := hnew p hp
        exact ⟨s, hs, hattach, hkept' _ p hmem⟩
      · exact hnew' p hp
    · rcases hplaces' i with hsame' | hplace
      · rw [hsame']
        exact hplaces i
      · exact .inr hplace

theorem registers_of_quietly {X : WrapperProc → Prop} (h : (quietly X).holds procs tr procs') :
    (registers sessions).holds procs tr procs' := by
  have hnone := spawned_eq_nil fun e he => (h.2 e he).1
  obtain ⟨rfl, -⟩ := h
  refine ⟨fun _ _ hp => hp, fun p hp => ?_, fun _ => .inl rfl⟩
  rw [hnone] at hp
  exact absurd hp List.not_mem_nil

end

section

variable {host : RunHost} {repo : Repo} {session : WrapperSession} {sessions : List WrapperSession}

theorem startOneWrapper_registers (hmem : session ∈ sessions) (hattach : session.attach = false)
    (backend : String) :
    Eff.Within (registers sessions) (session.startOneWrapper host repo backend) := by
  intro procs tr r procs' h
  cases exec_startOneWrapper h with
  | fails hquiet =>
    refine registers_of_quietly (X := fun _ => False) ⟨rfl, fun e he => ⟨(hquiet e he).1, ?_⟩⟩
    intro proc hproc
    cases (hquiet e he).2.symm.trans hproc
  | refused haddr haddress =>
    exact ⟨fun _ _ hp => hp, fun _ hp => absurd hp List.not_mem_nil, fun _ => .inl rfl⟩
  | @starts addr address own proc tr r haddr haddress hlooks =>
    have hnone : spawned tr = [] := spawned_eq_nil fun e he => (hlooks e he).1
    refine ⟨fun i p hp => ?_, fun p hp => ⟨session, hmem, hattach, ?_⟩, fun i => ?_⟩
    · by_cases hi : i = session.slot
      · rw [hi, Function.update_self]
        exact List.mem_append_left _ (hi ▸ hp)
      · rwa [Function.update_of_ne hi]
    · have hp' : p ∈ proc :: spawned tr := hp
      rw [hnone, List.mem_singleton] at hp'
      rw [hp', Function.update_self]
      exact List.mem_append_right _ List.mem_cons_self
    · by_cases hi : i = session.slot
      · exact .inr ⟨session, hmem, hattach, hi.symm⟩
      · exact .inl (Function.update_of_ne hi ..)

theorem startWrappers_registers (hmem : session ∈ sessions) (hattach : session.attach = false)
    (backends : List String) :
    Eff.Within (registers sessions) (session.startWrappers host repo backends) := by
  induction backends with
  | nil => exact .pure _
  | cons backend rest ih => exact .bind (startOneWrapper_registers hmem hattach backend) fun _ => ih

theorem start_registers (hmem : session ∈ sessions) :
    Eff.Within (registers sessions) (session.start host repo) := by
  have hquiet : ∀ {α : Type} {m : SessionM α}, Eff.Within (quietly fun _ => False) m →
      Eff.Within (registers sessions) m := fun hm _ _ _ _ hexec => registers_of_quietly (hm hexec)
  have hspawn : Eff.Within (registers sessions) (session.spawnWrappers host repo) := by
    refine .ite (.pure _) ?_
    cases hattach : session.attach with
    | true => exact .bind (.ofExcept _) fun _ => .pure _
    | false =>
      have hrest : Eff.Within (registers sessions) (do
          session.assertGrpcPortsFree repo session.backends
          session.startWrappers host repo session.backends) :=
        .bind (hquiet (assertGrpcPortsFree_quietly _)) fun _ =>
          startWrappers_registers hmem hattach _
      exact .bind (hquiet (.invoke (quietly_single rfl nofun))) fun _ =>
        .bind (hquiet (.invoke (quietly_single rfl nofun))) fun _ =>
          .ite (.bind (.throw _) fun _ => hrest) hrest
  exact .bind hspawn fun _ =>
    .bind (fun _ _ _ _ hexec => registers_of_quietly (waitGrpcReady_looks hexec)) fun _ =>
      hquiet (loadMetadata_quietly _)

end

/-- **A run that comes to its cells leaves no process behind**, and its result is theirs.  The
sessions are stopped in a `finally`; stopping one signals all of its processes, waits for
each of them, and kills those that do not end in time. -/
theorem started_run_reaped {host : RunHost} {run : MatrixRun} {backends : List String} {jobs : ℤ}
    {procs' : SessionProcs} {tr : List (Event SessionAns)} {r : Except PyExc (List (String × ℤ))}
    (h : (run.executeMatrixExecution host backends jobs).Exec (fun _ => []) tr r procs')
    (hcells : ∃ ans, (⟨.runCells, ans⟩ : Event SessionAns) ∈ tr) (hdelivered : ∀ e ∈ tr, ¬ SignalRefused e) :
    (∀ i, procs' i = []) ∧ ∃ before after, tr = before ++ ⟨.runCells, r⟩ :: after ∧
      spawned after = [] ∧ ∀ proc ∈ spawned before, Reaped proc after := by
  rcases exec_executeMatrixExecution h with ⟨_, -, hraise⟩ |
    ⟨sessions, procs₁, before, ans, after, r', rfl, hstart, hstops, rfl⟩
  · obtain ⟨ans, hmem⟩ := hcells
    cases startAll_startsOnly backends jobs hraise _ hmem
  have hstarted : Eff.Within (registers sessions) (run.startAll host backends jobs) := by
    refine .ofExcept_bind fun started hsessions => ?_
    obtain rfl : sessions = started :=
      Except.ok.inj ((sessions_of_startAll hstart).symm.trans hsessions)
    exact .bind (.forM fun s hs => start_registers hs) fun _ => .pure _
  obtain ⟨-, hnew, hplaces⟩ := hstarted hstart
  obtain ⟨rfl, hkeeps, hall⟩ := reaped_of_stops hstops fun e he =>
    hdelivered e (List.mem_append_right _ (List.mem_cons_of_mem _ he))
  refine ⟨fun i => ?_, before, after, rfl, ?_, fun proc hproc => ?_⟩
  · rcases hplaces i with hnone | ⟨s, hs, hattach, rfl⟩
    · exact hkeeps i hnone
    · exact (hall s hs hattach).1
  · have hquiet := (Eff.Within.forM fun s (_ : s ∈ sessions) => stop_spawnsNothing) hstops
    exact spawned_eq_nil fun e he => by simpa using hquiet e he
  · obtain ⟨s, hs, hattach, hmem⟩ := hnew proc hproc
    exact (hall s hs hattach).2 proc hmem

/-- The event is not a signal that is refused. -/
def delivers : Event SessionAns → Bool
  | ⟨.signal _ _, .error _⟩ => false
  | _ => true

/-- Four processes, of which some do not end in time, are gone at the end. -/
theorem stubborn_wrappers_reaped :
    (∀ i, stubbornRun.1.2 i = []) ∧ ∃ before after,
      stubbornRun.2 = before ++ ⟨.runCells, stubbornRun.1.1⟩ :: after ∧
      spawned after = [] ∧ ∀ proc ∈ spawned before, Reaped proc after := by
  have hcells : ∃ e ∈ stubbornRun.2, e.1.starts = false ∧ e.1.ends = false := by decide +kernel
  have hdelivers : ∀ e ∈ stubbornRun.2, delivers e = true := by decide +kernel
  refine started_run_reaped stubbornRun_exec ?_ fun e he => ?_
  · obtain ⟨⟨q, ans⟩, he, hstarts, hends⟩ := hcells
    cases q with
    | runCells => exact ⟨ans, he⟩
    | killpg proc force => cases hends
    | signal proc force => cases hends
    | wait proc => cases hends
    | _ => cases hstarts
  · rintro ⟨proc, force, err, rfl⟩
    cases hdelivers _ he

end TlsInterop
