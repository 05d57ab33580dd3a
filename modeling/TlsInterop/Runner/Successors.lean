import TlsInterop.Effects.Threads
import TlsInterop.Runner.Ports

/-!
# The cells of a session and their successors

The cells that one session runs, with all that happens at the same time: the main
thread in `execute_matrix_cell`, the worker of the cell, the workers that cells
before it have left behind, and the wrappers, which execute one operation at a
time.  Joins and deadlines run out at arbitrary moments.

The programs of the threads are those of the driver.  The worker and the main
thread share the log of the driver, on which no call depends, and each is given one
of its own.

## Main definitions

* `sessionNet` — which calls go to which wrapper, and which of them have a deadline.
* `SessionState`, `SessionStep` — the states and the steps of a session.
* `Undisturbed` — every operation that is executed is of the cell that runs.
* `Calm` — a cell that timed out returns with its worker and its CLOSE calls at an end.

## Main results

* `undisturbed_of_calm` — no cell disturbs its successors in a run of calm steps.
* `leaves_cell_while_stalled` — wrappers that hang do not keep the main thread in a cell.
* `disturbs_of_not_settled` — a cell that returns too early may disturb its successors.
* `late_worker_disturbs` — a worker that is late may disturb the next cell.
-/

namespace TlsInterop

open Py Effects DriverM InteropDriver

/-! ### Threads and wrappers -/

/-- The threads of a cell: its worker, and the main thread in `emergency_cleanup`. -/
inductive Source
  | worker
  | cleanup
  deriving DecidableEq

/-- What a cell is tested with. -/
structure CellTest where
  addresses : String × String
  endpoint : String × ℤ
  serverConf : TlsConfig
  clientConf : TlsConfig

/-- The part of `execute_matrix_cell` before the worker is started. -/
def cellTest (repo : Repo) (session : WrapperSession) (cell : Cell) : Except PyExc CellTest := do
  let (endpoint, serverConf, clientConf) ← cellSetup repo session cell
  let addresses ← stubAddresses repo session (lower (strip (cell.field "server")))
    (lower (strip (cell.field "client")))
  return { addresses, endpoint, serverConf, clientConf }

/-- The calls a program makes, without its result. -/
def callsOf {α : Type} (m : DriverM α) : Prog DriverAns Unit := do
  let _ ← m.prog {}
  return ()

/-- The worker thread of a test. -/
def CellTest.worker (test : CellTest) : Prog DriverAns Unit :=
  callsOf (runTestWithConfigs test.serverConf test.clientConf test.endpoint.1 test.endpoint.2)

/-- Whether the caller sets a deadline. -/
def hasDeadline : DriverCall → Bool
  | .execute _ _ timeoutS => timeoutS.isSome
  | _ => false

/-- Whether a call comes to its end by itself: one with a deadline, or of no wrapper. -/
def isTimely : DriverCall → Bool
  | .execute _ _ timeoutS => timeoutS.isSome
  | _ => true

/-- The answers of a call that fails. -/
def CallFails : (q : DriverCall) → DriverAns q → Prop
  | .execute .., ans => ∃ e, ans = .error e
  | _, _ => False

/-- The address of the wrapper that a stub calls. -/
def stubAddress (addresses : String × String) : DriverCall → Option String
  | .execute toServer .. => some (if toServer then addresses.1 else addresses.2)
  | _ => none

/-- Where the calls of the cells of a session go. -/
def sessionNet (repo : Repo) (session : WrapperSession) (cells : List Cell) :
    Net DriverAns (ℕ × Source) String where
  server t q := do
    let cell ← cells[t.1]?
    let test ← (cellTest repo session cell).toOption
    stubAddress test.addresses q
  bounded q := hasDeadline q = true
  Fails := CallFails

/-! ### The main thread -/

/-- Where the main thread is. -/
inductive SessionMain
  /-- Before the cell with this number. -/
  | before (i : ℕ)
  /-- In the join with the deadline of the cell. -/
  | joining (i : ℕ)
  /-- In `emergency_cleanup`. -/
  | closing (i : ℕ)
  /-- In the bounded join after it. -/
  | rejoining (i : ℕ)

/-- The cell that runs. -/
def SessionMain.current : SessionMain → Option ℕ
  | .before _ => none
  | .joining i | .closing i | .rejoining i => some i

/-- The next cell. -/
def SessionMain.next : SessionMain → ℕ
  | .before i => i
  | .joining i | .closing i | .rejoining i => i + 1

/-- The main thread, and the threads and calls of all cells. -/
structure SessionState where
  main : SessionMain
  calls : Threads DriverAns Unit (ℕ × Source) String

/-- No thread was started, and the wrappers are idle. -/
def noThreads : Threads DriverAns Unit (ℕ × Source) String := ⟨fun _ => none, []⟩

section

variable (repo : Repo) (session : WrapperSession) (cells : List Cell)

/-- A step of a session. -/
inductive SessionStep : SessionState → SessionState → Prop
  /-- The worker of the next cell is started. -/
  | begin {s : SessionState} {i : ℕ} {cell : Cell} {test : CellTest} (hmain : s.main = .before i)
      (hcell : cells[i]? = some cell) (htest : cellTest repo session cell = .ok test) :
      SessionStep s ⟨.joining i, s.calls.resume (i, .worker) test.worker⟩
  /-- A cell ends before it has a worker. -/
  | noWorker {s : SessionState} {i : ℕ} {cell : Cell} {e : PyExc} (hmain : s.main = .before i)
      (hcell : cells[i]? = some cell) (htest : cellTest repo session cell = .error e) :
      SessionStep s { s with main := .before (i + 1) }
  /-- The worker has ended. -/
  | joined {s : SessionState} {i : ℕ} (hmain : s.main = .joining i)
      (hended : s.calls.Ended (i, .worker)) : SessionStep s { s with main := .before (i + 1) }
  /-- The deadline of the cell passes. -/
  | timesOut {s : SessionState} {i : ℕ} (hmain : s.main = .joining i)
      (halive : ¬ s.calls.Ended (i, .worker)) :
      SessionStep s ⟨.closing i, s.calls.resume (i, .cleanup) (callsOf emergencyCleanup)⟩
  /-- The emergency cleanup is over. -/
  | closed {s : SessionState} {i : ℕ} (hmain : s.main = .closing i)
      (hended : s.calls.Ended (i, .cleanup)) : SessionStep s { s with main := .rejoining i }
  /-- The second join ends, with the worker or with its own deadline. -/
  | rejoined {s : SessionState} {i : ℕ} (hmain : s.main = .rejoining i) :
      SessionStep s { s with main := .before (i + 1) }
  /-- A thread or a wrapper moves. -/
  | call {s : SessionState} {calls : Threads DriverAns Unit (ℕ × Source) String}
      (hstep : (sessionNet repo session cells).Step s.calls calls) :
      SessionStep s { s with calls }

/-- The runs of a session. -/
def sessionSystem : System SessionState where
  init := ⟨.before 0, noThreads⟩
  Step := SessionStep repo session cells

/-- Every operation that is executed is of the cell that runs. -/
def Undisturbed (s : SessionState) : Prop :=
  ∀ c ∈ s.calls.pending, c.executing = true → s.main.current = some c.caller.1

/-- The worker of the cell has ended, and no call that was given up is at a wrapper. -/
def CellSettled (s : SessionState) (i : ℕ) : Prop :=
  s.calls.Ended (i, .worker) ∧ ∀ c ∈ s.calls.pending, c.awaited = true

/-- Where the step ends a cell that timed out, the cell has settled. -/
def Calm (s s' : SessionState) : Prop :=
  ∀ i, s.main = .rejoining i → s'.main ≠ s.main → CellSettled s i

/-- The runs of a session whose steps are all calm. -/
def calmSystem : System SessionState where
  init := (sessionSystem repo session cells).init
  Step s s' := SessionStep repo session cells s s' ∧ Calm s s'

end

/-! ### What the threads call -/

/-- The calls that a thread makes: those of a worker have no deadline, and no wrapper
keeps a cleanup waiting. -/
def SourceCalls (t : ℕ × Source) (q : DriverCall) : Prop :=
  match t.2 with
  | .worker => hasDeadline q = false
  | .cleanup => isTimely q = true

section

variable {ok : DriverCall → Bool}

theorem within_modifyState {f : InteropDriver → InteropDriver} :
    Eff.Within (Eff.callsOnly ok) (Eff.modifyState f : DriverM Unit) :=
  .modifyState fun _ _ he => absurd he List.not_mem_nil

theorem within_note (entry : String) : Eff.Within (Eff.callsOnly ok) (note entry) :=
  within_modifyState

theorem within_checkResponse (resp : OperationResponse) (label : String) :
    Eff.Within (Eff.callsOnly ok) (checkResponse resp label) :=
  .bind (within_note _) fun _ => .ite
    (.ite (.bind within_modifyState fun _ => .pure _) (.pure _)) (.pure _)

theorem within_checkHrrAssertion (resp : OperationResponse) (clientConf : TlsConfig)
    (label : String) : Eff.Within (Eff.callsOnly ok) (checkHrrAssertion resp clientConf label) :=
  .ite (.pure _) (.ite (.pure _) (.bind (within_note _) fun _ => .pure _))

theorem within_cleanup (hok : ∀ toServer request, ok (.execute toServer request none) = true) :
    Eff.Within (Eff.callsOnly ok) cleanup := by
  have hrole : ∀ label role, Eff.Within (Eff.callsOnly ok) (closeRole label role) := by
    intro label role
    refine .tryCatch (.bind (.invoke (Eff.callsOnly_single (hok _ _))) fun resp => ?_) fun _ => .pure _
    exact .bind (within_checkResponse ..) fun _ => .pure _
  exact .bind (hrole ..) fun _ => hrole ..

theorem within_catchUp (hok : ok .workerNotes = true) :
    Eff.Within (Eff.callsOnly ok) catchUp :=
  .bind (.call (Eff.callsOnly_single hok)) fun _ => within_modifyState

/-- An emergency cleanup never waits for a wrapper without a deadline. -/
theorem within_emergencyCleanup : Eff.Within (Eff.callsOnly isTimely) emergencyCleanup := by
  have hrole : ∀ label role,
      Eff.Within (Eff.callsOnly isTimely) (emergencyCloseRole label role) := by
    intro label role
    refine .tryCatch (.bind (.invoke (Eff.callsOnly_single rfl)) fun resp => ?_) fun e => ?_
    · exact .bind (within_catchUp rfl) fun _ => within_note _
    · exact .bind (within_catchUp rfl) fun _ => within_note _
  exact .bind (hrole ..) fun _ => hrole ..

end

/-- Calls without a deadline, as a specification of programs. -/
abbrev unhurried : Eff.Frame DriverAns InteropDriver := Eff.callsOnly fun q => !hasDeadline q

theorem within_execute (type : OpType) (role : Role) (config : TlsConfig) (payload : List UInt8) :
    Eff.Within unhurried (execute type role config payload none) :=
  .invoke (Eff.callsOnly_single rfl)

theorem within_establishClient (clientConf : TlsConfig) (resumption : Bool) :
    Eff.Within unhurried (establishClient clientConf resumption) := by
  refine .ite ?_ ?_
  · refine .bind (within_execute ..) fun r => .bind (within_checkResponse ..) fun ok => ?_
    exact .ite (.pure _) (within_checkHrrAssertion ..)
  · refine .bind (within_execute ..) fun r => .bind (within_checkResponse ..) fun ok => ?_
    refine .ite (.pure _) (.bind (within_checkHrrAssertion ..) fun ok => .ite (.pure _) ?_)
    exact .bind (within_execute ..) fun r => within_checkResponse ..

theorem within_transmitRoundTrip : Eff.Within unhurried transmitRoundTrip := by
  refine .bind (within_execute ..) fun rTx => .bind (within_checkResponse ..) fun ok => ?_
  refine .ite (.pure _) (.bind (within_execute ..) fun rSrv => .bind (within_checkResponse ..)
    fun ok => .ite (.pure _) ?_)
  exact .ite (.pure _) (.bind (within_note _) fun _ => .pure _)

theorem within_runPostEstablishRoundTrip (tcpHost : String) (tcpPort : ℤ) :
    Eff.Within unhurried (runPostEstablishRoundTrip tcpHost tcpPort) := by
  refine .bind (.invoke (Eff.callsOnly_single rfl)) fun ok => ?_
  exact .ite (.bind (within_note _) fun _ => .pure _) within_transmitRoundTrip

/-- A test waits for every answer as long as it takes. -/
theorem within_runTestWithConfigs (serverConf clientConf : TlsConfig) (tcpHost : String)
    (tcpPort : ℤ) :
    Eff.Within unhurried (runTestWithConfigs serverConf clientConf tcpHost tcpPort) := by
  refine .bind within_modifyState fun _ => .finallyDo ?_ ?_
  · refine .bind (within_execute ..) fun r => .bind (within_checkResponse ..) fun ok => ?_
    refine .ite (.pure _) (.bind (within_establishClient ..) fun ok => .ite (.pure _) ?_)
    exact within_runPostEstablishRoundTrip ..
  · exact within_cleanup fun _ _ => rfl

theorem nonempty_answers : ∀ q, Nonempty (DriverAns q)
  | .execute .. => ⟨.error ⟨.named "RpcError", ""⟩⟩
  | .waitTcp .. => ⟨.ok (true, "")⟩
  | .joinWorker => ⟨none⟩
  | .rejoinWorker => ⟨()⟩
  | .workerNotes => ⟨[]⟩
  | .writeLog .. => ⟨.ok ()⟩
  | .unlink _ => ⟨()⟩

theorem calls_callsOf {α : Type} {m : DriverM α} {ok : DriverCall → Bool}
    (h : Eff.Within (Eff.callsOnly ok) m) : (callsOf m).Calls fun q => ok q = true := by
  refine Prog.calls_of_runs nonempty_answers fun tr a hrun e he => ?_
  obtain ⟨tr₁, p, tr₂, rfl, hm, hret⟩ := Prog.runs_bind.mp hrun
  obtain ⟨rfl, -⟩ := Prog.runs_done.mp hret
  rw [List.append_nil] at he
  exact h (show m.Exec {} tr₁ p.1 p.2 from hm) e he

/-- The programs of the threads make the calls of their kind. -/
theorem calls_worker (test : CellTest) (i : ℕ) : test.worker.Calls (SourceCalls (i, .worker)) := by
  have hcalls := calls_callsOf (within_runTestWithConfigs test.serverConf test.clientConf
    test.endpoint.1 test.endpoint.2)
  refine hcalls.mono fun q hq => ?_
  show hasDeadline q = false
  simpa using hq

theorem calls_cleanup (i : ℕ) : (callsOf emergencyCleanup).Calls (SourceCalls (i, .cleanup)) :=
  calls_callsOf within_emergencyCleanup

/-- A call of a wrapper. -/
def isExecute : DriverCall → Bool
  | .execute .. => true
  | _ => false

theorem stubAddress_ne_none {addresses : String × String} {q : DriverCall}
    (hq : isExecute q = true) : stubAddress addresses q ≠ none := by
  cases q with
  | execute => exact Option.some_ne_none _
  | _ => cases hq

theorem stubAddress_eq_none {addresses : String × String} {q : DriverCall}
    (hq : ¬ isExecute q = true) : stubAddress addresses q = none := by
  cases q with
  | execute => exact absurd rfl hq
  | _ => rfl

/-- The last call of a worker goes to a wrapper. -/
theorem endsWith_worker (test : CellTest) : test.worker.EndsWith fun q => isExecute q = true := by
  have hcleanup : ∀ d, (cleanup.prog d).EndsWith fun q => isExecute q = true := by
    intro d
    refine Prog.Calls.endsWith (Prog.calls_of_runs nonempty_answers fun tr a hrun e he => ?_)
    exact within_cleanup (fun _ _ => rfl) (show cleanup.Exec d tr a.1 a.2 from hrun) e he
  unfold CellTest.worker callsOf
  refine Prog.EndsWith.bind_done (g := fun _ => ()) ?_
  show Prog.EndsWith _ (((runProtocol _ _ _ _).prog _) >>= fun p => _)
  exact Prog.endsWith_bind fun p => ⟨(hcleanup p.2).bind_done, fun b => nofun⟩

/-! ### What holds in every state -/

section

variable {repo : Repo} {session : WrapperSession} {cells : List Cell} {s s' : SessionState} {i : ℕ}

/-- The threads fit the place of the main thread. -/
structure SessionState.Placed (repo : Repo) (session : WrapperSession) (cells : List Cell)
    (s : SessionState) : Prop where
  sound : s.calls.Sound (sessionNet repo session cells) SourceCalls
  fresh : ∀ j source, s.main.next ≤ j → s.calls.threads (j, source) = none
  started : ∀ i, s.main.current = some i → s.calls.threads (i, .worker) ≠ none
  addressed : ∀ i, s.main.current = some i → ∃ cell test, cells[i]? = some cell ∧
    cellTest repo session cell = .ok test
  joining : ∀ i, s.main = .joining i → s.calls.threads (i, .cleanup) = none
  closing : ∀ i, s.main = .closing i → s.calls.threads (i, .cleanup) ≠ none
  rejoining : ∀ i, s.main = .rejoining i → s.calls.Ended (i, .cleanup)
  ending : ∀ i t, s.calls.threads (i, .worker) = some t →
    t.program.EndsWith fun q => isExecute q = true

namespace SessionState.Placed

/-- The worker of the next cell is started. -/
theorem begin (h : s.Placed repo session cells) (hmain : s.main = .before i) {cell : Cell}
    {test : CellTest} (hcell : cells[i]? = some cell)
    (htest : cellTest repo session cell = .ok test) :
    (SessionState.mk (.joining i) (s.calls.resume (i, .worker) test.worker)).Placed repo session
      cells where
  sound := by
    -- the worker of the cell is new, and its program makes the calls of the test
    refine h.sound.resume (.inl (h.fresh i .worker ?_)) (calls_worker test i)
    rw [hmain]
    exact le_rfl
  fresh j source hj := by
    have hij : i < j := hj
    rw [Threads.threads_resume_of_ne fun heq => hij.ne' (Prod.mk.inj heq).1]
    refine h.fresh j source ?_
    rw [hmain]
    exact hij.le
  started i' hi' := by
    cases hi'
    rw [Threads.threads_resume_self]
    exact Option.some_ne_none _
  addressed i' hi' := by
    cases hi'
    exact ⟨cell, test, hcell, htest⟩
  joining i' hi' := by
    cases hi'
    -- the emergency cleanup of the cell has not been started yet
    have hne : ((i, .cleanup) : ℕ × Source) ≠ (i, .worker) := by simp
    refine (Threads.threads_resume_of_ne hne _).trans (h.fresh i .cleanup ?_)
    rw [hmain]
    exact le_rfl
  closing := nofun
  rejoining := nofun
  ending j t ht := by
    by_cases hji : j = i
    · subst hji
      rw [Threads.threads_resume_self] at ht
      cases ht
      exact endsWith_worker test
    · rw [Threads.threads_resume_of_ne fun heq => hji (Prod.mk.inj heq).1] at ht
      exact h.ending j t ht

/-- The main thread begins its cleanup. -/
theorem timesOut (h : s.Placed repo session cells) (hmain : s.main = .joining i) :
    (SessionState.mk (.closing i) (s.calls.resume (i, .cleanup) (callsOf emergencyCleanup))).Placed
      repo session cells where
  sound := h.sound.resume (.inl (h.joining i hmain)) (calls_cleanup i)
  fresh j source hj := by
    have hij : i + 1 ≤ j := hj
    rw [Threads.threads_resume_of_ne fun heq => absurd (Prod.mk.inj heq).1 (by omega)]
    refine h.fresh j source ?_
    rw [hmain]
    exact hij
  started i' hi' := by
    cases hi'
    have hne : ((i, .worker) : ℕ × Source) ≠ (i, .cleanup) := by simp
    rw [Threads.threads_resume_of_ne hne]
    exact h.started i (by rw [hmain]; rfl)
  addressed i' hi' := by
    cases hi'
    exact h.addressed i (by rw [hmain]; rfl)
  joining := nofun
  closing i' hi' := by
    cases hi'
    rw [Threads.threads_resume_self]
    exact Option.some_ne_none _
  rejoining := nofun
  ending j t ht := by
    rw [Threads.threads_resume_of_ne (by simp)] at ht
    exact h.ending j t ht

/-- A cell ends. -/
theorem ends (h : s.Placed repo session cells) (hnext : s.main.next ≤ i) :
    ({ s with main := .before i } : SessionState).Placed repo session cells where
  sound := h.sound
  fresh j source hj := h.fresh j source (hnext.trans hj)
  started := nofun
  addressed := nofun
  joining := nofun
  closing := nofun
  rejoining := nofun
  ending := h.ending

/-- **Every step keeps the threads in place.** -/
theorem step (h : s.Placed repo session cells) (hstep : SessionStep repo session cells s s') :
    s'.Placed repo session cells := by
  cases hstep with
  | begin hmain hcell htest => exact h.begin hmain hcell htest
  | noWorker hmain => exact h.ends (by rw [hmain]; exact Nat.le_succ _)
  | joined hmain => exact h.ends (by rw [hmain]; exact le_rfl)
  | timesOut hmain => exact h.timesOut hmain
  | @closed i hmain hended =>
    -- the worker is joined for the second time once both CLOSE calls have ended
    have hcurrent : s.main.current = some i := by rw [hmain]; rfl
    refine ⟨h.sound, fun j source hj => h.fresh j source ?_, fun i' hi' => ?_, fun i' hi' => ?_,
      nofun, nofun, fun i' hi' => ?_, h.ending⟩
    · rwa [hmain]
    · cases hi'
      exact h.started i hcurrent
    · cases hi'
      exact h.addressed i hcurrent
    · cases hi'
      exact hended
  | rejoined hmain => exact h.ends (by rw [hmain]; exact le_rfl)
  | call hstep =>
    -- a step of a worker or of a wrapper leaves the main thread where it is
    exact
      { sound := h.sound.step hstep
        fresh := fun j source hj => hstep.absent (h.fresh j source hj)
        started := fun i hi => hstep.present (h.started i hi)
        addressed := h.addressed
        joining := fun i hmain => hstep.absent (h.joining i hmain)
        closing := fun i hmain => hstep.present (h.closing i hmain)
        rejoining := fun i hmain => hstep.ended (h.rejoining i hmain)
        ending := fun i => hstep.program (fun _ _ ans hp => hp.2 ans) (h.ending i) }

end SessionState.Placed

theorem placed_init : (sessionSystem repo session cells).init.Placed repo session cells where
  sound :=
    { matched := fun _ => rfl
      calls := fun _ _ ht => absurd ht.symm (Option.some_ne_none _)
      known := fun _ hc => absurd hc List.not_mem_nil
      allowed := fun _ hc => absurd hc List.not_mem_nil
      sent := fun _ hc => absurd hc List.not_mem_nil
      givenUp := fun _ hc => absurd hc List.not_mem_nil
      expected := fun _ hc => absurd hc List.not_mem_nil }
  fresh _ _ _ := rfl
  started _ hmain := absurd hmain (Option.some_ne_none _).symm
  addressed _ hmain := absurd hmain (Option.some_ne_none _).symm
  joining _ hmain := SessionMain.noConfusion hmain
  closing _ hmain := SessionMain.noConfusion hmain
  rejoining _ hmain := SessionMain.noConfusion hmain
  ending _ _ ht := absurd ht.symm (Option.some_ne_none _)

theorem placed_of_reachable (h : (sessionSystem repo session cells).Reachable s) :
    s.Placed repo session cells :=
  h.induct placed_init fun _ _ _ hplaced hstep => hplaced.step hstep

/-! ### What holds in every state of a run of calm steps -/

/-- Nothing of a cell that has returned moves, and nothing of it is at a wrapper. -/
structure SessionState.Orderly (repo : Repo) (session : WrapperSession) (cells : List Cell)
    (s : SessionState) : Prop extends s.Placed repo session cells where
  current : ∀ c ∈ s.calls.pending, s.main.current = some c.caller.1
  quiet : ∀ j source, s.main.current ≠ some j → s.calls.Quiet (j, source)

namespace SessionState.Orderly

/-- A cell whose threads are quiet has left no call but those that were given up. -/
theorem pending_eq_nil (h : s.Orderly repo session cells) (hmain : s.main.current = some i)
    (hquiet : ∀ source, s.calls.Quiet (i, source))
    (hawaited : ∀ c ∈ s.calls.pending, c.awaited = true) : s.calls.pending = [] := by
  refine List.eq_nil_iff_forall_not_mem.mpr fun c hc => ?_
  have hcaller : c.caller.1 = i := Option.some.inj ((h.current c hc).symm.trans hmain)
  have hcquiet : s.calls.Quiet c.caller := by
    rw [← hcaller] at hquiet
    exact hquiet c.caller.2
  have hlost := h.sound.awaited_eq_false hc hcquiet.not_waits
  rw [hawaited c hc] at hlost
  cases hlost

/-- A cell that returns with quiet threads leaves an orderly state. -/
theorem returned (h : s.Orderly repo session cells) (hmain : s.main.current = some i)
    (hnext : s.main.next = i + 1) (hquiet : ∀ source, s.calls.Quiet (i, source))
    (hawaited : ∀ c ∈ s.calls.pending, c.awaited = true) :
    ({ s with main := .before (i + 1) } : SessionState).Orderly repo session cells where
  toPlaced := h.toPlaced.ends hnext.le
  current c hc := by
    rw [h.pending_eq_nil hmain hquiet hawaited] at hc
    cases hc
  quiet j source _ := by
    by_cases hj : s.main.current = some j
    · obtain rfl : j = i := Option.some.inj (hj.symm.trans hmain)
      exact hquiet source
    · exact h.quiet j source hj

/-- The calls of a worker are never given up. -/
theorem awaited_of_worker (h : s.Orderly repo session cells)
    {c : Pending DriverCall (ℕ × Source) String} (hc : c ∈ s.calls.pending)
    (hworker : c.caller.2 = .worker) : c.awaited = true := by
  by_contra hlost
  have hbounded : hasDeadline c.call = true := h.sound.givenUp c hc (by simpa using hlost)
  have hallowed := h.sound.allowed c hc
  unfold SourceCalls at hallowed
  rw [hworker] at hallowed
  rw [hallowed] at hbounded
  cases hbounded

/-- A step of a thread or of a wrapper keeps the state orderly. -/
theorem call (h : s.Orderly repo session cells)
    {calls : Threads DriverAns Unit (ℕ × Source) String}
    (hstep : (sessionNet repo session cells).Step s.calls calls) :
    ({ s with calls } : SessionState).Orderly repo session cells where
  toPlaced := h.toPlaced.step (.call hstep)
  current c hc := by
    cases hstep.origin hc with
    | old c₀ hmem hcaller =>
      rw [hcaller]
      exact h.current c₀ hmem
    | made k hthread =>
      -- a thread that makes a call is not quiet, so that its cell runs
      by_contra hother
      rcases h.quiet c.caller.1 c.caller.2 hother with hnone | ⟨a, ha⟩
      · rw [hnone] at hthread
        cases hthread
      · rw [ha] at hthread
        cases hthread
  quiet j source hj := hstep.quiet (h.quiet j source hj)

/-- What the main thread starts belongs to the cell that runs. -/
theorem resume (h : s.Orderly repo session cells) {main : SessionMain} {source : Source}
    {p : Prog DriverAns Unit} (hmain : main.current = some i)
    (hold : s.main.current = none ∨ s.main.current = some i)
    (hplaced : (SessionState.mk main (s.calls.resume (i, source) p)).Placed repo session cells) :
    (SessionState.mk main (s.calls.resume (i, source) p)).Orderly repo session cells where
  toPlaced := hplaced
  current c hc := by
    have hcurrent := h.current c hc
    rcases hold with hnone | hsame
    · rw [hnone] at hcurrent
      cases hcurrent
    · exact hmain.trans (hsame.symm.trans hcurrent)
  quiet j source' hj := by
    have hji : j ≠ i := by
      rintro rfl
      exact hj hmain
    refine Threads.Quiet.resume (fun heq => hji (Prod.mk.inj heq).1) (h.quiet j source' ?_)
    rcases hold with hnone | hsame
    · rw [hnone]
      nofun
    · rw [hsame]
      exact fun heq => hji (Option.some.inj heq).symm

/-- **Every calm step keeps the state orderly.** -/
theorem step (h : s.Orderly repo session cells) (hstep : SessionStep repo session cells s s')
    (hcalm : Calm s s') : s'.Orderly repo session cells := by
  have hplaced := h.toPlaced.step hstep
  cases hstep with
  | begin hmain => exact h.resume rfl (.inl (by rw [hmain]; rfl)) hplaced
  | @noWorker i cell e hmain =>
    refine ⟨hplaced, fun c hc => ?_, fun j source _ => h.quiet j source ?_⟩
    · have hcurrent := h.current c hc
      rw [hmain] at hcurrent
      cases hcurrent
    · rw [hmain]
      nofun
  | @joined i hmain hended =>
    have hcurrent : s.main.current = some i := by rw [hmain]; rfl
    refine h.returned hcurrent (by rw [hmain]; rfl) (fun source => ?_) fun c hc => ?_
    · cases source with
      | worker => exact .inr hended
      | cleanup => exact .inl (h.joining i hmain)
    · -- the cleanup of a cell that did not time out has made no call
      refine h.awaited_of_worker hc ?_
      have hcaller : c.caller.1 = i := Option.some.inj ((h.current c hc).symm.trans hcurrent)
      rcases hsource : c.caller.2 with _ | _
      · rfl
      · have hcleanup : c.caller = (i, .cleanup) := Prod.ext hcaller hsource
        have hknown := h.sound.known c hc
        rw [hcleanup] at hknown
        exact absurd (h.joining i hmain) hknown
  | timesOut hmain => exact h.resume rfl (.inr (by rw [hmain]; rfl)) hplaced
  | @closed i hmain =>
    refine ⟨hplaced, fun c hc => ?_, fun j source hj => h.quiet j source ?_⟩
    · have hcurrent := h.current c hc
      rwa [hmain] at hcurrent
    · rwa [hmain]
  | @rejoined i hmain =>
    have hmoves : SessionMain.before (i + 1) ≠ s.main := by
      rw [hmain]
      nofun
    obtain ⟨hended, hawaited⟩ := hcalm i hmain hmoves
    refine h.returned (by rw [hmain]; rfl) (by rw [hmain]; rfl) (fun source => ?_) hawaited
    cases source with
    | worker => exact .inr hended
    | cleanup => exact .inr (h.rejoining i hmain)
  | call hstep => exact h.call hstep

end SessionState.Orderly

theorem orderly_init :
    (sessionSystem repo session cells).init.Orderly repo session cells where
  toPlaced := placed_init
  current _ hc := absurd hc List.not_mem_nil
  quiet _ _ _ := .inl rfl

/-- **No cell disturbs its successors in a run of calm steps**: every operation that is
executed is of the cell that runs.  A step is calm unless it leaves a cell that timed out
while its worker still lives or a call of it is queued or executed; the main thread looks
at neither.  The invariant behind it, `SessionState.Orderly`, says that every pending call
is of the current cell, and that the threads of the earlier cells are quiet. -/
theorem undisturbed_of_calm (h : (calmSystem repo session cells).Reachable s) : Undisturbed s := by
  have horderly : s.Orderly repo session cells :=
    h.induct orderly_init fun s s' _ horderly hstep => horderly.step hstep.1 hstep.2
  exact fun c hc _ => horderly.current c hc

/-! ### Runs of a session -/

theorem calmSystem_call {calls : Threads DriverAns Unit (ℕ × Source) String}
    (h : (calmSystem repo session cells).Reachable s)
    (hrun : Relation.ReflTransGen (sessionNet repo session cells).Step s.calls calls) :
    (calmSystem repo session cells).Reachable { s with calls } := by
  induction hrun with
  | refl => exact h
  | tail _ hstep ih => exact ih.step ⟨.call hstep, fun _ _ hmoves => absurd rfl hmoves⟩

theorem sessionSystem_call {calls : Threads DriverAns Unit (ℕ × Source) String}
    (h : (sessionSystem repo session cells).Reachable s)
    (hrun : Relation.ReflTransGen (sessionNet repo session cells).Step s.calls calls) :
    (sessionSystem repo session cells).Reachable { s with calls } := by
  induction hrun with
  | refl => exact h
  | tail _ hstep ih => exact ih.step (.call hstep)

/-- The calls of a cell go to the addresses of its stubs. -/
theorem server_sessionNet {cell : Cell} {test : CellTest} (hcell : cells[i]? = some cell)
    (htest : cellTest repo session cell = .ok test) (source : Source) (q : DriverCall) :
    (sessionNet repo session cells).server (i, source) q = stubAddress test.addresses q := by
  show (cells[i]?.bind fun cell => _) = _
  rw [hcell]
  show ((cellTest repo session cell).toOption.bind fun test => stubAddress test.addresses q) = _
  rw [htest]
  rfl

theorem SessionState.Placed.server (h : s.Placed repo session cells)
    (hcurrent : s.main.current = some i) : ∃ addresses : String × String, ∀ source q,
      (sessionNet repo session cells).server (i, source) q = stubAddress addresses q := by
  obtain ⟨cell, test, hcell, htest⟩ := h.addressed i hcurrent
  exact ⟨test.addresses, server_sessionNet hcell htest⟩

/-! ### A wrapper that hangs -/

/-- A step in which no wrapper begins to execute a call, or ends it. -/
def StalledStep (repo : Repo) (session : WrapperSession) (cells : List Cell)
    (s s' : SessionState) : Prop :=
  SessionStep repo session cells s s' ∧ executed s'.calls.pending = executed s.calls.pending

theorem stalled_call {main : SessionMain} {calls calls' : Threads DriverAns Unit (ℕ × Source) String}
    (h : Relation.ReflTransGen (sessionNet repo session cells).Stalled calls calls') :
    Relation.ReflTransGen (StalledStep repo session cells) ⟨main, calls⟩ ⟨main, calls'⟩ := by
  induction h with
  | refl => exact .refl
  | tail _ hstep ih => exact ih.tail ⟨.call hstep.1, hstep.2⟩

/-- The calls of a cleanup come to their ends while no wrapper does anything. -/
theorem SessionState.Placed.timely (h : s.Placed repo session cells)
    (hcurrent : s.main.current = some i) {p : Prog DriverAns Unit} {waiting : Bool}
    (hthread : s.calls.threads (i, .cleanup) = some ⟨p, waiting⟩) :
    p.Calls ((sessionNet repo session cells).Timely (i, .cleanup)) := by
  obtain ⟨addresses, hserver⟩ := h.server hcurrent
  refine (h.sound.calls _ _ hthread).mono fun q hq => ?_
  cases q with
  | execute toServer request timeoutS =>
    exact ⟨.error ⟨.named "RpcError", "Deadline Exceeded"⟩, .inr ⟨hq, _, rfl⟩⟩
  | _ => exact ⟨(nonempty_answers _).some, .inl (hserver ..)⟩

/-- The emergency cleanup comes to its end by its deadlines alone. -/
theorem SessionState.Placed.exists_closed (h : s.Placed repo session cells)
    (hmain : s.main = .closing i) : ∃ calls, Relation.ReflTransGen
      (sessionNet repo session cells).Stalled s.calls calls ∧ calls.Ended (i, .cleanup) := by
  obtain ⟨⟨p, waiting⟩, hthread⟩ := Option.ne_none_iff_exists'.mp (h.closing i hmain)
  have hcalls := h.timely (by rw [hmain]; rfl) hthread
  cases waiting with
  | false =>
    obtain ⟨calls, hrun, hended, -⟩ := Net.exists_ended_stalled hcalls hthread
    exact ⟨calls, hrun, hended⟩
  | true =>
    obtain ⟨calls₁, p', hgiveUp, hthread', hcalls'⟩ :=
      Net.exists_giveUp_of_waiting h.sound hthread hcalls
    obtain ⟨calls, hrun, hended, -⟩ := Net.exists_ended_stalled hcalls' hthread'
    exact ⟨calls, .head hgiveUp hrun, hended⟩

/-- **Wrappers that hang do not keep the main thread in a cell**: the joins and the
deadlines of the emergency cleanup lead out of it.  No step of a wrapper is used, so that
this holds of wrappers that never answer again. -/
theorem leaves_cell_while_stalled (h : (sessionSystem repo session cells).Reachable s)
    (hcurrent : s.main.current = some i) :
    ∃ calls, Relation.ReflTransGen (StalledStep repo session cells) s ⟨.before (i + 1), calls⟩ := by
  have hclosing : ∀ {s : SessionState}, (sessionSystem repo session cells).Reachable s →
      s.main = .closing i → ∃ calls,
        Relation.ReflTransGen (StalledStep repo session cells) s ⟨.before (i + 1), calls⟩ := by
    intro s h hmain
    obtain ⟨calls, hrun, hended⟩ := (placed_of_reachable h).exists_closed hmain
    obtain ⟨main, calls₀⟩ := s
    cases hmain
    exact ⟨calls, .tail (.tail (stalled_call hrun) ⟨.closed rfl hended, rfl⟩) ⟨.rejoined rfl, rfl⟩⟩
  rcases hmain : s.main with j | j | j | j
  · rw [hmain] at hcurrent
    cases hcurrent
  · rw [hmain] at hcurrent
    cases hcurrent
    by_cases hended : s.calls.Ended (i, .worker)
    · exact ⟨s.calls, .single ⟨.joined hmain hended, rfl⟩⟩
    · have htimesOut : SessionStep repo session cells s _ := .timesOut hmain hended
      obtain ⟨calls, hrun⟩ := hclosing (h.step htimesOut) rfl
      exact ⟨calls, .head ⟨htimesOut, rfl⟩ hrun⟩
  · rw [hmain] at hcurrent
    cases hcurrent
    exact hclosing h hmain
  · rw [hmain] at hcurrent
    cases hcurrent
    exact ⟨s.calls, .single ⟨.rejoined hmain, rfl⟩⟩

/-! ### A cell that returns too early -/

/-- What a cell that has not settled leaves behind comes to execution. -/
theorem SessionState.Placed.exists_executing (h : s.Placed repo session cells)
    (hmain : s.main = .rejoining i) (hsettled : ¬ CellSettled s i) :
    ∃ calls, Relation.ReflTransGen (sessionNet repo session cells).Step s.calls calls ∧
      ∃ c ∈ calls.pending, c.executing = true := by
  -- a call that is pending comes to be executed
  have hcomes : ∀ {calls c}, Relation.ReflTransGen (sessionNet repo session cells).Step s.calls calls →
      c ∈ calls.pending → ∃ calls, Relation.ReflTransGen (sessionNet repo session cells).Step s.calls
        calls ∧ ∃ c ∈ calls.pending, c.executing = true := by
    intro calls c hrun hc
    obtain ⟨calls', hrest, c', hc', -, hexecuting⟩ :=
      Net.exists_executing nonempty_answers (h.sound.steps hrun) hc
    exact ⟨calls', hrun.trans hrest, c', hc', hexecuting⟩
  by_cases hended : s.calls.Ended (i, .worker)
  · -- a call that was given up
    have hlost : ∃ c ∈ s.calls.pending, c.awaited ≠ true := by
      by_contra hnone
      exact hsettled ⟨hended, fun c hc => by_contra fun hlost => hnone ⟨c, hc, hlost⟩⟩
    obtain ⟨c, hc, -⟩ := hlost
    exact hcomes .refl hc
  · -- the worker still lives: its call is pending, or it goes on to one
    have hcurrent : s.main.current = some i := by rw [hmain]; rfl
    obtain ⟨addresses, hserver⟩ := h.server hcurrent
    obtain ⟨⟨p, waiting⟩, hthread⟩ := Option.ne_none_iff_exists'.mp (h.started i hcurrent)
    have hending : p.EndsWith fun q => isExecute q = true := h.ending i _ hthread
    cases waiting with
    | true =>
      obtain ⟨c, hc, -⟩ := h.sound.exists_awaited hthread
      exact hcomes .refl hc
    | false =>
      obtain ⟨calls, hrun, c, hc, -⟩ := Net.exists_sent nonempty_answers
        (fun q hq => (hserver .worker q).trans_ne (stubAddress_ne_none hq))
        (fun q hq => (hserver .worker q).trans (stubAddress_eq_none hq)) hending
        (fun a ha => hended ⟨a, by rw [hthread, ha]⟩) hthread
      exact hcomes hrun hc

/-- **A cell that times out and returns before it has settled may disturb its successors.**
A queued call is started by its wrapper, one that is executed is there already, and a living
worker makes its next call; each is then executed while the main thread is past the cell. -/
theorem disturbs_of_not_settled (h : (sessionSystem repo session cells).Reachable s)
    (hmain : s.main = .rejoining i) (hsettled : ¬ CellSettled s i) :
    ∃ s', Relation.ReflTransGen (SessionStep repo session cells)
      { s with main := .before (i + 1) } s' ∧ ¬ Undisturbed s' := by
  obtain ⟨calls, hrun, c, hc, hexecuting⟩ := (placed_of_reachable h).exists_executing hmain hsettled
  have hcalls : Relation.ReflTransGen (SessionStep repo session cells)
      ⟨.before (i + 1), s.calls⟩ ⟨.before (i + 1), calls⟩ := by
    clear hc
    induction hrun with
    | refl => exact .refl
    | tail _ hstep ih => exact ih.tail (.call hstep)
  exact ⟨_, hcalls, fun hundisturbed => nomatch hundisturbed c hc hexecuting⟩

variable (repo session cells) in
/-- Every call of a cell may fail, or go to no wrapper. -/
theorem exists_failing (t : ℕ × Source) (q : DriverCall) : ∃ ans,
    (sessionNet repo session cells).server t q = none ∨ (sessionNet repo session cells).Fails q ans := by
  cases q with
  | execute => exact ⟨.error ⟨.named "RpcError", ""⟩, .inr ⟨_, rfl⟩⟩
  | _ => exact ⟨(nonempty_answers _).some, .inl (by simp [sessionNet, stubAddress])⟩

/-! ### A worker that is late -/

/-- The first call of a worker is the ESTABLISH of the server. -/
theorem worker_begins (test : CellTest) :
    ∃ request k, test.worker = .ask (.execute true request none) k := ⟨_, _, rfl⟩

/-- A cell whose worker is late comes to the second join, with its CLOSE calls behind those
at the wrappers. -/
theorem exists_rejoining (h : (sessionSystem repo session cells).Reachable s)
    (hmain : s.main = .joining i) (halive : ¬ s.calls.Ended (i, .worker)) :
    ∃ calls, (sessionSystem repo session cells).Reachable ⟨.rejoining i, calls⟩ ∧
      s.calls.pending ⊆ calls.pending ∧
      calls.threads (i, .worker) = s.calls.threads (i, .worker) := by
  have htimesOut := h.step (.timesOut hmain halive)
  have hthread : (s.calls.resume (i, .cleanup) (callsOf emergencyCleanup)).threads (i, .cleanup)
      = some ⟨callsOf emergencyCleanup, false⟩ := Threads.threads_resume_self _
  obtain ⟨calls, hrun, hended, hpending, hothers⟩ :=
    Net.exists_ended_stalled ((placed_of_reachable htimesOut).timely rfl hthread) hthread
  have hclosing := sessionSystem_call htimesOut (Net.steps_of_stalled hrun)
  refine ⟨calls, hclosing.step (.closed rfl hended), hpending, ?_⟩
  have hne : ((i, .worker) : ℕ × Source) ≠ (i, .cleanup) := by simp
  rw [hothers _ hne]
  exact Threads.threads_resume_of_ne hne _

end

/-- The session of a serial run with OpenSSL. -/
def opensslSession : WrapperSession where
  backends := ["openssl"]
  attach := false
  slotId := none
  grpcPortOverrides := []

theorem exists_portTest :
    ∃ test, cellTest (shippedRepo "/repo" noCerts) opensslSession portCell = .ok test := by
  have hok : (cellTest (shippedRepo "/repo" noCerts) opensslSession portCell).isOk = true := by
    decide +kernel
  cases htest : cellTest (shippedRepo "/repo" noCerts) opensslSession portCell with
  | ok test => exact ⟨test, rfl⟩
  | error e =>
    rw [htest] at hok
    cases hok

/-- The wrapper executes the ESTABLISH of the first cell, and does not come to an end. -/
theorem exists_hung : ∃ calls, (sessionSystem (shippedRepo "/repo" noCerts) opensslSession
    [portCell, portCell]).Reachable ⟨.joining 0, calls⟩ ∧
      (∃ c ∈ calls.pending, c.caller = (0, .worker) ∧ c.executing = true) ∧
      ¬ calls.Ended (0, .worker) := by
  obtain ⟨test, htest⟩ := exists_portTest
  obtain ⟨request, k, hworker⟩ := worker_begins test
  have hinit : (sessionSystem (shippedRepo "/repo" noCerts) opensslSession
      [portCell, portCell]).Reachable ⟨.before 0, noThreads⟩ := .refl
  have hbegin := hinit.step (.begin rfl rfl htest)
  have hthread : (noThreads.resume (0, Source.worker) test.worker).threads (0, Source.worker)
      = some ⟨.ask (.execute true request none) k, false⟩ := by
    rw [Threads.threads_resume_self, hworker]
  have hsend := hbegin.step (.call (.send hthread (server_sessionNet rfl htest .worker _)))
  let establish : Pending DriverCall (ℕ × Source) String :=
    ⟨test.addresses.1, (0, .worker), .execute true request none, true, false⟩
  let hung : Threads DriverAns Unit (ℕ × Source) String :=
    { threads := Function.update (noThreads.resume (0, Source.worker) test.worker).threads
        (0, Source.worker) (some ⟨.ask (.execute true request none) k, true⟩)
      pending := [{ establish with executing := true }] }
  have hpending : [establish] = [] ++ establish :: [] := rfl
  have hwaits : hung.threads (0, .worker) = some ⟨.ask (.execute true request none) k, true⟩ := by
    dsimp only [hung]
    rw [Function.update_self]
  exact ⟨hung, hsend.step (.call (.start hpending fun _ hc => absurd hc List.not_mem_nil)),
    ⟨_, List.mem_cons_self, rfl, rfl⟩, Threads.not_ended_of_waiting hwaits⟩

/-- The main thread leaves the cell of that ESTABLISH while the wrapper hangs. -/
theorem hung_wrapper_left : ∃ s calls, (∃ c ∈ s.calls.pending, c.executing = true) ∧
    Relation.ReflTransGen (StalledStep (shippedRepo "/repo" noCerts) opensslSession
      [portCell, portCell]) s ⟨.before 1, calls⟩ := by
  obtain ⟨calls, hreachable, ⟨c, hc, -, hexecuting⟩, -⟩ := exists_hung
  obtain ⟨calls', hrun⟩ := leaves_cell_while_stalled hreachable rfl
  exact ⟨_, calls', ⟨c, hc, hexecuting⟩, hrun⟩

/-- The second join of a cell whose ESTABLISH is executed. -/
theorem exists_hung_rejoining : ∃ calls, (sessionSystem (shippedRepo "/repo" noCerts) opensslSession
    [portCell, portCell]).Reachable ⟨.rejoining 0, calls⟩ ∧
      (∃ c ∈ calls.pending, c.caller = (0, .worker) ∧ c.executing = true) ∧
      ¬ CellSettled ⟨.rejoining 0, calls⟩ 0 := by
  obtain ⟨calls, hreachable, ⟨c, hc, hexecuted⟩, halive⟩ := exists_hung
  obtain ⟨calls', hrejoining, hpending, hthread⟩ := exists_rejoining hreachable rfl halive
  refine ⟨calls', hrejoining, ⟨c, hpending hc, hexecuted⟩, fun hsettled => halive ?_⟩
  obtain ⟨a, ha⟩ := hsettled.1
  exact ⟨a, hthread.symm.trans ha⟩

/-- The return from that join may be followed by a state in which a call of the cell is
executed. -/
theorem hung_cell_disturbs : ∃ calls s', Relation.ReflTransGen
    (SessionStep (shippedRepo "/repo" noCerts) opensslSession [portCell, portCell])
    ⟨.before 1, calls⟩ s' ∧ ¬ Undisturbed s' := by
  obtain ⟨calls, hreachable, -, hsettled⟩ := exists_hung_rejoining
  obtain ⟨s', hrun, hdisturbed⟩ := disturbs_of_not_settled hreachable rfl hsettled
  exact ⟨calls, s', hrun, hdisturbed⟩

/-- The ESTABLISH of a cell that timed out may be executed while the next cell runs. -/
theorem late_worker_disturbs : ¬ ∀ s, (sessionSystem (shippedRepo "/repo" noCerts) opensslSession
    [portCell, portCell]).Reachable s → Undisturbed s := by
  intro h
  obtain ⟨test, htest⟩ := exists_portTest
  obtain ⟨calls, hrejoining, ⟨c, hc, hcaller, hexecuting⟩, -⟩ := exists_hung_rejoining
  have hnext := (hrejoining.step (.rejoined rfl)).step (.begin rfl rfl htest)
  have hcurrent := h _ hnext c hc hexecuting
  rw [hcaller] at hcurrent
  cases hcurrent

/-- A cell that times out and settles, and the ESTABLISH of the next one. -/
theorem settled_cell_undisturbed :
    ∃ s, (calmSystem (shippedRepo "/repo" noCerts) opensslSession [portCell, portCell]).Reachable s ∧
      s.main = .joining 1 ∧ (∃ c ∈ s.calls.pending, c.executing = true) ∧ Undisturbed s := by
  obtain ⟨test, htest⟩ := exists_portTest
  obtain ⟨request, k, hworker⟩ := worker_begins test
  have hinit : (calmSystem (shippedRepo "/repo" noCerts) opensslSession
      [portCell, portCell]).Reachable ⟨.before 0, noThreads⟩ := .refl
  have hbegin := hinit.step ⟨.begin rfl rfl htest, nofun⟩
  have halive : ¬ (noThreads.resume (0, Source.worker) test.worker).Ended (0, Source.worker) := by
    rintro ⟨a, ha⟩
    rw [Threads.threads_resume_self, hworker] at ha
    cases ha
  have htimesOut := hbegin.step ⟨.timesOut rfl halive, nofun⟩
  -- no CLOSE reaches the wrapper, and neither does a call of the worker
  have hfailing := exists_failing (shippedRepo "/repo" noCerts) opensslSession [portCell, portCell]
  obtain ⟨calls₁, hrun₁, hended₁, hpending₁, hothers₁⟩ :=
    Net.exists_ended (hfailing _) (Threads.threads_resume_self (i := (0, Source.cleanup)) _)
  have hclosed := (calmSystem_call htimesOut hrun₁).step ⟨.closed rfl hended₁, nofun⟩
  have hthread : calls₁.threads (0, .worker) = some ⟨test.worker, false⟩ := by
    rw [hothers₁ _ (by simp), Threads.threads_resume_of_ne (by simp)]
    exact Threads.threads_resume_self _
  obtain ⟨calls₂, hrun₂, hended₂, hpending₂, -⟩ := Net.exists_ended (hfailing _) hthread
  have hnone : calls₂.pending = [] := hpending₂.trans hpending₁
  have hsettled : CellSettled ⟨.rejoining 0, calls₂⟩ 0 := by
    refine ⟨hended₂, fun c hc => ?_⟩
    rw [show (SessionState.mk (.rejoining 0) calls₂).calls.pending = [] from hnone] at hc
    cases hc
  have hreturned := (calmSystem_call hclosed hrun₂).step
    ⟨.rejoined rfl, fun i hi _ => by cases hi; exact hsettled⟩
  have hnext := hreturned.step ⟨.begin rfl rfl htest, nofun⟩
  have hthread' : (calls₂.resume (1, Source.worker) test.worker).threads (1, Source.worker)
      = some ⟨.ask (.execute true request none) k, false⟩ := by
    rw [Threads.threads_resume_self, hworker]
  have hsend := hnext.step
    ⟨.call (.send hthread' (server_sessionNet rfl htest .worker _)), fun _ _ hmoves => absurd rfl hmoves⟩
  let establish : Pending DriverCall (ℕ × Source) String :=
    ⟨test.addresses.1, (1, .worker), .execute true request none, true, false⟩
  have hpending : calls₂.pending ++ [establish] = [] ++ establish :: [] := by rw [hnone]
  have hstart := hsend.step
    ⟨.call (.start hpending fun _ hc => absurd hc List.not_mem_nil), fun _ _ hmoves => absurd rfl hmoves⟩
  exact ⟨_, hstart, rfl, ⟨_, List.mem_cons_self, rfl⟩, undisturbed_of_calm hstart⟩

end TlsInterop
