import TlsInterop.Core.CommandLine
import TlsInterop.Effects.Transition
import TlsInterop.Runner.Driver

/-!
# The worker pool of a parallel run

`run_matrix_parallel` submits one call of `run_matrix_cell` for each combination
to a pool of threads, and collects the results in the order in which the calls
end.  The threads share a queue of slots, the console lock and the counter of
completed cells.  A state says where every thread is between two accesses to what
is shared; a step is one such access.  Reading and writing the counter are two
steps, and a cell may print any number of times under the console lock.

## Main definitions

* `Behaviour` — what the cells and the console may do.
* `Phase`, `MainPhase`, `PoolState` — where a worker and the main thread are.
* `WorkerStep`, `MainStep`, `MatrixRun.pool` — the steps, and the system of a run.
* `MatrixRun.serial` — what the serial run of the same matrix returns.
* `Phase.slots`, `Phase.items`, `Phase.locked` — what a worker holds.

## Main results

* `WorkerStep.moves` — what a step of a worker takes and gives up.
* `slots_conserved` — free and held slots are those of the run, in every state.
* `pool_terminates` — no run goes on forever.
-/

namespace TlsInterop

open Py Effects

/-! ### Cells -/

/-- The label and the return code of a cell, or the exception it ends in. -/
abbrev CellResult := Except PyExc (String × ℤ)

/-- What the cells and the console may do: the codes a cell can return and the
exceptions it can raise in the session of a slot (`none` in the serial run), and
those that writing the result line can raise. -/
structure Behaviour where
  returns : Option ℕ → Cell → ℤ → Prop
  raises : Option ℕ → Cell → PyExc → Prop
  printRaises : PyExc → Prop

/-! ### States -/

/-- A cell that has ended: its combination, the slot it holds, its label and its code. -/
structure Report where
  item : ℕ
  slot : Option ℕ
  label : String
  rc : ℤ

/-- Where a worker is in `run_matrix_cell`. -/
inductive Phase
  /-- Waiting for a work item. -/
  | idle
  /-- At the start of the function. -/
  | prepare (item : ℕ)
  /-- At `slot_queue.get()`. -/
  | borrow (item : ℕ) (cell : Cell) (label : String)
  /-- In `execute_matrix_cell`, with so many console messages to come. -/
  | execute (item slot : ℕ) (cell : Cell) (label : String) (prints : ℕ)
  /-- In `execute_matrix_cell`, with the console lock. -/
  | printing (item slot : ℕ) (cell : Cell) (label : String) (prints : ℕ)
  /-- In `_print_live_result`, before the lock. -/
  | report (r : Report)
  /-- With the lock, before `ctx.completed` is read. -/
  | readCount (r : Report)
  /-- Before `ctx.completed` is written. -/
  | writeCount (r : Report) (count : ℕ)
  /-- Before the line is printed and the lock is released. -/
  | printLine (r : Report)
  /-- In the `finally` block. -/
  | release (item : ℕ) (slot : Option ℕ) (res : CellResult)
  /-- Before the result is set in the future. -/
  | finish (item : ℕ) (res : CellResult)

/-- Where the main thread is in `run_matrix_parallel`. -/
inductive MainPhase
  /-- In the comprehension, with so many combinations submitted. -/
  | submitting (count : ℕ)
  /-- In the loop over the futures, some of them still to come. -/
  | collecting (todo : Multiset ℕ) (results : List (String × ℤ))
  /-- Waiting for the threads at the end of the `with` block. -/
  | leaving (res : Except PyExc (List (String × ℤ)))
  | returned (res : Except PyExc (List (String × ℤ)))

/-- The state of a run with `n` worker threads: the items not yet taken, the
workers, the free slots, the holder of the console lock, the counter, the
futures that are done and not yet collected, and the main thread. -/
structure PoolState (n : ℕ) where
  pending : List ℕ
  workers : Fin n → Phase
  slotQueue : List ℕ
  lock : Option (Fin n)
  completed : ℕ
  finished : List (ℕ × CellResult)
  main : MainPhase

/-- Where `slot` is put back to. -/
def putSlot (queue : List ℕ) : Option ℕ → List ℕ
  | some slot => queue ++ [slot]
  | none => queue

/-! ### Steps -/

section

variable {n : ℕ} (run : MatrixRun) (b : Behaviour)

/-- One step of a worker. -/
inductive WorkerStep (w : Fin n) : PoolState n → PoolState n → Prop
  | take {s : PoolState n} {i : ℕ} {rest : List ℕ} (hphase : s.workers w = .idle)
      (hpending : s.pending = i :: rest) :
      WorkerStep w s { s with pending := rest, workers := Function.update s.workers w (.prepare i) }
  | prepareRaises {s : PoolState n} {i : ℕ} {tup : List String} {e : PyExc}
      (hphase : s.workers w = .prepare i) (htup : run.combos[i]? = some tup)
      (hprep : run.prepare tup = .error e) :
      WorkerStep w s { s with workers := Function.update s.workers w (.finish i (.error e)) }
  | prepareSkip {s : PoolState n} {i : ℕ} {tup : List String} {label : String}
      (hphase : s.workers w = .prepare i) (htup : run.combos[i]? = some tup)
      (hprep : run.prepare tup = .ok (.skip label)) :
      WorkerStep w s
        { s with workers := Function.update s.workers w (.report ⟨i, none, label, exitSkip⟩) }
  | prepareRun {s : PoolState n} {i : ℕ} {tup : List String} {cell : Cell} {label : String}
      (hphase : s.workers w = .prepare i) (htup : run.combos[i]? = some tup)
      (hprep : run.prepare tup = .ok (.run cell label)) :
      WorkerStep w s { s with workers := Function.update s.workers w (.borrow i cell label) }
  | borrow {s : PoolState n} {i slot : ℕ} {cell : Cell} {label : String} {rest : List ℕ}
      (prints : ℕ) (hphase : s.workers w = .borrow i cell label)
      (hqueue : s.slotQueue = slot :: rest) :
      WorkerStep w s
        { s with
          slotQueue := rest
          workers := Function.update s.workers w (.execute i slot cell label prints) }
  | lockConsole {s : PoolState n} {i slot : ℕ} {cell : Cell} {label : String} {prints : ℕ}
      (hphase : s.workers w = .execute i slot cell label (prints + 1)) (hlock : s.lock = none) :
      WorkerStep w s
        { s with
          lock := some w
          workers := Function.update s.workers w (.printing i slot cell label prints) }
  | unlockConsole {s : PoolState n} {i slot : ℕ} {cell : Cell} {label : String} {prints : ℕ}
      (hphase : s.workers w = .printing i slot cell label prints) :
      WorkerStep w s
        { s with
          lock := none
          workers := Function.update s.workers w (.execute i slot cell label prints) }
  | executeReturns {s : PoolState n} {i slot : ℕ} {cell : Cell} {label : String} {prints : ℕ}
      {rc : ℤ} (hphase : s.workers w = .execute i slot cell label prints)
      (hrc : b.returns (some slot) cell rc) :
      WorkerStep w s
        { s with workers := Function.update s.workers w (.report ⟨i, some slot, label, rc⟩) }
  | executeRaises {s : PoolState n} {i slot : ℕ} {cell : Cell} {label : String} {prints : ℕ}
      {e : PyExc} (hphase : s.workers w = .execute i slot cell label prints)
      (he : b.raises (some slot) cell e) :
      WorkerStep w s
        { s with workers := Function.update s.workers w (.release i (some slot) (.error e)) }
  | lockReport {s : PoolState n} {r : Report} (hphase : s.workers w = .report r)
      (hlock : s.lock = none) :
      WorkerStep w s
        { s with lock := some w, workers := Function.update s.workers w (.readCount r) }
  | readCount {s : PoolState n} {r : Report} (hphase : s.workers w = .readCount r) :
      WorkerStep w s
        { s with workers := Function.update s.workers w (.writeCount r s.completed) }
  | writeCount {s : PoolState n} {r : Report} {count : ℕ}
      (hphase : s.workers w = .writeCount r count) :
      WorkerStep w s
        { s with completed := count + 1, workers := Function.update s.workers w (.printLine r) }
  | printLine {s : PoolState n} {r : Report} (hphase : s.workers w = .printLine r) :
      WorkerStep w s
        { s with
          lock := none
          workers := Function.update s.workers w (.release r.item r.slot (.ok (r.label, r.rc))) }
  | printLineRaises {s : PoolState n} {r : Report} {e : PyExc}
      (hphase : s.workers w = .printLine r) (he : b.printRaises e) :
      WorkerStep w s
        { s with
          lock := none
          workers := Function.update s.workers w (.release r.item r.slot (.error e)) }
  | release {s : PoolState n} {i : ℕ} {slot : Option ℕ} {res : CellResult}
      (hphase : s.workers w = .release i slot res) :
      WorkerStep w s
        { s with
          slotQueue := putSlot s.slotQueue slot
          workers := Function.update s.workers w (.finish i res) }
  | finish {s : PoolState n} {i : ℕ} {res : CellResult} (hphase : s.workers w = .finish i res) :
      WorkerStep w s
        { s with
          finished := s.finished ++ [(i, res)]
          workers := Function.update s.workers w .idle }

/-- One step of the main thread. -/
inductive MainStep : PoolState n → PoolState n → Prop
  | submit {s : PoolState n} {k : ℕ} (hmain : s.main = .submitting k) (hk : k < run.combos.length) :
      MainStep s { s with pending := s.pending ++ [k], main := .submitting (k + 1) }
  | submitted {s : PoolState n} (hmain : s.main = .submitting run.combos.length) :
      MainStep s { s with main := .collecting (Multiset.range run.combos.length) [] }
  | collect {s : PoolState n} {i : ℕ} {r : String × ℤ} {todo : Multiset ℕ}
      {results : List (String × ℤ)} {before after : List (ℕ × CellResult)}
      (hmain : s.main = .collecting todo results)
      (hdone : s.finished = before ++ (i, .ok r) :: after) :
      MainStep s
        { s with finished := before ++ after, main := .collecting (todo.erase i) (results ++ [r]) }
  | collectRaises {s : PoolState n} {i : ℕ} {e : PyExc} {todo : Multiset ℕ}
      {results : List (String × ℤ)} {before after : List (ℕ × CellResult)}
      (hmain : s.main = .collecting todo results)
      (hdone : s.finished = before ++ (i, .error e) :: after) :
      MainStep s { s with finished := before ++ after, main := .leaving (.error e) }
  | collected {s : PoolState n} {results : List (String × ℤ)}
      (hmain : s.main = .collecting 0 results) :
      MainStep s { s with main := .leaving (.ok results) }
  | shutdown {s : PoolState n} {res : Except PyExc (List (String × ℤ))}
      (hmain : s.main = .leaving res) (hpending : s.pending = [])
      (hidle : ∀ w, s.workers w = .idle) :
      MainStep s { s with main := .returned res }

/-- One step of the run. -/
inductive PoolStep (s s' : PoolState n) : Prop
  | worker (w : Fin n) (h : WorkerStep run b w s s')
  | main (h : MainStep run s s')

end

/-- The condition under which `execute_matrix_execution` runs a matrix in parallel. -/
def RunsParallel (jobs : ℤ) (backends : List String) : Prop := 1 < jobs ∧ backends ≠ []

/-- `effective_jobs`. -/
def MatrixRun.effectiveJobs (run : MatrixRun) (jobs : ℤ) : ℕ :=
  (min (min (max 1 jobs) run.combos.length) maxParallelJobs).toNat

/-- The pool before the first combination is submitted; there is none without threads. -/
def PoolState.initial (n : ℕ) : PoolState n where
  pending := []
  workers := fun _ => .idle
  slotQueue := List.range n
  lock := none
  completed := 0
  finished := []
  main :=
    if n = 0 then .returned (.error ⟨.valueError, "max_workers must be greater than 0"⟩)
    else .submitting 0

/-- `run_matrix_parallel`, once the sessions of the slots are started. -/
def MatrixRun.pool (run : MatrixRun) (jobs : ℤ) (b : Behaviour) :
    System (PoolState (run.effectiveJobs jobs)) where
  init := .initial _
  Step := PoolStep run b

/-! ### The serial run -/

/-- `run_matrix_cell` in a run whose executed cells return `f`. -/
def MatrixRun.cellResult (run : MatrixRun) (f : Cell → ℤ) (tup : List String) : CellResult := do
  match ← run.prepare tup with
  | .skip label => return (label, exitSkip)
  | .run cell label => return (label, f cell)

/-- The list of the serial path of `execute_matrix_execution`. -/
def MatrixRun.serial (run : MatrixRun) (f : Cell → ℤ) : Except PyExc (List (String × ℤ)) :=
  run.combos.mapM (run.cellResult f)

/-- No cell raises, and what a cell returns depends on the cell only, not on its session. -/
structure MatrixRun.Deterministic (run : MatrixRun) (b : Behaviour) (f : Cell → ℤ) : Prop where
  returns : ∀ slot cell rc, b.returns slot cell rc ↔ rc = f cell
  raises : ∀ slot cell e, ¬ b.raises slot cell e
  printRaises : ∀ e, ¬ b.printRaises e
  prepares : ∀ tup ∈ run.combos, ∃ p, run.prepare tup = .ok p

/-! ### What a worker holds -/

namespace Phase

/-- The slot held, as a multiset. -/
def slotsOf : Option ℕ → Multiset ℕ
  | some slot => {slot}
  | none => 0

/-- The slots a worker holds. -/
def slots : Phase → Multiset ℕ
  | execute _ slot _ _ _ | printing _ slot _ _ _ => {slot}
  | report r | readCount r | writeCount r _ | printLine r => slotsOf r.slot
  | release _ slot _ => slotsOf slot
  | idle | prepare _ | borrow _ _ _ | finish _ _ => 0

/-- The work items a worker holds. -/
def items : Phase → Multiset ℕ
  | idle => 0
  | prepare i | borrow i _ _ | execute i _ _ _ _ | printing i _ _ _ _ | release i _ _
  | finish i _ => {i}
  | report r | readCount r | writeCount r _ | printLine r => {r.item}

/-- A worker holds the console lock. -/
def locked : Phase → Bool
  | printing _ _ _ _ _ | readCount _ | writeCount _ _ | printLine _ => true
  | _ => false

/-- A worker has not yet borrowed a slot for its item, nor decided to skip it. -/
def early : Phase → ℕ
  | prepare _ | borrow _ _ _ => 1
  | _ => 0

/-- A bound on the steps a worker makes with its item once it has a slot. -/
def weight : Phase → ℕ
  | idle => 0
  | prepare _ => 11
  | borrow _ _ _ => 10
  | execute _ _ _ _ prints => 8 + 2 * prints
  | printing _ _ _ _ prints => 9 + 2 * prints
  | report _ => 7
  | readCount _ => 6
  | writeCount _ _ => 5
  | printLine _ => 4
  | release _ _ _ => 3
  | finish _ _ => 2

end Phase

namespace PoolState

variable {n : ℕ}

/-- The items that no worker holds: not yet taken, or done and not yet collected. -/
def itemsLeft (s : PoolState n) : Multiset ℕ := s.pending + (s.finished.map Prod.fst : List ℕ)

/-- The items of the run that are not yet collected. -/
def items (s : PoolState n) : Multiset ℕ := s.itemsLeft + ∑ v, (s.workers v).items

/-- The slots in the queue and those held by the workers. -/
def slots (s : PoolState n) : Multiset ℕ := s.slotQueue + ∑ v, (s.workers v).slots

end PoolState

/-- What a step of the worker `w`, which leads it to `p`, takes and gives up. -/
structure Moves {n : ℕ} (w : Fin n) (p : Phase) (s s' : PoolState n) : Prop where
  workers : s'.workers = Function.update s.workers w p
  main : s'.main = s.main
  slots : (s'.slotQueue : Multiset ℕ) + p.slots = s.slotQueue + (s.workers w).slots
  items : s'.itemsLeft + p.items = s.itemsLeft + (s.workers w).items
  lock : (s'.lock = s.lock ∧ p.locked = (s.workers w).locked) ∨
    (s.lock = none ∧ s'.lock = some w ∧ p.locked = true) ∨
    ((s.workers w).locked = true ∧ s'.lock = none ∧ p.locked = false)
  weight : s'.pending.length + p.early < s.pending.length + (s.workers w).early ∨
    (s'.pending.length + p.early = s.pending.length + (s.workers w).early ∧
      12 * s'.pending.length + s'.finished.length + p.weight
        < 12 * s.pending.length + s.finished.length + (s.workers w).weight)

theorem coe_putSlot (queue : List ℕ) (slot : Option ℕ) :
    (putSlot queue slot : Multiset ℕ) = queue + Phase.slotsOf slot := by
  cases slot with
  | none => exact (add_zero _).symm
  | some slot => rfl

section

variable {n : ℕ} {run : MatrixRun} {b : Behaviour} {w : Fin n} {s s' : PoolState n}

/-- What a step of a worker takes and gives up. -/
theorem WorkerStep.moves (h : WorkerStep run b w s s') : ∃ p, Moves w p s s' := by
  cases h with
  | @take i rest hphase hpending =>
    refine ⟨_, rfl, rfl, ?_, ?_, .inl ⟨rfl, by simp [hphase, Phase.locked]⟩, .inr ⟨?_, ?_⟩⟩
    · simp [hphase, Phase.slots]
    · have hitem : ((i :: rest : List ℕ) : Multiset ℕ) = {i} + rest := rfl
      simp only [hphase, Phase.items, PoolState.itemsLeft, hpending, hitem]
      abel
    · simp [hphase, hpending, Phase.early]
    · simp only [hphase, hpending, Phase.weight, List.length_cons]
      omega
  | @borrow i slot cell label rest prints hphase hqueue =>
    refine ⟨_, rfl, rfl, ?_, ?_, .inl ⟨rfl, by simp [hphase, Phase.locked]⟩, .inl ?_⟩
    · have hslot : ((slot :: rest : List ℕ) : Multiset ℕ) = {slot} + rest := rfl
      simp only [hphase, Phase.slots, hqueue, hslot, add_zero]
      exact add_comm _ _
    · simp [hphase, Phase.items, PoolState.itemsLeft]
    · simp [hphase, Phase.early]
  | @release i slot res hphase =>
    refine ⟨_, rfl, rfl, ?_, ?_, .inl ⟨rfl, by simp [hphase, Phase.locked]⟩, .inr ⟨?_, ?_⟩⟩
    · simp only [hphase, Phase.slots, add_zero]
      exact coe_putSlot _ _
    · simp [hphase, Phase.items, PoolState.itemsLeft]
    · simp [hphase, Phase.early]
    · simp [hphase, Phase.weight]
  | @finish i res hphase =>
    refine ⟨_, rfl, rfl, ?_, ?_, .inl ⟨rfl, by simp [hphase, Phase.locked]⟩, .inr ⟨?_, ?_⟩⟩
    · simp [hphase, Phase.slots]
    · simp only [hphase, Phase.items, PoolState.itemsLeft, List.map_append, List.map_cons,
        List.map_nil, ← Multiset.coe_add, add_zero, add_assoc]
      rfl
    · simp [hphase, Phase.early]
    · simp only [hphase, Phase.weight, List.length_append, List.length_cons, List.length_nil]
      omega
  | _ =>
    -- the other steps leave both queues and the futures as they are
    refine ⟨_, rfl, rfl, ?_, ?_, ?_, ?_⟩
    · simp [*, Phase.slots, Phase.slotsOf]
    · simp [*, Phase.items, PoolState.itemsLeft]
    · simp [*, Phase.locked]
    · simp [*, Phase.early, Phase.weight]
      try omega

/-! ### Slots and the console lock -/

/-- A step of a worker leaves the slots of the run. -/
theorem Moves.slots_eq {p : Phase} (h : Moves w p s s') : s'.slots = s.slots := by
  unfold PoolState.slots
  rw [h.workers]
  exact add_sum_update h.slots

/-- A step of a worker leaves the items of the run. -/
theorem Moves.items_eq {p : Phase} (h : Moves w p s s') : s'.items = s.items := by
  unfold PoolState.items
  rw [h.workers]
  exact add_sum_update h.items

/-- The main thread touches neither the slots nor the workers nor the lock. -/
theorem MainStep.frame (h : MainStep run s s') :
    s'.slotQueue = s.slotQueue ∧ s'.workers = s.workers ∧ s'.lock = s.lock ∧
      s'.completed = s.completed := by
  cases h <;> exact ⟨rfl, rfl, rfl, rfl⟩

/-- Exactly the worker the lock names is between taking and releasing it. -/
def PoolState.LockHeld (s : PoolState n) : Prop :=
  ∀ v, (s.workers v).locked = true ↔ s.lock = some v

theorem Moves.lockHeld {p : Phase} (h : Moves w p s s') (hs : s.LockHeld) : s'.LockHeld := by
  intro v
  rw [h.workers]
  by_cases hv : v = w
  · subst hv
    rw [Function.update_self]
    rcases h.lock with ⟨hlock, hp⟩ | ⟨-, hlock, hp⟩ | ⟨-, hlock, hp⟩
    · rw [hlock, hp]
      exact hs v
    · simp [hlock, hp]
    · simp [hlock, hp]
  · rw [Function.update_of_ne hv, hs v]
    rcases h.lock with ⟨hlock, -⟩ | ⟨hfree, hlock, -⟩ | ⟨hheld, hlock, -⟩
    · rw [hlock]
    · simp [hfree, hlock, Ne.symm hv]
    · rw [hs w] at hheld
      simp [hheld, hlock, Ne.symm hv]

end

section

variable {run : MatrixRun} {jobs : ℤ} {b : Behaviour} {s : PoolState (run.effectiveJobs jobs)}

/-- **No slot is lost and none is used twice**: the free slots and those the
workers hold are those of the run, in every reachable state. -/
theorem slots_conserved (h : (run.pool jobs b).Reachable s) :
    s.slots = Multiset.range (run.effectiveJobs jobs) := by
  refine h.induct (P := fun s => s.slots = Multiset.range (run.effectiveJobs jobs)) ?_
    fun s s' _ ih hstep => ?_
  · show ((List.range (run.effectiveJobs jobs) : List ℕ) : Multiset ℕ)
      + ∑ _v : Fin (run.effectiveJobs jobs), (0 : Multiset ℕ) = _
    rw [Finset.sum_const_zero, add_zero]
    rfl
  · cases hstep with
    | worker w hw =>
      obtain ⟨p, hp⟩ := hw.moves
      rw [hp.slots_eq, ih]
    | main hm =>
      obtain ⟨hqueue, hworkers, -⟩ := hm.frame
      rw [PoolState.slots, hqueue, hworkers]
      exact ih

/-- The console lock excludes, in every reachable state. -/
theorem lock_held (h : (run.pool jobs b).Reachable s) : s.LockHeld := by
  refine h.induct ?_ fun s s' _ ih hstep => ?_
  · intro v
    exact iff_of_false Bool.false_ne_true (by rintro ⟨⟩)
  · cases hstep with
    | worker w hw =>
      obtain ⟨p, hp⟩ := hw.moves
      exact hp.lockHeld ih
    | main hm =>
      obtain ⟨-, hworkers, hlock, -⟩ := hm.frame
      intro v
      rw [hworkers, hlock]
      exact ih v

/-! ### Termination -/

/-- The combinations not yet submitted. -/
def MainPhase.unsubmitted (total : ℕ) : MainPhase → ℕ
  | .submitting k => total - k
  | _ => 0

/-- A bound on the steps of the main thread that no combination is needed for. -/
def MainPhase.weight : MainPhase → ℕ
  | .submitting _ => 3
  | .collecting _ _ => 2
  | .leaving _ => 1
  | .returned _ => 0

/-- The items still to borrow a slot or to be skipped, and a bound on the other steps. -/
def PoolState.measure {n : ℕ} (total : ℕ) (s : PoolState n) : ℕ ×ₗ ℕ :=
  toLex (s.main.unsubmitted total + s.pending.length + ∑ v, (s.workers v).early,
    13 * s.main.unsubmitted total + s.main.weight + 12 * s.pending.length + s.finished.length
      + ∑ v, (s.workers v).weight)

theorem measure_lt_of_moves {n total : ℕ} {w : Fin n} {p : Phase} {s s' : PoolState n}
    (h : Moves w p s s') : s'.measure total < s.measure total := by
  have hearly := sum_update_add s.workers w p Phase.early
  have hweight := sum_update_add s.workers w p Phase.weight
  unfold PoolState.measure
  rw [Prod.Lex.toLex_lt_toLex, h.workers, h.main]
  rcases h.weight with hlt | ⟨heq, hlt⟩
  · left
    dsimp only
    omega
  · right
    dsimp only
    omega

theorem measure_lt_of_mainStep {n : ℕ} {s s' : PoolState n} (h : MainStep run s s') :
    s'.measure run.combos.length < s.measure run.combos.length := by
  unfold PoolState.measure
  rw [Prod.Lex.toLex_lt_toLex, h.frame.2.1]
  right
  cases h with
  | submit hmain hk =>
    simp only [hmain, MainPhase.unsubmitted, MainPhase.weight, List.length_append,
      List.length_singleton]
    omega
  | submitted hmain =>
    simp only [hmain, MainPhase.unsubmitted, MainPhase.weight]
    omega
  | collect hmain hdone =>
    simp only [hmain, hdone, MainPhase.unsubmitted, MainPhase.weight, List.length_append,
      List.length_cons, true_and]
    omega
  | collectRaises hmain hdone =>
    simp only [hmain, hdone, MainPhase.unsubmitted, MainPhase.weight, List.length_append,
      List.length_cons, true_and]
    omega
  | collected hmain =>
    simp only [hmain, MainPhase.unsubmitted, MainPhase.weight, true_and]
    omega
  | shutdown hmain =>
    simp only [hmain, MainPhase.unsubmitted, MainPhase.weight, true_and]
    omega

/-- No run of the pool goes on forever. -/
theorem pool_terminates (run : MatrixRun) (jobs : ℤ) (b : Behaviour) :
    (run.pool jobs b).Terminates := by
  refine System.terminates_of_measure (PoolState.measure run.combos.length) fun s s' hstep => ?_
  cases hstep with
  | worker w hw =>
    obtain ⟨p, hp⟩ := hw.moves
    exact measure_lt_of_moves hp
  | main hm => exact measure_lt_of_mainStep hm

end

end TlsInterop
