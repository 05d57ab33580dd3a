import TlsInterop.Runner.Results

/-!
# The parallel run refines the serial one

When no cell raises and what a cell returns depends on the cell only, the pool
loses no count, and the results it collects are those of the serial run in another
order.

## Main definitions

* `Phase.uncounted` — a worker that has not counted its item.

## Main results

* `counted` — the counter and the items not yet counted.
* `parallel_refines_serial` — the parallel run refines the serial one.
-/

namespace TlsInterop

open Py Effects

/-- A worker has an item and has not counted it. -/
def Phase.uncounted : Phase → ℕ
  | .idle | .printLine _ | .release _ _ _ | .finish _ _ => 0
  | .prepare _ | .borrow _ _ _ | .execute _ _ _ _ _ | .printing _ _ _ _ _ | .report _ | .readCount _
  | .writeCount _ _ => 1

section

variable {run : MatrixRun} {b : Behaviour} {f : Cell → ℤ} {n : ℕ} {w : Fin n} {s s' : PoolState n}

/-! ### The counter -/

/-- A count that has been read and not yet written is the counter. -/
def PoolState.CountRead (s : PoolState n) : Prop :=
  ∀ v r count, s.workers v = .writeCount r count → count = s.completed

theorem WorkerStep.countRead (h : WorkerStep run b w s s') (hlock : s.LockHeld)
    (hs : s.CountRead) : s'.CountRead := by
  intro v r count hv
  by_cases hvw : v = w
  · subst hvw
    cases h
    case readCount =>
      dsimp only at hv
      rw [Function.update_self] at hv
      cases hv
      rfl
    all_goals
      dsimp only at hv
      rw [Function.update_self] at hv
      cases hv
  · cases h
    case writeCount hphase =>
      -- the worker that writes the counter holds the lock, and `v` would hold it too
      dsimp only at hv
      rw [Function.update_of_ne hvw] at hv
      have hheldv : s.lock = some v := (hlock v).mp (by rw [hv]; rfl)
      have hheldw : s.lock = some w := (hlock w).mp (by rw [hphase]; rfl)
      rw [hheldv, Option.some.injEq] at hheldw
      exact absurd hheldw hvw
    all_goals
      dsimp only at hv
      rw [Function.update_of_ne hvw] at hv
      exact hs v r count hv

/-- A worker that counts its item adds one to the counter, and no other step changes it. -/
theorem WorkerStep.counts (hdet : run.Deterministic b f) (h : WorkerStep run b w s s')
    (hs : s.CountRead) :
    ∃ p, s'.workers = Function.update s.workers w p ∧ s'.main = s.main ∧
      s'.completed + s'.pending.length + p.uncounted
        = s.completed + s.pending.length + (s.workers w).uncounted := by
  cases h with
  | prepareRaises hphase htup hprep =>
    obtain ⟨p, hp⟩ := hdet.prepares _ (List.mem_of_getElem? htup)
    rw [hprep] at hp
    cases hp
  | executeRaises hphase he => exact absurd he (hdet.raises _ _ _)
  | printLineRaises hphase he => exact absurd he (hdet.printRaises _)
  | take hphase hpending =>
    refine ⟨_, rfl, rfl, ?_⟩
    simp only [hphase, hpending, Phase.uncounted, List.length_cons]
    omega
  | writeCount hphase =>
    refine ⟨_, rfl, rfl, ?_⟩
    rw [hs _ _ _ hphase]
    simp only [hphase, Phase.uncounted]
    omega
  | _ =>
    refine ⟨_, rfl, rfl, ?_⟩
    simp [*, Phase.uncounted]

end

section

variable {run : MatrixRun} {jobs : ℤ} {b : Behaviour} {f : Cell → ℤ}
  {s : PoolState (run.effectiveJobs jobs)}

theorem countRead_of_reachable (h : (run.pool jobs b).Reachable s) : s.CountRead := by
  refine h.induct (P := PoolState.CountRead) ?_ fun s s' hs ih hstep => ?_
  · rintro v r count ⟨⟩
  · cases hstep with
    | worker w hw => exact hw.countRead (lock_held hs) ih
    | main hm =>
      obtain ⟨-, hworkers, -, hcompleted⟩ := hm.frame
      intro v r count hv
      rw [hcompleted]
      rw [hworkers] at hv
      exact ih v r count hv

/-- **No update of the counter is lost**: the counter and the items not yet
counted are the combinations, in every reachable state. -/
theorem counted (hcombos : run.combos ≠ []) (hdet : run.Deterministic b f)
    (h : (run.pool jobs b).Reachable s) :
    s.completed + s.pending.length + s.main.unsubmitted run.combos.length
      + ∑ v, (s.workers v).uncounted = run.combos.length := by
  refine h.induct (P := fun s => s.completed + s.pending.length
      + s.main.unsubmitted run.combos.length + ∑ v, (s.workers v).uncounted
        = run.combos.length) ?_ fun s s' hs ih hstep => ?_
  · have hmain := initial_main (effectiveJobs_pos hcombos jobs)
    show 0 + 0 + (PoolState.initial _).main.unsubmitted _
      + ∑ _v : Fin (run.effectiveJobs jobs), 0 = _
    rw [hmain, Finset.sum_const_zero]
    simp [MainPhase.unsubmitted]
  · cases hstep with
    | worker w hw =>
      obtain ⟨p, hworkers, hmain, hcount⟩ := hw.counts hdet (countRead_of_reachable hs)
      have hsum := add_sum_update (g := Phase.uncounted) hcount
      rw [hworkers, hmain]
      omega
    | main hm =>
      obtain ⟨-, hworkers, -, hcompleted⟩ := hm.frame
      rw [hworkers, hcompleted]
      cases hm with
      | submit hmain hk =>
        simp only [hmain, MainPhase.unsubmitted] at ih
        simp only [MainPhase.unsubmitted, List.length_append, List.length_singleton]
        omega
      | submitted hmain | collect hmain | collectRaises hmain | collected hmain
      | shutdown hmain =>
        simp only [hmain, MainPhase.unsubmitted] at ih ⊢
        omega

/-! ### The result -/

/-- A deterministic run answers every cell. -/
theorem MatrixRun.Deterministic.answered (hdet : run.Deterministic b f) :
    run.Answered b jobs := by
  intro tup _ cell label _ slot _
  exact .inl ⟨f cell, (hdet.returns _ _ _).mpr rfl⟩

/-- A combination yields what the serial run finds. -/
theorem MatrixRun.Deterministic.cellResult_of_yields (hdet : run.Deterministic b f)
    {tup : List String} (htup : tup ∈ run.combos) {res : CellResult}
    (h : run.Yields b tup res) : run.cellResult f tup = res ∧ ∃ r, res = .ok r := by
  unfold MatrixRun.cellResult
  cases h with
  | prepareRaises hprep =>
    obtain ⟨p, hp⟩ := hdet.prepares tup htup
    rw [hprep] at hp
    cases hp
  | skip hprep =>
    rw [hprep]
    exact ⟨rfl, _, rfl⟩
  | returns hprep hrc =>
    rw [hprep, (hdet.returns _ _ _).mp hrc]
    exact ⟨rfl, _, rfl⟩
  | raises hprep he => exact absurd he (hdet.raises _ _ _)
  | printRaises he => exact absurd he (hdet.printRaises _)

theorem idle_of_items {n : ℕ} {s : PoolState n} (hitems : s.items = 0) :
    s.pending = [] ∧ ∀ v, s.workers v = .idle := by
  obtain ⟨hleft, hheld⟩ := add_eq_zero.mp hitems
  refine ⟨(Multiset.coe_eq_zero _).mp (add_eq_zero.mp hleft).1, fun v => ?_⟩
  have hv := (Finset.sum_eq_zero_iff.mp hheld) v (Finset.mem_univ v)
  cases hphase : s.workers v with
  | idle => rfl
  | _ =>
    rw [hphase] at hv
    exact absurd hv (Multiset.singleton_ne_zero _)

/-- When nothing is out every cell has been counted. -/
theorem completed_of_items (hcombos : run.combos ≠ []) (hdet : run.Deterministic b f)
    (h : (run.pool jobs b).Reachable s) (hitems : s.items = 0)
    (hmain : s.main.unsubmitted run.combos.length = 0) : s.completed = run.combos.length := by
  obtain ⟨hpending, hidle⟩ := idle_of_items hitems
  have hcount := counted hcombos hdet h
  have hzero : ∀ v, (s.workers v).uncounted = 0 := by
    intro v
    rw [hidle v]
    rfl
  rw [hpending, hmain, Finset.sum_eq_zero fun v _ => hzero v] at hcount
  exact hcount

/-- **The parallel run refines the serial one.**  In every reachable state of a run
that needs some backend, the free slots and those of the cells in execution are
the slots of the run, each once, whatever cells return or raise.  When no cell
raises and what a cell returns depends on the cell only, some worker can go on as
long as a submitted item is not done, no run goes on forever, and a run stops only
by returning the results of the serial run in some order, with every cell counted. -/
theorem parallel_refines_serial {run : MatrixRun} {known backends : List String}
    {jobs : ℤ} (hrequired : run.requiredBackends known = .ok backends)
    (hparallel : RunsParallel jobs backends) (b : Behaviour) :
    (∀ s, (run.pool jobs b).Reachable s →
      (s.slotQueue : Multiset ℕ) + ∑ w, (s.workers w).slots
        = Multiset.range (run.effectiveJobs jobs)) ∧
    ∀ f, run.Deterministic b f →
      (∀ s, (run.pool jobs b).Reachable s → s.Unfinished →
        ∃ w s', WorkerStep run b w s s') ∧
      (run.pool jobs b).Terminates ∧
      ∀ s, (run.pool jobs b).Reachable s → (run.pool jobs b).Stuck s →
        s.completed = run.combos.length ∧ ∃ results serial, s.main = .returned (.ok results) ∧
          run.serial f = .ok serial ∧ results.Perm serial := by
  -- a run without combinations needs no backend, and is not parallel
  have hcombos : run.combos ≠ [] := by
    intro hnil
    exact hparallel.2 (run.requiredBackends_nil hnil hrequired)
  refine ⟨fun s hs => slots_conserved hs, fun f hdet => ⟨?_, pool_terminates run jobs b, ?_⟩⟩
  · intro s hs hunfinished
    exact exists_workerStep hcombos hdet.answered hs hunfinished
  · intro s hs hstuck
    obtain ⟨res, hmain⟩ := returned_of_stuck hcombos hdet.answered hs hstuck
    cases res with
    -- a cell has raised, against the assumption
    | error e =>
      obtain ⟨tup, htup, hyields⟩ := yields_of_raised hcombos hs hmain
      obtain ⟨-, r, hr⟩ := hdet.cellResult_of_yields htup hyields
      cases hr
    | ok results =>
      obtain ⟨hitems, rs, hperm, hyields⟩ := results_of_returned hcombos hs hmain
      refine ⟨completed_of_items hcombos hdet hs hitems (by rw [hmain]; rfl), results, rs, hmain,
        ?_, hperm⟩
      rw [MatrixRun.serial, mapM_eq_ok]
      have hmem := (List.forall₂_and_left _ _).mpr ⟨fun _ htup => htup, hyields⟩
      exact hmem.imp fun tup r h => (hdet.cellResult_of_yields h.1 h.2).1

end

/-! ### A run with two cells -/

/-- Two cells of one backend, which declares nothing, in two threads. -/
def twoCellRun : MatrixRun where
  repo :=
    { root := "/repo"
      wrappers := [("openssl", [])]
      wrappers_named := by simp
      certs := fun _ => none }
  axisKeys := ["server", "client", "alpn"].map .str
  args := defaultArgs
  combos := [["openssl", "openssl", ""], ["openssl", "openssl", ""]]

/-- Every cell passes. -/
def allPass : Behaviour where
  returns := fun _ _ rc => rc = 0
  raises := fun _ _ _ => False
  printRaises := fun _ => False

theorem twoCellRun_deterministic : twoCellRun.Deterministic allPass fun _ => 0 where
  returns := fun _ _ _ => Iff.rfl
  raises := fun _ _ _ => id
  printRaises := fun _ => id
  prepares := by
    intro tup htup
    have hok : ∀ tup ∈ twoCellRun.combos, (twoCellRun.prepare tup).isOk = true := by decide
    cases hprep : twoCellRun.prepare tup with
    | ok p => exact ⟨p, rfl⟩
    | error e =>
      have hfail := hok tup htup
      rw [hprep] at hfail
      cases hfail

/-- Two jobs count both cells and return what the serial run returns. -/
theorem parallel_refines_serial_two_cells :
    (twoCellRun.pool 2 allPass).Terminates ∧
      ∀ s, (twoCellRun.pool 2 allPass).Reachable s → (twoCellRun.pool 2 allPass).Stuck s →
        s.completed = 2 ∧ ∃ results serial, s.main = .returned (.ok results) ∧
          twoCellRun.serial (fun _ => 0) = .ok serial ∧ results.Perm serial := by
  have hrequired : twoCellRun.requiredBackends ["openssl"] = .ok ["openssl"] := by decide
  have hparallel : RunsParallel 2 ["openssl"] := ⟨by decide, List.cons_ne_nil _ _⟩
  obtain ⟨-, h⟩ := parallel_refines_serial hrequired hparallel allPass
  exact (h _ twoCellRun_deterministic).2

end TlsInterop
