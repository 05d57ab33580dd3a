import TlsInterop.Runner.Pool

/-!
# What the pool collects

Whatever the cells return or raise, every combination is handed to one worker, and
what the main thread collects are results of the combinations, each of them once.
As long as a submitted item is not done some worker can go on, so a run stops only
by returning.

## Main definitions

* `MatrixRun.Yields` — what a combination may end in.
* `PoolState.Sound`, `MainPhase.Sound` — what the workers, the futures and the main
  thread hold is right.
* `MatrixRun.Answered` — a cell that is executed comes to an end.
* `Behaviour.Refines` — one behaviour leaves less open than another.

## Main results

* `sound_of_reachable`, `main_sound_of_reachable` — all that is held is right.
* `exists_workerStep` — a worker can go on as long as some item is unfinished.
* `results_of_returned`, `yields_of_raised` — what a run that ended has returned or raised.
* `returned_of_stuck` — a run stops only by returning.
* `Behaviour.Refines.reachable` — the runs of a behaviour that leaves less open.
-/

namespace TlsInterop

open Py Effects

/-! ### What a combination may end in -/

section

variable (run : MatrixRun) (b : Behaviour)

/-- What a combination may end in. -/
inductive MatrixRun.Yields (tup : List String) : CellResult → Prop
  | prepareRaises {e : PyExc} (hprep : run.prepare tup = .error e) : Yields tup (.error e)
  | skip {label : String} (hprep : run.prepare tup = .ok (.skip label)) :
      Yields tup (.ok (label, exitSkip))
  | returns {cell : Cell} {label : String} {slot : Option ℕ} {rc : ℤ}
      (hprep : run.prepare tup = .ok (.run cell label)) (hrc : b.returns slot cell rc) :
      Yields tup (.ok (label, rc))
  | raises {cell : Cell} {label : String} {slot : Option ℕ} {e : PyExc}
      (hprep : run.prepare tup = .ok (.run cell label)) (he : b.raises slot cell e) :
      Yields tup (.error e)
  | printRaises {e : PyExc} (he : b.printRaises e) : Yields tup (.error e)

/-- The `i`-th combination may end in `res`. -/
def MatrixRun.YieldsAt (i : ℕ) (res : CellResult) : Prop :=
  ∃ tup, run.combos[i]? = some tup ∧ run.Yields b tup res

/-- What a worker holds of its item is right. -/
def Phase.Sound : Phase → Prop
  | .idle | .prepare _ => True
  | .borrow i cell label | .execute i _ cell label _ | .printing i _ cell label _ =>
    ∃ tup, run.combos[i]? = some tup ∧ run.prepare tup = .ok (.run cell label)
  | .report r | .readCount r | .writeCount r _ | .printLine r =>
    run.YieldsAt b r.item (.ok (r.label, r.rc))
  | .release i _ res | .finish i res => run.YieldsAt b i res

/-- What the workers and the futures hold is right. -/
structure PoolState.Sound {n : ℕ} (s : PoolState n) : Prop where
  workers : ∀ v, (s.workers v).Sound run b
  finished : ∀ e ∈ s.finished, run.YieldsAt b e.1 e.2

/-- The collected results are those of combinations, each of them once; those of
`todo` are still out. -/
def MatrixRun.Gathered (todo : Multiset ℕ) (results : List (String × ℤ)) : Prop :=
  ∃ items : List ℕ, (items : Multiset ℕ) + todo = Multiset.range run.combos.length ∧
    List.Forall₂ (fun i r => run.YieldsAt b i (.ok r)) items results

/-- What the main thread has is right, with the items still out. -/
def MainPhase.Sound (items : Multiset ℕ) : MainPhase → Prop
  | .submitting k => k ≤ run.combos.length ∧ items = Multiset.range k
  | .collecting todo results => items = todo ∧ run.Gathered b todo results
  | .leaving (.ok results) | .returned (.ok results) => items = 0 ∧ run.Gathered b 0 results
  | .leaving (.error e) | .returned (.error e) =>
    (∀ i ∈ items, i < run.combos.length) ∧ ∃ i, run.YieldsAt b i (.error e)

/-- A cell that is executed in a slot of the run returns or raises. -/
def MatrixRun.Answered (jobs : ℤ) : Prop :=
  ∀ tup ∈ run.combos, ∀ cell label, run.prepare tup = .ok (.run cell label) →
    ∀ slot < run.effectiveJobs jobs,
      (∃ rc, b.returns (some slot) cell rc) ∨ ∃ e, b.raises (some slot) cell e

end

section

variable {run : MatrixRun} {b : Behaviour} {n : ℕ} {w : Fin n} {s s' : PoolState n}

theorem MatrixRun.YieldsAt.lt {i : ℕ} {res : CellResult} (h : run.YieldsAt b i res) :
    i < run.combos.length := by
  obtain ⟨tup, htup, -⟩ := h
  exact (List.getElem?_eq_some_iff.mp htup).1

/-- Items still out are combinations. -/
theorem MatrixRun.Gathered.lt {todo : Multiset ℕ} {results : List (String × ℤ)}
    (h : run.Gathered b todo results) {i : ℕ} (hi : i ∈ todo) : i < run.combos.length := by
  obtain ⟨items, hitems, -⟩ := h
  rw [← Multiset.mem_range, ← hitems]
  exact Multiset.mem_add.mpr (.inr hi)

/-- What has been collected when nothing is out is one result for each combination,
in some order. -/
theorem MatrixRun.Gathered.exists_perm {results : List (String × ℤ)}
    (h : run.Gathered b 0 results) :
    ∃ rs, results.Perm rs ∧ List.Forall₂ (fun tup r => run.Yields b tup (.ok r)) run.combos rs := by
  obtain ⟨items, hitems, hyields⟩ := h
  rw [add_zero] at hitems
  have hperm : (List.range run.combos.length).Perm items := Multiset.coe_eq_coe.mp hitems.symm
  obtain ⟨rs, hrs, hsame⟩ := List.perm_comp_forall₂ hperm hyields
  refine ⟨rs, hsame.symm, ?_⟩
  rw [List.forall₂_iff_get] at hrs ⊢
  obtain ⟨hlen, hget⟩ := hrs
  rw [List.length_range] at hlen
  refine ⟨hlen, fun i h₁ h₂ => ?_⟩
  obtain ⟨tup, htup, hyield⟩ := hget i (by rwa [List.length_range]) h₂
  rw [List.get_eq_getElem, List.getElem_range] at htup
  obtain ⟨_, rfl⟩ := List.getElem?_eq_some_iff.mp htup
  exact hyield

/-! ### Steps of the workers -/

/-- A worker that moves to a right place leaves the workers right. -/
theorem sound_update {p : Phase} (hs : ∀ v, (s.workers v).Sound run b) (hp : p.Sound run b) :
    ∀ v, (Function.update s.workers w p v).Sound run b :=
  (Function.forall_update_iff _ fun _ q => Phase.Sound run b q).mpr ⟨hp, fun v _ => hs v⟩

/-- What a worker finds in a step is right. -/
theorem WorkerStep.sound (h : WorkerStep run b w s s') (hs : s.Sound run b) :
    s'.Sound run b := by
  have hw := hs.workers w
  cases h with
  | take => exact ⟨sound_update hs.workers trivial, hs.finished⟩
  | prepareRaises hphase htup hprep =>
    exact ⟨sound_update hs.workers ⟨_, htup, .prepareRaises hprep⟩, hs.finished⟩
  | prepareSkip hphase htup hprep =>
    exact ⟨sound_update hs.workers ⟨_, htup, .skip hprep⟩, hs.finished⟩
  | prepareRun hphase htup hprep =>
    exact ⟨sound_update hs.workers ⟨_, htup, hprep⟩, hs.finished⟩
  | executeReturns hphase hrc =>
    rw [hphase] at hw
    obtain ⟨tup, htup, hprep⟩ := hw
    exact ⟨sound_update hs.workers ⟨_, htup, .returns hprep hrc⟩, hs.finished⟩
  | executeRaises hphase he =>
    rw [hphase] at hw
    obtain ⟨tup, htup, hprep⟩ := hw
    exact ⟨sound_update hs.workers ⟨_, htup, .raises hprep he⟩, hs.finished⟩
  | printLineRaises hphase he =>
    rw [hphase] at hw
    obtain ⟨tup, htup, -⟩ := hw
    exact ⟨sound_update hs.workers ⟨_, htup, .printRaises he⟩, hs.finished⟩
  | finish hphase =>
    rw [hphase] at hw
    refine ⟨sound_update hs.workers trivial, fun e he => ?_⟩
    rcases List.mem_append.mp he with he | he
    · exact hs.finished e he
    · rw [List.mem_singleton.mp he]
      exact hw
  | borrow _ hphase | lockConsole hphase | unlockConsole hphase | lockReport hphase
  | readCount hphase | writeCount hphase | printLine hphase | release hphase =>
    -- the other steps say nothing new of the item they are about
    rw [hphase] at hw
    exact ⟨sound_update hs.workers hw, hs.finished⟩

/-! ### Steps of the main thread -/

/-- The main thread takes an item from those left. -/
theorem itemsLeft_of_finished {before after : List (ℕ × CellResult)} {i : ℕ} {res : CellResult}
    (hdone : s.finished = before ++ (i, res) :: after) {m : MainPhase} :
    s.items = i ::ₘ ({ s with finished := before ++ after, main := m } : PoolState n).items := by
  have hperm : ((s.finished.map Prod.fst : List ℕ) : Multiset ℕ)
      = i ::ₘ ((before ++ after).map Prod.fst : List ℕ) := by
    rw [hdone, Multiset.cons_coe, Multiset.coe_eq_coe, List.map_append, List.map_append,
      List.map_cons]
    exact List.perm_middle
  unfold PoolState.items PoolState.itemsLeft
  rw [hperm]
  simp only [Multiset.add_cons, Multiset.cons_add]

/-- The main thread leaves the workers and adds nothing to the futures. -/
theorem MainStep.sound (h : MainStep run s s') (hs : s.Sound run b) : s'.Sound run b := by
  have hfewer : ∀ {before after : List (ℕ × CellResult)} {e},
      s.finished = before ++ e :: after → ∀ e' ∈ before ++ after, run.YieldsAt b e'.1 e'.2 := by
    intro before after e hdone e' he'
    refine hs.finished e' ?_
    rw [hdone]
    rcases List.mem_append.mp he' with he' | he'
    · exact List.mem_append_left _ he'
    · exact List.mem_append_right _ (List.mem_cons_of_mem _ he')
  cases h with
  | submit | submitted | collected | shutdown => exact ⟨hs.workers, hs.finished⟩
  | collect _ hdone => exact ⟨hs.workers, hfewer hdone⟩
  | collectRaises _ hdone => exact ⟨hs.workers, hfewer hdone⟩

/-- What the main thread collects in a step is right. -/
theorem MainStep.main_sound (h : MainStep run s s') (hs : s.Sound run b)
    (hmain : s.main.Sound run b s.items) : s'.main.Sound run b s'.items := by
  -- a future that is taken has what its item yields
  have htaken : ∀ {before after : List (ℕ × CellResult)} {i : ℕ} {res : CellResult},
      s.finished = before ++ (i, res) :: after → run.YieldsAt b i res := by
    intro before after i res hdone
    refine hs.finished (i, res) ?_
    rw [hdone]
    exact List.mem_append_right _ List.mem_cons_self
  cases h with
  | @submit k hstart hk =>
    rw [hstart] at hmain
    refine ⟨hk, ?_⟩
    -- one item more is in the pool
    have hitems : s.items + {k} = ({ s with
        pending := s.pending ++ [k], main := .submitting (k + 1) } : PoolState n).items := by
      simp only [PoolState.items, PoolState.itemsLeft, ← Multiset.coe_add]
      show _ = _ + ({k} : Multiset ℕ) + _ + _
      abel
    rw [← hitems, hmain.2, Multiset.range_succ, add_comm, Multiset.singleton_add]
  | submitted hstart =>
    rw [hstart] at hmain
    exact ⟨hmain.2, [], zero_add _, .nil⟩
  | @collect i r todo results before after hstart hdone =>
    rw [hstart] at hmain
    obtain ⟨hitems, items, hout, hyields⟩ := hmain
    -- the item moves from the futures to the results
    have hleft := itemsLeft_of_finished hdone (m := .collecting (todo.erase i) (results ++ [r]))
    have htodo : todo = i ::ₘ todo.erase i := by
      rw [Multiset.cons_erase]
      rw [← hitems, hleft]
      exact Multiset.mem_cons_self ..
    refine ⟨?_, items ++ [i], ?_, List.rel_append hyields (.cons (htaken hdone) .nil)⟩
    · rw [hitems, htodo] at hleft
      exact ((Multiset.cons_inj_right i).mp hleft).symm
    · rw [← Multiset.coe_add, add_assoc, Multiset.coe_singleton, Multiset.singleton_add, ← htodo]
      exact hout
  | @collectRaises i e todo results before after hstart hdone =>
    rw [hstart] at hmain
    obtain ⟨hitems, hgathered⟩ := hmain
    -- the other items stay in the pool, whose end is waited for
    have hleft := itemsLeft_of_finished hdone (m := .leaving (.error e))
    refine ⟨fun j hj => hgathered.lt ?_, i, htaken hdone⟩
    rw [← hitems, hleft]
    exact Multiset.mem_cons_of_mem hj
  | @collected results hstart =>
    rw [hstart] at hmain
    exact hmain
  | @shutdown res hstart =>
    rw [hstart] at hmain
    cases res <;> exact hmain

end

section

variable {run : MatrixRun} {jobs : ℤ} {b : Behaviour} {s : PoolState (run.effectiveJobs jobs)}

/-- There is a thread for a run with combinations. -/
theorem effectiveJobs_pos (hcombos : run.combos ≠ []) (jobs : ℤ) : 0 < run.effectiveJobs jobs := by
  have hlen : 0 < run.combos.length := List.length_pos_iff.mpr hcombos
  have hmax : (0 : ℤ) < maxParallelJobs := by decide
  unfold MatrixRun.effectiveJobs
  omega

theorem initial_main {n : ℕ} (hn : 0 < n) : (PoolState.initial n).main = .submitting 0 :=
  if_neg (Nat.pos_iff_ne_zero.mp hn)

/-- What the workers and the futures hold is right, in every reachable state. -/
theorem sound_of_reachable (h : (run.pool jobs b).Reachable s) : s.Sound run b := by
  refine h.induct (P := PoolState.Sound run b) ⟨fun _ => trivial, fun e he => ?_⟩
    fun s s' _ ih hstep => ?_
  · exact absurd he List.not_mem_nil
  · cases hstep with
    | worker w hw => exact hw.sound ih
    | main hm => exact hm.sound ih

/-- What the main thread has is right, in every reachable state. -/
theorem main_sound_of_reachable (hcombos : run.combos ≠ []) (h : (run.pool jobs b).Reachable s) :
    s.main.Sound run b s.items := by
  refine h.induct (P := fun s => s.main.Sound run b s.items) ?_ fun s s' hs ih hstep => ?_
  · show (PoolState.initial _).main.Sound run b _
    rw [initial_main (effectiveJobs_pos hcombos jobs)]
    refine ⟨Nat.zero_le _, ?_⟩
    show (0 : Multiset ℕ) + 0 + ∑ _v : Fin (run.effectiveJobs jobs), (0 : Multiset ℕ) = _
    rw [Finset.sum_const_zero]
    rfl
  · cases hstep with
    | worker w hw =>
      obtain ⟨p, hp⟩ := hw.moves
      rw [hp.main, hp.items_eq]
      exact ih
    | main hm => exact hm.main_sound (sound_of_reachable hs) ih

/-! ### Progress -/

/-- A slot that a worker holds is one of the run. -/
theorem slot_lt_of_mem (h : (run.pool jobs b).Reachable s) {w : Fin (run.effectiveJobs jobs)}
    {slot : ℕ} (hslot : slot ∈ (s.workers w).slots) : slot < run.effectiveJobs jobs := by
  rw [← Multiset.mem_range, ← slots_conserved h]
  exact Multiset.mem_add.mpr (.inr (Multiset.mem_sum.mpr ⟨w, Finset.mem_univ w, hslot⟩))

theorem slots_card_le (p : Phase) : p.slots.card ≤ 1 := by
  have hslot : ∀ slot, (Phase.slotsOf slot).card ≤ 1 := by
    rintro (_ | slot)
    · exact Nat.zero_le _
    · exact le_rfl
  cases p <;> first | exact hslot _ | exact le_rfl | exact Nat.zero_le _

/-- A worker that waits for a slot finds one: the others cannot hold them all. -/
theorem slotQueue_ne_nil (h : (run.pool jobs b).Reachable s) {w : Fin (run.effectiveJobs jobs)}
    (hw : (s.workers w).slots = 0) : s.slotQueue ≠ [] := by
  intro hqueue
  have hslots := congrArg Multiset.card (slots_conserved h)
  rw [PoolState.slots, hqueue, Multiset.coe_nil, zero_add, Multiset.card_sum,
    Multiset.card_range] at hslots
  have hlt : ∑ v, (s.workers v).slots.card < ∑ _v : Fin (run.effectiveJobs jobs), 1 := by
    refine Finset.sum_lt_sum (fun v _ => slots_card_le _) ⟨w, Finset.mem_univ w, ?_⟩
    rw [hw]
    exact Nat.one_pos
  rw [hslots] at hlt
  simp at hlt

/-- The items that are out are combinations. -/
theorem lt_of_mem_items {n : ℕ} {s : PoolState n} (hmain : s.main.Sound run b s.items) {i : ℕ}
    (hi : i ∈ s.items) : i < run.combos.length := by
  have hzero : s.items = 0 → i < run.combos.length := fun hitems =>
    absurd (hitems ▸ hi) (Multiset.notMem_zero i)
  cases hphase : s.main with
  | submitting k =>
    rw [hphase] at hmain
    rw [hmain.2, Multiset.mem_range] at hi
    exact lt_of_lt_of_le hi hmain.1
  | collecting todo results =>
    rw [hphase] at hmain
    exact hmain.2.lt (hmain.1 ▸ hi)
  | leaving res | returned res =>
    rw [hphase] at hmain
    cases res with
    | ok results => exact hzero hmain.1
    | error e => exact hmain.1 i hi

/-- The item of a worker is a combination. -/
theorem exists_combo_of_mem {n : ℕ} {s : PoolState n} (hmain : s.main.Sound run b s.items)
    {w : Fin n} {i : ℕ} (hi : i ∈ (s.workers w).items) : ∃ tup, run.combos[i]? = some tup := by
  have hmem : i ∈ s.items :=
    Multiset.mem_add.mpr (.inr (Multiset.mem_sum.mpr ⟨w, Finset.mem_univ w, hi⟩))
  exact ⟨_, List.getElem?_eq_getElem (lt_of_mem_items hmain hmem)⟩

/-- A worker that holds the console lock can go on. -/
theorem exists_step_of_locked {w : Fin (run.effectiveJobs jobs)}
    (hw : (s.workers w).locked = true) : ∃ s', WorkerStep run b w s s' := by
  cases hphase : s.workers w with
  | printing => exact ⟨_, .unlockConsole hphase⟩
  | readCount => exact ⟨_, .readCount hphase⟩
  | writeCount => exact ⟨_, .writeCount hphase⟩
  | printLine => exact ⟨_, .printLine hphase⟩
  | _ =>
    rw [hphase] at hw
    cases hw

/-- A worker with an item can go on while the console is free. -/
theorem exists_step_of_busy (hcombos : run.combos ≠ []) (hanswered : run.Answered b jobs)
    (h : (run.pool jobs b).Reachable s) (hlock : s.lock = none)
    {w : Fin (run.effectiveJobs jobs)} (hw : s.workers w ≠ .idle) :
    ∃ s', WorkerStep run b w s s' := by
  have hfree : (s.workers w).locked ≠ true := by
    rw [Ne, lock_held h w, hlock]
    rintro ⟨⟩
  cases hphase : s.workers w with
  | idle => exact absurd hphase hw
  | prepare i =>
    -- the item is that of a combination, which is prepared or raises
    obtain ⟨tup, htup⟩ := exists_combo_of_mem (main_sound_of_reachable hcombos h) (w := w) (i := i)
      (by rw [hphase]; exact Multiset.mem_singleton_self i)
    cases hprep : run.prepare tup with
    | error e => exact ⟨_, .prepareRaises hphase htup hprep⟩
    | ok p =>
      cases p with
      | skip label => exact ⟨_, .prepareSkip hphase htup hprep⟩
      | run cell label => exact ⟨_, .prepareRun hphase htup hprep⟩
  | borrow i cell label =>
    -- there are as many slots as workers, and the others hold at most one each
    have hqueue := slotQueue_ne_nil h (w := w) (by rw [hphase]; rfl)
    obtain ⟨slot, rest, hqueue⟩ := List.exists_cons_of_ne_nil hqueue
    exact ⟨_, .borrow 0 hphase hqueue⟩
  | execute i slot cell label prints =>
    -- the cell that is executed returns or raises
    have hsound := (sound_of_reachable h).workers w
    rw [hphase] at hsound
    obtain ⟨tup, htup, hprep⟩ := hsound
    have hheld : slot ∈ (s.workers w).slots := by
      rw [hphase]
      exact Multiset.mem_singleton_self slot
    have hslot := slot_lt_of_mem h hheld
    rcases hanswered tup (List.mem_of_getElem? htup) cell label hprep slot hslot with
      ⟨rc, hrc⟩ | ⟨e, he⟩
    · exact ⟨_, .executeReturns hphase hrc⟩
    · exact ⟨_, .executeRaises hphase he⟩
  | report r => exact ⟨_, .lockReport hphase hlock⟩
  | release i slot res => exact ⟨_, .release hphase⟩
  | finish i res => exact ⟨_, .finish hphase⟩
  | _ =>
    -- behind the lock: but nobody holds it
    rw [hphase] at hfree
    exact absurd rfl hfree

/-- Some submitted item is not done. -/
def PoolState.Unfinished {n : ℕ} (s : PoolState n) : Prop :=
  s.pending ≠ [] ∨ ∃ w, s.workers w ≠ .idle

/-- **Some worker can go on as long as a submitted item is not done.** -/
theorem exists_workerStep (hcombos : run.combos ≠ []) (hanswered : run.Answered b jobs)
    (h : (run.pool jobs b).Reachable s) (hs : s.Unfinished) :
    ∃ w s', WorkerStep run b w s s' := by
  cases hlock : s.lock with
  | some w => exact ⟨w, exists_step_of_locked ((lock_held h w).mpr hlock)⟩
  | none =>
    by_cases hbusy : ∃ w, s.workers w ≠ .idle
    · obtain ⟨w, hw⟩ := hbusy
      exact ⟨w, exists_step_of_busy hcombos hanswered h hlock hw⟩
    · -- every worker is idle, and an item waits
      have hpending := hs.resolve_right hbusy
      obtain ⟨i, rest, hpending⟩ := List.exists_cons_of_ne_nil hpending
      have hidle := not_not.mp (not_exists.mp hbusy ⟨0, effectiveJobs_pos hcombos jobs⟩)
      exact ⟨_, _, .take hidle hpending⟩

theorem pending_idle_of_not_unfinished {n : ℕ} {s : PoolState n} (h : ¬ s.Unfinished) :
    s.pending = [] ∧ ∀ w, s.workers w = .idle := by
  obtain ⟨hpending, hidle⟩ := not_or.mp h
  exact ⟨not_not.mp hpending, fun w => not_not.mp (not_exists.mp hidle w)⟩

theorem unfinished_of_items {n : ℕ} {s : PoolState n} (hitems : s.items ≠ 0)
    (hfinished : s.finished = []) : s.Unfinished := by
  by_contra hnot
  obtain ⟨hpending, hidle⟩ := pending_idle_of_not_unfinished hnot
  refine hitems ?_
  have hzero : ∀ v, (s.workers v).items = 0 := by
    intro v
    rw [hidle v]
    rfl
  rw [PoolState.items, PoolState.itemsLeft, hpending, hfinished,
    Finset.sum_eq_zero fun v _ => hzero v]
  rfl

/-- A run that has not returned goes on. -/
theorem exists_step (hcombos : run.combos ≠ []) (hanswered : run.Answered b jobs)
    (h : (run.pool jobs b).Reachable s) (hmain : ∀ res, s.main ≠ .returned res) :
    ∃ s', PoolStep run b s s' := by
  have hsound := main_sound_of_reachable hcombos h
  -- as long as an item is not done, a worker can go on
  have hgoes : s.Unfinished → ∃ s', PoolStep run b s s' := by
    intro hunfinished
    obtain ⟨w, s', hstep⟩ := exists_workerStep hcombos hanswered h hunfinished
    exact ⟨s', .worker w hstep⟩
  cases hphase : s.main with
  | submitting k =>
    rw [hphase] at hsound
    rcases hsound.1.lt_or_eq with hk | hk
    · exact ⟨_, .main (.submit hphase hk)⟩
    · exact ⟨_, .main (.submitted (hk ▸ hphase))⟩
  | collecting todo results =>
    rw [hphase] at hsound
    by_cases htodo : todo = 0
    · exact ⟨_, .main (.collected (htodo ▸ hphase))⟩
    · cases hfinished : s.finished with
      | nil => exact hgoes (unfinished_of_items (hsound.1 ▸ htodo) hfinished)
      | cons e rest =>
        obtain ⟨i, res⟩ := e
        have hdone : s.finished = [] ++ (i, res) :: rest := hfinished
        cases res with
        | ok r => exact ⟨_, .main (.collect hphase hdone)⟩
        | error e => exact ⟨_, .main (.collectRaises hphase hdone)⟩
  | leaving res =>
    by_cases hunfinished : s.Unfinished
    · exact hgoes hunfinished
    · obtain ⟨hpending, hidle⟩ := pending_idle_of_not_unfinished hunfinished
      exact ⟨_, .main (.shutdown hphase hpending hidle)⟩
  | returned res => exact absurd hphase (hmain res)

/-! ### The end of a run -/

/-- What a run that has returned results has collected. -/
theorem results_of_returned (hcombos : run.combos ≠ []) (h : (run.pool jobs b).Reachable s)
    {results : List (String × ℤ)} (hmain : s.main = .returned (.ok results)) :
    s.items = 0 ∧ ∃ rs, results.Perm rs ∧
      List.Forall₂ (fun tup r => run.Yields b tup (.ok r)) run.combos rs := by
  have hsound := main_sound_of_reachable hcombos h
  rw [hmain] at hsound
  exact ⟨hsound.1, hsound.2.exists_perm⟩

/-- What a run that has raised has found. -/
theorem yields_of_raised (hcombos : run.combos ≠ []) (h : (run.pool jobs b).Reachable s)
    {e : PyExc} (hmain : s.main = .returned (.error e)) :
    ∃ tup ∈ run.combos, run.Yields b tup (.error e) := by
  have hsound := main_sound_of_reachable hcombos h
  rw [hmain] at hsound
  obtain ⟨-, i, tup, htup, hyields⟩ := hsound
  exact ⟨tup, List.mem_of_getElem? htup, hyields⟩

/-- **A run stops only by returning.** -/
theorem returned_of_stuck (hcombos : run.combos ≠ []) (hanswered : run.Answered b jobs)
    (h : (run.pool jobs b).Reachable s) (hstuck : (run.pool jobs b).Stuck s) :
    ∃ res, s.main = .returned res := by
  by_contra hnot
  obtain ⟨s', hstep⟩ := exists_step hcombos hanswered h fun res hres => hnot ⟨res, hres⟩
  exact hstuck s' hstep

end

/-! ### Behaviours that leave less open -/

/-- What the cells and the console may do under `b'` they may also do under `b`. -/
structure Behaviour.Refines (b' b : Behaviour) : Prop where
  returns : ∀ slot cell rc, b'.returns slot cell rc → b.returns slot cell rc
  raises : ∀ slot cell e, b'.raises slot cell e → b.raises slot cell e
  printRaises : ∀ e, b'.printRaises e → b.printRaises e

section

variable {run : MatrixRun} {b b' : Behaviour}

theorem Behaviour.Refines.workerStep (hb : b'.Refines b) {n : ℕ} {w : Fin n} {s s' : PoolState n}
    (h : WorkerStep run b' w s s') : WorkerStep run b w s s' := by
  cases h with
  | executeReturns hphase hrc => exact .executeReturns hphase (hb.returns _ _ _ hrc)
  | executeRaises hphase he => exact .executeRaises hphase (hb.raises _ _ _ he)
  | printLineRaises hphase he => exact .printLineRaises hphase (hb.printRaises _ he)
  | borrow prints hphase hqueue => exact .borrow prints hphase hqueue
  | _ => constructor <;> assumption

/-- The runs under a behaviour that leaves less open are runs. -/
theorem Behaviour.Refines.reachable (hb : b'.Refines b) {jobs : ℤ}
    {s : PoolState (run.effectiveJobs jobs)} (h : (run.pool jobs b').Reachable s) :
    (run.pool jobs b).Reachable s := by
  refine h.mono rfl fun s s' hstep => ?_
  cases hstep with
  | worker w hw => exact .worker w (hb.workerStep hw)
  | main hm => exact .main hm

end

end TlsInterop
