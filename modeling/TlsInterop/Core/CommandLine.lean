import TlsInterop.Core.Suite
import TlsInterop.Core.Validation

/-!
# The command line and the matrix of a run

The checks of `main.py` and `core/orchestration.py` on the parsed arguments, and
what `main.py` makes of each combination before it is run.

## Main definitions

* `validateCliArguments`, `validateRunArgs` — the checks on the arguments.
* `cellSummaryLabel` — the label of a cell.
* `MatrixRun`, `MatrixRun.prepare` — a matrix, and the part of `run_matrix_cell`
  before the session is borrowed.
* `MatrixRun.requiredBackends` — the backends some cell needs.

## Main results

* `jobs_of_validateCliArguments` — what the accepted arguments say about `--jobs`.
* `MatrixRun.requiredBackends_nil` — no combination needs no backend.
-/

namespace TlsInterop

open Py

/-- `MAX_PARALLEL_JOBS`. -/
def maxParallelJobs : ℤ := 32

/-! ### Arguments -/

namespace Args

/-- `int(args.name)`. -/
def intAttr (args : Args) (name : String) : Except PyExc ℤ :=
  match args.attrs.get? name with
  | some v => v.toInt
  | none => .error ⟨.named "AttributeError", "'Namespace' object has no attribute "
      ++ reprStr name⟩

/-- `bool(args.name)`. -/
def boolAttr (args : Args) (name : String) : Bool := (args.attrs.get? name).any ArgVal.truthy

end Args

/-- `parser.error`, which prints its text and exits. -/
def parserError (msg : String) : PyExc := ⟨.named "SystemExit", msg⟩

/-- `max(1, (os.cpu_count() or 2) // 2)`. -/
def maxJobs (cpuCount : Option ℕ) : ℤ := max 1 (((cpuCount.filter (· ≠ 0)).getD 2 / 2 : ℕ) : ℤ)

/-- `args.jobs = max_jobs` when more jobs are asked for. -/
def capJobs (args : Args) (jobs maxJobs : ℤ) : Args :=
  if maxJobs < jobs then { args with attrs := args.attrs.set "jobs" (.int maxJobs) } else args

/-- `validate_cli_arguments`, on a host with `cpuCount` processors: the arguments
with `jobs` capped. -/
def validateCliArguments (cpuCount : Option ℕ) (args : Args) : Except PyExc Args := do
  let jobs ← args.intAttr "jobs"
  if jobs < 1 then .error (parserError "--jobs must be >= 1")
  else
    let args := capJobs args jobs (maxJobs cpuCount)
    let jobs := min jobs (maxJobs cpuCount)
    if maxParallelJobs < jobs then .error (parserError "--jobs must be <= 32")
    else if 1 < jobs ∧ args.boolAttr "attach" then
      .error (parserError "--jobs > 1 cannot be used with --attach")
    else if 1 < jobs then
      let port ← args.intAttr "tls_port"
      if port ≠ 0 then .error (parserError "--jobs > 1 cannot be used with --tls-port")
      else .ok args
    else .ok args

/-- `validate_run_args`. -/
def validateRunArgs (args : Args) : Except PyExc Unit := do
  let port ← args.intAttr "tls_port"
  if ¬ (0 ≤ port ∧ port ≤ 65535) then
    throw ⟨.valueError, "--tls-port must be in range 0..65535"⟩

/-! ### Combinations -/

/-- `cell_summary_label`. -/
def cellSummaryLabel (cell : Cell) : Except PyExc String := do
  let role (name : String) : Except PyExc String :=
    match cell.get? (.str name) with
    | some v => .ok v
    | none => .error ⟨.keyError, reprStr name⟩
  let server ← role "server"
  let client ← role "client"
  let part (k : String) : String :=
    let text := replaceChar '\n' ' ' (strip (cell.field k))
    if text = "" then "-" else text
  let parts := ["tls_version", "cipher_suite", "supported_groups", "signature_schemes", "alpn"].map
    part
  return server ++ " x " ++ client ++ " | " ++ String.intercalate " / " parts

/-- The matrix of a run: what a combination becomes a cell with. -/
structure MatrixRun where
  repo : Repo
  axisKeys : List AxisKey
  args : Args
  combos : List (List String)

/-- What `run_matrix_cell` finds before it borrows a session. -/
inductive Prepared
  | skip (label : String)
  | run (cell : Cell) (label : String)

namespace MatrixRun

variable (run : MatrixRun)

/-- The normalised cell of a combination. -/
def normalizedCell (tup : List String) : Except PyExc Cell :=
  normalizeCellTlsMicroParams run.repo (cellOf run.axisKeys tup) run.args

/-- The part of `run_matrix_cell` before the session is borrowed. -/
def prepare (tup : List String) : Except PyExc Prepared := do
  let cell ← run.normalizedCell tup
  let label ← cellSummaryLabel cell
  if (cellCapabilitySkipReason run.repo cell).any (· ≠ "") then return .skip label
  return .run cell label

/-- The roles of a combination that are known wrappers, unless it is skipped. -/
def neededBackends (known : List String) (tup : List String) : Except PyExc (List String) := do
  let cell ← run.normalizedCell tup
  if (cellCapabilitySkipReason run.repo cell).any (· ≠ "") then return []
  return [lower (strip (cell.field "server")), lower (strip (cell.field "client"))].filter
    fun name => name ∈ known

/-- `required_backends_from_matrix`. -/
def requiredBackends (known : List String) : Except PyExc (List String) := do
  return sortedSet (← run.combos.mapM (run.neededBackends known)).flatten

/-- No combination needs no backend. -/
theorem requiredBackends_nil {known backends : List String} (hcombos : run.combos = [])
    (h : run.requiredBackends known = .ok backends) : backends = [] := by
  unfold requiredBackends at h
  rw [hcombos] at h
  cases h
  rfl

end MatrixRun

/-! ### What the accepted arguments say -/

theorem capJobs_get? (args : Args) (jobs maxJobs : ℤ) {name : String} (h : name ≠ "jobs") :
    (capJobs args jobs maxJobs).attrs.get? name = args.attrs.get? name := by
  unfold capJobs
  split
  · exact Dict.get?_set_of_ne (Ne.symm h) _ _
  · rfl

theorem capJobs_jobs {args : Args} {jobs : ℤ} (h : args.intAttr "jobs" = .ok jobs) (maxJobs : ℤ) :
    (capJobs args jobs maxJobs).intAttr "jobs" = .ok (min jobs maxJobs) := by
  unfold capJobs
  by_cases hmax : maxJobs < jobs
  · rw [if_pos hmax, min_eq_right hmax.le, Args.intAttr, Dict.get?_set, if_pos rfl]
    rfl
  · rw [if_neg hmax, min_eq_left (not_lt.mp hmax)]
    exact h

/-- The accepted arguments are those given, but for a capped number of jobs; with
more than one job nothing is attached and no port is given. -/
theorem jobs_of_validateCliArguments {cpuCount : Option ℕ} {args args' : Args}
    (h : validateCliArguments cpuCount args = .ok args') :
    (∀ name, name ≠ "jobs" → args'.attrs.get? name = args.attrs.get? name) ∧
      ∃ jobs, args'.intAttr "jobs" = .ok jobs ∧ 1 ≤ jobs ∧ jobs ≤ maxParallelJobs ∧
        (1 < jobs → args'.boolAttr "attach" = false ∧ args'.intAttr "tls_port" = .ok 0) := by
  unfold validateCliArguments at h
  obtain ⟨jobs, hjobs, h⟩ := bind_eq_ok.mp h
  split at h
  · cases h
  next hone =>
  dsimp only at h
  split at h
  · cases h
  next hmax =>
  split at h
  · cases h
  next hattach =>
  -- neither check refuses, and the number of jobs is capped
  have hcap := capJobs_jobs hjobs (maxJobs cpuCount)
  have hge : 1 ≤ min jobs (maxJobs cpuCount) := le_min (not_lt.mp hone) (le_max_left ..)
  have hle : min jobs (maxJobs cpuCount) ≤ maxParallelJobs := not_lt.mp hmax
  have hkept := fun name (hname : name ≠ "jobs") => capJobs_get? args jobs (maxJobs cpuCount) hname
  split at h
  · next hpar =>
    obtain ⟨port, hport, h⟩ := bind_eq_ok.mp h
    split at h
    · cases h
    · next hzero =>
      cases h
      rw [not_not] at hzero
      have hfree : (capJobs args jobs (maxJobs cpuCount)).boolAttr "attach" = false := by
        rw [← Bool.not_eq_true]
        exact fun hatt => hattach ⟨hpar, hatt⟩
      exact ⟨hkept, _, hcap, hge, hle, fun _ => ⟨hfree, hzero ▸ hport⟩⟩
  · next hpar =>
    cases h
    exact ⟨hkept, _, hcap, hge, hle, fun hlt => absurd hlt hpar⟩

end TlsInterop
