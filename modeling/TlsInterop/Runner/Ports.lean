import TlsInterop.Core.Shipped
import TlsInterop.Py.Decimal
import TlsInterop.Runner.Cell
import TlsInterop.Runner.Parallel

/-!
# The ports of a parallel run

The sessions of the slots, the port at which each wrapper listens, and the port
that a cell in execution is given.  A port comes from the document of the backend
and the slot, unless the case of the cell names one; nothing checks a named one.

## Main definitions

* `slotSession`, `MatrixRun.slotSessions` — the sessions of the slots.
* `Execution`, `Phase.execution` — the cells in execution.
* `PortsApart` — the ports of two cells in execution are theirs alone.
* `NamesPort`, `SlotPort`, `NamedPortsFit` — where a port comes from, and what a
  named one has to be.

## Main results

* `slots_distinct` — cells in execution hold different slots.
* `prepared_of_reachable` — the combination of a cell in execution.
* `assigns_iff`, `listensOn_iff` — the ports of a cell and of the wrappers.
* `portsApart_iff` — when the ports of the cells in execution are apart.
-/

namespace TlsInterop

open Py Effects

/-! ### Sessions -/

/-- `WrapperSession(repo, backends, slot_id=slot)`. -/
def slotSession (repo : Repo) (backends : List String) (slot : ℕ) : Except PyExc WrapperSession := do
  let unknown := backends.filter fun name => name ∉ repo.discoverWrapperIds
  if unknown ≠ [] then
    throw ⟨.valueError, "Unknown backend(s): ["
      ++ String.intercalate ", " ((sortedSet unknown).map reprStr) ++ "]"⟩
  let grpcPortOverrides ← WrapperSession.workerSlotGrpcOverrides repo backends slot
  return { backends := sortedSet backends, attach := false, slotId := some slot, grpcPortOverrides }

/-- `slot_sessions`. -/
def MatrixRun.slotSessions (run : MatrixRun) (backends : List String) (jobs : ℤ) :
    Except PyExc (List WrapperSession) :=
  (List.range (run.effectiveJobs jobs)).mapM (slotSession run.repo backends)

/-! ### Cells in execution -/

/-- A cell in execution: its combination, the slot it holds and the normalised cell. -/
structure Execution where
  item : ℕ
  slot : ℕ
  cell : Cell

/-- The cell a worker executes. -/
def Phase.execution : Phase → Option Execution
  | .execute i slot cell _ _ | .printing i slot cell _ _ => some ⟨i, slot, cell⟩
  | _ => none

section

variable (repo : Repo) (sessions : List WrapperSession)

/-- `apply_matrix_tls_endpoints` gives the configurations of the cell that port. -/
def Execution.Assigns (x : Execution) (p : ℤ) : Prop :=
  ∃ session endpoint serverConf clientConf, sessions[x.slot]? = some session ∧
    cellSetup repo session x.cell = .ok (endpoint, serverConf, clientConf) ∧ serverConf.port = p

/-- A wrapper of some slot listens at that port. -/
def ListensOn (g : ℤ) : Prop :=
  ∃ session ∈ sessions, ∃ backend ∈ session.backends, ∃ addr host,
    session.grpcAddr repo backend = .ok addr ∧ grpcHostPort addr = .ok (host, g)

end

/-- A port that can be connected to. -/
def ValidPort (p : ℤ) : Prop := 1 ≤ p ∧ p ≤ 65535

/-- The ports of two cells in execution are valid, and no other cell or wrapper has them. -/
structure PortsApart (repo : Repo) (sessions : List WrapperSession) (x y : Execution) : Prop where
  valid : ∀ z p, z = x ∨ z = y → z.Assigns repo sessions p → ValidPort p
  free : ∀ z p, z = x ∨ z = y → z.Assigns repo sessions p → ¬ ListensOn repo sessions p
  grpc : ∀ g, ListensOn repo sessions g → ValidPort g
  apart : ∀ p q, x.Assigns repo sessions p → y.Assigns repo sessions q → p ≠ q

/-! ### Where a port comes from -/

/-- The gRPC ports of the shipped documents. -/
def grpcBases : Dict String ℤ := [("openssl", 15051), ("gnutls", 15052), ("nss", 15053)]

/-- The ports of the wrappers of so many slots. -/
def GrpcSlotPort (backends : List String) (slots : ℕ) (g : ℤ) : Prop :=
  ∃ e ∈ grpcBases, e.1 ∈ backends ∧ ∃ d < slots, g = e.2 + d * workerPortStride

section

variable (repo : Repo) (cell : Cell)

/-- The cell names a port, and its server has a document. -/
def NamesPort (p : ℤ) : Prop :=
  (∃ endpoint, backendTlsEndpoint repo (lower (strip (cell.field "server"))) = .ok endpoint) ∧
    parseInt (cell.field "tls_port") = some p ∧ inInt32 p = true

/-- The cell names no port, and gets that of its server in the slot. -/
def SlotPort (slot : ℕ) (p : ℤ) : Prop :=
  strip (cell.field "tls_port") = "" ∧ ∃ host base,
    backendTlsEndpoint repo (lower (strip (lower (strip (cell.field "server"))))) = .ok (host, base) ∧
      p = base + slot * workerPortStride

end

/-- The cell of a combination, before it is normalised. -/
def MatrixRun.comboCell (run : MatrixRun) (i : ℕ) : Cell :=
  cellOf run.axisKeys (run.combos.getD i [])

/-- The ports that the combinations of two cells in execution name are valid, no
wrapper of the run has them, and the other cell does not get the same one. -/
structure NamedPortsFit (run : MatrixRun) (backends : List String) (slots : ℕ) (x y : Execution) :
    Prop where
  valid : ∀ z p, z = x ∨ z = y → NamesPort run.repo (run.comboCell z.item) p → ValidPort p
  free : ∀ z p, z = x ∨ z = y → NamesPort run.repo (run.comboCell z.item) p →
    ¬ GrpcSlotPort backends slots p
  named : ∀ p, NamesPort run.repo (run.comboCell x.item) p →
    ¬ NamesPort run.repo (run.comboCell y.item) p
  slot : ∀ z z' p, (z = x ∧ z' = y) ∨ (z = y ∧ z' = x) →
    NamesPort run.repo (run.comboCell z.item) p →
    ¬ SlotPort run.repo (run.comboCell z'.item) z'.slot p

/-! ### Cells in execution hold different slots -/

theorem slots_of_execution {p : Phase} {x : Execution} (h : p.execution = some x) :
    p.slots = {x.slot} := by
  cases p with
  | execute | printing =>
    cases h
    rfl
  | _ => cases h

section

variable {run : MatrixRun} {jobs : ℤ} {b : Behaviour} {s : PoolState (run.effectiveJobs jobs)}

/-- The slot of a cell in execution is one of the run. -/
theorem slot_lt (h : (run.pool jobs b).Reachable s) {v : Fin (run.effectiveJobs jobs)}
    {x : Execution} (hx : (s.workers v).execution = some x) : x.slot < run.effectiveJobs jobs := by
  refine slot_lt_of_mem h (w := v) ?_
  rw [slots_of_execution hx]
  exact Multiset.mem_singleton_self _

/-- **Cells in execution hold different slots.** -/
theorem slots_distinct (h : (run.pool jobs b).Reachable s) {v w : Fin (run.effectiveJobs jobs)}
    (hvw : v ≠ w) {x y : Execution} (hx : (s.workers v).execution = some x)
    (hy : (s.workers w).execution = some y) : x.slot ≠ y.slot := by
  intro heq
  have hnodup : s.slots.Nodup := by
    rw [slots_conserved h]
    exact Multiset.nodup_range _
  have hcount := Multiset.nodup_iff_count_le_one.mp hnodup x.slot
  -- both workers count for the slot
  have hpair : (s.workers v).slots.count x.slot + (s.workers w).slots.count x.slot
      ≤ ∑ u, (s.workers u).slots.count x.slot := by
    rw [← Finset.sum_pair hvw (f := fun u => (s.workers u).slots.count x.slot)]
    exact Finset.sum_le_sum_of_subset (Finset.subset_univ _)
  have hv : (s.workers v).slots.count x.slot = 1 := by
    rw [slots_of_execution hx, Multiset.count_singleton_self]
  have hw : (s.workers w).slots.count x.slot = 1 := by
    rw [slots_of_execution hy, heq, Multiset.count_singleton_self]
  rw [PoolState.slots, Multiset.count_add, Multiset.count_sum'] at hcount
  omega

/-! ### The combination of a cell in execution -/

/-- The combination of a cell in execution, and what has been made of it. -/
theorem prepared_of_reachable (h : (run.pool jobs b).Reachable s)
    {v : Fin (run.effectiveJobs jobs)} {x : Execution} (hx : (s.workers v).execution = some x) :
    ∃ tup label, run.combos[x.item]? = some tup ∧ run.prepare tup = .ok (.run x.cell label) := by
  have hv := (sound_of_reachable h).workers v
  cases hphase : s.workers v with
  | execute | printing =>
    rw [hphase] at hx hv
    cases hx
    obtain ⟨tup, htup, hprep⟩ := hv
    exact ⟨tup, _, htup, hprep⟩
  | _ =>
    rw [hphase] at hx
    cases hx

end

/-! ### The combination and the normalised cell -/

theorem getattrInt_of_intAttr {args : Args} {name : String} (h : args.intAttr name = .ok 0) :
    args.getattrInt name = .ok 0 := by
  unfold Args.intAttr at h
  unfold Args.getattrInt
  cases hv : args.attrs.get? name with
  | none => rfl
  | some v =>
    rw [hv] at h
    dsimp only at h ⊢
    split
    · exact h
    · rfl

/-- When no port is asked for, normalising leaves that of the cell. -/
theorem normalizeCellTlsMicroParams_tlsPort {repo : Repo} {cell cell' : Cell} {args : Args}
    (hport : args.intAttr "tls_port" = .ok 0)
    (h : normalizeCellTlsMicroParams repo cell args = .ok cell') :
    cell'.field "tls_port" = cell.field "tls_port" := by
  unfold normalizeCellTlsMicroParams at h
  rw [getattrInt_of_intAttr hport] at h
  have hkept : overridePort cell 0 = cell := if_neg (by decide)
  dsimp only [bind, Except.bind] at h
  rw [hkept] at h
  split at h
  · rw [← Except.ok.inj h]
  · rw [← Except.ok.inj h, normalizeLoadedCell_field (by decide) (by decide),
      applyImplicitTlsVersion_field (by decide)]

/-- The server and the port of a prepared cell are those of its combination. -/
theorem fields_of_prepare {run : MatrixRun} (hport : run.args.intAttr "tls_port" = .ok 0) {i : ℕ}
    {tup : List String} {cell : Cell} {label : String} (htup : run.combos[i]? = some tup)
    (h : run.prepare tup = .ok (.run cell label)) :
    cell.field "server" = (run.comboCell i).field "server" ∧
      cell.field "tls_port" = (run.comboCell i).field "tls_port" := by
  unfold MatrixRun.prepare at h
  obtain ⟨cell', hcell, h⟩ := bind_eq_ok.mp h
  obtain ⟨label', -, h⟩ := bind_eq_ok.mp h
  have hsame : cell' = cell := by
    split at h
    · cases h
    · cases h
      rfl
  subst hsame
  have hcombo : run.comboCell i = cellOf run.axisKeys tup := by
    rw [MatrixRun.comboCell, List.getD_eq_getElem?_getD, htup, Option.getD_some]
  rw [hcombo]
  exact ⟨normalizeCellTlsMicroParams_role hcell (.inl rfl),
    normalizeCellTlsMicroParams_tlsPort hport hcell⟩

/-! ### The ports of the wrappers -/

/-- A numeral at the end of an address is read back. -/
theorem grpcHostPort_append {host : String} (hhost : host ≠ "") {n : ℕ}
    (hn : n < 10 ^ maxStrDigits) :
    grpcHostPort (host ++ ":" ++ toString (n : ℤ)) = .ok (host, n) := by
  have hdigit : ∀ c ∈ (toString (n : ℤ)).toList, c.isDigit := by
    intro c hc
    rw [toList_toString] at hc
    exact Nat.isDigit_of_mem_toDigits (by decide) (by decide) hc
  have hcolon : ∀ c ∈ (toString (n : ℤ)).toList.reverse, decide (c ≠ ':') = true := by
    intro c hc
    rw [decide_eq_true_eq]
    rintro rfl
    exact absurd (hdigit ':' (List.mem_reverse.mp hc)) (by decide)
  -- the last colon is the one before the digits
  have hsplit : rpartitionColon (host ++ ":" ++ toString (n : ℤ)) = (host, toString (n : ℤ)) := by
    have hback : (host ++ ":" ++ toString (n : ℤ)).toList.reverse
        = (toString (n : ℤ)).toList.reverse ++ ':' :: host.toList.reverse := by
      simp
    unfold rpartitionColon
    dsimp only
    rw [hback, List.takeWhile_append_of_pos hcolon, List.dropWhile_append_of_pos hcolon]
    simp
  have hne : (toString (n : ℤ)).toList ≠ [] := by
    rw [toList_toString]
    exact List.length_pos_iff.mp Nat.length_toDigits_pos
  have hall : (toString (n : ℤ)).toList.any (fun c => (digitVal c).isNone) = false := by
    rw [List.any_eq_false]
    intro c hc
    rw [digitVal_of_isDigit (hdigit c hc)]
    exact Bool.false_ne_true
  unfold grpcHostPort
  rw [hsplit]
  dsimp only
  have hgood : ¬ ((toString (n : ℤ)).toList = [] ∨ false = true) :=
    not_or.mpr ⟨hne, Bool.false_ne_true⟩
  rw [hall, if_neg hgood, intOfText, parseInt_toString hn]
  show Except.ok (if host = "" then "127.0.0.1" else host, (n : ℤ)) = _
  rw [if_neg hhost]

section

variable {root : String} {certs : String → Option (List UInt8 × List UInt8)}

/-- The gRPC address of a shipped backend, at its own port or at another one. -/
theorem backendGrpcAddr_shipped {name : String} {base : ℤ} (h : (name, base) ∈ grpcBases)
    {port : Option ℤ} (hport : port ≠ some 0) :
    backendGrpcAddr (shippedRepo root certs) name port
      = .ok ("127.0.0.1" ++ ":" ++ toString (port.getD base)) := by
  have hload : ∃ caps addr, (shippedRepo root certs).loadBackendCapabilities name = .ok caps ∧
      caps.runtime "grpc_addr" = .str addr ∧ strip addr = addr ∧ addr ≠ "" ∧
      (rpartitionColon addr).1 = "127.0.0.1" ∧ addr = "127.0.0.1" ++ ":" ++ toString base := by
    simp only [grpcBases, List.mem_cons, Prod.mk.injEq, List.not_mem_nil, or_false] at h
    rcases h with ⟨rfl, rfl⟩ | ⟨rfl, rfl⟩ | ⟨rfl, rfl⟩
    · exact ⟨_, "127.0.0.1:15051", shippedRepo_load.mpr (.inr (.inr ⟨by decide, rfl⟩)), rfl,
        by decide, by decide, by decide, by decide⟩
    · exact ⟨_, "127.0.0.1:15052", shippedRepo_load.mpr (.inl ⟨by decide, rfl⟩), rfl,
        by decide, by decide, by decide, by decide⟩
    · exact ⟨_, "127.0.0.1:15053", shippedRepo_load.mpr (.inr (.inl ⟨by decide, rfl⟩)), rfl,
        by decide, by decide, by decide, by decide⟩
  obtain ⟨caps, addr, hcaps, haddr, hstrip, hne, hhost, htext⟩ := hload
  refine bind_eq_ok.mpr ⟨caps, hcaps, ?_⟩
  rw [haddr]
  dsimp only
  rw [hstrip, if_neg hne]
  cases port with
  | none => exact congrArg Except.ok htext
  | some p =>
    have hp : p ≠ 0 := fun hp => hport (congrArg some hp)
    dsimp only
    rw [if_neg hp, hhost]
    rfl

/-- The documents give the ports of the table. -/
theorem grpcHostPort_base {name : String} {base : ℤ} (h : (name, base) ∈ grpcBases) :
    grpcHostPort ("127.0.0.1" ++ ":" ++ toString base) = .ok ("127.0.0.1", base) := by
  simp only [grpcBases, List.mem_cons, Prod.mk.injEq, List.not_mem_nil, or_false] at h
  rcases h with ⟨-, rfl⟩ | ⟨-, rfl⟩ | ⟨-, rfl⟩ <;> decide

/-- A backend of the repository is one of the table. -/
theorem exists_base {name : String}
    (h : name ∈ (shippedRepo root certs).discoverWrapperIds) : ∃ base, (name, base) ∈ grpcBases := by
  rw [discoverWrapperIds_shippedRepo] at h
  simp only [List.mem_cons, List.not_mem_nil, or_false] at h
  rcases h with rfl | rfl | rfl
  · exact ⟨15052, by decide⟩
  · exact ⟨15053, by decide⟩
  · exact ⟨15051, by decide⟩

/-- The names of the table are in normal form, and its ports are close together. -/
theorem normal_of_base {name : String} {base : ℤ} (h : (name, base) ∈ grpcBases) :
    lower (strip name) = name ∧ 15051 ≤ base ∧ base ≤ 15053 ∧
      grpcBases.get? name = some base := by
  simp only [grpcBases, List.mem_cons, Prod.mk.injEq, List.not_mem_nil, or_false] at h
  rcases h with ⟨rfl, rfl⟩ | ⟨rfl, rfl⟩ | ⟨rfl, rfl⟩ <;> exact ⟨by decide, by decide, by decide, by decide⟩

/-- What the table gives a backend in a slot. -/
def slotGrpcPort (slot : ℕ) (name : String) : ℤ :=
  (grpcBases.get? name).getD 0 + slot * workerPortStride

theorem slotGrpcPort_of_base {name : String} {base : ℤ} (h : (name, base) ∈ grpcBases)
    (slot : ℕ) : slotGrpcPort slot name = base + slot * workerPortStride := by
  rw [slotGrpcPort, (normal_of_base h).2.2.2, Option.getD_some]

variable {backends : List String} {slot : ℕ} {session : WrapperSession}

/-- The overrides of a slot are those of the table. -/
theorem workerSlotGrpcOverrides_shipped (h : ∀ name ∈ backends, ∃ base, (name, base) ∈ grpcBases) :
    WrapperSession.workerSlotGrpcOverrides (shippedRepo root certs) backends slot
      = .ok (backends.map fun name => (name, slotGrpcPort slot name)) := by
  unfold WrapperSession.workerSlotGrpcOverrides
  rw [mapM_eq_ok, List.forall₂_map_right_iff, List.forall₂_same]
  intro name hname
  obtain ⟨base, hbase⟩ := h name hname
  dsimp only
  rw [(normal_of_base hbase).1, slotGrpcPort_of_base hbase]
  refine bind_eq_ok.mpr ⟨_, backendGrpcAddr_shipped hbase (by decide), ?_⟩
  rw [Option.getD_none, grpcHostPort_base hbase]
  rfl

/-- The session of a slot, over the shipped documents. -/
def shippedSlotSession (backends : List String) (slot : ℕ) : WrapperSession where
  backends := sortedSet backends
  attach := false
  slotId := some slot
  grpcPortOverrides := backends.map fun name => (name, slotGrpcPort slot name)

/-- What the session of a slot is. -/
theorem slotSession_eq_ok (h : slotSession (shippedRepo root certs) backends slot = .ok session) :
    (∀ name ∈ backends, ∃ base, (name, base) ∈ grpcBases) ∧
      session = shippedSlotSession backends slot := by
  unfold slotSession at h
  dsimp only at h
  split at h
  · cases h
  next hknown =>
  have hbase : ∀ name ∈ backends, ∃ base, (name, base) ∈ grpcBases := by
    intro name hname
    rw [not_not, List.filter_eq_nil_iff] at hknown
    have hmem := hknown name hname
    rw [decide_eq_true_eq, not_not] at hmem
    exact exists_base hmem
  rw [workerSlotGrpcOverrides_shipped hbase] at h
  cases h
  exact ⟨hbase, rfl⟩

theorem get?_map_self {f : String → ℤ} {l : List String} {name : String} (h : name ∈ l) :
    Dict.get? (l.map fun name => (name, f name)) name = some (f name) := by
  induction l with
  | nil => cases h
  | cons k l ih =>
    rw [List.map_cons, Dict.get?_cons]
    by_cases hk : k = name
    · rw [if_pos hk, hk]
    · rw [if_neg hk]
      exact ih ((List.mem_cons.mp h).resolve_left (Ne.symm hk))

/-- Where the wrapper of a backend of a slot listens. -/
theorem grpcAddr_slotSession
    (h : slotSession (shippedRepo root certs) backends slot = .ok session) (hslot : slot < 32)
    {name : String} {base : ℤ} (hbase : (name, base) ∈ grpcBases) (hmem : name ∈ backends) :
    ∃ addr, session.grpcAddr (shippedRepo root certs) name = .ok addr ∧
      grpcHostPort addr = .ok ("127.0.0.1", base + slot * workerPortStride) := by
  obtain ⟨hnormal, hlow, hhigh, -⟩ := normal_of_base hbase
  obtain ⟨-, rfl⟩ := slotSession_eq_ok h
  have hpos : 0 < base + slot * workerPortStride ∧ base + slot * workerPortStride < 10 ^ 5 := by
    rw [workerPortStride]
    omega
  obtain ⟨n, hn⟩ := Int.eq_ofNat_of_zero_le hpos.1.le
  have hsmall : n < 10 ^ maxStrDigits := by
    have hlt : n < 10 ^ 5 := by
      rw [hn] at hpos
      omega
    exact lt_of_lt_of_le hlt (Nat.pow_le_pow_right (by decide) (by decide))
  have hport : some (slotGrpcPort slot name) ≠ some 0 := by
    rw [slotGrpcPort_of_base hbase, Ne, Option.some.injEq]
    exact hpos.1.ne'
  refine ⟨"127.0.0.1" ++ ":" ++ toString (base + slot * workerPortStride), ?_, ?_⟩
  · unfold WrapperSession.grpcAddr shippedSlotSession
    dsimp only
    rw [hnormal, get?_map_self hmem, backendGrpcAddr_shipped hbase hport, Option.getD_some,
      slotGrpcPort_of_base hbase]
  · rw [hn]
    exact grpcHostPort_append (by decide) hsmall

variable {run : MatrixRun} {jobs : ℤ} {sessions : List WrapperSession}

/-- The sessions of a run, slot by slot. -/
theorem slotSessions_getElem? (h : run.slotSessions backends jobs = .ok sessions) {d : ℕ}
    {session : WrapperSession} : sessions[d]? = some session ↔
      d < run.effectiveJobs jobs ∧ slotSession run.repo backends d = .ok session := by
  obtain ⟨hlen, hget⟩ := List.forall₂_iff_get.mp (mapM_eq_ok.mp h)
  rw [List.length_range] at hlen
  constructor
  · intro hd
    obtain ⟨hlt, hsession⟩ := List.getElem?_eq_some_iff.mp hd
    have hslot := hget d (by rwa [List.length_range, hlen]) hlt
    rw [List.get_eq_getElem, List.get_eq_getElem, List.getElem_range, hsession] at hslot
    exact ⟨hlen ▸ hlt, hslot⟩
  · rintro ⟨hlt, hsession⟩
    have hd : d < sessions.length := hlen ▸ hlt
    have hslot := hget d (by rwa [List.length_range]) hd
    rw [List.get_eq_getElem, List.get_eq_getElem, List.getElem_range, hsession] at hslot
    rw [List.getElem?_eq_getElem hd, Except.ok.inj hslot]

/-- There are no more slots than jobs are allowed. -/
theorem effectiveJobs_le (run : MatrixRun) (jobs : ℤ) : run.effectiveJobs jobs ≤ 32 := by
  unfold MatrixRun.effectiveJobs
  have hle := min_le_right (min (max 1 jobs) run.combos.length) maxParallelJobs
  have hmax : maxParallelJobs = 32 := rfl
  omega

/-- **The ports of the wrappers**: those of the documents, shifted by the slot. -/
theorem listensOn_iff (hrepo : run.repo = shippedRepo root certs)
    (h : run.slotSessions backends jobs = .ok sessions) {g : ℤ} :
    ListensOn run.repo sessions g ↔ GrpcSlotPort backends (run.effectiveJobs jobs) g := by
  have hslot : ∀ d session, sessions[d]? = some session → d < 32 ∧ d < run.effectiveJobs jobs ∧
      slotSession (shippedRepo root certs) backends d = .ok session := by
    intro d session hd
    obtain ⟨hlt, hsession⟩ := (slotSessions_getElem? h).mp hd
    exact ⟨hlt.trans_le (effectiveJobs_le run jobs), hlt, hrepo ▸ hsession⟩
  rw [hrepo]
  constructor
  · rintro ⟨session, hsession, backend, hbackend, addr, host, haddr, hport⟩
    obtain ⟨d, hd⟩ := List.getElem?_of_mem hsession
    obtain ⟨hsmall, hlt, hd⟩ := hslot d session hd
    -- the backends of a slot are those of the run
    obtain ⟨hknown, hshape⟩ := slotSession_eq_ok hd
    rw [hshape] at hbackend
    have hmem : backend ∈ backends := mem_sortedSet.mp hbackend
    obtain ⟨base, hbase⟩ := hknown backend hmem
    obtain ⟨addr', haddr', hport'⟩ := grpcAddr_slotSession hd hsmall hbase hmem
    rw [haddr'] at haddr
    cases haddr
    rw [hport'] at hport
    cases hport
    exact ⟨_, hbase, hmem, d, hlt, rfl⟩
  · rintro ⟨⟨name, base⟩, hbase, hmem, d, hlt, rfl⟩
    -- there is a session for every slot
    have hex : ∃ session, sessions[d]? = some session := by
      have hlen := (List.forall₂_iff_get.mp (mapM_eq_ok.mp h)).1
      rw [List.length_range] at hlen
      exact ⟨_, List.getElem?_eq_getElem (hlen ▸ hlt)⟩
    obtain ⟨session, hd⟩ := hex
    obtain ⟨hsmall, -, hsession⟩ := hslot d session hd
    obtain ⟨addr, haddr, hport⟩ := grpcAddr_slotSession hsession hsmall hbase hmem
    refine ⟨session, List.mem_of_getElem? hd, name, ?_, addr, _, haddr, hport⟩
    rw [(slotSession_eq_ok hsession).2]
    exact mem_sortedSet.mpr hmem

/-- The ports of the wrappers are valid. -/
theorem validPort_of_grpcSlotPort {slots : ℕ} (hslots : slots ≤ 32) {g : ℤ}
    (h : GrpcSlotPort backends slots g) : ValidPort g ∧ g ≤ 18153 := by
  obtain ⟨⟨name, base⟩, hbase, -, d, hlt, rfl⟩ := h
  obtain ⟨-, hlow, hhigh, -⟩ := normal_of_base hbase
  unfold ValidPort workerPortStride
  omega

/-! ### The port of a cell -/

/-- The TLS ports of the documents. -/
theorem backendTlsEndpoint_shipped {name host : String} {base : ℤ}
    (h : backendTlsEndpoint (shippedRepo root certs) name = .ok (host, base)) :
    25551 ≤ base ∧ base ≤ 25553 := by
  obtain ⟨caps, hcaps, h⟩ := bind_eq_ok.mp h
  rcases shippedRepo_load.mp hcaps with ⟨-, rfl⟩ | ⟨-, rfl⟩ | ⟨-, rfl⟩
  all_goals
    cases h
    decide

/-- A text that is a number is not blank. -/
theorem strip_ne_empty_of_parseInt {text : String} {p : ℤ} (h : parseInt text = some p) :
    strip text ≠ "" := by
  intro hblank
  have hnone : parseInt "" = none := by decide
  rw [← parseInt_strip, hblank, hnone] at h
  cases h

/-- The endpoint of a cell whose configurations are built. -/
theorem cellSetup_port {repo : Repo} {cell : Cell} {endpoint : String × ℤ}
    {serverConf clientConf : TlsConfig}
    (h : cellSetup repo session cell = .ok (endpoint, serverConf, clientConf)) :
    cellEndpoint repo session cell (lower (strip (cell.field "server"))) = .ok endpoint ∧
      inInt32 endpoint.2 = true ∧ serverConf.port = endpoint.2 := by
  obtain ⟨_, -, h⟩ := bind_eq_ok.mp h
  obtain ⟨_, -, h⟩ := bind_eq_ok.mp h
  obtain ⟨endpoint', hendpoint, h⟩ := bind_eq_ok.mp h
  obtain ⟨port, hport, h⟩ := bind_eq_ok.mp h
  unfold assignInt32 at hport
  split at hport
  · next hrange =>
    cases hport
    cases h
    exact ⟨hendpoint, hrange, rfl⟩
  · cases hport

/-- A cell with an endpoint and a port that can be read builds its configurations. -/
theorem exists_cellSetup {repo : Repo} {cell : Cell} {endpoint : String × ℤ}
    (hendpoint : cellEndpoint repo session cell (lower (strip (cell.field "server"))) = .ok endpoint)
    (hrange : inInt32 endpoint.2 = true)
    (hport : strip (cell.field "tls_port") = "" ∨
      ∃ n, parseInt (cell.field "tls_port") = some n ∧ inInt32 n = true) :
    ∃ serverConf clientConf, cellSetup repo session cell = .ok (endpoint, serverConf, clientConf) ∧
      serverConf.port = endpoint.2 := by
  obtain ⟨ps, hps⟩ := cellPort_eq_ok hport true
  obtain ⟨pc, hpc⟩ := cellPort_eq_ok hport false
  have hassign : assignInt32 endpoint.2 = .ok endpoint.2 := if_pos hrange
  refine ⟨_, _, bind_eq_ok.mpr ⟨_, tlsConfigFromCell_of_port hps, bind_eq_ok.mpr
    ⟨_, tlsConfigFromCell_of_port hpc, bind_eq_ok.mpr ⟨_, hendpoint, bind_eq_ok.mpr
      ⟨_, hassign, rfl⟩⟩⟩⟩, rfl⟩

theorem intOfText_eq_ok_iff {text : String} {p : ℤ} :
    intOfText (strip text) = .ok p ↔ parseInt text = some p := by
  unfold intOfText
  rw [parseInt_strip]
  cases parseInt text with
  | none => exact iff_of_false (by rintro ⟨⟩) (by rintro ⟨⟩)
  | some n => simp

/-- **The port of a cell in execution**: the one its case names, or that of its
server in the slot. -/
theorem assigns_iff (hrepo : run.repo = shippedRepo root certs)
    (h : run.slotSessions backends jobs = .ok sessions) {x : Execution}
    (hx : x.slot < run.effectiveJobs jobs) {p : ℤ} :
    x.Assigns run.repo sessions p ↔
      NamesPort run.repo x.cell p ∨ SlotPort run.repo x.cell x.slot p := by
  -- the slot has a session of its own
  have hsessions : ∃ session, sessions[x.slot]? = some session := by
    have hlen := (List.forall₂_iff_get.mp (mapM_eq_ok.mp h)).1
    rw [List.length_range] at hlen
    exact ⟨_, List.getElem?_eq_getElem (hlen ▸ hx)⟩
  obtain ⟨session, hsession⟩ := hsessions
  have hslot : session.slotId = some x.slot := by
    have hd := ((slotSessions_getElem? h).mp hsession).2
    rw [hrepo] at hd
    rw [(slotSession_eq_ok hd).2]
    rfl
  constructor
  · rintro ⟨session', endpoint, serverConf, clientConf, hsession', hsetup, rfl⟩
    rw [hsession] at hsession'
    cases hsession'
    obtain ⟨hendpoint, hrange, hport⟩ := cellSetup_port hsetup
    rw [hport]
    unfold cellEndpoint at hendpoint
    dsimp only at hendpoint
    split at hendpoint
    · -- the case names a port
      left
      obtain ⟨e, he, hendpoint⟩ := bind_eq_ok.mp hendpoint
      obtain ⟨n, hn, hendpoint⟩ := bind_eq_ok.mp hendpoint
      cases hendpoint
      exact ⟨⟨e, he⟩, intOfText_eq_ok_iff.mp hn, hrange⟩
    · next hblank =>
      -- the case names none: the port of its backend, moved by the slot
      right
      unfold WrapperSession.tlsEndpoint at hendpoint
      obtain ⟨e, he, hendpoint⟩ := bind_eq_ok.mp hendpoint
      rw [hslot] at hendpoint
      cases hendpoint
      exact ⟨not_not.mp hblank, e.1, e.2, he, rfl⟩
  · rintro (⟨⟨e, he⟩, hnum, hrange⟩ | ⟨hblank, host, base, he, rfl⟩)
    · -- a port of the case is taken as it is
      have hendpoint : cellEndpoint run.repo session x.cell
          (lower (strip (x.cell.field "server"))) = .ok (e.1, p) := by
        unfold cellEndpoint
        dsimp only
        rw [if_pos (strip_ne_empty_of_parseInt hnum)]
        exact bind_eq_ok.mpr ⟨e, he, bind_eq_ok.mpr ⟨p, intOfText_eq_ok_iff.mpr hnum, rfl⟩⟩
      obtain ⟨serverConf, clientConf, hsetup, hport⟩ :=
        exists_cellSetup hendpoint hrange (.inr ⟨p, hnum, hrange⟩)
      exact ⟨session, _, serverConf, clientConf, hsession, hsetup, hport⟩
    · have hendpoint : cellEndpoint run.repo session x.cell
          (lower (strip (x.cell.field "server"))) = .ok (host, base + x.slot * workerPortStride) := by
        unfold cellEndpoint WrapperSession.tlsEndpoint
        dsimp only
        rw [if_neg (not_not.mpr hblank), hslot]
        exact bind_eq_ok.mpr ⟨(host, base), he, rfl⟩
      -- a port of the slot stays in the range: there are few slots, and the stride is small
      have hrange : inInt32 (base + x.slot * workerPortStride) = true := by
        rw [hrepo] at he
        have hbase := backendTlsEndpoint_shipped he
        have hle := effectiveJobs_le run jobs
        have hbounds : -2147483648 ≤ base + x.slot * workerPortStride ∧
            base + x.slot * workerPortStride ≤ 2147483647 := by
          rw [workerPortStride]
          omega
        simpa [inInt32] using hbounds
      obtain ⟨serverConf, clientConf, hsetup, hport⟩ :=
        exists_cellSetup hendpoint hrange (.inl hblank)
      exact ⟨session, _, serverConf, clientConf, hsession, hsetup, hport⟩

/-- A port that comes from a document and a slot is valid, and no wrapper has it. -/
theorem validPort_of_slotPort (hrepo : run.repo = shippedRepo root certs) {cell : Cell}
    (hslot : slot < 32) {p : ℤ} (h : SlotPort run.repo cell slot p) :
    ValidPort p ∧ 18153 < p := by
  obtain ⟨-, host, base, he, rfl⟩ := h
  rw [hrepo] at he
  have hbase := backendTlsEndpoint_shipped he
  unfold ValidPort workerPortStride
  omega

/-- Two cells without a port of their own get different ones in different slots. -/
theorem ne_of_slotPort (hrepo : run.repo = shippedRepo root certs) {cell cell' : Cell}
    {slot' : ℕ} (hne : slot ≠ slot') {p q : ℤ} (h : SlotPort run.repo cell slot p)
    (h' : SlotPort run.repo cell' slot' q) : p ≠ q := by
  obtain ⟨-, host, base, he, rfl⟩ := h
  obtain ⟨-, host', base', he', rfl⟩ := h'
  rw [hrepo] at he he'
  have hbase := backendTlsEndpoint_shipped he
  have hbase' := backendTlsEndpoint_shipped he'
  rw [workerPortStride]
  omega

end

/-! ### When the ports are apart -/

theorem namesPort_congr {repo : Repo} {cell cell' : Cell}
    (hserver : cell.field "server" = cell'.field "server")
    (hport : cell.field "tls_port" = cell'.field "tls_port") (p : ℤ) :
    NamesPort repo cell p ↔ NamesPort repo cell' p := by
  rw [NamesPort, NamesPort, hserver, hport]

theorem slotPort_congr {repo : Repo} {cell cell' : Cell}
    (hserver : cell.field "server" = cell'.field "server")
    (hport : cell.field "tls_port" = cell'.field "tls_port") (slot : ℕ) (p : ℤ) :
    SlotPort repo cell slot p ↔ SlotPort repo cell' slot p := by
  rw [SlotPort, SlotPort, hserver, hport]

/-- **The ports of the cells in execution** are valid, and no wrapper and no other
cell has them, exactly when this is so of those that the cases name.  The ports that are
computed from the slots are apart by arithmetic, those of the cells and those of the
wrappers.  A port that a case names is taken as it stands, in whatever slot the cell runs. -/
theorem portsApart_iff {run : MatrixRun} {root : String}
    {certs : String → Option (List UInt8 × List UInt8)} (hrepo : run.repo = shippedRepo root certs)
    {cpuCount : Option ℕ} {parsed : Args}
    (haccepted : validateCliArguments cpuCount parsed = .ok run.args)
    {jobs : ℤ} (hjobs : run.args.intAttr "jobs" = .ok jobs) {backends : List String}
    (hparallel : RunsParallel jobs backends) {sessions : List WrapperSession}
    (hsessions : run.slotSessions backends jobs = .ok sessions) (b : Behaviour) :
    ∀ s, (run.pool jobs b).Reachable s → ∀ v w, v ≠ w → ∀ x y,
      (s.workers v).execution = some x → (s.workers w).execution = some y →
      x.slot ≠ y.slot ∧
        (PortsApart run.repo sessions x y ↔
          NamedPortsFit run backends (run.effectiveJobs jobs) x y) := by
  intro s hs v w hvw x y hx hy
  obtain ⟨-, jobs', hjobs', -, -, hpar⟩ := jobs_of_validateCliArguments haccepted
  rw [hjobs] at hjobs'
  cases hjobs'
  -- a parallel run has no port of its own in the arguments
  have hport := (hpar hparallel.1).2
  have hne := slots_distinct hs hvw hx hy
  refine ⟨hne, ?_⟩
  have hle := effectiveJobs_le run jobs
  -- what is known of each of the two cells
  have hcell : ∀ z, z = x ∨ z = y → z.slot < run.effectiveJobs jobs ∧
      ∀ p, z.Assigns run.repo sessions p ↔
        NamesPort run.repo (run.comboCell z.item) p ∨
          SlotPort run.repo (run.comboCell z.item) z.slot p := by
    have hone : ∀ u z, (s.workers u).execution = some z → z.slot < run.effectiveJobs jobs ∧
        ∀ p, z.Assigns run.repo sessions p ↔
          NamesPort run.repo (run.comboCell z.item) p ∨
            SlotPort run.repo (run.comboCell z.item) z.slot p := by
      intro u z hz
      -- the cell was prepared from its combination, which keeps the fields a port comes from
      obtain ⟨tup, label, htup, hprep⟩ := prepared_of_reachable hs hz
      obtain ⟨hserver, htls⟩ := fields_of_prepare hport htup hprep
      have hlt := slot_lt hs hz
      refine ⟨hlt, fun p => ?_⟩
      rw [assigns_iff hrepo hsessions hlt, namesPort_congr hserver htls,
        slotPort_congr hserver htls]
    rintro z (rfl | rfl)
    · exact hone v z hx
    · exact hone w z hy
  have hx' := hcell x (.inl rfl)
  have hy' := hcell y (.inr rfl)
  constructor
  · intro h
    -- ports apart: in particular those that are named
    refine ⟨?_, ?_, ?_, ?_⟩
    · intro z p hz hnames
      exact h.valid z p hz (((hcell z hz).2 p).mpr (.inl hnames))
    · intro z p hz hnames hgrpc
      exact h.free z p hz (((hcell z hz).2 p).mpr (.inl hnames))
        ((listensOn_iff hrepo hsessions).mpr hgrpc)
    · intro p hnx hny
      exact h.apart p p ((hx'.2 p).mpr (.inl hnx)) ((hy'.2 p).mpr (.inl hny)) rfl
    · rintro z z' p (⟨rfl, rfl⟩ | ⟨rfl, rfl⟩) hnames hslot
      · exact h.apart p p ((hx'.2 p).mpr (.inl hnames)) ((hy'.2 p).mpr (.inr hslot)) rfl
      · exact h.apart p p ((hx'.2 p).mpr (.inr hslot)) ((hy'.2 p).mpr (.inl hnames)) rfl
  · intro h
    -- ports of the slots fit by themselves, so that only the named ones are to be looked at
    refine ⟨?_, ?_, ?_, ?_⟩
    · intro z p hz hassigns
      rcases ((hcell z hz).2 p).mp hassigns with hnames | hslot
      · exact h.valid z p hz hnames
      · -- with at most 32 slots all ports are valid
        exact (validPort_of_slotPort hrepo ((hcell z hz).1.trans_le hle) hslot).1
    · intro z p hz hassigns hlistens
      have hgrpc := (listensOn_iff hrepo hsessions).mp hlistens
      rcases ((hcell z hz).2 p).mp hassigns with hnames | hslot
      · exact h.free z p hz hnames hgrpc
      · -- the TLS ports of the slots lie above all gRPC ports
        have hlow := (validPort_of_grpcSlotPort hle hgrpc).2
        have hhigh := (validPort_of_slotPort hrepo ((hcell z hz).1.trans_le hle) hslot).2
        omega
    · intro g hlistens
      exact (validPort_of_grpcSlotPort hle ((listensOn_iff hrepo hsessions).mp hlistens)).1
    · rintro p q hxp hyq rfl
      -- a port is named or of a slot, on either side
      rcases (hx'.2 p).mp hxp with hnx | hsx <;> rcases (hy'.2 p).mp hyq with hny | hsy
      · exact h.named p hnx hny
      · exact h.slot x y p (.inl ⟨rfl, rfl⟩) hnx hsy
      · exact h.slot y x p (.inr ⟨rfl, rfl⟩) hny hsx
      · exact ne_of_slotPort hrepo hne hsx hsy rfl

/-! ### Two cells at once -/

/-- When the first two combinations are to be run, two workers may execute them at once. -/
theorem exists_two_executing {run : MatrixRun} {jobs : ℤ} (b : Behaviour)
    {v w : Fin (run.effectiveJobs jobs)} (hvw : v ≠ w) (hlen : 1 < run.combos.length)
    {tup tup' : List String} {cell cell' : Cell} {label label' : String}
    (htup : run.combos[0]? = some tup) (hprep : run.prepare tup = .ok (.run cell label))
    (htup' : run.combos[1]? = some tup') (hprep' : run.prepare tup' = .ok (.run cell' label')) :
    ∃ s, (run.pool jobs b).Reachable s ∧ (s.workers v).execution = some ⟨0, 0, cell⟩ ∧
      (s.workers w).execution = some ⟨1, 1, cell'⟩ := by
  have hn : 1 < run.effectiveJobs jobs := by
    have hne : v.val ≠ w.val := fun h => hvw (Fin.ext h)
    have hv := v.isLt
    have hw := w.isLt
    omega
  obtain ⟨rest, hslots⟩ : ∃ rest, List.range (run.effectiveJobs jobs) = 0 :: 1 :: rest := by
    obtain ⟨m, hm⟩ : ∃ m, run.effectiveJobs jobs = m + 2 := Nat.exists_eq_add_of_le' hn
    rw [hm, List.range_succ_eq_map, List.range_succ_eq_map]
    exact ⟨_, rfl⟩
  have hmain : (run.pool jobs b).init.main = .submitting 0 :=
    if_neg (Nat.ne_of_gt (Nat.zero_lt_of_lt hn))
  -- both combinations are submitted
  have h₁ := (System.reachable_init (S := run.pool jobs b)).step
    (.main (.submit hmain (Nat.zero_lt_of_lt hlen)))
  have h₂ := h₁.step (.main (.submit rfl hlen))
  -- the first worker takes the first one, and then the second worker the second one
  have h₃ := h₂.step (.worker v (.take rfl rfl))
  have h₄ := h₃.step (.worker v (.prepareRun (Function.update_self ..) htup hprep))
  have h₅ := h₄.step (.worker v (.borrow 0 (Function.update_self ..) hslots))
  have hidle : ∀ p q r : Phase, Function.update (Function.update (Function.update
      (fun _ : Fin (run.effectiveJobs jobs) => Phase.idle) v p) v q) v r w = .idle := by
    intro p q r
    rw [Function.update_of_ne hvw.symm, Function.update_of_ne hvw.symm,
      Function.update_of_ne hvw.symm]
  have h₆ := h₅.step (.worker w (.take (hidle _ _ _) rfl))
  have h₇ := h₆.step (.worker w (.prepareRun (Function.update_self ..) htup' hprep'))
  have h₈ := h₇.step (.worker w (.borrow 0 (Function.update_self ..) rfl))
  refine ⟨_, h₈, ?_, ?_⟩
  · dsimp only
    rw [Function.update_of_ne hvw, Function.update_of_ne hvw, Function.update_of_ne hvw,
      Function.update_self]
    rfl
  · dsimp only
    rw [Function.update_self]
    rfl

/-- A case that names a port. -/
def portCase : SuiteCase :=
  [(.str "server", .str "openssl"), (.str "client", .str "openssl"), (.str "tls_version", .str "1.3"),
    (.str "tls_port", .str "4433")]

/-- A suite with that case twice. -/
def samePortSuite : SuiteFile where
  matrix := some []
  cases := .list [some portCase, some portCase]

/-- `--suite suite.yaml --jobs 2`. -/
def samePortOptions : Args where
  attrs := (defaultArgs.attrs.set "suite" (.str "suite.yaml")).set "jobs" (.int 2)
  suiteCases := none

/-- The tuple of the case. -/
def portTuple : List String := ["openssl", "openssl", "", "", "", "", "1.3", "4433"]

/-- The run of the suite. -/
def samePortRun : MatrixRun where
  repo := shippedRepo "/repo" noCerts
  axisKeys := ["server", "client", "alpn", "cipher_suite", "signature_schemes",
    "supported_groups", "tls_version", "tls_port"].map .str
  args := { samePortOptions with suiteCases := some [portCase, portCase] }
  combos := [portTuple, portTuple]

/-- The cell of the case. -/
def portCell : Cell :=
  [(.str "server", "openssl"), (.str "client", "openssl"), (.str "alpn", ""),
    (.str "cipher_suite", ""), (.str "signature_schemes", ""), (.str "supported_groups", ""),
    (.str "tls_version", "1.3"), (.str "tls_port", "4433"), (.str "test_features", "")]

/-- The sessions of its two slots. -/
def samePortSessions : List WrapperSession :=
  [shippedSlotSession ["openssl"] 0, shippedSlotSession ["openssl"] 1]

/-- The command line accepts the suite, and this is the run it gives. -/
theorem samePortRun_accepted :
    applySuiteFile samePortOptions "suite.yaml" samePortSuite = .ok samePortRun.args ∧
      validateCliArguments (some 8) samePortRun.args = .ok samePortRun.args ∧
      validateRunArgs samePortRun.args = .ok () ∧
      buildMatrixCombos samePortRun.repo samePortRun.args ["gnutls", "nss", "openssl"]
        = .ok (samePortRun.axisKeys, samePortRun.combos) := by
  refine ⟨rfl, rfl, rfl, ?_⟩
  have hopts : ∀ o ∈ axisOptionIds, ∃ vals,
      getDimensionMatrixValues o (optionChoiceTokens shippedCapsCache o) samePortRun.args
        (sortedSet (["openssl"] ++ ["openssl"])) shippedCapsCache
        (tlsModeFilterFromArgs samePortRun.args) = .ok vals := by
    have hblank : ∀ o ∈ axisOptionIds, strip (samePortRun.args.getattrText o) = "" := by decide
    exact fun o ho => getDimensionMatrixValues_of_blank (hblank o ho) _ _ _ _
  have hcatalog : capsCache (shippedRepo "/repo" noCerts)
      (shippedRepo "/repo" noCerts).discoverWrapperIds = .ok shippedCapsCache := by
    rw [discoverWrapperIds_shippedRepo]
    exact capsCache_shippedRepo
  obtain ⟨vals, hplan⟩ : ∃ vals, matrixAxisPlan (shippedRepo "/repo" noCerts) samePortRun.args
      ["gnutls", "nss", "openssl"] = .ok (["server", "client"] ++ axisOptionIds, vals) :=
    matrixAxisPlan_eq_ok capsCache_shippedRepo hcatalog (by decide) (by decide) hopts
  exact buildMatrixCombos_eq_ok hplan rfl (List.cons_ne_nil _ _) (by decide) (by decide)

theorem prepare_portTuple :
    samePortRun.prepare portTuple
      = .ok (.run portCell "openssl x openssl | 1.3 / - / - / - / -") := by
  have hcell : samePortRun.normalizedCell portTuple = .ok portCell := by decide
  have hlabel : cellSummaryLabel portCell = .ok "openssl x openssl | 1.3 / - / - / - / -" := by
    decide
  have hskip : cellCapabilitySkipReason samePortRun.repo portCell = none := by decide
  refine bind_eq_ok.mpr ⟨_, hcell, bind_eq_ok.mpr ⟨_, hlabel, ?_⟩⟩
  rw [hskip]
  rfl

theorem samePortRun_parallel :
    samePortRun.requiredBackends ["gnutls", "nss", "openssl"] = .ok ["openssl"] ∧
      RunsParallel 2 ["openssl"] ∧
      samePortRun.slotSessions ["openssl"] 2 = .ok samePortSessions := by
  have hneeded : samePortRun.neededBackends ["gnutls", "nss", "openssl"] portTuple
      = .ok ["openssl", "openssl"] := by
    have hcell : samePortRun.normalizedCell portTuple = .ok portCell := by decide
    have hskip : cellCapabilitySkipReason samePortRun.repo portCell = none := by decide
    refine bind_eq_ok.mpr ⟨_, hcell, ?_⟩
    rw [hskip]
    decide
  refine ⟨?_, ⟨by decide, List.cons_ne_nil _ _⟩, ?_⟩
  · have hall : samePortRun.combos.mapM
        (samePortRun.neededBackends ["gnutls", "nss", "openssl"])
          = .ok [["openssl", "openssl"], ["openssl", "openssl"]] :=
      mapM_eq_ok.mpr (.cons hneeded (.cons hneeded .nil))
    refine bind_eq_ok.mpr ⟨_, hall, ?_⟩
    decide
  · have hslot : ∀ slot, slotSession samePortRun.repo ["openssl"] slot
        = .ok (shippedSlotSession ["openssl"] slot) := by
      intro slot
      have hknown : ∀ name ∈ ["openssl"], ∃ base, (name, base) ∈ grpcBases :=
        fun name hname => ⟨15051, by rw [List.mem_singleton.mp hname]; decide⟩
      unfold slotSession
      dsimp only
      rw [if_neg (by decide)]
      exact bind_eq_ok.mpr ⟨_, workerSlotGrpcOverrides_shipped hknown, rfl⟩
    exact mapM_eq_ok.mpr (.cons (hslot 0) (.cons (hslot 1) .nil))

/-- The two workers of the run may execute both cells at once. -/
theorem samePortRun_executing :
    ∃ s, (samePortRun.pool 2 allPass).Reachable s ∧ ∃ v w, v ≠ w ∧
      (s.workers v).execution = some ⟨0, 0, portCell⟩ ∧
      (s.workers w).execution = some ⟨1, 1, portCell⟩ := by
  have hvw : (⟨0, by decide⟩ : Fin (samePortRun.effectiveJobs 2)) ≠ ⟨1, by decide⟩ :=
    fun h => Nat.zero_ne_one (congrArg Fin.val h)
  obtain ⟨s, hs, hx, hy⟩ := exists_two_executing allPass hvw (by decide) rfl prepare_portTuple rfl
    prepare_portTuple
  exact ⟨s, hs, _, _, hvw, hx, hy⟩

/-- Both cells of the run are given the port that their case names. -/
theorem named_port_shared :
    ¬ ∀ s, (samePortRun.pool 2 allPass).Reachable s → ∀ v w, v ≠ w → ∀ x y,
      (s.workers v).execution = some x → (s.workers w).execution = some y →
      PortsApart samePortRun.repo samePortSessions x y := by
  intro h
  obtain ⟨s, hs, v, w, hvw, hx, hy⟩ := samePortRun_executing
  have hapart := h s hs v w hvw _ _ hx hy
  have hsessions := samePortRun_parallel.2.2
  have hload : samePortRun.repo.loadBackendCapabilities
      (lower (strip (portCell.field "server"))) = .ok opensslCapabilities :=
    shippedRepo_load.mpr (.inr (.inr ⟨by decide, rfl⟩))
  have hnames : NamesPort samePortRun.repo portCell 4433 :=
    ⟨⟨_, bind_eq_ok.mpr ⟨_, hload, rfl⟩⟩, by decide, by decide⟩
  have hfirst := (assigns_iff rfl hsessions (x := ⟨0, 0, portCell⟩) (by decide)).mpr (.inl hnames)
  have hsecond := (assigns_iff rfl hsessions (x := ⟨1, 1, portCell⟩) (by decide)).mpr (.inl hnames)
  exact hapart.apart 4433 4433 hfirst hsecond rfl

/-- The ports of these two cells are apart exactly when those they name fit. -/
theorem portsApart_iff_same_port :
    ∃ s, (samePortRun.pool 2 allPass).Reachable s ∧ ∃ v w, v ≠ w ∧ ∃ x y,
      (s.workers v).execution = some x ∧ (s.workers w).execution = some y ∧ x.slot ≠ y.slot ∧
      (PortsApart samePortRun.repo samePortSessions x y ↔
        NamedPortsFit samePortRun ["openssl"] (samePortRun.effectiveJobs 2) x y) := by
  obtain ⟨s, hs, v, w, hvw, hx, hy⟩ := samePortRun_executing
  obtain ⟨-, hparallel, hsessions⟩ := samePortRun_parallel
  exact ⟨s, hs, v, w, hvw, _, _, hx, hy,
    portsApart_iff rfl samePortRun_accepted.2.1 rfl hparallel hsessions allPass s hs v w hvw _ _ hx
      hy⟩

end TlsInterop
