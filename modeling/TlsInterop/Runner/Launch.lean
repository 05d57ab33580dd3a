import TlsInterop.Core.AllAlgebra
import TlsInterop.Effects.Resources
import TlsInterop.Effects.Script
import TlsInterop.Py.Lowercase
import TlsInterop.Runner.Sessions

/-!
# What a wrapper process is told

The environment that a session starts its wrappers with: the port to listen at, the
slot, and what the hooks of the backends add.  A wrapper listens at the port it is
told; the driver dials the address of the session.  A session asks whether the ports of
all its wrappers are free before it starts the first of them.

## Main definitions

* `NSS.orchestrationEnv`, `NSS.localWrapperEnv` — the hooks, which only NSS has.
* `sessionWrapperEnv` — what the hooks give a wrapper.
* `toldEnv`, `servePort` — the environment of a wrapper, and the port it listens at.
* `HooksAnswered` — the hooks are answered as they are written.
* `PortsTold` — what a run tells its wrappers about their ports.

## Main results

* `sessionWrapperEnv_eq` — the hooks in one line.
* `exec_startOneWrapper` — everything a start of one wrapper can do.
* `ports_told` — every wrapper is told a free port of its own, which the driver dials.
-/

namespace TlsInterop

open Py Effects

/-! ### Hooks -/

namespace NSS

/-- `orchestration_env`. -/
def orchestrationEnv (activeBackends : List String) : Dict String String :=
  if "gnutls" ∈ activeBackends ∧ "nss" ∈ activeBackends then [("INTEROP_GNUTLS_NSS_PAIR", "true")]
  else []

/-- `local_wrapper_env`. -/
def localWrapperEnv (repo : Repo) (backendId : String) (slotId : Option ℕ) : Dict String String :=
  let dbId := match slotId with
    | some slot => "nss_slot" ++ toString slot
    | none => backendId
  [("NSSDB", repo.root ++ "/wrappers/nss/nssdb/" ++ dbId)]

end NSS

/-- `wrapper_orchestration_env`: of the wrapper modules only that of NSS has the hook. -/
def wrapperOrchestrationEnv (backendName : String) (activeBackends : List String) :
    Dict String String :=
  if lower (strip backendName) = "nss" then NSS.orchestrationEnv activeBackends else []

/-- `wrapper_local_env`: of the wrapper modules only that of NSS has the hook. -/
def wrapperLocalEnv (backendName : String) (repo : Repo) (slotId : Option ℕ) :
    Dict String String :=
  if lower (strip backendName) = "nss" then NSS.localWrapperEnv repo backendName slotId else []

/-- The set of active backends, in order. -/
def activeSet (activeBackends : List String) : List String :=
  sortedSet ((activeBackends.filter fun b => strip b ≠ "").map fun b => lower (strip b))

/-- `env.update(other)`. -/
def updateEnv (env other : Dict String String) : Dict String String :=
  other.foldl (fun env e => env.set e.1 e.2) env

/-- `merged_orchestration_env`. -/
def mergedOrchestrationEnv (activeBackends : List String) : Dict String String :=
  let active := activeSet activeBackends
  active.foldl (fun merged backend => updateEnv merged (wrapperOrchestrationEnv backend active)) []

/-- `session_wrapper_env`. -/
def sessionWrapperEnv (backendName : String) (repo : Repo) (activeBackends : List String)
    (slotId : Option ℕ) : Dict String String :=
  updateEnv (mergedOrchestrationEnv (activeSet activeBackends))
    (wrapperLocalEnv backendName repo slotId)

/-- The environment of a wrapper that is told the port, with what its hooks gave. -/
def toldEnv (host : RunHost) (session : WrapperSession) (backend : String) (port : ℤ)
    (own : Dict String String) : Dict String String :=
  let env := (host.environ.set "GRPC_PORT" (toString port)).set "WRAPPER" backend
  let env := match session.slotId with
    | some slot => env.set "INTEROP_SLOT_ID" (toString slot)
    | none => env
  (updateEnv env own).filter fun e => e.1 ≠ "PYTHONPATH"

/-- The port of `serve_insecure`. -/
def servePort (env : Dict String String) : Except PyExc ℤ :=
  intOfText ((env.get? "GRPC_PORT").getD "50051")

/-! ### The hooks in one line -/

section

variable {repo : Repo} {env other : Dict String String} {k : String}

/-- An update leaves the keys it does not have. -/
theorem updateEnv_get?_of_none (h : other.get? k = none) : (updateEnv env other).get? k = env.get? k := by
  unfold updateEnv
  induction other generalizing env with
  | nil => rfl
  | cons e other ih =>
    rw [Dict.get?_cons] at h
    split at h
    · cases h
    next hne =>
    rw [List.foldl_cons, ih h, Dict.get?_set, if_neg hne]

theorem filter_get? {p : String → Bool} (env : Dict String String) (hk : p k = true) :
    Dict.get? (env.filter fun e => p e.1) k = env.get? k := by
  induction env with
  | nil => rfl
  | cons e env ih =>
    rw [List.filter_cons, Dict.get?_cons]
    by_cases hp : p e.1 = true
    · rw [if_pos hp, Dict.get?_cons, ih]
    · have hne : e.1 ≠ k := fun heq => hp (heq ▸ hk)
      rw [if_neg hp, if_neg hne, ih]

/-- The hook of one backend, asked for each of a list. -/
theorem foldl_orchestrationEnv (active l : List String) :
    l.foldl (fun merged backend => updateEnv merged (wrapperOrchestrationEnv backend active)) []
      = if ∃ b ∈ l, lower (strip b) = "nss" then NSS.orchestrationEnv active else [] := by
  -- merging the environment of NSS twice changes nothing
  have htwice : ∀ d : Dict String String, d = [] ∨ d = NSS.orchestrationEnv active →
      updateEnv d (NSS.orchestrationEnv active) = NSS.orchestrationEnv active := by
    unfold NSS.orchestrationEnv
    split
    · rintro d (rfl | rfl) <;> rfl
    · rintro d (rfl | rfl) <;> rfl
  -- from the end: the last backend is merged into the rest
  induction l using List.reverseRecOn with
  | nil => rfl
  | append_singleton l b ih =>
    rw [List.foldl_append, ih, List.foldl_cons, List.foldl_nil, wrapperOrchestrationEnv]
    by_cases hb : lower (strip b) = "nss"
    · have hmem : ∃ b' ∈ l ++ [b], lower (strip b') = "nss" := ⟨b, by simp, hb⟩
      rw [if_pos hb, if_pos hmem]
      refine htwice _ ?_
      split
      · exact .inr rfl
      · exact .inl rfl
    · have hsame : (∃ b' ∈ l ++ [b], lower (strip b') = "nss") ↔
          ∃ b' ∈ l, lower (strip b') = "nss" := by
        constructor
        · rintro ⟨b', hb', hnss⟩
          rcases List.mem_append.mp hb' with hb' | hb'
          · exact ⟨b', hb', hnss⟩
          · rw [List.mem_singleton.mp hb'] at hnss
            exact absurd hnss hb
        · rintro ⟨b', hb', hnss⟩
          exact ⟨b', List.mem_append_left _ hb', hnss⟩
      rw [if_neg hb]
      simp only [hsame]
      rfl

theorem mem_activeSet {l : List String} {x : String} :
    x ∈ activeSet l ↔ ∃ b ∈ l, strip b ≠ "" ∧ lower (strip b) = x := by
  unfold activeSet
  simp [and_assoc]

/-- The active backends are in normal form. -/
theorem lower_strip_of_mem_activeSet {l : List String} {x : String} (h : x ∈ activeSet l) :
    lower (strip x) = x := by
  obtain ⟨b, -, -, hb⟩ := mem_activeSet.mp h
  rw [← hb]
  exact lower_strip_lower_strip b

/-- Taking the active backends twice changes nothing. -/
theorem mem_activeSet_activeSet {l : List String} {x : String} (hx : strip x ≠ "") :
    x ∈ activeSet (activeSet l) ↔ x ∈ activeSet l := by
  constructor
  · intro h
    obtain ⟨b, hb, -, hbx⟩ := mem_activeSet.mp h
    rw [lower_strip_of_mem_activeSet hb] at hbx
    exact hbx ▸ hb
  · exact fun h => mem_activeSet.mpr ⟨x, h, hx, lower_strip_of_mem_activeSet h⟩

/-- **What the hooks give**: the pair of GnuTLS and NSS is noted for every wrapper, and the
wrapper of NSS gets its database. -/
theorem sessionWrapperEnv_eq (backend : String) (repo : Repo) (l : List String)
    (slotId : Option ℕ) :
    sessionWrapperEnv backend repo l slotId
      = (if "gnutls" ∈ activeSet l ∧ "nss" ∈ activeSet l then [("INTEROP_GNUTLS_NSS_PAIR", "true")]
        else []) ++ wrapperLocalEnv backend repo slotId := by
  have hmem : ∀ name, strip name ≠ "" → (name ∈ activeSet (activeSet l) ↔ name ∈ activeSet l) :=
    fun name hname => mem_activeSet_activeSet hname
  have hnss : (∃ b ∈ activeSet (activeSet l), lower (strip b) = "nss") ↔ "nss" ∈ activeSet l := by
    constructor
    · rintro ⟨b, hb, hnss⟩
      rw [lower_strip_of_mem_activeSet hb] at hnss
      rw [hnss] at hb
      exact (hmem _ (by decide)).mp hb
    · exact fun h => ⟨"nss", (hmem _ (by decide)).mpr h, by decide⟩
  have hmerged : mergedOrchestrationEnv (activeSet l)
      = if "gnutls" ∈ activeSet l ∧ "nss" ∈ activeSet l then [("INTEROP_GNUTLS_NSS_PAIR", "true")]
        else [] := by
    unfold mergedOrchestrationEnv
    dsimp only
    rw [foldl_orchestrationEnv, NSS.orchestrationEnv]
    simp only [hnss, hmem "gnutls" (by decide), hmem "nss" (by decide)]
    by_cases h : "nss" ∈ activeSet l
    · rw [if_pos h]
    · rw [if_neg h, if_neg fun hboth => h hboth.2]
  unfold sessionWrapperEnv
  rw [hmerged]
  unfold wrapperLocalEnv NSS.localWrapperEnv
  split <;> split <;> rfl

end

/-! ### The environment of a wrapper -/

section

variable {host : RunHost} {repo : Repo} {session : WrapperSession} {backend : String}

/-- A wrapper listens at the port it is told. -/
theorem servePort_toldEnv {n : ℕ} (hn : n < 10 ^ maxStrDigits) {own : Dict String String}
    (hown : own.get? "GRPC_PORT" = none) :
    servePort (toldEnv host session backend n own) = .ok (n : ℤ) := by
  have hset : (toldEnv host session backend n own).get? "GRPC_PORT" = some (toString (n : ℤ)) := by
    unfold toldEnv
    dsimp only
    rw [filter_get? (p := fun k => decide (k ≠ "PYTHONPATH")) _ (by decide),
      updateEnv_get?_of_none hown]
    cases session.slotId <;> simp
  unfold servePort
  rw [hset, Option.getD_some, intOfText, parseInt_toString hn]
  rfl

/-- The hooks say nothing about the port. -/
theorem sessionWrapperEnv_port (backend : String) (repo : Repo) (l : List String)
    (slotId : Option ℕ) : (sessionWrapperEnv backend repo l slotId).get? "GRPC_PORT" = none := by
  rw [sessionWrapperEnv_eq]
  unfold wrapperLocalEnv NSS.localWrapperEnv
  split <;> split <;> simp [Dict.get?]

/-! ### Calls that start no process -/

/-- The process a call asks, reads, signals or waits for. -/
def SessionCall.subject : SessionCall → Option WrapperProc
  | poll proc => some proc
  | readOutput proc => some proc
  | killpg proc _ => some proc
  | signal proc _ => some proc
  | wait proc => some proc
  | _ => none

/-- The call starts a process. -/
def SessionCall.spawns : SessionCall → Bool
  | popen .. => true
  | _ => false

/-- No process is started, only given ones are touched, and none is forgotten. -/
def quietly (X : WrapperProc → Prop) : Eff.Frame SessionAns SessionProcs where
  holds procs tr procs' := procs' = procs ∧
    ∀ e ∈ tr, e.1.spawns = false ∧ ∀ proc, e.1.subject = some proc → X proc
  refl _ := ⟨rfl, fun _ he => absurd he List.not_mem_nil⟩
  trans h h' := ⟨h'.1.trans h.1, fun e he => (List.mem_append.mp he).elim (h.2 e) (h'.2 e)⟩

variable {X : WrapperProc → Prop}

theorem quietly_single {q : SessionCall} (hspawns : q.spawns = false)
    (hsubject : ∀ proc, q.subject = some proc → X proc) (procs : SessionProcs)
    (ans : SessionAns q) : (quietly X).holds procs [⟨q, ans⟩] procs := by
  refine ⟨rfl, fun e he => ?_⟩
  rw [List.mem_singleton.mp he]
  exact ⟨hspawns, hsubject⟩

theorem processOutput_quietly {proc : WrapperProc} (hproc : X proc) :
    Eff.Within (quietly X) (WrapperSession.processOutput host proc) :=
  .ite (.call (quietly_single rfl fun _ h => Option.some.inj h ▸ hproc)) (.pure _)

theorem wrapperCrashReport_quietly {entries : List (String × WrapperProc)}
    (hentries : ∀ e ∈ entries, X e.2) :
    Eff.Within (quietly X) (WrapperSession.wrapperCrashReport host entries) := by
  induction entries with
  | nil => exact .pure _
  | cons entry rest ih =>
    have hentry := hentries entry List.mem_cons_self
    have hrest := ih fun e he => hentries e (List.mem_cons_of_mem _ he)
    refine .bind (.call (quietly_single rfl fun _ h => Option.some.inj h ▸ hentry)) fun code => ?_
    cases code with
    | none => exact hrest
    | some code => exact .bind (processOutput_quietly hentry) fun _ => .bind hrest fun _ => .pure _

/-- The processes that are held are asked whether they have crashed. -/
theorem raiseIfWrappersCrashed_quietly {procs procs' : SessionProcs}
    {tr : List (Event SessionAns)} {r : Except PyExc Unit}
    (h : (session.raiseIfWrappersCrashed host).Exec procs tr r procs') :
    (quietly (· ∈ procs session.slot)).holds procs tr procs' := by
  unfold WrapperSession.raiseIfWrappersCrashed at h
  rw [Eff.exec_getState_bind] at h
  have hreport : ∀ e ∈ session.backends.zip (procs session.slot), e.2 ∈ procs session.slot :=
    fun e he => (List.of_mem_zip he).2
  exact (Eff.Within.bind (wrapperCrashReport_quietly hreport) fun _ => .ite (.throw _) (.pure _)) h

theorem probePending_quietly (addrs : List String) :
    Eff.Within (quietly X) (WrapperSession.probePending addrs) := by
  induction addrs with
  | nil => exact .pure _
  | cons addr rest ih =>
    exact .bind (.call (quietly_single rfl nofun)) fun _ => .bind ih fun _ => .pure _

/-- A program whose runs look at the processes held, and leave them. -/
def OnlyLooks {α : Type} (session : WrapperSession) (m : SessionM α) : Prop :=
  ∀ ⦃procs tr r procs'⦄, m.Exec procs tr r procs' →
    (quietly (· ∈ procs session.slot)).holds procs tr procs'

theorem OnlyLooks.of_quietly {α : Type} {m : SessionM α}
    (h : Eff.Within (quietly fun _ => False) m) : OnlyLooks session m := by
  intro procs tr r procs' hexec
  obtain ⟨hprocs, hevents⟩ := h hexec
  exact ⟨hprocs, fun e he => ⟨(hevents e he).1, fun proc hproc => ((hevents e he).2 proc hproc).elim⟩⟩

theorem OnlyLooks.bind {α β : Type} {m : SessionM α} {f : α → SessionM β} (hm : OnlyLooks session m)
    (hf : ∀ a, OnlyLooks session (f a)) : OnlyLooks session (m >>= f) := by
  intro procs tr r procs' h
  rcases Eff.exec_bind.mp h with ⟨e, -, h₁⟩ | ⟨a, procs₁, tr₁, tr₂, rfl, h₁, h₂⟩
  · exact hm h₁
  · have hfirst := hm h₁
    obtain rfl : procs₁ = procs := hfirst.1
    exact (quietly _).trans hfirst (hf a h₂)

theorem OnlyLooks.ite {α : Type} {c : Prop} [Decidable c] {m m' : SessionM α} (hm : OnlyLooks session m)
    (hm' : OnlyLooks session m') : OnlyLooks session (if c then m else m') := by
  split
  · exact hm
  · exact hm'

theorem readyRounds_looks (rounds : ℕ) (pending : List String) :
    OnlyLooks session (session.readyRounds host rounds pending) := by
  induction rounds generalizing pending with
  | zero => exact .of_quietly (.pure _)
  | succ rounds ih =>
    exact .ite (.of_quietly (.pure _)) <| .bind (fun _ _ _ _ => raiseIfWrappersCrashed_quietly)
      fun _ => .bind (.of_quietly (probePending_quietly _)) fun _ => ih _

theorem waitGrpcReady_looks : OnlyLooks session (session.waitGrpcReady host repo) := by
  refine .bind (.of_quietly (.ofExcept _)) fun _ => .ite (.of_quietly (.pure _)) ?_
  refine .bind (.of_quietly (.call (quietly_single rfl nofun))) fun _ => ?_
  refine .bind (readyRounds_looks ..) fun _ => .ite (.of_quietly (.pure _)) ?_
  exact .bind (fun _ _ _ _ => raiseIfWrappersCrashed_quietly) fun _ => .of_quietly (.throw _)

theorem loadMetadata_quietly (backends : List String) :
    Eff.Within (quietly X) (session.loadMetadata repo backends) := by
  induction backends with
  | nil => exact .pure _
  | cons backend rest ih =>
    exact .bind (.ofExcept _) fun _ => .bind (.invoke (quietly_single rfl nofun)) fun _ => ih

theorem assertGrpcPortsFree_quietly (backends : List String) :
    Eff.Within (quietly X) (session.assertGrpcPortsFree repo backends) := by
  induction backends with
  | nil => exact .pure _
  | cons backend rest ih =>
    exact .bind (.ofExcept _) fun _ => .bind (.ofExcept _) fun _ =>
      .bind (.invoke (quietly_single rfl nofun)) fun _ => .ite (.bind (.throw _) fun _ => ih) ih

/-- A check that goes through has found every port free. -/
theorem free_of_assertGrpcPortsFree {backends : List String} {procs procs' : SessionProcs}
    {tr : List (Event SessionAns)}
    (h : (session.assertGrpcPortsFree repo backends).Exec procs tr (.ok ()) procs') :
    ∀ backend ∈ backends, ∃ addr address, session.grpcAddr repo backend = .ok addr ∧
      grpcHostPort addr = .ok address ∧
      (⟨.portInUse address.1 address.2, .ok false⟩ : Event SessionAns) ∈ tr := by
  induction backends generalizing procs tr with
  | nil => exact fun _ h => absurd h List.not_mem_nil
  | cons first rest ih =>
    obtain ⟨addr, procs₁, tr₁, tr₂, rfl, hlook, h⟩ := Eff.exec_bind_ok.mp h
    obtain ⟨rfl, haddr, rfl⟩ := Eff.exec_ofExcept.mp hlook
    obtain ⟨address, procs₂, tr₃, tr₄, rfl, hparse, h⟩ := Eff.exec_bind_ok.mp h
    obtain ⟨rfl, haddress, rfl⟩ := Eff.exec_ofExcept.mp hparse
    obtain ⟨inUse, procs₃, tr₅, tr₆, rfl, hask, h⟩ := Eff.exec_bind_ok.mp h
    obtain ⟨ans, rfl, rfl, rfl⟩ := Eff.exec_invoke.mp hask
    cases inUse with
    | true =>
      have hraise := Eff.exec_throw_bind.mp h
      cases hraise.2.1
    | false =>
      intro backend hbackend
      rcases List.mem_cons.mp hbackend with rfl | hbackend
      · exact ⟨addr, address, haddr, haddress, List.mem_cons_self⟩
      · obtain ⟨addr', address', h₁, h₂, hmem⟩ := ih h backend hbackend
        exact ⟨addr', address', h₁, h₂, List.mem_cons_of_mem _ hmem⟩

/-! ### The start of one wrapper -/

/-- The environment of a wrapper: its address is looked up, and its hooks are asked. -/
theorem exec_wrapperEnv {procs procs' : SessionProcs} {tr : List (Event SessionAns)}
    {r : Except PyExc (Dict String String)}
    (h : (session.wrapperEnv host repo backend).Exec procs tr r procs') :
    procs' = procs ∧ ((∃ e, r = .error e ∧ ∀ ev ∈ tr, ev.1.spawns = false ∧ ev.1.subject = none) ∨
      ∃ addr address own, session.grpcAddr repo backend = .ok addr ∧
        grpcHostPort addr = .ok address ∧
        tr = [⟨.sessionWrapperEnv backend session.slotId, .ok own⟩] ∧
        r = .ok (toldEnv host session backend address.2 own)) := by
  have hnone : ∀ ev ∈ ([] : List (Event SessionAns)), ev.1.spawns = false ∧ ev.1.subject = none :=
    fun _ h => absurd h List.not_mem_nil
  rcases Eff.exec_bind.mp h with ⟨e, rfl, hraise⟩ | ⟨addr, procs₁, tr₁, tr₂, rfl, hlook, h⟩
  · obtain ⟨rfl, -, rfl⟩ := Eff.exec_ofExcept.mp hraise
    exact ⟨rfl, .inl ⟨e, rfl, hnone⟩⟩
  obtain ⟨rfl, haddr, rfl⟩ := Eff.exec_ofExcept.mp hlook
  rcases Eff.exec_bind.mp h with ⟨e, rfl, hraise⟩ | ⟨address, procs₂, tr₃, tr₄, rfl, hparse, h⟩
  · obtain ⟨rfl, -, rfl⟩ := Eff.exec_ofExcept.mp hraise
    exact ⟨rfl, .inl ⟨e, rfl, hnone⟩⟩
  obtain ⟨rfl, haddress, rfl⟩ := Eff.exec_ofExcept.mp hparse
  rcases Eff.exec_bind.mp h with ⟨e, rfl, hraise⟩ | ⟨own, procs₃, tr₅, tr₆, rfl, hask, h⟩
  · obtain ⟨ans, rfl, -, rfl⟩ := Eff.exec_invoke.mp hraise
    refine ⟨rfl, .inl ⟨e, rfl, fun ev hev => ?_⟩⟩
    rw [List.mem_singleton.mp hev]
    exact ⟨rfl, rfl⟩
  · obtain ⟨ans, rfl, rfl, rfl⟩ := Eff.exec_invoke.mp hask
    obtain ⟨rfl, rfl, rfl⟩ := Eff.exec_pure.mp h
    exact ⟨rfl, .inr ⟨addr, address, own, haddr, haddress, rfl, rfl⟩⟩

/-- What a start of one wrapper can do: fail before a process is there, or start one,
register it and look at it. -/
inductive StartsOne (host : RunHost) (repo : Repo) (session : WrapperSession) (backend : String)
    (procs : SessionProcs) : List (Event SessionAns) → Except PyExc Unit → SessionProcs → Prop
  | fails {tr : List (Event SessionAns)} {e : PyExc}
      (hquiet : ∀ ev ∈ tr, ev.1.spawns = false ∧ ev.1.subject = none) :
      StartsOne host repo session backend procs tr (.error e) procs
  | refused {addr : String} {address : String × ℤ} {own : Dict String String} {e : PyExc}
      (haddr : session.grpcAddr repo backend = .ok addr) (haddress : grpcHostPort addr = .ok address) :
      StartsOne host repo session backend procs
        [⟨.sessionWrapperEnv backend session.slotId, .ok own⟩,
          ⟨.popen backend (toldEnv host session backend address.2 own), .error e⟩] (.error e) procs
  | starts {addr : String} {address : String × ℤ} {own : Dict String String} {proc : WrapperProc}
      {tr : List (Event SessionAns)} {r : Except PyExc Unit}
      (haddr : session.grpcAddr repo backend = .ok addr) (haddress : grpcHostPort addr = .ok address)
      (hlooks : ∀ ev ∈ tr, ev.1.spawns = false ∧ ∀ proc', ev.1.subject = some proc' → proc' = proc) :
      StartsOne host repo session backend procs
        (⟨.sessionWrapperEnv backend session.slotId, .ok own⟩
          :: ⟨.popen backend (toldEnv host session backend address.2 own), .ok proc⟩ :: tr) r
        (Function.update procs session.slot (procs session.slot ++ [proc]))

/-- **Everything a start of one wrapper can do.** -/
theorem exec_startOneWrapper {procs procs' : SessionProcs} {tr : List (Event SessionAns)}
    {r : Except PyExc Unit}
    (h : (session.startOneWrapper host repo backend).Exec procs tr r procs') :
    StartsOne host repo session backend procs tr r procs' := by
  rcases Eff.exec_bind.mp h with ⟨e, rfl, hraise⟩ | ⟨env, procs₁, tr₁, tr₂, rfl, henv, hstart⟩
  · obtain ⟨rfl, ⟨_, -, hquiet⟩ | ⟨_, _, _, -, -, -, hok⟩⟩ := exec_wrapperEnv hraise
    · exact .fails hquiet
    · cases hok
  obtain ⟨rfl, ⟨_, hok, -⟩ | ⟨addr, address, own, haddr, haddress, rfl, hok⟩⟩ := exec_wrapperEnv henv
  · cases hok
  cases hok
  rcases Eff.exec_bind.mp hstart with ⟨e, rfl, hraise⟩ | ⟨proc, procs₂, tr₃, tr₄, rfl, hpopen, hrest⟩
  · obtain ⟨ans, rfl, hans, rfl⟩ := Eff.exec_invoke.mp hraise
    obtain rfl : ans = .error e := hans
    exact .refused haddr haddress
  obtain ⟨ans, rfl, hans, rfl⟩ := Eff.exec_invoke.mp hpopen
  obtain rfl : ans = .ok proc := hans
  rw [Eff.exec_modifyState_bind] at hrest
  -- from here on the process is only looked at
  obtain ⟨rfl, hlooks⟩ := Eff.Within.bind (F := quietly (· = proc))
    (by exact .call (quietly_single rfl fun _ h => (Option.some.inj h).symm)) (by
      rintro (_ | code)
      · exact .pure _
      · exact .bind (processOutput_quietly rfl) fun _ => .throw _) hrest
  exact .starts haddr haddress hlooks

end

/-! ### Wrappers are started after their ports were found free -/

section

variable (host : RunHost) (repo : Repo) (session : WrapperSession)

/-- What happened before a wrapper was started in a session: its port was found free, and its
hooks were asked for the environment it gets. -/
structure ReadyToStart (before : List (Event SessionAns)) (backend : String)
    (env : Dict String String) : Prop where
  listed : backend ∈ session.backends
  told : ∃ addr address own, session.grpcAddr repo backend = .ok addr ∧
    grpcHostPort addr = .ok address ∧
    (⟨.sessionWrapperEnv backend session.slotId, .ok own⟩ : Event SessionAns) ∈ before ∧
    env = toldEnv host session backend address.2 own
  free : ∃ addr address, session.grpcAddr repo backend = .ok addr ∧
    grpcHostPort addr = .ok address ∧
    (⟨.portInUse address.1 address.2, .ok false⟩ : Event SessionAns) ∈ before

end

/-- The event starts a wrapper for which some session is ready. -/
def StartsReady (host : RunHost) (repo : Repo) (sessions : List WrapperSession)
    (before : List (Event SessionAns)) (e : Event SessionAns) : Prop :=
  ∀ backend env ans, e = ⟨.popen backend env, ans⟩ →
    ∃ session ∈ sessions, ReadyToStart host repo session before backend env

theorem ReadyToStart.mono {host : RunHost} {repo : Repo} {session : WrapperSession}
    {before : List (Event SessionAns)} {backend : String} {env : Dict String String}
    (h : ReadyToStart host repo session before backend env) (tr : List (Event SessionAns)) :
    ReadyToStart host repo session (tr ++ before) backend env := by
  obtain ⟨addr, address, own, haddr, haddress, hown, henv⟩ := h.told
  obtain ⟨addr', address', haddr', haddress', hfree⟩ := h.free
  exact ⟨h.listed, ⟨addr, address, own, haddr, haddress, List.mem_append_right _ hown, henv⟩,
    ⟨addr', address', haddr', haddress', List.mem_append_right _ hfree⟩⟩

/-- Every wrapper is started when some session is ready for it. -/
def startsReady (host : RunHost) (repo : Repo) (sessions : List WrapperSession) :
    Eff.Frame SessionAns SessionProcs :=
  Eff.preceded (StartsReady host repo sessions) fun tr _ _ h backend env ans he =>
    (h backend env ans he).imp fun _ hs => ⟨hs.1, hs.2.mono tr⟩

section

variable {host : RunHost} {repo : Repo} {session : WrapperSession} {sessions : List WrapperSession}
  {procs procs' : SessionProcs} {tr : List (Event SessionAns)}

/-- A run that starts nothing. -/
theorem startsReady_of_quiet (h : ∀ e ∈ tr, e.1.spawns = false) :
    (startsReady host repo sessions).holds procs tr procs' := by
  rintro tr₁ e tr₂ rfl backend env ans rfl
  cases h _ (List.mem_append_right _ List.mem_cons_self)

/-- The wrappers of a session are started one after another, with what was asked before. -/
theorem told_of_startWrappers {backends : List String} {r : Except PyExc Unit}
    (h : (session.startWrappers host repo backends).Exec procs tr r procs') :
    ∀ tr₁ backend env ans tr₂, tr = tr₁ ++ ⟨.popen backend env, ans⟩ :: tr₂ →
      backend ∈ backends ∧ ∃ addr address own, session.grpcAddr repo backend = .ok addr ∧
        grpcHostPort addr = .ok address ∧
        (⟨.sessionWrapperEnv backend session.slotId, .ok own⟩ : Event SessionAns) ∈ tr₁ ∧
        env = toldEnv host session backend address.2 own := by
  induction backends generalizing procs tr with
  | nil =>
    obtain ⟨rfl, -, -⟩ := Eff.exec_pure.mp h
    intro tr₁ backend env ans tr₂ htr
    cases tr₁ <;> cases htr
  | cons first rest ih =>
    -- the start of one wrapper asks for its variables just before it starts the process
    have hfirst : ∀ {tr r procs'}, (session.startOneWrapper host repo first).Exec procs tr r procs' →
        ∀ tr₁ backend env ans tr₂, tr = tr₁ ++ ⟨.popen backend env, ans⟩ :: tr₂ →
          backend = first ∧ ∃ addr address own, session.grpcAddr repo backend = .ok addr ∧
            grpcHostPort addr = .ok address ∧
            (⟨.sessionWrapperEnv backend session.slotId, .ok own⟩ : Event SessionAns) ∈ tr₁ ∧
            env = toldEnv host session backend address.2 own := by
      intro tr r procs' hone tr₁ backend env ans tr₂ htr
      cases exec_startOneWrapper hone with
      | fails hquiet =>
        subst htr
        cases (hquiet _ (List.mem_append_right _ List.mem_cons_self)).1
      | refused haddr haddress =>
        rcases tr₁ with _ | ⟨e₁, _ | ⟨e₂, tr₁⟩⟩
        · cases htr
        · cases htr
          exact ⟨rfl, _, _, _, haddr, haddress, List.mem_cons_self, rfl⟩
        · obtain ⟨-, htr⟩ := List.cons.inj htr
          obtain ⟨-, htr⟩ := List.cons.inj htr
          cases tr₁ <;> cases htr
      | starts haddr haddress hlooks =>
        rcases tr₁ with _ | ⟨e₁, _ | ⟨e₂, tr₁⟩⟩
        · cases htr
        · cases htr
          exact ⟨rfl, _, _, _, haddr, haddress, List.mem_cons_self, rfl⟩
        · obtain ⟨-, htr⟩ := List.cons.inj htr
          obtain ⟨-, rfl⟩ := List.cons.inj htr
          cases (hlooks _ (List.mem_append_right _ List.mem_cons_self)).1
    intro tr₁ backend env ans tr₂ htr
    -- the process is started by the first wrapper or by the rest
    rcases Eff.exec_bind.mp h with ⟨e, -, hraise⟩ | ⟨⟨⟩, procs₁, tr₃, tr₄, rfl, hone, hrest⟩
    · obtain ⟨rfl, htold⟩ := hfirst hraise tr₁ backend env ans tr₂ htr
      exact ⟨List.mem_cons_self, htold⟩
    · rcases append_eq_append_cons_iff.mp htr with ⟨mid, rfl, -⟩ | ⟨mid, rfl, rfl⟩
      · obtain ⟨rfl, htold⟩ := hfirst hone tr₁ backend env ans mid rfl
        exact ⟨List.mem_cons_self, htold⟩
      · obtain ⟨hmem, addr, address, own, haddr, haddress, hown, henv⟩ :=
          ih hrest mid backend env ans tr₂ rfl
        exact ⟨List.mem_cons_of_mem _ hmem, addr, address, own, haddr, haddress,
          List.mem_append_right _ hown, henv⟩

/-- **A session starts its wrappers after it has found all their ports free.** -/
theorem spawnWrappers_ready (hmem : session ∈ sessions) :
    Eff.Within (startsReady host repo sessions) (session.spawnWrappers host repo) := by
  have hquiet : ∀ {α : Type} {m : SessionM α}, Eff.Within (quietly fun _ => False) m →
      Eff.Within (startsReady host repo sessions) m :=
    fun hm _ _ _ _ hexec => startsReady_of_quiet fun e he => ((hm hexec).2 e he).1
  refine .ite (.pure _) (.ite (.bind (.ofExcept _) fun _ => .pure _) ?_)
  refine .bind (hquiet (.invoke (quietly_single rfl nofun))) fun _ =>
    .bind (hquiet (.invoke (quietly_single rfl nofun))) fun missing => ?_
  have hrest : Eff.Within (startsReady host repo sessions) (do
      session.assertGrpcPortsFree repo session.backends
      session.startWrappers host repo session.backends) := by
    intro procs tr r procs' h
    rcases Eff.exec_bind.mp h with ⟨e, -, hraise⟩ | ⟨⟨⟩, procs₁, tr₁, tr₂, rfl, hfree, hstart⟩
    · exact hquiet (assertGrpcPortsFree_quietly _) hraise
    · have hasked := free_of_assertGrpcPortsFree hfree
      have hnone := ((assertGrpcPortsFree_quietly (X := fun _ => False) _) hfree).2
      rintro before e after htr backend env ans rfl
      rcases append_eq_append_cons_iff.mp htr with ⟨mid, rfl, -⟩ | ⟨mid, rfl, rfl⟩
      · cases (hnone _ (List.mem_append_right _ List.mem_cons_self)).1
      · obtain ⟨hlisted, addr, address, own, haddr, haddress, hown, henv⟩ :=
          told_of_startWrappers hstart mid backend env ans after rfl
        obtain ⟨addr', address', haddr', haddress', hmem'⟩ := hasked backend hlisted
        exact ⟨session, hmem, hlisted,
          ⟨addr, address, own, haddr, haddress, List.mem_append_right _ hown, henv⟩,
          ⟨addr', address', haddr', haddress', List.mem_append_left _ hmem'⟩⟩
  exact .ite (.bind (.throw _) fun _ => hrest) hrest

/-- Programs that start nothing. -/
abbrev spawnsNothing : Eff.Frame SessionAns SessionProcs := Eff.callsOnly fun q => !q.spawns

theorem spawnsNothing_single {q : SessionCall} (hq : q.spawns = false) (procs : SessionProcs)
    (ans : SessionAns q) : spawnsNothing.holds procs [⟨q, ans⟩] procs :=
  Eff.callsOnly_single (by rw [hq]; rfl) procs ans

theorem spawnsNothing_of_looks {α : Type} {m : SessionM α} (hm : OnlyLooks session m) :
    Eff.Within spawnsNothing m := by
  intro procs tr r procs' h e he
  exact congrArg not ((hm h).2 e he).1

theorem spawnsNothing_of_quietly {α : Type} {X : WrapperProc → Prop} {m : SessionM α}
    (hm : Eff.Within (quietly X) m) : Eff.Within spawnsNothing m := by
  intro procs tr r procs' h e he
  exact congrArg not ((hm h).2 e he).1

theorem stop_spawnsNothing : Eff.Within spawnsNothing session.stop := by
  have hterminate : ∀ proc, Eff.Within spawnsNothing (WrapperSession.terminateOne proc) :=
    fun proc => .bind (.call (spawnsNothing_single rfl)) fun _ => .ite (.pure _) <|
      .bind (.call (spawnsNothing_single rfl)) fun _ => .ite (.pure _) <|
      .invoke (spawnsNothing_single rfl)
  have hawait : ∀ proc, Eff.Within spawnsNothing (WrapperSession.awaitOne proc) :=
    fun proc => .bind (.call (spawnsNothing_single rfl)) fun _ => .ite (.pure _) <|
      .bind (.call (spawnsNothing_single rfl)) fun _ => .ite (.pure _) <|
      .invoke (spawnsNothing_single rfl)
  exact .ite (.pure _) <| .bind .getState fun procs =>
    .bind (.forM fun proc _ => hterminate proc) fun _ =>
    .bind (.forM fun proc _ => hawait proc) fun _ => .modifyState fun s => spawnsNothing.refl s

theorem startsReady_of_spawnsNothing {α : Type} {m : SessionM α} (hm : Eff.Within spawnsNothing m) :
    Eff.Within (startsReady host repo sessions) m := by
  refine fun procs tr r procs' h => startsReady_of_quiet fun e he => ?_
  simpa using hm h e he

/-- A session is started with its wrappers ready. -/
theorem start_ready (hmem : session ∈ sessions) :
    Eff.Within (startsReady host repo sessions) (session.start host repo) :=
  .bind (spawnWrappers_ready hmem) fun _ =>
    .bind (startsReady_of_spawnsNothing (spawnsNothing_of_looks waitGrpcReady_looks)) fun _ =>
    startsReady_of_spawnsNothing (spawnsNothing_of_quietly (loadMetadata_quietly (X := fun _ => False) _))

/-- **In every run a wrapper is started only after its session has found its port free.** -/
theorem executeMatrixExecution_ready {run : MatrixRun} {backends : List String} {jobs : ℤ}
    (hsessions : run.sessions host backends jobs = .ok sessions) :
    Eff.Within (startsReady host run.repo sessions) (run.executeMatrixExecution host backends jobs) := by
  have hstart : Eff.Within (startsReady host run.repo sessions) (run.startAll host backends jobs) := by
    refine .ofExcept_bind fun started hstarted => ?_
    obtain rfl : sessions = started := Except.ok.inj (hsessions.symm.trans hstarted)
    exact .bind (.forM fun s hs => start_ready hs) fun _ => .pure _
  exact .bind hstart fun started => .finallyDo
    (startsReady_of_spawnsNothing (.invoke (spawnsNothing_single rfl)))
    (.forM fun s _ => startsReady_of_spawnsNothing stop_spawnsNothing)

/-! ### The ports wrappers are told -/

/-- The port a wrapper that is started listens at. -/
def portTold : Event SessionAns → Option (String × Except PyExc ℤ)
  | ⟨.popen backend env, _⟩ => some (backend, servePort env)
  | _ => none

/-- The hooks are answered as they are written. -/
def HooksAnswered (repo : Repo) (active : List String) (e : Event SessionAns) : Prop :=
  ∀ backend slotId ans, e = ⟨.sessionWrapperEnv backend slotId, ans⟩ →
    ans = .ok (sessionWrapperEnv backend repo active slotId)

/-- What is watched: the ports told, while the hooks are answered. -/
def portWatch (repo : Repo) (active : List String) : Watch SessionAns (String × Except PyExc ℤ) where
  shows := portTold
  expects := HooksAnswered repo active

theorem portTold_of_not_spawns {e : Event SessionAns} (h : e.1.spawns = false) : portTold e = none := by
  obtain ⟨q, ans⟩ := e
  cases q with
  | popen backend env => cases h
  | _ => rfl

theorem silent_of_spawnsNothing {α : Type} {m : SessionM α} (hm : Eff.Within spawnsNothing m)
    (active : List String) : Eff.Follows (portWatch repo active) m [] := by
  refine .of_silent fun procs tr r procs' h e he => portTold_of_not_spawns ?_
  simpa using hm h e he

/-- The session dials its wrappers at the ports of the table for its slot. -/
def DialsTable (repo : Repo) (session : WrapperSession) : Prop :=
  ∀ backend ∈ session.backends, ∃ addr hostName, ∃ n : ℕ, session.grpcAddr repo backend = .ok addr ∧
    grpcHostPort addr = .ok (hostName, (n : ℤ)) ∧ n < 10 ^ maxStrDigits ∧
    (n : ℤ) = slotGrpcPort session.slot backend

/-- The ports that a session tells its wrappers, in order. -/
def plannedPorts (session : WrapperSession) : List (String × Except PyExc ℤ) :=
  if session.attach then []
  else session.backends.map fun backend => (backend, .ok (slotGrpcPort session.slot backend))

theorem startOneWrapper_follows (hdials : DialsTable repo session) {backend : String}
    (hbackend : backend ∈ session.backends) (active : List String) :
    Eff.Follows (portWatch repo active) (session.startOneWrapper host repo backend)
      [(backend, .ok (slotGrpcPort session.slot backend))] := by
  intro procs tr r procs' h hexp
  obtain ⟨addr, hostName, n, haddr, haddress, hn, hport⟩ := hdials backend hbackend
  -- the port told is the one the hooks and the address of the stub agree on
  have hshown : ∀ {addr' address own ans rest}, session.grpcAddr repo backend = .ok addr' →
      grpcHostPort addr' = .ok address →
      HooksAnswered repo active ⟨.sessionWrapperEnv backend session.slotId, .ok own⟩ →
      (∀ e ∈ rest, portTold e = none) →
      (portWatch repo active).seen (⟨.sessionWrapperEnv backend session.slotId, .ok own⟩
        :: ⟨.popen backend (toldEnv host session backend address.2 own), ans⟩ :: rest)
        = [(backend, .ok (slotGrpcPort session.slot backend))] := by
    intro addr' address own ans rest haddr' haddress' hown hrest
    obtain rfl := Except.ok.inj (haddr.symm.trans haddr')
    obtain rfl := Except.ok.inj (haddress.symm.trans haddress')
    have hserve : servePort (toldEnv host session backend (n : ℤ) own)
        = .ok (slotGrpcPort session.slot backend) := by
      rw [← hport]
      refine servePort_toldEnv hn ?_
      rw [Except.ok.inj (hown _ _ _ rfl)]
      exact sessionWrapperEnv_port ..
    have hnil : rest.filterMap portTold = [] := List.filterMap_eq_nil_iff.mpr hrest
    show _ :: rest.filterMap portTold = _
    rw [hnil, hserve]
  cases exec_startOneWrapper h with
  | fails hquiet =>
    have hnil : (portWatch repo active).seen tr = [] :=
      List.filterMap_eq_nil_iff.mpr fun e he => portTold_of_not_spawns (hquiet e he).1
    rw [hnil]
    refine ⟨List.nil_prefix, fun a ha => ?_⟩
    cases ha
  | refused haddr' haddress' =>
    rw [hshown haddr' haddress' (hexp _ List.mem_cons_self) fun _ he => absurd he List.not_mem_nil]
    exact ⟨List.prefix_rfl, fun _ _ => rfl⟩
  | starts haddr' haddress' hlooks =>
    rw [hshown haddr' haddress' (hexp _ List.mem_cons_self)
      fun e he => portTold_of_not_spawns (hlooks e he).1]
    exact ⟨List.prefix_rfl, fun _ _ => rfl⟩

theorem startWrappers_follows (hdials : DialsTable repo session) {backends : List String}
    (hbackends : ∀ b ∈ backends, b ∈ session.backends) (active : List String) :
    Eff.Follows (portWatch repo active) (session.startWrappers host repo backends)
      (backends.map fun backend => (backend, .ok (slotGrpcPort session.slot backend))) := by
  induction backends with
  | nil => exact .pure _
  | cons first rest ih =>
    exact .bind (startOneWrapper_follows hdials (hbackends first List.mem_cons_self) active)
      fun _ => ih fun b hb => hbackends b (List.mem_cons_of_mem _ hb)

/-- **What a session tells its wrappers**: the ports it dials, in the order of its backends. -/
theorem start_follows (hdials : DialsTable repo session) (active : List String) :
    Eff.Follows (portWatch repo active) (session.start host repo) (plannedPorts session) := by
  have hquiet : ∀ {α : Type} {m : SessionM α}, Eff.Within (quietly fun _ => False) m →
      Eff.Follows (portWatch repo active) m [] :=
    fun hm => silent_of_spawnsNothing (spawnsNothing_of_quietly hm) active
  have hspawn : Eff.Follows (portWatch repo active) (session.spawnWrappers host repo)
      (plannedPorts session) := by
    unfold WrapperSession.spawnWrappers plannedPorts
    by_cases hnone : session.backends = []
    · rw [if_pos hnone, hnone, List.map_nil, ite_self]
      exact .pure _
    rw [if_neg hnone]
    cases session.attach with
    | true => exact .bind_left (hquiet (.ofExcept _)) fun _ => .pure _
    | false =>
      have hrest : Eff.Follows (portWatch repo active) (do
          session.assertGrpcPortsFree repo session.backends
          session.startWrappers host repo session.backends)
          (session.backends.map fun backend => (backend, .ok (slotGrpcPort session.slot backend))) :=
        .bind_left (hquiet (assertGrpcPortsFree_quietly _)) fun _ =>
          startWrappers_follows hdials (fun _ h => h) active
      refine .bind_left (hquiet (.invoke (quietly_single rfl nofun))) fun _ =>
        .bind_left (hquiet (.invoke (quietly_single rfl nofun))) fun missing => ?_
      exact .ite (fun _ => .bind_left (.throw _) fun _ => hrest) fun _ => hrest
  refine .bind_right hspawn fun _ => .bind_left ?_ fun _ => hquiet (loadMetadata_quietly _)
  exact silent_of_spawnsNothing (spawnsNothing_of_looks waitGrpcReady_looks) active

end

/-! ### The ports of a run -/

section

variable {root : String} {certs : String → Option (List UInt8 × List UInt8)} {host : RunHost}
  {run : MatrixRun} {backends : List String} {jobs : ℤ} {sessions : List WrapperSession}
  {session : WrapperSession}

/-- A session of a run: its place, its backends, and the ports it dials them at. -/
structure OfRun (repo : Repo) (backends : List String) (slot : ℕ) (session : WrapperSession) :
    Prop where
  slot_eq : session.slot = slot
  small : slot < 32
  backends_eq : session.backends = sortedSet backends
  known : ∀ name ∈ backends, ∃ base, (name, base) ∈ grpcBases
  dials : DialsTable repo session

/-- The port of the table is a numeral. -/
theorem exists_slotGrpcPort {name : String} {base : ℤ} (hbase : (name, base) ∈ grpcBases) {slot : ℕ}
    (hslot : slot < 32) : ∃ n : ℕ, n < 10 ^ maxStrDigits ∧ (n : ℤ) = slotGrpcPort slot name ∧
      (n : ℤ) = base + slot * workerPortStride := by
  obtain ⟨-, hlow, hhigh, -⟩ := normal_of_base hbase
  have hbounds : 0 ≤ base + slot * workerPortStride ∧
      base + slot * workerPortStride < 10 ^ 5 := by
    rw [workerPortStride]
    omega
  obtain ⟨n, hn⟩ := Int.eq_ofNat_of_zero_le hbounds.1
  have hlt : n < 10 ^ 5 := by
    rw [hn] at hbounds
    omega
  exact ⟨n, lt_of_lt_of_le hlt (Nat.pow_le_pow_right (by decide) (by decide)),
    by rw [slotGrpcPort_of_base hbase, hn], hn.symm⟩

/-- What the session of a serial run is. -/
theorem serialSession_eq_ok {attach : Bool}
    (h : serialSession (shippedRepo root certs) backends attach = .ok session) :
    (∀ name ∈ backends, ∃ base, (name, base) ∈ grpcBases) ∧
      session = ⟨sortedSet backends, attach, none, []⟩ := by
  unfold serialSession at h
  dsimp only at h
  split at h
  · cases h
  next hunknown =>
  cases h
  rw [not_not, List.filter_eq_nil_iff] at hunknown
  refine ⟨fun name hname => ?_, rfl⟩
  have hfound : name ∈ (shippedRepo root certs).discoverWrapperIds := by
    simpa using hunknown name hname
  exact exists_base hfound

/-- **The sessions of a run**, over the shipped documents. -/
theorem ofRun_of_sessions (hrepo : run.repo = shippedRepo root certs)
    (h : run.sessions host backends jobs = .ok sessions) {d : ℕ} (hd : sessions[d]? = some session) :
    OfRun run.repo backends d session := by
  unfold MatrixRun.sessions at h
  split at h
  · -- the sessions of the slots
    obtain ⟨hlt, hsession⟩ := (slotSessions_getElem? h).mp hd
    have hsmall : d < 32 := hlt.trans_le (effectiveJobs_le run jobs)
    rw [hrepo] at hsession ⊢
    obtain ⟨hknown, hshape⟩ := slotSession_eq_ok hsession
    have hslot : session.slot = d := by
      rw [hshape]
      rfl
    refine ⟨hslot, hsmall, by rw [hshape]; rfl, hknown, fun name hname => ?_⟩
    have hname : name ∈ backends := by
      rw [hshape] at hname
      exact mem_sortedSet.mp hname
    -- the table gives the port of the slot and the address both
    obtain ⟨base, hbase⟩ := hknown name hname
    obtain ⟨addr, haddr, haddress⟩ := grpcAddr_slotSession hsession hsmall hbase hname
    obtain ⟨n, hn, htable, hport⟩ := exists_slotGrpcPort hbase hsmall
    exact ⟨addr, _, n, haddr, hport ▸ haddress, hn, by rw [htable, hslot]⟩
  · -- one session without slots, or none
    split at h
    · cases hserial : serialSession run.repo backends host.attach with
      | error e =>
        rw [hserial] at h
        cases h
      | ok s =>
        rw [hserial] at h
        cases h
        obtain ⟨hlt, hs⟩ := List.getElem?_eq_some_iff.mp hd
        obtain rfl : d = 0 := by simpa using hlt
        obtain rfl : s = session := hs
        rw [hrepo] at hserial ⊢
        obtain ⟨hknown, rfl⟩ := serialSession_eq_ok hserial
        refine ⟨rfl, by decide, rfl, hknown, fun name hname => ?_⟩
        obtain ⟨base, hbase⟩ := hknown name (mem_sortedSet.mp hname)
        obtain ⟨n, hn, htable, hport⟩ := exists_slotGrpcPort hbase (show 0 < 32 by decide)
        have hplain : (n : ℤ) = base := by simpa using hport
        refine ⟨"127.0.0.1" ++ ":" ++ toString base, "127.0.0.1", n, ?_, ?_, hn, htable⟩
        · unfold WrapperSession.grpcAddr
          dsimp only
          rw [(normal_of_base hbase).1]
          exact backendGrpcAddr_shipped hbase (by simp [Dict.get?])
        · rw [hplain]
          exact grpcHostPort_base hbase
    · cases h
      cases hd

theorem eq_of_base {name name' : String} {base : ℤ} (h : (name, base) ∈ grpcBases)
    (h' : (name', base) ∈ grpcBases) : name = name' := by
  simp only [grpcBases, List.mem_cons, Prod.mk.injEq, List.not_mem_nil, or_false] at h h'
  grind

/-- Wrappers of one run with one port are one wrapper. -/
theorem eq_of_slotGrpcPort {name name' : String} {base base' : ℤ} {slot slot' : ℕ}
    (hbase : (name, base) ∈ grpcBases) (hbase' : (name', base') ∈ grpcBases)
    (h : slotGrpcPort slot name = slotGrpcPort slot' name') : slot = slot' ∧ name = name' := by
  obtain ⟨-, hlow, hhigh, -⟩ := normal_of_base hbase
  obtain ⟨-, hlow', hhigh', -⟩ := normal_of_base hbase'
  rw [slotGrpcPort_of_base hbase, slotGrpcPort_of_base hbase', workerPortStride] at h
  obtain ⟨rfl, rfl⟩ : slot = slot' ∧ base = base' := by omega
  exact ⟨rfl, eq_of_base hbase hbase'⟩

/-- The ports planned for a run are different ones. -/
theorem nodup_plannedPorts (hrepo : run.repo = shippedRepo root certs)
    (h : run.sessions host backends jobs = .ok sessions) :
    ((sessions.flatMap plannedPorts).map Prod.snd).Nodup := by
  have hmem : ∀ {s : WrapperSession} {port : Except PyExc ℤ}, port ∈ (plannedPorts s).map Prod.snd →
      ∃ backend ∈ s.backends, port = .ok (slotGrpcPort s.slot backend) := by
    intro s port hport
    unfold plannedPorts at hport
    split at hport
    · exact absurd hport List.not_mem_nil
    · simp only [List.map_map, List.mem_map, Function.comp_apply] at hport
      obtain ⟨backend, hbackend, rfl⟩ := hport
      exact ⟨backend, hbackend, rfl⟩
  rw [List.map_flatMap, List.nodup_flatMap]
  constructor
  · -- within one session
    intro s hs
    obtain ⟨d, hd⟩ := List.getElem?_of_mem hs
    have hrun := ofRun_of_sessions hrepo h hd
    unfold plannedPorts
    split
    · exact List.nodup_nil
    · rw [List.map_map]
      refine (List.Nodup.map_on ?_ ?_ : _)
      · intro b hb b' hb' heq
        rw [hrun.backends_eq, mem_sortedSet] at hb hb'
        -- a slot gives two backends different ports
        obtain ⟨base, hbase⟩ := hrun.known b hb
        obtain ⟨base', hbase'⟩ := hrun.known b' hb'
        exact (eq_of_slotGrpcPort hbase hbase' (Except.ok.inj heq)).2
      · rw [hrun.backends_eq]
        exact (pairwise_lt_sortedSet backends).imp fun hlt => ne_of_lt hlt
  · -- between the sessions of two slots
    rw [List.pairwise_iff_getElem]
    intro i j hi hj hij port hport hport'
    obtain ⟨b, hb, rfl⟩ := hmem hport
    obtain ⟨b', hb', heq⟩ := hmem hport'
    have hrun := ofRun_of_sessions hrepo h (List.getElem?_eq_getElem hi)
    have hrun' := ofRun_of_sessions hrepo h (List.getElem?_eq_getElem hj)
    rw [hrun.backends_eq, mem_sortedSet] at hb
    rw [hrun'.backends_eq, mem_sortedSet] at hb'
    obtain ⟨base, hbase⟩ := hrun.known b hb
    obtain ⟨base', hbase'⟩ := hrun'.known b' hb'
    -- equal ports come from the same slot, whatever the backends are
    have hslot := (eq_of_slotGrpcPort hbase hbase' (Except.ok.inj heq)).1
    rw [hrun.slot_eq, hrun'.slot_eq] at hslot
    exact absurd hslot (Nat.ne_of_lt hij)

/-- The wrappers a run starts are told the planned ports, in order. -/
theorem executeMatrixExecution_follows (hrepo : run.repo = shippedRepo root certs)
    (h : run.sessions host backends jobs = .ok sessions) (active : List String) :
    Eff.Follows (portWatch run.repo active) (run.executeMatrixExecution host backends jobs)
      (sessions.flatMap plannedPorts) := by
  have hstart : Eff.Follows (portWatch run.repo active) (run.startAll host backends jobs)
      (sessions.flatMap plannedPorts) := by
    refine .ofExcept_bind fun started hstarted => ?_
    obtain rfl : sessions = started := Except.ok.inj (h.symm.trans hstarted)
    refine .bind_right (.forM fun s hs => ?_) fun _ => .pure _
    obtain ⟨d, hd⟩ := List.getElem?_of_mem hs
    exact start_follows (ofRun_of_sessions hrepo h hd).dials active
  refine .bind_right hstart fun started => silent_of_spawnsNothing ?_ active
  exact .finallyDo (.invoke (spawnsNothing_single rfl)) (.forM fun s _ => stop_spawnsNothing)

/-- **What a run tells its wrappers about their ports.** -/
structure PortsTold (host : RunHost) (run : MatrixRun) (sessions : List WrapperSession)
    (tr : List (Event SessionAns)) : Prop where
  /-- No two wrappers are told the same port. -/
  apart : ((tr.filterMap portTold).map Prod.snd).Nodup
  /-- A wrapper is told the port its session dials, found free before it is started. -/
  dialled : ∀ tr₁ backend env ans tr₂, tr = tr₁ ++ ⟨.popen backend env, ans⟩ :: tr₂ →
    ∃ session ∈ sessions, backend ∈ session.backends ∧ ∃ addr hostName port,
      session.grpcAddr run.repo backend = .ok addr ∧ grpcHostPort addr = .ok (hostName, port) ∧
      servePort env = .ok port ∧ (⟨.portInUse hostName port, .ok false⟩ : Event SessionAns) ∈ tr₁

/-- **Every wrapper is told a free port of its own, which the driver dials.**  The port is
told in the environment that the hooks of the wrapper give, and dialled at the address of
the session; both are the base of the backend moved by the slot. -/
theorem ports_told (hrepo : run.repo = shippedRepo root certs)
    (h : run.sessions host backends jobs = .ok sessions) {procs procs' : SessionProcs}
    {tr : List (Event SessionAns)} {r : Except PyExc (List (String × ℤ))}
    (hexec : (run.executeMatrixExecution host backends jobs).Exec procs tr r procs')
    {active : List String} (hhooks : ∀ e ∈ tr, HooksAnswered run.repo active e) :
    PortsTold host run sessions tr := by
  constructor
  · -- what is told is a first part of the plan
    have hinitial := (executeMatrixExecution_follows hrepo h active hexec hhooks).1
    have hsub := (hinitial.map Prod.snd).sublist
    exact (nodup_plannedPorts hrepo h).sublist hsub
  · rintro tr₁ backend env ans tr₂ rfl
    obtain ⟨session, hs, hready⟩ :=
      executeMatrixExecution_ready h hexec tr₁ _ tr₂ rfl backend env ans rfl
    obtain ⟨d, hd⟩ := List.getElem?_of_mem hs
    obtain ⟨addr, hostName, n, haddr, haddress, hn, -⟩ :=
      (ofRun_of_sessions hrepo h hd).dials backend hready.listed
    obtain ⟨addr₁, address₁, own, haddr₁, haddress₁, hown, rfl⟩ := hready.told
    obtain ⟨addr₂, address₂, haddr₂, haddress₂, hfree⟩ := hready.free
    obtain rfl := Except.ok.inj (haddr.symm.trans haddr₁)
    obtain rfl := Except.ok.inj (haddr.symm.trans haddr₂)
    obtain rfl := Except.ok.inj (haddress.symm.trans haddress₁)
    obtain rfl := Except.ok.inj (haddress.symm.trans haddress₂)
    have hanswer := hhooks _ (List.mem_append_left _ hown) _ _ _ rfl
    refine ⟨session, hs, hready.listed, addr, hostName, n, haddr, haddress, ?_, hfree⟩
    refine servePort_toldEnv hn ?_
    rw [Except.ok.inj hanswer]
    exact sessionWrapperEnv_port ..

end

/-- A run of two jobs over GnuTLS and NSS, and its sessions. -/
def pairRun : MatrixRun := { startRun with combos := [[], []] }

def pairSessions : List WrapperSession :=
  (pairRun.sessions {} ["gnutls", "nss"] 2).toOption.getD []

/-- The hooks of both wrappers are answered, and every wrapper runs. -/
def pairEnv : Prog.Env SessionAns
  | _, .sessionWrapperEnv backend slotId =>
    .ok (sessionWrapperEnv backend pairRun.repo ["gnutls", "nss"] slotId)
  | _, .popen .. => .ok 0
  | past, q => startEnv false past q

abbrev pairTrace : List (Event SessionAns) :=
  (((pairRun.executeMatrixExecution {} ["gnutls", "nss"] 2).prog fun _ => []).exec pairEnv []).2

/-- Four wrappers of two slots are told four ports. -/
theorem ports_told_of_pair :
    PortsTold {} pairRun pairSessions pairTrace ∧ (spawned pairTrace).length = 4 := by
  have hsessions : pairRun.sessions {} ["gnutls", "nss"] 2 = .ok pairSessions := by
    have hok : (pairRun.sessions {} ["gnutls", "nss"] 2).isOk = true := by decide +kernel
    unfold pairSessions
    cases hr : pairRun.sessions {} ["gnutls", "nss"] 2 with
    | error e =>
      rw [hr] at hok
      cases hok
    | ok l => rfl
  have hrepo : pairRun.repo = shippedRepo "/repo" fun _ => none := rfl
  have hhooks : ∀ e ∈ pairTrace, HooksAnswered pairRun.repo ["gnutls", "nss"] e := by
    rintro e he backend slotId ans rfl
    obtain ⟨past, hpast⟩ := Prog.exists_past_of_mem_exec he
    exact hpast
  exact ⟨ports_told hrepo hsessions (Eff.exec_run ..) hhooks, by decide +kernel⟩

end TlsInterop
