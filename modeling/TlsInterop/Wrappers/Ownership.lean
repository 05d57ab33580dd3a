import TlsInterop.Core.Shipped
import TlsInterop.Wrappers.GnuTLS
import TlsInterop.Wrappers.NSS
import TlsInterop.Wrappers.OpenSSL
import TlsInterop.Wrappers.Processes

/-!
# A wrapper owns its processes

Between two requests every live CLI process a wrapper has started is the one of
its `server_proc` or the one of its `client_proc`.  An ESTABLISH replaces the
process of its role and leaves the other one alone, a TRANSMIT leaves both alone,
and a CLOSE ends both.

Liveness is a parameter: any account of which processes are alive after a trace
that only lets a `Popen` bring one to life and that has `_terminate_process_hard`
end the process it is given.

## Main definitions

* `WrapperKind`, `WrapperKind.backend` — the three wrappers.
* `ProcessTable` — an account of which processes are alive.
* `Owns` — the invariant.
* `Replaces`, `Clears` — what an ESTABLISH and a CLOSE do.

## Main results

* `executeOperation_effect` — what a request does, by its type.
* `Owns.executeOperation` — a request keeps the invariant.
* `owns_serve` — **the invariant holds after every sequence of requests.**
* `wrapper_owns_processes` — **what the invariant says of live processes, and the
  frame of each request.**
-/

namespace TlsInterop

open Py Effects

/-! ### The wrappers -/

/-- The three wrappers. -/
inductive WrapperKind
  | openssl
  | gnutls
  | nss
  deriving DecidableEq, Repr

/-- The hooks of a wrapper. -/
def WrapperKind.backend (host : WrapperHost) : WrapperKind → CliBackend
  | openssl => OpenSSL.backend host
  | gnutls => GnuTLS.backend host
  | nss => NSS.backend host

/-! ### Live processes -/

/-- The process of a role, the server's or the client's. -/
def WrapperState.procOf (s : WrapperState) (server : Bool) : Option CliProc :=
  if server then s.serverProc else s.clientProc

/-- An account of which processes are alive after a trace. -/
structure ProcessTable where
  /-- The process is alive after the trace. -/
  alive : List (Event WrapperAns) → CliProc → Prop
  not_alive_nil : ∀ p, ¬ alive [] p
  /-- Only `Popen` brings a process to life. -/
  alive_append : ∀ {tr tr' p}, alive (tr ++ tr') p → alive tr p ∨ p ∈ started tr'
  /-- `_terminate_process_hard` ends the process it is given. -/
  terminated : ∀ {past tr p s r s'}, (terminateProcessHard (some p)).Exec s tr r s' →
    ¬ alive (past ++ tr) p

variable {table : ProcessTable} {past tr : List (Event WrapperAns)} {s s' : WrapperState}
  {p : CliProc} {b : CliBackend} {request : OperationRequest}

/-- A process that was terminated and is not started again is not alive. -/
theorem ProcessTable.not_alive_of_ended (h : Ended p tr) (hnew : p ∉ started tr) :
    ¬ table.alive (past ++ tr) p := by
  obtain ⟨tr₀, tr₁, tr₂, s, r, s', rfl, hexec⟩ := h
  intro halive
  rw [show past ++ (tr₀ ++ tr₁ ++ tr₂) = (past ++ tr₀ ++ tr₁) ++ tr₂ by simp] at halive
  rcases table.alive_append halive with halive | hstarted
  · exact table.terminated hexec halive
  · exact hnew (by simp [hstarted])

/-- The invariant: the live processes are among the two owned ones, these were
started, and they are different. -/
structure Owns (table : ProcessTable) (past : List (Event WrapperAns)) (s : WrapperState) :
    Prop where
  live : ∀ p, table.alive past p → ∃ server, s.procOf server = some p
  known : ∀ p server, s.procOf server = some p → p ∈ started past
  apart : ∀ p, s.serverProc = some p → s.clientProc ≠ some p

theorem owns_init : Owns table [] {} where
  live p h := absurd h (table.not_alive_nil p)
  known p server h := by cases server <;> cases h
  apart p h := by cases h

/-! ### What a request does -/

/-- The process of one role is ended, and replaced by a new one or by none; the
process of the other role is left alone. -/
structure Replaces (server : Bool) (s : WrapperState) (tr : List (Event WrapperAns))
    (s' : WrapperState) : Prop where
  other : s'.procOf (!server) = s.procOf (!server)
  own : (s'.procOf server = none ∧ started tr = []) ∨
    ∃ p, s'.procOf server = some p ∧ started tr = [p]
  signalled : ∀ p ∈ signalled tr, s.procOf server = some p
  ended : ∀ p, s.procOf server = some p → Ended p tr

/-- Both processes are ended, and nothing is started. -/
structure Clears (s : WrapperState) (tr : List (Event WrapperAns)) (s' : WrapperState) : Prop where
  none : ∀ server, s'.procOf server = none
  started : started tr = []
  signalled : ∀ p ∈ signalled tr, ∃ server, s.procOf server = some p
  ended : ∀ p server, s.procOf server = some p → Ended p tr

theorem procOf_of_watches (h : watches.holds s tr s') (server : Bool) :
    s'.procOf server = s.procOf server := by
  cases server
  · exact h.2.2.2
  · exact h.2.2.1

theorem Replaces.watches {server : Bool} {s₁ : WrapperState} {tr₁ : List (Event WrapperAns)}
    (h : Replaces server s tr₁ s₁) (hw : watches.holds s₁ tr s') :
    Replaces server s (tr₁ ++ tr) s' where
  other := (procOf_of_watches hw _).trans h.other
  own := by
    rw [procOf_of_watches hw, started_append, hw.1, List.append_nil]
    exact h.own
  signalled p hp := h.signalled p (by rwa [signalled_append, hw.2.1, List.append_nil] at hp)
  ended p hp := (h.ended p hp).append_right tr

theorem Clears.watches {s₁ : WrapperState} {tr₁ : List (Event WrapperAns)}
    (h : Clears s tr₁ s₁) (hw : watches.holds s₁ tr s') : Clears s (tr₁ ++ tr) s' where
  none server := (procOf_of_watches hw server).trans (h.none server)
  started := by rw [started_append, hw.1, List.append_nil, h.started]
  signalled p hp := h.signalled p (by rwa [signalled_append, hw.2.1, List.append_nil] at hp)
  ended p server hp := (h.ended p server hp).append_right tr

/-- Ending the process of a role and forgetting it is a replacement by none. -/
theorem release_replaces (server : Bool) {f : WrapperState → WrapperState} {r : Except PyExc Unit}
    (hown : ∀ s, (f s).procOf server = none)
    (hother : ∀ s, (f s).procOf (!server) = s.procOf (!server))
    (h : (do terminateProcessHard (s.procOf server); Eff.modifyState f : WrapperM Unit).Exec
      s tr r s') : Replaces server s tr s' ∧ s'.procOf server = none := by
  obtain ⟨_, s₁, tr₁, tr₂, rfl, h₁, h₂⟩ := (terminateProcessHard_total _).exec_bind h
  obtain ⟨rfl, hst, hsig, hend⟩ := exec_terminateProcessHard h₁
  obtain ⟨rfl, -, rfl⟩ := Eff.exec_modifyState.mp h₂
  rw [List.append_nil]
  exact ⟨⟨hother _, .inl ⟨hown _, hst⟩, hsig, hend⟩, hown _⟩

/-- After the release of its role, an ESTABLISH starts at most one process and keeps
it as the process of its role. -/
theorem start_replaces (server : Bool) {prepare : StagingM Launch}
    (keep : Option CliProc → WrapperState → WrapperState)
    {watch : Option CliProc × String × String → WrapperM OperationResponse}
    {r : Except PyExc OperationResponse}
    (hown : ∀ proc s, (keep proc s).procOf server = proc)
    (hother : ∀ proc s, (keep proc s).procOf (!server) = s.procOf (!server))
    (hwatch : ∀ started, Watches (watch started)) (hfree : s.procOf server = none)
    (h : (do
      let started ← startCli prepare
      Eff.modifyState (keep started.1)
      watch started : WrapperM OperationResponse).Exec s tr r s') :
    s'.procOf (!server) = s.procOf (!server) ∧ signalled tr = [] ∧
      ((s'.procOf server = none ∧ started tr = []) ∨
        ∃ p, s'.procOf server = some p ∧ started tr = [p]) := by
  -- preparing a launch looks at no process
  have hprocs : ∀ {s₁ : WrapperState}, s₁.serverProc = s.serverProc →
      s₁.clientProc = s.clientProc → ∀ server, s₁.procOf server = s.procOf server := by
    intro s₁ hserver hclient server
    cases server
    · exact hclient
    · exact hserver
  rcases Eff.exec_bind.mp h with ⟨e, -, h₁⟩ | ⟨launched, s₁, tr₁, tr₂, rfl, h₁, h₂⟩
  · obtain ⟨hsig, hserver, hclient, ⟨_, -, hst⟩ | ⟨_, _, _, hr, -⟩⟩ := exec_startCli h₁
    · exact ⟨hprocs hserver hclient _, hsig, .inl ⟨(hprocs hserver hclient _).trans hfree, hst⟩⟩
    · cases hr
  · obtain ⟨hsig, hserver, hclient, ⟨_, hr, -⟩ | ⟨p, cmd, msg, hr, hst⟩⟩ := exec_startCli h₁
    · cases hr
    obtain rfl := Except.ok.inj hr
    -- the process started is stored, and watching it starts no other
    have hw := hwatch _ (Eff.exec_modifyState_bind.mp h₂)
    refine ⟨?_, by rw [signalled_append, hsig, hw.2.1]; rfl, .inr ⟨p, ?_, ?_⟩⟩
    · rw [procOf_of_watches hw, hother, hprocs hserver hclient]
    · rw [procOf_of_watches hw, hown]
    · rw [started_append, hst, hw.1, List.append_nil]

theorem establishServer_replaces {r : Except PyExc OperationResponse}
    (hfree : s.procOf true = none) (h : (establishServer b request).Exec s tr r s') :
    s'.procOf false = s.procOf false ∧ signalled tr = [] ∧
      ((s'.procOf true = none ∧ started tr = []) ∨
        ∃ p, s'.procOf true = some p ∧ started tr = [p]) := by
  refine start_replaces true (fun proc s => { s with serverProc := proc })
    (fun _ _ => rfl) (fun _ _ => rfl) (fun started => ?_) hfree h
  refine .bind (rememberRoleCli_looks ..) fun _ => ?_
  cases started.1 with
  | none => exact .throw _
  | some proc => exact watchServer_looks ..

theorem establishClient_replaces {r : Except PyExc OperationResponse}
    (hfree : s.procOf false = none) (h : (establishClient b request).Exec s tr r s') :
    s'.procOf true = s.procOf true ∧ signalled tr = [] ∧
      ((s'.procOf false = none ∧ started tr = []) ∨
        ∃ p, s'.procOf false = some p ∧ started tr = [p]) := by
  refine start_replaces false (fun proc s => { s with clientProc := proc })
    (fun _ _ => rfl) (fun _ _ => rfl) (fun started => ?_) hfree h
  refine .bind (rememberRoleCli_looks ..) fun _ => ?_
  cases started.1 with
  | none => exact .throw _
  | some proc => exact watchClient_looks ..

/-- A replacement by none, then a start of the same role, is a replacement. -/
theorem Replaces.start {server : Bool} {s₁ : WrapperState} {tr₁ : List (Event WrapperAns)}
    (h : Replaces server s tr₁ s₁) (hfree : s₁.procOf server = none)
    (hother : s'.procOf (!server) = s₁.procOf (!server)) (hsig : TlsInterop.signalled tr = [])
    (hown : (s'.procOf server = none ∧ started tr = []) ∨
      ∃ p, s'.procOf server = some p ∧ started tr = [p]) : Replaces server s (tr₁ ++ tr) s' where
  other := hother.trans h.other
  own := by
    have hst : started tr₁ = [] := by
      rcases h.own with ⟨-, hst⟩ | ⟨p, hp, -⟩
      · exact hst
      · rw [hfree] at hp
        cases hp
    rwa [started_append, hst, List.nil_append]
  signalled p hp := h.signalled p (by rwa [signalled_append, hsig, List.append_nil] at hp)
  ended p hp := (h.ended p hp).append_right tr

/-- The role of a request, as the side whose process it is about. -/
abbrev isServer (request : OperationRequest) : Bool := request.role = .server

theorem releaseBeforeEstablish_replaces {r : Except PyExc Unit}
    (h : (releaseBeforeEstablish request.role).Exec s tr r s') :
    Replaces (isServer request) s tr s' ∧ s'.procOf (isServer request) = none := by
  unfold releaseBeforeEstablish at h
  unfold isServer
  by_cases hrole : request.role = .server
  · rw [if_pos hrole] at h
    simp only [hrole, decide_true]
    exact release_replaces true (f := fun s => { s with serverProc := none })
      (fun _ => rfl) (fun _ => rfl) h
  · rw [if_neg hrole] at h
    simp only [hrole, decide_false]
    exact release_replaces false (f := fun s => { s with clientProc := none })
      (fun _ => rfl) (fun _ => rfl) h

theorem establishRole_replaces {r : Except PyExc OperationResponse}
    (hfree : s.procOf (isServer request) = none) (h : (establishRole b request).Exec s tr r s') :
    s'.procOf (!isServer request) = s.procOf (!isServer request) ∧ signalled tr = [] ∧
      ((s'.procOf (isServer request) = none ∧ started tr = []) ∨
        ∃ p, s'.procOf (isServer request) = some p ∧ started tr = [p]) := by
  unfold establishRole at h
  unfold isServer at hfree ⊢
  by_cases hrole : request.role = .server
  · rw [if_pos hrole] at h
    simp only [hrole, decide_true] at hfree ⊢
    exact establishServer_replaces hfree h
  · rw [if_neg hrole] at h
    simp only [hrole, decide_false] at hfree ⊢
    exact establishClient_replaces hfree h

/-- An ESTABLISH replaces the process of its role. -/
theorem handleEstablish_replaces {r : Except PyExc OperationResponse}
    (h : (handleEstablish b request).Exec s tr r s') : Replaces (isServer request) s tr s' := by
  rcases Eff.exec_bind.mp h with ⟨e, -, h₁⟩ | ⟨_, s₁, tr₁, tr', rfl, h₁, h'⟩
  · exact (releaseBeforeEstablish_replaces h₁).1
  obtain ⟨hrel, hfree⟩ := releaseBeforeEstablish_replaces h₁
  rcases Eff.exec_bind.mp h' with ⟨e, -, h₂⟩ | ⟨_, s₂, tr₂, tr', rfl, h₂, h'⟩
  · exact hrel.watches (stage_watches _ h₂)
  have hw₂ := stage_watches _ h₂
  rcases Eff.exec_bind.mp h' with ⟨e, -, h₃⟩ | ⟨_, s₃, tr₃, tr₄, rfl, h₃, h₄⟩
  · exact hrel.watches (watches.trans hw₂ (rememberRepoRoot_looks _ h₃))
  -- the role is still free when its process is started
  have hw := watches.trans hw₂ (rememberRepoRoot_looks _ h₃)
  have hfree₃ := (procOf_of_watches hw _).trans hfree
  obtain ⟨hother, hsig, hown⟩ := establishRole_replaces hfree₃ h₄
  rw [show tr₁ ++ (tr₂ ++ (tr₃ ++ tr₄)) = tr₁ ++ (tr₂ ++ tr₃) ++ tr₄ by simp]
  exact (hrel.watches hw).start hfree₃ hother hsig hown

/-- `_cleanup` ends both processes. -/
theorem cleanup_clears {r : Except PyExc Unit} (h : (cleanup b).Exec s tr r s') :
    Clears s tr s' := by
  rw [cleanup, Eff.exec_getState_bind] at h
  obtain ⟨_, s₁, tr₁, tr', rfl, h₁, h'⟩ := (terminateProcessHard_total _).exec_bind h
  obtain ⟨_, s₂, tr₂, tr₃, rfl, h₂, h₃⟩ := (terminateProcessHard_total _).exec_bind h'
  rw [Eff.exec_modifyState_bind] at h₃
  obtain ⟨rfl, hst₁, hsig₁, hend₁⟩ := exec_terminateProcessHard h₁
  obtain ⟨rfl, hst₂, hsig₂, hend₂⟩ := exec_terminateProcessHard h₂
  have hclear : Clears s₂ (tr₁ ++ tr₂) { s₂ with serverProc := none, clientProc := none } := by
    refine ⟨fun server => by cases server <;> rfl, by rw [started_append, hst₁, hst₂]; rfl,
      fun p hp => ?_, fun p server hp => ?_⟩
    · rw [signalled_append, List.mem_append] at hp
      exact hp.elim (fun hp => ⟨true, hsig₁ p hp⟩) fun hp => ⟨false, hsig₂ p hp⟩
    · cases server with
      | true => exact (hend₁ p hp).append_right tr₂
      | false => exact (hend₂ p hp).append_left tr₁
  rw [← List.append_assoc]
  exact hclear.watches (extraCleanup_watches b h₃)

theorem handleClose_clears {r : Except PyExc OperationResponse}
    (h : (handleClose b).Exec s tr r s') : Clears s tr s' := by
  rcases Eff.exec_bind.mp h with ⟨e, -, h₁⟩ | ⟨_, s₁, tr₁, tr₂, rfl, h₁, h₂⟩
  · exact cleanup_clears h₁
  · exact (cleanup_clears h₁).watches (Eff.Within.pure _ h₂)

/-- What a request does, by its type. -/
def Effect (request : OperationRequest) (s : WrapperState) (tr : List (Event WrapperAns))
    (s' : WrapperState) : Prop :=
  match request.type with
  | .establish => Replaces (isServer request) s tr s'
  | .close => Clears s tr s'
  | _ => watches.holds s tr s'

theorem Effect.watches {s₁ : WrapperState} {tr₁ : List (Event WrapperAns)}
    (h : Effect request s tr₁ s₁) (hw : watches.holds s₁ tr s') :
    Effect request s (tr₁ ++ tr) s' := by
  unfold Effect at h ⊢
  split at h
  · exact Replaces.watches h hw
  · exact Clears.watches h hw
  · exact TlsInterop.watches.trans h hw

theorem dispatchOp_effect {r : Except PyExc OperationResponse}
    (h : (dispatchOp b request).Exec s tr r s') : Effect request s tr s' := by
  unfold dispatchOp at h
  unfold Effect
  cases hty : request.type with
  | establish => rw [hty] at h; exact handleEstablish_replaces h
  | transmit => rw [hty] at h; exact handleTransmit_looks b request h
  | close => rw [hty] at h; exact handleClose_clears h
  | keyUpdate => rw [hty] at h; exact Eff.Within.pure _ h
  | unrecognized n => rw [hty] at h; exact Eff.Within.pure _ h

/-- What a request does, by its type, whatever its handler raises. -/
theorem executeOperation_effect {r : Except PyExc OperationResponse}
    (h : (executeOperation b request).Exec s tr r s') : Effect request s tr s' := by
  rcases Eff.exec_tryCatch.mp h with ⟨a, -, h₁⟩ | ⟨e, s₁, tr₁, tr₂, rfl, h₁, h₂⟩
  · exact dispatchOp_effect h₁
  · exact (dispatchOp_effect h₁).watches (handleOpError_looks _ e h₂)

/-! ### The invariant -/

theorem Owns.watches (h : Owns table past s) (hw : watches.holds s tr s') :
    Owns table (past ++ tr) s' where
  live p halive := by
    rcases table.alive_append halive with halive | hst
    · obtain ⟨server, hp⟩ := h.live p halive
      exact ⟨server, (procOf_of_watches hw server).trans hp⟩
    · rw [hw.1] at hst
      cases hst
  known p server hp := by
    rw [started_append]
    exact List.mem_append_left _ (h.known p server ((procOf_of_watches hw server).symm.trans hp))
  apart p hserver := by
    rw [hw.2.2.2]
    exact h.apart p (hw.2.2.1.symm.trans hserver)

/-- A process that was owned is not among those started later. -/
theorem Owns.not_started (h : Owns table past s) (hfresh : (started (past ++ tr)).Nodup)
    {server : Bool} (hp : s.procOf server = some p) : p ∉ started tr := by
  rw [started_append] at hfresh
  exact fun hst => (List.nodup_append.mp hfresh).2.2 p (h.known p server hp) p hst rfl

theorem Owns.replaces {server : Bool} (h : Owns table past s) (hr : Replaces server s tr s')
    (hfresh : (started (past ++ tr)).Nodup) : Owns table (past ++ tr) s' := by
  -- a process kept or started by the request
  have hold : ∀ {p side}, s'.procOf side = some p →
      (side ≠ server ∧ s.procOf side = some p) ∨ (side = server ∧ p ∈ started tr) := by
    intro p side hp
    by_cases hside : side = server
    · subst hside
      rcases hr.own with ⟨hnone, -⟩ | ⟨q, hq, hst⟩
      · rw [hnone] at hp
        cases hp
      · rw [hq] at hp
        exact .inr ⟨rfl, by rw [hst, ← Option.some.inj hp]; exact List.mem_singleton_self q⟩
    · have hother : side = !server := by
        cases side <;> cases server <;> first | rfl | exact absurd rfl hside
      rw [hother, hr.other, ← hother] at hp
      exact .inl ⟨hside, hp⟩
  refine ⟨fun p halive => ?_, fun p side hp => ?_, fun p hserver hclient => ?_⟩
  · rcases table.alive_append halive with hbefore | hst
    · obtain ⟨side, hp⟩ := h.live p hbefore
      by_cases hside : side = server
      · subst hside
        exact absurd halive
          (table.not_alive_of_ended (hr.ended p hp) (h.not_started hfresh hp))
      · have hother : side = !server := by
          cases side <;> cases server <;> first | rfl | exact absurd rfl hside
        exact ⟨side, by rw [hother, hr.other, ← hother, hp]⟩
    · rcases hr.own with ⟨-, hnone⟩ | ⟨q, hq, hone⟩
      · rw [hnone] at hst
        cases hst
      · rw [hone, List.mem_singleton] at hst
        exact ⟨server, by rw [hq, hst]⟩
  · rw [started_append, List.mem_append]
    rcases hold hp with ⟨-, hp⟩ | ⟨-, hst⟩
    · exact .inl (h.known p side hp)
    · exact .inr hst
  · rcases @hold p true hserver with ⟨hs, hp⟩ | ⟨hs, hst⟩ <;>
      rcases @hold p false hclient with ⟨hs', hp'⟩ | ⟨hs', hst'⟩
    · exact h.apart p hp hp'
    · exact h.not_started hfresh hp hst'
    · exact h.not_started hfresh hp' hst
    · exact Bool.false_ne_true (hs'.trans hs.symm)

theorem Owns.not_alive (h : Owns table past s) (hc : Clears s tr s') (p : CliProc) :
    ¬ table.alive (past ++ tr) p := by
  have hnew : p ∉ started tr := by rw [hc.started]; exact List.not_mem_nil
  intro halive
  rcases table.alive_append halive with hbefore | hst
  · obtain ⟨server, hp⟩ := h.live p hbefore
    exact table.not_alive_of_ended (hc.ended p server hp) hnew halive
  · exact hnew hst

theorem Owns.clears (h : Owns table past s) (hc : Clears s tr s') :
    Owns table (past ++ tr) s' where
  live p halive := absurd halive (h.not_alive hc p)
  known p server hp := by
    rw [hc.none server] at hp
    cases hp
  apart p hserver := by
    rw [show s'.serverProc = none from hc.none true] at hserver
    cases hserver

/-- A request keeps the invariant. -/
theorem Owns.executeOperation {r : Except PyExc OperationResponse} (h : Owns table past s)
    (hrun : (executeOperation b request).Exec s tr r s')
    (hfresh : (started (past ++ tr)).Nodup) : Owns table (past ++ tr) s' := by
  have heffect := executeOperation_effect hrun
  unfold Effect at heffect
  split at heffect
  · exact h.replaces heffect hfresh
  · exact h.clears heffect
  · exact h.watches heffect

/-- **The invariant holds after every sequence of requests.** -/
theorem owns_serve {requests : List OperationRequest}
    {r : Except PyExc (List OperationResponse)} (h : Owns table past s)
    (hrun : (serve b requests).Exec s tr r s') (hfresh : (started (past ++ tr)).Nodup) :
    Owns table (past ++ tr) s' := by
  induction requests generalizing past s tr r with
  | nil =>
    obtain ⟨rfl, -, rfl⟩ := Eff.exec_pure.mp hrun
    rwa [List.append_nil]
  | cons request rest ih =>
    obtain ⟨resp, s₁, tr₁, tr₂, r', rfl, h₁, h₂⟩ := exec_serve_cons hrun
    rw [← List.append_assoc] at hfresh ⊢
    have hfresh₁ : (started (past ++ tr₁)).Nodup := by
      rw [started_append] at hfresh
      exact (List.nodup_append.mp hfresh).1
    exact ih (h.executeOperation h₁ hfresh₁) h₂ hfresh

/-- The state after a sequence of requests and the trace that led to it; every
`Popen` is a new object. -/
structure Reached (b : CliBackend) (requests : List OperationRequest)
    (tr : List (Event WrapperAns)) (s : WrapperState) : Prop where
  run : ∃ r, (serve b requests).Exec {} tr r s
  fresh : (started tr).Nodup

/-- **Process ownership.** After every sequence of requests the live processes are among
those of the two roles; a further ESTABLISH or TRANSMIT leaves the process of the other
role alone, and a further CLOSE leaves no live process and both fields empty.  What each
kind of request does to the processes is its effect, from which the invariant is carried
along the run. -/
theorem wrapper_owns_processes (kind : WrapperKind) (host : WrapperHost) (table : ProcessTable)
    {requests : List OperationRequest} {tr : List (Event WrapperAns)} {s : WrapperState}
    (h : Reached (kind.backend host) requests tr s) :
    (∀ p, table.alive tr p → s.serverProc = some p ∨ s.clientProc = some p) ∧
      ∀ request tr' resp s', (executeOperation (kind.backend host) request).Exec s tr' resp s' →
        ((request.type = .establish ∨ request.type = .transmit) →
          (request.role = .server → s'.clientProc = s.clientProc ∧
            ∀ p, s.clientProc = some p → p ∉ signalled tr') ∧
          (request.role ≠ .server → s'.serverProc = s.serverProc ∧
            ∀ p, s.serverProc = some p → p ∉ signalled tr')) ∧
        (request.type = .close → s'.serverProc = none ∧ s'.clientProc = none ∧
          ∀ p, ¬ table.alive (tr ++ tr') p) := by
  obtain ⟨⟨r, hrun⟩, hfresh⟩ := h
  -- the invariant of the run so far
  have howns : Owns table tr s := by
    have h : Owns table ([] ++ tr) s := owns_serve owns_init hrun (by rwa [List.nil_append])
    rwa [List.nil_append] at h
  refine ⟨fun p halive => ?_, fun request tr' resp s' hexec => ⟨?_, fun hclose => ?_⟩⟩
  · obtain ⟨server, hp⟩ := howns.live p halive
    cases server with
    | true => exact .inl hp
    | false => exact .inr hp
  · have heffect := executeOperation_effect hexec
    rintro (hty | hty)
    · -- an ESTABLISH replaces the process of its own role
      -- a TRANSMIT signals nothing
      rw [Effect, hty] at heffect
      have heffect : Replaces (isServer request) s tr' s' := heffect
      refine ⟨fun hrole => ?_, fun hrole => ?_⟩
      · simp only [isServer, hrole, decide_true] at heffect
        exact ⟨heffect.other, fun p hp hsig => howns.apart p (heffect.signalled p hsig) hp⟩
      · simp only [isServer, hrole, decide_false] at heffect
        exact ⟨heffect.other, fun p hp hsig => howns.apart p hp (heffect.signalled p hsig)⟩
    · rw [Effect, hty] at heffect
      obtain ⟨-, hsig, hserver, hclient⟩ : watches.holds s tr' s' := heffect
      rw [hsig]
      exact ⟨fun _ => ⟨hclient, fun _ _ => List.not_mem_nil⟩,
        fun _ => ⟨hserver, fun _ _ => List.not_mem_nil⟩⟩
  · have heffect := executeOperation_effect hexec
    -- a CLOSE ends both
    rw [Effect, hclose] at heffect
    have heffect : Clears s tr' s' := heffect
    exact ⟨heffect.none true, heffect.none false, howns.not_alive heffect⟩

/-! ### A run -/

/-- The process a call finds to have ended, or ends. -/
def endedBy : Event WrapperAns → Option CliProc
  | ⟨.poll p, some _⟩ => some p
  | ⟨.terminate p, false⟩ => some p
  | ⟨.wait p _, true⟩ => some p
  | ⟨.kill p, _⟩ => some p
  | _ => none

/-- A process is alive from its start until it is seen to end; a killed one is not. -/
def aliveStep (p : CliProc) (alive : Bool) (e : Event WrapperAns) : Bool :=
  if startedBy e = some p then true else if endedBy e = some p then false else alive

theorem foldl_aliveStep {p : CliProc} {alive : Bool} (h : tr.foldl (aliveStep p) alive = true) :
    alive = true ∨ p ∈ started tr := by
  induction tr generalizing alive with
  | nil => exact .inl h
  | cons e tr ih =>
    rw [List.foldl_cons] at h
    have hcons : started (e :: tr) = started [e] ++ started tr := started_append [e] tr
    rw [hcons, List.mem_append]
    rcases ih h with hstep | hst
    · unfold aliveStep at hstep
      split at hstep
      · next hst => exact .inr (.inl (List.mem_filterMap.mpr ⟨e, List.mem_singleton_self e, hst⟩))
      · split at hstep
        · cases hstep
        · exact .inl hstep
    · exact .inr (.inr hst)

/-- The account by what was observed. -/
def observedTable : ProcessTable where
  alive tr p := tr.foldl (aliveStep p) false = true
  not_alive_nil _ := Bool.false_ne_true
  alive_append h := by
    rw [List.foldl_append] at h
    exact foldl_aliveStep h
  terminated := by
    intro past tr p s r s' h
    rw [List.foldl_append]
    generalize past.foldl (aliveStep p) false = alive
    obtain ⟨code, tr', rfl, h⟩ := h
    cases code with
    | some code =>
      obtain ⟨rfl, -⟩ := h
      simp [aliveStep, startedBy, endedBy]
    | none =>
      obtain ⟨there, tr', rfl, h⟩ := h
      cases there with
      | false =>
        obtain ⟨rfl, -⟩ := h
        simp [aliveStep, startedBy, endedBy]
      | true =>
        obtain ⟨inTime, tr', rfl, h⟩ := h
        cases inTime with
        | true =>
          obtain ⟨rfl, -⟩ := h
          simp [aliveStep, startedBy, endedBy]
        | false =>
          obtain ⟨there, tr', rfl, h⟩ := h
          cases there with
          | false =>
            obtain ⟨rfl, -⟩ := h
            simp [aliveStep, startedBy, endedBy]
          | true =>
            obtain ⟨inTime, tr', rfl, rfl, -⟩ := h
            cases inTime <;> simp [aliveStep, startedBy, endedBy]

/-- Every file is there, every process starts, prints nothing and ends when it is told to. -/
def quietEnv : Prog.Env WrapperAns
  | _, .stage .getcwd => .ok "/repo"
  | _, .stage (.isFile _) => .ok true
  | _, .stage (.osIsFile _) => true
  | _, .stage (.resolve path) => .ok path
  | _, .stage (.writeFile ..) => .ok ()
  | _, .stage (.writeText ..) => .ok ()
  | _, .stage (.chmod _) => ()
  | _, .stage (.remove _) => ()
  | past, .stage .uuidHex => toString past.length
  | _, .stage (.getaddrinfo ..) => .ok none
  | _, .stage (.ensureNssDbIdentities ..) => .ok ()
  | _, .stage (.rmtree _) => .ok ()
  | past, .popen .. => .ok (started past).length
  | _, .poll _ => none
  | _, .terminate _ => true
  | _, .kill _ => true
  | _, .wait .. => true
  | _, .readStdout .. => []
  | _, .writeStdin .. => .ok ()
  | _, .tcpRounds _ => 1
  | _, .tcpAttempt .. => .ok none
  | _, .unlinkArtifact _ => ()

/-- The host of a wrapper of the repository as it is shipped. -/
def shippedHost : WrapperHost where
  repo := shippedRepo "/repo" fun _ => none

/-- An ESTABLISH of the server and one of the client in TLS 1.3. -/
def establishBoth : List OperationRequest :=
  [{ type := .establish, role := .server, config := { version := "1.3", port := 4433 } },
    { type := .establish, role := .client, config := { version := "1.3", port := 4433 } }]

/-- A CLOSE. -/
def closeRequest : OperationRequest := { type := .close, role := .server }

/-- The run of the two requests with quiet processes. -/
abbrev establishBothRun : (Except PyExc (List OperationResponse) × WrapperState) ×
    List (Event WrapperAns) :=
  ((serve (WrapperKind.openssl.backend shippedHost) establishBoth).prog {}).exec quietEnv []

theorem wrapper_owns_processes_establishBoth :
    (∀ p, observedTable.alive establishBothRun.2 p →
      establishBothRun.1.2.serverProc = some p ∨ establishBothRun.1.2.clientProc = some p) ∧
      establishBothRun.1.2.serverProc = some 0 ∧ establishBothRun.1.2.clientProc = some 1 := by
  have hrun : (started establishBothRun.2).Nodup ∧ establishBothRun.1.2.serverProc = some 0 ∧
      establishBothRun.1.2.clientProc = some 1 := by decide +kernel
  have hreached : Reached (WrapperKind.openssl.backend shippedHost) establishBoth
      establishBothRun.2 establishBothRun.1.2 :=
    ⟨⟨establishBothRun.1.1, Eff.exec_run ..⟩, hrun.1⟩
  exact ⟨(wrapper_owns_processes .openssl shippedHost observedTable hreached).1, hrun.2⟩

end TlsInterop
