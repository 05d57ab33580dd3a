import TlsInterop.Effects.Checked
import TlsInterop.Runner.Driver

/-!
# The protocol of a test

What one test is: a list of calls whose answers must each be accepted.  The
driver of `Runner.Driver` makes exactly these calls and stops at the first answer
that is not accepted.

## Main definitions

* `Stop` — the ways in which a test stops early.
* `protocol` — the calls of a test and what each answer is taken for.
* `Implements` — a driver program follows a protocol.

## Main results

* `implements_execute`, `Implements.andThen` — how a program that follows a protocol is composed.
* `runProtocol_implements` — the driver follows the protocol of its test.
-/

namespace TlsInterop

open Py Effects DriverM InteropDriver

/-- Why a test stops before its end. -/
inductive Stop
  | raised (e : PyExc)
  | skipped
  | failed

/-- A SUCCESS whose message does not ask to skip. -/
def OperationResponse.isPlainSuccess (resp : OperationResponse) : Bool :=
  resp.status == .success && !startsWith "skip:" (lower resp.msg)

theorem isSkip_of_isPlainSuccess {resp : OperationResponse} (h : resp.isPlainSuccess = true) :
    resp.isSkip = false := by
  simp only [OperationResponse.isPlainSuccess, Bool.and_eq_true, Bool.not_eq_true'] at h
  rw [OperationResponse.isSkip, h.2, Bool.and_false]

/-! ### The protocol -/

/-- What the answer to an ESTABLISH or a TRANSMIT is taken for. -/
def judgeResponse : Except PyExc OperationResponse → Option Stop
  | .error e => some (.raised e)
  | .ok resp =>
    if resp.isPlainSuccess then none else if resp.isSkip then some .skipped else some .failed

/-- The judgement of an answer that must satisfy a further condition. -/
def judgeWith (accepts : OperationResponse → Bool) (ans : Except PyExc OperationResponse) :
    Option Stop :=
  (judgeResponse ans).or (match ans with
    | .ok resp => if accepts resp then none else some .failed
    | .error _ => none)

/-- What the answer of the TCP wait is taken for. -/
def judgeWait : Except PyExc (Bool × String) → Option Stop
  | .error e => some (.raised e)
  | .ok (okPeer, _) => if okPeer then none else some .failed

/-- An `ExecuteOperation` of the protocol. -/
abbrev executeCall (type : OpType) (role : Role) (config : TlsConfig) (payload : List UInt8) :
    DriverCall :=
  .execute (role == .server) { type, role, payload, config } none

/-- The HRR assertion of a client configuration. -/
def hrrHolds (clientConf : TlsConfig) (resp : OperationResponse) : Bool :=
  !clientConf.expectHrr || resp.negotiatedOrDefault.hrrOccurred

/-- The client connections of a test. -/
def clientProtocol (clientConf : TlsConfig) (resumption : Bool) :
    List (CheckedCall DriverAns Stop) :=
  if !resumption then
    [⟨executeCall .establish .client clientConf [], judgeWith (hrrHolds clientConf)⟩]
  else
    [⟨executeCall .establish .client (stepConf clientConf "save") [],
        judgeWith (hrrHolds clientConf)⟩,
      ⟨executeCall .establish .client (stepConf clientConf "resume") [], judgeResponse⟩]

/-- The calls after the connections are established. -/
def roundTripProtocol (tcpHost : String) (tcpPort : ℤ) : List (CheckedCall DriverAns Stop) :=
  [⟨.waitTcp tcpHost tcpPort tcpAfterEstablishS, judgeWait⟩,
    ⟨executeCall .transmit .client {} testPayload, judgeResponse⟩,
    ⟨executeCall .transmit .server {} [],
      judgeWith fun resp => decide (testPayload <:+: resp.outputData)⟩]

/-- The protocol of a test. -/
def protocol (serverConf clientConf : TlsConfig) (tcpHost : String) (tcpPort : ℤ) :
    List (CheckedCall DriverAns Stop) :=
  ⟨executeCall .establish .server serverConf [], judgeResponse⟩
    :: (clientProtocol clientConf (usesResumption clientConf) ++ roundTripProtocol tcpHost tcpPort)

/-! ### Programs that follow a protocol -/

/-- What a driver program ends with, for each verdict. -/
def Reflects : Option Stop → Except PyExc Bool → InteropDriver → Prop
  | none, r, d => r = .ok true ∧ d.lastSkipReason = none
  | some (.raised e), r, d => r = .error e ∧ d.lastSkipReason = none
  | some .skipped, r, d => r = .ok false ∧ ∃ reason, reason ≠ "" ∧ d.lastSkipReason = some reason
  | some .failed, r, d => r = .ok false ∧ d.lastSkipReason = none

/-- Every run of the program is a run of the protocol, with the same verdict. -/
def Implements (m : DriverM Bool) (cs : List (CheckedCall DriverAns Stop)) : Prop :=
  ∀ d tr r d', d.lastSkipReason = none → m.Exec d tr r d' →
    ∃ v, CheckedCall.Runs cs tr v ∧ Reflects v r d'

/-- The program makes no call and ends with the given verdict. -/
def Ends (m : DriverM Bool) (v : Option Stop) : Prop :=
  ∀ d tr r d', d.lastSkipReason = none → m.Exec d tr r d' → tr = [] ∧ Reflects v r d'

theorem Ends.implements_nil {m : DriverM Bool} (h : Ends m none) : Implements m [] := by
  intro d tr r d' hd hexec
  obtain ⟨rfl, hv⟩ := h d tr r d' hd hexec
  exact ⟨none, .nil, hv⟩

/-- One program after another follows one protocol after another. -/
theorem Implements.andThen {m m' : DriverM Bool} {cs cs' : List (CheckedCall DriverAns Stop)}
    (h : Implements m cs) (h' : Implements m' cs') :
    Implements (do
      if !(← m) then return false
      m') (cs ++ cs') := by
  intro d tr r d' hd hexec
  rcases Eff.exec_bind.mp hexec with ⟨e, rfl, hraise⟩ | ⟨b, d₁, tr₁, tr₂, rfl, hfirst, hrest⟩
  · obtain ⟨v, hrun, hv⟩ := h d tr _ d' hd hraise
    rcases v with _ | ⟨e'⟩ | _ | _
    · cases hv.1
    · exact ⟨_, hrun.append_of_stopped, hv⟩
    · cases hv.1
    · cases hv.1
  · obtain ⟨v, hrun, hv⟩ := h d tr₁ _ d₁ hd hfirst
    cases b with
    | true =>
      rcases v with _ | ⟨e'⟩ | _ | _
      · obtain ⟨v', hrun', hv'⟩ := h' d₁ tr₂ r d' hv.2 hrest
        exact ⟨v', hrun.append hrun', hv'⟩
      · cases hv.1
      · cases hv.1
      · cases hv.1
    | false =>
      obtain ⟨rfl, rfl, rfl⟩ := Eff.exec_pure.mp hrest
      rw [List.append_nil]
      rcases v with _ | ⟨e'⟩ | _ | _
      · cases hv.1
      · cases hv.1
      · exact ⟨_, hrun.append_of_stopped, hv⟩
      · exact ⟨_, hrun.append_of_stopped, hv⟩

/-! ### The checks -/

theorem skipReason_ne_empty (msg : String) : skipReason msg ≠ "" := by
  unfold skipReason
  dsimp only
  split
  · assumption
  · decide

/-- A note makes no call and leaves the skip reason. -/
theorem exec_note {entry : String} {d d' : InteropDriver} {tr : List (Event DriverAns)}
    {r : Except PyExc Unit} (h : (note entry).Exec d tr r d') :
    tr = [] ∧ r = .ok () ∧ d'.lastSkipReason = d.lastSkipReason := by
  obtain ⟨rfl, rfl, rfl⟩ := Eff.exec_modifyState.mp h
  exact ⟨rfl, rfl, rfl⟩

/-- Catching up is one call; the answer joins the log. -/
theorem exec_catchUp_bind {α : Type} {f : Unit → DriverM α} {d d' : InteropDriver}
    {tr : List (Event DriverAns)} {r : Except PyExc α} :
    (catchUp >>= f).Exec d tr r d' ↔ ∃ noted tr', tr = ⟨.workerNotes, noted⟩ :: tr' ∧
      (f ()).Exec { d with failLog := d.failLog ++ noted } tr' r d' := Iff.rfl

/-- A failure is noted, and the test ends. -/
theorem exec_noteFailure {label summary : String} {d d' : InteropDriver}
    {tr : List (Event DriverAns)} {r : Except PyExc Bool}
    (h : (do
      noteFailure label summary
      return false : DriverM Bool).Exec d tr r d') :
    tr = [] ∧ r = .ok false ∧ d'.lastSkipReason = d.lastSkipReason := by
  rcases Eff.exec_bind.mp h with ⟨e, -, hraise⟩ | ⟨⟨⟩, d₁, tr₁, tr₂, rfl, hnote, hret⟩
  · cases (exec_note hraise).2.1
  · obtain ⟨rfl, -, hd⟩ := exec_note hnote
    obtain ⟨rfl, rfl, rfl⟩ := Eff.exec_pure.mp hret
    exact ⟨rfl, rfl, hd⟩

/-- The check of a response makes no call; it keeps the reason of a skip. -/
theorem exec_checkResponse {resp : OperationResponse} {label : String} {d d' : InteropDriver}
    {tr : List (Event DriverAns)} {r : Except PyExc Bool}
    (h : (checkResponse resp label).Exec d tr r d') :
    tr = [] ∧ r = .ok resp.isPlainSuccess ∧
      d'.lastSkipReason = if resp.isSkip then some (skipReason resp.msg) else d.lastSkipReason := by
  unfold checkResponse at h
  rcases Eff.exec_bind.mp h with ⟨e, -, hraise⟩ | ⟨⟨⟩, d₁, tr₁, tr₂, rfl, hnote, hrest⟩
  · cases (exec_note hraise).2.1
  · obtain ⟨rfl, -, hd⟩ := exec_note hnote
    rw [← hd]
    simp only [OperationResponse.isPlainSuccess, OperationResponse.isSkip]
    by_cases hstatus : resp.status = .success
    · rw [if_pos hstatus] at hrest
      by_cases hskip : startsWith "skip:" (lower resp.msg) = true
      · rw [if_pos hskip] at hrest
        rcases Eff.exec_bind.mp hrest with ⟨e, -, hraise⟩ | ⟨⟨⟩, d₂, tr₃, tr₄, rfl, hset, hret⟩
        · cases (Eff.exec_modifyState.mp hraise).2.1
        · obtain ⟨rfl, -, rfl⟩ := Eff.exec_modifyState.mp hset
          obtain ⟨rfl, rfl, rfl⟩ := Eff.exec_pure.mp hret
          simp [hstatus, hskip]
      · rw [if_neg hskip] at hrest
        obtain ⟨rfl, rfl, rfl⟩ := Eff.exec_pure.mp hrest
        simp [hstatus, hskip]
    · rw [if_neg hstatus] at hrest
      obtain ⟨rfl, rfl, rfl⟩ := Eff.exec_pure.mp hrest
      simp [hstatus]

/-- The HRR assertion makes no call and leaves the skip reason. -/
theorem exec_checkHrrAssertion {resp : OperationResponse} {clientConf : TlsConfig} {label : String}
    {d d' : InteropDriver} {tr : List (Event DriverAns)} {r : Except PyExc Bool}
    (h : (checkHrrAssertion resp clientConf label).Exec d tr r d') :
    tr = [] ∧ r = .ok (hrrHolds clientConf resp) ∧ d'.lastSkipReason = d.lastSkipReason := by
  unfold checkHrrAssertion at h
  unfold hrrHolds
  cases hexp : clientConf.expectHrr with
  | false =>
    obtain ⟨rfl, rfl, rfl⟩ := Eff.exec_pure.mp (by simpa [hexp] using h)
    simp
  | true =>
    cases hocc : resp.negotiatedOrDefault.hrrOccurred with
    | true =>
      obtain ⟨rfl, rfl, rfl⟩ := Eff.exec_pure.mp (by simpa [hexp, hocc] using h)
      simp
    | false =>
      simp only [hexp, hocc, Bool.not_true, Bool.false_eq_true, if_false] at h
      obtain ⟨rfl, rfl, hd⟩ := exec_noteFailure h
      simp [hd]

/-- The check of the echo makes no call and leaves the skip reason. -/
theorem exec_checkEcho {rTx rSrv : OperationResponse} {d d' : InteropDriver}
    {tr : List (Event DriverAns)} {r : Except PyExc Bool} (h : (checkEcho rTx rSrv).Exec d tr r d') :
    tr = [] ∧ r = .ok (decide (testPayload <:+: rSrv.outputData)) ∧
      d'.lastSkipReason = d.lastSkipReason := by
  unfold checkEcho at h
  by_cases hecho : testPayload <:+: rSrv.outputData
  · rw [if_pos hecho] at h
    obtain ⟨rfl, rfl, rfl⟩ := Eff.exec_pure.mp h
    simp [hecho]
  · rw [if_neg hecho] at h
    obtain ⟨rfl, rfl, hd⟩ := exec_noteFailure h
    simp [hecho, hd]

/-- A check without calls ends in its verdict. -/
theorem ends_of_check {m : DriverM Bool} {b : Bool}
    (h : ∀ d tr r d', m.Exec d tr r d' → tr = [] ∧ r = .ok b ∧ d'.lastSkipReason = d.lastSkipReason) :
    Ends m (if b then none else some .failed) := by
  intro d tr r d' hd hexec
  obtain ⟨rfl, rfl, hskip⟩ := h d tr r d' hexec
  cases b with
  | true => exact ⟨rfl, rfl, hskip.trans hd⟩
  | false => exact ⟨rfl, rfl, hskip.trans hd⟩

theorem ends_checkResponse (resp : OperationResponse) (label : String) :
    Ends (checkResponse resp label) (judgeResponse (.ok resp)) := by
  intro d tr r d' hd hexec
  obtain ⟨rfl, rfl, hskip⟩ := exec_checkResponse hexec
  refine ⟨rfl, ?_⟩
  cases hplain : resp.isPlainSuccess with
  | true =>
    rw [isSkip_of_isPlainSuccess hplain] at hskip
    rw [judgeResponse, if_pos hplain]
    exact ⟨rfl, hskip.trans hd⟩
  | false =>
    rw [judgeResponse, hplain, if_neg Bool.false_ne_true]
    cases hs : resp.isSkip with
    | true =>
      rw [hs] at hskip
      exact ⟨rfl, _, skipReason_ne_empty _, hskip⟩
    | false =>
      rw [hs] at hskip
      exact ⟨rfl, hskip.trans hd⟩

/-! ### Steps of the driver -/

/-- What a program does once an answer has been judged. -/
def Continues (v : Option Stop) (m : DriverM Bool) (cs : List (CheckedCall DriverAns Stop)) :
    Prop :=
  match v with
  | none => Implements m cs
  | some s => Ends m (some s)

/-- The last check of a program. -/
theorem Ends.continues {m : DriverM Bool} {v : Option Stop} (h : Ends m v) : Continues v m [] := by
  cases v with
  | none => exact h.implements_nil
  | some s => exact h

/-- A check before the rest of a program. -/
theorem Ends.andThen {m m' : DriverM Bool} {v w : Option Stop}
    {cs : List (CheckedCall DriverAns Stop)} (h : Ends m v) (h' : Continues w m' cs) :
    Continues (v.or w) (do
      if !(← m) then return false
      m') cs := by
  -- the stop of the first part, else the one of the second
  have hends : ∀ s, v.or w = some s → Ends (do
      if !(← m) then return false
      m') (some s) := by
    intro s hs d tr r d' hd hexec
    rcases Eff.exec_bind.mp hexec with ⟨e, rfl, hraise⟩ | ⟨b, d₁, tr₁, tr₂, rfl, hcheck, hrest⟩
    · obtain ⟨rfl, hv⟩ := h d _ _ d' hd hraise
      rcases v with _ | ⟨e'⟩ | _ | _
      · cases hv.1
      · cases hs
        exact ⟨rfl, hv⟩
      · cases hv.1
      · cases hv.1
    · obtain ⟨rfl, hv⟩ := h d _ _ d₁ hd hcheck
      rcases v with _ | ⟨e'⟩ | _ | _
      · obtain rfl : w = some s := hs
        cases hv.1
        exact h' d₁ tr₂ r d' hv.2 hrest
      · cases hv.1
      all_goals
        cases hv.1
        cases hs
        obtain ⟨rfl, rfl, rfl⟩ := Eff.exec_pure.mp hrest
        exact ⟨rfl, rfl, hv.2⟩
  cases hvw : v.or w with
  | some s => exact hends s hvw
  | none =>
    obtain ⟨rfl, rfl⟩ := Option.or_eq_none_iff.mp hvw
    exact h.implements_nil.andThen h'

theorem Ends.andThen_implements {m m' : DriverM Bool} {v : Option Stop}
    {cs : List (CheckedCall DriverAns Stop)} (h : Ends m v) (h' : Implements m' cs) :
    Continues v (do
      if !(← m) then return false
      m') cs := by
  have hor := h.andThen (show Continues none m' cs from h')
  rwa [Option.or_none] at hor

/-- A call, and what follows its answer. -/
theorem implements_call {q : DriverCall} {β : Type} {answer : DriverAns q → Except PyExc β}
    {judge : DriverAns q → Option Stop} {k : β → DriverM Bool}
    {cs : List (CheckedCall DriverAns Stop)}
    (herr : ∀ ans e, answer ans = .error e → judge ans = some (.raised e))
    (hk : ∀ ans b, answer ans = .ok b → Continues (judge ans) (k b) cs) :
    Implements (Eff.invoke q answer >>= k) (⟨q, judge⟩ :: cs) := by
  intro d tr r d' hd hexec
  rcases Eff.exec_bind.mp hexec with ⟨e, rfl, hraise⟩ | ⟨b, d₁, tr₁, tr₂, rfl, hcall, hrest⟩
  · obtain ⟨ans, rfl, hans, rfl⟩ := Eff.exec_invoke.mp hraise
    exact ⟨_, .stop (herr ans e hans), rfl, hd⟩
  · obtain ⟨ans, rfl, hans, rfl⟩ := Eff.exec_invoke.mp hcall
    have hcont := hk ans b hans
    cases hv : judge ans with
    | none =>
      rw [hv] at hcont
      obtain ⟨v, hrun, href⟩ := hcont d tr₂ r d' hd hrest
      exact ⟨v, .accept hv hrun, href⟩
    | some s =>
      rw [hv] at hcont
      obtain ⟨rfl, href⟩ := hcont d tr₂ r d' hd hrest
      exact ⟨some s, .stop hv, href⟩

/-- A call to a wrapper, and what follows its response. -/
theorem implements_execute {type : OpType} {role : Role} {config : TlsConfig}
    {payload : List UInt8} {judge : Except PyExc OperationResponse → Option Stop}
    {k : OperationResponse → DriverM Bool} {cs : List (CheckedCall DriverAns Stop)}
    (herr : ∀ e, judge (.error e) = some (.raised e))
    (hk : ∀ resp, Continues (judge (.ok resp)) (k resp) cs) :
    Implements (execute type role config payload none >>= k)
      (⟨executeCall type role config payload, judge⟩ :: cs) := by
  refine implements_call (fun ans e h => ?_) fun ans resp h => ?_
  · obtain rfl : ans = .error e := h
    exact herr e
  · obtain rfl : ans = .ok resp := h
    exact hk resp

/-! ### The driver follows its protocol -/

theorem ends_checkHrrAssertion (resp : OperationResponse) (clientConf : TlsConfig)
    (label : String) : Ends (checkHrrAssertion resp clientConf label)
      (if hrrHolds clientConf resp then none else some .failed) :=
  ends_of_check fun _ _ _ _ h => exec_checkHrrAssertion h

theorem establishClient_implements (clientConf : TlsConfig) (resumption : Bool) :
    Implements (establishClient clientConf resumption) (clientProtocol clientConf resumption) := by
  cases resumption with
  | false =>
    refine implements_execute (fun _ => rfl) fun resp => ?_
    exact (ends_checkResponse resp _).andThen (ends_checkHrrAssertion resp clientConf _).continues
  | true =>
    refine implements_execute (fun _ => rfl) fun resp => ?_
    refine (ends_checkResponse resp _).andThen
      ((ends_checkHrrAssertion resp clientConf _).andThen_implements ?_)
    exact implements_execute (fun _ => rfl) fun resp => (ends_checkResponse resp _).continues

theorem roundTrip_implements (tcpHost : String) (tcpPort : ℤ) :
    Implements (runPostEstablishRoundTrip tcpHost tcpPort) (roundTripProtocol tcpHost tcpPort) := by
  have hecho : ∀ rTx rSrv, Ends (checkEcho rTx rSrv)
      (if decide (testPayload <:+: rSrv.outputData) then none else some .failed) :=
    fun rTx rSrv => ends_of_check fun _ _ _ _ h => exec_checkEcho h
  have htransmit : Implements transmitRoundTrip
      [⟨executeCall .transmit .client {} testPayload, judgeResponse⟩,
        ⟨executeCall .transmit .server {} [],
          judgeWith fun resp => decide (testPayload <:+: resp.outputData)⟩] := by
    refine implements_execute (fun _ => rfl) fun rTx => ?_
    refine (ends_checkResponse rTx _).andThen_implements ?_
    refine implements_execute (fun _ => rfl) fun rSrv => ?_
    exact (ends_checkResponse rSrv _).andThen (hecho rTx rSrv).continues
  refine implements_call (fun ans e h => ?_) fun ans p h => ?_
  · obtain rfl : ans = .error e := h
    rfl
  · obtain rfl : ans = .ok p := h
    obtain ⟨okPeer, tcpErr⟩ := p
    cases okPeer with
    | true => exact htransmit
    | false =>
      intro d tr r d' hd hexec
      obtain ⟨rfl, rfl, hskip⟩ := exec_noteFailure hexec
      exact ⟨rfl, rfl, hskip.trans hd⟩

/-- **The driver follows the protocol of its test.** -/
theorem runProtocol_implements (serverConf clientConf : TlsConfig) (tcpHost : String)
    (tcpPort : ℤ) : Implements (runProtocol serverConf clientConf tcpHost tcpPort)
      (protocol serverConf clientConf tcpHost tcpPort) := by
  refine implements_execute (fun _ => rfl) fun resp => ?_
  exact (ends_checkResponse resp _).andThen_implements
    ((establishClient_implements clientConf _).andThen (roundTrip_implements tcpHost tcpPort))

end TlsInterop
