import TlsInterop.Runner.Outcome

/-!
# The meaning of a verdict

What the code of a cell says about the answers the wrappers gave.

## Main definitions

* `testEvents`, `testResponses` — the calls of the test and the responses to them.
* `TimedOut`, `Passed`, `Skipped` — the outcomes, read off the events of a run.

## Main results

* `passed_iff`, `skipped_iff` — the outcomes are verdicts of the protocol.
* `cell_verdict` — what each code of a cell means.
-/

namespace TlsInterop

open Py Effects InteropDriver

/-- The calls of the test itself, with their answers. -/
def testEvents (tr : List (Event DriverAns)) : List (Event DriverAns) :=
  tr.filter fun e => isTestCall e.1

/-- Whether a call raised. -/
def raised : Event DriverAns → Bool
  | ⟨.execute .., .error _⟩ => true
  | ⟨.waitTcp .., .error _⟩ => true
  | _ => false

/-- A response, with its request. -/
def response? : Event DriverAns → Option (OperationRequest × OperationResponse)
  | ⟨.execute _ request _, .ok resp⟩ => some (request, resp)
  | _ => none

/-- The responses to the ESTABLISH and TRANSMIT calls, in order. -/
def testResponses (tr : List (Event DriverAns)) : List (OperationRequest × OperationResponse) :=
  (testEvents tr).filterMap response?

/-- The calls a test makes when nothing stops it. -/
def testCalls (serverConf clientConf : TlsConfig) (tcpHost : String) (tcpPort : ℤ) :
    List DriverCall :=
  executeCall .establish .server serverConf []
    :: ((if usesResumption clientConf then
        [executeCall .establish .client (stepConf clientConf "save") [],
          executeCall .establish .client (stepConf clientConf "resume") []]
      else [executeCall .establish .client clientConf []])
    ++ [.waitTcp tcpHost tcpPort tcpAfterEstablishS, executeCall .transmit .client {} testPayload,
      executeCall .transmit .server {} []])

/-- The worker was alive at the deadline. -/
def TimedOut (tr : List (Event DriverAns)) : Prop :=
  ∃ noted, (⟨.joinWorker, some noted⟩ : Event DriverAns) ∈ tr

/-- A request is an operation of a role. -/
def isRequest (type : OpType) (role : Role) (request : OperationRequest) : Bool :=
  request.type == type && request.role == role

/-- A test that passes: all its calls were made, and every answer is as it should be. -/
structure Passed (serverConf clientConf : TlsConfig) (tcpHost : String) (tcpPort : ℤ)
    (tr : List (Event DriverAns)) : Prop where
  calls : (testEvents tr).map Sigma.fst = testCalls serverConf clientConf tcpHost tcpPort
  no_raise : ∀ e ∈ testEvents tr, raised e = false
  success : ∀ p ∈ testResponses tr, p.2.isPlainSuccess = true
  tcp : ∃ err, (⟨.waitTcp tcpHost tcpPort tcpAfterEstablishS, .ok (true, err)⟩ :
    Event DriverAns) ∈ tr
  hrr : clientConf.expectHrr = true →
    ∃ p, (testResponses tr).find? (fun p => isRequest .establish .client p.1) = some p ∧
      p.2.negotiatedOrDefault.hrrOccurred = true
  echo : ∃ p ∈ testResponses tr, isRequest .transmit .server p.1 = true ∧
    testPayload <:+: p.2.outputData

/-- A test that is skipped: nothing raised, and the first response that is not a
plain success asks to skip. -/
def Skipped (tr : List (Event DriverAns)) : Prop :=
  (∀ e ∈ testEvents tr, raised e = false) ∧
    ∃ p, (testResponses tr).find? (fun p => !p.2.isPlainSuccess) = some p ∧ p.2.isSkip = true

/-! ### The events of a run -/

section

variable {tr tr' : List (Event DriverAns)}

theorem testEvents_append : testEvents (tr ++ tr') = testEvents tr ++ testEvents tr' :=
  List.filter_append ..

theorem testEvents_of_auxiliary (h : Auxiliary tr) : testEvents tr = [] := by
  rw [testEvents, List.filter_eq_nil_iff]
  intro e he
  rw [(h e he).1]
  exact Bool.false_ne_true

theorem not_timedOut_of_auxiliary (h : Auxiliary tr) : ¬ TimedOut tr :=
  fun ⟨_, hmem⟩ => (h _ hmem).2 rfl

end

/-- What a judgement says of an answer. -/
structure SoundStep (c : CheckedCall DriverAns Stop) : Prop where
  test : isTestCall c.call = true
  accept : ∀ ans, c.judge ans = none → raised ⟨c.call, ans⟩ = false ∧
    ∀ p, response? ⟨c.call, ans⟩ = some p → p.2.isPlainSuccess = true
  raise : ∀ ans e, c.judge ans = some (.raised e) → raised ⟨c.call, ans⟩ = true
  skip : ∀ ans, c.judge ans = some .skipped → raised ⟨c.call, ans⟩ = false ∧
    ∃ p, response? ⟨c.call, ans⟩ = some p ∧ p.2.isSkip = true
  fail : ∀ ans, c.judge ans = some .failed → raised ⟨c.call, ans⟩ = false ∧
    ∀ p, response? ⟨c.call, ans⟩ = some p → p.2.isSkip = false

theorem isPlainSuccess_of_isSkip {resp : OperationResponse} (h : resp.isSkip = true) :
    resp.isPlainSuccess = false := by
  cases hplain : resp.isPlainSuccess with
  | false => rfl
  | true => rw [isSkip_of_isPlainSuccess hplain] at h; cases h

/-- What the judgement of a response says, in one place. -/
theorem judgeWith_ok (accepts : OperationResponse → Bool) (resp : OperationResponse) :
    judgeWith accepts (.ok resp) =
      if resp.isPlainSuccess then (if accepts resp then none else some .failed)
      else if resp.isSkip then some .skipped else some .failed := by
  rw [judgeWith, judgeResponse]
  cases resp.isPlainSuccess <;> cases resp.isSkip <;> rfl

theorem soundStep_execute {type : OpType} {role : Role} {config : TlsConfig} {payload : List UInt8}
    (htype : type ≠ .close) (accepts : OperationResponse → Bool) :
    SoundStep ⟨executeCall type role config payload, judgeWith accepts⟩ := by
  -- the response of the call is the one it is judged by
  have hresponse : ∀ {resp : OperationResponse} {p},
      response? ⟨executeCall type role config payload, .ok resp⟩ = some p → p.2 = resp := by
    intro resp p hp
    rw [← Option.some.inj hp]
  constructor
  · change (type != .close) = true
    simpa using htype
  · -- accepted: a plain success
    rintro (e | resp) hans
    · cases hans
    · refine ⟨rfl, fun p hp => ?_⟩
      rw [hresponse hp]
      replace hans : judgeWith accepts (.ok resp) = none := hans
      rw [judgeWith_ok] at hans
      cases hplain : resp.isPlainSuccess with
      | true => rfl
      | false =>
        rw [hplain, if_neg Bool.false_ne_true] at hans
        split at hans <;> cases hans
  · -- raised: only what the call itself has raised
    rintro (e' | resp) e hans
    · rfl
    · replace hans : judgeWith accepts (.ok resp) = some (.raised e) := hans
      rw [judgeWith_ok] at hans
      repeat' split at hans
      all_goals cases hans
  · -- skipped: a success that asks for it
    rintro (e | resp) hans
    · cases hans
    · refine ⟨rfl, _, rfl, ?_⟩
      replace hans : judgeWith accepts (.ok resp) = some .skipped := hans
      rw [judgeWith_ok] at hans
      split at hans
      · split at hans <;> cases hans
      · split at hans
        · assumption
        · cases hans
  · -- failed: no response that asks to skip
    rintro (e | resp) hans
    · cases hans
    · refine ⟨rfl, fun p hp => ?_⟩
      rw [hresponse hp]
      cases hs : resp.isSkip with
      | false => rfl
      | true =>
        replace hans : judgeWith accepts (.ok resp) = some .failed := hans
        rw [judgeWith_ok, isPlainSuccess_of_isSkip hs, hs, if_neg Bool.false_ne_true] at hans
        cases hans

theorem judgeWith_true : judgeWith (fun _ => true) = judgeResponse := by
  funext ans
  cases ans with
  | error e => rfl
  | ok resp => simp [judgeWith]

theorem soundStep_wait (host : String) (port : ℤ) (timeoutS : ℚ) :
    SoundStep ⟨.waitTcp host port timeoutS, judgeWait⟩ := by
  have hresponse : ∀ ans, response? ⟨.waitTcp host port timeoutS, ans⟩ = none := fun _ => rfl
  constructor
  · rfl
  · rintro (e | p) hans
    · cases hans
    · exact ⟨rfl, fun p hp => by rw [hresponse] at hp; cases hp⟩
  · rintro (e | ⟨okPeer, err⟩) e' hans
    · rfl
    · cases okPeer <;> cases hans
  · rintro (e | ⟨okPeer, err⟩) hans
    · cases hans
    · cases okPeer <;> cases hans
  · rintro (e | p) hans
    · cases hans
    · exact ⟨rfl, fun p hp => by rw [hresponse] at hp; cases hp⟩

theorem soundStep_protocol (serverConf clientConf : TlsConfig) (tcpHost : String) (tcpPort : ℤ) :
    ∀ c ∈ protocol serverConf clientConf tcpHost tcpPort, SoundStep c := by
  have hplain : ∀ {type role config payload}, type ≠ OpType.close →
      SoundStep ⟨executeCall type role config payload, judgeResponse⟩ :=
    fun htype => judgeWith_true ▸ soundStep_execute htype _
  intro c hc
  rcases List.mem_cons.mp hc with rfl | hc
  · exact hplain (by decide)
  rcases List.mem_append.mp hc with hc | hc
  · unfold clientProtocol at hc
    split at hc
    · rw [List.mem_singleton.mp hc]
      exact soundStep_execute (by decide) _
    · simp only [List.mem_cons, List.not_mem_nil, or_false] at hc
      rcases hc with rfl | rfl
      · exact soundStep_execute (by decide) _
      · exact hplain (by decide)
  · simp only [roundTripProtocol, List.mem_cons, List.not_mem_nil, or_false] at hc
    rcases hc with rfl | rfl | rfl
    · exact soundStep_wait _ _ _
    · exact hplain (by decide)
    · exact soundStep_execute (by decide) _

section

variable {cs : List (CheckedCall DriverAns Stop)} {tr : List (Event DriverAns)}

/-- Accepted events are test calls that did not raise, with plain successes as responses. -/
theorem of_mem_accepted (hsound : ∀ c ∈ cs, SoundStep c)
    (h : List.Forall₂ CheckedCall.Accepts cs tr) {e : Event DriverAns} (he : e ∈ tr) :
    isTestCall e.1 = true ∧ raised e = false ∧
      ∀ p, response? e = some p → p.2.isPlainSuccess = true := by
  induction h with
  | nil => exact absurd he List.not_mem_nil
  | @cons c e' cs tr hacc _ ih =>
    rcases List.mem_cons.mp he with rfl | he
    · obtain ⟨ans, rfl, hans⟩ := hacc
      have hc := hsound c List.mem_cons_self
      exact ⟨hc.test, hc.accept ans hans⟩
    · exact ih (fun c' hc' => hsound c' (List.mem_cons_of_mem _ hc')) he

/-- Every event of a run of a protocol is a call of the test. -/
theorem testEvents_of_runs {v : Option Stop} (hsound : ∀ c ∈ cs, SoundStep c)
    (h : CheckedCall.Runs cs tr v) : testEvents tr = tr := by
  rw [testEvents, List.filter_eq_self]
  intro e he
  cases v with
  | none => exact (of_mem_accepted hsound h.accepted he).1
  | some s =>
    obtain ⟨cs₁, c, cs₂, tr₁, ans, rfl, rfl, hacc, -⟩ := h.stopped
    rcases List.mem_append.mp he with he | he
    · exact (of_mem_accepted (fun c' hc' => hsound c' (List.mem_append_left _ hc')) hacc he).1
    · rw [List.mem_singleton.mp he]
      exact (hsound c (List.mem_append_right _ List.mem_cons_self)).test

theorem map_fst_of_accepted (h : List.Forall₂ CheckedCall.Accepts cs tr) :
    tr.map Sigma.fst = cs.map CheckedCall.call := by
  induction h with
  | nil => rfl
  | cons hacc _ ih =>
    obtain ⟨ans, rfl, -⟩ := hacc
    rw [List.map_cons, List.map_cons, ih]

/-- Only plain successes are found among the responses of accepted events. -/
theorem find?_of_accepted (hsound : ∀ c ∈ cs, SoundStep c)
    (h : List.Forall₂ CheckedCall.Accepts cs tr) :
    (tr.filterMap response?).find? (fun p => !p.2.isPlainSuccess) = none := by
  rw [List.find?_eq_none]
  intro p hp
  obtain ⟨e, he, hresp⟩ := List.mem_filterMap.mp hp
  rw [(of_mem_accepted hsound h he).2.2 p hresp]
  exact Bool.false_ne_true

/-- **A run is skipped** exactly when its verdict is. -/
theorem skipped_iff {v : Option Stop} {tr' : List (Event DriverAns)}
    (hsound : ∀ c ∈ cs, SoundStep c) (h : CheckedCall.Runs cs tr v) (htr : testEvents tr' = tr) :
    Skipped tr' ↔ v = some .skipped := by
  unfold Skipped testResponses
  rw [htr]
  cases v with
  | none =>
    -- no step of an accepted test asks to skip
    refine iff_of_false ?_ nofun
    rintro ⟨-, p, hp, -⟩
    rw [find?_of_accepted hsound h.accepted] at hp
    cases hp
  | some s =>
    -- the steps before the last one do not count
    obtain ⟨cs₁, c, cs₂, tr₁, ans, rfl, rfl, hacc, hstop⟩ := h.stopped
    have hsound₁ : ∀ c' ∈ cs₁, SoundStep c' := fun c' hc' => hsound c' (List.mem_append_left _ hc')
    have hc : SoundStep c := hsound c (List.mem_append_right _ List.mem_cons_self)
    rw [List.filterMap_append, List.find?_append, find?_of_accepted hsound₁ hacc, Option.none_or]
    cases s with
    | raised e =>
      refine iff_of_false ?_ nofun
      rintro ⟨hno, -⟩
      have hlast := hno ⟨c.call, ans⟩ (List.mem_append_right _ (List.mem_singleton_self _))
      rw [hc.raise ans e hstop] at hlast
      cases hlast
    | skipped =>
      obtain ⟨hraised, p, hresp, hskip⟩ := hc.skip ans hstop
      refine iff_of_true ⟨fun e he => ?_, p, ?_, hskip⟩ rfl
      · rcases List.mem_append.mp he with he | he
        · exact (of_mem_accepted hsound₁ hacc he).2.1
        · rw [List.mem_singleton.mp he]
          exact hraised
      · simp [hresp, isPlainSuccess_of_isSkip hskip]
    | failed =>
      obtain ⟨-, hskip⟩ := hc.fail ans hstop
      refine iff_of_false ?_ nofun
      rintro ⟨-, p, hp, hp'⟩
      have hmem := List.mem_of_find?_eq_some hp
      obtain ⟨e, he, hresp⟩ := List.mem_filterMap.mp hmem
      rw [List.mem_singleton.mp he] at hresp
      rw [hskip p hresp] at hp'
      cases hp'

end

/-! ### Passing -/

section

variable {serverConf clientConf : TlsConfig} {tcpHost : String} {tcpPort : ℤ}
  {tr tr' : List (Event DriverAns)}

/-- The calls before the last one. -/
def leadingProtocol (serverConf clientConf : TlsConfig) (tcpHost : String) (tcpPort : ℤ) :
    List (CheckedCall DriverAns Stop) :=
  ⟨executeCall .establish .server serverConf [], judgeResponse⟩
    :: (clientProtocol clientConf (usesResumption clientConf)
      ++ [⟨.waitTcp tcpHost tcpPort tcpAfterEstablishS, judgeWait⟩,
        ⟨executeCall .transmit .client {} testPayload, judgeResponse⟩])

/-- The check of the echo is the last call of a test. -/
def echoStep : CheckedCall DriverAns Stop :=
  ⟨executeCall .transmit .server {} [],
    judgeWith fun resp => decide (testPayload <:+: resp.outputData)⟩

theorem protocol_eq : protocol serverConf clientConf tcpHost tcpPort
    = leadingProtocol serverConf clientConf tcpHost tcpPort ++ [echoStep] := by
  simp [protocol, leadingProtocol, roundTripProtocol, echoStep]

theorem map_call_protocol : (protocol serverConf clientConf tcpHost tcpPort).map CheckedCall.call
    = testCalls serverConf clientConf tcpHost tcpPort := by
  unfold protocol testCalls clientProtocol
  cases usesResumption clientConf <;> rfl

/-- No call before the last one is a TRANSMIT of the server. -/
theorem not_isRequest_of_leading {c : CheckedCall DriverAns Stop}
    (hc : c ∈ leadingProtocol serverConf clientConf tcpHost tcpPort) {ans : DriverAns c.call}
    {p : OperationRequest × OperationResponse} (hp : response? ⟨c.call, ans⟩ = some p) :
    isRequest .transmit .server p.1 = false := by
  have hrequest : ∀ {type role config payload} {ans : Except PyExc OperationResponse}
      {p : OperationRequest × OperationResponse},
      response? ⟨executeCall type role config payload, ans⟩ = some p →
        isRequest .transmit .server p.1 = (type == .transmit && role == .server) := by
    intro type role config payload ans p hp
    cases ans with
    | error e => cases hp
    | ok resp =>
      rw [← Option.some.inj hp]
      rfl
  rcases List.mem_cons.mp hc with rfl | hc
  · exact hrequest hp
  rcases List.mem_append.mp hc with hc | hc
  · unfold clientProtocol at hc
    split at hc
    · obtain rfl := List.mem_singleton.mp hc
      exact hrequest hp
    · simp only [List.mem_cons, List.not_mem_nil, or_false] at hc
      rcases hc with rfl | rfl
      · exact hrequest hp
      · exact hrequest hp
  · simp only [List.mem_cons, List.not_mem_nil, or_false] at hc
    rcases hc with rfl | rfl
    · cases hp
    · exact hrequest hp

/-- The first two calls: the server, and the client connection the HRR assertion is about. -/
theorem protocol_head : ∃ conf more, protocol serverConf clientConf tcpHost tcpPort
    = ⟨executeCall .establish .server serverConf [], judgeResponse⟩
      :: ⟨executeCall .establish .client conf [], judgeWith (hrrHolds clientConf)⟩ :: more := by
  unfold protocol clientProtocol
  cases usesResumption clientConf with
  | false => exact ⟨_, _, rfl⟩
  | true => exact ⟨_, _, rfl⟩

theorem exists_of_mem_accepted {cs : List (CheckedCall DriverAns Stop)}
    (h : List.Forall₂ CheckedCall.Accepts cs tr) {e : Event DriverAns} (he : e ∈ tr) :
    ∃ c ∈ cs, CheckedCall.Accepts c e := by
  induction h with
  | nil => exact absurd he List.not_mem_nil
  | @cons c e' cs tr hacc _ ih =>
    rcases List.mem_cons.mp he with rfl | he
    · exact ⟨c, List.mem_cons_self, hacc⟩
    · obtain ⟨c', hc', hacc'⟩ := ih he
      exact ⟨c', List.mem_cons_of_mem _ hc', hacc'⟩

theorem exists_of_call_accepted {cs : List (CheckedCall DriverAns Stop)}
    (h : List.Forall₂ CheckedCall.Accepts cs tr) {c : CheckedCall DriverAns Stop} (hc : c ∈ cs) :
    ∃ e ∈ tr, CheckedCall.Accepts c e := by
  induction h with
  | nil => exact absurd hc List.not_mem_nil
  | @cons c' e' cs tr hacc _ ih =>
    rcases List.mem_cons.mp hc with rfl | hc
    · exact ⟨e', List.mem_cons_self, hacc⟩
    · obtain ⟨e, he, hacc'⟩ := ih hc
      exact ⟨e, List.mem_cons_of_mem _ he, hacc'⟩

/-- An accepted response is a plain success that meets the further condition. -/
theorem exists_of_judgeWith_eq_none {accepts : OperationResponse → Bool}
    {ans : Except PyExc OperationResponse} (h : judgeWith accepts ans = none) :
    ∃ resp, ans = .ok resp ∧ resp.isPlainSuccess = true ∧ accepts resp = true := by
  cases ans with
  | error e => cases h
  | ok resp =>
    rw [judgeWith_ok] at h
    split at h
    · next hplain =>
      split at h
      · next ha => exact ⟨resp, rfl, hplain, ha⟩
      · cases h
    · split at h <;> cases h

/-- What a run that goes through has shown. -/
theorem passed_of_accepted (htr : testEvents tr' = tr)
    (h : List.Forall₂ CheckedCall.Accepts (protocol serverConf clientConf tcpHost tcpPort) tr) :
    Passed serverConf clientConf tcpHost tcpPort tr' := by
  have hsound := soundStep_protocol serverConf clientConf tcpHost tcpPort
  have hresponses : testResponses tr' = tr.filterMap response? := by rw [testResponses, htr]
  have hsub : ∀ e ∈ tr, e ∈ tr' := fun e he => (List.mem_filter.mp (htr ▸ he)).1
  refine ⟨?_, ?_, ?_, ?_, ?_, ?_⟩
  · -- the calls of the test, in order
    rw [htr, map_fst_of_accepted h, map_call_protocol]
  · -- none of them raised
    rw [htr]
    exact fun e he => (of_mem_accepted hsound h he).2.1
  · -- all responses are plain successes
    rw [hresponses]
    intro p hp
    obtain ⟨e, he, hresp⟩ := List.mem_filterMap.mp hp
    exact (of_mem_accepted hsound h he).2.2 p hresp
  · -- the TCP wait
    have hmem : (⟨.waitTcp tcpHost tcpPort tcpAfterEstablishS, judgeWait⟩ :
        CheckedCall DriverAns Stop) ∈ protocol serverConf clientConf tcpHost tcpPort := by
      simp [protocol, roundTripProtocol]
    obtain ⟨e, he, ans, rfl, hans⟩ := exists_of_call_accepted h hmem
    rcases ans with e' | ⟨okPeer, err⟩
    · cases hans
    · cases okPeer with
      | true => exact ⟨err, hsub _ he⟩
      | false => cases hans
  · -- the HRR assertion
    intro hexpect
    obtain ⟨conf, more, hhead⟩ : ∃ conf more, protocol serverConf clientConf tcpHost tcpPort = _ :=
      protocol_head
    rw [hhead] at h
    rcases h with _ | ⟨⟨ans₀, rfl, hans₀⟩, _ | ⟨⟨ans₁, rfl, hans₁⟩, hmore⟩⟩
    obtain ⟨resp₁, rfl, -, hhrr⟩ := exists_of_judgeWith_eq_none hans₁
    rw [← judgeWith_true] at hans₀
    obtain ⟨resp₀, rfl, -, -⟩ := exists_of_judgeWith_eq_none hans₀
    rw [hresponses]
    refine ⟨_, rfl, ?_⟩
    rw [hrrHolds, hexpect] at hhrr
    simpa using hhrr
  · -- the echo
    have hmem : echoStep ∈ protocol serverConf clientConf tcpHost tcpPort := by simp [protocol_eq]
    obtain ⟨e, he, ans, rfl, hans⟩ := exists_of_call_accepted h hmem
    obtain ⟨resp, rfl, -, hecho⟩ := exists_of_judgeWith_eq_none hans
    rw [hresponses]
    exact ⟨_, List.mem_filterMap.mpr ⟨_, he, rfl⟩, rfl, by simpa using hecho⟩

/-- **A run passes** exactly when nothing stops it. -/
theorem passed_iff {v : Option Stop}
    (h : CheckedCall.Runs (protocol serverConf clientConf tcpHost tcpPort) tr v)
    (htr : testEvents tr' = tr) : Passed serverConf clientConf tcpHost tcpPort tr' ↔ v = none := by
  refine ⟨fun hpassed => ?_, fun hv => passed_of_accepted htr (hv ▸ h).accepted⟩
  cases v with
  | none => rfl
  | some s =>
    -- a trace that passes has no answer the test stops at
    exfalso
    have hsound := soundStep_protocol serverConf clientConf tcpHost tcpPort
    obtain ⟨cs₁, c, cs₂, tr₁, ans, hcs, rfl, hacc, hstop⟩ := h.stopped
    -- all calls were made: the run stopped at the last one
    have hlength : tr₁.length + 1 = cs₁.length + 1 + cs₂.length := by
      have hcalls := congrArg List.length hpassed.calls
      rw [htr, ← map_call_protocol, hcs] at hcalls
      simp only [List.length_map, List.length_append, List.length_cons, List.length_nil] at hcalls
      omega
    obtain rfl : cs₂ = [] := by
      rw [hacc.length_eq] at hlength
      exact List.eq_nil_of_length_eq_zero (by omega)
    rw [protocol_eq] at hcs
    obtain ⟨rfl, hc⟩ := List.append_inj' hcs rfl
    obtain rfl : echoStep = c := List.singleton_inj.mp hc
    have hmem : echoStep ∈ protocol serverConf clientConf tcpHost tcpPort := by simp [protocol_eq]
    have hlast : (⟨echoStep.call, ans⟩ : Event DriverAns) ∈ tr₁ ++ [⟨echoStep.call, ans⟩] :=
      List.mem_append_right _ (List.mem_singleton_self _)
    have hresponses : testResponses tr'
        = (tr₁ ++ [(⟨echoStep.call, ans⟩ : Event DriverAns)]).filterMap response? := by
      rw [testResponses, htr]
    have hno := hpassed.no_raise ⟨echoStep.call, ans⟩ (htr ▸ hlast)
    rcases ans with e | resp
    · cases hno
    have hplain : resp.isPlainSuccess = true := by
      refine hpassed.success ({ type := .transmit, role := .server }, resp) ?_
      rw [hresponses]
      exact List.mem_filterMap.mpr ⟨_, hlast, rfl⟩
    -- the only response to a TRANSMIT of the server is the last one, and it has the payload
    obtain ⟨p, hp, hrequest, hecho⟩ := hpassed.echo
    rw [hresponses] at hp
    obtain ⟨e, he, hresp⟩ := List.mem_filterMap.mp hp
    rcases List.mem_append.mp he with he | he
    · obtain ⟨c', hc', ans', rfl, -⟩ := exists_of_mem_accepted hacc he
      rw [not_isRequest_of_leading hc' hresp] at hrequest
      cases hrequest
    · rw [List.mem_singleton.mp he] at hresp
      cases hresp
      have hjudge : judgeWith (fun resp => decide (testPayload <:+: resp.outputData)) (.ok resp)
          = some s := hstop
      rw [judgeWith_ok, if_pos hplain, if_pos (by simpa using hecho)] at hjudge
      cases hjudge

end

/-! ### The code of a cell -/

/-- The calls of the test among the events of a cell whose worker has ended. -/
theorem testEvents_ended {cs : List (CheckedCall DriverAns Stop)} {tr tr' : List (Event DriverAns)}
    {v : Option Stop} (hsound : ∀ c ∈ cs, SoundStep c) (hrun : CheckedCall.Runs cs tr v)
    (haux : Auxiliary tr') : testEvents (⟨.joinWorker, none⟩ :: (tr ++ tr')) = tr := by
  change testEvents (tr ++ tr') = tr
  rw [testEvents_append, testEvents_of_runs hsound hrun, testEvents_of_auxiliary haux,
    List.append_nil]

/-- A cell whose worker has ended is no timeout. -/
theorem not_timedOut_ended {cs : List (CheckedCall DriverAns Stop)}
    {tr tr' : List (Event DriverAns)} {v : Option Stop} (hsound : ∀ c ∈ cs, SoundStep c)
    (hrun : CheckedCall.Runs cs tr v) (haux : Auxiliary tr') :
    ¬ TimedOut (⟨.joinWorker, none⟩ :: (tr ++ tr')) := by
  rintro ⟨noted, hmem⟩
  rcases List.mem_cons.mp hmem with h | h
  · cases h
  rcases List.mem_append.mp h with h | h
  · have htest := (List.mem_filter.mp (testEvents_of_runs hsound hrun ▸ h)).2
    cases htest
  · exact not_timedOut_of_auxiliary haux ⟨noted, h⟩

/-- **The meaning of the code of a cell**, for every pair of configurations and
every behaviour of the wrappers, when the stubs can be created, the logs can be
written and no CLOSE asks to skip.  The four verdicts are predicates on the trace: what
the deadline, the answers and the messages were.  The code is computed from flags the
driver has set on its way, and the protocol of the test relates the two. -/
theorem cell_verdict {addresses : String × String} {run : CellRun}
    {serverConf clientConf : TlsConfig} {tcpHost : String} {tcpPort : ℤ} {wroot : String}
    {d d' : InteropDriver} {tr : List (Event DriverAns)} {r : Except PyExc ℤ}
    (hexec : (executeConfiguredCell (.ok addresses) run serverConf clientConf tcpHost tcpPort
      wroot).Exec d tr r d')
    (htext : run.LogText) (hlogs : LogsWritten tr) (hclose : ClosesPlain tr) :
    ∃ rc, r = .ok rc ∧ (rc = exitTimeout ↔ TimedOut tr) ∧ (¬ TimedOut tr →
      (rc = 0 ↔ Passed serverConf clientConf tcpHost tcpPort tr) ∧
      (rc = exitSkip ↔ Skipped tr) ∧
      (¬ Passed serverConf clientConf tcpHost tcpPort tr → ¬ Skipped tr → rc = 1)) := by
  obtain ⟨rc, rfl, hshape⟩ := executeConfiguredCell_shape hexec htext hlogs hclose
  refine ⟨rc, rfl, ?_⟩
  cases hshape with
  | @timeout noted tr₁ haux =>
    have htimeout : TimedOut (⟨.joinWorker, some noted⟩ :: tr₁) := ⟨noted, List.mem_cons_self⟩
    exact ⟨iff_of_true rfl htimeout, fun hno => absurd htimeout hno⟩
  | @ended tr₁ tr₂ v hrun haux =>
    have hsound := soundStep_protocol serverConf clientConf tcpHost tcpPort
    have htr := testEvents_ended hsound hrun haux
    have hno := not_timedOut_ended hsound hrun haux
    rw [passed_iff hrun htr, skipped_iff hsound hrun htr]
    rcases v with _ | ⟨e⟩ | _ | _
    all_goals simp [verdictCode, exitTimeout, exitSkip, hno]

/-- Wrappers that answer every call as a passing test needs it. -/
def friendlyEnv : Prog.Env DriverAns
  | _, .execute .. => .ok { status := .success, outputData := testPayload }
  | _, .waitTcp .. => .ok (true, "")
  | _, .joinWorker => none
  | _, .rejoinWorker => ()
  | _, .workerNotes => []
  | _, .writeLog .. => .ok ()
  | _, .unlink _ => ()

/-- A cell without options, between the wrappers of two addresses. -/
def plainCell : DriverM ℤ :=
  executeConfiguredCell (.ok ("127.0.0.1:15051", "127.0.0.1:15052"))
    { server := "openssl", client := "gnutls", cell := [], debugLogs := true } {} {} "127.0.0.1" 5555
    "/repo"

/-- The run of the plain cell with friendly wrappers passes. -/
theorem plainCell_passes :
    Passed {} {} "127.0.0.1" 5555 ((plainCell.prog {}).exec friendlyEnv []).2 := by
  have hanswer {e : Event DriverAns} (he : e ∈ ((plainCell.prog {}).exec friendlyEnv []).2) :
      ∃ past, e.2 = friendlyEnv past e.1 := Prog.exists_past_of_mem_exec he
  have htext : CellRun.LogText ⟨"openssl", "gnutls", [], true⟩ := fun _ => ⟨"", by decide +kernel⟩
  have hno : ¬ TimedOut ((plainCell.prog {}).exec friendlyEnv []).2 := by
    rintro ⟨noted, he⟩
    obtain ⟨past, h⟩ := hanswer he
    cases h
  have hzero : ((plainCell.prog {}).exec friendlyEnv []).1.1 = .ok 0 := by decide +kernel
  refine (cell_verdict (Prog.runs_exec friendlyEnv (plainCell.prog {}) []) htext
    (fun _ _ _ _ _ he => (hanswer he).choose_spec) (fun _ _ _ resp he _ => ?_)).elim
    fun rc h => (h.2.2 hno).1.mp (Except.ok.inj (hzero.symm.trans h.1)).symm
  obtain ⟨past, h⟩ := hanswer he
  obtain rfl : resp = { status := .success, outputData := testPayload } := Except.ok.inj h
  decide

end TlsInterop
