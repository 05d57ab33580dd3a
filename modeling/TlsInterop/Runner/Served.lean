import TlsInterop.Effects.World
import TlsInterop.Runner.Main
import TlsInterop.Runner.Trace
import TlsInterop.Wrappers.Responses

/-!
# The wrappers behind the driver

The driver asks, and the wrappers carry out: each of them is one servicer with its
fields, whose single worker handles one operation at a time.  Put together, a test
that passes has moved its payload from the stdin of the client's process to the
stdout of the server's.

## Main definitions

* `Deployment`, `Fleet` — the wrappers of a cell, and what all wrappers hold and did.
* `ServeStep` — what a call of the driver does in the wrappers.
* `Delivered` — the way of the payload of a test through the wrappers.

## Main results

* `delivered_of_accepted` — a test whose calls are all accepted has delivered its payload.
* `delivered_of_pass` — **the payload of a cell with the code 0 was delivered.**
-/

namespace TlsInterop

open Py Effects InteropDriver

/-! ### The wrappers -/

/-- The wrappers of a cell: the names of the two that its stubs call, and what runs
under each name. -/
structure Deployment where
  server : String
  client : String
  backend : String → CliBackend

/-- The name of the wrapper that a stub calls. -/
def Deployment.serving (dep : Deployment) (toServer : Bool) : String :=
  if toServer then dep.server else dep.client

/-- The fields of each wrapper, and what has happened in them so far. -/
structure Fleet where
  wrapper : String → WrapperState
  log : List (String × Event WrapperAns) := []

namespace Fleet

/-- The events of one wrapper, among those of all. -/
def tag (name : String) (tr : List (Event WrapperAns)) : List (String × Event WrapperAns) :=
  tr.map (name, ·)

/-- An operation was carried out in a wrapper. -/
def after (fleet : Fleet) (name : String) (tr : List (Event WrapperAns)) (s : WrapperState) :
    Fleet where
  wrapper := Function.update fleet.wrapper name s
  log := fleet.log ++ tag name tr

variable {fleet : Fleet} {name : String} {tr : List (Event WrapperAns)} {s : WrapperState}

@[simp] theorem after_wrapper_self : (fleet.after name tr s).wrapper name = s :=
  Function.update_self ..

theorem after_wrapper_of_ne {name' : String} (h : name' ≠ name) :
    (fleet.after name tr s).wrapper name' = fleet.wrapper name' :=
  Function.update_of_ne h ..

/-- An operation that leaves the process of a side leaves it in every wrapper. -/
theorem after_procOf {server : Bool} (h : s.procOf server = (fleet.wrapper name).procOf server)
    (name' : String) :
    ((fleet.after name tr s).wrapper name').procOf server = (fleet.wrapper name').procOf server := by
  by_cases hname : name' = name
  · rw [hname, after_wrapper_self, h]
  · rw [after_wrapper_of_ne hname]

end Fleet

/-- What a call of the driver does in the wrappers. -/
inductive ServeStep (dep : Deployment) : Fleet → Event DriverAns → Fleet → Prop
  /-- The operation is carried out, and its response arrives. -/
  | answered {fleet : Fleet} {toServer : Bool} {request : OperationRequest} {timeoutS : Option ℚ}
      {resp : OperationResponse} {tr : List (Event WrapperAns)} {s : WrapperState}
      (hexec : (executeOperation (dep.backend (dep.serving toServer)) request).Exec
        (fleet.wrapper (dep.serving toServer)) tr (.ok resp) s) :
      ServeStep dep fleet ⟨.execute toServer request timeoutS, .ok resp⟩
        (fleet.after (dep.serving toServer) tr s)
  /-- The operation is carried out, and its response is lost. -/
  | lost {fleet : Fleet} {toServer : Bool} {request : OperationRequest} {timeoutS : Option ℚ}
      {resp : OperationResponse} {tr : List (Event WrapperAns)} {s : WrapperState} {e : PyExc}
      (hexec : (executeOperation (dep.backend (dep.serving toServer)) request).Exec
        (fleet.wrapper (dep.serving toServer)) tr (.ok resp) s) :
      ServeStep dep fleet ⟨.execute toServer request timeoutS, .error e⟩
        (fleet.after (dep.serving toServer) tr s)
  /-- The operation does not reach its wrapper. -/
  | refused {fleet : Fleet} {toServer : Bool} {request : OperationRequest} {timeoutS : Option ℚ}
      {e : PyExc} : ServeStep dep fleet ⟨.execute toServer request timeoutS, .error e⟩ fleet
  /-- The other calls do not go to the wrappers. -/
  | other {fleet : Fleet} {q : DriverCall} {ans : DriverAns q} (hq : operationOf q = none) :
      ServeStep dep fleet ⟨q, ans⟩ fleet

/-- What happens in the wrappers is added to what has happened. -/
theorem log_of_served {dep : Deployment} {fleet fleet' : Fleet} {tr : List (Event DriverAns)}
    (h : Evolves (ServeStep dep) fleet tr fleet') : fleet.log <+: fleet'.log := by
  induction h with
  | nil fleet => exact List.prefix_rfl
  | cons hstep _ ih =>
    refine List.IsPrefix.trans ?_ ih
    cases hstep with
    | answered _ => exact List.prefix_append ..
    | lost _ => exact List.prefix_append ..
    | refused => exact List.prefix_rfl
    | other _ => exact List.prefix_rfl

/-! ### One accepted call after another -/

section

variable {dep : Deployment} {fleet₀ fleet fleet' : Fleet} {e : Event DriverAns}
  {tr : List (Event DriverAns)}

/-- An accepted operation was carried out, with a plain success. -/
theorem served_of_accepts {type : OpType} {role : Role} {config : TlsConfig}
    {payload : List UInt8} {accepts : OperationResponse → Bool}
    (hacc : CheckedCall.Accepts ⟨executeCall type role config payload, judgeWith accepts⟩ e)
    (h : Evolves (ServeStep dep) fleet (e :: tr) fleet') :
    ∃ resp wtr s, resp.isPlainSuccess = true ∧ accepts resp = true ∧
      (executeOperation (dep.backend (dep.serving (role == .server)))
        { type, role, payload, config }).Exec (fleet.wrapper (dep.serving (role == .server))) wtr
          (.ok resp) s ∧
      Evolves (ServeStep dep) (fleet.after (dep.serving (role == .server)) wtr s) tr fleet' := by
  obtain ⟨ans, rfl, hans⟩ := hacc
  obtain ⟨resp, rfl, hplain, haccepts⟩ := exists_of_judgeWith_eq_none hans
  obtain ⟨fleet₁, hstep, hrest⟩ := evolves_cons_iff.mp h
  cases hstep with
  | answered hexec => exact ⟨resp, _, _, hplain, haccepts, hexec, hrest⟩
  | other hq => cases hq

/-- An accepted wait does nothing in the wrappers. -/
theorem served_of_wait {host : String} {port : ℤ} {timeoutS : ℚ}
    {judge : DriverAns (.waitTcp host port timeoutS) → Option Stop}
    (hacc : CheckedCall.Accepts ⟨.waitTcp host port timeoutS, judge⟩ e)
    (h : Evolves (ServeStep dep) fleet (e :: tr) fleet') :
    Evolves (ServeStep dep) fleet tr fleet' := by
  obtain ⟨ans, rfl, -⟩ := hacc
  obtain ⟨fleet₁, hstep, hrest⟩ := evolves_cons_iff.mp h
  cases hstep with
  | other _ => exact hrest

/-- The events have happened, in this order, since the fleet was as it was before. -/
def Since (fleet₀ : Fleet) (events : List (String × Event WrapperAns)) (fleet : Fleet) : Prop :=
  ∃ log, fleet.log = fleet₀.log ++ log ∧ events.Sublist log

theorem since_refl (fleet : Fleet) : Since fleet [] fleet :=
  ⟨[], (List.append_nil _).symm, .slnil⟩

/-- What an operation did comes after what happened before it. -/
theorem Since.after {events : List (String × Event WrapperAns)} (h : Since fleet₀ events fleet)
    {name : String} {wtr did : List (Event WrapperAns)} (hdid : did.Sublist wtr) (s : WrapperState) :
    Since fleet₀ (events ++ Fleet.tag name did) (fleet.after name wtr s) := by
  obtain ⟨log, hlog, hevents⟩ := h
  refine ⟨log ++ Fleet.tag name wtr, ?_, hevents.append (hdid.map _)⟩
  rw [Fleet.after, hlog, List.append_assoc]

theorem Since.sublist {events some : List (String × Event WrapperAns)} (h : Since fleet₀ events fleet)
    (hsome : some.Sublist events) : Since fleet₀ some fleet := by
  obtain ⟨log, hlog, hevents⟩ := h
  exact ⟨log, hlog, hsome.trans hevents⟩

theorem Since.mono {events : List (String × Event WrapperAns)} (h : Since fleet₀ events fleet)
    (hlog : fleet.log <+: fleet'.log) : Since fleet₀ events fleet' := by
  obtain ⟨log, hlog₀, hevents⟩ := h
  obtain ⟨more, hmore⟩ := hlog
  refine ⟨log ++ more, ?_, hevents.trans (List.sublist_append_left log more)⟩
  rw [← hmore, hlog₀, List.append_assoc]

end

/-! ### The way of the payload -/

/-- The configuration of the last client connection of a test. -/
def lastConf (clientConf : TlsConfig) : TlsConfig :=
  if usesResumption clientConf then stepConf clientConf "resume" else clientConf

/-- The way of the payload: a server is started and listens, a client is started, reaches
its peer and stays, the payload is written to the client and read from the server, and both
were running then. -/
def way (dep : Deployment) (serverConf clientConf : TlsConfig) (serverLaunch clientLaunch : Launch)
    (server client : CliProc) (clientOut serverOut : List UInt8) (clientS serverS : ℚ) :
    List (String × Event WrapperAns) :=
  Fleet.tag dep.server (launched serverLaunch server ::
      [⟨.tcpAttempt "127.0.0.1" serverConf.port, .ok none⟩]) ++
    Fleet.tag dep.client (launched clientLaunch client ::
      [⟨.tcpAttempt (peerHost clientConf) clientConf.port, .ok none⟩,
        ⟨.poll client, (none : Option ℤ)⟩]) ++
    Fleet.tag dep.client (exchange .client testPayload clientOut clientS client) ++
    Fleet.tag dep.server (exchange .server [] serverOut serverS server)

/-- The payload of a test was delivered. -/
def Delivered (dep : Deployment) (serverConf clientConf : TlsConfig) (fleet fleet' : Fleet) : Prop :=
  ∃ serverLaunch clientLaunch server client clientOut serverOut clientS serverS,
    Prepares ((dep.backend dep.server).startServer serverConf) serverLaunch ∧
    Prepares ((dep.backend dep.client).startClient (lastConf clientConf)) clientLaunch ∧
    Since fleet (way dep serverConf (lastConf clientConf) serverLaunch clientLaunch server client
      clientOut serverOut clientS serverS) fleet' ∧
    testPayload <:+: serverOut

theorem Delivered.mono {dep : Deployment} {serverConf clientConf : TlsConfig}
    {fleet fleet₁ fleet' : Fleet} (h : Delivered dep serverConf clientConf fleet fleet₁)
    (hlog : fleet₁.log <+: fleet'.log) : Delivered dep serverConf clientConf fleet fleet' := by
  obtain ⟨serverLaunch, clientLaunch, server, client, clientOut, serverOut, clientS, serverS,
    hserver, hclient, hway, hecho⟩ := h
  exact ⟨serverLaunch, clientLaunch, server, client, clientOut, serverOut, clientS, serverS,
    hserver, hclient, hway.mono hlog, hecho⟩

section

variable {dep : Deployment} {fleet₀ fleet fleet' : Fleet} {e : Event DriverAns}
  {tr : List (Event DriverAns)} {prior : List (String × Event WrapperAns)}
  {serverConf clientConf : TlsConfig} {tcpHost : String} {tcpPort : ℤ} {server client : CliProc}

/-- An accepted ESTABLISH of the server. -/
theorem served_server {accepts : OperationResponse → Bool}
    (hacc : CheckedCall.Accepts
      ⟨executeCall .establish .server serverConf [], judgeWith accepts⟩ e)
    (h : Evolves (ServeStep dep) fleet (e :: tr) fleet') :
    ∃ launch server fleet₁, Prepares ((dep.backend dep.server).startServer serverConf) launch ∧
      (fleet₁.wrapper dep.server).procOf true = some server ∧
      Since fleet (Fleet.tag dep.server (launched launch server ::
        [⟨.tcpAttempt "127.0.0.1" serverConf.port, .ok none⟩])) fleet₁ ∧
      Evolves (ServeStep dep) fleet₁ tr fleet' := by
  obtain ⟨resp, wtr, s, hplain, -, hexec, hrest⟩ := served_of_accepts hacc h
  obtain ⟨launch, server, hstarted⟩ := serverUp_of_establish rfl rfl hexec hplain
  refine ⟨launch, server, _, hstarted.prepares, ?_, (since_refl fleet).after hstarted.watched s, hrest⟩
  rw [← hstarted.own]
  exact congrArg (WrapperState.procOf · true) Fleet.after_wrapper_self

/-- An accepted ESTABLISH of the client leaves the server. -/
theorem served_client {accepts : OperationResponse → Bool} {conf : TlsConfig}
    (hacc : CheckedCall.Accepts ⟨executeCall .establish .client conf [], judgeWith accepts⟩ e)
    (h : Evolves (ServeStep dep) fleet (e :: tr) fleet')
    (hserver : (fleet.wrapper dep.server).procOf true = some server)
    (hprior : Since fleet₀ prior fleet) :
    ∃ launch client fleet₁, Prepares ((dep.backend dep.client).startClient conf) launch ∧
      (fleet₁.wrapper dep.server).procOf true = some server ∧
      (fleet₁.wrapper dep.client).procOf false = some client ∧
      Since fleet₀ (prior ++ Fleet.tag dep.client (launched launch client ::
        [⟨.tcpAttempt (peerHost conf) conf.port, .ok none⟩, ⟨.poll client, (none : Option ℤ)⟩])) fleet₁ ∧
      Evolves (ServeStep dep) fleet₁ tr fleet' := by
  obtain ⟨resp, wtr, s, hplain, -, hexec, hrest⟩ := served_of_accepts hacc h
  have hrole : Role.client ≠ .server := by decide
  obtain ⟨launch, client, hstarted⟩ := clientUp_of_establish rfl hrole hexec hplain
  refine ⟨launch, client, _, hstarted.prepares, ?_, ?_, hprior.after hstarted.watched s, hrest⟩
  · exact (Fleet.after_procOf hstarted.other dep.server).trans hserver
  · rw [← hstarted.own]
    exact congrArg (WrapperState.procOf · false) Fleet.after_wrapper_self

/-- An accepted TRANSMIT leaves both processes. -/
theorem served_transmit {accepts : OperationResponse → Bool} {role : Role} {payload : List UInt8}
    (hacc : CheckedCall.Accepts ⟨executeCall .transmit role {} payload, judgeWith accepts⟩ e)
    (h : Evolves (ServeStep dep) fleet (e :: tr) fleet') (hprior : Since fleet₀ prior fleet) :
    ∃ p timeoutS resp fleet₁,
      (fleet.wrapper (dep.serving (role == .server))).proc role = some p ∧ accepts resp = true ∧
      (∀ name side, (fleet₁.wrapper name).procOf side = (fleet.wrapper name).procOf side) ∧
      Since fleet₀ (prior ++ Fleet.tag (dep.serving (role == .server))
        (exchange role payload resp.outputData timeoutS p)) fleet₁ ∧
      Evolves (ServeStep dep) fleet₁ tr fleet' := by
  obtain ⟨resp, wtr, s, hplain, haccepts, hexec, hrest⟩ := served_of_accepts hacc h
  obtain ⟨p, timeoutS, hproc, hexchange⟩ := exchange_of_transmit rfl hexec hplain
  have hwatches : watches.holds _ wtr s := executeOperation_effect hexec
  exact ⟨p, timeoutS, resp, _, hproc, haccepts,
    fun name side => Fleet.after_procOf (procOf_of_watches hwatches side) name,
    hprior.after hexchange s, hrest⟩

/-- The exchanges that follow the connections. -/
theorem served_roundTrip
    (hacc : List.Forall₂ CheckedCall.Accepts (roundTripProtocol tcpHost tcpPort) tr)
    (h : Evolves (ServeStep dep) fleet tr fleet')
    (hserver : (fleet.wrapper dep.server).procOf true = some server)
    (hclient : (fleet.wrapper dep.client).procOf false = some client)
    (hprior : Since fleet₀ prior fleet) :
    ∃ clientOut serverOut clientS serverS,
      Since fleet₀ (prior ++ Fleet.tag dep.client (exchange .client testPayload clientOut clientS client) ++
        Fleet.tag dep.server (exchange .server [] serverOut serverS server)) fleet' ∧
      testPayload <:+: serverOut := by
  rw [roundTripProtocol, ← judgeWith_true] at hacc
  obtain _ | ⟨hwait, _ | ⟨hsend, _ | ⟨hreceive, _ | _⟩⟩⟩ := hacc
  obtain ⟨p, clientS, sent, fleet₁, hp, -, hkeep, hsent, hrest⟩ :=
    served_transmit hsend (served_of_wait hwait h) hprior
  obtain ⟨q, serverS, received, fleet₂, hq, hecho, -, hreceived, hrest⟩ :=
    served_transmit hreceive hrest hsent
  obtain rfl : p = client := Option.some.inj (hp.symm.trans hclient)
  obtain rfl : q = server :=
    Option.some.inj (hq.symm.trans ((hkeep dep.server true).trans hserver))
  obtain rfl := evolves_nil_iff.mp hrest
  exact ⟨_, _, _, _, hreceived, of_decide_eq_true hecho⟩

/-- **The payload of a test whose protocol goes through was delivered.** -/
theorem delivered_of_accepted
    (hacc : List.Forall₂ CheckedCall.Accepts (protocol serverConf clientConf tcpHost tcpPort) tr)
    (h : Evolves (ServeStep dep) fleet tr fleet') :
    Delivered dep serverConf clientConf fleet fleet' := by
  rw [protocol, ← judgeWith_true] at hacc
  obtain _ | ⟨hestablish, hrest⟩ := hacc
  obtain ⟨serverLaunch, server, fleet₁, hserverHook, hserver, hup, hserved⟩ :=
    served_server hestablish h
  unfold Delivered lastConf
  unfold clientProtocol at hrest
  cases hresumption : usesResumption clientConf with
  | false =>
    rw [hresumption] at hrest
    obtain _ | ⟨hconnect, htrips⟩ := hrest
    obtain ⟨clientLaunch, client, fleet₂, hclientHook, hserver₂, hclient, hconnected, hserved₂⟩ :=
      served_client hconnect hserved hserver hup
    obtain ⟨clientOut, serverOut, clientS, serverS, hway, hecho⟩ :=
      served_roundTrip htrips hserved₂ hserver₂ hclient hconnected
    exact ⟨serverLaunch, clientLaunch, server, client, clientOut, serverOut, clientS, serverS,
      hserverHook, hclientHook, hway, hecho⟩
  | true =>
    -- the process of the first connection is replaced by that of the second
    rw [hresumption, ← judgeWith_true] at hrest
    obtain _ | ⟨hsave, _ | ⟨hresume, htrips⟩⟩ := hrest
    obtain ⟨_, _, fleet₂, -, hserver₂, -, hsaved, hserved₂⟩ :=
      served_client hsave hserved hserver hup
    obtain ⟨clientLaunch, client, fleet₃, hclientHook, hserver₃, hclient, hconnected, hserved₃⟩ :=
      served_client hresume hserved₂ hserver₂ (hsaved.sublist (List.sublist_append_left _ _))
    obtain ⟨clientOut, serverOut, clientS, serverS, hway, hecho⟩ :=
      served_roundTrip htrips hserved₃ hserver₃ hclient hconnected
    exact ⟨serverLaunch, clientLaunch, server, client, clientOut, serverOut, clientS, serverS,
      hserverHook, hclientHook, hway, hecho⟩

-- a run is not carried out to see what it is a run of
attribute [local irreducible] executeMatrixCell

/-- **The payload of a cell with the code 0 was delivered.**  The calls of the cell are served
by the wrappers; a response may be lost on its way, and a call may not reach its wrapper.
The code says that each response was a success; that a success of a wrapper means a running
process, a connected port or a written payload is a theorem about the wrapper's own code. -/
theorem delivered_of_pass {repo : Repo} {session : WrapperSession} {cell : Cell} {debugLogs : Bool}
    {d d' : InteropDriver}
    (h : (executeMatrixCell repo session cell debugLogs).Exec d tr (.ok 0) d')
    (hserved : Evolves (ServeStep dep) fleet tr fleet') :
    ∃ endpoint serverConf clientConf,
      cellSetup repo session cell = .ok (endpoint, serverConf, clientConf) ∧
      Delivered dep serverConf clientConf fleet fleet' := by
  obtain ⟨addresses, cellRun, endpoint, serverConf, clientConf, body, removal, d₁, hsetup, rfl, -,
    hrun⟩ := exec_executeMatrixCell_green h (.inl rfl)
  obtain ⟨test, server, client, v, ok, d₂, rfl, hruns, hv, hcode⟩ :=
    shape_of_runConfiguredCell hrun (.inl rfl)
  obtain rfl := eq_none_of_outcomeCode hv hcode.symm
  -- the test comes after the worker is joined, and before the CLOSE calls
  obtain ⟨fleet₁, hbody, hremoval⟩ := evolves_append_iff.mp hserved
  obtain ⟨fleet₂, hjoin, hrest⟩ := evolves_cons_iff.mp hbody
  obtain ⟨fleet₃, htest, hclose⟩ := evolves_append_iff.mp hrest
  cases hjoin with
  | other _ =>
    have hdelivered := delivered_of_accepted hruns.accepted htest
    exact ⟨endpoint, serverConf, clientConf, hsetup,
      hdelivered.mono ((log_of_served hclose).trans (log_of_served hremoval))⟩

/-! ### Wrappers that echo -/

/-- What has been written to the processes of a wrapper. -/
def written (past : List (Event WrapperAns)) : List UInt8 :=
  past.flatMap fun
    | ⟨.writeStdin _ data, _⟩ => data
    | _ => []

/-- Quiet processes that print what is written. -/
def echoEnv : Prog.Env WrapperAns
  | past, .readStdout .. => written past
  | past, q => quietEnv past q

/-- An operation, carried out with such processes. -/
def Deployment.carryOut (dep : Deployment) (fleet : Fleet) (toServer : Bool)
    (request : OperationRequest) :
    (Except PyExc OperationResponse × WrapperState) × List (Event WrapperAns) :=
  let name := dep.serving toServer
  ((executeOperation (dep.backend name) request).prog (fleet.wrapper name)).exec echoEnv
    ((fleet.log.filter fun e => e.1 == name).map Prod.snd)

/-- What a call of the driver is answered, by such wrappers. -/
def Deployment.answer (dep : Deployment) (fleet : Fleet) : (q : DriverCall) → DriverAns q
  | .execute toServer request _ => (dep.carryOut fleet toServer request).1.1
  | q => friendlyEnv [] q

/-- What it leaves them as. -/
def Deployment.next (dep : Deployment) (fleet : Fleet) : Event DriverAns → Fleet
  | ⟨.execute toServer request _, _⟩ =>
    fleet.after (dep.serving toServer) (dep.carryOut fleet toServer request).2
      (dep.carryOut fleet toServer request).1.2
  | _ => fleet

theorem serveStep_answer (dep : Deployment) (fleet : Fleet) (q : DriverCall) :
    ServeStep dep fleet ⟨q, dep.answer fleet q⟩ (dep.next fleet ⟨q, dep.answer fleet q⟩) := by
  cases q with
  | execute toServer request timeoutS =>
    have hrun := Eff.exec_run echoEnv (executeOperation (dep.backend (dep.serving toServer)) request)
      (fleet.wrapper (dep.serving toServer))
      ((fleet.log.filter fun e => e.1 == dep.serving toServer).map Prod.snd)
    obtain ⟨resp, hresp⟩ := executeOperation_total _ _ hrun
    have hans : dep.answer fleet (.execute toServer request timeoutS) = .ok resp := hresp
    rw [hans]
    rw [hresp] at hrun
    exact .answered hrun
  | _ => exact .other rfl

/-- One OpenSSL wrapper, for both sides. -/
def opensslDeployment : Deployment where
  server := "openssl"
  client := "openssl"
  backend _ := OpenSSL.backend shippedHost

/-- Wrappers that have just been started. -/
def idleFleet : Fleet where
  wrapper _ := {}

/-- A cell between OpenSSL and OpenSSL that is served so passes, and has delivered its payload. -/
theorem portCell_delivered : ∃ d' tr fleet',
    (executeMatrixCell (shippedRepo "/repo" noCerts) wordSessions[0] portCell true).Exec {} tr (.ok 0)
        d' ∧
      Evolves (ServeStep opensslDeployment) idleFleet tr fleet' ∧
      ∃ endpoint serverConf clientConf,
        cellSetup (shippedRepo "/repo" noCerts) wordSessions[0] portCell
          = .ok (endpoint, serverConf, clientConf) ∧
        Delivered opensslDeployment serverConf clientConf idleFleet fleet' := by
  have hrun : ∀ (repo : Repo) (session : WrapperSession) (cell : Cell) (dep : Deployment)
      (fleet : Fleet), (((executeMatrixCell repo session cell true).prog {}).exec
        (answering dep.answer dep.next fleet) []).1.1 = .ok 0 →
      ∃ d' tr fleet', (executeMatrixCell repo session cell true).Exec {} tr (.ok 0) d' ∧
        Evolves (ServeStep dep) fleet tr fleet' ∧ ∃ endpoint serverConf clientConf,
          cellSetup repo session cell = .ok (endpoint, serverConf, clientConf) ∧
          Delivered dep serverConf clientConf fleet fleet' := by
    intro repo session cell dep fleet hzero
    have hexec := Eff.exec_run (answering dep.answer dep.next fleet)
      (executeMatrixCell repo session cell true) {} []
    rw [hzero] at hexec
    have hserved := evolves_exec (serveStep_answer dep)
      ((executeMatrixCell repo session cell true).prog {}) fleet []
    exact ⟨_, _, _, hexec, hserved, delivered_of_pass hexec hserved⟩
  refine hrun _ _ _ _ _ ?_
  decide +kernel

end

end TlsInterop
