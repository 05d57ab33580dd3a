import TlsInterop.Runner.Outcome

/-!
# The operations of a test

The operations a test issues, in order: those of its protocol up to the first one
that goes wrong, then CLOSE for the server and CLOSE for the client.

## Main definitions

* `operations` — the operations of a trace.
* `plannedOperations` — the operations of a test in which nothing goes wrong.

## Main results

* `operations_protocol` — the protocol of a test has the planned operations.
* `driver_trace` — **a test issues the planned operations up to the first that goes
  wrong, then the two CLOSE calls, and nothing else.**
-/

namespace TlsInterop

open Py Effects DriverM InteropDriver

/-- The operation of a call. -/
def operationOf : DriverCall → Option OperationRequest
  | .execute _ request _ => some request
  | _ => none

/-- The operations of a trace, in order. -/
def operations (tr : List (Event DriverAns)) : List OperationRequest :=
  tr.filterMap fun e => operationOf e.1

/-- The client ESTABLISH operations of a test. -/
def plannedClientOperations (clientConf : TlsConfig) : List OperationRequest :=
  if usesResumption clientConf then
    [{ type := .establish, role := .client, config := stepConf clientConf "save" },
      { type := .establish, role := .client, config := stepConf clientConf "resume" }]
  else [{ type := .establish, role := .client, config := clientConf }]

/-- The operations of a test in which nothing goes wrong. -/
def plannedOperations (serverConf clientConf : TlsConfig) : List OperationRequest :=
  { type := .establish, role := .server, config := serverConf }
    :: (plannedClientOperations clientConf
      ++ [{ type := .transmit, role := .client, payload := testPayload },
        { type := .transmit, role := .server }])

/-- The operations of the protocol are the planned ones. -/
theorem operations_protocol (serverConf clientConf : TlsConfig) (tcpHost : String) (tcpPort : ℤ) :
    (protocol serverConf clientConf tcpHost tcpPort).filterMap (fun c => operationOf c.call)
      = plannedOperations serverConf clientConf := by
  unfold protocol clientProtocol plannedOperations plannedClientOperations
  cases usesResumption clientConf <;> rfl

/-- The events of accepted calls have the operations of the calls. -/
theorem operations_of_accepted {cs : List (CheckedCall DriverAns Stop)}
    {tr : List (Event DriverAns)} (h : List.Forall₂ CheckedCall.Accepts cs tr) :
    operations tr = cs.filterMap fun c => operationOf c.call := by
  induction h with
  | nil => rfl
  | cons hacc _ ih =>
    obtain ⟨ans, rfl, -⟩ := hacc
    rw [operations, List.filterMap_cons, List.filterMap_cons, ← ih]
    rfl

/-- **A test issues the planned operations up to the first that goes wrong, then the
two CLOSE calls, and nothing else**: either every call of its protocol is made and
accepted, or the calls before some call are, and the answer to that one is not.  This
holds for every behaviour of the wrappers and of the transport, with and without
resumption; the CLOSE calls are made also when a call has raised. -/
theorem driver_trace {serverConf clientConf : TlsConfig} {tcpHost : String} {tcpPort : ℤ}
    {d d' : InteropDriver} {tr : List (Event DriverAns)} {r : Except PyExc Bool}
    (h : (runTestWithConfigs serverConf clientConf tcpHost tcpPort).Exec d tr r d') :
    ∃ tr₁ server client, tr = tr₁ ++ closeEvents server client ∧
      ((operations tr₁ = plannedOperations serverConf clientConf ∧
          List.Forall₂ CheckedCall.Accepts (protocol serverConf clientConf tcpHost tcpPort) tr₁) ∨
        ∃ cs c cs' tr₂ ans stop, protocol serverConf clientConf tcpHost tcpPort = cs ++ c :: cs' ∧
          tr₁ = tr₂ ++ [⟨c.call, ans⟩] ∧ List.Forall₂ CheckedCall.Accepts cs tr₂ ∧
          c.judge ans = some stop ∧
          operations tr₁ <+: plannedOperations serverConf clientConf) := by
  obtain ⟨tr₁, server, client, v, _, rfl, hrun, -, -⟩ := exec_runTestWithConfigs h
  refine ⟨tr₁, server, client, rfl, ?_⟩
  cases v with
  | none =>
    have hall := hrun.accepted
    exact .inl ⟨(operations_of_accepted hall).trans (operations_protocol ..), hall⟩
  | some stop =>
    obtain ⟨cs, c, cs', tr₂, ans, hcs, htr, hbefore, hstop⟩ := hrun.stopped
    refine .inr ⟨cs, c, cs', tr₂, ans, stop, hcs, htr, hbefore, hstop, ?_⟩
    -- the call that stopped the test is still a call of the protocol
    have hoperations : operations tr₁ = (cs ++ [c]).filterMap fun c => operationOf c.call := by
      rw [htr, operations, List.filterMap_append, List.filterMap_append]
      exact congrArg₂ _ (operations_of_accepted hbefore) rfl
    have hprotocol : protocol serverConf clientConf tcpHost tcpPort = (cs ++ [c]) ++ cs' := by
      rw [hcs, List.append_assoc, List.singleton_append]
    rw [hoperations, ← operations_protocol serverConf clientConf tcpHost tcpPort, hprotocol]
    exact (List.prefix_append (cs ++ [c]) cs').filterMap _

/-- Wrappers that refuse the client. -/
def refusingEnv : Prog.Env DriverAns
  | _, .execute toServer .. => .ok { status := if toServer then .success else .failure }
  | _, .waitTcp .. => .ok (true, "")
  | _, .joinWorker => none
  | _, .rejoinWorker => ()
  | _, .workerNotes => []
  | _, .writeLog .. => .ok ()
  | _, .unlink _ => ()

/-- The run of a test whose client is refused. -/
abbrev refusedRun : (Except PyExc Bool × InteropDriver) × List (Event DriverAns) :=
  ((runTestWithConfigs {} {} "127.0.0.1" 5555).prog {}).exec refusingEnv []

theorem driver_trace_refused : ∃ tr₁ server client,
    refusedRun.2 = tr₁ ++ closeEvents server client ∧
      ((operations tr₁ = plannedOperations {} {} ∧
          List.Forall₂ CheckedCall.Accepts (protocol {} {} "127.0.0.1" 5555) tr₁) ∨
        ∃ cs c cs' tr₂ ans stop, protocol {} {} "127.0.0.1" 5555 = cs ++ c :: cs' ∧
          tr₁ = tr₂ ++ [⟨c.call, ans⟩] ∧ List.Forall₂ CheckedCall.Accepts cs tr₂ ∧
          c.judge ans = some stop ∧ operations tr₁ <+: plannedOperations {} {}) := by
  have hexec : (runTestWithConfigs {} {} "127.0.0.1" 5555).Exec {} refusedRun.2 refusedRun.1.1
      refusedRun.1.2 := Eff.exec_run ..
  exact driver_trace hexec

end TlsInterop
