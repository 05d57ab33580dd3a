import TlsInterop.Core.Config

/-!
# Endpoints of the wrappers

The model of the address functions of `core/orchestration.py`, of the endpoints
of a wrapper session and of the endpoint a cell is run at.

## Main definitions

* `backendGrpcAddr`, `backendTlsEndpoint` — the addresses of a backend.
* `WrapperSession`, `WrapperSession.grpcAddr`, `WrapperSession.tlsEndpoint` — those
  of a session, whose slot shifts the ports.
* `applyMatrixTlsEndpoints` — the endpoint of a cell, written to both configurations.
-/

namespace TlsInterop

open Py

/-- `WORKER_PORT_STRIDE`. -/
def workerPortStride : ℤ := 100

/-- `addr.rpartition(":")`: the texts around the last colon. -/
def rpartitionColon (addr : String) : String × String :=
  let back := addr.toList.reverse
  let tail := back.takeWhile (· ≠ ':')
  let head := (back.dropWhile (· ≠ ':')).drop 1
  (String.ofList head.reverse, String.ofList tail.reverse)

/-- `_grpc_host_port`. -/
def grpcHostPort (addr : String) : Except PyExc (String × ℤ) :=
  let (host, portS) := rpartitionColon addr
  let digits := portS.toList
  if digits = [] ∨ digits.any (fun c => (digitVal c).isNone) then
    .error ⟨.valueError, "invalid gRPC address " ++ reprStr addr⟩
  else do
    let port ← intOfText portS
    return (if host = "" then "127.0.0.1" else host, port)

/-- `backend_grpc_addr`. -/
def backendGrpcAddr (repo : Repo) (backendName : String) (portOverride : Option ℤ) :
    Except PyExc String := do
  let caps ← repo.loadBackendCapabilities backendName
  match caps.runtime "grpc_addr" with
  | .str s =>
    let addr := strip s
    if addr = "" then
      throw ⟨.valueError, "capabilities.runtime.grpc_addr missing for backend "
        ++ reprStr backendName⟩
    match portOverride with
    | none => return addr
    | some port =>
      if port = 0 then return addr
      let host := (rpartitionColon addr).1
      return (if host = "" then "127.0.0.1" else host) ++ ":" ++ toString port
  | _ => throw ⟨.valueError, "capabilities.runtime.grpc_addr missing for backend "
      ++ reprStr backendName⟩

/-- `int` of a JSON value. -/
def Json.toInt : Json → Except PyExc ℤ
  | .num n => .ok n
  | .bool b => .ok (if b then 1 else 0)
  | .str s => intOfText s
  | _ => .error ⟨.typeError, "int() argument must be a string or a real number"⟩

/-- `backend_tls_endpoint`. -/
def backendTlsEndpoint (repo : Repo) (backendName : String) : Except PyExc (String × ℤ) := do
  let caps ← repo.loadBackendCapabilities backendName
  let host := caps.runtime "tls_host"
  let port := caps.runtime "tls_port"
  let portN ← (if port.truthy then port else .num 25551).toInt
  return (if host.truthy then host.pyStr else "127.0.0.1", portN)

/-! ### Sessions -/

/-- `WrapperSession`: what its addresses depend on. -/
structure WrapperSession where
  backends : List String
  attach : Bool
  slotId : Option ℕ
  grpcPortOverrides : Dict String ℤ
  deriving DecidableEq, Repr

namespace WrapperSession

/-- `_worker_slot_grpc_overrides`. -/
def workerSlotGrpcOverrides (repo : Repo) (backends : List String) (slotId : ℕ) :
    Except PyExc (Dict String ℤ) :=
  backends.mapM fun backend => do
    let key := lower (strip backend)
    let addr ← backendGrpcAddr repo key none
    let (_, baseGrpc) ← grpcHostPort addr
    return (key, baseGrpc + slotId * workerPortStride)

/-- `grpc_addr`. -/
def grpcAddr (session : WrapperSession) (repo : Repo) (backend : String) : Except PyExc String :=
  let key := lower (strip backend)
  backendGrpcAddr repo key (session.grpcPortOverrides.get? key)

/-- `tls_endpoint`. -/
def tlsEndpoint (session : WrapperSession) (repo : Repo) (backend : String) :
    Except PyExc (String × ℤ) := do
  let (host, basePort) ← backendTlsEndpoint repo (lower (strip backend))
  match session.slotId with
  | none => return (host, basePort)
  | some slot => return (host, basePort + slot * workerPortStride)

/-- `wrapper_filesystem_root`. -/
def filesystemRoot (session : WrapperSession) (repo : Repo) : String :=
  match session.slotId with
  | some slot => repo.root ++ "/.interop_worker/slot" ++ toString slot
  | none => repo.root

end WrapperSession

/-! ### Cells -/

/-- The endpoint of the server of a cell: its own port, or the endpoint of the session. -/
def cellEndpoint (repo : Repo) (session : WrapperSession) (cell : Cell) (server : String) :
    Except PyExc (String × ℤ) := do
  let portRaw := strip (cell.field "tls_port")
  if portRaw ≠ "" then
    let (tcpHost, _) ← backendTlsEndpoint repo server
    return (tcpHost, ← intOfText portRaw)
  else session.tlsEndpoint repo server

/-- `apply_matrix_tls_endpoints`, with the session given: the endpoint and both
configurations. -/
def applyMatrixTlsEndpoints (repo : Repo) (session : WrapperSession) (cell : Cell)
    (server : String) (serverConf clientConf : TlsConfig) :
    Except PyExc ((String × ℤ) × TlsConfig × TlsConfig) := do
  let (tcpHost, tcpPort) ← cellEndpoint repo session cell server
  let port ← assignInt32 tcpPort
  return ((tcpHost, tcpPort), { serverConf with port },
    { clientConf with port, serverHostname := "127.0.0.1" })

end TlsInterop
