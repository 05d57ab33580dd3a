import TlsInterop.Core.Json

/-!
# Messages between the driver and the wrappers

The model of `interop_proto/interop.proto`.  Enumerations are open, as in
proto3: a number outside the declared ones is kept.

## Main definitions

* `Role`, `OpType`, `Status` — the enumerations.
* `TlsConfig`, `Negotiated`, `OperationRequest`, `OperationResponse` — the messages.
-/

namespace TlsInterop

/-- `Role`. -/
inductive Role
  | unspecified
  | client
  | server
  | unrecognized (n : ℤ)
  deriving DecidableEq, Repr

/-- `OperationRequest.OpType`. -/
inductive OpType
  | establish
  | transmit
  | keyUpdate
  | close
  | unrecognized (n : ℤ)
  deriving DecidableEq, Repr

/-- `OperationResponse.Status`. -/
inductive Status
  | success
  | failure
  | error
  | unrecognized (n : ℤ)
  deriving DecidableEq, Repr

/-- `TlsConfig`. -/
structure TlsConfig where
  version : String := ""
  cipherSuite : String := ""
  serverHostname : String := ""
  port : ℤ := 0
  certificate : List UInt8 := []
  privateKey : List UInt8 := []
  supportedGroups : List String := []
  signatureSchemes : List String := []
  signatureSchemesCert : List String := []
  alpnProtocols : List String := []
  pskModes : List String := []
  resumptionStep : String := ""
  repoRoot : String := ""
  expectHrr : Bool := false
  deriving DecidableEq, Repr

/-- `NegotiatedTlsParameters`. -/
structure Negotiated where
  protocolVersion : String := ""
  cipherSuite : String := ""
  namedGroup : String := ""
  hrrOccurred : Bool := false
  deriving DecidableEq, Repr

/-- `OperationRequest`; an absent `config` reads as the default message. -/
structure OperationRequest where
  type : OpType
  role : Role
  payload : List UInt8 := []
  config : TlsConfig := {}
  deriving DecidableEq, Repr

/-- `OperationResponse`. -/
structure OperationResponse where
  status : Status
  message : String := ""
  outputData : List UInt8 := []
  logs : String := ""
  negotiated : Option Negotiated := none
  deriving DecidableEq, Repr

/-- `resp.negotiated`; an absent sub-message reads as the default one. -/
def OperationResponse.negotiatedOrDefault (resp : OperationResponse) : Negotiated :=
  resp.negotiated.getD {}

/-- `repeated_config_tokens` of a repeated field. -/
def repeatedConfigTokens (field : List String) : List String :=
  (field.map Py.strip).filter (· ≠ "")

/-- `test_feature_enabled_in_config`; the features are mirrored in `psk_modes`. -/
def testFeatureEnabledInConfig (config : TlsConfig) (feature : String) : Bool :=
  (repeatedConfigTokens config.pskModes).contains (Py.lower (Py.strip feature))

end TlsInterop
