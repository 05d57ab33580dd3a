import TlsInterop.Core.Acceptance
import TlsInterop.Core.CipherAxis
import TlsInterop.Core.CaseSettings
import TlsInterop.Runner.Verdict
import TlsInterop.Wrappers.Secrets
import TlsInterop.Wrappers.ReadBoundaries
import TlsInterop.Runner.Trace
import TlsInterop.Runner.VersionMismatch
import TlsInterop.Core.SuiteExclusivity
import TlsInterop.Runner.Ports
import TlsInterop.Runner.DebugLogs
import TlsInterop.Wrappers.PskAgreement
import TlsInterop.Wrappers.PeerIdentity
import TlsInterop.Core.FeatureGate
import TlsInterop.Core.CatalogMembership
import TlsInterop.Core.SchemeKinds
import TlsInterop.Core.AllAlgebra
import TlsInterop.Core.SuiteFrame
import TlsInterop.Runner.HrrAgreement
import TlsInterop.Wrappers.VersionPin
import TlsInterop.Wrappers.HrrInference
import TlsInterop.Wrappers.NssDatabase
import TlsInterop.Wrappers.Isolation
import TlsInterop.Runner.Sessions
import TlsInterop.Runner.Teardown
import TlsInterop.Runner.EveryCell
import TlsInterop.Runner.Main
import TlsInterop.Runner.Served
import TlsInterop.Runner.Successors
