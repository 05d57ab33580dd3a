import TlsInterop.Core.Suite
import TlsInterop.Core.Validation
import TlsInterop.Runner.VersionMismatch

/-!
# Two readings of `expect_hrr`

The skip check of a cell and the builder of the client's configuration both read
the `expect_hrr` setting.  The check folds the text and accepts three words; the
builder compares it with one.  A text that only the check understands gives a
configuration that asks for nothing, and the driver's assertion is never made.

## Main definitions

* `RequestsHrr` — the check takes a cell for one that asks for an HRR.
* `HrrReported` — the response to the client's first connection reports one.
* `HrrReadAlike` — the readings agree, and a cell that asks and passes reported one.

## Main results

* `requestsHrr_iff` — what the check reads.
* `hrrReported_of_zero` — what a passed cell with the flag has reported.
* `hrr_read_alike_iff` — when the two readings agree.
* `yesCell_passes_without_hrr` — a cell that asks with `yes`.
-/

namespace TlsInterop

open Py Effects

/-- The document of a client blocks the `expect_hrr` field. -/
def BlocksHrr (caps : Capabilities) : Prop :=
  "expect_hrr" ∈ caps.unsupportedTlsFields.map fun x => strip x.pyStr

/-- The check takes a cell for one that asks for an HRR: it skips the cell for
every client that blocks the field. -/
def RequestsHrr (cell : Cell) : Prop :=
  ∀ ctx : CellSkipCtx, ctx.cell = cell → BlocksHrr ctx.cliCaps → expectHrrSkipReason ctx ≠ none

/-- The response to the first connection of the client reports an HRR. -/
def HrrReported (tr : List (Event DriverAns)) : Prop :=
  ∃ p, (testResponses tr).find? (fun p => isRequest .establish .client p.1) = some p ∧
    p.2.negotiatedOrDefault.hrrOccurred = true

/-- The builder sets the flag exactly when the check reads a request, and a cell
that makes a request passes only with an HRR reported. -/
structure HrrReadAlike (repo : Repo) (cell : Cell) : Prop where
  same : ∀ config, tlsConfigFromCell repo cell false = .ok config →
    (config.expectHrr = true ↔ RequestsHrr cell)
  checked : RequestsHrr cell → ∀ session debugLogs d tr d',
    (executeMatrixCell repo session cell debugLogs).Exec d tr (.ok 0) d' → HrrReported tr

/-! ### The two readings -/

/-- A document that blocks the field. -/
def hrrBlockingCaps : Capabilities :=
  [("runtime", .obj [("unsupported_tls_fields", .arr [.str "expect_hrr"])])]

theorem hrrBlockingCaps_blocks : BlocksHrr hrrBlockingCaps := by
  unfold BlocksHrr
  decide

/-- What the check reads: the folded text is one of three words. -/
theorem requestsHrr_iff (repo : Repo) (cell : Cell) :
    RequestsHrr cell ↔ lower (strip (cell.field "expect_hrr")) ∈ ["true", "1", "yes"] := by
  constructor
  · intro h
    -- ask the check about a client that blocks the field
    have hskip := h ⟨cell, repo, "", "", [], hrrBlockingCaps, .v13, .v13⟩ rfl hrrBlockingCaps_blocks
    by_contra hno
    refine hskip ?_
    rw [expectHrrSkipReason]
    exact if_pos hno
  · rintro h ctx rfl hblocks
    unfold expectHrrSkipReason
    rw [if_neg (not_not.mpr h)]
    have hmem : "expect_hrr" ∈ ctx.cliCaps.unsupportedTlsFields.map fun x => strip x.pyStr := hblocks
    dsimp only
    rw [if_pos hmem]
    exact Option.some_ne_none _

section

variable {repo : Repo} {cell : Cell} {config : TlsConfig}

/-- What the builder reads: the text is one word. -/
theorem expectHrr_iff (h : tlsConfigFromCell repo cell false = .ok config) :
    config.expectHrr = true ↔ cell.field "expect_hrr" = "true" := by
  unfold tlsConfigFromCell at h
  obtain ⟨port, -, h⟩ := bind_eq_ok.mp h
  have hconfig : cellConfig cell false port = config := Except.ok.inj h
  rw [← hconfig]
  exact beq_iff_eq

/-! ### What a passed cell has reported -/

/-- The flag of the client survives the endpoints of the session. -/
theorem expectHrr_of_cellSetup {session : WrapperSession} {endpoint : String × ℤ}
    {serverConf clientConf : TlsConfig} (hconfig : tlsConfigFromCell repo cell false = .ok config)
    (h : cellSetup repo session cell = .ok (endpoint, serverConf, clientConf)) :
    clientConf.expectHrr = config.expectHrr := by
  unfold cellSetup at h
  obtain ⟨server, -, h⟩ := bind_eq_ok.mp h
  obtain ⟨client, hclient, h⟩ := bind_eq_ok.mp h
  obtain rfl : config = client := Except.ok.inj (hconfig.symm.trans hclient)
  unfold applyMatrixTlsEndpoints at h
  obtain ⟨ep, -, h⟩ := bind_eq_ok.mp h
  obtain ⟨port, -, h⟩ := bind_eq_ok.mp h
  have hpair := congrArg (fun p => p.2.2.expectHrr) (Except.ok.inj h)
  exact hpair.symm

/-- **A cell whose client has the flag** passes only with an HRR reported. -/
theorem hrrReported_of_zero (hconfig : tlsConfigFromCell repo cell false = .ok config)
    (hflag : config.expectHrr = true) {session : WrapperSession} {debugLogs : Bool}
    {d d' : InteropDriver} {tr : List (Event DriverAns)}
    (h : (executeMatrixCell repo session cell debugLogs).Exec d tr (.ok 0) d') : HrrReported tr := by
  unfold executeMatrixCell at h
  obtain ⟨⟨endpoint, serverConf, clientConf⟩, d₁, tr₁, tr₂, rfl, hsetup, hrun⟩ :=
    Eff.exec_bind_ok.mp h
  obtain ⟨rfl, hok, -⟩ := Eff.exec_ofExcept.mp hsetup
  have hpassed := ((executeConfiguredCell_eq_zero_iff hrun).mp rfl).2.1
  rw [List.nil_append]
  refine hpassed.hrr ?_
  rw [expectHrr_of_cellSetup hconfig hok]
  exact hflag

/-- **The two readings of `expect_hrr` agree** exactly when a text that folds to
one of the check's words is the builder's word.  The skip check folds the case and knows
three words; the builder of the configuration compares with one of them. -/
theorem hrr_read_alike_iff (h : tlsConfigFromCell repo cell false = .ok config) :
    HrrReadAlike repo cell ↔
      (lower (strip (cell.field "expect_hrr")) ∈ ["true", "1", "yes"] →
        cell.field "expect_hrr" = "true") := by
  rw [← requestsHrr_iff repo]
  constructor
  · intro halike hrequests
    exact (expectHrr_iff h).mp ((halike.same config h).mpr hrequests)
  · intro hword
    have hflag : RequestsHrr cell → config.expectHrr = true :=
      fun hrequests => (expectHrr_iff h).mpr (hword hrequests)
    constructor
    · intro config' h'
      obtain rfl : config = config' := Except.ok.inj (h.symm.trans h')
      refine ⟨fun hset => ?_, hflag⟩
      -- the builder's word is one of the check's
      rw [requestsHrr_iff repo, (expectHrr_iff h).mp hset]
      decide
    · intro hrequests session debugLogs d tr d' hrun
      exact hrrReported_of_zero h (hflag hrequests) hrun

end

/-! ### A cell that asks with `yes` -/

/-- A repository with one wrapper that has an address. -/
def oneWrapperRepo : Repo where
  root := "/repo"
  wrappers := [("openssl", [("runtime", .obj [("grpc_addr", .str "127.0.0.1:50051")])])]
  wrappers_named := by simp
  certs _ := none

/-- A cell of that wrapper, with a text for `expect_hrr`. -/
def hrrCell (text : String) : Cell :=
  [(.str "server", "openssl"), (.str "client", "openssl"), (.str "expect_hrr", text)]

theorem tlsConfigFromCell_hrrCell (text : String) :
    tlsConfigFromCell oneWrapperRepo (hrrCell text) false
      = .ok (cellConfig (hrrCell text) false 5555) := rfl

theorem trueCell_read_alike : HrrReadAlike oneWrapperRepo (hrrCell "true") :=
  (hrr_read_alike_iff (tlsConfigFromCell_hrrCell "true")).mpr fun _ => rfl

/-- The session of one wrapper. -/
def oneWrapperSession : WrapperSession := ⟨["openssl"], false, none, []⟩

/-- The run of the cell with `yes`, between wrappers that answer every call as a
passing test needs it, and report no HRR. -/
abbrev yesRun : (Except PyExc ℤ × InteropDriver) × List (Event DriverAns) :=
  ((executeMatrixCell oneWrapperRepo oneWrapperSession (hrrCell "yes") true).prog {}).exec
    friendlyEnv []

/-- The check reads a request in `yes`, and the cell passes although no response
reports an HRR. -/
theorem yesCell_passes_without_hrr :
    coerceSuiteMatrixValue (.str "yes") (.str "expect_hrr") = .ok "yes" ∧
      RequestsHrr (hrrCell "yes") ∧ yesRun.1.1 = .ok 0 ∧
      (∀ p ∈ testResponses yesRun.2, p.2.negotiatedOrDefault.hrrOccurred = false) ∧
      ¬ HrrReadAlike oneWrapperRepo (hrrCell "yes") := by
  have hrequests : RequestsHrr (hrrCell "yes") := by
    rw [requestsHrr_iff oneWrapperRepo]
    decide
  refine ⟨by decide, hrequests, by decide +kernel, by decide +kernel, ?_⟩
  intro halike
  have hset := (halike.same _ (tlsConfigFromCell_hrrCell "yes")).mpr hrequests
  revert hset
  decide

end TlsInterop
