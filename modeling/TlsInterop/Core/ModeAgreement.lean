import TlsInterop.Core.Config
import TlsInterop.Core.Shipped
import TlsInterop.Core.Validation

/-!
# The mode a cell is checked in and the mode it is run in

The mode of a role is computed twice: by `_resolve_cell_tls_modes`, for the
skip checks, and by the wrapper, from the `version` field of the configuration
the driver sends.  A version value with one empty side separates them: the
check falls back to the other side or to the ciphers, the configuration to the
constant `"1.3"`.

## Main definitions

* `VersionSidesSettled` — the condition on a cell under which the two agree.

## Main results

* `modes_agree_iff` — the checked modes are the modes of the two configurations
  exactly when the condition holds.
* `not_modes_agree_emptyClientSide` — a cell whose client side is empty.
* `implicit_version_supported` — the mode inferred for a cell without a version
  is one its ciphers have, in the check and in the run.
-/

namespace TlsInterop

open Py

/-- The modes of both ciphers of a cell, each in its own backend's document. -/
def cellModes (cell : Cell) (srvCaps cliCaps : Capabilities) : Finset TlsMode :=
  cellCipherModes cell true srvCaps ∪ cellCipherModes cell false cliCaps

/-- An empty side of a `SERVER:CLIENT` version does not matter: an empty server
side needs ciphers that are not exactly the TLS 1.2 ones, and an empty client
side needs a TLS 1.3 server side. -/
def VersionSidesSettled (cell : Cell) (srvCaps cliCaps : Capabilities) : Prop :=
  let tv := strip (cell.field "tls_version")
  let sides := parseAsymmetric tv
  (splitOnce ':' tv).isSome →
    (sides.1 = "" → cellModes cell srvCaps cliCaps ≠ {.v12}) ∧
    (sides.1 ≠ "" → sides.2 = "" → tlsModeFromVersion sides.1 = .v13)

/-! ### The two computations on one cell -/

/-- The version a configuration carries, in terms of the stripped field. -/
theorem cellConfig_version (cell : Cell) (server : Bool) (port : ℤ) :
    (cellConfig cell server port).version =
      if pickScalar cell "tls_version" server = "" then "1.3"
      else pickScalar cell "tls_version" server := rfl

theorem tlsModeFromVersion_cellConfig (cell : Cell) (server : Bool) (port : ℤ) :
    tlsModeFromVersion (cellConfig cell server port).version
      = tlsModeFromVersion (pickScalar cell "tls_version" server) := by
  rw [cellConfig_version]
  split
  · next h => rw [h]; exact tlsModeFromVersion_text .v13
  · rfl

section

variable {cell : Cell} {srvCaps cliCaps : Capabilities}

/-- A missing version is settled by the ciphers in the check and by the default in the run. -/
theorem resolve_of_empty (h : strip (cell.field "tls_version") = "") :
    resolveCellTlsModes cell srvCaps cliCaps
      = if cellModes cell srvCaps cliCaps = {.v12} then (.v12, .v12) else (.v13, .v13) := by
  unfold resolveCellTlsModes effectiveCellTlsMode
  rw [h]
  by_cases hm : cellModes cell srvCaps cliCaps = {.v12}
  · rw [if_pos hm]
    rw [cellModes] at hm
    simp [hm, splitOnce, cut]
  · rw [if_neg hm]
    rw [cellModes] at hm
    simp [hm, splitOnce, cut]

theorem pickScalar_of_empty {server : Bool} {field : String} (h : strip (cell.field field) = "") :
    pickScalar cell field server = "" := by
  simp [pickScalar, h]

theorem resolve_of_symmetric (hne : strip (cell.field "tls_version") ≠ "")
    (h : splitOnce ':' (strip (cell.field "tls_version")) = none) :
    resolveCellTlsModes cell srvCaps cliCaps
      = (tlsModeFromVersion (strip (cell.field "tls_version")),
        tlsModeFromVersion (strip (cell.field "tls_version"))) := by
  simp [resolveCellTlsModes, effectiveCellTlsMode, hne, h]

theorem pickScalar_of_symmetric {server : Bool} {field : String}
    (h : splitOnce ':' (strip (cell.field field)) = none) :
    pickScalar cell field server = strip (cell.field field) := by
  unfold pickScalar
  dsimp only
  split
  · next he => exact he.symm
  · simp [h]

/-- An empty side of a two-sided version falls back to the server's side, and
from there to the ciphers. -/
theorem resolve_of_sides {p : String × String}
    (h : splitOnce ':' (strip (cell.field "tls_version")) = some p) :
    resolveCellTlsModes cell srvCaps cliCaps
      = let fallback := if strip p.1 ≠ "" then tlsModeFromVersion (strip p.1)
          else if cellModes cell srvCaps cliCaps = {.v12} then .v12 else .v13
        (fallback, if strip p.2 ≠ "" then tlsModeFromVersion (strip p.2) else fallback) := by
  have hne := ne_empty_of_splitOnce h
  unfold resolveCellTlsModes effectiveCellTlsMode cellModes parseAsymmetric
  dsimp only
  rw [strip_strip, h, if_neg hne]
  by_cases hl : strip p.1 = "" <;> simp [hl]

theorem pickScalar_of_sides {field : String} {p : String × String}
    (h : splitOnce ':' (strip (cell.field field)) = some p) (server : Bool) :
    pickScalar cell field server = strip (if server then p.1 else p.2) := by
  unfold pickScalar parseAsymmetric
  dsimp only
  rw [strip_strip, h, if_neg (ne_empty_of_splitOnce h)]
  cases server <;> rfl

theorem versionSidesSettled_of_symmetric
    (h : splitOnce ':' (strip (cell.field "tls_version")) = none) :
    VersionSidesSettled cell srvCaps cliCaps := by
  simp [VersionSidesSettled, h]

theorem versionSidesSettled_of_sides {p : String × String}
    (h : splitOnce ':' (strip (cell.field "tls_version")) = some p) :
    VersionSidesSettled cell srvCaps cliCaps ↔
      (strip p.1 = "" → cellModes cell srvCaps cliCaps ≠ {.v12}) ∧
      (strip p.1 ≠ "" → strip p.2 = "" → tlsModeFromVersion (strip p.1) = .v13) := by
  simp [VersionSidesSettled, parseAsymmetric, h]

/-- On one cell the two computations agree exactly when the cell's sides are
settled and a missing version is not decided by TLS 1.2 ciphers. -/
theorem resolve_eq_iff (portS portC : ℤ) :
    resolveCellTlsModes cell srvCaps cliCaps
        = (tlsModeFromVersion (cellConfig cell true portS).version,
          tlsModeFromVersion (cellConfig cell false portC).version) ↔
      VersionSidesSettled cell srvCaps cliCaps ∧
        (strip (cell.field "tls_version") = "" → cellModes cell srvCaps cliCaps ≠ {.v12}) := by
  rw [tlsModeFromVersion_cellConfig, tlsModeFromVersion_cellConfig]
  cases h : splitOnce ':' (strip (cell.field "tls_version")) with
  | none =>
    have hsettled : VersionSidesSettled cell srvCaps cliCaps :=
      versionSidesSettled_of_symmetric h
    by_cases he : strip (cell.field "tls_version") = ""
    · -- no version at all: the ciphers decide the check, the constant the run
      rw [resolve_of_empty he, pickScalar_of_empty he, pickScalar_of_empty he]
      by_cases hm : cellModes cell srvCaps cliCaps = {.v12} <;> simp [he, hm, hsettled]
    · rw [resolve_of_symmetric he h, pickScalar_of_symmetric h, pickScalar_of_symmetric h]
      simp [he, hsettled]
  | some p =>
    have he : strip (cell.field "tls_version") ≠ "" := ne_empty_of_splitOnce h
    rw [resolve_of_sides h, pickScalar_of_sides h, pickScalar_of_sides h,
      versionSidesSettled_of_sides h]
    by_cases hl : strip p.1 = "" <;> by_cases hr : strip p.2 = "" <;>
      by_cases hm : cellModes cell srvCaps cliCaps = {.v12} <;>
      simp [he, hl, hr, hm, eq_comm]

/-- Whether the sides are settled depends on the version and the cipher fields only. -/
theorem versionSidesSettled_congr {cell' : Cell}
    (htv : cell'.field "tls_version" = cell.field "tls_version")
    (hcs : cell'.field "cipher_suite" = cell.field "cipher_suite") :
    VersionSidesSettled cell' srvCaps cliCaps ↔ VersionSidesSettled cell srvCaps cliCaps := by
  simp only [VersionSidesSettled, cellModes, htv, cellCipherModes_congr hcs]

/-! ### After normalisation -/

/-- The versions the implicit rule gives a cell without one. -/
theorem implicitTlsVersion_of_empty (h : strip (cell.field "tls_version") = "") :
    (strip (implicitTlsVersion cell srvCaps cliCaps) = "" ∧ cellModes cell srvCaps cliCaps ≠ {.v12}) ∨
      implicitTlsVersion cell srvCaps cliCaps ∈ ["1.2", "1.3", "1.2:1.3", "1.3:1.2"] := by
  unfold implicitTlsVersion implicitTlsVersionForSide cellModes
  generalize cellCipherModes cell true srvCaps = ms
  generalize cellCipherModes cell false cliCaps = mc
  have hsides : ms ≠ {.v12} → mc ≠ {.v12} → ms ∪ mc ≠ {.v12} := by
    intro hs hc hu
    have hms := (Finset.subset_singleton_iff.mp (hu ▸ Finset.subset_union_left)).resolve_right hs
    have hmc := (Finset.subset_singleton_iff.mp (hu ▸ Finset.subset_union_right)).resolve_right hc
    simp [hms, hmc] at hu
  dsimp only
  by_cases h1 : ms = {.v13}
  · right
    by_cases h3 : mc = {.v13}
    · simp [h, h1, h3]
    · by_cases h4 : mc = {.v12} <;> simp [h, h1, h3, h4]
  · by_cases h2 : ms = {.v12}
    · right
      by_cases h3 : mc = {.v13}
      · simp [h, h2, h3]
      · by_cases h4 : mc = {.v12} <;> simp [h, h2, h3, h4]
    · by_cases h3 : mc = {.v13}
      · simp [h, h1, h2, h3]
      · by_cases h4 : mc = {.v12}
        · simp [h, h1, h2, h4]
        · left
          simpa [h, h1, h2, h3, h4] using hsides h2 h4

theorem strip_ne_empty_of_implicit {v : String} (h : v ∈ ["1.2", "1.3", "1.2:1.3", "1.3:1.2"]) :
    strip v ≠ "" := by
  revert v
  decide

/-- A version the implicit rule has written leaves no side open. -/
theorem versionSidesSettled_of_implicit
    (h : cell.field "tls_version" ∈ ["1.2", "1.3", "1.2:1.3", "1.3:1.2"]) :
    VersionSidesSettled cell srvCaps cliCaps := by
  have hsides : ∀ v ∈ ["1.2", "1.3", "1.2:1.3", "1.3:1.2"],
      (parseAsymmetric (strip v)).1 ≠ "" ∧ (parseAsymmetric (strip v)).2 ≠ "" := by
    decide
  obtain ⟨hl, hr⟩ := hsides _ h
  exact fun _ => ⟨fun he => absurd he hl, fun _ he => absurd he hr⟩

section

variable {cell' : Cell} {argsTemplate : Args} {port : ℤ}
  (hcell : cell' = normalizeLoadedCell (overridePort cell port) argsTemplate srvCaps cliCaps)

include hcell

theorem normalized_cipherSuite : cell'.field "cipher_suite" = cell.field "cipher_suite" := by
  rw [hcell, normalizeLoadedCell_field (by decide) (by decide),
    applyImplicitTlsVersion_field (by decide), overridePort_field (by decide)]

theorem normalized_tlsVersion :
    cell'.field "tls_version" = implicitTlsVersion cell srvCaps cliCaps := by
  rw [hcell, normalizeLoadedCell_field (by decide) (by decide), applyImplicitTlsVersion_tlsVersion,
    implicitTlsVersion_congr (overridePort_field (by decide)) (overridePort_field (by decide))]

theorem cellModes_normalized : cellModes cell' srvCaps cliCaps = cellModes cell srvCaps cliCaps := by
  simp only [cellModes, cellCipherModes_congr (normalized_cipherSuite hcell)]

/-- A normalised cell without a version has no TLS 1.2 ciphers to decide it. -/
theorem cellModes_ne_of_normalized (he : strip (cell'.field "tls_version") = "") :
    cellModes cell' srvCaps cliCaps ≠ {.v12} := by
  rw [cellModes_normalized hcell]
  rw [normalized_tlsVersion hcell] at he
  by_cases hown : strip (cell.field "tls_version") = ""
  · rcases (implicitTlsVersion_of_empty hown : (_ ∧ cellModes cell srvCaps cliCaps ≠ _) ∨ _) with
      ⟨-, hne⟩ | hmem
    · exact hne
    · exact absurd he (strip_ne_empty_of_implicit hmem)
  · rw [implicitTlsVersion, if_pos (.inl hown)] at he
    exact absurd he hown

/-- The sides of a normalised cell are settled exactly when those of the cell are. -/
theorem versionSidesSettled_normalized_iff :
    VersionSidesSettled cell' srvCaps cliCaps ↔ VersionSidesSettled cell srvCaps cliCaps := by
  have htv := normalized_tlsVersion hcell
  by_cases hown : strip (cell.field "tls_version") = ""
  · -- the implicit rule decides: what it writes has no open side
    have hsettled : VersionSidesSettled cell srvCaps cliCaps := by
      simp [VersionSidesSettled, hown, splitOnce, cut]
    refine iff_of_true ?_ hsettled
    rcases (implicitTlsVersion_of_empty hown : (_ ∧ cellModes cell srvCaps cliCaps ≠ _) ∨ _) with
      ⟨hempty, -⟩ | hmem
    · simp [VersionSidesSettled, htv, hempty, splitOnce, cut]
    · exact versionSidesSettled_of_implicit (htv ▸ hmem)
  · -- the cell's own version stays
    rw [implicitTlsVersion, if_pos (.inl hown)] at htv
    exact versionSidesSettled_congr htv (normalized_cipherSuite hcell)

/-- After normalisation the two computations agree exactly when the sides of the
original cell are settled. -/
theorem resolve_normalized_eq_iff (portS portC : ℤ) :
    resolveCellTlsModes cell' srvCaps cliCaps
        = (tlsModeFromVersion (cellConfig cell' true portS).version,
          tlsModeFromVersion (cellConfig cell' false portC).version) ↔
      VersionSidesSettled cell srvCaps cliCaps := by
  rw [resolve_eq_iff, versionSidesSettled_normalized_iff hcell]
  exact and_iff_left (cellModes_ne_of_normalized hcell)

end

end

/-! ### The checked modes and the modes of the configurations -/

/-- **The mode a cell is checked in is the mode it is run in** exactly when no
empty side of its version matters.  For an empty side the checks fall back to the other
side or to the ciphers, the configuration to TLS 1.3. -/
theorem modes_agree_iff {repo : Repo} {cell cell' : Cell} {argsTemplate : Args}
    {srvCaps cliCaps : Capabilities} {srvCfg cliCfg : TlsConfig}
    (hs : repo.loadBackendCapabilities (lower (strip (cell.field "server"))) = .ok srvCaps)
    (hc : repo.loadBackendCapabilities (lower (strip (cell.field "client"))) = .ok cliCaps)
    (hnorm : normalizeCellTlsMicroParams repo cell argsTemplate = .ok cell')
    (hsrv : tlsConfigFromCell repo cell' true = .ok srvCfg)
    (hcli : tlsConfigFromCell repo cell' false = .ok cliCfg) :
    resolveCellTlsModes cell' srvCaps cliCaps
        = (tlsModeFromVersion srvCfg.version, tlsModeFromVersion cliCfg.version) ↔
      VersionSidesSettled cell srvCaps cliCaps := by
  obtain ⟨port, -, hcell⟩ := (normalizeCellTlsMicroParams_eq_ok hs hc).mp hnorm
  obtain ⟨portS, certS, keyS, hportS, hcfgS⟩ := tlsConfigFromCell_eq_ok hsrv
  obtain ⟨portC, certC, keyC, hportC, hcfgC⟩ := tlsConfigFromCell_eq_ok hcli
  have hversS : srvCfg.version = (cellConfig cell' true portS).version := by rw [hcfgS]
  have hversC : cliCfg.version = (cellConfig cell' false portC).version := by rw [hcfgC]
  rw [hversS, hversC]
  exact resolve_normalized_eq_iff hcell portS portC

/-- A cell whose server offers TLS 1.3 and whose client TLS 1.2. -/
def mixedVersionCell : Cell :=
  [(.str "server", "openssl"), (.str "client", "gnutls"), (.str "tls_version", "1.3:1.2")]

/-- The mixed cell is checked in TLS 1.3 on the server and in TLS 1.2 on the client,
as its configurations say. -/
theorem modes_agree_mixedVersion :
    ∃ cell' srvCfg cliCfg,
      normalizeCellTlsMicroParams (shippedRepo "/repo" noCerts) mixedVersionCell defaultArgs
          = .ok cell' ∧
        tlsConfigFromCell (shippedRepo "/repo" noCerts) cell' true = .ok srvCfg ∧
        tlsConfigFromCell (shippedRepo "/repo" noCerts) cell' false = .ok cliCfg ∧
        resolveCellTlsModes cell' opensslCapabilities gnutlsCapabilities
          = (tlsModeFromVersion srvCfg.version, tlsModeFromVersion cliCfg.version) := by
  have hnorm : normalizeCellTlsMicroParams (shippedRepo "/repo" noCerts) mixedVersionCell
      defaultArgs = .ok (mixedVersionCell ++ [(.str "test_features", "")]) := by
    decide
  have hsrv : tlsConfigFromCell (shippedRepo "/repo" noCerts)
      (mixedVersionCell ++ [(.str "test_features", "")]) true
        = .ok { version := "1.3", port := 5555 } := by
    decide
  have hcli : tlsConfigFromCell (shippedRepo "/repo" noCerts)
      (mixedVersionCell ++ [(.str "test_features", "")]) false
        = .ok { version := "1.2", port := 5555 } := by
    decide
  have hs : (shippedRepo "/repo" noCerts).loadBackendCapabilities
      (lower (strip (mixedVersionCell.field "server"))) = .ok opensslCapabilities :=
    shippedRepo_load.mpr (.inr (.inr ⟨by decide, rfl⟩))
  have hc : (shippedRepo "/repo" noCerts).loadBackendCapabilities
      (lower (strip (mixedVersionCell.field "client"))) = .ok gnutlsCapabilities :=
    shippedRepo_load.mpr (.inl ⟨by decide, rfl⟩)
  have hsettled : VersionSidesSettled mixedVersionCell opensslCapabilities gnutlsCapabilities := by
    have hsides : (parseAsymmetric (strip (mixedVersionCell.field "tls_version"))).1 ≠ "" ∧
        (parseAsymmetric (strip (mixedVersionCell.field "tls_version"))).2 ≠ "" := by
      decide
    exact fun _ => ⟨fun he => absurd he hsides.1, fun _ he => absurd he hsides.2⟩
  exact ⟨_, _, _, hnorm, hsrv, hcli, (modes_agree_iff hs hc hnorm hsrv hcli).mpr hsettled⟩

/-- A cell whose version names the server side only. -/
def emptyClientSideCell : Cell :=
  [(.str "server", "openssl"), (.str "client", "openssl"), (.str "tls_version", "1.2:")]

/-- An empty client side is checked in the server's TLS 1.2 and run in TLS 1.3. -/
theorem not_modes_agree_emptyClientSide :
    ∃ cell' srvCfg cliCfg,
      normalizeCellTlsMicroParams (shippedRepo "/repo" noCerts) emptyClientSideCell defaultArgs
          = .ok cell' ∧
        tlsConfigFromCell (shippedRepo "/repo" noCerts) cell' true = .ok srvCfg ∧
        tlsConfigFromCell (shippedRepo "/repo" noCerts) cell' false = .ok cliCfg ∧
        resolveCellTlsModes cell' opensslCapabilities opensslCapabilities = (.v12, .v12) ∧
        (tlsModeFromVersion srvCfg.version, tlsModeFromVersion cliCfg.version) = (.v12, .v13) := by
  refine ⟨emptyClientSideCell ++ [(.str "supported_groups", ""), (.str "signature_schemes", ""),
      (.str "test_features", "")], { version := "1.2", port := 5555 },
    { version := "1.3", port := 5555 }, ?_, ?_, ?_, ?_, ?_⟩
  all_goals decide

/-! ### The mode of an inferred version

A role whose cipher has one mode only gets that mode from the implicit rule; a
role whose cipher has both takes whatever the other one needs. -/

section

variable {cell : Cell} {srvCaps cliCaps : Capabilities}

/-- A version naming one mode puts both roles in it. -/
theorem resolve_of_text {m : TlsMode} (h : cell.field "tls_version" = m.text) :
    resolveCellTlsModes cell srvCaps cliCaps = (m, m) := by
  have hne : strip (cell.field "tls_version") ≠ "" := by
    rw [h]
    cases m <;> decide
  have hone : splitOnce ':' (strip (cell.field "tls_version")) = none := by
    rw [h]
    cases m <;> decide
  rw [resolve_of_symmetric hne hone, h, tlsModeFromVersion_strip, tlsModeFromVersion_text]

/-- A version naming a mode for each role puts each role in its own. -/
theorem resolve_of_texts {ms mc : TlsMode}
    (h : cell.field "tls_version" = ms.text ++ ":" ++ mc.text) :
    resolveCellTlsModes cell srvCaps cliCaps = (ms, mc) := by
  have hsides : splitOnce ':' (strip (cell.field "tls_version")) = some (ms.text, mc.text) := by
    rw [h]
    cases ms <;> cases mc <;> decide
  have hne : ∀ m : TlsMode, strip m.text ≠ "" := by
    intro m
    cases m <;> decide
  rw [resolve_of_sides hsides]
  dsimp only
  rw [if_pos (hne ms), if_pos (hne mc), tlsModeFromVersion_strip, tlsModeFromVersion_strip,
    tlsModeFromVersion_text, tlsModeFromVersion_text]

/-- The implicit rule writes a side's only mode, and nothing for any other side. -/
theorem implicitTlsVersionForSide_of_mode {server : Bool} {caps : Capabilities} {m : TlsMode}
    (h : cellCipherModes cell server caps = {m}) :
    implicitTlsVersionForSide cell server caps = m.text := by
  unfold implicitTlsVersionForSide
  dsimp only
  rw [h]
  cases m <;> decide

theorem implicitTlsVersionForSide_cases (cell : Cell) (server : Bool) (caps : Capabilities) :
    implicitTlsVersionForSide cell server caps = "" ∨
      ∃ m : TlsMode, implicitTlsVersionForSide cell server caps = m.text := by
  unfold implicitTlsVersionForSide
  dsimp only
  split
  · exact .inr ⟨.v13, rfl⟩
  · split
    · exact .inr ⟨.v12, rfl⟩
    · exact .inl rfl

/-- A mode that is the only one of a set whenever the set has only one is in it. -/
theorem mem_of_singleton_imp {s : Finset TlsMode} {x : TlsMode} (hne : s ≠ ∅)
    (h : ∀ m, s = {m} → x = m) : x ∈ s := by
  obtain ⟨y, hy⟩ := Finset.nonempty_iff_ne_empty.mpr hne
  by_contra hx
  have hother : ∀ z ∈ s, z = y := by
    intro z hz
    have hzx : z ≠ x := fun he => hx (he ▸ hz)
    have hyx : y ≠ x := fun he => hx (he ▸ hy)
    cases x <;> cases y <;> cases z <;> simp_all
  have hs : s = {y} := Finset.eq_singleton_iff_unique_mem.mpr ⟨hy, hother⟩
  rw [h y hs] at hx
  exact hx hy

theorem TlsMode.text_ne_empty (m : TlsMode) : m.text ≠ "" := by
  cases m <;> decide

theorem TlsMode.text_injective {m m' : TlsMode} (h : m.text = m'.text) : m = m' := by
  rw [← tlsModeFromVersion_text m, h, tlsModeFromVersion_text]

/-- A role whose cipher has one mode is put in it, whatever the other role's has. -/
theorem resolve_of_implicit {cell' : Cell} (hown : strip (cell.field "tls_version") = "")
    (htv : cell'.field "tls_version" = implicitTlsVersion cell srvCaps cliCaps) (m : TlsMode) :
    (cellCipherModes cell true srvCaps = {m} →
      (resolveCellTlsModes cell' srvCaps cliCaps).1 = m) ∧
    (cellCipherModes cell false cliCaps = {m} →
      (resolveCellTlsModes cell' srvCaps cliCaps).2 = m) := by
  unfold implicitTlsVersion at htv
  dsimp only at htv
  constructor
  · intro hm
    rw [implicitTlsVersionForSide_of_mode hm] at htv
    -- the version given depends on whether the client has a mode, and the same one
    rcases implicitTlsVersionForSide_cases cell false cliCaps with hcli | ⟨mc, hcli⟩
    · simp only [hcli, hown, TlsMode.text_ne_empty, ne_eq, not_true_eq_false, not_false_eq_true, false_or,
        and_true, and_false, if_false, if_true] at htv
      rw [resolve_of_text htv]
    · by_cases heq : m = mc
      · simp only [hcli, hown, heq, TlsMode.text_ne_empty, ne_eq, not_true_eq_false, not_false_eq_true,
          false_or, and_false, if_false, if_true] at htv
        rw [resolve_of_text htv, heq]
      · have hne : m.text ≠ mc.text := fun h => heq (TlsMode.text_injective h)
        simp only [hcli, hown, hne, TlsMode.text_ne_empty, ne_eq, not_true_eq_false, not_false_eq_true,
          false_or, and_true, and_false, if_false, if_true] at htv
        rw [resolve_of_texts htv]
  · intro hm
    rw [implicitTlsVersionForSide_of_mode hm] at htv
    -- the same with the sides exchanged
    rcases implicitTlsVersionForSide_cases cell true srvCaps with hsrv | ⟨ms, hsrv⟩
    · simp only [hsrv, hown, TlsMode.text_ne_empty, ne_eq, not_true_eq_false, not_false_eq_true, false_or,
        false_and, and_false, if_false] at htv
      rw [resolve_of_text htv]
    · by_cases heq : ms = m
      · simp only [hsrv, hown, heq, TlsMode.text_ne_empty, ne_eq, not_true_eq_false, not_false_eq_true,
          false_or, and_false, if_false, if_true] at htv
        rw [resolve_of_text htv]
      · have hne : ms.text ≠ m.text := fun h => heq (TlsMode.text_injective h)
        simp only [hsrv, hown, hne, TlsMode.text_ne_empty, ne_eq, not_true_eq_false, not_false_eq_true,
          false_or, and_true, and_false, if_false, if_true] at htv
        rw [resolve_of_texts htv]

theorem cellSkipCtx_mode (repo : Repo) (server : Bool) :
    (cellSkipCtx repo cell srvCaps cliCaps).mode server
      = if server then (resolveCellTlsModes cell srvCaps cliCaps).1
        else (resolveCellTlsModes cell srvCaps cliCaps).2 := by
  simp only [CellSkipCtx.mode, cellSkipCtx]

theorem cellSkipCtx_caps (repo : Repo) (server : Bool) :
    (cellSkipCtx repo cell srvCaps cliCaps).caps server = if server then srvCaps else cliCaps := rfl

/-- A role whose cipher has a mode is checked in one its cipher has. -/
theorem ctx_mode_supported (repo : Repo) {cell' : Cell}
    (hown : strip (cell.field "tls_version") = "")
    (htv : cell'.field "tls_version" = implicitTlsVersion cell srvCaps cliCaps)
    (hcs : cell'.field "cipher_suite" = cell.field "cipher_suite") (server : Bool)
    (hid : cellCipherId cell' server ≠ "")
    (hne : ((cellSkipCtx repo cell' srvCaps cliCaps).caps server).cipherModes
      (cellCipherId cell' server) ≠ ∅) :
    ((cellSkipCtx repo cell' srvCaps cliCaps).caps server).supportsCipher
      (cellCipherId cell' server) ((cellSkipCtx repo cell' srvCaps cliCaps).mode server)
        = true := by
  have hmode := resolve_of_implicit hown htv
  have hcipher : ∀ caps : Capabilities,
      cellCipherModes cell server caps = caps.cipherModes (cellCipherId cell' server) := by
    intro caps
    rw [← cellCipherModes_congr hcs, cellCipherModes, if_neg hid]
  rw [← hcipher, cellSkipCtx_caps] at hne
  rw [← Capabilities.mem_cipherModes, ← hcipher, cellSkipCtx_mode, cellSkipCtx_caps]
  generalize resolveCellTlsModes cell' srvCaps cliCaps = modes at hmode ⊢
  cases server with
  | true =>
    rw [if_pos rfl] at hne
    rw [if_pos rfl, if_pos rfl]
    generalize cellCipherModes cell true srvCaps = ms at hmode hne ⊢
    exact mem_of_singleton_imp hne fun m hm => (hmode m).1 hm
  | false =>
    rw [if_neg Bool.false_ne_true] at hne
    rw [if_neg Bool.false_ne_true, if_neg Bool.false_ne_true]
    generalize cellCipherModes cell false cliCaps = mc at hmode hne ⊢
    exact mem_of_singleton_imp hne fun m hm => (hmode m).2 hm

theorem checkCipherSide_of_supports {server : Bool} {wrapper : String} {caps : Capabilities}
    {mode : TlsMode} (h : caps.supportsCipher (cellCipherId cell server) mode = true) :
    checkCipherSide cell server wrapper caps mode = none := by
  unfold checkCipherSide
  dsimp only
  rw [if_pos h, ite_self]

end

/-- **An inferred version is one the ciphers have**: a cell without a version is
checked, and run, in a mode each role's cipher has.  The version that the normaliser gives
names a mode for each side; where the two sides need different ones it is a pair. -/
theorem implicit_version_supported {repo : Repo} {cell cell' : Cell} {argsTemplate : Args}
    {srvCaps cliCaps : Capabilities}
    (hs : repo.loadBackendCapabilities (lower (strip (cell.field "server"))) = .ok srvCaps)
    (hc : repo.loadBackendCapabilities (lower (strip (cell.field "client"))) = .ok cliCaps)
    (hown : strip (cell.field "tls_version") = "")
    (hnorm : normalizeCellTlsMicroParams repo cell argsTemplate = .ok cell') (server : Bool) :
    let ctx := cellSkipCtx repo cell' srvCaps cliCaps
    cellCipherId cell' server ≠ "" → (ctx.caps server).cipherModes (cellCipherId cell' server) ≠ ∅ →
      ctx.mode server ∈ (ctx.caps server).cipherModes (cellCipherId cell' server) ∧
      (∀ cfg, tlsConfigFromCell repo cell' server = .ok cfg →
        tlsModeFromVersion cfg.version = ctx.mode server) ∧
      ∀ wrapper, checkCipherSide cell' server wrapper (ctx.caps server) (ctx.mode server)
        = none := by
  intro ctx hid hmodes
  obtain ⟨port, -, hcell⟩ := (normalizeCellTlsMicroParams_eq_ok hs hc).mp hnorm
  have htv : cell'.field "tls_version" = implicitTlsVersion cell srvCaps cliCaps :=
    normalized_tlsVersion hcell
  have hsup := ctx_mode_supported repo hown htv (normalized_cipherSuite hcell) server hid hmodes
  rw [Capabilities.mem_cipherModes]
  refine ⟨hsup, fun cfg hcfg => ?_, fun wrapper => checkCipherSide_of_supports hsup⟩
  -- the version the rule has written leaves no side to the default
  obtain ⟨portS, certS, keyS, -, hcfgS⟩ := tlsConfigFromCell_eq_ok hcfg
  have hsettled : VersionSidesSettled cell srvCaps cliCaps := by
    simp [VersionSidesSettled, hown, splitOnce, cut]
  have hpair := (resolve_normalized_eq_iff hcell portS portS).mpr hsettled
  have hversion : cfg.version = (cellConfig cell' server portS).version := by rw [hcfgS]
  rw [hversion, cellSkipCtx_mode, hpair]
  cases server with
  | true => rw [if_pos rfl]
  | false => rw [if_neg Bool.false_ne_true]

/-- A cell without a version, whose cipher exists in TLS 1.2 only. -/
def tls12CipherCell : Cell :=
  [(.str "server", "openssl"), (.str "client", "gnutls"),
    (.str "cipher_suite", "ecdhe-rsa-aes-128-gcm-sha256")]

/-- The cell after normalisation. -/
def tls12CipherCellNormalized : Cell :=
  tls12CipherCell ++ [(.str "tls_version", "1.2"), (.str "supported_groups", ""),
    (.str "signature_schemes", ""), (.str "test_features", "")]

/-- The client of the cell is checked and run in a mode that has its cipher. -/
theorem implicit_version_supported_tls12Cipher :
    let ctx := cellSkipCtx (shippedRepo "/repo" noCerts) tls12CipherCellNormalized
      opensslCapabilities gnutlsCapabilities
    ctx.mode false ∈ (ctx.caps false).cipherModes "ecdhe-rsa-aes-128-gcm-sha256" ∧
      (∀ cfg, tlsConfigFromCell (shippedRepo "/repo" noCerts) tls12CipherCellNormalized false
          = .ok cfg → tlsModeFromVersion cfg.version = ctx.mode false) ∧
      ∀ wrapper, checkCipherSide tls12CipherCellNormalized false wrapper (ctx.caps false)
        (ctx.mode false) = none := by
  have hs : (shippedRepo "/repo" noCerts).loadBackendCapabilities
      (lower (strip (tls12CipherCell.field "server"))) = .ok opensslCapabilities :=
    shippedRepo_load.mpr (.inr (.inr ⟨by decide, rfl⟩))
  have hc : (shippedRepo "/repo" noCerts).loadBackendCapabilities
      (lower (strip (tls12CipherCell.field "client"))) = .ok gnutlsCapabilities :=
    shippedRepo_load.mpr (.inl ⟨by decide, rfl⟩)
  have hnorm : normalizeCellTlsMicroParams (shippedRepo "/repo" noCerts) tls12CipherCell
      defaultArgs = .ok tls12CipherCellNormalized := by
    decide
  exact implicit_version_supported hs hc (by decide) hnorm false (by decide) (by decide)

end TlsInterop
