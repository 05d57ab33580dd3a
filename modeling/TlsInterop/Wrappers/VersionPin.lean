import TlsInterop.Wrappers.NSS

/-!
# The version NSS is allowed to negotiate

The wrapper writes two things about the version on one command line: the mapping
of ciphers, groups and signatures, chosen by the mode of the configuration, and
the range behind `-V`, chosen by a fixed list of spellings.

## Main definitions

* `pinnedRange` — the range of one mode only.
* `pinnedSpellings` — the spellings that are recognised.

## Main results

* `tlsVersionRange_pinned_iff` — the range is that of the mode exactly for the
  recognised spellings.
* `nss_pins_version_iff` — what this says of a command that is launched.
* `tlsv13_not_pinned` — a version that is translated for TLS 1.3 and not pinned.
-/

namespace TlsInterop.NSS

open Py Effects

/-- The range that allows the version of the mode only. -/
def pinnedRange : TlsMode → String
  | .v12 => "tls1.2:tls1.2"
  | .v13 => "tls1.3:tls1.3"

/-- The spellings `_tls_version_range` recognises, with their modes. -/
def pinnedSpellings : List (String × TlsMode) :=
  [("1.2", .v12), ("1.2.0", .v12), ("tls1.2", .v12), ("tls1_2", .v12), ("1.3", .v13),
    ("1.3.0", .v13), ("tls1.3", .v13), ("tls1_3", .v13)]

/-- The mode of a version is read off its lower-case form. -/
theorem tlsModeFromVersion_eq_of_lower {version spelling : String}
    (h : lower (strip version) = spelling) (hne : spelling ≠ "") :
    tlsModeFromVersion version =
      let folded := removeChar '_' (removeChar '-' (removeChar '.' (removeChar ' ' spelling)))
      if contains "13" folded then .v13 else if contains "12" folded then .v12 else .v13 := by
  have hstrip : strip version ≠ "" := by
    intro hempty
    rw [hempty] at h
    exact hne h.symm
  rw [tlsModeFromVersion, if_neg hstrip, normCatalogToken, h]

/-- A recognised spelling has the mode it is listed with. -/
theorem tlsMode_of_pinnedSpelling {config : TlsConfig} {p : String × TlsMode}
    (hp : p ∈ pinnedSpellings) (h : lower (strip config.version) = p.1) :
    tlsMode12Or13 config = p.2 := by
  have hlisted : ∀ p ∈ pinnedSpellings, p.1 ≠ "" ∧
      (let folded := removeChar '_' (removeChar '-' (removeChar '.' (removeChar ' ' p.1)))
       (if contains "13" folded then .v13 else if contains "12" folded then .v12 else .v13)
        = p.2) := by
    decide
  obtain ⟨hne, hmode⟩ := hlisted p hp
  rw [tlsMode12Or13, tlsModeFromVersion_eq_of_lower h hne]
  exact hmode

/-- The range of a version with the given lower-case form. -/
theorem tlsVersionRange_eq {config : TlsConfig} {v : String} (h : lower (strip config.version) = v) :
    tlsVersionRange config =
      if v ∈ ["1.2", "1.2.0", "tls1.2", "tls1_2"] then "tls1.2:tls1.2"
      else if v ∈ ["1.3", "1.3.0", "tls1.3", "tls1_3"] then "tls1.3:tls1.3"
      else "tls1.2:tls1.3" := by
  rw [tlsVersionRange, h]

/-- **The range is that of the mode** exactly for the recognised spellings. -/
theorem tlsVersionRange_pinned_iff (config : TlsConfig) :
    tlsVersionRange config = pinnedRange (tlsMode12Or13 config) ↔
      lower (strip config.version) ∈ pinnedSpellings.map Prod.fst := by
  constructor
  · intro hrange
    by_contra hnot
    have hneither : lower (strip config.version) ∉ ["1.2", "1.2.0", "tls1.2", "tls1_2"] ∧
        lower (strip config.version) ∉ ["1.3", "1.3.0", "tls1.3", "tls1_3"] := by
      constructor <;> intro hmem <;> apply hnot
      · exact List.mem_append_left _ hmem
      · exact List.mem_append_right ["1.2", "1.2.0", "tls1.2", "tls1_2"] hmem
    rw [tlsVersionRange_eq rfl, if_neg hneither.1, if_neg hneither.2] at hrange
    -- the range of both versions is not that of one
    cases hmode : tlsMode12Or13 config with
    | v12 =>
      rw [hmode] at hrange
      exact absurd hrange (by decide)
    | v13 =>
      rw [hmode] at hrange
      exact absurd hrange (by decide)
  · intro hmem
    obtain ⟨p, hp, hlower⟩ := List.mem_map.mp hmem
    have hranges : ∀ p ∈ pinnedSpellings,
        (if p.1 ∈ ["1.2", "1.2.0", "tls1.2", "tls1_2"] then "tls1.2:tls1.2"
          else if p.1 ∈ ["1.3", "1.3.0", "tls1.3", "tls1_3"] then "tls1.3:tls1.3"
          else "tls1.2:tls1.3") = pinnedRange p.2 := by
      decide
    rw [tlsVersionRange_eq hlower.symm, tlsMode_of_pinnedSpelling hp hlower.symm]
    exact hranges p hp

/-! ### The commands -/

/-- The command of a role. -/
def startRole (host : WrapperHost) (config : TlsConfig) (server : Bool) : StagingM Launch :=
  if server then startServer host config else startClient host config

/-- What a command says about the version: the range behind `-V`, and the options
translated for the mode. -/
def NamesVersion (host : WrapperHost) (config : TlsConfig) (cmd : List String) : Prop :=
  ["-V", tlsVersionRange config] <:+: cmd ∧
    (tlsArgvForConfig config (host.capabilities "nss")).argv <:+: cmd

theorem infix_first {α : Type} {l first : List α} (h : l <:+: first) (rest : List α) :
    l <:+: first ++ rest :=
  h.trans (List.prefix_append first rest).isInfix

theorem infix_second {α : Type} {l second : List α} (h : l <:+: second) (first : List α) :
    l <:+: first ++ second :=
  h.trans (List.suffix_append first second).isInfix

/-- Every value the program ends in has the property. -/
def EndsIn {α : Type} (P : α → Prop) (m : StagingM α) : Prop :=
  ∀ s tr a s', m.Exec s tr (.ok a) s' → P a

namespace EndsIn

variable {α β : Type} {P : β → Prop}

theorem pure {b : β} (h : P b) : EndsIn P (pure b) := by
  intro s tr a s' hrun
  obtain ⟨-, hval, -⟩ := Eff.exec_pure.mp hrun
  exact Except.ok.inj hval ▸ h

/-- What a sequence ends in is what its last program ends in. -/
theorem bind {m : StagingM α} {f : α → StagingM β} (h : ∀ a, EndsIn P (f a)) :
    EndsIn P (m >>= f) := by
  intro s tr b s' hrun
  obtain ⟨a, s₁, tr₁, tr₂, -, -, hlast⟩ := Eff.exec_bind_ok.mp hrun
  exact h a s₁ tr₂ b s' hlast

end EndsIn

variable (host : WrapperHost) (config : TlsConfig)

theorem startServer_names :
    EndsIn (fun launch => NamesVersion host config launch.cmd) (startServer host config) := by
  unfold startServer
  refine EndsIn.bind fun _ => EndsIn.bind fun cwd => EndsIn.bind fun nickname => EndsIn.pure ?_
  have hrange : ["-V", tlsVersionRange config] <:+: ["stdbuf", "-o0", host.selfserv, "-d",
      dbSpec host, "-n", nickname, "-p", toString config.port, "-V", tlsVersionRange config] :=
    infix_second (infix_second List.infix_rfl ["-p", toString config.port])
      ["stdbuf", "-o0", host.selfserv, "-d", dbSpec host, "-n", nickname]
  exact ⟨infix_first (infix_first (infix_first hrange _) _) _,
    infix_first (infix_first (List.suffix_append _ _).isInfix _) _⟩

theorem startClient_names :
    EndsIn (fun launch => NamesVersion host config launch.cmd) (startClient host config) := by
  unfold startClient
  refine EndsIn.bind fun _ => EndsIn.bind fun p => EndsIn.bind fun cwd => EndsIn.pure ?_
  have hargv : (tlsArgvForConfig config (host.capabilities "nss")).argv <:+:
      [host.tstclnt, "-d", dbSpec host, "-h", p.1] ++
        (tlsArgvForConfig config (host.capabilities "nss")).argv :=
    (List.suffix_append _ _).isInfix
  exact ⟨(List.suffix_append _ _).isInfix, infix_first (infix_first (infix_first (infix_first
    (infix_first (infix_first hargv _) _) _) _) _) _⟩

/-- **NSS pins the version it translates for** exactly for the recognised
spellings: on every command that is launched.  The mode is found in the version by its
digits, the range by a list of spellings, and a version that is not on the list is given
the whole range. -/
theorem nss_pins_version_iff {server : Bool} {s s' : Staging} {tr : List (Event StagingAns)}
    {launch : Launch} (h : (startRole host config server).Exec s tr (.ok launch) s') :
    NamesVersion host config launch.cmd ∧
      (tlsVersionRange config = pinnedRange (tlsMode12Or13 config) ↔
        lower (strip config.version) ∈ pinnedSpellings.map Prod.fst) := by
  refine ⟨?_, tlsVersionRange_pinned_iff config⟩
  cases server with
  | true => exact startServer_names host config s tr launch s' h
  | false => exact startClient_names host config s tr launch s' h

/-! ### Two launches -/

/-- A wrapper whose database is ready. -/
def readyStaging : Staging := { nssDbReady := true }

/-- A host of an empty repository. -/
def pinHost : WrapperHost where
  repo := { root := "/repo", wrappers := [], wrappers_named := by simp, certs := fun _ => none }

/-- A configuration with a version and a port only. -/
def versionConfig (version : String) : TlsConfig := { version, port := 5555 }

/-- A ready database is not looked at again. -/
theorem ensureNssDbReady_of_ready (host : WrapperHost) :
    (ensureNssDbReady host).Exec readyStaging [] (.ok ()) readyStaging := by
  unfold ensureNssDbReady
  have hready : readyStaging.nssDbReady = true := rfl
  rw [Eff.exec_getState_bind, if_pos hready, Eff.exec_pure]
  exact ⟨rfl, rfl, rfl⟩

theorem exec_pure_of {α : Type} (a : α) (s : Staging) :
    (pure a : StagingM α).Exec s [] (.ok a) s :=
  Eff.exec_pure.mpr ⟨rfl, rfl, rfl⟩

theorem exec_bind_of {α β : Type} {m : StagingM α} {f : α → StagingM β} {s s₁ s' : Staging}
    {tr₁ tr₂ : List (Event StagingAns)} {a : α} {b : β} (hm : m.Exec s tr₁ (.ok a) s₁)
    (hf : (f a).Exec s₁ tr₂ (.ok b) s') : (m >>= f).Exec s (tr₁ ++ tr₂) (.ok b) s' :=
  Eff.exec_bind_ok.mpr ⟨a, s₁, tr₁, tr₂, rfl, hm, hf⟩

/-- Without the pair environment the peer is not looked up. -/
theorem hostAndExtraArgv_runs (hostname : String) (port : ℤ) :
    ∃ p, (nssTstclntHostAndExtraArgv pinHost hostname port).Exec readyStaging [] (.ok p)
      readyStaging := by
  have hpair : pinHost.environ.get? "INTEROP_GNUTLS_NSS_PAIR" ≠ some "true" := by decide
  unfold nssTstclntHostAndExtraArgv
  dsimp only
  rw [if_pos hpair]
  exact ⟨_, exec_pure_of _ _⟩

/-- The client of such a configuration is launched. -/
theorem exists_client_launch (version : String) :
    ∃ launch tr, (startRole pinHost (versionConfig version) false).Exec readyStaging tr
      (.ok launch) readyStaging := by
  have hcwd : (Eff.invoke .getcwd id : StagingM String).Exec readyStaging [⟨.getcwd, .ok "/"⟩]
      (.ok "/") readyStaging :=
    Eff.exec_invoke.mpr ⟨.ok "/", rfl, rfl, rfl⟩
  obtain ⟨p, hp⟩ := hostAndExtraArgv_runs "localhost" 5555
  unfold startRole
  rw [if_neg Bool.false_ne_true]
  unfold startClient
  exact ⟨_, _, exec_bind_of (ensureNssDbReady_of_ready pinHost) (exec_bind_of hp
    (exec_bind_of hcwd (exec_pure_of _ _)))⟩

/-- A TLS 1.3 client in a recognised spelling is pinned. -/
theorem tls13_pinned :
    ∃ launch tr s', (startRole pinHost (versionConfig "TLS1.3") false).Exec readyStaging tr
        (.ok launch) s' ∧
      ["-V", "tls1.3:tls1.3"] <:+: launch.cmd := by
  obtain ⟨launch, tr, hrun⟩ := exists_client_launch "TLS1.3"
  obtain ⟨hnames, hiff⟩ := nss_pins_version_iff pinHost (versionConfig "TLS1.3") hrun
  have hrange : tlsVersionRange (versionConfig "TLS1.3")
      = pinnedRange (tlsMode12Or13 (versionConfig "TLS1.3")) := hiff.mpr (by decide)
  have hmode : tlsMode12Or13 (versionConfig "TLS1.3") = .v13 := by decide
  rw [NamesVersion, hrange, hmode] at hnames
  exact ⟨launch, _, _, hrun, hnames.1⟩

/-- A version translated for TLS 1.3 may be negotiated as TLS 1.2. -/
theorem tlsv13_not_pinned :
    (∃ launch tr s', (startRole pinHost (versionConfig "TLSv1.3") false).Exec readyStaging tr
        (.ok launch) s' ∧ ["-V", "tls1.2:tls1.3"] <:+: launch.cmd) ∧
      tlsMode12Or13 (versionConfig "TLSv1.3") = .v13 ∧
      tlsVersionRange (versionConfig "TLSv1.3") = "tls1.2:tls1.3" := by
  have hrange : tlsVersionRange (versionConfig "TLSv1.3") = "tls1.2:tls1.3" := by decide
  obtain ⟨launch, tr, hrun⟩ := exists_client_launch "TLSv1.3"
  have hnames : NamesVersion pinHost (versionConfig "TLSv1.3") launch.cmd := by
    unfold startRole at hrun
    rw [if_neg Bool.false_ne_true] at hrun
    exact startClient_names _ _ _ _ _ _ hrun
  rw [NamesVersion, hrange] at hnames
  exact ⟨⟨launch, _, _, hrun, hnames.1⟩, by decide, hrange⟩

end TlsInterop.NSS
