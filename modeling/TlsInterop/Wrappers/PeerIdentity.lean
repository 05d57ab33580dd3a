import TlsInterop.Core.Acceptance
import TlsInterop.Wrappers.PskAgreement

/-!
# What a peer trusts and what it is shown

The bundle under `certs/` that a role presents is selected by its own signature
schemes, else by its cipher.  The bundle its peer trusts is selected by the schemes
of the role, else by those of the peer, and never by a cipher unless it is a DSS
one.  With all bundles present the two differ when the role lists no scheme and
its cipher asks for another key than the schemes of the peer do.

## Main definitions

* `Finds` — a run that finds every file it looks for.
* `Takes` — such a run takes the certificate of a bundle.
* `ClientTrusts`, `ServerPresents`, `ServerTrusts`, `ClientPresents` — the bundles
  of the two roles.
* `PeersTrusted` — each role trusts what its peer presents.
* `LeafTrusted`, `ClientTrusted` — the conditions on the cell.

## Main results

* `clientTrusts_iff`, `serverPresents_iff`, `serverTrusts_iff`, `clientPresents_iff` —
  which bundle each function takes.
* `peersTrusted_iff` — **when each role trusts what its peer presents.**
-/

namespace TlsInterop

open Py Effects

/-! ### Runs that find every file -/

/-- The call finds its file. -/
def FileThere : Event StagingAns → Prop
  | ⟨.isFile _, ans⟩ => ans = .ok true
  | ⟨.osIsFile _, ans⟩ => ans = true
  | ⟨.resolve _, ans⟩ => ∃ path, path ≠ "" ∧ ans = .ok path
  | _ => True

/-- A run to a value that finds every file it looks for. -/
def Finds {α : Type} (m : StagingM α) (s : Staging) (tr : List (Event StagingAns)) (a : α)
    (s' : Staging) : Prop :=
  m.Exec s tr (.ok a) s' ∧ ∀ e ∈ tr, FileThere e

section

variable {α β : Type} {s s' : Staging} {tr : List (Event StagingAns)}

theorem finds_bind {m : StagingM α} {f : α → StagingM β} {b : β} :
    Finds (m >>= f) s tr b s' ↔
      ∃ a s₁ tr₁ tr₂, tr = tr₁ ++ tr₂ ∧ Finds m s tr₁ a s₁ ∧ Finds (f a) s₁ tr₂ b s' := by
  unfold Finds
  rw [Eff.exec_bind_ok]
  constructor
  · rintro ⟨⟨a, s₁, tr₁, tr₂, rfl, h₁, h₂⟩, hall⟩
    exact ⟨a, s₁, tr₁, tr₂, rfl, ⟨h₁, fun e he => hall e (List.mem_append_left _ he)⟩,
      ⟨h₂, fun e he => hall e (List.mem_append_right _ he)⟩⟩
  · rintro ⟨a, s₁, tr₁, tr₂, rfl, ⟨h₁, hall₁⟩, ⟨h₂, hall₂⟩⟩
    refine ⟨⟨a, s₁, tr₁, tr₂, rfl, h₁, h₂⟩, fun e he => ?_⟩
    rcases List.mem_append.mp he with he | he
    · exact hall₁ e he
    · exact hall₂ e he

theorem finds_pure {a b : α} :
    Finds (pure a) s tr b s' ↔ tr = [] ∧ a = b ∧ s = s' := by
  unfold Finds
  rw [Eff.exec_pure, Except.ok.injEq]
  constructor
  · rintro ⟨h, -⟩
    exact h
  · rintro ⟨rfl, h⟩
    exact ⟨⟨rfl, h⟩, fun e he => by cases he⟩

theorem finds_isFile {path : String} {b : Bool} :
    Finds (Eff.invoke (.isFile path) id) s tr b s' ↔
      tr = [⟨.isFile path, .ok true⟩] ∧ b = true ∧ s = s' := by
  unfold Finds
  rw [Eff.exec_invoke]
  constructor
  · rintro ⟨⟨ans, rfl, hans, rfl⟩, hall⟩
    have htrue : ans = .ok true := hall _ List.mem_cons_self
    subst htrue
    exact ⟨rfl, (Except.ok.inj hans).symm, rfl⟩
  · rintro ⟨rfl, rfl, rfl⟩
    exact ⟨⟨_, rfl, rfl, rfl⟩, fun e he => by rw [List.mem_singleton.mp he]; rfl⟩

theorem finds_resolve {path found : String} :
    Finds (Eff.invoke (.resolve path) id) s tr found s' ↔
      tr = [⟨.resolve path, .ok found⟩] ∧ found ≠ "" ∧ s = s' := by
  unfold Finds
  rw [Eff.exec_invoke]
  constructor
  · rintro ⟨⟨ans, rfl, hans, rfl⟩, hall⟩
    obtain ⟨file, hne, rfl⟩ : ∃ file, file ≠ "" ∧ ans = .ok file := hall _ List.mem_cons_self
    obtain rfl := Except.ok.inj hans
    exact ⟨rfl, hne, rfl⟩
  · rintro ⟨rfl, hne, rfl⟩
    exact ⟨⟨_, rfl, rfl, rfl⟩, fun e he => by rw [List.mem_singleton.mp he]; exact ⟨found, hne, rfl⟩⟩

theorem finds_isFoundFile {path : String} (hne : path ≠ "") {b : Bool} :
    Finds (isFoundFile path) s tr b s' ↔ tr = [⟨.osIsFile path, true⟩] ∧ b = true ∧ s = s' := by
  unfold Finds isFoundFile
  rw [if_neg hne, Eff.exec_call]
  constructor
  · rintro ⟨⟨ans, rfl, hans, rfl⟩, hall⟩
    have htrue : ans = true := hall _ List.mem_cons_self
    subst htrue
    exact ⟨rfl, (Except.ok.inj hans).symm, rfl⟩
  · rintro ⟨rfl, rfl, rfl⟩
    exact ⟨⟨_, rfl, rfl, rfl⟩, fun e he => by rw [List.mem_singleton.mp he]; rfl⟩

end

/-! ### Bundles -/

/-- `IDENTITY_PREFIXES`. -/
def identityPrefixes : List String := uniqueItems (schemePrefixRules.map Prod.snd)

theorem getCertPrefixForScheme_mem (scheme : String) :
    getCertPrefixForScheme scheme ∈ identityPrefixes := by
  have hdefault : defaultPrefix ∈ identityPrefixes := by decide
  have hrules : ∀ rule ∈ schemePrefixRules, rule.2 ∈ identityPrefixes := by decide
  unfold getCertPrefixForScheme
  dsimp only
  split
  · exact hdefault
  · split
    · next rule hrule => exact hrules rule (List.mem_of_find?_eq_some hrule)
    · exact hdefault

theorem getCertPrefixForSchemes_mem (schemes : List String) :
    getCertPrefixForSchemes schemes ∈ identityPrefixes := by
  unfold getCertPrefixForSchemes
  split
  · exact getCertPrefixForScheme_mem _
  · decide

theorem strip_of_mem_identityPrefixes {p : String} (h : p ∈ identityPrefixes) :
    strip p = p ∧ p ≠ "" := by
  have hall : ∀ p ∈ identityPrefixes, strip p = p ∧ p ≠ "" := by decide
  exact hall p h

/-- A file of a bundle. -/
def bundleFile (host : WrapperHost) (p ext : String) : String :=
  host.repo.root ++ "/certs/" ++ p ++ ext

/-- The calls that find a bundle. -/
def bundleTrace (host : WrapperHost) (p crt key : String) : List (Event StagingAns) :=
  [⟨.isFile (bundleFile host p ".crt"), .ok true⟩, ⟨.isFile (bundleFile host p ".key"), .ok true⟩,
    ⟨.resolve (bundleFile host p ".crt"), .ok crt⟩, ⟨.resolve (bundleFile host p ".key"), .ok key⟩]

theorem bundleFile_inj {host : WrapperHost} {p q : String}
    (h : bundleFile host p ".crt" = bundleFile host q ".crt") : p = q := by
  unfold bundleFile at h
  have hlist := congrArg String.toList h
  simp only [String.toList_append, List.append_assoc, List.append_cancel_left_eq,
    List.append_cancel_right_eq] at hlist
  exact String.toList_inj.mp hlist

theorem bundleFile_crt_ne_key {host : WrapperHost} {p q : String} :
    bundleFile host p ".crt" ≠ bundleFile host q ".key" := by
  intro h
  have hlast := congrArg (fun s => s.toList.getLast?) h
  unfold bundleFile at hlast
  simp only [String.toList_append, List.getLast?_append] at hlast
  have hcrt : (".crt".toList.getLast?) = some 't' := rfl
  have hkey : (".key".toList.getLast?) = some 'y' := rfl
  rw [hcrt, hkey, Option.some_or, Option.some_or] at hlast
  exact absurd (Option.some.inj hlast) (by decide)

theorem mem_bundleTrace {host : WrapperHost} {p q crt key path : String} :
    ⟨.resolve (bundleFile host q ".crt"), .ok path⟩ ∈ bundleTrace host p crt key ↔
      q = p ∧ path = crt := by
  unfold bundleTrace
  constructor
  · intro h
    simp only [List.mem_cons, List.not_mem_nil, or_false, Sigma.mk.injEq, reduceCtorEq, false_and,
      false_or, StagingCall.resolve.injEq] at h
    rcases h with ⟨hfile, hans⟩ | ⟨hfile, -⟩
    · exact ⟨bundleFile_inj hfile, Except.ok.inj (eq_of_heq hans)⟩
    · exact absurd hfile bundleFile_crt_ne_key
  · rintro ⟨rfl, rfl⟩
    exact List.mem_cons_of_mem _ (List.mem_cons_of_mem _ List.mem_cons_self)

/-- A bundle that is there is found. -/
theorem finds_catalog {host : WrapperHost} {p : String} (hp : p ∈ identityPrefixes)
    {s s' : Staging} {tr : List (Event StagingAns)} {paths : String × String} :
    Finds (catalogIdentityPemPathsForPrefix host p) s tr paths s' ↔
      (paths.1 ≠ "" ∧ paths.2 ≠ "") ∧ tr = bundleTrace host p paths.1 paths.2 ∧ s = s' := by
  obtain ⟨hstrip, hne⟩ := strip_of_mem_identityPrefixes hp
  unfold catalogIdentityPemPathsForPrefix
  rw [hstrip, if_neg hne]
  dsimp only
  constructor
  · intro h
    obtain ⟨b, s₁, tr₁, tr', rfl, hcrt, h⟩ := finds_bind.mp h
    obtain ⟨rfl, rfl, rfl⟩ := finds_isFile.mp hcrt
    obtain ⟨b, s₂, tr₂, tr'', rfl, hkey, h⟩ := finds_bind.mp h
    obtain ⟨rfl, rfl, rfl⟩ := finds_isFile.mp hkey
    obtain ⟨crt, s₃, tr₃, tr₄, rfl, hcrt, h⟩ := finds_bind.mp h
    obtain ⟨rfl, hcrtNe, rfl⟩ := finds_resolve.mp hcrt
    obtain ⟨key, s₄, tr₅, tr₆, rfl, hkey, h⟩ := finds_bind.mp h
    obtain ⟨rfl, hkeyNe, rfl⟩ := finds_resolve.mp hkey
    obtain ⟨rfl, rfl, rfl⟩ := finds_pure.mp h
    exact ⟨⟨hcrtNe, hkeyNe⟩, rfl, rfl⟩
  · rintro ⟨⟨hcrtNe, hkeyNe⟩, rfl, rfl⟩
    refine finds_bind.mpr ⟨true, s, [_], _, rfl, finds_isFile.mpr ⟨rfl, rfl, rfl⟩, ?_⟩
    refine finds_bind.mpr ⟨true, s, [_], _, rfl, finds_isFile.mpr ⟨rfl, rfl, rfl⟩, ?_⟩
    refine finds_bind.mpr ⟨paths.1, s, [_], _, rfl, finds_resolve.mpr ⟨rfl, hcrtNe, rfl⟩, ?_⟩
    refine finds_bind.mpr ⟨paths.2, s, [_], [], rfl, finds_resolve.mpr ⟨rfl, hkeyNe, rfl⟩, ?_⟩
    exact finds_pure.mpr ⟨rfl, rfl, rfl⟩

/-! ### Bundles a role takes -/

/-- A run of `m` that finds every file takes the certificate of a bundle: it
resolves the file, and `crt` is its path in the result. -/
def Takes {α : Type} (host : WrapperHost) (m : StagingM α) (crt : α → String) (p : String) : Prop :=
  ∃ s tr a s', Finds m s tr a s' ∧ ⟨.resolve (bundleFile host p ".crt"), .ok (crt a)⟩ ∈ tr

/-- A call of `Path.resolve`. -/
def isResolve : Event StagingAns → Bool
  | ⟨.resolve _, _⟩ => true
  | _ => false

/-- A program whose runs find one bundle, and make no further `Path.resolve`, takes it. -/
theorem takes_iff {α : Type} {host : WrapperHost} {m : StagingM α} {crt : α → String} {p q : String}
    (hruns : ∀ {s tr a s'}, Finds m s tr a s' → ∃ key rest,
      tr = bundleTrace host p (crt a) key ++ rest ∧ ∀ e ∈ rest, isResolve e = false)
    (hrun : ∃ s tr a s', Finds m s tr a s') : Takes host m crt q ↔ q = p := by
  constructor
  · rintro ⟨s, tr, a, s', hfinds, hmem⟩
    obtain ⟨key, rest, rfl, hrest⟩ := hruns hfinds
    rcases List.mem_append.mp hmem with hmem | hmem
    · exact (mem_bundleTrace.mp hmem).1
    · exact absurd (hrest _ hmem) (by simp [isResolve])
  · rintro rfl
    obtain ⟨s, tr, a, s', hfinds⟩ := hrun
    obtain ⟨key, rest, htr, -⟩ := hruns hfinds
    refine ⟨s, tr, a, s', hfinds, ?_⟩
    rw [htr]
    exact List.mem_append_left _ (mem_bundleTrace.mpr ⟨rfl, rfl⟩)

section

variable {host : WrapperHost} {config : TlsConfig} {s s' : Staging} {tr : List (Event StagingAns)}

/-- The bundle a role trusts: that of its peer's schemes, else of its own. -/
def trustPrefix (config : TlsConfig) : String :=
  getCertPrefixForSchemes (serverTrustSignatureSchemesTokens config)

theorem finds_trustCafile {path : String} :
    Finds (GnuTLS.trustCafile host config) s tr path s' ↔ path ≠ "" ∧ s = s' ∧ ∃ key, key ≠ "" ∧
      tr = bundleTrace host (trustPrefix config) path key ++ [⟨.osIsFile path, true⟩] := by
  unfold GnuTLS.trustCafile
  constructor
  · intro h
    obtain ⟨paths, s₁, tr₁, tr₂, rfl, hbundle, h⟩ := finds_bind.mp h
    obtain ⟨⟨hcrt, hkey⟩, rfl, rfl⟩ := (finds_catalog (getCertPrefixForSchemes_mem _)).mp hbundle
    obtain ⟨b, s₂, tr₃, tr₄, rfl, hfound, h⟩ := finds_bind.mp h
    obtain ⟨rfl, rfl, rfl⟩ := (finds_isFoundFile hcrt).mp hfound
    obtain ⟨rfl, rfl, rfl⟩ := finds_pure.mp h
    exact ⟨hcrt, rfl, paths.2, hkey, rfl⟩
  · rintro ⟨hcrt, rfl, key, hkey, rfl⟩
    refine finds_bind.mpr ⟨(path, key), s, _, _, rfl,
      (finds_catalog (getCertPrefixForSchemes_mem _)).mpr ⟨⟨hcrt, hkey⟩, rfl, rfl⟩, ?_⟩
    refine finds_bind.mpr ⟨true, s, [_], [], rfl, (finds_isFoundFile hcrt).mpr ⟨rfl, rfl, rfl⟩, ?_⟩
    exact finds_pure.mpr ⟨rfl, rfl, rfl⟩

/-- The bundle `_client_x509_cafile` takes. -/
def clientTrustPrefix (config : TlsConfig) : String :=
  if cipherCatalogIdUsesDsaAuth config.cipherSuite then "dsa_default" else trustPrefix config

theorem finds_clientX509Cafile {path : String} :
    Finds (GnuTLS.clientX509Cafile host config) s tr path s' ↔ path ≠ "" ∧ s = s' ∧
      ∃ key, key ≠ "" ∧ tr = bundleTrace host (clientTrustPrefix config) path key ++
        [⟨.osIsFile path, true⟩] := by
  have hdsa : "dsa_default" ∈ identityPrefixes := by decide
  unfold GnuTLS.clientX509Cafile clientTrustPrefix
  cases cipherCatalogIdUsesDsaAuth config.cipherSuite with
  | false =>
    rw [if_neg Bool.false_ne_true, ← finds_trustCafile]
    exact Iff.rfl
  | true =>
    constructor
    · intro h
      obtain ⟨paths, s₁, tr₁, tr₂, rfl, hbundle, h⟩ := finds_bind.mp h
      obtain ⟨⟨hcrt, hkey⟩, rfl, rfl⟩ := (finds_catalog hdsa).mp hbundle
      obtain ⟨b, s₂, tr₃, tr₄, rfl, hfound, h⟩ := finds_bind.mp h
      obtain ⟨rfl, rfl, rfl⟩ := (finds_isFoundFile hcrt).mp hfound
      obtain ⟨rfl, rfl, rfl⟩ := finds_pure.mp h
      exact ⟨hcrt, rfl, paths.2, hkey, rfl⟩
    · rintro ⟨hcrt, rfl, key, hkey, rfl⟩
      refine finds_bind.mpr ⟨(path, key), s, _, _, rfl,
        (finds_catalog hdsa).mpr ⟨⟨hcrt, hkey⟩, rfl, rfl⟩, ?_⟩
      refine finds_bind.mpr
        ⟨true, s, [_], [], rfl, (finds_isFoundFile hcrt).mpr ⟨rfl, rfl, rfl⟩, ?_⟩
      exact finds_pure.mpr ⟨rfl, rfl, rfl⟩

/-- The GnuTLS client loads the trust PEM of the bundle. -/
def ClientTrusts (host : WrapperHost) (config : TlsConfig) (p : String) : Prop :=
  Takes host (GnuTLS.clientX509Cafile host config) id p

/-- `_client_x509_cafile` takes one bundle. -/
theorem clientTrusts_iff {p : String} : ClientTrusts host config p ↔ p = clientTrustPrefix config := by
  refine takes_iff (fun h => ?_) ⟨{}, _, "crt", {}, finds_clientX509Cafile.mpr
    ⟨by decide, rfl, "key", by decide, rfl⟩⟩
  obtain ⟨-, -, key, -, htr⟩ := finds_clientX509Cafile.mp h
  exact ⟨key, _, htr, fun e he => by rw [List.mem_singleton.mp he]; rfl⟩

/-- The `-CAfile` of the OpenSSL server is that of the bundle. -/
def ServerTrusts (host : WrapperHost) (config : TlsConfig) (p : String) : Prop :=
  ∃ certPath, Takes host (OpenSSL.serverTrustArgv host config certPath) (fun argv => argv.getLastD "") p

theorem finds_serverTrustArgv (hmtls : testFeatureEnabledInConfig config "mtls" = true)
    {certPath : String} {argv : List String} :
    Finds (OpenSSL.serverTrustArgv host config certPath) s tr argv s' ↔
      ∃ path key, (path ≠ "" ∧ key ≠ "") ∧ argv = ["-Verify", "1", "-CAfile", path] ∧ s = s' ∧
        tr = bundleTrace host (trustPrefix config) path key ++ [⟨.osIsFile path, true⟩] := by
  unfold OpenSSL.serverTrustArgv
  rw [hmtls]
  constructor
  · intro h
    obtain ⟨paths, s₁, tr₁, tr₂, rfl, hbundle, h⟩ := finds_bind.mp h
    obtain ⟨hne, rfl, rfl⟩ := (finds_catalog (getCertPrefixForSchemes_mem _)).mp hbundle
    obtain ⟨b, s₂, tr₃, tr₄, rfl, hfound, h⟩ := finds_bind.mp h
    obtain ⟨rfl, rfl, rfl⟩ := (finds_isFoundFile hne.1).mp hfound
    obtain ⟨rfl, rfl, rfl⟩ := finds_pure.mp h
    exact ⟨paths.1, paths.2, hne, rfl, rfl, rfl⟩
  · rintro ⟨path, key, hne, rfl, rfl, rfl⟩
    refine finds_bind.mpr ⟨(path, key), s, _, _, rfl,
      (finds_catalog (getCertPrefixForSchemes_mem _)).mpr ⟨hne, rfl, rfl⟩, ?_⟩
    refine finds_bind.mpr
      ⟨true, s, [_], [], rfl, (finds_isFoundFile hne.1).mpr ⟨rfl, rfl, rfl⟩, ?_⟩
    exact finds_pure.mpr ⟨rfl, rfl, rfl⟩

/-- With `mtls` the OpenSSL server takes one bundle, else none. -/
theorem serverTrusts_iff {p : String} : ServerTrusts host config p ↔
    testFeatureEnabledInConfig config "mtls" = true ∧ p = trustPrefix config := by
  unfold ServerTrusts
  cases hmtls : testFeatureEnabledInConfig config "mtls" with
  | false =>
    constructor
    · rintro ⟨certPath, s, tr, argv, s', hfinds, hmem⟩
      unfold OpenSSL.serverTrustArgv at hfinds
      rw [hmtls] at hfinds
      obtain ⟨rfl, -, -⟩ := finds_pure.mp hfinds
      cases hmem
    · rintro ⟨hfalse, -⟩
      cases hfalse
  | true =>
    have htakes : ∀ certPath, Takes host (OpenSSL.serverTrustArgv host config certPath)
        (fun argv => argv.getLastD "") p ↔ p = trustPrefix config := by
      intro certPath
      refine takes_iff (fun h => ?_) ⟨{}, _, _, {}, (finds_serverTrustArgv hmtls).mpr
        ⟨"crt", "key", ⟨by decide, by decide⟩, rfl, rfl, rfl⟩⟩
      obtain ⟨path, key, -, rfl, -, htr⟩ := (finds_serverTrustArgv hmtls).mp h
      exact ⟨key, _, htr, fun e he => by rw [List.mem_singleton.mp he]; rfl⟩
    constructor
    · rintro ⟨certPath, h⟩
      exact ⟨rfl, (htakes certPath).mp h⟩
    · rintro ⟨-, h⟩
      exact ⟨"", (htakes "").mpr h⟩

/-! ### Bundles a role presents -/

/-- The bundle `_ensure_cert_paths` takes without an inline PEM. -/
def ownPrefix (config : TlsConfig) : String :=
  if cipherCatalogIdUsesDsaAuth config.cipherSuite then "dsa_default"
  else getCertPrefixForConfig config

theorem getCertPrefixForConfig_mem (config : TlsConfig) :
    getCertPrefixForConfig config ∈ identityPrefixes := by
  unfold getCertPrefixForConfig
  dsimp only
  split
  · exact getCertPrefixForSchemes_mem _
  · exact getCertPrefixForScheme_mem _

theorem finds_dsaCatalogIdentityPem {paths : Option (String × String)} :
    Finds (dsaCatalogIdentityPem host config) s tr paths s' ↔
      if cipherCatalogIdUsesDsaAuth config.cipherSuite then
        ∃ crt key, (crt ≠ "" ∧ key ≠ "") ∧ paths = some (crt, key) ∧ s = s' ∧
          tr = bundleTrace host "dsa_default" crt key
      else paths = none ∧ s = s' ∧ tr = [] := by
  have hdsa : "dsa_default" ∈ identityPrefixes := by decide
  unfold dsaCatalogIdentityPem
  cases cipherCatalogIdUsesDsaAuth config.cipherSuite with
  | false =>
    rw [if_neg Bool.false_ne_true]
    refine finds_pure.trans ⟨?_, ?_⟩
    · rintro ⟨rfl, rfl, rfl⟩
      exact ⟨rfl, rfl, rfl⟩
    · rintro ⟨rfl, rfl, rfl⟩
      exact ⟨rfl, rfl, rfl⟩
  | true =>
    rw [if_pos rfl]
    constructor
    · intro h
      obtain ⟨found, s₁, tr₁, tr₂, rfl, hbundle, h⟩ := finds_bind.mp h
      obtain ⟨hne, rfl, rfl⟩ := (finds_catalog hdsa).mp hbundle
      rw [if_pos hne] at h
      obtain ⟨rfl, rfl, rfl⟩ := finds_pure.mp h
      exact ⟨found.1, found.2, hne, rfl, rfl, List.append_nil _⟩
    · rintro ⟨crt, key, hne, rfl, rfl, rfl⟩
      refine finds_bind.mpr ⟨(crt, key), s, _, [], (List.append_nil _).symm,
        (finds_catalog hdsa).mpr ⟨hne, rfl, rfl⟩, ?_⟩
      rw [if_pos hne]
      exact finds_pure.mpr ⟨rfl, rfl, rfl⟩

/-- What `_ensure_cert_paths` does when no DSS cipher has decided. -/
def inlineOrCatalog (host : WrapperHost) (name : String) (config : TlsConfig) :
    StagingM (String × String) := do
  if hasInlinePem config then
    return ← writeInlineCertKey host name config.certificate config.privateKey
  let paths ← catalogIdentityPemPathsForPrefix host (getCertPrefixForConfig config)
  if paths.1 ≠ "" ∧ paths.2 ≠ "" then return paths
  throw noIdentityPem

theorem ensureCertPaths_eq (name : String) :
    ensureCertPaths host name config = dsaCatalogIdentityPem host config >>= fun found =>
      found.elim (inlineOrCatalog host name config) pure := by
  unfold ensureCertPaths inlineOrCatalog
  congr 1
  funext found
  cases found <;> rfl

theorem finds_ensureCertPaths_of_dss (hdss : cipherCatalogIdUsesDsaAuth config.cipherSuite = true)
    {name : String} {paths : String × String} :
    Finds (ensureCertPaths host name config) s tr paths s' ↔
      (paths.1 ≠ "" ∧ paths.2 ≠ "") ∧ s = s' ∧
        tr = bundleTrace host "dsa_default" paths.1 paths.2 := by
  rw [ensureCertPaths_eq]
  constructor
  · intro h
    obtain ⟨found, s₁, tr₁, tr₂, rfl, hbundle, hpure⟩ := finds_bind.mp h
    rw [finds_dsaCatalogIdentityPem, if_pos hdss] at hbundle
    obtain ⟨crt, key, hne, rfl, rfl, rfl⟩ := hbundle
    rw [Option.elim_some] at hpure
    obtain ⟨rfl, rfl, rfl⟩ := finds_pure.mp hpure
    exact ⟨hne, rfl, List.append_nil _⟩
  · rintro ⟨hne, rfl, rfl⟩
    refine finds_bind.mpr ⟨some paths, s, _, [], (List.append_nil _).symm, ?_, ?_⟩
    · rw [finds_dsaCatalogIdentityPem, if_pos hdss]
      exact ⟨paths.1, paths.2, hne, rfl, rfl, rfl⟩
    · rw [Option.elim_some]
      exact finds_pure.mpr ⟨rfl, rfl, rfl⟩

theorem finds_ensureCertPaths_of_not_dss
    (hdss : cipherCatalogIdUsesDsaAuth config.cipherSuite = false) {name : String}
    {paths : String × String} : Finds (ensureCertPaths host name config) s tr paths s' ↔
      Finds (inlineOrCatalog host name config) s tr paths s' := by
  have hnot : ¬ cipherCatalogIdUsesDsaAuth config.cipherSuite = true := by simp [hdss]
  rw [ensureCertPaths_eq]
  constructor
  · intro h
    obtain ⟨found, s₁, tr₁, tr₂, rfl, hnone, hrest⟩ := finds_bind.mp h
    rw [finds_dsaCatalogIdentityPem, if_neg hnot] at hnone
    obtain ⟨rfl, rfl, rfl⟩ := hnone
    rw [Option.elim_none] at hrest
    rw [List.nil_append]
    exact hrest
  · intro h
    refine finds_bind.mpr ⟨none, s, [], tr, rfl, ?_, ?_⟩
    · rw [finds_dsaCatalogIdentityPem, if_neg hnot]
      exact ⟨rfl, rfl, rfl⟩
    · rw [Option.elim_none]
      exact h

theorem finds_inlineOrCatalog_catalog (hinline : hasInlinePem config = false) {name : String}
    {paths : String × String} : Finds (inlineOrCatalog host name config) s tr paths s' ↔
      (paths.1 ≠ "" ∧ paths.2 ≠ "") ∧ s = s' ∧
        tr = bundleTrace host (getCertPrefixForConfig config) paths.1 paths.2 := by
  unfold inlineOrCatalog
  rw [hinline]
  constructor
  · intro h
    obtain ⟨own, s₁, tr₁, tr₂, rfl, hbundle, h⟩ := finds_bind.mp h
    obtain ⟨hne, rfl, rfl⟩ := (finds_catalog (getCertPrefixForConfig_mem _)).mp hbundle
    rw [if_pos hne] at h
    obtain ⟨rfl, rfl, rfl⟩ := finds_pure.mp h
    exact ⟨hne, rfl, List.append_nil _⟩
  · rintro ⟨hne, rfl, rfl⟩
    refine finds_bind.mpr ⟨paths, s, _, [], (List.append_nil _).symm,
      (finds_catalog (getCertPrefixForConfig_mem _)).mpr ⟨hne, rfl, rfl⟩, ?_⟩
    rw [if_pos hne]
    exact finds_pure.mpr ⟨rfl, rfl, rfl⟩

theorem finds_inlineOrCatalog_inline (hinline : hasInlinePem config = true) {name : String}
    {paths : String × String} : Finds (inlineOrCatalog host name config) s tr paths s' ↔
      Finds (writeInlineCertKey host name config.certificate config.privateKey) s tr paths s' := by
  unfold inlineOrCatalog
  rw [hinline]
  exact Iff.rfl

/-- Without an inline PEM, or with a DSS cipher, the catalog has the certificate. -/
theorem finds_ensureCertPaths {name : String} {paths : String × String}
    (h : cipherCatalogIdUsesDsaAuth config.cipherSuite = true ∨ hasInlinePem config = false) :
    Finds (ensureCertPaths host name config) s tr paths s' ↔
      (paths.1 ≠ "" ∧ paths.2 ≠ "") ∧ s = s' ∧
        tr = bundleTrace host (ownPrefix config) paths.1 paths.2 := by
  unfold ownPrefix
  cases hdss : cipherCatalogIdUsesDsaAuth config.cipherSuite with
  | true =>
    rw [finds_ensureCertPaths_of_dss hdss, if_pos rfl]
  | false =>
    have hinline : hasInlinePem config = false := h.resolve_left (by simp [hdss])
    rw [finds_ensureCertPaths_of_not_dss hdss, finds_inlineOrCatalog_catalog hinline,
      if_neg Bool.false_ne_true]

/-- A role without an inline PEM, or with a DSS cipher, takes its own bundle. -/
theorem takes_ensureCertPaths {name p : String}
    (h : cipherCatalogIdUsesDsaAuth config.cipherSuite = true ∨ hasInlinePem config = false) :
    Takes host (ensureCertPaths host name config) Prod.fst p ↔ p = ownPrefix config := by
  refine takes_iff (fun hfinds => ?_) ⟨{}, _, ("crt", "key"), {}, (finds_ensureCertPaths h).mpr
    ⟨⟨by decide, by decide⟩, rfl, rfl⟩⟩
  obtain ⟨-, -, htr⟩ := (finds_ensureCertPaths h).mp hfinds
  exact ⟨_, [], by rw [htr, List.append_nil], fun e he => by cases he⟩

/-- A staged PEM is written, and nothing is resolved. -/
theorem finds_writeInlineCertKey {name : String} {cert key : List UInt8} {paths : String × String}
    (h : Finds (writeInlineCertKey host name cert key) s tr paths s') :
    ∃ uuid, tr = [⟨.uuidHex, uuid⟩, ⟨.writeFile paths.1 cert, .ok ()⟩,
      ⟨.writeFile paths.2 key, .ok ()⟩, ⟨.chmod paths.2, ()⟩] := by
  obtain ⟨hexec, -⟩ := h
  obtain ⟨own, s₁, tr₁, tr₂, rfl, hpaths, hexec⟩ := Eff.exec_bind_ok.mp hexec
  obtain ⟨uuid, s₂, tr₃, tr₄, rfl, huuid, hown⟩ := Eff.exec_bind_ok.mp hpaths
  obtain ⟨ans, rfl, hans, rfl⟩ := Eff.exec_call.mp huuid
  obtain ⟨rfl, hown, rfl⟩ := Eff.exec_pure.mp hown
  obtain ⟨u, s₃, tr₅, tr₆, rfl, hcert, hexec⟩ := Eff.exec_bind_ok.mp hexec
  obtain ⟨certAns, rfl, hcertAns, rfl⟩ := Eff.exec_invoke.mp hcert
  obtain ⟨u, s₄, tr₇, tr₈, rfl, hkey, hexec⟩ := Eff.exec_bind_ok.mp hexec
  obtain ⟨keyAns, rfl, hkeyAns, rfl⟩ := Eff.exec_invoke.mp hkey
  obtain ⟨u, s₅, tr₉, tr₁₀, rfl, hchmod, hexec⟩ := Eff.exec_bind_ok.mp hexec
  obtain ⟨modeAns, rfl, -, rfl⟩ := Eff.exec_call.mp hchmod
  obtain ⟨u, s₆, tr₁₁, tr₁₂, rfl, htrack, hexec⟩ := Eff.exec_bind_ok.mp hexec
  obtain ⟨rfl, -, -⟩ := Eff.exec_modifyState.mp htrack
  obtain ⟨u, s₇, tr₁₃, tr₁₄, rfl, htrack, hexec⟩ := Eff.exec_bind_ok.mp hexec
  obtain ⟨rfl, -, -⟩ := Eff.exec_modifyState.mp htrack
  obtain ⟨rfl, hpure, -⟩ := Eff.exec_pure.mp hexec
  obtain rfl := Except.ok.inj hpure
  subst hcertAns hkeyAns
  exact ⟨ans, rfl⟩

theorem exists_finds_writeInlineCertKey (host : WrapperHost) (name : String)
    (cert key : List UInt8) :
    ∃ s tr paths s', Finds (writeInlineCertKey host name cert key) s tr paths s' := by
  have hall : ∀ {e}, e = ⟨.uuidHex, ""⟩ → FileThere e := by
    rintro e rfl
    exact trivial
  have hpaths : Finds (interopStagingPemPaths host (removeChar ' ' (lower (strip name)))) {}
      [⟨.uuidHex, ""⟩] _ {} := finds_bind.mpr ⟨"", {}, [⟨.uuidHex, ""⟩], [], rfl,
    ⟨Eff.exec_call.mpr ⟨"", rfl, rfl, rfl⟩, fun e he => hall (List.mem_singleton.mp he)⟩,
    finds_pure.mpr ⟨rfl, rfl, rfl⟩⟩
  have hwrite : ∀ (s : Staging) path content, Finds (Eff.invoke (.writeFile path content) id) s
      [⟨.writeFile path content, .ok ()⟩] () s := fun s path content =>
    ⟨Eff.exec_invoke.mpr ⟨.ok (), rfl, rfl, rfl⟩, fun e he => by
      rw [List.mem_singleton.mp he]; exact trivial⟩
  have hchmod : ∀ (s : Staging) path, Finds (Eff.call (StagingCall.chmod path)) s
      [⟨.chmod path, ()⟩] () s := fun s path =>
    ⟨Eff.exec_call.mpr ⟨(), rfl, rfl, rfl⟩, fun e he => by
      rw [List.mem_singleton.mp he]; exact trivial⟩
  have htrack : ∀ (s : Staging) path, ∃ s', Finds (trackTempFile path) s [] () s' := fun s path =>
    ⟨_, Eff.exec_modifyState.mpr ⟨rfl, rfl, rfl⟩, fun e he => by cases he⟩
  obtain ⟨s₁, htrack₁⟩ := htrack {} _
  obtain ⟨s₂, htrack₂⟩ := htrack s₁ _
  exact ⟨{}, _, _, s₂, finds_bind.mpr ⟨_, {}, _, _, rfl, hpaths, finds_bind.mpr ⟨(), {}, _, _, rfl,
    hwrite _ _ _, finds_bind.mpr ⟨(), {}, _, _, rfl, hwrite _ _ _, finds_bind.mpr ⟨(), {}, _, _, rfl,
    hchmod _ _, finds_bind.mpr ⟨(), s₁, _, _, rfl, htrack₁, finds_bind.mpr ⟨(), s₂, _, _, rfl,
    htrack₂, finds_pure.mpr ⟨rfl, rfl, rfl⟩⟩⟩⟩⟩⟩⟩⟩

/-- A CLI role presents the bundle: the certificate of the catalog, or the inline PEM
that `_apply_identity_material` read. -/
def PresentsPem (host : WrapperHost) (name : String) (cell : Cell) (config : TlsConfig)
    (p : String) : Prop :=
  Takes host (ensureCertPaths host name config) Prod.fst p ∨
    (∃ s tr paths s', Finds (ensureCertPaths host name config) s tr paths s' ∧
      ⟨.writeFile paths.1 config.certificate, .ok ()⟩ ∈ tr) ∧ p = serverLeafPrefix cell

/-- The server presents the bundle. -/
def ServerPresents (kind : WrapperKind) (host : WrapperHost) (cell : Cell) (config : TlsConfig)
    (p : String) : Prop :=
  match kind with
  | .openssl => PresentsPem host "OpenSSL" cell config p
  | .gnutls => PresentsPem host "GnuTLS" cell config p
  | .nss => p ∈ identityPrefixes ∧ ∃ s tr nickname s',
    Finds (NSS.nssServerNicknameForConfig host config) s tr nickname s' ∧
      nickname = NSS.nssNicknameForPrefix p

/-- The client presents the bundle, to a server that asks for a certificate. -/
def ClientPresents (kind : WrapperKind) (host : WrapperHost) (config : TlsConfig)
    (p : String) : Prop :=
  match kind with
  | .openssl => Takes host (clientIdentityArgv host "OpenSSL" config "-cert" "-key")
    (fun argv => argv.getD 1 "") p
  | .gnutls => Takes host (clientIdentityArgv host "GnuTLS" config "--x509certfile" "--x509keyfile")
    (fun argv => argv.getD 1 "") p
  | .nss => False

/-- A CLI role presents its own bundle, inline or from the catalog. -/
theorem presentsPem_iff {name p : String} {cell : Cell}
    (hleaf : getCertPrefixForConfig config = serverLeafPrefix cell) :
    PresentsPem host name cell config p ↔ p = ownPrefix config := by
  unfold PresentsPem
  by_cases h : cipherCatalogIdUsesDsaAuth config.cipherSuite = true ∨ hasInlinePem config = false
  · rw [takes_ensureCertPaths h, or_iff_left_of_imp]
    rintro ⟨⟨s, tr, paths, s', hfinds, hmem⟩, -⟩
    obtain ⟨-, -, rfl⟩ := (finds_ensureCertPaths h).mp hfinds
    simp [bundleTrace] at hmem
  · obtain ⟨hdss, hinline⟩ : cipherCatalogIdUsesDsaAuth config.cipherSuite = false ∧
        hasInlinePem config = true := by simpa using h
    have hown : ownPrefix config = serverLeafPrefix cell := by
      rw [ownPrefix, hdss, if_neg Bool.false_ne_true, hleaf]
    have hruns : ∀ {s tr paths s'}, Finds (ensureCertPaths host name config) s tr paths s' ↔
        Finds (writeInlineCertKey host name config.certificate config.privateKey) s tr paths s' := by
      intro s tr paths s'
      rw [finds_ensureCertPaths_of_not_dss hdss, finds_inlineOrCatalog_inline hinline]
    obtain ⟨s, tr, paths, s', hwrite⟩ := exists_finds_writeInlineCertKey host name
      config.certificate config.privateKey
    have hstaged : ⟨.writeFile paths.1 config.certificate, .ok ()⟩ ∈ tr := by
      obtain ⟨uuid, rfl⟩ := finds_writeInlineCertKey hwrite
      exact List.mem_cons_of_mem _ List.mem_cons_self
    rw [hown]
    constructor
    · rintro (⟨s, tr, paths, s', hfinds, hmem⟩ | ⟨-, hp⟩)
      · obtain ⟨uuid, rfl⟩ := finds_writeInlineCertKey (hruns.mp hfinds)
        simp at hmem
      · exact hp
    · intro hp
      exact .inr ⟨⟨s, tr, paths, s', hruns.mpr hwrite, hstaged⟩, hp⟩

/-- The nickname of the NSS server names its own bundle. -/
theorem finds_nssServerNicknameForConfig {nickname : String} :
    Finds (NSS.nssServerNicknameForConfig host config) s tr nickname s' ↔
      nickname = NSS.nssNicknameForPrefix (ownPrefix config) ∧ s = s' ∧
        if cipherCatalogIdUsesDsaAuth config.cipherSuite then ∃ crt key, (crt ≠ "" ∧ key ≠ "") ∧
          tr = bundleTrace host "dsa_default" crt key
        else tr = [] := by
  have hdsa : "dsa_default" ∈ identityPrefixes := by decide
  -- the selection strips the cipher, and the test of it strips it again
  have hstrip : cipherCatalogIdUsesDsaAuth (strip config.cipherSuite)
      = cipherCatalogIdUsesDsaAuth config.cipherSuite := by
    rw [cipherCatalogIdUsesDsaAuth, strip_strip]
    rfl
  unfold NSS.nssServerNicknameForConfig ownPrefix
  rw [hstrip]
  cases cipherCatalogIdUsesDsaAuth config.cipherSuite with
  | false =>
    rw [if_neg Bool.false_ne_true, if_neg Bool.false_ne_true, if_neg Bool.false_ne_true]
    constructor
    · intro h
      obtain ⟨rfl, rfl, rfl⟩ := finds_pure.mp h
      exact ⟨rfl, rfl, rfl⟩
    · rintro ⟨rfl, rfl, rfl⟩
      exact finds_pure.mpr ⟨rfl, rfl, rfl⟩
  | true =>
    rw [if_pos rfl, if_pos rfl, if_pos rfl]
    constructor
    · intro h
      obtain ⟨paths, s₁, tr₁, tr₂, rfl, hbundle, hpure⟩ := finds_bind.mp h
      -- a DSA cipher looks for the files of the DSA bundle
      obtain ⟨hne, rfl, rfl⟩ := (finds_catalog hdsa).mp hbundle
      rw [if_neg hne.1] at hpure
      obtain ⟨rfl, rfl, rfl⟩ := finds_pure.mp hpure
      exact ⟨rfl, rfl, paths.1, paths.2, hne, List.append_nil _⟩
    · rintro ⟨rfl, rfl, crt, key, hne, rfl⟩
      refine finds_bind.mpr ⟨(crt, key), s, _, [], (List.append_nil _).symm,
        (finds_catalog hdsa).mpr ⟨hne, rfl, rfl⟩, ?_⟩
      rw [if_neg hne.1]
      exact finds_pure.mpr ⟨rfl, rfl, rfl⟩

theorem ownPrefix_mem (config : TlsConfig) : ownPrefix config ∈ identityPrefixes := by
  unfold ownPrefix
  split
  · decide
  · exact getCertPrefixForConfig_mem config

/-- The server presents one bundle, its own. -/
theorem serverPresents_iff {kind : WrapperKind} {cell : Cell} {p : String}
    (hleaf : getCertPrefixForConfig config = serverLeafPrefix cell) :
    ServerPresents kind host cell config p ↔ p = ownPrefix config := by
  cases kind with
  | openssl => exact presentsPem_iff hleaf
  | gnutls => exact presentsPem_iff hleaf
  | nss =>
    have hinj : ∀ p ∈ identityPrefixes, ∀ q ∈ identityPrefixes,
        NSS.nssNicknameForPrefix p = NSS.nssNicknameForPrefix q → p = q := by
      decide
    constructor
    · rintro ⟨hp, s, tr, nickname, s', hfinds, hname⟩
      obtain ⟨hown, -, -⟩ := finds_nssServerNicknameForConfig.mp hfinds
      exact hinj p hp _ (ownPrefix_mem config) (hname.symm.trans hown)
    · intro hp
      rw [hp]
      refine ⟨ownPrefix_mem config, {}, ?_⟩
      cases hdss : cipherCatalogIdUsesDsaAuth config.cipherSuite with
      | true =>
        refine ⟨bundleTrace host "dsa_default" "crt" "key", _, {},
          finds_nssServerNicknameForConfig.mpr ⟨rfl, rfl, ?_⟩, rfl⟩
        rw [hdss, if_pos rfl]
        exact ⟨"crt", "key", ⟨by decide, by decide⟩, rfl⟩
      | false =>
        refine ⟨[], _, {}, finds_nssServerNicknameForConfig.mpr ⟨rfl, rfl, ?_⟩, rfl⟩
        rw [hdss, if_neg Bool.false_ne_true]

theorem clientIdentityArgv_of_mtls (hmtls : testFeatureEnabledInConfig config "mtls" = true)
    (name certFlag keyFlag : String) :
    clientIdentityArgv host name config certFlag keyFlag
      = ensureCertPaths host name config >>= fun paths =>
        pure [certFlag, paths.1, keyFlag, paths.2] := by
  unfold clientIdentityArgv
  rw [hmtls]
  rfl

theorem clientIdentityArgv_of_not_mtls (hmtls : testFeatureEnabledInConfig config "mtls" = false)
    (name certFlag keyFlag : String) :
    clientIdentityArgv host name config certFlag keyFlag = pure [] := by
  unfold clientIdentityArgv
  rw [hmtls]
  rfl

/-- With `mtls` a client that has no inline PEM takes its own bundle. -/
theorem takes_clientIdentityArgv (hinline : hasInlinePem config = false)
    {name certFlag keyFlag p : String} :
    Takes host (clientIdentityArgv host name config certFlag keyFlag)
      (fun argv => argv.getD 1 "") p ↔
        testFeatureEnabledInConfig config "mtls" = true ∧ p = ownPrefix config := by
  cases hmtls : testFeatureEnabledInConfig config "mtls" with
  | false =>
    constructor
    · rintro ⟨s, tr, argv, s', hfinds, hmem⟩
      -- a client without mtls has no identity of its own
      rw [clientIdentityArgv_of_not_mtls hmtls] at hfinds
      obtain ⟨rfl, -, -⟩ := finds_pure.mp hfinds
      cases hmem
    · rintro ⟨hfalse, -⟩
      cases hfalse
  | true =>
    -- with it, the files are those of its configuration
    have hruns : ∀ {s tr argv s'}, Finds (clientIdentityArgv host name config certFlag keyFlag)
        s tr argv s' ↔ ∃ paths : String × String, argv = [certFlag, paths.1, keyFlag, paths.2] ∧
          Finds (ensureCertPaths host name config) s tr paths s' := by
      intro s tr argv s'
      rw [clientIdentityArgv_of_mtls hmtls]
      constructor
      · intro h
        obtain ⟨paths, s₁, tr₁, tr₂, rfl, hpaths, hpure⟩ := finds_bind.mp h
        obtain ⟨rfl, rfl, rfl⟩ := finds_pure.mp hpure
        rw [List.append_nil]
        exact ⟨paths, rfl, hpaths⟩
      · rintro ⟨paths, rfl, hpaths⟩
        exact finds_bind.mpr ⟨paths, s', tr, [], (List.append_nil _).symm, hpaths,
          finds_pure.mpr ⟨rfl, rfl, rfl⟩⟩
    have htakes : Takes host (ensureCertPaths host name config) Prod.fst p ↔
        p = ownPrefix config := takes_ensureCertPaths (.inr hinline)
    rw [← htakes]
    constructor
    · rintro ⟨s, tr, argv, s', hfinds, hmem⟩
      obtain ⟨paths, rfl, hpaths⟩ := hruns.mp hfinds
      exact ⟨rfl, s, tr, paths, s', hpaths, hmem⟩
    · rintro ⟨-, s, tr, paths, s', hpaths, hmem⟩
      exact ⟨s, tr, _, s', hruns.mpr ⟨paths, rfl, hpaths⟩, hmem⟩

/-- With `mtls` a CLI client presents one bundle, its own. -/
theorem clientPresents_iff {kind : WrapperKind} (hkind : kind ≠ .nss)
    (hinline : hasInlinePem config = false) {p : String} :
    ClientPresents kind host config p ↔
      testFeatureEnabledInConfig config "mtls" = true ∧ p = ownPrefix config := by
  cases kind with
  | openssl => exact takes_clientIdentityArgv hinline
  | gnutls => exact takes_clientIdentityArgv hinline
  | nss => exact absurd rfl hkind

end

/-! ### The two roles of a cell -/

/-- The cipher of a role is a DSS one. -/
def usesDss (cell : Cell) (server : Bool) : Bool :=
  cipherCatalogIdUsesDsaAuth (cellCipherId cell server)

/-- The signature schemes of a role. -/
def roleSchemes (cell : Cell) (server : Bool) : List String := pickList cell "signature_schemes" server

/-- The bundle of the schemes of a role, else of its cipher. -/
def schemeOrCipherPrefix (cell : Cell) (server : Bool) : String :=
  if roleSchemes cell server ≠ [] then getCertPrefixForSchemes (roleSchemes cell server)
  else getCertPrefixForScheme (cellCipherId cell server)

/-- The bundle of the schemes of a role, else of the schemes of its peer. -/
def schemeOrPeerPrefix (cell : Cell) (server : Bool) : String :=
  getCertPrefixForSchemes
    (if roleSchemes cell server ≠ [] then roleSchemes cell server else roleSchemes cell !server)

section

variable {repo : Repo} {cell : Cell} {server : Bool} {config : TlsConfig}

theorem cipherSuite_of_cell_eq (h : tlsConfigFromCell repo cell server = .ok config) :
    config.cipherSuite = cellCipherId cell server := by
  obtain ⟨port, certB, keyB, -, rfl⟩ := tlsConfigFromCell_eq_ok h
  exact pickScalar_cipherSuite cell server

theorem repeatedConfigTokens_roleSchemes (cell : Cell) (server : Bool) :
    repeatedConfigTokens (roleSchemes cell server) = roleSchemes cell server := by
  unfold roleSchemes
  rw [pickList_eq]
  exact repeatedConfigTokens_csvTokens _

theorem signatureSchemes_of_cell (h : tlsConfigFromCell repo cell server = .ok config) :
    repeatedConfigTokens config.signatureSchemes = roleSchemes cell server := by
  obtain ⟨port, certB, keyB, -, rfl⟩ := tlsConfigFromCell_eq_ok h
  exact repeatedConfigTokens_roleSchemes cell server

theorem signatureSchemesCert_of_cell (h : tlsConfigFromCell repo cell server = .ok config) :
    repeatedConfigTokens config.signatureSchemesCert = roleSchemes cell !server := by
  obtain ⟨port, certB, keyB, -, rfl⟩ := tlsConfigFromCell_eq_ok h
  exact repeatedConfigTokens_roleSchemes cell !server

/-- A role goes by its own schemes, else by its cipher. -/
theorem ownPrefix_of_cell (h : tlsConfigFromCell repo cell server = .ok config) :
    ownPrefix config =
      if usesDss cell server then "dsa_default" else schemeOrCipherPrefix cell server := by
  unfold ownPrefix getCertPrefixForConfig
  rw [cipherSuite_of_cell_eq h, signatureSchemes_of_cell h]
  rfl

theorem serverLeafPrefix_eq (cell : Cell) : serverLeafPrefix cell = schemeOrCipherPrefix cell true := by
  unfold serverLeafPrefix
  rw [pickScalar_cipherSuite]
  rfl

theorem getCertPrefixForConfig_of_server (h : tlsConfigFromCell repo cell true = .ok config) :
    getCertPrefixForConfig config = serverLeafPrefix cell := by
  unfold getCertPrefixForConfig
  rw [cipherSuite_of_cell_eq h, signatureSchemes_of_cell h, serverLeafPrefix_eq]
  rfl

/-- A role trusts by the schemes of its peer, else by its own. -/
theorem trustPrefix_of_cell (h : tlsConfigFromCell repo cell server = .ok config) :
    trustPrefix config = schemeOrPeerPrefix cell !server := by
  unfold trustPrefix serverTrustSignatureSchemesTokens
  dsimp only
  rw [signatureSchemes_of_cell h, signatureSchemesCert_of_cell h]
  unfold schemeOrPeerPrefix
  rw [Bool.not_not]

/-- The configuration of a client has no inline PEM. -/
theorem hasInlinePem_of_client (h : tlsConfigFromCell repo cell false = .ok config) :
    hasInlinePem config = false := by
  unfold tlsConfigFromCell at h
  obtain ⟨port, -, h⟩ := bind_eq_ok.mp h
  obtain rfl := Except.ok.inj h
  rfl

theorem pskModes_of_cell (h : tlsConfigFromCell repo cell server = .ok config) :
    config.pskModes = sortedSet (parseTestFeaturesEnabled (cell.field "test_features")) := by
  obtain ⟨port, certB, keyB, -, rfl⟩ := tlsConfigFromCell_eq_ok h
  rfl

/-- Both roles have the same features. -/
theorem mtls_of_cell {config' : TlsConfig} (h : tlsConfigFromCell repo cell true = .ok config)
    (h' : tlsConfigFromCell repo cell false = .ok config') :
    testFeatureEnabledInConfig config' "mtls" = testFeatureEnabledInConfig config "mtls" := by
  unfold testFeatureEnabledInConfig
  rw [pskModes_of_cell h, pskModes_of_cell h']

end

/-- A role presents what its peer goes by: it lists a scheme, or the schemes of its
peer ask for the key of its cipher. -/
def SchemesFit (cell : Cell) (server : Bool) : Prop :=
  roleSchemes cell server ≠ [] ∨ getCertPrefixForSchemes (roleSchemes cell !server)
    = getCertPrefixForScheme (cellCipherId cell server)

theorem schemesFit_iff {cell : Cell} {server : Bool} :
    SchemesFit cell server ↔ schemeOrPeerPrefix cell server = schemeOrCipherPrefix cell server := by
  unfold SchemesFit schemeOrPeerPrefix schemeOrCipherPrefix
  by_cases h : roleSchemes cell server = []
  · rw [if_neg (not_not_intro h), if_neg (not_not_intro h)]
    exact or_iff_right (not_not_intro h)
  · rw [if_pos h, if_pos h]
    exact iff_of_true (.inl h) rfl

/-- The leaf of the server is the one a GnuTLS client trusts. -/
def LeafTrusted (cell : Cell) : Prop :=
  match usesDss cell true, usesDss cell false with
  | true, true => True
  | true, false => schemeOrPeerPrefix cell true = "dsa_default"
  | false, true => schemeOrCipherPrefix cell true = "dsa_default"
  | false, false => SchemesFit cell true

/-- The certificate of the client is the one an OpenSSL server trusts. -/
def ClientTrusted (cell : Cell) : Prop :=
  if usesDss cell false then schemeOrPeerPrefix cell false = "dsa_default"
  else SchemesFit cell false

theorem leafTrusted_iff {cell : Cell} : LeafTrusted cell ↔
    (if usesDss cell false then "dsa_default" else schemeOrPeerPrefix cell true)
      = if usesDss cell true then "dsa_default" else schemeOrCipherPrefix cell true := by
  unfold LeafTrusted
  cases usesDss cell true with
  | false =>
    cases usesDss cell false with
    | false =>
      rw [if_neg Bool.false_ne_true, if_neg Bool.false_ne_true]
      exact schemesFit_iff
    | true =>
      rw [if_pos rfl, if_neg Bool.false_ne_true]
      exact eq_comm
  | true =>
    cases usesDss cell false with
    | false =>
      rw [if_pos rfl, if_neg Bool.false_ne_true]
    | true =>
      rw [if_pos rfl]
      exact iff_of_true trivial rfl

theorem clientTrusted_iff {cell : Cell} : ClientTrusted cell ↔ schemeOrPeerPrefix cell false
    = if usesDss cell false then "dsa_default" else schemeOrCipherPrefix cell false := by
  unfold ClientTrusted
  cases usesDss cell false with
  | false =>
    rw [if_neg Bool.false_ne_true, if_neg Bool.false_ne_true]
    exact schemesFit_iff
  | true =>
    rw [if_pos rfl, if_pos rfl]

/-- Each role trusts what its peer presents: a GnuTLS client the leaf of the server,
and an OpenSSL server the certificate of an OpenSSL or GnuTLS client. -/
def PeersTrusted (kind : Bool → WrapperKind) (host : Bool → WrapperHost) (cell : Cell)
    (config : Bool → TlsConfig) : Prop :=
  (kind false = .gnutls → ∀ p q, ClientTrusts (host false) (config false) p →
    ServerPresents (kind true) (host true) cell (config true) q → p = q) ∧
  (kind true = .openssl → kind false ≠ .nss → ∀ p q, ServerTrusts (host true) (config true) p →
    ClientPresents (kind false) (host false) (config false) q → p = q)

section

variable {repo : Repo} {cell : Cell} (kind : Bool → WrapperKind) (host : Bool → WrapperHost)
  {config : Bool → TlsConfig}

/-- A GnuTLS client trusts the leaf of the server when their bundles are one. -/
theorem forall_clientTrusts_iff
    (hcfg : ∀ server, tlsConfigFromCell repo cell server = .ok (config server)) :
    (∀ p q, ClientTrusts (host false) (config false) p →
      ServerPresents (kind true) (host true) cell (config true) q → p = q) ↔ LeafTrusted cell := by
  have hpresents : ∀ {q}, ServerPresents (kind true) (host true) cell (config true) q ↔
      q = ownPrefix (config true) :=
    serverPresents_iff (getCertPrefixForConfig_of_server (hcfg true))
  have hclient : clientTrustPrefix (config false) =
      if usesDss cell false then "dsa_default" else schemeOrPeerPrefix cell true := by
    unfold clientTrustPrefix
    rw [cipherSuite_of_cell_eq (hcfg false), trustPrefix_of_cell (hcfg false)]
    rfl
  rw [leafTrusted_iff, ← hclient, ← ownPrefix_of_cell (hcfg true)]
  constructor
  · intro h
    exact h _ _ (clientTrusts_iff.mpr rfl) (hpresents.mpr rfl)
  · intro h p q hp hq
    rw [clientTrusts_iff.mp hp, h, hpresents.mp hq]

/-- With `mtls` an OpenSSL server trusts a CLI client when their bundles are one. -/
theorem forall_serverTrusts_iff
    (hcfg : ∀ server, tlsConfigFromCell repo cell server = .ok (config server))
    (hkind : kind false ≠ .nss) :
    (∀ p q, ServerTrusts (host true) (config true) p →
      ClientPresents (kind false) (host false) (config false) q → p = q) ↔
      (testFeatureEnabledInConfig (config true) "mtls" = true → ClientTrusted cell) := by
  have hpresents : ∀ {q}, ClientPresents (kind false) (host false) (config false) q ↔
      testFeatureEnabledInConfig (config false) "mtls" = true ∧ q = ownPrefix (config false) :=
    clientPresents_iff hkind (hasInlinePem_of_client (hcfg false))
  have hserver := trustPrefix_of_cell (hcfg true)
  rw [Bool.not_true] at hserver
  rw [clientTrusted_iff, ← hserver, ← ownPrefix_of_cell (hcfg false)]
  constructor
  · intro h hmtls
    have hmtls' := (mtls_of_cell (hcfg true) (hcfg false)).trans hmtls
    exact h _ _ (serverTrusts_iff.mpr ⟨hmtls, rfl⟩) (hpresents.mpr ⟨hmtls', rfl⟩)
  · intro h p q hp hq
    have htrust := serverTrusts_iff.mp hp
    calc p = trustPrefix (config true) := htrust.2
      _ = ownPrefix (config false) := h htrust.1
      _ = q := (hpresents.mp hq).2.symm

/-- **When each role trusts what its peer presents**, with all bundles present.  The leaf
that a role presents and the root its peer trusts are selected by two functions, the one
by the schemes and else by the cipher, the other by the schemes alone; both know DSS
ciphers besides. -/
theorem peersTrusted_iff
    (hcfg : ∀ server, tlsConfigFromCell repo cell server = .ok (config server)) :
    PeersTrusted kind host cell config ↔ (kind false = .gnutls → LeafTrusted cell) ∧
      (kind true = .openssl → kind false ≠ .nss →
        testFeatureEnabledInConfig (config true) "mtls" = true → ClientTrusted cell) := by
  unfold PeersTrusted
  exact and_congr (imp_congr_right fun _ => forall_clientTrusts_iff kind host hcfg)
    (imp_congr_right fun _ => forall_congr' fun hkind =>
      forall_serverTrusts_iff kind host hcfg hkind)

end

/-! ### Two cells -/

/-- A TLS 1.2 cell of an OpenSSL server and a GnuTLS client, with an ECDSA cipher. -/
def ecdsaCell : Cell :=
  [(.str "server", "openssl"), (.str "client", "gnutls"), (.str "tls_version", "1.2"),
    (.str "cipher_suite", "ecdhe-ecdsa-aes-128-gcm-sha256"), (.str "test_features", ""),
    (.str "supported_groups", ""), (.str "signature_schemes", "")]

/-- A TLS 1.3 cell of the same backends, with a signature scheme and `mtls`. -/
def schemeCell : Cell :=
  [(.str "server", "openssl"), (.str "client", "gnutls"), (.str "tls_version", "1.3"),
    (.str "signature_schemes", "rsa-pss-rsae-sha256"), (.str "test_features", "mtls")]

/-- An OpenSSL server and a GnuTLS client. -/
def opensslGnutls (server : Bool) : WrapperKind := if server then .openssl else .gnutls

/-- The shipped repository, with every bundle. -/
def certsRepo : Repo := shippedRepo "/repo" fun _ => some ([45], [45])

/-- A host of this repository. -/
def certsHost : WrapperHost where
  repo := certsRepo

theorem exists_configs {repo : Repo} {cell : Cell} (h : strip (cell.field "tls_port") = "") :
    ∃ config : Bool → TlsConfig,
      ∀ server, tlsConfigFromCell repo cell server = .ok (config server) := by
  have hport := fun server => cellPort_eq_ok (.inl h) server
  choose port hport using hport
  exact ⟨_, fun server => tlsConfigFromCell_of_port (hport server)⟩

/-- The server presents an ECDSA leaf, and the GnuTLS client trusts the RSA one. -/
theorem ecdsaCell_leaf_not_trusted :
    normalizeCellTlsMicroParams certsRepo ecdsaCell defaultArgs = .ok ecdsaCell ∧
      (∀ server, roleBackend ecdsaCell server = (opensslGnutls server).name) ∧
      cellCapabilitySkipReason certsRepo ecdsaCell = none ∧
      ∃ config, (∀ server, tlsConfigFromCell certsRepo ecdsaCell server = .ok (config server)) ∧
        ¬ PeersTrusted opensslGnutls (fun _ => certsHost) ecdsaCell config := by
  have hport : strip (ecdsaCell.field "tls_port") = "" := by decide
  obtain ⟨config, hcfg⟩ := exists_configs hport
  refine ⟨by decide, by decide, by decide, config, hcfg, fun htrusted => ?_⟩
  have hleaf : LeafTrusted ecdsaCell :=
    (forall_clientTrusts_iff opensslGnutls (fun _ => certsHost) hcfg).mp (htrusted.1 rfl)
  rw [leafTrusted_iff] at hleaf
  exact absurd hleaf (by decide)

/-- With a signature scheme each role trusts what its peer presents. -/
theorem schemeCell_peers_trusted :
    ∃ config, (∀ server, tlsConfigFromCell certsRepo schemeCell server = .ok (config server)) ∧
      PeersTrusted opensslGnutls (fun _ => certsHost) schemeCell config := by
  have hport : strip (schemeCell.field "tls_port") = "" := by decide
  obtain ⟨config, hcfg⟩ := exists_configs hport
  have hleaf : LeafTrusted schemeCell := by
    rw [leafTrusted_iff]
    decide
  have hclient : ClientTrusted schemeCell := by
    rw [clientTrusted_iff]
    decide
  have htrusted := peersTrusted_iff opensslGnutls (fun _ => certsHost) hcfg
  exact ⟨config, hcfg, htrusted.mpr ⟨fun _ => hleaf, fun _ _ _ => hclient⟩⟩

end TlsInterop
