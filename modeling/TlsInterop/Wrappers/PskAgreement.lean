import TlsInterop.Core.Acceptance
import TlsInterop.Wrappers.Ownership

/-!
# PSK credentials on both ends

The translators of the two backends of a cell decide on their own whether to
configure a PSK.  OpenSSL and GnuTLS do it for a PSK cipher, NSS in TLS 1.3 for any
cipher.  The skip checks keep PSK ciphers away from NSS, and nothing else.

## Main definitions

* `Translates` — the options and the files a translator makes of a configuration.
* `Configures` — the options and the files give a role a PSK.
* `PskOnBothOrNone` — both roles get the same PSK, or neither gets one.
* `NssInTls13` — the role is on NSS in TLS 1.3.

## Main results

* `configures_of_wants`, `not_configures` — when a translator configures a PSK.
* `psk_on_both_or_none_iff` — when the two roles agree.
-/

namespace TlsInterop

open Py Effects

/-! ### Translations -/

/-- The name of a wrapper. -/
def WrapperKind.name : WrapperKind → String
  | openssl => "openssl"
  | gnutls => "gnutls"
  | nss => "nss"

/-- The files a trace writes. -/
def writtenFiles (tr : List (Event StagingAns)) : List (String × List UInt8) :=
  tr.filterMap fun
    | ⟨.writeFile path content, .ok ()⟩ => some (path, content)
    | _ => none

/-- A call of `tls_argv_for_config` in a wrapper: its options, and the files it writes. -/
def Translates (host : WrapperHost) (kind : WrapperKind) (config : TlsConfig) (role : Role)
    (argv : List String) (files : List (String × List UInt8)) : Prop :=
  ∃ st tr path st' result,
    ((kind.backend host).stageTranslation config role).Exec st tr (.ok path) st' ∧
    tlsArgvForConfig config kind.name (kind.backend host).capabilities (some role) host.repo.root
      path = .ok result ∧ result.argv = argv ∧ writtenFiles tr = files

/-- The options, and the password file of `gnutls-serv`, configure the PSK. -/
def Configures (kind : WrapperKind) (role : Role) (argv : List String)
    (files : List (String × List UInt8)) (identity key : String) : Prop :=
  match kind with
  | .openssl => ["-psk_identity", identity, "-psk", key] <:+: argv
  | .gnutls =>
    if isServerRole (some role) then
      ∃ path, ["--pskpasswd", path] <:+: argv ∧
        (path, (identity ++ ":" ++ key ++ "\n").toUTF8.toList) ∈ files
    else ["--pskusername", identity, "--pskkey", key] <:+: argv
  | .nss => ["-z", "0x" ++ key ++ ":" ++ identity] <:+: argv

section

variable (kind : Bool → WrapperKind) (argv : Bool → List String)
  (files : Bool → List (String × List UInt8))

/-- One role of a cell configures the PSK. -/
def RoleConfigures (server : Bool) (identity key : String) : Prop :=
  Configures (kind server) (roleOf server) (argv server) (files server) identity key

/-- Both roles configure the same PSK, or neither role configures any. -/
def PskOnBothOrNone : Prop :=
  (∃ identity key, ∀ server, RoleConfigures kind argv files server identity key) ∨
    ∀ server identity key, ¬ RoleConfigures kind argv files server identity key

end

/-- The role is on NSS, in TLS 1.3. -/
def NssInTls13 (kind : Bool → WrapperKind) (cell : Cell) (server : Bool) : Prop :=
  kind server = .nss ∧ tlsModeFromVersion (pickScalar cell "tls_version" server) = .v13

/-! ### Options and values -/

/-- A text that is no option. -/
def isPlain (s : String) : Bool := s.toList.head? != some '-'

theorem isPlain_append {s t : String} (hs : isPlain s = true) (ht : isPlain t = true) :
    isPlain (s ++ t) = true := by
  unfold isPlain at *
  rw [String.toList_append, List.head?_append]
  cases h : s.toList.head? with
  | none => simpa using ht
  | some c => rwa [h] at hs

theorem isPlain_intercalate {sep : String} (hsep : isPlain sep = true) {parts : List String}
    (h : ∀ s ∈ parts, isPlain s = true) : isPlain (String.intercalate sep parts) = true := by
  induction parts with
  | nil => rw [String.intercalate_nil]; rfl
  | cons s parts ih =>
    have hs := h s List.mem_cons_self
    have hparts := fun t ht => h t (List.mem_cons_of_mem _ ht)
    cases parts with
    | nil => rwa [String.intercalate_singleton]
    | cons t parts =>
      rw [String.intercalate_cons_cons]
      exact isPlain_append (isPlain_append hs hsep) (ih hparts)

/-- Every value of a table is no option. -/
def isPlainTable (t : Dict String String) : Bool := t.all fun e => isPlain e.2

theorem isPlain_of_cipherSuiteMap {t : Dict String String} (ht : isPlainTable t = true) {k v : String}
    (h : (cipherSuiteMapFromTlsBlock (some (.obj [("cipher_suite", strTable t)]))).get? k = some v) :
    isPlain v = true :=
  List.all_eq_true.mp ht _ (mem_of_mem_cipherSuiteMap (Dict.mem_of_get? h))

theorem isPlain_of_mapTokens {t : Dict String String} (ht : isPlainTable t = true)
    {items : List String} {s : String}
    (h : s ∈ mapTokens (t.map fun e => (e.1, Json.str e.2)) items) : isPlain s = true := by
  obtain ⟨it, -, hs⟩ := List.mem_filterMap.mp h
  obtain ⟨v, hv, rfl⟩ := Option.map_eq_some_iff.mp hs
  have hget : ∃ k, Dict.get? (t.map fun e => (e.1, Json.str e.2)) k = some v := by
    unfold mappedToken at hv
    rcases Option.or_eq_some_iff.mp hv with hv | ⟨-, hv⟩
    · exact ⟨_, (Option.filter_eq_some_iff.mp hv).1⟩
    · exact ⟨_, (Option.filter_eq_some_iff.mp hv).1⟩
  obtain ⟨k, hk⟩ := hget
  obtain ⟨e, he, heq⟩ := List.mem_map.mp (Dict.mem_of_get? hk)
  have hvalue : v = Json.str e.2 := (Prod.mk.inj heq).2.symm
  rw [hvalue]
  exact List.all_eq_true.mp ht e he

theorem argv_append (r s : TranslationResult) : (r ++ s).argv = r.argv ++ s.argv := rfl

/-! ### Options without a PSK -/

/-- The options of the shipped OpenSSL that configure no PSK. -/
theorem openssl_mem_argv {config : TlsConfig} (h : usesPsk config (strip config.cipherSuite) = false)
    {x : String} (hx : x ∈ (OpenSSL.tlsArgvForConfig config opensslCapabilities).argv) :
    isPlain x = true ∨
      x ∈ ["-tls1_2", "-tls1_3", "-ciphersuites", "-cipher", "-groups", "-sigalgs"] := by
  -- the switch of the version
  have hversion : ∀ m, x ∈ OpenSSL.tlsVersionArgv opensslCapabilities m →
      x ∈ ["-tls1_2", "-tls1_3"] := by
    intro m hm
    cases m with
    | v12 => exact List.mem_cons.mpr (.inl (List.mem_singleton.mp hm))
    | v13 => exact List.mem_cons_of_mem _ hm
  -- the ciphers, with `@SECLEVEL=0` behind them where the source lowers the level
  have hcipher : x ∈ (OpenSSL.cipherArgv config (strip config.cipherSuite) (tlsMode12Or13 config)
      opensslCapabilities).argv → isPlain x = true ∨ x ∈ ["-ciphersuites", "-cipher"] := by
    unfold OpenSSL.cipherArgv
    split
    · intro hm
      cases hm
    split
    · intro hm
      cases hm
    · next v hv =>
      have hplain : isPlain v = true := by
        cases hmode : tlsMode12Or13 config with
        | v12 =>
          rw [hmode] at hv
          exact isPlain_of_cipherSuiteMap (t := opensslTls12Ciphers) (by decide) hv
        | v13 =>
          rw [hmode] at hv
          exact isPlain_of_cipherSuiteMap (t := opensslTls13Ciphers) (by decide) hv
      have hsec : isPlain (OpenSSL.appendSeclevelZero v) = true := by
        unfold OpenSSL.appendSeclevelZero
        split
        · exact hplain
        · exact isPlain_append hplain (by decide)
      cases tlsMode12Or13 config with
      | v12 =>
        dsimp only
        split <;> simp only [List.mem_cons, List.not_mem_nil, or_false]
        · rintro (rfl | rfl)
          · exact .inr (.inr rfl)
          · exact .inl hsec
        · rintro (rfl | rfl)
          · exact .inr (.inr rfl)
          · exact .inl hplain
      | v13 =>
        simp only [List.mem_cons, List.not_mem_nil, or_false]
        rintro (rfl | rfl)
        · exact .inr (.inl rfl)
        · exact .inl hplain
  -- the groups and the schemes, both lists of mapped tokens
  have hfield : ∀ field flag t, isPlainTable t = true →
      opensslCapabilities.block field = some (t.map fun e => (e.1, Json.str e.2)) →
      x ∈ (OpenSSL.mappedColonArgv config opensslCapabilities field flag).argv →
      isPlain x = true ∨ x = flag := by
    intro field flag t ht hblock hm
    unfold OpenSSL.mappedColonArgv at hm
    dsimp only at hm
    rw [hblock] at hm
    dsimp only at hm
    split at hm
    · cases hm
    · simp only [List.mem_cons, List.not_mem_nil, or_false] at hm
      rcases hm with rfl | rfl
      · exact .inr rfl
      · exact .inl (isPlain_intercalate (by decide) fun s hs => isPlain_of_mapTokens ht hs)
  -- without a key there is nothing of it
  have hnone : OpenSSL.pskArgv config opensslCapabilities (strip config.cipherSuite) = {} := by
    unfold OpenSSL.pskArgv
    rw [h]
    rfl
  unfold OpenSSL.tlsArgvForConfig at hx
  dsimp only at hx
  rw [hnone] at hx
  simp only [argv_append, List.mem_append, List.not_mem_nil, or_false] at hx
  rcases hx with (hx | hx) | hx
  · exact .inr (List.mem_append_left _ (hversion _ hx))
  · rcases hcipher hx with hp | hp
    · exact .inl hp
    · exact .inr (List.mem_append_right ["-tls1_2", "-tls1_3"] (List.mem_append_left _ hp))
  · cases hmode : tlsMode12Or13 config with
    | v12 =>
      rw [hmode] at hx
      cases hx
    | v13 =>
      rw [hmode] at hx
      simp only [argv_append, List.mem_append] at hx
      rcases hx with hx | hx
      · rcases hfield _ _ opensslGroups (by decide) rfl hx with hp | rfl
        · exact .inl hp
        · exact .inr (by decide)
      · rcases hfield _ _ opensslSchemes (by decide) rfl hx with hp | rfl
        · exact .inl hp
        · exact .inr (by decide)

/-- The options of the shipped NSS in TLS 1.2. -/
theorem nss_mem_argv {config : TlsConfig} (hmode : tlsMode12Or13 config = .v12) {x : String}
    (hx : x ∈ (NSS.tlsArgvForConfig config nssCapabilities).argv) :
    isPlain x = true ∨ x ∈ ["-c", "-H"] := by
  -- the option of a key is for TLS 1.3
  have hpsk : NSS.nssPskZArgv config nssCapabilities = [] := by
    unfold NSS.nssPskZArgv
    rw [hmode, if_pos]
    simp
  have hanon : ∀ y ∈ NSS.nssAnonArgv config, isPlain y = true ∨ y = "-H" := by
    unfold NSS.nssAnonArgv
    dsimp only
    split
    · intro y hy
      cases hy
    · split <;> decide
  unfold NSS.tlsArgvForConfig at hx
  dsimp only at hx
  rw [hmode, hpsk] at hx
  simp only [argv_append, List.mem_append, List.not_mem_nil, or_false] at hx
  rcases hx with hx | hx
  · unfold NSS.cipherArgv at hx
    split at hx
    · cases hx
    split at hx
    · next v hv =>
      have hplain : isPlain v = true :=
        isPlain_of_cipherSuiteMap (t := nssTls12Ciphers) (by decide) hv
      simp only [List.mem_cons, List.not_mem_nil, or_false] at hx
      rcases hx with rfl | rfl
      · exact .inr List.mem_cons_self
      · exact .inl hplain
    · cases hx
  · rcases hanon x hx with hp | rfl
    · exact .inl hp
    · exact .inr (List.mem_cons_of_mem _ List.mem_cons_self)

/-- The priority string of a shipped GnuTLS client starts with its base. -/
theorem gnutls_isPlain_priority (config : TlsConfig) (rawCipher : String) :
    isPlain (GnuTLS.gnutlsPriorityParts config (some .client) gnutlsCapabilities
      (tlsMode12Or13 config) rawCipher).1 = true := by
  have hbase : ∀ mode, (GnuTLS.priorityBase gnutlsCapabilities (some .client) mode).toList.head?
      = some 'N' := by
    intro mode
    cases mode <;> rfl
  unfold GnuTLS.gnutlsPriorityParts isPlain
  dsimp only
  rw [String.toList_append, String.toList_append, List.append_assoc, List.head?_append, hbase]
  rfl

/-- The options of a shipped GnuTLS client that configure no PSK. -/
theorem gnutls_mem_argv {config : TlsConfig} (h : usesPsk config (strip config.cipherSuite) = false)
    {root path x : String}
    (hx : x ∈ (GnuTLS.tlsArgvForConfig root path config (some .client) gnutlsCapabilities).argv) :
    isPlain x = true ∨ x = "--priority" := by
  have hnone : GnuTLS.pskAndAnonExtras root path config (some .client) gnutlsCapabilities
      (strip config.cipherSuite) = {} := by
    unfold GnuTLS.pskAndAnonExtras
    have hclient : isServerRole (some .client) = false := rfl
    rw [h, hclient, Bool.and_false]
    rfl
  unfold GnuTLS.tlsArgvForConfig at hx
  dsimp only at hx
  rw [hnone, argv_append] at hx
  simp only [List.mem_append, List.not_mem_nil, false_or, List.mem_cons, or_false] at hx
  rcases hx with rfl | rfl
  · exact .inr rfl
  · exact .inl (gnutls_isPlain_priority config _)

/-! ### When a translator configures a PSK -/

/-- A translator configures a PSK for the configuration. -/
def WantsPsk (kind : WrapperKind) (config : TlsConfig) : Prop :=
  match kind with
  | .nss => testFeatureEnabledInConfig config "psk" = true ∧ tlsMode12Or13 config = .v13
  | _ => usesPsk config (strip config.cipherSuite) = true

/-- The key that the shipped documents give a cipher. -/
def shippedKey (cipherId : String) : String :=
  if pskKeyBitsForCipher cipherId ≥ 256 then
    "0123456789abcdef0123456789abcdef0123456789abcdef0123456789abcdef"
  else "0123456789abcdef0123456789abcdef"

/-- The shipped document of a wrapper. -/
def WrapperKind.shipped : WrapperKind → Capabilities
  | openssl => opensslCapabilities
  | gnutls => gnutlsCapabilities
  | nss => nssCapabilities

theorem pskMaterial_shipped (kind : WrapperKind) (cipherId : String) :
    kind.shipped.pskMaterial cipherId = some ("interop", shippedKey cipherId) := by
  have hidentity : strip (if Capabilities.entryText (kind.shipped.featureEntry "psk") "identity" = ""
      then "interop" else Capabilities.entryText (kind.shipped.featureEntry "psk") "identity")
        = "interop" := by
    cases kind <;> decide
  have hkey : kind.shipped.pskSecretHex cipherId = some (shippedKey cipherId) := by
    unfold Capabilities.pskSecretHex shippedKey
    rcases pskKeyBitsForCipher_cases cipherId with hbits | hbits <;> rw [hbits]
    · cases kind <;> decide
    · cases kind <;> decide
  unfold Capabilities.pskMaterial
  dsimp only
  rw [hidentity, hkey]
  rfl

/-- The cipher whose key a configuration uses: that of a PSK cipher, or the default. -/
def pskCipher (config : TlsConfig) : String :=
  if strip config.cipherSuite ≠ "" ∧ cipherCatalogIdRequiresPsk (strip config.cipherSuite) then
    strip config.cipherSuite
  else "psk-aes-128-gcm-sha256"

theorem pskCipher_of_usesPsk {config : TlsConfig}
    (h : usesPsk config (strip config.cipherSuite) = true) :
    pskCipher config = strip config.cipherSuite := by
  unfold usesPsk at h
  simp only [Bool.and_eq_true, bne_iff_ne] at h
  exact if_pos ⟨h.1.1, h.2⟩

section

variable {host : WrapperHost} {kind : WrapperKind} {config : TlsConfig} {role : Role}
  {argv : List String} {files : List (String × List UInt8)}

/-- The translator of a wrapper. -/
theorem tlsArgvForConfig_kind (kind : WrapperKind) (config : TlsConfig) (caps : Capabilities)
    (role : Option Role) (root path : String) :
    tlsArgvForConfig config kind.name caps role root path = .ok (match kind with
      | .openssl => OpenSSL.tlsArgvForConfig config caps
      | .gnutls => GnuTLS.tlsArgvForConfig root path config role caps
      | .nss => NSS.tlsArgvForConfig config caps) := by
  have hname : lower (strip kind.name) = kind.name := by cases kind <;> decide
  unfold tlsArgvForConfig
  dsimp only
  rw [hname]
  cases kind with
  | openssl => exact if_pos rfl
  | gnutls => rw [if_neg (by decide)]; exact if_pos rfl
  | nss => rw [if_neg (by decide), if_neg (by decide)]; exact if_pos rfl

/-- What a call of the translator gives, for some password file of GnuTLS. -/
theorem exists_path_of_translates (h : Translates host kind config role argv files) :
    ∃ st tr path st', ((kind.backend host).stageTranslation config role).Exec st tr (.ok path) st' ∧
      writtenFiles tr = files ∧ argv = (match kind with
        | .openssl => OpenSSL.tlsArgvForConfig config (kind.backend host).capabilities
        | .gnutls => GnuTLS.tlsArgvForConfig host.repo.root path config (some role)
          (kind.backend host).capabilities
        | .nss => NSS.tlsArgvForConfig config (kind.backend host).capabilities).argv := by
  obtain ⟨st, tr, path, st', result, hstage, hresult, hargv, hfiles⟩ := h
  rw [tlsArgvForConfig_kind, Except.ok.injEq] at hresult
  refine ⟨st, tr, path, st', hstage, hfiles, ?_⟩
  rw [← hargv, ← hresult]

variable {root : String} {certs : String → Option (List UInt8 × List UInt8)}

theorem capabilities_of_shipped (hrepo : host.repo = shippedRepo root certs) :
    (kind.backend host).capabilities = kind.shipped := by
  cases kind with
  | openssl =>
    show host.capabilities "openssl" = opensslCapabilities
    rw [WrapperHost.capabilities, hrepo]
    rfl
  | gnutls =>
    show host.capabilities "gnutls" = gnutlsCapabilities
    rw [WrapperHost.capabilities, hrepo]
    rfl
  | nss =>
    show host.capabilities "nss" = nssCapabilities
    rw [WrapperHost.capabilities, hrepo]
    rfl

/-! ### The translators, over any document -/

section

variable {caps : Capabilities} {identity key : String}

theorem openssl_configures (h : usesPsk config (strip config.cipherSuite) = true)
    (hmat : caps.pskMaterial (strip config.cipherSuite) = some (identity, key)) :
    ["-psk_identity", identity, "-psk", key] <:+: (OpenSSL.tlsArgvForConfig config caps).argv := by
  have hpsk : (OpenSSL.pskArgv config caps (strip config.cipherSuite)).argv
      = ["-psk_identity", identity, "-psk", key] := by
    unfold OpenSSL.pskArgv
    rw [h, hmat]
    rfl
  unfold OpenSSL.tlsArgvForConfig
  simp only [argv_append, hpsk]
  exact ⟨_, _, rfl⟩

theorem gnutls_configures (repoRoot path : String) (role : Option Role)
    (h : usesPsk config (strip config.cipherSuite) = true)
    (hmat : caps.pskMaterial (strip config.cipherSuite) = some (identity, key)) :
    GnuTLS.gnutlsPskArgv path role identity key
      <:+: (GnuTLS.tlsArgvForConfig repoRoot path config role caps).argv := by
  unfold GnuTLS.tlsArgvForConfig GnuTLS.pskAndAnonExtras
  dsimp only
  rw [h, hmat, argv_append, argv_append, List.append_assoc]
  exact ⟨[], _, rfl⟩

theorem nss_configures (hfeature : testFeatureEnabledInConfig config "psk" = true)
    (hmode : tlsMode12Or13 config = .v13)
    (hmat : caps.pskMaterial (pskCipher config) = some (identity, key)) :
    ["-z", "0x" ++ key ++ ":" ++ identity] <:+: (NSS.tlsArgvForConfig config caps).argv := by
  have hpsk : NSS.nssPskZArgv config caps = ["-z", "0x" ++ key ++ ":" ++ identity] := by
    unfold pskCipher at hmat
    unfold NSS.nssPskZArgv
    dsimp only
    rw [hfeature, hmode, if_neg (by decide), hmat]
  unfold NSS.tlsArgvForConfig
  simp only [argv_append, hpsk, ← List.append_assoc]
  exact (List.suffix_append _ _).isInfix

/-- A GnuTLS server that uses a PSK has written its line into the password file. -/
theorem mem_writtenFiles_stagePskPasswdFile {st st' : Staging} {tr : List (Event StagingAns)}
    {path : String} (h : usesPsk config (strip config.cipherSuite) = true)
    (hrole : isServerRole (some role) = true)
    (hmat : (host.capabilities "gnutls").pskMaterial (strip config.cipherSuite)
      = some (identity, key))
    (hexec : (GnuTLS.stagePskPasswdFile host config role).Exec st tr (.ok path) st') :
    (path, (identity ++ ":" ++ key ++ "\n").toUTF8.toList) ∈ writtenFiles tr := by
  unfold GnuTLS.stagePskPasswdFile at hexec
  dsimp only at hexec
  rw [h, hrole, hmat] at hexec
  obtain ⟨file, s₁, tr₁, tr₂, rfl, -, hexec⟩ := Eff.exec_bind_ok.mp hexec
  obtain ⟨u, s₂, tr₃, tr₄, rfl, hwrite, hpure⟩ := Eff.exec_bind_ok.mp hexec
  obtain ⟨ans, rfl, hans, -⟩ := Eff.exec_invoke.mp hwrite
  obtain ⟨-, hpath, -⟩ := Eff.exec_pure.mp hpure
  obtain rfl := Except.ok.inj hpath
  subst hans
  exact List.mem_filterMap.mpr
    ⟨_, List.mem_append_right _ (List.mem_append_left _ List.mem_cons_self), rfl⟩

/-- A GnuTLS server that uses no PSK writes no file. -/
theorem writtenFiles_stagePskPasswdFile {st st' : Staging} {tr : List (Event StagingAns)}
    {path : String} (h : usesPsk config (strip config.cipherSuite) = false)
    (hexec : (GnuTLS.stagePskPasswdFile host config role).Exec st tr (.ok path) st') :
    writtenFiles tr = [] := by
  unfold GnuTLS.stagePskPasswdFile at hexec
  dsimp only at hexec
  rw [h] at hexec
  obtain ⟨rfl, -, -⟩ := Eff.exec_pure.mp hexec
  rfl

end

/-! ### The translators, over the shipped documents -/

/-- A translator that wants a PSK configures the shipped one. -/
theorem configures_of_wants (hrepo : host.repo = shippedRepo root certs)
    (htr : Translates host kind config role argv files) (h : WantsPsk kind config) :
    Configures kind role argv files "interop" (shippedKey (pskCipher config)) := by
  obtain ⟨st, tr, path, st', hstage, rfl, rfl⟩ := exists_path_of_translates htr
  have hmat : (kind.backend host).capabilities.pskMaterial (pskCipher config)
      = some ("interop", shippedKey (pskCipher config)) := by
    rw [capabilities_of_shipped hrepo]
    exact pskMaterial_shipped kind _
  cases kind with
  | openssl =>
    have huses : usesPsk config (strip config.cipherSuite) = true := h
    rw [pskCipher_of_usesPsk huses] at hmat ⊢
    exact openssl_configures huses hmat
  | gnutls =>
    have huses : usesPsk config (strip config.cipherSuite) = true := h
    rw [pskCipher_of_usesPsk huses] at hmat ⊢
    have hargv := gnutls_configures host.repo.root path (some role) huses hmat
    unfold Configures
    dsimp only
    split
    · next hrole =>
      -- the server names the file, which holds the line
      rw [GnuTLS.gnutlsPskArgv, if_pos hrole] at hargv
      exact ⟨path, hargv, mem_writtenFiles_stagePskPasswdFile huses hrole hmat hstage⟩
    · next hrole =>
      rw [GnuTLS.gnutlsPskArgv, if_neg hrole] at hargv
      exact hargv
  | nss =>
    obtain ⟨hfeature, hmode⟩ : testFeatureEnabledInConfig config "psk" = true ∧
        tlsMode12Or13 config = .v13 := h
    exact nss_configures hfeature hmode hmat

/-- A translator that wants no PSK configures none. -/
theorem not_configures (hrepo : host.repo = shippedRepo root certs)
    (hrole : role = .server ∨ role = .client)
    (hfeature : testFeatureEnabledInConfig config "psk" = true)
    (htr : Translates host kind config role argv files) (h : ¬ WantsPsk kind config)
    (identity key : String) : ¬ Configures kind role argv files identity key := by
  obtain ⟨st, tr, path, st', hstage, rfl, rfl⟩ := exists_path_of_translates htr
  rw [capabilities_of_shipped hrepo]
  intro hconf
  cases kind with
  | openssl =>
    -- the argv has no option that takes the key
    have huses : usesPsk config (strip config.cipherSuite) = false := eq_false_of_ne_true h
    have hmem := openssl_mem_argv huses (List.IsInfix.mem List.mem_cons_self hconf)
    exact absurd hmem (by decide)
  | gnutls =>
    have huses : usesPsk config (strip config.cipherSuite) = false := eq_false_of_ne_true h
    rcases hrole with rfl | rfl
    · -- a server reads the key from a file, which is not written
      unfold Configures at hconf
      dsimp only at hconf
      rw [if_pos (by decide)] at hconf
      obtain ⟨file, -, hfile⟩ := hconf
      have hwrites : (GnuTLS.stagePskPasswdFile host config .server).Exec st tr (.ok path) st' :=
        hstage
      rw [writtenFiles_stagePskPasswdFile huses hwrites] at hfile
      cases hfile
    · -- a client has it in its argv
      unfold Configures at hconf
      dsimp only at hconf
      rw [if_neg (by decide)] at hconf
      have hmem := gnutls_mem_argv huses (List.IsInfix.mem List.mem_cons_self hconf)
      exact absurd hmem (by decide)
  | nss =>
    have hmode : tlsMode12Or13 config = .v12 := by
      cases hm : tlsMode12Or13 config with
      | v12 => rfl
      | v13 => exact absurd ⟨hfeature, hm⟩ h
    have hmem := nss_mem_argv hmode (List.IsInfix.mem List.mem_cons_self hconf)
    exact absurd hmem (by decide)

end

/-! ### The configurations of a cell -/

section

variable {cell : Cell} {server : Bool} {config : TlsConfig}

theorem cipherSuite_of_cell {repo : Repo} (h : tlsConfigFromCell repo cell server = .ok config) :
    strip config.cipherSuite = cellCipherId cell server := by
  obtain ⟨port, certB, keyB, -, rfl⟩ := tlsConfigFromCell_eq_ok h
  show strip (pickScalar cell "cipher_suite" server) = _
  rw [pickScalar_cipherSuite, strip_cellCipherId]

theorem tlsMode_of_cell {repo : Repo} (h : tlsConfigFromCell repo cell server = .ok config) :
    tlsMode12Or13 config = tlsModeFromVersion (pickScalar cell "tls_version" server) := by
  obtain ⟨port, certB, keyB, -, rfl⟩ := tlsConfigFromCell_eq_ok h
  exact tlsModeFromVersion_cellConfig cell server port

theorem testFeatureEnabled_of_cell {repo : Repo}
    (h : tlsConfigFromCell repo cell server = .ok config)
    (hpsk : "psk" ∈ parseTestFeaturesEnabled (cell.field "test_features")) :
    testFeatureEnabledInConfig config "psk" = true := by
  obtain ⟨port, certB, keyB, -, rfl⟩ := tlsConfigFromCell_eq_ok h
  have hmem : "psk" ∈ sortedSet (parseTestFeaturesEnabled (cell.field "test_features")) :=
    mem_sortedSet.mpr hpsk
  have hname : lower (strip "psk") = "psk" := by decide
  unfold testFeatureEnabledInConfig repeatedConfigTokens
  rw [hname, List.contains_iff_mem, List.mem_filter]
  exact ⟨List.mem_map.mpr ⟨"psk", hmem, by decide⟩, by decide⟩

/-- NSS has no PSK cipher. -/
theorem not_requiresPsk_of_nss {m : TlsMode} {cid : String}
    (h : nssCapabilities.supportsCipher cid m = true) : cipherCatalogIdRequiresPsk cid = false := by
  have hno : ∀ t : Dict String String, (t.all fun e => !hasDashWord "psk" e.1) = true →
      ∀ {k v}, (cipherSuiteMapFromTlsBlock (some (.obj [("cipher_suite", strTable t)]))).get? k
        = some v → hasDashWord "psk" k = false := by
    intro t ht k v hv
    simpa using List.all_eq_true.mp ht _ (mem_of_mem_cipherSuiteMap (Dict.mem_of_get? hv))
  obtain ⟨v, hv⟩ := Option.isSome_iff_exists.mp (cipher_mapped nssCapabilities_normal h)
  unfold cipherCatalogIdRequiresPsk
  cases m with
  | v13 => exact hno nssTls13Ciphers (by decide) hv
  | v12 => exact hno nssTls12Ciphers (by decide) hv

end

section

variable {root : String} {certs : String → Option (List UInt8 × List UInt8)} {cell : Cell}
  {kind : Bool → WrapperKind} {host : Bool → WrapperHost} {config : Bool → TlsConfig}
  {argv : Bool → List String} {files : Bool → List (String × List UInt8)}

/-- An unskipped cell has no PSK cipher for a role on NSS. -/
theorem not_requiresPsk_of_accepted (hkind : ∀ server, roleBackend cell server = (kind server).name)
    (haccept : cellCapabilitySkipReason (shippedRepo root certs) cell = none) {server : Bool}
    (hnss : kind server = .nss) (hne : cellCipherId cell server ≠ "") :
    cipherCatalogIdRequiresPsk (cellCipherId cell server) = false := by
  have hbackend : ∀ server, roleBackend cell server ≠ "" := by
    intro server
    rw [hkind]
    cases kind server <;> decide
  obtain ⟨srvCaps, cliCaps, hsrv, hcli, hchecks⟩ :=
    cellCapabilitySkipReason_eq_none (hbackend true) (hbackend false) haccept
  have hload := load_cellSkipCtx hsrv hcli server
  rw [hkind, hnss] at hload
  have hcaps : (cellSkipCtx (shippedRepo root certs) cell srvCaps cliCaps).caps server
      = nssCapabilities := by
    rcases shippedRepo_load.mp hload with ⟨hname, -⟩ | ⟨-, hcaps⟩ | ⟨hname, -⟩
    · exact absurd hname (by decide)
    · exact hcaps
    · exact absurd hname (by decide)
  have hsupports := cipher_of_accepted hchecks server hne
  rw [hcaps] at hsupports
  exact not_requiresPsk_of_nss hsupports

/-- The cipher of the cell is a PSK cipher. -/
def PskCell (cell : Cell) : Prop :=
  cellCipherId cell true ≠ "" ∧ cipherCatalogIdRequiresPsk (cellCipherId cell true) = true

section

variable (hcipher : cellCipherId cell true = cellCipherId cell false)
  (hpsk : "psk" ∈ parseTestFeaturesEnabled (cell.field "test_features"))
  (hcfg : ∀ server, tlsConfigFromCell (shippedRepo root certs) cell server = .ok (config server))

include hcipher

theorem cellCipherId_eq (server : Bool) : cellCipherId cell server = cellCipherId cell true := by
  cases server with
  | true => rfl
  | false => exact hcipher.symm

include hcfg

theorem cipherSuite_eq (server : Bool) :
    strip (config server).cipherSuite = cellCipherId cell true := by
  rw [cipherSuite_of_cell (hcfg server)]
  exact cellCipherId_eq hcipher server

include hpsk

/-- The roles agree when both want a PSK, or neither does. -/
theorem pskOnBothOrNone_iff (hrepo : ∀ server, (host server).repo = shippedRepo root certs)
    (htr : ∀ server, Translates (host server) (kind server) (config server) (roleOf server)
      (argv server) (files server)) :
    PskOnBothOrNone kind argv files ↔
      (WantsPsk (kind true) (config true) ↔ WantsPsk (kind false) (config false)) := by
  have hrole : ∀ server, roleOf server = .server ∨ roleOf server = .client := by decide
  have hkey : ∀ server, pskCipher (config server) = pskCipher (config true) := by
    intro server
    rw [pskCipher, pskCipher, cipherSuite_eq hcipher hcfg, cipherSuite_eq hcipher hcfg]
  -- an end that wants the key configures the one of the cipher
  have hyes : ∀ server, WantsPsk (kind server) (config server) → RoleConfigures kind argv files
      server "interop" (shippedKey (pskCipher (config true))) := by
    intro server hwants
    rw [← hkey server]
    exact configures_of_wants (hrepo server) (htr server) hwants
  -- an end that does not want it configures none at all
  have hno : ∀ server, ¬ WantsPsk (kind server) (config server) → ∀ identity key,
      ¬ RoleConfigures kind argv files server identity key := fun server hnot identity key =>
    not_configures (hrepo server) (hrole server) (testFeatureEnabled_of_cell (hcfg server) hpsk)
      (htr server) hnot identity key
  constructor
  · rintro (⟨identity, key, hboth⟩ | hnone)
    · have hwants : ∀ server, WantsPsk (kind server) (config server) := by
        intro server
        by_contra hnot
        exact hno server hnot identity key (hboth server)
      exact iff_of_true (hwants true) (hwants false)
    · have hnot : ∀ server, ¬ WantsPsk (kind server) (config server) := fun server hwants =>
        hnone server _ _ (hyes server hwants)
      exact iff_of_false (hnot true) (hnot false)
  · intro hiff
    by_cases hwants : WantsPsk (kind true) (config true)
    · refine .inl ⟨"interop", shippedKey (pskCipher (config true)), fun server => ?_⟩
      cases server with
      | true => exact hyes true hwants
      | false => exact hyes false (hiff.mp hwants)
    · refine .inr fun server => ?_
      cases server with
      | true => exact hno true hwants
      | false => exact hno false fun hcli => hwants (hiff.mpr hcli)

/-- Without a PSK cipher only NSS wants a PSK. -/
theorem wantsPsk_iff (server : Bool) (hnss : kind server = .nss → ¬ PskCell cell) :
    WantsPsk (kind server) (config server) ↔ PskCell cell ∨ NssInTls13 kind cell server := by
  have hfeature := testFeatureEnabled_of_cell (hcfg server) hpsk
  have huses : usesPsk (config server) (strip (config server).cipherSuite) = true ↔
      PskCell cell := by
    unfold usesPsk PskCell
    rw [cipherSuite_eq hcipher hcfg, hfeature, Bool.and_true, Bool.and_eq_true, bne_iff_ne]
  unfold NssInTls13
  rw [← tlsMode_of_cell (hcfg server)]
  cases hk : kind server with
  | openssl => simpa [WantsPsk] using huses
  | gnutls => simpa [WantsPsk] using huses
  | nss => simp [WantsPsk, hfeature, hnss hk]

end

/-- **When PSKs agree**: in an unskipped cell with one cipher and the `psk` feature,
the two roles configure the same PSK or none, exactly when both are on NSS in
TLS 1.3 or neither is.  OpenSSL and GnuTLS configure the key for the PSK ciphers only, NSS
for every cipher in TLS 1.3. -/
theorem psk_on_both_or_none_iff (hrepo : ∀ server, (host server).repo = shippedRepo root certs)
    (hkind : ∀ server, roleBackend cell server = (kind server).name)
    (hcipher : cellCipherId cell true = cellCipherId cell false)
    (hpsk : "psk" ∈ parseTestFeaturesEnabled (cell.field "test_features"))
    (haccept : cellCapabilitySkipReason (shippedRepo root certs) cell = none)
    (hcfg : ∀ server, tlsConfigFromCell (shippedRepo root certs) cell server = .ok (config server))
    (htr : ∀ server, Translates (host server) (kind server) (config server) (roleOf server)
      (argv server) (files server)) :
    PskOnBothOrNone kind argv files ↔
      (NssInTls13 kind cell true ↔ NssInTls13 kind cell false) := by
  have hnss : ∀ server, kind server = .nss → ¬ PskCell cell := by
    rintro server hk ⟨hne, hrequires⟩
    have hnone := not_requiresPsk_of_accepted hkind haccept hk
    rw [cellCipherId_eq hcipher server] at hnone
    exact absurd hrequires (by simp [hnone hne])
  rw [pskOnBothOrNone_iff hcipher hpsk hcfg hrepo htr, wantsPsk_iff hcipher hpsk hcfg true (hnss true),
    wantsPsk_iff hcipher hpsk hcfg false (hnss false)]
  -- a PSK cipher keeps both roles off NSS
  by_cases hcell : PskCell cell
  · have hoff : ∀ server, ¬ NssInTls13 kind cell server := fun server hrole =>
      hnss server hrole.1 hcell
    simp [hcell, hoff]
  · simp [hcell]

end

/-! ### Two cells -/

/-- The command line that enables the `psk` feature. -/
def pskArgs : Args where
  attrs := [("tls_port", .int 0), ("test_features", .str "psk")]
  suiteCases := none

/-- A TLS 1.3 cell of an OpenSSL server and an NSS client, with the `psk` feature. -/
def mixedPskCell : Cell :=
  [(.str "server", "openssl"), (.str "client", "nss"), (.str "tls_version", "1.3"),
    (.str "cipher_suite", "aes-128-gcm"), (.str "test_features", "psk")]

/-- A TLS 1.2 cell of an OpenSSL server and a GnuTLS client, with a PSK cipher. -/
def pskCipherCell : Cell :=
  [(.str "server", "openssl"), (.str "client", "gnutls"), (.str "tls_version", "1.2"),
    (.str "cipher_suite", "psk-aes-128-gcm-sha256"), (.str "test_features", "psk")]

/-- A host of the shipped repository. -/
def pskHost : WrapperHost where
  repo := shippedRepo "/repo" noCerts

/-- The configurations of a cell without a port. -/
def pskConfig (cell : Cell) (server : Bool) : TlsConfig :=
  if server then
    applyIdentityMaterial (shippedRepo "/repo" noCerts) (cellConfig cell server 5555) cell
  else cellConfig cell server 5555

theorem tlsConfigFromCell_pskConfig {cell : Cell} (h : strip (cell.field "tls_port") = "")
    (server : Bool) : tlsConfigFromCell (shippedRepo "/repo" noCerts) cell server
      = .ok (pskConfig cell server) := by
  have hport : cellPort cell server = .ok 5555 := by
    unfold cellPort
    rw [pickScalar_of_empty h]
    rfl
  rw [tlsConfigFromCell_of_port hport]
  rfl

theorem repo_pskHost : pskHost.repo = shippedRepo "/repo" noCerts := rfl

/-- A translator that writes no file. -/
theorem exists_translates (host : WrapperHost) (kind : WrapperKind) (config : TlsConfig)
    (role : Role) (h : kind = .gnutls → isServerRole (some role) = false) :
    ∃ argv, Translates host kind config role argv [] := by
  have hstage : ((kind.backend host).stageTranslation config role).Exec {} [] (.ok "") {} := by
    cases kind with
    | openssl => exact Eff.exec_pure.mpr ⟨rfl, rfl, rfl⟩
    | nss => exact Eff.exec_pure.mpr ⟨rfl, rfl, rfl⟩
    | gnutls =>
      show (GnuTLS.stagePskPasswdFile host config role).Exec {} [] (.ok "") {}
      unfold GnuTLS.stagePskPasswdFile
      dsimp only
      rw [h rfl, Bool.and_false]
      exact Eff.exec_pure.mpr ⟨rfl, rfl, rfl⟩
  exact ⟨_, {}, [], "", {}, _, hstage, tlsArgvForConfig_kind kind config _ _ _ _, rfl, rfl⟩

/-- The backends of the mixed cell. -/
def mixedPskKind (server : Bool) : WrapperKind := if server then .openssl else .nss

/-- The backends of the cell with a PSK cipher. -/
def pskCipherKind (server : Bool) : WrapperKind := if server then .openssl else .gnutls

/-- NSS configures a PSK in a cell without a PSK cipher, and OpenSSL does not. -/
theorem mixedPskCell_psk_on_one_end :
    normalizeCellTlsMicroParams (shippedRepo "/repo" noCerts) mixedPskCell pskArgs
        = .ok mixedPskCell ∧
      (∀ server, roleBackend mixedPskCell server = (mixedPskKind server).name) ∧
      cellCipherId mixedPskCell true = cellCipherId mixedPskCell false ∧
      "psk" ∈ parseTestFeaturesEnabled (mixedPskCell.field "test_features") ∧
      cellCapabilitySkipReason (shippedRepo "/repo" noCerts) mixedPskCell = none ∧
      (∀ server, tlsConfigFromCell (shippedRepo "/repo" noCerts) mixedPskCell server
        = .ok (pskConfig mixedPskCell server)) ∧
      ∃ argv, (∀ server, Translates pskHost (mixedPskKind server) (pskConfig mixedPskCell server)
          (roleOf server) (argv server) []) ∧
        ¬ PskOnBothOrNone mixedPskKind argv fun _ => [] := by
  have hcfg : ∀ server, tlsConfigFromCell (shippedRepo "/repo" noCerts) mixedPskCell server
      = .ok (pskConfig mixedPskCell server) := tlsConfigFromCell_pskConfig (by decide)
  have hcipher : cellCipherId mixedPskCell true = cellCipherId mixedPskCell false := by decide
  have hpsk : "psk" ∈ parseTestFeaturesEnabled (mixedPskCell.field "test_features") := by decide
  have htr : ∀ server, ∃ argv, Translates pskHost (mixedPskKind server)
      (pskConfig mixedPskCell server) (roleOf server) argv [] := fun server =>
    exists_translates _ _ _ _ (by cases server <;> decide)
  choose argv hargv using htr
  refine ⟨by decide, by decide, hcipher, hpsk, by decide, hcfg, argv, hargv, ?_⟩
  rw [pskOnBothOrNone_iff hcipher hpsk hcfg (fun _ => repo_pskHost) hargv]
  intro hiff
  -- the client is on NSS in TLS 1.3
  have hcli : WantsPsk .nss (pskConfig mixedPskCell false) := by
    refine ⟨testFeatureEnabled_of_cell (hcfg false) hpsk, ?_⟩
    rw [tlsMode_of_cell (hcfg false)]
    decide
  -- the server would need a PSK cipher
  have hsrv : usesPsk (pskConfig mixedPskCell true)
      (strip (pskConfig mixedPskCell true).cipherSuite) = true := hiff.mpr hcli
  rw [cipherSuite_of_cell (hcfg true)] at hsrv
  have hno : cipherCatalogIdRequiresPsk (cellCipherId mixedPskCell true) = false := by decide
  unfold usesPsk at hsrv
  rw [hno, Bool.and_false] at hsrv
  cases hsrv

/-- The two roles of a cell with a PSK cipher configure the same PSK, or none. -/
theorem pskCipherCell_psk_agrees :
    ∃ argv, (∀ server, Translates pskHost (pskCipherKind server) (pskConfig pskCipherCell server)
        (roleOf server) (argv server) []) ∧
      PskOnBothOrNone pskCipherKind argv fun _ => [] := by
  have hcfg : ∀ server, tlsConfigFromCell (shippedRepo "/repo" noCerts) pskCipherCell server
      = .ok (pskConfig pskCipherCell server) := tlsConfigFromCell_pskConfig (by decide)
  have htr : ∀ server, ∃ argv, Translates pskHost (pskCipherKind server)
      (pskConfig pskCipherCell server) (roleOf server) argv [] := fun server =>
    exists_translates _ _ _ _ (by cases server <;> decide)
  choose argv hargv using htr
  have hkind : ∀ server, roleBackend pskCipherCell server = (pskCipherKind server).name := by
    decide
  have hcipher : cellCipherId pskCipherCell true = cellCipherId pskCipherCell false := by decide
  have hpsk : "psk" ∈ parseTestFeaturesEnabled (pskCipherCell.field "test_features") := by decide
  have haccept : cellCapabilitySkipReason (shippedRepo "/repo" noCerts) pskCipherCell = none := by
    decide
  have hoff : ∀ server, ¬ NssInTls13 pskCipherKind pskCipherCell server := by
    rintro server ⟨hk, -⟩
    cases server <;> cases hk
  exact ⟨argv, hargv, (psk_on_both_or_none_iff (fun _ => repo_pskHost) hkind hcipher hpsk haccept
    hcfg hargv).mpr (iff_of_false (hoff true) (hoff false))⟩

end TlsInterop
