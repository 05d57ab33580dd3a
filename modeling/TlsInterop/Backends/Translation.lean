import TlsInterop.Core.Features
import TlsInterop.Core.Matrix
import TlsInterop.Core.Proto

/-!
# Translating a configuration to command line options

What the three backends' `tls_argv_for_config` have in common: the result with
the options and the parameters that could not be applied, the mode of a
configuration, and the mapping of catalog tokens to a backend's own names.

## Main definitions

* `TranslationResult` — options and unsupported parameters.
* `tlsMode12Or13`, `isServerRole` — what the translators read off a request.
* `mappedToken`, `mapTokens` — catalog tokens under a backend's names.
* `Capabilities.CatalogNormal` — a document whose tokens all map.
* `Supported` — a configuration a document supports.

## Main results

* `unsupportedTokens_eq_nil` — supported tokens all map.
* `cipher_mapped` — a supported cipher has an entry under its normalised id.
-/

namespace TlsInterop

open Py

/-- `TranslationResult`. -/
structure TranslationResult where
  argv : List String := []
  unsupported : List String := []
  deriving DecidableEq, Repr

namespace TranslationResult

/-- The options and the unsupported parameters of two parts, one after the other. -/
instance : Append TranslationResult where
  append r s := ⟨r.argv ++ s.argv, r.unsupported ++ s.unsupported⟩

@[simp] theorem unsupported_append (r s : TranslationResult) :
    (r ++ s).unsupported = r.unsupported ++ s.unsupported := rfl

end TranslationResult

/-- `tls_mode_12_or_13`. -/
def tlsMode12Or13 (config : TlsConfig) : TlsMode := tlsModeFromVersion config.version

/-- `is_server_role`; no role counts as the server. -/
def isServerRole (role : Option Role) : Bool :=
  match role with
  | none => true
  | some r => r == .server

/-- The fields whose tokens a backend maps in TLS 1.3: those of the orthogonal dimensions. -/
def configTokens (config : TlsConfig) (field : String) : List String :=
  if field = "supported_groups" then repeatedConfigTokens config.supportedGroups
  else if field = "signature_schemes" then repeatedConfigTokens config.signatureSchemes
  else []

/-- `block.get(norm_catalog_token(it)) or block.get(it)`, when it is truthy. -/
def mappedToken (block : Dict String Json) (it : String) : Option Json :=
  let truthy? (v : Option Json) : Option Json := v.filter Json.truthy
  (truthy? (block.get? (normCatalogToken it))).or (truthy? (block.get? it))

/-- The names of the tokens that map, as `str` renders them. -/
def mapTokens (block : Dict String Json) (items : List String) : List String :=
  items.filterMap fun it => (mappedToken block it).map Json.pyStr

/-- The complaint about each token that does not. -/
def unsupportedTokens (backend field : String) (block : Dict String Json) (items : List String) :
    List String :=
  (items.filter fun it => (mappedToken block it).isNone).map fun it =>
    field ++ ":" ++ reprStr it ++ " (unsupported for " ++ backend ++ " mapping)"

/-- The complaint about missing PSK material. -/
def pskUnsupported : String :=
  "psk (missing or wrong-length test_features.psk secret_hex_* for cipher)"

/-- The configuration enables PSK and its cipher asks for it. -/
def usesPsk (config : TlsConfig) (rawCipher : String) : Bool :=
  rawCipher != "" && testFeatureEnabledInConfig config "psk" &&
    cipherCatalogIdRequiresPsk rawCipher

/-- The configuration enables anonymous ciphers and its cipher is one. -/
def usesAnon (config : TlsConfig) (rawCipher : String) : Bool :=
  rawCipher != "" && testFeatureEnabledInConfig config "anonymous" &&
    cipherCatalogIdRequiresAnon rawCipher

/-! ### Documents whose tokens all map -/

/-- The block of a field that a document must have as a mapping. -/
def Capabilities.block (caps : Capabilities) (field : String) : Option (Dict String Json) :=
  (caps.get? field).bind Json.asDict

/-- A document that lists its tokens in normal form, names each of them, and has
PSK material of the right length for every cipher. -/
structure Capabilities.CatalogNormal (caps : Capabilities) : Prop where
  cipher : ∀ m, ∀ e ∈ caps.cipherMap m, normCatalogToken e.1 = e.1
  dimension : ∀ dim ∈ tls13OrthogonalDims, ∃ block, caps.block dim = some block ∧
    ∀ e ∈ block, normCatalogToken e.1 = e.1 ∧ e.2.truthy = true
  psk : ∀ cid, (caps.pskMaterial cid).isSome

section

variable {caps : Capabilities}

/-- A supported cipher has an entry under its normalised id. -/
theorem cipher_mapped (h : caps.CatalogNormal) {cid : String} {m : TlsMode}
    (hsup : caps.supportsCipher cid m = true) :
    ((caps.cipherMap m).get? (normCatalogToken cid)).isSome := by
  rw [Capabilities.supportsCipher, Capabilities.listsCipher, Bool.or_eq_true] at hsup
  rcases hsup with hkey | hid
  · exact hkey
  · obtain ⟨v, hv⟩ := Option.isSome_iff_exists.mp hid
    have hnorm : normCatalogToken cid = cid := h.cipher m (cid, v) (Dict.mem_of_get? hv)
    rwa [hnorm]

/-- A supported token of an orthogonal dimension maps. -/
theorem mappedToken_isSome (h : caps.CatalogNormal) {dim tok : String}
    (hdim : dim ∈ tls13OrthogonalDims) {block : Dict String Json}
    (hblock : caps.block dim = some block) (hsup : capabilityTokenSupported block tok = true) :
    (mappedToken block tok).isSome := by
  obtain ⟨block', hblock', hall⟩ := h.dimension dim hdim
  obtain rfl : block = block' := Option.some.inj (hblock.symm.trans hblock')
  have hlisted := listed_of_capabilityTokenSupported hsup
  unfold mappedToken
  rcases hlisted with hk | hk
  all_goals
    obtain ⟨v, hv⟩ := Option.isSome_iff_exists.mp hk
    have htruthy : v.truthy = true := (hall _ (Dict.mem_of_get? hv)).2
    simp [hv, htruthy]

/-- Supported tokens all map. -/
theorem unsupportedTokens_eq_nil (h : caps.CatalogNormal) {backend dim : String}
    (hdim : dim ∈ tls13OrthogonalDims) {block : Dict String Json}
    (hblock : caps.block dim = some block) {items : List String}
    (hsup : ∀ tok ∈ items, capabilityTokenSupported block tok = true) :
    unsupportedTokens backend dim block items = [] := by
  unfold unsupportedTokens
  rw [List.map_eq_nil_iff, List.filter_eq_nil_iff]
  intro tok htok
  rw [Option.isNone_iff_eq_none, ← Option.not_isSome_iff_eq_none, not_not]
  exact mappedToken_isSome h hdim hblock (hsup tok htok)

/-- A configuration whose cipher and whose TLS 1.3 tokens the document supports. -/
structure Supported (caps : Capabilities) (config : TlsConfig) : Prop where
  cipher : strip config.cipherSuite ≠ "" →
    caps.supportsCipher (strip config.cipherSuite) (tlsMode12Or13 config) = true
  tokens : tlsMode12Or13 config = .v13 → ∀ dim ∈ tls13OrthogonalDims,
    ∀ tok ∈ configTokens config dim, ∀ block, caps.block dim = some block →
      capabilityTokenSupported block tok = true

variable {config : TlsConfig}

theorem Supported.cipher_isSome (hs : Supported caps config) (h : caps.CatalogNormal)
    (hne : strip config.cipherSuite ≠ "") :
    ∃ v, (caps.cipherMap (tlsMode12Or13 config)).get? (normCatalogToken (strip config.cipherSuite))
      = some v :=
  Option.isSome_iff_exists.mp (cipher_mapped h (hs.cipher hne))

theorem Supported.unsupportedTokens_eq_nil (hs : Supported caps config) (h : caps.CatalogNormal)
    (hmode : tlsMode12Or13 config = .v13) {dim : String} (hdim : dim ∈ tls13OrthogonalDims)
    {block : Dict String Json} (hblock : caps.block dim = some block) (backend : String) :
    unsupportedTokens backend dim block (configTokens config dim) = [] :=
  TlsInterop.unsupportedTokens_eq_nil h hdim hblock fun tok htok =>
    hs.tokens hmode dim hdim tok htok block hblock

end

end TlsInterop
