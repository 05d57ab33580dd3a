import TlsInterop.Core.Json

/-!
# Capability documents and catalog tokens

The model of `core/catalog.py`: what a backend's `capabilities.json` offers,
how a catalog token is normalised, and how a TLS version string is read as one
of the two modes.

## Main definitions

* `normCatalogToken`, `parseAsymmetric`, `splitCsvTokens` — token helpers.
* `TlsMode`, `tlsModeFromVersion` — the mode a version string selects.
* `Capabilities` and its `cipherMaps`, `cipherModes`, `supportsCipher`,
  `supportsToken`, `dimensionKeys`, `featureEntry` — the queries on a document.
* `Repo`, `loadBackendCapabilities`, `discoverWrapperIds` — the repository the
  documents are read from.

## Main results

* `mem_cipherModes` — the two cipher queries agree.
* `listed_of_capabilityTokenSupported` — a supported token is listed.
-/

namespace TlsInterop

open Py

/-! ### Tokens -/

/-- `norm_catalog_token`. -/
def normCatalogToken (raw : String) : String := removeChar ' ' (lower (strip raw))

/-- Printable ASCII text without capitals is in normal form. -/
theorem normCatalogToken_of_isFoldedText {s : String} (h : isFoldedText s = true) :
    normCatalogToken s = s := by
  have hfolded := isFolded_of_isFoldedText h
  have hspace : ∀ c ∈ s.toList, isSpace c = false := fun c hc =>
    isSpace_of_isFoldedChar (hfolded c hc)
  rw [normCatalogToken, strip_eq_self_of_forall hspace, lower_of_isFolded hfolded,
    removeChar_of_notMem]
  exact fun hc => absurd (hspace _ hc) (by decide)

/-- `parse_asymmetric`: the `SERVER:CLIENT` parts, or the same value for both. -/
def parseAsymmetric (val : String) : String × String :=
  let value := strip val
  match splitOnce ':' value with
  | some (left, right) => (strip left, strip right)
  | none => (value, value)

/-- `asymmetric_role_part`. -/
def asymmetricRolePart (val : String) (server : Bool) : String :=
  let (left, right) := parseAsymmetric val
  if server then left else right

/-- `split_csv_tokens`. -/
def splitCsvTokens (part : String) : List String := csvTokens part

/-! ### TLS modes -/

/-- `TlsMode`: the two protocol versions the catalogs distinguish. -/
inductive TlsMode
  | v12
  | v13
  deriving DecidableEq, Repr

namespace TlsMode

/-- The literal the source uses for the mode. -/
def text : TlsMode → String
  | v12 => "1.2"
  | v13 => "1.3"

end TlsMode

/-- `tls_mode_from_version`. -/
def tlsModeFromVersion (version : String) : TlsMode :=
  if strip version = "" then .v13
  else
    let folded := removeChar '_' (removeChar '-' (removeChar '.' (normCatalogToken version)))
    if contains "13" folded then .v13
    else if contains "12" folded then .v12
    else .v13

@[simp] theorem tlsModeFromVersion_text (m : TlsMode) : tlsModeFromVersion m.text = m := by
  cases m <;> decide

@[simp] theorem tlsModeFromVersion_empty : tlsModeFromVersion "" = .v13 := rfl

@[simp] theorem tlsModeFromVersion_strip (v : String) :
    tlsModeFromVersion (strip v) = tlsModeFromVersion v := by
  rw [tlsModeFromVersion, tlsModeFromVersion, normCatalogToken, normCatalogToken, strip_strip]

/-- `DEFAULT_CIPHER_BY_TLS_MODE`. -/
def defaultCipherByTlsMode : TlsMode → String
  | .v13 => "aes-128-gcm"
  | .v12 => "ecdhe-rsa-aes-128-gcm-sha256"

/-! ### Capability documents -/

/-- The parsed `capabilities.json` of one backend. -/
abbrev Capabilities := Dict String Json

/-- `_cipher_suite_map_from_tls_block`. -/
def cipherSuiteMapFromTlsBlock (tlsBlock : Option Json) : Dict String String :=
  match (tlsBlock.bind Json.asDict).bind fun b => (b.get? "cipher_suite").bind Json.asDict with
  | some raw => (raw.filter fun e => e.2.truthy).map fun e => (e.1, e.2.pyStr)
  | none => []

/-- `_capability_token_supported`. -/
def capabilityTokenSupported (block : Dict String Json) (token : String) : Bool :=
  if (block.get? "supported").any Json.isFalse then false
  else
    let key := normCatalogToken token
    let entry := if (block.get? key).isSome then block.get? key else block.get? token
    if (entry.bind Json.asDict).any fun e => (e.get? "supported").any Json.isFalse then false
    else (block.get? key).isSome || (block.get? token).isSome

/-- A supported token is listed, under its own spelling or its normalised one. -/
theorem listed_of_capabilityTokenSupported {block : Dict String Json} {token : String}
    (h : capabilityTokenSupported block token = true) :
    (block.get? (normCatalogToken token)).isSome ∨ (block.get? token).isSome := by
  by_contra hno
  rw [not_or, Option.not_isSome_iff_eq_none, Option.not_isSome_iff_eq_none] at hno
  simp [capabilityTokenSupported, hno.1, hno.2] at h

/-- `sorted(set(l))` on strings, ordered by code points. -/
def sortedSet (l : List String) : List String := l.dedup.insertionSort (· ≤ ·)

@[simp] theorem mem_sortedSet {x : String} {l : List String} : x ∈ sortedSet l ↔ x ∈ l := by
  simp [sortedSet]

@[simp] theorem sortedSet_eq_nil_iff {l : List String} : sortedSet l = [] ↔ l = [] := by
  simp [List.eq_nil_iff_forall_not_mem]

namespace Capabilities

/-- `RUNTIME_DEFAULTS`. -/
def runtimeDefaults : Dict String Json :=
  [("grpc_addr", .null), ("tls_host", .str "127.0.0.1"), ("tls_port", .num 25551),
    ("unsupported_tls_fields", .arr []), ("local_cli", .arr [])]

/-- `runtime().get(key)`: the document's value unless it is absent or `null`. -/
def runtime (caps : Capabilities) (key : String) : Json :=
  let raw := ((caps.get? "runtime").bind Json.asDict).getD []
  match raw.get? key with
  | none => (runtimeDefaults.get? key).getD .null
  | some .null => (runtimeDefaults.get? key).getD .null
  | some v => if (runtimeDefaults.get? key).isSome then v else .null

/-- `runtime().get("unsupported_tls_fields") or ()`, as the items it yields.  A
document that holds a number there, which Python could not iterate, is read as
if it held none. -/
def unsupportedTlsFields (caps : Capabilities) : List Json :=
  let value := caps.runtime "unsupported_tls_fields"
  if value.truthy then value.iterItems.getD [] else []

/-- `cipher_maps`: the TLS 1.3 map and the TLS 1.2 map. -/
def cipherMaps (caps : Capabilities) : Dict String String × Dict String String :=
  (cipherSuiteMapFromTlsBlock (caps.get? "tls13"), cipherSuiteMapFromTlsBlock (caps.get? "tls12"))

/-- The map of one mode: `m13 if mode == "1.3" else m12`. -/
def cipherMap (caps : Capabilities) (mode : TlsMode) : Dict String String :=
  match mode with
  | .v13 => caps.cipherMaps.1
  | .v12 => caps.cipherMaps.2

/-- `cipher_ids`. -/
def cipherIds (caps : Capabilities) (mode : Option TlsMode) : List String :=
  match mode with
  | none => sortedSet (caps.cipherMaps.1.map Prod.fst ++ caps.cipherMaps.2.map Prod.fst)
  | some m => sortedSet (((caps.cipherMap m).map Prod.fst).filter (· ≠ ""))

/-- A cipher id is listed under its own spelling or its normalised one. -/
def listsCipher (m : Dict String String) (catalogId : String) : Bool :=
  (m.get? (normCatalogToken catalogId)).isSome || (m.get? catalogId).isSome

/-- `cipher_modes`. -/
def cipherModes (caps : Capabilities) (catalogId : String) : Finset TlsMode :=
  (if listsCipher caps.cipherMaps.1 catalogId then {.v13} else ∅) ∪
    (if listsCipher caps.cipherMaps.2 catalogId then {.v12} else ∅)

/-- `supports_cipher`. -/
def supportsCipher (caps : Capabilities) (catalogId : String) (mode : TlsMode) : Bool :=
  listsCipher (caps.cipherMap mode) catalogId

/-- `supports_token`. -/
def supportsToken (caps : Capabilities) (dimension token : String) (tlsMode : Option TlsMode) :
    Bool :=
  if dimension = "cipher_suite" then
    match tlsMode with
    | none => caps.cipherModes token ≠ ∅
    | some m => caps.supportsCipher token m
  else match (caps.get? dimension).bind Json.asDict with
    | some block => capabilityTokenSupported block token
    | none => false

/-- `dimension_keys`. -/
def dimensionKeys (caps : Capabilities) (dimension : String) (tlsMode : Option TlsMode) :
    List String :=
  if dimension = "cipher_suite" then caps.cipherIds tlsMode
  else match (caps.get? dimension).bind Json.asDict with
    | none => []
    | some block =>
      if (block.get? "supported").any Json.isFalse then []
      else
        sortedSet ((block.filter fun e =>
          !(["supported", "wired", "description"].contains e.1) &&
            !((e.2.asDict).any fun d => (d.get? "supported").any Json.isFalse)).map Prod.fst)

/-- `feature_block`. -/
def featureBlock (caps : Capabilities) : Dict String Json :=
  ((caps.get? "test_features").bind Json.asDict).getD []

/-- `feature_entry`. -/
def featureEntry (caps : Capabilities) (name : String) : Dict String Json :=
  ((caps.featureBlock.get? name).bind Json.asDict).getD []

theorem mem_cipherModes {caps : Capabilities} {cid : String} {m : TlsMode} :
    m ∈ caps.cipherModes cid ↔ caps.supportsCipher cid m = true := by
  cases m <;> simp only [cipherModes, supportsCipher, cipherMap, Finset.mem_union] <;>
    split <;> split <;> simp_all

end Capabilities

/-! ### The repository -/

/-- What the driver reads from the repository: the root path, the wrapper
directories with their capability documents, and the PEM pairs under `certs/`.
The bytes of a pair are kept because they are sent inside a `TlsConfig`. -/
structure Repo where
  root : String
  wrappers : Dict String Capabilities
  wrappers_named : ∀ e ∈ wrappers, e.1 ≠ ""
  certs : String → Option (List UInt8 × List UInt8)

namespace Repo

/-- `discover_wrapper_ids`: the plugin directories in name order. -/
def discoverWrapperIds (repo : Repo) : List String := sortedSet (repo.wrappers.map Prod.fst)

/-- `load_backend_capabilities`. -/
def loadBackendCapabilities (repo : Repo) (name : String) : Except PyExc Capabilities :=
  let key := lower (strip name)
  match repo.wrappers.get? key with
  | some caps => .ok caps
  | none => .error ⟨.fileNotFoundError, "capabilities.json not found for backend " ++ reprStr key
      ++ ": " ++ repo.root ++ "/wrappers/" ++ key ++ "/capabilities.json"⟩

theorem loadBackendCapabilities_eq_ok_iff {repo : Repo} {name : String} {caps : Capabilities} :
    repo.loadBackendCapabilities name = .ok caps ↔
      repo.wrappers.get? (lower (strip name)) = some caps := by
  unfold loadBackendCapabilities
  dsimp only
  split
  · next c h => rw [h]; simp
  · next h => simp [h]

/-- A backend that loads has a name. -/
theorem ne_empty_of_load {repo : Repo} {name : String} {caps : Capabilities}
    (h : repo.loadBackendCapabilities name = .ok caps) : name ≠ "" := by
  rintro rfl
  rw [loadBackendCapabilities_eq_ok_iff] at h
  exact repo.wrappers_named _ (Dict.mem_of_get? h) rfl

end Repo

end TlsInterop
