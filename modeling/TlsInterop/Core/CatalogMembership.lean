import TlsInterop.Backends.Translation

/-!
# Offered values and accepted values

A backend's document is read twice: `dimension_keys` enumerates what it offers
and `supports_token` answers for one token.  Only the enumeration skips the
metadata entries of a block, and the empty id of a cipher map.

## Main definitions

* `Capabilities.FixedKeys` — a document whose catalog keys are normalised.
* `Capabilities.Unlisted` — the tokens the two readings treat differently.

## Main results

* `supports_iff_offered_iff` — a token is accepted exactly when it is offered,
  unless it is one of these.
* `enabledAlpn_accepts_metadata` — a document whose check accepts `supported`.
-/

namespace TlsInterop

open Py

/-- The entries of a block that describe it: `meta_keys`. -/
def metaKeys : List String := ["supported", "wired", "description"]

/-- The dimensions besides `cipher_suite`: one block of the document each. -/
def blockDimensions : List String := ["supported_groups", "signature_schemes", "alpn_protocols"]

/-- The entry is an object with `"supported": false`. -/
def switchedOff (entry : Json) : Bool :=
  entry.asDict.any fun d => (d.get? "supported").any Json.isFalse

namespace Capabilities

variable {caps : Capabilities} {dim token : String}

/-- A document whose catalog keys are fixed points of `norm_catalog_token`.  An
object read from JSON has each key once. -/
structure FixedKeys (caps : Capabilities) : Prop where
  cipher : ∀ m, ∀ e ∈ caps.cipherMap m, normCatalogToken e.1 = e.1
  keys : ∀ dim ∈ blockDimensions, ∀ b ∈ caps.block dim, ∀ e ∈ b, normCatalogToken e.1 = e.1
  unique : ∀ dim ∈ blockDimensions, ∀ b ∈ caps.block dim, (b.map Prod.fst).Nodup

/-- A token that membership knows and the enumeration skips: the name of a
metadata entry of an enabled block, or the empty id of the map of a mode. -/
def Unlisted (caps : Capabilities) (dim token : String) (tlsMode : Option TlsMode) : Prop :=
  if dim = "cipher_suite" then
    ∃ m ∈ tlsMode, normCatalogToken token = "" ∧ "" ∈ (caps.cipherMap m).map Prod.fst
  else
    ∃ b ∈ caps.block dim, (b.get? "supported").any Json.isFalse = false ∧
      normCatalogToken token ∈ metaKeys ∧
      ∃ entry ∈ b.get? (normCatalogToken token), switchedOff entry = false

/-! ### Raw and normalised lookups -/

/-- With fixed keys the raw spelling finds nothing that the normalised one misses. -/
theorem isSome_of_fixed {ν : Type} {d : Dict String ν}
    (hfixed : ∀ e ∈ d, normCatalogToken e.1 = e.1) (h : (d.get? token).isSome) :
    normCatalogToken token = token := by
  obtain ⟨v, hv⟩ := Option.isSome_iff_exists.mp h
  exact hfixed (token, v) (Dict.mem_of_get? hv)

theorem isSome_or_isSome_iff {ν : Type} {d : Dict String ν}
    (hfixed : ∀ e ∈ d, normCatalogToken e.1 = e.1) :
    ((d.get? (normCatalogToken token)).isSome || (d.get? token).isSome) = true ↔
      normCatalogToken token ∈ d.map Prod.fst := by
  rw [Bool.or_eq_true, ← Dict.get?_isSome_iff]
  constructor
  · rintro (h | h)
    · exact h
    · rw [isSome_of_fixed hfixed h]
      exact h
  · exact Or.inl

/-! ### The ciphers -/

theorem supportsCipher_iff (h : caps.FixedKeys) {m : TlsMode} :
    caps.supportsCipher token m = true ↔
      normCatalogToken token ∈ (caps.cipherMap m).map Prod.fst :=
  isSome_or_isSome_iff (h.cipher m)

theorem supports_iff_offered_cipher (h : caps.FixedKeys) (tlsMode : Option TlsMode) :
    (caps.supportsToken "cipher_suite" token tlsMode = true ↔
        normCatalogToken token ∈ caps.dimensionKeys "cipher_suite" tlsMode) ↔
      ¬ caps.Unlisted "cipher_suite" token tlsMode := by
  unfold supportsToken
  rw [if_pos rfl, dimensionKeys, if_pos rfl, Unlisted, if_pos rfl]
  unfold cipherIds
  cases tlsMode with
  | none =>
    -- both maps, with the empty id
    have hmodes : caps.cipherModes token ≠ ∅ ↔
        normCatalogToken token ∈ (caps.cipherMap .v13).map Prod.fst ∨
          normCatalogToken token ∈ (caps.cipherMap .v12).map Prod.fst := by
      rw [← Finset.nonempty_iff_ne_empty, ← supportsCipher_iff h, ← supportsCipher_iff h]
      constructor
      · rintro ⟨m, hm⟩
        rw [mem_cipherModes] at hm
        cases m with
        | v12 => exact .inr hm
        | v13 => exact .inl hm
      · rintro (hm | hm)
        · exact ⟨.v13, mem_cipherModes.mpr hm⟩
        · exact ⟨.v12, mem_cipherModes.mpr hm⟩
    dsimp only
    rw [decide_eq_true_iff, hmodes, mem_sortedSet, List.mem_append]
    simp [cipherMap]
  | some m =>
    dsimp only
    rw [supportsCipher_iff h, mem_sortedSet, List.mem_filter]
    by_cases hempty : normCatalogToken token = ""
    · rw [hempty]
      simp
    · simp [hempty]

/-! ### The blocks -/

/-- A token of an enabled block is accepted when its entry is not switched off. -/
theorem capabilityTokenSupported_iff {block : Dict String Json}
    (hfixed : ∀ e ∈ block, normCatalogToken e.1 = e.1) :
    capabilityTokenSupported block token = true ↔
      (block.get? "supported").any Json.isFalse = false ∧
        ∃ entry ∈ block.get? (normCatalogToken token), switchedOff entry = false := by
  unfold capabilityTokenSupported switchedOff
  dsimp only
  by_cases hoff : (block.get? "supported").any Json.isFalse = true
  · rw [if_pos hoff, hoff]
    simp
  · rw [if_neg hoff]
    rw [Bool.not_eq_true] at hoff
    cases hkey : block.get? (normCatalogToken token) with
    | some entry => simp [hoff]
    | none =>
      have hraw : block.get? token = none := by
        rw [← Option.not_isSome_iff_eq_none]
        intro hsome
        rw [isSome_of_fixed hfixed hsome] at hkey
        rw [hkey] at hsome
        cases hsome
      simp [hraw]

/-- A token of an enabled block is offered when moreover it is no metadata entry. -/
theorem mem_blockKeys_iff {block : Dict String Json} (hnodup : (block.map Prod.fst).Nodup)
    (key : String) :
    key ∈ (block.filter fun e => !(metaKeys.contains e.1) && !switchedOff e.2).map Prod.fst ↔
      key ∉ metaKeys ∧ ∃ entry ∈ block.get? key, switchedOff entry = false := by
  rw [List.mem_map]
  constructor
  · rintro ⟨e, he, rfl⟩
    obtain ⟨hmem, hkeep⟩ := List.mem_filter.mp he
    rw [Bool.and_eq_true, Bool.not_eq_true', Bool.not_eq_true', List.contains_eq_mem,
      decide_eq_false_iff_not] at hkeep
    exact ⟨hkeep.1, e.2, (Dict.get?_eq_some_iff_mem hnodup).mpr hmem, hkeep.2⟩
  · rintro ⟨hmeta, entry, hentry, hon⟩
    refine ⟨(key, entry), List.mem_filter.mpr ⟨Dict.mem_of_get? hentry, ?_⟩, rfl⟩
    simp [hmeta, hon]

theorem supports_iff_offered_block (h : caps.FixedKeys) (hdim : dim ∈ blockDimensions)
    (tlsMode : Option TlsMode) :
    (caps.supportsToken dim token tlsMode = true ↔
        normCatalogToken token ∈ caps.dimensionKeys dim tlsMode) ↔
      ¬ caps.Unlisted dim token tlsMode := by
  have hne : dim ≠ "cipher_suite" := by
    rintro rfl
    exact absurd hdim (by decide)
  unfold supportsToken
  rw [if_neg hne, dimensionKeys, if_neg hne, Unlisted, if_neg hne]
  cases hblock : (caps.get? dim).bind Json.asDict with
  | none => simp [block, hblock]
  | some b =>
    have hb : caps.block dim = some b := hblock
    have hkeys := mem_blockKeys_iff (h.unique dim hdim b hb) (normCatalogToken token)
    dsimp only
    rw [capabilityTokenSupported_iff (h.keys dim hdim b hb), hb]
    by_cases hoff : (b.get? "supported").any Json.isFalse = true
    · -- the whole block is switched off
      simp [hoff]
    · rw [if_neg hoff, mem_sortedSet]
      rw [Bool.not_eq_true] at hoff
      unfold metaKeys switchedOff at hkeys
      rw [hkeys]
      by_cases hmeta : normCatalogToken token ∈ ["supported", "wired", "description"]
      · simp [hoff, hmeta, metaKeys, switchedOff]
      · simp [hoff, hmeta, metaKeys, switchedOff]

end Capabilities

/-- **A token is accepted exactly when it is offered**, unless membership knows
it and the enumeration skips it.  Membership looks a token up, the enumeration walks the
keys and leaves out those of the metadata. -/
theorem supports_iff_offered_iff {caps : Capabilities} (h : caps.FixedKeys) {dim : String}
    (hdim : dim = "cipher_suite" ∨ dim ∈ blockDimensions) (token : String)
    (tlsMode : Option TlsMode) :
    (caps.supportsToken dim token tlsMode = true ↔
        normCatalogToken token ∈ caps.dimensionKeys dim tlsMode) ↔
      ¬ caps.Unlisted dim token tlsMode := by
  rcases hdim with hcipher | hblock
  · rw [hcipher]
    exact Capabilities.supports_iff_offered_cipher h tlsMode
  · exact Capabilities.supports_iff_offered_block h hblock tlsMode

/-! ### A document with a switch on its block -/

/-- An ALPN block that says itself that it is supported, as the blocks of the
test features do, and as the block of NSS does with `false`. -/
def enabledAlpn : Capabilities :=
  [("alpn_protocols", .obj [("supported", .bool true),
    ("h2", .obj [("supported", .bool true), ("description", .str "HTTP/2 over TLS")])])]

/-- Its only block has two keys. -/
theorem enabledAlpn_keys {dim : String} (hdim : dim ∈ blockDimensions) {b : Dict String Json}
    (hb : enabledAlpn.block dim = some b) : b.map Prod.fst = ["supported", "h2"] := by
  have hkeys : ∀ dim ∈ blockDimensions, (enabledAlpn.block dim).all
      (fun b => b.map Prod.fst = ["supported", "h2"]) = true := by
    decide
  have hall := hkeys dim hdim
  rw [hb, Option.all_some, decide_eq_true_iff] at hall
  exact hall

theorem enabledAlpn_fixedKeys : enabledAlpn.FixedKeys where
  cipher := by
    intro m e he
    cases m <;> cases he
  keys := by
    intro dim hdim b hb e he
    have hmem : e.1 ∈ b.map Prod.fst := List.mem_map_of_mem he
    rw [enabledAlpn_keys hdim hb] at hmem
    have hfixed : ∀ key ∈ ["supported", "h2"], normCatalogToken key = key := by decide
    exact hfixed e.1 hmem
  unique := by
    intro dim hdim b hb
    rw [enabledAlpn_keys hdim hb]
    decide

/-- A protocol of the block is accepted, and offered. -/
theorem enabledAlpn_offers_h2 :
    enabledAlpn.supportsToken "alpn_protocols" "H2" none = true ↔
      normCatalogToken "H2" ∈ enabledAlpn.dimensionKeys "alpn_protocols" none := by
  refine (supports_iff_offered_iff enabledAlpn_fixedKeys (.inr (by decide)) "H2" none).mpr ?_
  rw [Capabilities.Unlisted, if_neg (by decide)]
  rintro ⟨b, -, -, hmeta, -⟩
  revert hmeta
  decide

/-- The check accepts the word `supported`, which the document does not offer. -/
theorem enabledAlpn_accepts_metadata :
    enabledAlpn.FixedKeys ∧
      enabledAlpn.supportsToken "alpn_protocols" "supported" none = true ∧
      normCatalogToken "supported" ∉ enabledAlpn.dimensionKeys "alpn_protocols" none :=
  ⟨enabledAlpn_fixedKeys, by decide, by decide⟩

end TlsInterop
