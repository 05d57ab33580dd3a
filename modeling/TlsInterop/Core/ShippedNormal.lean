import TlsInterop.Backends.Translation
import TlsInterop.Core.Shipped

/-!
# The shipped documents are normal

Every cipher id, group and signature scheme of the three shipped documents is
written in normal form and has a name at the backend, and their PSK secrets have
the lengths the ciphers ask for.

## Main results

* `opensslCapabilities_normal`, `gnutlsCapabilities_normal`, `nssCapabilities_normal`.
-/

namespace TlsInterop

open Py

/-- Every key of a table is in normal form and every value is non-empty. -/
def isNormalTable (t : Dict String String) : Bool :=
  t.all fun e => isFoldedText e.1 && e.2 != ""

theorem mem_of_mem_cipherSuiteMap {t : Dict String String} {e : String × String}
    (h : e ∈ cipherSuiteMapFromTlsBlock (some (.obj [("cipher_suite", strTable t)]))) : e ∈ t := by
  change e ∈ ((t.map fun e => (e.1, Json.str e.2)).filter fun e => e.2.truthy).map
    fun e => (e.1, e.2.pyStr) at h
  obtain ⟨e', he', rfl⟩ := List.mem_map.mp h
  obtain ⟨d, hd, rfl⟩ := List.mem_map.mp (List.mem_filter.mp he').1
  exact hd

theorem normal_of_mem {t : Dict String String} (ht : isNormalTable t = true) {e : String × String}
    (he : e ∈ t) : normCatalogToken e.1 = e.1 ∧ e.2 ≠ "" := by
  have h := List.all_eq_true.mp ht e he
  rw [Bool.and_eq_true] at h
  exact ⟨normCatalogToken_of_isFoldedText h.1, by simpa using h.2⟩

theorem cipherSuiteMap_normal (t : Dict String String) (ht : isNormalTable t = true) :
    ∀ e ∈ cipherSuiteMapFromTlsBlock (some (.obj [("cipher_suite", strTable t)])),
      normCatalogToken e.1 = e.1 :=
  fun _ he => (normal_of_mem ht (mem_of_mem_cipherSuiteMap he)).1

theorem strTable_normal (t : Dict String String) (ht : isNormalTable t = true) :
    ∃ block, (strTable t).asDict = some block ∧
      ∀ e ∈ block, normCatalogToken e.1 = e.1 ∧ e.2.truthy = true := by
  refine ⟨_, rfl, fun e he => ?_⟩
  obtain ⟨d, hd, rfl⟩ := List.mem_map.mp he
  obtain ⟨hnorm, hne⟩ := normal_of_mem ht hd
  exact ⟨hnorm, by simpa [Json.truthy] using hne⟩

/-! ### PSK material -/

theorem pskKeyBitsForCipher_cases (cid : String) :
    pskKeyBitsForCipher cid = 256 ∨ pskKeyBitsForCipher cid = 128 := by
  unfold pskKeyBitsForCipher
  dsimp only
  split
  · exact .inl rfl
  · split
    · exact .inl rfl
    · exact .inr rfl

/-- Secrets of both lengths are material for every cipher. -/
theorem pskMaterial_isSome {caps : Capabilities} {s128 s256 : String}
    (h128 : Capabilities.entryText (caps.featureEntry "psk") "secret_hex_128" = s128)
    (h256 : Capabilities.entryText (caps.featureEntry "psk") "secret_hex_256" = s256)
    (hs128 : s128 ≠ "" ∧ (strip s128).length = 32) (hs256 : s256 ≠ "" ∧ (strip s256).length = 64)
    (cid : String) : (caps.pskMaterial cid).isSome := by
  have hne : ∀ s : String, ∀ n, 0 < n → (strip s).length = n → strip s ≠ "" := by
    rintro s n hn hlen he
    rw [he, String.length_empty] at hlen
    omega
  unfold Capabilities.pskMaterial Capabilities.pskSecretHex
  rw [Option.isSome_map]
  dsimp only
  rcases pskKeyBitsForCipher_cases cid with hbits | hbits <;> rw [hbits]
  · simp [h256, hs256.1, hs256.2, hne s256 64 (by omega) hs256.2]
  · simp [h128, hs128.1, hs128.2, hne s128 32 (by omega) hs128.2]

/-! ### The three documents -/

theorem opensslCapabilities_normal : opensslCapabilities.CatalogNormal where
  cipher m := by
    cases m with
    | v12 => exact cipherSuiteMap_normal opensslTls12Ciphers (by decide)
    | v13 => exact cipherSuiteMap_normal opensslTls13Ciphers (by decide)
  dimension dim hdim := by
    simp only [tls13OrthogonalDims, List.mem_cons, List.not_mem_nil, or_false] at hdim
    rcases hdim with rfl | rfl
    · exact strTable_normal opensslGroups (by decide)
    · exact strTable_normal opensslSchemes (by decide)
  psk := pskMaterial_isSome rfl rfl (by decide) (by decide)

theorem gnutlsCapabilities_normal : gnutlsCapabilities.CatalogNormal where
  cipher m := by
    cases m with
    | v12 => exact cipherSuiteMap_normal gnutlsTls12Ciphers (by decide)
    | v13 => exact cipherSuiteMap_normal gnutlsTls13Ciphers (by decide)
  dimension dim hdim := by
    simp only [tls13OrthogonalDims, List.mem_cons, List.not_mem_nil, or_false] at hdim
    rcases hdim with rfl | rfl
    · exact strTable_normal gnutlsGroups (by decide)
    · exact strTable_normal gnutlsSchemes (by decide)
  psk := pskMaterial_isSome rfl rfl (by decide) (by decide)

theorem nssCapabilities_normal : nssCapabilities.CatalogNormal where
  cipher m := by
    cases m with
    | v12 => exact cipherSuiteMap_normal nssTls12Ciphers (by decide)
    | v13 => exact cipherSuiteMap_normal nssTls13Ciphers (by decide)
  dimension dim hdim := by
    simp only [tls13OrthogonalDims, List.mem_cons, List.not_mem_nil, or_false] at hdim
    rcases hdim with rfl | rfl
    · exact strTable_normal nssGroups (by decide)
    · exact strTable_normal nssSchemes (by decide)
  psk := pskMaterial_isSome rfl rfl (by decide) (by decide)

end TlsInterop
