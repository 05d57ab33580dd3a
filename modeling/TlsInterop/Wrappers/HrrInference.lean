import TlsInterop.Core.Shipped
import TlsInterop.Wrappers.GnuTLS

/-!
# The retry that GnuTLS does not log

`gnutls-cli` offers one key share and reports the group that was negotiated; the
wrapper infers a HelloRetryRequest when that group is not the first one.  The
group is recognised by its catalog id, a substring of the reported name.

## Main definitions

* `foldName` — a name without its case and its hyphens.
* `NeutralPrefix` — a key-exchange prefix, in which no group is recognised.
* `NamedAsListed` — a group whose reported name is its catalog id.

## Main results

* `recognised_iff` — which group is recognised in a reported name.
* `infer_hrr_iff` — the inference is right exactly when the negotiated group is
  the first one or is named as it is listed.
* `brainpool_retry_missed` — a retry that is not inferred.
-/

namespace TlsInterop.GnuTLS

open Py

/-- A name as the comparison reads it. -/
def foldName (s : String) : String := removeChar '-' (lower s)

/-- The catalog id occurs in the name, compared without case and hyphens. -/
def recognised (id name : String) : Bool := contains (foldName id) (foldName name)

/-- In front of the name of a group, the prefix makes no group recognised, and hides none. -/
def NeutralPrefix (pre : String) : Prop :=
  ∀ e ∈ gnutlsGroups, ∀ e' ∈ gnutlsGroups,
    contains (foldName e.1) (foldName pre ++ foldName e'.2) = recognised e.1 e'.2

instance (pre : String) : Decidable (NeutralPrefix pre) :=
  inferInstanceAs (Decidable (∀ e ∈ gnutlsGroups, _))

/-- The reported name of the group is its catalog id, but for case and hyphens. -/
def NamedAsListed (e : String × String) : Prop := foldName e.1 = foldName e.2

instance (e : String × String) : Decidable (NamedAsListed e) :=
  inferInstanceAs (Decidable (_ = _))

/-- The groups of the catalog with their ids and names, folded. -/
def foldedGroups : List ((String × String) × String × String) :=
  [(("x25519", "X25519"), "x25519", "x25519"), (("x448", "X448"), "x448", "x448"),
    (("secp-256r1", "SECP256R1"), "secp256r1", "secp256r1"),
    (("secp-384r1", "SECP384R1"), "secp384r1", "secp384r1"),
    (("secp-521r1", "SECP521R1"), "secp521r1", "secp521r1"),
    (("brainpool-256r1", "GC256B"), "brainpool256r1", "gc256b"),
    (("brainpool-512r1", "GC512A"), "brainpool512r1", "gc512a"),
    (("ffdhe-2048", "FFDHE2048"), "ffdhe2048", "ffdhe2048"),
    (("ffdhe-3072", "FFDHE3072"), "ffdhe3072", "ffdhe3072"),
    (("ffdhe-4096", "FFDHE4096"), "ffdhe4096", "ffdhe4096"),
    (("ffdhe-6144", "FFDHE6144"), "ffdhe6144", "ffdhe6144"),
    (("ffdhe-8192", "FFDHE8192"), "ffdhe8192", "ffdhe8192")]

theorem map_foldName_groups :
    gnutlsGroups.map (fun e => (e, foldName e.1, foldName e.2)) = foldedGroups := by
  decide

/-- A group of the catalog with its folded names is in the table. -/
theorem mem_foldedGroups {e : String × String} (he : e ∈ gnutlsGroups) :
    (e, foldName e.1, foldName e.2) ∈ foldedGroups := by
  rw [← map_foldName_groups]
  exact List.mem_map_of_mem he

/-- A group is recognised in the name of a group exactly when it is this group
and its name is its id. -/
theorem recognised_iff {e e' : String × String} (he : e ∈ gnutlsGroups) (he' : e' ∈ gnutlsGroups) :
    recognised e.1 e'.2 = true ↔ e = e' ∧ NamedAsListed e := by
  have htable : ∀ p ∈ foldedGroups, ∀ p' ∈ foldedGroups,
      (contains p.2.1 p'.2.2 = true ↔ p.1 = p'.1 ∧ p.2.1 = p.2.2) := by
    decide
  have hrow := htable _ (mem_foldedGroups he) _ (mem_foldedGroups he')
  exact hrow

/-- The prefixes of the key exchanges with a group. -/
theorem neutral_of_keyExchange {pre : String}
    (hpre : pre ∈ ["ECDHE-", "DHE-", "ECDHE-PSK-", "DHE-PSK-"]) : NeutralPrefix pre := by
  have hfold : ∀ pre ∈ ["ECDHE-", "DHE-", "ECDHE-PSK-", "DHE-PSK-"],
      foldName pre ∈ ["ecdhe", "dhe", "ecdhepsk", "dhepsk"] := by
    decide
  have htable : ∀ q ∈ ["ecdhe", "dhe", "ecdhepsk", "dhepsk"], ∀ p ∈ foldedGroups,
      ∀ p' ∈ foldedGroups, contains p.2.1 (q ++ p'.2.2) = contains p.2.1 p'.2.2 := by
    decide
  intro e he e' he'
  have hrow := htable _ (hfold pre hpre) _ (mem_foldedGroups he) _ (mem_foldedGroups he')
  exact hrow

/-! ### The inference -/

/-- The client offers these groups of the catalog, in any case: at least two, with
different names. -/
structure OffersGroups (config : TlsConfig) (es : List (String × String)) : Prop where
  tokens : (repeatedConfigTokens config.supportedGroups).map lower = es.map Prod.fst
  listed : ∀ e ∈ es, e ∈ gnutlsGroups
  named : (es.map Prod.snd).Nodup
  two : 2 ≤ es.length

/-- The description line of the output names the group behind a key exchange. -/
def Reports (text name : String) : Prop :=
  ∃ m pre, descriptionLine.search text = some m ∧ NeutralPrefix pre ∧
    foldName (m 1) = foldName pre ++ foldName name

/-- The ids of the catalog are in lower case. -/
theorem foldName_of_lower {g : String} {e : String × String} (he : e ∈ gnutlsGroups)
    (hg : lower g = e.1) : foldName g = foldName e.1 := by
  have hlower : ∀ e ∈ gnutlsGroups, lower e.1 = e.1 := by decide
  rw [foldName, foldName, hg, hlower e he]

/-- The inference, once the first group and the later ones are known. -/
theorem inferHrr_eq {lastClientCmd text : String} {config : TlsConfig} {m : ℕ → String}
    {first second : String} {rest : List String} (hhrr : config.expectHrr = true)
    (hcmd : contains "--single-key-share" lastClientCmd = true)
    (hm : descriptionLine.search text = some m)
    (htokens : repeatedConfigTokens config.supportedGroups = first :: second :: rest) :
    inferHrrFromNegotiation lastClientCmd config text =
      (!contains (foldName first) (foldName (m 1)) &&
        (second :: rest).any fun g => contains (foldName g) (foldName (m 1))) := by
  have hfold : ∀ s, removeChar '-' (lower s) = foldName s := fun s => rfl
  unfold inferHrrFromNegotiation
  rw [hhrr, hcmd, hm, htokens]
  simp only [Bool.not_true, Bool.or_false, Bool.false_eq_true, if_false, hfold]
  cases contains (foldName first) (foldName (m 1)) with
  | true => rw [if_pos rfl, Bool.not_true, Bool.false_and]
  | false => rw [if_neg Bool.false_ne_true, Bool.not_false, Bool.true_and]

/-- A token is recognised in a reported name exactly when it is the group's own
and the group is named as it is listed. -/
theorem contains_reported_iff {g reported pre : String} {e e' : String × String}
    (he : e ∈ gnutlsGroups) (he' : e' ∈ gnutlsGroups) (hg : lower g = e.1)
    (hpre : NeutralPrefix pre) (hname : foldName reported = foldName pre ++ foldName e'.2) :
    contains (foldName g) (foldName reported) = true ↔ e = e' ∧ NamedAsListed e := by
  rw [foldName_of_lower he hg, hname, hpre e he e' he', recognised_iff he he']

/-- A retry is inferred exactly for a later group that is named as it is listed. -/
theorem infer_eq_true_iff {lastClientCmd text : String} {config : TlsConfig}
    {es : List (String × String)} {i : ℕ} {e : String × String} (hhrr : config.expectHrr = true)
    (hcmd : contains "--single-key-share" lastClientCmd = true) (hoffers : OffersGroups config es)
    (hi : es[i]? = some e) (hreports : Reports text e.2) :
    inferHrrFromNegotiation lastClientCmd config text = true ↔ i ≠ 0 ∧ NamedAsListed e := by
  obtain ⟨m, pre, hm, hpre, hname⟩ := hreports
  obtain ⟨htokens, hlisted, hnamed, htwo⟩ := hoffers
  have he : e ∈ gnutlsGroups := hlisted e (List.mem_of_getElem? hi)
  -- there are at least two groups
  obtain ⟨e₀, e₁, es', rfl⟩ : ∃ e₀ e₁ es', es = e₀ :: e₁ :: es' := by
    match es, htwo with
    | e₀ :: e₁ :: es', _ => exact ⟨e₀, e₁, es', rfl⟩
  obtain ⟨first, tail, hcons, hfirst, htail⟩ := List.map_eq_cons_iff.mp htokens
  obtain ⟨second, rest, hcons', hsecond, hrest⟩ := List.map_eq_cons_iff.mp htail
  rw [hcons'] at hcons
  -- the later tokens are the ids of the later entries
  have hlater : ((second :: rest).any fun g => contains (foldName g) (foldName (m 1))) = true ↔
      e ∈ e₁ :: es' ∧ NamedAsListed e := by
    rw [List.any_eq_true]
    constructor
    · rintro ⟨g, hg, hin⟩
      have hmem : lower g ∈ (e₁ :: es').map Prod.fst := by
        rw [← htail, hcons']
        exact List.mem_map_of_mem hg
      obtain ⟨e', he', hid⟩ := List.mem_map.mp hmem
      have hsame := (contains_reported_iff (hlisted e' (List.mem_cons_of_mem e₀ he')) he hid.symm
        hpre hname).mp hin
      exact ⟨hsame.1 ▸ he', hsame.1 ▸ hsame.2⟩
    · rintro ⟨hmem, hsame⟩
      have hid : e.1 ∈ (second :: rest).map lower := by
        rw [← hcons', htail]
        exact List.mem_map_of_mem hmem
      obtain ⟨g, hg, hlow⟩ := List.mem_map.mp hid
      exact ⟨g, hg, (contains_reported_iff he he hlow hpre hname).mpr ⟨rfl, hsame⟩⟩
  -- the first token is looked for by itself
  have hhead : contains (foldName first) (foldName (m 1)) = true ↔ e₀ = e ∧ NamedAsListed e₀ :=
    contains_reported_iff (hlisted e₀ List.mem_cons_self) he hfirst hpre hname
  rw [inferHrr_eq hhrr hcmd hm hcons, Bool.and_eq_true, Bool.not_eq_true', ← Bool.not_eq_true,
    hlater, hhead]
  -- an entry of the list occurs in one place only
  have hdistinct : e₀ ∉ e₁ :: es' := by
    intro hmem
    have hnot := (List.nodup_cons.mp hnamed).1
    exact hnot (List.mem_map_of_mem hmem)
  cases i with
  | zero =>
    have hzero : e₀ = e := Option.some.inj hi
    subst hzero
    simp [hdistinct]
  | succ i =>
    have hmem : e ∈ e₁ :: es' := List.mem_of_getElem? hi
    have hne : e₀ ≠ e := fun h => hdistinct (h ▸ hmem)
    simp [hne, hmem]

/-- **The inferred retry is right** exactly when the negotiated group is the first
one or is named as it is listed.  A group is recognised by its catalog id in the reported
name, but for case and hyphens; two groups of the catalog are reported under names that do
not contain their ids. -/
theorem infer_hrr_iff {lastClientCmd text : String} {config : TlsConfig}
    {es : List (String × String)} {i : ℕ} {e : String × String} (hhrr : config.expectHrr = true)
    (hcmd : contains "--single-key-share" lastClientCmd = true) (hoffers : OffersGroups config es)
    (hi : es[i]? = some e) (hreports : Reports text e.2) :
    (inferHrrFromNegotiation lastClientCmd config text = true ↔ i ≠ 0) ↔
      (i = 0 ∨ NamedAsListed e) := by
  rw [infer_eq_true_iff hhrr hcmd hoffers hi hreports]
  by_cases hzero : i = 0 <;> simp [hzero]

/-! ### Two sessions -/

/-- A client that expects a retry, offering X25519 and one more group. -/
def retryConfig (second : String) : TlsConfig :=
  { version := "1.3", port := 5555, supportedGroups := ["x25519", second], expectHrr := true }

/-- The command of such a client. -/
def retryCommand : String := "gnutls-cli -p 5555 --single-key-share localhost"

/-- The session of an elliptic-curve group, as `gnutls-cli` describes it. -/
def description (name : String) : String :=
  "- Description: (TLS1.3)-(ECDHE-" ++ name ++ ")-(RSA-PSS-RSAE-SHA256)-(AES-256-GCM)"

/-- What the wrapper reads off the two descriptions. -/
theorem search_description : ∀ name ∈ ["X448", "GC256B"],
    (descriptionLine.search (description name)).map (fun m => m 1) = some ("ECDHE-" ++ name) ∧
      foldName ("ECDHE-" ++ name) = foldName "ECDHE-" ++ foldName name := by
  decide +kernel

theorem reports_description {name : String} (hname : name ∈ ["X448", "GC256B"]) :
    Reports (description name) name := by
  obtain ⟨hsearch, hfold⟩ := search_description name hname
  obtain ⟨m, hm, hgroup⟩ := Option.map_eq_some_iff.mp hsearch
  refine ⟨m, "ECDHE-", hm, neutral_of_keyExchange (by decide), ?_⟩
  rw [hgroup, hfold]

theorem offers_x448 : OffersGroups (retryConfig "X448") [("x25519", "X25519"), ("x448", "X448")] where
  tokens := by decide
  listed := by decide
  named := by decide
  two := by decide

theorem offers_brainpool : OffersGroups (retryConfig "brainpool-256r1")
    [("x25519", "X25519"), ("brainpool-256r1", "GC256B")] where
  tokens := by decide
  listed := by decide
  named := by decide
  two := by decide

theorem retryCommand_single : contains "--single-key-share" retryCommand = true := by decide

theorem reports_x448 : Reports (description "X448") "X448" :=
  reports_description List.mem_cons_self

theorem reports_brainpool : Reports (description "GC256B") "GC256B" :=
  reports_description (List.mem_cons_of_mem _ List.mem_cons_self)

/-- A retry to X448 is inferred. -/
theorem x448_retry_inferred :
    inferHrrFromNegotiation retryCommand (retryConfig "X448") (description "X448") = true := by
  have hhrr : (retryConfig "X448").expectHrr = true := rfl
  have hi : [("x25519", "X25519"), ("x448", "X448")][1]? = some ("x448", "X448") := rfl
  have hnamed : NamedAsListed ("x448", "X448") := by decide +kernel
  have hiff := infer_hrr_iff hhrr retryCommand_single offers_x448 hi reports_x448
  exact (hiff.mpr (.inr hnamed)).mpr one_ne_zero

/-- A retry to the first Brainpool curve, which GnuTLS reports as `GC256B`, is not. -/
theorem brainpool_retry_missed :
    OffersGroups (retryConfig "brainpool-256r1")
        [("x25519", "X25519"), ("brainpool-256r1", "GC256B")] ∧
      contains "--single-key-share" retryCommand = true ∧
      Reports (description "GC256B") "GC256B" ∧
      inferHrrFromNegotiation retryCommand (retryConfig "brainpool-256r1") (description "GC256B")
        = false := by
  refine ⟨offers_brainpool, retryCommand_single, reports_brainpool, ?_⟩
  have hhrr : (retryConfig "brainpool-256r1").expectHrr = true := rfl
  have hi : [("x25519", "X25519"), ("brainpool-256r1", "GC256B")][1]?
      = some ("brainpool-256r1", "GC256B") := rfl
  have hnamed : ¬ NamedAsListed ("brainpool-256r1", "GC256B") := by decide
  have hiff := infer_eq_true_iff hhrr retryCommand_single offers_brainpool hi reports_brainpool
  rw [← Bool.not_eq_true, hiff]
  exact fun h => hnamed h.2

end TlsInterop.GnuTLS
