import TlsInterop.Core.Features
import TlsInterop.Core.Identity

/-!
# The certificate and the authentication kind of a signature scheme

A scheme token is classified twice: by the rules of `core/identity.py`, which
choose a certificate, and by `signature_scheme_auth_kind`, which the TLS 1.2
check reads.  The rules look for a substring of the dashed token, the kind for
one of the token without its separators.

## Main definitions

* `SchemeToken` — a family followed by separated words.
* `CertAgreesWithKind` — what the two classifications owe each other.
* `SchemeToken.Settled` — the tokens for which they keep it.

## Main results

* `hasBlock_dashed` — where a word occurs in a token.
* `cert_agrees_with_kind_iff` — the classifications agree exactly on the settled
  tokens.
* `mldsa44_cert_disagrees` — a post-quantum token gets the DSA certificate.
-/

namespace TlsInterop

open Py

/-- The families of signature schemes. -/
inductive SchemeFamily
  | rsa
  | ecdsa
  | dsa
  | ed25519
  | ed448
  | postQuantum (name : List Char)

namespace SchemeFamily

/-- The word a token of the family starts with. -/
def word : SchemeFamily → List Char
  | rsa => "rsa".toList
  | ecdsa => "ecdsa".toList
  | dsa => "dsa".toList
  | ed25519 => "ed25519".toList
  | ed448 => "ed448".toList
  | postQuantum name => name

/-- The names that no further word of a token of the family contains.  The
catalogs have `rsae` after `rsa`, and curves after `ecdsa`. -/
def foreign : SchemeFamily → List (List Char)
  | rsa => ["ecdsa", "dsa", "ed25519", "ed448", "dss", "secp384", "secp521"].map String.toList
  | ecdsa => ["rsa", "ecdsa", "dsa", "ed25519", "ed448", "dss"].map String.toList
  | _ =>
    ["rsa", "ecdsa", "dsa", "ed25519", "ed448", "dss", "secp384", "secp521"].map String.toList

end SchemeFamily

/-- A character of a word: no separator, and no blank. -/
def isWordChar (c : Char) : Bool := c != '-' && c != '_' && c != ' '

/-- A signature-scheme token in lower case: a family, then separated words. -/
structure SchemeToken where
  family : SchemeFamily
  words : List (Char × List Char)
  separated : ∀ w ∈ words, w.1 = '-' ∨ w.1 = '_'
  plain : ∀ w ∈ words, ∀ c ∈ w.2, isWordChar c = true
  plain_family : ∀ c ∈ family.word, isWordChar c = true
  pure : ∀ w ∈ words, ∀ n ∈ family.foreign, hasBlock n w.2 = false
  /-- A post-quantum name contains no classical one but `dsa`, which it does not start with. -/
  named : ∀ name, family = .postQuantum name →
    (∀ n ∈ ["rsa", "ecdsa", "ed25519", "ed448", "secp384", "secp521"],
      hasBlock n.toList name = false) ∧ "dsa".toList.isPrefixOf name = false

namespace SchemeToken

variable (t : SchemeToken)

/-- The characters of the token. -/
def text : List Char := t.family.word ++ t.words.flatMap fun w => w.1 :: w.2

/-- The token with `-` for every separator, as the certificate rules read it. -/
def dashed : List Char := t.family.word ++ t.words.flatMap fun w => '-' :: w.2

/-- The token without separators, as the kind reads it. -/
def joined : List Char := t.family.word ++ t.words.flatMap Prod.snd

/-- A word without dashes occurs in the dashed token where it occurs in one of
its words. -/
theorem hasBlock_dashed {n : List Char} (hn : '-' ∉ n) :
    hasBlock n t.dashed = (hasBlock n t.family.word || t.words.any fun w => hasBlock n w.2) := by
  unfold dashed
  generalize t.family.word = first
  generalize t.words = words
  induction words generalizing first with
  | nil => simp
  | cons w words ih =>
    have hsplit : hasBlock n (first ++ '-' :: (w.2 ++ words.flatMap fun w => '-' :: w.2))
        = (hasBlock n first || hasBlock n (w.2 ++ words.flatMap fun w => '-' :: w.2)) := by
      rw [Bool.eq_iff_iff, Bool.or_eq_true]
      simp only [hasBlock_iff]
      exact infix_append_cons_iff hn
    rw [List.flatMap_cons, List.cons_append, hsplit, ih w.2, List.any_cons]

/-- A foreign name occurs in the dashed token only where the family has it. -/
theorem hasBlock_dashed_of_foreign {n : List Char} (hmem : n ∈ t.family.foreign) (hn : '-' ∉ n) :
    hasBlock n t.dashed = hasBlock n t.family.word := by
  have hwords : (t.words.any fun w => hasBlock n w.2) = false := by
    rw [List.any_eq_false]
    intro w hw
    rw [t.pure w hw n hmem]
    exact Bool.false_ne_true
  rw [t.hasBlock_dashed hn, hwords, Bool.or_false]

/-! ### The token under the two normalisations -/

/-- Characters that are kept by a filter and by a map. -/
theorem map_filter_of_forall {keep : Char → Bool} {f : Char → Char} {l : List Char}
    (h : ∀ c ∈ l, keep c = true ∧ f c = c) : (l.filter keep).map f = l := by
  have hfilter : l.filter keep = l := List.filter_eq_self.mpr fun c hc => (h c hc).1
  have hmap : l.map f = l.map id := List.map_congr_left fun c hc => (h c hc).2
  rw [hfilter, hmap, List.map_id]

/-- Dropping blanks and dashing underscores gives the dashed token. -/
theorem dashed_of_text :
    (t.text.filter (· ≠ ' ')).map (fun x => if x = '_' then '-' else x) = t.dashed := by
  have hplain : ∀ l : List Char, (∀ c ∈ l, isWordChar c = true) →
      (l.filter (· ≠ ' ')).map (fun x => if x = '_' then '-' else x) = l := by
    intro l hl
    apply map_filter_of_forall
    intro c hc
    have hword := hl c hc
    simp only [isWordChar, Bool.and_eq_true, bne_iff_ne] at hword
    simp [hword]
  rw [text, dashed, List.filter_append, List.map_append, hplain _ t.plain_family]
  congr 1
  have hwords := t.plain
  have hseps := t.separated
  generalize t.words = words at hwords hseps
  induction words with
  | nil => rfl
  | cons w words ih =>
    have hsep : w.1 = '-' ∨ w.1 = '_' := hseps w List.mem_cons_self
    have hfirst := hplain w.2 (hwords w List.mem_cons_self)
    have hrest := ih (fun x hx => hwords x (List.mem_cons_of_mem w hx))
      (fun x hx => hseps x (List.mem_cons_of_mem w hx))
    rw [List.flatMap_cons, List.flatMap_cons, List.filter_append, List.map_append, hrest]
    congr 1
    rcases hsep with hsep | hsep <;> simpa [hsep] using hfirst

/-- Dropping the separators gives the joined token. -/
theorem joined_of_text : (t.text.filter (· ≠ '_')).filter (· ≠ '-') = t.joined := by
  have hplain : ∀ l : List Char, (∀ c ∈ l, isWordChar c = true) →
      (l.filter (· ≠ '_')).filter (· ≠ '-') = l := by
    intro l hl
    rw [List.filter_filter, List.filter_eq_self]
    intro c hc
    have hword := hl c hc
    simp only [isWordChar, Bool.and_eq_true, bne_iff_ne] at hword
    simp [hword]
  rw [text, joined, List.filter_append, List.filter_append, hplain _ t.plain_family]
  congr 1
  have hwords := t.plain
  have hseps := t.separated
  generalize t.words = words at hwords hseps
  induction words with
  | nil => rfl
  | cons w words ih =>
    have hsep : w.1 = '-' ∨ w.1 = '_' := hseps w List.mem_cons_self
    have hfirst := hplain w.2 (hwords w List.mem_cons_self)
    have hrest := ih (fun x hx => hwords x (List.mem_cons_of_mem w hx))
      (fun x hx => hseps x (List.mem_cons_of_mem w hx))
    rw [List.flatMap_cons, List.flatMap_cons, List.filter_append, List.filter_append, hrest]
    congr 1
    rcases hsep with hsep | hsep <;> simpa [hsep] using hfirst

/-- The prefix the rules give a dashed token. -/
def prefixOfDashed (l : List Char) : String :=
  ((schemePrefixRules.find? fun r => hasBlock r.1.toList l).map Prod.snd).getD defaultPrefix

/-- The kind of a joined token. -/
def kindOfJoined (l : List Char) : AuthKind :=
  if "dsa".toList.isPrefixOf l then .dsa
  else if hasBlock "rsa".toList l then .rsa
  else if hasBlock "ecdsa".toList l then .ecdsa
  else if ["ed25519", "ed448", "eddsa"].any fun p => p.toList.isPrefixOf l then .eddsa
  else .unknown

variable {t} {token : String}

theorem getCertPrefix_eq (h : (lower (strip token)).toList = t.text) :
    getCertPrefixForScheme token = prefixOfDashed t.dashed := by
  have htok : (replaceChar '_' '-' (removeChar ' ' (lower (strip token)))).toList = t.dashed := by
    rw [replaceChar, removeChar, String.toList_ofList, String.toList_ofList, h]
    exact t.dashed_of_text
  unfold getCertPrefixForScheme prefixOfDashed contains
  dsimp only
  generalize replaceChar '_' '-' (removeChar ' ' (lower (strip token))) = tok at htok
  rw [htok]
  by_cases hempty : tok = ""
  · have hnil : t.dashed = [] := by
      rw [← htok, hempty]
      rfl
    rw [if_pos hempty, hnil]
    rfl
  · rw [if_neg hempty]
    cases schemePrefixRules.find? fun r => hasBlock r.1.toList t.dashed <;> rfl

theorem signatureSchemeAuthKind_eq (h : (lower (strip token)).toList = t.text) :
    signatureSchemeAuthKind token = kindOfJoined t.joined := by
  have htok : (removeChar '-' (removeChar '_' (lower (strip token)))).toList = t.joined := by
    rw [removeChar, removeChar, String.toList_ofList, String.toList_ofList, h]
    exact t.joined_of_text
  unfold signatureSchemeAuthKind kindOfJoined contains startsWith
  dsimp only
  generalize removeChar '-' (removeChar '_' (lower (strip token))) = tok at htok
  rw [htok]
  by_cases hempty : tok = ""
  · have hnil : t.joined = [] := by
      rw [← htok, hempty]
      rfl
    rw [if_pos hempty, hnil]
    rfl
  · rw [if_neg hempty]

end SchemeToken

/-! ### Agreement of the two classifications -/

/-- What a certificate prefix and an authentication kind owe each other. -/
def PrefixAgrees (certPrefix : String) (kind : AuthKind) : Prop :=
  (certPrefix = "dsa_default" ↔ kind = .dsa) ∧
    (startsWith "ecdsa_" certPrefix = true ↔ kind = .ecdsa) ∧
    (certPrefix = "ed25519" ∨ certPrefix = "ed448" ↔ kind = .eddsa) ∧
    (certPrefix = "rsa_pss_pure" → kind = .rsa) ∧ (kind = .unknown → certPrefix = defaultPrefix)

instance (certPrefix : String) (kind : AuthKind) : Decidable (PrefixAgrees certPrefix kind) :=
  inferInstanceAs (Decidable (_ ∧ _))

/-- The certificate chosen for a token agrees with the token's kind. -/
def CertAgreesWithKind (token : String) : Prop :=
  PrefixAgrees (getCertPrefixForScheme token) (signatureSchemeAuthKind token)

namespace SchemeToken

/-- The tokens on which the classifications agree: joining the words may not
make up a name, and a post-quantum name may not hold `dsa`. -/
def Settled (t : SchemeToken) : Prop :=
  match t.family with
  | .rsa => True
  | .dsa => True
  | .ecdsa => hasBlock "rsa".toList t.joined = false
  | .ed25519 => hasBlock "rsa".toList t.joined = false ∧ hasBlock "ecdsa".toList t.joined = false
  | .ed448 => hasBlock "rsa".toList t.joined = false ∧ hasBlock "ecdsa".toList t.joined = false
  | .postQuantum name =>
    hasBlock "dsa".toList name = false ∧ hasBlock "dss".toList name = false ∧
      "dsa".toList.isPrefixOf t.joined = false ∧
      (hasBlock "rsa".toList t.joined = true ∨
        hasBlock "ecdsa".toList t.joined = false ∧
          (["ed25519", "ed448", "eddsa"].any fun p => p.toList.isPrefixOf t.joined) = false)

theorem hasBlock_append_left {n a : List Char} (h : hasBlock n a = true) (b : List Char) :
    hasBlock n (a ++ b) = true := by
  rw [hasBlock_iff] at h ⊢
  exact h.trans (List.prefix_append a b).isInfix

theorem hasBlock_of_append {p q l : List Char} (h : hasBlock p l = false) :
    hasBlock (p ++ q) l = false := by
  by_contra hpq
  rw [Bool.not_eq_false, hasBlock_iff] at hpq
  have hp : hasBlock p l = true := hasBlock_iff.mpr ((List.prefix_append p q).isInfix.trans hpq)
  rw [h] at hp
  cases hp

variable {t : SchemeToken}

/-- A foreign name is absent from a token of a family whose word lacks it. -/
theorem absent_of_foreign {f : SchemeFamily} (hf : t.family = f) {names : List String}
    (hnames : ∀ n ∈ names, n.toList ∈ f.foreign ∧ '-' ∉ n.toList ∧
      hasBlock n.toList f.word = false) :
    ∀ n ∈ names, hasBlock n.toList t.dashed = false := by
  intro n hn
  obtain ⟨hmem, hdash, hword⟩ := hnames n hn
  rw [t.hasBlock_dashed_of_foreign (hf ▸ hmem) hdash, hf]
  exact hword

/-- A name in the family's word is in the token. -/
theorem present_of_word {f : SchemeFamily} (hf : t.family = f) {n : String}
    (hn : hasBlock n.toList f.word = true) :
    hasBlock n.toList t.dashed = true ∧ hasBlock n.toList t.joined = true := by
  unfold dashed joined
  rw [hf]
  exact ⟨hasBlock_append_left hn _, hasBlock_append_left hn _⟩

/-- An RSA token gets an RSA certificate, and its kind is RSA. -/
theorem agrees_of_rsa (hf : t.family = .rsa) :
    PrefixAgrees (prefixOfDashed t.dashed) (kindOfJoined t.joined) := by
  have habsent : ∀ n ∈ ["ed25519", "ed448", "secp521", "secp384", "ecdsa", "dss", "dsa"],
      hasBlock n.toList t.dashed = false :=
    absent_of_foreign hf (by decide)
  obtain ⟨hdashed, hjoined⟩ := present_of_word (n := "rsa") hf (by decide)
  have hdsa : "dsa".toList.isPrefixOf t.joined = false := by
    rw [joined, hf]
    rfl
  have hkind : kindOfJoined t.joined = .rsa := by
    rw [kindOfJoined, hdsa, if_neg Bool.false_ne_true, if_pos hjoined]
  rw [hkind]
  simp only [List.forall_mem_cons] at habsent
  unfold prefixOfDashed schemePrefixRules
  simp only [List.find?_cons, habsent, hdashed]
  cases hasBlock "rsa-pss-pss".toList t.dashed <;> decide

/-- A DSA token gets the DSA certificate, and its kind is DSA. -/
theorem agrees_of_dsa (hf : t.family = .dsa) :
    PrefixAgrees (prefixOfDashed t.dashed) (kindOfJoined t.joined) := by
  have habsent : ∀ n ∈ ["ed25519", "ed448", "secp521", "secp384", "ecdsa", "dss"],
      hasBlock n.toList t.dashed = false :=
    absent_of_foreign hf (by decide)
  obtain ⟨hdashed, -⟩ := present_of_word (n := "dsa") hf (by decide)
  have hdsa : "dsa".toList.isPrefixOf t.joined = true := by
    rw [joined, hf]
    rfl
  have hkind : kindOfJoined t.joined = .dsa := by
    rw [kindOfJoined, if_pos hdsa]
  rw [hkind]
  simp only [List.forall_mem_cons] at habsent
  unfold prefixOfDashed schemePrefixRules
  simp only [List.find?_cons, habsent, hdashed]
  decide

/-- An ECDSA token gets an ECDSA certificate; its kind is ECDSA unless its words
join to `rsa`. -/
theorem agrees_of_ecdsa (hf : t.family = .ecdsa) :
    PrefixAgrees (prefixOfDashed t.dashed) (kindOfJoined t.joined) ↔
      hasBlock "rsa".toList t.joined = false := by
  have habsent : ∀ n ∈ ["ed25519", "ed448"], hasBlock n.toList t.dashed = false :=
    absent_of_foreign hf (by decide)
  obtain ⟨hdashed, hjoined⟩ := present_of_word (n := "ecdsa") hf (by decide)
  have hdsa : "dsa".toList.isPrefixOf t.joined = false := by
    rw [joined, hf]
    rfl
  have hkind : kindOfJoined t.joined
      = if hasBlock "rsa".toList t.joined then .rsa else .ecdsa := by
    rw [kindOfJoined, hdsa, if_neg Bool.false_ne_true, if_pos hjoined]
  rw [hkind]
  simp only [List.forall_mem_cons] at habsent
  unfold prefixOfDashed schemePrefixRules
  simp only [List.find?_cons, habsent, hdashed]
  cases hasBlock "secp521".toList t.dashed <;> cases hasBlock "secp384".toList t.dashed <;>
    cases hasBlock "rsa".toList t.joined <;> decide

/-- The kind of a token of an Edwards curve. -/
theorem kind_of_edwards {f : SchemeFamily} (hf : t.family = f) (hed : f = .ed25519 ∨ f = .ed448) :
    kindOfJoined t.joined = if hasBlock "rsa".toList t.joined then .rsa
      else if hasBlock "ecdsa".toList t.joined then .ecdsa else .eddsa := by
  have hdsa : "dsa".toList.isPrefixOf t.joined = false := by
    rw [joined, hf]
    rcases hed with rfl | rfl <;> rfl
  have hany : (["ed25519", "ed448", "eddsa"].any fun p => p.toList.isPrefixOf t.joined) = true := by
    rw [joined, hf]
    rcases hed with rfl | rfl <;> rfl
  rw [kindOfJoined, hdsa, if_neg Bool.false_ne_true, if_pos hany]

/-- A token of an Edwards curve gets the certificate of its curve; its kind is
EdDSA unless its words join to another family. -/
theorem agrees_of_edwards {f : SchemeFamily} (hf : t.family = f)
    (hed : f = .ed25519 ∨ f = .ed448) :
    PrefixAgrees (prefixOfDashed t.dashed) (kindOfJoined t.joined) ↔
      hasBlock "rsa".toList t.joined = false ∧ hasBlock "ecdsa".toList t.joined = false := by
  have hpre : prefixOfDashed t.dashed = "ed25519" ∨ prefixOfDashed t.dashed = "ed448" := by
    unfold prefixOfDashed schemePrefixRules
    rcases hed with rfl | rfl
    · obtain ⟨hdashed, -⟩ := present_of_word (n := "ed25519") hf (by decide)
      simp only [List.find?_cons, hdashed]
      exact .inl rfl
    · have habsent : ∀ n ∈ ["ed25519"], hasBlock n.toList t.dashed = false :=
        absent_of_foreign hf (by decide)
      obtain ⟨hdashed, -⟩ := present_of_word (n := "ed448") hf (by decide)
      simp only [List.forall_mem_cons] at habsent
      simp only [List.find?_cons, hdashed, habsent]
      exact .inr rfl
  rw [kind_of_edwards hf hed]
  rcases hpre with hpre | hpre <;> rw [hpre] <;>
    cases hasBlock "rsa".toList t.joined <;> cases hasBlock "ecdsa".toList t.joined <;> decide

/-- A post-quantum token gets the DSA certificate when its name holds `dsa`; its
kind is whatever its start or its joined words make of it. -/
theorem agrees_of_postQuantum {name : List Char} (hf : t.family = .postQuantum name) :
    PrefixAgrees (prefixOfDashed t.dashed) (kindOfJoined t.joined) ↔
      hasBlock "dsa".toList name = false ∧ hasBlock "dss".toList name = false ∧
        "dsa".toList.isPrefixOf t.joined = false ∧
        (hasBlock "rsa".toList t.joined = true ∨
          hasBlock "ecdsa".toList t.joined = false ∧
            (["ed25519", "ed448", "eddsa"].any fun p => p.toList.isPrefixOf t.joined) = false) := by
  obtain ⟨hnamed, hstart⟩ := t.named name hf
  have hword : ∀ n ∈ ["ed25519", "ed448", "secp521", "secp384", "ecdsa", "rsa", "dss", "dsa"],
      hasBlock n.toList t.dashed = hasBlock n.toList name := by
    intro n hn
    have hlisted : ∀ n ∈ ["ed25519", "ed448", "secp521", "secp384", "ecdsa", "rsa", "dss", "dsa"],
        n ∈ ["rsa", "ecdsa", "dsa", "ed25519", "ed448", "dss", "secp384", "secp521"] ∧
          '-' ∉ n.toList := by
      decide
    have hmem : n.toList ∈ t.family.foreign := by
      rw [hf]
      exact List.mem_map_of_mem (hlisted n hn).1
    rw [t.hasBlock_dashed_of_foreign hmem (hlisted n hn).2, hf, SchemeFamily.word]
  have hpss : hasBlock "rsa-pss-pss".toList t.dashed = false := by
    have hrsa : hasBlock "rsa".toList t.dashed = false := by
      rw [hword "rsa" (by decide)]
      exact hnamed "rsa" (by decide)
    exact hasBlock_of_append (q := "-pss-pss".toList) hrsa
  -- only a name of less than three characters can make up `dsa` with its words
  have hdsa : (hasBlock "dsa".toList name = true ∨ hasBlock "dss".toList name = true) →
      "dsa".toList.isPrefixOf t.joined = false := by
    intro hname
    simp only [hasBlock_iff] at hname
    have hlen : 3 ≤ name.length := hname.elim List.IsInfix.length_le List.IsInfix.length_le
    by_contra hjoined
    rw [Bool.not_eq_false, List.isPrefixOf_iff_prefix, joined, hf] at hjoined
    have hpre : "dsa".toList <+: name :=
      List.prefix_of_prefix_length_le hjoined (List.prefix_append name _) hlen
    rw [List.isPrefixOf_iff_prefix.mpr hpre] at hstart
    cases hstart
  simp only [List.forall_mem_cons] at hnamed hword
  unfold prefixOfDashed schemePrefixRules kindOfJoined
  simp only [List.find?_cons, List.find?_nil, hword, hnamed, hpss]
  revert hdsa
  cases hasBlock "dsa".toList name <;> cases hasBlock "dss".toList name <;>
    cases "dsa".toList.isPrefixOf t.joined <;> cases hasBlock "rsa".toList t.joined <;>
    cases hasBlock "ecdsa".toList t.joined <;>
    cases (["ed25519", "ed448", "eddsa"].any fun p => p.toList.isPrefixOf t.joined) <;> decide

/-- The classifications of the two forms agree exactly on the settled tokens. -/
theorem agrees_iff_settled (t : SchemeToken) :
    PrefixAgrees (prefixOfDashed t.dashed) (kindOfJoined t.joined) ↔ t.Settled := by
  unfold Settled
  cases hf : t.family with
  | rsa => exact iff_of_true (agrees_of_rsa hf) trivial
  | dsa => exact iff_of_true (agrees_of_dsa hf) trivial
  | ecdsa => exact agrees_of_ecdsa hf
  | ed25519 => exact agrees_of_edwards hf (.inl rfl)
  | ed448 => exact agrees_of_edwards hf (.inr rfl)
  | postQuantum name => exact agrees_of_postQuantum hf

end SchemeToken

/-- **Certificate choice agrees with the authentication kind** exactly on the
settled tokens.  The rules of the certificate search the dashed token, and the kind
searches the token without its separators, where words that were apart have become one. -/
theorem cert_agrees_with_kind_iff (t : SchemeToken) {token : String}
    (h : (lower (strip token)).toList = t.text) : CertAgreesWithKind token ↔ t.Settled := by
  rw [CertAgreesWithKind, SchemeToken.getCertPrefix_eq h, SchemeToken.signatureSchemeAuthKind_eq h]
  exact t.agrees_iff_settled

/-! ### Two tokens -/

/-- A curve and a hash. -/
def curveWords : List (Char × List Char) :=
  [('-', "secp384r1".toList), ('_', "sha384".toList)]

/-- An ECDSA token with a curve and a hash. -/
def ecdsaCurveToken : SchemeToken where
  family := .ecdsa
  words := curveWords
  separated := by decide
  plain := by
    have hall : (curveWords.all fun w => w.2.all isWordChar) = true := by decide
    exact fun w hw => List.all_eq_true.mp (List.all_eq_true.mp hall w hw)
  plain_family := List.all_eq_true.mp (by decide)
  pure := by decide
  named := by
    intro name h
    cases h

/-- A post-quantum token of the OpenSSL and NSS catalogs. -/
def mldsa44Token : SchemeToken where
  family := .postQuantum "mldsa44".toList
  words := []
  separated := by decide
  plain := by decide
  plain_family := List.all_eq_true.mp (by decide)
  pure := by decide
  named := by
    intro name h
    cases h
    decide

/-- The curve decides the certificate, and the kind agrees. -/
theorem ecdsaCurve_cert_agrees : CertAgreesWithKind "ECDSA-secp384r1_SHA384" := by
  refine (cert_agrees_with_kind_iff ecdsaCurveToken (by decide)).mpr ?_
  change hasBlock "rsa".toList ecdsaCurveToken.joined = false
  decide

/-- The name of a post-quantum scheme holds `dsa`: it gets the DSA certificate,
and its kind is unknown. -/
theorem mldsa44_cert_disagrees :
    (lower (strip "mldsa44")).toList = mldsa44Token.text ∧
      getCertPrefixForScheme "mldsa44" = "dsa_default" ∧
      signatureSchemeAuthKind "mldsa44" = .unknown ∧ ¬ CertAgreesWithKind "mldsa44" := by
  have hpre : getCertPrefixForScheme "mldsa44" = "dsa_default" := by decide
  have hkind : signatureSchemeAuthKind "mldsa44" = .unknown := by decide
  refine ⟨by decide, hpre, hkind, ?_⟩
  rw [CertAgreesWithKind, hpre, hkind]
  decide

end TlsInterop
