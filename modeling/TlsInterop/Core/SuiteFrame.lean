import TlsInterop.Core.SuiteExclusivity

/-!
# What a suite file changes in the arguments

The `matrix` block of a suite file is meant for the options of the matrix.  Its
keys are checked against the attributes of the namespace only, so a key may also
name an argument that controls the run, or an attribute of the class, and each
value is stored as a string.

The block is read entry by entry, and the first entry that is refused ends the
reading.  Whether an entry is refused does not depend on the entries before it.

## Main definitions

* `matrixOptions` — the attributes a suite file is meant to change.
* `SuiteFrame` — the other attributes stay, and a key that is no option is refused.
* `entryRefusal`, `SuiteFrameSafe` — the first refusal, and the condition on the file.

## Main results

* `applySuiteMatrix_frame` — an accepted block changes the attributes it names.
* `suite_frame_iff` — when a suite file changes the matrix only.
* `suite_sets_verbose` — a file that turns `verbose` on by writing `false`.
-/

namespace TlsInterop

open Py

/-- The options of the matrix, as attributes of the namespace. -/
def matrixOptions : List String := ["server", "client"] ++ staticCliOptions

/-- An entry of the `matrix` block names an option of the matrix. -/
def NamesOption (entry : SuiteKey × Yaml) : Prop := strip entry.1.text ∈ matrixOptions

/-- A suite file changes the options of the matrix and the cases only, and a
file with any other key is refused. -/
structure SuiteFrame (args : Args) (path : String) (file : SuiteFile) : Prop where
  kept : ∀ args', applySuiteFile args path file = .ok args' →
    ∀ k ∉ matrixOptions, args'.attrs.get? k = args.attrs.get? k
  refused : ∀ entries, file.matrix = some entries → (∃ e ∈ entries, ¬ NamesOption e) →
    ∃ msg, applySuiteFile args path file = .error ⟨.valueError, msg⟩

/-- The class of the exception an entry of the block raises, if any. -/
def entryRefusal (args : Args) (entry : SuiteKey × Yaml) : Option ExcClass :=
  let dest := strip entry.1.text
  if dest = "" ∨ args.hasattr dest = false then some .valueError
  else match coerceSuiteMatrixValue entry.2 (.str dest) with
    | .error e => some e.cls
    | .ok _ => (lockedAttrs.get? dest).map PyExc.cls

namespace CasesNode

/-- The node under `cases` is no list of mappings. -/
def Malformed : CasesNode → Prop
  | null => False
  | list items => none ∈ items
  | other _ => True

end CasesNode

/-- Every key of the file is an option of the matrix; or the first refused
entry, if there is one, is refused with `ValueError`, and the cases are
malformed when there is none. -/
def SuiteFrameSafe (args : Args) (file : SuiteFile) : Prop :=
  ∀ entries, file.matrix = some entries →
    (∀ e ∈ entries, NamesOption e) ∨ entries.findSome? (entryRefusal args) = some .valueError ∨
      (entries.findSome? (entryRefusal args) = none ∧ file.casesNode.Malformed)

section

variable {args args' : Args} {path : String} {entry : SuiteKey × Yaml}
  {entries : List (SuiteKey × Yaml)} {file : SuiteFile}

/-! ### One entry -/

theorem applySuiteMatrixEntry_of_refusal (path : String) {c : ExcClass}
    (h : entryRefusal args entry = some c) :
    ∃ msg, applySuiteMatrixEntry path args entry = .error ⟨c, msg⟩ := by
  unfold entryRefusal at h
  unfold applySuiteMatrixEntry
  dsimp only at h ⊢
  by_cases hbad : strip entry.1.text = "" ∨ args.hasattr (strip entry.1.text) = false
  · rw [if_pos hbad] at h ⊢
    cases h
    exact ⟨_, rfl⟩
  · rw [if_neg hbad] at h ⊢
    cases hv : coerceSuiteMatrixValue entry.2 (.str (strip entry.1.text)) with
    | error e =>
      rw [hv] at h
      cases h
      exact ⟨e.msg, rfl⟩
    | ok v =>
      rw [hv] at h
      show ∃ msg, args.trySetattr (strip entry.1.text) v = _
      unfold Args.trySetattr
      cases hlocked : lockedAttrs.get? (strip entry.1.text) with
      | none => rw [hlocked] at h; cases h
      | some e =>
        rw [hlocked] at h
        cases h
        exact ⟨e.msg, rfl⟩

theorem applySuiteMatrixEntry_of_no_refusal (path : String)
    (h : entryRefusal args entry = none) :
    args.hasattr (strip entry.1.text) = true ∧
      ∃ v, applySuiteMatrixEntry path args entry = .ok (args.setattr (strip entry.1.text) v) := by
  unfold entryRefusal at h
  unfold applySuiteMatrixEntry
  dsimp only at h ⊢
  by_cases hbad : strip entry.1.text = "" ∨ args.hasattr (strip entry.1.text) = false
  · rw [if_pos hbad] at h
    cases h
  · rw [if_neg hbad] at h ⊢
    rw [not_or, Bool.not_eq_false] at hbad
    refine ⟨hbad.2, ?_⟩
    cases hv : coerceSuiteMatrixValue entry.2 (.str (strip entry.1.text)) with
    | error e => rw [hv] at h; cases h
    | ok v =>
      rw [hv] at h
      have hlocked : lockedAttrs.get? (strip entry.1.text) = none := Option.map_eq_none_iff.mp h
      refine ⟨v, ?_⟩
      show args.trySetattr (strip entry.1.text) v = _
      rw [Args.trySetattr, hlocked]

/-- Storing a value under an attribute changes no refusal. -/
theorem entryRefusal_setattr {dest v : String} (h : args.hasattr dest = true) :
    entryRefusal (args.setattr dest v) = entryRefusal args := by
  funext entry
  unfold entryRefusal
  dsimp only
  rw [hasattr_setattr h]

/-! ### The block -/

/-- **An accepted block changes the attributes it names**, and a block with a
refused entry raises what the first of them does. -/
theorem applySuiteMatrix_frame (entries : List (SuiteKey × Yaml)) (args : Args) (path : String) :
    match entries.findSome? (entryRefusal args) with
    | some c => ∃ msg, applySuiteMatrix args entries path = .error ⟨c, msg⟩
    | none => ∃ args', applySuiteMatrix args entries path = .ok args' ∧
        ∀ k, (∀ e ∈ entries, strip e.1.text ≠ k) → args'.attrs.get? k = args.attrs.get? k := by
  induction entries generalizing args with
  | nil => exact ⟨args, rfl, fun _ _ => rfl⟩
  | cons entry entries ih =>
    have hrun : applySuiteMatrix args (entry :: entries) path
        = applySuiteMatrixEntry path args entry >>= fun a => applySuiteMatrix a entries path :=
      List.foldlM_cons ..
    rw [hrun, List.findSome?_cons]
    cases hentry : entryRefusal args entry with
    | some c =>
      obtain ⟨msg, hmsg⟩ := applySuiteMatrixEntry_of_refusal path hentry
      dsimp only
      rw [hmsg]
      exact ⟨msg, rfl⟩
    | none =>
      obtain ⟨hhas, v, hv⟩ := applySuiteMatrixEntry_of_no_refusal path hentry
      have hrest := ih (args.setattr (strip entry.1.text) v)
      rw [entryRefusal_setattr hhas] at hrest
      rw [hv]
      dsimp only
      cases hfind : entries.findSome? (entryRefusal args) with
      | some c =>
        rw [hfind] at hrest
        exact hrest
      | none =>
        rw [hfind] at hrest
        obtain ⟨args', hok, hframe⟩ := hrest
        refine ⟨args', hok, fun k hk => ?_⟩
        -- the tail leaves `k`, and so does the entry at the head
        rw [hframe k fun e he => hk e (List.mem_cons_of_mem _ he), Args.setattr, Dict.get?_set,
          if_neg (hk entry List.mem_cons_self)]

/-! ### The file -/

theorem applySuiteCases_attrs (h : applySuiteCases args file path = .ok args') :
    args'.attrs = args.attrs := by
  unfold applySuiteCases at h
  cases hnode : file.casesNode with
  | null => rw [hnode] at h; cases h; rfl
  | other b => rw [hnode] at h; cases h
  | list items =>
    rw [hnode] at h
    dsimp only at h
    cases hcases : items.mapM id with
    | none => rw [hcases] at h; cases h
    | some cases => rw [hcases] at h; cases h; rfl

theorem mapM_id_eq_none_iff {α : Type} {l : List (Option α)} : l.mapM id = none ↔ none ∈ l := by
  induction l with
  | nil => simp
  | cons x l ih =>
    cases x with
    | none => simp
    | some a =>
      rw [List.mapM_cons, List.mem_cons]
      cases hl : l.mapM id with
      | none => simpa [hl] using ih
      | some l' => simpa [hl] using ih

theorem applySuiteCases_of_malformed (args : Args) (path : String)
    (h : file.casesNode.Malformed) :
    ∃ msg, applySuiteCases args file path = .error ⟨.valueError, msg⟩ := by
  unfold applySuiteCases
  cases hnode : file.casesNode with
  | null => rw [hnode] at h; cases h
  | other b => exact ⟨_, rfl⟩
  | list items =>
    rw [hnode] at h
    have hnone : items.mapM id = none := mapM_id_eq_none_iff.mpr h
    dsimp only
    rw [hnone]
    exact ⟨_, rfl⟩

theorem applySuiteCases_of_not_malformed (args : Args) (path : String)
    (h : ¬ file.casesNode.Malformed) :
    ∃ args', applySuiteCases args file path = .ok args' := by
  unfold applySuiteCases
  cases hnode : file.casesNode with
  | null => exact ⟨_, rfl⟩
  | other b => rw [hnode] at h; exact absurd trivial h
  | list items =>
    rw [hnode] at h
    dsimp only
    cases hcases : items.mapM id with
    | none => exact absurd (mapM_id_eq_none_iff.mp hcases) h
    | some cases => exact ⟨_, rfl⟩

theorem applySuiteFile_eq (hfile : file.matrix = some entries) :
    applySuiteFile args path file
      = applySuiteMatrix args entries path >>= fun a => applySuiteCases a file path := by
  rw [applySuiteFile, hfile]

/-- A file is refused with the class of its first refused entry. -/
theorem applySuiteFile_of_refusal (path : String) (hfile : file.matrix = some entries)
    {c : ExcClass} (h : entries.findSome? (entryRefusal args) = some c) :
    ∃ msg, applySuiteFile args path file = .error ⟨c, msg⟩ := by
  have hblock := applySuiteMatrix_frame entries args path
  rw [h] at hblock
  obtain ⟨msg, hmsg⟩ := hblock
  exact ⟨msg, by rw [applySuiteFile_eq hfile, hmsg]; rfl⟩

/-- The attributes a file does not name are the same afterwards. -/
theorem applySuiteFile_frame (hfile : file.matrix = some entries)
    (h : applySuiteFile args path file = .ok args') {k : String}
    (hk : ∀ e ∈ entries, strip e.1.text ≠ k) : args'.attrs.get? k = args.attrs.get? k := by
  have hblock := applySuiteMatrix_frame entries args path
  rw [applySuiteFile_eq hfile] at h
  obtain ⟨a, hmatrix, hcases⟩ := bind_eq_ok.mp h
  rw [hmatrix] at hblock
  cases hfind : entries.findSome? (entryRefusal args) with
  | some c =>
    rw [hfind] at hblock
    obtain ⟨msg, hmsg⟩ := hblock
    cases hmsg
  | none =>
    rw [hfind] at hblock
    obtain ⟨a', ha', hframe⟩ := hblock
    cases ha'
    rw [applySuiteCases_attrs hcases]
    exact hframe k hk

/-- **A suite file changes the matrix only** exactly when its keys are options of
the matrix, or it is refused with `ValueError` for another reason: an entry
that is no attribute or has a mapping for its value, before any that raises
another exception, or cases that are no list of mappings.  An entry is accepted whenever
the arguments have an attribute of its name, also one that is no option of the matrix and
one that every object has. -/
theorem suite_frame_iff (attrs : Dict String ArgVal) (path : String) (file : SuiteFile) :
    SuiteFrame ⟨attrs, none⟩ path file ↔ SuiteFrameSafe ⟨attrs, none⟩ file := by
  generalize (⟨attrs, none⟩ : Args) = args
  constructor
  · -- a key that names no option has to be refused, and this is what refuses the file
    intro h entries hfile
    by_cases hoptions : ∀ e ∈ entries, NamesOption e
    · exact .inl hoptions
    · right
      have hother : ∃ e ∈ entries, ¬ NamesOption e := by simpa using hoptions
      obtain ⟨msg, hmsg⟩ := h.refused entries hfile hother
      cases hfind : entries.findSome? (entryRefusal args) with
      -- an entry is refused
      | some c =>
        left
        obtain ⟨msg', hmsg'⟩ := applySuiteFile_of_refusal path hfile hfind
        rw [hmsg] at hmsg'
        cases hmsg'
        rfl
      | none =>
        -- no entry is: then it is the cases, else the file would be accepted
        refine .inr ⟨rfl, ?_⟩
        by_contra hcases
        have hblock := applySuiteMatrix_frame entries args path
        rw [hfind] at hblock
        obtain ⟨a, ha, -⟩ := hblock
        obtain ⟨args', hok⟩ :=
          applySuiteCases_of_not_malformed a path hcases
        have hrun : applySuiteFile args path file = .ok args' := by
          rw [applySuiteFile_eq hfile, ha]
          exact hok
        rw [hrun] at hmsg
        cases hmsg
  · intro hsafe
    constructor
    · -- an accepted file has only option names, and changes only them
      intro args' hok k hk
      cases hfile : file.matrix with
      | none =>
        unfold applySuiteFile at hok
        rw [hfile] at hok
        cases hok
      | some entries =>
        rcases hsafe entries hfile with hoptions | hvalue | ⟨hnone, hcases⟩
        · refine applySuiteFile_frame hfile hok fun e he heq => ?_
          exact hk (heq ▸ hoptions e he)
        · obtain ⟨msg, hmsg⟩ := applySuiteFile_of_refusal path hfile hvalue
          rw [hmsg] at hok
          cases hok
        · rw [applySuiteFile_eq hfile] at hok
          obtain ⟨a, -, hok⟩ := bind_eq_ok.mp hok
          obtain ⟨msg, hmsg⟩ := applySuiteCases_of_malformed a path hcases
          rw [hmsg] at hok
          cases hok
    · -- a file with another name is refused
      intro entries hfile hother
      rcases hsafe entries hfile with hoptions | hvalue | ⟨hnone, hcases⟩
      · obtain ⟨e, he, hne⟩ := hother
        exact absurd (hoptions e he) hne
      · exact applySuiteFile_of_refusal path hfile hvalue
      · have hblock := applySuiteMatrix_frame entries args path
        rw [hnone] at hblock
        obtain ⟨a, ha, -⟩ := hblock
        obtain ⟨msg, hmsg⟩ := applySuiteCases_of_malformed a path hcases
        exact ⟨msg, by rw [applySuiteFile_eq hfile, ha]; exact hmsg⟩

end

/-! ### A file that names `verbose` -/

/-- `matrix: {server: gnutls, verbose: false}`. -/
def verboseSuite : SuiteFile where
  matrix := some [(⟨"server", "'server'"⟩, .str "gnutls"),
    (⟨"verbose", "'verbose'"⟩, .bool false)]

/-- Writing `false` for `verbose` stores the text `false`, which is true. -/
theorem suite_sets_verbose :
    ∃ args', applySuiteFile defaultArgs "suite.yaml" verboseSuite = .ok args' ∧
      args'.attrs.get? "verbose" = some (.str "false") ∧ (ArgVal.str "false").truthy = true ∧
      defaultArgs.attrs.get? "verbose" = some (.bool false) ∧
      ¬ SuiteFrame defaultArgs "suite.yaml" verboseSuite := by
  refine ⟨(defaultArgs.setattr "server" "gnutls").setattr "verbose" "false", by rfl, by rfl,
    by decide, by rfl, ?_⟩
  intro h
  have hkept := h.kept _ (by rfl) "verbose" (by decide)
  revert hkept
  decide

end TlsInterop
