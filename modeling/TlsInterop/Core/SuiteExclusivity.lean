import TlsInterop.Core.CipherAxis
import TlsInterop.Core.Suite

/-!
# Suite files and the options of the command line

A suite file fixes the matrix of a run, so `--suite` may not be combined with
matrix options.  The check compares seven of the eight matrix options with their
defaults; the signature schemes are missing from its table.  What two command
lines that pass the check can still differ in is therefore `--signature-schemes`,
and it reaches the cells wherever the suite's `matrix` block does not set it.

## Main definitions

* `suiteMatrixCli`, `enforceSuiteCliExclusivity` — the table and the check.
* `MatrixOptions`, `SuiteRun` — the options of a command line that names a suite.
* `suiteCells` — from the suite file to the normalised cells.
* `SuiteDecides` — the cells do not depend on the matrix options.

## Main results

* `enforceSuiteCliExclusivity_eq_ok_iff` — what the check accepts.
* `applySuiteMatrix_setattr` — what the `matrix` block does to an attribute.
* `suiteDecides_iff_of_accepted` — when the cells of an accepted suite depend on it only.
* `suiteDecides_iff` — the same for every suite file.
-/

namespace TlsInterop

open Py

/-! ### The check -/

/-- `SUITE_MATRIX_CLI`. -/
def suiteMatrixCli : List (String × String) :=
  [("server", "--server"), ("client", "--client"), ("cipher_suite", "--cipher-suite"),
    ("supported_groups", "--supported-groups"), ("tls_version", "--tls-version"),
    ("alpn", "--alpn"), ("test_features", "--test-features")]

/-- `matrix_flags_differing_from_defaults`, with the flag of each option. -/
def matrixFlagsDifferingFromDefaults (args : Args) : List (String × String) :=
  suiteMatrixCli.filter fun e => args.attrs.get? e.1 ≠ defaultArgs.attrs.get? e.1

/-- `enforce_suite_cli_exclusivity`; `parser.error` prints its text and exits. -/
def enforceSuiteCliExclusivity (args : Args) : Except PyExc Unit :=
  if args.getattrText "suite" = "" then .ok ()
  else
    let conflicts := matrixFlagsDifferingFromDefaults args
    if conflicts = [] then .ok ()
    else
      let flags := String.intercalate ", " ((conflicts.map Prod.snd).insertionSort (· ≤ ·))
      .error ⟨.named "SystemExit", "argument --suite: not allowed with matrix options on the " ++
        "command line (" ++ flags ++ "); put them under 'matrix' in the suite file instead"⟩

/-! ### Command lines -/

/-- The matrix options, with the parser's defaults. -/
structure MatrixOptions where
  server : String := "openssl"
  client : String := "openssl"
  cipherSuite : String := ""
  tlsVersion : String := ""
  alpn : String := ""
  supportedGroups : String := ""
  signatureSchemes : String := ""
  testFeatures : String := ""

/-- The other options of a command line that names a suite. -/
structure SuiteRun where
  suite : String
  named : suite ≠ ""
  listWrappers : Bool := false
  listOptions : Bool := false
  tlsPort : ℤ := 0
  verbose : Bool := false
  attach : Bool := false
  jobs : ℤ := 1

namespace SuiteRun

/-- The namespace the parser makes of a command line. -/
def args (run : SuiteRun) (m : MatrixOptions) : Args where
  attrs :=
    [("list_wrappers", .bool run.listWrappers), ("list_options", .bool run.listOptions),
      ("suite", .str run.suite), ("server", .str m.server), ("client", .str m.client),
      ("tls_port", .int run.tlsPort), ("verbose", .bool run.verbose), ("attach", .bool run.attach),
      ("jobs", .int run.jobs), ("cipher_suite", .str m.cipherSuite),
      ("tls_version", .str m.tlsVersion), ("alpn", .str m.alpn),
      ("supported_groups", .str m.supportedGroups),
      ("signature_schemes", .str m.signatureSchemes), ("test_features", .str m.testFeatures)]
  suiteCases := none

end SuiteRun

/-- The cells of a suite: `apply_suite_file`, `build_matrix_combos` and the
normalisation of each cell. -/
def suiteCells (repo : Repo) (file : SuiteFile) (path : String) (args : Args) :
    Except PyExc (List (Except PyExc Cell)) := do
  let args ← applySuiteFile args path file
  let (axisKeys, combos) ← buildMatrixCombos repo args repo.discoverWrapperIds
  return combos.map fun tup => normalizeCellTlsMicroParams repo (cellOf axisKeys tup) args

/-- Command lines with the same options otherwise, and with matrix options that
pass the check, give the same list of cells, or none of them gives a list. -/
def SuiteDecides (repo : Repo) (file : SuiteFile) (run : SuiteRun) : Prop :=
  ∀ m₁ m₂ : MatrixOptions, enforceSuiteCliExclusivity (run.args m₁) = .ok () →
    enforceSuiteCliExclusivity (run.args m₂) = .ok () →
    (suiteCells repo file run.suite (run.args m₁)).toOption
      = (suiteCells repo file run.suite (run.args m₂)).toOption

/-- The `matrix` block has an entry for the signature schemes. -/
def SetsSignatureSchemes (file : SuiteFile) : Prop :=
  ∃ entries, file.matrix = some entries ∧ ∃ e ∈ entries, strip e.1.text = "signature_schemes"

/-- The suite gives no list of cells on its own. -/
def Refused (repo : Repo) (file : SuiteFile) (run : SuiteRun) : Prop :=
  ∀ cells, suiteCells repo file run.suite (run.args {}) ≠ .ok cells

/-! ### What the check accepts -/

/-- No option conflicts when those of the table have their defaults. -/
theorem matrixFlagsDifferingFromDefaults_eq_nil_iff {args : Args} :
    matrixFlagsDifferingFromDefaults args = [] ↔
      ∀ e ∈ suiteMatrixCli, args.attrs.get? e.1 = defaultArgs.attrs.get? e.1 := by
  simp [matrixFlagsDifferingFromDefaults, List.filter_eq_nil_iff]

/-- The options of the table have their defaults exactly when only the signature
schemes may differ from theirs. -/
theorem matrixFlagsDifferingFromDefaults_args (run : SuiteRun) (m : MatrixOptions) :
    matrixFlagsDifferingFromDefaults (run.args m) = [] ↔
      m = { signatureSchemes := m.signatureSchemes } := by
  rw [matrixFlagsDifferingFromDefaults_eq_nil_iff]
  constructor
  · intro h
    have hopt : ∀ dest flag v w, (dest, flag) ∈ suiteMatrixCli →
        (run.args m).attrs.get? dest = some (.str v) →
        defaultArgs.attrs.get? dest = some (.str w) → v = w := by
      intro dest flag v w hmem hv hw
      have heq := h _ hmem
      rw [hv, hw, Option.some.injEq, ArgVal.str.injEq] at heq
      exact heq
    have hserver := hopt "server" "--server" _ _ (by decide) rfl rfl
    have hclient := hopt "client" "--client" _ _ (by decide) rfl rfl
    have hcipher := hopt "cipher_suite" "--cipher-suite" _ _ (by decide) rfl rfl
    have hgroups := hopt "supported_groups" "--supported-groups" _ _ (by decide) rfl rfl
    have hversion := hopt "tls_version" "--tls-version" _ _ (by decide) rfl rfl
    have halpn := hopt "alpn" "--alpn" _ _ (by decide) rfl rfl
    have hfeatures := hopt "test_features" "--test-features" _ _ (by decide) rfl rfl
    cases m
    dsimp only at hserver hclient hcipher hgroups hversion halpn hfeatures
    rw [hserver, hclient, hcipher, hgroups, hversion, halpn, hfeatures]
  · intro h
    rw [h]
    simp only [suiteMatrixCli, List.forall_mem_cons, List.not_mem_nil, false_implies,
      implies_true, and_true]
    exact ⟨rfl, rfl, rfl, rfl, rfl, rfl, rfl⟩

/-- Only the signature schemes of an accepted command line may differ from the defaults. -/
theorem enforceSuiteCliExclusivity_eq_ok_iff (run : SuiteRun) (m : MatrixOptions) :
    enforceSuiteCliExclusivity (run.args m) = .ok () ↔
      m = { signatureSchemes := m.signatureSchemes } := by
  have hsuite : (run.args m).getattrText "suite" = run.suite := by
    have hget : (run.args m).attrs.get? "suite" = some (.str run.suite) := rfl
    rw [Args.getattrText, hget]
    exact if_pos (bne_iff_ne.mpr run.named)
  rw [← matrixFlagsDifferingFromDefaults_args run m, enforceSuiteCliExclusivity, hsuite,
    if_neg run.named]
  dsimp only
  by_cases h : matrixFlagsDifferingFromDefaults (run.args m) = []
  · rw [if_pos h]
    exact iff_of_true rfl h
  · rw [if_neg h]
    exact iff_of_false (by rintro ⟨⟩) h

/-! ### The `matrix` block and the attributes it finds -/

section

variable {args : Args} {k : String}

theorem getattrText_setattr (args : Args) (k v name : String) :
    (args.setattr k v).getattrText name = if k = name then v else args.getattrText name := by
  unfold Args.getattrText Args.setattr
  rw [Dict.get?_set]
  by_cases h : k = name
  · by_cases hv : v = "" <;> simp [h, hv, ArgVal.truthy, ArgVal.pyStr]
  · rw [if_neg h, if_neg h]

theorem isSome_setattr (h : (args.attrs.get? k).isSome) (dest v : String) :
    ((args.setattr dest v).attrs.get? k).isSome := by
  rw [Args.setattr, Dict.get?_set]
  split
  · rfl
  · exact h

theorem hasattr_setattr (hk : args.hasattr k = true) (v dest : String) :
    (args.setattr k v).hasattr dest = args.hasattr dest := by
  unfold Args.hasattr Args.setattr at *
  rw [Dict.get?_set]
  by_cases h : k = dest
  · rw [if_pos h, ← h, hk]
    rfl
  · rw [if_neg h]

theorem hasattr_of_isSome (hk : (args.attrs.get? k).isSome) : args.hasattr k = true := by
  rw [Args.hasattr, hk, Bool.true_or]

/-- One entry either overrides the attribute or leaves it as it is. -/
theorem applySuiteMatrixEntry_setattr (hk : (args.attrs.get? k).isSome) (path v : String)
    (entry : SuiteKey × Yaml) :
    applySuiteMatrixEntry path (args.setattr k v) entry
      = if strip entry.1.text = k then applySuiteMatrixEntry path args entry
        else (applySuiteMatrixEntry path args entry).map fun a => a.setattr k v := by
  unfold applySuiteMatrixEntry
  dsimp only
  rw [hasattr_setattr (hasattr_of_isSome hk)]
  by_cases hbad : strip entry.1.text = "" ∨ args.hasattr (strip entry.1.text) = false
  · rw [if_pos hbad, if_pos hbad]
    split <;> rfl
  · rw [if_neg hbad, if_neg hbad]
    cases coerceSuiteMatrixValue entry.2 (.str (strip entry.1.text)) with
    | error e => split <;> rfl
    | ok w =>
      show (args.setattr k v).trySetattr (strip entry.1.text) w
        = if strip entry.1.text = k then args.trySetattr (strip entry.1.text) w
          else (args.trySetattr (strip entry.1.text) w).map fun a => a.setattr k v
      unfold Args.trySetattr
      cases lockedAttrs.get? (strip entry.1.text) with
      | some e =>
        dsimp only
        split <;> rfl
      | none =>
        by_cases hdest : strip entry.1.text = k
        · -- the entry assigns the attribute again
          rw [if_pos hdest, hdest]
          show Except.ok ((args.setattr k v).setattr k w) = Except.ok (args.setattr k w)
          rw [Args.setattr, Args.setattr, Args.setattr, Dict.set_set]
        · -- assignments to different attributes commute
          rw [if_neg hdest]
          show Except.ok ((args.setattr k v).setattr (strip entry.1.text) w)
            = Except.ok ((args.setattr (strip entry.1.text) w).setattr k v)
          rw [Args.setattr, Args.setattr, Args.setattr, Args.setattr,
            Dict.set_comm (Ne.symm hdest) hk]

theorem isSome_of_applySuiteMatrixEntry {args' : Args} (hk : (args.attrs.get? k).isSome)
    {path : String} {entry : SuiteKey × Yaml}
    (h : applySuiteMatrixEntry path args entry = .ok args') : (args'.attrs.get? k).isSome := by
  unfold applySuiteMatrixEntry at h
  dsimp only at h
  split at h
  · cases h
  · obtain ⟨w, -, h⟩ := bind_eq_ok.mp h
    unfold Args.trySetattr at h
    cases hlocked : lockedAttrs.get? (strip entry.1.text) with
    | some e => rw [hlocked] at h; cases h
    | none =>
      rw [hlocked] at h
      cases h
      exact isSome_setattr hk _ _

/-- **What a `matrix` block does to an attribute**: it overrides it when one of
its keys names it, and otherwise works as if it were not there. -/
theorem applySuiteMatrix_setattr (hk : (args.attrs.get? k).isSome) (v path : String)
    (entries : List (SuiteKey × Yaml)) :
    applySuiteMatrix (args.setattr k v) entries path
      = if ∃ e ∈ entries, strip e.1.text = k then applySuiteMatrix args entries path
        else (applySuiteMatrix args entries path).map fun a => a.setattr k v := by
  induction entries generalizing args with
  | nil => simp only [List.not_mem_nil, false_and, exists_false, if_false]; rfl
  | cons entry entries ih =>
    have hrun : ∀ a, applySuiteMatrix a (entry :: entries) path
        = applySuiteMatrixEntry path a entry >>= fun a' => applySuiteMatrix a' entries path :=
      fun a => List.foldlM_cons ..
    rw [hrun, hrun, applySuiteMatrixEntry_setattr hk]
    simp only [List.mem_cons, exists_eq_or_imp]
    by_cases hdest : strip entry.1.text = k
    · rw [if_pos hdest, if_pos (.inl hdest)]
    · rw [if_neg hdest]
      simp only [hdest, false_or]
      cases hentry : applySuiteMatrixEntry path args entry with
      | error e => split <;> rfl
      | ok args' =>
        show applySuiteMatrix (args'.setattr k v) entries path = _
        rw [ih (isSome_of_applySuiteMatrixEntry hk hentry)]
        rfl

/-- The `cases` of a file do not look at the attributes. -/
theorem applySuiteCases_setattr (k v path : String) (file : SuiteFile) :
    applySuiteCases (args.setattr k v) file path
      = (applySuiteCases args file path).map fun a => a.setattr k v := by
  unfold applySuiteCases
  cases file.casesNode with
  | null => rfl
  | other b => rfl
  | list items =>
    dsimp only
    cases items.mapM id with
    | none => rfl
    | some cases => rfl

/-- The same for a whole file. -/
theorem applySuiteFile_setattr (hk : (args.attrs.get? k).isSome) (v path : String)
    {file : SuiteFile} {entries : List (SuiteKey × Yaml)} (hfile : file.matrix = some entries) :
    applySuiteFile (args.setattr k v) path file
      = if ∃ e ∈ entries, strip e.1.text = k then applySuiteFile args path file
        else (applySuiteFile args path file).map fun a => a.setattr k v := by
  have hrun : ∀ a, applySuiteFile a path file
      = applySuiteMatrix a entries path >>= fun a' => applySuiteCases a' file path := by
    intro a
    rw [applySuiteFile, hfile]
  rw [hrun, hrun, applySuiteMatrix_setattr hk]
  split
  · rfl
  · cases applySuiteMatrix args entries path with
    | error e => rfl
    | ok args' => exact applySuiteCases_setattr k v path file

end

/-! ### The signature schemes in the plan -/

section

variable {repo : Repo} {args : Args} {known : List String}

theorem getattrText_schemes_of_ne (args : Args) (v : String) {name : String}
    (h : name ≠ "signature_schemes") :
    (args.setattr "signature_schemes" v).getattrText name = args.getattrText name := by
  rw [getattrText_setattr, if_neg (Ne.symm h)]

theorem tlsModeFilterFromArgs_schemes (args : Args) (v : String) :
    tlsModeFilterFromArgs (args.setattr "signature_schemes" v) = tlsModeFilterFromArgs args := by
  unfold tlsModeFilterFromArgs
  rw [getattrText_schemes_of_ne args v (by decide)]

/-- The values of another axis do not depend on the signature schemes. -/
theorem getDimensionMatrixValues_schemes {o : String} (h : o ≠ "signature_schemes") (v : String)
    (tokens wrappers : List String) (cache : Dict String Capabilities) (mode : Option TlsMode) :
    getDimensionMatrixValues o tokens (args.setattr "signature_schemes" v) wrappers cache mode
      = getDimensionMatrixValues o tokens args wrappers cache mode := by
  unfold getDimensionMatrixValues
  rw [getattrText_schemes_of_ne args v h]

/-- A plan that some signature schemes allow is also made without them, with the same axes. -/
theorem matrixAxisPlan_without_schemes {v : String} {plan : List String × List (List String)}
    (h : matrixAxisPlan repo (args.setattr "signature_schemes" v) known = .ok plan) :
    ∃ vals, matrixAxisPlan repo (args.setattr "signature_schemes" "") known
      = .ok (plan.1, vals) := by
  unfold matrixAxisPlan at h
  simp only [bind_eq_ok] at h
  obtain ⟨cache, hcache, catalog, hcatalog, sv, hsv, cv, hcv, vals, hvals, hplan⟩ := h
  cases hplan
  rw [getattrText_schemes_of_ne _ _ (by decide)] at hsv hcv
  rw [mapM_eq_ok] at hvals
  have hroles : ∀ name, name = "server" ∨ name = "client" →
      (args.setattr "signature_schemes" "").getattrText name = args.getattrText name := by
    rintro name (rfl | rfl) <;> exact getattrText_schemes_of_ne _ _ (by decide)
  have hsv' := hsv
  have hcv' := hcv
  rw [← hroles "server" (.inl rfl)] at hsv'
  rw [← hroles "client" (.inr rfl)] at hcv'
  refine matrixAxisPlan_eq_ok hcache hcatalog hsv' hcv' ?_
  · intro o ho
    by_cases hs : o = "signature_schemes"
    · -- a blank option always expands
      subst hs
      refine getDimensionMatrixValues_of_blank ?_ _ _ _ _
      rw [getattrText_setattr, if_pos rfl, strip_empty]
    · obtain ⟨w, -, hw⟩ := Dict.get?_zip_of_forall₂ hvals ho
      rw [getDimensionMatrixValues_schemes hs, tlsModeFilterFromArgs_schemes] at hw ⊢
      exact ⟨w, hw⟩

/-- Whether a case gives a tuple does not depend on the signature schemes. -/
theorem caseAxisValue_without_schemes {v s : String} {case : SuiteCase} {k : AxisKey}
    (h : caseAxisValue (args.setattr "signature_schemes" v) case k = .ok s) :
    ∃ s', caseAxisValue (args.setattr "signature_schemes" "") case k = .ok s' := by
  unfold caseAxisValue at h ⊢
  cases hk : case.get? k with
  | some y =>
    rw [hk] at h
    exact ⟨s, h⟩
  | none =>
    rw [hk] at h
    cases k with
    | str name => exact ⟨_, rfl⟩
    | other c => cases h

/-- A loop succeeds when another one does and each of its steps does where the other's does. -/
theorem mapM_ok_of_ok {α β γ : Type} {f : α → Except PyExc β} {g : α → Except PyExc γ} {l : List α}
    {r : List β} (hfg : ∀ a ∈ l, ∀ b, f a = .ok b → ∃ c, g a = .ok c) (h : l.mapM f = .ok r) :
    ∃ r', l.mapM g = .ok r' := by
  rw [mapM_eq_ok] at h
  induction h with
  | nil => exact ⟨[], rfl⟩
  | @cons a b l r hab _ ih =>
    obtain ⟨c, hc⟩ := hfg a List.mem_cons_self b hab
    obtain ⟨r', hr'⟩ := ih fun a ha => hfg a (List.mem_cons_of_mem _ ha)
    exact ⟨c :: r', mapM_eq_ok.mpr (.cons hc (mapM_eq_ok.mp hr'))⟩

theorem suiteCasesToCombos_without_schemes {v : String} {axisKeys : List AxisKey}
    {combos : List (List String)}
    (h : suiteCasesToCombos (args.setattr "signature_schemes" v) axisKeys = .ok combos) :
    ∃ combos', suiteCasesToCombos (args.setattr "signature_schemes" "") axisKeys
      = .ok combos' := by
  refine mapM_ok_of_ok (fun case _ tup htup => ?_) h
  exact mapM_ok_of_ok (fun k _ s hs => caseAxisValue_without_schemes hs) htup

theorem buildMatrixCombos_without_schemes {v : String}
    {built : List AxisKey × List (List String)}
    (h : buildMatrixCombos repo (args.setattr "signature_schemes" v) known = .ok built) :
    ∃ built', buildMatrixCombos repo (args.setattr "signature_schemes" "") known
      = .ok built' := by
  unfold buildMatrixCombos at h
  obtain ⟨plan, hplan, h⟩ := bind_eq_ok.mp h
  obtain ⟨vals, hplan'⟩ := matrixAxisPlan_without_schemes hplan
  unfold buildMatrixCombos
  simp only [bind_eq_ok]
  dsimp only [Args.setattr] at h ⊢
  by_cases hcases : args.suiteCases.getD [] = []
  · exact ⟨_, (plan.1, vals), hplan', if_pos hcases⟩
  · rw [if_neg hcases] at h
    obtain ⟨combos, hcombos, -⟩ := bind_eq_ok.mp h
    obtain ⟨combos', hcombos'⟩ := suiteCasesToCombos_without_schemes hcombos
    refine ⟨(extendAxisKeys (plan.1.map .str) (args.suiteCases.getD []), combos'),
      (plan.1, vals), hplan', ?_⟩
    exact (if_neg hcases).trans (bind_eq_ok.mpr ⟨_, hcombos', rfl⟩)

/-- A suite that gives cells with some signature schemes also gives cells without them. -/
theorem suiteCells_without_schemes {file : SuiteFile} {path v : String}
    (hk : (args.attrs.get? "signature_schemes").isSome) {cells : List (Except PyExc Cell)}
    (h : suiteCells repo file path (args.setattr "signature_schemes" v) = .ok cells) :
    ∃ cells', suiteCells repo file path (args.setattr "signature_schemes" "") = .ok cells' := by
  unfold suiteCells at h ⊢
  obtain ⟨args', happly, h⟩ := bind_eq_ok.mp h
  obtain ⟨built, hbuilt, -⟩ := bind_eq_ok.mp h
  have happly' : ∃ args'', applySuiteFile (args.setattr "signature_schemes" "") path file
      = .ok args'' ∧ ∃ built', buildMatrixCombos repo args'' repo.discoverWrapperIds
        = .ok built' := by
    cases hfile : file.matrix with
    | none =>
      rw [applySuiteFile, hfile] at happly
      cases happly
    | some entries =>
      rw [applySuiteFile_setattr hk _ _ hfile] at happly ⊢
      split at happly
      · -- the suite overrides the schemes: nothing changes
        next hset => exact ⟨args', (if_pos hset).trans happly, built, hbuilt⟩
      · next hset =>
        rw [if_neg hset]
        cases hbase : applySuiteFile args path file with
        | error e => rw [hbase] at happly; cases happly
        | ok base =>
          rw [hbase] at happly
          cases happly
          exact ⟨_, rfl, buildMatrixCombos_without_schemes hbuilt⟩
  obtain ⟨args'', happly', built', hbuilt'⟩ := happly'
  exact ⟨_, bind_eq_ok.mpr ⟨_, happly', bind_eq_ok.mpr ⟨_, hbuilt', rfl⟩⟩⟩

end

/-! ### A scheme no wrapper has -/

theorem schemeTokens_ne_nil : optionChoiceTokens shippedCapsCache "signature_schemes" ≠ [] := by
  decide

set_option maxRecDepth 4000 in
/-- The plan rejects a scheme that is not in the catalog. -/
theorem matrixAxisPlan_unknown_scheme {root : String}
    {certs : String → Option (List UInt8 × List UInt8)} {args : Args} {known : List String}
    {plan : List String × List (List String)}
    (hunknown : args.getattrText "signature_schemes" = "unknown") :
    matrixAxisPlan (shippedRepo root certs) args known ≠ .ok plan := by
  intro h
  unfold matrixAxisPlan at h
  simp only [bind_eq_ok] at h
  obtain ⟨cache, -, catalog, hcatalog, sv, -, cv, -, vals, hvals, -⟩ := h
  rw [discoverWrapperIds_shippedRepo, capsCache_shippedRepo] at hcatalog
  cases hcatalog
  rw [mapM_eq_ok] at hvals
  have hmem : "signature_schemes" ∈ axisOptionIds := by decide
  -- the axis of the schemes is one of those the plan is made of
  obtain ⟨axis, -, haxis⟩ := Dict.get?_zip_of_forall₂ hvals hmem
  rw [getDimensionMatrixValues_of_dimension (by decide) (by decide) schemeTokens_ne_nil,
    hunknown] at haxis
  have hplain : strip "unknown" = "unknown" ∧ isAll "unknown" = false ∧
      allSubtrahend "unknown" = none ∧ splitOnce ':' "unknown" = none := by decide
  obtain ⟨hstrip, hall, hsub, hcolon⟩ := hplain
  -- the text is neither ALL nor ALL without some, and as a token it is refused
  rcases expandCapabilityDimension_cases (if_neg (by decide)) haxis with
    ⟨h, -⟩ | ⟨-, group, h, -⟩ | ⟨-, -, h⟩
  · rw [hstrip, hall] at h
    cases h
  · rw [hstrip, hsub] at h
    cases h
  · have hexp : expandDimension "unknown"
        (choiceTokens (optionChoiceTokens shippedCapsCache "signature_schemes"))
          = expandCsvDimensionTokens "unknown"
            (choiceTokens (optionChoiceTokens shippedCapsCache "signature_schemes")) := by
      decide
    have hbad : (expandCsvDimensionTokens "unknown"
        (choiceTokens (optionChoiceTokens shippedCapsCache "signature_schemes"))).toOption
          = none := by
      decide
    rw [hstrip, expandCapDimTokens, hcolon, if_neg (by decide), hexp] at h
    obtain ⟨l, hl, -⟩ := bind_eq_ok.mp h
    rw [hl] at hbad
    cases hbad

/-- A suite that leaves the schemes alone is refused when the command line names an unknown one. -/
theorem suiteCells_unknown_scheme {root : String}
    {certs : String → Option (List UInt8 × List UInt8)} {file : SuiteFile} {path : String}
    {args : Args} (hk : (args.attrs.get? "signature_schemes").isSome)
    (hset : ¬ SetsSignatureSchemes file) (cells : List (Except PyExc Cell)) :
    suiteCells (shippedRepo root certs) file path (args.setattr "signature_schemes" "unknown")
      ≠ .ok cells := by
  intro h
  unfold suiteCells at h
  obtain ⟨args', happly, h⟩ := bind_eq_ok.mp h
  obtain ⟨built, hbuilt, -⟩ := bind_eq_ok.mp h
  unfold buildMatrixCombos at hbuilt
  obtain ⟨plan, hplan, -⟩ := bind_eq_ok.mp hbuilt
  refine matrixAxisPlan_unknown_scheme ?_ hplan
  cases hfile : file.matrix with
  | none =>
    rw [applySuiteFile, hfile] at happly
    cases happly
  | some entries =>
    have hnot : ¬ ∃ e ∈ entries, strip e.1.text = "signature_schemes" :=
      fun he => hset ⟨entries, hfile, he⟩
    rw [applySuiteFile_setattr hk _ _ hfile, if_neg hnot] at happly
    cases hbase : applySuiteFile args path file with
    | error e => rw [hbase] at happly; cases happly
    | ok base =>
      rw [hbase] at happly
      cases happly
      rw [getattrText_setattr, if_pos rfl]

/-! ### When the suite decides -/

/-- An accepted command line is the default one with its signature schemes assigned. -/
theorem args_schemes (run : SuiteRun) (s : String) :
    run.args { signatureSchemes := s } = (run.args {}).setattr "signature_schemes" s := rfl

theorem enforceSuiteCliExclusivity_schemes (run : SuiteRun) (s : String) :
    enforceSuiteCliExclusivity (run.args { signatureSchemes := s }) = .ok () :=
  (enforceSuiteCliExclusivity_eq_ok_iff run _).mpr rfl

theorem suiteDecides_iff_schemes {root : String}
    {certs : String → Option (List UInt8 × List UInt8)} {run : SuiteRun} {file : SuiteFile} :
    SuiteDecides (shippedRepo root certs) file run ↔ ∀ s t,
      (suiteCells (shippedRepo root certs) file run.suite
          ((run.args {}).setattr "signature_schemes" s)).toOption
        = (suiteCells (shippedRepo root certs) file run.suite
          ((run.args {}).setattr "signature_schemes" t)).toOption := by
  constructor
  · intro h s t
    exact h { signatureSchemes := s } { signatureSchemes := t }
      (enforceSuiteCliExclusivity_schemes run s) (enforceSuiteCliExclusivity_schemes run t)
  · intro h m₁ m₂ h₁ h₂
    rw [(enforceSuiteCliExclusivity_eq_ok_iff run m₁).mp h₁,
      (enforceSuiteCliExclusivity_eq_ok_iff run m₂).mp h₂,
      args_schemes run m₁.signatureSchemes, args_schemes run m₂.signatureSchemes]
    exact h m₁.signatureSchemes m₂.signatureSchemes

/-- **An accepted suite decides its run** exactly when it sets the signature schemes.  A run
that names a scheme no wrapper knows is refused, unless the suite overrides the name. -/
theorem suiteDecides_iff_of_accepted {root : String}
    {certs : String → Option (List UInt8 × List UInt8)} {run : SuiteRun} {file : SuiteFile}
    {cells : List (Except PyExc Cell)}
    (hcells : suiteCells (shippedRepo root certs) file run.suite (run.args {}) = .ok cells) :
    SuiteDecides (shippedRepo root certs) file run ↔ SetsSignatureSchemes file := by
  have hk : ((run.args {}).attrs.get? "signature_schemes").isSome := rfl
  rw [suiteDecides_iff_schemes]
  constructor
  · intro h
    by_contra hset
    have hagree := h "unknown" ""
    rw [← args_schemes run "", hcells] at hagree
    cases hunknown : suiteCells (shippedRepo root certs) file run.suite
        ((run.args {}).setattr "signature_schemes" "unknown") with
    | error e => rw [hunknown] at hagree; cases hagree
    | ok cells' => exact suiteCells_unknown_scheme hk hset cells' hunknown
  · rintro ⟨entries, hfile, hset⟩ s t
    -- both runs go on with the arguments the suite leaves
    unfold suiteCells
    rw [applySuiteFile_setattr hk _ _ hfile, applySuiteFile_setattr hk _ _ hfile, if_pos hset,
      if_pos hset]

/-- A suite that gives no cells without the flag gives none with it. -/
theorem suiteDecides_of_refused {root : String}
    {certs : String → Option (List UInt8 × List UInt8)} {run : SuiteRun} {file : SuiteFile}
    (hrefused : Refused (shippedRepo root certs) file run) :
    SuiteDecides (shippedRepo root certs) file run := by
  have hk : ((run.args {}).attrs.get? "signature_schemes").isSome := rfl
  have hnone : ∀ s, (suiteCells (shippedRepo root certs) file run.suite
      ((run.args {}).setattr "signature_schemes" s)).toOption = none := by
    intro s
    cases hs : suiteCells (shippedRepo root certs) file run.suite
        ((run.args {}).setattr "signature_schemes" s) with
    | error e => rfl
    | ok cells =>
      obtain ⟨cells', hcells'⟩ := suiteCells_without_schemes hk hs
      exact absurd hcells' (hrefused cells')
  rw [suiteDecides_iff_schemes]
  intro s t
  rw [hnone, hnone]

/-- **A suite run depends on the suite only** exactly when the suite sets the
signature schemes itself, or gives no cells at all.  Every other matrix flag is refused
beside a suite; this one is missing from the list of the flags that are. -/
theorem suiteDecides_iff (root : String) (certs : String → Option (List UInt8 × List UInt8))
    (run : SuiteRun) (file : SuiteFile) :
    SuiteDecides (shippedRepo root certs) file run ↔
      SetsSignatureSchemes file ∨ Refused (shippedRepo root certs) file run := by
  by_cases hrefused : Refused (shippedRepo root certs) file run
  · exact iff_of_true (suiteDecides_of_refused hrefused) (.inr hrefused)
  · obtain ⟨cells, hcells⟩ : ∃ cells,
        suiteCells (shippedRepo root certs) file run.suite (run.args {}) = .ok cells := by
      by_contra hnone
      exact hrefused fun cells hcells => hnone ⟨cells, hcells⟩
    rw [suiteDecides_iff_of_accepted hcells, or_iff_left hrefused]

/-! ### A suite that leaves the schemes to the command line -/

theorem tls13_ne_empty : "1.3" ≠ "" := by decide

theorem strip_tls13 : strip "1.3" = "1.3" := by decide

/-- One case, in TLS 1.3, that sets the two roles. -/
def oneCaseSuite : SuiteFile where
  matrix := some [(⟨"tls_version", "'tls_version'"⟩, .num ⟨"1.3", tls13_ne_empty, strip_tls13⟩)]
  cases := .list [some [(.str "server", .str "openssl"), (.str "client", .str "openssl")]]

/-- `--suite suite.yaml`, and nothing else but possibly matrix options. -/
def oneCaseRun : SuiteRun where
  suite := "suite.yaml"
  named := by decide

/-- The cell of the case when the command line asks for the schemes `s`. -/
def oneCaseCell (s : String) : Cell :=
  [(.str "server", "openssl"), (.str "client", "openssl"), (.str "alpn", ""),
    (.str "cipher_suite", ""), (.str "signature_schemes", s), (.str "supported_groups", ""),
    (.str "tls_version", "1.3"), (.str "test_features", "")]

/-- The axes of the suite. -/
def oneCaseAxisKeys : List AxisKey :=
  ["server", "client", "alpn", "cipher_suite", "signature_schemes", "supported_groups",
    "tls_version"].map .str

/-- The arguments the suite leaves of a command line with the schemes `s`. -/
def oneCaseArgs (s : String) : Args where
  attrs := (oneCaseRun.args { tlsVersion := "1.3", signatureSchemes := s }).attrs
  suiteCases := some [[(.str "server", .str "openssl"), (.str "client", .str "openssl")]]

/-- The cells of the suite, when the plan expands the schemes. -/
theorem suiteCells_oneCase {s : String}
    (hexp : ∃ vals, getDimensionMatrixValues "signature_schemes"
      (optionChoiceTokens shippedCapsCache "signature_schemes") (oneCaseArgs s) ["openssl"]
      shippedCapsCache (tlsModeFilterFromArgs (oneCaseArgs s)) = .ok vals)
    (hcombos : suiteCasesToCombos (oneCaseArgs s) oneCaseAxisKeys
      = .ok [["openssl", "openssl", "", "", s, "", "1.3"]])
    (hnorm : normalizeCellTlsMicroParams (shippedRepo "/repo" noCerts)
      (cellOf oneCaseAxisKeys ["openssl", "openssl", "", "", s, "", "1.3"]) (oneCaseArgs s)
        = .ok (oneCaseCell s)) :
    suiteCells (shippedRepo "/repo" noCerts) oneCaseSuite oneCaseRun.suite
      (oneCaseRun.args { signatureSchemes := s }) = .ok [.ok (oneCaseCell s)] := by
  have happly : applySuiteFile (oneCaseRun.args { signatureSchemes := s }) oneCaseRun.suite
      oneCaseSuite = .ok (oneCaseArgs s) := rfl
  -- the documents of the wrappers are the shipped ones
  have hcatalog : capsCache (shippedRepo "/repo" noCerts)
      (shippedRepo "/repo" noCerts).discoverWrapperIds = .ok shippedCapsCache := by
    rw [discoverWrapperIds_shippedRepo]
    exact capsCache_shippedRepo
  -- both sides are OpenSSL
  have hroles : ∀ name, name = "server" ∨ name = "client" →
      expandDimension ((oneCaseArgs s).getattrText name) (sortedSet ["gnutls", "nss", "openssl"])
        = .ok ["openssl"] := by
    have hopenssl : expandDimension "openssl" (sortedSet ["gnutls", "nss", "openssl"])
        = .ok ["openssl"] := by
      decide
    rintro name (rfl | rfl) <;> exact hopenssl
  have hwrappers : sortedSet (["openssl"] ++ ["openssl"]) = ["openssl"] := by decide
  -- of the axes only the version and the schemes have a value
  have hopts : ∀ o ∈ axisOptionIds, ∃ vals,
      getDimensionMatrixValues o (optionChoiceTokens shippedCapsCache o) (oneCaseArgs s)
        (sortedSet (["openssl"] ++ ["openssl"])) shippedCapsCache
        (tlsModeFilterFromArgs (oneCaseArgs s)) = .ok vals := by
    intro o ho
    rw [hwrappers]
    have hids : ∀ o ∈ axisOptionIds, o = "tls_version" ∨ o = "signature_schemes" ∨
        o ∈ ["alpn", "cipher_suite", "supported_groups"] := by decide
    rcases hids o ho with rfl | rfl | hblank
    · have htext : (oneCaseArgs s).getattrText "tls_version" = "1.3" := rfl
      have hversion : expandCapabilityDimension "1.3" "tls_version" ["openssl"] shippedCapsCache
          ["1.2", "1.3"] none = .ok ["1.3"] := by
        decide
      refine ⟨["1.3"], ?_⟩
      rw [optionChoiceTokens_tlsVersion,
        getDimensionMatrixValues_of_dimension (by decide) (by decide) (by decide), htext]
      exact hversion
    · exact hexp
    · refine getDimensionMatrixValues_of_blank ?_ _ _ _ _
      simp only [List.mem_cons, List.not_mem_nil, or_false] at hblank
      rcases hblank with rfl | rfl | rfl <;> exact strip_empty
  -- so there is a plan, and its one combination is that of the case
  obtain ⟨vals, hplan⟩ : ∃ vals, matrixAxisPlan (shippedRepo "/repo" noCerts) (oneCaseArgs s)
      ["gnutls", "nss", "openssl"] = .ok (["server", "client"] ++ axisOptionIds, vals) :=
    matrixAxisPlan_eq_ok capsCache_shippedRepo hcatalog (hroles _ (.inl rfl))
      (hroles _ (.inr rfl)) hopts
  have hbuild : buildMatrixCombos (shippedRepo "/repo" noCerts) (oneCaseArgs s)
      ["gnutls", "nss", "openssl"]
        = .ok (oneCaseAxisKeys, [["openssl", "openssl", "", "", s, "", "1.3"]]) :=
    buildMatrixCombos_eq_ok hplan rfl (List.cons_ne_nil _ _) (by decide) hcombos
  unfold suiteCells
  rw [happly, discoverWrapperIds_shippedRepo]
  refine bind_eq_ok.mpr ⟨_, rfl, bind_eq_ok.mpr ⟨_, hbuild, ?_⟩⟩
  show Except.ok [normalizeCellTlsMicroParams _ _ _] = _
  rw [hnorm]

/-- The plan expands a scheme of the catalog. -/
theorem expandCapabilityDimension_scheme (wrappers : List String)
    (cache : Dict String Capabilities) :
    expandCapabilityDimension "rsa-pss-rsae-sha384" "signature_schemes" wrappers cache
      (optionChoiceTokens shippedCapsCache "signature_schemes") none
        = .ok ["rsa-pss-rsae-sha384"] := by
  have hplain : strip "rsa-pss-rsae-sha384" = "rsa-pss-rsae-sha384" ∧
      isAll "rsa-pss-rsae-sha384" = false ∧ allSubtrahend "rsa-pss-rsae-sha384" = none ∧
      splitOnce ':' "rsa-pss-rsae-sha384" = none := by decide
  obtain ⟨hstrip, hall, hsub, hcolon⟩ := hplain
  have hexp : expandDimension "rsa-pss-rsae-sha384"
      (choiceTokens (optionChoiceTokens shippedCapsCache "signature_schemes"))
        = .ok ["rsa-pss-rsae-sha384"] := by
    decide
  unfold expandCapabilityDimension expandCapDimAllSubtraction expandCapDimTokens
  dsimp only
  rw [hstrip, hall, if_neg Bool.false_ne_true, hsub, hcolon, hexp]
  rfl

/-- `--suite suite.yaml` alone and with `--signature-schemes rsa-pss-rsae-sha384`
both pass the check, and the second one changes the cell of the suite. -/
theorem suite_depends_on_schemes :
    ¬ SuiteDecides (shippedRepo "/repo" noCerts) oneCaseSuite oneCaseRun := by
  intro h
  have hagree := h {} { signatureSchemes := "rsa-pss-rsae-sha384" }
    ((enforceSuiteCliExclusivity_eq_ok_iff _ _).mpr rfl)
    ((enforceSuiteCliExclusivity_eq_ok_iff _ _).mpr rfl)
  have htext : (oneCaseArgs "").getattrText "signature_schemes" = "" := rfl
  have hempty : strip ((oneCaseArgs "").getattrText "signature_schemes") = "" := by
    rw [htext, strip_empty]
  have hblank : suiteCells (shippedRepo "/repo" noCerts) oneCaseSuite oneCaseRun.suite
      (oneCaseRun.args {}) = .ok [.ok (oneCaseCell "")] :=
    suiteCells_oneCase (getDimensionMatrixValues_of_blank hempty _ _ _ _) (by decide)
      (by decide)
  have hexp : getDimensionMatrixValues "signature_schemes"
      (optionChoiceTokens shippedCapsCache "signature_schemes")
      (oneCaseArgs "rsa-pss-rsae-sha384") ["openssl"] shippedCapsCache
      (tlsModeFilterFromArgs (oneCaseArgs "rsa-pss-rsae-sha384"))
        = .ok ["rsa-pss-rsae-sha384"] := by
    rw [getDimensionMatrixValues_of_dimension (by decide) (by decide) schemeTokens_ne_nil]
    exact expandCapabilityDimension_scheme _ _
  have hscheme : suiteCells (shippedRepo "/repo" noCerts) oneCaseSuite oneCaseRun.suite
      (oneCaseRun.args { signatureSchemes := "rsa-pss-rsae-sha384" })
        = .ok [.ok (oneCaseCell "rsa-pss-rsae-sha384")] :=
    suiteCells_oneCase ⟨_, hexp⟩ (by decide) (by decide)
  rw [hblank, hscheme] at hagree
  have hcells : oneCaseCell "" ≠ oneCaseCell "rsa-pss-rsae-sha384" := by decide
  simp only [Except.toOption, Option.some.injEq, List.cons.injEq, Except.ok.injEq, and_true]
    at hagree
  exact hcells hagree

end TlsInterop
