import TlsInterop.Core.Matrix

/-!
# Suite files

The model of `core/suite.py`, and of `build_matrix_combos` and the construction
of a cell in `main.py`: how a value of a suite file becomes text, how the
`matrix` block overrides the arguments, and how each case becomes a tuple of
axis values.

## Main definitions

* `coerceSuiteMatrixValue` — the text of a suite value.
* `SuiteFile`, `applySuiteFile` — a parsed suite file and what it does to the arguments.
* `suiteCasesToCombos`, `buildMatrixCombos`, `cellOf` — from cases to cells.

## Main results

* `strip_ne_empty_of_coerce` — a non-empty text has something to strip down to.
* `cellOf_get?_of_case` — a cell holds what its case sets.
-/

namespace TlsInterop

open Py

/-! ### Values -/

/-- `",".join(str(x).strip() for x in items if str(x).strip())`. -/
def joinStripped (items : List String) : String :=
  String.intercalate "," ((items.map strip).filter (· ≠ ""))

/-- `_coerce_suite_mapping`. -/
def coerceSuiteMapping (entries : List (String × Bool)) (key : AxisKey) : Except PyExc String :=
  if key ≠ .str "test_features" then
    .error ⟨.valueError, "Suite matrix values must be scalars or lists"⟩
  else .ok (joinStripped ((entries.filter fun e => e.2).map Prod.fst))

/-- `coerce_suite_matrix_value`. -/
def coerceSuiteMatrixValue (value : Yaml) (key : AxisKey) : Except PyExc String :=
  match value with
  | .null => .ok ""
  | .bool b => .ok (if b then "true" else "false")
  | .num n => .ok n.text
  | .list items => .ok (joinStripped items)
  | .dict entries => coerceSuiteMapping entries key
  | .str s => .ok (strip s)
  | .other text => .ok (strip text)

/-! ### The file -/

/-- A key of the `matrix` mapping: its `str` and its `repr`. -/
structure SuiteKey where
  text : String
  shown : String

/-- The node under `cases` or `configurations`: absent or null, a list with
`none` for the items that are no mappings, or anything else. -/
inductive CasesNode
  | null
  | list (items : List (Option SuiteCase))
  | other (truthy : Bool)

namespace CasesNode

/-- `bool(node)`. -/
def truthy : CasesNode → Bool
  | null => false
  | list items => !items.isEmpty
  | other b => b

end CasesNode

/-- What is read of a suite file that parses as a mapping; no `matrix` when that
key is missing or holds no mapping. -/
structure SuiteFile where
  matrix : Option (List (SuiteKey × Yaml))
  cases : CasesNode := .null
  configurations : CasesNode := .null

namespace SuiteFile

/-- `raw.get("cases") or raw.get("configurations")`. -/
def casesNode (file : SuiteFile) : CasesNode :=
  if file.cases.truthy then file.cases else file.configurations

end SuiteFile

/-- The attributes every namespace has from its class. -/
def namespaceClassAttrs : List String :=
  ["__class__", "__contains__", "__delattr__", "__dict__", "__dir__", "__doc__", "__eq__",
    "__format__", "__ge__", "__getattribute__", "__getstate__", "__gt__", "__hash__", "__init__",
    "__init_subclass__", "__le__", "__lt__", "__module__", "__ne__", "__new__", "__reduce__",
    "__reduce_ex__", "__repr__", "__setattr__", "__sizeof__", "__str__", "__subclasshook__",
    "__weakref__", "_get_args", "_get_kwargs"]

/-- The ones among them that cannot be set to a string, and what setting them raises. -/
def lockedAttrs : Dict String PyExc :=
  [("__class__", ⟨.typeError, "__class__ must be set to a class, not 'str' object"⟩),
    ("__dict__", ⟨.typeError, "__dict__ must be set to a dictionary, not a 'str'"⟩),
    ("__weakref__", ⟨.named "AttributeError",
      "attribute '__weakref__' of '_AttributeHolder' objects is not writable"⟩)]

/-- `hasattr(args, dest)`, for a namespace without suite cases. -/
def Args.hasattr (args : Args) (dest : String) : Bool :=
  (args.attrs.get? dest).isSome || decide (dest ∈ namespaceClassAttrs)

/-- The namespace with a string under an attribute. -/
def Args.setattr (args : Args) (dest v : String) : Args :=
  { args with attrs := args.attrs.set dest (.str v) }

/-- `setattr(args, dest, v)` for a string. -/
def Args.trySetattr (args : Args) (dest v : String) : Except PyExc Args :=
  match lockedAttrs.get? dest with
  | some e => .error e
  | none => .ok (args.setattr dest v)

/-- One entry of `_apply_suite_matrix`. -/
def applySuiteMatrixEntry (path : String) (args : Args) (entry : SuiteKey × Yaml) :
    Except PyExc Args := do
  let dest := strip entry.1.text
  if dest = "" ∨ args.hasattr dest = false then
    .error ⟨.valueError, "suite " ++ path ++ ": invalid matrix key " ++ entry.1.shown⟩
  else
    let v ← coerceSuiteMatrixValue entry.2 (.str dest)
    args.trySetattr dest v

/-- `_apply_suite_matrix`. -/
def applySuiteMatrix (args : Args) (entries : List (SuiteKey × Yaml)) (path : String) :
    Except PyExc Args :=
  entries.foldlM (applySuiteMatrixEntry path) args

/-- `_apply_suite_cases`. -/
def applySuiteCases (args : Args) (file : SuiteFile) (path : String) : Except PyExc Args :=
  match file.casesNode with
  | .null => .ok args
  | .list items =>
    match items.mapM id with
    | some cases => .ok { args with suiteCases := some cases }
    | none => .error ⟨.valueError, "suite " ++ path ++ ": 'cases' must be a list of mappings"⟩
  | .other _ => .error ⟨.valueError, "suite " ++ path ++ ": 'cases' must be a list of mappings"⟩

/-- `apply_suite_file`, once the file has been read and parsed. -/
def applySuiteFile (args : Args) (path : String) (file : SuiteFile) : Except PyExc Args :=
  match file.matrix with
  | none => .error ⟨.valueError, "suite " ++ path ++ ": missing or invalid 'matrix' mapping"⟩
  | some entries => do applySuiteCases (← applySuiteMatrix args entries path) file path

/-! ### Combinations -/

/-- `str(getattr(args, k, "") or "")`, which needs a string for `k`. -/
def Args.axisDefault (args : Args) (k : AxisKey) : Except PyExc String :=
  match k with
  | .str name => .ok (args.getattrText name)
  | .other _ => .error ⟨.typeError, "attribute name must be string"⟩

/-- The value of one axis for one case. -/
def caseAxisValue (args : Args) (case : SuiteCase) (k : AxisKey) : Except PyExc String :=
  match case.get? k with
  | some v => coerceSuiteMatrixValue v k
  | none => args.axisDefault k

/-- `suite_cases_to_combos`. -/
def suiteCasesToCombos (args : Args) (axisKeys : List AxisKey) :
    Except PyExc (List (List String)) :=
  (args.suiteCases.getD []).mapM fun case => axisKeys.mapM (caseAxisValue args case)

/-- The axis keys, followed by the new keys of each case. -/
def extendAxisKeys (axisKeys : List AxisKey) (cases : List SuiteCase) : List AxisKey :=
  (cases.flatMap fun case => case.map Prod.fst).foldl
    (fun keys k => if k ∈ keys then keys else keys ++ [k]) axisKeys

/-- `itertools.product`. -/
def product {α : Type} : List (List α) → List (List α)
  | [] => [[]]
  | vals :: rest => vals.flatMap fun v => (product rest).map fun tup => v :: tup

/-- `build_matrix_combos`. -/
def buildMatrixCombos (repo : Repo) (args : Args) (known : List String) :
    Except PyExc (List AxisKey × List (List String)) := do
  let plan ← matrixAxisPlan repo args known
  let axisKeys := plan.1.map AxisKey.str
  let cases := args.suiteCases.getD []
  if cases = [] then pure (axisKeys, product plan.2)
  else
    let combos ← suiteCasesToCombos args (extendAxisKeys axisKeys cases)
    pure (extendAxisKeys axisKeys cases, combos)

/-- `{k: str(v) for k, v in zip(axis_keys, tup)}`. -/
def cellOf (axisKeys : List AxisKey) (tup : List String) : Cell := Dict.ofPairs (axisKeys.zip tup)

/-! ### A coerced value is not blank -/

theorem strip_joinStripped_ne_empty {items : List String} (h : joinStripped items ≠ "") :
    strip (joinStripped items) ≠ "" := by
  unfold joinStripped at h ⊢
  cases htoks : (items.map strip).filter (· ≠ "") with
  | nil => rw [htoks] at h; exact absurd String.intercalate_nil h
  | cons tok toks =>
    have hmem : tok ∈ (items.map strip).filter (· ≠ "") := by rw [htoks]; exact List.mem_cons_self
    obtain ⟨hmap, hne⟩ := List.mem_filter.mp hmem
    obtain ⟨x, -, rfl⟩ := List.mem_map.mp hmap
    have htok : strip (strip x) ≠ "" := by simpa using hne
    cases toks with
    | nil => rwa [String.intercalate_singleton]
    | cons tok' toks =>
      rw [String.intercalate_cons_cons, String.append_assoc]
      exact strip_append_ne_empty htok _

/-- A non-empty coerced value has something to strip down to. -/
theorem strip_ne_empty_of_coerce {value : Yaml} {key : AxisKey} {s : String}
    (h : coerceSuiteMatrixValue value key = .ok s) (hne : s ≠ "") : strip s ≠ "" := by
  cases value with
  | null => cases h; exact absurd rfl hne
  | bool b => cases h; cases b <;> decide
  | num n => cases h; rw [n.stripped]; exact n.ne_empty
  | list items => cases h; exact strip_joinStripped_ne_empty hne
  | dict entries =>
    change coerceSuiteMapping entries key = .ok s at h
    unfold coerceSuiteMapping at h
    split at h
    · cases h
    · cases h; exact strip_joinStripped_ne_empty hne
  | str t => cases h; rwa [strip_strip]
  | other t => cases h; rwa [strip_strip]

/-! ### A cell holds what its case sets -/

theorem mem_foldl_extend {α : Type} [DecidableEq α] (new keys : List α) (k : α) :
    k ∈ new.foldl (fun keys k => if k ∈ keys then keys else keys ++ [k]) keys
      ↔ k ∈ keys ∨ k ∈ new := by
  induction new generalizing keys with
  | nil => simp
  | cons x new ih =>
    rw [List.foldl_cons, ih]
    split
    · next hx =>
      constructor
      · rintro (h | h)
        · exact .inl h
        · exact .inr (List.mem_cons_of_mem _ h)
      · rintro (h | h)
        · exact .inl h
        · rcases List.mem_cons.mp h with rfl | h
          · exact .inl hx
          · exact .inr h
    · simp [or_assoc]

/-- The extended axes are the planned ones and the keys of the cases. -/
theorem mem_extendAxisKeys {axisKeys : List AxisKey} {cases : List SuiteCase} {k : AxisKey} :
    k ∈ extendAxisKeys axisKeys cases ↔
      k ∈ axisKeys ∨ ∃ case ∈ cases, k ∈ case.map Prod.fst := by
  rw [extendAxisKeys, mem_foldl_extend, List.mem_flatMap]

/-- A cell zipped from a tuple holds the computed value of each axis. -/
theorem cellOf_get?_of_mapM {axisKeys : List AxisKey} {tup : List String}
    {f : AxisKey → Except PyExc String} (htup : axisKeys.mapM f = .ok tup) {k : AxisKey}
    (hk : k ∈ axisKeys) {s : String} (hs : f k = .ok s) : (cellOf axisKeys tup).get? k = some s := by
  have hmap : tup = axisKeys.map fun k => ((f k).toOption).getD "" := by
    rw [mapM_eq_ok] at htup
    clear hk
    induction htup with
    | nil => rfl
    | cons hab _ ih => rw [List.map_cons, ih, hab]; rfl
  rw [cellOf, hmap, Dict.get?_ofPairs_zip, if_pos hk, hs]
  rfl

theorem mapM_id_map_some {α : Type} (l : List α) : (l.map some).mapM id = some l := by
  induction l with
  | nil => rfl
  | cons x l ih => rw [List.map_cons, List.mapM_cons, ih]; rfl

/-- Applying a suite file gives the arguments the cases of the file. -/
theorem applySuiteFile_suiteCases {args args' : Args} {path : String} {file : SuiteFile}
    {cases : List SuiteCase} (h : applySuiteFile args path file = .ok args')
    (hfile : file.casesNode = .list (cases.map some)) : args'.suiteCases = some cases := by
  unfold applySuiteFile at h
  split at h
  · cases h
  · obtain ⟨args₁, -, h⟩ := bind_eq_ok.mp h
    unfold applySuiteCases at h
    rw [hfile] at h
    dsimp only at h
    rw [mapM_id_map_some] at h
    cases h
    rfl

/-- The combinations of a suite with cases, once the plan is made. -/
theorem buildMatrixCombos_eq_ok {repo : Repo} {args : Args} {known keys : List String}
    {vals : List (List String)} {cases : List SuiteCase} {axisKeys : List AxisKey}
    {combos : List (List String)} (hplan : matrixAxisPlan repo args known = .ok (keys, vals))
    (hcases : args.suiteCases = some cases) (hne : cases ≠ [])
    (hkeys : extendAxisKeys (keys.map .str) cases = axisKeys)
    (hcombos : suiteCasesToCombos args axisKeys = .ok combos) :
    buildMatrixCombos repo args known = .ok (axisKeys, combos) := by
  unfold buildMatrixCombos
  refine bind_eq_ok.mpr ⟨_, hplan, ?_⟩
  dsimp only
  rw [hcases, Option.getD_some, if_neg hne, hkeys]
  exact bind_eq_ok.mpr ⟨_, hcombos, rfl⟩

/-- The tuple of a case, and the keys it is zipped with. -/
theorem buildMatrixCombos_of_case {repo : Repo} {args : Args} {known : List String}
    {axisKeys : List AxisKey} {combos : List (List String)} {cases : List SuiteCase} {i : ℕ}
    {case : SuiteCase} {tup : List String}
    (hbuild : buildMatrixCombos repo args known = .ok (axisKeys, combos))
    (hcases : args.suiteCases = some cases) (hcase : cases[i]? = some case)
    (htup : combos[i]? = some tup) :
    axisKeys.mapM (caseAxisValue args case) = .ok tup ∧ ∀ k ∈ case.map Prod.fst, k ∈ axisKeys := by
  unfold buildMatrixCombos at hbuild
  obtain ⟨plan, -, hbuild⟩ := bind_eq_ok.mp hbuild
  rw [hcases, Option.getD_some] at hbuild
  have hmem : case ∈ cases := List.mem_of_getElem? hcase
  dsimp only at hbuild
  rw [if_neg (List.ne_nil_of_mem hmem)] at hbuild
  obtain ⟨combos', hcombos, hbuild⟩ := bind_eq_ok.mp hbuild
  cases hbuild
  constructor
  · rw [suiteCasesToCombos, hcases, Option.getD_some, mapM_eq_ok] at hcombos
    have hi : i < cases.length := (List.getElem?_eq_some_iff.mp hcase).1
    have hrow := hcombos.get hi (hcombos.length_eq ▸ hi)
    rw [List.getElem?_eq_some_iff] at hcase htup
    obtain ⟨_, rfl⟩ := hcase
    obtain ⟨_, rfl⟩ := htup
    exact hrow
  · exact fun k hk => mem_extendAxisKeys.mpr (.inr ⟨case, hmem, hk⟩)

/-- **A cell holds what its case sets**, before it is normalised. -/
theorem cellOf_get?_of_case {repo : Repo} {args : Args} {known : List String}
    {axisKeys : List AxisKey} {combos : List (List String)} {cases : List SuiteCase} {i : ℕ}
    {case : SuiteCase} {tup : List String} {k : AxisKey} {v : Yaml} {s : String}
    (hbuild : buildMatrixCombos repo args known = .ok (axisKeys, combos))
    (hcases : args.suiteCases = some cases) (hcase : cases[i]? = some case)
    (htup : combos[i]? = some tup) (hk : case.get? k = some v)
    (hs : coerceSuiteMatrixValue v k = .ok s) : (cellOf axisKeys tup).get? k = some s := by
  obtain ⟨hrow, hkeys⟩ := buildMatrixCombos_of_case hbuild hcases hcase htup
  have hkey : k ∈ case.map Prod.fst := Dict.get?_isSome_iff.mp (by simp [hk])
  refine cellOf_get?_of_mapM hrow (hkeys k hkey) ?_
  rw [caseAxisValue, hk]
  exact hs

end TlsInterop
