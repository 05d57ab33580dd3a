import TlsInterop.Core.Catalog

/-!
# Matrix cells, suite cases and parsed arguments

The three records every stage passes around: the cell (one assignment of values
to the axes of the matrix), the case of a suite file, and the `argparse`
namespace the options are read from.

## Main definitions

* `AxisKey`, `Cell`, `Cell.field` — axes, cells, and `cell.get(name) or ""`.
* `Yaml`, `SuiteCase` — the values of a suite file and one entry of its `cases`.
* `ArgVal`, `Args`, `Args.getattrText` — the namespace, and
  `str(getattr(args, name, "") or "")`.
* `defaultArgs` — the namespace of an empty command line.
-/

namespace TlsInterop

open Py

/-! ### Cells -/

/-- The key of an axis.  A suite case may use any YAML scalar as a key; keys
that are not strings are told apart by `other`, up to Python's equality. -/
inductive AxisKey
  | str (s : String)
  | other (canonical : String)
  deriving DecidableEq, Repr

/-- One cell of the matrix. -/
abbrev Cell := Dict AxisKey String

namespace Cell

/-- `cell.get(name) or ""`. -/
def field (cell : Cell) (name : String) : String := (cell.get? (.str name)).getD ""

/-- `cell[name] = v`. -/
def setField (cell : Cell) (name v : String) : Cell := cell.set (.str name) v

@[simp] theorem get?_setField (cell : Cell) (k : AxisKey) (name v : String) :
    (cell.setField name v).get? k = if .str name = k then some v else cell.get? k :=
  Dict.get?_set ..

@[simp] theorem field_setField (cell : Cell) (k name v : String) :
    (cell.setField k v).field name = if k = name then v else cell.field name := by
  by_cases h : k = name <;> simp [field, h]

end Cell

/-! ### Suite values -/

/-- `str` of a YAML number: never empty and without outer whitespace. -/
structure NumText where
  text : String
  ne_empty : text ≠ ""
  stripped : strip text = text

/-- A YAML value, as far as the coercion of matrix values looks at it: the
items of a list and the keys of a mapping appear as `str` renders them, and a
mapping's flags as whether the value `is True`. -/
inductive Yaml
  | null
  | bool (b : Bool)
  | num (n : NumText)
  | str (s : String)
  | list (items : List String)
  | dict (entries : List (String × Bool))
  | other (text : String)

/-- One entry of a suite file's `cases`. -/
abbrev SuiteCase := Dict AxisKey Yaml

/-! ### Arguments -/

/-- The value of an attribute of the namespace. -/
inductive ArgVal
  | none
  | bool (b : Bool)
  | int (n : ℤ)
  | str (s : String)
  deriving DecidableEq, Repr

namespace ArgVal

/-- `bool(v)`. -/
def truthy : ArgVal → Bool
  | none => false
  | bool b => b
  | int n => n != 0
  | str s => s != ""

/-- `str(v)`. -/
def pyStr : ArgVal → String
  | none => "None"
  | bool b => if b then "True" else "False"
  | int n => toString n
  | str s => s

/-- `int(v)`. -/
def toInt : ArgVal → Except PyExc ℤ
  | none => .error
      ⟨.typeError, "int() argument must be a string or a number, not 'NoneType'"⟩
  | bool b => .ok (if b then 1 else 0)
  | int n => .ok n
  | str s => match parseInt s with
    | some n => .ok n
    | Option.none => .error
        ⟨.valueError, "invalid literal for int() with base 10: " ++ reprStr s⟩

end ArgVal

/-- The parsed arguments: the attributes the parser sets, and the suite's cases
once a suite file has been applied. -/
structure Args where
  attrs : Dict String ArgVal
  suiteCases : Option (List SuiteCase)

namespace Args

/-- `getattr(args, name, "") or ""`, as a string. -/
def getattrText (args : Args) (name : String) : String :=
  match args.attrs.get? name with
  | some v => if v.truthy then v.pyStr else ""
  | none => ""

/-- `int(getattr(args, name, 0) or 0)`. -/
def getattrInt (args : Args) (name : String) : Except PyExc ℤ :=
  match args.attrs.get? name with
  | some v => if v.truthy then v.toInt else .ok 0
  | none => .ok 0

end Args

/-- What `build_parser` makes of an empty command line. -/
def defaultArgs : Args where
  attrs :=
    [("list_wrappers", .bool false), ("list_options", .bool false), ("suite", .none),
      ("server", .str "openssl"), ("client", .str "openssl"), ("tls_port", .int 0),
      ("verbose", .bool false), ("attach", .bool false), ("jobs", .int 1),
      ("cipher_suite", .str ""), ("tls_version", .str ""), ("alpn", .str ""),
      ("supported_groups", .str ""), ("signature_schemes", .str ""), ("test_features", .str "")]
  suiteCases := none

end TlsInterop
