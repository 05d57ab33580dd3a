import TlsInterop.Py.Dict
import TlsInterop.Py.Text

/-!
# JSON documents and Python exceptions

The capability documents are read by `json.loads` and then inspected by type
tests and truth tests.  `Json` is the value those tests see; numbers are
integers, as in every field of the documents the program converts.

## Main definitions

* `PyExc` — a raised exception: its class and its text.
* `reprStr` — `repr` of a string.
* `Json`, `Json.truthy`, `Json.pyStr` — a document, `bool(v)` and `str(v)`.
* `Json.asDict` — the entries of a value that is a `dict`.
-/

namespace TlsInterop

open Py

/-- The exception classes the modelled code raises or tells apart. -/
inductive ExcClass
  | valueError
  | typeError
  | keyError
  | fileNotFoundError
  | moduleNotFoundError
  | runtimeError
  | timeoutError
  | calledProcessError
  | overflowError
  | osError
  | rpcError
  | brokenPipeError
  | wrapperSetupError
  | wrapperRuntimeError
  | wrapperSkipError
  | named (name : String)
  deriving DecidableEq, Repr

/-- A raised exception: its class and `str(e)`. -/
structure PyExc where
  cls : ExcClass
  msg : String
  deriving DecidableEq, Repr

/-- A computation that succeeds is a first part that succeeds and a rest that does. -/
theorem bind_eq_ok {α β : Type} {x : Except PyExc α} {f : α → Except PyExc β} {b : β} :
    (x >>= f) = .ok b ↔ ∃ a, x = .ok a ∧ f a = .ok b := by
  cases x with
  | error e =>
    constructor
    · intro h; cases h
    · rintro ⟨a, h, -⟩; cases h
  | ok a =>
    constructor
    · intro h; exact ⟨a, rfl, h⟩
    · rintro ⟨a', h, hf⟩; cases h; exact hf

/-- A loop that succeeds has succeeded on every item. -/
theorem mapM_eq_ok {α β : Type} {f : α → Except PyExc β} {l : List α} {r : List β} :
    l.mapM f = .ok r ↔ List.Forall₂ (fun a b => f a = .ok b) l r := by
  induction l generalizing r with
  | nil =>
    rw [List.mapM_nil, List.forall₂_nil_left_iff]
    constructor
    · intro h; cases h; rfl
    · rintro rfl; rfl
  | cons a l ih =>
    simp only [List.mapM_cons, bind_eq_ok, ih, List.forall₂_cons_left_iff, pure, Except.pure,
      Except.ok.injEq]
    constructor
    · rintro ⟨b, hb, bs, hbs, rfl⟩
      exact ⟨b, bs, hb, hbs, rfl⟩
    · rintro ⟨b, bs, hb, hbs, rfl⟩
      exact ⟨b, hb, bs, hbs, rfl⟩

/-- A hexadecimal number with the given number of digits. -/
def hexDigits (width n : ℕ) : List Char :=
  (List.range width).reverse.map fun i => Nat.digitChar (n / 16 ^ i % 16)

/-- How `repr` writes a character that is not printable. -/
def reprEscape (c : Char) : List Char :=
  let n := c.toNat
  if n < 256 then ['\\', 'x'] ++ hexDigits 2 n
  else if n < 65536 then ['\\', 'u'] ++ hexDigits 4 n
  else ['\\', 'U'] ++ hexDigits 8 n

/-- `repr` of a string. -/
def reprStr (s : String) : String :=
  let quote := if s.toList.contains '\'' && !s.toList.contains '"' then '"' else '\''
  let body := s.toList.flatMap fun c =>
    if c = '\\' || c = quote then ['\\', c]
    else if c = '\n' then ['\\', 'n']
    else if c = '\r' then ['\\', 'r']
    else if c = '\t' then ['\\', 't']
    else if isPrintable c then [c]
    else reprEscape c
  String.ofList (quote :: body ++ [quote])

/-- A JSON value as `json.loads` returns it. -/
inductive Json
  | null
  | bool (b : Bool)
  | num (n : ℤ)
  | str (s : String)
  | arr (items : List Json)
  | obj (entries : List (String × Json))

namespace Json

/-- `bool(v)`. -/
def truthy : Json → Bool
  | null => false
  | bool b => b
  | num n => n != 0
  | str s => s != ""
  | arr items => !items.isEmpty
  | obj entries => !entries.isEmpty

mutual

/-- `repr(v)`. -/
def pyRepr : Json → String
  | null => "None"
  | bool b => if b then "True" else "False"
  | num n => toString n
  | str s => reprStr s
  | arr items => "[" ++ String.intercalate ", " (pyReprItems items) ++ "]"
  | obj entries => "\x7b" ++ String.intercalate ", " (pyReprEntries entries) ++ "\x7d"

/-- `repr` of each item of a list. -/
def pyReprItems : List Json → List String
  | [] => []
  | v :: vs => pyRepr v :: pyReprItems vs

/-- `repr` of each entry of a `dict`. -/
def pyReprEntries : List (String × Json) → List String
  | [] => []
  | (k, v) :: es => (reprStr k ++ ": " ++ pyRepr v) :: pyReprEntries es

end

/-- `str(v)`. -/
def pyStr : Json → String
  | str s => s
  | v => pyRepr v

/-- The entries of a value for which `isinstance(v, dict)` holds. -/
def asDict : Json → Option (Dict String Json)
  | obj entries => some entries
  | _ => none

/-- `v is False`. -/
def isFalse : Json → Bool
  | bool b => !b
  | _ => false

/-- What `for x in v` yields; `none` where `v` is not iterable. -/
def iterItems : Json → Option (List Json)
  | arr items => some items
  | obj entries => some (entries.map fun e => str e.1)
  | str s => some (s.toList.map fun c => str (String.ofList [c]))
  | _ => none

/-- `v == "s"` for a string constant. -/
def isStr (s : String) : Json → Bool
  | str t => t == s
  | _ => false

@[simp] theorem pyStr_str (s : String) : (str s).pyStr = s := rfl

@[simp] theorem asDict_obj (entries : List (String × Json)) :
    (obj entries).asDict = some entries := rfl

end Json

end TlsInterop
