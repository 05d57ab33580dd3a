import Mathlib.Tactic

/-!
# Insertion-ordered dictionaries

Python's `dict`, as the list of its entries in insertion order.  Assigning to
a present key keeps its place; assigning to a new one appends.

## Main definitions

* `Dict.get? d k`, `Dict.set d k v` — `d.get(k)` and `d[k] = v`.
* `Dict.ofPairs l` — `dict(l)`: the entries of `l`, a later one overriding an earlier one.

## Main results

* `get?_set` — what an assignment changes, and that it changes nothing else.
* `get?_ofPairs_zip` — a dictionary zipped from keys and values computed from them.
-/

namespace Py

/-- A Python dictionary: its entries in insertion order. -/
abbrev Dict (κ ν : Type*) := List (κ × ν)

namespace Dict

variable {κ ν : Type*} [DecidableEq κ]

/-- `d.get(k)`. -/
def get? : Dict κ ν → κ → Option ν
  | [], _ => none
  | e :: d, k => if e.1 = k then some e.2 else get? d k

/-- `d[k] = v`. -/
def set : Dict κ ν → κ → ν → Dict κ ν
  | [], k, v => [(k, v)]
  | e :: d, k, v => if e.1 = k then (k, v) :: d else e :: set d k v

/-- `dict(l)`. -/
def ofPairs (l : List (κ × ν)) : Dict κ ν := l.foldl (fun d e => d.set e.1 e.2) []

@[simp] theorem get?_nil (k : κ) : get? ([] : Dict κ ν) k = none := rfl

@[simp] theorem get?_cons (e : κ × ν) (d : Dict κ ν) (k : κ) :
    get? (e :: d) k = if e.1 = k then some e.2 else get? d k := rfl

/-- What an assignment changes, and that it changes nothing else. -/
@[simp] theorem get?_set (d : Dict κ ν) (k k' : κ) (v : ν) :
    (d.set k v).get? k' = if k = k' then some v else d.get? k' := by
  induction d with
  | nil => rfl
  | cons e d ih =>
    unfold set
    split
    · next h =>
      simp only [get?_cons, h]
      split <;> rfl
    · next h =>
      simp only [get?_cons, ih]
      split
      · next he =>
        rw [if_neg]
        rintro rfl
        exact h he
      · rfl

theorem get?_set_of_ne {k k' : κ} (h : k ≠ k') (d : Dict κ ν) (v : ν) :
    (d.set k v).get? k' = d.get? k' := by
  rw [get?_set, if_neg h]

theorem set_cons (e : κ × ν) (d : Dict κ ν) (k : κ) (v : ν) :
    set (e :: d) k v = if e.1 = k then (k, v) :: d else e :: set d k v := rfl

/-- Assigning twice to one key is the second assignment. -/
theorem set_set (d : Dict κ ν) (k : κ) (v w : ν) : (d.set k v).set k w = d.set k w := by
  induction d with
  | nil => exact if_pos rfl
  | cons e d ih =>
    rw [set_cons, set_cons]
    by_cases h : e.1 = k
    · rw [if_pos h, if_pos h, set_cons, if_pos rfl]
    · rw [if_neg h, if_neg h, set_cons, if_neg h, ih]

/-- Assignments to two keys commute when one of them has its place already. -/
theorem set_comm {k k' : κ} (hne : k ≠ k') {d : Dict κ ν} (hk : (d.get? k).isSome) (v w : ν) :
    (d.set k v).set k' w = (d.set k' w).set k v := by
  induction d with
  | nil => cases hk
  | cons e d ih =>
    rw [set_cons, set_cons]
    by_cases he : e.1 = k
    · have he' : e.1 ≠ k' := fun h => hne (he ▸ h)
      rw [if_pos he, if_neg he', set_cons, set_cons, if_neg hne, if_pos he]
    · rw [get?_cons, if_neg he] at hk
      by_cases he' : e.1 = k'
      · rw [if_neg he, if_pos he', set_cons, set_cons, if_pos he', if_neg (Ne.symm hne)]
      · rw [if_neg he, if_neg he', set_cons, set_cons, if_neg he', if_neg he, ih hk]

/-- A present key is among the entries. -/
theorem mem_of_get? {d : Dict κ ν} {k : κ} {v : ν} (h : d.get? k = some v) : (k, v) ∈ d := by
  induction d with
  | nil => simp at h
  | cons e d ih =>
    rw [get?_cons] at h
    split at h
    · next he =>
      rw [Option.some.injEq] at h
      subst he h
      exact List.mem_cons_self
    · exact List.mem_cons_of_mem _ (ih h)

theorem get?_isSome_iff {d : Dict κ ν} {k : κ} : (d.get? k).isSome ↔ k ∈ d.map Prod.fst := by
  induction d with
  | nil => simp
  | cons e d ih =>
    rw [get?_cons, List.map_cons, List.mem_cons]
    split
    · next he => simp [he]
    · next he => rw [ih]; simp [Ne.symm he]

/-- In a dictionary, whose keys are unique, an entry is what its key gives. -/
theorem get?_eq_some_iff_mem {d : Dict κ ν} (hd : (d.map Prod.fst).Nodup) {k : κ} {v : ν} :
    d.get? k = some v ↔ (k, v) ∈ d := by
  refine ⟨mem_of_get?, fun hmem => ?_⟩
  induction d with
  | nil => cases hmem
  | cons e d ih =>
    rw [List.map_cons, List.nodup_cons] at hd
    rw [get?_cons]
    rcases List.mem_cons.mp hmem with rfl | hmem
    · rw [if_pos rfl]
    · have hne : e.1 ≠ k := by
        intro he
        have hkey : k ∈ d.map Prod.fst := List.mem_map.mpr ⟨(k, v), hmem, rfl⟩
        exact hd.1 (he ▸ hkey)
      rw [if_neg hne, ih hd.2 hmem]

/-- Assigning a list of entries whose values depend on the key alone. -/
theorem get?_foldl_set {f : κ → ν} (l : List κ) (d : Dict κ ν) (k : κ) :
    ((l.map fun x => (x, f x)).foldl (fun d e => d.set e.1 e.2) d).get? k
      = if k ∈ l then some (f k) else d.get? k := by
  induction l generalizing d with
  | nil => simp
  | cons x l ih =>
    rw [List.map_cons, List.foldl_cons, ih, get?_set]
    by_cases hx : x = k
    · simp [hx]
    · simp [hx, Ne.symm hx]

/-- A dictionary zipped from keys and the values computed from them. -/
theorem get?_ofPairs_zip (f : κ → ν) (l : List κ) (k : κ) :
    (ofPairs (l.zip (l.map f))).get? k = if k ∈ l then some (f k) else none := by
  have hzip : l.zip (l.map f) = l.map fun x => (x, f x) := by
    induction l with
    | nil => rfl
    | cons x l ih => rw [List.map_cons, List.zip_cons_cons, ih]; rfl
  rw [ofPairs, hzip, get?_foldl_set]
  rfl

/-- A dictionary zipped from two related lists relates each key to its value. -/
theorem get?_zip_of_forall₂ {R : κ → ν → Prop} {l : List κ} {r : List ν} (h : List.Forall₂ R l r)
    {k : κ} (hk : k ∈ l) : ∃ v, get? (l.zip r) k = some v ∧ R k v := by
  induction h with
  | nil => cases hk
  | @cons a b l r hab _ ih =>
    rw [List.zip_cons_cons, get?_cons]
    by_cases ha : a = k
    · subst ha
      exact ⟨b, if_pos rfl, hab⟩
    · rw [if_neg ha]
      exact ih (List.mem_of_ne_of_mem (Ne.symm ha) hk)

end Dict

end Py
