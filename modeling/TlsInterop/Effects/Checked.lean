import TlsInterop.Effects.Prog

/-!
# Sequences of checked calls

A protocol as a list of calls, each with a judgement of its answer: go on, or
stop there with a verdict.  What a run of the protocol ends with is the verdict
of its first answer that is not accepted.

## Main definitions

* `CheckedCall A V` — a call with the judgement of its answer.
* `CheckedCall.Runs cs tr v` — the calls of `cs` are made in order, until one stops with `v`.

## Main results

* `CheckedCall.Runs.accepted`, `CheckedCall.Runs.stopped` — what the events of a
  run are, when it goes through and when it stops.
-/

namespace Effects

/-- A call, and what its answer is taken for: `none` goes on, `some v` stops with `v`. -/
structure CheckedCall {Q : Type} (A : Q → Type) (V : Type) where
  call : Q
  judge : A call → Option V

namespace CheckedCall

variable {Q : Type} {A : Q → Type} {V : Type}

/-- `Runs cs tr v`: the calls of `cs` are made in order, up to the first whose
answer is not accepted; `v` is the verdict of that answer. -/
inductive Runs : List (CheckedCall A V) → List (Event A) → Option V → Prop
  | nil : Runs [] [] none
  | accept {c : CheckedCall A V} {cs : List (CheckedCall A V)} {ans : A c.call}
      {tr : List (Event A)} {v : Option V} (hans : c.judge ans = none) (hrun : Runs cs tr v) :
      Runs (c :: cs) (⟨c.call, ans⟩ :: tr) v
  | stop {c : CheckedCall A V} {cs : List (CheckedCall A V)} {ans : A c.call} {v : V}
      (hans : c.judge ans = some v) : Runs (c :: cs) [⟨c.call, ans⟩] (some v)

/-- An event is an accepted answer to a checked call. -/
def Accepts (c : CheckedCall A V) (e : Event A) : Prop :=
  ∃ ans, e = ⟨c.call, ans⟩ ∧ c.judge ans = none

/-- A run that goes through has made every call, and every answer was accepted. -/
theorem Runs.accepted {cs : List (CheckedCall A V)} {tr : List (Event A)}
    (h : Runs cs tr none) : List.Forall₂ Accepts cs tr := by
  generalize hv : (none : Option V) = v at h
  induction h with
  | nil => exact .nil
  | accept hans _ ih => exact .cons ⟨_, rfl, hans⟩ (ih hv)
  | stop hans => cases hv

/-- A run that stops has made the calls up to the one that stopped it. -/
theorem Runs.stopped {cs : List (CheckedCall A V)} {tr : List (Event A)} {v : V}
    (h : Runs cs tr (some v)) :
    ∃ cs₁ c cs₂ tr₁ ans, cs = cs₁ ++ c :: cs₂ ∧ tr = tr₁ ++ [⟨c.call, ans⟩] ∧
      List.Forall₂ Accepts cs₁ tr₁ ∧ c.judge ans = some v := by
  generalize hv : some v = v' at h
  induction h with
  | nil => cases hv
  | @accept c cs ans tr v' hans _ ih =>
    obtain ⟨cs₁, c', cs₂, tr₁, ans', rfl, rfl, hacc, hstop⟩ := ih hv
    exact ⟨c :: cs₁, c', cs₂, ⟨c.call, ans⟩ :: tr₁, ans', rfl, rfl, .cons ⟨ans, rfl, hans⟩ hacc,
      hstop⟩
  | @stop c cs ans v' hans =>
    cases hv
    exact ⟨[], c, cs, [], ans, rfl, rfl, .nil, hans⟩

/-- A run through two protocols: the second is entered when the first went through. -/
theorem Runs.append {cs cs' : List (CheckedCall A V)} {tr tr' : List (Event A)} {v : Option V}
    (h : Runs cs tr none) (h' : Runs cs' tr' v) : Runs (cs ++ cs') (tr ++ tr') v := by
  generalize hv : (none : Option V) = w at h
  induction h with
  | nil => exact h'
  | accept hans _ ih => exact .accept hans (ih hv)
  | stop hans => cases hv

/-- A protocol that stopped also stops when more would follow. -/
theorem Runs.append_of_stopped {cs cs' : List (CheckedCall A V)} {tr : List (Event A)} {v : V}
    (h : Runs cs tr (some v)) : Runs (cs ++ cs') tr (some v) := by
  generalize hv : some v = w at h
  induction h with
  | nil => cases hv
  | accept hans _ ih => exact .accept hans (ih hv)
  | stop hans => exact .stop hans

end CheckedCall

end Effects
