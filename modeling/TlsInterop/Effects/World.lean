import TlsInterop.Effects.Eff

/-!
# Environments with a state

A relation says what each call with its answer does to a state of the
environment.  A trace then takes the environment from one state to another, and
an invariant can relate the states of a program to those of the environment.

## Main definitions

* `Evolves` — what the events of a trace do to the state of the environment.
* `answering` — the environment that answers in its state, and goes on to the next one.
* `Eff.keeping` — the runs that keep an invariant, and make their calls in the states
  of the environment that allow them.

## Main results

* `evolves_append_iff` — a trace in two parts.
* `evolves_exec` — what a run in such an environment does to its state.
* `Evolves.map`, `Evolves.unmap` — the events of a part of the calls.
* `Eff.keeping_single` — what a single event has to keep.
-/

namespace Effects

/-- What the events of a trace do to the state of the environment. -/
inductive Evolves {E W : Type} (Step : W → E → W → Prop) : W → List E → W → Prop
  | nil (w : W) : Evolves Step w [] w
  | cons {w w₁ w' : W} {e : E} {tr : List E} :
      Step w e w₁ → Evolves Step w₁ tr w' → Evolves Step w (e :: tr) w'

section

variable {E W : Type} {Step : W → E → W → Prop} {w w' : W} {e : E} {tr tr' : List E}

theorem evolves_nil_iff : Evolves Step w [] w' ↔ w' = w := by
  constructor
  · intro h
    cases h
    rfl
  · rintro rfl
    exact .nil w'

theorem evolves_cons_iff :
    Evolves Step w (e :: tr) w' ↔ ∃ w₁, Step w e w₁ ∧ Evolves Step w₁ tr w' := by
  constructor
  · intro h
    cases h with
    | cons hstep hrest => exact ⟨_, hstep, hrest⟩
  · rintro ⟨w₁, hstep, hrest⟩
    exact .cons hstep hrest

theorem evolves_singleton_iff : Evolves Step w [e] w' ↔ Step w e w' := by
  simp only [evolves_cons_iff, evolves_nil_iff, exists_eq_right']

/-- A trace in two parts goes through a state in between. -/
theorem evolves_append_iff :
    Evolves Step w (tr ++ tr') w' ↔ ∃ w₁, Evolves Step w tr w₁ ∧ Evolves Step w₁ tr' w' := by
  induction tr generalizing w with
  | nil => simp only [List.nil_append, evolves_nil_iff, exists_eq_left]
  | cons e tr ih =>
    simp only [List.cons_append, evolves_cons_iff, ih]
    constructor
    · rintro ⟨w₁, hstep, w₂, hfirst, hrest⟩
      exact ⟨w₂, ⟨w₁, hstep, hfirst⟩, hrest⟩
    · rintro ⟨w₂, ⟨w₁, hstep, hfirst⟩, hrest⟩
      exact ⟨w₁, hstep, w₂, hfirst, hrest⟩

/-- Events that change nothing. -/
theorem Evolves.eq_of_idle (h : Evolves Step w tr w')
    (hidle : ∀ e ∈ tr, ∀ w w', Step w e w' → w' = w) : w' = w := by
  induction h with
  | nil w => rfl
  | cons hstep _ ih =>
    have hhead := hidle _ List.mem_cons_self _ _ hstep
    rw [ih fun e he => hidle e (List.mem_cons_of_mem _ he), hhead]

/-- The events of a part of the calls, among those of all of them. -/
theorem Evolves.unmap {E' : Type} {Step' : W → E' → W → Prop} {f : E → E'}
    (hf : ∀ w e w', Step' w (f e) w' → Step w e w') (h : Evolves Step' w (tr.map f) w') :
    Evolves Step w tr w' := by
  induction tr generalizing w with
  | nil =>
    obtain rfl := evolves_nil_iff.mp h
    exact .nil w'
  | cons e tr ih =>
    rw [List.map_cons, evolves_cons_iff] at h
    obtain ⟨w₁, hstep, hrest⟩ := h
    exact .cons (hf _ _ _ hstep) (ih hrest)

theorem Evolves.map {E' : Type} {Step' : W → E' → W → Prop} {f : E → E'}
    (hf : ∀ w e w', Step w e w' → Step' w (f e) w') (h : Evolves Step w tr w') :
    Evolves Step' w (tr.map f) w' := by
  induction h with
  | nil w => exact .nil w
  | cons hstep _ ih => exact .cons (hf _ _ _ hstep) ih

/-- Every event of the trace happens in a state that allows it. -/
def Allowed (Step : W → E → W → Prop) (Ok : W → E → Prop) (w : W) (tr : List E) (w' : W) : Prop :=
  ∀ tr₁ e tr₂ w₁, tr = tr₁ ++ e :: tr₂ → Evolves Step w tr₁ w₁ → Evolves Step w₁ (e :: tr₂) w' →
    Ok w₁ e

theorem allowed_nil {Ok : W → E → Prop} : Allowed Step Ok w [] w' := by
  intro tr₁ e tr₂ w₁ h
  cases tr₁ <;> cases h

theorem allowed_singleton {Ok : W → E → Prop} (h : Step w e w' → Ok w e) :
    Allowed Step Ok w [e] w' := by
  intro tr₁ e' tr₂ w₁ htr hfirst hrest
  cases tr₁ with
  | cons e₁ tr₁ =>
    have hlen := congrArg List.length htr
    simp at hlen
  | nil =>
    obtain ⟨rfl, rfl⟩ := List.cons_eq_cons.mp htr
    obtain rfl := evolves_nil_iff.mp hfirst
    exact h (evolves_singleton_iff.mp hrest)

/-- An event of a trace in two parts is an event of the first part or of the second. -/
theorem Allowed.append {Ok : W → E → Prop}
    (hfirst : ∀ w₁, Evolves Step w tr w₁ → Allowed Step Ok w tr w₁)
    (hsecond : ∀ w₁, Evolves Step w tr w₁ → Allowed Step Ok w₁ tr' w') :
    Allowed Step Ok w (tr ++ tr') w' := by
  intro tr₁ e tr₂ w₁ htr hbefore hafter
  rcases List.append_eq_append_iff.mp htr with ⟨mid, rfl, rfl⟩ | ⟨mid, rfl, hmid⟩
  · -- the event is in the second part
    obtain ⟨w₂, hw₂, hmid⟩ := evolves_append_iff.mp hbefore
    exact hsecond w₂ hw₂ mid e tr₂ w₁ rfl hmid hafter
  · cases mid with
    | nil =>
      rw [List.append_nil] at hsecond
      exact hsecond w₁ hbefore [] e tr₂ w₁ hmid.symm (.nil w₁) hafter
    | cons e' mid =>
      -- the event is in the first part
      obtain ⟨rfl, rfl⟩ := List.cons_eq_cons.mp hmid
      change Evolves Step w₁ ((e :: mid) ++ tr') w' at hafter
      obtain ⟨w₂, hmid', -⟩ := evolves_append_iff.mp hafter
      have hpart : Evolves Step w (tr₁ ++ e :: mid) w₂ := evolves_append_iff.mpr ⟨w₁, hbefore, hmid'⟩
      exact hfirst w₂ hpart tr₁ e mid w₁ rfl hbefore hmid'

end

section

variable {Q : Type} {A : Q → Type} {W α : Type} {Step : W → Event A → W → Prop}
  {answer : W → (q : Q) → A q} {next : W → Event A → W}

/-- The environment that answers a call in the state that what happened before has led to. -/
def answering (answer : W → (q : Q) → A q) (next : W → Event A → W) (w : W) : Prog.Env A :=
  fun past q => answer (past.foldl next w) q

/-- A run in an environment whose answers are steps of its state is a trace of such steps. -/
theorem evolves_exec (hstep : ∀ w q, Step w ⟨q, answer w q⟩ (next w ⟨q, answer w q⟩))
    (p : Prog A α) (w : W) (past : List (Event A)) :
    Evolves Step (past.foldl next w) (p.exec (answering answer next w) past).2
      ((p.exec (answering answer next w) past).2.foldl next (past.foldl next w)) := by
  induction p generalizing past with
  | done a => exact .nil _
  | ask q k ih =>
    have hrest := ih (answering answer next w past q) (past ++ [⟨q, answering answer next w past q⟩])
    rw [List.foldl_append] at hrest
    exact .cons (hstep _ q) hrest

end

namespace Eff

section

variable {Q : Type} {A : Q → Type} {ε σ W α : Type}

/-- The runs that keep an invariant between the states of the program and of the
environment, and make their calls where they are allowed. -/
def keeping (Step : W → Event A → W → Prop) (Inv : σ → W → Prop) (Ok : W → Event A → Prop) :
    Frame A σ where
  holds s tr s' := ∀ w w', Evolves Step w tr w' → Inv s w → Inv s' w' ∧ Allowed Step Ok w tr w'
  refl s w w' h hinv := by
    obtain rfl := evolves_nil_iff.mp h
    exact ⟨hinv, allowed_nil⟩
  trans := by
    intro s s₁ s₂ tr₁ tr₂ hfirst hsecond w w' h hinv
    obtain ⟨w₁, h₁, h₂⟩ := evolves_append_iff.mp h
    refine ⟨(hsecond w₁ w' h₂ (hfirst w w₁ h₁ hinv).1).1, ?_⟩
    refine Allowed.append (fun w₂ hw₂ => (hfirst w w₂ hw₂ hinv).2) fun w₂ hw₂ => ?_
    intro tr e tr' w₃ htr hbefore hafter
    have hpart : Evolves Step w₂ tr₂ w' := by
      rw [htr]
      exact evolves_append_iff.mpr ⟨w₃, hbefore, hafter⟩
    exact (hsecond w₂ w' hpart (hfirst w w₂ hw₂ hinv).1).2 tr e tr' w₃ htr hbefore hafter

variable {Step : W → Event A → W → Prop} {Inv : σ → W → Prop} {Ok : W → Event A → Prop}

/-- A single event keeps the invariant when what it does to the environment does. -/
theorem keeping_single {s : σ} {e : Event A}
    (h : ∀ w w', Step w e w' → Inv s w → Inv s w' ∧ Ok w e) : (keeping Step Inv Ok).holds s [e] s := by
  intro w w' hev hinv
  have hstep := evolves_singleton_iff.mp hev
  exact ⟨(h w w' hstep hinv).1, allowed_singleton fun _ => (h w w' hstep hinv).2⟩

end

end Eff

end Effects
