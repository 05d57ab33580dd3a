import TlsInterop.Effects.Eff

/-!
# What comes before an event

Specifications of whole runs that look at what happened before an event.  An event may
need something to have happened.  The state of a program may hold resources, which
events acquire and use: a program owns what it uses when every resource that an event
uses was held at the start, or acquired by an event before.

## Main definitions

* `Eff.preceded` — the runs whose events come after what they need.
* `Resources` — what a state holds, and what an event acquires and uses.
* `Resources.owned` — the runs that use only what they own.
* `Resources.usesOnly` — the runs that use only given resources, and keep no others.

## Main results

* `append_eq_append_cons_iff` — an event of one run after another is in the first or in the second.
* `Eff.exec_forM_of` — a loop gives what each of its rounds gives, when no round goes wrong.
* `Resources.owned_of_usesOnly` — a run that uses only what it holds at its start.
-/

namespace Effects

/-- An event of one list after another is in the first or in the second. -/
theorem append_eq_append_cons_iff {α : Type*} {l l' l₁ l₂ : List α} {a : α} :
    l ++ l' = l₁ ++ a :: l₂ ↔
      (∃ mid, l = l₁ ++ a :: mid ∧ l₂ = mid ++ l') ∨ ∃ mid, l₁ = l ++ mid ∧ l' = mid ++ a :: l₂ := by
  rw [List.append_eq_append_iff]
  constructor
  · rintro (⟨mid, rfl, rfl⟩ | ⟨mid, rfl, hmid⟩)
    · exact .inr ⟨mid, rfl, rfl⟩
    · cases mid with
      | nil => exact .inr ⟨[], by simp, hmid.symm⟩
      | cons b mid =>
        obtain ⟨rfl, rfl⟩ := List.cons.inj hmid
        exact .inl ⟨mid, rfl, rfl⟩
  · rintro (⟨mid, rfl, rfl⟩ | ⟨mid, rfl, rfl⟩)
    · exact .inr ⟨a :: mid, rfl, rfl⟩
    · exact .inl ⟨mid, rfl, rfl⟩

/-- The runs whose events come after what they need. -/
def Eff.preceded {Q : Type} {A : Q → Type} {σ : Type} (needs : List (Event A) → Event A → Prop)
    (mono : ∀ tr tr' e, needs tr' e → needs (tr ++ tr') e) : Eff.Frame A σ where
  holds _ tr _ := ∀ tr₁ e tr₂, tr = tr₁ ++ e :: tr₂ → needs tr₁ e
  refl _ tr₁ e tr₂ htr := by cases tr₁ <;> cases htr
  trans := by
    intro _ _ _ tr tr' h h' tr₁ e tr₂ htr
    rcases append_eq_append_cons_iff.mp htr with ⟨mid, rfl, -⟩ | ⟨mid, rfl, rfl⟩
    · exact h tr₁ e mid rfl
    · exact mono tr mid e (h' mid e tr₂ rfl)

/-- A loop over a fixed state gives what each of its rounds gives, when nothing goes wrong. -/
theorem Eff.exec_forM_of {Q : Type} {A : Q → Type} {ε σ β : Type} {f : β → Eff A ε σ PUnit}
    {wrong : Event A → Prop} {P : β → List (Event A) → Prop}
    (hf : ∀ {b s tr r s'}, (f b).Exec s tr r s' → (∀ e ∈ tr, ¬ wrong e) → s' = s ∧ r = .ok () ∧ P b tr)
    (herror : ∀ {b s tr e s'}, (f b).Exec s tr (.error e) s' → ∃ ev ∈ tr, wrong ev)
    (hleft : ∀ {b tr} tr', P b tr → P b (tr ++ tr')) (hright : ∀ {b tr'} tr, P b tr' → P b (tr ++ tr'))
    {l : List β} {s s' : σ} {tr : List (Event A)} {r : Except ε PUnit}
    (h : (l.forM f).Exec s tr r s') (hgood : ∀ e ∈ tr, ¬ wrong e) :
    s' = s ∧ r = .ok () ∧ ∀ b ∈ l, P b tr := by
  induction l generalizing s tr with
  | nil =>
    obtain ⟨rfl, rfl, rfl⟩ := Eff.exec_pure.mp h
    exact ⟨rfl, rfl, fun _ hb => absurd hb List.not_mem_nil⟩
  | cons b l ih =>
    rcases Eff.exec_bind.mp h with ⟨e, -, hraise⟩ | ⟨⟨⟩, s₁, tr₁, tr₂, rfl, hfirst, hrest⟩
    · obtain ⟨ev, hev, hwrong⟩ := herror hraise
      exact absurd hwrong (hgood ev hev)
    · obtain ⟨rfl, -, hP⟩ := hf hfirst fun e he => hgood e (List.mem_append_left _ he)
      obtain ⟨rfl, rfl, hall⟩ := ih hrest fun e he => hgood e (List.mem_append_right _ he)
      refine ⟨rfl, rfl, fun b' hb' => ?_⟩
      rcases List.mem_cons.mp hb' with rfl | hb'
      · exact hleft _ hP
      · exact hright _ (hall b' hb')

/-- What a state holds, and what an event acquires and uses. -/
structure Resources {Q : Type} (A : Q → Type) (σ ρ : Type) where
  held : σ → ρ → Prop
  acquires : Event A → ρ → Prop
  uses : Event A → ρ → Prop

namespace Resources

variable {Q : Type} {A : Q → Type} {ε σ ρ α : Type} (R : Resources A σ ρ)

/-- Some event acquires the resource. -/
def Acquired (tr : List (Event A)) (x : ρ) : Prop := ∃ e ∈ tr, R.acquires e x

theorem Acquired.left {tr : List (Event A)} {x : ρ} (h : R.Acquired tr x) (tr' : List (Event A)) :
    R.Acquired (tr ++ tr') x := by
  obtain ⟨e, he, hx⟩ := h
  exact ⟨e, List.mem_append_left _ he, hx⟩

theorem Acquired.right {tr' : List (Event A)} {x : ρ} (h : R.Acquired tr' x)
    (tr : List (Event A)) : R.Acquired (tr ++ tr') x := by
  obtain ⟨e, he, hx⟩ := h
  exact ⟨e, List.mem_append_right _ he, hx⟩

/-- The runs that use only what was held at their start or acquired before. -/
def owned : Eff.Frame A σ where
  holds s tr s' :=
    (∀ tr₁ e tr₂, tr = tr₁ ++ e :: tr₂ → ∀ x, R.uses e x → R.held s x ∨ R.Acquired tr₁ x) ∧
      ∀ x, R.held s' x → R.held s x ∨ R.Acquired tr x
  refl s := by
    refine ⟨fun tr₁ e tr₂ htr => ?_, fun x hx => .inl hx⟩
    cases tr₁ <;> cases htr
  trans := by
    intro s s₁ s₂ tr tr' h h'
    refine ⟨fun tr₁ e tr₂ htr x hx => ?_, fun x hx => ?_⟩
    · rcases append_eq_append_cons_iff.mp htr with ⟨mid, rfl, -⟩ | ⟨mid, rfl, rfl⟩
      · exact h.1 tr₁ e mid rfl x hx
      · rcases h'.1 mid e tr₂ rfl x hx with hheld | hacq
        · exact (h.2 x hheld).imp_right fun hacq => hacq.left R mid
        · exact .inr (hacq.right R tr)
    · rcases h'.2 x hx with hheld | hacq
      · exact (h.2 x hheld).imp_right fun hacq => hacq.left R tr'
      · exact .inr (hacq.right R tr)

/-- The runs that use only the given resources, and hold none they did not hold. -/
def usesOnly (X : ρ → Prop) : Eff.Frame A σ where
  holds s tr s' := (∀ e ∈ tr, ∀ x, R.uses e x → X x) ∧ ∀ x, R.held s' x → R.held s x
  refl _ := ⟨fun _ he => absurd he List.not_mem_nil, fun _ hx => hx⟩
  trans h h' := ⟨fun e he => (List.mem_append.mp he).elim (h.1 e) (h'.1 e),
    fun x hx => h.2 x (h'.2 x hx)⟩

variable {R} {X : ρ → Prop} {s s' : σ} {tr : List (Event A)}

/-- A run that uses only what it holds at its start owns what it uses. -/
theorem owned_of_usesOnly (h : (R.usesOnly X).holds s tr s') (hX : ∀ x, X x → R.held s x) :
    R.owned.holds s tr s' := by
  refine ⟨fun tr₁ e tr₂ htr x hx => .inl (hX x (h.1 e ?_ x hx)), fun x hx => .inl (h.2 x hx)⟩
  rw [htr]
  exact List.mem_append_right _ List.mem_cons_self

/-- A program that uses no resource owns what it uses. -/
theorem within_owned_of_idle {m : Eff A ε σ α} (h : Eff.Within (R.usesOnly fun _ => False) m) :
    Eff.Within R.owned m := fun _ _ _ _ hexec => owned_of_usesOnly (h hexec) fun _ hx => hx.elim

end Resources

end Effects
