import TlsInterop.Effects.Eff

/-!
# Programs that follow a script

What is watched of a run is the list of what its events show.  A program follows a
script when each of its runs shows the script from the start, and all of it unless
the run raises.

## Main definitions

* `Watch` — what an event shows, and what is expected of the events of a run.
* `Eff.Follows` — the program follows a script.

## Main results

* `Eff.Follows.bind`, `Eff.Follows.forM` — the script of one thing after another.
* `Eff.Follows.of_silent` — a program that shows nothing follows the empty script.
-/

namespace Effects

/-- What an event shows, and what is expected of the events of a run. -/
structure Watch {Q : Type} (A : Q → Type) (γ : Type) where
  shows : Event A → Option γ
  expects : Event A → Prop

variable {Q : Type} {A : Q → Type} {ε σ α β γ : Type}

/-- What a trace shows. -/
def Watch.seen (w : Watch A γ) (tr : List (Event A)) : List γ := tr.filterMap w.shows

@[simp] theorem Watch.seen_nil (w : Watch A γ) : w.seen [] = [] := rfl

theorem Watch.seen_append (w : Watch A γ) (tr tr' : List (Event A)) :
    w.seen (tr ++ tr') = w.seen tr ++ w.seen tr' := List.filterMap_append

namespace Eff

/-- Every run shows the script from its start, and all of it unless it raises. -/
def Follows (w : Watch A γ) (m : Eff A ε σ α) (script : List γ) : Prop :=
  ∀ ⦃s tr r s'⦄, m.Exec s tr r s' → (∀ e ∈ tr, w.expects e) →
    w.seen tr <+: script ∧ ∀ a, r = .ok a → w.seen tr = script

namespace Follows

variable {w : Watch A γ} {m : Eff A ε σ α} {f : α → Eff A ε σ β} {script script' : List γ}

/-- A program whose calls show nothing. -/
theorem of_silent (h : ∀ ⦃s tr r s'⦄, m.Exec s tr r s' → ∀ e ∈ tr, w.shows e = none) :
    Follows w m [] := by
  intro s tr r s' hexec _
  have hnil : w.seen tr = [] := List.filterMap_eq_nil_iff.mpr (h hexec)
  rw [hnil]
  exact ⟨List.nil_prefix, fun _ _ => rfl⟩

theorem pure (a : α) : Follows w (pure a : Eff A ε σ α) [] := by
  refine of_silent fun s tr r s' h e he => ?_
  obtain ⟨rfl, -, -⟩ := exec_pure.mp h
  exact absurd he List.not_mem_nil

/-- A program that raises follows any script. -/
theorem throw (e : ε) : Follows w (throw e : Eff A ε σ α) script := by
  intro s tr r s' h _
  obtain ⟨rfl, rfl, -⟩ := exec_throw.mp h
  refine ⟨List.nil_prefix, fun a ha => ?_⟩
  cases ha

/-- The script of a sequence, whose first part returns values with a property only. -/
theorem bind_of {P : α → Prop} (hm : Follows w m script)
    (hP : ∀ ⦃s tr a s'⦄, m.Exec s tr (.ok a) s' → (∀ e ∈ tr, w.expects e) → P a)
    (hf : ∀ a, P a → Follows w (f a) script') : Follows w (m >>= f) (script ++ script') := by
  intro s tr r s' h hexp
  rcases exec_bind.mp h with ⟨e, rfl, h₁⟩ | ⟨a, s₁, tr₁, tr₂, rfl, h₁, h₂⟩
  · refine ⟨(hm h₁ hexp).1.trans (List.prefix_append ..), fun b hb => ?_⟩
    cases hb
  · have hleft := fun e he => hexp e (List.mem_append_left _ he)
    have hright := fun e he => hexp e (List.mem_append_right _ he)
    obtain ⟨hinitial, hall⟩ := hf a (hP h₁ hleft) h₂ hright
    rw [Watch.seen_append, (hm h₁ hleft).2 a rfl]
    exact ⟨(List.prefix_append_right_inj _).mpr hinitial, fun b hb => by rw [hall b hb]⟩

/-- The script of a sequence. -/
theorem bind (hm : Follows w m script) (hf : ∀ a, Follows w (f a) script') :
    Follows w (m >>= f) (script ++ script') :=
  bind_of (P := fun _ => True) hm (fun _ _ _ _ _ _ => trivial) fun a _ => hf a

/-- A silent first part adds nothing to the script. -/
theorem bind_left (hm : Follows w m []) (hf : ∀ a, Follows w (f a) script) :
    Follows w (m >>= f) script := bind hm hf

/-- A silent last part adds nothing to the script. -/
theorem bind_right (hm : Follows w m script) (hf : ∀ a, Follows w (f a) []) :
    Follows w (m >>= f) script := by
  rw [← List.append_nil script]
  exact bind hm hf

/-- The script of what follows a computation that only returns or raises. -/
theorem ofExcept_bind {x : Except ε α} (hf : ∀ a, x = .ok a → Follows w (f a) script) :
    Follows w (Eff.ofExcept x >>= f) script := by
  have hsilent : Follows w (Eff.ofExcept x : Eff A ε σ α) [] := by
    refine of_silent fun s tr r s' h e he => ?_
    obtain ⟨rfl, -, -⟩ := exec_ofExcept.mp h
    exact absurd he List.not_mem_nil
  refine bind_of (P := fun a => x = .ok a) hsilent (fun s tr a s' h _ => ?_) hf
  obtain ⟨-, hx, -⟩ := exec_ofExcept.mp h
  exact hx

theorem ite {c : Prop} [Decidable c] {m m' : Eff A ε σ α} (hm : c → Follows w m script)
    (hm' : ¬ c → Follows w m' script) : Follows w (if c then m else m') script := by
  split
  · next hc => exact hm hc
  · next hc => exact hm' hc

/-- The script of a loop is that of its rounds, one after another. -/
theorem forM {l : List β} {f : β → Eff A ε σ PUnit} {g : β → List γ}
    (hf : ∀ b ∈ l, Follows w (f b) (g b)) : Follows w (l.forM f) (l.flatMap g) := by
  induction l with
  | nil => exact pure _
  | cons b l ih =>
    rw [List.flatMap_cons]
    exact bind (hf b List.mem_cons_self) fun _ => ih fun b' hb' => hf b' (List.mem_cons_of_mem _ hb')

end Follows

end Eff

end Effects
