import TlsInterop.Effects.Eff

/-!
# Two runs of a program

Two programs are alike when, from related states, they make the same calls but for
silent ones, end in related results or in the same exception, and leave related
states.  The rules follow the programs; the last one turns the judgement into a
statement on the runs in two environments that answer alike.

## Main definitions

* `Eff.ResultRel P` — related values, or the same exception.
* `Eff.Alike silent R P m m'` — the judgement.

## Main results

* `Alike.bind`, `Alike.tryCatch`, `Alike.finallyDo`, `Alike.zoom` — composed programs.
* `Alike.modifyState_bind` — a change after which the states are more alike.
* `Alike.left`, `Alike.right` — silent calls.
* `Alike.exec` — the runs in environments that answer alike.
-/

namespace Effects

/-- What holds of related values holds of values that are related more closely. -/
theorem Prog.Rel.mono {Q : Type} {A : Q → Type} {α β : Type} {silent : Q → Bool}
    {P P' : α → β → Prop} {p : Prog A α} {p' : Prog A β} (h : p.Rel silent P p')
    (hP : ∀ a b, P a b → P' a b) : p.Rel silent P' p' := by
  induction h with
  | done h => exact .done (hP _ _ h)
  | ask _ ih => exact .ask ih
  | left hq _ ih => exact .left hq ih
  | right hq _ ih => exact .right hq ih

namespace Eff

variable {Q : Type} {A : Q → Type} {ε σ α β γ δ : Type}

/-- Related values, or the same exception. -/
inductive ResultRel (P : α → β → Prop) : Except ε α → Except ε β → Prop
  | ok {a : α} {b : β} (h : P a b) : ResultRel P (.ok a) (.ok b)
  | error (e : ε) : ResultRel P (.error e) (.error e)

theorem ResultRel.eq {x x' : Except ε α} (h : ResultRel Eq x x') : x = x' := by
  cases h with
  | ok h => rw [h]
  | error e => rfl

/-- The results and the states of two runs are related. -/
def Ends (R : σ → σ → Prop) (P : α → β → Prop) (x : Except ε α × σ) (x' : Except ε β × σ) : Prop :=
  ResultRel P x.1 x'.1 ∧ R x.2 x'.2

/-- The programs make the same calls but for silent ones, and end alike. -/
def Alike (silent : Q → Bool) (R : σ → σ → Prop) (P : α → β → Prop) (m : Eff A ε σ α)
    (m' : Eff A ε σ β) : Prop :=
  ∀ s s', R s s' → (m.prog s).Rel silent (Ends R P) (m'.prog s')

namespace Alike

variable {silent : Q → Bool} {R : σ → σ → Prop} {P : α → β → Prop} {S : γ → δ → Prop}

theorem pure {a : α} {b : β} (h : P a b) :
    Alike silent R P (pure a : Eff A ε σ α) (pure b : Eff A ε σ β) :=
  fun _ _ hR => .done ⟨.ok h, hR⟩

theorem throw (e : ε) : Alike silent R P (throw e : Eff A ε σ α) (throw e : Eff A ε σ β) :=
  fun _ _ hR => .done ⟨.error e, hR⟩

theorem ofExcept (x : Except ε α) :
    Alike silent R Eq (Eff.ofExcept x : Eff A ε σ α) (Eff.ofExcept x) := by
  intro s s' hR
  cases x with
  | ok a => exact .done ⟨.ok rfl, hR⟩
  | error e => exact .done ⟨.error e, hR⟩

theorem call (q : Q) : Alike silent R Eq (Eff.call q : Eff A ε σ (A q)) (Eff.call q) :=
  fun _ _ hR => .ask fun _ => .done ⟨.ok rfl, hR⟩

theorem invoke (q : Q) (answer : A q → Except ε α) :
    Alike silent R Eq (Eff.invoke q answer : Eff A ε σ α) (Eff.invoke q answer) := by
  refine fun s s' hR => .ask fun ans => ?_
  cases answer ans with
  | ok a => exact .done ⟨.ok rfl, hR⟩
  | error e => exact .done ⟨.error e, hR⟩

/-- What follows may use what is read of the two states. -/
theorem getState_bind {f : σ → Eff A ε σ α} {f' : σ → Eff A ε σ β}
    (hf : ∀ s s', R s s' → Alike silent R P (f s) (f' s')) :
    Alike silent R P (Eff.getState >>= f) (Eff.getState >>= f') :=
  fun s s' hR => hf s s' hR s s' hR

theorem modifyState {g g' : σ → σ} (hg : ∀ s s', R s s' → R (g s) (g' s')) :
    Alike silent R Eq (Eff.modifyState g : Eff A ε σ Unit) (Eff.modifyState g') :=
  fun s s' hR => .done ⟨.ok rfl, hg s s' hR⟩

/-- A change after which the states are more alike than before. -/
theorem modifyState_bind {T : σ → σ → Prop} {g g' : σ → σ} {f : Unit → Eff A ε σ α}
    {f' : Unit → Eff A ε σ β} (hg : ∀ s s', R s s' → T (g s) (g' s'))
    (hf : Alike silent T P (f ()) (f' ())) (hR : ∀ s s', T s s' → R s s') :
    Alike silent R P (Eff.modifyState g >>= f) (Eff.modifyState g' >>= f') :=
  fun s s' h => (hf (g s) (g' s') (hg s s' h)).mono fun _ _ hends => ⟨hends.1, hR _ _ hends.2⟩

theorem bind {m : Eff A ε σ α} {m' : Eff A ε σ β} {f : α → Eff A ε σ γ} {f' : β → Eff A ε σ δ}
    (hm : Alike silent R P m m') (hf : ∀ a b, P a b → Alike silent R S (f a) (f' b)) :
    Alike silent R S (m >>= f) (m' >>= f') := by
  intro s s' hR
  refine (hm s s' hR).bind fun x x' hends => ?_
  obtain ⟨x, s₁⟩ := x
  obtain ⟨x', s₁'⟩ := x'
  obtain ⟨hresult, hR₁⟩ := hends
  cases hresult with
  | ok h => exact hf _ _ h s₁ s₁' hR₁
  | error e => exact .done ⟨.error e, hR₁⟩

/-- Equal values go into the same continuation. -/
theorem bind_eq {m m' : Eff A ε σ α} {f : α → Eff A ε σ γ} {f' : α → Eff A ε σ δ}
    (hm : Alike silent R Eq m m') (hf : ∀ a, Alike silent R S (f a) (f' a)) :
    Alike silent R S (m >>= f) (m' >>= f') :=
  hm.bind fun a _ h => h ▸ hf a

theorem ite {c : Prop} [Decidable c] {m₁ m₂ : Eff A ε σ α} {m₁' m₂' : Eff A ε σ β}
    (h₁ : Alike silent R P m₁ m₁') (h₂ : Alike silent R P m₂ m₂') :
    Alike silent R P (if c then m₁ else m₂) (if c then m₁' else m₂') := by
  split
  · exact h₁
  · exact h₂

theorem tryCatch {m : Eff A ε σ α} {m' : Eff A ε σ β} {f : ε → Eff A ε σ α}
    {f' : ε → Eff A ε σ β} (hm : Alike silent R P m m')
    (hf : ∀ e, Alike silent R P (f e) (f' e)) :
    Alike silent R P (tryCatch m f) (tryCatch m' f') := by
  intro s s' hR
  refine (hm s s' hR).bind fun x x' hends => ?_
  obtain ⟨x, s₁⟩ := x
  obtain ⟨x', s₁'⟩ := x'
  obtain ⟨hresult, hR₁⟩ := hends
  cases hresult with
  | ok h => exact .done ⟨.ok h, hR₁⟩
  | error e => exact hf e s₁ s₁' hR₁

theorem finallyDo {m : Eff A ε σ α} {m' : Eff A ε σ β} {f f' : Eff A ε σ Unit}
    (hm : Alike silent R P m m') (hf : Alike silent R Eq f f') :
    Alike silent R P (m.finallyDo f) (m'.finallyDo f') := by
  intro s s' hR
  refine (hm s s' hR).bind fun x x' hends => (hf x.2 x'.2 hends.2).bind fun y y' hends' => .done ?_
  obtain ⟨x, s₁⟩ := x
  obtain ⟨x', s₁'⟩ := x'
  obtain ⟨y, s₂⟩ := y
  obtain ⟨y', s₂'⟩ := y'
  obtain ⟨hresult, hR₂⟩ := hends'
  cases hresult with
  | ok _ => exact ⟨hends.1, hR₂⟩
  | error e => exact ⟨.error e, hR₂⟩

/-- A silent call of the first program. -/
theorem left {q : Q} {m : Eff A ε σ α} {m' : Eff A ε σ β} (hq : silent q = true)
    (h : Alike silent R P m m') : Alike silent R P (Eff.call q >>= fun _ => m) m' :=
  fun s s' hR => .left hq fun _ => h s s' hR

/-- A silent call of the second program. -/
theorem right {q : Q} {m : Eff A ε σ α} {m' : Eff A ε σ β} (hq : silent q = true)
    (h : Alike silent R P m m') : Alike silent R P m (Eff.call q >>= fun _ => m') :=
  fun s s' hR => .right hq fun _ => h s s' hR

/-- A program on a part of the state that is the same in both. -/
theorem zoom {Q' : Type} {A' : Q' → Type} {τ : Type} {ι : Q → Q'} {get : σ → τ}
    {put : τ → σ → σ} {silent : Q' → Bool} {m : Eff (fun q => A' (ι q)) ε τ α}
    (hget : ∀ s s', R s s' → get s = get s')
    (hput : ∀ s s' t, R s s' → R (put t s) (put t s')) :
    Alike silent R Eq (m.zoom ι get put : Eff A' ε σ α) (m.zoom ι get put) := by
  intro s s' hR
  change (((m.prog (get s)).embed A' ι) >>= fun p => .done (p.1, put p.2 s)).Rel silent _
    (((m.prog (get s')).embed A' ι) >>= fun p => .done (p.1, put p.2 s'))
  rw [← hget s s' hR]
  refine (Prog.Rel.refl (fun _ => rfl) _).bind fun x x' hx => .done ?_
  obtain rfl : x = x' := hx
  refine ⟨?_, hput s s' x.2 hR⟩
  cases x.1 with
  | ok a => exact .ok rfl
  | error e => exact .error e

/-- In environments that answer alike the runs end alike, after the same calls but
for silent ones, whose answers must not tell anything. -/
theorem exec {m : Eff A ε σ α} {m' : Eff A ε σ β} (h : Alike silent R P m m') {s s' : σ}
    (hR : R s s') (hsilent : ∀ q, silent q = true → Subsingleton (A q)) {env env' : Prog.Env A}
    {past past' : List (Event A)} (henv : Prog.AnswerAlike silent env env' past past') :
    Ends R P ((m.prog s).exec env past).1 ((m'.prog s').exec env' past').1 :=
  ((h s s' hR).exec hsilent henv).1

end Alike

end Eff

end Effects
