import TlsInterop.Effects.Prog

/-!
# Programs with state and exceptions

The usual reading of an imperative language: what was written to the state
before an exception stays written.

## Main definitions

* `Eff A ε σ α` — a program over the state `σ` that may raise an `ε`.
* `Eff.Exec m s tr r s'` — a run of `m` from `s` that makes the calls of `tr`,
  ends in `r` and leaves `s'`.
* `Eff.zoom` — a program over a part of the state and some of the calls.
* `Frame`, `Eff.Within` — a specification that holds of nothing done and of one
  thing after another, and the programs all of whose runs meet it.
* `Eff.Total` — the programs that never raise.

## Main results

* `exec_bind`, `exec_tryCatch`, `exec_finallyDo` — the runs of a composed program.
* `Eff.Within.bind`, `Eff.Within.tryCatch`, `Eff.Within.finallyDo` — a composed
  program meets a specification that its parts meet.
-/

namespace Effects

/-- A program over a state that may raise an exception. -/
abbrev Eff {Q : Type} (A : Q → Type) (ε σ α : Type) : Type := ExceptT ε (StateT σ (Prog A)) α

namespace Eff

variable {Q : Type} {A : Q → Type} {ε σ α β : Type}

/-- The program of `m` from the state `s`. -/
def prog (m : Eff A ε σ α) (s : σ) : Prog A (Except ε α × σ) := m.run.run s

/-- Make a call. -/
def call (q : Q) : Eff A ε σ (A q) := ExceptT.mk fun s => .ask q fun ans => .done (.ok ans, s)

/-- Raise the exception of a failed computation. -/
def ofExcept (x : Except ε α) : Eff A ε σ α := ExceptT.mk fun s => .done (x, s)

/-- Make a call whose answer may be an exception, and raise it. -/
def invoke (q : Q) (answer : A q → Except ε α) : Eff A ε σ α :=
  ExceptT.mk fun s => .ask q fun ans => .done (answer ans, s)

/-- Read the state. -/
def getState : Eff A ε σ σ := ExceptT.mk fun s => .done (.ok s, s)

/-- Change the state. -/
def modifyState (f : σ → σ) : Eff A ε σ Unit := ExceptT.mk fun s => .done (.ok (), f s)

/-- What a finalizer leaves of a result: an exception it raises replaces the result. -/
def finalResult (r : Except ε α) : Except ε β → Except ε α
  | .ok _ => r
  | .error e => .error e

/-- `try m finally f`. -/
def finallyDo (m : Eff A ε σ α) (f : Eff A ε σ Unit) : Eff A ε σ α := ExceptT.mk fun s => do
  let p ← m.prog s
  let p' ← f.prog p.2
  .done (finalResult p.1 p'.1, p'.2)

/-- A program over a part of the state and some of the calls, as one over all of both. -/
def zoom {Q' : Type} {A' : Q' → Type} {τ : Type} (ι : Q → Q') (get : σ → τ) (put : τ → σ → σ)
    (m : Eff (fun q => A' (ι q)) ε τ α) : Eff A' ε σ α := ExceptT.mk fun s => do
  let p ← (m.prog (get s)).embed A' ι
  .done (p.1, put p.2 s)

/-- `m.Exec s tr r s'`: a run of `m` from `s` makes the calls of `tr`, ends in `r`
and leaves `s'`. -/
def Exec (m : Eff A ε σ α) (s : σ) (tr : List (Event A)) (r : Except ε α) (s' : σ) : Prop :=
  (m.prog s).Runs tr (r, s')

/-- What an environment answers is a run. -/
theorem exec_run (env : Prog.Env A) (m : Eff A ε σ α) (s : σ) (past : List (Event A)) :
    m.Exec s ((m.prog s).exec env past).2 ((m.prog s).exec env past).1.1
      ((m.prog s).exec env past).1.2 :=
  Prog.runs_exec env (m.prog s) past

section

variable {s s' : σ} {tr : List (Event A)} {r : Except ε α} {a : α} {e : ε}

@[simp] theorem exec_pure : (pure a : Eff A ε σ α).Exec s tr r s' ↔
    tr = [] ∧ .ok a = r ∧ s = s' := by
  change _ ∧ (Except.ok a, s) = (r, s') ↔ _
  rw [Prod.mk.injEq]

@[simp] theorem exec_throw : (throw e : Eff A ε σ α).Exec s tr r s' ↔
    tr = [] ∧ .error e = r ∧ s = s' := by
  change _ ∧ (Except.error e, s) = (r, s') ↔ _
  rw [Prod.mk.injEq]

@[simp] theorem exec_ofExcept {x : Except ε α} : (ofExcept x : Eff A ε σ α).Exec s tr r s' ↔
    tr = [] ∧ x = r ∧ s = s' := by
  change _ ∧ (x, s) = (r, s') ↔ _
  rw [Prod.mk.injEq]

@[simp] theorem exec_getState {r : Except ε σ} : (getState : Eff A ε σ σ).Exec s tr r s' ↔
    tr = [] ∧ .ok s = r ∧ s = s' := by
  change _ ∧ (Except.ok s, s) = (r, s') ↔ _
  rw [Prod.mk.injEq]

@[simp] theorem exec_modifyState {f : σ → σ} {r : Except ε Unit} :
    (modifyState f : Eff A ε σ Unit).Exec s tr r s' ↔ tr = [] ∧ .ok () = r ∧ f s = s' := by
  change _ ∧ (Except.ok (), f s) = (r, s') ↔ _
  rw [Prod.mk.injEq]

@[simp] theorem exec_call {q : Q} {r : Except ε (A q)} : (call q : Eff A ε σ (A q)).Exec s tr r s' ↔
    ∃ ans, tr = [⟨q, ans⟩] ∧ .ok ans = r ∧ s = s' := by
  change (∃ ans tr', tr = ⟨q, ans⟩ :: tr' ∧ tr' = [] ∧ (Except.ok ans, s) = (r, s')) ↔ _
  constructor
  · rintro ⟨ans, tr', rfl, rfl, h⟩
    exact ⟨ans, rfl, Prod.mk.inj h⟩
  · rintro ⟨ans, rfl, rfl, rfl⟩
    exact ⟨ans, [], rfl, rfl, rfl⟩

@[simp] theorem exec_invoke {q : Q} {answer : A q → Except ε α} :
    (invoke q answer : Eff A ε σ α).Exec s tr r s' ↔
      ∃ ans, tr = [⟨q, ans⟩] ∧ answer ans = r ∧ s = s' := by
  change (∃ ans tr', tr = ⟨q, ans⟩ :: tr' ∧ tr' = [] ∧ (answer ans, s) = (r, s')) ↔ _
  constructor
  · rintro ⟨ans, tr', rfl, rfl, h⟩
    exact ⟨ans, rfl, Prod.mk.inj h⟩
  · rintro ⟨ans, rfl, rfl, rfl⟩
    exact ⟨ans, [], rfl, rfl, rfl⟩

end

section

variable {s s' : σ} {tr : List (Event A)}

/-- A run of a sequence raises in the first program, or is a run of both. -/
theorem exec_bind {m : Eff A ε σ α} {f : α → Eff A ε σ β} {r : Except ε β} :
    (m >>= f).Exec s tr r s' ↔
      (∃ e, r = .error e ∧ m.Exec s tr (.error e) s') ∨
      ∃ a s₁ tr₁ tr₂, tr = tr₁ ++ tr₂ ∧ m.Exec s tr₁ (.ok a) s₁ ∧ (f a).Exec s₁ tr₂ r s' := by
  have hprog : (m >>= f).prog s = m.prog s >>= fun p => match p.1 with
      | .ok a => (f a).prog p.2
      | .error e => .done (.error e, p.2) := by
    change (m.prog s >>= fun p => _) = _
    congr 1
    funext p
    obtain ⟨x, s₁⟩ := p
    cases x <;> rfl
  unfold Exec
  rw [hprog, Prog.runs_bind]
  constructor
  · rintro ⟨tr₁, ⟨x, s₁⟩, tr₂, rfl, h₁, h₂⟩
    cases x with
    | ok a => exact .inr ⟨a, s₁, tr₁, tr₂, rfl, h₁, h₂⟩
    | error e =>
      obtain ⟨rfl, h⟩ := h₂
      obtain ⟨rfl, rfl⟩ := Prod.mk.inj h
      exact .inl ⟨e, rfl, by rwa [List.append_nil]⟩
  · rintro (⟨e, rfl, h⟩ | ⟨a, s₁, tr₁, tr₂, rfl, h₁, h₂⟩)
    · exact ⟨tr, _, [], (List.append_nil tr).symm, h, rfl, rfl⟩
    · exact ⟨tr₁, _, tr₂, rfl, h₁, h₂⟩

/-- Reading the state is not seen in the run. -/
theorem exec_getState_bind {f : σ → Eff A ε σ β} {r : Except ε β} :
    (getState >>= f).Exec s tr r s' ↔ (f s).Exec s tr r s' := Iff.rfl

/-- Changing the state is not seen in the run. -/
theorem exec_modifyState_bind {g : σ → σ} {f : Unit → Eff A ε σ β} {r : Except ε β} :
    (modifyState g >>= f).Exec s tr r s' ↔ (f ()).Exec (g s) tr r s' := Iff.rfl

/-- What follows a raise is not run. -/
theorem exec_throw_bind {e : ε} {f : α → Eff A ε σ β} {r : Except ε β} :
    ((throw e : Eff A ε σ α) >>= f).Exec s tr r s' ↔ tr = [] ∧ .error e = r ∧ s = s' := by
  change _ ∧ (Except.error e, s) = (r, s') ↔ _
  rw [Prod.mk.injEq]

/-- A run of a sequence that ends in a value is a run of both. -/
theorem exec_bind_ok {m : Eff A ε σ α} {f : α → Eff A ε σ β} {b : β} :
    (m >>= f).Exec s tr (.ok b) s' ↔
      ∃ a s₁ tr₁ tr₂, tr = tr₁ ++ tr₂ ∧ m.Exec s tr₁ (.ok a) s₁ ∧ (f a).Exec s₁ tr₂ (.ok b) s' := by
  rw [exec_bind]
  constructor
  · rintro (⟨e, he, -⟩ | h)
    · cases he
    · exact h
  · exact .inr

/-- A handled run is a run that does not raise, or one that raises followed by the handler. -/
theorem exec_tryCatch {m : Eff A ε σ α} {f : ε → Eff A ε σ α} {r : Except ε α} :
    (tryCatch m f).Exec s tr r s' ↔
      (∃ a, r = .ok a ∧ m.Exec s tr (.ok a) s') ∨
      ∃ e s₁ tr₁ tr₂, tr = tr₁ ++ tr₂ ∧ m.Exec s tr₁ (.error e) s₁ ∧ (f e).Exec s₁ tr₂ r s' := by
  have hprog : (tryCatch m f).prog s = m.prog s >>= fun p => match p.1 with
      | .ok a => .done (.ok a, p.2)
      | .error e => (f e).prog p.2 := by
    change (m.prog s >>= fun p => _) = _
    congr 1
    funext p
    obtain ⟨x, s₁⟩ := p
    cases x <;> rfl
  unfold Exec
  rw [hprog, Prog.runs_bind]
  constructor
  · rintro ⟨tr₁, ⟨x, s₁⟩, tr₂, rfl, h₁, h₂⟩
    cases x with
    | error e => exact .inr ⟨e, s₁, tr₁, tr₂, rfl, h₁, h₂⟩
    | ok a =>
      obtain ⟨rfl, h⟩ := h₂
      obtain ⟨rfl, rfl⟩ := Prod.mk.inj h
      exact .inl ⟨a, rfl, by rwa [List.append_nil]⟩
  · rintro (⟨a, rfl, h⟩ | ⟨e, s₁, tr₁, tr₂, rfl, h₁, h₂⟩)
    · exact ⟨tr, _, [], (List.append_nil tr).symm, h, rfl, rfl⟩
    · exact ⟨tr₁, _, tr₂, rfl, h₁, h₂⟩

/-- A finalized run is a run followed by the finalizer. -/
theorem exec_finallyDo {m : Eff A ε σ α} {f : Eff A ε σ Unit} {r : Except ε α} :
    (m.finallyDo f).Exec s tr r s' ↔
      ∃ r₁ r₂ s₁ tr₁ tr₂, tr = tr₁ ++ tr₂ ∧ r = finalResult r₁ r₂ ∧ m.Exec s tr₁ r₁ s₁ ∧
        f.Exec s₁ tr₂ r₂ s' := by
  unfold Exec
  change (m.prog s >>= fun p => f.prog p.2 >>= fun p' => _).Runs tr (r, s') ↔ _
  rw [Prog.runs_bind]
  constructor
  · rintro ⟨tr₁, ⟨r₁, s₁⟩, tr', rfl, h₁, h'⟩
    obtain ⟨tr₂, ⟨r₂, s₂⟩, tr₃, rfl, h₂, rfl, h₃⟩ := Prog.runs_bind.mp h'
    obtain ⟨rfl, rfl⟩ := Prod.mk.inj h₃
    exact ⟨r₁, r₂, s₁, tr₁, tr₂, by rw [List.append_nil], rfl, h₁, h₂⟩
  · rintro ⟨r₁, r₂, s₁, tr₁, tr₂, rfl, rfl, h₁, h₂⟩
    exact ⟨tr₁, _, tr₂, rfl, h₁,
      Prog.runs_bind.mpr ⟨tr₂, _, [], (List.append_nil tr₂).symm, h₂, rfl, rfl⟩⟩

/-- A run of a program over a part is a run of it that is seen in the whole. -/
theorem exec_zoom {Q' : Type} {A' : Q' → Type} {τ : Type} {ι : Q → Q'} {get : σ → τ}
    {put : τ → σ → σ} {m : Eff (fun q => A' (ι q)) ε τ α} {tr : List (Event A')} {r : Except ε α} :
    (m.zoom ι get put : Eff A' ε σ α).Exec s tr r s' ↔
      ∃ tr₀ t, tr = tr₀.map (Prog.embedEvent A' ι) ∧ m.Exec (get s) tr₀ r t ∧ put t s = s' := by
  unfold Exec
  change ((m.prog (get s)).embed A' ι >>= fun p => _).Runs tr (r, s') ↔ _
  rw [Prog.runs_bind]
  constructor
  · rintro ⟨tr₁, ⟨r₁, t⟩, tr₂, rfl, h₁, rfl, h₂⟩
    obtain ⟨rfl, rfl⟩ := Prod.mk.inj h₂
    obtain ⟨tr₀, rfl, h₀⟩ := Prog.runs_embed.mp h₁
    exact ⟨tr₀, t, List.append_nil _, h₀, rfl⟩
  · rintro ⟨tr₀, t, rfl, h₀, rfl⟩
    exact ⟨_, (r, t), [], (List.append_nil _).symm, Prog.runs_embed.mpr ⟨tr₀, rfl, h₀⟩, rfl, rfl⟩

end

/-! ### Specifications of whole runs -/

/-- A specification of a run by its states and calls that holds of nothing done and
of one run after another. -/
structure Frame {Q : Type} (A : Q → Type) (σ : Type) where
  /-- The specification. -/
  holds : σ → List (Event A) → σ → Prop
  refl : ∀ s, holds s [] s
  trans : ∀ {s s₁ s₂ tr₁ tr₂}, holds s tr₁ s₁ → holds s₁ tr₂ s₂ → holds s (tr₁ ++ tr₂) s₂

/-- All runs of the program meet the specification, whatever they end in. -/
def Within (F : Frame A σ) (m : Eff A ε σ α) : Prop :=
  ∀ ⦃s tr r s'⦄, m.Exec s tr r s' → F.holds s tr s'

namespace Within

variable {F : Frame A σ}

theorem pure (a : α) : Within F (pure a : Eff A ε σ α) := by
  intro s tr r s' h
  obtain ⟨rfl, -, rfl⟩ := exec_pure.mp h
  exact F.refl s

theorem throw (e : ε) : Within F (throw e : Eff A ε σ α) := by
  intro s tr r s' h
  obtain ⟨rfl, -, rfl⟩ := exec_throw.mp h
  exact F.refl s

theorem ofExcept (x : Except ε α) : Within F (ofExcept x : Eff A ε σ α) := by
  intro s tr r s' h
  obtain ⟨rfl, -, rfl⟩ := exec_ofExcept.mp h
  exact F.refl s

theorem getState : Within F (getState : Eff A ε σ σ) := by
  intro s tr r s' h
  obtain ⟨rfl, -, rfl⟩ := exec_getState.mp h
  exact F.refl s

theorem modifyState {f : σ → σ} (hf : ∀ s, F.holds s [] (f s)) :
    Within F (modifyState f : Eff A ε σ Unit) := by
  intro s tr r s' h
  obtain ⟨rfl, -, rfl⟩ := exec_modifyState.mp h
  exact hf s

theorem call {q : Q} (hq : ∀ s ans, F.holds s [⟨q, ans⟩] s) :
    Within F (call q : Eff A ε σ (A q)) := by
  intro s tr r s' h
  obtain ⟨ans, rfl, -, rfl⟩ := exec_call.mp h
  exact hq s ans

theorem invoke {q : Q} {answer : A q → Except ε α} (hq : ∀ s ans, F.holds s [⟨q, ans⟩] s) :
    Within F (invoke q answer : Eff A ε σ α) := by
  intro s tr r s' h
  obtain ⟨ans, rfl, -, rfl⟩ := exec_invoke.mp h
  exact hq s ans

theorem bind {m : Eff A ε σ α} {f : α → Eff A ε σ β} (hm : Within F m) (hf : ∀ a, Within F (f a)) :
    Within F (m >>= f) := by
  intro s tr r s' h
  rcases exec_bind.mp h with ⟨e, -, h₁⟩ | ⟨a, s₁, tr₁, tr₂, rfl, h₁, h₂⟩
  · exact hm h₁
  · exact F.trans (hm h₁) (hf a h₂)

/-- Only what the computation gives is gone on with. -/
theorem ofExcept_bind {x : Except ε α} {f : α → Eff A ε σ β} (hf : ∀ a, x = .ok a → Within F (f a)) :
    Within F (Eff.ofExcept x >>= f) := by
  intro s tr r s' h
  rcases exec_bind.mp h with ⟨e, -, h₁⟩ | ⟨a, s₁, tr₁, tr₂, rfl, h₁, h₂⟩
  · exact ofExcept x h₁
  · obtain ⟨rfl, hx, rfl⟩ := exec_ofExcept.mp h₁
    exact hf a hx h₂

theorem tryCatch {m : Eff A ε σ α} {f : ε → Eff A ε σ α} (hm : Within F m)
    (hf : ∀ e, Within F (f e)) : Within F (tryCatch m f) := by
  intro s tr r s' h
  rcases exec_tryCatch.mp h with ⟨a, -, h₁⟩ | ⟨e, s₁, tr₁, tr₂, rfl, h₁, h₂⟩
  · exact hm h₁
  · exact F.trans (hm h₁) (hf e h₂)

theorem finallyDo {m : Eff A ε σ α} {f : Eff A ε σ Unit} (hm : Within F m) (hf : Within F f) :
    Within F (m.finallyDo f) := by
  intro s tr r s' h
  obtain ⟨r₁, r₂, s₁, tr₁, tr₂, rfl, -, h₁, h₂⟩ := exec_finallyDo.mp h
  exact F.trans (hm h₁) (hf h₂)

theorem ite {c : Prop} [Decidable c] {m m' : Eff A ε σ α} (hm : Within F m) (hm' : Within F m') :
    Within F (if c then m else m') := by
  split
  · exact hm
  · exact hm'

theorem forM {l : List β} {f : β → Eff A ε σ PUnit} (hf : ∀ b ∈ l, Within F (f b)) :
    Within F (l.forM f) := by
  induction l with
  | nil => exact .pure _
  | cons b l ih =>
    exact .bind (hf b List.mem_cons_self) fun _ => ih fun b' hb' => hf b' (List.mem_cons_of_mem _ hb')

end Within

/-- Only calls with the property are made. -/
def callsOnly (ok : Q → Bool) : Frame A σ where
  holds _ tr _ := ∀ e ∈ tr, ok e.1 = true
  refl _ _ he := absurd he List.not_mem_nil
  trans h h' e he := (List.mem_append.mp he).elim (h e) (h' e)

theorem callsOnly_single {ok : Q → Bool} {q : Q} (hq : ok q = true) (s : σ) (ans : A q) :
    (callsOnly ok : Frame A σ).holds s [⟨q, ans⟩] s := by
  intro e he
  rw [List.mem_singleton.mp he]
  exact hq

/-- The state is as it was. -/
def stays : Frame A σ where
  holds s _ s' := s' = s
  refl _ := rfl
  trans h h' := h'.trans h

/-! ### Programs that never raise -/

/-- No run of the program raises. -/
def Total (m : Eff A ε σ α) : Prop := ∀ ⦃s tr r s'⦄, m.Exec s tr r s' → ∃ a, r = .ok a

namespace Total

theorem pure (a : α) : Total (pure a : Eff A ε σ α) := fun _ _ _ _ h =>
  ⟨a, (exec_pure.mp h).2.1.symm⟩

theorem getState : Total (getState : Eff A ε σ σ) := fun s _ _ _ h =>
  ⟨s, (exec_getState.mp h).2.1.symm⟩

theorem modifyState (f : σ → σ) : Total (modifyState f : Eff A ε σ Unit) := fun _ _ _ _ h =>
  ⟨(), (exec_modifyState.mp h).2.1.symm⟩

theorem call (q : Q) : Total (call q : Eff A ε σ (A q)) := fun _ _ _ _ h =>
  (exec_call.mp h).elim fun ans h => ⟨ans, h.2.1.symm⟩

theorem bind {m : Eff A ε σ α} {f : α → Eff A ε σ β} (hm : Total m) (hf : ∀ a, Total (f a)) :
    Total (m >>= f) := by
  intro s tr r s' h
  rcases exec_bind.mp h with ⟨e, -, h₁⟩ | ⟨a, s₁, tr₁, tr₂, -, -, h₂⟩
  · obtain ⟨a, ha⟩ := hm h₁
    cases ha
  · exact hf a h₂

theorem tryCatch {m : Eff A ε σ α} {f : ε → Eff A ε σ α} (hf : ∀ e, Total (f e)) :
    Total (tryCatch m f) := by
  intro s tr r s' h
  rcases exec_tryCatch.mp h with ⟨a, rfl, -⟩ | ⟨e, s₁, tr₁, tr₂, -, -, h₂⟩
  · exact ⟨a, rfl⟩
  · exact hf e h₂

theorem ite {c : Prop} [Decidable c] {m m' : Eff A ε σ α} (hm : Total m) (hm' : Total m') :
    Total (if c then m else m') := by
  split
  · exact hm
  · exact hm'

theorem forM {l : List β} {f : β → Eff A ε σ PUnit} (hf : ∀ b, Total (f b)) : Total (l.forM f) := by
  induction l with
  | nil => exact .pure _
  | cons b l ih => exact .bind (hf b) fun _ => ih

/-- A run of a sequence that starts with such a program is a run of both. -/
theorem exec_bind {m : Eff A ε σ α} (hm : Total m) {f : α → Eff A ε σ β} {s s' : σ}
    {tr : List (Event A)} {r : Except ε β} (h : (m >>= f).Exec s tr r s') :
    ∃ a s₁ tr₁ tr₂, tr = tr₁ ++ tr₂ ∧ m.Exec s tr₁ (.ok a) s₁ ∧ (f a).Exec s₁ tr₂ r s' := by
  rcases Eff.exec_bind.mp h with ⟨e, -, h₁⟩ | h
  · obtain ⟨a, ha⟩ := hm h₁
    cases ha
  · exact h

end Total

end Eff

end Effects
