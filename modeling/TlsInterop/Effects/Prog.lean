import Mathlib.Data.List.Basic

/-!
# Programs that make calls

A program either ends with a value or makes a call and continues with its
answer.  Nothing is said about the answers: a property of every run is a property
for every behaviour of the environment.

## Main definitions

* `Prog A α` — a program whose call `q` is answered in `A q`.
* `Prog.Runs p tr a` — some answers make `p` perform the calls of `tr` and end in `a`.
* `Prog.exec env p tr` — the run of `p` in the environment `env`.
* `Prog.embed` — a program over some of the calls, as a program over all.
* `Prog.Rel silent P p p'` — two programs make the same calls, but for silent ones,
  and end in related values.

## Main results

* `Prog.runs_bind` — a run of a sequence splits into two runs.
* `Prog.runs_exec` — an environment gives a run.
* `Prog.Rel.bind` — related programs are composed.
* `Prog.Rel.exec` — related programs end in related values in environments that
  answer alike.
-/

namespace Effects

variable {Q : Type} {A : Q → Type} {α β γ : Type}

/-- A call with its answer. -/
abbrev Event {Q : Type} (A : Q → Type) : Type := (q : Q) × A q

/-- A program: a value, or a call and what follows each answer. -/
inductive Prog {Q : Type} (A : Q → Type) (α : Type) : Type
  | done (a : α)
  | ask (q : Q) (k : A q → Prog A α)

namespace Prog

/-- Sequencing. -/
protected def bind : Prog A α → (α → Prog A β) → Prog A β
  | done a, f => f a
  | ask q k, f => ask q fun ans => (k ans).bind f

instance : Monad (Prog A) where
  pure := done
  bind := Prog.bind

@[simp] theorem pure_eq (a : α) : (pure a : Prog A α) = done a := rfl

@[simp] theorem done_bind (a : α) (f : α → Prog A β) : (done a : Prog A α) >>= f = f a := rfl

@[simp] theorem ask_bind (q : Q) (k : A q → Prog A α) (f : α → Prog A β) :
    ask q k >>= f = ask q fun ans => k ans >>= f := rfl

/-! ### Runs -/

/-- `p.Runs tr a`: with the answers of `tr`, the program makes the calls of `tr`
and ends in `a`. -/
def Runs : Prog A α → List (Event A) → α → Prop
  | done a, tr, b => tr = [] ∧ a = b
  | ask q k, tr, b => ∃ ans tr', tr = ⟨q, ans⟩ :: tr' ∧ (k ans).Runs tr' b

@[simp] theorem runs_done {a b : α} {tr : List (Event A)} :
    (done a).Runs tr b ↔ tr = [] ∧ a = b := Iff.rfl

@[simp] theorem runs_ask {q : Q} {k : A q → Prog A α} {tr : List (Event A)} {b : α} :
    (ask q k).Runs tr b ↔ ∃ ans tr', tr = ⟨q, ans⟩ :: tr' ∧ (k ans).Runs tr' b := Iff.rfl

/-- A run of a sequence is a run of the first program and one of the second. -/
theorem runs_bind {p : Prog A α} {f : α → Prog A β} {tr : List (Event A)} {b : β} :
    (p >>= f).Runs tr b ↔
      ∃ tr₁ a tr₂, tr = tr₁ ++ tr₂ ∧ p.Runs tr₁ a ∧ (f a).Runs tr₂ b := by
  induction p generalizing tr with
  | done a =>
    constructor
    · intro h
      exact ⟨[], a, tr, rfl, ⟨rfl, rfl⟩, h⟩
    · rintro ⟨tr₁, a', tr₂, rfl, ⟨rfl, rfl⟩, h⟩
      exact h
  | ask q k ih =>
    constructor
    · rintro ⟨ans, tr', rfl, h⟩
      obtain ⟨tr₁, a, tr₂, rfl, h₁, h₂⟩ := (ih ans).mp h
      exact ⟨⟨q, ans⟩ :: tr₁, a, tr₂, rfl, ⟨ans, tr₁, rfl, h₁⟩, h₂⟩
    · rintro ⟨tr₁, a, tr₂, rfl, ⟨ans, tr', rfl, h₁⟩, h₂⟩
      exact ⟨ans, tr' ++ tr₂, rfl, (ih ans).mpr ⟨tr', a, tr₂, rfl, h₁, h₂⟩⟩

/-! ### Environments -/

/-- An environment answers a call by what has happened before. -/
abbrev Env {Q : Type} (A : Q → Type) : Type := List (Event A) → (q : Q) → A q

/-- The run of a program in an environment, after the events of `past`: the value
and the events of the run. -/
def exec (env : Env A) : Prog A α → List (Event A) → α × List (Event A)
  | done a, _ => (a, [])
  | ask q k, past =>
    let ev : Event A := ⟨q, env past q⟩
    let r := (k (env past q)).exec env (past ++ [ev])
    (r.1, ev :: r.2)

@[simp] theorem exec_done (env : Env A) (a : α) (past : List (Event A)) :
    (done a).exec env past = (a, []) := rfl

/-- What an environment answers is a run. -/
theorem runs_exec (env : Env A) (p : Prog A α) (past : List (Event A)) :
    p.Runs (p.exec env past).2 (p.exec env past).1 := by
  induction p generalizing past with
  | done a => exact ⟨rfl, rfl⟩
  | ask q k ih => exact ⟨env past q, _, rfl, ih _ _⟩

/-- Every answer of a run in an environment is one the environment gives. -/
theorem exists_past_of_mem_exec {env : Env A} {p : Prog A α} {past : List (Event A)} {e : Event A}
    (h : e ∈ (p.exec env past).2) : ∃ past', e.2 = env past' e.1 := by
  induction p generalizing past with
  | done a => exact absurd h List.not_mem_nil
  | ask q k ih =>
    rcases List.mem_cons.mp h with rfl | h
    · exact ⟨past, rfl⟩
    · exact ih _ h

/-! ### Programs over some of the calls -/

section

variable {Q' : Type} {A' : Q' → Type} {ι : Q → Q'}

/-- A program over some of the calls, as a program over all of them. -/
def embed (A' : Q' → Type) (ι : Q → Q') : Prog (fun q => A' (ι q)) α → Prog A' α
  | done a => done a
  | ask q k => ask (ι q) fun ans => (k ans).embed A' ι

/-- A call of the part, as a call of the whole. -/
def embedEvent (A' : Q' → Type) (ι : Q → Q') (e : Event fun q => A' (ι q)) : Event A' := ⟨ι e.1, e.2⟩

theorem runs_embed {p : Prog (fun q => A' (ι q)) α} {tr : List (Event A')} {b : α} :
    (p.embed A' ι).Runs tr b ↔ ∃ tr₀, tr = tr₀.map (embedEvent A' ι) ∧ p.Runs tr₀ b := by
  induction p generalizing tr with
  | done a =>
    constructor
    · rintro ⟨rfl, rfl⟩
      exact ⟨[], rfl, rfl, rfl⟩
    · rintro ⟨_, rfl, rfl, rfl⟩
      exact ⟨rfl, rfl⟩
  | ask q k ih =>
    constructor
    · rintro ⟨ans, tr', rfl, h⟩
      obtain ⟨tr₀, rfl, h₀⟩ := (ih ans).mp h
      exact ⟨⟨q, ans⟩ :: tr₀, rfl, ans, tr₀, rfl, h₀⟩
    · rintro ⟨_, rfl, ans, tr₀, rfl, h₀⟩
      exact ⟨ans, _, rfl, (ih ans).mpr ⟨tr₀, rfl, h₀⟩⟩

end

/-! ### Programs that make the same calls but for silent ones -/

/-- The two programs make the same calls, whatever is answered, and end in related
values; a silent call may be made by one of them only. -/
inductive Rel (silent : Q → Bool) (P : α → β → Prop) : Prog A α → Prog A β → Prop
  | done {a : α} {b : β} (h : P a b) : Rel silent P (done a) (done b)
  | ask {q : Q} {k : A q → Prog A α} {k' : A q → Prog A β}
      (h : ∀ ans, Rel silent P (k ans) (k' ans)) : Rel silent P (ask q k) (ask q k')
  | left {q : Q} {k : A q → Prog A α} {p' : Prog A β} (hq : silent q = true)
      (h : ∀ ans, Rel silent P (k ans) p') : Rel silent P (ask q k) p'
  | right {q : Q} {p : Prog A α} {k' : A q → Prog A β} (hq : silent q = true)
      (h : ∀ ans, Rel silent P p (k' ans)) : Rel silent P p (ask q k')

section

variable {silent : Q → Bool}

theorem Rel.refl {P : α → α → Prop} (hP : ∀ a, P a a) (p : Prog A α) : p.Rel silent P p := by
  induction p with
  | done a => exact .done (hP a)
  | ask q k ih => exact .ask ih

theorem Rel.bind {P : α → β → Prop} {α' β' : Type} {S : α' → β' → Prop} {p : Prog A α}
    {p' : Prog A β} {f : α → Prog A α'} {f' : β → Prog A β'} (h : p.Rel silent P p')
    (hf : ∀ a b, P a b → (f a).Rel silent S (f' b)) : (p >>= f).Rel silent S (p' >>= f') := by
  induction h with
  | done hP => exact hf _ _ hP
  | ask _ ih => exact .ask ih
  | left hq _ ih => exact .left hq ih
  | right hq _ ih => exact .right hq ih

/-- The events that are not silent. -/
def loud (silent : Q → Bool) (tr : List (Event A)) : List (Event A) :=
  tr.filter fun e => !silent e.1

@[simp] theorem loud_append (tr tr' : List (Event A)) :
    loud silent (tr ++ tr') = loud silent tr ++ loud silent tr' := List.filter_append ..

/-- Two environments, after their pasts, answer alike as long as the same happens
but for silent calls. -/
def AnswerAlike (silent : Q → Bool) (env env' : Env A) (past past' : List (Event A)) : Prop :=
  ∀ tr tr', loud silent tr = loud silent tr' →
    ∀ q, silent q = false → env (past ++ tr) q = env' (past' ++ tr') q

/-- What has happened since is part of the pasts. -/
theorem AnswerAlike.after {env env' : Env A} {past past' tr tr' : List (Event A)}
    (h : AnswerAlike silent env env' past past') (htr : loud silent tr = loud silent tr') :
    AnswerAlike silent env env' (past ++ tr) (past' ++ tr') := by
  intro tr₂ tr₂' h₂ q hq
  rw [List.append_assoc, List.append_assoc]
  exact h _ _ (by rw [loud_append, loud_append, htr, h₂]) q hq

/-- In environments that answer alike, related programs end in related values after
the same calls, but for silent ones, whose answers must not tell anything. -/
theorem Rel.exec (hsilent : ∀ q, silent q = true → Subsingleton (A q)) {P : α → β → Prop}
    {p : Prog A α} {p' : Prog A β} (h : p.Rel silent P p') {env env' : Env A}
    {past past' : List (Event A)} (henv : AnswerAlike silent env env' past past') :
    P (p.exec env past).1 (p'.exec env' past').1 ∧
      loud silent (p.exec env past).2 = loud silent (p'.exec env' past').2 := by
  induction h generalizing past past' with
  | done hP => exact ⟨hP, rfl⟩
  | @ask q k k' _ ih =>
    have hans : env past q = env' past' q := by
      cases hq : silent q with
      | false => simpa using henv [] [] rfl q hq
      | true => exact (hsilent q hq).elim _ _
    have hnext : AnswerAlike silent env env' (past ++ [⟨q, env past q⟩])
        (past' ++ [⟨q, env past q⟩]) := henv.after rfl
    obtain ⟨hval, hev⟩ := ih (env past q) hnext
    rw [Prog.exec, Prog.exec, ← hans]
    exact ⟨hval, by simp only [loud, List.filter_cons] at hev ⊢; rw [hev]⟩
  | @left q k p' hq _ ih =>
    have hquiet : loud silent [(⟨q, env past q⟩ : Event A)] = loud silent [] := by simp [loud, hq]
    obtain ⟨hval, hev⟩ := ih (env past q) (by simpa using henv.after hquiet)
    exact ⟨hval, by simpa [Prog.exec, loud, hq] using hev⟩
  | @right q p k' hq _ ih =>
    have hquiet : loud silent [] = loud silent [(⟨q, env' past' q⟩ : Event A)] := by simp [loud, hq]
    obtain ⟨hval, hev⟩ := ih (env' past' q) (by simpa using henv.after hquiet)
    exact ⟨hval, by simpa [Prog.exec, loud, hq] using hev⟩

end

end Prog

end Effects
