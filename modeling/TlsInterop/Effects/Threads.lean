import TlsInterop.Effects.Prog
import TlsInterop.Effects.Transition
import Mathlib.Data.List.Count

/-!
# Threads that call servers

Threads run programs.  Some of their calls go to servers: a thread waits for the
answer, and every server executes what it has received one after another, in the
order of arrival.  A caller may give up a call that has a deadline; the server may
then execute it, or drop it before it begins.

## Main definitions

* `Net` — which calls go to which server, and which of them have a deadline.
* `Thread`, `Pending`, `Threads` — a thread, a call at a server, and a state.
* `Net.Step` — what the threads and the servers do.
* `Threads.Sound` — a thread waits for exactly one call.

## Main results

* `Net.Step.quiet` — a thread that has ended, or was not started, does nothing.
* `Threads.Sound.step` — every step keeps what is sound.
* `Threads.Sound.awaited_eq_false` — the calls that a thread leaves are those it gave up.
* `Net.exists_ended_stalled` — threads come to their ends while the servers do nothing.
* `Net.exists_ended` — a thread comes to its end without the servers.
-/

namespace Effects

variable {Q : Type} {A : Q → Type} {α ι κ : Type}

/-- Every call the program may make is allowed. -/
def Prog.Calls (ok : Q → Prop) : Prog A α → Prop
  | .done _ => True
  | .ask q k => ok q ∧ ∀ ans, (k ans).Calls ok

theorem Prog.Calls.mono {ok ok' : Q → Prop} (hok : ∀ q, ok q → ok' q) :
    {p : Prog A α} → p.Calls ok → p.Calls ok'
  | .done _, _ => trivial
  | .ask q _, ⟨hq, hk⟩ => ⟨hok q hq, fun ans => (hk ans).mono hok⟩

/-- A program makes no other calls when none of its runs does. -/
theorem Prog.calls_of_runs (hanswers : ∀ q, Nonempty (A q)) {ok : Q → Prop} {p : Prog A α}
    (h : ∀ tr a, p.Runs tr a → ∀ e ∈ tr, ok e.1) : p.Calls ok := by
  induction p with
  | done a => trivial
  | ask q k ih =>
    refine ⟨?_, fun ans => ih ans fun tr a hrun e he => ?_⟩
    · exact h _ _ (Prog.runs_exec (fun _ q => (hanswers q).some) (.ask q k) []) _
        List.mem_cons_self
    · exact h _ a ⟨ans, tr, rfl, hrun⟩ e (List.mem_cons_of_mem _ he)

/-- A program that makes a call of the kind `last` before it ends, if it makes a call. -/
def Prog.EndsWith (last : Q → Prop) : Prog A α → Prop
  | .done _ => True
  | .ask q k => (¬ last q → ∀ ans a, k ans ≠ .done a) ∧ ∀ ans, (k ans).EndsWith last

theorem Prog.Calls.endsWith {last : Q → Prop} : {p : Prog A α} → p.Calls last → p.EndsWith last
  | .done _, _ => trivial
  | .ask _ _, ⟨hq, hk⟩ => ⟨fun hlast => absurd hq hlast, fun ans => (hk ans).endsWith⟩

/-- What follows a program decides how it ends, if it is not at its end at once. -/
theorem Prog.endsWith_bind {β : Type} {last : Q → Prop} {p : Prog A α} {f : α → Prog A β}
    (hf : ∀ a, (f a).EndsWith last ∧ ∀ b, f a ≠ .done b) : (p >>= f).EndsWith last := by
  induction p with
  | done a => exact (hf a).1
  | ask q k ih =>
    refine ⟨fun _ ans b hdone => ?_, ih⟩
    replace hdone : (k ans).bind f = .done b := hdone
    cases hk : k ans with
    | done a =>
      rw [hk] at hdone
      exact (hf a).2 b hdone
    | ask q' k' =>
      rw [hk] at hdone
      cases hdone

theorem Prog.EndsWith.bind_done {β : Type} {last : Q → Prop} {p : Prog A α} {g : α → β}
    (h : p.EndsWith last) : (p >>= fun a => Prog.done (g a)).EndsWith last := by
  induction p with
  | done a => trivial
  | ask q k ih =>
    refine ⟨fun hlast ans b hdone => ?_, fun ans => ih ans (h.2 ans)⟩
    replace hdone : ((k ans).bind fun a => .done (g a)) = .done b := hdone
    cases hk : k ans with
    | done a => exact h.1 hlast ans a hk
    | ask q' k' =>
      rw [hk] at hdone
      cases hdone

/-- Where the calls of a thread go: to a server, or to none; a call may have a
deadline, and some of its answers say that it has failed. -/
structure Net {Q : Type} (A : Q → Type) (ι κ : Type) where
  server : ι → Q → Option κ
  bounded : Q → Prop
  Fails : (q : Q) → A q → Prop

/-- A thread: what is left of its program, and whether it waits for a server. -/
structure Thread {Q : Type} (A : Q → Type) (α : Type) where
  program : Prog A α
  waiting : Bool

/-- A call at a server: whether its caller still waits for it, and whether it is executed. -/
structure Pending (Q ι κ : Type) where
  server : κ
  caller : ι
  call : Q
  awaited : Bool
  executing : Bool

/-- The threads, and the calls at the servers in the order of their arrival. -/
structure Threads {Q : Type} (A : Q → Type) (α ι κ : Type) where
  threads : ι → Option (Thread A α)
  pending : List (Pending Q ι κ)

namespace Threads

variable (s : Threads A α ι κ) (i : ι)

/-- The thread has come to its end. -/
def Ended : Prop := ∃ a, s.threads i = some ⟨.done a, false⟩

/-- The thread has ended, or there is none. -/
def Quiet : Prop := s.threads i = none ∨ s.Ended i

/-- The thread waits for a server. -/
def waits : Bool := (s.threads i).any Thread.waiting

variable [DecidableEq ι]

/-- The thread goes on with the program. -/
def resume (p : Prog A α) : Threads A α ι κ :=
  { s with threads := Function.update s.threads i (some ⟨p, false⟩) }

end Threads

variable [DecidableEq ι]

/-- A step of a thread or of a server. -/
inductive Net.Step (net : Net A ι κ) : Threads A α ι κ → Threads A α ι κ → Prop
  /-- A call that goes to no server, or does not reach it, is answered. -/
  | reply {s : Threads A α ι κ} {i : ι} {q : Q} {k : A q → Prog A α} {ans : A q}
      (hthread : s.threads i = some ⟨.ask q k, false⟩)
      (hans : net.server i q = none ∨ net.Fails q ans) :
      net.Step s (s.resume i (k ans))
  /-- A call arrives at its server. -/
  | send {s : Threads A α ι κ} {i : ι} {q : Q} {k : A q → Prog A α} {x : κ}
      (hthread : s.threads i = some ⟨.ask q k, false⟩) (hserver : net.server i q = some x) :
      net.Step s
        { threads := Function.update s.threads i (some ⟨.ask q k, true⟩)
          pending := s.pending ++ [⟨x, i, q, true, false⟩] }
  /-- A server begins to execute the first of its calls. -/
  | start {s : Threads A α ι κ} {pre post : List (Pending Q ι κ)} {c : Pending Q ι κ}
      (hpending : s.pending = pre ++ c :: post) (hfirst : ∀ c' ∈ pre, c'.server ≠ c.server) :
      net.Step s { s with pending := pre ++ { c with executing := true } :: post }
  /-- A call that was executed, or that the server cannot execute, is answered. -/
  | answer {s : Threads A α ι κ} {pre post : List (Pending Q ι κ)} {c : Pending Q ι κ}
      {k : A c.call → Prog A α} {ans : A c.call} (hpending : s.pending = pre ++ c :: post)
      (hawaited : c.awaited = true) (hthread : s.threads c.caller = some ⟨.ask c.call k, true⟩)
      (hans : c.executing = true ∨ net.Fails c.call ans) :
      net.Step s { s.resume c.caller (k ans) with pending := pre ++ post }
  /-- A call that nobody waits for has been executed, or is dropped. -/
  | discard {s : Threads A α ι κ} {pre post : List (Pending Q ι κ)} {c : Pending Q ι κ}
      (hpending : s.pending = pre ++ c :: post) (hawaited : c.awaited = false) :
      net.Step s { s with pending := pre ++ post }
  /-- The deadline of a call passes. -/
  | giveUp {s : Threads A α ι κ} {pre post : List (Pending Q ι κ)} {c : Pending Q ι κ}
      {k : A c.call → Prog A α} {ans : A c.call} (hpending : s.pending = pre ++ c :: post)
      (hawaited : c.awaited = true) (hthread : s.threads c.caller = some ⟨.ask c.call k, true⟩)
      (hbounded : net.bounded c.call) (hans : net.Fails c.call ans) :
      net.Step s
        { s.resume c.caller (k ans) with pending := pre ++ { c with awaited := false } :: post }

/-! ### What a step leaves alone -/

section

variable {net : Net A ι κ} {s s' : Threads A α ι κ} {i j : ι}

namespace Threads

omit [DecidableEq ι] in
theorem Ended.not_waits (h : s.Ended i) : s.waits i = false := by
  obtain ⟨a, ha⟩ := h
  unfold waits
  rw [ha]
  rfl

omit [DecidableEq ι] in
theorem Quiet.not_waits (h : s.Quiet i) : s.waits i = false := by
  rcases h with h | h
  · unfold waits
    rw [h]
    rfl
  · exact h.not_waits

omit [DecidableEq ι] in
theorem not_ended_of_waiting {p : Prog A α} (h : s.threads i = some ⟨p, true⟩) : ¬ s.Ended i := by
  rintro ⟨a, ha⟩
  rw [h] at ha
  cases ha

theorem waits_of_update {t : Thread A α} {l : List (Pending Q ι κ)} :
    (Threads.mk (Function.update s.threads j (some t)) l).waits i
      = if i = j then t.waiting else s.waits i := by
  unfold waits
  by_cases hij : i = j
  · subst hij
    simp
  · simp [hij]

@[simp] theorem threads_resume (p : Prog A α) :
    (s.resume i p).threads = Function.update s.threads i (some ⟨p, false⟩) := rfl

@[simp] theorem threads_resume_self (p : Prog A α) :
    (s.resume i p).threads i = some ⟨p, false⟩ := Function.update_self ..

theorem threads_resume_of_ne (hne : j ≠ i) (p : Prog A α) :
    (s.resume i p).threads j = s.threads j := Function.update_of_ne hne ..

/-- A thread is quiet whatever another one goes on with. -/
theorem Quiet.resume (hne : j ≠ i) {p : Prog A α} (h : s.Quiet j) : (s.resume i p).Quiet j := by
  unfold Quiet Ended
  rw [threads_resume_of_ne hne]
  exact h

@[simp] theorem pending_resume (p : Prog A α) : (s.resume i p).pending = s.pending := rfl

end Threads

/-- A step changes one thread at most, and only one that has a call to make. -/
theorem Net.Step.thread_cases (h : net.Step s s') (i : ι) : s'.threads i = s.threads i ∨
    ∃ q k waiting, s.threads i = some ⟨.ask q k, waiting⟩ ∧ ∃ t, s'.threads i = some t := by
  have hupdate : ∀ {j q k waiting t}, s.threads j = some ⟨.ask q k, waiting⟩ →
      Function.update s.threads j (some t) i = s.threads i ∨
        ∃ q k waiting, s.threads i = some ⟨.ask q k, waiting⟩ ∧
          ∃ t', Function.update s.threads j (some t) i = some t' := by
    intro j q k waiting t hthread
    by_cases hij : i = j
    · subst hij
      exact .inr ⟨q, k, waiting, hthread, t, Function.update_self ..⟩
    · exact .inl (Function.update_of_ne hij ..)
  cases h with
  | reply hthread => exact hupdate hthread
  | send hthread => exact hupdate hthread
  | start => exact .inl rfl
  | answer _ _ hthread => exact hupdate hthread
  | discard => exact .inl rfl
  | giveUp _ _ hthread => exact hupdate hthread

/-- A thread that has ended does nothing. -/
theorem Net.Step.ended (h : net.Step s s') (hi : s.Ended i) : s'.Ended i := by
  obtain ⟨a, ha⟩ := hi
  rcases h.thread_cases i with hsame | ⟨q, k, waiting, hthread, -⟩
  · exact ⟨a, hsame.trans ha⟩
  · rw [ha] at hthread
    cases hthread

/-- A thread that was not started does nothing. -/
theorem Net.Step.absent (h : net.Step s s') (hi : s.threads i = none) : s'.threads i = none := by
  rcases h.thread_cases i with hsame | ⟨q, k, waiting, hthread, -⟩
  · exact hsame.trans hi
  · rw [hi] at hthread
    cases hthread

theorem Net.Step.quiet (h : net.Step s s') (hi : s.Quiet i) : s'.Quiet i :=
  hi.imp h.absent h.ended

/-- A thread that was started stays. -/
theorem Net.Step.present (h : net.Step s s') (hi : s.threads i ≠ none) : s'.threads i ≠ none := by
  rcases h.thread_cases i with hsame | ⟨q, k, waiting, -, t, ht⟩
  · rwa [hsame]
  · rw [ht]
    exact Option.some_ne_none t

/-- What holds of a program whatever it is answered holds of the thread after a step. -/
theorem Net.Step.program (h : net.Step s s') {P : Prog A α → Prop}
    (hP : ∀ q k ans, P (.ask q k) → P (k ans)) (hi : ∀ t, s.threads i = some t → P t.program)
    (t : Thread A α) (ht : s'.threads i = some t) : P t.program := by
  have hupdate : ∀ {j : ι} {q : Q} {k : A q → Prog A α} {waiting : Bool} {t' : Thread A α},
      s.threads j = some ⟨.ask q k, waiting⟩ → (P (.ask q k) → P t'.program) →
      Function.update s.threads j (some t') i = some t → P t.program := by
    intro j q k waiting t' hthread hstep heq
    by_cases hij : i = j
    · subst hij
      rw [Function.update_self] at heq
      cases heq
      exact hstep (hi _ hthread)
    · rw [Function.update_of_ne hij] at heq
      exact hi t heq
  cases h with
  | reply hthread => exact hupdate hthread (hP _ _ _) ht
  | send hthread =>
    refine hupdate hthread (fun hp => ?_) ht
    exact hp
  | start => exact hi t ht
  | answer _ _ hthread => exact hupdate hthread (hP _ _ _) ht
  | discard => exact hi t ht
  | giveUp _ _ hthread => exact hupdate hthread (hP _ _ _) ht

/-- Where a call at a server comes from: it was there before, still awaited or with a
deadline that may have passed, or a thread has made it. -/
inductive Net.Origin (net : Net A ι κ) (s : Threads A α ι κ) (c : Pending Q ι κ) : Prop
  | old (c₀ : Pending Q ι κ) (hmem : c₀ ∈ s.pending) (hcaller : c.caller = c₀.caller)
      (hcall : c.call = c₀.call)
      (hawaited : c.awaited = c₀.awaited ∨ net.bounded c.call)
  | made (k : A c.call → Prog A α) (hthread : s.threads c.caller = some ⟨.ask c.call k, false⟩)
      (hserver : net.server c.caller c.call ≠ none) (hawaited : c.awaited = true)

theorem Net.Step.origin (h : net.Step s s') {c : Pending Q ι κ} (hc : c ∈ s'.pending) :
    net.Origin s c := by
  have hsame : c ∈ s.pending → net.Origin s c := fun hmem => .old c hmem rfl rfl (.inl rfl)
  -- the other calls stay as they are
  have hrest : ∀ {pre post : List (Pending Q ι κ)} {c₀ : Pending Q ι κ},
      s.pending = pre ++ c₀ :: post → c ∈ pre ++ post → net.Origin s c := by
    intro pre post c₀ hpending hmem
    refine hsame ?_
    rw [hpending]
    rcases List.mem_append.mp hmem with hmem | hmem <;> simp [hmem]
  -- of the call that moves, only the server's side or the wait changes
  have hmiddle : ∀ {pre post : List (Pending Q ι κ)} {c₀ c₁ : Pending Q ι κ},
      s.pending = pre ++ c₀ :: post → (c = c₁ → net.Origin s c) → c ∈ pre ++ c₁ :: post →
      net.Origin s c := by
    intro pre post c₀ c₁ hpending hnew hmem
    rcases List.mem_append.mp hmem with hpre | hpost
    · exact hrest hpending (List.mem_append_left _ hpre)
    rcases List.mem_cons.mp hpost with heq | hpost
    · exact hnew heq
    · exact hrest hpending (List.mem_append_right _ hpost)
  cases h with
  | reply => exact hsame hc
  | @send i q k x hthread hserver =>
    rcases List.mem_append.mp hc with hold | hnew
    · exact hsame hold
    · obtain rfl := List.mem_singleton.mp hnew
      exact .made k hthread (Option.ne_none_iff_exists'.mpr ⟨x, hserver⟩) rfl
  | @start pre post c₀ hpending =>
    refine hmiddle hpending (fun heq => ?_) hc
    subst heq
    exact .old c₀ (by simp [hpending]) rfl rfl (.inl rfl)
  | answer hpending => exact hrest hpending hc
  | discard hpending => exact hrest hpending hc
  | @giveUp pre post c₀ k ans hpending _ _ hbounded =>
    refine hmiddle hpending (fun heq => ?_) hc
    subst heq
    exact .old c₀ (by simp [hpending]) rfl rfl (.inr hbounded)

/-! ### Every thread waits for exactly one call -/

/-- How many calls the thread waits for. -/
def awaitedBy (i : ι) (l : List (Pending Q ι κ)) : ℕ :=
  l.countP fun c => c.awaited && decide (c.caller = i)

@[simp] theorem awaitedBy_append (l l' : List (Pending Q ι κ)) :
    awaitedBy i (l ++ l') = awaitedBy i l + awaitedBy i l' := List.countP_append

@[simp] theorem awaitedBy_cons (c : Pending Q ι κ) (l : List (Pending Q ι κ)) :
    awaitedBy i (c :: l) = awaitedBy i l + (c.awaited && decide (c.caller = i)).toNat := by
  unfold awaitedBy
  rw [List.countP_cons]
  cases c.awaited && decide (c.caller = i) <;> rfl

@[simp] theorem awaitedBy_nil : awaitedBy i ([] : List (Pending Q ι κ)) = 0 := rfl

/-- A thread waits for one call or for none, and a call that nobody waits for had a
deadline.  What each thread calls is allowed. -/
structure Threads.Sound (net : Net A ι κ) (ok : ι → Q → Prop) (s : Threads A α ι κ) : Prop where
  matched : ∀ i, awaitedBy i s.pending = (s.waits i).toNat
  calls : ∀ i t, s.threads i = some t → t.program.Calls (ok i)
  known : ∀ c ∈ s.pending, s.threads c.caller ≠ none
  allowed : ∀ c ∈ s.pending, ok c.caller c.call
  sent : ∀ c ∈ s.pending, net.server c.caller c.call ≠ none
  givenUp : ∀ c ∈ s.pending, c.awaited = false → net.bounded c.call
  expected : ∀ c ∈ s.pending, c.awaited = true →
    ∃ k, s.threads c.caller = some ⟨.ask c.call k, true⟩

namespace Threads.Sound

variable {ok : ι → Q → Prop}

theorem step_matched (h : s.Sound net ok) (hstep : net.Step s s') (i : ι) :
    awaitedBy i s'.pending = (s'.waits i).toNat := by
  have hmatched := h.matched i
  cases hstep with
  | @reply j q k ans hthread _ =>
    rw [resume, waits_of_update]
    by_cases hij : i = j
    · subst hij
      have hwaits : s.waits i = false := by simp [waits, hthread]
      rw [if_pos rfl]
      rwa [hwaits] at hmatched
    · rwa [if_neg hij]
  | @send j q k x hthread _ =>
    rw [waits_of_update]
    -- only the thread that sends has a new call to wait for
    by_cases hij : i = j
    · subst hij
      have hwaits : s.waits i = false := by simp [waits, hthread]
      rw [hwaits] at hmatched
      simp [hmatched]
    · simp [hij, Ne.symm hij, hmatched]
  | start hpending =>
    rw [hpending] at hmatched
    show awaitedBy i _ = (s.waits i).toNat
    simpa using hmatched
  | @answer pre post c k ans hpending hawaited hthread _ =>
    rw [hpending] at hmatched
    rw [resume, waits_of_update]
    -- the call that is answered is no longer waited for
    by_cases hij : i = c.caller
    · subst hij
      have hwaits : s.waits c.caller = true := by simp [waits, hthread]
      rw [hwaits] at hmatched
      simp [hawaited] at hmatched ⊢
      omega
    · simpa [hij, Ne.symm hij] using hmatched
  | discard hpending hawaited =>
    rw [hpending] at hmatched
    show awaitedBy i _ = (s.waits i).toNat
    simpa [hawaited] using hmatched
  | @giveUp pre post c k ans hpending hawaited hthread _ _ =>
    rw [hpending] at hmatched
    rw [resume, waits_of_update]
    -- nor is the one that is given up
    by_cases hij : i = c.caller
    · subst hij
      have hwaits : s.waits c.caller = true := by simp [waits, hthread]
      rw [hwaits] at hmatched
      simp [hawaited] at hmatched ⊢
      omega
    · simpa [hij, Ne.symm hij] using hmatched

/-- Nobody waits for two calls. -/
theorem caller_ne (h : s.Sound net ok) {pre post : List (Pending Q ι κ)} {c c' : Pending Q ι κ}
    (hpending : s.pending = pre ++ c :: post) (hc : c.awaited = true) (hc' : c' ∈ pre ++ post)
    (hawaited : c'.awaited = true) : c'.caller ≠ c.caller := by
  intro heq
  have hmatched := h.matched c.caller
  rw [hpending, awaitedBy_append, awaitedBy_cons] at hmatched
  have hpos : 0 < awaitedBy c.caller (pre ++ post) :=
    List.countP_pos_iff.mpr ⟨c', hc', by simp [hawaited, heq]⟩
  rw [awaitedBy_append] at hpos
  have hle : (s.waits c.caller).toNat ≤ 1 := Bool.toNat_le _
  simp [hc] at hmatched
  omega

theorem step_expected (h : s.Sound net ok) (hstep : net.Step s s') {c : Pending Q ι κ}
    (hc : c ∈ s'.pending) (hawaited : c.awaited = true) :
    ∃ k, s'.threads c.caller = some ⟨.ask c.call k, true⟩ := by
  -- a thread that does not wait is not the caller of an awaited call
  have hidle : ∀ {j : ι} {p : Prog A α}, s.threads j = some ⟨p, false⟩ → c ∈ s.pending →
      c.caller ≠ j := by
    intro j p hthread hmem heq
    obtain ⟨k, hk⟩ := h.expected c hmem hawaited
    rw [heq, hthread] at hk
    cases hk
  -- and the other threads are as they were
  have hold : ∀ {j : ι} {t : Thread A α}, c ∈ s.pending → c.caller ≠ j →
      ∃ k, Function.update s.threads j (some t) c.caller = some ⟨.ask c.call k, true⟩ := by
    intro j t hmem hne
    rw [Function.update_of_ne hne]
    exact h.expected c hmem hawaited
  cases hstep with
  | reply hthread => exact hold hc (hidle hthread hc)
  | @send i q k x hthread _ =>
    rcases List.mem_append.mp hc with hmem | hnew
    · exact hold hmem (hidle hthread hmem)
    · obtain rfl := List.mem_singleton.mp hnew
      exact ⟨k, Function.update_self ..⟩
  | @start pre post c₀ hpending =>
    rcases List.mem_append.mp hc with hmem | hmem
    · exact h.expected c (by simp [hpending, hmem]) hawaited
    rcases List.mem_cons.mp hmem with rfl | hmem
    · exact h.expected c₀ (by simp [hpending]) hawaited
    · exact h.expected c (by simp [hpending, hmem]) hawaited
  | @answer pre post c₀ k ans hpending hc₀ =>
    have hmem : c ∈ s.pending := by
      rw [hpending]
      rcases List.mem_append.mp hc with hmem | hmem <;> simp [hmem]
    exact hold hmem (h.caller_ne hpending hc₀ hc hawaited)
  | @discard pre post c₀ hpending =>
    refine h.expected c ?_ hawaited
    rw [hpending]
    rcases List.mem_append.mp hc with hmem | hmem <;> simp [hmem]
  | @giveUp pre post c₀ k ans hpending hc₀ =>
    -- the call given up is awaited no longer, so that it is not `c`
    have hrest : c ∈ pre ++ post := by
      rcases List.mem_append.mp hc with hmem | hmem
      · exact List.mem_append_left _ hmem
      rcases List.mem_cons.mp hmem with rfl | hmem
      · cases hawaited
      · exact List.mem_append_right _ hmem
    have hmem : c ∈ s.pending := by
      rw [hpending]
      rcases List.mem_append.mp hrest with hmem | hmem <;> simp [hmem]
    exact hold hmem (h.caller_ne hpending hc₀ hrest hawaited)

/-- Every step keeps what is sound. -/
theorem step (h : s.Sound net ok) (hstep : net.Step s s') : s'.Sound net ok where
  matched := h.step_matched hstep
  calls i := hstep.program (fun _ _ ans hcalls => hcalls.2 ans) (h.calls i)
  known c hc := by
    refine hstep.present ?_
    cases hstep.origin hc with
    | old c₀ hmem hcaller =>
      rw [hcaller]
      exact h.known c₀ hmem
    | made k hthread =>
      rw [hthread]
      exact Option.some_ne_none _
  allowed c hc := by
    cases hstep.origin hc with
    | old c₀ hmem hcaller hcall =>
      rw [hcaller, hcall]
      exact h.allowed c₀ hmem
    | made k hthread => exact (h.calls _ _ hthread).1
  sent c hc := by
    cases hstep.origin hc with
    | old c₀ hmem hcaller hcall =>
      rw [hcaller, hcall]
      exact h.sent c₀ hmem
    | made _ _ hserver => exact hserver
  givenUp c hc hlost := by
    cases hstep.origin hc with
    | old c₀ hmem _ hcall hawaited =>
      rcases hawaited with hawaited | hbounded
      · rw [hcall]
        exact h.givenUp c₀ hmem (hawaited.symm.trans hlost)
      · exact hbounded
    | made _ _ _ hawaited =>
      rw [hlost] at hawaited
      cases hawaited
  expected _ := h.step_expected hstep

theorem steps (h : s.Sound net ok) (hrun : Relation.ReflTransGen net.Step s s') :
    s'.Sound net ok := by
  induction hrun with
  | refl => exact h
  | tail _ hstep ih => exact ih.step hstep

/-- A thread that is started where there was none. -/
theorem resume (h : s.Sound net ok) (hi : s.Quiet i) {p : Prog A α} (hp : p.Calls (ok i)) :
    (s.resume i p).Sound net ok where
  matched j := by
    have hmatched := h.matched j
    rw [Threads.resume, waits_of_update]
    by_cases hji : j = i
    · subst hji
      rw [hi.not_waits] at hmatched
      rwa [if_pos rfl]
    · rwa [if_neg hji]
  calls j t ht := by
    rw [threads_resume] at ht
    by_cases hji : j = i
    · subst hji
      rw [Function.update_self] at ht
      cases ht
      exact hp
    · rw [Function.update_of_ne hji] at ht
      exact h.calls j t ht
  known c hc := by
    rw [threads_resume]
    by_cases hci : c.caller = i
    · rw [hci, Function.update_self]
      exact Option.some_ne_none _
    · rw [Function.update_of_ne hci]
      exact h.known c hc
  allowed := h.allowed
  sent := h.sent
  givenUp := h.givenUp
  expected c hc hawaited := by
    obtain ⟨k, hk⟩ := h.expected c hc hawaited
    have hne : c.caller ≠ i := by
      rintro rfl
      have hwaits := hi.not_waits
      simp [waits, hk] at hwaits
    rw [threads_resume_of_ne hne]
    exact ⟨k, hk⟩

/-- The call that a thread waits for is at a server. -/
theorem exists_awaited (h : s.Sound net ok) {p : Prog A α} (hthread : s.threads i = some ⟨p, true⟩) :
    ∃ c ∈ s.pending, c.awaited = true ∧ c.caller = i ∧ ∃ k, p = .ask c.call k := by
  have hmatched := h.matched i
  have hwaits : s.waits i = true := by simp [waits, hthread]
  rw [hwaits] at hmatched
  have hpos : 0 < awaitedBy i s.pending := by
    rw [hmatched]
    exact Nat.one_pos
  obtain ⟨c, hc, hboth⟩ := List.countP_pos_iff.mp hpos
  obtain ⟨hawaited, rfl⟩ : c.awaited = true ∧ c.caller = i := by simpa using hboth
  obtain ⟨k, hk⟩ := h.expected c hc hawaited
  rw [hthread] at hk
  cases hk
  exact ⟨c, hc, hawaited, rfl, k, rfl⟩

/-- A thread that does not wait has left no call, but those it has given up. -/
theorem awaited_eq_false (h : s.Sound net ok) {c : Pending Q ι κ} (hc : c ∈ s.pending)
    (hwaits : s.waits c.caller = false) : c.awaited = false := by
  have hmatched := h.matched c.caller
  rw [hwaits] at hmatched
  have hnone := List.countP_eq_zero.mp hmatched c hc
  simpa using hnone

end Threads.Sound

/-! ### Servers that do nothing -/

/-- The calls that are executed. -/
def executed (l : List (Pending Q ι κ)) : List (κ × ι × Q) :=
  (l.filter Pending.executing).map fun c => (c.server, c.caller, c.call)

omit [DecidableEq ι] in
theorem executed_append (l l' : List (Pending Q ι κ)) :
    executed (l ++ l') = executed l ++ executed l' := by
  simp [executed]

omit [DecidableEq ι] in
theorem executed_cons (c : Pending Q ι κ) (l : List (Pending Q ι κ)) :
    executed (c :: l)
      = (if c.executing then [(c.server, c.caller, c.call)] else []) ++ executed l := by
  unfold executed
  cases hc : c.executing <;> simp [hc]

/-- A step in which no server begins to execute a call, or ends it. -/
def Net.Stalled (net : Net A ι κ) (s s' : Threads A α ι κ) : Prop :=
  net.Step s s' ∧ executed s'.pending = executed s.pending

theorem Net.steps_of_stalled (h : Relation.ReflTransGen net.Stalled s s') :
    Relation.ReflTransGen net.Step s s' :=
  Relation.ReflTransGen.mono (fun _ _ hstep => hstep.1) _ _ h

/-- A call that comes to an end while its server does nothing: it goes to none, or has
a deadline. -/
def Net.Timely (net : Net A ι κ) (i : ι) (q : Q) : Prop :=
  ∃ ans, net.server i q = none ∨ net.bounded q ∧ net.Fails q ans

/-- A deadline passes while no server does anything. -/
theorem Net.exists_giveUp_of_waiting {ok : ι → Q → Prop} (h : s.Sound net ok) {p : Prog A α}
    (hthread : s.threads i = some ⟨p, true⟩) (hp : p.Calls (net.Timely i)) :
    ∃ s' p', net.Stalled s s' ∧ s'.threads i = some ⟨p', false⟩ ∧ p'.Calls (net.Timely i) := by
  obtain ⟨c, hc, hawaited, rfl, k, rfl⟩ := h.exists_awaited hthread
  obtain ⟨⟨ans, hans⟩, hk⟩ := hp
  obtain ⟨hbounded, hfails⟩ := hans.resolve_left (h.sent c hc)
  obtain ⟨pre, post, hpending⟩ := List.append_of_mem hc
  refine ⟨_, k ans, ⟨.giveUp hpending hawaited hthread hbounded hfails, ?_⟩,
    Function.update_self .., hk ans⟩
  rw [hpending]
  simp only [executed_append, executed_cons]

/-- A call whose deadline passes before its server has begun with it. -/
theorem Net.exists_giveUp {q : Q} {k : A q → Prog A α} {x : κ} {ans : A q}
    (hthread : s.threads i = some ⟨.ask q k, false⟩) (hserver : net.server i q = some x)
    (hbounded : net.bounded q) (hans : net.Fails q ans) :
    ∃ s', Relation.ReflTransGen net.Stalled s s' ∧
      s'.threads = Function.update s.threads i (some ⟨k ans, false⟩) ∧
      s'.pending = s.pending ++ [⟨x, i, q, false, false⟩] := by
  have hsend : net.Stalled s _ := ⟨.send hthread hserver, by simp [executed]⟩
  have hwaits : Function.update s.threads i (some ⟨.ask q k, true⟩) i = some ⟨.ask q k, true⟩ :=
    Function.update_self ..
  let sent : Threads A α ι κ :=
    { threads := Function.update s.threads i (some ⟨.ask q k, true⟩)
      pending := s.pending ++ [⟨x, i, q, true, false⟩] }
  have hgiveUp : net.Step sent _ :=
    .giveUp (c := ⟨x, i, q, true, false⟩) rfl rfl hwaits hbounded hans
  exact ⟨_, .tail (.single hsend) ⟨hgiveUp, by simp [executed]⟩, Function.update_idem .., rfl⟩

/-- **A thread all of whose calls are timely comes to its end while the servers do
nothing**, and leaves the other threads and the calls at the servers. -/
theorem Net.exists_ended_stalled {p : Prog A α} (hcalls : p.Calls (net.Timely i))
    (hthread : s.threads i = some ⟨p, false⟩) :
    ∃ s', Relation.ReflTransGen net.Stalled s s' ∧ s'.Ended i ∧ s.pending ⊆ s'.pending ∧
      ∀ j, j ≠ i → s'.threads j = s.threads j := by
  induction p generalizing s with
  | done a => exact ⟨s, .refl, ⟨a, hthread⟩, List.Subset.refl _, fun _ _ => rfl⟩
  | ask q k ih =>
    obtain ⟨⟨ans, hans⟩, hk⟩ := hcalls
    -- one call
    obtain ⟨s₁, hrun, hthreads, hpending⟩ : ∃ s₁, Relation.ReflTransGen net.Stalled s s₁ ∧
        s₁.threads = Function.update s.threads i (some ⟨k ans, false⟩) ∧
        s.pending ⊆ s₁.pending := by
      cases hserver : net.server i q with
      | none =>
        exact ⟨_, .single ⟨.reply hthread (.inl hserver), rfl⟩, rfl, List.Subset.refl _⟩
      | some x =>
        have hne : net.server i q ≠ none := Option.ne_none_iff_exists'.mpr ⟨x, hserver⟩
        obtain ⟨hbounded, hfails⟩ := hans.resolve_left hne
        obtain ⟨s₁, hrun, hthreads, hpending⟩ := Net.exists_giveUp hthread hserver hbounded hfails
        refine ⟨s₁, hrun, hthreads, ?_⟩
        rw [hpending]
        exact List.subset_append_left _ _
    -- the calls after it
    obtain ⟨s', hrest, hended, hpending', hothers⟩ :=
      ih ans (hk ans) (s := s₁) (by rw [hthreads, Function.update_self])
    refine ⟨s', hrun.trans hrest, hended, List.Subset.trans hpending hpending', fun j hj => ?_⟩
    rw [hothers j hj, hthreads, Function.update_of_ne hj]

/-! ### Calls that come to execution -/

omit [DecidableEq ι] in
/-- The call that the server executes next. -/
theorem exists_first (l : List (Pending Q ι κ)) {c : Pending Q ι κ} (hc : c ∈ l) :
    ∃ pre c₀ post, l = pre ++ c₀ :: post ∧ c₀.server = c.server ∧
      ∀ c' ∈ pre, c'.server ≠ c₀.server := by
  classical
  have hsome : (l.find? fun c' => decide (c'.server = c.server)).isSome := by
    rw [List.find?_isSome]
    exact ⟨c, hc, by simp⟩
  obtain ⟨c₀, hc₀⟩ := Option.isSome_iff_exists.mp hsome
  obtain ⟨hserver, pre, post, hl, hpre⟩ := List.find?_eq_some_iff_append.mp hc₀
  have heq : c₀.server = c.server := of_decide_eq_true hserver
  refine ⟨pre, c₀, post, hl, heq, fun c' hc' => ?_⟩
  rw [heq]
  simpa using hpre c' hc'

/-- **Every call at a server may come to execution.** -/
theorem Net.exists_executing (hanswers : ∀ q, Nonempty (A q)) {ok : ι → Q → Prop}
    (h : s.Sound net ok) {c : Pending Q ι κ} (hc : c ∈ s.pending) :
    ∃ s', Relation.ReflTransGen net.Step s s' ∧
      ∃ c' ∈ s'.pending, c'.caller = c.caller ∧ c'.executing = true := by
  induction hn : s.pending.length using Nat.strong_induction_on generalizing s with
  | _ n ih =>
    obtain ⟨pre, c₀, post, hpending, -, hfirst⟩ := exists_first s.pending hc
    have hstart : net.Step s _ := .start hpending hfirst
    by_cases hcaller : c₀ = c
    · exact ⟨_, .single hstart, { c₀ with executing := true }, by simp, by rw [hcaller], rfl⟩
    -- the server ends an earlier call first
    have hsound := h.step hstart
    have hrest : c ∈ pre ++ post := by
      rw [hpending] at hc
      rcases List.mem_append.mp hc with hmem | hmem
      · exact List.mem_append_left _ hmem
      rcases List.mem_cons.mp hmem with heq | hmem
      · exact absurd heq.symm hcaller
      · exact List.mem_append_right _ hmem
    have hlength : (pre ++ post).length < n := by
      rw [← hn, hpending]
      simp
    have hend : ∃ s₂, net.Step { s with pending := pre ++ { c₀ with executing := true } :: post } s₂ ∧
        s₂.pending = pre ++ post := by
      by_cases hawaited : c₀.awaited = true
      · obtain ⟨k, hk⟩ := h.expected c₀ (by simp [hpending]) hawaited
        obtain ⟨ans⟩ := hanswers c₀.call
        have hanswer : net.Step { s with pending := pre ++ { c₀ with executing := true } :: post }
            { s.resume c₀.caller (k ans) with pending := pre ++ post } :=
          .answer (c := { c₀ with executing := true }) rfl hawaited hk (.inl rfl)
        exact ⟨_, hanswer, rfl⟩
      · have hdiscard : net.Step { s with pending := pre ++ { c₀ with executing := true } :: post } _ :=
          .discard (c := { c₀ with executing := true }) rfl (Bool.eq_false_iff.mpr hawaited)
        exact ⟨_, hdiscard, rfl⟩
    obtain ⟨s₂, hend, hpending₂⟩ := hend
    obtain ⟨s', hrun, hexecuting⟩ := ih _ hlength (hsound.step hend) (hpending₂ ▸ hrest)
      (congrArg List.length hpending₂)
    exact ⟨s', .head hstart (.head hend hrun), hexecuting⟩

/-- A thread with a call to make has one at a server sooner or later. -/
theorem Net.exists_sent (hanswers : ∀ q, Nonempty (A q)) {last : Q → Prop}
    (hserver : ∀ q, last q → net.server i q ≠ none) (hnone : ∀ q, ¬ last q → net.server i q = none)
    {p : Prog A α} (hp : p.EndsWith last) (hcall : ∀ a, p ≠ .done a)
    (hthread : s.threads i = some ⟨p, false⟩) :
    ∃ s', Relation.ReflTransGen net.Step s s' ∧ ∃ c ∈ s'.pending, c.caller = i := by
  induction p generalizing s with
  | done a => exact absurd rfl (hcall a)
  | ask q k ih =>
    by_cases hlast : last q
    · obtain ⟨x, hx⟩ := Option.ne_none_iff_exists'.mp (hserver q hlast)
      exact ⟨_, .single (.send hthread hx), ⟨x, i, q, true, false⟩, by simp, rfl⟩
    · obtain ⟨ans⟩ := hanswers q
      have hreply : net.Step s (s.resume i (k ans)) := .reply hthread (.inl (hnone q hlast))
      obtain ⟨s', hrun, hsent⟩ :=
        ih ans (hp.2 ans) (hp.1 hlast ans) (s.threads_resume_self (k ans))
      exact ⟨s', .head hreply hrun, hsent⟩

/-! ### Runs of one thread -/

/-- A thread whose calls do not reach their servers comes to its end. -/
theorem Net.exists_ended (hfails : ∀ q, ∃ ans, net.server i q = none ∨ net.Fails q ans)
    {p : Prog A α} (hthread : s.threads i = some ⟨p, false⟩) :
    ∃ s', Relation.ReflTransGen net.Step s s' ∧ s'.Ended i ∧ s'.pending = s.pending ∧
      ∀ j, j ≠ i → s'.threads j = s.threads j := by
  induction p generalizing s with
  | done a => exact ⟨s, .refl, ⟨a, hthread⟩, rfl, fun _ _ => rfl⟩
  | ask q k ih =>
    obtain ⟨ans, hans⟩ := hfails q
    obtain ⟨s', hrun, hended, hpending, hothers⟩ :=
      ih ans (s.threads_resume_self (k ans))
    refine ⟨s', .head (.reply hthread hans) hrun, hended, hpending, fun j hj => ?_⟩
    rw [hothers j hj]
    exact Function.update_of_ne hj ..

end

end Effects
