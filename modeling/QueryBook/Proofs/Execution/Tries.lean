import QueryBook.Execution.Retry

namespace QueryBook

/-!
# What trying again comes to

A retry starts from the databases as the failed attempt left them. So the databases behind the last
attempt bear what all of the attempts have done.

* `Action.perform_bind` — one action behind another (`perform_bind_ok`, `perform_bind_error`), or a
  reading of its result (`perform_bind_liftM`).
* `RetryPolicy.Tries` — so many attempts fail, each of them in a way that may pass by itself.
* `RetryPolicy.trace_cases` — behind such attempts one more attempt decides the outcome;
  `RetryPolicy.trace_of_tries_of_last` — and conversely, if it is the last one;
  `RetryPolicy.trace_of_tries` — one that succeeds is.
-/

namespace Action

variable {σ α β : Type}

/-- To perform an action is to apply it to a state. -/
theorem perform_mk (f : σ → Except Error α × σ) (s : σ) : perform (ExceptT.mk f) s = f s := rfl

/-- A result that does not depend on the databases. -/
theorem perform_liftM (x : Except Error α) (s : σ) :
    perform (liftM x : Action σ α) s = (x, s) := by
  cases x with
  | error e => rfl
  | ok a => rfl

/-- Behind an action that fails nothing is done. -/
theorem perform_bind (x : Action σ α) (f : α → Action σ β) (s : σ) :
    (x >>= f).perform s =
      match x.perform s with
      | (.ok a, s) => (f a).perform s
      | (.error e, s) => (.error e, s) := by
  simp only [perform, ExceptT.run_bind, StateT.run_bind]
  cases StateT.run (ExceptT.run x) s with
  | mk outcome s₁ =>
    cases outcome with
    | ok a => rfl
    | error e => rfl

/-- An action whose result is read further. -/
theorem perform_bind_liftM (x : Action σ α) (f : α → Except Error β) (s : σ) :
    (x >>= fun a => liftM (f a)).perform s = ((x.perform s).1.bind f, (x.perform s).2) := by
  rw [perform_bind]
  cases x.perform s with
  | mk outcome s₁ =>
    cases outcome with
    | error e => rfl
    | ok a => exact perform_liftM (f a) s₁

section

variable {x : Action σ α} {f : α → Action σ β} {s s₂ : σ}

/-- Two actions that succeed, one by one. -/
theorem perform_bind_ok {b : β} (h : (x >>= f).perform s = (.ok b, s₂)) :
    ∃ a s₁, x.perform s = (.ok a, s₁) ∧ (f a).perform s₁ = (.ok b, s₂) := by
  rw [perform_bind] at h
  split at h
  · next a s₁ hx => exact ⟨a, s₁, hx, h⟩
  · cases h

/-- Two actions of which the first or the second one fails. -/
theorem perform_bind_error {e : Error} (h : (x >>= f).perform s = (.error e, s₂)) :
    x.perform s = (.error e, s₂) ∨
      ∃ a s₁, x.perform s = (.ok a, s₁) ∧ (f a).perform s₁ = (.error e, s₂) := by
  rw [perform_bind] at h
  split at h
  · next a s₁ hx => exact .inr ⟨a, s₁, hx, h⟩
  · next e' s₁ hx =>
    cases h
    exact .inl hx

end

end Action

namespace RetryPolicy

variable {σ α : Type} {p : RetryPolicy} {a : Action σ α}

/-- From one state of the databases to another so many attempts fail, each of them transiently. -/
inductive Tries (p : RetryPolicy) (a : Action σ α) : Nat → σ → σ → Prop
  | none (s : σ) : Tries p a 0 s s
  | again {k : Nat} {s s₁ s₂ : σ} {e : Error} (hfail : a.perform s = (.error e, s₁))
      (he : p.isTransient e = true) (hmore : Tries p a k s₁ s₂) : Tries p a (k + 1) s s₂

/-- The first wait, and those behind it. -/
theorem waits_succ (p : RetryPolicy) (made k : Nat) :
    p.backoff * (made + 1) :: (List.range k).map (fun i => p.backoff * (made + 1 + i + 1)) =
      (List.range (k + 1)).map fun i => p.backoff * (made + i + 1) := by
  rw [List.range_succ_eq_map, List.map_cons, List.map_map]
  congr 1
  apply List.map_congr_left
  intro i _
  show p.backoff * (made + 1 + i + 1) = p.backoff * (made + (i + 1) + 1)
  congr 1
  omega

/-- From the `made`-th attempt on there are transient failures, and one more attempt that decides
    the outcome. It is the last one that is allowed, if it fails transiently as well. -/
theorem traceFrom_cases (p : RetryPolicy) (a : Action σ α) (made left : Nat) (s : σ) :
    ∃ k s₁, k ≤ left ∧ p.Tries a k s s₁ ∧
      a.perform s₁ = ((p.traceFrom a made left s).outcome, (p.traceFrom a made left s).state) ∧
      (p.traceFrom a made left s).attempts = made + k + 1 ∧
      (p.traceFrom a made left s).waits =
        (List.range k).map (fun i => p.backoff * (made + i + 1)) ∧
      ∀ e, (p.traceFrom a made left s).outcome = .error e → p.isTransient e = true → k = left := by
  -- By induction on the retries that are left; a failure hands its state on to the next attempt.
  induction left generalizing made s with
  | zero =>
    refine ⟨0, s, Nat.le_refl 0, .none s, rfl, rfl, rfl, ?_⟩
    intro e _ _
    rfl
  | succ left ih =>
    cases hs : a.perform s with
    | mk outcome s₁ =>
      cases outcome with
      | ok value =>
        have htrace : p.traceFrom a made (left + 1) s = ⟨.ok value, s₁, made + 1, []⟩ := by
          simp [traceFrom, hs]
        rw [htrace]
        exact ⟨0, s, Nat.zero_le _, .none s, hs, rfl, rfl, fun e he => by cases he⟩
      | error e =>
        by_cases he : p.isTransient e = true
        · have htrace : p.traceFrom a made (left + 1) s =
              { p.traceFrom a (made + 1) left s₁ with
                waits := p.backoff * (made + 1) :: (p.traceFrom a (made + 1) left s₁).waits } := by
            simp [traceFrom, hs, he]
          obtain ⟨k, s₂, hk, htries, hlast, hattempts, hwaits, hend⟩ := ih (made + 1) s₁
          rw [htrace]
          refine ⟨k + 1, s₂, Nat.succ_le_succ hk, .again hs he htries, hlast, ?_, ?_, ?_⟩
          · show (p.traceFrom a (made + 1) left s₁).attempts = _
            omega
          · show p.backoff * (made + 1) :: (p.traceFrom a (made + 1) left s₁).waits = _
            rw [hwaits, waits_succ]
          · intro e' he' htransient
            rw [hend e' he' htransient]
        · have htrace : p.traceFrom a made (left + 1) s = ⟨.error e, s₁, made + 1, []⟩ := by
            simp [traceFrom, hs, he]
          rw [htrace]
          refine ⟨0, s, Nat.zero_le _, .none s, hs, rfl, rfl, ?_⟩
          intro e' he' htransient
          cases he'
          exact absurd htransient he

/-- The outcome under a policy is that of one attempt behind transient failures, of which there are
    no more than retries; the waits between them grow by the first one each time. -/
theorem trace_cases (p : RetryPolicy) (a : Action σ α) (s : σ) :
    ∃ k s₁, k ≤ p.maxRetries ∧ p.Tries a k s s₁ ∧
      a.perform s₁ = ((p.trace a s).outcome, (p.trace a s).state) ∧
      (p.trace a s).attempts = k + 1 ∧
      (p.trace a s).waits = (List.range k).map (fun i => p.backoff * (i + 1)) ∧
      ∀ e, (p.trace a s).outcome = .error e → p.isTransient e = true → k = p.maxRetries := by
  have h := traceFrom_cases p a 0 p.maxRetries s
  simp only [Nat.zero_add] at h
  exact h

/-- Attempts that fail transiently, and a last one behind them, are made with the waits between
    them. -/
theorem traceFrom_of_tries {k left : Nat} {s s₁ s₂ : σ} {outcome : Except Error α}
    (h : p.Tries a k s s₁) (hlast : a.perform s₁ = (outcome, s₂)) (made : Nat) (hk : k ≤ left)
    (hend : ∀ e, outcome = .error e → p.isTransient e = true → k = left) :
    p.traceFrom a made left s =
      ⟨outcome, s₂, made + k + 1, (List.range k).map fun i => p.backoff * (made + i + 1)⟩ := by
  induction h generalizing made left with
  | none s =>
    cases left with
    | zero => simp [traceFrom, hlast]
    | succ left =>
      cases outcome with
      | ok value => simp [traceFrom, hlast]
      | error e =>
        -- A transient failure would be tried again.
        have he : p.isTransient e = false := by
          rw [← Bool.not_eq_true]
          intro he
          exact absurd (hend e rfl he) (Nat.succ_ne_zero left).symm
        simp [traceFrom, hlast, he]
  | @again k s s₁ s' e hfail he hmore ih =>
    cases left with
    | zero => exact absurd hk (Nat.not_succ_le_zero k)
    | succ left =>
      have hrest := ih hlast (made + 1) (Nat.le_of_succ_le_succ hk) fun e he hpass =>
        Nat.succ.inj (hend e he hpass)
      simp only [traceFrom, hfail, he, if_true, hrest, Trace.mk.injEq, true_and]
      exact ⟨by omega, waits_succ p made k⟩

/-- Behind no more transient failures than there are retries an attempt decides the outcome, unless
    it may be tried again. -/
theorem trace_of_tries_of_last {k : Nat} {s s₁ s₂ : σ} {outcome : Except Error α}
    (h : p.Tries a k s s₁) (hlast : a.perform s₁ = (outcome, s₂)) (hk : k ≤ p.maxRetries)
    (hend : ∀ e, outcome = .error e → p.isTransient e = true → k = p.maxRetries) :
    p.trace a s = ⟨outcome, s₂, k + 1, (List.range k).map fun i => p.backoff * (i + 1)⟩ := by
  have htrace := traceFrom_of_tries h hlast 0 hk hend
  simp only [Nat.zero_add] at htrace
  exact htrace

/-- Behind no more transient failures than there are retries a success is the outcome. -/
theorem trace_of_tries {k : Nat} {s s₁ s₂ : σ} {value : α} (h : p.Tries a k s s₁)
    (hlast : a.perform s₁ = (.ok value, s₂)) (hk : k ≤ p.maxRetries) :
    p.trace a s = ⟨.ok value, s₂, k + 1, (List.range k).map fun i => p.backoff * (i + 1)⟩ :=
  trace_of_tries_of_last h hlast hk fun e he => by cases he

end RetryPolicy

end QueryBook
