import QueryBook.Execution.Executor
import QueryBook.Text.Search

namespace QueryBook

/-!
# Trying again

* `RetryPolicy` — how often a failed action is tried again, how long to wait, and which failures
  pass by themselves.
* `RetryPolicy.isTransient` — a failure of a connection or a driver whose words hold a marker.
* `RetryPolicy.trace` — what becomes of an action. The `i`-th wait is `i` times as long as the
  first.

Main statements: an action that succeeds is not tried again (`trace_of_ok`), and neither is one
whose failure is not transient (`trace_of_not_transient`).
-/

/-- How failed actions are tried again. -/
structure RetryPolicy where
  maxRetries : Nat
  /-- Milliseconds before the first retry. -/
  backoff : Nat
  /-- Words that mark a failure as transient. -/
  markers : List String
deriving DecidableEq, Repr

/-- What became of an action under a policy. -/
structure Trace (σ α : Type) where
  outcome : Except Error α
  state : σ
  attempts : Nat
  /-- The milliseconds between the attempts. -/
  waits : List Nat

namespace RetryPolicy

/-- The usual markers. -/
def defaultMarkers : List String :=
  ["Unable to connect to any of the specified MySQL hosts.", "Too many connections",
    "error connecting: Timeout expired.", "database is locked"]

/-- The usual policy. -/
def default : RetryPolicy := ⟨3, 100, defaultMarkers⟩

/-- The policy that never tries again. -/
def disabled : RetryPolicy := { default with maxRetries := 0 }

instance : Inhabited RetryPolicy := ⟨default⟩

/-- Whether errors of a class may pass by themselves. -/
def mayPass : ErrorKind → Bool
  | .connection | .execution | .sqlite | .postgres => true
  | _ => false

/-- Whether an error is worth another attempt. An empty marker marks nothing. -/
def isTransient (p : RetryPolicy) (e : Error) : Bool :=
  mayPass e.kind && p.markers.any fun m => !m.isEmpty && Text.containsText m e.detail

/-- Tries an action, at most `left` times again after `made` attempts. -/
def traceFrom {σ α : Type} (p : RetryPolicy) (a : Action σ α) (made : Nat) :
    Nat → σ → Trace σ α
  | 0, s =>
    let (outcome, s) := a.perform s
    ⟨outcome, s, made + 1, []⟩
  | left + 1, s =>
    match a.perform s with
    | (.ok value, s) => ⟨.ok value, s, made + 1, []⟩
    | (.error e, s) =>
      -- The databases stay as the failed attempt left them.
      if p.isTransient e then
        let rest := traceFrom p a (made + 1) left s
        { rest with waits := p.backoff * (made + 1) :: rest.waits }
      else ⟨.error e, s, made + 1, []⟩

/-- Tries an action until it succeeds, fails for good, or has failed too often. -/
def trace {σ α : Type} (p : RetryPolicy) (a : Action σ α) (s : σ) : Trace σ α :=
  traceFrom p a 0 p.maxRetries s

/-- A disabled policy makes one attempt. -/
theorem trace_disabled {σ α : Type} (a : Action σ α) (s : σ) :
    (disabled.trace a s).attempts = 1 := rfl

/-- A first attempt that succeeds is the only one. -/
theorem trace_of_ok {σ α : Type} (p : RetryPolicy) {a : Action σ α} {s s' : σ} {value : α}
    (h : a.perform s = (.ok value, s')) : p.trace a s = ⟨.ok value, s', 1, []⟩ := by
  unfold trace
  cases p.maxRetries <;> simp [traceFrom, h]

/-- An error that is not transient is not tried again. -/
theorem trace_of_not_transient {σ α : Type} (p : RetryPolicy) {a : Action σ α} {s s' : σ}
    {e : Error} (h : a.perform s = (.error e, s')) (he : p.isTransient e = false) :
    p.trace a s = ⟨.error e, s', 1, []⟩ := by
  unfold trace
  cases p.maxRetries <;> simp [traceFrom, h, he]

end RetryPolicy

end QueryBook
