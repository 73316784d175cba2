import QueryBook.Execution.Scripted
import QueryBook.Proofs.Execution.Operations
import QueryBook.Proofs.Sqlite.Batch

namespace QueryBook

/-!
# How often a driver is called

A driver that follows a script shows what the retry policy does. The same call is repeated until an
answer decides, and no more often than the policy allows.

* `RetryPolicy.decides` — the answers that are not tried again.
* `Ask.call`, `Ask.outcome` — the call that a driver notes, and what its answer comes to.
* `RetryPolicy.tries_scripted` — the answers before the one that decides.
* `Operation.run_scripted` — the calls, the waits and the outcome of an operation.
-/

/-- A success, or a failure that does not pass by itself. -/
def RetryPolicy.decides (p : RetryPolicy) : Reply → Bool
  | .failure e => !p.isTransient e
  | _ => true

/-- The call that a scripted driver notes when it is asked. -/
def Ask.call {β : Type} (name connection : String) (inTransaction : Bool) : Ask β → Call
  | execute s => ⟨name, .execute, connection, inTransaction, .statement s⟩
  | executeBatch b => ⟨name, .executeBatch, connection, inTransaction, .batch b⟩
  | query s => ⟨name, .query, connection, inTransaction, .statement s⟩
  | queryMultiple ss => ⟨name, .queryMultiple, connection, inTransaction, .statements ss⟩

/-- What an answer that is no failure comes to. Where the script has ended, an empty answer. -/
def Ask.value {β : Type} : Ask β → Option Reply → β
  | execute _, some (.affected n) => n
  | execute _, _ => 0
  | executeBatch _, some (.affected n) => n
  | executeBatch _, some _ => 0
  | executeBatch b, none => b.sets.length
  | query _, some (.rows set) => set
  | query _, some (.affected n) => .ofAffected n
  | query _, _ => {}
  | queryMultiple _, some (.sets sets) => sets
  | queryMultiple _, some _ => []
  | queryMultiple ss, none => ss.map fun _ => {}

/-- What an answer comes to. -/
def Ask.outcome {β : Type} (ask : Ask β) : Option Reply → Except Error β
  | some (.failure e) => .error e
  | reply => .ok (ask.value reply)

section

variable {β : Type} {dialect : Dialect} {name connection : String} {inTransaction : Bool}

/-- A scripted driver takes the next answer and notes the call. -/
theorem Ask.action_scripted (ask : Ask β) (script : Script) :
    (ask.action (.scripted dialect name) connection inTransaction).perform script =
      (ask.outcome script.replies.head?,
        ⟨script.replies.tail, ask.call name connection inTransaction :: script.calls⟩) := by
  obtain ⟨replies, calls⟩ := script
  cases replies with
  | nil => cases ask <;> rfl
  | cons reply rest => cases ask <;> cases reply <;> rfl

namespace RetryPolicy

/-- An error is transient if it is one of a connection or a driver and its words hold one of the
    markers. -/
theorem isTransient_iff {p : RetryPolicy} {e : Error} :
    p.isTransient e = true ↔
      e.kind ∈ [ErrorKind.connection, .execution, .sqlite, .postgres] ∧
        ∃ m ∈ p.markers, m ≠ "" ∧ m.toList <:+: e.detail.toList := by
  have hkind : mayPass e.kind = true ↔
      e.kind ∈ [ErrorKind.connection, .execution, .sqlite, .postgres] := by
    cases e.kind <;> decide
  simp only [isTransient, Bool.and_eq_true, hkind, List.any_eq_true, Bool.not_eq_true',
    String.isEmpty_eq_false_iff, Text.containsText_iff, ne_eq]

/-- An answer that does not decide is a failure that may pass. -/
theorem decides_eq_false {p : RetryPolicy} {reply : Reply} (h : p.decides reply = false) :
    ∃ e, reply = .failure e ∧ p.isTransient e = true := by
  cases reply with
  | failure e => exact ⟨e, rfl, by simpa [decides] using h⟩
  | _ => cases h

/-- An answer that decides is no failure that may pass. -/
theorem isTransient_of_decides {p : RetryPolicy} {ask : Ask β} {reply : Reply} {e : Error}
    (hreply : p.decides reply = true) (h : ask.outcome (some reply) = .error e) :
    p.isTransient e = false := by
  cases reply with
  | failure fault =>
    cases h
    simpa [decides] using hreply
  | _ => cases h

/-- The answers before the one that decides are asked for one by one, by the same call. -/
theorem tries_scripted (p : RetryPolicy) (ask : Ask β) {k : Nat} {replies : List Reply}
    (hk : k ≤ replies.findIdx p.decides) (calls : List Call) :
    p.Tries (ask.action (.scripted dialect name) connection inTransaction) k ⟨replies, calls⟩
      ⟨replies.drop k, List.replicate k (ask.call name connection inTransaction) ++ calls⟩ := by
  -- Each answer is a failure that may pass; the call is noted in front of those so far.
  induction k generalizing replies calls with
  | zero => exact .none _
  | succ k ih =>
    cases replies with
    | nil => exact absurd hk (Nat.not_succ_le_zero k)
    | cons reply rest =>
      rw [List.findIdx_cons] at hk
      cases hreply : p.decides reply with
      | true =>
        rw [hreply] at hk
        exact absurd hk (Nat.not_succ_le_zero k)
      | false =>
        rw [hreply] at hk
        obtain ⟨e, rfl, he⟩ := decides_eq_false hreply
        let call := ask.call name connection inTransaction
        have hmore := ih (Nat.le_of_succ_le_succ hk) (call :: calls)
        have hcalls : List.replicate k call ++ call :: calls =
            List.replicate (k + 1) call ++ calls := by
          rw [List.replicate_succ', List.append_assoc, List.singleton_append]
        rw [hcalls] at hmore
        exact .again (ask.action_scripted _) he hmore

/-- A scripted driver is called until an answer decides or no retry is left. -/
theorem trace_scripted (p : RetryPolicy) (ask : Ask β) (script : Script) :
    let retries := min p.maxRetries (script.replies.findIdx p.decides)
    p.trace (ask.action (.scripted dialect name) connection inTransaction) script =
      ⟨ask.outcome script.replies[retries]?,
        ⟨script.replies.drop (retries + 1),
          List.replicate (retries + 1) (ask.call name connection inTransaction) ++ script.calls⟩,
        retries + 1, (List.range retries).map fun i => p.backoff * (i + 1)⟩ := by
  intro retries
  let call := ask.call name connection inTransaction
  let action : Action Script β := ask.action (.scripted dialect name) connection inTransaction
  have htries : p.Tries action retries script
      ⟨script.replies.drop retries, List.replicate retries call ++ script.calls⟩ :=
    p.tries_scripted ask (Nat.min_le_right _ _) script.calls
  have hlast : action.perform
        ⟨script.replies.drop retries, List.replicate retries call ++ script.calls⟩ =
      (ask.outcome script.replies[retries]?,
        ⟨script.replies.drop (retries + 1), List.replicate (retries + 1) call ++ script.calls⟩) := by
    rw [← List.head?_drop, ← List.tail_drop]
    exact ask.action_scripted _
  refine RetryPolicy.trace_of_tries_of_last htries hlast (Nat.min_le_left _ _) ?_
  intro e he hpass
  by_contra hmore
  -- Some retry is left, so the answer is the one that decides, or the script has ended.
  have hretries : retries = script.replies.findIdx p.decides := by omega
  rw [hretries] at he
  by_cases hlt : script.replies.findIdx p.decides < script.replies.length
  · rw [List.getElem?_eq_getElem hlt] at he
    rw [isTransient_of_decides List.findIdx_getElem he] at hpass
    cases hpass
  · rw [List.getElem?_eq_none (Nat.le_of_not_lt hlt)] at he
    cases he

end RetryPolicy

end

/-- **Retries are bounded, and all of them are the same call.** An operation calls its driver until
    an answer decides, at most once more than there are retries, and ends with the last answer. The
    waits between the calls are the multiples of the first one, and only errors of connections and
    drivers whose words hold a marker are tried again. -/
theorem Operation.run_scripted {β α : Type} {r : Runner Script} {disk : Files.Disk} {key : String}
    {inTransaction : Bool} {s : Setting Script} {loaded : Loaded} {catalog : Catalog}
    {statement : Statement} {dialect : Dialect} {name connection : String} {op : Operation β α}
    {ask : Ask β} (hfound : s.catalog.lookup disk key = (.ok loaded, catalog))
    (hresolve : op.resolve loaded.template = .ok (some (statement, ask)))
    (hroute : r.route statement = .ok (.scripted dialect name, connection)) :
    let replies := s.databases.replies
    let made := min (r.retry.maxRetries + 1) (replies.findIdx r.retry.decides + 1)
    (op.run r disk key inTransaction).perform s =
        ((ask.outcome replies[made - 1]?).bind (op.shape r.mappers key statement),
          { catalog
            databases := ⟨replies.drop made,
              List.replicate made (ask.call name connection inTransaction) ++ s.databases.calls⟩
            waits := s.waits ++ (List.range (made - 1)).map fun i => r.retry.backoff * (i + 1) }) ∧
      ∀ e, r.retry.isTransient e = true →
        e.kind ∈ [ErrorKind.connection, .execution, .sqlite, .postgres] ∧
          ∃ m ∈ r.retry.markers, m ≠ "" ∧ m.toList <:+: e.detail.toList := by
  intro replies made
  refine ⟨?_, fun e he => RetryPolicy.isTransient_iff.1 he⟩
  have hmade : made = min r.retry.maxRetries (replies.findIdx r.retry.decides) + 1 :=
    Nat.add_min_add_right _ _ _
  rw [Operation.run_perform hfound hresolve hroute, Runner.attempt_run,
    RetryPolicy.trace_scripted, hmade]
  rfl

/-! ### A batch that succeeds at the third call -/

section

open Sqlite (insertRunner insertSetting insertTemplate insertCalls insertBatch emptyDisk)

/-- A runner of a scripted driver, with the usual policy. -/
def scriptedRunner : Runner Script where
  connections := insertRunner.connections
  executors := .ofList [(.sqlite, .scripted .sqlite "lite")]

/-- Two failures that may pass, a success, and an answer that is left. -/
def busyTwice : List Reply :=
  [.failure (.reported .sqlite "database is locked"),
    .failure (.reported .connection "1040: Too many connections"), .affected 2, .done]

/-- The template is loaded; no call has been made. -/
def scriptedSetting : Setting Script where
  catalog := insertSetting.catalog
  databases := ⟨busyTwice, []⟩

/-- The batch is run three times, behind waits of 100 and 200 milliseconds. -/
theorem Operation.run_scripted_busy :
    let ask : Ask Nat := .executeBatch insertBatch.bind
    ((Operation.executeBatch insertCalls).run scriptedRunner emptyDisk "Ins" true).perform
        scriptedSetting =
      (.ok 2,
        { catalog := insertSetting.catalog
          databases := ⟨[.done], List.replicate 3 (ask.call "lite" "orders.db" true)⟩
          waits := [100, 200] }) := by
  intro ask
  have hresolve : (Operation.executeBatch insertCalls).resolve insertTemplate =
      .ok (some (insertBatch.statement, ask)) := by
    rw [Operation.resolve, Sqlite.resolveBatch_insert]
    rfl
  have hroute : scriptedRunner.route insertBatch.statement =
      .ok (.scripted .sqlite "lite", "orders.db") :=
    Runner.route_of_registered rfl (Runner.route_ok Sqlite.route_insert).2
  have hlookup : scriptedSetting.catalog.lookup emptyDisk "Ins" =
      (.ok ⟨0, insertTemplate⟩, insertSetting.catalog) := Sqlite.lookup_insert
  -- Two answers are transient failures, so the third call decides.
  have hmade : min (scriptedRunner.retry.maxRetries + 1)
      (scriptedSetting.databases.replies.findIdx scriptedRunner.retry.decides + 1) = 3 := by
    decide +kernel
  refine (Operation.run_scripted hlookup hresolve hroute).1.trans ?_
  rw [hmade]
  rfl

end

end QueryBook
