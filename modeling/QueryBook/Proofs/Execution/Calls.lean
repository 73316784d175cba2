import QueryBook.Proofs.Execution.Tries
import QueryBook.Proofs.Template.Batch
import QueryBook.Runner

namespace QueryBook

/-!
# What the calls of a runner come to

* `Runner.route_ok`, `Runner.route_of_registered` — the driver and the connection string of a
  statement are those that are registered.
* `Template.dialect_of_resolveBatch` — a batch is for the dialect of its template.
* `Runner.executeBatch_ok`, `Runner.executeBatch_error`, `Runner.executeBatch_perform` — a batch
  comes to what the retry policy makes of its driver.
-/

/-- A batch is for the dialect of its template, and has a list of values for each call. -/
theorem Template.dialect_of_resolveBatch {t : Template} {calls : List Parameters} {batch : Batch}
    (h : t.resolveBatch calls = .ok batch) :
    batch.statement.dialect = t.dialect ∧ batch.sets.length = calls.length := by
  unfold Template.resolveBatch at h
  split at h
  · cases h
  · cases hs : t.resolve (calls.head?.getD Dictionary.empty) with
    | error e =>
      rw [hs] at h
      cases h
    | ok statement =>
      rw [hs] at h
      cases h
      obtain ⟨-, ps, -, -, -, hdialect⟩ := Template.pieces_of_resolve hs
      exact ⟨hdialect, List.length_map _⟩

namespace Runner

/-- The driver and the connection string are those that are registered. -/
theorem route_ok {σ : Type} {r : Runner σ} {statement : Statement} {driver : Executor σ}
    {connection : String} (h : r.route statement = .ok (driver, connection)) :
    r.executors.get? statement.dialect = some driver ∧
      r.connections.lookup statement.connection = .ok connection := by
  unfold route Executors.lookup at h
  cases hdriver : r.executors.get? statement.dialect with
  | none =>
    rw [hdriver] at h
    cases h
  | some found =>
    rw [hdriver] at h
    cases hconnection : r.connections.lookup statement.connection with
    | error e =>
      rw [hconnection] at h
      cases h
    | ok string =>
      rw [hconnection] at h
      cases h
      exact ⟨rfl, rfl⟩

/-- A statement goes to what is registered for its dialect and its connection. -/
theorem route_of_registered {σ : Type} {r : Runner σ} {statement : Statement} {driver : Executor σ}
    {connection : String} (hdriver : r.executors.get? statement.dialect = some driver)
    (hconnection : r.connections.lookup statement.connection = .ok connection) :
    r.route statement = .ok (driver, connection) := by
  rw [route, Executors.lookup, hdriver, hconnection]
  rfl

/-- What a batch that succeeds has come to: nothing to run, or a driver's outcome under the retry
    policy. -/
theorem executeBatch_ok {σ : Type} {r : Runner σ} {disk : Files.Disk} {key : String}
    {calls : List Parameters} {inTransaction : Bool} {s s' : Setting σ} {n : Nat} {loaded : Loaded}
    (hfound : (s.catalog.lookup disk key).1 = .ok loaded)
    (h : (r.executeBatch disk key calls inTransaction).perform s = (.ok n, s')) :
    ∃ batch, loaded.template.resolveBatch calls = .ok batch ∧
      (batch.sets = [] ∧ n = 0 ∧ s'.databases = s.databases ∧ s'.waits = s.waits ∨
        batch.sets ≠ [] ∧ ∃ driver connection, r.route batch.statement = .ok (driver, connection) ∧
          let action := driver.executeBatch connection batch.bind inTransaction
          let t := r.retry.trace action s.databases
          t.outcome = .ok n ∧ s'.databases = t.state ∧ s'.waits = s.waits ++ t.waits) := by
  change Action.perform (r.executeBatch disk key calls inTransaction) s = _ at h
  -- Finding the template may change the catalog, but no database.
  obtain ⟨t, s₁, hfind, h⟩ := Action.perform_bind_ok h
  have hs₁ : t = loaded.template ∧ s₁.databases = s.databases ∧ s₁.waits = s.waits := by
    rw [findTemplate, Action.perform_mk] at hfind
    simp only [hfound] at hfind
    cases hfind
    exact ⟨rfl, rfl, rfl⟩
  obtain ⟨rfl, hdatabases, hwaits⟩ := hs₁
  obtain ⟨batch, s₂, hbatch, h⟩ := Action.perform_bind_ok h
  rw [Action.perform_liftM, Prod.mk.injEq] at hbatch
  obtain ⟨hbatch, rfl⟩ := hbatch
  refine ⟨batch, hbatch, ?_⟩
  by_cases hempty : batch.sets.isEmpty = true
  · rw [if_pos hempty] at h
    cases h
    exact .inl ⟨List.isEmpty_iff.1 hempty, rfl, hdatabases, hwaits⟩
  · rw [if_neg hempty] at h
    obtain ⟨⟨driver, connection⟩, s₃, hroute, h⟩ := Action.perform_bind_ok h
    rw [Action.perform_liftM, Prod.mk.injEq] at hroute
    obtain ⟨hroute, rfl⟩ := hroute
    refine .inr ⟨fun hnil => hempty (List.isEmpty_iff.2 hnil), driver, connection, hroute, ?_⟩
    change (r.attempt _).perform s₁ = _ at h
    rw [attempt_run, hdatabases, hwaits] at h
    obtain ⟨houtcome, rfl⟩ := Prod.mk.inj h
    exact ⟨houtcome, rfl, rfl⟩

/-- Finding a template may change the catalog, but no database. -/
theorem findTemplate_perform {σ : Type} (disk : Files.Disk) (key : String) (s : Setting σ) :
    Action.perform (findTemplate disk key) s =
      ((s.catalog.lookup disk key).1.map Loaded.template,
        { s with catalog := (s.catalog.lookup disk key).2 }) := rfl

/-- What a batch that fails has come to: nothing was run, or a driver fails under the retry
    policy. -/
theorem executeBatch_error {σ : Type} {r : Runner σ} {disk : Files.Disk} {key : String}
    {calls : List Parameters} {inTransaction : Bool} {s s' : Setting σ} {e : Error}
    (h : (r.executeBatch disk key calls inTransaction).perform s = (.error e, s')) :
    s'.databases = s.databases ∨
      ∃ loaded batch driver connection, (s.catalog.lookup disk key).1 = .ok loaded ∧
        loaded.template.resolveBatch calls = .ok batch ∧ batch.sets ≠ [] ∧
        r.route batch.statement = .ok (driver, connection) ∧
        let t := r.retry.trace (driver.executeBatch connection batch.bind inTransaction) s.databases
        t.outcome = .error e ∧ s'.databases = t.state := by
  change Action.perform (r.executeBatch disk key calls inTransaction) s = _ at h
  -- Each of the steps before the driver may fail; none of them changes a database.
  cases hfound : (s.catalog.lookup disk key).1 with
  | error fault =>
    rw [executeBatch, Action.perform_bind, findTemplate_perform, hfound] at h
    obtain ⟨-, rfl⟩ := Prod.mk.inj h
    exact .inl rfl
  | ok loaded =>
    rw [executeBatch, Action.perform_bind, findTemplate_perform, hfound] at h
    rcases Action.perform_bind_error h with hbatch | ⟨batch, s₁, hbatch, hrun⟩
    · rw [Action.perform_liftM] at hbatch
      obtain ⟨-, rfl⟩ := Prod.mk.inj hbatch
      exact .inl rfl
    rw [Action.perform_liftM, Prod.mk.injEq] at hbatch
    obtain ⟨hbatch, rfl⟩ := hbatch
    by_cases hempty : batch.sets.isEmpty = true
    · rw [if_pos hempty] at hrun
      cases hrun
    rw [if_neg hempty] at hrun
    rcases Action.perform_bind_error hrun with hroute | ⟨⟨driver, connection⟩, s₂, hroute, hdriver⟩
    · rw [Action.perform_liftM] at hroute
      obtain ⟨-, rfl⟩ := Prod.mk.inj hroute
      exact .inl rfl
    rw [Action.perform_liftM, Prod.mk.injEq] at hroute
    obtain ⟨hroute, rfl⟩ := hroute
    change (r.attempt _).perform _ = _ at hdriver
    rw [attempt_run] at hdriver
    obtain ⟨houtcome, rfl⟩ := Prod.mk.inj hdriver
    exact .inr ⟨loaded, batch, driver, connection, rfl, hbatch,
      fun hnil => hempty (List.isEmpty_iff.2 hnil), hroute, houtcome, rfl⟩

/-- A batch that is resolved and has a driver comes to what the driver makes of it. -/
theorem executeBatch_perform {σ : Type} {r : Runner σ} {disk : Files.Disk} {key : String}
    {calls : List Parameters} {inTransaction : Bool} {s : Setting σ} {loaded : Loaded}
    {catalog : Catalog} {batch : Batch} {driver : Executor σ} {connection : String}
    (hfound : s.catalog.lookup disk key = (.ok loaded, catalog))
    (hbatch : loaded.template.resolveBatch calls = .ok batch) (hsets : batch.sets ≠ [])
    (hroute : r.route batch.statement = .ok (driver, connection)) :
    (r.executeBatch disk key calls inTransaction).perform s =
      (r.attempt (driver.executeBatch connection batch.bind inTransaction)).perform
        { s with catalog } := by
  have hfind : Action.perform (findTemplate disk key) s =
      (.ok loaded.template, { s with catalog }) := by
    rw [findTemplate, Action.perform_mk, hfound]
    rfl
  have hnonempty : ¬ batch.sets.isEmpty = true := fun h => hsets (List.isEmpty_iff.1 h)
  change Action.perform (r.executeBatch disk key calls inTransaction) s = Action.perform _ _
  rw [executeBatch, Action.perform_bind, hfind]
  show Action.perform _ _ = _
  rw [Action.perform_bind, Action.perform_liftM, hbatch]
  show Action.perform (if batch.sets.isEmpty = true then _ else _) _ = _
  rw [if_neg hnonempty, Action.perform_bind, Action.perform_liftM, hroute]

end Runner

end QueryBook
