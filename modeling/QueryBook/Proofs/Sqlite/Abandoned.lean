import QueryBook.Proofs.Sqlite.Batch

namespace QueryBook.Sqlite

/-!
# Batches that fail in a transaction

An attempt of a batch in a transaction that fails leaves the database as it was, wherever the
failure is: at the start of the transaction, in a statement or at the end. So the next attempt
begins where the first one did, and a batch that fails for good leaves nothing behind.

* `held` — what the databases hold.
* `Faulty.tries_same` — attempts of work in a transaction that fail.
* `held_of_executeBatch_error` — what a batch in a transaction that fails leaves.
-/

section

variable {δ : Type} {effects : Effects δ} {connect : String → Except Error (Faulty δ)}

/-- What the database of a connection string holds, and what it held when the open transaction
    started. A database that is not open holds what it will when it is opened. -/
def held (connect : String → Except Error (Faulty δ)) (databases : Databases (Faulty δ))
    (connection : String) : Except Error (δ × Option δ) :=
  (opened connect connection databases).map fun db => (db.contents, db.saved)

/-- A database that is replaced by one that holds the same. -/
theorem held_of_same {databases databases' : Databases (Faulty δ)} {connection : String}
    {db db' : Faulty δ} (hsame : Faulty.Same db db')
    (hopened : opened connect connection databases = .ok db)
    (hopened' : opened connect connection databases' = .ok db')
    (hothers : ∀ other, other ≠ connection → databases'.get? other = databases.get? other)
    (other : String) : held connect databases' other = held connect databases other := by
  by_cases hother : other = connection
  · subst hother
    simp only [held, hopened, hopened', Except.map, hsame.contents, hsame.saved]
  · simp only [held, opened, hothers other hother]

/-- Attempts of work in a transaction that fail change nothing, if the work itself neither starts a
    transaction nor ends one. -/
theorem Faulty.tries_same {α : Type} {p : RetryPolicy} {work : Action (Faulty δ) α} {k : Nat}
    {db db' : Faulty δ} (hwork : ∀ db, (work.perform db).2.saved = db.saved)
    (h : p.Tries ((engine effects).within true work) k db db') : Same db db' := by
  induction h with
  | none db => exact .refl db
  | again hfail he hmore ih => exact (within_error hwork hfail).trans ih

variable {r : Runner (Databases (Faulty δ))}

/-- **A batch in a transaction that fails leaves nothing behind.** However often it was tried and
    wherever it failed, every database holds what it held before. -/
theorem held_of_executeBatch_error {disk : Files.Disk} {key : String} {calls : List Parameters}
    {s s' : Setting (Databases (Faulty δ))} {e : Error}
    (hdriver : r.executors.get? .sqlite = some (executor (Faulty.engine effects) connect))
    (hdialect : ∀ loaded, (s.catalog.lookup disk key).1 = .ok loaded →
      loaded.template.dialect = .sqlite)
    (h : (r.executeBatch disk key calls true).perform s = (.error e, s')) (connection : String) :
    held connect s'.databases connection = held connect s.databases connection := by
  rcases Runner.executeBatch_error h with hsame | ⟨loaded, batch, driver, string, hfound, hbatch,
    hsets, hroute, houtcome, hstate⟩
  · rw [hsame]
  · obtain ⟨hregistered, -⟩ := Runner.route_ok hroute
    rw [(Template.dialect_of_resolveBatch hbatch).1, hdialect loaded hfound, hdriver,
      Option.some_inj] at hregistered
    subst hregistered
    have hbound : batch.bind.sets ≠ [] := by
      rw [← List.length_pos_iff, Batch.length_sets_bind, List.length_pos_iff]
      exact hsets
    -- One attempt, as the driver makes it.
    let work : Action (Faulty δ) Nat := (Faulty.engine effects).within true
      ((Faulty.engine effects).executeAll batch.bind.sql batch.bind.sets)
    rw [executor_executeBatch hbound] at houtcome hstate
    obtain ⟨k, databases, -, htries, hlast, -⟩ :=
      r.retry.trace_cases (onDatabase connect string work) s.databases
    rw [houtcome, ← hstate] at hlast
    cases hopened : opened connect string s.databases with
    | error fault =>
      rw [tries_of_opened_error hopened htries, onDatabase_of_error work hopened] at hlast
      obtain ⟨-, hsame⟩ := Prod.mk.inj hlast
      rw [hsame]
    | ok db =>
      obtain ⟨db₁, htries, hopened₁, hothers⟩ := tries_onDatabase hopened htries
      rw [onDatabase_of_ok work hopened₁, Prod.mk.injEq] at hlast
      obtain ⟨hfail, hdatabases⟩ := hlast
      have hfirst : Faulty.Same db db₁ := Faulty.tries_same Faulty.saved_executeAll htries
      have hfinal : Faulty.Same db₁ (work.perform db₁).2 :=
        Faulty.within_error Faulty.saved_executeAll (Prod.ext hfail rfl)
      rw [← hdatabases]
      refine held_of_same (hfirst.trans hfinal) hopened (opened_insert hopened₁ _) ?_ connection
      intro other hother
      rw [Dictionary.get?_insert, if_neg (Ne.symm hother), hothers other hother]

end

/-! ### A transaction that cannot be ended -/

/-- A database without rows. The second statement of the first attempt fails, and so does the end of
    the second attempt's transaction. -/
def lockedTwice : Faulty (List (List Cell)) where
  contents := []
  script :=
    let locked : Option Error := some (.reported .sqlite "database is locked")
    [none, none, locked, none, none, none, locked]

/-- A runner that tries once more. -/
def lockedRunner : Runner (Databases (Faulty (List (List Cell)))) :=
  { insertRunner with
    executors := .ofList [(.sqlite, executor (Faulty.engine logged) fun _ => .ok lockedTwice)] }

/-- Both attempts fail, the second one when both rows are there. -/
theorem executeBatch_locked : ∃ s',
    (lockedRunner.executeBatch emptyDisk "Ins" insertCalls true).perform insertSetting =
        (.error (.reported .sqlite "database is locked"), s') ∧
      s'.waits = [100] := by
  let locked : Error := .reported .sqlite "database is locked"
  let connect : String → Except Error (Faulty (List (List Cell))) := fun _ => .ok lockedTwice
  let driver := executor (Faulty.engine logged) connect
  let work : Action (Faulty (List (List Cell))) Nat := (Faulty.engine logged).within true
    ((Faulty.engine logged).executeAll insertBatch.bind.sql insertBatch.bind.sets)
  have hfirst : work.perform lockedTwice =
      (.error locked, ⟨[], none, [none, none, none, some locked]⟩) := by
    simp only [work, bind_insertBatch]
    rfl
  have hsecond : work.perform ⟨[], none, [none, none, none, some locked]⟩ =
      (.error locked, ⟨[], none, []⟩) := by
    simp only [work, bind_insertBatch]
    rfl
  have hattempt : driver.executeBatch "orders.db" insertBatch.bind true =
      onDatabase connect "orders.db" work := by
    apply executor_executeBatch
    rw [bind_insertBatch]
    exact List.cons_ne_nil _ _
  have hopened : opened connect "orders.db" insertSetting.databases = .ok lockedTwice := rfl
  have htransient : lockedRunner.retry.isTransient locked = true := by decide +kernel
  -- The second answer is as transient as the first one, but it is the last that is asked for.
  have htries : lockedRunner.retry.Tries (onDatabase connect "orders.db" work) 1
      insertSetting.databases
      (insertSetting.databases.insert "orders.db" ⟨[], none, [none, none, none, some locked]⟩) := by
    refine .again ?_ htransient (.none _)
    rw [onDatabase_of_ok work hopened, hfirst]
  have hlast := onDatabase_of_ok work
    (opened_insert hopened ⟨[], none, [none, none, none, some locked]⟩)
  rw [hsecond] at hlast
  have htrace := RetryPolicy.trace_of_tries_of_last htries hlast (Nat.le_refl 1) fun _ _ _ => rfl
  have hroute : lockedRunner.route insertBatch.statement = .ok (driver, "orders.db") :=
    Runner.route_of_registered rfl (Runner.route_ok route_insert).2
  rw [Runner.executeBatch_perform lookup_insert resolveBatch_insert (List.cons_ne_nil _ _) hroute,
    Runner.attempt_run, hattempt]
  simp only [htrace]
  exact ⟨_, rfl, rfl⟩

/-- The batch was tried twice, and no row is left. -/
theorem held_of_executeBatch_error_locked : ∃ s',
    (lockedRunner.executeBatch emptyDisk "Ins" insertCalls true).perform insertSetting =
        (.error (.reported .sqlite "database is locked"), s') ∧
      s'.waits = [100] ∧
      held (fun _ => .ok lockedTwice) s'.databases "orders.db" =
        held (fun _ => .ok lockedTwice) insertSetting.databases "orders.db" := by
  obtain ⟨s', hrun, hwaits⟩ := executeBatch_locked
  refine ⟨s', hrun, hwaits, ?_⟩
  have hdriver : lockedRunner.executors.get? .sqlite =
      some (executor (Faulty.engine logged) fun _ => .ok lockedTwice) := rfl
  refine held_of_executeBatch_error hdriver ?_ hrun "orders.db"
  intro loaded hfound
  rw [lookup_insert] at hfound
  obtain rfl := Except.ok.inj hfound
  rfl

end QueryBook.Sqlite
