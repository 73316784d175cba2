import QueryBook.Proofs.Execution.Calls

namespace QueryBook

/-!
# The calls of a runner that ask a driver

Apart from testing a connection, every call of a runner resolves a template, asks a driver one thing
under the retry policy, and shapes what the driver answers.

* `Ask` — what a driver is asked.
* `Operation` — the calls; `Operation.resolve`, `Operation.shape` — what they ask, and what they make
  of the answer.
* `Runner.perform_of_route` — what goes on behind the template and the driver.
* `Operation.run_perform` — a call comes to what the retry policy makes of its driver.
-/

/-- What a driver is asked, by what it answers. -/
inductive Ask : Type → Type
  | execute (s : BoundStatement) : Ask Nat
  | executeBatch (b : BoundBatch) : Ask Nat
  | query (s : BoundStatement) : Ask RowSet
  | queryMultiple (ss : List BoundStatement) : Ask (List RowSet)

/-- Asking a driver. -/
def Ask.action {σ β : Type} (driver : Executor σ) (connection : String) (inTransaction : Bool) :
    Ask β → Action σ β
  | execute s => driver.execute connection s inTransaction
  | executeBatch b => driver.executeBatch connection b inTransaction
  | query s => driver.query connection s inTransaction
  | queryMultiple ss => driver.queryMultiple connection ss inTransaction

/-- The calls of a runner that ask a driver, by what the driver answers and what the caller gets. -/
inductive Operation : Type → Type → Type 1
  | executeNonQuery (p : Parameters) : Operation Nat Nat
  | executeBatch (calls : List Parameters) : Operation Nat Nat
  | executeScalar (p : Parameters) : Operation RowSet (Option Value)
  | queryForList (p : Parameters) : Operation RowSet (List Json)
  | queryForObject (p : Parameters) : Operation RowSet (Option Json)
  | queryAs {α : Type} (read : Json → Except Json.Fault α) (p : Parameters) :
    Operation RowSet (List α)
  | queryMapped {α : Type} (mapper : Row → Except Error α) (p : Parameters) :
    Operation RowSet (List α)
  | queryBound (p : Parameters) : Operation RowSet (List Json)
  | queryMultiple (p : Parameters) : Operation (List RowSet) (List RowSet)
  | queryPage {α : Type} (read : Json → Except Json.Fault α) (p : Parameters) :
    Operation (List RowSet) (Page α)

namespace Operation

/-- Makes the call. -/
def run {σ β α : Type} (r : Runner σ) (disk : Files.Disk) (key : String) (inTransaction : Bool) :
    Operation β α → Work σ α
  | executeNonQuery p => r.executeNonQuery disk key p inTransaction
  | executeBatch calls => r.executeBatch disk key calls inTransaction
  | executeScalar p => r.executeScalar disk key p inTransaction
  | queryForList p => r.queryForList disk key p inTransaction
  | queryForObject p => r.queryForObject disk key p inTransaction
  | queryAs read p => r.queryAs read disk key p inTransaction
  | queryMapped mapper p => r.queryMapped mapper disk key p inTransaction
  | queryBound p => r.queryBound disk key p inTransaction
  | queryMultiple p => r.queryMultiple disk key p inTransaction
  | queryPage read p => r.queryPage read disk key p inTransaction

/-- The statement that the call is routed by and what is asked, given the template. A batch without
    calls asks nothing. -/
def resolve {β α : Type} (t : Template) :
    Operation β α → Except Error (Option (Statement × Ask β))
  | executeNonQuery p => (t.resolve p).map fun s => some (s, .execute s.bind)
  | executeBatch calls => (t.resolveBatch calls).map fun b =>
    if b.sets.isEmpty then none else some (b.statement, .executeBatch b.bind)
  | executeScalar p | queryForList p | queryForObject p | queryAs _ p | queryMapped _ p
  | queryBound p => (t.resolve p).map fun s => some (s, .query s.bind)
  | queryMultiple p | queryPage _ p =>
    (t.resolve p).map fun s => some (s, .queryMultiple s.bindEach)

/-- What the caller gets for an answer. -/
def shape {β α : Type} (mappers : Mappers) (key : String) (s : Statement) :
    Operation β α → β → Except Error α
  | executeNonQuery _, n => .ok n
  | executeBatch _, n => .ok n
  | executeScalar _, rows => .ok rows.scalar?
  | queryForList _, rows => .ok rows.toJson
  | queryForObject _, rows => .ok (rows.rows.head?.map Row.toJson)
  | queryAs read _, rows => rows.readAs read
  | queryMapped mapper _, rows => rows.rows.mapM mapper
  | queryBound _, rows => mappers.mapRows s.key s.binding rows
  | queryMultiple _, sets => .ok sets
  | queryPage read _, sets => Page.ofSets key read sets

end Operation

/-! ### One call -/

section

variable {σ α β : Type} {r : Runner σ} {disk : Files.Disk} {key : String} {inTransaction : Bool}
  {s : Setting σ} {loaded : Loaded} {catalog : Catalog} {statement : Statement}
  {driver : Executor σ} {connection : String}

/-- Behind a template that is found and resolved and has a driver goes on the call. -/
theorem Runner.perform_of_route {p : Parameters}
    (hfound : s.catalog.lookup disk key = (.ok loaded, catalog))
    (hresolve : loaded.template.resolve p = .ok statement)
    (hroute : r.route statement = .ok (driver, connection))
    (f : Statement → Executor σ × String → Work σ α) :
    Action.perform (Runner.resolve disk key p >>= fun t => liftM (r.route t) >>= f t) s =
      Action.perform (f statement (driver, connection)) { s with catalog } := by
  have hresolved : Action.perform (Runner.resolve disk key p) s =
      (.ok statement, { s with catalog }) := by
    rw [Runner.resolve, Action.perform_bind, Runner.findTemplate_perform, hfound]
    show Action.perform (liftM (loaded.template.resolve p)) _ = _
    rw [Action.perform_liftM, hresolve]
  rw [Action.perform_bind, hresolved]
  show Action.perform (liftM (r.route statement) >>= f statement) _ = _
  rw [Action.perform_bind, Action.perform_liftM, hroute]

/-- A query whose rows are read further. -/
theorem Runner.perform_fetch_bind {p : Parameters}
    (hfound : s.catalog.lookup disk key = (.ok loaded, catalog))
    (hresolve : loaded.template.resolve p = .ok statement)
    (hroute : r.route statement = .ok (driver, connection))
    (f : Statement × RowSet → Except Error α) :
    Action.perform (r.fetch disk key p inTransaction >>= fun fetched => liftM (f fetched)) s =
      let answer := (r.attempt (driver.query connection statement.bind inTransaction)).perform
        { s with catalog }
      (answer.1.bind fun rows => f (statement, rows), answer.2) := by
  have hfetch : Action.perform (r.fetch disk key p inTransaction) s =
      Action.perform (r.attempt (driver.query connection statement.bind inTransaction) >>=
        fun rows => liftM (.ok (statement, rows) : Except Error (Statement × RowSet)))
        { s with catalog } :=
    perform_of_route hfound hresolve hroute fun t x =>
      r.attempt (x.1.query x.2 t.bind inTransaction) >>= fun rows => pure (t, rows)
  rw [Action.perform_bind_liftM, hfetch, Action.perform_bind_liftM]
  refine Prod.ext ?_ rfl
  exact bind_assoc (_ : Except Error RowSet) _ _

/-- What is asked about a template that is resolved for one call. -/
theorem Template.resolve_of_map {t : Template} {p : Parameters} {ask : Ask β}
    {f : Statement → Ask β}
    (h : ((t.resolve p).map fun s => some (s, f s)) = .ok (some (statement, ask))) :
    t.resolve p = .ok statement ∧ f statement = ask := by
  cases hresolve : t.resolve p with
  | error e =>
    rw [hresolve] at h
    cases h
  | ok s =>
    rw [hresolve] at h
    cases h
    exact ⟨rfl, rfl⟩

/-- **A call of a runner is an attempt of its driver.** Once its template is found, resolved and has
    a driver, it comes to what the retry policy makes of asking the driver. -/
theorem Operation.run_perform {op : Operation β α} {ask : Ask β}
    (hfound : s.catalog.lookup disk key = (.ok loaded, catalog))
    (hresolve : op.resolve loaded.template = .ok (some (statement, ask)))
    (hroute : r.route statement = .ok (driver, connection)) :
    (op.run r disk key inTransaction).perform s =
      let answer := (r.attempt (ask.action driver connection inTransaction)).perform
        { s with catalog }
      (answer.1.bind (op.shape r.mappers key statement), answer.2) := by
  change Action.perform (op.run r disk key inTransaction) s = _
  cases op with
  | executeNonQuery p =>
    obtain ⟨hstatement, rfl⟩ := Template.resolve_of_map hresolve
    have hcall := Runner.perform_of_route hfound hstatement hroute fun t x =>
      r.attempt (x.1.execute x.2 t.bind inTransaction)
    exact hcall.trans (Prod.ext (bind_pure (_ : Except Error Nat)).symm rfl)
  | executeBatch calls =>
    cases hbatch : loaded.template.resolveBatch calls with
    | error e =>
      rw [resolve, hbatch] at hresolve
      cases hresolve
    | ok batch =>
      rw [resolve, hbatch] at hresolve
      -- An empty batch asks nothing, so it gives no statement.
      by_cases hempty : batch.sets.isEmpty = true
      · simp only [Except.map, hempty, if_true] at hresolve
        cases hresolve
      · simp only [Except.map, if_neg hempty] at hresolve
        cases hresolve
        have hcall : (r.executeBatch disk key calls inTransaction).perform s = _ :=
          Runner.executeBatch_perform hfound hbatch
            (fun hnil => hempty (List.isEmpty_iff.2 hnil)) hroute
        exact hcall.trans (Prod.ext (bind_pure (_ : Except Error Nat)).symm rfl)
  | executeScalar p =>
    obtain ⟨hstatement, rfl⟩ := Template.resolve_of_map hresolve
    exact Runner.perform_fetch_bind hfound hstatement hroute fun x => .ok x.2.scalar?
  | queryForList p =>
    obtain ⟨hstatement, rfl⟩ := Template.resolve_of_map hresolve
    exact Runner.perform_fetch_bind hfound hstatement hroute fun x => .ok x.2.toJson
  | queryForObject p =>
    obtain ⟨hstatement, rfl⟩ := Template.resolve_of_map hresolve
    exact Runner.perform_fetch_bind hfound hstatement hroute
      fun x => .ok (x.2.rows.head?.map Row.toJson)
  | queryAs read p =>
    obtain ⟨hstatement, rfl⟩ := Template.resolve_of_map hresolve
    exact Runner.perform_fetch_bind hfound hstatement hroute fun x => x.2.readAs read
  | queryMapped mapper p =>
    obtain ⟨hstatement, rfl⟩ := Template.resolve_of_map hresolve
    exact Runner.perform_fetch_bind hfound hstatement hroute fun x => x.2.rows.mapM mapper
  | queryBound p =>
    obtain ⟨hstatement, rfl⟩ := Template.resolve_of_map hresolve
    exact Runner.perform_fetch_bind hfound hstatement hroute
      fun x => r.mappers.mapRows x.1.key x.1.binding x.2
  | queryMultiple p =>
    obtain ⟨hstatement, rfl⟩ := Template.resolve_of_map hresolve
    have hcall := Runner.perform_of_route hfound hstatement hroute fun t x =>
      r.attempt (x.1.queryMultiple x.2 t.bindEach inTransaction)
    exact hcall.trans (Prod.ext (bind_pure (_ : Except Error (List RowSet))).symm rfl)
  | queryPage read p =>
    obtain ⟨hstatement, rfl⟩ := Template.resolve_of_map hresolve
    have hcall : Action.perform (r.queryMultiple disk key p inTransaction) s = _ :=
      Runner.perform_of_route hfound hstatement hroute fun t x =>
        r.attempt (x.1.queryMultiple x.2 t.bindEach inTransaction)
    exact (Action.perform_bind_liftM _ (Page.ofSets key read) s).trans (by rw [hcall]; rfl)

end

end QueryBook
