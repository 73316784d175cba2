import QueryBook.Proofs.Execution.Calls
import QueryBook.Proofs.Sqlite.Faulty

namespace QueryBook.Sqlite

/-!
# How often a batch takes effect

A batch that fails transiently is run again as a whole, on the contents that the failed attempt
left. Inside a transaction it leaves nothing. Outside of one it leaves what the calls before the
failure did, so that these take effect once more.

* `opened`, `onDatabase_perform`, `tries_onDatabase` — work on the database of a connection string,
  and trying it again.
* `Faulty.attempt_ok`, `Faulty.attempt_error` — what an attempt of a batch has done.
* `Faulty.exists_left` — what failed attempts leave.
* `executeBatch_applies` — what a batch that succeeds has done, retries included.
* `executeBatch_applies_twice` — a call that takes effect twice.
-/

/-! ### One database of several -/

section

variable {σ α : Type} {connect : String → Except Error σ} {connection : String}

/-- The database of a connection string, opened if it is not open. -/
def opened (connect : String → Except Error σ) (connection : String) (databases : Databases σ) :
    Except Error σ :=
  match databasePath connection with
  | .error fault => .error fault
  | .ok path => ((databases.get? connection).map Except.ok).getD (connect path)

/-- Work on a database changes this database only; one that cannot be opened is not worked on. -/
theorem onDatabase_perform (work : Action σ α) (databases : Databases σ) :
    Action.perform (onDatabase connect connection work) databases =
      match opened connect connection databases with
      | .error fault => (.error fault, databases)
      | .ok s => ((work.perform s).1, databases.insert connection (work.perform s).2) := by
  rw [onDatabase, Action.perform_mk, opened]
  cases databasePath connection with
  | error fault => rfl
  | ok path =>
    cases ((databases.get? connection).map Except.ok).getD (connect path) with
    | error fault => rfl
    | ok s => rfl

/-- Work on a database that cannot be opened fails with the fault, and no database is touched. -/
theorem onDatabase_of_error {databases : Databases σ} {fault : Error} (work : Action σ α)
    (h : opened connect connection databases = .error fault) :
    (onDatabase connect connection work).perform databases = (.error fault, databases) := by
  rw [onDatabase_perform, h]

/-- Work on a database that is open or can be opened leaves what it makes of it. -/
theorem onDatabase_of_ok {databases : Databases σ} {s : σ} (work : Action σ α)
    (h : opened connect connection databases = .ok s) :
    (onDatabase connect connection work).perform databases =
      ((work.perform s).1, databases.insert connection (work.perform s).2) := by
  rw [onDatabase_perform, h]

/-- A batch that is not empty is work on a database. -/
theorem executor_executeBatch {e : Engine σ} {batch : BoundBatch} (hsets : batch.sets ≠ [])
    (inTransaction : Bool) : (executor e connect).executeBatch connection batch inTransaction =
      onDatabase connect connection
        (e.within inTransaction (e.executeAll batch.sql batch.sets)) :=
  if_neg fun hempty => hsets (List.isEmpty_iff.1 hempty)

/-- A database that work was done on is open. -/
theorem opened_insert {databases : Databases σ} {s : σ}
    (h : opened connect connection databases = .ok s) (s' : σ) :
    opened connect connection (databases.insert connection s') = .ok s' := by
  unfold opened at h ⊢
  split at h
  · cases h
  · rw [Dictionary.get?_insert, if_pos rfl]
    rfl

/-- Attempts on a database that cannot be opened do nothing. -/
theorem tries_of_opened_error {p : RetryPolicy} {work : Action σ α}
    {databases databases' : Databases σ} {fault : Error} {k : Nat}
    (h : opened connect connection databases = .error fault)
    (htries : p.Tries (onDatabase connect connection work) k databases databases') :
    databases' = databases := by
  induction htries with
  | none => rfl
  | again hfail he hmore ih =>
    rw [onDatabase_of_error work h] at hfail
    cases hfail
    exact ih h

/-- Attempts on one of the databases are attempts on this database. -/
theorem tries_onDatabase {p : RetryPolicy} {work : Action σ α} {databases databases' : Databases σ}
    {s : σ} {k : Nat} (h : opened connect connection databases = .ok s)
    (htries : p.Tries (onDatabase connect connection work) k databases databases') :
    ∃ s', p.Tries work k s s' ∧ opened connect connection databases' = .ok s' ∧
      ∀ other, other ≠ connection → databases'.get? other = databases.get? other := by
  induction htries generalizing s with
  | none => exact ⟨s, .none s, h, fun _ _ => rfl⟩
  | again hfail he hmore ih =>
    rw [onDatabase_of_ok work h] at hfail
    cases hwork : work.perform s with
    | mk outcome s₁ =>
      rw [hwork] at hfail
      cases hfail
      obtain ⟨s', htries, hopened, hothers⟩ := ih (opened_insert h s₁)
      refine ⟨s', .again hwork he htries, hopened, ?_⟩
      intro other hother
      rw [hothers other hother, Dictionary.get?_insert, if_neg (Ne.symm hother)]

end

/-! ### Attempts of a batch -/

/-- What a failed attempt of a batch may leave: lists of values from its beginning, but not all of
    them, and none of them if the attempt was made in a transaction. -/
structure Remains (inTransaction : Bool) (sets done : List (List Value)) : Prop where
  beginning : done <+: sets
  short : done.length < sets.length
  nothing : inTransaction = true → done = []

namespace Faulty

section

variable {δ : Type} {effects : Effects δ} {sql : String} {sets : List (List Value)}
  {inTransaction : Bool} {db db' : Faulty δ}

/-- A batch starts no transaction and ends none. -/
theorem saved_executeAll (db : Faulty δ) :
    (((engine effects).executeAll sql sets).perform db).2.saved = db.saved := by
  cases h : ((engine effects).executeAll sql sets).perform db with
  | mk outcome db' =>
    cases outcome with
    | ok n => exact (executeAll_ok h).2
    | error e =>
      obtain ⟨done, m, -, -, -, hsaved⟩ := executeAll_error h
      exact hsaved

/-- An attempt that succeeds has run every list of values once. -/
theorem attempt_ok {n : Nat}
    (h : ((engine effects).within inTransaction ((engine effects).executeAll sql sets)).perform db =
      (.ok n, db')) : effects.Applies sql sets db.contents n db'.contents := by
  cases inTransaction with
  | false => exact (executeAll_ok h).1
  | true =>
    obtain ⟨db₁, db₂, hwork, hbefore, hafter, -, -⟩ := within_ok h
    have happlies := (executeAll_ok hwork).1
    rwa [hbefore, ← hafter] at happlies

/-- An attempt that fails has run what it leaves. -/
theorem attempt_error {e : Error} (hsets : sets ≠ [])
    (h : ((engine effects).within inTransaction ((engine effects).executeAll sql sets)).perform db =
      (.error e, db')) :
    ∃ done m, Remains inTransaction sets done ∧
      effects.Applies sql done db.contents m db'.contents := by
  cases inTransaction with
  | false =>
    obtain ⟨done, m, hbeginning, hshort, happlies, -⟩ := executeAll_error h
    exact ⟨done, m, ⟨hbeginning, hshort, fun hfalse => by cases hfalse⟩, happlies⟩
  | true =>
    have hsame := within_error saved_executeAll h
    refine ⟨[], 0, ⟨List.nil_prefix, List.length_pos_iff.2 hsets, fun _ => rfl⟩, ?_⟩
    rw [hsame.contents]
    exact .none _

/-- What failed attempts of a batch leave, one after another. -/
theorem exists_left {p : RetryPolicy} {k : Nat} (hsets : sets ≠ [])
    (h : p.Tries ((engine effects).within inTransaction ((engine effects).executeAll sql sets)) k
      db db') :
    ∃ (left : List (List (List Value))) (m : Nat), left.length = k ∧
      (∀ done ∈ left, Remains inTransaction sets done) ∧
      effects.Applies sql left.flatten db.contents m db'.contents := by
  induction h with
  | none db => exact ⟨[], 0, rfl, fun _ h => absurd h List.not_mem_nil, .none _⟩
  | again hfail he hmore ih =>
    obtain ⟨done, m, hdone, hfirst⟩ := attempt_error hsets hfail
    obtain ⟨left, rest, hlength, hleft, happlies⟩ := ih
    refine ⟨done :: left, m + rest, congrArg (· + 1) hlength, ?_, ?_⟩
    · intro done' hdone'
      rcases List.mem_cons.1 hdone' with rfl | hdone'
      · exact hdone
      · exact hleft done' hdone'
    · rw [List.flatten_cons]
      exact hfirst.append happlies

end

end Faulty

/-! ### A batch of a template -/

section

variable {δ : Type} {effects : Effects δ} {connect : String → Except Error (Faulty δ)}
  {r : Runner (Databases (Faulty δ))}

/-- **What a batch that succeeds has done.** Behind so many attempts as there were waits one more
    attempt has run every list of values once, in order, and the result is the sum of its counts.
    Each attempt before has left lists of values from the beginning of the batch, but not all, and
    none in a transaction. So every list has taken effect exactly once in a transaction, and where
    the first attempt succeeded. Other databases are as before. -/
theorem executeBatch_applies {disk : Files.Disk} {key : String} {calls : List Parameters}
    {inTransaction : Bool} {s s' : Setting (Databases (Faulty δ))} {n : Nat} {loaded : Loaded}
    (hdriver : r.executors.get? .sqlite = some (executor (Faulty.engine effects) connect))
    (hfound : (s.catalog.lookup disk key).1 = .ok loaded)
    (hdialect : loaded.template.dialect = .sqlite)
    (h : (r.executeBatch disk key calls inTransaction).perform s = (.ok n, s')) :
    ∃ batch, loaded.template.resolveBatch calls = .ok batch ∧
      (calls = [] ∧ n = 0 ∧ s'.databases = s.databases ∨
        ∃ (connection : String) (db db' : Faulty δ) (left : List (List (List Value))) (m : Nat)
          (c : δ), r.connections.lookup batch.statement.connection = .ok connection ∧
          opened connect connection s.databases = .ok db ∧
          s'.databases.get? connection = some db' ∧
          (∀ other, other ≠ connection → s'.databases.get? other = s.databases.get? other) ∧
          s'.waits.length = s.waits.length + left.length ∧ left.length ≤ r.retry.maxRetries ∧
          (∀ done ∈ left, Remains inTransaction batch.bind.sets done) ∧
          effects.Applies batch.bind.sql left.flatten db.contents m c ∧
          effects.Applies batch.bind.sql batch.bind.sets c n db'.contents ∧
          (inTransaction = true ∨ s'.waits = s.waits →
            effects.Applies batch.bind.sql batch.bind.sets db.contents n db'.contents)) := by
  obtain ⟨batch, hbatch, hrun⟩ := Runner.executeBatch_ok hfound h
  obtain ⟨hstatement, hlength⟩ := Template.dialect_of_resolveBatch hbatch
  refine ⟨batch, hbatch, ?_⟩
  rcases hrun with ⟨hempty, hn, hsame, -⟩ | ⟨hsets, driver, connection, hroute, houtcome, hstate,
    hwaits⟩
  · rw [hempty, List.length_nil] at hlength
    exact .inl ⟨List.length_eq_zero_iff.1 hlength.symm, hn, hsame⟩
  · obtain ⟨hregistered, hconnection⟩ := Runner.route_ok hroute
    rw [hstatement, hdialect, hdriver, Option.some_inj] at hregistered
    subst hregistered
    have hbound : batch.bind.sets ≠ [] := by
      rw [← List.length_pos_iff, Batch.length_sets_bind, List.length_pos_iff]
      exact hsets
    -- One attempt, as the driver makes it.
    let work : Action (Faulty δ) Nat := (Faulty.engine effects).within inTransaction
      ((Faulty.engine effects).executeAll batch.bind.sql batch.bind.sets)
    rw [executor_executeBatch hbound] at houtcome hstate hwaits
    obtain ⟨k, databases, hk, htries, hlast, -, hwaited, -⟩ :=
      r.retry.trace_cases (onDatabase connect connection work) s.databases
    rw [houtcome, ← hstate] at hlast
    cases hopened : opened connect connection s.databases with
    | error fault =>
      rw [tries_of_opened_error hopened htries, onDatabase_of_error work hopened] at hlast
      cases hlast
    | ok db =>
      obtain ⟨db₁, htries, hopened₁, hothers⟩ := tries_onDatabase hopened htries
      rw [onDatabase_of_ok work hopened₁, Prod.mk.injEq] at hlast
      obtain ⟨hok, hdatabases⟩ := hlast
      obtain ⟨left, m, hleft, hremains, hbefore⟩ := Faulty.exists_left hbound htries
      have happlies : effects.Applies batch.bind.sql batch.bind.sets db₁.contents n
          (work.perform db₁).2.contents := Faulty.attempt_ok (Prod.ext hok rfl)
      have hlength : s'.waits.length = s.waits.length + left.length := by
        rw [hwaits, hwaited, List.length_append, List.length_map, List.length_range, hleft]
      refine .inr ⟨connection, db, (work.perform db₁).2, left, m, db₁.contents, hconnection,
        hopened, ?_, ?_, hlength, hleft ▸ hk, hremains, hbefore, happlies, ?_⟩
      · rw [← hdatabases, Dictionary.get?_insert, if_pos rfl]
      · intro other hother
        rw [← hdatabases, Dictionary.get?_insert, if_neg (Ne.symm hother), hothers other hother]
      · intro honce
        -- Nothing was left, so the last attempt began where the first one did.
        have hflatten : left.flatten = [] := by
          rw [List.flatten_eq_nil_iff]
          intro done hdone
          rcases honce with htransaction | hfirst
          · exact (hremains done hdone).nothing htransaction
          · rw [hfirst] at hlength
            have hnil : left = [] := List.length_eq_zero_iff.1 (by omega)
            rw [hnil] at hdone
            exact absurd hdone List.not_mem_nil
        rw [hflatten] at hbefore
        rwa [hbefore.eq_of_nil] at happlies

end

/-! ### A call that takes effect twice -/

/-- Statements that add a row. -/
def logged : Effects (List (List Cell)) where
  execute _ cells rows := .ok (1, rows ++ [cells])
  query _ _ rows := .ok ({}, rows)

/-- Each list of values adds one row. -/
theorem length_of_applies_logged {sql : String} {sets : List (List Value)} {n : Nat}
    {rows rows' : List (List Cell)} (h : logged.Applies sql sets rows n rows') :
    rows'.length = rows.length + sets.length := by
  induction h with
  | none rows => rfl
  | step hrow hrest ih =>
    cases hrow
    rw [ih, List.length_append, List.length_singleton, List.length_cons]
    omega

/-- A template that adds a row. -/
def insertTemplate : Template where
  name := "Ins"
  dialect := .sqlite
  connection := "DbContext"
  binding := none
  sql := "INSERT INTO t (k) VALUES (@k)"
  source := none

/-- A batch of two calls of it. -/
def insertCalls : List Parameters := [.ofList [("k", .int 1)], .ofList [("k", .int 2)]]

/-- A database without rows, of which the second statement fails once. -/
def lockedOnce : Faulty (List (List Cell)) where
  contents := []
  script := [none, some (.reported .sqlite "database is locked")]

/-- A runner that tries once more. -/
def insertRunner : Runner (Databases (Faulty (List (List Cell)))) where
  connections := ⟨.ofList [("dbcontext", "orders.db")]⟩
  executors := .ofList [(.sqlite, executor (Faulty.engine logged) fun _ => .ok lockedOnce)]
  retry := { RetryPolicy.default with maxRetries := 1 }

/-- A disk without files. -/
def emptyDisk : Files.Disk := ⟨.directory [], .directory []⟩

/-- The template is loaded; no database is open. -/
def insertSetting : Setting (Databases (Faulty (List (List Cell)))) where
  catalog :=
    { root := ⟨"sql"⟩, defaultConnection := "DbContext",
      templates := .ofList [("ins", ⟨0, insertTemplate⟩)] }
  databases := .empty

/-- What the batch is resolved to. -/
def insertBatch : Batch :=
  let statement : Statement :=
    { key := "ins", sql := "INSERT INTO t (k) VALUES (@k)", connection := "DbContext",
      dialect := .sqlite, binding := none,
      parameters := Parameters.subset (.ofList [("k", .int 1)]) ["k"] }
  ⟨statement, insertCalls.map fun p => p.subset ["k"]⟩

/-- The two calls are resolved to the batch. -/
theorem resolveBatch_insert : insertTemplate.resolveBatch insertCalls = .ok insertBatch := by
  have hlayout : layout insertTemplate.text = [] := layout_eq_nil_of_isEmpty (by decide +kernel)
  have hliteral : insertTemplate.hasLiteral = false := by decide +kernel
  have hmalformed : insertTemplate.malformed = [] := by
    rw [Template.malformed_eq_nil_iff, keptDirectives, hlayout]
    exact fun d hd => absurd hd List.not_mem_nil
  have hpieces : insertTemplate.pieces (.ofList [("k", .int 1)]) =
      .ok [.own "INSERT INTO t (k) VALUES (@k)".toList] := by
    rw [Template.pieces, Template.slots, hlayout]
    rfl
  have hnames : referencedNames "INSERT INTO t (k) VALUES (@k)".toList = ["k"] := by decide +kernel
  have hresolve : insertTemplate.resolve (.ofList [("k", .int 1)]) = .ok insertBatch.statement := by
    rw [Template.resolve, hmalformed, hpieces]
    rfl
  have hfirst : insertCalls.head?.getD Dictionary.empty = .ofList [("k", .int 1)] := rfl
  rw [Template.resolveBatch, hliteral, if_neg Bool.false_ne_true, hfirst, hresolve]
  show Except.ok (Batch.mk insertBatch.statement (insertCalls.map fun p =>
    p.subset (referencedNames "INSERT INTO t (k) VALUES (@k)".toList))) = _
  rw [hnames]
  rfl

/-- The batch binds one value for each call. -/
theorem bind_insertBatch : insertBatch.bind =
    ⟨"INSERT INTO t (k) VALUES (?1)", [[.int 1], [.int 2]]⟩ := by
  have hrewrite : Sql.rewrite .numbered "INSERT INTO t (k) VALUES (@k)".toList =
      ⟨"INSERT INTO t (k) VALUES (?1)".toList, ["k"]⟩ := by decide +kernel
  have hbind : insertBatch.bind =
      ⟨String.ofList (Sql.rewrite .numbered "INSERT INTO t (k) VALUES (@k)".toList).sql,
        insertBatch.sets.map fun p =>
          p.valuesOf (Sql.rewrite .numbered "INSERT INTO t (k) VALUES (@k)".toList).names⟩ := rfl
  rw [hbind, hrewrite, String.ofList_toList]
  rfl

/-- The driver of the runner. -/
def insertDriver : Executor (Databases (Faulty (List (List Cell)))) :=
  executor (Faulty.engine logged) fun _ => .ok lockedOnce

/-- The template is found without a scan. -/
theorem lookup_insert : insertSetting.catalog.lookup emptyDisk "Ins" =
    (.ok ⟨0, insertTemplate⟩, insertSetting.catalog) := by
  apply Catalog.lookup_of_find?
  decide +kernel

/-- The batch goes to the driver and to the database of its connection. -/
theorem route_insert :
    insertRunner.route insertBatch.statement = .ok (insertDriver, "orders.db") := by
  have hget : insertRunner.connections.get? "DbContext" = some "orders.db" := by decide +kernel
  have hblank : Text.isBlank "orders.db" = false := by decide +kernel
  have hconnection : insertRunner.connections.lookup "DbContext" = .ok "orders.db" := by
    simp [Connections.lookup, hget, hblank]
  show (insertRunner.executors.lookup .sqlite >>= fun driver =>
    insertRunner.connections.lookup "DbContext" >>= fun connection =>
      .ok (driver, connection)) = _
  rw [hconnection]
  rfl

/-- The rows that the first attempt leaves, and those behind the second one. -/
def rowsLeft (inTransaction : Bool) : List (List Cell) :=
  if inTransaction then [] else [[.integer 1]]

/-- The second attempt adds both rows. In a transaction each row is there once, and else the first
    one twice. -/
theorem executeBatch_insert (inTransaction : Bool) : ∃ s',
    (insertRunner.executeBatch emptyDisk "Ins" insertCalls inTransaction).perform insertSetting =
        (.ok 2, s') ∧
      s'.databases.get? "orders.db" =
        some ⟨rowsLeft inTransaction ++ [[.integer 1], [.integer 2]], none, []⟩ := by
  let work : Action (Faulty (List (List Cell))) Nat := (Faulty.engine logged).within inTransaction
    ((Faulty.engine logged).executeAll insertBatch.bind.sql insertBatch.bind.sets)
  have hfirst : work.perform lockedOnce =
      (.error (.reported .sqlite "database is locked"), ⟨rowsLeft inTransaction, none, []⟩) := by
    simp only [work, bind_insertBatch]
    cases inTransaction <;> rfl
  have hsecond : work.perform ⟨rowsLeft inTransaction, none, []⟩ =
      (.ok 2, ⟨rowsLeft inTransaction ++ [[.integer 1], [.integer 2]], none, []⟩) := by
    simp only [work, bind_insertBatch]
    cases inTransaction <;> rfl
  have hattempt : insertDriver.executeBatch "orders.db" insertBatch.bind inTransaction =
      onDatabase (fun _ => .ok lockedOnce) "orders.db" work := by
    apply executor_executeBatch
    rw [bind_insertBatch]
    exact List.cons_ne_nil _ _
  have hopened : opened (fun _ => .ok lockedOnce) "orders.db" insertSetting.databases =
      .ok lockedOnce := rfl
  have htransient :
      insertRunner.retry.isTransient (.reported .sqlite "database is locked") = true := by
    decide +kernel
  -- The first attempt fails transiently, the second one succeeds.
  have htries : insertRunner.retry.Tries (onDatabase (fun _ => .ok lockedOnce) "orders.db" work) 1
      insertSetting.databases
      (insertSetting.databases.insert "orders.db" ⟨rowsLeft inTransaction, none, []⟩) := by
    refine .again ?_ htransient (.none _)
    rw [onDatabase_of_ok work hopened, hfirst]
  have hlast := onDatabase_of_ok work (opened_insert hopened ⟨rowsLeft inTransaction, none, []⟩)
  rw [hsecond] at hlast
  have htrace := RetryPolicy.trace_of_tries htries hlast (Nat.le_refl 1)
  rw [Runner.executeBatch_perform lookup_insert resolveBatch_insert (List.cons_ne_nil _ _)
    route_insert, Runner.attempt_run, hattempt]
  simp only [htrace]
  refine ⟨_, rfl, ?_⟩
  rw [Dictionary.get?_insert, if_pos rfl]

/-- In a transaction the batch takes effect once, though it was run twice. -/
theorem executeBatch_applies_insert : ∃ s' connection db db',
    (insertRunner.executeBatch emptyDisk "Ins" insertCalls true).perform insertSetting =
        (.ok 2, s') ∧
      opened (fun _ => .ok lockedOnce) connection insertSetting.databases = .ok db ∧
      s'.databases.get? connection = some db' ∧
      logged.Applies insertBatch.bind.sql insertBatch.bind.sets db.contents 2 db'.contents := by
  obtain ⟨s', hrun, -⟩ := executeBatch_insert true
  have hdriver : insertRunner.executors.get? .sqlite = some insertDriver := rfl
  obtain ⟨batch, hbatch, happlies⟩ :=
    executeBatch_applies hdriver (congrArg Prod.fst lookup_insert) rfl hrun
  obtain rfl := Except.ok.inj (hbatch.symm.trans resolveBatch_insert)
  rcases happlies with ⟨hempty, -, -⟩ |
    ⟨connection, db, db', left, m, c, -, hopened, hdb', -, -, -, -, -, -, honce⟩
  · exact absurd hempty (List.cons_ne_nil _ _)
  · exact ⟨s', connection, db, db', hrun, hopened, hdb', honce (.inl rfl)⟩

/-- Outside of a transaction the result is the same, but the first call has taken effect twice. -/
theorem executeBatch_applies_twice : ∃ s' db',
    (insertRunner.executeBatch emptyDisk "Ins" insertCalls false).perform insertSetting =
        (.ok 2, s') ∧
      s'.databases.get? "orders.db" = some db' ∧
      db'.contents = [[.integer 1], [.integer 1], [.integer 2]] ∧
      ∀ n, ¬ logged.Applies insertBatch.bind.sql insertBatch.bind.sets lockedOnce.contents n
        db'.contents := by
  obtain ⟨s', hrun, hrows⟩ := executeBatch_insert false
  refine ⟨s', _, hrun, hrows, rfl, ?_⟩
  intro n happlies
  have hrows := length_of_applies_logged happlies
  rw [bind_insertBatch] at hrows
  exact absurd hrows (by decide)

end QueryBook.Sqlite
