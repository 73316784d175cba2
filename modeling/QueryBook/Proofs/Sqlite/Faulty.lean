import QueryBook.Proofs.Execution.Tries
import QueryBook.Sqlite.Executor

namespace QueryBook.Sqlite

/-!
# Databases that fail by a script

What a driver may rely on: a statement that fails leaves the contents as they are, and a transaction
that is abandoned leaves those of its start. Which statements, starts and ends of transactions fail
is up to a script, and what a statement does to the contents is up to the statement.

* `Effects`, `Effects.Applies` — what statements do; a text run once for each list of values.
* `Faulty`, `Faulty.engine` — contents, an open transaction and a script, as an engine.
* `executeAll_ok`, `executeAll_error` — a batch that succeeds has run every list of values, one that
  fails has run those before the failure.
* `within_ok`, `within_error` — a transaction that fails leaves nothing of the work.
-/

/-- What statements do to the contents of a database: they fail, or give an answer and the contents
    behind them. -/
structure Effects (δ : Type) where
  execute : String → List Cell → δ → Except Error (Nat × δ)
  query : String → List Cell → δ → Except Error (Answer × δ)

/-- A text is run once for each list of values, in order: the sum of the counts, and the contents
    behind the last one. -/
inductive Effects.Applies {δ : Type} (effects : Effects δ) (sql : String) :
    List (List Value) → δ → Nat → δ → Prop
  | none (c : δ) : Applies effects sql [] c 0 c
  | step {values : List Value} {sets : List (List Value)} {c c₁ c₂ : δ} {n rest : Nat}
      (h : effects.execute sql (values.map Cell.ofValue) c = .ok (n, c₁))
      (hrest : Applies effects sql sets c₁ rest c₂) :
      Applies effects sql (values :: sets) c (n + rest) c₂

/-- A database that fails by a script. -/
structure Faulty (δ : Type) where
  contents : δ
  /-- What the contents were when the open transaction started. -/
  saved : Option δ := none
  /-- What the next statements, starts and ends of transactions come to, one entry for each: an
      error, or whatever they come to by themselves. Behind the end there are no such errors. -/
  script : List (Option Error) := []

/-- What is done in a transaction is done between its start and its end, and taken back if it
    fails. -/
theorem Engine.perform_within {σ α : Type} (e : Engine σ) (work : Action σ α) (s : σ) :
    (e.within true work).perform s =
      match e.start.perform s with
      | (.error fault, s) => (.error fault, s)
      | (.ok (), s) =>
        match Action.perform (work >>= fun a => e.commit >>= fun _ => pure a) s with
        | (.ok a, s) => (.ok a, s)
        | (.error fault, s) => (.error fault, e.abandon s) := rfl

variable {δ α : Type}

/-- Nothing has no effect. -/
theorem Effects.Applies.eq_of_nil {effects : Effects δ} {sql : String} {c c' : δ} {n : Nat}
    (h : effects.Applies sql [] c n c') : c' = c := by
  cases h
  rfl

/-- Lists of values that are applied one behind the other are applied together. -/
theorem Effects.Applies.append {effects : Effects δ} {sql : String} {sets sets' : List (List Value)}
    {c c₁ c₂ : δ} {n m : Nat} (h : effects.Applies sql sets c n c₁)
    (h' : effects.Applies sql sets' c₁ m c₂) :
    effects.Applies sql (sets ++ sets') c (n + m) c₂ := by
  induction h with
  | none c =>
    rw [Nat.zero_add]
    exact h'
  | step hset hrest ih =>
    rw [Nat.add_assoc]
    exact .step hset (ih h')

namespace Faulty

/-- Something that is up to the script, and else to the database. What fails changes nothing. -/
def scripted (f : Faulty δ → Except Error (α × Faulty δ)) : Action (Faulty δ) α :=
  ExceptT.mk fun db =>
    -- The entry is used up, whatever comes of it.
    let rest := { db with script := db.script.tail }
    match db.script.head?.join with
    | some fault => (.error fault, rest)
    | none =>
      match f rest with
      | .ok (a, db) => (.ok a, db)
      | .error fault => (.error fault, rest)

/-- Runs a statement that does something to the contents. -/
def run (effect : δ → Except Error (α × δ)) : Action (Faulty δ) α :=
  scripted fun db => (effect db.contents).map fun (a, contents) => (a, { db with contents })

/-- Starts a transaction, unless one is open. -/
def start (db : Faulty δ) : Except Error (Unit × Faulty δ) :=
  match db.saved with
  | some _ => .error (.reported .sqlite "cannot start a transaction within a transaction")
  | none => .ok ((), { db with saved := some db.contents })

/-- Ends the open transaction and keeps what was done. -/
def commit (db : Faulty δ) : Except Error (Unit × Faulty δ) :=
  match db.saved with
  | some _ => .ok ((), { db with saved := none })
  | none => .error (.reported .sqlite "cannot commit - no transaction is active")

/-- Ends the transaction, if one is open, and takes back what was done. -/
def abandon (db : Faulty δ) : Faulty δ :=
  match db.saved with
  | some contents => { db with contents, saved := none }
  | none => db

/-- The database as an engine. -/
def engine (effects : Effects δ) : Engine (Faulty δ) where
  execute sql cells := run (effects.execute sql cells)
  query sql cells := run (effects.query sql cells)
  start := scripted start
  commit := scripted commit
  abandon := abandon

/-! ### One step -/

/-- Two databases with the same contents and the same open transaction. -/
structure Same (db db' : Faulty δ) : Prop where
  contents : db'.contents = db.contents
  saved : db'.saved = db.saved

theorem Same.refl (db : Faulty δ) : Same db db := ⟨rfl, rfl⟩

/-- Databases that are the same as a third are the same. -/
theorem Same.trans {db db₁ db₂ : Faulty δ} (h : Same db db₁) (h' : Same db₁ db₂) : Same db db₂ :=
  ⟨h'.contents.trans h.contents, h'.saved.trans h.saved⟩

section

variable {f : Faulty δ → Except Error (α × Faulty δ)} {db db' : Faulty δ} {a : α} {e : Error}

/-- What is up to the script fails if the script says so, and else does what the database does. -/
theorem perform_scripted (f : Faulty δ → Except Error (α × Faulty δ)) (db : Faulty δ) :
    (scripted f).perform db =
      match db.script.head?.join with
      | some fault => (.error fault, { db with script := db.script.tail })
      | none =>
        match f { db with script := db.script.tail } with
        | .ok (a, db) => (.ok a, db)
        | .error fault => (.error fault, { db with script := db.script.tail }) := rfl

/-- What succeeds does what the database does. -/
theorem scripted_ok (h : (scripted f).perform db = (.ok a, db')) :
    ∃ db₁, Same db db₁ ∧ f db₁ = .ok (a, db') := by
  refine ⟨{ db with script := db.script.tail }, ⟨rfl, rfl⟩, ?_⟩
  rw [perform_scripted] at h
  split at h
  · cases h
  · split at h
    · next hf =>
      cases h
      exact hf
    · cases h

/-- What fails changes nothing. -/
theorem scripted_error (h : (scripted f).perform db = (.error e, db')) : Same db db' := by
  rw [perform_scripted] at h
  split at h
  · cases h
    exact ⟨rfl, rfl⟩
  · split at h
    · cases h
    · cases h
      exact ⟨rfl, rfl⟩

end

section

variable {effects : Effects δ} {sql : String} {db db' : Faulty δ} {n : Nat} {e : Error}

/-- A statement that succeeds changes the contents only. -/
theorem executeBound_ok {values : List Value}
    (h : ((engine effects).executeBound sql values).perform db = (.ok n, db')) :
    effects.execute sql (values.map Cell.ofValue) db.contents = .ok (n, db'.contents) ∧
      db'.saved = db.saved := by
  change (run (effects.execute sql (values.map Cell.ofValue))).perform db = _ at h
  obtain ⟨db₁, hsame, hrun⟩ := scripted_ok h
  rw [hsame.contents] at hrun
  cases heffect : effects.execute sql (values.map Cell.ofValue) db.contents with
  | error fault =>
    rw [heffect] at hrun
    cases hrun
  | ok r =>
    rw [heffect] at hrun
    cases hrun
    exact ⟨rfl, hsame.saved⟩

/-- A statement that fails changes nothing. -/
theorem executeBound_error {values : List Value}
    (h : ((engine effects).executeBound sql values).perform db = (.error e, db')) :
    Same db db' := by
  change (run (effects.execute sql (values.map Cell.ofValue))).perform db = _ at h
  exact scripted_error h

/-! ### A batch -/

/-- A batch that succeeds has run every list of values. -/
theorem executeAll_ok {sets : List (List Value)}
    (h : ((engine effects).executeAll sql sets).perform db = (.ok n, db')) :
    effects.Applies sql sets db.contents n db'.contents ∧ db'.saved = db.saved := by
  induction sets generalizing db n with
  | nil =>
    cases h
    exact ⟨.none _, rfl⟩
  | cons values sets ih =>
    rw [Engine.executeAll] at h
    obtain ⟨first, db₁, hfirst, h⟩ := Action.perform_bind_ok h
    obtain ⟨rest, db₂, hrest, h⟩ := Action.perform_bind_ok h
    cases h
    obtain ⟨heffect, hsaved⟩ := executeBound_ok hfirst
    obtain ⟨happlies, hsaved'⟩ := ih hrest
    exact ⟨.step heffect happlies, hsaved'.trans hsaved⟩

/-- A batch that fails has run the lists of values before the failure. -/
theorem executeAll_error {sets : List (List Value)}
    (h : ((engine effects).executeAll sql sets).perform db = (.error e, db')) :
    ∃ done m, done <+: sets ∧ done.length < sets.length ∧
      effects.Applies sql done db.contents m db'.contents ∧ db'.saved = db.saved := by
  induction sets generalizing db with
  | nil => cases h
  | cons values sets ih =>
    rw [Engine.executeAll] at h
    -- The first statement fails, or it is applied and one behind it fails.
    rcases Action.perform_bind_error h with hfirst | ⟨first, db₁, hfirst, h⟩
    · have hsame := executeBound_error hfirst
      refine ⟨[], 0, List.nil_prefix, Nat.succ_pos _, ?_, hsame.saved⟩
      rw [hsame.contents]
      exact .none _
    · rcases Action.perform_bind_error h with hrest | ⟨rest, db₂, -, h⟩
      · obtain ⟨heffect, hsaved⟩ := executeBound_ok hfirst
        obtain ⟨done, m, hdone, hlt, happlies, hsaved'⟩ := ih hrest
        exact ⟨values :: done, first + m, List.cons_prefix_cons.2 ⟨rfl, hdone⟩,
          Nat.succ_lt_succ hlt, .step heffect happlies, hsaved'.trans hsaved⟩
      · cases h

end

/-! ### A transaction -/

section

variable {effects : Effects δ} {work : Action (Faulty δ) α} {db db' : Faulty δ} {a : α} {e : Error}

/-- A transaction that starts notes what the contents are. -/
theorem start_ok {u : Unit} (h : (engine effects).start.perform db = (.ok u, db')) :
    db'.contents = db.contents ∧ db.saved = none ∧ db'.saved = some db.contents := by
  obtain ⟨db₁, hsame, hstart⟩ := scripted_ok h
  unfold start at hstart
  rw [hsame.saved] at hstart
  split at hstart
  · cases hstart
  · next hsaved =>
    cases hstart
    exact ⟨hsame.contents, hsaved, congrArg some hsame.contents⟩

/-- A transaction that ends keeps the contents. -/
theorem commit_ok {u : Unit} (h : (engine effects).commit.perform db = (.ok u, db')) :
    db'.contents = db.contents ∧ db'.saved = none := by
  obtain ⟨db₁, hsame, hcommit⟩ := scripted_ok h
  unfold commit at hcommit
  split at hcommit
  · cases hcommit
    exact ⟨hsame.contents, rfl⟩
  · cases hcommit

/-- Work in a transaction of its own that succeeds is kept. -/
theorem within_ok (h : ((engine effects).within true work).perform db = (.ok a, db')) :
    ∃ db₁ db₂, work.perform db₁ = (.ok a, db₂) ∧ db₁.contents = db.contents ∧
      db'.contents = db₂.contents ∧ db.saved = none ∧ db'.saved = none := by
  rw [Engine.perform_within] at h
  split at h
  · cases h
  · next db₁ hstart =>
    split at h
    · next b db₂ hwhole =>
      cases h
      obtain ⟨b, db₂, hwork, hend⟩ := Action.perform_bind_ok hwhole
      obtain ⟨u, db₃, hcommit, hend⟩ := Action.perform_bind_ok hend
      cases hend
      obtain ⟨hcontents, hsaved, -⟩ := start_ok hstart
      obtain ⟨hkept, hclosed⟩ := commit_ok hcommit
      exact ⟨db₁, db₂, hwork, hcontents, hkept, hsaved, hclosed⟩
    · cases h

/-- Of work in a transaction of its own that fails nothing is left, if the work itself neither
    starts a transaction nor ends one. -/
theorem within_error (hwork : ∀ db, (work.perform db).2.saved = db.saved)
    (h : ((engine effects).within true work).perform db = (.error e, db')) : Same db db' := by
  rw [Engine.perform_within] at h
  split at h
  · next fault db₁ hstart =>
    cases h
    exact scripted_error hstart
  · next db₁ hstart =>
    obtain ⟨-, hclosed, hsaved⟩ := start_ok hstart
    -- Whatever was done, the contents of the start are taken back.
    have habandon : ∀ {db₂ : Faulty δ}, db₂.saved = db₁.saved → Same db (abandon db₂) := by
      intro db₂ hkept
      rw [hsaved] at hkept
      refine ⟨?_, ?_⟩
      · simp [abandon, hkept]
      · simp [abandon, hkept, hclosed]
    split at h
    · cases h
    · next fault db₂ hwhole =>
      cases h
      -- Either the work fails or the end of the transaction does.
      rcases Action.perform_bind_error hwhole with hfail | ⟨b, db₃, hdone, hend⟩
      · apply habandon
        have hkept := hwork db₁
        rwa [hfail] at hkept
      · have hkept := hwork db₁
        rw [hdone] at hkept
        rcases Action.perform_bind_error hend with hcommit | ⟨u, db₄, -, hend⟩
        · exact habandon ((scripted_error hcommit).saved.trans hkept)
        · cases hend

end

end Faulty

end QueryBook.Sqlite
