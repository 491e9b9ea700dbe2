import Mpdcron.Lib.Transaction
import Mpdcron.Stats.RemoveTag

/-! A SQLite with transactions, whose calls fail by a plan, over one that has no transactions and
does what it is asked. -/

namespace Mpdcron.Stats

open CString Transaction

/-- What a step after which the code can stop leaves, seen in another state. -/
def Execution.map {α β : Type} (f : α → β) : Execution α → Execution β
  | .done db => .done (f db)
  | .failed errmsg db => .failed errmsg (f db)
  | .row columns db next => .row columns (f db) (next.map f)
  | .busy next => .busy (next.map f)

section Map

variable {α β : Type} (f : α → β)

theorem dbStep_map (execution : Execution α) :
    dbStep (execution.map f) = ((dbStep execution).1, f (dbStep execution).2) := by
  induction execution with
  | done db => rfl
  | failed errmsg db => rfl
  | row columns db next _ => rfl
  | busy next ih => exact ih

theorem stepRows_map {γ : Type} (read : Columns → Except Fault γ) (execution : Execution α) :
    ∀ values : List γ, stepRows read (execution.map f) values
      = (stepRows read execution values).map fun ended => (ended.1, f ended.2) := by
  induction execution with
  | done db => intro values; rfl
  | failed errmsg db => intro values; rfl
  | busy next ih => exact ih
  | row columns db next ih =>
      intro values
      rw [Execution.map, stepRows, stepRows]
      cases read columns with
      | error fault => rfl
      | ok item => exact ih (item :: values)

end Map

/-- A connection, and how many statements of the call have been stepped on it. -/
structure Session (α : Type) where
  connection : Connection α
  stepped : Nat

/-- Which calls fail. The statements that end in an expression are counted; the others are known by
what they are. -/
structure Plan where
  prepare : Nat → Option Bytes
  step : Nat → Ending Bytes
  reset : Maint → Option Bytes
  runMaint : Maint → Ending Bytes

namespace Plan

variable (plan : Plan)

/-- The whole of a statement: one that is not prepared is not stepped. -/
def statement (index : Nat) : Ending Bytes :=
  match plan.prepare index with
  | some errmsg => .failed errmsg false
  | none => plan.step index

def maint (stmt : Maint) : Ending Bytes :=
  match plan.reset stmt with
  | some errmsg => .failed errmsg false
  | none => plan.runMaint stmt

/-- What a statement of `db_sql_maint` makes of the connection. -/
def maintained {α : Type} (stmt : Maint) (connection : Connection α) : Connection α :=
  match plan.maint stmt with
  | .failed _ rolledBack => connection.fail rolledBack
  | .done =>
      match stmt with
      | .beginTransaction => if connection.opened then connection else connection.start
      | .endTransaction => if connection.opened then connection.commit else connection
      | .pragmaSyncOn => connection
      | .pragmaSyncOff => connection

end Plan

section Planned

variable {α : Type} (base : Sqlite α) (plan : Plan)

def Session.wrote (session : Session α) (next : α) : Session α :=
  { connection := session.connection.write next, stepped := session.stepped + 1 }

def Session.failed (session : Session α) (rolledBack : Bool) : Session α :=
  { connection := session.connection.fail rolledBack, stepped := session.stepped + 1 }

def plannedPrepare (authorizer : Action → Bool) (sql : Bytes) (session : Session α) :
    Except Bytes (Execution (Session α)) :=
  match plan.prepare session.stepped with
  | some errmsg => .error errmsg
  | none =>
      match base.prepare authorizer sql session.connection.current with
      | .error errmsg => .error errmsg
      | .ok execution =>
          match plan.step session.stepped with
          | .failed errmsg rolledBack => .ok (.failed errmsg (session.failed rolledBack))
          | .done => .ok (execution.map session.wrote)

def plannedMaint (stmt : Maint) (session : Session α) : Execution (Session α) :=
  match plan.runMaint stmt with
  | .failed errmsg rolledBack =>
      .failed errmsg { session with connection := session.connection.fail rolledBack }
  | .done =>
      match stmt with
      | .beginTransaction =>
          if session.connection.opened then
            .failed (lit "cannot start a transaction within a transaction") session
          else .done { session with connection := session.connection.start }
      | .endTransaction =>
          if session.connection.opened then
            .done { session with connection := session.connection.commit }
          else .failed (lit "cannot commit - no transaction is active") session
      | .pragmaSyncOn => .done session
      | .pragmaSyncOff => .done session

/-- Everything that is written goes through the connection. -/
def planned : Sqlite (Session α) where
  prepare := plannedPrepare base plan
  changes session := base.changes session.connection.current
  reset stmt session :=
    match plan.reset stmt with
    | some errmsg => .error errmsg
    | none => .ok session
  runMaint _ stmt session := plannedMaint plan stmt session
  setAuthorizer install session := base.setAuthorizer install session.connection.current

theorem dbRunStmt_planned (authorizer : Action → Bool) (stmt : Maint) (session : Session α) :
    (dbRunStmt (planned base plan) authorizer stmt session).2
      = { session with connection := plan.maintained stmt session.connection } := by
  rw [dbRunStmt, Plan.maintained.eq_def, Plan.maint, planned]
  dsimp only
  cases plan.reset stmt with
  | some errmsg => rfl
  | none =>
      dsimp only
      rw [plannedMaint.eq_def]
      cases plan.runMaint stmt with
      | failed errmsg rolledBack => rfl
      | done =>
          cases stmt with
          | beginTransaction => cases session.connection.opened <;> simp [dbStep]
          | endTransaction => cases session.connection.opened <;> simp [dbStep]
          | pragmaSyncOn => rfl
          | pragmaSyncOff => rfl

/-! ### Single statements -/

variable {base plan} {authorizer : Action → Bool} {session : Session α}

theorem statement_done (done : plan.statement session.stepped = .done) :
    plan.prepare session.stepped = none ∧ plan.step session.stepped = .done := by
  rw [Plan.statement] at done
  cases prepared : plan.prepare session.stepped with
  | some errmsg =>
      rw [prepared] at done
      cases done
  | none =>
      rw [prepared] at done
      exact ⟨rfl, done⟩

/-- A statement that is not to fail does what it does without a plan. -/
theorem prepare_done (done : plan.statement session.stepped = .done) (sql : Bytes) :
    (planned base plan).prepare authorizer sql session
      = (base.prepare authorizer sql session.connection.current).map (·.map session.wrote) := by
  rcases statement_done done with ⟨prepared, stepped⟩
  simp only [planned, plannedPrepare, prepared, stepped]
  cases base.prepare authorizer sql session.connection.current <;> rfl

variable (base authorizer) in
/-- One that is to fail is not prepared, or fails at its first step. -/
theorem prepare_failed {errmsg : Bytes} {rolledBack : Bool}
    (failed : plan.statement session.stepped = .failed errmsg rolledBack) (sql : Bytes) :
    (∃ errmsg, (planned base plan).prepare authorizer sql session = .error errmsg ∧
        (rolledBack = true → ¬Prepares base authorizer sql session.connection.current)) ∨
      (planned base plan).prepare authorizer sql session
          = .ok (.failed errmsg (session.failed rolledBack)) ∧
        Prepares base authorizer sql session.connection.current := by
  rw [Plan.statement] at failed
  simp only [planned, plannedPrepare]
  cases prepared : plan.prepare session.stepped with
  | some message =>
      rw [prepared] at failed
      cases failed
      exact Or.inl ⟨errmsg, rfl, fun taken => by cases taken⟩
  | none =>
      rw [prepared] at failed
      have stepped : plan.step session.stepped = .failed errmsg rolledBack := failed
      rw [stepped]
      cases compiled : base.prepare authorizer sql session.connection.current with
      | error message =>
          refine Or.inl ⟨message, rfl, fun _ prepares => ?_⟩
          rcases prepares with ⟨execution, accepted⟩
          rw [compiled] at accepted
          cases accepted
      | ok execution => exact Or.inr ⟨rfl, execution, compiled⟩

end Planned

end Mpdcron.Stats
