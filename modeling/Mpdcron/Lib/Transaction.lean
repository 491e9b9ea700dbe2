import Mathlib.Data.Option.Basic

/-! One connection to a database: what it has committed, and the transaction that it has open. -/

namespace Transaction

/-- `pending` is what the open transaction has made of the committed state. -/
structure Connection (α : Type) where
  committed : α
  pending : Option α
  deriving DecidableEq, Repr

/-- How a call ends: an error may take the open transaction back. -/
inductive Ending (ε : Type) where
  | done
  | failed (error : ε) (rolledBack : Bool)
  deriving DecidableEq, Repr

def Ending.isDone {ε : Type} : Ending ε → Bool
  | .done => true
  | .failed _ _ => false

def Ending.takesBack {ε : Type} : Ending ε → Bool
  | .done => false
  | .failed _ rolledBack => rolledBack

section

variable {ε : Type} {ending : Ending ε}

theorem isDone_iff : ending.isDone = true ↔ ending = .done := by
  cases ending <;> simp [Ending.isDone]

/-- What a failing call leaves. -/
theorem failed_of_not_done (failed : ending.isDone = false) :
    ∃ error rolledBack, ending = .failed error rolledBack := by
  cases ending with
  | done => cases failed
  | failed error rolledBack => exact ⟨error, rolledBack, rfl⟩

theorem takesBack_done (done : ending.isDone = true) : ending.takesBack = false := by
  rw [isDone_iff.mp done]
  rfl

end

namespace Connection

variable {α : Type}

/-- No transaction is open. -/
def closed (state : α) : Connection α := { committed := state, pending := none }

/-- What the connection itself reads. -/
def current (connection : Connection α) : α := connection.pending.getD connection.committed

def opened (connection : Connection α) : Bool := connection.pending.isSome

/-- Outside a transaction a statement commits on its own. -/
def write (next : α) (connection : Connection α) : Connection α :=
  match connection.pending with
  | none => { committed := next, pending := none }
  | some _ => { committed := connection.committed, pending := some next }

def start (connection : Connection α) : Connection α :=
  { committed := connection.committed, pending := some connection.current }

def commit (connection : Connection α) : Connection α :=
  { committed := connection.current, pending := none }

def rollback (connection : Connection α) : Connection α :=
  { committed := connection.committed, pending := none }

def fail (rolledBack : Bool) (connection : Connection α) : Connection α :=
  if rolledBack then connection.rollback else connection

variable (connection : Connection α)

@[simp] theorem current_write (next : α) : (connection.write next).current = next := by
  rcases connection with ⟨committed, pending⟩
  cases pending <;> rfl

@[simp] theorem current_start : connection.start.current = connection.current := rfl

@[simp] theorem current_commit : connection.commit.current = connection.current := rfl

@[simp] theorem current_rollback : connection.rollback.current = connection.committed := rfl

@[simp] theorem committed_start : connection.start.committed = connection.committed := rfl

@[simp] theorem committed_commit : connection.commit.committed = connection.current := rfl

@[simp] theorem committed_rollback : connection.rollback.committed = connection.committed := rfl

@[simp] theorem committed_fail (rolledBack : Bool) :
    (connection.fail rolledBack).committed = connection.committed := by
  cases rolledBack <;> rfl

@[simp] theorem committed_closed (state : α) : (closed state).committed = state := rfl

@[simp] theorem current_of_closed (state : α) : (closed state).current = state := rfl

@[simp] theorem opened_closed (state : α) : (closed state).opened = false := rfl

@[simp] theorem opened_start : connection.start.opened = true := rfl

@[simp] theorem opened_commit : connection.commit.opened = false := rfl

@[simp] theorem opened_rollback : connection.rollback.opened = false := rfl

@[simp] theorem opened_write (next : α) : (connection.write next).opened = connection.opened := by
  rcases connection with ⟨committed, pending⟩
  cases pending <;> rfl

theorem opened_fail (rolledBack : Bool) :
    (connection.fail rolledBack).opened = (connection.opened && !rolledBack) := by
  cases rolledBack <;> simp [fail]

theorem current_fail (rolledBack : Bool) : (connection.fail rolledBack).current
    = if connection.opened && rolledBack then connection.committed else connection.current := by
  rcases connection with ⟨committed, pending⟩
  cases pending <;> cases rolledBack <;> rfl

theorem current_closed (closed : connection.opened = false) :
    connection.current = connection.committed := by
  rw [opened, Option.isSome_eq_false_iff, Option.isNone_iff_eq_none] at closed
  rw [current, closed, Option.getD_none]

theorem fail_closed (closed : connection.opened = false) (rolledBack : Bool) :
    connection.fail rolledBack = connection := by
  rcases connection with ⟨committed, pending⟩
  cases pending with
  | some state => cases closed
  | none => cases rolledBack <;> rfl

/-- What is written in a transaction is not committed yet. -/
theorem committed_write_opened (next : α) (isOpen : connection.opened = true) :
    (connection.write next).committed = connection.committed := by
  rcases connection with ⟨committed, pending⟩
  cases pending with
  | none => cases isOpen
  | some state => rfl

theorem committed_write_closed (next : α) (closed : connection.opened = false) :
    (connection.write next).committed = next := by
  rcases connection with ⟨committed, pending⟩
  cases pending with
  | none => rfl
  | some state => cases closed

end Connection

/-! ### Calls one after the other -/

section

variable {α ε δ σ : Type}

/-- The first call that fails ends the run; its error is `failure` of it. -/
def inOrder (call : α → σ → Except ε Unit × σ) (failure : α → ε → δ) :
    List α → σ → Except δ Unit × σ
  | [], state => (.ok (), state)
  | item :: rest, state =>
      match call item state with
      | (.error error, state) => (.error (failure item error), state)
      | (.ok (), state) => inOrder call failure rest state

variable {call : α → σ → Except ε Unit × σ} {failure : α → ε → δ}

theorem inOrder_invariant {invariant : σ → Prop} :
    ∀ {items : List α} {state : σ},
      (∀ item ∈ items, ∀ state, invariant state → invariant (call item state).2) →
      invariant state → invariant (inOrder call failure items state).2
  | [], state, _, holds => holds
  | item :: rest, state, keeps, holds => by
      have next := keeps item List.mem_cons_self state holds
      rw [inOrder]
      rcases called : call item state with ⟨ending, after⟩
      rw [called] at next
      cases ending with
      | error error => exact next
      | ok =>
          exact inOrder_invariant (fun other mem => keeps other (List.mem_cons_of_mem item mem)) next

/-- In a run without an error every call has succeeded once. -/
theorem inOrder_ok :
    ∀ {items : List α} {state : σ}, (inOrder call failure items state).1 = .ok () →
      ∀ item ∈ items, ∃ seen, (call item seen).1 = .ok ()
  | [], state, _, item, mem => absurd mem List.not_mem_nil
  | first :: rest, state, ran, item, mem => by
      rw [inOrder] at ran
      rcases called : call first state with ⟨ending, after⟩
      rw [called] at ran
      cases ending with
      | error error => cases ran
      | ok =>
          rcases List.mem_cons.mp mem with rfl | later
          · exact ⟨state, by rw [called]⟩
          · exact inOrder_ok ran item later

variable (failure) in
/-- Calls that leave the state alone all see the same one. -/
theorem inOrder_stays :
    ∀ {items : List α} {state : σ}, (∀ item ∈ items, (call item state).2 = state) →
      (inOrder call failure items state).2 = state ∧
        ((inOrder call failure items state).1 = .ok () ↔
          ∀ item ∈ items, (call item state).1 = .ok ())
  | [], state, _ => ⟨rfl, iff_of_true rfl (fun _ mem => absurd mem List.not_mem_nil)⟩
  | item :: rest, state, stays => by
      have here := stays item List.mem_cons_self
      rw [inOrder]
      rcases called : call item state with ⟨ending, after⟩
      rw [called] at here
      cases here
      cases ending with
      | error error =>
          refine ⟨rfl, iff_of_false (by simp) ?_⟩
          intro all
          have first := all item List.mem_cons_self
          rw [called] at first
          cases first
      | ok =>
          rcases inOrder_stays (fun other mem => stays other (List.mem_cons_of_mem item mem)) with
            ⟨same, all⟩
          refine ⟨same, all.trans ?_⟩
          rw [List.forall_mem_cons, called]
          simp

end

end Transaction
