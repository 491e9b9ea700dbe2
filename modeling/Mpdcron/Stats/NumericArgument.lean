import Mpdcron.Lib.Decimal
import Mpdcron.Stats.Counting

/-! The number of the `count`, `rate` and `rate_absolute` commands. -/

namespace Mpdcron.Stats

open CString SqlText

/-- The commands that put a number into their UPDATE. -/
inductive NumberCommand where
  | count
  | rate
  | rateAbsolute
  deriving DecidableEq, Repr

def rateAbsoluteHandler {Db : Type} (host : Host Db) : Table → Handler Db
  | .song => handleRateAbsolute host
  | .artist => handleRateAbsoluteArtist host
  | .album => handleRateAbsoluteAlbum host
  | .genre => handleRateAbsoluteGenre host

def NumberCommand.handler {Db : Type} (host : Host Db) : NumberCommand → Table → Handler Db
  | .count => countHandler host
  | .rate => rateHandler host
  | .rateAbsolute => rateAbsoluteHandler host

/-- What stands behind `set`: the number as `%d` prints it. -/
def NumberCommand.stmt (value : Int) : NumberCommand → Bytes
  | .count => lit "play_count = play_count + (" ++ decimal value ++ lit ")"
  | .rate => lit "rating = rating + (" ++ decimal value ++ lit ")"
  | .rateAbsolute => lit "rating = (" ++ decimal value ++ lit ")"

section Handler

variable {Db : Type} (host : Host Db)

/-- All twelve are one handler. -/
theorem numberHandler_eq (command : NumberCommand) (table : Table) :
    command.handler host table = handleNumber fun allowed expr value db =>
      dbUpdateExpr host.sqlite allowed table (command.stmt value) expr db := by
  cases command <;> cases table <;> rfl

/-- The text is a decimal integer that an `int` holds. -/
def IsInt (text : Bytes) (value : Int) : Prop := IsInteger text value ∧ FitsInt value

/-- A number that an `int` holds, and something behind it. -/
def GoesOn (text : Bytes) : Prop :=
  ∃ (numeral : Numeral) (rest : Bytes), text = numeral.text ++ rest ∧ EndsNumber rest ∧
    rest ≠ [] ∧ FitsInt numeral.value

/-- The handler does what its UPDATE with this number does, and says so. -/
def RunsUpdate (command : NumberCommand) (table : Table) (client : Nat) (name expr text : Bytes)
    (st : State Db) (value : Int) : Prop :=
  command.handler host table client [name, expr, text] st
    = answerChanges client
        (dbUpdateExpr host.sqlite st.allowed table (command.stmt value) expr st.db) st

/-- The handler fails with one ACK and does not touch the database. -/
def Refuses (command : NumberCommand) (table : Table) (client : Nat) (name expr text : Bytes)
    (st : State Db) : Prop :=
  ∃ next message, command.handler host table client [name, expr, text] st = .ok (.error, next) ∧
    next.db = st.db ∧
    next.output = Function.update st.output client
      (st.output client ++ (ackLine ackErrorArg (st.currentCommand.getD []) message ++ [newline]))

end Handler

/-- The number is used exactly as it was written, or not at all. -/
def AllOrNothing (command : NumberCommand) (table : Table) (text : Bytes) : Prop :=
  ∀ (Db : Type) (host : Host Db) (client : Nat) (name expr current : Bytes) (st : State Db),
    st.currentCommand = some current →
      (∀ value, IsInt text value → RunsUpdate host command table client name expr text st value) ∧
      ((¬∃ value, IsInt text value) → Refuses host command table client name expr text st)

/-! ### The check -/

theorem clampLong_int (value : Int) (fits : FitsInt value) : clampLong value = value := by
  rcases fits with ⟨low, high⟩
  simp only [intMin, intMax] at low high
  exact clampLong_of_fits value (by omega) (by omega)

/-- The check does not ask whether the number is the whole text. -/
theorem numberArg_numeral (numeral : Numeral) (rest : Bytes) (ends : EndsNumber rest)
    (fits : FitsInt numeral.value) : numberArg (numeral.text ++ rest) = .ok numeral.value := by
  rw [numberArg, strtol_numeral numeral rest ends]
  dsimp only
  rw [if_neg (by simpa using clampLong_int _ fits), if_neg (numeral.text_append_ne rest), if_neg]
  rcases fits with ⟨low, high⟩
  omega

theorem numberArg_int (text : Bytes) (value : Int) (isInt : IsInt text value) :
    numberArg text = .ok value := by
  rcases isInt with ⟨⟨numeral, rfl, rfl⟩, fits⟩
  have accepted := numberArg_numeral numeral [] (by simp [EndsNumber]) fits
  rwa [List.append_nil] at accepted

theorem numberArg_none (text : Bytes) (unread : strtol text = (0, text)) :
    numberArg text = .error (lit "No digits found") := by
  rw [numberArg, unread]
  dsimp only
  rw [if_neg (by decide), if_pos rfl]

/-- A number is accepted at the start of the text, where an `int` holds it. -/
theorem numberArg_accepts (text : Bytes) (value : Int) :
    numberArg text = .ok value ↔ ∃ (numeral : Numeral) (rest : Bytes),
      text = numeral.text ++ rest ∧ EndsNumber rest ∧ numeral.value = value ∧ FitsInt value := by
  constructor
  · intro accepted
    rcases strtol_cases text with unread | ⟨numeral, rest, split, ends⟩
    · rw [numberArg_none text unread] at accepted
      cases accepted
    · have fits := numberArg_fits text value accepted
      have read : numeral.value = value := by
        rw [numberArg, split, strtol_numeral numeral rest ends] at accepted
        dsimp only at accepted
        grind
      exact ⟨numeral, rest, split, ends, read, fits⟩
  · intro starts
    rcases starts with ⟨numeral, rest, rfl, ends, rfl, fits⟩
    exact numberArg_numeral numeral rest ends fits

theorem goesOn_not_int (text : Bytes) (goesOn : GoesOn text) (value : Int) : ¬IsInt text value := by
  intro isInt
  rcases goesOn with ⟨numeral, rest, rfl, ends, more, _⟩
  have whole := ((isInteger_iff _ _).mp isInt.1).1
  rw [strtol_numeral numeral rest ends] at whole
  exact more (Prod.mk.inj whole).2

theorem goesOn_accepted (text : Bytes) (goesOn : GoesOn text) :
    ∃ value, numberArg text = .ok value := by
  rcases goesOn with ⟨numeral, rest, rfl, ends, _, fits⟩
  exact ⟨numeral.value, numberArg_numeral numeral rest ends fits⟩

/-- Everything else that is accepted is a number as a whole. -/
theorem accepted_int (text : Bytes) (value : Int) (accepted : numberArg text = .ok value)
    (ends : ¬GoesOn text) : IsInt text value := by
  rcases (numberArg_accepts text value).mp accepted with ⟨numeral, rest, split, stops, rfl, fits⟩
  have none : rest = [] := by
    by_contra more
    exact ends ⟨numeral, rest, split, stops, more, fits⟩
  exact ⟨⟨numeral, by rw [split, none, List.append_nil], rfl⟩, fits⟩

/-! ### The handlers -/

section Handler

variable {Db : Type} (host : Host Db) (command : NumberCommand) (table : Table) (client : Nat)
  (name expr text : Bytes) (st : State Db)

theorem runsUpdate_accepted (value : Int) (accepted : numberArg text = .ok value) :
    RunsUpdate host command table client name expr text st value := by
  rw [RunsUpdate, numberHandler_eq, handleNumber, accepted]

theorem refuses_rejected (current message : Bytes) (running : st.currentCommand = some current)
    (rejected : numberArg text = .error message) :
    Refuses host command table client name expr text st := by
  refine ⟨(Reply.refused st.db message).after client current st, message, ?_, rfl, ?_⟩
  · rw [numberHandler_eq, handleNumber, rejected]
    exact refused_eq client message st current running
  · rw [running]
    simp [Reply.after, Reply.refused, Reply.finalLine, sent]

end Handler

/-- With the small engine the UPDATE of an accepted number succeeds. -/
theorem small_runs (command : NumberCommand) (table : Table) (text : Bytes) (value id : Int)
    (current : Bytes) (db : Small) (accepted : numberArg text = .ok value) :
    ∃ next, command.handler smallHost table 0 [current, idExpr id, text]
      { smallState db with currentCommand := some current } = .ok (.ok, next) := by
  have ran := runsUpdate_accepted smallHost command table 0 current (idExpr id) text
    { smallState db with currentCommand := some current } value accepted
  have updated : ∃ changes after, dbUpdateExpr smallHost.sqlite (fun _ => true) table
      (command.stmt value) (idExpr id) db = (.ok changes, after) := by
    cases command with
    | count => exact ⟨_, _, Except.ok.inj (small_change (.count table value) trivial trivial id db)⟩
    | rate => exact ⟨_, _, Except.ok.inj (small_change (.rate table value) trivial trivial id db)⟩
    | rateAbsolute =>
        exact ⟨_, _, Except.ok.inj (small_change (.rateAbsolute table value) trivial trivial id db)⟩
  rcases updated with ⟨changes, after, result⟩
  have answered := congrArg (fun result => answerChanges 0 result
    { smallState db with currentCommand := some current }) result
  exact ⟨_, ran.trans answered⟩

theorem not_allOrNothing (command : NumberCommand) (table : Table) (text : Bytes)
    (goesOn : GoesOn text) : ¬AllOrNothing command table text := by
  intro whole
  rcases goesOn_accepted text goesOn with ⟨value, accepted⟩
  rcases small_runs command table text value 1 (lit "count") playedOnce accepted with ⟨next, ran⟩
  have refused := (whole Small smallHost 0 (lit "count") (idExpr 1) (lit "count")
    { smallState playedOnce with currentCommand := some (lit "count") } rfl).2
    fun isInt => isInt.elim (goesOn_not_int text goesOn)
  rcases refused with ⟨other, message, failed, _⟩
  rw [ran] at failed
  cases failed

/-- The argument is all or nothing, unless it is a number that goes on: then the start of it is
used. -/
theorem allOrNothing_iff (command : NumberCommand) (table : Table) (text : Bytes) :
    AllOrNothing command table text ↔ ¬GoesOn text := by
  constructor
  · intro whole goesOn
    exact not_allOrNothing command table text goesOn whole
  · intro ends Db host client name expr current st running
    constructor
    · intro value isInt
      exact runsUpdate_accepted host command table client name expr text st value
        (numberArg_int text value isInt)
    · intro noInt
      cases checked : numberArg text with
      | error message =>
          exact refuses_rejected host command table client name expr text st current message running
            checked
      | ok value => exact absurd ⟨value, accepted_int text value checked ends⟩ noInt

theorem twelve_digits : ∀ ch ∈ lit "12", isDigit ch = true := by decide +kernel

def twelve : Numeral where
  blanks := []
  sign := .none
  digits := lit "12"
  blank _ mem := absurd mem List.not_mem_nil
  digit := twelve_digits
  nonempty := List.cons_ne_nil _ _

theorem twelve_goesOn : GoesOn (lit "12abc") := by
  refine ⟨twelve, lit "abc", rfl, ?_, by decide, by decide, by decide⟩
  intro ch first
  cases first
  rfl

/-- `count … 12abc` counts twelve plays. -/
theorem twelve_counted : ¬AllOrNothing .count .song (lit "12abc") :=
  not_allOrNothing .count .song (lit "12abc") twelve_goesOn

end Mpdcron.Stats
