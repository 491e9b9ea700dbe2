import Mathlib.Data.List.Count
import Mathlib.Data.List.Nodup
import Mathlib.Data.Prod.Basic
import Mathlib.Logic.Function.Basic

/-! Programs that run statements on a shared store: one of them alone, two of them in turns, and
programs over a family of stores, where the turns at one store do not matter to the others. -/

/-- A program that runs a statement and goes on with its answer, until it ends. -/
inductive Script (σ ρ α : Type) where
  | ret (value : α)
  | step (stmt : σ) (next : ρ → Script σ ρ α)

namespace Script

variable {σ ρ α β γ δ : Type}

def bind (program : Script σ ρ α) (rest : α → Script σ ρ β) : Script σ ρ β :=
  match program with
  | .ret value => rest value
  | .step stmt next => .step stmt fun answer => (next answer).bind rest

instance : Monad (Script σ ρ) where
  pure := ret
  bind := bind

def call (stmt : σ) : Script σ ρ ρ := .step stmt .ret

theorem bind_assoc (program : Script σ ρ α) (rest : α → Script σ ρ β)
    (last : β → Script σ ρ γ) :
    (program.bind rest).bind last = program.bind fun value => (rest value).bind last := by
  induction program with
  | ret value => rfl
  | step stmt next ih =>
      simp only [bind]
      exact congrArg (Script.step stmt) (funext ih)

theorem bind_eq (program : Script σ ρ α) (rest : α → Script σ ρ β) :
    (program >>= rest) = program.bind rest := rfl

theorem ret_bind (value : α) (rest : α → Script σ ρ β) :
    (ret value : Script σ ρ α).bind rest = rest value := rfl

theorem bind_ret (program : Script σ ρ α) : program.bind ret = program := by
  induction program with
  | ret value => rfl
  | step stmt next ih =>
      simp only [bind]
      exact congrArg (Script.step stmt) (funext ih)

/-- The value of a run, `none` if a statement failed, and the store after it. -/
def run (exec : σ → δ → Option (ρ × δ)) : Script σ ρ α → δ → Option α × δ
  | .ret value, store => (some value, store)
  | .step stmt next, store =>
      match exec stmt store with
      | none => (none, store)
      | some (answer, store) => (next answer).run exec store

theorem run_bind (exec : σ → δ → Option (ρ × δ)) (program : Script σ ρ α)
    (rest : α → Script σ ρ β) : ∀ store : δ,
    (program.bind rest).run exec store = match program.run exec store with
      | (none, store) => (none, store)
      | (some value, store) => (rest value).run exec store := by
  induction program with
  | ret value => exact fun store => rfl
  | step stmt next ih =>
      intro store
      simp only [bind, run]
      cases exec stmt store with
      | none => rfl
      | some after => exact ih after.1 after.2

/-- The statements for a program that makes something else of their answers, and stops where it
makes nothing of them. -/
def readAs {ρ' : Type} (read : ρ → Option ρ') (exec : σ → δ → Option (ρ × δ)) (stmt : σ)
    (store : δ) : Option (ρ' × δ) :=
  (exec stmt store).bind fun after => (read after.1).map fun answer => (answer, after.2)

/-- The value of a run or the reason that a statement failed for, and the store after it: here a
statement may change the store also where it fails. -/
def attempt {ε : Type} (exec : σ → δ → Except ε ρ × δ) : Script σ ρ α → δ → Except ε α × δ
  | .ret value, store => (.ok value, store)
  | .step stmt next, store =>
      match exec stmt store with
      | (.error reason, store) => (.error reason, store)
      | (.ok answer, store) => (next answer).attempt exec store

/-- What statements that succeed keep holds when a statement fails. -/
theorem attempt_error {ε : Type} (exec : σ → δ → Except ε ρ × δ) (inv : δ → Prop)
    (keeps : ∀ stmt store answer after, inv store → exec stmt store = (.ok answer, after) → inv after)
    (program : Script σ ρ α) : ∀ (store : δ) (reason : ε) (final : δ), inv store →
    program.attempt exec store = (.error reason, final) →
    ∃ stmt before, inv before ∧ exec stmt before = (.error reason, final) := by
  induction program with
  | ret value =>
      intro store reason final _ failed
      cases failed
  | step stmt next ih =>
      intro store reason final holds failed
      rw [attempt] at failed
      rcases executed : exec stmt store with ⟨_ | answer, after⟩
      · rw [executed] at failed
        cases failed
        exact ⟨stmt, store, holds, executed⟩
      · rw [executed] at failed
        exact ih answer after reason final (keeps stmt store answer after holds executed) failed

/-! ### Two programs on one store -/

inductive Side where
  | left
  | right
  deriving DecidableEq, Repr

def Side.other : Side → Side
  | .left => .right
  | .right => .left

def both (left right : α) : Side → α
  | .left => left
  | .right => right

theorem update_both_left (left right value : α) :
    Function.update (both left right) .left value = both value right := by
  funext side
  cases side <;> rfl

theorem update_both_right (left right value : α) :
    Function.update (both left right) .right value = both left value := by
  funext side
  cases side <;> rfl

theorem both_eta (pair : Side → α) : both (pair .left) (pair .right) = pair := by
  funext side
  cases side <;> rfl

/-- The programs take the turns of the schedule, where the turn of a program that has ended is
passed over. After the schedule the left one runs to its end and then the right one; after a
failure of one program the other runs to its end. -/
def interleave (exec : σ → δ → Option (ρ × δ)) :
    List Side → (Side → Script σ ρ α) → δ → (Side → Option α) × δ
  | [], programs, store =>
      let (left, store) := (programs .left).run exec store
      let (right, store) := (programs .right).run exec store
      (both left right, store)
  | side :: schedule, programs, store =>
      match programs side with
      | .ret _ => interleave exec schedule programs store
      | .step stmt next =>
          match exec stmt store with
          | none =>
              let (value, store) := (programs side.other).run exec store
              (Function.update (fun _ => value) side none, store)
          | some (answer, store) =>
              interleave exec schedule (Function.update programs side (next answer)) store

/-- The turns that are not passed over, with what the two sides do in them. -/
def weave {τ : Type} : List Side → (Side → List τ) → List (Side × τ)
  | [], labels => (labels .left).map (.left, ·) ++ (labels .right).map (.right, ·)
  | side :: schedule, labels =>
      match labels side with
      | [] => weave schedule labels
      | label :: later => (side, label) :: weave schedule (Function.update labels side later)

theorem interleave_ended (exec : σ → δ → Option (ρ × δ)) (side : Side) (schedule : List Side)
    (programs : Side → Script σ ρ α) (store : δ) (value : α) (ended : programs side = .ret value) :
    interleave exec (side :: schedule) programs store = interleave exec schedule programs store := by
  simp only [interleave, ended]

theorem weave_ended {τ : Type} (side : Side) (schedule : List Side) (labels : Side → List τ)
    (ended : labels side = []) : weave (side :: schedule) labels = weave schedule labels := by
  simp only [weave, ended]

theorem weave_turn {τ : Type} (side : Side) (schedule : List Side) (labels : Side → List τ)
    (label : τ) (later : List τ) (labelled : labels side = label :: later) :
    weave (side :: schedule) labels
      = (side, label) :: weave schedule (Function.update labels side later) := by
  simp only [weave, labelled]

/-- A weave has the turns of each side. -/
theorem count_weave {τ : Type} [DecidableEq τ] (side : Side) (label : τ) (schedule : List Side) :
    ∀ labels : Side → List τ,
    (weave schedule labels).count (side, label) = (labels side).count label := by
  induction schedule with
  | nil =>
      intro labels
      have mine (side : Side) (own : List τ) :
          (own.map (side, ·)).count (side, label) = own.count label :=
        List.count_map_of_injective own _ (Prod.mk_right_injective side) label
      have others (side other : Side) (differs : other ≠ side) (own : List τ) :
          (own.map (other, ·)).count (side, label) = 0 :=
        List.count_eq_zero.mpr (by simp [differs])
      rw [weave, List.count_append]
      cases side with
      | left => rw [mine, others .left .right (by decide), Nat.add_zero]
      | right => rw [mine, others .right .left (by decide), Nat.zero_add]
  | cons first schedule ih =>
      intro labels
      cases labelled : labels first with
      | nil => rw [weave_ended first schedule labels labelled, ih]
      | cons head later =>
          rw [weave_turn first schedule labels head later labelled, List.count_cons, ih]
          by_cases same : side = first
          · subst same
            rw [labelled, Function.update_self, List.count_cons]
            congr 1
            by_cases mine : head = label <;> simp [mine]
          · simp [same, Ne.symm same]

/-- Where the schedule ends, it is the turn of the left program. -/
theorem interleave_nil_left (exec : σ → δ → Option (ρ × δ)) (programs : Side → Script σ ρ α)
    (store : δ) : interleave exec [] programs store = interleave exec [.left] programs store := by
  cases first : programs .left with
  | ret value => rw [interleave_ended exec .left [] programs store value first]
  | step stmt next =>
      simp only [interleave, first, run]
      cases exec stmt store with
      | none =>
          rw [← update_both_left ((programs .right).run exec store).1]
          congr 1
          congr 1
          funext side
          cases side <;> rfl
      | some after => rfl

theorem weave_nil_left {τ : Type} (labels : Side → List τ) :
    weave [] labels = weave [.left] labels := by
  cases first : labels .left with
  | nil => rw [weave_ended .left [] labels first]
  | cons label later => simp [weave, first]

/-- And where the left program has ended, the turn of the right one. -/
theorem interleave_nil_right (exec : σ → δ → Option (ρ × δ)) (programs : Side → Script σ ρ α)
    (store : δ) (value : α) (ended : programs .left = .ret value) :
    interleave exec [] programs store = interleave exec [.right] programs store := by
  cases first : programs .right with
  | ret value => rw [interleave_ended exec .right [] programs store value first]
  | step stmt next =>
      simp only [interleave, first, run, ended, Side.other]
      cases exec stmt store with
      | none =>
          congr 1
          funext side
          cases side <;> rfl
      | some after => simp [Function.update, ended, run]

theorem weave_nil_right {τ : Type} (labels : Side → List τ) (ended : labels .left = []) :
    weave [] labels = weave [.right] labels := by
  cases first : labels .right with
  | nil => rw [weave_ended .right [] labels first]
  | cons label later => simp [weave, first, ended]

/-- Both programs end without a failure and leave this store. -/
def Completes (exec : σ → δ → Option (ρ × δ)) (schedule : List Side)
    (programs : Side → Script σ ρ Unit) (store final : δ) : Prop :=
  interleave exec schedule programs store = (fun _ => some (), final)

theorem completes_step (exec : σ → δ → Option (ρ × δ)) (side : Side) (schedule : List Side)
    (programs : Side → Script σ ρ Unit) (store final : δ) (stmt : σ) (next : ρ → Script σ ρ Unit)
    (first : programs side = .step stmt next) :
    Completes exec (side :: schedule) programs store final ↔
      ∃ answer after, exec stmt store = some (answer, after) ∧
        Completes exec schedule (Function.update programs side (next answer)) after final := by
  simp only [Completes, interleave, first]
  cases executed : exec stmt store with
  | none =>
      constructor
      · intro done
        have failed := congrFun (congrArg Prod.fst done) side
        dsimp only at failed
        rw [Function.update_self] at failed
        cases failed
      · rintro ⟨answer, after, impossible, _⟩
        cases impossible
  | some result =>
      constructor
      · exact fun done => ⟨result.1, result.2, rfl, done⟩
      · rintro ⟨answer, after, same, done⟩
        cases same
        exact done

theorem completes_left (exec : σ → δ → Option (ρ × δ)) (turns : List Side) (stmt : σ)
    (next : ρ → Script σ ρ Unit) (other : Script σ ρ Unit) (store final : δ) :
    Completes exec (.left :: turns) (both (.step stmt next) other) store final ↔
      ∃ answer after, exec stmt store = some (answer, after) ∧
        Completes exec turns (both (next answer) other) after final := by
  rw [completes_step exec .left turns _ store final stmt next rfl]
  simp only [update_both_left]

theorem completes_right (exec : σ → δ → Option (ρ × δ)) (turns : List Side) (stmt : σ)
    (next : ρ → Script σ ρ Unit) (other : Script σ ρ Unit) (store final : δ) :
    Completes exec (.right :: turns) (both other (.step stmt next)) store final ↔
      ∃ answer after, exec stmt store = some (answer, after) ∧
        Completes exec turns (both other (next answer)) after final := by
  rw [completes_step exec .right turns _ store final stmt next rfl]
  simp only [update_both_right]

theorem completes_ended (exec : σ → δ → Option (ρ × δ)) (store final : δ) :
    Completes exec [] (both (.ret ()) (.ret ())) store final ↔ final = store := by
  have results : (both (some ()) (some ()) : Side → Option Unit) = fun _ => some () := by
    funext side
    cases side <;> rfl
  simp only [Completes, interleave, both, run, results, Prod.mk.injEq, true_and]
  exact eq_comm

/-! ### A family of stores -/

section Family

variable {ι : Type} [DecidableEq ι] {σ S : ι → Type} (exec : ∀ i, σ i → S i → Option (ρ × S i))

/-- A statement on one store of the family. -/
def execAt (stmt : Σ i, σ i) (stores : ∀ i, S i) : Option (ρ × ∀ i, S i) :=
  (exec stmt.1 stmt.2 (stores stmt.1)).map fun after =>
    (after.1, Function.update stores stmt.1 after.2)

theorem readAs_execAt {ρ' : Type} (read : ρ → Option ρ') :
    readAs read (execAt exec) = execAt fun i => readAs read (exec i) := by
  funext stmt stores
  rw [readAs, execAt, execAt, readAs]
  cases exec stmt.1 stmt.2 (stores stmt.1) with
  | none => rfl
  | some after =>
      simp only [Option.map_some, Option.bind_some]
      cases read after.1 <;> rfl

/-- The program runs the statements of the programs of the family, in the order of the labels. -/
inductive Follows : List ι → Script (Σ i, σ i) ρ Unit → ((i : ι) → Script (σ i) ρ Unit) → Prop
  | done (parts : (i : ι) → Script (σ i) ρ Unit) (ended : ∀ i, parts i = .ret ()) :
      Follows [] (.ret ()) parts
  | step (i : ι) (labels : List ι) (stmt : σ i) (next : ρ → Script (σ i) ρ Unit)
      (whole : ρ → Script (Σ i, σ i) ρ Unit) (parts : (i : ι) → Script (σ i) ρ Unit)
      (first : parts i = .step stmt next)
      (rest : ∀ answer, Follows labels (whole answer) (Function.update parts i (next answer))) :
      Follows (i :: labels) (.step ⟨i, stmt⟩ whole) parts

theorem Follows.ended {labels : List ι} {program : Script (Σ i, σ i) ρ Unit}
    {parts : (i : ι) → Script (σ i) ρ Unit} (follows : Follows labels program parts)
    (none : labels = []) : program = .ret () := by
  cases follows with
  | done _ _ => rfl
  | step _ _ _ _ _ _ _ _ => cases none

def turnsAt (i : ι) (turns : List (Side × ι)) : List Side :=
  (turns.filter fun turn => turn.2 = i).map Prod.fst

theorem turnsAt_same (side : Side) (i : ι) (turns : List (Side × ι)) :
    turnsAt i ((side, i) :: turns) = side :: turnsAt i turns := by
  simp [turnsAt]

theorem turnsAt_other (side : Side) (i j : ι) (turns : List (Side × ι)) (differs : i ≠ j) :
    turnsAt j ((side, i) :: turns) = turnsAt j turns := by
  simp [turnsAt, differs]

theorem count_turnsAt (i : ι) (side : Side) (turns : List (Side × ι)) :
    (turnsAt i turns).count side = turns.count (side, i) := by
  induction turns with
  | nil => rfl
  | cons turn turns ih =>
      rcases turn with ⟨first, j⟩
      by_cases same : j = i
      · subst same
        rw [turnsAt_same, List.count_cons, List.count_cons, ih]
        congr 1
        by_cases mine : first = side <;> simp [mine]
      · rw [turnsAt_other first j i turns same, List.count_cons, ih]
        simp [same]

/-- The programs of both sides on one store of the family. -/
def partsAt (parts : Side → (i : ι) → Script (σ i) ρ Unit) (i : ι) : Side → Script (σ i) ρ Unit :=
  fun side => parts side i

theorem partsAt_same (parts : Side → (i : ι) → Script (σ i) ρ Unit) (side : Side) (i : ι)
    (part : Script (σ i) ρ Unit) :
    partsAt (Function.update parts side (Function.update (parts side) i part)) i
      = Function.update (partsAt parts i) side part := by
  funext other
  by_cases same : other = side
  · subst same
    simp [partsAt]
  · simp [partsAt, same]

theorem partsAt_other (parts : Side → (i : ι) → Script (σ i) ρ Unit) (side : Side) (i j : ι)
    (part : Script (σ i) ρ Unit) (differs : i ≠ j) :
    partsAt (Function.update parts side (Function.update (parts side) i part)) j
      = partsAt parts j := by
  funext other
  by_cases same : other = side
  · subst same
    simp [partsAt, Ne.symm differs]
  · simp [partsAt, same]

/-- Both programs on every store of the family complete, in the turns they have there. -/
def CompletesEach (turns : List (Side × ι)) (parts : Side → (i : ι) → Script (σ i) ρ Unit)
    (stores final : ∀ i, S i) : Prop :=
  ∀ i, Completes (exec i) (turnsAt i turns) (partsAt parts i) (stores i) (final i)

theorem completesEach_step (side : Side) (i : ι) (turns : List (Side × ι))
    (parts : Side → (i : ι) → Script (σ i) ρ Unit) (stores final : ∀ i, S i) (stmt : σ i)
    (next : ρ → Script (σ i) ρ Unit) (first : parts side i = .step stmt next) :
    CompletesEach exec ((side, i) :: turns) parts stores final ↔
      ∃ answer after, exec i stmt (stores i) = some (answer, after) ∧
        CompletesEach exec turns
          (Function.update parts side (Function.update (parts side) i (next answer)))
          (Function.update stores i after) final := by
  have atI := completes_step (exec i) side (turnsAt i turns) (partsAt parts i) (stores i)
    (final i) stmt next first
  constructor
  · intro each
    have here := each i
    rw [turnsAt_same, atI] at here
    rcases here with ⟨answer, after, executed, rest⟩
    refine ⟨answer, after, executed, ?_⟩
    intro j
    by_cases same : i = j
    · subst same
      rw [partsAt_same, Function.update_self]
      exact rest
    · have there := each j
      rw [turnsAt_other side i j turns same] at there
      rw [partsAt_other parts side i j _ same, Function.update_of_ne (Ne.symm same)]
      exact there
  · rintro ⟨answer, after, executed, each⟩ j
    by_cases same : i = j
    · subst same
      have here := each i
      rw [partsAt_same, Function.update_self] at here
      rw [turnsAt_same, atI]
      exact ⟨answer, after, executed, here⟩
    · have there := each j
      rw [partsAt_other parts side i j _ same, Function.update_of_ne (Ne.symm same)] at there
      rw [turnsAt_other side i j turns same]
      exact there

/-- A step of one side, on the whole and on the store it is about. -/
theorem completes_follows_step (side : Side) (schedule : List Side) (i : ι)
    (labels : Side → List ι) (later : List ι) (programs : Side → Script (Σ i, σ i) ρ Unit)
    (parts : Side → (i : ι) → Script (σ i) ρ Unit) (stores final : ∀ i, S i) (stmt : σ i)
    (next : ρ → Script (σ i) ρ Unit) (whole : ρ → Script (Σ i, σ i) ρ Unit)
    (labelled : labels side = i :: later) (program : programs side = .step ⟨i, stmt⟩ whole)
    (part : parts side i = .step stmt next)
    (rest : ∀ answer after,
      Completes (execAt exec) schedule (Function.update programs side (whole answer))
          (Function.update stores i after) final ↔
        CompletesEach exec (weave schedule (Function.update labels side later))
          (Function.update parts side (Function.update (parts side) i (next answer)))
          (Function.update stores i after) final) :
    Completes (execAt exec) (side :: schedule) programs stores final ↔
      CompletesEach exec (weave (side :: schedule) labels) parts stores final := by
  rw [weave_turn side schedule labels i later labelled,
    completesEach_step exec side i _ parts stores final stmt next part,
    completes_step (execAt exec) side schedule programs stores final ⟨i, stmt⟩ whole program]
  constructor
  · rintro ⟨answer, after, executed, done⟩
    rcases Option.map_eq_some_iff.mp executed with ⟨⟨reply, store⟩, here, same⟩
    cases same
    exact ⟨reply, store, here, (rest reply store).mp done⟩
  · rintro ⟨answer, after, executed, done⟩
    refine ⟨answer, _, ?_, (rest answer after).mpr done⟩
    simp [execAt, executed]

theorem follows_update (side : Side) {labels : Side → List ι}
    {programs : Side → Script (Σ i, σ i) ρ Unit} {parts : Side → (i : ι) → Script (σ i) ρ Unit}
    (follows : ∀ side, Follows (labels side) (programs side) (parts side)) {later : List ι}
    {program : Script (Σ i, σ i) ρ Unit} {part : (i : ι) → Script (σ i) ρ Unit}
    (changed : Follows later program part) (other : Side) :
    Follows (Function.update labels side later other) (Function.update programs side program other)
      (Function.update parts side part other) := by
  by_cases same : other = side
  · subst same
    simpa using changed
  · simpa [same] using follows other

theorem completes_nil (labels : Side → List ι) (programs : Side → Script (Σ i, σ i) ρ Unit)
    (parts : Side → (i : ι) → Script (σ i) ρ Unit) (stores final : ∀ i, S i)
    (follows : ∀ side, Follows (labels side) (programs side) (parts side))
    (none : ∀ side, labels side = []) :
    Completes (execAt exec) [] programs stores final ↔
      CompletesEach exec (weave [] labels) parts stores final := by
  have ended (side : Side) : programs side = .ret () ∧ ∀ i, parts side i = .ret () := by
    have whole := follows side
    rw [none side] at whole
    cases program : programs side with
    | step stmt next =>
        rw [program] at whole
        cases whole
    | ret value =>
        rw [program] at whole
        cases whole with
        | done _ ended => exact ⟨rfl, ended⟩
  have results : (both (some ()) (some ()) : Side → Option Unit) = fun _ => some () := by
    funext side
    cases side <;> rfl
  simp only [Completes, CompletesEach, weave, none, interleave, partsAt, (ended _).1,
    (ended _).2, run, results, Prod.mk.injEq, true_and, List.map_nil, List.append_nil, turnsAt,
    List.filter_nil]
  exact funext_iff

/-- What is to be shown of the turns after one that is not passed over. -/
theorem completes_turn (side : Side) (schedule : List Side) (i : ι) (later : List ι)
    (labels : Side → List ι) (programs : Side → Script (Σ i, σ i) ρ Unit)
    (parts : Side → (i : ι) → Script (σ i) ρ Unit) (stores final : ∀ i, S i)
    (follows : ∀ side, Follows (labels side) (programs side) (parts side))
    (labelled : labels side = i :: later)
    (rest : ∀ (programs : Side → Script (Σ i, σ i) ρ Unit)
      (parts : Side → (i : ι) → Script (σ i) ρ Unit) (stores : ∀ i, S i),
      (∀ other, Follows (Function.update labels side later other) (programs other)
        (parts other)) →
      (Completes (execAt exec) schedule programs stores final ↔
        CompletesEach exec (weave schedule (Function.update labels side later)) parts stores
          final)) :
    Completes (execAt exec) (side :: schedule) programs stores final ↔
      CompletesEach exec (weave (side :: schedule) labels) parts stores final := by
  have mine := follows side
  rw [labelled] at mine
  generalize program : programs side = body at mine
  generalize part : parts side = pieces at mine
  cases mine with
  | step _ _ stmt next whole _ first after =>
      rw [← part] at first after
      apply completes_follows_step exec side schedule i labels later programs parts stores final
        stmt next whole labelled program first
      intro answer store
      exact rest _ _ _ (follows_update side follows (after answer))

theorem completes_after (count : Nat) : ∀ (labels : Side → List ι)
    (programs : Side → Script (Σ i, σ i) ρ Unit) (parts : Side → (i : ι) → Script (σ i) ρ Unit)
    (stores final : ∀ i, S i),
    (labels .left).length + (labels .right).length = count →
    (∀ side, Follows (labels side) (programs side) (parts side)) →
    (Completes (execAt exec) [] programs stores final ↔
      CompletesEach exec (weave [] labels) parts stores final) := by
  induction count with
  | zero =>
      intro labels programs parts stores final counted follows
      apply completes_nil exec labels programs parts stores final follows
      intro side
      cases side <;> exact List.length_eq_zero_iff.mp (by omega)
  | succ count ih =>
      intro labels programs parts stores final counted follows
      cases leftLabels : labels .left with
      | cons i later =>
          rw [weave_nil_left, Completes, interleave_nil_left, ← Completes]
          apply completes_turn exec .left [] i later labels programs parts stores final follows
            leftLabels
          intro programs parts stores follows
          apply ih _ _ _ _ _ _ follows
          rw [leftLabels, List.length_cons] at counted
          simp only [Function.update_self, Function.update_of_ne, ne_eq, reduceCtorEq,
            not_false_eq_true]
          omega
      | nil =>
          cases rightLabels : labels .right with
          | nil =>
              rw [leftLabels, rightLabels] at counted
              cases counted
          | cons i later =>
              have ended := (follows .left).ended leftLabels
              rw [weave_nil_right labels leftLabels, Completes,
                interleave_nil_right _ _ _ () ended, ← Completes]
              apply completes_turn exec .right [] i later labels programs parts stores final
                follows rightLabels
              intro programs parts stores follows
              apply ih _ _ _ _ _ _ follows
              rw [leftLabels, rightLabels, List.length_cons] at counted
              simp only [Function.update_self, Function.update_of_ne, ne_eq, reduceCtorEq,
                not_false_eq_true, leftLabels, List.length_nil] at counted ⊢
              omega

/-- The programs complete on the whole family if and only if they do on every store of it. -/
theorem completes_iff_each (schedule : List Side) : ∀ (labels : Side → List ι)
    (programs : Side → Script (Σ i, σ i) ρ Unit) (parts : Side → (i : ι) → Script (σ i) ρ Unit)
    (stores final : ∀ i, S i),
    (∀ side, Follows (labels side) (programs side) (parts side)) →
    (Completes (execAt exec) schedule programs stores final ↔
      CompletesEach exec (weave schedule labels) parts stores final) := by
  induction schedule with
  | nil =>
      intro labels programs parts stores final follows
      exact completes_after exec _ labels programs parts stores final rfl follows
  | cons side schedule ih =>
      intro labels programs parts stores final follows
      cases labelled : labels side with
      | cons i later =>
          apply completes_turn exec side schedule i later labels programs parts stores final
            follows labelled
          exact fun programs parts stores follows => ih _ programs parts stores final follows
      | nil =>
          have ended : programs side = .ret () := (follows side).ended labelled
          rw [weave_ended side schedule labels labelled, ← ih labels programs parts stores final
            follows, Completes, Completes,
            interleave_ended (execAt exec) side schedule programs stores () ended]

/-! ### One store after the other -/

def lift (i : ι) : Script (σ i) ρ α → Script (Σ i, σ i) ρ α
  | .ret value => .ret value
  | .step stmt next => .step ⟨i, stmt⟩ fun answer => lift i (next answer)

/-- The programs of these stores, one after the other. -/
def chain (parts : (i : ι) → Script (σ i) ρ Unit) : List ι → Script (Σ i, σ i) ρ Unit
  | [] => .ret ()
  | i :: later => (lift i (parts i)).bind fun _ => chain parts later

/-- A program that runs this many statements, whatever their answers are. -/
def Steady {σ : Type} : Nat → Script σ ρ Unit → Prop
  | 0, .ret _ => True
  | count + 1, .step _ next => ∀ answer, Steady count (next answer)
  | _, _ => False

omit [DecidableEq ι] in
theorem chain_congr {parts others : (i : ι) → Script (σ i) ρ Unit} (labels : List ι)
    (same : ∀ i ∈ labels, parts i = others i) : chain parts labels = chain others labels := by
  induction labels with
  | nil => rfl
  | cons i labels ih =>
      rw [chain, chain, same i List.mem_cons_self,
        ih fun j member => same j (List.mem_cons_of_mem _ member)]

theorem follows_lift (i : ι) (labels : List ι) (whole : Script (Σ i, σ i) ρ Unit) (count : Nat) :
    ∀ (part : Script (σ i) ρ Unit) (parts : (i : ι) → Script (σ i) ρ Unit), parts i = part →
    Steady count part → Follows labels whole (Function.update parts i (.ret ())) →
    Follows (List.replicate count i ++ labels) ((lift i part).bind fun _ => whole) parts := by
  induction count with
  | zero =>
      intro part parts same steady rest
      cases part with
      | step stmt next => cases steady
      | ret value =>
          rw [← same, Function.update_eq_self] at rest
          exact rest
  | succ count ih =>
      intro part parts same steady rest
      cases part with
      | ret value => cases steady
      | step stmt next =>
          apply Follows.step i _ stmt next _ parts same
          intro answer
          apply ih (next answer) _ (Function.update_self ..) (steady answer)
          rw [Function.update_idem]
          exact rest

/-- A chain runs the statements of one store after those of the other. -/
theorem follows_chain (counts : ι → Nat) (labels : List ι) :
    ∀ parts : (i : ι) → Script (σ i) ρ Unit, labels.Nodup → (∀ i ∉ labels, parts i = .ret ()) →
    (∀ i ∈ labels, Steady (counts i) (parts i)) →
    Follows (labels.flatMap fun i => List.replicate (counts i) i) (chain parts labels) parts := by
  induction labels with
  | nil => exact fun parts _ others _ => .done parts fun i => others i List.not_mem_nil
  | cons i labels ih =>
      intro parts nodup others steady
      rcases List.nodup_cons.mp nodup with ⟨fresh, nodup⟩
      have differs (j : ι) (member : j ∈ labels) : j ≠ i := fun same => fresh (same ▸ member)
      have later : chain parts labels = chain (Function.update parts i (.ret ())) labels :=
        chain_congr labels fun j member => by rw [Function.update_of_ne (differs j member)]
      rw [List.flatMap_cons, chain, later]
      apply follows_lift i _ _ (counts i) (parts i) parts rfl (steady i List.mem_cons_self)
      apply ih _ nodup
      · intro j absent
        by_cases same : j = i
        · rw [same, Function.update_self]
        · rw [Function.update_of_ne same]
          exact others j fun member => (List.mem_cons.mp member).elim same absent
      · intro j member
        rw [Function.update_of_ne (differs j member)]
        exact steady j (List.mem_cons_of_mem _ member)

theorem run_lift (i : ι) (part : Script (σ i) ρ α) : ∀ stores : ∀ i, S i,
    (lift i part).run (execAt exec) stores
      = ((part.run (exec i) (stores i)).1,
          Function.update stores i (part.run (exec i) (stores i)).2) := by
  induction part with
  | ret value =>
      intro stores
      simp [lift, run]
  | step stmt next ih =>
      intro stores
      simp only [lift, run, execAt]
      cases exec i stmt (stores i) with
      | none => simp
      | some after =>
          simp only [Option.map_some, ih]
          simp

theorem run_chain_cons (parts : (i : ι) → Script (σ i) ρ Unit) (i : ι) (later : List ι)
    (stores : ∀ i, S i) :
    (chain parts (i :: later)).run (execAt exec) stores
      = match (parts i).run (exec i) (stores i) with
        | (none, store) => (none, Function.update stores i store)
        | (some (), store) =>
            (chain parts later).run (execAt exec) (Function.update stores i store) := by
  rw [chain, run_bind, run_lift]
  rcases (parts i).run (exec i) (stores i) with ⟨_ | value, store⟩ <;> rfl

/-- Statements that do the same in the runs of its programs do the same in a chain. -/
theorem run_chain_congr (other : ∀ i, σ i → S i → Option (ρ × S i))
    (parts : (i : ι) → Script (σ i) ρ Unit) (labels : List ι) : ∀ stores : ∀ i, S i, labels.Nodup →
    (∀ i ∈ labels, (parts i).run (exec i) (stores i) = (parts i).run (other i) (stores i)) →
    (chain parts labels).run (execAt exec) stores = (chain parts labels).run (execAt other) stores := by
  induction labels with
  | nil => exact fun _ _ _ => rfl
  | cons i labels ih =>
      intro stores nodup same
      rcases List.nodup_cons.mp nodup with ⟨fresh, nodup⟩
      rw [run_chain_cons, run_chain_cons, same i List.mem_cons_self]
      rcases (parts i).run (other i) (stores i) with ⟨_ | value, store⟩
      · rfl
      · apply ih _ nodup
        intro j member
        have differs : j ≠ i := fun isSame => fresh (isSame ▸ member)
        rw [Function.update_of_ne differs]
        exact same j (List.mem_cons_of_mem _ member)

/-- A chain of programs that do not fail does with every store what its program does with it. -/
theorem run_chain (parts : (i : ι) → Script (σ i) ρ Unit) (labels : List ι) :
    ∀ stores final : ∀ i, S i, labels.Nodup →
    (∀ i ∈ labels, (parts i).run (exec i) (stores i) = (some (), final i)) →
    (∀ i ∉ labels, final i = stores i) →
    (chain parts labels).run (execAt exec) stores = (some (), final) := by
  induction labels with
  | nil =>
      intro stores final _ _ others
      rw [chain, run, funext fun i => others i List.not_mem_nil]
  | cons i labels ih =>
      intro stores final nodup runs others
      rcases List.nodup_cons.mp nodup with ⟨fresh, nodup⟩
      have differs (j : ι) (member : j ∈ labels) : j ≠ i := fun same => fresh (same ▸ member)
      rw [run_chain_cons, runs i List.mem_cons_self]
      apply ih _ final nodup
      · intro j member
        rw [Function.update_of_ne (differs j member)]
        exact runs j (List.mem_cons_of_mem _ member)
      · intro j absent
        by_cases same : j = i
        · rw [same, Function.update_self]
        · rw [Function.update_of_ne same]
          exact others j fun member => (List.mem_cons.mp member).elim same absent

omit [DecidableEq ι] in
theorem chain_append (parts : (i : ι) → Script (σ i) ρ Unit) (first later : List ι) :
    chain parts (first ++ later) = (chain parts first).bind fun _ => chain parts later := by
  induction first with
  | nil => rfl
  | cons i first ih =>
      rw [List.cons_append, chain, chain, ih, bind_assoc]

/-- A chain ends at the first program that fails, and has done what came before. -/
theorem run_chain_stops (parts : (i : ι) → Script (σ i) ρ Unit) (before later : List ι) (i : ι)
    (stores final : ∀ i, S i) (nodup : (before ++ i :: later).Nodup)
    (runs : ∀ j ∈ before, (parts j).run (exec j) (stores j) = (some (), final j))
    (others : ∀ j ∉ before, final j = stores j)
    (fails : (parts i).run (exec i) (stores i) = (none, stores i)) :
    (chain parts (before ++ i :: later)).run (execAt exec) stores = (none, final) := by
  rcases List.nodup_append.mp nodup with ⟨first, _, apart⟩
  have fresh : i ∉ before := fun member => apart i member i List.mem_cons_self rfl
  rw [chain_append, run_bind, run_chain exec parts before stores final first runs others]
  dsimp only
  rw [run_chain_cons, others i fresh, fails]
  dsimp only
  rw [← others i fresh, Function.update_eq_self]

/-- What a program alone does with its store, and whether it ends. -/
def outcomeOf {δ : Type} (store : δ) : Option δ → Option Unit × δ
  | none => (none, store)
  | some after => (some (), after)

/-- The stores after the programs of these labels. -/
def doneAt (effect : ∀ i, Option (S i)) (labels : List ι) (stores : ∀ i, S i) (i : ι) : S i :=
  if i ∈ labels then (effect i).getD (stores i) else stores i

/-- A chain does what its programs do, up to the first that fails. -/
theorem run_chain_outcomes (parts : (i : ι) → Script (σ i) ρ Unit) (labels : List ι)
    (stores : ∀ i, S i) (effect : ∀ i, Option (S i)) (nodup : labels.Nodup)
    (runs : ∀ i ∈ labels, (parts i).run (exec i) (stores i) = outcomeOf (stores i) (effect i)) :
    (chain parts labels).run (execAt exec) stores
      = match labels.find? fun i => (effect i).isNone with
        | none => (some (), doneAt effect labels stores)
        | some stop => (none, doneAt effect (labels.takeWhile (· ≠ stop)) stores) := by
  have succeeds (i : ι) (member : i ∈ labels) (some : (effect i).isNone = false) (done : List ι)
      (isDone : i ∈ done) :
      (parts i).run (exec i) (stores i) = (Option.some (), doneAt effect done stores i) := by
    rw [runs i member, doneAt, if_pos isDone]
    cases result : effect i with
    | none => rw [result] at some; cases some
    | some after => rfl
  cases stops : labels.find? fun i => (effect i).isNone with
  | none =>
      apply run_chain exec parts labels stores _ nodup
      · intro i member
        have some := List.find?_eq_none.mp stops i member
        exact succeeds i member (Bool.eq_false_iff.mpr some) labels member
      · exact fun i absent => if_neg absent
  | some stop =>
      rcases List.find?_eq_some_iff_append.mp stops with ⟨fails, before, later, order, earlier⟩
      rw [order] at nodup
      have apart (i : ι) (member : i ∈ before) : i ≠ stop :=
        (List.nodup_append.mp nodup).2.2 i member stop List.mem_cons_self
      have done : labels.takeWhile (· ≠ stop) = before := by
        rw [order, List.takeWhile_append_of_pos (by simpa using apart)]
        simp
      dsimp only
      rw [done, order]
      apply run_chain_stops exec parts before later stop stores _ nodup
      · intro i member
        have inLabels : i ∈ labels := by rw [order]; exact List.mem_append_left _ member
        have some := earlier i member
        rw [Bool.not_eq_true'] at some
        exact succeeds i inLabels some before member
      · exact fun i absent => if_neg absent
      · have inLabels : stop ∈ labels := by
          rw [order]
          exact List.mem_append_right _ List.mem_cons_self
        rw [runs stop inLabels, Option.isNone_iff_eq_none.mp fails]
        rfl

end Family

end Script
