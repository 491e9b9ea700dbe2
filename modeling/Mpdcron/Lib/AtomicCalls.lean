import Mathlib.Logic.Function.Basic

/-! An object that clients call. A call is made, takes effect and returns in steps of their own,
with steps of others in between; over a whole run the calls take effect one after the other. -/

namespace Mpdcron.AtomicCalls

section Objects

variable {Client Call Answer State : Type}

/-- Where a client is in its call. -/
inductive Phase (Call Answer : Type) where
  | idle
  | called (call : Call)
  | answered (call : Call) (answer : Answer)

/-- The answer that the client has not read yet. -/
def Phase.pending : Phase Call Answer → List (Call × Answer)
  | .idle => []
  | .called _ => []
  | .answered call answer => [(call, answer)]

structure Shared (Client Call Answer State : Type) where
  object : State
  phase : Client → Phase Call Answer
  returned : Client → List (Call × Answer)

/-- What happens to the object: a call takes effect, or something that is no call. -/
inductive Effect (Client Call Answer : Type) where
  | call (client : Client) (call : Call) (answer : Answer)
  | other

variable (performs : Client → Call → State → Answer → State → Prop) (drifts : State → State → Prop)

/-- The effects one after the other, on the object alone. -/
inductive Sequential : State → List (Effect Client Call Answer) → State → Prop where
  | nil (object : State) : Sequential object [] object
  | call (client : Client) (call : Call) (answer : Answer) (object next final : State)
      (effects : List (Effect Client Call Answer))
      (first : performs client call object answer next)
      (rest : Sequential next effects final) :
      Sequential object (.call client call answer :: effects) final
  | other (object next final : State) (effects : List (Effect Client Call Answer))
      (first : drifts object next) (rest : Sequential next effects final) :
      Sequential object (.other :: effects) final

theorem Sequential.append {object middle final : State}
    {front back : List (Effect Client Call Answer)}
    (first : Sequential performs drifts object front middle)
    (second : Sequential performs drifts middle back final) :
    Sequential performs drifts object (front ++ back) final := by
  induction first with
  | nil object => exact second
  | call client call answer object next middle effects performed rest ih =>
      exact .call client call answer object next final _ performed (ih second)
  | other object next middle effects drifted rest ih =>
      exact .other object next final _ drifted (ih second)

variable [DecidableEq Client]

/-- The calls of one client and their answers, in the order in which they took effect. -/
def own (client : Client) (effects : List (Effect Client Call Answer)) : List (Call × Answer) :=
  effects.filterMap fun effect =>
    match effect with
    | .call sender call answer => if sender = client then some (call, answer) else none
    | .other => none

theorem own_append (client : Client) (front back : List (Effect Client Call Answer)) :
    own client (front ++ back) = own client front ++ own client back :=
  List.filterMap_append

/-- A call is made, takes effect or returns, the object changes by itself, or nothing happens. -/
inductive Step : Shared Client Call Answer State → List (Effect Client Call Answer) →
    Shared Client Call Answer State → Prop where
  | still (shared : Shared Client Call Answer State) : Step shared [] shared
  | make (shared : Shared Client Call Answer State) (client : Client) (call : Call)
      (idle : shared.phase client = .idle) :
      Step shared [] { shared with phase := Function.update shared.phase client (.called call) }
  | perform (shared : Shared Client Call Answer State) (client : Client) (call : Call)
      (answer : Answer) (next : State) (called : shared.phase client = .called call)
      (performed : performs client call shared.object answer next) :
      Step shared [.call client call answer]
        { shared with
          object := next
          phase := Function.update shared.phase client (.answered call answer) }
  | finish (shared : Shared Client Call Answer State) (client : Client) (call : Call)
      (answer : Answer) (answered : shared.phase client = .answered call answer) :
      Step shared []
        { shared with
          phase := Function.update shared.phase client .idle
          returned := Function.update shared.returned client
            (shared.returned client ++ [(call, answer)]) }
  | drift (shared : Shared Client Call Answer State) (next : State)
      (drifted : drifts shared.object next) :
      Step shared [.other] { shared with object := next }

/-- What a client has been told, and what it is about to be told. -/
def Shared.told (shared : Shared Client Call Answer State) (client : Client) :
    List (Call × Answer) :=
  shared.returned client ++ (shared.phase client).pending

variable {performs drifts}

theorem Step.sequential {shared next : Shared Client Call Answer State}
    {effects : List (Effect Client Call Answer)}
    (step : Step performs drifts shared effects next) :
    Sequential performs drifts shared.object effects next.object := by
  cases step with
  | still => exact .nil _
  | make => exact .nil _
  | finish => exact .nil _
  | perform client call answer next called performed =>
      exact .call client call answer _ next next [] performed (.nil next)
  | drift next drifted => exact .other _ next next [] drifted (.nil next)

/-- A step tells a client the answers of its own calls that take effect in it. -/
theorem Step.told {shared next : Shared Client Call Answer State}
    {effects : List (Effect Client Call Answer)}
    (step : Step performs drifts shared effects next) (client : Client) :
    next.told client = shared.told client ++ own client effects := by
  cases step with
  | still => exact (List.append_nil _).symm
  | drift next drifted => exact (List.append_nil _).symm
  | make caller call idle =>
      by_cases same : client = caller
      · subst same
        simp [Shared.told, idle, Phase.pending, own]
      · simp [Shared.told, Function.update_of_ne same, own]
  | perform caller call answer next called performed =>
      by_cases same : client = caller
      · subst same
        simp [Shared.told, called, Phase.pending, own]
      · simp [Shared.told, Function.update_of_ne same, own, Ne.symm same]
  | finish caller call answer answered =>
      by_cases same : client = caller
      · subst same
        simp [Shared.told, answered, Phase.pending, own]
      · simp [Shared.told, Function.update_of_ne same, own]

end Objects

/-! ### Systems that do this in steps of their own -/

section Systems

variable {Client Call Answer State : Type} [DecidableEq Client]
variable {System Event Reason : Type}
variable (step : System → Event → Except Reason System)
variable (effects : System → Event → List (Effect Client Call Answer))

/-- The effects of a run, in the order of its steps. -/
def history : System → List Event → List (Effect Client Call Answer)
  | _, [] => []
  | system, event :: events =>
      effects system event ++
        match step system event with
        | .error _ => []
        | .ok next => history next events

/-- Each step of a run is taken where it may be taken. -/
def Along (may : System → Event → Prop) : System → List Event → Prop
  | _, [] => True
  | system, event :: events => may system event ∧
      match step system event with
      | .error _ => True
      | .ok next => Along may next events

instance Along.decide (may : System → Event → Prop) [∀ system event, Decidable (may system event)] :
    ∀ system events, Decidable (Along step may system events)
  | _, [] => instDecidableTrue
  | system, event :: events =>
      have : Decidable (match step system event with
          | .error _ => True
          | .ok next => Along step may next events) :=
        match step system event with
        | .error _ => instDecidableTrue
        | .ok next => Along.decide may next events
      instDecidableAnd

variable (performs : Client → Call → State → Answer → State → Prop) (drifts : State → State → Prop)
variable (represents : System → Shared Client Call Answer State → Prop)

/-- Each step of the system is a step of the object it represents. -/
def Simulates (may : System → Event → Prop) : Prop :=
  ∀ system shared event next, represents system shared → may system event →
    step system event = .ok next →
      ∃ after, Step performs drifts shared (effects system event) after ∧ represents next after

variable {step effects performs drifts represents}

theorem Along.mono {may weaker : System → Event → Prop}
    (implies : ∀ system event, may system event → weaker system event) (events : List Event) :
    ∀ system, Along step may system events → Along step weaker system events := by
  induction events with
  | nil => exact fun system _ => trivial
  | cons event events ih =>
      intro system along
      refine ⟨implies system event along.1, ?_⟩
      have later := along.2
      cases stepped : step system event with
      | error reason => trivial
      | ok next =>
          rw [stepped] at later
          exact ih next later

/-- In a whole run the calls take effect one after the other, and each client is told the answers
of its own. -/
theorem Simulates.run {may : System → Event → Prop}
    (simulates : Simulates step effects performs drifts represents may) (events : List Event) :
    ∀ (system final : System) (shared : Shared Client Call Answer State),
      represents system shared → Along step may system events →
      events.foldlM step system = .ok final →
      ∃ after, represents final after ∧
        Sequential performs drifts shared.object (history step effects system events) after.object ∧
        ∀ client, after.told client
          = shared.told client ++ own client (history step effects system events) := by
  induction events with
  | nil =>
      intro system final shared represented along ran
      cases ran
      exact ⟨shared, represented, .nil _, fun client => (List.append_nil _).symm⟩
  | cons event events ih =>
      intro system final shared represented along ran
      rw [List.foldlM_cons] at ran
      rw [history]
      cases stepped : step system event with
      | error reason =>
          rw [stepped] at ran
          cases ran
      | ok next =>
          rw [stepped] at ran
          have later := along.2
          rw [stepped] at later
          obtain ⟨middle, taken, kept⟩ :=
            simulates system shared event next represented along.1 stepped
          obtain ⟨after, last, rest, told⟩ := ih next final middle kept later ran
          refine ⟨after, last, taken.sequential.append _ _ rest, fun client => ?_⟩
          calc after.told client
              = middle.told client ++ own client (history step effects next events) := told client
            _ = shared.told client ++ own client (effects system event)
                ++ own client (history step effects next events) := by rw [taken.told client]
            _ = _ := by rw [own_append, List.append_assoc]

end Systems

end Mpdcron.AtomicCalls
