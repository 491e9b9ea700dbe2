import Mathlib.Logic.Basic
import Mpdcron.Cron.Loop

/-! Between two callbacks the daemon watches Mpd or waits to reconnect, unless the idle command
could not be sent on a new connection. -/

namespace Mpdcron.Cron

open Triple

/-- One idle watch on an open connection, and no timer. -/
structure Connected (loop : Loop) : Prop where
  conn : loop.conn = true
  idleSid : loop.idleSid ≠ 0
  sources : loop.sources = [⟨loop.idleSid, .loopIdle⟩]
  reconnectSid : loop.reconnectSid = 0

/-- No connection and one reconnect timer. -/
structure Waiting (loop : Loop) : Prop where
  conn : loop.conn = false
  idleSid : loop.idleSid = 0
  reconnectSid : loop.reconnectSid ≠ 0
  sources : loop.sources = [⟨loop.reconnectSid, .loopReconnect⟩]

structure Settled (loop : Loop) : Prop where
  one : Xor (Connected loop) (Waiting loop)
  disconnect : (loopDisconnect loop).sources = []

theorem Connected.settled {loop : Loop} (connected : Connected loop) : Settled loop where
  one := .inl ⟨connected, fun waiting => by simpa [connected.conn] using waiting.conn⟩
  disconnect := by
    simp [loopDisconnect, gSourceRemove, connected.idleSid, connected.reconnectSid,
      connected.sources]

theorem Waiting.settled {loop : Loop} (waiting : Waiting loop) : Settled loop where
  one := .inr ⟨waiting, fun connected => by simpa [waiting.conn] using connected.conn⟩
  disconnect := by
    simp [loopDisconnect, gSourceRemove, waiting.idleSid, waiting.reconnectSid, waiting.sources]

/-- The ids handed out so far are below `nextId`. -/
structure Invariant (loop : Loop) : Prop where
  settled : Connected loop ∨ Waiting loop
  positive : 0 < loop.nextId
  fresh : ∀ source ∈ loop.sources, source.id < loop.nextId

theorem Invariant.isSettled {loop : Loop} (invariant : Invariant loop) : Settled loop := by
  rcases invariant.settled with connected | waiting
  · exact connected.settled
  · exact waiting.settled

def Sent.fails (sent : Sent) : Prop := sent.ret = false ∧ sent.error = true

/-- A connection is made and authenticated, and the idle command cannot be sent on it. -/
def Connecting.idleFails (password : Bool) (connecting : Connecting) : Prop :=
  connecting.created = true ∧ connecting.error = false ∧
    (password = true → connecting.authenticated = true) ∧ connecting.sent.fails

/-- If the event is a reconnect timer, the idle command can be sent. -/
def IdleSent (password : Bool) (loop : Loop) : LoopEvent → Prop
  | .timer id connecting => ⟨id, .loopReconnect⟩ ∈ loop.sources → ¬connecting.idleFails password
  | _ => True

/-- The loop behind a watch that was added last. -/
def Loop.watching (loop : Loop) : Loop :=
  { loop.addSource .loopIdle with conn := true, idleSid := loop.nextId, reconnectSid := 0 }

/-- The loop behind a timer that was added last. -/
def Loop.waiting (loop : Loop) : Loop :=
  { loop.addSource .loopReconnect with
    conn := false, idleSid := 0, reconnectSid := loop.nextId }

theorem loopScheduleIdle_sent (sent : Sent) (loop : Loop) (conn : loop.conn = true)
    (unwatched : loop.idleSid = 0) (works : ¬sent.fails) :
    loopScheduleIdle sent loop
      = .ok { loop.addSource .loopIdle with idleSid := loop.nextId } := by
  have goes : ¬(¬sent.ret = true ∧ sent.error = true) := by simpa [Sent.fails] using works
  simp only [loopScheduleIdle, assert, unwatched, conn, if_true, if_neg goes, bind, Except.bind, pure,
    Except.pure]

theorem loopScheduleIdle_fails (sent : Sent) (loop : Loop) (conn : loop.conn = true)
    (unwatched : loop.idleSid = 0) (fails : sent.fails) :
    loopScheduleIdle sent loop = loopScheduleReconnect { loop with conn := false } := by
  simp [loopScheduleIdle, assert, unwatched, conn, fails.1, fails.2, loopFailure, bind, Except.bind,
    pure, Except.pure]

theorem loopScheduleReconnect_free (loop : Loop) (free : loop.reconnectSid = 0) :
    loopScheduleReconnect loop
      = .ok { loop.addSource .loopReconnect with reconnectSid := loop.nextId } := by
  simp [loopScheduleReconnect, assert, free, bind, Except.bind, pure, Except.pure]

/-- What `loop_idle` does from a connected state. -/
theorem loopIdle_connected (idling : Idling) {loop : Loop} (connected : Connected loop) :
    loopIdle idling loop = .error .exit ∨ loopIdle idling loop = .ok loop.watching ∨
      loopIdle idling loop = .ok loop.waiting := by
  have scheduled : loopScheduleIdle idling.sent { loop with idleSid := 0 } = .ok loop.watching ∨
      loopScheduleIdle idling.sent { loop with idleSid := 0 } = .ok loop.waiting := by
    by_cases fails : idling.sent.fails
    · right
      rw [loopScheduleIdle_fails _ { loop with idleSid := 0 } connected.conn rfl fails]
      exact loopScheduleReconnect_free _ connected.reconnectSid
    · left
      rw [loopScheduleIdle_sent _ { loop with idleSid := 0 } connected.conn rfl fails]
      simp [Loop.watching, Loop.addSource, connected.conn, connected.reconnectSid]
  have failed : loopScheduleReconnect { loop with idleSid := 0, conn := false }
      = .ok loop.waiting := loopScheduleReconnect_free _ connected.reconnectSid
  have opens : loopIdle idling loop
      = if ¬idling.finished then
          if idling.error = .unknownCommand then .error .exit
          else if idling.error ≠ .success then .ok loop.waiting
          else loopScheduleIdle idling.sent { loop with idleSid := 0 }
        else if idling.events.any (· < 0) then .ok loop.waiting
        else loopScheduleIdle idling.sent { loop with idleSid := 0 } := by
    rw [loopIdle, assert, if_pos connected.idleSid]
    simp only [bind, Except.bind, assert, connected.conn, if_true, loopFailure, pure, Except.pure,
      failed]
  rw [opens]
  split_ifs with finished negative unknown failed
  · exact .inr (.inr rfl)
  · exact .inr scheduled
  · exact .inl rfl
  · exact .inr (.inr rfl)
  · exact .inr scheduled

/-- A negative `event_run` leads to a reconnect. -/
theorem loopIdle_negative (idling : Idling) {loop : Loop} (connected : Connected loop)
    (finished : idling.finished = true) (negative : idling.events.any (· < 0) = true) :
    loopIdle idling loop = .ok loop.waiting := by
  have failed : loopScheduleReconnect { loop with idleSid := 0, conn := false }
      = .ok loop.waiting := loopScheduleReconnect_free _ connected.reconnectSid
  simp [loopIdle, assert, connected.idleSid, connected.conn, finished, negative, bind, Except.bind,
    loopFailure, pure, Except.pure, failed]

section Removal

variable {loop : Loop} {source : Source}

theorem removed_watching (positive : 0 < loop.nextId) (only : loop.sources = [source])
    (older : source.id < loop.nextId) : Invariant (gSourceRemove source.id loop.watching) := by
  have apart : loop.nextId ≠ source.id := older.ne'
  have left : (gSourceRemove source.id loop.watching).sources = [⟨loop.nextId, .loopIdle⟩] := by
    simp [gSourceRemove, Loop.watching, Loop.addSource, only, apart]
  refine ⟨.inl ⟨rfl, positive.ne', left, rfl⟩, Nat.succ_pos _, ?_⟩
  rw [left]
  intro last member
  rw [List.mem_singleton.mp member]
  exact Nat.lt_succ_self _

theorem removed_waiting (positive : 0 < loop.nextId) (only : loop.sources = [source])
    (older : source.id < loop.nextId) : Waiting (gSourceRemove source.id loop.waiting) ∧
      Invariant (gSourceRemove source.id loop.waiting) := by
  have apart : loop.nextId ≠ source.id := older.ne'
  have left : (gSourceRemove source.id loop.waiting).sources
      = [⟨loop.nextId, .loopReconnect⟩] := by
    simp [gSourceRemove, Loop.waiting, Loop.addSource, only, apart]
  have waiting : Waiting (gSourceRemove source.id loop.waiting) :=
    ⟨rfl, rfl, positive.ne', left⟩
  refine ⟨waiting, .inr waiting, Nat.succ_pos _, ?_⟩
  rw [left]
  intro last member
  rw [List.mem_singleton.mp member]
  exact Nat.lt_succ_self _

end Removal

/-- How an attempt ends while there is no connection and no watch. -/
theorem loopReconnect_unconnected (password : Bool) (connecting : Connecting) (loop : Loop)
    (conn : loop.conn = false) (unwatched : loop.idleSid = 0) :
    (connecting.idleFails password ∧
        loopReconnect password connecting loop
          = loopScheduleReconnect loop >>= fun loop =>
              .ok (false, { loop with reconnectSid := 0 })) ∨
      (¬connecting.idleFails password ∧
        (loopReconnect password connecting loop = .error .exit ∨
          loopReconnect password connecting loop = .ok (true, loop) ∨
          loopReconnect password connecting loop = .ok (false, loop.watching))) := by
  have closed : { loop with conn := false } = loop := by rw [← conn]
  cases created : connecting.created with
  | false => simp [loopReconnect, Connecting.idleFails, created]
  | true =>
      cases error : connecting.error with
      | true =>
          simp [loopReconnect, Connecting.idleFails, created, error, loopFailure, assert, closed, bind,
            Except.bind, pure, Except.pure]
      | false =>
          by_cases refused : password = true ∧ ¬connecting.authenticated = true
          · simp [loopReconnect, Connecting.idleFails, created, error, refused]
          · have authenticated : password = true → connecting.authenticated = true := by
              simpa using refused
            have scheduling : loopReconnect password connecting loop
                = loopScheduleIdle connecting.sent { loop with conn := true } >>= fun loop =>
                    .ok (false, { loop with reconnectSid := 0 }) := by
              rw [loopReconnect, if_neg (by simp [created]), if_neg (by simp [error]), if_neg refused]
              rfl
            by_cases fails : connecting.sent.fails
            · left
              refine ⟨⟨created, error, authenticated, fails⟩, ?_⟩
              rw [scheduling, loopScheduleIdle_fails _ { loop with conn := true } rfl unwatched fails]
              change loopScheduleReconnect { loop with conn := false } >>= _ = _
              rw [closed]
            · right
              refine ⟨fun all => fails all.2.2.2, .inr (.inr ?_)⟩
              rw [scheduling, loopScheduleIdle_sent _ { loop with conn := true } rfl unwatched fails]
              rfl

/-- What the reconnect timer does from a waiting state. -/
theorem loopReconnect_waiting (password : Bool) (connecting : Connecting) {loop : Loop}
    (waiting : Waiting loop) :
    (connecting.idleFails password → loopReconnect password connecting loop = .error .assertion) ∧
      (¬connecting.idleFails password →
        loopReconnect password connecting loop = .error .exit ∨
          loopReconnect password connecting loop = .ok (true, loop) ∨
          loopReconnect password connecting loop = .ok (false, loop.watching)) := by
  rcases loopReconnect_unconnected password connecting loop waiting.conn waiting.idleSid with
    ⟨fails, ends⟩ | ⟨works, ends⟩
  · refine ⟨fun _ => ?_, fun works => absurd fails works⟩
    rw [ends, loopScheduleReconnect, assert, if_neg waiting.reconnectSid]
    rfl
  · exact ⟨fun fails => absurd fails works, fun _ => ends⟩

/-- What `loop_connect` does at the start of the daemon. -/
theorem loopConnect_start (password : Bool) (connecting : Connecting) (sourceIds : Nat) :
    (connecting.idleFails password → ∃ loop, ¬Settled loop ∧
        loopConnect password connecting (loopStart sourceIds) = .ok loop) ∧
      (¬connecting.idleFails password → Holds (· = .exit) Invariant
        (loopConnect password connecting (loopStart sourceIds))) := by
  rcases loopReconnect_unconnected password connecting (loopStart sourceIds) rfl rfl with
    ⟨fails, ends⟩ | ⟨works, ends⟩
  · refine ⟨fun _ => ?_, fun works => absurd fails works⟩
    refine ⟨{ (loopStart sourceIds).addSource .loopReconnect with reconnectSid := 0 }, ?_, ?_⟩
    · intro settled
      simpa [loopDisconnect, Loop.addSource, loopStart] using settled.disconnect
    · rw [loopConnect, ends, loopScheduleReconnect_free _ rfl]
      rfl
  · refine ⟨fun fails => absurd fails works, fun _ => ?_⟩
    rw [loopConnect]
    rcases ends with exits | again | done
    · rw [exits]
      rfl
    · rw [again]
      have armed : Waiting { (loopStart sourceIds).addSource .loopReconnect with
          reconnectSid := sourceIds + 1 } := ⟨rfl, rfl, Nat.succ_ne_zero _, rfl⟩
      exact ⟨.inr armed, Nat.succ_pos _, by simp [loopStart, Loop.addSource]⟩
    · rw [done]
      have watched : Connected (loopStart sourceIds).watching :=
        ⟨rfl, Nat.succ_ne_zero _, rfl, rfl⟩
      exact ⟨.inl watched, Nat.succ_pos _, by simp [loopStart, Loop.addSource, Loop.watching]⟩

theorem loopStep_timer (password : Bool) {loop : Loop} (invariant : Invariant loop) (id : Nat)
    (connecting : Connecting) :
    (IdleSent password loop (.timer id connecting) →
        Holds (· = .exit) Invariant (loopStep password loop (.timer id connecting))) ∧
      (¬IdleSent password loop (.timer id connecting) →
        loopStep password loop (.timer id connecting) = .error .assertion) := by
  by_cases pending : ⟨id, .loopReconnect⟩ ∈ loop.sources
  · have waiting : Waiting loop := by
      rcases invariant.settled with connected | waiting
      · simp [connected.sources] at pending
      · exact waiting
    have mine : id = loop.reconnectSid := by simpa [waiting.sources] using pending
    have reconnects := loopReconnect_waiting password connecting waiting
    have opened := removed_watching invariant.positive waiting.sources
      (invariant.fresh _ (by rw [waiting.sources]; exact List.mem_singleton_self _))
    simp only [IdleSent, pending, forall_const, not_not, loopStep, if_true]
    constructor
    · intro works
      rcases reconnects.2 works with exits | again | done
      · rw [exits]
        rfl
      · rw [again]
        exact invariant
      · rw [done, mine]
        exact opened
    · intro fails
      rw [reconnects.1 fails]
      rfl
  · simpa [IdleSent, pending, loopStep] using invariant

theorem loopStep_watch (password : Bool) {loop : Loop} (invariant : Invariant loop) (id : Nat)
    (idling : Idling) :
    Holds (· = .exit) Invariant (loopStep password loop (.watch id idling)) := by
  rw [loopStep]
  split_ifs with pending
  · have connected : Connected loop := by
      rcases invariant.settled with connected | waiting
      · exact connected
      · simp [waiting.sources] at pending
    have mine : id = loop.idleSid := by simpa [connected.sources] using pending
    have older := invariant.fresh _ (by rw [connected.sources]; exact List.mem_singleton_self _)
    rw [mine]
    rcases loopIdle_connected idling connected with exits | watches | waits
    · rw [exits]
      rfl
    · rw [watches]
      exact removed_watching invariant.positive connected.sources older
    · rw [waits]
      exact (removed_waiting invariant.positive connected.sources older).2
  · exact invariant

/-- One callback from a settled state: it fails exactly where the idle command cannot be sent. -/
theorem loopStep_invariant (password : Bool) {loop : Loop} (invariant : Invariant loop)
    (event : LoopEvent) :
    (IdleSent password loop event → Holds (· = .exit) Invariant (loopStep password loop event)) ∧
      (¬IdleSent password loop event → loopStep password loop event = .error .assertion) := by
  cases event with
  | timer id connecting => exact loopStep_timer password invariant id connecting
  | watch id idling =>
      exact ⟨fun _ => loopStep_watch password invariant id idling, fun fails => absurd trivial fails⟩
  | otherSources count =>
      refine ⟨fun _ => ?_, fun fails => absurd trivial fails⟩
      have still : Connected { loop with nextId := loop.nextId + count } ∨
          Waiting { loop with nextId := loop.nextId + count } :=
        invariant.settled.imp (fun ⟨conn, idle, sources, reconnect⟩ => ⟨conn, idle, sources, reconnect⟩)
          fun ⟨conn, idle, reconnect, sources⟩ => ⟨conn, idle, reconnect, sources⟩
      exact ⟨still, Nat.add_pos_left invariant.positive _,
        fun source member => Nat.lt_add_right _ (invariant.fresh source member)⟩

/-- In every state of a run the daemon is either connected or waiting and no assertion fails, if
and only if the idle command could be sent on every connection that was made. -/
theorem loopRun_settled_iff (password : Bool) (sourceIds : Nat) (connecting : Connecting)
    (events : List LoopEvent) :
    (∀ past, past <+: events →
        Holds (· = .exit) Settled (loopRun password sourceIds connecting past)) ↔
      ¬connecting.idleFails password ∧
        ∀ past event loop, past ++ [event] <+: events →
          loopRun password sourceIds connecting past = .ok loop → IdleSent password loop event := by
  rcases loopConnect_start password connecting sourceIds with ⟨failing, working⟩
  by_cases fails : connecting.idleFails password
  · refine iff_of_false (fun always => ?_) fun both => both.1 fails
    rcases failing fails with ⟨loop, unsettled, reaches⟩
    have settled := always [] List.nil_prefix
    rw [loopRun, reaches] at settled
    exact unsettled settled
  · have run := Holds.run_iff (fun _ => Invariant.isSettled) (working fails)
      (fun loop event invariant => (loopStep_invariant password invariant event).1)
      (fun loop event invariant fails after => by
        rw [(loopStep_invariant password invariant event).2 fails] at after
        cases after) events
    exact run.trans (iff_and_self.mpr fun _ => fails)

/-- The idle command fails on the first connection that the timer makes. -/
theorem reconnect_asserts :
    ¬∀ past, past <+: [LoopEvent.timer 1 ⟨true, false, true, ⟨false, true⟩⟩] →
      Holds (· = .exit) Settled (loopRun false 0 ⟨true, true, true, ⟨true, false⟩⟩ past) := by
  intro always
  have last := always _ (List.prefix_refl _)
  simp [loopRun, loopConnect, loopReconnect, loopStart, loopScheduleReconnect, loopScheduleIdle,
    loopFailure, loopStep, assert, Loop.addSource, bind, Except.bind, pure, Except.pure] at last

end Mpdcron.Cron
