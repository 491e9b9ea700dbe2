import Mathlib.Data.Int.Init
import Mathlib.Tactic.Common

/-! `GTimer` over a monotonic clock of microseconds. -/

namespace Timer

structure GTimer where
  start : Int
  stopped : Int
  active : Bool
  deriving DecidableEq, Repr

def new (now : Int) : GTimer := ⟨now, now, true⟩

def GTimer.restart (_ : GTimer) (now : Int) : GTimer := ⟨now, now, true⟩

def GTimer.stop (timer : GTimer) (now : Int) : GTimer :=
  { timer with stopped := now, active := false }

/-- An active timer refuses to be continued. -/
def GTimer.continue (timer : GTimer) (now : Int) : GTimer :=
  if timer.active then timer
  else { timer with start := now - (timer.stopped - timer.start), active := true }

/-- `g_timer_elapsed`, in microseconds. -/
def GTimer.elapsed (timer : GTimer) (now : Int) : Int :=
  if timer.active then now - timer.start else timer.stopped - timer.start

/-- The time goes by for an active timer only. -/
theorem elapsed_later (timer : GTimer) (now wait : Int) :
    timer.elapsed (now + wait) = timer.elapsed now + if timer.active then wait else 0 := by
  unfold GTimer.elapsed
  split_ifs <;> omega

@[simp] theorem restart_active (timer : GTimer) (now : Int) :
    (timer.restart now).active = true := rfl

@[simp] theorem elapsed_restart (timer : GTimer) (now : Int) :
    (timer.restart now).elapsed now = 0 := by
  simp [GTimer.elapsed, GTimer.restart]

@[simp] theorem stop_active (timer : GTimer) (now : Int) : (timer.stop now).active = false := rfl

theorem elapsed_stop (timer : GTimer) (now : Int) (running : timer.active = true) :
    (timer.stop now).elapsed now = timer.elapsed now := by
  simp [GTimer.elapsed, GTimer.stop, running]

@[simp] theorem continue_active (timer : GTimer) (now : Int) :
    (timer.continue now).active = true := by
  unfold GTimer.continue
  split_ifs with running
  · exact running
  · rfl

@[simp] theorem elapsed_continue (timer : GTimer) (now : Int) :
    (timer.continue now).elapsed now = timer.elapsed now := by
  unfold GTimer.continue
  split_ifs with running
  · rfl
  · simp only [GTimer.elapsed, running, if_true]
    simp only [Bool.false_eq_true, if_false]
    omega

end Timer
