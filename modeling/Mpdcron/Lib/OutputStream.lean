import Mathlib.Logic.Function.Basic
import Mpdcron.Lib.CString

/-! A buffered output stream with asynchronous flushes. While one is outstanding every other
write or flush fails and has no effect. -/

open CString

structure OutputStream where
  written : Bytes
  flushing : Bool
  refused : Nat
  deriving DecidableEq, Repr

namespace OutputStream

def opened : OutputStream := { written := [], flushing := false, refused := 0 }

def write (text : Bytes) (stream : OutputStream) : OutputStream :=
  if stream.flushing then stream else { stream with written := stream.written ++ text }

/-- A flush that is refused reports so to its callback later. -/
def flushAsync (stream : OutputStream) : OutputStream :=
  if stream.flushing then { stream with refused := stream.refused + 1 }
  else { stream with flushing := true }

/-- The outstanding flush has ended. -/
def flushed (stream : OutputStream) : OutputStream := { stream with flushing := false }

/-- The callback of a refused flush has run. -/
def refusalReported (stream : OutputStream) : OutputStream :=
  { stream with refused := stream.refused - 1 }

/-- Some text is written, and then the stream is flushed so many times. -/
def send (text : Bytes) : Nat → OutputStream → OutputStream
  | 0, stream => stream.write text
  | flushes + 1, stream => (send text flushes stream).flushAsync

@[simp] theorem flushed_written (stream : OutputStream) :
    stream.flushed.written = stream.written := rfl

@[simp] theorem flushed_refused (stream : OutputStream) :
    stream.flushed.refused = stream.refused := rfl

@[simp] theorem refusalReported_written (stream : OutputStream) :
    stream.refusalReported.written = stream.written := rfl

@[simp] theorem flushAsync_written (stream : OutputStream) :
    stream.flushAsync.written = stream.written := by
  rw [flushAsync]
  split <;> rfl

theorem send_written (text : Bytes) (flushes : Nat) (stream : OutputStream) :
    (stream.send text flushes).written = (stream.write text).written := by
  induction flushes with
  | zero => rfl
  | succ flushes ih => rw [send, flushAsync_written, ih]

/-- What is sent while no flush is outstanding arrives. -/
theorem send_idle (text : Bytes) (stream : OutputStream) (idle : stream.flushing = false) :
    stream.send text 1
      = { written := stream.written ++ text, flushing := true, refused := stream.refused } := by
  simp [send, write, flushAsync, idle]

/-- What is sent while a flush is outstanding is lost. -/
theorem send_flushing (text : Bytes) (flushes : Nat) (stream : OutputStream)
    (busy : stream.flushing = true) : (stream.send text flushes).written = stream.written := by
  rw [send_written, write, if_pos busy]

theorem send_length (text : Bytes) (flushes : Nat) (stream : OutputStream) :
    (stream.send text flushes).written.length ≤ stream.written.length + text.length := by
  rw [send_written, write]
  split
  · omega
  · exact (List.length_append).le

/-- A change of one stream that leaves a field of it alone. -/
theorem update_field {α ι : Type} [DecidableEq ι] (field : OutputStream → α)
    (streams : ι → OutputStream) (changed : ι) (stream : OutputStream)
    (same : field stream = field (streams changed)) (other : ι) :
    field (Function.update streams changed stream other) = field (streams other) := by
  by_cases own : other = changed
  · rw [own, Function.update_self, same]
  · rw [Function.update_of_ne own]

end OutputStream
