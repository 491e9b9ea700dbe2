import Mathlib.Algebra.Group.Int.Defs
import Mathlib.Algebra.Group.Nat.Defs
import Mathlib.Data.List.Basic
import Mathlib.Data.List.DropRight
import Mathlib.Data.List.Infix

/-! C strings as lists of bytes, without their terminating NUL. -/

namespace CString

abbrev Bytes := List UInt8

/-- The bytes of an ASCII literal. -/
def lit (s : String) : Bytes := s.toList.map (fun c => UInt8.ofNat c.toNat)

def newline : UInt8 := 10

def strcmp : Bytes → Bytes → Ordering
  | [], [] => .eq
  | [], _ :: _ => .lt
  | _ :: _, [] => .gt
  | a :: as, b :: bs => if a < b then .lt else if b < a then .gt else strcmp as bs

def strncmp : Bytes → Bytes → Nat → Ordering
  | _, _, 0 => .eq
  | [], [], _ + 1 => .eq
  | [], _ :: _, _ + 1 => .lt
  | _ :: _, [], _ + 1 => .gt
  | a :: as, b :: bs, n + 1 =>
      if a < b then .lt else if b < a then .gt else strncmp as bs n

/-- One byte more than the text has: its end is compared too. -/
theorem strncmp_length (text : Bytes) : ∀ piece : Bytes,
    strncmp piece text (text.length + 1) = .eq ↔ piece = text := by
  induction text with
  | nil =>
      intro piece
      cases piece <;> simp [strncmp]
  | cons ch text ih =>
      intro piece
      cases piece with
      | nil => simp [strncmp]
      | cons first piece =>
          rw [List.length_cons, strncmp, List.cons.injEq]
          by_cases same : first = ch
          · simpa [same] using ih piece
          · rcases UInt8.lt_or_lt_of_ne same with less | more
            · simp [same, less]
            · by_cases less : first < ch <;> simp [same, less, more]

/-- The part of a buffer that C string functions see. -/
def upToNul (buffer : Bytes) : Bytes := buffer.takeWhile (· ≠ 0)

theorem upToNul_noNul (text : Bytes) : (0 : UInt8) ∉ upToNul text := by
  intro present
  have nonzero := List.mem_takeWhile_imp present
  simp at nonzero

theorem upToNul_eq (text : Bytes) (noNul : (0 : UInt8) ∉ text) : upToNul text = text := by
  rw [upToNul, List.takeWhile_eq_self_iff]
  intro ch inText
  exact decide_eq_true fun same => noNul (same ▸ inText)

/-- ASCII white space in GLib's sense: no vertical tab. -/
def isSpace (c : UInt8) : Bool := c = 32 ∨ c = 9 ∨ c = 10 ∨ c = 12 ∨ c = 13

def isDigit (c : UInt8) : Bool := 48 ≤ c ∧ c ≤ 57

def isAlpha (c : UInt8) : Bool := (65 ≤ c ∧ c ≤ 90) ∨ (97 ≤ c ∧ c ≤ 122)

/-- `isspace` in the C locale -/
def isSpaceC (c : UInt8) : Bool := c = 32 ∨ (9 ≤ c ∧ c ≤ 13)

/-- `g_strchug` -/
def chug (text : Bytes) : Bytes := text.dropWhile isSpace

/-- `g_strchomp` -/
def chomp (text : Bytes) : Bytes := text.rdropWhile isSpace

/-- `g_strstrip` -/
def strip (text : Bytes) : Bytes := chomp (chug text)

theorem chug_cons_space (ch : UInt8) (text : Bytes) (space : isSpace ch) :
    chug (ch :: text) = chug text := List.dropWhile_cons_of_pos space

theorem chug_cons_other (ch : UInt8) (text : Bytes) (other : isSpace ch = false) :
    chug (ch :: text) = ch :: text := List.dropWhile_cons_of_neg (by simp [other])

theorem chomp_concat_space (text : Bytes) (ch : UInt8) (space : isSpace ch) :
    chomp (text ++ [ch]) = chomp text := List.rdropWhile_concat_pos isSpace text ch space

theorem strip_cons_space (ch : UInt8) (text : Bytes) (space : isSpace ch) :
    strip (ch :: text) = strip text := by
  rw [strip, strip, chug_cons_space ch text space]

theorem chug_concat_space (ch : UInt8) (space : isSpace ch) (text : Bytes) :
    chug (text ++ [ch]) = if chug text = [] then [] else chug text ++ [ch] := by
  induction text with
  | nil => exact chug_cons_space ch [] space
  | cons first text ih =>
      by_cases leading : isSpace first
      · rw [List.cons_append, chug_cons_space first _ leading, ih, chug_cons_space first text leading]
      · have other : isSpace first = false := by simpa using leading
        rw [List.cons_append, chug_cons_other first _ other, chug_cons_other first text other,
          if_neg (List.cons_ne_nil first text), List.cons_append]

theorem strip_concat_space (ch : UInt8) (space : isSpace ch) (text : Bytes) :
    strip (text ++ [ch]) = strip text := by
  rw [strip, strip, chug_concat_space ch space text]
  by_cases blank : chug text = []
  · rw [if_pos blank, blank]
  · rw [if_neg blank, chomp_concat_space _ ch space]

theorem strip_unspaced (text : Bytes) (unspaced : ∀ ch ∈ text, isSpace ch = false) :
    strip text = text := by
  have front : chug text = text := by
    cases text with
    | nil => rfl
    | cons first text => exact chug_cons_other first text (unspaced first List.mem_cons_self)
  rw [strip, front, chomp, List.rdropWhile_eq_self_iff]
  intro given
  simp [unspaced _ (List.getLast_mem given)]

/-- The buffers that successive calls of `fgets(line, size, file)` fill. `line` is what the
current call has read. -/
def fgetsAll (size : Nat) (line : Bytes) : Bytes → List Bytes
  | [] => if line = [] then [] else [line]
  | c :: file =>
      if c = newline ∨ line.length + 2 = size then (line ++ [c]) :: fgetsAll size [] file
      else fgetsAll size (line ++ [c]) file

def digitsValue (digits : Bytes) : Nat :=
  digits.foldl (fun value c => 10 * value + (c.toNat - 48)) 0

/-- The number `strtol(text, &end, 10)` reads, before it is clamped, and `end`. -/
def strtol (text : Bytes) : Int × Bytes :=
  let unsigned (start : Bytes) (sign : Int) : Int × Bytes :=
    let digits := start.takeWhile isDigit
    if digits = [] then (0, text) else (sign * digitsValue digits, start.dropWhile isDigit)
  match text.dropWhile isSpaceC with
  | 45 :: start => unsigned start (-1)
  | 43 :: start => unsigned start 1
  | start => unsigned start 1

/-- A 64-bit `long`: `strtol` saturates. -/
def clampLong (value : Int) : Int := max (-2 ^ 63) (min (2 ^ 63 - 1) value)

/-- The conversion of a `long` to a 32-bit `int`. -/
def wrapInt (value : Int) : Int := value.bmod (2 ^ 32)

def intMax : Int := 2 ^ 31 - 1

def intMin : Int := -2 ^ 31

def atoi (text : Bytes) : Int := wrapInt (clampLong (strtol text).1)

/-- `%u` -/
def decimalNat (n : Nat) : Bytes := (Nat.toDigits 10 n).map (fun c => UInt8.ofNat c.toNat)

/-- `%i` -/
def decimal : Int → Bytes
  | .ofNat n => decimalNat n
  | .negSucc n => 45 :: decimalNat (n + 1)

example : decimal (-120) = lit "-120" := by decide

example : atoi (lit " -120x") = -120 := by decide

end CString
