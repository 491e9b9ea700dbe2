import Mpdcron.Lib.CString

/-! `tokenizer.c`: words are cut out of a line in the buffer that holds it. A pointer is an
index of the buffer, and what lies behind the buffer reads as NUL. -/

namespace Mpdcron.Stats

open CString

/-- A buffer and the `*input_p` into it. -/
structure Line where
  buffer : Bytes
  input : Nat
  deriving DecidableEq, Repr

/-- What a tokenizer returns: the word's pointer, or NULL with `*error_r` unset or set. -/
inductive Token where
  | word (start : Nat)
  | endOfLine
  | error (message : Bytes)
  deriving DecidableEq, Repr

def byteAt (buffer : Bytes) (index : Nat) : UInt8 := buffer.getD index 0

/-- The string that a pointer into the buffer denotes. -/
def stringAt (buffer : Bytes) (start : Nat) : Bytes := upToNul (buffer.drop start)

/-- `g_strchug`, which moves the rest of the string over the white space in front of it. -/
def gStrchug (buffer : Bytes) (string : Nat) : Bytes :=
  let start := chug (stringAt buffer string)
  buffer.take string ++ (start ++ 0 :: buffer.drop (string + start.length + 1))

def quote : UInt8 := 34

def backslash : UInt8 := 92

def validWordFirstChar (ch : UInt8) : Bool := isAlpha ch

def validWordChar (ch : UInt8) : Bool := isAlpha ch || isDigit ch || ch = 95

def validUnquotedChar (ch : UInt8) : Bool := 32 < ch && ch ≠ quote && ch ≠ 39

/-- The loop that looks for the end of a word; the last argument is the buffer from `input`
on. -/
def wordLoop (valid : UInt8 → Bool) (message : Bytes) (word : Nat) (buffer : Bytes)
    (input : Nat) : Bytes → Token × Line
  | [] => (.word word, ⟨buffer, input⟩)
  | ch :: ahead =>
      if ch = 0 then (.word word, ⟨buffer, input⟩)
      else if isSpace ch then
        (.word word, ⟨gStrchug (buffer.set input 0) (input + 1), input + 1⟩)
      else if valid ch then wordLoop valid message word buffer (input + 1) ahead
      else (.error message, ⟨buffer, input⟩)

/-- The body that `tokenizer_next_word` and `tokenizer_next_unquoted` share. -/
def nextPlain (first valid : UInt8 → Bool) (firstMessage message : Bytes) (line : Line) :
    Token × Line :=
  if byteAt line.buffer line.input = 0 then (.endOfLine, line)
  else if first (byteAt line.buffer line.input) then
    wordLoop valid message line.input line.buffer (line.input + 1)
      (line.buffer.drop (line.input + 1))
  else (.error firstMessage, line)

def tokenizerNextWord (line : Line) : Token × Line :=
  nextPlain validWordFirstChar validWordChar (lit "Letter expected")
    (lit "Invalid word character") line

def tokenizerNextUnquoted (line : Line) : Token × Line :=
  nextPlain validUnquotedChar validUnquotedChar (lit "Invalid unquoted character")
    (lit "Invalid unquoted character") line

/-- Behind the closing quote. -/
def closeString (word dest : Nat) (buffer : Bytes) (input : Nat) : Token × Line :=
  if byteAt buffer input ≠ 0 ∧ ¬ isSpace (byteAt buffer input) then
    (.error (lit "Space expected after closing '\"'"), ⟨buffer, input⟩)
  else (.word word, ⟨gStrchug (buffer.set dest 0) input, input⟩)

/-- The copying loop of `tokenizer_next_string`; the last argument is the buffer from
`input` on. -/
def stringLoop (word dest : Nat) (buffer : Bytes) (input : Nat) : Bytes → Token × Line
  | [] => (.error (lit "Missing closing '\"'"), ⟨buffer, input - 1⟩)
  | ch :: ahead =>
      if ch = quote then closeString word dest buffer (input + 1)
      else if ch = backslash then
        match ahead with
        | [] => (.error (lit "Missing closing '\"'"), ⟨buffer, input⟩)
        | escaped :: ahead =>
            if escaped = 0 then (.error (lit "Missing closing '\"'"), ⟨buffer, input⟩)
            else stringLoop word (dest + 1) (buffer.set dest escaped) (input + 2) ahead
      else if ch = 0 then (.error (lit "Missing closing '\"'"), ⟨buffer, input - 1⟩)
      else stringLoop word (dest + 1) (buffer.set dest ch) (input + 1) ahead

section StringLoop

variable (word dest : Nat) (buffer : Bytes) (input : Nat) (ahead : Bytes)

theorem stringLoop_end : stringLoop word dest buffer input (0 :: ahead)
    = (.error (lit "Missing closing '\"'"), ⟨buffer, input - 1⟩) := by
  rw [stringLoop.eq_def]
  simp [quote, backslash]

theorem stringLoop_quote : stringLoop word dest buffer input (quote :: ahead)
    = closeString word dest buffer (input + 1) := by
  rw [stringLoop.eq_def]
  exact if_pos rfl

theorem stringLoop_backslash_end : stringLoop word dest buffer input (backslash :: 0 :: ahead)
    = (.error (lit "Missing closing '\"'"), ⟨buffer, input⟩) := by
  rw [stringLoop.eq_def]
  simp [quote, backslash]

theorem stringLoop_backslash (escaped : UInt8) (notNul : escaped ≠ 0) :
    stringLoop word dest buffer input (backslash :: escaped :: ahead)
      = stringLoop word (dest + 1) (buffer.set dest escaped) (input + 2) ahead := by
  rw [stringLoop.eq_def]
  simp only [if_neg (show backslash ≠ quote by decide), if_pos, if_neg notNul]

theorem stringLoop_copy (ch : UInt8) (notQuote : ch ≠ quote) (notBackslash : ch ≠ backslash)
    (notNul : ch ≠ 0) :
    stringLoop word dest buffer input (ch :: ahead)
      = stringLoop word (dest + 1) (buffer.set dest ch) (input + 1) ahead := by
  rw [stringLoop.eq_def]
  simp only [if_neg notQuote, if_neg notBackslash, if_neg notNul]

end StringLoop

def tokenizerNextString (line : Line) : Token × Line :=
  if byteAt line.buffer line.input = 0 then (.endOfLine, line)
  else if byteAt line.buffer line.input = quote then
    stringLoop line.input line.input line.buffer (line.input + 1)
      (line.buffer.drop (line.input + 1))
  else (.error (lit "'\"' expected"), line)

def tokenizerNextParam (line : Line) : Token × Line :=
  if byteAt line.buffer line.input = quote then tokenizerNextString line
  else tokenizerNextUnquoted line

/-- The loop of `command_process` over the free slots of `argv`, with the error that the last
call set. -/
def nextParams (argv : List Nat) (line : Line) : Nat → List Nat × Line × Option Bytes
  | 0 => (argv, line, none)
  | slots + 1 =>
      match tokenizerNextParam line with
      | (.word param, line) => nextParams (argv ++ [param]) line slots
      | (.endOfLine, line) => (argv, line, none)
      | (.error message, line) => (argv, line, some message)

example : nextParams [] ⟨lit "\"a\\\"b\" c" ++ [0], 0⟩ 15
    = ([0, 6], ⟨lit "a\"b" ++ 0 :: lit "b\"c" ++ [0, 0], 7⟩, none) := by decide +kernel

end Mpdcron.Stats
