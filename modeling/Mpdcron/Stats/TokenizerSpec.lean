import Mathlib.Data.List.Forall2
import Mpdcron.Stats.Tokenizer

/-! What the tokenizers read, as functions of the text alone, and the proof that the in-place
tokenizers compute them: each word stays readable where it was cut out. -/

namespace Mpdcron.Stats

open CString

/-- A word and the text behind it, the end of the line, or an error. -/
inductive Reading where
  | word (value rest : Bytes)
  | endOfLine
  | failed (message : Bytes)
  deriving DecidableEq, Repr

def readPlainRest (valid : UInt8 → Bool) (message word : Bytes) : Bytes → Reading
  | [] => .word word []
  | ch :: text =>
      if isSpace ch then .word word (chug text)
      else if valid ch then readPlainRest valid message (word ++ [ch]) text
      else .failed message

def readPlain (first valid : UInt8 → Bool) (firstMessage message : Bytes) : Bytes → Reading
  | [] => .endOfLine
  | ch :: text =>
      if first ch then readPlainRest valid message [ch] text else .failed firstMessage

def readWord (text : Bytes) : Reading :=
  readPlain validWordFirstChar validWordChar (lit "Letter expected")
    (lit "Invalid word character") text

def readUnquoted (text : Bytes) : Reading :=
  readPlain validUnquotedChar validUnquotedChar (lit "Invalid unquoted character")
    (lit "Invalid unquoted character") text

/-- What follows the closing quote. -/
def readClosed (word : Bytes) : Bytes → Reading
  | [] => .word word []
  | ch :: text =>
      if isSpace ch then .word word (chug (ch :: text))
      else .failed (lit "Space expected after closing '\"'")

def readQuoted (word : Bytes) : Bytes → Reading
  | [] => .failed (lit "Missing closing '\"'")
  | ch :: text =>
      if ch = quote then readClosed word text
      else if ch = backslash then
        match text with
        | [] => .failed (lit "Missing closing '\"'")
        | escaped :: text => readQuoted (word ++ [escaped]) text
      else readQuoted (word ++ [ch]) text

def readParam : Bytes → Reading
  | [] => .endOfLine
  | ch :: text => if ch = quote then readQuoted [] text else readUnquoted (ch :: text)

/-- The words read into the free slots, the text left, and the error of the last call. -/
def readParams (words : List Bytes) (text : Bytes) : Nat → List Bytes × Bytes × Option Bytes
  | 0 => (words, text, none)
  | slots + 1 =>
      match readParam text with
      | .word value rest => readParams (words ++ [value]) rest slots
      | .endOfLine => (words, text, none)
      | .failed message => (words, text, some message)

section InPlace

/-- The pointer stands at a NUL-terminated text behind `front`. -/
structure Line.At (front text : Bytes) (line : Line) : Prop where
  input : line.input = front.length
  buffer : ∃ tail, line.buffer = front ++ (text ++ 0 :: tail)
  noNul : (0 : UInt8) ∉ text

/-- `word` stands terminated in `front`, or ends where the finished line ends. -/
def Terminated (front rest word : Bytes) (start : Nat) : Prop :=
  ∃ before : Bytes, before.length = start ∧ (0 : UInt8) ∉ word ∧
    ((before ++ word ++ [0]) <+: front ∨ (rest = [] ∧ front = before ++ word))

/-- What a tokenizer does to a line whose text it reads as `reading`. -/
def Tokenizes (front text : Bytes) (line : Line) (reading : Reading) :
    Token × Line → Prop
  | (.word start, after) => ∃ value rest front', reading = .word value rest ∧
      after.At front' rest ∧ front <+: front' ∧ Terminated front' rest value start
  | (.endOfLine, after) => reading = .endOfLine ∧ text = [] ∧ after = line
  | (.error message, after) => reading = .failed message ∧
      byteAt after.buffer after.input ≠ 0 ∧ front <+: after.buffer

theorem stringAt_append (front text tail : Bytes) (noNul : (0 : UInt8) ∉ text) :
    stringAt (front ++ (text ++ 0 :: tail)) front.length = text := by
  rw [stringAt, List.drop_left, upToNul, List.takeWhile_append_of_pos]
  · simp
  · intro ch inText
    have present : ch ≠ 0 := fun isNul => noNul (isNul ▸ inText)
    simpa using present

theorem byteAt_append (front tail : Bytes) (ch : UInt8) :
    byteAt (front ++ ch :: tail) front.length = ch := by
  simp [byteAt, List.getD]

theorem chug_suffix (text : Bytes) : chug text <:+ text := List.dropWhile_suffix _

theorem gStrchug_append (front text tail : Bytes) (noNul : (0 : UInt8) ∉ text) :
    ∃ moved, gStrchug (front ++ (text ++ 0 :: tail)) front.length
      = front ++ (chug text ++ 0 :: moved) := by
  rw [gStrchug, stringAt_append front text tail noNul, List.take_left]
  exact ⟨_, rfl⟩

theorem set_append (front tail : Bytes) (old new : UInt8) :
    (front ++ old :: tail).set front.length new = front ++ new :: tail := by
  rw [List.set_append_right _ _ (le_refl _), Nat.sub_self, List.set_cons_zero]

theorem notMem_chug (text : Bytes) (noNul : (0 : UInt8) ∉ text) : (0 : UInt8) ∉ chug text :=
  fun inChug => noNul ((chug_suffix text).subset inChug)

theorem wordLoop_tokenizes (valid : UInt8 → Bool) (message before text tail : Bytes)
    (whole : Bytes) (line : Line) (textNoNul : (0 : UInt8) ∉ text) :
    ∀ word : Bytes, (0 : UInt8) ∉ word →
      Tokenizes before whole line (readPlainRest valid message word text)
        (wordLoop valid message before.length (before ++ word ++ (text ++ 0 :: tail))
          (before ++ word).length (text ++ 0 :: tail)) := by
  induction text with
  | nil =>
      intro word wordNoNul
      exact ⟨word, [], before ++ word, rfl, ⟨rfl, ⟨tail, rfl⟩, by simp⟩,
        List.prefix_append _ _, before, rfl, wordNoNul, Or.inr ⟨rfl, rfl⟩⟩
  | cons ch text ih =>
      intro word wordNoNul
      have chNotNul : ch ≠ 0 := fun isNul => textNoNul (isNul ▸ List.mem_cons_self)
      have restNoNul : (0 : UInt8) ∉ text := fun inText => textNoNul (List.mem_cons_of_mem _ inText)
      rw [List.cons_append, wordLoop, if_neg chNotNul, readPlainRest]
      by_cases space : isSpace ch = true
      · rw [if_pos space, if_pos space, set_append]
        have opened : before ++ word ++ 0 :: (text ++ 0 :: tail)
            = before ++ word ++ [0] ++ (text ++ 0 :: tail) := by simp
        rcases gStrchug_append (before ++ word ++ [0]) text tail restNoNul with ⟨moved, chugged⟩
        have atEnd : (before ++ word).length + 1 = (before ++ word ++ [0]).length := by
          simp [Nat.add_assoc]
        rw [opened, atEnd, chugged]
        exact ⟨word, chug text, before ++ word ++ [0], rfl,
          ⟨rfl, ⟨moved, rfl⟩, notMem_chug text restNoNul⟩, by simp [List.append_assoc],
          before, rfl, wordNoNul, Or.inl (List.prefix_refl _)⟩
      · rw [if_neg space, if_neg space]
        by_cases allowed : valid ch = true
        · rw [if_pos allowed, if_pos allowed]
          have grownNoNul : (0 : UInt8) ∉ word ++ [ch] := by
            simp [wordNoNul, chNotNul.symm]
          have grown := ih restNoNul (word ++ [ch]) grownNoNul
          simpa [List.append_assoc, Nat.add_assoc] using grown
        · rw [if_neg allowed, if_neg allowed]
          refine ⟨rfl, ?_, by simp [List.append_assoc]⟩
          rw [byteAt_append]
          exact chNotNul

theorem nextPlain_tokenizes (first valid : UInt8 → Bool) (firstMessage message front text : Bytes)
    (line : Line) (here : line.At front text) :
    Tokenizes front text line (readPlain first valid firstMessage message text)
      (nextPlain first valid firstMessage message line) := by
  rcases here.buffer with ⟨tail, buffer⟩
  rw [nextPlain, buffer, here.input]
  cases text with
  | nil =>
      rw [List.nil_append, byteAt_append, if_pos rfl]
      exact ⟨rfl, rfl, rfl⟩
  | cons ch text =>
      have chNotNul : ch ≠ 0 := fun isNul => here.noNul (isNul ▸ List.mem_cons_self)
      have restNoNul : (0 : UInt8) ∉ text := fun inText => here.noNul (List.mem_cons_of_mem _ inText)
      rw [List.cons_append, byteAt_append, if_neg chNotNul, readPlain]
      by_cases starts : first ch = true
      · rw [if_pos starts, if_pos starts]
        have loop := wordLoop_tokenizes valid message front text tail (ch :: text) line restNoNul
          [ch] (by simpa using chNotNul.symm)
        have ahead : (front ++ ch :: (text ++ 0 :: tail)).drop (front.length + 1)
            = text ++ 0 :: tail := by
          rw [← List.drop_drop, List.drop_left, List.drop_succ_cons, List.drop_zero]
        rw [ahead]
        simpa using loop
      · rw [if_neg starts, if_neg starts]
        rw [Tokenizes, buffer, here.input, List.cons_append, byteAt_append]
        exact ⟨rfl, chNotNul, List.prefix_append _ _⟩

theorem closeString_tokenizes (before word text tail whole : Bytes) (line : Line)
    (first : UInt8) (between : Bytes) (wordNoNul : (0 : UInt8) ∉ word)
    (textNoNul : (0 : UInt8) ∉ text) :
    Tokenizes before whole line (readClosed word text)
      (closeString before.length (before ++ word).length
        (before ++ word ++ first :: between ++ (text ++ 0 :: tail))
        (before ++ word ++ first :: between).length) := by
  have cut : (before ++ word ++ first :: between ++ (text ++ 0 :: tail)).set
      (before ++ word).length 0 = before ++ word ++ 0 :: between ++ (text ++ 0 :: tail) := by
    rw [List.append_assoc _ (first :: between), List.cons_append, set_append]
    simp
  have sameLength : (before ++ word ++ first :: between).length
      = (before ++ word ++ 0 :: between).length := by simp
  have closed : Tokenizes before whole line (.word word (chug text))
      (.word before.length, ⟨gStrchug (before ++ word ++ 0 :: between ++ (text ++ 0 :: tail))
        (before ++ word ++ 0 :: between).length, (before ++ word ++ 0 :: between).length⟩) := by
    rcases gStrchug_append (before ++ word ++ 0 :: between) text tail textNoNul with ⟨moved, chugged⟩
    rw [chugged]
    exact ⟨word, chug text, before ++ word ++ 0 :: between, rfl,
      ⟨rfl, ⟨moved, rfl⟩, notMem_chug text textNoNul⟩, by simp [List.append_assoc],
      before, rfl, wordNoNul, Or.inl (by simp [List.append_assoc])⟩
  rw [closeString, cut]
  cases text with
  | nil =>
      rw [List.nil_append, byteAt_append, if_neg (by simp), sameLength]
      exact closed
  | cons ch text =>
      have chNotNul : ch ≠ 0 := fun isNul => textNoNul (isNul ▸ List.mem_cons_self)
      rw [List.cons_append, byteAt_append, readClosed]
      by_cases space : isSpace ch = true
      · rw [if_pos space, if_neg (by simp [space]), sameLength]
        exact closed
      · rw [if_neg space, if_pos (And.intro chNotNul space)]
        refine ⟨rfl, ?_, by simp [List.append_assoc]⟩
        rw [byteAt_append]
        exact chNotNul

theorem byteAt_last (front between rest : Bytes) (nonempty : between ≠ []) :
    byteAt (front ++ between ++ rest) ((front ++ between).length - 1) ∈ between := by
  rcases List.eq_nil_or_concat' between |>.resolve_left nonempty with ⟨start, last, rfl⟩
  have position : (front ++ (start ++ [last])).length - 1 = (front ++ start).length := by
    simp [← Nat.add_assoc]
  have split : front ++ (start ++ [last]) ++ rest = front ++ start ++ last :: rest := by simp
  rw [position, split, byteAt_append]
  simp

/-- One turn of the copying loop: the byte goes over the first byte not yet overwritten. -/
theorem set_copied (before word between read rest : Bytes) (first new : UInt8) :
    (before ++ word ++ first :: between ++ (read ++ rest)).set (before ++ word).length new
      = before ++ (word ++ [new]) ++ (between ++ read) ++ rest := by
  rw [List.append_assoc _ (first :: between), List.cons_append, set_append]
  simp

/-- A turn that has read some bytes and copied one leaves the loop as it was, with another first
byte not yet overwritten. -/
theorem stringLoop_turn (before word between read text tail whole : Bytes) (line : Line)
    (first new : UInt8) (reading : Reading) (given : read ≠ [])
    (betweenNoNul : (0 : UInt8) ∉ first :: between) (readNoNul : (0 : UInt8) ∉ read)
    (later : ∀ (first : UInt8) (between : Bytes), (0 : UInt8) ∉ first :: between →
      Tokenizes before whole line reading
        (stringLoop before.length (before ++ (word ++ [new])).length
          (before ++ (word ++ [new]) ++ first :: between ++ (text ++ 0 :: tail))
          (before ++ (word ++ [new]) ++ first :: between).length (text ++ 0 :: tail))) :
    Tokenizes before whole line reading
      (stringLoop before.length ((before ++ word).length + 1)
        ((before ++ word ++ first :: between ++ (read ++ (text ++ 0 :: tail))).set
          (before ++ word).length new)
        ((before ++ word ++ first :: between).length + read.length) (text ++ 0 :: tail)) := by
  obtain ⟨first', between', split⟩ := List.exists_cons_of_ne_nil
    (show between ++ read ≠ [] by simp [given])
  have oldNoNul : (0 : UInt8) ∉ between := fun old => betweenNoNul (List.mem_cons_of_mem _ old)
  have stillNoNul : (0 : UInt8) ∉ between ++ read := by simp [oldNoNul, readNoNul]
  have dest : (before ++ (word ++ [new])).length = (before ++ word).length + 1 := by
    simp [Nat.add_assoc]
  have input : (before ++ (word ++ [new]) ++ (between ++ read)).length
      = (before ++ word ++ first :: between).length + read.length := by
    simp only [List.length_append, List.length_cons, List.length_nil]
    omega
  have grown := later first' between' (split ▸ stillNoNul)
  rw [← split, ← set_copied before word between read (text ++ 0 :: tail) first new, input, dest]
    at grown
  exact grown

theorem stringLoop_tokenizes (before tail whole : Bytes) (line : Line) (word text : Bytes) :
    ∀ (first : UInt8) (between : Bytes), (0 : UInt8) ∉ word → (0 : UInt8) ∉ first :: between →
      (0 : UInt8) ∉ text →
      Tokenizes before whole line (readQuoted word text)
        (stringLoop before.length (before ++ word).length
          (before ++ word ++ first :: between ++ (text ++ 0 :: tail))
          (before ++ word ++ first :: between).length (text ++ 0 :: tail)) := by
  fun_induction readQuoted word text with
  | case1 word =>
      intro first between wordNoNul betweenNoNul textNoNul
      rw [List.nil_append, stringLoop_end]
      refine ⟨rfl, fun isNul => betweenNoNul ?_, by simp [List.append_assoc]⟩
      have last := byteAt_last (before ++ word) (first :: between) (0 :: tail) (by simp)
      rwa [isNul] at last
  | case2 word text =>
      intro first between wordNoNul betweenNoNul textNoNul
      have restNoNul : (0 : UInt8) ∉ text := fun inText => textNoNul (List.mem_cons_of_mem _ inText)
      have closed := closeString_tokenizes before word text tail whole line first
        (between ++ [quote]) wordNoNul restNoNul
      rw [List.cons_append, stringLoop_quote]
      simpa [List.append_assoc, Nat.add_assoc] using closed
  | case3 word notQuote =>
      intro first between wordNoNul betweenNoNul textNoNul
      rw [List.cons_append, List.nil_append, stringLoop_backslash_end]
      refine ⟨rfl, ?_, by simp [List.append_assoc]⟩
      rw [byteAt_append]
      decide
  | case4 word escaped text notQuote ih =>
      intro first between wordNoNul betweenNoNul textNoNul
      have escapedNotNul : escaped ≠ 0 := by rintro rfl; simp at textNoNul
      have restNoNul : (0 : UInt8) ∉ text := fun inText =>
        textNoNul (List.mem_cons_of_mem _ (List.mem_cons_of_mem _ inText))
      have grown := stringLoop_turn before word between [backslash, escaped] text tail whole line
        first escaped _ (by simp) betweenNoNul (by simp [backslash, escapedNotNul.symm])
        fun first between noNul => ih first between (by simp [wordNoNul, escapedNotNul.symm]) noNul
          restNoNul
      rw [List.cons_append, List.cons_append, stringLoop_backslash _ _ _ _ _ _ escapedNotNul]
      exact grown
  | case5 word ch text notQuote notBackslash ih =>
      intro first between wordNoNul betweenNoNul textNoNul
      have chNotNul : ch ≠ 0 := by rintro rfl; simp at textNoNul
      have restNoNul : (0 : UInt8) ∉ text := fun inText => textNoNul (List.mem_cons_of_mem _ inText)
      have grown := stringLoop_turn before word between [ch] text tail whole line first ch _
        (by simp) betweenNoNul (by simpa using chNotNul.symm)
        fun first between noNul => ih first between (by simp [wordNoNul, chNotNul.symm]) noNul
          restNoNul
      rw [List.cons_append, stringLoop_copy _ _ _ _ _ _ notQuote notBackslash chNotNul]
      exact grown

theorem tokenizerNextString_tokenizes (front text : Bytes) (line : Line)
    (here : line.At front (quote :: text)) :
    Tokenizes front (quote :: text) line (readQuoted [] text) (tokenizerNextString line) := by
  rcases here.buffer with ⟨tail, buffer⟩
  have restNoNul : (0 : UInt8) ∉ text := fun inText => here.noNul (List.mem_cons_of_mem _ inText)
  have loop := stringLoop_tokenizes front tail (quote :: text) line [] text quote [] (by simp)
    (by decide) restNoNul
  have ahead : (front ++ quote :: (text ++ 0 :: tail)).drop (front.length + 1)
      = text ++ 0 :: tail := by
    rw [← List.drop_drop, List.drop_left, List.drop_succ_cons, List.drop_zero]
  rw [tokenizerNextString, buffer, here.input, List.cons_append, byteAt_append,
    if_neg (by decide), if_pos rfl, ahead]
  simpa using loop

theorem tokenizerNextParam_tokenizes (front text : Bytes) (line : Line)
    (here : line.At front text) :
    Tokenizes front text line (readParam text) (tokenizerNextParam line) := by
  have unquoted := nextPlain_tokenizes validUnquotedChar validUnquotedChar
    (lit "Invalid unquoted character") (lit "Invalid unquoted character") front text line here
  rcases here.buffer with ⟨tail, buffer⟩
  rw [tokenizerNextParam]
  cases text with
  | nil =>
      have atEnd : byteAt line.buffer line.input = 0 := by
        rw [buffer, here.input, List.nil_append, byteAt_append]
      rw [if_neg (by rw [atEnd]; decide)]
      exact unquoted
  | cons ch text =>
      have atStart : byteAt line.buffer line.input = ch := by
        rw [buffer, here.input, List.cons_append, byteAt_append]
      rw [readParam, atStart]
      by_cases quoted : ch = quote
      · subst quoted
        rw [if_pos rfl, if_pos rfl]
        exact tokenizerNextString_tokenizes front text line here
      · rw [if_neg quoted, if_neg quoted]
        exact unquoted

theorem Terminated.grow (front front' rest rest' word : Bytes) (start : Nat)
    (cut : Terminated front rest word start) (more : rest ≠ []) (grows : front <+: front') :
    Terminated front' rest' word start := by
  rcases cut with ⟨before, atStart, noNul, stored | ⟨finished, -⟩⟩
  · exact ⟨before, atStart, noNul, Or.inl (stored.trans grows)⟩
  · exact absurd finished more

theorem Terminated.reads (front rest word buffer : Bytes) (start : Nat)
    (cut : Terminated front rest word start) (stored : front <+: buffer)
    (closed : rest = [] → front ++ [0] <+: buffer) : stringAt buffer start = word := by
  rcases cut with ⟨before, rfl, noNul, inFront⟩
  have complete : before ++ word ++ [0] <+: buffer := by
    rcases inFront with inside | ⟨finished, rfl⟩
    · exact inside.trans stored
    · exact closed finished
  rcases complete with ⟨tail, rfl⟩
  have shape : before ++ word ++ [0] ++ tail = before ++ (word ++ 0 :: tail) := by simp
  rw [shape, stringAt_append before word tail noNul]

/-- How the in-place loop over the parameters relates to the one on the text. -/
structure Reads (cut : List Nat × Line × Option Bytes) (read : List Bytes × Bytes × Option Bytes) :
    Prop where
  words : List.Forall₂ (fun start word => stringAt cut.2.1.buffer start = word) cut.1 read.1
  atEnd : byteAt cut.2.1.buffer cut.2.1.input = 0 ↔ read.2.1 = []
  error : cut.2.2 = read.2.2

theorem Line.At.reads (front text : Bytes) (line : Line) (here : line.At front text)
    (starts : List Nat) (words : List Bytes)
    (cut : List.Forall₂ (fun start word => Terminated front text word start) starts words) :
    Reads (starts, line, none) (words, text, none) := by
  rcases here.buffer with ⟨tail, buffer⟩
  refine ⟨cut.imp fun start word terminated => ?_, ?_, rfl⟩
  · refine terminated.reads front text word _ start ⟨_, buffer.symm⟩ ?_
    rintro rfl
    exact ⟨tail, by simp [buffer]⟩
  · dsimp only
    rw [buffer, here.input]
    cases text with
    | nil => simp [byteAt_append]
    | cons ch text =>
        have chNotNul : ch ≠ 0 := fun isNul => here.noNul (isNul ▸ List.mem_cons_self)
        rw [List.cons_append, byteAt_append]
        simp [chNotNul]

theorem readParam_failed (text message : Bytes) (failed : readParam text = .failed message) :
    text ≠ [] := by
  rintro rfl
  cases failed

theorem readParam_word (text value rest : Bytes) (word : readParam text = .word value rest) :
    text ≠ [] := by
  rintro rfl
  cases word

theorem nextParams_reads (slots : Nat) :
    ∀ (front text : Bytes) (line : Line) (starts : List Nat) (words : List Bytes),
      line.At front text →
      List.Forall₂ (fun start word => Terminated front text word start) starts words →
      Reads (nextParams starts line slots) (readParams words text slots) := by
  induction slots with
  | zero =>
      intro front text line starts words here cut
      exact here.reads front text line starts words cut
  | succ slots ih =>
      intro front text line starts words here cut
      have step := tokenizerNextParam_tokenizes front text line here
      rw [nextParams, readParams]
      cases token : tokenizerNextParam line with
      | mk result after =>
          rw [token] at step
          cases result with
          | word start =>
              rcases step with ⟨value, rest, front', reading, there, grows, stored⟩
              have more := readParam_word text value rest reading
              have cut' := cut.imp fun start word terminated =>
                terminated.grow front front' text rest word start more grows
              rw [reading]
              exact ih front' rest after _ _ there
                (List.rel_append cut' (List.Forall₂.cons stored List.Forall₂.nil))
          | endOfLine =>
              rcases step with ⟨reading, rfl, rfl⟩
              rw [reading]
              exact here.reads front [] after starts words cut
          | error message =>
              rcases step with ⟨reading, notEnd, kept⟩
              have more := readParam_failed text message reading
              rw [reading]
              refine ⟨cut.imp fun start word terminated => ?_, by simp [notEnd, more], rfl⟩
              exact terminated.reads front text word _ start kept (fun done => absurd done more)

end InPlace

end Mpdcron.Stats
