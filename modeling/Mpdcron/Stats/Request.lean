import Mpdcron.Stats.Command
import Mpdcron.Stats.TokenizerSpec

/-! What `command_process` makes of a line, as a function of the text. -/

namespace Mpdcron.Stats

open CString

/-- How a line tokenizes. -/
inductive Request where
  | noCommand
  | badWord (message : Bytes)
  | tooMany (name : Bytes)
  | badParam (name message : Bytes)
  | request (argv : List Bytes)
  deriving DecidableEq, Repr

def paramsRequest (name : Bytes) : List Bytes × Bytes × Option Bytes → Request
  | (argv, rest, error) =>
      if argv.length ≥ commandArgvMax then .tooMany name
      else if rest = [] then .request argv
      else .badParam name (error.getD [])

def readRequest (text : Bytes) : Request :=
  match readWord text with
  | .endOfLine => .noCommand
  | .failed message => .badWord message
  | .word name rest => paramsRequest name (readParams [name] rest (commandArgvMax - 1))

theorem readPlainRest_reads (valid : UInt8 → Bool) (message word text : Bytes) :
    readPlainRest valid message word text ≠ .endOfLine := by
  fun_induction readPlainRest valid message word text with
  | case1 word => simp
  | case2 word ch text space => simp
  | case3 word ch text space allowed ih => exact ih
  | case4 word ch text space allowed => simp

theorem readClosed_reads (word text : Bytes) : readClosed word text ≠ .endOfLine := by
  cases text with
  | nil => simp [readClosed]
  | cons ch text =>
      rw [readClosed]
      split <;> simp

theorem readQuoted_reads (word text : Bytes) : readQuoted word text ≠ .endOfLine := by
  fun_induction readQuoted word text with
  | case1 word => simp
  | case2 word text => exact readClosed_reads word text
  | case3 word notQuote => simp
  | case4 word escaped text notQuote ih => exact ih
  | case5 word ch text notQuote notBackslash ih => exact ih

theorem readPlain_endOfLine (first valid : UInt8 → Bool) (firstMessage message text : Bytes)
    (atEnd : readPlain first valid firstMessage message text = .endOfLine) : text = [] := by
  cases text with
  | nil => rfl
  | cons ch text =>
      rw [readPlain] at atEnd
      split at atEnd
      · exact absurd atEnd (readPlainRest_reads valid message [ch] text)
      · cases atEnd

theorem readParam_endOfLine (text : Bytes) (atEnd : readParam text = .endOfLine) : text = [] := by
  cases text with
  | nil => rfl
  | cons ch text =>
      rw [readParam] at atEnd
      split at atEnd
      · exact absurd atEnd (readQuoted_reads [] text)
      · exact readPlain_endOfLine _ _ _ _ _ atEnd

/-- A full `argv`, a finished line, or an error. -/
theorem readParams_stops (slots : Nat) : ∀ (words : List Bytes) (text : Bytes),
    words.length + slots = (readParams words text slots).1.length ∨
      (readParams words text slots).2.1 = [] ∨ (readParams words text slots).2.2.isSome := by
  induction slots with
  | zero =>
      intro words text
      exact Or.inl rfl
  | succ slots ih =>
      intro words text
      rw [readParams]
      cases reading : readParam text with
      | word value rest =>
          have later := ih (words ++ [value]) rest
          rwa [List.length_append, List.length_singleton, Nat.add_assoc, Nat.add_comm 1] at later
      | endOfLine => exact Or.inr (Or.inl (readParam_endOfLine text reading))
      | failed message => exact Or.inr (Or.inr rfl)

theorem readParams_prefix (slots : Nat) : ∀ (words : List Bytes) (text : Bytes),
    words <+: (readParams words text slots).1 := by
  induction slots with
  | zero => intro words text; exact List.prefix_refl words
  | succ slots ih =>
      intro words text
      rw [readParams]
      cases readParam text with
      | word value rest => exact (List.prefix_append words [value]).trans (ih _ rest)
      | endOfLine => exact List.prefix_refl words
      | failed message => exact List.prefix_refl words

/-- What a tokenizer reads off a text without newlines has none either. -/
def Reading.Plain : Reading → Prop
  | .word value rest => newline ∉ value ∧ newline ∉ rest
  | .endOfLine => True
  | .failed message => newline ∉ message

theorem chug_plain (text : Bytes) (plain : newline ∉ text) : newline ∉ chug text :=
  fun present => plain ((chug_suffix text).subset present)

theorem readPlainRest_plain (valid : UInt8 → Bool) (message word text : Bytes)
    (fixed : newline ∉ message) :
    newline ∉ word → newline ∉ text → (readPlainRest valid message word text).Plain := by
  fun_induction readPlainRest valid message word text with
  | case1 word => exact fun wordPlain textPlain => ⟨wordPlain, textPlain⟩
  | case2 word ch text space =>
      intro wordPlain textPlain
      exact ⟨wordPlain, chug_plain text fun present => textPlain (List.mem_cons_of_mem _ present)⟩
  | case3 word ch text space allowed ih =>
      intro wordPlain textPlain
      simp only [List.mem_cons, not_or] at textPlain
      exact ih (by simp [wordPlain, textPlain.1]) textPlain.2
  | case4 word ch text space allowed => exact fun wordPlain textPlain => fixed

theorem readPlain_plain (first valid : UInt8 → Bool) (firstMessage message text : Bytes)
    (fixed : newline ∉ firstMessage ∧ newline ∉ message) (plain : newline ∉ text) :
    (readPlain first valid firstMessage message text).Plain := by
  cases text with
  | nil => trivial
  | cons ch text =>
      simp only [List.mem_cons, not_or] at plain
      rw [readPlain]
      split
      · exact readPlainRest_plain valid message [ch] text fixed.2 (by simpa using plain.1) plain.2
      · exact fixed.1

theorem readClosed_plain (word text : Bytes) (wordPlain : newline ∉ word)
    (textPlain : newline ∉ text) : (readClosed word text).Plain := by
  cases text with
  | nil => exact ⟨wordPlain, textPlain⟩
  | cons ch text =>
      rw [readClosed]
      split
      · exact ⟨wordPlain, chug_plain (ch :: text) textPlain⟩
      · exact (by decide : newline ∉ lit "Space expected after closing '\"'")

theorem readQuoted_plain (word text : Bytes) :
    newline ∉ word → newline ∉ text → (readQuoted word text).Plain := by
  have fixed : newline ∉ lit "Missing closing '\"'" := by decide
  fun_induction readQuoted word text with
  | case1 word => exact fun wordPlain textPlain => fixed
  | case2 word text =>
      intro wordPlain textPlain
      exact readClosed_plain word text wordPlain
        fun present => textPlain (List.mem_cons_of_mem _ present)
  | case3 word notQuote => exact fun wordPlain textPlain => fixed
  | case4 word escaped text notQuote ih =>
      intro wordPlain textPlain
      simp only [List.mem_cons, not_or] at textPlain
      exact ih (by simp [wordPlain, textPlain.2.1]) textPlain.2.2
  | case5 word ch text notQuote notBackslash ih =>
      intro wordPlain textPlain
      simp only [List.mem_cons, not_or] at textPlain
      exact ih (by simp [wordPlain, textPlain.1]) textPlain.2

theorem readParam_plain (text : Bytes) (plain : newline ∉ text) : (readParam text).Plain := by
  cases text with
  | nil => trivial
  | cons ch text =>
      rw [readParam]
      split
      · exact readQuoted_plain [] text (by simp) fun present =>
          plain (List.mem_cons_of_mem _ present)
      · exact readPlain_plain _ _ _ _ _ (by decide) plain

theorem readParams_plain (slots : Nat) : ∀ (words : List Bytes) (text : Bytes),
    (∀ word ∈ words, newline ∉ word) → newline ∉ text →
      (∀ word ∈ (readParams words text slots).1, newline ∉ word) ∧
        ∀ message ∈ (readParams words text slots).2.2, newline ∉ message := by
  induction slots with
  | zero => exact fun words text wordsPlain textPlain => ⟨wordsPlain, by simp [readParams]⟩
  | succ slots ih =>
      intro words text wordsPlain textPlain
      have reading := readParam_plain text textPlain
      rw [readParams]
      generalize readParam text = read at reading ⊢
      cases read with
      | word value rest =>
          refine ih (words ++ [value]) rest ?_ reading.2
          simpa [or_imp, forall_and] using And.intro wordsPlain reading.1
      | endOfLine => exact ⟨wordsPlain, by simp⟩
      | failed message => exact ⟨wordsPlain, by simpa [Reading.Plain] using reading⟩

/-- The words and messages of a request are parts of one line. -/
def Request.Plain : Request → Prop
  | .noCommand => True
  | .badWord message => newline ∉ message
  | .tooMany name => newline ∉ name
  | .badParam name message => newline ∉ name ∧ newline ∉ message
  | .request argv => ∀ word ∈ argv, newline ∉ word

theorem readRequest_plain (text : Bytes) (plain : newline ∉ text) : (readRequest text).Plain := by
  have reading : (readWord text).Plain := readPlain_plain _ _ _ _ text (by decide) plain
  rw [readRequest]
  cases first : readWord text with
  | endOfLine => trivial
  | failed message =>
      rw [first] at reading
      exact reading
  | word name rest =>
      rw [first] at reading
      have params := readParams_plain (commandArgvMax - 1) [name] rest (by simpa using reading.1)
        reading.2
      dsimp only
      generalize readParams [name] rest (commandArgvMax - 1) = read at params ⊢
      rcases read with ⟨argv, left, error⟩
      rw [paramsRequest]
      split
      · exact reading.1
      · split
        · exact params.1
        · refine ⟨reading.1, ?_⟩
          cases error with
          | none => simp
          | some message => exact params.2 message rfl

theorem readRequest_given (text : Bytes) (argv : List Bytes)
    (tokenized : readRequest text = .request argv) : argv ≠ [] := by
  rw [readRequest] at tokenized
  cases first : readWord text with
  | endOfLine =>
      rw [first] at tokenized
      cases tokenized
  | failed message =>
      rw [first] at tokenized
      cases tokenized
  | word name rest =>
      have words := readParams_prefix (commandArgvMax - 1) [name] rest
      rw [first] at tokenized
      dsimp only at tokenized
      generalize readParams [name] rest (commandArgvMax - 1) = read at words tokenized
      rcases read with ⟨argv', left, error⟩
      rw [paramsRequest] at tokenized
      split at tokenized
      · cases tokenized
      · split at tokenized
        · cases tokenized
          rintro rfl
          simp at words
        · cases tokenized

variable {Db : Type} (host : Host Db)

/-- What `command_process` does with a line that tokenizes so. -/
def processed (client : Nat) (st : State Db) :
    Request → Except Fault (CommandReturn × State Db)
  | .noCommand =>
      refuse client ackErrorUnknown (lit "No command given") { st with currentCommand := some [] }
  | .badWord message =>
      refuse client ackErrorUnknown message { st with currentCommand := some [] }
  | .tooMany name =>
      refuse client ackErrorArg (lit "Too many arguments") { st with currentCommand := some name }
  | .badParam name message =>
      refuse client ackErrorArg message { st with currentCommand := some name }
  | .request argv =>
      processRequest host client argv { st with currentCommand := some (argv.headD []) }

theorem Reads.texts (cut : List Nat × Line × Option Bytes)
    (read : List Bytes × Bytes × Option Bytes) (reads : Reads cut read) :
    cut.1.map (stringAt cut.2.1.buffer) = read.1 := by
  rw [← List.forall₂_eq_eq_eq, List.forall₂_map_left_iff]
  exact reads.words

theorem processParams_eq (client : Nat) (st : State Db) (name text : Bytes) (slots : Nat)
    (room : slots + 1 = commandArgvMax) (cut : List Nat × Line × Option Bytes)
    (reads : Reads cut (readParams [name] text slots)) :
    processParams host client cut.1 cut.2.1 cut.2.2 st
      = processed host client st (paramsRequest name (readParams [name] text slots)) := by
  have stops := readParams_stops slots [name] text
  rcases readParams_prefix slots [name] text with ⟨more, words⟩
  have sameLength := reads.words.length_eq
  rw [processParams, reads.texts, sameLength, reads.error]
  simp only [ne_eq, reads.atEnd]
  rw [List.length_singleton, Nat.add_comm, room] at stops
  revert stops words
  generalize readParams [name] text slots = read
  intro stops words
  rcases read with ⟨argv, rest, error⟩
  dsimp only at stops words ⊢
  subst words
  rw [paramsRequest]
  by_cases full : ([name] ++ more).length ≥ commandArgvMax
  · rw [if_pos full, if_pos full]
    rfl
  · rw [if_neg full, if_neg full]
    by_cases finished : rest = []
    · rw [if_neg (not_not_intro finished), if_pos finished]
      rfl
    · rw [if_pos finished, if_neg finished]
      have failed := stops.resolve_left (fun full' => full full'.le) |>.resolve_left finished
      rcases Option.isSome_iff_exists.mp failed with ⟨message, rfl⟩
      rfl

theorem atStart (line : Bytes) (noNul : (0 : UInt8) ∉ line) :
    Line.At [] line ⟨line ++ [0], 0⟩ := ⟨rfl, ⟨[], rfl⟩, noNul⟩

/-- `command_process` depends on the line through the words it tokenizes into. -/
theorem commandProcess_eq (client : Nat) (line : Bytes) (st : State Db)
    (noNul : (0 : UInt8) ∉ line) :
    commandProcess host client line st = processed host client st (readRequest line) := by
  have step := nextPlain_tokenizes validWordFirstChar validWordChar (lit "Letter expected")
    (lit "Invalid word character") [] line ⟨line ++ [0], 0⟩ (atStart line noNul)
  rw [commandProcess, tokenizerNextWord, readRequest, readWord]
  cases token : nextPlain validWordFirstChar validWordChar (lit "Letter expected")
      (lit "Invalid word character") ⟨line ++ [0], 0⟩ with
  | mk result after =>
      rw [token] at step
      cases result with
      | word start =>
          rcases step with ⟨value, rest, front, reading, there, -, stored⟩
          rw [reading]
          have loop := nextParams_reads (commandArgvMax - 1) front rest after [start] [value]
            there (List.Forall₂.cons stored List.Forall₂.nil)
          exact processParams_eq host client st value rest (commandArgvMax - 1) rfl
            (nextParams [start] after (commandArgvMax - 1)) loop
      | endOfLine =>
          rcases step with ⟨reading, rfl, rfl⟩
          rw [reading]
          rfl
      | error message =>
          rcases step with ⟨reading, notEnd, -⟩
          rw [reading]
          dsimp only
          rw [if_neg notEnd]
          rfl

end Mpdcron.Stats
