import Mpdcron.Stats.Grammar

/-! The request encoder of `eugene-connection.c` against the tokenizer of the server. -/

namespace Mpdcron.Eugene

open CString
open Mpdcron.Stats

def escape : Bytes → Bytes
  | [] => []
  | p :: src => if p = quote ∨ p = backslash then backslash :: p :: escape src else p :: escape src

/-- One argument as it stands in the line: a space and the quoted text. -/
def encodeArg (arg : Bytes) : Bytes := 32 :: quote :: (escape arg ++ [quote])

/-- The bytes that `mpdcron_send_commandv` writes. -/
def mpdcronSendCommandv (command : Bytes) (args : List Bytes) : Bytes :=
  command ++ args.flatMap encodeArg ++ [newline]

/-- A letter followed by letters, digits or underscores. -/
def IsCommandWord (word : Bytes) : Prop :=
  ∃ first rest, word = first :: rest ∧ validWordFirstChar first ∧ ∀ ch ∈ rest, validWordChar ch

theorem IsCommandWord.word {command : Bytes} (isWord : IsCommandWord command) : Word command := by
  rcases isWord with ⟨first, rest, rfl, letter, valid⟩
  exact .letter first rest letter fun ch inRest => (validWordChar_iff ch).mp (valid ch inRest)

theorem escape_escaped (arg : Bytes) : Escaped (escape arg) arg := by
  induction arg with
  | nil => exact .nil
  | cons p arg ih =>
      rw [escape]
      by_cases special : p = quote ∨ p = backslash
      · rw [if_pos special]
        exact .escape p _ _ ih
      · rw [if_neg special]
        rw [not_or] at special
        exact .plain p _ _ special.1 special.2 ih

/-- The arguments are parameters of the grammar of the server. -/
theorem args_params (args : List Bytes) : Params (args.flatMap encodeArg) args := by
  induction args with
  | nil => exact .none
  | cons arg args ih =>
      have param : Param (quote :: (escape arg ++ [quote])) arg := .quoted _ _ (escape_escaped arg)
      rw [List.flatMap_cons]
      exact .more [32] _ arg _ args (List.cons_ne_nil _ _) (by simp [Blank, isSpace]) param ih

theorem args_ended (args : List Bytes) : Ended (args.flatMap encodeArg) := by
  simpa using (args_params args).ended [] (by simp [Blank])

/-- There is a free slot for each argument. -/
theorem readParams_fits (args : List Bytes) (slots : Nat) (words : List Bytes)
    (fits : args.length ≤ slots) :
    readParams words (chug (args.flatMap encodeArg)) slots = (words ++ args, [], none) := by
  have read := readParams_params (args_params args) [] (by simp [Blank]) slots words fits
  rwa [List.append_nil] at read

theorem readWord_command (command : Bytes) (args : List Bytes) (word : IsCommandWord command) :
    readWord (command ++ args.flatMap encodeArg)
      = .word command (chug (args.flatMap encodeArg)) :=
  (readWord_iff _ _ _).mpr ⟨args.flatMap encodeArg, rfl, word.word, args_ended args, rfl⟩

theorem escape_keeps (byte : UInt8) (notBackslash : byte ≠ backslash) (arg : Bytes)
    (absent : byte ∉ arg) : byte ∉ escape arg := by
  induction arg with
  | nil => exact absent
  | cons p arg ih =>
      simp only [List.mem_cons, not_or] at absent
      have later := ih absent.2
      rw [escape]
      split
      · simp [notBackslash, absent.1, later]
      · simp [absent.1, later]

theorem args_keep (byte : UInt8) (notBackslash : byte ≠ backslash) (notQuote : byte ≠ quote)
    (notSpace : byte ≠ 32) (args : List Bytes) (absent : ∀ arg ∈ args, byte ∉ arg) :
    byte ∉ args.flatMap encodeArg := by
  intro present
  rcases List.mem_flatMap.mp present with ⟨arg, inArgs, inArg⟩
  have inEscape : byte ∈ escape arg := by
    simpa [encodeArg, notSpace, notQuote] using inArg
  exact escape_keeps byte notBackslash arg (absent arg inArgs) inEscape

theorem word_keeps (byte : UInt8) (notValid : validWordChar byte = false) (command : Bytes)
    (word : IsCommandWord command) : byte ∉ command := by
  rcases word with ⟨first, rest, rfl, letter, valid⟩
  have firstValid : validWordChar first := by
    rw [validWordFirstChar] at letter
    simp [validWordChar, letter]
  intro present
  have byteValid : validWordChar byte := by
    rcases List.mem_cons.mp present with rfl | inRest
    · exact firstValid
    · exact valid byte inRest
  rw [notValid] at byteValid
  cases byteValid

/-- A byte that is in no argument is not in the line either. -/
theorem request_keeps (byte : UInt8) (notValid : validWordChar byte = false)
    (notBackslash : byte ≠ backslash) (notQuote : byte ≠ quote) (notSpace : byte ≠ 32)
    (command : Bytes) (args : List Bytes) (word : IsCommandWord command)
    (absent : ∀ arg ∈ args, byte ∉ arg) : byte ∉ command ++ args.flatMap encodeArg := by
  have inArgs := args_keep byte notBackslash notQuote notSpace args absent
  simpa [inArgs] using word_keeps byte notValid command word

/-- The tokenizer loop finds the command and its arguments in place. -/
theorem request_argv (command : Bytes) (args : List Bytes) (word : IsCommandWord command)
    (noNul : (0 : UInt8) ∉ command ++ args.flatMap encodeArg) (few : args.length ≤ 14) :
    ∃ start rest argv after,
      tokenizerNextWord ⟨command ++ args.flatMap encodeArg ++ [0], 0⟩ = (.word start, rest) ∧
      nextParams [start] rest (commandArgvMax - 1) = (argv, after, none) ∧
      argv.map (stringAt after.buffer) = command :: args ∧
      byteAt after.buffer after.input = 0 := by
  rcases looped_reads [] noNul command _ (readWord_command command args word) with
    ⟨argv, after, error, ⟨start, rest, first, loop⟩, reads⟩
  have room : args.length ≤ commandArgvMax - 1 := few.trans (by decide)
  rw [readParams_fits args _ [command] room] at reads
  obtain rfl : error = none := reads.error
  exact ⟨start, rest, argv, after, first, loop, reads.texts, reads.atEnd.mpr rfl⟩

/-- The tokenizer loop of `command_process` gives back the command and its arguments; with
more arguments than `argv` has slots there is one ACK and nothing else happens. -/
theorem request_round_trip (command : Bytes) (args : List Bytes) (word : IsCommandWord command)
    (plain : ∀ arg ∈ args, (0 : UInt8) ∉ arg ∧ newline ∉ arg) :
    ∃ line, mpdcronSendCommandv command args = line ++ [newline] ∧ newline ∉ line ∧
      (args.length ≤ 14 → ∃ start rest argv after,
        tokenizerNextWord ⟨line ++ [0], 0⟩ = (.word start, rest) ∧
        nextParams [start] rest (commandArgvMax - 1) = (argv, after, none) ∧
        argv.map (stringAt after.buffer) = command :: args ∧
        byteAt after.buffer after.input = 0) ∧
      (15 ≤ args.length → ∀ (Db : Type) (host : Host Db) (client : Nat) (st : State Db),
        commandProcess host client line st = .ok (.error,
          { st with
            output := Function.update st.output client (st.output client ++
              (ackLine ackErrorArg command (lit "Too many arguments") ++ [newline]))
            flushes := Function.update st.flushes client (st.flushes client + 1)
            currentCommand := none })) := by
  have noNul := request_keeps 0 (by decide) (by decide) (by decide) (by decide) command args word
    fun arg inArgs => (plain arg inArgs).1
  have noNewline := request_keeps newline (by decide) (by decide) (by decide) (by decide) command
    args word fun arg inArgs => (plain arg inArgs).2
  refine ⟨command ++ args.flatMap encodeArg, rfl, noNewline,
    request_argv command args word noNul, fun many => ?_⟩
  intro Db host client st
  have full := readParams_full (args_params args) (commandArgvMax - 1) [command] many
  have tooMany : readRequest (command ++ args.flatMap encodeArg) = .tooMany command := by
    rw [readRequest, readWord_command command args word]
    exact if_pos full.ge
  rw [commandProcess_eq host client _ st noNul, tooMany]
  rfl

theorem request_round_trip_kill : ∃ line,
    mpdcronSendCommandv (lit "kill") [lit "name=\"\\"] = line ++ [newline] ∧ newline ∉ line ∧
      ∃ start rest argv after,
        tokenizerNextWord ⟨line ++ [0], 0⟩ = (.word start, rest) ∧
        nextParams [start] rest (commandArgvMax - 1) = (argv, after, none) ∧
        argv.map (stringAt after.buffer) = [lit "kill", lit "name=\"\\"] ∧
        byteAt after.buffer after.input = 0 := by
  have trip := request_round_trip (lit "kill") [lit "name=\"\\"]
    ⟨107, lit "ill", by decide, by decide, List.all_eq_true.mp (by decide)⟩ (by decide)
  rcases trip with ⟨line, sent, noNewline, parsed, -⟩
  exact ⟨line, sent, noNewline, parsed (by decide)⟩

end Mpdcron.Eugene
