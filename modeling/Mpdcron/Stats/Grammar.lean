import Mpdcron.Stats.Request

/-! The grammar of a request line, and the proof that the tokenizer loop accepts just that. -/

namespace Mpdcron.Stats

open CString

/-! ### The grammar -/

def Blank (text : Bytes) : Prop := ∀ ch ∈ text, isSpace ch

/-- A letter, then letters, digits or underscores. -/
inductive Word : Bytes → Prop where
  | letter (first : UInt8) (rest : Bytes) (alpha : isAlpha first)
      (valid : ∀ ch ∈ rest, isAlpha ch ∨ isDigit ch ∨ ch = 95) : Word (first :: rest)

/-- What stands between two quotes, and the bytes that it stands for. -/
inductive Escaped : Bytes → Bytes → Prop where
  | nil : Escaped [] []
  | plain (ch : UInt8) (body value : Bytes) (notQuote : ch ≠ quote) (notBackslash : ch ≠ backslash)
      (rest : Escaped body value) : Escaped (ch :: body) (ch :: value)
  | escape (ch : UInt8) (body value : Bytes) (rest : Escaped body value) :
      Escaped (backslash :: ch :: body) (ch :: value)

/-- A parameter and its value. -/
inductive Param : Bytes → Bytes → Prop where
  | unquoted (text : Bytes) (given : text ≠ [])
      (valid : ∀ ch ∈ text, 32 < ch ∧ ch ≠ quote ∧ ch ≠ 39) : Param text text
  | quoted (body value : Bytes) (escaped : Escaped body value) :
      Param (quote :: (body ++ [quote])) value

/-- Parameters, each after white space. -/
inductive Params : Bytes → List Bytes → Prop where
  | none : Params [] []
  | more (blanks text value rest : Bytes) (values : List Bytes) (apart : blanks ≠ [])
      (blank : Blank blanks) (param : Param text value) (later : Params rest values) :
      Params (blanks ++ (text ++ rest)) (value :: values)

inductive Words : Bytes → List Bytes → Prop where
  | command (name params : Bytes) (values : List Bytes) (word : Word name)
      (given : Params params values) : Words (name ++ params) (name :: values)

/-- A line that is a request with these words: at most 14 parameters, and white space. -/
def LineOf (line : Bytes) (argv : List Bytes) : Prop :=
  ∃ text blanks, line = text ++ blanks ∧ Words text argv ∧ Blank blanks ∧ argv.length ≤ 15

/-- What may follow a word: nothing, or white space. -/
def Ended (rest : Bytes) : Prop := ∀ ch ∈ rest.head?, isSpace ch

theorem Blank.ended {blanks : Bytes} (blank : Blank blanks) : Ended blanks :=
  fun ch first => blank ch (List.mem_of_mem_head? first)

theorem Blank.chug {blanks : Bytes} (blank : Blank blanks) : CString.chug blanks = [] := by
  rw [CString.chug, List.dropWhile_eq_nil_iff]
  exact blank

theorem chug_blanks (blanks text : Bytes) (blank : Blank blanks) :
    chug (blanks ++ text) = chug text := by
  rw [chug, List.dropWhile_append_of_pos blank]
  rfl

theorem ended_append (blanks text : Bytes) (apart : blanks ≠ []) (blank : Blank blanks) :
    Ended (blanks ++ text) := by
  rcases List.exists_cons_of_ne_nil apart with ⟨first, more, rfl⟩
  intro ch head
  cases head
  exact blank first List.mem_cons_self

theorem Params.ended {text : Bytes} {values : List Bytes} (params : Params text values)
    (blanks : Bytes) (blank : Blank blanks) : Ended (text ++ blanks) := by
  cases params with
  | none => exact blank.ended
  | more between text value rest values apart spaces param later =>
      rw [List.append_assoc]
      exact ended_append between _ apart spaces

/-! ### Unquoted words -/

theorem readPlainRest_run (valid : UInt8 → Bool) (message run rest : Bytes) (ended : Ended rest)
    (fits : ∀ ch ∈ run, isSpace ch = false ∧ valid ch) : ∀ word : Bytes,
    readPlainRest valid message word (run ++ rest) = .word (word ++ run) (chug rest) := by
  induction run with
  | nil =>
      intro word
      cases rest with
      | nil => simp [readPlainRest, chug]
      | cons ch rest =>
          have space : isSpace ch := ended ch rfl
          rw [List.nil_append, readPlainRest, if_pos space, chug_cons_space ch rest space]
          simp
  | cons ch run ih =>
      intro word
      have here := fits ch List.mem_cons_self
      have later := ih (fun next member => fits next (List.mem_cons_of_mem _ member)) (word ++ [ch])
      rw [List.cons_append, readPlainRest, if_neg (by simp [here.1]), if_pos here.2, later]
      simp

theorem readPlainRest_word (valid : UInt8 → Bool) (message word text value rest : Bytes) :
    readPlainRest valid message word text = .word value rest →
    ∃ run after, text = run ++ after ∧ Ended after ∧ (∀ ch ∈ run, valid ch) ∧
      value = word ++ run ∧ rest = chug after := by
  fun_induction readPlainRest valid message word text with
  | case1 word =>
      intro read
      cases read
      exact ⟨[], [], rfl, by simp [Ended], by simp, by simp, rfl⟩
  | case2 word ch text space =>
      intro read
      cases read
      refine ⟨[], ch :: text, rfl, ?_, by simp, by simp, (chug_cons_space ch text space).symm⟩
      intro next head
      cases head
      exact space
  | case3 word ch text space allowed ih =>
      intro read
      rcases ih read with ⟨run, after, rfl, ended, valid, same, left⟩
      refine ⟨ch :: run, after, rfl, ended, ?_, by simp [same], left⟩
      simpa [allowed] using valid
  | case4 word ch text space allowed =>
      intro read
      cases read

/-! ### Quoted strings -/

theorem readClosed_ended (word rest : Bytes) (ended : Ended rest) :
    readClosed word rest = .word word (chug rest) := by
  cases rest with
  | nil => rfl
  | cons ch rest => exact if_pos (ended ch rfl)

theorem readClosed_word (word text value rest : Bytes)
    (read : readClosed word text = .word value rest) :
    Ended text ∧ value = word ∧ rest = chug text := by
  cases text with
  | nil =>
      cases read
      exact ⟨by simp [Ended], rfl, rfl⟩
  | cons ch text =>
      rw [readClosed] at read
      split at read
      · rename_i space
        cases read
        refine ⟨?_, rfl, rfl⟩
        intro next head
        cases head
        exact space
      · cases read

theorem readQuoted_escaped {body value : Bytes} (escaped : Escaped body value) (rest : Bytes) :
    ∀ word : Bytes, readQuoted word (body ++ quote :: rest) = readClosed (word ++ value) rest := by
  induction escaped with
  | nil =>
      intro word
      rw [List.nil_append, readQuoted.eq_def]
      simp
  | plain ch body value notQuote notBackslash later ih =>
      intro word
      have copied := ih (word ++ [ch])
      rw [List.append_assoc, List.singleton_append] at copied
      rw [List.cons_append, readQuoted.eq_def]
      simp only [if_neg notQuote, if_neg notBackslash]
      exact copied
  | escape ch body value later ih =>
      intro word
      have copied := ih (word ++ [ch])
      rw [List.append_assoc, List.singleton_append] at copied
      rw [List.cons_append, List.cons_append, readQuoted.eq_def]
      simp only [if_neg (show backslash ≠ quote by decide), if_true]
      exact copied

theorem readQuoted_word (word text value rest : Bytes) :
    readQuoted word text = .word value rest →
    ∃ body decoded after, text = body ++ quote :: after ∧ Escaped body decoded ∧
      value = word ++ decoded ∧ Ended after ∧ rest = chug after := by
  fun_induction readQuoted word text with
  | case1 word =>
      intro read
      cases read
  | case2 word text =>
      intro read
      rcases readClosed_word word text value rest read with ⟨ended, same, left⟩
      exact ⟨[], [], text, rfl, .nil, by simp [same], ended, left⟩
  | case3 word notQuote =>
      intro read
      cases read
  | case4 word ch text notQuote ih =>
      intro read
      rcases ih read with ⟨body, decoded, after, rfl, escaped, same, ended, left⟩
      exact ⟨backslash :: ch :: body, ch :: decoded, after, rfl, .escape ch _ _ escaped,
        by simp [same], ended, left⟩
  | case5 word ch text notQuote notBackslash ih =>
      intro read
      rcases ih read with ⟨body, decoded, after, rfl, escaped, same, ended, left⟩
      exact ⟨ch :: body, ch :: decoded, after, rfl, .plain ch _ _ notQuote notBackslash escaped,
        by simp [same], ended, left⟩

/-! ### Words and parameters -/

theorem unquoted_notSpace (ch : UInt8) (valid : 32 < ch) : isSpace ch = false := by
  have bound := UInt8.lt_iff_toNat_lt.mp valid
  simp only [isSpace, ← UInt8.toNat_inj]
  grind

theorem validUnquotedChar_iff (ch : UInt8) :
    validUnquotedChar ch ↔ 32 < ch ∧ ch ≠ quote ∧ ch ≠ 39 := by
  simp [validUnquotedChar, and_assoc]

/-- `tokenizer_next_param` on a text reads a parameter of the grammar, and no other. -/
theorem readParam_iff (text value rest : Bytes) :
    readParam text = .word value rest ↔
      ∃ param after, text = param ++ after ∧ Param param value ∧ Ended after ∧
        rest = chug after := by
  constructor
  · intro read
    cases text with
    | nil => cases read
    | cons first text =>
        rw [readParam] at read
        split at read
        · rename_i quoted
          rcases readQuoted_word [] text value rest read with
            ⟨body, decoded, after, rfl, escaped, same, ended, left⟩
          refine ⟨quote :: (body ++ [quote]), after, by simp [quoted], ?_, ended, left⟩
          rw [same]
          exact .quoted body decoded escaped
        · rw [readUnquoted, readPlain] at read
          split at read
          · rename_i starts
            rcases readPlainRest_word _ _ _ _ _ _ read with
              ⟨run, after, rfl, ended, valid, same, left⟩
            refine ⟨first :: run, after, rfl, ?_, ended, left⟩
            rw [same]
            apply Param.unquoted
            · exact List.cons_ne_nil _ _
            · intro ch member
              apply (validUnquotedChar_iff ch).mp
              rcases List.mem_cons.mp member with rfl | inRun
              · exact starts
              · exact valid ch inRun
          · cases read
  · rintro ⟨param, after, rfl, grammatical, ended, rfl⟩
    cases grammatical with
    | unquoted _ given valid =>
        rcases List.exists_cons_of_ne_nil given with ⟨first, run, rfl⟩
        have starts := valid first List.mem_cons_self
        have fits : ∀ ch ∈ run, isSpace ch = false ∧ validUnquotedChar ch := by
          intro ch member
          have allowed := valid ch (List.mem_cons_of_mem _ member)
          exact ⟨unquoted_notSpace ch allowed.1, (validUnquotedChar_iff ch).mpr allowed⟩
        rw [List.cons_append, readParam, if_neg starts.2.1, readUnquoted, readPlain,
          if_pos ((validUnquotedChar_iff first).mpr starts)]
        exact readPlainRest_run _ _ run after ended fits [first]
    | quoted body value escaped =>
        rw [List.cons_append, List.append_assoc, List.singleton_append, readParam, if_pos rfl,
          readQuoted_escaped escaped after [], readClosed_ended _ after ended]
        rfl

theorem validWordChar_iff (ch : UInt8) :
    validWordChar ch ↔ isAlpha ch ∨ isDigit ch ∨ ch = 95 := by
  simp [validWordChar, or_assoc]

theorem wordChar_notSpace (ch : UInt8) (valid : validWordChar ch) : isSpace ch = false := by
  simp only [validWordChar, isAlpha, isDigit, isSpace] at valid ⊢
  grind

theorem readWord_iff (text value rest : Bytes) :
    readWord text = .word value rest ↔
      ∃ after, text = value ++ after ∧ Word value ∧ Ended after ∧ rest = chug after := by
  constructor
  · intro read
    cases text with
    | nil => cases read
    | cons first text =>
        rw [readWord, readPlain] at read
        split at read
        · rename_i starts
          rcases readPlainRest_word _ _ _ _ _ _ read with
            ⟨run, after, rfl, ended, valid, rfl, left⟩
          refine ⟨after, rfl, ?_, ended, left⟩
          exact .letter first run starts fun ch member => (validWordChar_iff ch).mp (valid ch member)
        · cases read
  · rintro ⟨after, rfl, word, ended, rfl⟩
    cases word with
    | letter first run alpha valid =>
        have fits : ∀ ch ∈ run, isSpace ch = false ∧ validWordChar ch := by
          intro ch member
          have allowed := (validWordChar_iff ch).mpr (valid ch member)
          exact ⟨wordChar_notSpace ch allowed, allowed⟩
        have starts : validWordFirstChar first := alpha
        rw [List.cons_append, readWord, readPlain, if_pos starts]
        exact readPlainRest_run _ _ run after ended fits [first]

/-! ### The loop -/

theorem param_head {param value : Bytes} (grammatical : Param param value) :
    ∃ first more, param = first :: more ∧ isSpace first = false := by
  cases grammatical with
  | unquoted _ given valid =>
      rcases List.exists_cons_of_ne_nil given with ⟨first, more, rfl⟩
      exact ⟨first, more, rfl, unquoted_notSpace first (valid first List.mem_cons_self).1⟩
  | quoted body value escaped => exact ⟨quote, body ++ [quote], rfl, by decide⟩

/-- The next parameter, behind its white space. -/
theorem readParam_more (between param value rest : Bytes) (spaces : Blank between)
    (grammatical : Param param value) (ended : Ended rest) :
    readParam (chug (between ++ (param ++ rest))) = .word value (chug rest) := by
  rcases param_head grammatical with ⟨first, more, rfl, solid⟩
  have opened : chug (between ++ (first :: more ++ rest)) = first :: more ++ rest := by
    rw [chug_blanks _ _ spaces, List.cons_append, chug_cons_other _ _ solid]
  rw [opened, readParam_iff]
  exact ⟨first :: more, rest, rfl, grammatical, ended, rfl⟩

/-- Up to white space, a line with room for its parameters is read to the end. -/
theorem readParams_params {text : Bytes} {values : List Bytes} (params : Params text values)
    (blanks : Bytes) (blank : Blank blanks) : ∀ (slots : Nat) (words : List Bytes),
    values.length ≤ slots →
      readParams words (chug (text ++ blanks)) slots = (words ++ values, [], none) := by
  induction params with
  | none =>
      intro slots words room
      rw [List.nil_append, blank.chug, List.append_nil]
      cases slots <;> rfl
  | more between text value rest values apart spaces param later ih =>
      intro slots words room
      rcases Nat.exists_eq_succ_of_ne_zero (Nat.ne_zero_of_lt room) with ⟨slots, rfl⟩
      have continued := ih slots (words ++ [value]) (by simpa using room)
      rw [List.append_assoc, List.append_assoc, readParams,
        readParam_more between text value _ spaces param (later.ended blanks blank)]
      dsimp only
      rw [continued, List.append_assoc, List.singleton_append]

/-- With more parameters than slots all slots are filled. -/
theorem readParams_full {text : Bytes} {values : List Bytes} (params : Params text values) :
    ∀ (slots : Nat) (words : List Bytes), slots ≤ values.length →
      (readParams words (chug text) slots).1.length = words.length + slots := by
  induction params with
  | none =>
      intro slots words full
      rw [Nat.le_zero.mp full]
      rfl
  | more between text value rest values apart spaces param later ih =>
      intro slots words full
      cases slots with
      | zero => rfl
      | succ slots =>
          have ended : Ended rest := by simpa using later.ended [] (by simp [Blank])
          have continued := ih slots (words ++ [value]) (by simpa using full)
          rw [List.length_append, List.length_singleton, Nat.add_assoc, Nat.add_comm 1] at continued
          rw [readParams, readParam_more between text value rest spaces param ended]
          exact continued

/-- What the loop has read when it stops is a part of the grammar. -/
theorem readParams_reads (slots : Nat) : ∀ (text : Bytes) (words : List Bytes), Ended text →
    ∃ values params after, text = params ++ after ∧ Params params values ∧ Ended after ∧
      (readParams words (chug text) slots).1 = words ++ values ∧
      (readParams words (chug text) slots).2.1 = chug after := by
  induction slots with
  | zero =>
      intro text words ended
      exact ⟨[], [], text, rfl, .none, ended, by simp [readParams], rfl⟩
  | succ slots ih =>
      intro text words ended
      rw [readParams]
      cases read : readParam (chug text) with
      | endOfLine => exact ⟨[], [], text, rfl, .none, ended, by simp, rfl⟩
      | failed message => exact ⟨[], [], text, rfl, .none, ended, by simp, rfl⟩
      | word value rest =>
          rcases (readParam_iff _ _ _).mp read with ⟨param, next, opened, grammatical, more, rfl⟩
          rcases ih next (words ++ [value]) more with
            ⟨values, params, after, rfl, later, still, argv, left⟩
          rcases param_head grammatical with ⟨first, others, rfl, solid⟩
          have split : text = text.takeWhile isSpace ++ (first :: others ++ (params ++ after)) := by
            rw [← opened, chug, List.takeWhile_append_dropWhile]
          have apart : text.takeWhile isSpace ≠ [] := by
            intro none
            rw [none] at split
            have space : isSpace first := ended first (by rw [split]; rfl)
            rw [solid] at space
            cases space
          have blank : Blank (text.takeWhile isSpace) := fun ch member =>
            List.mem_takeWhile_imp member
          refine ⟨value :: values, text.takeWhile isSpace ++ (first :: others ++ params), after,
            ?_, .more _ _ value params values apart blank grammatical later, still, ?_, left⟩
          · simpa using split
          · rw [argv, List.append_assoc, List.singleton_append]

theorem chug_eq_nil (text : Bytes) : chug text = [] ↔ Blank text := by
  rw [chug, List.dropWhile_eq_nil_iff]
  rfl

theorem readRequest_iff (line : Bytes) (argv : List Bytes) :
    readRequest line = .request argv ↔ LineOf line argv := by
  rw [readRequest]
  constructor
  · intro read
    cases first : readWord line with
    | endOfLine =>
        rw [first] at read
        cases read
    | failed message =>
        rw [first] at read
        cases read
    | word name rest =>
        rw [first] at read
        rcases (readWord_iff _ _ _).mp first with ⟨text, rfl, word, ended, rfl⟩
        rcases readParams_reads (commandArgvMax - 1) text [name] ended with
          ⟨values, params, after, rfl, given, -, words, left⟩
        dsimp only at read
        generalize readParams [name] (chug (params ++ after)) (commandArgvMax - 1) = stopped
          at read words left
        rcases stopped with ⟨found, remaining, error⟩
        dsimp only at words left
        rw [paramsRequest] at read
        split at read
        · cases read
        · rename_i few
          split at read
          · rename_i finished
            cases read
            rw [finished] at left
            rw [commandArgvMax] at few
            refine ⟨name ++ params, after, by simp, ?_, (chug_eq_nil after).mp left.symm, by omega⟩
            rw [words]
            exact .command name params values word given
          · cases read
  · rintro ⟨text, blanks, rfl, words, blank, few⟩
    cases words with
    | command name params values word given =>
        have ended := given.ended blanks blank
        have first := (readWord_iff (name ++ (params ++ blanks)) name _).mpr
          ⟨params ++ blanks, rfl, word, ended, rfl⟩
        have room : values.length ≤ commandArgvMax - 1 := by
          rw [List.length_cons] at few
          rw [commandArgvMax]
          omega
        rw [List.append_assoc, first]
        dsimp only
        rw [readParams_params given blanks blank _ [name] room, paramsRequest, if_neg, if_pos rfl]
        · rfl
        · rw [List.singleton_append, commandArgvMax]
          omega

theorem paramsRequest_iff (name : Bytes) (read : List Bytes × Bytes × Option Bytes)
    (argv : List Bytes) : paramsRequest name read = .request argv ↔
      read.1.length < commandArgvMax ∧ read.2.1 = [] ∧ read.1 = argv := by
  rcases read with ⟨words, rest, error⟩
  rw [paramsRequest]
  split_ifs with full finished
  · simp only [false_iff]
    omega
  · simp [finished, Nat.not_le.mp full]
  · simp [finished]

/-- `argv` does not overflow. -/
theorem readParams_room (slots : Nat) : ∀ (words : List Bytes) (text : Bytes),
    (readParams words text slots).1.length ≤ words.length + slots := by
  induction slots with
  | zero => exact fun words text => Nat.le_refl _
  | succ slots ih =>
      intro words text
      rw [readParams]
      cases readParam text with
      | word value rest =>
          have later := ih (words ++ [value]) rest
          rw [List.length_append, List.length_singleton] at later
          dsimp only
          omega
      | endOfLine => exact Nat.le_add_right _ _
      | failed message => exact Nat.le_add_right _ _

/-! ### In place -/

section Buffer

variable (line tail : Bytes)

/-- The first word and the loop over the parameters, on the buffer of the line: the pointers in
`argv`, the line after them, and the error of the last call. -/
def Looped (starts : List Nat) (after : Line) (error : Option Bytes) : Prop :=
  ∃ start rest, tokenizerNextWord ⟨line ++ 0 :: tail, 0⟩ = (.word start, rest) ∧
    nextParams [start] rest (commandArgvMax - 1) = (starts, after, error)

/-- `argv` in the buffer as the loop leaves it. -/
def argvOf (starts : List Nat) (after : Line) : List Bytes := starts.map (stringAt after.buffer)

/-- The line goes to the command with these words. -/
def Accepts (argv : List Bytes) : Prop :=
  ∃ starts after error, Looped line tail starts after error ∧ starts.length < commandArgvMax ∧
    byteAt after.buffer after.input = 0 ∧ argvOf starts after = argv

/-- The words in `argv` are those at the front of the line. -/
def InFront (starts : List Nat) (after : Line) : Prop :=
  ∃ text rest, line = text ++ rest ∧ Words text (argvOf starts after)

/-- How a line is refused. -/
inductive Refused : Prop where
  | empty (nothing : line = [])
      (atEnd : tokenizerNextWord ⟨line ++ 0 :: tail, 0⟩ = (.endOfLine, ⟨line ++ 0 :: tail, 0⟩))
  | word (message : Bytes) (after : Line)
      (failed : tokenizerNextWord ⟨line ++ 0 :: tail, 0⟩ = (.error message, after))
      (notEnd : byteAt after.buffer after.input ≠ 0)
  | param (starts : List Nat) (after : Line) (message : Bytes)
      (looped : Looped line tail starts after (some message))
      (room : starts.length < commandArgvMax) (notEnd : byteAt after.buffer after.input ≠ 0)
      (words : InFront line starts after)
  | tooMany (starts : List Nat) (after : Line) (error : Option Bytes)
      (looped : Looped line tail starts after error) (full : starts.length = commandArgvMax)
      (words : InFront line starts after)

variable {line tail}

theorem Looped.unique {starts others : List Nat} {after other : Line} {error last : Option Bytes}
    (looped : Looped line tail starts after error) (also : Looped line tail others other last) :
    others = starts ∧ other = after ∧ last = error := by
  rcases looped with ⟨start, rest, first, loop⟩
  rcases also with ⟨start', rest', first', loop'⟩
  rw [first] at first'
  cases first'
  rw [loop] at loop'
  cases loop'
  exact ⟨rfl, rfl, rfl⟩

theorem atFront (tail : Bytes) (noNul : (0 : UInt8) ∉ line) : Line.At [] line ⟨line ++ 0 :: tail, 0⟩ :=
  ⟨rfl, ⟨tail, rfl⟩, noNul⟩

/-- The loop on the buffer reads what the loop on the text reads. -/
theorem looped_reads (tail : Bytes) (noNul : (0 : UInt8) ∉ line) (name rest : Bytes)
    (read : readWord line = .word name rest) :
    ∃ starts after error, Looped line tail starts after error ∧
      Reads (starts, after, error) (readParams [name] rest (commandArgvMax - 1)) := by
  have step := nextPlain_tokenizes validWordFirstChar validWordChar (lit "Letter expected")
    (lit "Invalid word character") [] line _ (atFront tail noNul)
  rw [show readPlain _ _ _ _ _ = _ from read] at step
  cases first : tokenizerNextWord ⟨line ++ 0 :: tail, 0⟩ with
  | mk token after =>
      rw [show nextPlain _ _ _ _ _ = _ from first] at step
      cases token with
      | word start =>
          rcases step with ⟨value, remaining, front, same, there, -, stored⟩
          cases same
          have reads := nextParams_reads (commandArgvMax - 1) front rest after [start] [name] there
            (List.Forall₂.cons stored List.Forall₂.nil)
          exact ⟨_, _, _, ⟨start, after, first, rfl⟩, reads⟩
      | endOfLine => cases step.1
      | error message => cases step.1

theorem Looped.accepts_iff {starts : List Nat} {after : Line} {error : Option Bytes}
    (looped : Looped line tail starts after error) (argv : List Bytes) :
    Accepts line tail argv ↔ starts.length < commandArgvMax ∧
      byteAt after.buffer after.input = 0 ∧ argvOf starts after = argv := by
  constructor
  · rintro ⟨others, other, last, also, accepted⟩
    rcases looped.unique also with ⟨rfl, rfl, rfl⟩
    exact accepted
  · intro accepted
    exact ⟨starts, after, error, looped, accepted⟩

theorem looped_inFront {starts : List Nat} {after : Line} {error : Option Bytes} (name rest : Bytes)
    (read : readWord line = .word name rest)
    (reads : Reads (starts, after, error) (readParams [name] rest (commandArgvMax - 1))) :
    InFront line starts after := by
  rcases (readWord_iff _ _ _).mp read with ⟨text, rfl, word, ended, rfl⟩
  rcases readParams_reads (commandArgvMax - 1) text [name] ended with
    ⟨values, params, remaining, rfl, given, -, words, -⟩
  refine ⟨name ++ params, remaining, by simp, ?_⟩
  have texts := reads.texts
  dsimp only at texts
  rw [argvOf, texts, words]
  exact .command name params values word given

theorem notAccepts_of_token {token : Token} {after : Line}
    (first : tokenizerNextWord ⟨line ++ 0 :: tail, 0⟩ = (token, after))
    (other : ∀ start, token ≠ .word start) (argv : List Bytes) : ¬Accepts line tail argv := by
  rintro ⟨starts, last, error, ⟨start, rest, word, -⟩, -⟩
  rw [first] at word
  cases word
  exact other start rfl

/-- The first word is one: the loop decides. -/
theorem accepts_or_refused (noNul : (0 : UInt8) ∉ line) (name rest : Bytes)
    (read : readWord line = .word name rest) :
    (∀ argv, Accepts line tail argv ↔ LineOf line argv) ∧
      ((¬∃ argv, LineOf line argv) → Refused line tail) := by
  rcases looped_reads tail noNul name rest read with ⟨starts, after, error, looped, reads⟩
  have accepts (argv : List Bytes) : Accepts line tail argv ↔ LineOf line argv := by
    rw [looped.accepts_iff, ← readRequest_iff, readRequest, read, paramsRequest_iff, argvOf,
      reads.texts, ← reads.atEnd, reads.words.length_eq]
  refine ⟨accepts, fun none => ?_⟩
  have words := looped_inFront name rest read reads
  have room := readParams_room (commandArgvMax - 1) [name] rest
  have stops := readParams_stops (commandArgvMax - 1) [name] rest
  rw [← reads.words.length_eq] at room stops
  dsimp only at room stops
  by_cases full : starts.length = commandArgvMax
  · exact .tooMany starts after error looped full words
  · have few : starts.length < commandArgvMax := by
      rw [List.length_singleton, commandArgvMax] at room
      rw [commandArgvMax] at full ⊢
      omega
    have notEnd : byteAt after.buffer after.input ≠ 0 := by
      intro atEnd
      have accepted := (looped.accepts_iff _).mpr ⟨few, atEnd, rfl⟩
      exact none ⟨_, (accepts _).mp accepted⟩
    rcases stops with filled | finished | failed
    · exact (full filled.symm).elim
    · exact (notEnd (reads.atEnd.mpr finished)).elim
    · rw [← reads.error] at failed
      rcases Option.isSome_iff_exists.mp failed with ⟨message, same⟩
      cases same
      exact .param starts after message looped few notEnd words

variable (line tail)

/-- The tokenizer loop of `command_process` on a NUL-terminated line: it accepts the lines of the
grammar, with the words they stand for still in `argv` when the last one has been read, and
refuses every other line in one of four ways. -/
theorem tokenizer_accepts_grammar (noNul : (0 : UInt8) ∉ line) :
    (∀ argv, Accepts line tail argv ↔ LineOf line argv) ∧
      ((¬∃ argv, LineOf line argv) → Refused line tail) := by
  have step := nextPlain_tokenizes validWordFirstChar validWordChar (lit "Letter expected")
    (lit "Invalid word character") [] line _ (atFront tail noNul)
  cases read : readWord line with
  | endOfLine =>
      have nothing : line = [] := readPlain_endOfLine _ _ _ _ line read
      have first : tokenizerNextWord ⟨line ++ 0 :: tail, 0⟩
          = (.endOfLine, ⟨line ++ 0 :: tail, 0⟩) := by
        rw [nothing]
        rfl
      refine ⟨fun argv => ?_, fun _ => .empty nothing first⟩
      rw [← readRequest_iff, readRequest, read]
      simp [notAccepts_of_token first (by simp) argv]
  | failed message =>
      rw [show readPlain _ _ _ _ _ = _ from read] at step
      cases first : tokenizerNextWord ⟨line ++ 0 :: tail, 0⟩ with
      | mk token after =>
          rw [show nextPlain _ _ _ _ _ = _ from first] at step
          cases token with
          | word start =>
              rcases step with ⟨value, rest, front, same, -⟩
              cases same
          | endOfLine => cases step.1
          | error message' =>
              refine ⟨fun argv => ?_, fun _ => .word message' after first step.2.1⟩
              rw [← readRequest_iff, readRequest, read]
              simp [notAccepts_of_token first (by simp) argv]
  | word name rest => exact accepts_or_refused noNul name rest read

end Buffer

theorem tokenizer_accepts_count : Accepts (lit "count  \"a\\\"b\" 3 ") []
    [lit "count", lit "a\"b", lit "3"] :=
  ((tokenizer_accepts_grammar (lit "count  \"a\\\"b\" 3 ") [] (by decide)).1 _).mpr
    ((readRequest_iff _ _).mp (by decide +kernel))

end Mpdcron.Stats
