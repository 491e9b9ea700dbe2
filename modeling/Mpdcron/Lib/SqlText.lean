import Mpdcron.Lib.CString
import Mpdcron.Lib.Delimited

/-! The words, string literals and symbols of an SQL text. A literal stands between single quotes,
where two of them stand for one and nothing else is special. Comments and quoted names are left
out. -/

namespace SqlText

open CString

inductive Token where
  | word (text : Bytes)
  | literal (text : Bytes)
  | symbol (ch : UInt8)
  deriving DecidableEq, Repr

/-- The single quote. -/
def apostrophe : UInt8 := 39

/-- Letters, digits, the underscore, the dollar and whatever is not ASCII. -/
def isWordChar (ch : UInt8) : Bool := isAlpha ch || isDigit ch || ch = 95 || ch = 36 || 128 ≤ ch

/-- Where a scanner stands: between two tokens, in a word, in a literal, or behind a quote that
either ends the literal or is the first of two. -/
inductive Mode where
  | between
  | word (text : Bytes)
  | literal (text : Bytes)
  | quoted (text : Bytes)
  deriving DecidableEq, Repr

def start (ch : UInt8) : List Token × Mode :=
  if isSpace ch then ([], .between)
  else if isWordChar ch then ([], .word [ch])
  else if ch = apostrophe then ([], .literal [])
  else ([.symbol ch], .between)

/-- The tokens that end at a byte, and where the scanner stands behind it. -/
def step : Mode → UInt8 → List Token × Mode
  | .between, ch => start ch
  | .word text, ch =>
      if isWordChar ch then ([], .word (text ++ [ch]))
      else (.word text :: (start ch).1, (start ch).2)
  | .literal text, ch =>
      if ch = apostrophe then ([], .quoted text) else ([], .literal (text ++ [ch]))
  | .quoted text, ch =>
      if ch = apostrophe then ([], .literal (text ++ [ch]))
      else (.literal text :: (start ch).1, (start ch).2)

def scan : Mode → Bytes → List Token × Mode
  | mode, [] => ([], mode)
  | mode, ch :: text =>
      ((step mode ch).1 ++ (scan (step mode ch).2 text).1, (scan (step mode ch).2 text).2)

/-- The tokens that the end of the text ends; an open literal is an error. -/
def finish : Mode → Option (List Token)
  | .between => some []
  | .word text => some [.word text]
  | .literal _ => none
  | .quoted text => some [.literal text]

def lex (text : Bytes) : Option (List Token) :=
  (finish (scan .between text).2).map fun last => (scan .between text).1 ++ last

theorem scan_append (first second : Bytes) : ∀ mode : Mode,
    scan mode (first ++ second)
      = ((scan mode first).1 ++ (scan (scan mode first).2 second).1,
          (scan (scan mode first).2 second).2) := by
  induction first with
  | nil => exact fun mode => rfl
  | cons ch first ih =>
      intro mode
      rw [List.cons_append, scan, ih, scan, List.append_assoc]

theorem scan_then {mode next last : Mode} {first second : Bytes} {tokens later : List Token}
    (here : scan mode first = (tokens, next)) (there : scan next second = (later, last)) :
    scan mode (first ++ second) = (tokens ++ later, last) := by
  rw [scan_append, here, there]

/-- A blank ends the same tokens as the end of the text. -/
theorem step_blank (mode : Mode) (last : List Token) (finishes : finish mode = some last) :
    step mode 32 = (last, .between) := by
  cases mode <;> cases finishes <;> rfl

theorem scan_complete {text : Bytes} {tokens : List Token} (complete : lex text = some tokens) :
    scan .between (text ++ [32]) = (tokens, .between) := by
  rcases Option.map_eq_some_iff.mp complete with ⟨last, finishes, same⟩
  have blank : scan (scan .between text).2 [32] = (last, .between) := by
    rw [scan, step_blank _ last finishes]
    simp [scan]
  rw [← same]
  exact scan_then rfl blank

theorem lex_of_scan {text : Bytes} {tokens last : List Token} {mode : Mode}
    (scanned : scan .between text = (tokens, mode)) (finishes : finish mode = some last) :
    lex text = some (tokens ++ last) := by
  rw [lex, scanned, finishes]
  rfl

/-- Two texts with a blank between them have the tokens of both. -/
theorem lex_blank {first second : Bytes} {tokens later : List Token}
    (firstTokens : lex first = some tokens) (laterTokens : lex second = some later) :
    lex (first ++ [32] ++ second) = some (tokens ++ later) := by
  rcases Option.map_eq_some_iff.mp laterTokens with ⟨last, finishes, same⟩
  have behind : scan .between second = ((scan .between second).1, (scan .between second).2) := rfl
  rw [lex_of_scan (scan_then (scan_complete firstTokens) behind) finishes, ← same,
    List.append_assoc]

/-- Behind a text that ends between two tokens. -/
theorem lex_then {first second : Bytes} {tokens later : List Token}
    (here : scan .between first = (tokens, .between)) (there : lex second = some later) :
    lex (first ++ second) = some (tokens ++ later) := by
  rcases Option.map_eq_some_iff.mp there with ⟨last, finishes, same⟩
  have behind : scan .between second = ((scan .between second).1, (scan .between second).2) := rfl
  rw [lex_of_scan (scan_then here behind) finishes, ← same, List.append_assoc]

/-- What stands between the quotes of a literal. -/
def doubled (text : Bytes) : Bytes :=
  text.flatMap fun ch => if ch = apostrophe then [apostrophe, apostrophe] else [ch]

def quoted (text : Bytes) : Bytes := apostrophe :: (doubled text ++ [apostrophe])

/-- A literal has the bytes of its text and quotes. -/
theorem notMem_quoted (byte : UInt8) (text : Bytes) (other : byte ≠ apostrophe)
    (absent : byte ∉ text) : byte ∉ quoted text := by
  intro present
  have inText : ∃ ch ∈ text, byte ∈ (if ch = apostrophe then [apostrophe, apostrophe] else [ch]) := by
    simpa [quoted, doubled, other] using present
  rcases inText with ⟨ch, member, within⟩
  split at within
  · simp [other] at within
  · exact absent (List.mem_singleton.mp within ▸ member)

theorem scan_doubled (text : Bytes) : ∀ before : Bytes,
    scan (.literal before) (doubled text) = ([], .literal (before ++ text)) := by
  induction text with
  | nil =>
      intro before
      rw [List.append_nil]
      rfl
  | cons ch text ih =>
      intro before
      have later := ih (before ++ [ch])
      rw [List.append_assoc] at later
      have one : scan (.literal before) (if ch = apostrophe then [apostrophe, apostrophe] else [ch])
          = ([], .literal (before ++ [ch])) := by
        by_cases quote : ch = apostrophe
        · rw [if_pos quote, quote]
          simp [scan, step]
        · rw [if_neg quote]
          simp [scan, step, quote]
      exact scan_then one later

theorem scan_quoted (text : Bytes) : scan .between (quoted text) = ([], .quoted text) := by
  have opens : scan .between [apostrophe] = ([], .literal []) := rfl
  have closes : scan (.literal text) [apostrophe] = ([], .quoted text) := rfl
  exact scan_then opens (scan_then (scan_doubled text []) closes)

theorem doubled_plain (text : Bytes) (plain : apostrophe ∉ text) : doubled text = text := by
  induction text with
  | nil => rfl
  | cons ch text ih =>
      rw [List.mem_cons, not_or] at plain
      have head : doubled (ch :: text)
          = (if ch = apostrophe then [apostrophe, apostrophe] else [ch]) ++ doubled text :=
        List.flatMap_cons
      rw [head, if_neg (Ne.symm plain.1), ih plain.2]
      rfl

/-! ### Conditions on a row -/

def IsWord (text : Bytes) : Prop := text ≠ [] ∧ ∀ ch ∈ text, isWordChar ch

/-- A column and the text that it must be equal to, and more of them. -/
abbrev Condition := List (Bytes × Bytes)

/-- `column='text' and column='text' ...` -/
def conditionText : Condition → Bytes
  | [] => []
  | [(column, text)] => column ++ lit "=" ++ quoted text
  | (column, text) :: condition =>
      column ++ lit "=" ++ quoted text ++ lit " and " ++ conditionText condition

def conditionTokens : Condition → List Token
  | [] => []
  | [(column, text)] => [.word column, .symbol 61, .literal text]
  | (column, text) :: condition =>
      .word column :: .symbol 61 :: .literal text :: .word (lit "and") :: conditionTokens condition

/-- Reads the tokens of a condition. -/
def readCondition : List Token → Option Condition
  | [.word column, .symbol 61, .literal text] => some [(column, text)]
  | .word column :: .symbol 61 :: .literal text :: .word joined :: tokens =>
      if joined = lit "and" then
        (readCondition tokens).map fun condition => (column, text) :: condition
      else none
  | _ => none

/-- The condition is true of a row with these columns; it is not where a column is NULL. -/
def Condition.Holds (condition : Condition) (row : Bytes → Option Bytes) : Prop :=
  ∀ column text, (column, text) ∈ condition → row column = some text

/-- The tokens of a statement between `where` and the semicolon. -/
def whereTokens (tokens : List Token) : List Token :=
  ((tokens.dropWhile (· ≠ .word (lit "where"))).drop 1).takeWhile (· ≠ .symbol 59)

/-- The condition of a statement. -/
def conditionOf (sql : Bytes) : Option Condition :=
  (lex sql).bind fun tokens => readCondition (whereTokens tokens)

/-- `head where condition ;` -/
def statement (head condition : Bytes) : Bytes := head ++ lit " where " ++ condition ++ lit " ;"

theorem scan_wordChars (text : Bytes) (valid : ∀ ch ∈ text, isWordChar ch) : ∀ before : Bytes,
    scan (.word before) text = ([], .word (before ++ text)) := by
  induction text with
  | nil =>
      intro before
      rw [List.append_nil]
      rfl
  | cons ch text ih =>
      intro before
      have later := ih (fun next member => valid next (List.mem_cons_of_mem _ member))
        (before ++ [ch])
      rw [List.append_assoc] at later
      have one : step (.word before) ch = ([], .word (before ++ [ch])) := by
        rw [step, if_pos (valid ch List.mem_cons_self)]
      rw [scan, one, later]
      rfl

theorem wordChar_start (ch : UInt8) (valid : isWordChar ch) : start ch = ([], .word [ch]) := by
  have blank : isSpace ch = false := by
    simp only [isWordChar, isAlpha, isDigit, isSpace] at valid ⊢
    grind
  rw [start, if_neg (by simp [blank]), if_pos valid]

theorem scan_word (text : Bytes) (word : IsWord text) :
    scan .between text = ([], .word text) := by
  rcases word with ⟨nonempty, valid⟩
  cases text with
  | nil => exact absurd rfl nonempty
  | cons ch text =>
      have first := wordChar_start ch (valid ch List.mem_cons_self)
      rw [scan, step, first,
        scan_wordChars text (fun next member => valid next (List.mem_cons_of_mem _ member))]
      rfl

/-- One comparison, up to the quote that closes its literal. -/
theorem scan_comparison (column text : Bytes) (word : IsWord column) :
    scan .between (column ++ lit "=" ++ quoted text)
      = ([.word column, .symbol 61], .quoted text) := by
  have equals : scan (.word column) (lit "=") = ([.word column, .symbol 61], .between) := rfl
  exact scan_then (scan_then (scan_word column word) equals) (scan_quoted text)

/-- Nothing of a text in a condition is outside of its literal. -/
theorem scan_condition (condition : Condition) (nonempty : condition ≠ [])
    (words : ∀ column text, (column, text) ∈ condition → IsWord column) :
    scan .between (conditionText condition ++ lit " ;")
      = (conditionTokens condition ++ [.symbol 59], .between) := by
  induction condition with
  | nil => exact absurd rfl nonempty
  | cons comparison condition ih =>
      rcases comparison with ⟨column, text⟩
      have first := scan_comparison column text (words column text List.mem_cons_self)
      cases condition with
      | nil =>
          have closes : scan (.quoted text) (lit " ;")
              = ([.literal text, .symbol 59], .between) := rfl
          have whole := scan_then first closes
          exact whole
      | cons next condition =>
          have joins : scan (.quoted text) (lit " and ")
              = ([.literal text, .word (lit "and")], .between) := rfl
          have later := ih (List.cons_ne_nil _ _)
            fun column text member => words column text (List.mem_cons_of_mem _ member)
          have whole := scan_then (scan_then first joins) later
          rw [conditionText, List.append_assoc]
          · exact whole
          · exact List.cons_ne_nil _ _

theorem lex_condition (condition : Condition) (nonempty : condition ≠ [])
    (words : ∀ column text, (column, text) ∈ condition → IsWord column) :
    lex (conditionText condition) = some (conditionTokens condition) := by
  induction condition with
  | nil => exact absurd rfl nonempty
  | cons comparison condition ih =>
      rcases comparison with ⟨column, text⟩
      have first := scan_comparison column text (words column text List.mem_cons_self)
      cases condition with
      | nil => exact lex_of_scan first rfl
      | cons next condition =>
          have joins : scan (.quoted text) (lit " and ")
              = ([.literal text, .word (lit "and")], .between) := rfl
          have later := ih (List.cons_ne_nil _ _)
            fun column text member => words column text (List.mem_cons_of_mem _ member)
          exact lex_then (scan_then first joins) later

theorem lex_statement (head : Bytes) (tokens : List Token) (condition : Condition)
    (complete : lex head = some tokens) (nonempty : condition ≠ [])
    (words : ∀ column text, (column, text) ∈ condition → IsWord column) :
    lex (statement head (conditionText condition))
      = some (tokens ++ .word (lit "where") :: conditionTokens condition ++ [.symbol 59]) := by
  have keyword : scan .between (lit "where ") = ([.word (lit "where")], .between) := rfl
  have whole := scan_then (scan_then (scan_complete complete) keyword)
    (scan_condition condition nonempty words)
  have text : statement head (conditionText condition)
      = head ++ [32] ++ lit "where " ++ (conditionText condition ++ lit " ;") := by
    calc
      _ = head ++ ([32] ++ lit "where ") ++ conditionText condition ++ lit " ;" := rfl
      _ = _ := by simp only [List.append_assoc]
  rw [lex, text, whole]
  simp [finish]

/-- A statement with any expression that has tokens of its own. -/
theorem lex_where {head expr : Bytes} {tokens later : List Token}
    (complete : lex head = some tokens) (exprTokens : lex expr = some later) :
    lex (statement head expr)
      = some (tokens ++ .word (lit "where") :: later ++ [.symbol 59]) := by
  have keyword : lex (lit "where") = some [.word (lit "where")] := rfl
  have closes : lex [59] = some [.symbol 59] := rfl
  have whole := lex_blank (lex_blank (lex_blank complete keyword) exprTokens) closes
  have text : head ++ [32] ++ lit "where" ++ [32] ++ expr ++ [32] ++ [59]
      = statement head expr := by
    calc
      _ = head ++ ([32] ++ lit "where" ++ [32]) ++ expr ++ ([32] ++ [59]) := by
        simp only [List.append_assoc]
      _ = _ := rfl
  rw [text] at whole
  simpa using whole

theorem readCondition_tokens (condition : Condition) (nonempty : condition ≠ []) :
    readCondition (conditionTokens condition) = some condition := by
  induction condition with
  | nil => exact absurd rfl nonempty
  | cons comparison condition ih =>
      rcases comparison with ⟨column, text⟩
      cases condition with
      | nil => rfl
      | cons next condition =>
          have later := ih (List.cons_ne_nil _ _)
          rw [conditionTokens, readCondition, if_pos rfl, later]
          · rfl
          · exact List.cons_ne_nil _ _

theorem semicolon_conditionTokens (condition : Condition) :
    .symbol 59 ∉ conditionTokens condition := by
  induction condition with
  | nil => exact List.not_mem_nil
  | cons comparison condition ih =>
      rcases comparison with ⟨column, text⟩
      cases condition with
      | nil => simp [conditionTokens]
      | cons next condition => simpa [conditionTokens] using ih

/-- The tokens between the first `where` and the first semicolon behind it. -/
theorem whereTokens_eq (tokens later : List Token) (other : .word (lit "where") ∉ tokens)
    (within : .symbol 59 ∉ later) :
    whereTokens (tokens ++ .word (lit "where") :: later ++ [.symbol 59]) = later := by
  calc
    _ = (later ++ [Token.symbol 59]).takeWhile (· ≠ Token.symbol 59) := by
      rw [whereTokens, List.append_assoc, List.cons_append,
        Delimited.dropWhile_front _ tokens _ other, List.drop_one, List.tail_cons]
    _ = later := Delimited.takeWhile_front _ later [] within

/-- The condition of a statement is the one that was pasted into it. -/
theorem conditionOf_statement (head : Bytes) (tokens : List Token) (condition : Condition)
    (complete : lex head = some tokens) (other : .word (lit "where") ∉ tokens)
    (nonempty : condition ≠ [])
    (words : ∀ column text, (column, text) ∈ condition → IsWord column) :
    conditionOf (statement head (conditionText condition)) = some condition := by
  rw [conditionOf, lex_statement head tokens condition complete nonempty words, Option.bind_some,
    whereTokens_eq tokens _ other (semicolon_conditionTokens condition),
    readCondition_tokens condition nonempty]

/-- A complete text, to which a condition can be added. -/
def IsHead (head : Bytes) : Prop :=
  ∃ tokens, lex head = some tokens ∧ .word (lit "where") ∉ tokens

instance (head : Bytes) : Decidable (IsHead head) :=
  decidable_of_iff ((lex head).any (fun tokens => decide (.word (lit "where") ∉ tokens)) = true)
    (by simp [IsHead, Option.any_eq_true])

theorem isHead_of_scan {head : Bytes} {tokens last : List Token} {mode : Mode}
    (scanned : scan .between head = (tokens, mode)) (finishes : finish mode = some last)
    (other : .word (lit "where") ∉ tokens ++ last) : IsHead head := by
  exact ⟨tokens ++ last, lex_of_scan scanned finishes, other⟩

/-- The rows that a statement is about. -/
def Touches (sql : Bytes) (row : Bytes → Option Bytes) : Prop :=
  ∃ condition, conditionOf sql = some condition ∧ condition.Holds row

theorem touches_statement (head : Bytes) (condition : Condition) (isHead : IsHead head)
    (nonempty : condition ≠ [])
    (words : ∀ column text, (column, text) ∈ condition → IsWord column)
    (row : Bytes → Option Bytes) :
    Touches (statement head (conditionText condition)) row ↔ condition.Holds row := by
  rcases isHead with ⟨tokens, complete, other⟩
  have same := conditionOf_statement head tokens condition complete other nonempty words
  constructor
  · rintro ⟨found, isFound, holds⟩
    rw [same] at isFound
    exact Option.some.inj isFound ▸ holds
  · exact fun holds => ⟨condition, same, holds⟩

end SqlText
