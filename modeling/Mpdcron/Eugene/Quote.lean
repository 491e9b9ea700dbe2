import Mpdcron.Eugene.SendCommand
import Mpdcron.Stats.Statement

/-! `quote` of `eugene-utils.c` and the expressions that eugene makes of the current song, through
the request line and into the statements of the server. -/

namespace Mpdcron.EugeneUtils

open CString Mpdcron.Eugene Mpdcron.Stats SqlText

/-- The loop of `quote` and the quote behind it. -/
def quoteLoop : Bytes → Bytes
  | [] => lit "'"
  | p :: src => if p = 39 then lit "''" ++ quoteLoop src else p :: quoteLoop src

def quote (src : Bytes) : Bytes := lit "'" ++ quoteLoop src

theorem quote_eq (src : Bytes) : quote src = quoted src := by
  have loop (src : Bytes) : quoteLoop src = doubled src ++ [apostrophe] := by
    induction src with
    | nil => rfl
    | cons p src ih =>
        have head : doubled (p :: src)
            = (if p = apostrophe then [apostrophe, apostrophe] else [p]) ++ doubled src :=
          List.flatMap_cons
        rw [quoteLoop, ih, head]
        by_cases isQuote : p = apostrophe
        · have same : p = 39 := isQuote
          rw [if_pos same, if_pos isQuote]
          rfl
        · have other : ¬ p = 39 := isQuote
          rw [if_neg other, if_neg isQuote]
          rfl
  rw [quote, loop]
  rfl

/-- The expressions for the current song: `uri=%s`, `name=%s` and `name=%s and artist=%s`. -/
inductive SongExpr where
  | byUri (uri : Bytes)
  | byName (name : Bytes)
  | byAlbum (album artist : Bytes)
  deriving DecidableEq, Repr

def SongExpr.text : SongExpr → Bytes
  | .byUri uri => lit "uri=" ++ quote uri
  | .byName name => lit "name=" ++ quote name
  | .byAlbum album artist => lit "name=" ++ quote album ++ lit " and artist=" ++ quote artist

/-- What comes from the tags of the song. -/
def SongExpr.strings : SongExpr → List Bytes
  | .byUri uri => [uri]
  | .byName name => [name]
  | .byAlbum album artist => [album, artist]

/-- The tokens of the expression: its literals denote the strings. -/
def SongExpr.tokens : SongExpr → List SqlText.Token
  | .byUri uri => [.word (lit "uri"), .symbol 61, .literal uri]
  | .byName name => [.word (lit "name"), .symbol 61, .literal name]
  | .byAlbum album artist =>
      [.word (lit "name"), .symbol 61, .literal album, .word (lit "and"), .word (lit "artist"),
        .symbol 61, .literal artist]

def SongExpr.condition : SongExpr → Condition
  | .byUri uri => [(lit "uri", uri)]
  | .byName name => [(lit "name", name)]
  | .byAlbum album artist => [(lit "name", album), (lit "artist", artist)]

/-- The rows whose columns equal the strings. -/
def SongExpr.Matches (expr : SongExpr) (row : Bytes → Option Bytes) : Prop :=
  match expr with
  | .byUri uri => row (lit "uri") = some uri
  | .byName name => row (lit "name") = some name
  | .byAlbum album artist => row (lit "name") = some album ∧ row (lit "artist") = some artist

theorem SongExpr.text_eq (expr : SongExpr) : expr.text = conditionText expr.condition := by
  cases expr with
  | byUri uri => rw [SongExpr.text, quote_eq]; rfl
  | byName name => rw [SongExpr.text, quote_eq]; rfl
  | byAlbum album artist =>
      rw [SongExpr.text, quote_eq, quote_eq]
      have joined : lit " and artist=" = lit " and " ++ (lit "artist" ++ lit "=") := rfl
      rw [joined]
      simp only [SongExpr.condition, conditionText, List.append_assoc]
      rfl

theorem SongExpr.tokens_eq (expr : SongExpr) : expr.tokens = conditionTokens expr.condition := by
  cases expr <;> rfl

theorem SongExpr.condition_ne_nil (expr : SongExpr) : expr.condition ≠ [] := by
  cases expr <;> exact List.cons_ne_nil _ _

theorem SongExpr.condition_words (expr : SongExpr) (column text : Bytes)
    (member : (column, text) ∈ expr.condition) : IsWord column := by
  have words : IsWord (lit "uri") ∧ IsWord (lit "name") ∧ IsWord (lit "artist") := by
    refine ⟨⟨by decide, ?_⟩, ⟨by decide, ?_⟩, ⟨by decide, ?_⟩⟩ <;>
      exact List.all_eq_true.mp (by decide)
  cases expr <;> simp [SongExpr.condition] at member
  · exact member.1 ▸ words.1
  · exact member.1 ▸ words.2.1
  · rcases member with member | member
    · exact member.1 ▸ words.2.1
    · exact member.1 ▸ words.2.2

theorem SongExpr.matches_iff (expr : SongExpr) (row : Bytes → Option Bytes) :
    expr.condition.Holds row ↔ expr.Matches row := by
  cases expr with
  | byUri uri => simp [SongExpr.condition, SongExpr.Matches, Condition.Holds]
  | byName name => simp [SongExpr.condition, SongExpr.Matches, Condition.Holds]
  | byAlbum album artist =>
      constructor
      · intro holds
        exact ⟨holds _ _ List.mem_cons_self, holds _ _ (List.mem_cons_of_mem _ List.mem_cons_self)⟩
      · rintro ⟨isName, isArtist⟩ column text member
        have either : (column = lit "name" ∧ text = album) ∨
            (column = lit "artist" ∧ text = artist) := by
          simpa [SongExpr.condition] using member
        rcases either with ⟨rfl, rfl⟩ | ⟨rfl, rfl⟩
        · exact isName
        · exact isArtist

/-- A byte that is neither in the strings nor in the rest of the expressions. -/
theorem SongExpr.text_keeps (byte : UInt8) (expr : SongExpr)
    (absent : ∀ text ∈ expr.strings, byte ∉ text) (other : byte ∉ lit "uri=name and artist='") :
    byte ∉ expr.text := by
  have quoteKeeps (text : Bytes) (kept : byte ∉ text) : byte ∉ quote text := by
    have notQuote : byte ≠ apostrophe := by
      rintro rfl
      exact other (by decide)
    rw [quote_eq]
    exact notMem_quoted byte text notQuote kept
  have piece (part : Bytes) (sub : part ⊆ lit "uri=name and artist='") : byte ∉ part :=
    fun member => other (sub member)
  cases expr with
  | byUri uri =>
      have inUri := quoteKeeps uri (absent uri List.mem_cons_self)
      simpa [SongExpr.text, inUri] using piece (lit "uri=") (by decide)
  | byName name =>
      have inName := quoteKeeps name (absent name List.mem_cons_self)
      simpa [SongExpr.text, inName] using piece (lit "name=") (by decide)
  | byAlbum album artist =>
      have inAlbum := quoteKeeps album (absent album List.mem_cons_self)
      have inArtist := quoteKeeps artist (absent artist (List.mem_cons_of_mem _ List.mem_cons_self))
      have inFirst := piece (lit "name=") (by decide)
      have inSecond := piece (lit " and artist=") (by decide)
      simp only [SongExpr.text, List.mem_append, not_or]
      exact ⟨⟨⟨inFirst, inAlbum⟩, inSecond⟩, inArtist⟩

/-- The literals of an expression denote the strings, wherever the server puts the expression. -/
theorem SongExpr.lex_statement (expr : SongExpr) (head : Bytes) (tokens : List SqlText.Token)
    (complete : lex head = some tokens) :
    lex (statement head expr.text)
      = some (tokens ++ .word (lit "where") :: expr.tokens ++ [.symbol 59]) := by
  rw [expr.text_eq, expr.tokens_eq]
  exact SqlText.lex_statement head tokens expr.condition complete expr.condition_ne_nil
    expr.condition_words

theorem SongExpr.touches_iff (expr : SongExpr) (head : Bytes) (isHead : IsHead head)
    (row : Bytes → Option Bytes) :
    Touches (statement head expr.text) row ↔ expr.Matches row := by
  rw [expr.text_eq, ← expr.matches_iff]
  exact touches_statement head expr.condition isHead expr.condition_ne_nil expr.condition_words row

/-- From the strings of the current song through the request line and the tokenizer into the
statements of the server, of which they stay literals: a command is about the rows whose columns
are equal to them. -/
theorem songExpr_injection_free (expr : SongExpr)
    (plain : ∀ text ∈ expr.strings, (0 : UInt8) ∉ text ∧ newline ∉ text) :
    (∀ command args, IsCommandWord command → args.length ≤ 13 →
      (∀ arg ∈ args, (0 : UInt8) ∉ arg ∧ newline ∉ arg) →
      ∃ line, mpdcronSendCommandv command (expr.text :: args) = line ++ [newline] ∧
        newline ∉ line ∧ ∃ start rest argv after,
          tokenizerNextWord ⟨line ++ [0], 0⟩ = (.word start, rest) ∧
          nextParams [start] rest (commandArgvMax - 1) = (argv, after, none) ∧
          argv.map (stringAt after.buffer) = command :: expr.text :: args ∧
          byteAt after.buffer after.input = 0) ∧
    (∀ head tokens, lex head = some tokens →
      lex (statement head expr.text)
        = some (tokens ++ .word (lit "where") :: expr.tokens ++ [.symbol 59])) ∧
    (∀ (change : Change) (Db : Type) (sqlite : Sqlite Db) (authorizer : Action → Bool) (db : Db),
      change.Accepted → change.run sqlite authorizer expr.text db
        = .ok (runStatement sqlite authorizer
            (statement (updateHead change.table change.stmt) expr.text) db)) ∧
    (∀ (selection : Selection) (tbl : Table), selectText (selection.what tbl) tbl expr.text
      = statement (selectHead (selection.what tbl) tbl) expr.text) ∧
    (∀ head, IsServerHead head → IsHead head ∧
      ∀ row, Touches (statement head expr.text) row ↔ expr.Matches row) := by
  refine ⟨?_, expr.lex_statement, fun change Db sqlite authorizer db accepted =>
    change.run_statement sqlite authorizer accepted expr.text db, fun _ _ => rfl,
    fun head server => ⟨server.isHead, expr.touches_iff head server.isHead⟩⟩
  intro command args word few argsPlain
  have texts (byte : UInt8) (other : byte ∉ lit "uri=name and artist='")
      (inStrings : ∀ text ∈ expr.strings, byte ∉ text) (inArgs : ∀ arg ∈ args, byte ∉ arg) :
      ∀ arg ∈ expr.text :: args, byte ∉ arg := by
    intro arg member
    rcases List.mem_cons.mp member with rfl | member
    · exact expr.text_keeps byte inStrings other
    · exact inArgs arg member
  have noNul := request_keeps 0 (by decide) (by decide) (by decide) (by decide) command _ word
    (texts 0 (by decide) (fun text member => (plain text member).1)
      fun arg member => (argsPlain arg member).1)
  have noNewline := request_keeps newline (by decide) (by decide) (by decide) (by decide) command _
    word (texts newline (by decide) (fun text member => (plain text member).2)
      fun arg member => (argsPlain arg member).2)
  exact ⟨_, rfl, noNewline, request_argv command _ word noNul (Nat.succ_le_succ few)⟩

/-- An album of quotes and backslashes, and the rows that `kill_album` is about. -/
theorem songExpr_injection_free_quotes :
    (SongExpr.byAlbum (lit "' or \"\\") (lit "O'Brien\\")).text
        = lit "name=''' or \"\\' and artist='O''Brien\\'" ∧
      ∀ row, Touches (statement (updateHead .album (Change.kill .album true).stmt)
          (SongExpr.byAlbum (lit "' or \"\\") (lit "O'Brien\\")).text) row ↔
        row (lit "name") = some (lit "' or \"\\") ∧ row (lit "artist") = some (lit "O'Brien\\") := by
  have free := songExpr_injection_free (.byAlbum (lit "' or \"\\") (lit "O'Brien\\")) (by decide)
  refine ⟨by decide, fun row => ?_⟩
  exact (free.2.2.2.2 _ (.update (.kill .album true) (by simp))).2 row

end Mpdcron.EugeneUtils
