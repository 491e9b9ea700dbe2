import Mpdcron.Lib.Decimal
import Mpdcron.Lib.SqlText

/-! Rows of named columns: the assignments of an update, what they make of a row, and that their
texts are read back. -/

namespace SqlRow

open CString SqlText

inductive Value where
  | integer (value : Int)
  | text (bytes : Bytes)
  deriving DecidableEq, Repr

/-- Integers are stored in 64 bits; what else a larger one becomes is left open. -/
def integer64 (value : Int) : Option Value :=
  if clampLong value = value then some (.integer value) else none

inductive Operand where
  | column (name : Bytes)
  | integer (value : Int)
  | grouped (value : Int)
  | literal (bytes : Bytes)
  deriving DecidableEq, Repr

inductive Expr where
  | just (operand : Operand)
  | add (column : Bytes) (right : Operand)
  | subtract (column : Bytes) (right : Operand)
  | concat (column : Bytes) (right : Operand)
  deriving DecidableEq, Repr

structure Assignment where
  column : Bytes
  value : Expr
  deriving DecidableEq, Repr

/-! ### Meaning -/

/-- The value of each column, with nothing for a NULL. -/
abbrev Row := Bytes → Option Value

def Operand.eval (row : Row) : Operand → Option Value
  | .column name => row name
  | .integer value => integer64 value
  | .grouped value => integer64 value
  | .literal bytes => some (.text bytes)

/-- Arithmetic on two integers. -/
def arithmetic (op : Int → Int → Int) : Option Value → Option Value → Option Value
  | some (.integer left), some (.integer right) => integer64 (op left right)
  | _, _ => none

def joined : Option Value → Option Value → Option Value
  | some (.text left), some (.text right) => some (.text (left ++ right))
  | _, _ => none

/-- Nothing where a NULL, a conversion or an overflow is involved. -/
def Expr.eval (row : Row) : Expr → Option Value
  | .just operand => operand.eval row
  | .add column right => arithmetic (· + ·) (row column) (right.eval row)
  | .subtract column right => arithmetic (· - ·) (row column) (right.eval row)
  | .concat column right => joined (row column) (right.eval row)

/-- How the columns of a kind of row are read and written. -/
structure Layout (ρ : Type) where
  get : ρ → Row
  set : ρ → Bytes → Value → Option ρ

def Assignment.apply {ρ : Type} (layout : Layout ρ) (assignment : Assignment) (row : ρ) : Option ρ :=
  (assignment.value.eval (layout.get row)).bind (layout.set row assignment.column)

/-! ### Texts -/

def Operand.columns : Operand → List Bytes
  | .column name => [name]
  | _ => []

def Expr.columns : Expr → List Bytes
  | .just operand => operand.columns
  | .add column right => column :: right.columns
  | .subtract column right => column :: right.columns
  | .concat column right => column :: right.columns

def Operand.sql : Operand → Bytes
  | .column name => name
  | .integer value => decimal value
  | .grouped value => lit "(" ++ decimal value ++ lit ")"
  | .literal bytes => quoted bytes

def Expr.sql : Expr → Bytes
  | .just operand => operand.sql
  | .add column right => column ++ lit " + " ++ right.sql
  | .subtract column right => column ++ lit " - " ++ right.sql
  | .concat column right => column ++ lit " || " ++ right.sql

def Assignment.sql (assignment : Assignment) : Bytes :=
  assignment.column ++ lit " = " ++ assignment.value.sql

/-- The tokens of a decimal number. -/
def decimalTokens : Int → List Token
  | .ofNat n => [.word (decimalNat n)]
  | .negSucc n => [.symbol 45, .word (decimalNat (n + 1))]

def Operand.tokens : Operand → List Token
  | .column name => [.word name]
  | .integer value => decimalTokens value
  | .grouped value => .symbol 40 :: decimalTokens value ++ [.symbol 41]
  | .literal bytes => [.literal bytes]

def Expr.tokens : Expr → List Token
  | .just operand => operand.tokens
  | .add column right => .word column :: .symbol 43 :: right.tokens
  | .subtract column right => .word column :: .symbol 45 :: right.tokens
  | .concat column right => .word column :: .symbol 124 :: .symbol 124 :: right.tokens

def Assignment.tokens (assignment : Assignment) : List Token :=
  .word assignment.column :: .symbol 61 :: assignment.value.tokens

/-! ### Reading -/

theorem lex_word (text : Bytes) (word : IsWord text) : lex text = some [.word text] :=
  lex_of_scan (scan_word text word) rfl

theorem lex_quoted (text : Bytes) : lex (quoted text) = some [.literal text] :=
  lex_of_scan (scan_quoted text) rfl

theorem isWord_decimalNat (n : Nat) : IsWord (decimalNat n) := by
  refine ⟨decimalNat_ne_nil n, fun ch member => ?_⟩
  simp [isWordChar, decimalNat_digits n ch member]

theorem lex_decimal (value : Int) : lex (decimal value) = some (decimalTokens value) := by
  cases value with
  | ofNat n => exact lex_word _ (isWord_decimalNat n)
  | negSucc n =>
      have minus : scan .between [45] = ([.symbol 45], .between) := rfl
      have whole := scan_then minus (scan_word _ (isWord_decimalNat (n + 1)))
      exact lex_of_scan whole rfl

theorem scan_decimal (value : Int) :
    scan .between (decimal value ++ lit ")") = (decimalTokens value ++ [.symbol 41], .between) := by
  have closes (digits : Bytes) : scan (.word digits) (lit ")")
      = ([.word digits, .symbol 41], .between) := rfl
  cases value with
  | ofNat n =>
      have digits := scan_then (scan_word _ (isWord_decimalNat n)) (closes (decimalNat n))
      exact digits
  | negSucc n =>
      have minus : scan .between [45] = ([.symbol 45], .between) := rfl
      have digits := scan_then (scan_word _ (isWord_decimalNat (n + 1)))
        (closes (decimalNat (n + 1)))
      have whole := scan_then minus digits
      exact whole

theorem lex_grouped (value : Int) :
    lex (lit "(" ++ decimal value ++ lit ")")
      = some (.symbol 40 :: decimalTokens value ++ [.symbol 41]) := by
  have opens : scan .between (lit "(") = ([.symbol 40], .between) := rfl
  have whole := scan_then opens (scan_decimal value)
  rw [← List.append_assoc] at whole
  have tokens := lex_of_scan whole rfl
  rw [List.append_nil] at tokens
  exact tokens

theorem Operand.lex_sql (operand : Operand) (words : ∀ name ∈ operand.columns, IsWord name) :
    lex operand.sql = some operand.tokens := by
  cases operand with
  | column name => exact lex_word name (words name List.mem_cons_self)
  | integer value => exact lex_decimal value
  | grouped value => exact lex_grouped value
  | literal bytes => exact lex_quoted bytes

/-- A column, an operator and an operand. -/
theorem lex_binary {column op right : Bytes} {tokens later : List Token} (word : IsWord column)
    (opTokens : lex op = some tokens) (rightTokens : lex right = some later) :
    lex (column ++ ([32] ++ op ++ [32]) ++ right) = some (.word column :: tokens ++ later) := by
  have whole := lex_blank (lex_blank (lex_word column word) opTokens) rightTokens
  simpa only [List.append_assoc, List.cons_append, List.nil_append] using whole

theorem Expr.lex_sql (expr : Expr) (words : ∀ name ∈ expr.columns, IsWord name) :
    lex expr.sql = some expr.tokens := by
  have operand {column : Bytes} {right : Operand}
      (inColumns : ∀ name ∈ column :: right.columns, IsWord name) :
      IsWord column ∧ lex right.sql = some right.tokens :=
    ⟨inColumns column List.mem_cons_self,
      right.lex_sql fun name member => inColumns name (List.mem_cons_of_mem _ member)⟩
  have plus : lex [43] = some [.symbol 43] := rfl
  have minus : lex [45] = some [.symbol 45] := rfl
  have bars : lex [124, 124] = some [.symbol 124, .symbol 124] := rfl
  cases expr with
  | just operand => exact operand.lex_sql words
  | add column right => exact lex_binary (operand words).1 plus (operand words).2
  | subtract column right => exact lex_binary (operand words).1 minus (operand words).2
  | concat column right => exact lex_binary (operand words).1 bars (operand words).2

/-- The columns that an assignment names. -/
def Assignment.columns (assignment : Assignment) : List Bytes :=
  assignment.column :: assignment.value.columns

theorem Assignment.lex_sql (assignment : Assignment)
    (words : ∀ name ∈ assignment.columns, IsWord name) :
    lex assignment.sql = some assignment.tokens := by
  have equals : lex [61] = some [.symbol 61] := rfl
  exact lex_binary (words _ List.mem_cons_self) equals
    (assignment.value.lex_sql fun name member => words name (List.mem_cons_of_mem _ member))

/-- A word of an assignment is a column or a number. -/
def IsKnown (columns : List Bytes) (text : Bytes) : Prop := text ∈ columns ∨ text.all isDigit = true

theorem all_decimalNat (n : Nat) : (decimalNat n).all isDigit = true :=
  List.all_eq_true.mpr (decimalNat_digits n)

theorem word_decimalTokens (value : Int) (text : Bytes) (member : .word text ∈ decimalTokens value) :
    text.all isDigit = true := by
  cases value with
  | ofNat n =>
      have same : text = decimalNat n := by simpa [decimalTokens] using member
      rw [same]
      exact all_decimalNat n
  | negSucc n =>
      have same : text = decimalNat (n + 1) := by simpa [decimalTokens] using member
      rw [same]
      exact all_decimalNat (n + 1)

theorem Operand.word_tokens (operand : Operand) (text : Bytes)
    (member : .word text ∈ operand.tokens) : IsKnown operand.columns text := by
  cases operand with
  | column name => exact Or.inl (by simpa [Operand.tokens, Operand.columns] using member)
  | integer value => exact Or.inr (word_decimalTokens value text member)
  | grouped value =>
      have digits : .word text ∈ decimalTokens value := by simpa [Operand.tokens] using member
      exact Or.inr (word_decimalTokens value text digits)
  | literal bytes => simp [Operand.tokens] at member

theorem Assignment.word_tokens (assignment : Assignment) (text : Bytes)
    (member : .word text ∈ assignment.tokens) : IsKnown assignment.columns text := by
  rcases assignment with ⟨column, expr⟩
  have right (operand : Operand) (here : .word text ∈ operand.tokens) (other : List Bytes)
      (within : operand.columns ⊆ other) : IsKnown other text :=
    (operand.word_tokens text here).imp (fun known => within known) id
  cases expr with
  | just operand =>
      simp only [Assignment.tokens, Expr.tokens, List.mem_cons, Token.word.injEq, reduceCtorEq,
        false_or] at member
      rcases member with rfl | inRight
      · exact Or.inl List.mem_cons_self
      · exact right operand inRight _ (List.subset_cons_self _ _)
  | add left operand | subtract left operand | concat left operand =>
      simp only [Assignment.tokens, Expr.tokens, List.mem_cons, Token.word.injEq, reduceCtorEq,
        false_or] at member
      rcases member with rfl | rfl | inRight
      · exact Or.inl List.mem_cons_self
      · exact Or.inl (List.mem_cons_of_mem _ List.mem_cons_self)
      · exact right operand inRight _
          (List.Subset.trans (List.subset_cons_self _ _) (List.subset_cons_self _ _))

def readNumber : List Token → Option Int
  | [.word digits] => if digits.all isDigit then some (digitsValue digits) else none
  | [.symbol 45, .word digits] => if digits.all isDigit then some (-digitsValue digits) else none
  | _ => none

def readOperand : List Token → Option Operand
  | [.literal bytes] => some (.literal bytes)
  | .symbol 40 :: tokens =>
      if tokens.getLast? = some (.symbol 41) then (readNumber tokens.dropLast).map .grouped
      else none
  | [.word name] =>
      if name.all isDigit then some (.integer (digitsValue name)) else some (.column name)
  | tokens => (readNumber tokens).map .integer

def readExpr : List Token → Option Expr
  | .word column :: .symbol 43 :: right => (readOperand right).map (.add column)
  | .word column :: .symbol 45 :: right => (readOperand right).map (.subtract column)
  | .word column :: .symbol 124 :: .symbol 124 :: right => (readOperand right).map (.concat column)
  | tokens => (readOperand tokens).map .just

def readAssignment : List Token → Option Assignment
  | .word column :: .symbol 61 :: value => (readExpr value).map (Assignment.mk column)
  | _ => none

/-- A number is no column. -/
def IsColumn (name : Bytes) : Prop := IsWord name ∧ name.all isDigit = false

theorem readNumber_tokens (value : Int) : readNumber (decimalTokens value) = some value := by
  cases value with
  | ofNat n => simp [decimalTokens, readNumber, all_decimalNat, digitsValue_decimalNat]
  | negSucc n =>
      simp [decimalTokens, readNumber, all_decimalNat, digitsValue_decimalNat, Int.negSucc_eq]

theorem readOperand_tokens (operand : Operand) (columns : ∀ name ∈ operand.columns, IsColumn name) :
    readOperand operand.tokens = some operand := by
  cases operand with
  | literal bytes => rfl
  | column name =>
      have isColumn := (columns name List.mem_cons_self).2
      simp [Operand.tokens, readOperand, isColumn]
  | integer value =>
      have number := readNumber_tokens value
      cases value with
      | ofNat n =>
          simp [Operand.tokens, decimalTokens, readOperand, all_decimalNat, digitsValue_decimalNat]
      | negSucc n =>
          rw [decimalTokens] at number
          simp [Operand.tokens, decimalTokens, readOperand, number]
  | grouped value =>
      have last : (decimalTokens value ++ [Token.symbol 41]).getLast? = some (.symbol 41) := by simp
      have front : (decimalTokens value ++ [Token.symbol 41]).dropLast = decimalTokens value := by
        simp
      rw [Operand.tokens, List.cons_append, readOperand, if_pos last, front, readNumber_tokens]
      rfl

/-- No operand looks like an operator with its operands. -/
theorem readExpr_operand (operand : Operand) :
    readExpr operand.tokens = (readOperand operand.tokens).map .just := by
  cases operand with
  | integer value => cases value <;> rfl
  | column name => rfl
  | grouped value => rfl
  | literal bytes => rfl

theorem readExpr_tokens (expr : Expr) (columns : ∀ name ∈ expr.columns, IsColumn name) :
    readExpr expr.tokens = some expr := by
  have right {column : Bytes} {operand : Operand}
      (inColumns : ∀ name ∈ column :: operand.columns, IsColumn name) :
      readOperand operand.tokens = some operand :=
    readOperand_tokens operand fun name member => inColumns name (List.mem_cons_of_mem _ member)
  cases expr with
  | add column operand => simp [Expr.tokens, readExpr, right columns]
  | subtract column operand => simp [Expr.tokens, readExpr, right columns]
  | concat column operand => simp [Expr.tokens, readExpr, right columns]
  | just operand =>
      have read := readOperand_tokens operand columns
      rw [Expr.tokens, readExpr_operand, read]
      rfl

theorem readAssignment_tokens (assignment : Assignment)
    (columns : ∀ name ∈ assignment.columns, IsColumn name) :
    readAssignment assignment.tokens = some assignment := by
  have value := readExpr_tokens assignment.value
    fun name member => columns name (List.mem_cons_of_mem _ member)
  rw [Assignment.tokens, readAssignment, value]
  rfl

end SqlRow
