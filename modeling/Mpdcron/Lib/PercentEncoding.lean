import Mathlib.Data.List.Basic
import Mpdcron.Lib.Delimited

/-! Texts in which all bytes but the plain ones are written as `%XX`, and lists of pairs of a key
and such a text. -/

namespace PercentEncoding

def percent : UInt8 := 37

def ampersand : UInt8 := 38

def equals : UInt8 := 61

def hexDigit (n : UInt8) : UInt8 := if n < 10 then 48 + n else 55 + n

/-- Digits of either case. -/
def hexValue (ch : UInt8) : Option UInt8 :=
  if 48 ≤ ch ∧ ch ≤ 57 then some (ch - 48)
  else if 65 ≤ ch ∧ ch ≤ 70 then some (ch - 55)
  else if 97 ≤ ch ∧ ch ≤ 102 then some (ch - 87)
  else none

/-- A percent sign that no two digits follow stands for itself. -/
def decode : List UInt8 → List UInt8
  | [] => []
  | [ch] => [ch]
  | [ch, next] => [ch, next]
  | ch :: high :: low :: text =>
      if ch = percent then
        match hexValue high, hexValue low with
        | some highValue, some lowValue => (highValue * 16 + lowValue) :: decode text
        | _, _ => ch :: decode (high :: low :: text)
      else ch :: decode (high :: low :: text)

def encodeByte (plain : UInt8 → Bool) (ch : UInt8) : List UInt8 :=
  if plain ch then [ch] else [percent, hexDigit (ch / 16), hexDigit (ch % 16)]

def encode (plain : UInt8 → Bool) (text : List UInt8) : List UInt8 := text.flatMap (encodeByte plain)

theorem hexDigits (ch : UInt8) :
    hexValue (hexDigit (ch / 16)) = some (ch / 16) ∧
      hexValue (hexDigit (ch % 16)) = some (ch % 16) ∧ ch / 16 * 16 + ch % 16 = ch := by
  rcases ch with ⟨⟨value⟩⟩
  revert value
  decide +kernel

theorem decode_cons (ch : UInt8) (text : List UInt8) (other : ch ≠ percent) :
    decode (ch :: text) = ch :: decode text := by
  rcases text with _ | ⟨high, _ | ⟨low, text⟩⟩
  · rfl
  · rfl
  · rw [decode, if_neg other]

/-- What was encoded is decoded again. -/
theorem decode_encode (plain : UInt8 → Bool) (escaped : plain percent = false)
    (text : List UInt8) : decode (encode plain text) = text := by
  induction text with
  | nil => rfl
  | cons ch text ih =>
      rw [encode, List.flatMap_cons, encodeByte]
      by_cases isPlain : plain ch
      · have other : ch ≠ percent := by
          intro same
          rw [same, escaped] at isPlain
          cases isPlain
        rw [if_pos isPlain, List.singleton_append, decode_cons ch _ other]
        exact congrArg (ch :: ·) ih
      · rcases hexDigits ch with ⟨high, low, whole⟩
        rw [if_neg isPlain]
        simp only [List.cons_append, List.nil_append, decode, if_true, high, low, whole]
        exact congrArg (ch :: ·) ih

/-- A byte that is neither plain nor part of an escape is in no encoded text. -/
theorem notMem_encode (plain : UInt8 → Bool) (ch : UInt8) (escaped : plain ch = false)
    (notPercent : ch ≠ percent) (notDigit : hexValue ch = none) (text : List UInt8) :
    ch ∉ encode plain text := by
  intro member
  rcases List.mem_flatMap.mp member with ⟨other, -, inByte⟩
  rw [encodeByte] at inByte
  split_ifs at inByte with isPlain
  · rw [← List.mem_singleton.mp inByte, escaped] at isPlain
    cases isPlain
  · rcases hexDigits other with ⟨high, low, -⟩
    simp only [List.mem_cons, List.not_mem_nil, or_false] at inByte
    rcases inByte with same | same | same
    · exact notPercent same
    · rw [same, high] at notDigit
      cases notDigit
    · rw [same, low] at notDigit
      cases notDigit

/-! ### Pairs -/

/-- A piece at its first `=`, the value decoded. -/
def decodePair (piece : List UInt8) : List UInt8 × List UInt8 :=
  (piece.takeWhile (· ≠ equals), decode ((piece.dropWhile (· ≠ equals)).drop 1))

def decodePairs (text : List UInt8) : List (List UInt8 × List UInt8) :=
  (text.splitOn ampersand).map decodePair

/-- What a pair is written as. -/
def pairText (plain : UInt8 → Bool) (pair : List UInt8 × List UInt8) : List UInt8 :=
  pair.1 ++ equals :: encode plain pair.2

/-- A key that is found again. -/
structure IsKey (key : List UInt8) : Prop where
  noEquals : equals ∉ key
  noAmpersand : ampersand ∉ key

/-- The bytes that are plain leave the separators to the pairs. -/
structure Separates (plain : UInt8 → Bool) : Prop where
  percent : plain percent = false
  ampersand : plain ampersand = false

variable {plain : UInt8 → Bool}

theorem decodePair_pairText (separates : Separates plain) (pair : List UInt8 × List UInt8)
    (isKey : IsKey pair.1) : decodePair (pairText plain pair) = pair := by
  rw [decodePair, pairText, Delimited.takeWhile_front equals _ _ isKey.noEquals,
    Delimited.dropWhile_front equals _ _ isKey.noEquals, List.drop_one, List.tail_cons,
    decode_encode plain separates.percent]

theorem pairText_single (separates : Separates plain) (pair : List UInt8 × List UInt8)
    (isKey : IsKey pair.1) : ampersand ∉ pairText plain pair := by
  have inValue := notMem_encode plain ampersand separates.ampersand (by decide) (by decide) pair.2
  rw [pairText, List.mem_append, List.mem_cons]
  rintro (inKey | same | value)
  · exact isKey.noAmpersand inKey
  · exact absurd same (by decide)
  · exact inValue value

/-- Pairs that are written one behind the other are found again, all of them and no others. -/
theorem decodePairs_texts (separates : Separates plain) (first : List UInt8 × List UInt8)
    (pairs : List (List UInt8 × List UInt8)) (isKey : ∀ pair ∈ first :: pairs, IsKey pair.1) :
    decodePairs (pairText plain first ++ pairs.flatMap fun pair => ampersand :: pairText plain pair)
      = first :: pairs := by
  induction pairs generalizing first with
  | nil =>
      have key := isKey first List.mem_cons_self
      rw [List.flatMap_nil, List.append_nil, decodePairs,
        List.splitOn_eq_singleton (pairText_single separates first key), List.map_singleton,
        decodePair_pairText separates first key]
  | cons second pairs ih =>
      rw [List.forall_mem_cons] at isKey
      rw [List.flatMap_cons, List.cons_append, decodePairs, List.splitOn_append_cons_self,
        List.splitOn_eq_singleton (pairText_single separates first isKey.1), List.map_append,
        List.map_singleton, decodePair_pairText separates first isKey.1]
      exact congrArg (first :: ·) (ih second isKey.2)

end PercentEncoding
