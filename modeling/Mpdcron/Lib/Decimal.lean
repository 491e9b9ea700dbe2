import Mpdcron.Lib.CString

/-! Decimal numbers: what `%i` prints, `strtol` reads back. -/

namespace CString

def digitByte (d : Nat) : UInt8 := UInt8.ofNat (48 + d)

theorem digitChar_byte : ∀ d < 10, UInt8.ofNat (Nat.digitChar d).toNat = digitByte d := by decide

theorem digitByte_digit : ∀ d < 10, isDigit (digitByte d) = true := by decide

theorem digitByte_value : ∀ d < 10, (digitByte d).toNat - 48 = d := by decide

theorem decimalNat_of_lt (d : Nat) (small : d < 10) : decimalNat d = [digitByte d] := by
  rw [decimalNat, Nat.toDigits_of_lt_base small, List.map_singleton, digitChar_byte d small]

theorem decimalNat_of_ge (n : Nat) (large : 10 ≤ n) :
    decimalNat n = decimalNat (n / 10) ++ [digitByte (n % 10)] := by
  have digit : n % 10 < 10 := Nat.mod_lt n (by decide)
  rw [decimalNat, Nat.toDigits_of_base_le (by decide) large, List.map_append, List.map_singleton,
    digitChar_byte _ digit, decimalNat]

theorem decimalNat_digits (n : Nat) : ∀ ch ∈ decimalNat n, isDigit ch = true := by
  induction n using Nat.strong_induction_on with
  | _ n ih =>
      by_cases small : n < 10
      · simp [decimalNat_of_lt n small, digitByte_digit n small]
      · have digit : n % 10 < 10 := Nat.mod_lt n (by decide)
        have shorter := ih (n / 10) (Nat.div_lt_self (by omega) (by decide))
        rw [decimalNat_of_ge n (by omega)]
        simpa [digitByte_digit _ digit, or_imp, forall_and] using shorter

theorem decimalNat_ne_nil (n : Nat) : decimalNat n ≠ [] := by
  simp [decimalNat]

theorem digitsValue_concat (digits : Bytes) (d : UInt8) :
    digitsValue (digits ++ [d]) = 10 * digitsValue digits + (d.toNat - 48) := by
  rw [digitsValue, List.foldl_append]
  rfl

theorem digitsValue_decimalNat (n : Nat) : digitsValue (decimalNat n) = n := by
  induction n using Nat.strong_induction_on with
  | _ n ih =>
      by_cases small : n < 10
      · rw [decimalNat_of_lt n small]
        simpa [digitsValue] using digitByte_value n small
      · have digit : n % 10 < 10 := Nat.mod_lt n (by decide)
        have shorter := ih (n / 10) (Nat.div_lt_self (by omega) (by decide))
        calc digitsValue (decimalNat n)
            = 10 * digitsValue (decimalNat (n / 10)) + ((digitByte (n % 10)).toNat - 48) := by
              rw [decimalNat_of_ge n (by omega), digitsValue_concat]
          _ = 10 * (n / 10) + n % 10 := by rw [shorter, digitByte_value _ digit]
          _ = n := Nat.div_add_mod n 10

/-- What a decimal number consists of. -/
theorem decimal_bytes (value : Int) : ∀ ch ∈ decimal value, isDigit ch = true ∨ ch = 45 := by
  cases value with
  | ofNat n => exact fun ch inDigits => Or.inl (decimalNat_digits n ch inDigits)
  | negSucc n =>
      intro ch inText
      rcases List.mem_cons.mp inText with rfl | inDigits
      · exact Or.inr rfl
      · exact Or.inl (decimalNat_digits (n + 1) ch inDigits)

theorem notMem_decimal (ch : UInt8) (notDigit : isDigit ch = false) (notMinus : ch ≠ 45)
    (value : Int) : ch ∉ decimal value := by
  intro inText
  rcases decimal_bytes value ch inText with digit | minus
  · rw [notDigit] at digit
    cases digit
  · exact notMinus minus

theorem decimal_oneLine (value : Int) : newline ∉ decimal value :=
  notMem_decimal newline (by decide) (by decide) value

theorem decimal_noNul (value : Int) : (0 : UInt8) ∉ decimal value :=
  notMem_decimal 0 (by decide) (by decide) value

/-- A text that no digit starts. -/
def EndsNumber (rest : Bytes) : Prop := ∀ ch ∈ rest.head?, isDigit ch = false

theorem span_digits (digits rest : Bytes) (digit : ∀ ch ∈ digits, isDigit ch = true)
    (ends : EndsNumber rest) :
    (digits ++ rest).takeWhile isDigit = digits ∧ (digits ++ rest).dropWhile isDigit = rest := by
  have stops : rest.takeWhile isDigit = [] ∧ rest.dropWhile isDigit = rest := by
    cases rest with
    | nil => exact ⟨rfl, rfl⟩
    | cons ch rest =>
        have notDigit := ends ch rfl
        simp [notDigit]
  rw [List.takeWhile_append_of_pos digit, List.dropWhile_append_of_pos digit, stops.1, stops.2]
  exact ⟨List.append_nil _, rfl⟩

theorem endsNumber_dropWhile (text : Bytes) : EndsNumber (text.dropWhile isDigit) := by
  intro ch first
  have stopped := List.head?_dropWhile_not isDigit text
  rw [first] at stopped
  simpa using stopped

theorem digit_plain (ch : UInt8) (digit : isDigit ch = true) :
    isSpaceC ch = false ∧ ch ≠ 45 ∧ ch ≠ 43 := by
  simp only [isDigit, isSpaceC] at digit ⊢
  grind

theorem digit_notSpace (ch : UInt8) (digit : isDigit ch = true) : isSpace ch = false := by
  simp only [isDigit, isSpace] at digit ⊢
  grind

theorem strip_decimal (value : Int) : strip (decimal value) = decimal value := by
  apply strip_unspaced
  intro ch member
  rcases decimal_bytes value ch member with digit | rfl
  · exact digit_notSpace ch digit
  · rfl

/-! ### What `strtol` reads -/

/-- The sign in front of the digits. -/
inductive Sign where
  | none
  | plus
  | minus
  deriving DecidableEq, Repr

def Sign.text : Sign → Bytes
  | .none => []
  | .plus => [43]
  | .minus => [45]

def Sign.apply : Sign → Nat → Int
  | .minus, magnitude => -magnitude
  | _, magnitude => magnitude

/-- A decimal integer: blanks, a sign and digits. -/
structure Numeral where
  blanks : Bytes
  sign : Sign
  digits : Bytes
  blank : ∀ ch ∈ blanks, isSpaceC ch = true
  digit : ∀ ch ∈ digits, isDigit ch = true
  nonempty : digits ≠ []

def Numeral.text (numeral : Numeral) : Bytes :=
  numeral.blanks ++ (numeral.sign.text ++ numeral.digits)

def Numeral.value (numeral : Numeral) : Int := numeral.sign.apply (digitsValue numeral.digits)

theorem Numeral.text_append_ne (numeral : Numeral) (rest : Bytes) : rest ≠ numeral.text ++ rest := by
  have long := List.length_pos_of_ne_nil numeral.nonempty
  intro same
  have lengths := congrArg List.length same
  simp only [Numeral.text, List.length_append] at lengths
  omega

/-- Neither a blank nor a sign starts the text. -/
def Unsigned (text : Bytes) : Prop :=
  ∀ ch ∈ text.head?, isSpaceC ch = false ∧ ch ≠ 45 ∧ ch ≠ 43

theorem unsigned_digits (digits rest : Bytes) (digit : ∀ ch ∈ digits, isDigit ch = true)
    (nonempty : digits ≠ []) : Unsigned (digits ++ rest) := by
  rcases List.exists_cons_of_ne_nil nonempty with ⟨first, others, rfl⟩
  intro ch head
  cases head
  exact digit_plain first (digit first List.mem_cons_self)

/-- Every text starts with blanks and perhaps a sign. -/
theorem exists_sign (text : Bytes) : ∃ blanks sign start,
    text = blanks ++ (Sign.text sign ++ start) ∧ (∀ ch ∈ blanks, isSpaceC ch = true) ∧
      (sign = .none → Unsigned start) := by
  have split := List.takeWhile_append_dropWhile (p := isSpaceC) (l := text)
  have blank : ∀ ch ∈ text.takeWhile isSpaceC, isSpaceC ch = true := fun ch member =>
    List.mem_takeWhile_imp member
  have stopped := List.head?_dropWhile_not isSpaceC text
  cases rest : text.dropWhile isSpaceC with
  | nil =>
      rw [rest] at split
      exact ⟨_, .none, [], split.symm, blank, fun _ ch head => by cases head⟩
  | cons ch start =>
      rw [rest] at split stopped
      by_cases minus : ch = 45
      · subst minus
        exact ⟨_, .minus, start, split.symm, blank, fun none => by cases none⟩
      · by_cases plus : ch = 43
        · subst plus
          exact ⟨_, .plus, start, split.symm, blank, fun none => by cases none⟩
        · refine ⟨_, .none, ch :: start, split.symm, blank, ?_⟩
          intro _ first head
          cases head
          exact ⟨by simpa using stopped, minus, plus⟩

theorem strtol_signed (blanks : Bytes) (sign : Sign) (start : Bytes)
    (blank : ∀ ch ∈ blanks, isSpaceC ch = true) (unsigned : sign = .none → Unsigned start) :
    strtol (blanks ++ (sign.text ++ start))
      = if start.takeWhile isDigit = [] then (0, blanks ++ (sign.text ++ start))
        else (sign.apply (digitsValue (start.takeWhile isDigit)), start.dropWhile isDigit) := by
  have behind : (blanks ++ (sign.text ++ start)).dropWhile isSpaceC = sign.text ++ start := by
    rw [List.dropWhile_append_of_pos blank]
    cases sign with
    | none =>
        cases start with
        | nil => rfl
        | cons ch start =>
            exact List.dropWhile_cons_of_neg (by simp [(unsigned rfl ch rfl).1])
    | plus => rfl
    | minus => rfl
  rw [strtol, behind]
  cases sign with
  | none =>
      dsimp only
      split
      · rename_i minus
        exact absurd rfl (unsigned rfl 45 (congrArg List.head? minus)).2.1
      · rename_i plus
        exact absurd rfl (unsigned rfl 43 (congrArg List.head? plus)).2.2
      · simp only [Sign.text, List.nil_append, Sign.apply, Int.one_mul]
  | plus => simp only [Sign.text, List.cons_append, List.nil_append, Sign.apply, Int.one_mul]
  | minus => simp only [Sign.text, List.cons_append, List.nil_append, Sign.apply, Int.neg_one_mul]

theorem strtol_numeral (numeral : Numeral) (rest : Bytes) (ends : EndsNumber rest) :
    strtol (numeral.text ++ rest) = (numeral.value, rest) := by
  have digits := span_digits numeral.digits rest numeral.digit ends
  have read := strtol_signed numeral.blanks numeral.sign (numeral.digits ++ rest) numeral.blank
    fun _ => unsigned_digits numeral.digits rest numeral.digit numeral.nonempty
  rw [digits.1, digits.2, if_neg numeral.nonempty] at read
  simpa only [Numeral.text, Numeral.value, List.append_assoc] using read

/-- A text without a number in front is not read at all. -/
theorem strtol_cases (text : Bytes) : strtol text = (0, text) ∨
    ∃ (numeral : Numeral) (rest : Bytes), text = numeral.text ++ rest ∧ EndsNumber rest := by
  rcases exists_sign text with ⟨blanks, sign, start, split, blank, unsigned⟩
  by_cases none : start.takeWhile isDigit = []
  · have read := strtol_signed blanks sign start blank unsigned
    rw [if_pos none, ← split] at read
    exact Or.inl read
  · refine Or.inr ⟨⟨blanks, sign, start.takeWhile isDigit, blank, fun ch member =>
      List.mem_takeWhile_imp member, none⟩, start.dropWhile isDigit, ?_, endsNumber_dropWhile start⟩
    simp only [split, Numeral.text, List.append_assoc, List.takeWhile_append_dropWhile]

/-- The texts that are a decimal integer. -/
def IsInteger (text : Bytes) (value : Int) : Prop :=
  ∃ numeral : Numeral, numeral.text = text ∧ numeral.value = value

theorem isInteger_iff (text : Bytes) (value : Int) :
    IsInteger text value ↔ strtol text = (value, []) ∧ text ≠ [] := by
  constructor
  · intro integer
    rcases integer with ⟨numeral, rfl, rfl⟩
    have read := strtol_numeral numeral [] (by simp [EndsNumber])
    have nonempty := numeral.text_append_ne []
    rw [List.append_nil] at read nonempty
    exact ⟨read, nonempty.symm⟩
  · intro whole
    rcases whole with ⟨read, nonempty⟩
    rcases strtol_cases text with nothing | ⟨numeral, rest, split, ends⟩
    · rw [nothing] at read
      exact absurd (Prod.mk.inj read).2 nonempty
    · rw [split, strtol_numeral numeral rest ends] at read
      rcases Prod.mk.inj read with ⟨same, empty⟩
      exact ⟨numeral, by rw [split, empty, List.append_nil], same⟩

/-- What `%i` prints. -/
def decimalNumeral : Int → Numeral
  | .ofNat n =>
      { blanks := [], sign := .none, digits := decimalNat n, blank := by simp
        digit := decimalNat_digits n, nonempty := decimalNat_ne_nil n }
  | .negSucc n =>
      { blanks := [], sign := .minus, digits := decimalNat (n + 1), blank := by simp
        digit := decimalNat_digits (n + 1), nonempty := decimalNat_ne_nil (n + 1) }

theorem decimalNumeral_text (value : Int) : (decimalNumeral value).text = decimal value := by
  cases value <;> rfl

theorem decimalNumeral_value (value : Int) : (decimalNumeral value).value = value := by
  cases value with
  | ofNat n => exact congrArg Int.ofNat (digitsValue_decimalNat n)
  | negSucc n =>
      have magnitude := digitsValue_decimalNat (n + 1)
      simp only [Numeral.value, decimalNumeral, Sign.apply, magnitude]
      omega

theorem strtol_decimal (value : Int) (rest : Bytes) (ends : EndsNumber rest) :
    strtol (decimal value ++ rest) = (value, rest) := by
  have read := strtol_numeral (decimalNumeral value) rest ends
  rwa [decimalNumeral_text, decimalNumeral_value] at read

theorem strtol_whole_decimal (value : Int) : strtol (decimal value) = (value, []) := by
  have parsed := strtol_decimal value [] (by simp [EndsNumber])
  rwa [List.append_nil] at parsed

/-- An `int` that went through a `long` is the same. -/
theorem wrapInt_clampLong (value : Int) (low : intMin ≤ value) (high : value ≤ intMax) :
    wrapInt (clampLong value) = value := by
  simp only [intMin, intMax] at low high
  have clamped : clampLong value = value := by
    simp only [clampLong]
    omega
  rw [clamped, wrapInt, Int.bmod_eq_of_le (by omega) (by omega)]

theorem wrapInt_range (value : Int) : intMin ≤ wrapInt value ∧ wrapInt value ≤ intMax := by
  have low := Int.le_bmod (x := value) (m := 2 ^ 32) (by decide)
  have high := Int.bmod_lt (x := value) (m := 2 ^ 32) (by decide)
  rw [wrapInt, intMin, intMax]
  omega

/-- The integers that an `int` holds. -/
theorem wrapInt_eq_iff (value : Int) : wrapInt value = value ↔ intMin ≤ value ∧ value ≤ intMax := by
  constructor
  · intro same
    rw [← same]
    exact wrapInt_range value
  · rintro ⟨low, high⟩
    rw [intMin] at low
    rw [intMax] at high
    rw [wrapInt, Int.bmod_eq_of_le (by omega) (by omega)]

/-- `%d` of an `int`, read back by `atoi`. -/
theorem atoi_decimal (value : Int) (low : intMin ≤ value) (high : value ≤ intMax) :
    atoi (decimal value) = value := by
  rw [atoi, strtol_whole_decimal, wrapInt_clampLong value low high]

end CString
