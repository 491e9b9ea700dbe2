import Mpdcron.Lib.CString

/-! Texts as lines that each end in a newline. -/

namespace CString

/-- Lines as they are sent. -/
def sent (lines : List Bytes) : Bytes := lines.flatMap fun line => line ++ [newline]

@[simp] theorem sent_nil : sent [] = [] := rfl

theorem sent_cons (line : Bytes) (lines : List Bytes) :
    sent (line :: lines) = line ++ newline :: sent lines := by
  simp [sent]

theorem sent_append (first second : List Bytes) : sent (first ++ second) = sent first ++ sent second :=
  List.flatMap_append

/-- The pieces of a text between its separators hold none. -/
theorem notMem_splitOn (separator : UInt8) (text : Bytes) :
    ∀ piece ∈ text.splitOn separator, separator ∉ piece := by
  induction text with
  | nil => simp
  | cons ch text ih =>
      rw [List.splitOn_cons_eq_if_modifyHead]
      by_cases isSeparator : (ch == separator) = true
      · rw [if_pos isSeparator]
        exact List.forall_mem_cons.mpr ⟨List.not_mem_nil, ih⟩
      · rw [if_neg isSeparator]
        cases split : text.splitOn separator with
        | nil => exact absurd split (List.splitOn_ne_nil separator text)
        | cons first rest =>
            rw [split, List.forall_mem_cons] at ih
            have different : separator ≠ ch := fun same => isSeparator (beq_iff_eq.mpr same.symm)
            exact List.forall_mem_cons.mpr ⟨by simp [different, ih.1], ih.2⟩

/-- All else in a text is in a piece. -/
theorem mem_splitOn (separator ch : UInt8) (other : ch ≠ separator) (text : Bytes) :
    (∃ piece ∈ text.splitOn separator, ch ∈ piece) ↔ ch ∈ text := by
  induction text with
  | nil => simp
  | cons first text ih =>
      rw [List.splitOn_cons_eq_if_modifyHead, List.mem_cons, ← ih]
      by_cases isSeparator : (first == separator) = true
      · have notFirst : ch ≠ first := fun same => other (same.trans (beq_iff_eq.mp isSeparator))
        simp [isSeparator, notFirst]
      · rw [if_neg isSeparator]
        cases split : text.splitOn separator with
        | nil => exact absurd split (List.splitOn_ne_nil separator text)
        | cons piece rest => simp [or_assoc]

/-- A text in one piece. -/
theorem splitOn_single (separator : UInt8) (text piece : Bytes)
    (single : text.splitOn separator = [piece]) : separator ∉ text := by
  have joined : [separator].intercalate (text.splitOn separator) = text :=
    List.intercalate_splitOn separator
  rw [single, List.intercalate_singleton] at joined
  rw [← joined]
  exact notMem_splitOn separator text piece (by simp [single])

/-- What precedes the first separator belongs to the first piece. -/
theorem splitOn_append (separator : UInt8) (front text : Bytes) (plain : separator ∉ front) :
    (front ++ text).splitOn separator = (text.splitOn separator).modifyHead (front ++ ·) := by
  induction front with
  | nil => exact (congrFun List.modifyHead_id _).symm
  | cons ch front ih =>
      simp only [List.mem_cons, not_or] at plain
      have different : ¬ (ch == separator) = true := fun same => plain.1 (beq_iff_eq.mp same).symm
      rw [List.cons_append, List.splitOn_cons_eq_if_modifyHead, if_neg different, ih plain.2,
        List.modifyHead_modifyHead]
      rfl

/-- Cutting what was sent at its newlines: the lines, themselves cut, and an empty rest. -/
theorem splitOn_sent (lines : List Bytes) :
    (sent lines).splitOn newline = lines.flatMap (·.splitOn newline) ++ [[]] := by
  induction lines with
  | nil => rfl
  | cons line lines ih =>
      rw [sent_cons, List.splitOn_append_cons_self, ih, List.flatMap_cons, List.append_assoc]

theorem flatMap_plain (lines : List Bytes) (plain : ∀ line ∈ lines, newline ∉ line) :
    lines.flatMap (·.splitOn newline) = lines := by
  induction lines with
  | nil => rfl
  | cons line lines ih =>
      rw [List.forall_mem_cons] at plain
      rw [List.flatMap_cons, List.splitOn_eq_singleton plain.1, ih plain.2]
      rfl

theorem splitOn_sent_plain (lines : List Bytes) (plain : ∀ line ∈ lines, newline ∉ line) :
    (sent lines).splitOn newline = lines ++ [[]] := by
  rw [splitOn_sent, flatMap_plain lines plain]

/-- A text that was sent has one reading as lines. -/
theorem sent_eq_iff (lines texts : List Bytes) (plain : ∀ line ∈ lines, newline ∉ line) :
    sent lines = sent texts ↔ lines = texts.flatMap (·.splitOn newline) := by
  constructor
  · intro same
    have cut : (sent lines).splitOn newline = (sent texts).splitOn newline := by rw [same]
    rw [splitOn_sent_plain lines plain, splitOn_sent] at cut
    exact List.append_cancel_right cut
  · intro same
    have cut : (sent lines).splitOn newline = (sent texts).splitOn newline := by
      rw [splitOn_sent_plain lines plain, splitOn_sent, same]
    calc sent lines
        = [newline].intercalate ((sent lines).splitOn newline) :=
          (List.intercalate_splitOn newline).symm
      _ = [newline].intercalate ((sent texts).splitOn newline) := by rw [cut]
      _ = sent texts := List.intercalate_splitOn newline

/-! ### Lines that `fgets` reads -/

/-- A line that fits the buffer is read at once, but for its newline. -/
theorem fgetsAll_short (size : Nat) (line : Bytes) (plain : newline ∉ line) : ∀ start : Bytes,
    start.length + line.length < size →
    fgetsAll size start line = if start ++ line = [] then [] else [start ++ line] := by
  induction line with
  | nil =>
      intro start _
      rw [List.append_nil, fgetsAll]
  | cons ch line ih =>
      intro start fits
      simp only [List.mem_cons, not_or] at plain
      rw [List.length_cons] at fits
      have nonempty : start ++ ch :: line ≠ [] := by simp
      rw [fgetsAll, if_neg nonempty]
      by_cases full : start.length + 2 = size
      · have last : line = [] := List.length_eq_zero_iff.mp (by omega)
        rw [if_pos (Or.inr full), last, fgetsAll, if_pos rfl]
      · have goesOn : ¬ (ch = newline ∨ start.length + 2 = size) := by
          rintro (same | isFull)
          · exact plain.1 same.symm
          · exact full isFull
        have later := ih plain.2 (start ++ [ch])
          (by simp only [List.length_append, List.length_singleton]; omega)
        rw [if_neg goesOn, later, List.append_assoc, List.singleton_append, if_neg nonempty]

section

variable {State : Type*} (step : State → Bytes → State)

/-- A reader to which the newline at the end of a buffer makes no difference. -/
structure IgnoresNewline : Prop where
  line : ∀ state line, step state (line ++ [newline]) = step state line
  alone : ∀ state, step state [newline] = state

/-- Reading a line of any length, a buffer after the other. -/
def readBuffers (size : Nat) (state : State) (line : Bytes) : State :=
  (fgetsAll size [] line).foldl step state

variable {step}

/-- A newline ends the line's last buffer, also when it finds no room in it and is read alone. -/
theorem IgnoresNewline.foldl_line (ignores : IgnoresNewline step) (size : Nat)
    (file line : Bytes) (plain : newline ∉ line) : ∀ start state,
    (fgetsAll size start (line ++ newline :: file)).foldl step state =
      (fgetsAll size [] file).foldl step ((fgetsAll size start line).foldl step state) := by
  induction line with
  | nil =>
      intro start state
      simp only [List.nil_append, fgetsAll, true_or, if_true, List.foldl_cons]
      by_cases blank : start = []
      · rw [if_pos blank, blank, List.nil_append, ignores.alone, List.foldl_nil]
      · rw [if_neg blank, ignores.line, List.foldl_cons, List.foldl_nil]
  | cons ch line ih =>
      intro start state
      simp only [List.mem_cons, not_or] at plain
      rw [List.cons_append, fgetsAll, fgetsAll]
      by_cases full : ch = newline ∨ start.length + 2 = size
      · rw [if_pos full, if_pos full, List.foldl_cons, List.foldl_cons, ih plain.2]
      · rw [if_neg full, if_neg full, ih plain.2]

/-- The buffers of a file are those of its lines. -/
theorem IgnoresNewline.foldl_file (ignores : IgnoresNewline step) (size : Nat) (file : Bytes)
    (state : State) :
    (fgetsAll size [] file).foldl step state =
      (file.splitOn newline).foldl (readBuffers step size) state := by
  have pieces (lines : List Bytes) : ∀ (first : Bytes) (state : State),
      (∀ line ∈ first :: lines, newline ∉ line) →
      (fgetsAll size [] ([newline].intercalate (first :: lines))).foldl step state =
        (first :: lines).foldl (readBuffers step size) state := by
    induction lines with
    | nil =>
        intro first state _
        rw [List.intercalate_singleton]
        rfl
    | cons second lines ih =>
        intro first state plain
        rw [List.forall_mem_cons] at plain
        rw [List.intercalate_cons_cons, List.append_assoc, List.singleton_append,
          ignores.foldl_line size _ first plain.1, ih second _ plain.2]
        rfl
  have plain := notMem_splitOn newline file
  have whole : [newline].intercalate (file.splitOn newline) = file :=
    List.intercalate_splitOn newline
  cases split : file.splitOn newline with
  | nil => exact absurd split (List.splitOn_ne_nil newline file)
  | cons first lines =>
      rw [split] at plain whole
      rw [← pieces lines first state plain, whole]

theorem IgnoresNewline.empty (ignores : IgnoresNewline step) (state : State) :
    step state [] = state := by
  calc step state []
    _ = step state ([] ++ [newline]) := (ignores.line state []).symm
    _ = state := ignores.alone state

theorem IgnoresNewline.readBuffers_short (ignores : IgnoresNewline step) (size : Nat)
    (state : State) (line : Bytes) (plain : newline ∉ line) (fits : line.length < size) :
    readBuffers step size state line = step state line := by
  rw [readBuffers, fgetsAll_short size line plain [] (by simpa using fits), List.nil_append]
  by_cases blank : line = []
  · rw [if_pos blank, blank, List.foldl_nil, ignores.empty]
  · rw [if_neg blank, List.foldl_cons, List.foldl_nil]

/-- Such a reader reads the lines themselves where they fit the buffer. -/
theorem IgnoresNewline.foldl_fgetsAll (ignores : IgnoresNewline step) (size : Nat)
    (lines : List Bytes) (plain : ∀ line ∈ lines, newline ∉ line)
    (fits : ∀ line ∈ lines, line.length < size) : ∀ state,
    (fgetsAll size [] (sent lines)).foldl step state = lines.foldl step state := by
  induction lines with
  | nil => exact fun _ => rfl
  | cons line lines ih =>
      intro state
      rw [List.forall_mem_cons] at plain fits
      have whole := ignores.readBuffers_short size state line plain.1 fits.1
      rw [readBuffers] at whole
      rw [sent_cons, ignores.foldl_line size _ line plain.1, whole, ih plain.2 fits.2,
        List.foldl_cons]

end

end CString
