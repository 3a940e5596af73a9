import Mathlib.Data.List.Induction
import Mathlib.Tactic.Common

/-!
# `csv.reader` and `csv.DictReader` of the Excel dialect

The reader is a state machine over the characters of a line and the end of the line; a record ends
where a line ends outside quotes.  `io.StringIO` cuts a text at `\n` only, so a carriage return
that is not at the end of a line reaches the machine as a character.
-/

namespace Python.Csv

/-- The reasons of `csv.Error`. -/
inductive Error where
  /-- `line contains NUL`, before Python 3.11. -/
  | nul
  /-- `new-line character seen in unquoted field`. -/
  | newLine
  /-- `field larger than field limit (131072)`. -/
  | fieldLimit
  deriving DecidableEq, Repr

def fieldLimit : Nat := 131072

inductive State where
  | startRecord
  | startField
  | inField
  | inQuotedField
  | quoteInQuotedField
  | eatCrnl
  deriving DecidableEq, Repr

structure Reader where
  state : State
  fields : List String
  field : List Char
  deriving DecidableEq, Repr

/-- `parse_reset`. -/
def Reader.reset : Reader := ⟨.startRecord, [], []⟩

/-- `parse_save_field`. -/
def Reader.saveField (reader : Reader) : Reader :=
  { reader with fields := reader.fields ++ [String.ofList reader.field], field := [] }

/-- `parse_add_char`. -/
def Reader.addChar (reader : Reader) (c : Char) : Except Error Reader :=
  if fieldLimit ≤ reader.field.length then .error .fieldLimit
  else .ok { reader with field := reader.field ++ [c] }

def Reader.goto (reader : Reader) (state : State) : Reader := { reader with state := state }

/-- `state = (c == EOL ? START_RECORD : EAT_CRNL)`. -/
def afterNewline : Option Char → State
  | none => .startRecord
  | some _ => .eatCrnl

/-- `c == '\n' || c == '\r' || c == EOL`; the end of a line is `none`. -/
def endsLine (c : Option Char) : Bool := c = none || c = some '\n' || c = some '\r'

/-- The case `START_FIELD`. -/
def processStartField (reader : Reader) (c : Option Char) : Except Error Reader :=
  if endsLine c then .ok (reader.saveField.goto (afterNewline c))
  else match c with
    | some '"' => .ok (reader.goto .inQuotedField)
    | some ',' => .ok (reader.saveField.goto .startField)
    | some c => return (← reader.addChar c).goto .inField
    | none => .ok reader

/-- `parse_process_char`. -/
def processChar (reader : Reader) (c : Option Char) : Except Error Reader :=
  match reader.state with
  | .startRecord =>
      match c with
      -- an empty line is the empty record
      | none => .ok reader
      | some c =>
          if c = '\n' ∨ c = '\r' then .ok (reader.goto .eatCrnl)
          else processStartField reader (some c)
  | .startField => processStartField reader c
  | .inField =>
      if endsLine c then .ok (reader.saveField.goto (afterNewline c))
      else match c with
        | some ',' => .ok (reader.saveField.goto .startField)
        | some c => reader.addChar c
        | none => .ok reader
  | .inQuotedField =>
      match c with
      | none => .ok reader
      | some '"' => .ok (reader.goto .quoteInQuotedField)
      | some c => reader.addChar c
  | .quoteInQuotedField =>
      if endsLine c then .ok (reader.saveField.goto (afterNewline c))
      else match c with
        -- two quotes stand for one
        | some '"' => return (← reader.addChar '"').goto .inQuotedField
        | some ',' => .ok (reader.saveField.goto .startField)
        | some c => return (← reader.addChar c).goto .inField
        | none => .ok reader
  | .eatCrnl =>
      match c with
      | none => .ok (reader.goto .startRecord)
      | some c => if c = '\n' ∨ c = '\r' then .ok reader else .error .newLine

/-- The characters of one line and its end; `refusesNul` is a Python before 3.11. -/
def readLine (refusesNul : Bool) : Reader → List Char → Except Error Reader
  | reader, [] => processChar reader none
  | reader, c :: cs =>
      if refusesNul ∧ c = '\x00' then .error .nul
      else
        match processChar reader (some c) with
        | .ok reader' => readLine refusesNul reader' cs
        | .error e => .error e

/-- The lines `io.StringIO` hands out, each with its `\n`. -/
def lines : List Char → List (List Char)
  | [] => []
  | c :: cs =>
      if c = '\n' then [c] :: lines cs
      else
        match lines cs with
        | [] => [[c]]
        | line :: rest => (c :: line) :: rest

/-- The records `Reader_iternext` returns. -/
def records (refusesNul : Bool) : Reader → List (List Char) → Except Error (List (List String))
  | reader, [] =>
      -- the text has ended inside quotes
      if reader.field ≠ [] ∨ reader.state = .inQuotedField then .ok [reader.saveField.fields]
      else .ok []
  | reader, line :: rest =>
      match readLine refusesNul reader line with
      | .error e => .error e
      | .ok reader' =>
          if reader'.state = .startRecord then
            return reader'.fields :: (← records refusesNul .reset rest)
          else records refusesNul reader' rest

/-- `csv.reader(io.StringIO(text))`, read to its end. -/
def reader (refusesNul : Bool) (text : List Char) : Except Error (List (List String)) :=
  records refusesNul .reset (lines text)

example : reader false "ip,group\n\"a,b\",\"c\"\"d\"\n\n".toList =
      .ok [["ip", "group"], ["a,b", "c\"d"], []] ∧
    reader false "ip\rhostname".toList = .error .newLine := by decide

/-! ## Texts the reader accepts -/

theorem flatten_lines (cs : List Char) : (lines cs).flatten = cs := by
  induction cs with
  | nil => rfl
  | cons c cs ih =>
      rw [lines]
      by_cases hc : c = '\n'
      · rw [if_pos hc, List.flatten_cons, ih, List.singleton_append]
      · rw [if_neg hc]
        cases hlines : lines cs with
        | nil =>
            rw [hlines] at ih
            rw [← ih]
            rfl
        | cons line rest =>
            rw [hlines] at ih
            rw [List.flatten_cons, List.cons_append, ← List.flatten_cons, ih]

/-- A line feed is the last character of its line. -/
theorem not_newline_of_mem_lines {cs line : List Char} (h : line ∈ lines cs) :
    '\n' ∉ line.dropLast := by
  induction cs generalizing line with
  | nil => cases h
  | cons c cs ih =>
      rw [lines] at h
      by_cases hc : c = '\n'
      · rw [if_pos hc] at h
        rcases List.mem_cons.mp h with rfl | h
        · exact List.not_mem_nil
        · exact ih h
      · rw [if_neg hc] at h
        cases hlines : lines cs with
        | nil =>
            rw [hlines, List.mem_singleton] at h
            rw [h]
            exact List.not_mem_nil
        | cons first rest =>
            rw [hlines] at h ih
            rcases List.mem_cons.mp h with rfl | h
            · intro hmem
              cases first with
              | nil => exact absurd hmem List.not_mem_nil
              | cons d ds =>
                  rcases List.mem_cons.mp hmem with heq | hmem
                  · exact hc heq.symm
                  · exact ih List.mem_cons_self hmem
            · exact ih (List.mem_cons_of_mem _ h)

theorem addChar_of_lt {reader : Reader} (h : reader.field.length < fieldLimit) (c : Char) :
    reader.addChar c = .ok { reader with field := reader.field ++ [c] } := by
  rw [Reader.addChar, if_neg (by omega)]

/-- What a character does that is no carriage return and finds room. -/
structure Reads (reader : Reader) (c : Char) (reader' : Reader) : Prop where
  field : reader'.field.length ≤ reader.field.length + 1
  state : reader'.state = .eatCrnl → c = '\n'

theorem Reads.saved {reader : Reader} {c : Char} (state : State)
    (h : state = .eatCrnl → c = '\n') : Reads reader c (reader.saveField.goto state) :=
  ⟨Nat.zero_le _, h⟩

theorem Reads.moved {reader : Reader} {c : Char} (state : State) (h : state ≠ .eatCrnl) :
    Reads reader c (reader.goto state) :=
  ⟨Nat.le_succ _, fun heq => absurd heq h⟩

theorem Reads.added {reader : Reader} {c : Char} (d : Char) (state : State) (h : state ≠ .eatCrnl) :
    Reads reader c { reader with field := reader.field ++ [d], state := state } :=
  ⟨by simp, fun heq => absurd heq h⟩

theorem eq_newline_of_endsLine {c : Char} (h : endsLine (some c) = true) (hcr : c ≠ '\r') :
    c = '\n' := by
  simpa [endsLine, hcr] using h

theorem processStartField_reads {reader : Reader} {c : Char}
    (hroom : reader.field.length < fieldLimit) (hcr : c ≠ '\r') :
    ∃ reader', processStartField reader (some c) = .ok reader' ∧ Reads reader c reader' := by
  unfold processStartField
  by_cases hend : endsLine (some c) = true
  · rw [if_pos hend]
    exact ⟨_, rfl, .saved _ fun _ => eq_newline_of_endsLine hend hcr⟩
  · rw [if_neg hend]
    split
    · exact ⟨_, rfl, .moved _ (by decide)⟩
    · exact ⟨_, rfl, .saved _ fun h => absurd h (by decide)⟩
    · rename_i d _ _ hd
      rw [addChar_of_lt hroom]
      exact ⟨_, rfl, .added d _ (by decide)⟩
    · exact ⟨_, rfl, .moved reader.state fun _ => by cases ‹some c = none›⟩

/-- A character is read wherever the last one did not end a line. -/
theorem processChar_reads {reader : Reader} {c : Char} (hstate : reader.state ≠ .eatCrnl)
    (hroom : reader.field.length < fieldLimit) (hcr : c ≠ '\r') :
    ∃ reader', processChar reader (some c) = .ok reader' ∧ Reads reader c reader' := by
  unfold processChar
  cases hcase : reader.state with
  | startRecord =>
      dsimp only
      by_cases hend : c = '\n' ∨ c = '\r'
      · rw [if_pos hend]
        exact ⟨_, rfl, Nat.le_succ _, fun _ => hend.resolve_right hcr⟩
      · rw [if_neg hend]
        exact processStartField_reads hroom hcr
  | startField => exact processStartField_reads hroom hcr
  | inField =>
      dsimp only
      by_cases hend : endsLine (some c) = true
      · rw [if_pos hend]
        exact ⟨_, rfl, .saved _ fun _ => eq_newline_of_endsLine hend hcr⟩
      · rw [if_neg hend]
        split
        · exact ⟨_, rfl, .saved _ fun h => absurd h (by decide)⟩
        · rename_i d _ hd
          rw [addChar_of_lt hroom]
          exact ⟨_, rfl, .added d _ hstate⟩
        · cases ‹some c = none›
  | inQuotedField =>
      dsimp only
      split
      · cases ‹some c = none›
      · exact ⟨_, rfl, .moved _ (by decide)⟩
      · rename_i d _ hd
        rw [addChar_of_lt hroom]
        exact ⟨_, rfl, .added d _ hstate⟩
  | quoteInQuotedField =>
      dsimp only
      by_cases hend : endsLine (some c) = true
      · rw [if_pos hend]
        exact ⟨_, rfl, .saved _ fun _ => eq_newline_of_endsLine hend hcr⟩
      · rw [if_neg hend]
        split
        · rw [addChar_of_lt hroom]
          exact ⟨_, rfl, .added _ _ (by decide)⟩
        · exact ⟨_, rfl, .saved _ fun h => absurd h (by decide)⟩
        · rename_i d _ _ hd
          rw [addChar_of_lt hroom]
          exact ⟨_, rfl, .added d _ (by decide)⟩
        · cases ‹some c = none›
  | eatCrnl => exact absurd hcase hstate

/-- The end of a line is read in every state, and the next line can begin. -/
theorem processChar_end (reader : Reader) : ∃ reader', processChar reader none = .ok reader' ∧
    reader'.field.length ≤ reader.field.length ∧ reader'.state ≠ .eatCrnl := by
  unfold processChar
  cases hcase : reader.state with
  | startRecord => exact ⟨reader, rfl, Nat.le_refl _, by simp [hcase]⟩
  | startField => exact ⟨_, rfl, Nat.zero_le _, by simp [Reader.goto, afterNewline]⟩
  | inField => exact ⟨_, rfl, Nat.zero_le _, by simp [Reader.goto, afterNewline]⟩
  | inQuotedField => exact ⟨reader, rfl, Nat.le_refl _, by simp [hcase]⟩
  | quoteInQuotedField => exact ⟨_, rfl, Nat.zero_le _, by simp [Reader.goto, afterNewline]⟩
  | eatCrnl => exact ⟨_, rfl, Nat.le_refl _, by simp [Reader.goto]⟩

theorem exists_readLine (refusesNul : Bool) {line : List Char} {reader : Reader}
    (hcr : '\r' ∉ line) (hnul : '\x00' ∉ line) (hnewline : '\n' ∉ line.dropLast)
    (hstate : reader.state = .eatCrnl → line = [])
    (hroom : reader.field.length + line.length ≤ fieldLimit) :
    ∃ reader', readLine refusesNul reader line = .ok reader' ∧
      reader'.field.length ≤ reader.field.length + line.length ∧ reader'.state ≠ .eatCrnl := by
  induction line generalizing reader with
  | nil => exact processChar_end reader
  | cons c cs ih =>
      rw [List.length_cons] at hroom
      have hne : c ≠ '\r' := fun heq => hcr (heq ▸ List.mem_cons_self)
      have hne' : ¬(refusesNul = true ∧ c = '\x00') := fun hand =>
        hnul (hand.2 ▸ List.mem_cons_self)
      obtain ⟨reader', hread, hfield, heat⟩ := processChar_reads
        (fun heq => List.cons_ne_nil _ _ (hstate heq)) (by omega) hne
      rw [readLine, if_neg hne', hread]
      -- a newline is only at the end of the line
      have hnewline' : '\n' ∉ cs.dropLast := by
        intro hmem
        apply hnewline
        have hcs : cs ≠ [] := List.ne_nil_of_mem ((List.dropLast_sublist cs).subset hmem)
        rw [List.dropLast_cons_of_ne_nil hcs]
        exact List.mem_cons_of_mem _ hmem
      have hlast : reader'.state = .eatCrnl → cs = [] := by
        intro heq
        by_contra hcs
        apply hnewline
        rw [List.dropLast_cons_of_ne_nil hcs, heat heq]
        exact List.mem_cons_self
      have hroom' : reader'.field.length + cs.length ≤ fieldLimit := by omega
      obtain ⟨reader'', hrest, hfield', hstate'⟩ := ih
        (fun hmem => hcr (List.mem_cons_of_mem _ hmem))
        (fun hmem => hnul (List.mem_cons_of_mem _ hmem)) hnewline' hlast hroom'
      refine ⟨reader'', hrest, ?_, hstate'⟩
      rw [List.length_cons]
      omega

/-- A line the reader does not refuse. -/
def PlainLine (line : List Char) : Prop :=
  '\r' ∉ line ∧ '\x00' ∉ line ∧ '\n' ∉ line.dropLast

theorem exists_records (refusesNul : Bool) {rest : List (List Char)} {reader : Reader}
    (hstate : reader.state ≠ .eatCrnl) (hplain : ∀ line ∈ rest, PlainLine line)
    (hroom : reader.field.length + rest.flatten.length ≤ fieldLimit) :
    ∃ found, records refusesNul reader rest = .ok found := by
  induction rest generalizing reader with
  | nil =>
      rw [records]
      split
      · exact ⟨_, rfl⟩
      · exact ⟨_, rfl⟩
  | cons line rest ih =>
      rw [List.flatten_cons, List.length_append] at hroom
      obtain ⟨hcr, hnul, hnewline⟩ := hplain line List.mem_cons_self
      have hrest : ∀ line ∈ rest, PlainLine line :=
        fun line hline => hplain line (List.mem_cons_of_mem _ hline)
      obtain ⟨reader', hread, hfield, hstate'⟩ := exists_readLine refusesNul hcr hnul hnewline
        (fun heq => absurd heq hstate) (by omega)
      rw [records, hread]
      dsimp only
      split
      -- a record has ended
      · have hreset : Reader.reset.field.length + rest.flatten.length ≤ fieldLimit := by
          show 0 + rest.flatten.length ≤ fieldLimit
          omega
        obtain ⟨found, hfound⟩ := ih (by decide) hrest hreset
        rw [hfound]
        exact ⟨_, rfl⟩
      -- the line ends inside quotes
      · exact ih hstate' hrest (by omega)

/-- The reader reads every text without a carriage return and a NUL that is no longer than a field
may be. -/
theorem exists_reader (refusesNul : Bool) {text : List Char} (hcr : '\r' ∉ text)
    (hnul : '\x00' ∉ text) (hlength : text.length ≤ fieldLimit) :
    ∃ found, reader refusesNul text = .ok found := by
  have hmem : ∀ line ∈ lines text, ∀ c ∈ line, c ∈ text := by
    intro line hline c hc
    rw [← flatten_lines text]
    exact List.mem_flatten.mpr ⟨line, hline, hc⟩
  apply exists_records refusesNul (by decide)
  · intro line hline
    exact ⟨fun h => hcr (hmem line hline _ h), fun h => hnul (hmem line hline _ h),
      not_newline_of_mem_lines hline⟩
  · show 0 + (lines text).flatten.length ≤ fieldLimit
    rw [flatten_lines]
    omega

/-! ## Rows by header -/

/-- A row of `csv.DictReader`: the value of each column, `None` where the row is short.  The
column that counts comes first: it is the last of its name. -/
abbrev Row := List (String × Option String)

def row (fieldnames record : List String) : Row :=
  (fieldnames.mapIdx (fun i name => (name, record[i]?))).reverse

/-- The first record is the header; empty records after it are passed over. -/
def rows : List (List String) → List Row
  | [] => []
  | fieldnames :: records => (records.filter (fun record => record ≠ [])).map (row fieldnames)

/-- `row.get(name)`; the inner `none` is a column that the row does not reach. -/
def Row.get (row : Row) (name : String) : Option (Option String) :=
  (row.find? (fun item => item.1 = name)).map Prod.snd

@[simp] theorem row_nil (record : List String) : row [] record = [] := rfl

theorem row_concat (fieldnames record : List String) (name : String) :
    row (fieldnames ++ [name]) record =
      (name, record[fieldnames.length]?) :: row fieldnames record := by
  simp [row]

theorem get_row_concat (fieldnames record : List String) (last name : String) :
    (row (fieldnames ++ [last]) record).get name =
      if last = name then some record[fieldnames.length]?
      else (row fieldnames record).get name := by
  rw [row_concat, Row.get, List.find?_cons]
  by_cases h : last = name
  · simp [h]
  · simp [h, Row.get]

/-- A row misses a column of the header exactly when its record ends before that column. -/
theorem get_row_eq_some_none_iff {fieldnames record : List String} {name : String} :
    (row fieldnames record).get name = some none ↔
      ∃ i, fieldnames[i]? = some name ∧ record.length ≤ i := by
  induction fieldnames using List.reverseRecOn with
  | nil => simp [Row.get]
  | append_singleton fieldnames last ih =>
      rw [get_row_concat]
      by_cases h : last = name
      · subst h
        rw [if_pos rfl, Option.some.injEq, List.getElem?_eq_none_iff]
        apply Iff.intro
        · intro hshort
          exact ⟨fieldnames.length, List.getElem?_concat_length, hshort⟩
        · rintro ⟨i, hi, hshort⟩
          have hlt := (List.getElem?_eq_some_iff.mp hi).1
          rw [List.length_append, List.length_singleton] at hlt
          omega
      · rw [if_neg h, ih]
        apply exists_congr
        intro i
        apply and_congr_left
        intro _
        rw [List.getElem?_append]
        split
        · rfl
        · rename_i hlast
          rw [List.getElem?_eq_none (by omega)]
          cases hi : i - fieldnames.length with
          | zero => simp [h]
          | succ k => simp

end Python.Csv
