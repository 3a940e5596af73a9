import LanAgent.Agent
import LanAgent.Go.Url

/-!
# The rearm count — `sysprep.go` of the agent

Every heartbeat carries the number that `slmgr` prints behind the colon of a certain line.  The loop
over its characters takes a number for read when what it has read is positive;
`getRearmCount_printed_iff` says when the result is the number that is printed.
-/

namespace LanAgent.Rearm

open Go Sqlite

/-! ## `getRearmCount` -/

def newline : UInt8 := '\n'.toUInt8

def colon : UInt8 := ':'.toUInt8

/-- What `int` keeps of a result. -/
def wrap (n : Int) : Int := n.bmod (2 ^ 64)

def isDigitRune (c : Nat) : Bool := '0'.toNat ≤ c && c ≤ '9'.toNat

/-- The loop over the characters. -/
def readCount (n : Int) : List Nat → Int
  | [] => n
  | c :: rest =>
      if isDigitRune c then readCount (wrap (n * 10 + (c - '0'.toNat : Nat))) rest
      else if 0 < n then n
      else readCount n rest

def isRearmLine (lower : Char → Char) (line : GoString) : Bool :=
  let lowered := stringsToLower lower line
  contains lowered (ofString "remaining windows rearm count") ||
    contains lowered (ofString "remaining rearm")

/-- The loop over the lines. -/
def scanLines (lower : Char → Char) : List GoString → Int
  | [] => -1
  | line :: rest =>
      if isRearmLine lower line then
        match splitTwo line colon with
        | [_, value] => readCount 0 (runes (trimSpace value))
        | _ => scanLines lower rest
      else scanLines lower rest

/-- `getRearmCount`: `out` is what `slmgr` prints, `none` where it fails, and `lower` is
`unicode.ToLower`. -/
def getRearmCount (lower : Char → Char) (out : Option GoString) : Int :=
  match out with
  | none => -1
  | some out => scanLines lower (split newline out)

/-! ## The number printed -/

def digitsFrom (n : Nat) (run : GoString) : Nat :=
  run.foldl (fun n b => n * 10 + (b.toNat - '0'.toNat)) n

def digitsValue (run : GoString) : Nat := digitsFrom 0 run

/-- The maximal runs of decimal digits. -/
def digitRuns (s : GoString) : List GoString :=
  (s.splitOnP (fun b => !Go.isDigit b)).filter (fun run => run ≠ [])

/-- What follows the first colon of the first line about the count that has one. -/
def countText (lower : Char → Char) (out : GoString) : Option GoString :=
  ((split newline out).find? (fun line => isRearmLine lower line && decide (colon ∈ line))).map
    fun line => (cut line colon).2

/-- The first number in it, -1 where there is none. -/
def printed (lower : Char → Char) (out : GoString) : Int :=
  match countText lower out with
  | none => -1
  | some text =>
      match digitRuns text with
      | [] => -1
      | run :: _ => digitsValue run

/-- Each number in it is an `int`. -/
def InRange (lower : Char → Char) (out : GoString) : Prop :=
  ∀ text ∈ countText lower out, ∀ run ∈ digitRuns text, digitsValue run < 2 ^ 63

/-- There is a number, and it is positive or no positive one follows. -/
def Legible (lower : Char → Char) (out : GoString) : Prop :=
  ∀ text ∈ countText lower out, ∃ run later, digitRuns text = run :: later ∧
    (0 < digitsValue run ∨ ∀ r ∈ later, digitsValue r = 0)

/-! ## Lines -/

theorem scanLines_eq (lower : Char → Char) (lines : List GoString) :
    scanLines lower lines =
      match lines.find? (fun line => isRearmLine lower line && decide (colon ∈ line)) with
      | none => -1
      | some line => readCount 0 (runes (trimSpace (cut line colon).2)) := by
  induction lines with
  | nil => rfl
  | cons line rest ih =>
      rw [scanLines]
      by_cases hline : isRearmLine lower line = true
      · by_cases hcolon : colon ∈ line
        · rw [if_pos hline, splitTwo, if_pos hcolon,
            List.find?_cons_of_pos (by simp [hline, hcolon])]
        · rw [if_pos hline, splitTwo, if_neg hcolon, List.find?_cons_of_neg (by simp [hcolon])]
          exact ih
      · rw [if_neg hline, List.find?_cons_of_neg (by simp [hline])]
        exact ih

theorem getRearmCount_eq (lower : Char → Char) (out : GoString) :
    getRearmCount lower (some out) =
      match countText lower out with
      | none => -1
      | some text => readCount 0 (runes (trimSpace text)) := by
  rw [getRearmCount, scanLines_eq, countText]
  cases (split newline out).find? (fun line => isRearmLine lower line && decide (colon ∈ line)) <;>
    rfl

/-! ## Characters -/

/-- In front of a number, other characters are passed over. -/
theorem readCount_lead {lead : List Nat} (h : ∀ c ∈ lead, isDigitRune c = false) {n : Int}
    (hn : ¬0 < n) (rest : List Nat) : readCount n (lead ++ rest) = readCount n rest := by
  induction lead with
  | nil => rfl
  | cons c lead ih =>
      have hc : ¬isDigitRune c = true := by
        rw [h c List.mem_cons_self]
        decide
      rw [List.cons_append, readCount, if_neg hc, if_neg hn]
      exact ih fun c hc => h c (List.mem_cons_of_mem _ hc)

theorem readCount_other {trail : List Nat} (h : ∀ c ∈ trail, isDigitRune c = false) (n : Int) :
    readCount n trail = n := by
  by_cases hn : 0 < n
  · cases trail with
    | nil => rfl
    | cons c trail =>
        have hc : ¬isDigitRune c = true := by
          rw [h c List.mem_cons_self]
          decide
        rw [readCount, if_neg hc, if_pos hn]
  · have hlead := readCount_lead h hn []
    rwa [List.append_nil] at hlead

/-- Other characters behind everything else change nothing. -/
theorem readCount_trail {trail : List Nat} (h : ∀ c ∈ trail, isDigitRune c = false) (n : Int)
    (s : List Nat) : readCount n (s ++ trail) = readCount n s := by
  induction s generalizing n with
  | nil => exact readCount_other h n
  | cons c s ih =>
      rw [List.cons_append, readCount, readCount]
      split
      · exact ih _
      · split
        · rfl
        · exact ih n

/-- A character beyond ASCII is no digit, and none of its bytes is. -/
theorem readCount_runesFrom {n : Int} {skip : Nat} {s : GoString} (hn : skip = 0 ∨ ¬0 < n)
    (hskip : ∀ b ∈ s.take skip, 0x80 ≤ b) :
    readCount n (runesFrom skip s) = readCount n (s.map UInt8.toNat) := by
  have hother : ∀ r, 0x80 ≤ r → ¬isDigitRune r = true := by
    intro r hr hdigit
    simp only [isDigitRune, Bool.and_eq_true, decide_eq_true_eq] at hdigit
    have hhigh : r ≤ 57 := hdigit.2
    omega
  have hbyte : ∀ b : UInt8, 0x80 ≤ b → ¬isDigitRune b.toNat = true := by
    intro b hb
    exact hother b.toNat (UInt8.le_iff_toNat_le.mp hb)
  induction s generalizing n skip with
  | nil => cases skip <;> rfl
  | cons b rest ih =>
      rw [List.map_cons]
      cases skip with
      | succ skip =>
          have hn : ¬0 < n := hn.resolve_left (Nat.succ_ne_zero skip)
          rw [List.take_succ_cons] at hskip
          rw [runesFrom, readCount.eq_def n (b.toNat :: _)]
          dsimp only
          rw [if_neg (hbyte b (hskip b List.mem_cons_self)), if_neg hn]
          exact ih (.inr hn) fun c hc => hskip c (List.mem_cons_of_mem b hc)
      | zero =>
          rw [runesFrom]
          by_cases hb : b < 0x80
          · have hdecode : decodeRune b rest = (b.toNat, 1) := if_pos hb
            have hrest : ∀ n, readCount n (runesFrom 0 rest) = readCount n (rest.map UInt8.toNat) :=
              fun n => ih (.inl rfl) fun c hc => absurd hc List.not_mem_nil
            rw [hdecode]
            dsimp only
            rw [readCount, readCount, hrest, hrest]
          · have hwide := decodeRune_wide hb rest
            generalize decodeRune b rest = decoded at hwide
            obtain ⟨rune, width⟩ := decoded
            dsimp only at hwide ⊢
            rw [readCount, readCount, if_neg (hother rune hwide.rune),
              if_neg (hbyte b (UInt8.not_lt.mp hb))]
            by_cases hpos : 0 < n
            · rw [if_pos hpos, if_pos hpos]
            · rw [if_neg hpos, if_neg hpos]
              exact ih (.inr hpos) hwide.bytes

/-- **The runes of a string** are read as its bytes. -/
theorem readCount_runes (n : Int) (s : GoString) :
    readCount n (runes s) = readCount n (s.map UInt8.toNat) :=
  readCount_runesFrom (.inl rfl) fun _ hb => absurd hb List.not_mem_nil

theorem isDigitRune_toNat (b : UInt8) : isDigitRune b.toNat = Go.isDigit b := rfl

theorem space_not_digit : ∀ code ∈ spaceCodes, ∀ b ∈ code, isDigitRune b.toNat = false := by
  simp [spaceCodes, isDigitRune]

/-- The characters of the trimmed text are read as the bytes of the text. -/
theorem readCount_trimSpace (text : GoString) :
    readCount 0 (runes (trimSpace text)) = readCount 0 (text.map UInt8.toNat) := by
  obtain ⟨lead, trail, heq, hlead, htrail⟩ := trimSpace_between space_not_digit text
  have hbytes : ∀ {s : GoString}, (∀ b ∈ s, isDigitRune b.toNat = false) →
      ∀ c ∈ s.map UInt8.toNat, isDigitRune c = false := by
    intro s hs c hc
    obtain ⟨b, hb, rfl⟩ := List.mem_map.mp hc
    exact hs b hb
  rw [readCount_runes]
  conv_rhs => rw [heq]
  rw [List.map_append, List.map_append, readCount_trail (hbytes htrail),
    readCount_lead (hbytes hlead) (by decide)]

/-! ## Range -/

/-! ## Runs -/

theorem wrap_of_lt {n : Nat} (h : n < 2 ^ 63) : wrap n = n := by
  apply Int.bmod_eq_of_le
  · omega
  · omega

theorem digitsFrom_cons (n : Nat) (b : UInt8) (run : GoString) :
    digitsFrom n (b :: run) = digitsFrom (n * 10 + (b.toNat - '0'.toNat)) run :=
  List.foldl_cons ..

theorem le_digitsFrom (n : Nat) (run : GoString) : n ≤ digitsFrom n run := by
  induction run generalizing n with
  | nil => exact le_rfl
  | cons b run ih =>
      rw [digitsFrom_cons]
      have hstep := ih (n * 10 + (b.toNat - '0'.toNat))
      omega

/-- The first positive number, 0 where there is none. -/
def firstPositive : List Nat → Nat
  | [] => 0
  | n :: rest => if 0 < n then n else firstPositive rest

theorem firstPositive_eq_zero_iff {ns : List Nat} : firstPositive ns = 0 ↔ ∀ n ∈ ns, n = 0 := by
  induction ns with
  | nil => simp [firstPositive]
  | cons n ns ih =>
      rw [firstPositive, List.forall_mem_cons, ← ih]
      split <;> omega

/-- Empty pieces between two separators count for nothing. -/
theorem firstPositive_filter (pieces : List GoString) :
    firstPositive ((pieces.filter (fun run => run ≠ [])).map digitsValue) =
      firstPositive (pieces.map digitsValue) := by
  induction pieces with
  | nil => rfl
  | cons piece pieces ih =>
      by_cases hpiece : piece = []
      · rw [List.filter_cons_of_neg (by simpa using hpiece), ih, List.map_cons, hpiece]
        rfl
      · rw [List.filter_cons_of_pos (by simpa using hpiece), List.map_cons, List.map_cons,
          firstPositive, firstPositive, ih]

/-- **The loop** behind `n` in a piece: the first of the pieces that has a positive value. -/
theorem readCount_pieces {s piece : GoString} {pieces : List GoString} {n : Nat}
    (hs : s.splitOnP (fun b => !Go.isDigit b) = piece :: pieces)
    (hpiece : digitsFrom n piece < 2 ^ 63) (hpieces : ∀ run ∈ pieces, digitsValue run < 2 ^ 63) :
    readCount n (s.map UInt8.toNat) =
      firstPositive (digitsFrom n piece :: pieces.map digitsValue) := by
  induction s generalizing n piece pieces with
  | nil =>
      rw [List.splitOnP_nil] at hs
      obtain ⟨rfl, rfl⟩ := List.cons_eq_cons.mp hs
      show (n : Int) = ((if 0 < n then n else 0 : Nat) : Int)
      split <;> omega
  | cons b s ih =>
      rw [List.splitOnP_cons_eq_if_modifyHead] at hs
      rw [List.map_cons]
      cases hsplit : s.splitOnP (fun b => !Go.isDigit b) with
      | nil => exact absurd hsplit (List.splitOnP_ne_nil _ _)
      | cons run runs =>
          rw [hsplit] at hs
          by_cases hb : Go.isDigit b = true
          · rw [if_neg (by simp [hb])] at hs
            obtain ⟨rfl, rfl⟩ := List.cons_eq_cons.mp hs
            rw [digitsFrom_cons] at hpiece ⊢
            have hle := le_digitsFrom (n * 10 + (b.toNat - '0'.toNat)) run
            have hwrap : wrap ((n : Int) * 10 + (b.toNat - '0'.toNat : Nat)) =
                (n * 10 + (b.toNat - '0'.toNat) : Nat) := by
              have hcast : (n : Int) * 10 + (b.toNat - '0'.toNat : Nat) =
                  (n * 10 + (b.toNat - '0'.toNat) : Nat) := by omega
              rw [hcast]
              exact wrap_of_lt (by omega)
            rw [readCount, if_pos (isDigitRune_toNat b ▸ hb), hwrap]
            exact ih hsplit hpiece hpieces
          · rw [if_pos (by simp [hb])] at hs
            obtain ⟨rfl, rfl⟩ := List.cons_eq_cons.mp hs
            have hrune : ¬isDigitRune b.toNat = true := by
              rw [isDigitRune_toNat]
              exact hb
            have hrest := hpieces run List.mem_cons_self
            rw [readCount, if_neg hrune]
            show _ = ((if 0 < n then n else firstPositive _ : Nat) : Int)
            by_cases hn : 0 < n
            · rw [if_pos hn, if_pos (by omega)]
            · have hzero : n = 0 := by omega
              rw [if_neg hn, if_neg (by omega), hzero]
              exact ih hsplit hrest fun r hr => hpieces r (List.mem_cons_of_mem run hr)

/-- **What is read** of a text: its first positive number. -/
theorem readCount_text {text : GoString} (h : ∀ run ∈ digitRuns text, digitsValue run < 2 ^ 63) :
    readCount 0 (runes (trimSpace text)) =
      firstPositive ((digitRuns text).map digitsValue) := by
  rw [readCount_trimSpace, digitRuns, firstPositive_filter]
  have hall : ∀ run ∈ text.splitOnP (fun b => !Go.isDigit b), digitsValue run < 2 ^ 63 := by
    intro run hrun
    by_cases hnil : run = []
    · rw [hnil]
      decide
    · exact h run (List.mem_filter.mpr ⟨hrun, by simpa using hnil⟩)
  cases hsplit : text.splitOnP (fun b => !Go.isDigit b) with
  | nil => exact absurd hsplit (List.splitOnP_ne_nil _ _)
  | cons run runs =>
      rw [hsplit] at hall
      exact readCount_pieces hsplit (hall run List.mem_cons_self)
        fun r hr => hall r (List.mem_cons_of_mem run hr)

/-- **The rearm count** is the number printed exactly when no line of the kind is printed, or there
is a number behind its colon, and it is positive or no positive one follows. -/
theorem getRearmCount_printed_iff (lower : Char → Char) {out : GoString} (h : InRange lower out) :
    getRearmCount lower (some out) = printed lower out ↔ Legible lower out := by
  unfold InRange at h
  unfold printed Legible
  rw [getRearmCount_eq]
  cases htext : countText lower out with
  | none => simp
  | some text =>
      rw [htext] at h
      have hread := readCount_text (h text rfl)
      dsimp only
      rw [hread]
      cases hruns : digitRuns text with
      | nil =>
          refine iff_of_false (by decide) fun hlegible => ?_
          obtain ⟨run, later, heq, -⟩ := hlegible text rfl
          rw [hruns] at heq
          cases heq
      | cons run later =>
          have hprinted : ((firstPositive ((run :: later).map digitsValue) : Nat) : Int) =
              digitsValue run ↔ 0 < digitsValue run ∨ ∀ r ∈ later, digitsValue r = 0 := by
            rw [Int.natCast_inj, List.map_cons, firstPositive]
            by_cases hpos : 0 < digitsValue run
            · rw [if_pos hpos]
              exact iff_of_true rfl (.inl hpos)
            · have hzero : digitsValue run = 0 := by omega
              rw [if_neg hpos, hzero, firstPositive_eq_zero_iff, List.forall_mem_map]
              simp
          rw [hprinted]
          constructor
          · intro hfirst text' htext'
            cases htext'
            exact ⟨run, later, hruns, hfirst⟩
          · intro hlegible
            obtain ⟨run', later', heq, hfirst⟩ := hlegible text rfl
            rw [hruns] at heq
            obtain ⟨rfl, rfl⟩ := List.cons_eq_cons.mp heq
            exact hfirst

def withoutNumber : GoString := ofString "Remaining Windows rearm count: unknown"

/-- No number is printed, and none is read as -1. -/
theorem zero_read : InRange Char.toLower withoutNumber ∧
    getRearmCount Char.toLower (some withoutNumber) ≠ printed Char.toLower withoutNumber := by
  unfold withoutNumber InRange
  rw [ofString_ofList]
  decide

def plainOutput : GoString := ofString "Remaining Windows rearm count: 1001\r\n"

theorem plain_printed :
    getRearmCount Char.toLower (some plainOutput) = printed Char.toLower plainOutput ↔
      Legible Char.toLower plainOutput := by
  apply getRearmCount_printed_iff
  unfold plainOutput InRange
  rw [ofString_ofList]
  decide

end LanAgent.Rearm
