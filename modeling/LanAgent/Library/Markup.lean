import Mathlib.Data.List.Basic
import Mathlib.Tactic.Common

/-!
# Markup — a document as texts and tags

A tag reaches from its opening delimiter to the next closing one outside quotes; what stands between
two tags is a text.  A document of fixed segments with values between them has the tags of the
segments and the values as texts, as long as no value holds an opening delimiter (`read_document`).
-/

namespace Library.Markup

variable {α : Type}

structure Delimiters (α : Type) where
  opening : α
  closing : α
  quotes : List α

inductive Event (α : Type) where
  | text (content : List α)
  | tag (content : List α)
  deriving DecidableEq

inductive Mode (α : Type) where
  | text
  | tag
  | quoted (quote : α)

/-- `content` is what is read of the current text or tag, the last character first, and `events`
what was read before, the last event first. -/
structure Scan (α : Type) where
  mode : Mode α
  content : List α
  events : List (Event α)

section Scan

variable [DecidableEq α] (d : Delimiters α)

def Scan.step (scan : Scan α) (c : α) : Scan α :=
  match scan.mode with
  | .text =>
      if c = d.opening then ⟨.tag, [], .text scan.content.reverse :: scan.events⟩
      else { scan with content := c :: scan.content }
  | .tag =>
      if c = d.closing then ⟨.text, [], .tag scan.content.reverse :: scan.events⟩
      else
        { scan with
          mode := if c ∈ d.quotes then .quoted c else .tag
          content := c :: scan.content }
  | .quoted quote =>
      { scan with
        mode := if c = quote then .tag else .quoted quote
        content := c :: scan.content }

def Scan.run (scan : Scan α) : List α → Scan α
  | [] => scan
  | c :: s =>
      -- taken apart, the state is evaluated before the next step
      match scan.step d c with
      | ⟨mode, content, events⟩ => Scan.run ⟨mode, content, events⟩ s

/-- The texts and tags of a document; `none` where it ends within a tag. -/
def read (s : List α) : Option (List (Event α)) :=
  let scan := Scan.run d ⟨.text, [], []⟩ s
  match scan.mode with
  | .text => some (scan.events.reverse ++ [.text scan.content.reverse])
  | _ => none

theorem Scan.run_cons (scan : Scan α) (c : α) (s : List α) :
    scan.run d (c :: s) = (scan.step d c).run d s := rfl

theorem Scan.run_append (scan : Scan α) (s t : List α) :
    scan.run d (s ++ t) = (scan.run d s).run d t := by
  induction s generalizing scan with
  | nil => rfl
  | cons c s ih => rw [List.cons_append, run_cons, run_cons, ih]

/-- Events are only added. -/
theorem Scan.run_events (mode : Mode α) (content s : List α) (before : List (Event α)) :
    Scan.run d ⟨mode, content, before⟩ s =
      let after := Scan.run d ⟨mode, content, []⟩ s
      { after with events := after.events ++ before } := by
  induction s generalizing mode content before with
  | nil => rfl
  | cons c s ih =>
      have hstep : Scan.step d ⟨mode, content, before⟩ c =
          { Scan.step d ⟨mode, content, []⟩ c with
            events := (Scan.step d ⟨mode, content, []⟩ c).events ++ before } := by
        unfold Scan.step
        cases mode with
        | text =>
            dsimp only
            split <;> rfl
        | tag =>
            dsimp only
            split <;> rfl
        | quoted quote => rfl
      generalize hnext : Scan.step d ⟨mode, content, []⟩ c = next at hstep
      obtain ⟨mode', content', events⟩ := next
      rw [run_cons, run_cons, hstep, hnext, ih, ih mode' content' events]
      dsimp only
      rw [List.append_assoc]

/-- A text is read up to the next opening delimiter. -/
theorem Scan.run_value {value : List α} (h : d.opening ∉ value) (content : List α)
    (before : List (Event α)) :
    Scan.run d ⟨.text, content, before⟩ value = ⟨.text, value.reverse ++ content, before⟩ := by
  induction value generalizing content with
  | nil => rfl
  | cons c value ih =>
      have hc : c ≠ d.opening := fun heq => h (heq ▸ List.mem_cons_self)
      have hstep : Scan.step d ⟨.text, content, before⟩ c = ⟨.text, c :: content, before⟩ :=
        if_neg hc
      rw [run_cons, hstep, ih fun hmem => h (List.mem_cons_of_mem c hmem), List.reverse_cons,
        List.append_assoc]
      rfl

/-- A string from one tag to another, with all that is read between. -/
structure Segment where
  text : List α
  events : List (Event α)
  reads : ∃ rest, text = d.opening :: rest ∧
    Scan.run d ⟨.tag, [], []⟩ rest = ⟨.text, [], events.reverse⟩

/-- The string begins with a tag and ends with one. -/
structure Tagged (s : List α) : Prop where
  opens : s.head? = some d.opening
  mode : (Scan.run d ⟨.tag, [], []⟩ s.tail).mode = .text
  content : (Scan.run d ⟨.tag, [], []⟩ s.tail).content = []

def Segment.scanned (s : List α) (h : Tagged d s) : Segment d where
  text := s
  events := (Scan.run d ⟨.tag, [], []⟩ s.tail).events.reverse
  reads := by
    obtain ⟨hopens, hmode, hcontent⟩ := h
    refine ⟨s.tail, (List.cons_head?_tail hopens).symm, ?_⟩
    generalize Scan.run d ⟨.tag, [], []⟩ s.tail = scan at hmode hcontent
    obtain ⟨mode, content, events⟩ := scan
    cases hmode
    cases hcontent
    rw [List.reverse_reverse]

theorem Segment.scanned_text (s : List α) (h : Tagged d s) : (Segment.scanned d s h).text = s := rfl

theorem Segment.run (segment : Segment d) (content : List α) (before : List (Event α)) :
    Scan.run d ⟨.text, content, before⟩ segment.text =
      ⟨.text, [], segment.events.reverse ++ .text content.reverse :: before⟩ := by
  obtain ⟨rest, htext, hrun⟩ := segment.reads
  have hstep : Scan.step d ⟨.text, content, before⟩ d.opening =
      ⟨.tag, [], .text content.reverse :: before⟩ := if_pos rfl
  rw [htext, Scan.run_cons, hstep, Scan.run_events, hrun]

/-! ## Documents -/

/-- Each segment with the value in front of it. -/
def document (parts : List (List α × Segment d)) : List α :=
  parts.flatMap (fun (value, segment) => value ++ segment.text)

def documentEvents (parts : List (List α × Segment d)) : List (Event α) :=
  parts.flatMap (fun (value, segment) => .text value :: segment.events)

theorem document_cons (value : List α) (segment : Segment d)
    (parts : List (List α × Segment d)) :
    document d ((value, segment) :: parts) = value ++ segment.text ++ document d parts :=
  List.flatMap_cons

theorem documentEvents_cons (value : List α) (segment : Segment d)
    (parts : List (List α × Segment d)) :
    documentEvents d ((value, segment) :: parts) =
      .text value :: segment.events ++ documentEvents d parts :=
  List.flatMap_cons

theorem run_document {parts : List (List α × Segment d)}
    (h : ∀ part ∈ parts, d.opening ∉ part.1) (before : List (Event α)) :
    Scan.run d ⟨.text, [], before⟩ (document d parts) =
      ⟨.text, [], (documentEvents d parts).reverse ++ before⟩ := by
  induction parts generalizing before with
  | nil => rfl
  | cons part parts ih =>
      obtain ⟨value, segment⟩ := part
      have hvalue := h (value, segment) List.mem_cons_self
      have hrest := ih fun part hpart => h part (List.mem_cons_of_mem _ hpart)
      rw [document_cons, Scan.run_append, Scan.run_append, Scan.run_value d hvalue, Segment.run,
        List.append_nil, List.reverse_reverse, hrest, documentEvents_cons]
      simp

/-- **A filled document** is read as its segments with the values between them. -/
theorem read_document {parts : List (List α × Segment d)}
    (h : ∀ part ∈ parts, d.opening ∉ part.1) :
    read d (document d parts) = some (documentEvents d parts ++ [.text []]) := by
  rw [read, run_document d h, List.append_nil, List.reverse_reverse]
  rfl

end Scan

def tags (events : List (Event α)) : List (List α) :=
  events.filterMap fun
    | .text _ => none
    | .tag content => some content

theorem tags_append (events events' : List (Event α)) :
    tags (events ++ events') = tags events ++ tags events' := List.filterMap_append

/-- The tags do not depend on the values. -/
theorem tags_document [DecidableEq α] (d : Delimiters α) {parts parts' : List (List α × Segment d)}
    (h : parts.map Prod.snd = parts'.map Prod.snd) :
    tags (documentEvents d parts) = tags (documentEvents d parts') := by
  have hsegments : ∀ parts : List (List α × Segment d), tags (documentEvents d parts) =
      (parts.map Prod.snd).flatMap (fun segment => tags segment.events) := by
    intro parts
    induction parts with
    | nil => rfl
    | cons part parts ih =>
        rw [List.map_cons, List.flatMap_cons, ← ih, documentEvents_cons, tags_append]
        rfl
  rw [hsegments, hsegments, h]

/-! ## Elements -/

inductive Kind (α : Type) where
  | opens (name : List α)
  | closes (name : List α)
  | other

/-- An element that holds text only: its name behind those of the elements around it, the innermost
first, and its text. -/
abbrev Leaf (α : Type) := List (List α) × List α

/-- The elements that are open, the text behind the last tag when that has opened an element, and
the elements found, the last one first. -/
structure Nesting (α : Type) where
  path : List (List α)
  value : Option (List α)
  found : List (Leaf α)

/-- Only the innermost element can be closed. -/
def Nesting.step [DecidableEq α] (kind : List α → Kind α) (nesting : Nesting α) :
    Event α → Option (Nesting α)
  | .text content => some { nesting with value := nesting.value.map fun _ => content }
  | .tag content =>
      match kind content, nesting.path with
      | .other, _ => some nesting
      | .opens name, path => some { nesting with path := name :: path, value := some [] }
      | .closes _, [] => none
      | .closes name, innermost :: above =>
          if name = innermost then
            match nesting.value with
            | some text => some ⟨above, none, (innermost :: above, text) :: nesting.found⟩
            | none => some ⟨above, none, nesting.found⟩
          else none

/-- The elements that hold text only; `none` where they are not nested. -/
def leaves [DecidableEq α] (kind : List α → Kind α) (events : List (Event α)) :
    Option (List (Leaf α)) :=
  match events.foldlM (Nesting.step kind) ⟨[], none, []⟩ with
  | some ⟨[], _, found⟩ => some found.reverse
  | _ => none

end Library.Markup
