import Mathlib.Data.Finset.Card
import Mathlib.Tactic.Common

/-!
# Iterating over a set that others may change

A loop over a mutable set that can be suspended between two items.  The iterator remembers the size
the set had: a step that finds another size is an error.  As long as nobody touches the set, the
items come in one order, each of them once (`Lists`).  After a change that leaves the size as it
was, nothing is known about what comes next: any item of the set, or the end.
-/

namespace Library

structure SetIterator (α : Type*) where
  size : Nat
  /-- The items still to come while the set is untouched. -/
  rest : List α
  touched : Bool

namespace SetIterator

variable {α : Type*} [DecidableEq α]

inductive Next (α : Type*) where
  | error
  | stop
  | item (a : α) (iterator : SetIterator α)

def ofItems (items : List α) : SetIterator α := ⟨items.length, items, false⟩

/-- The iterator after a write that has made `new` of `old`. -/
def observe (it : SetIterator α) (old new : Finset α) : SetIterator α :=
  { it with touched := it.touched || decide (new ≠ old) }

/-- The next step; `none` where `choice` is not what a touched set can yield. -/
def next (it : SetIterator α) (current : Finset α) (choice : Option α) : Option (Next α) :=
  -- the size is compared before anything else, also at the end
  if current.card ≠ it.size then some .error
  -- the size is right, but the table below may have been rebuilt
  else if it.touched then
    match choice with
    | none => some .stop
    | some a => if a ∈ current then some (.item a it) else none
  else
    match it.rest with
    | [] => some .stop
    | a :: rest => some (.item a { it with rest := rest })

@[simp] theorem observe_self (it : SetIterator α) (current : Finset α) :
    it.observe current current = it := by
  simp [observe]

/-- The set is untouched: the items `visited` so far and the rest list it without repetition. -/
structure Lists (it : SetIterator α) (visited : List α) (current : Finset α) : Prop where
  untouched : it.touched = false
  size : it.size = current.card
  nodup : (visited ++ it.rest).Nodup
  complete : (visited ++ it.rest).toFinset = current

theorem lists_ofItems {items : List α} {current : Finset α} (hnodup : items.Nodup)
    (hcomplete : items.toFinset = current) : (ofItems items).Lists [] current where
  untouched := rfl
  size := by rw [← hcomplete, List.toFinset_card_of_nodup hnodup, ofItems]
  nodup := hnodup
  complete := hcomplete

section Lists

variable {it : SetIterator α} {visited : List α} {current : Finset α}

/-- **The next step in an untouched set** is the next item of the list, or the end. -/
theorem Lists.next_eq (h : it.Lists visited current) (choice : Option α) :
    (it.rest = [] ∧ it.next current choice = some .stop) ∨ ∃ a rest, it.rest = a :: rest ∧
      it.next current choice = some (.item a { it with rest := rest }) := by
  have hsize : ¬current.card ≠ it.size := not_not.mpr h.size.symm
  have huntouched : ¬it.touched = true := by
    rw [h.untouched]
    exact Bool.false_ne_true
  unfold next
  rw [if_neg hsize, if_neg huntouched]
  cases hrest : it.rest with
  | nil => exact .inl ⟨rfl, rfl⟩
  | cons a rest => exact .inr ⟨a, rest, rfl, rfl⟩

theorem Lists.item {a : α} {rest : List α} (h : it.Lists visited current)
    (hrest : it.rest = a :: rest) :
    ({ it with rest := rest } : SetIterator α).Lists (visited ++ [a]) current := by
  -- the item only moves from one side of the list to the other
  have happend : visited ++ [a] ++ rest = visited ++ it.rest := by
    rw [hrest, List.append_assoc, List.singleton_append]
  refine ⟨h.untouched, h.size, ?_, ?_⟩
  · show (visited ++ [a] ++ rest).Nodup
    rw [happend]
    exact h.nodup
  · show (visited ++ [a] ++ rest).toFinset = current
    rw [happend]
    exact h.complete

/-- At the end every item of the set has been visited once. -/
theorem Lists.count_eq_one (h : it.Lists visited current) (hrest : it.rest = []) {a : α}
    (ha : a ∈ current) : visited.count a = 1 := by
  have hnodup := h.nodup
  have hcomplete := h.complete
  rw [hrest, List.append_nil] at hnodup hcomplete
  rw [← hcomplete, List.mem_toFinset] at ha
  exact List.count_eq_one_of_mem hnodup ha

end Lists

end SetIterator

end Library
