import LanAgent.Library.Decimals
import LanAgent.Models
import Mathlib.Data.List.Sort

/-!
# The audit log — `purge_old_audits` of `api/audit.py`

Once a day the entries older than the retention period are deleted, and then the oldest ones above
the maximum, by an explicit list of their ids.  SQLite refuses a statement with too many bound
parameters, and entries of one moment come in any order.  `purged_iff` says that the purge does what
it is for exactly when the list is not too long.
-/

namespace LanAgent.AuditPurge

open Library

structure AuditLog where
  id : String
  username : Option String
  action : String
  target : Option String
  detail : Option String
  ipAddress : Option String
  createdAt : DateTime
  deriving DecidableEq, Repr

abbrev AuditLogs := Table AuditLog AuditLog.id

def auditRetentionDays : Int := 180

def auditMaxRows : Nat := 200000

/-- `SQLITE_MAX_VARIABLE_NUMBER`, where it is left at its default. -/
def maxVariables : Nat := 32766

/-- The orders in which SQLite returns rows for `ORDER BY created_at`. -/
structure RowOrder where
  byCreation : List AuditLog → List AuditLog
  perm : ∀ rows, (byCreation rows).Perm rows
  sorted : ∀ rows, (byCreation rows).Pairwise (fun a b => a.createdAt ≤ b.createdAt)

/-- `too many SQL variables`. -/
inductive OperationalError where
  | tooManyVariables
  deriving DecidableEq, Repr

def cutoff (now : DateTime) : DateTime := now - seconds (auditRetentionDays * 86400)

def expired (now : DateTime) (entry : AuditLog) : Bool := entry.createdAt < cutoff now

/-- What the first deletion leaves. -/
def retained (audits : AuditLogs) (now : DateTime) : AuditLogs := audits.deleteWhere (expired now)

def purgeOldAudits (order : RowOrder) (audits : AuditLogs) (now : DateTime) :
    AuditLogs × Except OperationalError Nat :=
  let deleted := (audits.rows.filter (expired now)).length
  let recent := retained audits now
  if auditMaxRows < recent.rows.length then
    let excess := recent.rows.length - auditMaxRows
    let oldest := ((order.byCreation recent.rows).take excess).map AuditLog.id
    -- the exception leaves the session without a commit
    if Sqlite.TooManyVariables maxVariables oldest then (audits, .error .tooManyVariables)
    else (recent.deleteWhere (fun a => a.id ∈ oldest), .ok (deleted + oldest.length))
  else (recent, .ok deleted)

/-! ## The property -/

/-- What the purge is for. -/
structure Purged (audits : AuditLogs) (now : DateTime)
    (result : AuditLogs × Except OperationalError Nat) : Prop where
  /-- The number returned is that of the entries that are gone. -/
  counted : ∃ deleted, result.2 = .ok deleted ∧
    deleted + result.1.rows.length = audits.rows.length
  kept : ∀ a ∈ result.1, a ∈ audits
  retention : ∀ a ∈ result.1, cutoff now ≤ a.createdAt
  atMost : result.1.rows.length ≤ auditMaxRows
  newest : ∀ a ∈ result.1, ∀ b ∈ audits, b ∉ result.1 → b.createdAt ≤ a.createdAt
  atLeast : min (retained audits now).rows.length auditMaxRows ≤ result.1.rows.length

/-! ## The two deletions -/

section Purge

variable {audits : AuditLogs} {now : DateTime}

theorem mem_retained {a : AuditLog} :
    a ∈ retained audits now ↔ a ∈ audits ∧ cutoff now ≤ a.createdAt := by
  rw [retained, Table.mem_deleteWhere, expired, decide_eq_false_iff_not, not_lt]

variable (audits now) in
theorem length_retained :
    (audits.rows.filter (expired now)).length + (retained audits now).rows.length =
      audits.rows.length :=
  (List.length_eq_length_filter_add (expired now)).symm

/-- Up to the maximum, the first deletion is all there is to do. -/
theorem purged_of_le (order : RowOrder)
    (h : (retained audits now).rows.length ≤ auditMaxRows) :
    Purged audits now (purgeOldAudits order audits now) := by
  rw [purgeOldAudits]
  dsimp only
  rw [if_neg (not_lt.mpr h)]
  constructor
  · exact ⟨_, rfl, length_retained audits now⟩
  · exact fun a ha => (mem_retained.mp ha).1
  · exact fun a ha => (mem_retained.mp ha).2
  · exact h
  · intro a ha b hb hgone
    have hexpired : b.createdAt < cutoff now := by
      by_contra hrecent
      exact hgone (mem_retained.mpr ⟨hb, not_lt.mp hrecent⟩)
    exact hexpired.le.trans (mem_retained.mp ha).2
  · exact Nat.min_le_left _ _

section Excess

variable (audits now) (order : RowOrder)

/-- The entries above the maximum, oldest first. -/
def oldest : List AuditLog :=
  (order.byCreation (retained audits now).rows).take
    ((retained audits now).rows.length - auditMaxRows)

def latest : List AuditLog :=
  (order.byCreation (retained audits now).rows).drop
    ((retained audits now).rows.length - auditMaxRows)

def trimmed : AuditLogs :=
  (retained audits now).deleteWhere (fun a => a.id ∈ (oldest audits now order).map AuditLog.id)

theorem perm_oldest_append :
    (retained audits now).rows.Perm (oldest audits now order ++ latest audits now order) := by
  rw [oldest, latest, List.take_append_drop]
  exact (order.perm _).symm

theorem sorted_oldest_append : (oldest audits now order ++ latest audits now order).Pairwise
    (fun a b => a.createdAt ≤ b.createdAt) := by
  rw [oldest, latest, List.take_append_drop]
  exact order.sorted _

variable {audits now}

theorem length_oldest :
    (oldest audits now order).length = (retained audits now).rows.length - auditMaxRows := by
  rw [oldest, List.length_take, (order.perm _).length_eq]
  exact Nat.min_eq_left (Nat.sub_le _ _)

theorem trimmed_perm : (trimmed audits now order).rows.Perm (latest audits now order) := by
  have hrows : (trimmed audits now order).rows =
      (retained audits now).rows.filter
        (fun a => a.id ∉ (oldest audits now order).map AuditLog.id) := by
    rw [trimmed, Table.deleteWhere]
    simp only [decide_not]
  rw [hrows]
  exact Table.filter_key_perm _ (perm_oldest_append audits now order)

theorem mem_trimmed {a : AuditLog} :
    a ∈ trimmed audits now order ↔ a ∈ latest audits now order :=
  (trimmed_perm order).mem_iff

variable (h : auditMaxRows < (retained audits now).rows.length)

include h

theorem length_trimmed : (trimmed audits now order).rows.length = auditMaxRows := by
  have hlength := (perm_oldest_append audits now order).length_eq
  rw [List.length_append, length_oldest] at hlength
  rw [(trimmed_perm order).length_eq]
  omega

theorem purgeOldAudits_of_lt :
    purgeOldAudits order audits now =
      if maxVariables < (retained audits now).rows.length - auditMaxRows then
        (audits, .error .tooManyVariables)
      else (trimmed audits now order, .ok ((audits.rows.filter (expired now)).length +
        ((retained audits now).rows.length - auditMaxRows))) := by
  have hlength : (((order.byCreation (retained audits now).rows).take
      ((retained audits now).rows.length - auditMaxRows)).map AuditLog.id).length =
        (retained audits now).rows.length - auditMaxRows := by
    rw [List.length_map, ← oldest, length_oldest]
  rw [purgeOldAudits]
  dsimp only
  rw [if_pos h]
  simp only [Sqlite.TooManyVariables, hlength]
  rw [trimmed, oldest]

theorem not_purged_of_long
    (hlong : maxVariables < (retained audits now).rows.length - auditMaxRows) :
    ¬Purged audits now (purgeOldAudits order audits now) := by
  rintro ⟨⟨deleted, hdeleted, -⟩, -, -, -, -, -⟩
  rw [purgeOldAudits_of_lt order h, if_pos hlong] at hdeleted
  cases hdeleted

theorem purged_of_lt
    (hfits : (retained audits now).rows.length - auditMaxRows ≤ maxVariables) :
    Purged audits now (purgeOldAudits order audits now) := by
  rw [purgeOldAudits_of_lt order h, if_neg (not_lt.mpr hfits)]
  have hmem : ∀ a ∈ trimmed audits now order, a ∈ retained audits now := by
    intro a ha
    apply (perm_oldest_append audits now order).mem_iff.mpr
    exact List.mem_append_right _ ((mem_trimmed order).mp ha)
  constructor
  · refine ⟨_, rfl, ?_⟩
    have hall := length_retained audits now
    rw [length_trimmed order h]
    omega
  · exact fun a ha => (mem_retained.mp (hmem a ha)).1
  · exact fun a ha => (mem_retained.mp (hmem a ha)).2
  · exact (length_trimmed order h).le
  · intro a ha b hb hgone
    by_cases hrecent : b ∈ retained audits now
    · -- the entries come in order, and `b` is among those that are cut off
      have hold : b ∈ oldest audits now order := by
        have hsplit := (perm_oldest_append audits now order).mem_iff.mp hrecent
        rcases List.mem_append.mp hsplit with hb' | hb'
        · exact hb'
        · exact absurd ((mem_trimmed order).mpr hb') hgone
      have hsorted := List.pairwise_append.mp (sorted_oldest_append audits now order)
      exact hsorted.2.2 b hold a ((mem_trimmed order).mp ha)
    · have hexpired : b.createdAt < cutoff now := by
        by_contra hnot
        exact hrecent (mem_retained.mpr ⟨hb, not_lt.mp hnot⟩)
      exact hexpired.le.trans (mem_retained.mp (hmem a ha)).2
  · rw [length_trimmed order h]
    exact Nat.min_le_right _ _

end Excess

end Purge

/-- **The purge** keeps the newest entries, and returns how many it has deleted, exactly when no
more entries are above the maximum than a statement can name. -/
theorem purged_iff (order : RowOrder) (audits : AuditLogs) (now : DateTime) :
    Purged audits now (purgeOldAudits order audits now) ↔
      (retained audits now).rows.length ≤ auditMaxRows + maxVariables := by
  by_cases h : (retained audits now).rows.length ≤ auditMaxRows
  · exact iff_of_true (purged_of_le order h) (h.trans (Nat.le_add_right _ _))
  rw [not_le] at h
  apply Iff.intro
  · intro hpurged
    by_contra hlong
    exact not_purged_of_long order h (by omega) hpurged
  · exact fun hfits => purged_of_lt order h (by omega)

/-! ### A flood of failed logins -/

def floodEntry (i : Nat) : AuditLog where
  id := "00000000-0000-4000-8000-" ++ String.ofList (Decimals.zeroPadded 12 i)
  username := some "admin"
  action := "login_failed"
  target := none
  detail := none
  ipAddress := some "10.0.0.9"
  createdAt := seconds (739900 * 86400)

theorem floodEntry_id_inj {i j : Nat} (hi : i < 10 ^ 12) (hj : j < 10 ^ 12)
    (h : (floodEntry i).id = (floodEntry j).id) : i = j := by
  have hchars := congrArg String.toList h
  unfold floodEntry at hchars
  simp only [String.toList_append, String.toList_ofList, List.append_cancel_left_eq] at hchars
  exact Decimals.zeroPadded_inj (by decide) hi hj hchars

def flood (n : Nat) (hn : n ≤ 10 ^ 12) : AuditLogs where
  rows := (List.range n).map floodEntry
  nodup := by
    rw [List.map_map]
    refine List.Nodup.map_on ?_ List.nodup_range
    intro i hi j hj heq
    rw [List.mem_range] at hi hj
    exact floodEntry_id_inj (hi.trans_le hn) (hj.trans_le hn) heq

/-- Entries of one moment in the order of their insertion. -/
def insertionOrder : RowOrder where
  byCreation rows := rows.insertionSort (fun a b => a.createdAt ≤ b.createdAt)
  perm rows := List.perm_insertionSort _ rows
  sorted rows := by
    have htotal : Std.Total (fun a b : AuditLog => a.createdAt ≤ b.createdAt) :=
      ⟨fun a b => le_total _ _⟩
    have htrans : IsTrans AuditLog (fun a b => a.createdAt ≤ b.createdAt) :=
      ⟨fun _ _ _ => le_trans⟩
    exact List.pairwise_insertionSort _ rows

theorem retained_flood {n : Nat} (hn : n ≤ 10 ^ 12) :
    (retained (flood n hn) (seconds (739901 * 86400))).rows.length = n := by
  have hnone : (flood n hn).rows.filter (expired (seconds (739901 * 86400))) = [] := by
    rw [List.filter_eq_nil_iff]
    intro a ha
    obtain ⟨i, -, rfl⟩ := List.mem_map.mp ha
    exact Bool.false_ne_true
  have hall := length_retained (flood n hn) (seconds (739901 * 86400))
  rw [hnone, List.length_nil, Nat.zero_add] at hall
  rw [hall, flood, List.length_map, List.length_range]

/-- One entry too many, and nothing is deleted any more. -/
theorem flood_not_purged : ¬Purged (flood 232767 (by decide)) (seconds (739901 * 86400))
    (purgeOldAudits insertionOrder (flood 232767 (by decide)) (seconds (739901 * 86400))) := by
  apply not_purged_of_long
  · rw [retained_flood, auditMaxRows]
    decide
  · rw [retained_flood, auditMaxRows, maxVariables]
    decide

end LanAgent.AuditPurge
