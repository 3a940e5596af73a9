import LanAgent.ImportRoutes

/-!
# Bulk additions — what the two imports have in common

Both imports are one loop over entries, each an address with the record that is added when nobody
holds the address.  The loop completes exactly when no address has two holders; then the records
added are one for each address that was free.
-/

namespace LanAgent

open Library

/-- The records at an address, deleted ones included. -/
def holders (devices : Devices) (ip : String) : List Device :=
  devices.rows.filter (fun d => d.ip = some ip)

/-- An address with the live record that is added for it. -/
structure Entry where
  ip : String
  device : Device
  ip_eq : device.ip = some ip
  live : device.deletedAt = none

/-- What a request has done after its loop: the commit, or nothing. -/
def settle {Answer : Type} (devices : Devices) :
    Except HttpError (Devices × Answer) → Devices × Except HttpError Answer
  | .ok (devices', answer) => (devices', .ok answer)
  | .error e => (devices, .error e)

theorem settle_eq_ok {Answer : Type} {devices : Devices}
    {result : Except HttpError (Devices × Answer)} {answer : Answer}
    (h : (settle devices result).2 = .ok answer) : ∃ devices', result = .ok (devices', answer) := by
  cases result with
  | error e => cases h
  | ok pair => exact ⟨pair.1, congrArg _ (Prod.ext rfl (Except.ok.inj h))⟩

def addAll : List Entry → Devices → ImportCount → Except HttpError (Devices × ImportCount)
  | [], devices, count => .ok (devices, count)
  | entry :: entries, devices, count =>
      match addUnlessTaken devices count entry.ip entry.device with
      | .error e => .error e
      | .ok (devices', count') => addAll entries devices' count'

/-! ## One entry -/

section One

variable {devices : Devices} {count : ImportCount} {ip : String} {device : Device}

theorem addUnlessTaken_of_held (h : (holders devices ip).length = 1) :
    addUnlessTaken devices count ip device =
      .ok (devices, { count with skipped := count.skipped + 1 }) := by
  obtain ⟨d, hd⟩ := List.length_eq_one_iff.mp h
  rw [holders] at hd
  simp only [addUnlessTaken, ipTaken, hd]

theorem addUnlessTaken_of_free (count : ImportCount) (h : holders devices ip = [])
    (hid : ∀ d ∈ devices, d.id ≠ device.id) :
    ∃ devices', devices.insert? device = some devices' ∧
      addUnlessTaken devices count ip device =
        .ok (devices', { count with added := count.added + 1 }) := by
  obtain ⟨devices', hinsert⟩ := Option.isSome_iff_exists.mp (Table.insert?_isSome_iff.mpr hid)
  refine ⟨devices', hinsert, ?_⟩
  rw [holders] at h
  simp only [addUnlessTaken, ipTaken, h, hinsert]

theorem addUnlessTaken_of_shared (h : 1 < (holders devices ip).length) :
    addUnlessTaken devices count ip device = .error internalServerError := by
  match hrows : holders devices ip with
  | [] => simp [hrows] at h
  | [_] => simp [hrows] at h
  | _ :: _ :: _ =>
      rw [holders] at hrows
      simp only [addUnlessTaken, ipTaken, hrows]

theorem addUnlessTaken_error {e : HttpError}
    (h : addUnlessTaken devices count ip device = .error e) : e = internalServerError := by
  unfold addUnlessTaken ipTaken at h
  split at h
  · rename_i hlookup
    split at hlookup
    · cases hlookup
    · cases hlookup
    · exact (Except.error.inj h).symm.trans (Except.error.inj hlookup).symm
  · cases h
  · split at h
    · cases h
    · exact (Except.error.inj h).symm

/-- An entry that is gone through is skipped for the one holder of its address, or added. -/
theorem addUnlessTaken_cases {devices' : Devices} {count' : ImportCount}
    (h : addUnlessTaken devices count ip device = .ok (devices', count')) :
    (holders devices ip ≠ [] ∧ devices' = devices ∧
      count' = { count with skipped := count.skipped + 1 }) ∨
    (holders devices ip = [] ∧ devices.insert? device = some devices' ∧
      count' = { count with added := count.added + 1 }) := by
  by_cases hfree : holders devices ip = []
  · right
    unfold addUnlessTaken ipTaken at h
    rw [holders] at hfree
    simp only [hfree] at h
    split at h
    · rename_i hinsert
      obtain ⟨rfl, rfl⟩ := Prod.mk.inj (Except.ok.inj h)
      exact ⟨hfree, hinsert, rfl⟩
    · cases h
  · left
    have hpos := List.length_pos_of_ne_nil hfree
    by_cases hone : (holders devices ip).length = 1
    · rw [addUnlessTaken_of_held hone] at h
      obtain ⟨rfl, rfl⟩ := Prod.mk.inj (Except.ok.inj h)
      exact ⟨hfree, rfl, rfl⟩
    · rw [addUnlessTaken_of_shared (by omega)] at h
      cases h

end One

/-! ## All entries -/

/-- The ids the entries draw are new and distinct. -/
def FreshIds (devices : Devices) (entries : List Entry) : Prop :=
  (entries.map (fun e => e.device.id)).Nodup ∧ ∀ e ∈ entries, ∀ d ∈ devices, d.id ≠ e.device.id

/-- The ids drawn for the numbers from `first` on. -/
def drawnIds (draws : Draws) (first n : Nat) : List String :=
  (List.range' first n).map (fun i => (draws i).id.val)

/-- The ids drawn are new and distinct. -/
def FreshDraws (devices : Devices) (draws : Draws) (first n : Nat) : Prop :=
  (drawnIds draws first n).Nodup ∧ ∀ id ∈ drawnIds draws first n, ∀ d ∈ devices, d.id ≠ id

instance (devices : Devices) (draws : Draws) (first n : Nat) :
    Decidable (FreshDraws devices draws first n) :=
  inferInstanceAs (Decidable (_ ∧ ∀ id ∈ drawnIds draws first n, _))

theorem drawnIds_succ (draws : Draws) (first n : Nat) :
    drawnIds draws first (n + 1) = (draws first).id.val :: drawnIds draws (first + 1) n := by
  rw [drawnIds, List.range'_succ, List.map_cons, drawnIds]

/-- Entries that use some of the ids drawn, in their order. -/
theorem freshIds_of_sublist {devices : Devices} {draws : Draws} {first n : Nat}
    {entries : List Entry} (h : FreshDraws devices draws first n)
    (hids : (entries.map (fun e => e.device.id)).Sublist (drawnIds draws first n)) :
    FreshIds devices entries := by
  apply And.intro
  · exact h.1.sublist hids
  · intro e he d hd
    exact h.2 e.device.id (hids.subset (List.mem_map_of_mem he)) d hd

/-- The table after an import: `added` at the end, one record for each of the addresses that had
no holder. -/
structure Imported (devices : Devices) (ips : List String) (added : List Device)
    (devices' : Devices) : Prop where
  rows : devices'.rows = devices.rows ++ added
  addresses : ∀ ip, ip ∈ added.map Device.ip ↔
    ∃ text ∈ ips, ip = some text ∧ holders devices text = []
  distinct : (added.map Device.ip).Nodup
  live : ∀ d ∈ added, d.deletedAt = none

theorem imported_nil (devices : Devices) : Imported devices [] [] devices where
  rows := (List.append_nil _).symm
  addresses := by simp
  distinct := List.nodup_nil
  live := by simp

theorem imported_held {devices devices' : Devices} {ips : List String} {added : List Device}
    {ip : String} (hheld : holders devices ip ≠ []) (h : Imported devices ips added devices') :
    Imported devices (ip :: ips) added devices' where
  rows := h.rows
  addresses := by
    intro other
    rw [h.addresses]
    apply Iff.intro
    · rintro ⟨text, htext, hother⟩
      exact ⟨text, List.mem_cons_of_mem _ htext, hother⟩
    · rintro ⟨text, htext, rfl, hfree⟩
      rcases List.mem_cons.mp htext with rfl | htext
      · exact absurd hfree hheld
      · exact ⟨text, htext, rfl, hfree⟩
  distinct := h.distinct
  live := h.live

theorem holders_insert? {devices devices' : Devices} {entry : Entry}
    (h : devices.insert? entry.device = some devices') (ip : String) :
    holders devices' ip = holders devices ip ++ if ip = entry.ip then [entry.device] else [] := by
  rw [holders, (Table.insert?_eq_some h).1, List.filter_append, holders]
  by_cases heq : ip = entry.ip
  · simp [heq, entry.ip_eq]
  · simp [heq, entry.ip_eq, Ne.symm heq]

theorem imported_free {devices inserted devices' : Devices} {ips : List String}
    {added : List Device} {entry : Entry} (hfree : holders devices entry.ip = [])
    (hinsert : devices.insert? entry.device = some inserted)
    (h : Imported inserted ips added devices') :
    Imported devices (entry.ip :: ips) (entry.device :: added) devices' where
  rows := by
    rw [h.rows, (Table.insert?_eq_some hinsert).1, List.append_assoc, List.singleton_append]
  addresses := by
    intro ip
    rw [List.map_cons, List.mem_cons, entry.ip_eq, h.addresses]
    simp only [holders_insert? hinsert, List.append_eq_nil_iff, ite_eq_right_iff, List.cons_ne_nil,
      imp_false]
    apply Iff.intro
    · rintro (rfl | ⟨text, htext, rfl, hnone, _⟩)
      · exact ⟨entry.ip, List.mem_cons_self, rfl, hfree⟩
      · exact ⟨text, List.mem_cons_of_mem _ htext, rfl, hnone⟩
    · rintro ⟨text, htext, rfl, hnone⟩
      by_cases heq : text = entry.ip
      · exact .inl (congrArg some heq)
      · exact .inr ⟨text, (List.mem_cons.mp htext).resolve_left heq, rfl, hnone, heq⟩
  distinct := by
    rw [List.map_cons, List.nodup_cons, entry.ip_eq]
    refine ⟨fun hmem => ?_, h.distinct⟩
    -- the entry's own record holds its address when the others are added
    obtain ⟨text, -, htext, hnone⟩ := (h.addresses _).mp hmem
    rw [holders_insert? hinsert, if_pos (Option.some.inj htext).symm] at hnone
    simp at hnone
  live := by
    intro d hd
    rcases List.mem_cons.mp hd with rfl | hd
    · exact entry.live
    · exact h.live d hd

/-- A loop that completes has imported the addresses of its entries. -/
theorem imported_of_addAll {entries : List Entry} {devices devices' : Devices}
    {count count' : ImportCount} (h : addAll entries devices count = .ok (devices', count')) :
    ∃ added, Imported devices (entries.map Entry.ip) added devices' ∧
      count'.added = count.added + added.length ∧
      count'.added + count'.skipped = count.added + count.skipped + entries.length := by
  induction entries generalizing devices count with
  | nil =>
      obtain ⟨rfl, rfl⟩ := Prod.mk.inj (Except.ok.inj h)
      exact ⟨[], imported_nil devices, rfl, rfl⟩
  | cons entry entries ih =>
      unfold addAll at h
      split at h
      · cases h
      · rename_i next nextCount hadd
        obtain ⟨added, himported, hadded, htotal⟩ := ih h
        rw [List.length_cons]
        rcases addUnlessTaken_cases hadd with ⟨hheld, rfl, rfl⟩ | ⟨hfree, hinsert, rfl⟩
        · refine ⟨added, imported_held hheld himported, hadded, ?_⟩
          dsimp only at htotal
          omega
        · refine ⟨entry.device :: added, imported_free hfree hinsert himported, ?_, ?_⟩
          · dsimp only at hadded
            rw [hadded, List.length_cons]
            omega
          · dsimp only at htotal
            omega

/-- The loop completes where no address has two holders. -/
theorem addAll_of_unshared {entries : List Entry} {devices : Devices} {count : ImportCount}
    (hfresh : FreshIds devices entries)
    (hshared : ∀ e ∈ entries, (holders devices e.ip).length ≤ 1) :
    ∃ devices' count', addAll entries devices count = .ok (devices', count') := by
  induction entries generalizing devices count with
  | nil => exact ⟨devices, count, rfl⟩
  | cons entry entries ih =>
      have hnodup := List.nodup_cons.mp hfresh.1
      have hone := hshared entry List.mem_cons_self
      unfold addAll
      by_cases hfree : holders devices entry.ip = []
      · obtain ⟨inserted, hinsert, hadd⟩ := addUnlessTaken_of_free count hfree
          (hfresh.2 entry List.mem_cons_self)
        rw [hadd]
        apply ih
        · refine ⟨hnodup.2, fun e he d hd => ?_⟩
          rcases (Table.mem_insert? hinsert).mp hd with hd | rfl
          · exact hfresh.2 e (List.mem_cons_of_mem _ he) d hd
          · exact fun heq => hnodup.1 (List.mem_map.mpr ⟨e, he, heq.symm⟩)
        · intro e he
          rw [holders_insert? hinsert]
          split
          · rename_i heq
            rw [heq, hfree]
            exact Nat.le_refl 1
          · rw [List.append_nil]
            exact hshared e (List.mem_cons_of_mem _ he)
      · have hheld : (holders devices entry.ip).length = 1 := by
          have := List.length_pos_of_ne_nil hfree
          omega
        rw [addUnlessTaken_of_held hheld]
        apply ih
        · exact ⟨hnodup.2, fun e he => hfresh.2 e (List.mem_cons_of_mem _ he)⟩
        · exact fun e he => hshared e (List.mem_cons_of_mem _ he)

theorem addAll_error {entries : List Entry} {devices : Devices} {count : ImportCount}
    {e : HttpError} (h : addAll entries devices count = .error e) : e = internalServerError := by
  induction entries generalizing devices count with
  | nil => cases h
  | cons entry entries ih =>
      unfold addAll at h
      split at h
      · rename_i hadd
        rw [← Except.error.inj h]
        exact addUnlessTaken_error hadd
      · exact ih h

/-- An address with two holders ends the loop. -/
theorem addAll_of_shared {entries : List Entry} {devices : Devices} {count : ImportCount}
    {entry : Entry} (hentry : entry ∈ entries) (h : 1 < (holders devices entry.ip).length) :
    addAll entries devices count = .error internalServerError := by
  suffices ∃ e, addAll entries devices count = .error e by
    obtain ⟨e, he⟩ := this
    rw [he, addAll_error he]
  induction entries generalizing devices count with
  | nil => exact absurd hentry List.not_mem_nil
  | cons first entries ih =>
      unfold addAll
      rcases List.mem_cons.mp hentry with rfl | hentry
      · rw [addUnlessTaken_of_shared h]
        exact ⟨_, rfl⟩
      · cases hadd : addUnlessTaken devices count first.ip first.device with
        | error e => exact ⟨e, rfl⟩
        | ok result =>
            -- no address loses a holder on the way to the one with two
            apply ih hentry
            rcases addUnlessTaken_cases hadd with ⟨-, heq, -⟩ | ⟨-, hinsert, -⟩
            · rwa [heq]
            · rw [holders_insert? hinsert, List.length_append]
              omega

/-! ## Examples -/

def thirdUuid : Uuid := ⟨"cccccccc-cccc-4ccc-8ccc-cccccccccccc", by decide +kernel⟩

/-- The draws for two neighbouring lines or addresses. -/
def exampleDraws : Draws := fun n =>
  ⟨0, if n % 2 = 0 then secondUuid else thirdUuid, firstUuid⟩

/-- A table with `10.0.0.1`, as the API has created it. -/
def oneHolder : Devices := (createDevice .empty { ip := some "10.0.0.1" } issuedDraw).1

theorem length_holders_oneHolder (ip : String) : (holders oneHolder ip).length ≤ 1 :=
  List.length_filter_le _ _

end LanAgent
