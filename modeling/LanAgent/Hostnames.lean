import LanAgent.Library.Runs
import LanAgent.Records

/-!
# Host names — a name the user has given stays

Runs of the whole server, with the name the last `update_device` has given to each record as a
ghost.  `hostname_locked` keeps that name through every write but one: the record that is handed
over takes the name its new agent reports.
-/

namespace LanAgent.Hostnames

open Library Library.Runs

/-! ## Runs -/

structure State where
  db : Database
  /-- The name the last update has given to each record. -/
  named : String → Option String

/-- The record a request names, and its name. -/
def naming (devices : Devices) : Request → Option (String × String)
  | .updateDevice deviceId payload =>
      match devices.find? deviceId, payload.hostname with
      | some _, some hostname => some (deviceId, hostname)
      | _, _ => none
  | _ => none

def step (settings : Settings) (s : State) (request : Request) : Option State :=
  some
    { db := handle settings s.db request
      named :=
        match naming s.db.devices request with
        | some (deviceId, hostname) => Function.update s.named deviceId (some hostname)
        | none => s.named }

def start (db : Database) : State := ⟨db, fun _ => none⟩

/-! ## The property and its condition -/

/-- Every record that has been given a name has it. -/
def NamesStick (s : State) : Prop :=
  ∀ deviceId hostname, s.named deviceId = some hostname →
    ∃ d ∈ s.db.devices, d.id = deviceId ∧ d.hostname = some hostname

/-- No named record is handed over to an agent that reports another name. -/
def KeepsNames (settings : Settings) (s : State) : Request → State → Prop
  | .heartbeat payload headers _, _ =>
      ∀ d ∈ s.db.devices, ReEnrols settings.config s.db.devices payload headers d →
        ∀ hostname, s.named d.id = some hostname → payload.hostname = hostname
  | _, _ => True

/-- The names are there, and locked. -/
def Inv (s : State) : Prop :=
  ∀ deviceId hostname, s.named deviceId = some hostname →
    ∃ d ∈ s.db.devices, d.id = deviceId ∧ d.hostname = some hostname ∧ d.hostnameLocked = true

theorem inv_start (db : Database) : Inv (start db) := by
  intro deviceId hostname h
  cases h

theorem Inv.namesStick {s : State} (hinv : Inv s) : NamesStick s := by
  intro deviceId hostname h
  obtain ⟨d, hd, hid, hname, _⟩ := hinv deviceId hostname h
  exact ⟨d, hd, hid, hname⟩

/-! ## One request -/

@[simp] theorem adoptDevice_hostname (d : Device) (payload : HeartbeatRequest) (token : String)
    (now : DateTime) : (adoptDevice d payload token now).hostname = some payload.hostname := by
  unfold adoptDevice applySysinfo
  cases payload.sysinfo <;> rfl

@[simp] theorem adoptDevice_hostnameLocked (d : Device) (payload : HeartbeatRequest)
    (token : String) (now : DateTime) :
    (adoptDevice d payload token now).hostnameLocked = d.hostnameLocked := by
  unfold adoptDevice applySysinfo
  cases payload.sysinfo <;> rfl

theorem refreshDevice_hostname {d : Device} (hlocked : d.hostnameLocked = true)
    (payload : HeartbeatRequest) (now : DateTime) :
    (refreshDevice d payload now).hostname = d.hostname ∧
      (refreshDevice d payload now).hostnameLocked = true := by
  unfold refreshDevice applySysinfo
  cases payload.sysinfo <;> simp [hlocked]

variable {settings : Settings} {s : State} {request : Request}

/-- A name that has been given before survives a request that does not give another one. -/
theorem name_survives {d : Device} {hostname : String} (hd : d ∈ s.db.devices)
    (hgiven : s.named d.id = some hostname) (hname : d.hostname = some hostname)
    (hlocked : d.hostnameLocked = true) {s' : State} (hkeeps : KeepsNames settings s request s')
    (hother : ∀ name, naming s.db.devices request ≠ some (d.id, name)) :
    ∃ d' ∈ (handle settings s.db request).devices,
      d'.id = d.id ∧ d'.hostname = some hostname ∧ d'.hostnameLocked = true := by
  obtain ⟨d', hd', hstep⟩ := handle_record settings s.db request hd
  refine ⟨d', hd', hstep.id, ?_⟩
  cases hstep with
  | same => exact ⟨hname, hlocked⟩
  | refreshed payload headers draw =>
      obtain ⟨hkept, hlocked'⟩ := refreshDevice_hostname hlocked payload draw.now
      exact ⟨hkept.trans hname, hlocked'⟩
  | adopted payload headers draw hre =>
      have hreported := hkeeps d hd hre hostname hgiven
      exact ⟨by rw [adoptDevice_hostname, hreported], by rw [adoptDevice_hostnameLocked, hlocked]⟩
  | recovered payload => exact ⟨by simp [recoverDevice, hlocked, hname], hlocked⟩
  | edited payload =>
      cases hnew : payload.hostname with
      | some name =>
          -- the request would give the record another name
          refine absurd ?_ (hother name)
          rw [naming, hnew, Table.find?_key hd]
      | none => exact ⟨by simp [editDevice, hnew, hname], by simp [editDevice, hlocked]⟩
  | deleted => exact ⟨hname, hlocked⟩
  | batchDeleted => exact ⟨hname, hlocked⟩
  | measured => exact ⟨hname, hlocked⟩

/-- A name that is given is there afterwards. -/
theorem name_given {deviceId hostname : String}
    (hnaming : naming s.db.devices request = some (deviceId, hostname)) :
    ∃ d' ∈ (handle settings s.db request).devices,
      d'.id = deviceId ∧ d'.hostname = some hostname ∧ d'.hostnameLocked = true := by
  cases request with
  | updateDevice id payload =>
      cases hfind : s.db.devices.find? id with
      | none => simp [naming, hfind] at hnaming
      | some d =>
          cases hname : payload.hostname with
          | none => simp [naming, hfind, hname] at hnaming
          | some name =>
              obtain ⟨rfl, rfl⟩ : id = deviceId ∧ name = hostname := by
                simpa [naming, hfind, hname] using hnaming
              have hid : d.id = id := Table.key_of_find? hfind
              refine ⟨editDevice d payload, ?_, hid, by simp [editDevice, hname],
                by simp [editDevice, hname]⟩
              show editDevice d payload ∈ (updateDevice s.db.devices id payload).1
              rw [updateDevice, hfind]
              dsimp only
              exact Table.mem_updateKey.mpr ⟨d, Table.mem_of_find? hfind, if_pos hid⟩
  | _ => simp [naming] at hnaming

/-- **One request.**  Under the invariant the names stick through a request that hands over no
named record under another name. -/
theorem step_inv {s' : State} (h : step settings s request = some s') (hinv : Inv s)
    (hkeeps : KeepsNames settings s request s') : Inv s' := by
  rw [step, Option.some.injEq] at h
  rw [← h]
  intro deviceId hostname hgiven
  cases hnaming : naming s.db.devices request with
  | none =>
      have hbefore : s.named deviceId = some hostname := by simpa [hnaming] using hgiven
      obtain ⟨d, hd, rfl, hname, hlocked⟩ := hinv deviceId hostname hbefore
      apply name_survives hd hbefore hname hlocked hkeeps
      intro name h
      rw [hnaming] at h
      cases h
  | some given =>
      obtain ⟨id, name⟩ := given
      by_cases hid : deviceId = id
      · have hsame : name = hostname := by simpa [hnaming, hid] using hgiven
        rw [hid, ← hsame]
        exact name_given hnaming
      · have hbefore : s.named deviceId = some hostname := by
          simpa [hnaming, Function.update_of_ne hid] using hgiven
        obtain ⟨d, hd, rfl, hname, hlocked⟩ := hinv deviceId hostname hbefore
        apply name_survives hd hbefore hname hlocked hkeeps
        intro name' h
        rw [hnaming, Option.some.injEq, Prod.mk.injEq] at h
        exact hid h.1.symm

theorem step_sticks_iff {s' : State} (h : step settings s request = some s') (hinv : Inv s) :
    NamesStick s' ↔ KeepsNames settings s request s' := by
  refine ⟨fun hsticks => ?_, fun hkeeps => (step_inv h hinv hkeeps).namesStick⟩
  cases request with
  | heartbeat payload headers draw =>
      intro d hd hre hostname hgiven
      rw [step, Option.some.injEq] at h
      have hgiven' : s'.named d.id = some hostname := by
        rw [← h]
        exact hgiven
      obtain ⟨d', hd', hid, hname⟩ := hsticks d.id hostname hgiven'
      rw [← h] at hd'
      -- the record with the id of `d` is the adopted one
      have hadopted : d' = adoptDevice d payload (bearerToken headers) draw.now :=
        Table.eq_of_key_eq _ hd' (adoptDevice_mem hre)
          (hid.trans (adoptDevice_id d payload (bearerToken headers) draw.now).symm)
      rw [hadopted, adoptDevice_hostname, Option.some.injEq] at hname
      exact hname
  | _ => trivial

/-! ## Whole runs -/

/-- **Names stick** in exactly the runs in which no record that has been given a name is handed
over to an agent that reports another one. -/
theorem names_stick_iff (settings : Settings) (db : Database) (requests : List Request) :
    Along (step settings) (fun _ _ s' => NamesStick s') (start db) requests ↔
      Along (step settings) (KeepsNames settings) (start db) requests := by
  have hiff : ∀ s request s', step settings s request = some s' → Inv s →
      (NamesStick s' ↔ KeepsNames settings s request s') :=
    fun _ _ _ h hinv => step_sticks_iff h hinv
  have hkeep : ∀ s request s', step settings s request = some s' → Inv s →
      KeepsNames settings s request s' → Inv s' :=
    fun _ _ _ h hinv hkeeps => step_inv h hinv hkeeps
  exact along_iff hiff hkeep (inv_start db)

/-- A device is created and named; its machine is reinstalled and enrols again. -/
def namedThenReinstalled : List Request :=
  [.createDevice { ip := some "10.0.0.1" } issuedDraw,
    .updateDevice issuedDraw.id.val { hostname := some "lab-7" },
    .heartbeat ⟨none, "DESKTOP-1", "windows", "10.0.0.1", 0, "online", "1.4.2", 0, none⟩
      ⟨some "Bearer new", some "s"⟩ issuedDraw]

/-- The record is called what the new agent reports. -/
theorem name_lost :
    ¬Along (step exampleSettings) (fun _ _ s' => NamesStick s') (start .empty)
      namedThenReinstalled := by
  intro h
  have hnamed : Along (step exampleSettings)
      (fun _ _ s' => ∀ d ∈ s'.db.devices, s'.named d.id ≠ none → d.hostname = s'.named d.id)
      (start .empty) namedThenReinstalled := by
    apply h.mono
    intro _ _ s' _ hsticks d hd hsome
    obtain ⟨hostname, hgiven⟩ := Option.ne_none_iff_exists'.mp hsome
    obtain ⟨d', hd', hid, hname⟩ := hsticks d.id hostname hgiven
    rw [Table.eq_of_key_eq _ hd hd' hid.symm, hname, hid, hgiven]
  exact absurd hnamed (by decide)

end LanAgent.Hostnames
