import LanAgent.AgentRoutes
import LanAgent.Library.CriticalSection

/-!
# Registration — heartbeats of new machines at the same time

Heartbeats that overlap wait for the registration lock and then look a record up, decide and commit
in several steps.  The critical section makes each of them atomic, so that every later heartbeat of
an address finds the record the first one has created, and no handler waits for ever:
`registration_unique`.
-/

namespace LanAgent.Registration

open Library Library.Runs Library.CriticalSection

/-! ## The section under the lock -/

/-- A heartbeat, with what its handler draws. -/
structure Beat where
  payload : HeartbeatRequest
  headers : Headers
  draw : Draw

/-- Where `_handle_heartbeat` is between its queries. -/
inductive Lookup where
  | entered
  /-- There is no record with the device id. -/
  | missed
  | found (device : Option Device)

abbrev Answer := Except HttpError HeartbeatAnswer

/-- `async with _get_registration_lock()`: one step for each query, and one for the rest. -/
def code (config : Config) (beats : List Beat) : Code Devices Lookup Answer where
  enter _ := .entered
  advance k devices view :=
    match beats[k]?, view with
    | none, view => .inl view
    | some b, .entered =>
        match deviceById devices b.payload.deviceId with
        | some device => .inl (.found (some device))
        | none => .inl .missed
    | some b, .missed =>
        .inl (.found (if b.payload.ip ≠ "" then latestByIp devices b.payload.ip else none))
    | some b, .found device =>
        .inr (settleHeartbeat config devices device b.payload b.headers (bearerToken b.headers)
          b.draw)

/-- What the handler has found out is what the table holds. -/
def Lookup.Agrees (devices : Devices) (payload : HeartbeatRequest) : Lookup → Prop
  | .entered => True
  | .missed => deviceById devices payload.deviceId = none
  | .found device => device = matchDevice devices payload

theorem agrees_of_sees {config : Config} {beats : List Beat} {k : Nat} {devices : Devices}
    {b : Beat} (hb : beats[k]? = some b) {view : Lookup}
    (h : Sees (code config beats) k devices view) : view.Agrees devices b.payload := by
  induction h with
  | enter => trivial
  | advance view view' _ hnext ih =>
      cases view with
      | entered =>
          simp only [code, hb] at hnext
          split at hnext
          · rename_i device hid
            obtain rfl := Sum.inl.inj hnext
            show some device = matchDevice devices b.payload
            rw [matchDevice, hid]
          · rename_i hid
            obtain rfl := Sum.inl.inj hnext
            exact hid
      | missed =>
          simp only [code, hb] at hnext
          obtain rfl := Sum.inl.inj hnext
          have hid : deviceById devices b.payload.deviceId = none := ih
          show _ = matchDevice devices b.payload
          rw [matchDevice, hid]
      | found device =>
          simp only [code, hb] at hnext
          cases hnext

/-- Run at one go, the section is the heartbeat of the sequential server. -/
theorem atomic_heartbeat {config : Config} {beats : List Beat} {k : Nat}
    {devices devices' : Devices} {answer : Answer} {b : Beat} (hb : beats[k]? = some b)
    (h : Atomic (code config beats) k devices devices' answer) :
    agentHeartbeat config devices b.payload b.headers b.draw = (devices', answer) := by
  obtain ⟨view, hsees, hlast⟩ := h
  have hagrees := agrees_of_sees hb hsees
  cases view with
  | entered =>
      simp only [code, hb] at hlast
      split at hlast <;> cases hlast
  | missed =>
      simp only [code, hb] at hlast
      cases hlast
  | found device =>
      simp only [code, hb] at hlast
      have hdevice : device = matchDevice devices b.payload := hagrees
      rw [← Sum.inr.inj hlast, agentHeartbeat, handleHeartbeat, ← hdevice]

/-! ## First contacts -/

/-- Heartbeats of machines the table has no record of: each has an address at which there is no
record, the secret and no device id of the table, and its integers fit their columns (the agent's
are 64 bits wide).  Every handler draws an id of its own. -/
structure FirstContacts (config : Config) (devices : Devices) (beats : List Beat) : Prop where
  address : ∀ b ∈ beats, b.payload.ip ≠ "" ∧ ∀ d ∈ devices, d.ip ≠ some b.payload.ip
  secret : ∀ b ∈ beats, enrollSecretValid config b.headers = true
  unknown : ∀ b ∈ beats, ∀ id, b.payload.deviceId = some id → id = "" ∨ ∀ d ∈ devices, d.id ≠ id
  binds : ∀ b ∈ beats, b.payload.binds = true
  drawn : ∀ b ∈ beats, (∀ d ∈ devices, d.id ≠ b.draw.id.val) ∧
    ∀ b' ∈ beats, b'.payload.deviceId ≠ some b.draw.id.val
  distinct : (beats.map (fun b => b.draw.id.val)).Nodup

/-- Heartbeat `k` has been answered, and its address is `ip`. -/
def AnsweredAt (beats : List Beat) (answers : Nat → Option Answer) (k : Nat) (ip : String) : Prop :=
  ∃ b, beats[k]? = some b ∧ b.payload.ip = ip ∧ answers k ≠ none

/-- The records created are one for each address of the heartbeats answered so far, and each of
these is answered with the record of its address. -/
structure UniquelyRegistered (before : Devices) (beats : List Beat) (devices : Devices)
    (answers : Nat → Option Answer) : Prop where
  /-- No record of the table is lost or changed. -/
  kept : ∀ d ∈ before, d ∈ devices
  created : ∀ d ∈ devices, d ∉ before → ∃ k ip, AnsweredAt beats answers k ip ∧ d.ip = some ip
  one : ∀ k ip, AnsweredAt beats answers k ip → ∃ d ∈ devices, d ∉ before ∧ d.ip = some ip ∧
    (∀ d' ∈ devices, d'.ip = some ip → d' = d) ∧
    ∀ j, AnsweredAt beats answers j ip → ∃ status, answers j = some (.ok ⟨d.id, status⟩)

/-- Every heartbeat has been answered, and the records created are one for each address: the one
with whose id all heartbeats of the address have been answered. -/
structure Registered (before : Devices) (beats : List Beat) (devices : Devices)
    (answers : Nat → Option Answer) : Prop where
  kept : ∀ d ∈ before, d ∈ devices
  created : ∀ d ∈ devices, d ∉ before → ∃ b ∈ beats, d.ip = some b.payload.ip
  one : ∀ b ∈ beats, ∃ d ∈ devices, d ∉ before ∧ d.ip = some b.payload.ip ∧
    (∀ d' ∈ devices, d'.ip = some b.payload.ip → d' = d) ∧
    ∀ j b', beats[j]? = some b' → b'.payload.ip = b.payload.ip →
      ∃ status, answers j = some (.ok ⟨d.id, status⟩)

/-- What one heartbeat after the other preserves. -/
structure Inv (before : Devices) (beats : List Beat) (devices : Devices)
    (answers : Nat → Option Answer) : Prop where
  kept : ∀ d ∈ before, d ∈ devices
  origin : ∀ d ∈ devices, d ∈ before ∨ ∃ k b, beats[k]? = some b ∧ answers k ≠ none ∧
    d.ip = some b.payload.ip ∧ ∃ j b', beats[j]? = some b' ∧ answers j ≠ none ∧
      d.id = b'.draw.id.val
  unique : ∀ b ∈ beats, ∀ d ∈ devices, ∀ d' ∈ devices, d.ip = some b.payload.ip →
    d'.ip = some b.payload.ip → d = d'
  answered : ∀ k b answer, beats[k]? = some b → answers k = some answer →
    ∃ d ∈ devices, d.ip = some b.payload.ip ∧ ∃ status, answer = .ok ⟨d.id, status⟩

variable {config : Config} {before devices devices' : Devices} {beats : List Beat}
  {answers : Nat → Option Answer} {b : Beat} {k : Nat}

theorem inv_before (hfirst : FirstContacts config before beats) :
    Inv before beats before fun _ => none where
  kept _ hd := hd
  origin _ hd := .inl hd
  unique b hb d hd _ _ hip := absurd hip ((hfirst.address b hb).2 d hd)
  answered _ _ _ _ h := by cases h

/-- The invariant says that registration has been unique. -/
theorem Inv.uniquelyRegistered (hfirst : FirstContacts config before beats)
    (hinv : Inv before beats devices answers) :
    UniquelyRegistered before beats devices answers where
  kept := hinv.kept
  created d hd hnew := by
    obtain ⟨k, b, hb, hanswered, hip, _⟩ := (hinv.origin d hd).resolve_left hnew
    exact ⟨k, b.payload.ip, ⟨b, hb, rfl, hanswered⟩, hip⟩
  one k ip hk := by
    obtain ⟨b, hb, rfl, hanswered⟩ := hk
    obtain ⟨answer, hanswer⟩ := Option.ne_none_iff_exists'.mp hanswered
    have hmem := List.mem_of_getElem? hb
    obtain ⟨d, hd, hip, _⟩ := hinv.answered k b answer hb hanswer
    refine ⟨d, hd, fun hold => (hfirst.address b hmem).2 d hold hip, hip, fun d' hd' hip' =>
      hinv.unique b hmem d' hd' d hd hip' hip, fun j hj => ?_⟩
    obtain ⟨b', hb', hsame, hanswered'⟩ := hj
    obtain ⟨answer', hanswer'⟩ := Option.ne_none_iff_exists'.mp hanswered'
    obtain ⟨d', hd', hip', status, hstatus⟩ := hinv.answered j b' answer' hb' hanswer'
    rw [hsame] at hip'
    rw [hinv.unique b hmem d hd d' hd' hip hip']
    exact ⟨status, by rw [hanswer', hstatus]⟩

/-- The id a machine carries is never the one of a record. -/
theorem Inv.deviceById_eq_none (hfirst : FirstContacts config before beats)
    (hinv : Inv before beats devices answers) (hb : b ∈ beats) :
    deviceById devices b.payload.deviceId = none := by
  by_contra hsome
  obtain ⟨d, hfound⟩ := Option.ne_none_iff_exists'.mp hsome
  obtain ⟨hd, hid⟩ := deviceById_eq_some hfound
  rcases hinv.origin d hd with hold | ⟨_, _, _, _, _, j, b', hb', _, hid'⟩
  · rcases hfirst.unknown b hb d.id hid with hempty | hnew
    · rw [hid, hempty] at hfound
      cases hfound
    · exact hnew d hold rfl
  · rw [hid'] at hid
    exact (hfirst.drawn b' (List.mem_of_getElem? hb')).2 b hb hid

/-- A heartbeat that finds the record of its address rewrites it, address included. -/
theorem Inv.rewrite (hfirst : FirstContacts config before beats)
    (hinv : Inv before beats devices answers) (hb : beats[k]? = some b) {device : Device}
    (hdevice : device ∈ devices) (hip : device.ip = some b.payload.ip) {change : Device → Device}
    (hid : ∀ d, (change d).id = d.id) (hchange : (change device).ip = some b.payload.ip)
    (status : HeartbeatStatus) :
    Inv before beats (devices.updateKey device.id change hid)
      (Function.update answers k (some (.ok ⟨device.id, status⟩))) := by
  have hmem := List.mem_of_getElem? hb
  have hold : device ∉ before := fun h => (hfirst.address b hmem).2 device h hip
  have hanswers : ∀ j, answers j ≠ none →
      Function.update answers k (some (.ok ⟨device.id, status⟩)) j ≠ none := by
    intro j hj
    by_cases hjk : j = k
    · simp [hjk]
    · rwa [Function.update_of_ne hjk]
  -- every record has kept its id and its address
  have hback : ∀ d ∈ devices.updateKey device.id change hid,
      ∃ r ∈ devices, r.id = d.id ∧ r.ip = d.ip ∧ (r.id ≠ device.id → r = d) := by
    intro d hd
    obtain ⟨r, hr, rfl⟩ := Table.mem_updateKey.mp hd
    by_cases hrid : r.id = device.id
    · obtain rfl := devices.eq_of_key_eq hr hdevice hrid
      refine ⟨r, hr, ?_⟩
      rw [if_pos rfl]
      exact ⟨(hid r).symm, hip.trans hchange.symm, fun h => absurd rfl h⟩
    · refine ⟨r, hr, ?_⟩
      rw [if_neg hrid]
      exact ⟨rfl, rfl, fun _ => rfl⟩
  have hforth : ∀ r ∈ devices, ∃ d ∈ devices.updateKey device.id change hid,
      d.id = r.id ∧ d.ip = r.ip := by
    intro r hr
    apply Table.exists_mem_updateKey hid hr ⟨rfl, rfl⟩
    intro hrid
    obtain rfl := devices.eq_of_key_eq hr hdevice hrid
    exact ⟨hid r, hchange.trans hip.symm⟩
  refine ⟨fun d hd => ?_, fun d hd => ?_, fun b' hb' d hd d' hd' hdip hdip' => ?_,
    fun j b' answer hb' hanswer => ?_⟩
  · have hne : d.id ≠ device.id := fun heq =>
      hold (devices.eq_of_key_eq (hinv.kept d hd) hdevice heq ▸ hd)
    exact Table.mem_updateKey_of_ne (hinv.kept d hd) hne
  · obtain ⟨r, hr, hrid, hrip, hsame⟩ := hback d hd
    rcases hinv.origin r hr with hrold | ⟨i, b₁, hb₁, hi, hip₁, j, b₂, hb₂, hj, hid₂⟩
    · have hne : r.id ≠ device.id := fun heq =>
        hold (devices.eq_of_key_eq hr hdevice heq ▸ hrold)
      exact .inl (hsame hne ▸ hrold)
    · exact .inr ⟨i, b₁, hb₁, hanswers i hi, hrip ▸ hip₁, j, b₂, hb₂, hanswers j hj, hrid ▸ hid₂⟩
  · obtain ⟨r, hr, hrid, hrip, _⟩ := hback d hd
    obtain ⟨r', hr', hrid', hrip', _⟩ := hback d' hd'
    have hsame := hinv.unique b' hb' r hr r' hr' (hrip.trans hdip) (hrip'.trans hdip')
    exact Table.eq_of_key_eq _ hd hd' (by rw [← hrid, ← hrid', hsame])
  · by_cases hjk : j = k
    · rw [hjk, hb, Option.some.injEq] at hb'
      rw [hjk, Function.update_self, Option.some.injEq] at hanswer
      obtain ⟨d, hd, hdid, hdip⟩ := hforth device hdevice
      exact ⟨d, hd, by rw [hdip, hip, hb'], status, by rw [hdid, hanswer]⟩
    · rw [Function.update_of_ne hjk] at hanswer
      obtain ⟨r, hr, hrip, status', hstatus'⟩ := hinv.answered j b' answer hb' hanswer
      obtain ⟨d, hd, hdid, hdip⟩ := hforth r hr
      exact ⟨d, hd, hdip.trans hrip, status', by rw [hdid, hstatus']⟩

/-- The first heartbeat of an address adds its record. -/
theorem Inv.insert (hfirst : FirstContacts config before beats)
    (hinv : Inv before beats devices answers) (hb : beats[k]? = some b)
    (hmatch : matchDevice devices b.payload = none) {agentToken : String}
    (hinsert : devices.insert? (registerDevice b.payload agentToken b.draw) = some devices') :
    Inv before beats devices'
      (Function.update answers k (some (.ok ⟨b.draw.id.val, .created⟩))) := by
  have hmem := List.mem_of_getElem? hb
  have hfree := matchDevice_eq_none hmatch (hfirst.address b hmem).1
  have hin : ∀ d, d ∈ devices' ↔ d ∈ devices ∨ d = registerDevice b.payload agentToken b.draw :=
    fun d => Table.mem_insert? hinsert
  have hanswers : ∀ j, answers j ≠ none →
      Function.update answers k (some (.ok ⟨b.draw.id.val, .created⟩)) j ≠ none := by
    intro j hj
    by_cases hjk : j = k
    · simp [hjk]
    · rwa [Function.update_of_ne hjk]
  refine ⟨fun d hd => (hin d).mpr (.inl (hinv.kept d hd)), fun d hd => ?_,
    fun b' hb' d hd d' hd' hdip hdip' => ?_, fun j b' answer hb' hanswer => ?_⟩
  · rcases (hin d).mp hd with hd | rfl
    · rcases hinv.origin d hd with hold | ⟨i, b₁, hb₁, hi, hip₁, j, b₂, hb₂, hj, hid₂⟩
      · exact .inl hold
      · exact .inr ⟨i, b₁, hb₁, hanswers i hi, hip₁, j, b₂, hb₂, hanswers j hj, hid₂⟩
    · have hk : Function.update answers k (some (.ok ⟨b.draw.id.val, .created⟩)) k ≠ none := by
        simp
      exact .inr ⟨k, b, hb, hk, registerDevice_ip _ _ _, k, b, hb, hk, registerDevice_id _ _ _⟩
  · -- at the new record's address there was none
    rcases (hin d).mp hd with hd | rfl
    · rcases (hin d').mp hd' with hd' | rfl
      · exact hinv.unique b' hb' d hd d' hd' hdip hdip'
      · rw [registerDevice_ip] at hdip'
        exact absurd (hdip.trans hdip'.symm) (hfree d hd)
    · rcases (hin d').mp hd' with hd' | rfl
      · rw [registerDevice_ip] at hdip
        exact absurd (hdip'.trans hdip.symm) (hfree d' hd')
      · rfl
  · by_cases hjk : j = k
    · rw [hjk, hb, Option.some.injEq] at hb'
      rw [hjk, Function.update_self, Option.some.injEq] at hanswer
      refine ⟨_, (hin _).mpr (.inr rfl), ?_, .created, ?_⟩
      · rw [registerDevice_ip, hb']
      · rw [registerDevice_id, hanswer]
    · rw [Function.update_of_ne hjk] at hanswer
      obtain ⟨d, hd, hip, hstatus⟩ := hinv.answered j b' answer hb' hanswer
      exact ⟨d, (hin d).mpr (.inl hd), hip, hstatus⟩

/-- The id a heartbeat draws is still free when it is answered. -/
theorem Inv.drawn_free (hfirst : FirstContacts config before beats)
    (hinv : Inv before beats devices answers) (hb : beats[k]? = some b)
    (hopen : answers k = none) : ∀ d ∈ devices, d.id ≠ b.draw.id.val := by
  intro d hd hid
  rcases hinv.origin d hd with hold | ⟨_, _, _, _, _, j, b', hb', hj, hid'⟩
  · exact (hfirst.drawn b (List.mem_of_getElem? hb)).1 d hold hid
  · -- the same draw would be the same heartbeat, which has no answer yet
    have hjk : j = k := by
      have hdraws : (beats.map (fun b => b.draw.id.val))[j]? =
          (beats.map (fun b => b.draw.id.val))[k]? := by
        rw [List.getElem?_map, List.getElem?_map, hb, hb', Option.map_some, Option.map_some,
          ← hid', hid]
      have hlt : j < (beats.map (fun b => b.draw.id.val)).length := by
        rw [List.length_map]
        exact (List.getElem?_eq_some_iff.mp hb').1
      exact (List.getElem?_inj hlt hfirst.distinct).mp hdraws
    exact hj (hjk ▸ hopen)

/-- **One heartbeat** of the collection preserves the invariant. -/
theorem Inv.heartbeat (hfirst : FirstContacts config before beats)
    (hinv : Inv before beats devices answers) (hb : beats[k]? = some b)
    (hopen : answers k = none) {answer : Answer}
    (h : agentHeartbeat config devices b.payload b.headers b.draw = (devices', answer)) :
    Inv before beats devices' (Function.update answers k (some answer)) := by
  have hmem := List.mem_of_getElem? hb
  -- the record, if there is one, has been found by its address
  have hlookup : matchDevice devices b.payload = latestByIp devices b.payload.ip := by
    rw [matchDevice, hinv.deviceById_eq_none hfirst hmem]
    exact if_pos (hfirst.address b hmem).1
  have hcase := handleHeartbeat_outcome config devices b.payload b.headers
    (bearerToken b.headers) b.draw
  rw [agentHeartbeat] at h
  rw [h] at hcase
  cases hcase with
  | updated device hmatch =>
      obtain ⟨hdevice, hip⟩ := latestByIp_eq_some (hlookup ▸ hmatch)
      exact hinv.rewrite hfirst hb hdevice hip _ (by rw [refreshDevice_ip, hip]) .updated
  | reEnrolled device hmatch =>
      obtain ⟨hdevice, hip⟩ := latestByIp_eq_some (hlookup ▸ hmatch)
      refine hinv.rewrite hfirst hb hdevice hip _ ?_ .reEnrolled
      rw [adoptDevice, applySysinfo_ip]
      exact if_pos (hfirst.address b hmem).1
  | created _ hmatch _ _ hinsert => exact hinv.insert hfirst hb hmatch hinsert
  | wrongToken _ _ _ hrefused => exact absurd (.inr (hfirst.secret b hmem)) hrefused
  | wrongSecret _ hsecret =>
      rw [hfirst.secret b hmem] at hsecret
      cases hsecret
  | notBound hbinds =>
      rw [hfirst.binds b hmem] at hbinds
      cases hbinds
  | idTaken _ _ _ hinsert =>
      have hfree : ∀ d ∈ devices,
          d.id ≠ (registerDevice b.payload (bearerToken b.headers) b.draw).id := by
        rw [registerDevice_id]
        exact hinv.drawn_free hfirst hb hopen
      have hsome := Table.insert?_isSome_iff.mpr hfree
      rw [hinsert] at hsome
      cases hsome

theorem UniquelyRegistered.registered (h : UniquelyRegistered before beats devices answers)
    (hall : ∀ k < beats.length, answers k ≠ none) : Registered before beats devices answers where
  kept := h.kept
  created d hd hnew := by
    obtain ⟨k, ip, ⟨b, hb, hbip, -⟩, hip⟩ := h.created d hd hnew
    exact ⟨b, List.mem_of_getElem? hb, hbip ▸ hip⟩
  one b hmem := by
    have hanswered : ∀ j b', beats[j]? = some b' →
        AnsweredAt beats answers j b'.payload.ip := by
      intro j b' hb'
      exact ⟨b', hb', rfl, hall j (List.getElem?_eq_some_iff.mp hb').1⟩
    obtain ⟨k, hb⟩ := List.mem_iff_getElem?.mp hmem
    obtain ⟨d, hd, hnew, hip, hunique, hsame⟩ := h.one k b.payload.ip (hanswered k b hb)
    refine ⟨d, hd, hnew, hip, hunique, ?_⟩
    intro j b' hb' hip'
    exact hsame j (hip' ▸ hanswered j b' hb')

/-! ## Runs -/

def Lookup.rank : Lookup → Nat
  | .entered => 2
  | .missed => 1
  | .found _ => 0

/-- Every query lowers the rank, and none leads back. -/
theorem rank_advance_lt (hk : k < beats.length) {view view' : Lookup}
    (hnext : (code config beats).advance k devices view = .inl view') : view'.rank < view.rank := by
  have hb : beats[k]? = some beats[k] := List.getElem?_eq_getElem hk
  cases view with
  | entered =>
      simp only [code, hb] at hnext
      split at hnext
      · rw [← Sum.inl.inj hnext]
        exact Nat.zero_lt_two
      · rw [← Sum.inl.inj hnext]
        exact Nat.one_lt_two
  | missed =>
      simp only [code, hb] at hnext
      rw [← Sum.inl.inj hnext]
      exact Nat.zero_lt_one
  | found device =>
      simp only [code, hb] at hnext
      cases hnext

variable {events : List Event} {s' : State Devices Lookup Answer}

/-- A handler takes at most five steps: it arrives, enters, looks up twice and answers. -/
theorem run_length_le
    (h : exec (step (code config beats) beats.length) (.start before) events = some s') :
    events.length ≤ 5 * beats.length := by
  have henter : ∀ k, ((code config beats).enter k).rank ≤ 2 := fun _ => le_rfl
  have hwork : (State.start before : State Devices Lookup Answer).work Lookup.rank 2
      beats.length = 5 * beats.length := by
    simp [State.work, State.start, Phase.work, mul_comm]
  have hlength := length_le_work (fun _ hk _ _ _ => rank_advance_lt hk) henter h (inv_start before)
  omega

/-- **Concurrent registration.**  Whenever the heartbeats arrive and however they overlap, a run has
at most five steps for each of them, and at any time the records created are one for each address of
the heartbeats answered so far; a run that cannot be extended has answered all heartbeats, those of
an address with the one new record of the address. -/
theorem registration_unique (config : Config) (before : Devices) (beats : List Beat)
    (hfirst : FirstContacts config before beats) (events : List Event)
    (s' : State Devices Lookup Answer)
    (h : exec (step (code config beats) beats.length) (.start before) events = some s') :
    events.length ≤ 5 * beats.length ∧ UniquelyRegistered before beats s'.shared s'.answers ∧
      ((∀ e, step (code config beats) beats.length s' e = none) →
        Registered before beats s'.shared s'.answers) := by
  have hatomic : ∀ devices devices' answers k answer, Inv before beats devices answers →
      k < beats.length → answers k = none → Atomic (code config beats) k devices devices' answer →
      Inv before beats devices' (Function.update answers k (some answer)) := by
    intro devices devices' answers k answer hinv hk hopen hsection
    have hb : beats[k]? = some beats[k] := List.getElem?_eq_getElem hk
    exact hinv.heartbeat hfirst hb hopen (atomic_heartbeat hb hsection)
  obtain ⟨hsections, hinv⟩ := exec_of_atomic (inv_before hfirst) hatomic h
  have hunique := hinv.uniquelyRegistered hfirst
  refine ⟨run_length_le h, hunique, fun hfinal => hunique.registered ?_⟩
  intro k hk
  exact answered_of_final hsections hfinal hk

/-- Two heartbeats of one new machine. -/
def twice : List Beat :=
  let payload : HeartbeatRequest :=
    ⟨none, "pc", "windows", "10.0.0.1", 0, "online", "1.4.2", 0, none⟩
  [⟨payload, ⟨some "Bearer new", some "s"⟩, issuedDraw⟩,
    ⟨payload, ⟨some "Bearer new", some "s"⟩, ⟨1, secondUuid, firstUuid⟩⟩]

/-- The second of them is handled first. -/
def handledTwice : List Event :=
  [.arrive 0, .arrive 1, .acquire 1, .advance 1, .advance 1, .advance 1, .acquire 0, .advance 0,
    .advance 0, .advance 0]

theorem registration_unique_twice :
    ∃ s', exec (step (code exampleConfig twice) twice.length) (.start .empty) handledTwice =
        some s' ∧
      (∀ e, step (code exampleConfig twice) twice.length s' e = none) ∧
      Registered .empty twice s'.shared s'.answers := by
  have hfirst : FirstContacts exampleConfig .empty twice :=
    { address := by decide
      secret := by decide
      unknown := by
        intro b hb id hid
        exact .inr fun d hd => absurd hd (Table.not_mem_empty d)
      binds := by decide
      drawn := by decide
      distinct := by decide }
  obtain ⟨s', hs'⟩ := Option.isSome_iff_exists.mp (by decide :
    (exec (step (code exampleConfig twice) twice.length) (.start .empty) handledTwice).isSome)
  -- the run has all the steps a run can have
  have hfinal : ∀ e, step (code exampleConfig twice) twice.length s' e = none := by
    intro e
    by_contra hsome
    obtain ⟨s'', hs''⟩ := Option.ne_none_iff_exists'.mp hsome
    have hrun : exec (step (code exampleConfig twice) twice.length) (.start .empty)
        (handledTwice ++ [e]) = some s'' := by
      rw [exec_append, hs', Option.bind_some]
      simp [exec, hs'']
    have hlength := (registration_unique exampleConfig .empty twice hfirst _ s'' hrun).1
    rw [List.length_append] at hlength
    simp [handledTwice, twice] at hlength
  exact ⟨s', hs', hfinal,
    (registration_unique exampleConfig .empty twice hfirst handledTwice s' hs').2.2 hfinal⟩

end LanAgent.Registration
