import LanAgent.Credentials
import LanAgent.Library.Runs
import LanAgent.Records

/-!
# Tokens — every record keeps a token its agent can connect with

Runs of the whole server, with the token of the agent each record last accepted as a ghost.
`TokenWrite` is what nearly every request does to the tokens: nothing, but for fresh ones.  The
exceptions are the two branches of the heartbeat that store the sender's token.
-/

namespace LanAgent.Tokens

open Library Library.Runs

/-! ## Runs -/

structure State where
  db : Database
  /-- The token of the last agent request accepted for each record. -/
  accepted : String → Option String

/-- The record an agent request was accepted for, with the token it carried. -/
def acceptance (settings : Settings) (db : Database) : Request → Option (String × String)
  | .heartbeat payload headers draw =>
      match (agentHeartbeat settings.config db.devices payload headers draw).2 with
      -- `updated`, `re-enrolled` and `created` all accept the sender
      | .ok answer => some (answer.deviceId, bearerToken headers)
      | .error _ => none
  | .recover payload headers now =>
      match (agentRecover db.devices payload headers now).2 with
      | .ok deviceId => some (deviceId, bearerToken headers)
      | .error _ => none
  | _ => none

def step (settings : Settings) (s : State) (request : Request) : Option State :=
  some
    { db := handle settings s.db request
      accepted :=
        match acceptance settings s.db request with
        | some (deviceId, token) => Function.update s.accepted deviceId (some token)
        | none => s.accepted }

def start : State := ⟨.empty, fun _ => none⟩

/-! ## The property -/

structure TokensHold (s : State) : Prop where
  nonempty : ∀ d ∈ s.db.devices, d.token ≠ ""
  shortcut : ∀ (request : AgentRequest) d, request.record s.db.devices = some d → d.token ≠ ""
  /-- The agent last accepted for a record opens its WebSocket. -/
  opens : ∀ deviceId token, s.accepted deviceId = some token →
    socketAuthorized s.db.devices deviceId token = some true

/-- The heartbeat makes the server store the token it carries: for a record with another token,
soft-deleted or under the enrolment secret, or for a new record. -/
def HandsOver (config : Config) (devices : Devices) (payload : HeartbeatRequest)
    (headers : Headers) (draw : Draw) : Prop :=
  payload.binds = true ∧
    match matchDevice devices payload with
    | some d =>
        bearerToken headers ≠ d.token ∧
          (d.deletedAt.isSome ∨ enrollSecretValid config headers = true)
    -- a record is created for the sender
    | none => enrollSecretValid config headers = true ∧ ∀ d ∈ devices, d.id ≠ draw.id.val

/-- A heartbeat whose token is to be stored carries one, in ASCII. -/
def TokenPresented (settings : Settings) (s : State) : Request → State → Prop
  | .heartbeat payload headers draw, _ =>
      HandsOver settings.config s.db.devices payload headers draw →
        bearerToken headers ≠ "" ∧ Python.isAscii (bearerToken headers) = true
  | _, _ => True

/-! ## Writes of the token column -/

/-- A write that stores no token but fresh ones. -/
structure TokenWrite (devices devices' : Devices) : Prop where
  origin : ∀ d' ∈ devices', (∃ d ∈ devices, d'.token = d.token) ∨ ∃ u : Uuid, d'.token = u.val
  kept : ∀ d ∈ devices, ∃ d' ∈ devices', d'.id = d.id ∧ d'.token = d.token

theorem tokenWrite_updateKey {devices : Devices} {id : String} {f : Device → Device}
    (hid : ∀ d, (f d).id = d.id) (htoken : ∀ d, (f d).token = d.token) :
    TokenWrite devices (devices.updateKey id f hid) where
  origin d' hd' := by
    rcases Table.mem_updateKey.mp hd' with ⟨d, hd, rfl⟩
    refine .inl ⟨d, hd, ?_⟩
    by_cases hk : d.id = id
    · rw [if_pos hk]
      exact htoken d
    · rw [if_neg hk]
  kept d hd := by
    by_cases hk : d.id = id
    · exact ⟨f d, hk ▸ Table.mem_updateKey_self hd, hid d, htoken d⟩
    · exact ⟨d, Table.mem_updateKey_of_ne hd hk, rfl, rfl⟩

theorem token_recordStep {settings : Settings} {db : Database} {request : Request} {d d' : Device}
    (h : ∀ payload headers draw, request ≠ .heartbeat payload headers draw)
    (hstep : RecordStep settings db d request d') : d'.token = d.token := by
  cases hstep with
  | refreshed payload headers draw => exact absurd rfl (h payload headers draw)
  | adopted payload headers draw => exact absurd rfl (h payload headers draw)
  -- hardware information only
  | measured _ _ now _ values => exact writeSysinfo_token d values now
  | _ => rfl

/-- Every request but a heartbeat writes fresh tokens at most. -/
theorem tokenWrite_handle (settings : Settings) (db : Database) (request : Request)
    (h : ∀ payload headers draw, request ≠ .heartbeat payload headers draw) :
    TokenWrite db.devices (handle settings db request).devices where
  origin d' hd' := by
    rcases handle_origin settings db request hd' with ⟨d, hd, hstep⟩ | hadded
    · exact .inl ⟨d, hd, token_recordStep h hstep⟩
    · cases hadded with
      | registered payload headers draw => exact absurd rfl (h payload headers draw)
      -- the administrator's requests draw the tokens of new records
      | issued _ _ hfresh => exact .inr hfresh.1
  kept d hd := by
    obtain ⟨d', hd', hstep⟩ := handle_record settings db request hd
    exact ⟨d', hd', hstep.id, token_recordStep h hstep⟩

/-! ## The invariant -/

structure Inv (s : State) : Prop where
  usable : ∀ d ∈ s.db.devices, d.token ≠ "" ∧ Python.isAscii d.token = true
  held : ∀ deviceId token, s.accepted deviceId = some token →
    ∃ d ∈ s.db.devices, d.id = deviceId ∧ d.token = token

theorem inv_start : Inv start where
  usable d hd := absurd hd (Table.not_mem_empty d)
  held deviceId token h := by cases h

theorem record_mem {devices : Devices} {request : AgentRequest} {d : Device}
    (h : request.record devices = some d) : d ∈ devices := by
  cases request with
  | heartbeat payload => exact matchDevice_mem h
  | recover payload => exact Table.mem_of_find? h

theorem socketAuthorized_iff {devices : Devices} {deviceId token : String} :
    socketAuthorized devices deviceId token = some true ↔
      ∃ d ∈ devices, d.id = deviceId ∧ d.token = token ∧ d.token ≠ "" ∧
        Python.isAscii d.token = true := by
  unfold socketAuthorized
  apply Iff.intro
  · intro h
    split at h
    · cases h
    · rename_i d hd
      have htoken := tokenEqual_eq_some_true_iff.mp h
      exact ⟨d, Table.mem_of_find? hd, Table.key_of_find? hd, htoken.2.2, htoken.1, htoken.2.1⟩
  · intro h
    rcases h with ⟨d, hd, rfl, rfl, hne, hascii⟩
    rw [Table.find?_key hd]
    exact tokenEqual_eq_some_true_iff.mpr ⟨hne, hascii, rfl⟩

theorem Inv.tokensHold {s : State} (hinv : Inv s) : TokensHold s where
  nonempty d hd := (hinv.usable d hd).1
  shortcut request d hd := (hinv.usable d (record_mem hd)).1
  opens deviceId token h := by
    rcases hinv.held deviceId token h with ⟨d, hd, hid, htoken⟩
    have husable := hinv.usable d hd
    exact socketAuthorized_iff.mpr ⟨d, hd, hid, htoken, husable.1, husable.2⟩

theorem Inv.write {s : State} (hinv : Inv s) {db : Database}
    (h : TokenWrite s.db.devices db.devices) : Inv { s with db := db } where
  usable d' hd' := by
    rcases h.origin d' hd' with ⟨d, hd, htoken⟩ | ⟨u, htoken⟩
    · rw [htoken]
      exact hinv.usable d hd
    · rw [htoken]
      exact ⟨u.ne_empty, u.isAscii⟩
  held deviceId token ht := by
    rcases hinv.held deviceId token ht with ⟨d, hd, hid, htoken⟩
    rcases h.kept d hd with ⟨d', hd', hid', htoken'⟩
    exact ⟨d', hd', hid'.trans hid, htoken'.trans htoken⟩

theorem Inv.accept {s : State} (hinv : Inv s) {deviceId token : String}
    (h : ∃ d ∈ s.db.devices, d.id = deviceId ∧ d.token = token) :
    Inv { s with accepted := Function.update s.accepted deviceId (some token) } where
  usable := hinv.usable
  held deviceId' token' ht := by
    by_cases hsame : deviceId' = deviceId
    · dsimp only at ht
      rw [hsame, Function.update_self, Option.some.injEq] at ht
      rw [hsame, ← ht]
      exact h
    · dsimp only at ht
      rw [Function.update_of_ne hsame] at ht
      exact hinv.held deviceId' token' ht

/-- One record gets the token of a sender; the others stay. -/
theorem Inv.handOver {s : State} (hinv : Inv s) {devices' : Devices} {deviceId token : String}
    (husable : token ≠ "" ∧ Python.isAscii token = true)
    (horigin : ∀ d' ∈ devices', d' ∈ s.db.devices ∨ d'.token = token)
    (hkept : ∀ d ∈ s.db.devices, d.id ≠ deviceId → d ∈ devices')
    (hnew : ∃ d ∈ devices', d.id = deviceId ∧ d.token = token) :
    Inv { s with
      db := { s.db with devices := devices' }
      accepted := Function.update s.accepted deviceId (some token) } where
  usable d' hd' := by
    rcases horigin d' hd' with hd | htoken
    · exact hinv.usable d' hd
    · rw [htoken]
      exact husable
  held deviceId' token' ht := by
    by_cases hsame : deviceId' = deviceId
    · dsimp only at ht
      rw [hsame, Function.update_self, Option.some.injEq] at ht
      rw [hsame, ← ht]
      exact hnew
    · dsimp only at ht
      rw [Function.update_of_ne hsame] at ht
      rcases hinv.held deviceId' token' ht with ⟨d, hd, hid, htoken⟩
      exact ⟨d, hkept d hd (hid ▸ hsame), hid, htoken⟩

theorem Inv.handOver_updateKey {s : State} (hinv : Inv s) {device : Device} {token : String}
    {f : Device → Device} (husable : token ≠ "" ∧ Python.isAscii token = true)
    (hdevice : device ∈ s.db.devices) (hid : ∀ d, (f d).id = d.id)
    (htoken : ∀ d, (f d).token = token) :
    Inv { s with
      db := { s.db with devices := s.db.devices.updateKey device.id f hid }
      accepted := Function.update s.accepted device.id (some token) } := by
  refine hinv.handOver husable ?_ ?_ ?_
  · intro d' hd'
    rcases Table.mem_updateKey.mp hd' with ⟨d, hd, rfl⟩
    by_cases hk : d.id = device.id
    · rw [if_pos hk]
      exact .inr (htoken d)
    · rw [if_neg hk]
      exact .inl hd
  · exact fun d hd hk => Table.mem_updateKey_of_ne hd hk
  · exact ⟨f device, Table.mem_updateKey_self hdevice, hid device, htoken device⟩

/-! ## Heartbeats -/

/-- The state after an answer to an agent that carries `token`. -/
def answered (s : State) (token : String) (result : Devices × Except HttpError HeartbeatAnswer) :
    State where
  db := { s.db with devices := result.1 }
  accepted :=
    match result.2 with
    | .ok answer => Function.update s.accepted answer.deviceId (some token)
    | .error _ => s.accepted

theorem step_heartbeat (settings : Settings) (s : State) (payload : HeartbeatRequest)
    (headers : Headers) (draw : Draw) :
    step settings s (.heartbeat payload headers draw) =
      some (answered s (bearerToken headers)
        (agentHeartbeat settings.config s.db.devices payload headers draw)) := by
  simp only [step, acceptance, answered, handle]
  cases (agentHeartbeat settings.config s.db.devices payload headers draw).2 <;> rfl

section Heartbeat

variable {settings : Settings} {s : State} {payload : HeartbeatRequest} {headers : Headers}
  {draw : Draw} (hinv : Inv s)

include hinv

theorem Inv.token_eq {device : Device} {token : String} (hdevice : device ∈ s.db.devices)
    (h : device.token = "" ∨ token = device.token) : device.token = token :=
  (h.resolve_left (hinv.usable device hdevice).1).symm

theorem inv_heartbeat
    (hpresented : HandsOver settings.config s.db.devices payload headers draw →
      bearerToken headers ≠ "" ∧ Python.isAscii (bearerToken headers) = true) :
    Inv (answered s (bearerToken headers)
      (agentHeartbeat settings.config s.db.devices payload headers draw)) := by
  have hcase := handleHeartbeat_outcome settings.config s.db.devices payload headers
    (bearerToken headers) draw
  unfold agentHeartbeat
  generalize handleHeartbeat settings.config s.db.devices payload headers (bearerToken headers)
    draw = result at hcase
  cases hcase with
  | updated device hmatch htoken hbinds =>
      have hdevice := matchDevice_mem hmatch
      have hrefreshed : refreshDevice device payload draw.now ∈
          s.db.devices.updateKey device.id (fun d => refreshDevice d payload draw.now)
            (fun d => refreshDevice_id d payload draw.now) :=
        Table.mem_updateKey_self hdevice
      refine (hinv.write (tokenWrite_updateKey (fun d => refreshDevice_id d payload draw.now)
        fun d => refreshDevice_token d payload draw.now)).accept ?_
      exact ⟨_, hrefreshed, refreshDevice_id device payload draw.now,
        (refreshDevice_token device payload draw.now).trans (hinv.token_eq hdevice htoken)⟩
  | reEnrolled device hmatch htoken hallowed hbinds =>
      -- the sender's token replaces the stored one, so it had to be presented
      have hdevice := matchDevice_mem hmatch
      have hover : HandsOver settings.config s.db.devices payload headers draw := by
        rw [HandsOver, hmatch]
        exact ⟨hbinds, fun heq => htoken (.inr heq), hallowed⟩
      have husable := hpresented hover
      exact hinv.handOver_updateKey husable hdevice
        (fun d => adoptDevice_id d payload (bearerToken headers) draw.now)
        fun d => adoptDevice_token d payload (bearerToken headers) draw.now
  | created devices' hmatch hsecret hbinds hinsert =>
      -- the sender's token goes into the new record, if there is one
      have hover : HandsOver settings.config s.db.devices payload headers draw := by
        rw [HandsOver, hmatch]
        refine ⟨hbinds, hsecret, fun d hd => ?_⟩
        rw [← registerDevice_id payload (bearerToken headers) draw]
        exact (Table.insert?_eq_some hinsert).2 d hd
      have husable := hpresented hover
      have htoken : (registerDevice payload (bearerToken headers) draw).token =
          bearerToken headers := by
        rw [registerDevice_token, if_pos husable.1]
      have hmem : ∀ d, d ∈ devices' ↔ d ∈ s.db.devices ∨
          d = registerDevice payload (bearerToken headers) draw :=
        fun d => Table.mem_insert? hinsert
      refine hinv.handOver husable ?_ ?_ ?_
      · intro d' hd'
        rcases (hmem d').mp hd' with hd | rfl
        · exact .inl hd
        · exact .inr htoken
      · exact fun d hd _ => (hmem d).mpr (.inl hd)
      · exact ⟨_, (hmem _).mpr (.inr rfl), registerDevice_id payload (bearerToken headers) draw,
          htoken⟩
  | wrongToken => exact hinv
  | wrongSecret => exact hinv
  | notBound => exact hinv
  | idTaken => exact hinv

/-- A sender whose token was stored opens its WebSocket only with a token in ASCII. -/
theorem presented_of_tokensHold
    (hhold : TokensHold (answered s (bearerToken headers)
      (agentHeartbeat settings.config s.db.devices payload headers draw)))
    (hover : HandsOver settings.config s.db.devices payload headers draw) :
    bearerToken headers ≠ "" ∧ Python.isAscii (bearerToken headers) = true := by
  -- a token that opens a socket is not empty and in ASCII
  have husable : ∀ (devices : Devices) deviceId,
      socketAuthorized devices deviceId (bearerToken headers) = some true →
        bearerToken headers ≠ "" ∧ Python.isAscii (bearerToken headers) = true := by
    intro devices deviceId hopens
    rcases socketAuthorized_iff.mp hopens with ⟨d, _, _, htoken, hne, hascii⟩
    rw [← htoken]
    exact ⟨hne, hascii⟩
  have hcase := handleHeartbeat_outcome settings.config s.db.devices payload headers
    (bearerToken headers) draw
  unfold agentHeartbeat at hhold
  unfold HandsOver at hover
  generalize handleHeartbeat settings.config s.db.devices payload headers (bearerToken headers)
    draw = result at hcase hhold
  cases hcase with
  | updated device hmatch htoken hbinds =>
      rw [hmatch] at hover
      -- the record has this token already
      exact absurd (hinv.token_eq (matchDevice_mem hmatch) htoken).symm hover.2.1
  | reEnrolled device hmatch htoken hallowed hbinds =>
      exact husable _ _ (hhold.opens device.id (bearerToken headers) (by simp [answered]))
  | created devices' hmatch hsecret hbinds hinsert =>
      exact husable _ _ (hhold.opens draw.id.val (bearerToken headers) (by simp [answered]))
  | wrongToken device hmatch htoken hrefused =>
      rw [hmatch] at hover
      exact absurd hover.2.2 hrefused
  | wrongSecret hmatch hsecret =>
      rw [hmatch, hsecret] at hover
      exact absurd hover.2.1 (by decide)
  | notBound hbinds =>
      rw [hbinds] at hover
      exact absurd hover.1 (by decide)
  | idTaken hmatch hsecret hbinds hinsert =>
      rw [hmatch] at hover
      -- a free id would have let the insertion through
      have hsome : (s.db.devices.insert? (registerDevice payload (bearerToken headers)
          draw)).isSome := by
        rw [Table.insert?_isSome_iff, registerDevice_id]
        exact hover.2.2
      rw [hinsert] at hsome
      cases hsome

end Heartbeat

/-! ## One request -/

theorem inv_recover {settings : Settings} {s : State} (hinv : Inv s) (payload : RecoverRequest)
    (headers : Headers) (now : DateTime) {s' : State}
    (h : step settings s (.recover payload headers now) = some s') : Inv s' := by
  have hwrite := tokenWrite_handle settings s.db (.recover payload headers now)
    (fun _ _ _ => Request.noConfusion)
  have hdb := hinv.write hwrite
  simp only [step, Option.some.injEq] at h
  rw [← h]
  simp only [acceptance]
  cases hanswer : (agentRecover s.db.devices payload headers now).2 with
  | error e => exact hdb
  | ok deviceId =>
      apply hdb.accept
      unfold agentRecover at hanswer
      cases hfind : s.db.devices.find? payload.deviceId with
      | none =>
          rw [hfind] at hanswer
          cases hanswer
      | some device =>
          rw [hfind] at hanswer
          have hdevice := Table.mem_of_find? hfind
          by_cases hrefused : device.token ≠ "" ∧ bearerToken headers ≠ device.token
          · simp only [if_pos hrefused] at hanswer
            cases hanswer
          · simp only [if_neg hrefused, Except.ok.injEq] at hanswer
            -- the stored token is not empty, so the request was let in by its own
            have htoken : bearerToken headers = device.token := by
              by_contra hne
              exact hrefused ⟨(hinv.usable device hdevice).1, hne⟩
            rcases hwrite.kept device hdevice with ⟨d', hd', hid', htoken'⟩
            refine ⟨d', hd', ?_, htoken'.trans htoken.symm⟩
            rw [hid', Table.key_of_find? hfind, hanswer]

/-- **One request.**  Under the invariant the tokens hold after a request exactly when a token that
is to be stored is presented, and then the invariant is kept. -/
theorem step_inv {settings : Settings} {s s' : State} {request : Request}
    (h : step settings s request = some s') (hinv : Inv s)
    (hpresented : TokenPresented settings s request s') : Inv s' := by
  cases request with
  | heartbeat payload headers draw =>
      rw [step_heartbeat, Option.some.injEq] at h
      exact h ▸ inv_heartbeat hinv hpresented
  | recover payload headers now => exact inv_recover hinv payload headers now h
  | _ =>
      rw [step, Option.some.injEq] at h
      rw [← h]
      exact hinv.write (tokenWrite_handle settings s.db _ fun _ _ _ => Request.noConfusion)

theorem step_holds_iff {settings : Settings} {s s' : State} {request : Request}
    (h : step settings s request = some s') (hinv : Inv s) :
    TokensHold s' ↔ TokenPresented settings s request s' := by
  refine ⟨fun hhold => ?_, fun hpresented => (step_inv h hinv hpresented).tokensHold⟩
  cases request with
  | heartbeat payload headers draw =>
      rw [step_heartbeat, Option.some.injEq] at h
      rw [← h] at hhold
      exact presented_of_tokensHold hinv hhold
  | _ => trivial

/-! ## Whole runs -/

/-- **Tokens are never empty** in exactly the runs in which every heartbeat whose token is stored
carries one: in every state reached every record has a token, no request finds a record without
one, and the agent last accepted for a record opens its WebSocket. -/
theorem tokens_hold_iff (settings : Settings) (requests : List Request) :
    Along (step settings) (fun _ _ s' => TokensHold s') start requests ↔
      Along (step settings) (TokenPresented settings) start requests := by
  have hiff : ∀ s request s', step settings s request = some s' → Inv s →
      (TokensHold s' ↔ TokenPresented settings s request s') :=
    fun _ _ _ h hinv => step_holds_iff h hinv
  have hkeep : ∀ s request s', step settings s request = some s' → Inv s →
      TokenPresented settings s request s' → Inv s' :=
    fun _ _ _ h hinv hpresented => step_inv h hinv hpresented
  exact along_iff hiff hkeep inv_start

def tokenlessEnrolment : List Request :=
  [.createDevice {} issuedDraw,
    .heartbeat anonymousHeartbeat { xEnrollSecret := some "s" } issuedDraw]

/-- The record is left without a token. -/
theorem token_emptied :
    ¬Along (step exampleSettings) (fun _ _ s' => TokensHold s') start tokenlessEnrolment := by
  intro h
  have hnonempty : Along (step exampleSettings)
      (fun _ _ s' => s'.db.devices.rows.all (fun d => d.token ≠ "") = true) start
      tokenlessEnrolment := by
    apply h.mono
    intro _ _ s' _ hhold
    rw [List.all_eq_true]
    intro d hd
    exact decide_eq_true (hhold.nonempty d hd)
  exact absurd hnonempty (by decide)

end LanAgent.Tokens
