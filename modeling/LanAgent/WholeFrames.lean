import LanAgent.Library.Runs
import LanAgent.Server

/-!
# Whole frames — a frame is handled completely or not at all

The receive loop should survive every frame, and leave behind either the database it found or a
stored result with its parent task in step.  It does so for the frames that are well formed, in a
sense that `WellFormed` spells out on the decoded text; every other frame makes the handler raise,
before the first commit or behind it.
-/

namespace LanAgent.WholeFrames

open Library Library.Runs Python Sqlite

/-! ## The property -/

/-- The task has the status its results give it, if they give one. -/
def InStep (db : Database) (taskId : String) : Prop :=
  ∀ t ∈ db.tasks, t.id = taskId → ∀ verdict,
    syncVerdict ((db.resultsOf taskId).map TaskResult.status) = some verdict → t.status = verdict

/-- The loop goes on, and the frame has had all of its effect or none. -/
structure Handled (rt : Runtime) (db : Database) (data : String) (now : DateTime)
    (outcome : Database × Except FrameError Unit) : Prop where
  goes_on : outcome.2 = .ok ()
  whole : outcome.1 = db ∨ ∃ reply, readReply rt db.results data = .ok (some reply) ∧
    reply.assigned now ∈ outcome.1.results ∧ InStep outcome.1 reply.row.taskId
  /-- No result is committed as terminal while its parent, all of whose results have ended, stays
  RUNNING. -/
  none_left : ∀ r ∈ outcome.1.results, r ∉ db.results → r.status ∈ terminalStatuses →
    ∀ t ∈ outcome.1.tasks, t.id = r.taskId →
      (∀ s ∈ outcome.1.resultsOf t.id, s.status ∈ terminalStatuses) → t.status ≠ .running

/-! ## The condition -/

def Names (rt : Runtime) (commandId : Json) (row : TaskResult) : Prop :=
  ∃ v, Sqlite.bind commandId = .ok v ∧ rt.affinity.text v = some row.id

/-- The status can be bound and is not NULL; the output is a text without lone surrogates in the
part that is stored. -/
def ColumnsFit (items : List (Str × Json)) : Prop :=
  bindable (get items "status" (.str (Str.ofString "unknown"))) = true ∧
    storesNull (get items "status" (.str (Str.ofString "unknown"))) = false ∧
    ∃ output, get items "output" (.str []) = .str output ∧
      ∀ u ∈ output.take maxOutputChars, ∃ c, u = .scalar c

/-- The output of a success is not nested too deep, and where it is an object its hardware members
can be bound. -/
def SysinfoFits (rt : Runtime) (text : String) : Prop :=
  loads rt.recursionLimit text ≠ .error .recursion ∧
    ∀ info, loads rt.recursionLimit text = .ok (.obj info) → ∀ f : HwField, ∀ value,
      lookup info (Str.ofString f.name) = some value → bindable value = true

def ReplyFits (rt : Runtime) (items : List (Str × Json)) : Prop :=
  ColumnsFit items ∧
    (get items "status" (.str (Str.ofString "unknown")) = .str (Str.ofString "success") →
      ∀ output text, get items "output" (.str []) = .str output →
        (truncateOutput output).encode = some text → SysinfoFits rt text)

/-- The text is an object whose command id, if it has one, can be bound; and where it names a
result, the rest of the frame fits and the broadcast returns. -/
def WellFormed (rt : Runtime) (db : Database) (data : String) (broadcastOk : Bool) : Prop :=
  ∃ items, loads rt.recursionLimit data = .ok (.obj items) ∧
    ((get items "command_id").truthy = true → bindable (get items "command_id") = true ∧
      ∀ row ∈ db.results, Names rt (get items "command_id") row →
        ReplyFits rt items ∧ broadcastOk = true)

/-! ## What each stage accepts -/

section Stages

variable {rt : Runtime} {items : List (Str × Json)}

theorem frameItems_eq_ok_iff {data : String} :
    frameItems rt data = .ok items ↔ loads rt.recursionLimit data = .ok (.obj items) := by
  unfold frameItems
  split <;> simp_all

theorem commandRow_of_falsy {results : TaskResults}
    (h : ¬(get items "command_id").truthy = true) : commandRow rt results items = .ok none := by
  unfold commandRow
  dsimp only
  rw [if_neg h]

theorem commandRow_of_bind {results : TaskResults} {v : Value}
    (h : (get items "command_id").truthy = true)
    (hv : Sqlite.bind (get items "command_id") = .ok v) :
    commandRow rt results items = .ok ((rt.affinity.text v).bind results.find?) := by
  unfold commandRow
  dsimp only
  rw [if_pos h, bindParameter_eq_ok_iff.mpr hv]
  dsimp only
  cases rt.affinity.text v <;> rfl

theorem commandRow_of_not_bindable {results : TaskResults}
    (h : (get items "command_id").truthy = true)
    (hbind : ¬bindable (get items "command_id") = true) :
    ∃ e, commandRow rt results items = .error e := by
  unfold commandRow
  dsimp only
  rw [if_pos h]
  cases hv : bindParameter (get items "command_id") with
  -- the driver refuses the parameter of the query
  | error e => exact ⟨e, rfl⟩
  | ok v => exact absurd (bindable_iff.mpr ⟨v, bindParameter_eq_ok_iff.mp hv⟩) hbind

theorem encode_truncateOutput {output : Str} :
    (∃ text, (truncateOutput output).encode = some text) ↔
      ∀ u ∈ output.take maxOutputChars, ∃ c, u = .scalar c := by
  rw [← Option.isSome_iff_exists, Str.isSome_encode_iff]
  unfold truncateOutput
  by_cases hlong : maxOutputChars < output.length
  · rw [if_pos hlong]
    apply Iff.intro
    · intro h u hu
      exact h u (List.mem_append_left _ hu)
    · intro h u hu
      rcases List.mem_append.mp hu with hu | hu
      -- the part of the output that is kept
      · exact h u hu
      -- the appended note is plain text
      · rcases List.mem_map.mp hu with ⟨c, _, rfl⟩
        exact ⟨c, rfl⟩
  · rw [if_neg hlong, List.take_of_length_le (by omega)]

/-- Only texts get past the length check and the driver. -/
theorem shownOutput_bind_iff {w : Value} :
    (∃ shown, shownOutput items = .ok shown ∧ Sqlite.bind shown = .ok w) ↔
      ∃ output text, get items "output" (.str []) = .str output ∧
        (truncateOutput output).encode = some text ∧ w = .text text := by
  unfold shownOutput
  apply Iff.intro
  · intro h
    rcases h with ⟨shown, hshown, hbind⟩
    split at hshown
    · rename_i output houtput
      cases hshown
      rcases bind_str_eq_ok hbind with ⟨text, htext, hw⟩
      exact ⟨output, text, houtput, htext, hw⟩
    -- an array or an object passes `len()` and is refused by the driver
    · split at hshown <;> cases hshown
      cases hbind
    · split at hshown <;> cases hshown
      cases hbind
    -- `len()` raises for the other types
    · cases hshown
  · intro h
    rcases h with ⟨output, text, houtput, htext, rfl⟩
    rw [houtput]
    exact ⟨_, rfl, by rw [Sqlite.bind, htext]⟩

theorem replyColumns_eq_ok_iff {status : String} {column : Option String} :
    replyColumns rt items = .ok (status, column) ↔
      ∃ v, Sqlite.bind (get items "status" (.str (Str.ofString "unknown"))) = .ok v ∧
        rt.affinity.text v = some status ∧
          ∃ output text, get items "output" (.str []) = .str output ∧
            (truncateOutput output).encode = some text ∧ column = some text := by
  unfold replyColumns
  apply Iff.intro
  · intro h
    cases hshown : shownOutput items with
    | error e =>
        rw [hshown] at h
        cases h
    | ok shown =>
        rw [hshown] at h
        dsimp only at h
        split at h
        · cases h
        · cases h
        · rename_i v w hv hw
          rw [bindParameter_eq_ok_iff] at hv hw
          split at h
          · cases h
          · rename_i text htext
            cases h
            rcases shownOutput_bind_iff.mp ⟨shown, hshown, hw⟩ with ⟨output, shownText, houtput⟩
            refine ⟨v, hv, htext, output, shownText, houtput.1, houtput.2.1, ?_⟩
            rw [houtput.2.2, ColumnAffinity.text_text]
  · intro h
    rcases h with ⟨v, hv, hstatus, output, text, houtput, htext, rfl⟩
    rcases shownOutput_bind_iff.mpr ⟨output, text, houtput, htext, rfl⟩ with ⟨shown, hshown, hw⟩
    rw [hshown]
    dsimp only
    rw [bindParameter_eq_ok_iff.mpr hv, bindParameter_eq_ok_iff.mpr hw]
    dsimp only
    rw [hstatus]
    rfl

theorem replyColumns_isOk_iff :
    (∃ columns, replyColumns rt items = .ok columns) ↔ ColumnsFit items := by
  apply Iff.intro
  · intro h
    rcases h with ⟨⟨status, column⟩, h⟩
    rcases replyColumns_eq_ok_iff.mp h with ⟨v, hv, hstatus, output, text, houtput, htext, _⟩
    refine ⟨bindable_iff.mpr ⟨v, hv⟩, ?_, output, houtput, encode_truncateOutput.mp ⟨text, htext⟩⟩
    rw [← Bool.not_eq_true, ← rt.affinity.text_eq_none_iff hv, hstatus]
    exact Option.some_ne_none status
  · intro h
    rcases h with ⟨hbind, hnull, output, houtput, hscalar⟩
    rcases bindable_iff.mp hbind with ⟨v, hv⟩
    rcases encode_truncateOutput.mpr hscalar with ⟨text, htext⟩
    rw [← Bool.not_eq_true, ← rt.affinity.text_eq_none_iff hv] at hnull
    rcases Option.ne_none_iff_exists'.mp hnull with ⟨status, hstatus⟩
    exact ⟨_, replyColumns_eq_ok_iff.mpr ⟨v, hv, hstatus, output, text, houtput, htext, rfl⟩⟩

/-- The stored status is `success` for that text only. -/
theorem stored_success_iff {value : Json} {v : Value} (hv : Sqlite.bind value = .ok v) :
    rt.affinity.text v = some "success" ↔ value = .str (Str.ofString "success") := by
  apply Iff.intro
  · intro h
    -- a number is stored in a column of texts by its digits, which do not begin with `s`
    have hnumber : v.isNumber = false := by
      rw [← Bool.not_eq_true]
      intro hnumber
      rcases rt.affinity.head_of_number hnumber h with ⟨c, cs, hchars, hhead⟩
      have hc : c = 's' := (List.cons.inj hchars).1.symm
      rw [hc] at hhead
      exact absurd hhead (by decide)
    cases v with
    | null => cases h
    | integer n => cases hnumber
    | real x => cases hnumber
    | text s =>
        rw [ColumnAffinity.text_text, Option.some.injEq] at h
        rw [h] at hv
        exact bind_eq_text hv
  · intro h
    rw [h, Sqlite.bind, Str.encode_ofString, Except.ok.injEq] at hv
    rw [← hv, ColumnAffinity.text_text]

theorem storeSysinfoOutput_isOk_iff {devices : Devices} {deviceId output : String}
    {now : DateTime} :
    (∃ devices', storeSysinfoOutput rt devices deviceId output now = .ok devices') ↔
      SysinfoFits rt output := by
  unfold storeSysinfoOutput SysinfoFits
  cases hload : loads rt.recursionLimit output with
  | error e => cases e <;> simp
  | ok value =>
      cases value with
      | obj info =>
          -- the update goes through when every member that is there can be bound
          have hvalues : (∃ values, sysinfoValues rt info HwField.all = .ok values) ↔
              ∀ f : HwField, ∀ value, lookup info (Str.ofString f.name) = some value →
                bindable value = true := by
            rw [sysinfoValues_isOk_iff]
            exact ⟨fun h f => h f (HwField.mem_all f), fun h f _ => h f⟩
          simp only [Except.ok.injEq, Json.obj.injEq, forall_eq', ← hvalues]
          cases sysinfoValues rt info HwField.all with
          | error e => simp
          | ok values => cases values <;> simp
      | _ => simp

theorem sysinfoFits_empty : SysinfoFits rt "" := by
  rw [SysinfoFits, loads_empty]
  exact ⟨(nomatch ·), fun info h => nomatch h⟩

/-- The second commit goes through for a reply that is no success, or whose output fits. -/
theorem storeReplySysinfo_isOk_iff {devices : Devices} {deviceId : String} {reply : Reply}
    {now : DateTime} :
    (∃ devices', storeReplySysinfo rt devices deviceId reply now = .ok devices') ↔
      (reply.status = "success" → ∀ text, reply.output = some text → SysinfoFits rt text) := by
  unfold storeReplySysinfo
  cases houtput : reply.output with
  | none => exact iff_of_true ⟨devices, rfl⟩ fun _ text htext => nomatch htext
  | some output =>
      dsimp only
      simp only [Option.some.injEq, forall_eq']
      by_cases hsuccess : reply.status = "success"
      · by_cases hempty : output = ""
        -- an empty output is not looked at, and would decode to nothing
        · rw [if_neg fun h => h.2 hempty, hempty]
          exact iff_of_true ⟨devices, rfl⟩ fun _ => sysinfoFits_empty
        · rw [if_pos ⟨hsuccess, hempty⟩, storeSysinfoOutput_isOk_iff]
          exact ⟨fun h _ => h, fun h => h hsuccess⟩
      · rw [if_neg fun h => hsuccess h.1]
        exact iff_of_true ⟨devices, rfl⟩ fun h => absurd h hsuccess

end Stages

/-! ## One frame -/

section Frame

variable {rt : Runtime} {db : Database} {deviceId data : String} {now : DateTime}
  {broadcastOk : Bool}

theorem names_iff {results : TaskResults} {commandId : Json} {v : Value} {row : TaskResult}
    (hv : Sqlite.bind commandId = .ok v) :
    row ∈ results ∧ Names rt commandId row ↔
      (rt.affinity.text v).bind results.find? = some row := by
  rw [Option.bind_eq_some_iff]
  apply Iff.intro
  · intro h
    rcases h with ⟨hrow, v', hv', hid⟩
    rw [hv, Except.ok.injEq] at hv'
    exact ⟨row.id, hv' ▸ hid, Table.find?_key hrow⟩
  · intro h
    rcases h with ⟨id, hid, hrow⟩
    rw [← Table.key_of_find? hrow] at hid
    exact ⟨Table.mem_of_find? hrow, v, hv, hid⟩

theorem named_goes_on_iff {items : List (Str × Json)} {row : TaskResult}
    (hitems : loads rt.recursionLimit data = .ok (.obj items))
    (hrow : commandRow rt db.results items = .ok (some row)) :
    (handleFrame rt db deviceId data now broadcastOk).2 = .ok () ↔
      ReplyFits rt items ∧ broadcastOk = true := by
  have hread : readReply rt db.results data =
      (replyColumns rt items).map (fun columns => some ⟨row, columns.1, columns.2⟩) := by
    rw [readReply, frameItems_eq_ok_iff.mpr hitems]
    dsimp only
    rw [hrow]
    dsimp only
    cases replyColumns rt items <;> rfl
  unfold handleFrame
  rw [hread]
  cases hcolumns : replyColumns rt items with
  | error e =>
      rw [Except.map]
      -- the flush raises before the first commit
      refine iff_of_false (fun h => nomatch h) fun h => ?_
      rcases replyColumns_isOk_iff.mpr h.1.1 with ⟨columns, hok⟩
      rw [hcolumns] at hok
      cases hok
  | ok columns =>
      rcases columns with ⟨status, column⟩
      dsimp only [Except.map]
      have hfits : ColumnsFit items := replyColumns_isOk_iff.mp ⟨_, hcolumns⟩
      rcases replyColumns_eq_ok_iff.mp hcolumns with
        ⟨v, hv, hstatus, output, text, houtput, htext, rfl⟩
      -- the condition on the hardware information, on the reply and on the frame
      have hsysinfo : (∃ devices,
          storeReplySysinfo rt (commitReply db ⟨row, status, some text⟩ now).devices deviceId
            ⟨row, status, some text⟩ now = .ok devices) ↔ ReplyFits rt items := by
        rw [storeReplySysinfo_isOk_iff]
        -- the handler compares the text that is stored with `success`
        have hsuccess : status = "success" ↔
            get items "status" (.str (Str.ofString "unknown")) = .str (Str.ofString "success") := by
          rw [← stored_success_iff hv, hstatus, Option.some.injEq]
        unfold ReplyFits
        rw [and_iff_right hfits, ← hsuccess]
        rw [houtput]
        refine imp_congr_right fun _ =>
          ⟨fun h output' text' heq htext' => ?_, fun h text' heq => ?_⟩
        · cases heq
          exact h text' (htext.symm.trans htext')
        · exact h output text' rfl (htext.trans heq)
      rw [← hsysinfo]
      cases storeReplySysinfo rt (commitReply db ⟨row, status, some text⟩ now).devices deviceId
          ⟨row, status, some text⟩ now with
      -- the second commit raises, behind the first one
      | error e => simp
      -- only the broadcast is left
      | ok devices => cases broadcastOk <;> simp

/-- **The loop goes on** after exactly the well-formed frames. -/
theorem goes_on_iff : (handleFrame rt db deviceId data now broadcastOk).2 = .ok () ↔
    WellFormed rt db data broadcastOk := by
  by_cases hload : ∃ items, loads rt.recursionLimit data = .ok (.obj items)
  · rcases hload with ⟨items, hitems⟩
    have hwell : WellFormed rt db data broadcastOk ↔
        ((get items "command_id").truthy = true → bindable (get items "command_id") = true ∧
          ∀ row ∈ db.results, Names rt (get items "command_id") row →
            ReplyFits rt items ∧ broadcastOk = true) := by
      unfold WellFormed
      rw [hitems]
      simp
    rw [hwell]
    -- a frame whose row is not found ends here
    have hunnamed : commandRow rt db.results items = .ok none →
        (handleFrame rt db deviceId data now broadcastOk).2 = .ok () := by
      intro hrow
      rw [handleFrame, readReply, frameItems_eq_ok_iff.mpr hitems]
      dsimp only
      rw [hrow]
    by_cases htruthy : (get items "command_id").truthy = true
    · by_cases hbind : bindable (get items "command_id") = true
      · rcases bindable_iff.mp hbind with ⟨v, hv⟩
        have hrow : commandRow rt db.results items =
            .ok ((rt.affinity.text v).bind db.results.find?) := commandRow_of_bind htruthy hv
        simp only [htruthy, hbind, true_and, forall_const]
        cases hfind : (rt.affinity.text v).bind db.results.find? with
        | none =>
            rw [hfind] at hrow
            apply iff_of_true (hunnamed hrow)
            intro row hmem hnames
            rw [(names_iff hv).mp ⟨hmem, hnames⟩] at hfind
            cases hfind
        | some row =>
            rw [hfind] at hrow
            rw [named_goes_on_iff hitems hrow]
            refine ⟨fun h _ _ _ => h, fun h => ?_⟩
            have hnames := (names_iff hv).mpr hfind
            exact h row hnames.1 hnames.2
      · rcases commandRow_of_not_bindable htruthy hbind with ⟨e, hrow⟩
        refine iff_of_false ?_ fun h => hbind (h htruthy).1
        rw [handleFrame, readReply, frameItems_eq_ok_iff.mpr hitems]
        dsimp only
        rw [hrow]
        exact (nomatch ·)
    -- without a command id there is no query at all
    · exact iff_of_true (hunnamed (commandRow_of_falsy htruthy)) fun h => absurd h htruthy
  -- decoding raises, or `msg.get` does
  · refine iff_of_false ?_ fun h => hload (Exists.imp (fun _ h => h.1) h)
    cases hitems : frameItems rt data with
    | error e =>
        rw [handleFrame, readReply, hitems]
        exact (nomatch ·)
    | ok items => exact absurd ⟨items, frameItems_eq_ok_iff.mp hitems⟩ hload

theorem inStep_syncParentTask {db : Database} {taskId : String} :
    InStep (syncParentTask db taskId) taskId := by
  have hresults : (syncParentTask db taskId).resultsOf taskId = db.resultsOf taskId := by
    rw [Database.resultsOf, syncParentTask_results, Database.resultsOf]
  intro t ht hid verdict hverdict
  rw [hresults] at hverdict
  rw [mem_syncParentTask, hverdict] at ht
  rcases ht with ⟨t₀, _, rfl⟩
  by_cases hthis : t₀.id = taskId
  · rw [if_pos hthis]
  · rw [if_neg hthis] at hid
    exact absurd hid hthis

/-- A task in step does not run when its results have ended. -/
theorem InStep.not_running {db : Database} {r : TaskResult} {t : Task} (h : InStep db r.taskId)
    (hr : r ∈ db.results) (ht : t ∈ db.tasks) (hid : t.id = r.taskId)
    (hended : ∀ s ∈ db.resultsOf t.id, s.status ∈ terminalStatuses) : t.status ≠ .running := by
  cases hverdict : syncVerdict ((db.resultsOf r.taskId).map TaskResult.status) with
  | none =>
      -- no verdict: there is no result, or one of them has not ended
      have hmem : r ∈ db.resultsOf r.taskId := Database.mem_resultsOf.mpr ⟨hr, rfl⟩
      rcases syncVerdict_eq_none_iff.mp hverdict with hnil | hopen
      · rw [List.map_eq_nil_iff] at hnil
        rw [hnil] at hmem
        cases hmem
      · refine absurd (fun s hs => ?_) hopen
        rcases List.mem_map.mp hs with ⟨r', hr', rfl⟩
        exact hended r' (hid ▸ hr')
  | some verdict =>
      intro hrunning
      -- a verdict is a final status
      have hfinal := (syncVerdict_eq_some hverdict).1
      rw [← h t ht hid verdict hverdict, hrunning] at hfinal
      cases hfinal

theorem handled_of_goes_on
    (h : (handleFrame rt db deviceId data now broadcastOk).2 = .ok ()) :
    Handled rt db data now (handleFrame rt db deviceId data now broadcastOk) := by
  have hcase := handleFrame_outcome rt db deviceId data now broadcastOk
  generalize handleFrame rt db deviceId data now broadcastOk = outcome at h hcase
  cases hcase with
  | rejected e hread => cases h
  | unnamed hread => exact ⟨h, .inl rfl, fun r hr hnew => absurd hr hnew⟩
  | unsynced reply hread e hsysinfo => cases h
  -- both commits are done: the row holds the reply, and the parent is in step with its rows
  | stored reply hread devices hsysinfo =>
      have hrow := readReply_mem hread
      have hstep : InStep (syncParentTask { commitReply db reply now with devices := devices }
          reply.row.taskId) (reply.assigned now).taskId := inStep_syncParentTask
      have hresults := syncParentTask_results { commitReply db reply now with devices := devices }
        reply.row.taskId
      generalize syncParentTask { commitReply db reply now with devices := devices }
        reply.row.taskId = db' at h hstep hresults
      have hmem : ∀ r, r ∈ db'.results ↔
          (r ∈ db.results ∧ r.id ≠ reply.row.id) ∨ r = reply.assigned now := by
        intro r
        rw [hresults]
        exact mem_commitReply hrow
      refine ⟨h, .inr ⟨reply, hread, (hmem _).mpr (.inr rfl), hstep⟩, ?_⟩
      intro r hr hnew _ t ht hid hended
      rcases (hmem r).mp hr with ⟨hold, _⟩ | rfl
      · exact absurd hold hnew
      · exact hstep.not_running hr ht hid hended

/-- **One frame** in any database. -/
theorem handled_iff : Handled rt db data now (handleFrame rt db deviceId data now broadcastOk) ↔
    WellFormed rt db data broadcastOk :=
  ⟨fun h => goes_on_iff.mp h.goes_on, fun h => handled_of_goes_on (goes_on_iff.mpr h)⟩

end Frame

/-! ## Whole runs -/

/-- The frames of a run are handled completely or not at all. -/
def FrameHandled (settings : Settings) (db : Database) : Request → Database → Prop
  | .frame deviceId data now broadcastOk, _ =>
      Handled settings.runtime db data now
        (handleFrame settings.runtime db deviceId data now broadcastOk)
  | _, _ => True

def FrameWellFormed (settings : Settings) (db : Database) : Request → Database → Prop
  | .frame _ data _ broadcastOk, _ => WellFormed settings.runtime db data broadcastOk
  | _, _ => True

/-- **Frames are handled completely or not at all** in exactly the runs, from any database on, whose
frames are well formed. -/
theorem frames_handled_iff (settings : Settings) (db : Database) (requests : List Request) :
    Along (serve settings) (FrameHandled settings) db requests ↔
      Along (serve settings) (FrameWellFormed settings) db requests := by
  have hiff : ∀ db request db', serve settings db request = some db' → True →
      (FrameHandled settings db request db' ↔ FrameWellFormed settings db request db') := by
    intro db request db' _ _
    cases request with
    | frame deviceId data now broadcastOk => exact handled_iff
    | _ => exact Iff.rfl
  exact along_iff hiff (fun _ _ _ _ _ _ => trivial) trivial

/-- The agent reports success, with a list among its hardware information. -/
def listedModel : String :=
  "\x7b\"command_id\": \"44444444-4444-4444-8444-444444444444\", \"status\": \"success\", " ++
    "\"output\": \"\x7b\\\"cpu_model\\\": []\x7d\"\x7d"

/-- The result is a success, all results of the task have ended, and the task stays RUNNING. -/
theorem running_left : ¬∀ db, exec (serve exampleSettings) .empty oneSent = some db →
    socketAuthorized db.devices issuedDraw.id.val issuedDraw.token.val = some true →
      Handled exampleSettings.runtime db listedModel 3
        (handleFrame exampleSettings.runtime db issuedDraw.id.val listedModel 3 true) := by
  intro h
  -- one run reaches the database, and the agent's socket is authorised there
  have hhandled := h _ rfl (by decide +kernel)
  exact absurd hhandled.none_left (by decide +kernel)

end LanAgent.WholeFrames
