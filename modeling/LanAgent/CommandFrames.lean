import LanAgent.Commands
import LanAgent.Go.PythonTexts
import LanAgent.TaskRoutes

/-!
# Command frames — what the two ends of a socket read of each other

The server writes a command with `json.dumps` and the agent reads it with `json.Unmarshal`; the
agent writes its result with `json.Marshal` and the server reads it with `json.loads`.
-/

namespace LanAgent

open Library Sqlite Python Go Commands

/-! ## Commands -/

/-- `TaskType.value`. -/
def TaskType.value : TaskType → String
  | .sysprep => "sysprep"
  | .sysprepReboot => "sysprep_reboot"
  | .shutdown => "shutdown"
  | .reboot => "reboot"
  | .status => "status"
  | .upgrade => "upgrade"
  | .filePush => "file_push"
  | .hostmsg => "hostmsg"
  | .sysinfo => "sysinfo"

example (taskType : TaskType) : TaskType.ofValue? taskType.value = some taskType := by
  cases taskType <;> rfl

/-- The `command` of `_dispatch`; no parameters are an empty `dict`. -/
def command (id : String) (taskType : TaskType) (params : List (Str × Json)) : Json :=
  .obj [(Str.ofString "id", .str (Str.ofString id)),
    (Str.ofString "action", .str (Str.ofString taskType.value)),
    (Str.ofString "params", .obj params)]

/-- The text `send_command` writes, where `json.dumps` returns. -/
def commandText (shortest : Python.Float → FloatLiteral) (id : String) (taskType : TaskType)
    (params : List (Str × Json)) : String :=
  dumps shortest (command id taskType params)

/-- What `send_command` sends; at an exception it sends nothing and returns `False`. -/
def sentText (rt : Runtime) (shortest : Python.Float → FloatLiteral) (id : String)
    (taskType : TaskType) (params : List (Str × Json)) : Option String :=
  dumps? shortest rt.recursionLimit (command id taskType params)

/-- `json.Unmarshal(message, &cmd)`; `none` is an error. -/
def readCommand (message : String) : Option Command :=
  match decode message with
  | some (.object members) =>
      match decodeField JsonValue.readText "" (fieldValues members "id"),
        decodeField JsonValue.readText "" (fieldValues members "action") with
      | (id, true), (action, true) =>
          some { id := id, action := action, params := (fieldValues members "params").getLast? }
      | _, _ => none
  -- `null` leaves the command empty
  | some .null => some { id := "", action := "" }
  | _ => none

theorem goMember_ofString (go : Json → Option JsonValue) (name : String) (value : Json) :
    goMember go (Str.ofString name, value) = (go value).map fun value => (name, value) := by
  rw [goMember, goText_ofString]

/-- Go decodes a command exactly when it decodes its parameters. -/
theorem decode_commandText (shortest : Python.Float → FloatLiteral) (id : String)
    (taskType : TaskType) (params : List (Str × Json)) :
    decode (commandText shortest id taskType params) =
      (goValue shortest (maxNestingDepth - 1) (.obj params)).map fun value =>
        .object [("id", .text id), ("action", .text taskType.value), ("params", value)] := by
  have htext : ∀ s : String, goValue shortest (maxNestingDepth - 1) (.str (Str.ofString s)) =
      some (.text s) := by
    intro s
    show some (JsonValue.text (goText (Str.ofString s))) = _
    rw [goText_ofString]
  rw [commandText, decode_dumps]
  show (List.mapM (goMember (goValue shortest (maxNestingDepth - 1))) _).map JsonValue.object = _
  simp only [List.mapM_cons, List.mapM_nil, goMember_ofString, htext, Option.map_some]
  cases goValue shortest (maxNestingDepth - 1) (.obj params) <;> rfl

theorem fieldValues_cons (key : String) (value : JsonValue) (members : List (String × JsonValue))
    (name : String) : fieldValues ((key, value) :: members) name =
      if key.toList.map foldKeyChar = name.toList.map foldKeyChar then
        value :: fieldValues members name
      else fieldValues members name := by
  unfold fieldValues
  rw [List.filter_cons]
  split <;> simp_all

/-- **The agent reads the command that was sent**, unless Go cannot decode its parameters. -/
theorem readCommand_commandText (shortest : Python.Float → FloatLiteral) (id : String)
    (taskType : TaskType) (params : List (Str × Json)) :
    readCommand (commandText shortest id taskType params) =
      (goValue shortest (maxNestingDepth - 1) (.obj params)).map fun value =>
        { id := id, action := taskType.value, params := some value } := by
  rw [readCommand, decode_commandText]
  cases goValue shortest (maxNestingDepth - 1) (.obj params) with
  | none => rfl
  | some value =>
      simp only [Option.map_some]
      -- the three keys are no spellings of each other
      rw [fieldValues_cons, if_pos (by decide), fieldValues_cons, if_neg (by decide),
        fieldValues_cons, if_neg (by decide), fieldValues_cons, if_neg (by decide),
        fieldValues_cons, if_pos (by decide), fieldValues_cons, if_neg (by decide),
        fieldValues_cons, if_neg (by decide), fieldValues_cons, if_neg (by decide),
        fieldValues_cons, if_pos (by decide)]
      rfl

/-! ## Parameters that cannot be written or decoded -/

/-- The floats are numbers. -/
def finite : Json → Bool
  | .float x => x.isFinite
  | _ => true

theorem isSome_mapM {α β : Type} {f : α → Option β} {l : List α} :
    (l.mapM f).isSome = true ↔ ∀ a ∈ l, (f a).isSome = true := by
  induction l with
  | nil => exact iff_of_true rfl fun _ ha => absurd ha List.not_mem_nil
  | cons a l ih =>
      rw [List.forall_mem_cons, ← ih, List.mapM_cons]
      cases f a with
      | none => simp
      | some b => cases l.mapM f <;> simp

theorem isSome_goScalar_float (shortest : Python.Float → FloatLiteral) (x : Python.Float) :
    (goScalar shortest (.float x)).isSome = x.isFinite := by
  rw [goScalar]
  cases x.isFinite <;> rfl

section Values

variable {shortest : Python.Float → FloatLiteral}

/-- **What Go can decode**: the floats are numbers, and the nesting is within the limit. -/
theorem isSome_goValue_iff {depth : Nat} {value : Json} :
    (goValue shortest depth value).isSome = true ↔
      scalars finite value = true ∧ nesting value ≤ depth := by
  induction depth generalizing value with
  | zero =>
      cases value with
      | arr items =>
          exact iff_of_false Bool.false_ne_true fun h => absurd h.2 (Nat.not_succ_le_zero _)
      | obj members =>
          exact iff_of_false Bool.false_ne_true fun h => absurd h.2 (Nat.not_succ_le_zero _)
      | float x =>
          show (goScalar shortest (.float x)).isSome = true ↔ x.isFinite = true ∧ _
          rw [isSome_goScalar_float]
          exact (and_iff_left (Nat.zero_le _)).symm
      | _ => exact iff_of_true rfl ⟨rfl, Nat.le_refl 0⟩
  | succ depth ih =>
      cases value with
      | arr items =>
          rw [goValue, Option.isSome_map, isSome_mapM, scalars, scalarsItems_iff, nesting,
            Nat.succ_le_succ_iff, nestingItems_le_iff, ← forall₂_and]
          exact forall₂_congr fun value _ => ih
      | obj members =>
          have hkey : ∀ key : Str, finite (.str key) = true := fun _ => rfl
          rw [goValue, Option.isSome_map, isSome_mapM, scalars, scalarsMembers_iff, nesting,
            Nat.succ_le_succ_iff, nestingMembers_le_iff, ← forall₂_and]
          refine forall₂_congr fun member _ => ?_
          rw [goMember, Option.isSome_map, and_iff_right (hkey member.1)]
          exact ih
      | float x =>
          show (goScalar shortest (.float x)).isSome = true ↔ x.isFinite = true ∧ _
          rw [isSome_goScalar_float]
          exact (and_iff_left (Nat.zero_le _)).symm
      | _ => exact iff_of_true rfl ⟨rfl, Nat.zero_le _⟩

/-- The parameters of a task that Go can decode: they are two containers down. -/
def Decodable (params : List (Str × Json)) : Prop :=
  scalarsMembers finite params = true ∧ nestingMembers params + 2 ≤ maxNestingDepth

/-- The parameters that `json.dumps` can write in a command. -/
def Writable (rt : Runtime) (params : List (Str × Json)) : Prop :=
  scalarsMembers printable params = true ∧ nestingMembers params + 2 ≤ rt.recursionLimit

theorem isSome_goValue_params_iff (shortest : Python.Float → FloatLiteral)
    {params : List (Str × Json)} :
    (goValue shortest (maxNestingDepth - 1) (.obj params)).isSome = true ↔ Decodable params := by
  rw [isSome_goValue_iff, scalars, nesting, Decodable]
  have hdepth : maxNestingDepth = 10000 := rfl
  apply and_congr_right
  intro _
  omega

theorem nesting_command (id : String) (taskType : TaskType) (params : List (Str × Json)) :
    nesting (command id taskType params) = nestingMembers params + 2 := by
  simp [command, nesting, nestingMembers, nestingMember]

theorem scalars_printable_command (id : String) (taskType : TaskType)
    (params : List (Str × Json)) :
    scalars printable (command id taskType params) = scalarsMembers printable params := by
  simp [command, scalars, scalarsMembers, scalarsMember, printable]

/-- A command that can be written is sent, and no other. -/
theorem sentText_eq_some_iff {rt : Runtime} {id : String} {taskType : TaskType}
    {params : List (Str × Json)} {text : String} :
    sentText rt shortest id taskType params = some text ↔
      Writable rt params ∧ commandText shortest id taskType params = text := by
  rw [sentText, dumps?, nesting_command, scalars_printable_command]
  split
  · rename_i hwritable
    rw [Option.some.injEq, Writable, and_iff_right hwritable.symm]
    rfl
  · rename_i hnot
    exact iff_of_false (Option.some_ne_none _).symm fun h => hnot h.1.symm

theorem readCommand_eq_none_iff (id : String) (taskType : TaskType) {params : List (Str × Json)} :
    readCommand (commandText shortest id taskType params) = none ↔ ¬Decodable params := by
  rw [← isSome_goValue_params_iff shortest, readCommand_commandText]
  cases goValue shortest (maxNestingDepth - 1) (.obj params) <;> simp

/-- The agent reads a command with the id and the action that were sent. -/
theorem exists_readCommand_iff (shortest : Python.Float → FloatLiteral) (id : String)
    (taskType : TaskType) {params : List (Str × Json)} :
    (∃ cmd, readCommand (commandText shortest id taskType params) = some cmd ∧ cmd.id = id ∧
      cmd.action = taskType.value ∧
        cmd.params = goValue shortest (maxNestingDepth - 1) (.obj params)) ↔ Decodable params := by
  rw [← isSome_goValue_params_iff shortest, readCommand_commandText]
  cases goValue shortest (maxNestingDepth - 1) (.obj params) <;> simp

end Values

/-! ## The value at the other end -/

mutual

/-- Go has the value that Python has: the same integers, texts and keys, and literals of the same
doubles. -/
def SameValue : Json → JsonValue → Prop
  | .null, .null => True
  | .bool b, .bool b' => b = b'
  | .int n, .int n' => n = n'
  | .float x, .real negative digits exponent =>
      x.double = Float.double (.decimal negative digits exponent)
  | .str s, .text s' => s = Str.ofString s'
  | .arr items, .array items' => SameItems items items'
  | .obj members, .object members' => SameMembers members members'
  | _, _ => False
termination_by structural value => value

def SameItems : List Json → List JsonValue → Prop
  | [], [] => True
  | value :: rest, value' :: rest' => SameValue value value' ∧ SameItems rest rest'
  | _, _ => False
termination_by structural items => items

def SameMembers : List (Str × Json) → List (String × JsonValue) → Prop
  | [], [] => True
  | member :: rest, member' :: rest' => SameMember member member' ∧ SameMembers rest rest'
  | _, _ => False
termination_by structural members => members

def SameMember : Str × Json → String × JsonValue → Prop
  | (key, value), (key', value') => key = Str.ofString key' ∧ SameValue value value'
termination_by structural member => member

end

/-- The texts hold no surrogates. -/
def unicode : Json → Bool
  | .str s => s.encode.isSome
  | _ => true

theorem eq_ofString_goText_iff {s : Str} :
    s = Str.ofString (goText s) ↔ unicode (.str s) = true := by
  apply Iff.intro
  · intro h
    rw [unicode, h, Str.encode_ofString]
    rfl
  · intro h
    obtain ⟨t, ht⟩ := Option.isSome_iff_exists.mp h
    rw [Str.encode_eq_some_iff.mp ht, goText_ofString]

section Same

variable {go : Json → Option JsonValue}

theorem sameItems_iff {items : List Json} {items' : List JsonValue}
    (h : items.mapM go = some items')
    (hgo : ∀ value ∈ items, ∀ value', go value = some value' →
      (SameValue value value' ↔ scalars unicode value = true)) :
    SameItems items items' ↔ scalarsItems unicode items = true := by
  induction items generalizing items' with
  | nil =>
      cases h
      exact iff_of_true trivial rfl
  | cons value items ih =>
      rw [List.mapM_cons] at h
      cases hvalue : go value with
      | none => simp [hvalue] at h
      | some value' =>
          cases hitems : items.mapM go with
          | none => simp [hvalue, hitems] at h
          | some rest' =>
              have hcons : items' = value' :: rest' := by simpa [hvalue, hitems] using h.symm
              rw [hcons, SameItems, scalarsItems, Bool.and_eq_true,
                hgo value List.mem_cons_self value' hvalue,
                ih hitems fun v hv => hgo v (List.mem_cons_of_mem value hv)]

theorem sameMembers_iff {members : List (Str × Json)} {members' : List (String × JsonValue)}
    (h : members.mapM (goMember go) = some members')
    (hgo : ∀ member ∈ members, ∀ value', go member.2 = some value' →
      (SameValue member.2 value' ↔ scalars unicode member.2 = true)) :
    SameMembers members members' ↔ scalarsMembers unicode members = true := by
  induction members generalizing members' with
  | nil =>
      cases h
      exact iff_of_true trivial rfl
  | cons member members ih =>
      obtain ⟨key, value⟩ := member
      rw [List.mapM_cons] at h
      cases hvalue : go value with
      | none => simp [goMember, hvalue] at h
      | some value' =>
          cases hmembers : members.mapM (goMember go) with
          | none => simp [hmembers] at h
          | some rest' =>
              have hcons : members' = (goText key, value') :: rest' := by
                simpa [goMember, hvalue, hmembers] using h.symm
              rw [hcons, SameMembers, scalarsMembers, Bool.and_eq_true, SameMember, scalarsMember,
                Bool.and_eq_true, eq_ofString_goText_iff,
                hgo (key, value) List.mem_cons_self value' hvalue,
                ih hmembers fun m hm => hgo m (List.mem_cons_of_mem _ hm)]

end Same

theorem sameValue_float (repr : FloatRepr) {x : Python.Float} {value' : JsonValue}
    (h : goScalar repr.shortest (.float x) = some value') : SameValue (.float x) value' := by
  rw [goScalar] at h
  split at h
  · rename_i hfinite
    cases h
    exact (repr.denotes x hfinite).symm
  · cases h

/-- **What Go decodes is the value** exactly when no text of it holds a surrogate. -/
theorem sameValue_iff (repr : FloatRepr) {depth : Nat} {value : Json} {value' : JsonValue}
    (h : goValue repr.shortest depth value = some value') :
    SameValue value value' ↔ scalars unicode value = true := by
  induction depth generalizing value value' with
  | zero =>
      cases value with
      | null => cases h; exact iff_of_true trivial rfl
      | bool b => cases h; exact iff_of_true rfl rfl
      | int n => cases h; exact iff_of_true rfl rfl
      | float x => exact iff_of_true (sameValue_float repr h) rfl
      | str s => cases h; exact eq_ofString_goText_iff
      | arr items => cases h
      | obj members => cases h
  | succ depth ih =>
      cases value with
      | null => cases h; exact iff_of_true trivial rfl
      | bool b => cases h; exact iff_of_true rfl rfl
      | int n => cases h; exact iff_of_true rfl rfl
      | float x => exact iff_of_true (sameValue_float repr h) rfl
      | str s => cases h; exact eq_ofString_goText_iff
      | arr items =>
          rw [goValue] at h
          obtain ⟨items', hitems, rfl⟩ := Option.map_eq_some_iff.mp h
          rw [SameValue, scalars]
          exact sameItems_iff hitems fun v _ v' hv => ih hv
      | obj members =>
          rw [goValue] at h
          obtain ⟨members', hmembers, rfl⟩ := Option.map_eq_some_iff.mp h
          rw [SameValue, scalars]
          exact sameMembers_iff hmembers fun m _ v' hv => ih hv

/-- The agent reads a command, and every part of it is what was sent. -/
def ReadAsSent (text : String) (id : String) (taskType : TaskType) (params : List (Str × Json)) :
    Prop :=
  ∃ cmd value, readCommand text = some cmd ∧ cmd.id = id ∧ cmd.action = taskType.value ∧
    cmd.params = some value ∧ SameValue (.obj params) value

theorem readAsSent_iff (repr : FloatRepr) (id : String) (taskType : TaskType)
    {params : List (Str × Json)} :
    ReadAsSent (commandText repr.shortest id taskType params) id taskType params ↔
      Decodable params ∧ scalarsMembers unicode params = true := by
  have hsame : ∀ value', goValue repr.shortest (maxNestingDepth - 1) (.obj params) = some value' →
      (SameValue (.obj params) value' ↔ scalars unicode (.obj params) = true) :=
    fun _ => sameValue_iff repr
  rw [← isSome_goValue_params_iff repr.shortest, ReadAsSent, readCommand_commandText]
  generalize goValue repr.shortest (maxNestingDepth - 1) (.obj params) = decoded at hsame
  cases decoded with
  | none => simp
  | some value => simpa [scalars] using hsame value rfl

/-- **A command on the wire.**  It is sent when `json.dumps` can write its parameters.  The agent
reads it as it was sent when moreover Go can decode them and no text holds a surrogate, and it is no
command for the agent when Go cannot decode them. -/
theorem command_read_iff (rt : Runtime) (repr : FloatRepr) (id : String) (taskType : TaskType)
    (params : List (Str × Json)) :
    ((sentText rt repr.shortest id taskType params).isSome = true ↔ Writable rt params) ∧
      ∀ text ∈ sentText rt repr.shortest id taskType params,
        (ReadAsSent text id taskType params ↔
          Decodable params ∧ scalarsMembers unicode params = true) ∧
        (readCommand text = none ↔ ¬Decodable params) := by
  refine ⟨?_, ?_⟩
  · rw [Option.isSome_iff_exists]
    simp only [sentText_eq_some_iff, exists_and_left, exists_eq', and_true]
  · intro text htext
    obtain ⟨-, rfl⟩ := sentText_eq_some_iff.mp htext
    exact ⟨readAsSent_iff repr id taskType, readCommand_eq_none_iff id taskType⟩

/-! ## Results -/

def resultMembers (result : CommandResult) : List (String × JsonScalar) :=
  [("command_id", .text result.commandId), ("device_id", .text result.deviceId),
    ("status", .text result.status), ("output", .text result.output),
    ("timestamp", .int result.timestamp.val)]

/-- `json.Marshal(result)`. -/
def resultText (result : CommandResult) : String := marshal (resultMembers result)

theorem readable_int (n : GoInt) : (JsonScalar.int n.val).Readable := by
  have hfits := n.property
  have hle : n.val.natAbs < 10 ^ 19 := by
    simp only [fitsInt64, Bool.and_eq_true, decide_eq_true_eq] at hfits
    omega
  have hlength := (Nat.length_toDigits_le_iff (b := 10) (by decide) (by decide)).mpr hle
  exact hlength.trans (by decide)

theorem frameItems_resultText {rt : Runtime} (hlimit : 0 < rt.recursionLimit)
    (result : CommandResult) : frameItems rt (resultText result) =
      .ok ((resultMembers result).map fun m => (Str.ofString m.1, m.2.value)) := by
  have hnodup : ((resultMembers result).map Prod.fst).Nodup := by
    show ["command_id", "device_id", "status", "output", "timestamp"].Nodup
    decide
  have hreadable : ∀ m ∈ resultMembers result, m.2.Readable := by
    simp only [resultMembers, List.forall_mem_cons, List.not_mem_nil, false_implies,
      implies_true, and_true]
    exact ⟨trivial, trivial, trivial, trivial, readable_int result.timestamp⟩
  rw [frameItems, resultText, loads_marshal hlimit hnodup hreadable]

/-- What the server stores of an output. -/
def storedOutput (output : String) : String :=
  if maxOutputChars < output.toList.length then
    String.ofList (output.toList.take maxOutputChars) ++
      "\n...[truncated, total " ++ toString output.toList.length ++ " chars]"
  else output

theorem truncateOutput_ofString (output : String) :
    truncateOutput (Str.ofString output) = Str.ofString (storedOutput output) := by
  have hlength : (Str.ofString output).length = output.toList.length := List.length_map _
  unfold truncateOutput storedOutput
  rw [hlength]
  split
  · simp only [Str.ofString, String.toList_append, String.toList_ofList, List.map_append,
      List.map_take, List.append_assoc]
  · rfl

theorem lookup_scalars (members : List (String × JsonScalar)) (name : String) :
    lookup (members.map fun m => (Str.ofString m.1, m.2.value)) (Str.ofString name) =
      (members.lookup name).map JsonScalar.value := by
  induction members with
  | nil => rfl
  | cons m members ih =>
      obtain ⟨key, scalar⟩ := m
      rw [lookup] at ih ⊢
      rw [List.map_cons]
      by_cases hkey : name = key
      · rw [hkey, List.find?_cons_of_pos (by simp), List.lookup_cons_self]
        rfl
      · have hne : Str.ofString key ≠ Str.ofString name := fun heq =>
          hkey (Str.ofString_injective heq).symm
        rw [List.find?_cons_of_neg (by simpa using hne), List.lookup_cons, beq_false_of_ne hkey]
        exact ih

theorem get_scalars (members : List (String × JsonScalar)) (name : String) (default : Json) :
    get (members.map fun m => (Str.ofString m.1, m.2.value)) name default =
      ((members.lookup name).map JsonScalar.value).getD default := by
  rw [Python.get, lookup_scalars]

theorem bindParameter_ofString (s : String) :
    bindParameter (.str (Str.ofString s)) = .ok (.text s) := by
  rw [bindParameter, Sqlite.bind, Str.encode_ofString]

/-- **The server reads a result**: the row it names, its status, and its output cut to size. -/
theorem readReply_resultText {rt : Runtime} (hlimit : 0 < rt.recursionLimit)
    (results : TaskResults) {result : CommandResult} (hid : result.commandId ≠ "") :
    readReply rt results (resultText result) = .ok ((results.find? result.commandId).map
      fun row => ⟨row, result.status, some (storedOutput result.output)⟩) := by
  generalize hitems : ((resultMembers result).map fun m => (Str.ofString m.1, m.2.value)) = items
  have hcommand : get items "command_id" = .str (Str.ofString result.commandId) := by
    rw [← hitems, get_scalars]
    rfl
  have hstatus : get items "status" (.str (Str.ofString "unknown")) =
      .str (Str.ofString result.status) := by
    rw [← hitems, get_scalars]
    rfl
  have houtput : get items "output" (.str []) = .str (Str.ofString result.output) := by
    rw [← hitems, get_scalars]
    rfl
  have htruthy : Json.truthy (.str (Str.ofString result.commandId)) = true := by
    rw [Json.truthy, Str.ofString, List.isEmpty_map]
    simpa using hid
  have hrow : commandRow rt results items = .ok (results.find? result.commandId) := by
    rw [commandRow, hcommand, if_pos htruthy, bindParameter_ofString]
    rfl
  have hcolumns : replyColumns rt items =
      .ok (result.status, some (storedOutput result.output)) := by
    rw [replyColumns, shownOutput, houtput]
    dsimp only
    rw [hstatus, truncateOutput_ofString, bindParameter_ofString, bindParameter_ofString]
    rfl
  rw [readReply, frameItems_resultText hlimit, hitems]
  dsimp only
  rw [hrow]
  cases results.find? result.commandId with
  | none => rfl
  | some row =>
      dsimp only
      rw [hcolumns]
      rfl

/-! ## What an agent's answer does to the record of its device -/

/-- A text that `json.Marshal` writes as it is. -/
def Plain (s : String) : Prop := (s.toList.all fun c => quoteChar c = [c]) = true

/-- A machine whose names need no quoting, and whose reports are not cut. -/
structure PlainMachine where
  env : Env
  hostname_plain : Plain env.hostname
  ip_plain : Plain env.ip
  version_plain : Plain env.agentVersion
  status_short : (statusOutput env).toList.length ≤ maxOutputChars
  report_short : (HardwareReports.output env.reading.info).toList.length ≤ maxOutputChars

def statusMembers (env : Env) : List (String × JsonScalar) :=
  [("hostname", .text env.hostname), ("ip", .text env.ip), ("rearm_count", .int env.rearmCount.val),
    ("agent_version", .text env.agentVersion)]

theorem quote_of_plain {s : String} (h : Plain s) : quote s = '"' :: (s.toList ++ ['"']) := by
  have hchars : s.toList.flatMap quoteChar = s.toList := by
    have hchar : ∀ c ∈ s.toList, quoteChar c = [c] := by simpa [Plain] using h
    rw [List.flatMap_congr hchar]
    exact List.flatMap_singleton' s.toList
  rw [quote, hchars]

/-- The status and what `json.Marshal` would write, letter by letter. -/
theorem toList_status {hostname ip version rearmCount : String}
    (hhostname : quote hostname = '"' :: (hostname.toList ++ ['"']))
    (hip : quote ip = '"' :: (ip.toList ++ ['"']))
    (hversion : quote version = '"' :: (version.toList ++ ['"'])) :
    ("\x7b\"hostname\":\"" ++ hostname ++ "\",\"ip\":\"" ++ ip ++ "\",\"rearm_count\":" ++
      rearmCount ++
        ",\"agent_version\":\"" ++ version ++ "\"\x7d").toList =
      '{' :: (quote "hostname" ++ ':' :: quote hostname ++ ',' :: (quote "ip" ++ ':' :: quote ip ++
        ',' :: (quote "rearm_count" ++ ':' :: rearmCount.toList ++
          ',' :: (quote "agent_version" ++ ':' :: quote version ++ ['}'])))) := by
  rw [hhostname, hip, hversion]
  simp only [String.toList_append, List.append_assoc, List.cons_append]
  rfl

theorem statusOutput_eq_marshal (machine : PlainMachine) :
    statusOutput machine.env = marshal (statusMembers machine.env) := by
  apply String.toList_injective
  rw [marshal, String.toList_ofList]
  exact toList_status (quote_of_plain machine.hostname_plain) (quote_of_plain machine.ip_plain)
    (quote_of_plain machine.version_plain)

theorem loads_word {output : String} (h : beginsWord output = true) (limit : Nat) :
    loads limit output = .error .value := by
  have hscan : ∀ c cs, output.toList = c :: cs → isSpace c = false → c ≠ '\uFEFF' →
      scanOnce limit (c :: cs) = .error .value → loads limit output = .error .value := by
    intro c cs houtput hspace hmark hscan
    rw [loads, houtput]
    split
    · rename_i heq
      exact absurd (List.cons.inj heq).1 hmark
    · rw [skipSpace_of_ne hspace, hscan]
  unfold beginsWord at h
  split at h
  · rename_i houtput
    exact hscan _ _ houtput (by decide) (by decide) (by cases limit <;> rfl)
  · rename_i houtput
    exact hscan _ _ houtput (by decide) (by decide) (by cases limit <;> rfl)
  · rename_i houtput
    exact hscan _ _ houtput (by decide) (by decide) (by cases limit <;> rfl)
  · rename_i houtput
    exact hscan _ _ houtput (by decide) (by decide) (by cases limit <;> rfl)
  · rename_i houtput
    exact hscan _ _ houtput (by decide) (by decide) (by cases limit <;> rfl)
  · cases h

theorem beginsWord_take {output : String} (h : beginsWord output = true) (n : Nat) :
    beginsWord (String.ofList (output.toList.take (n + 2))) = true := by
  unfold beginsWord at h ⊢
  rw [String.toList_ofList]
  split at h
  · rename_i heq
    rw [heq]
    rfl
  · rename_i heq
    rw [heq]
    rfl
  · rename_i heq
    rw [heq]
    rfl
  · rename_i heq
    rw [heq]
    rfl
  · rename_i heq
    rw [heq]
    rfl
  · cases h

theorem beginsWord_storedOutput {output : String} (h : beginsWord output = true) :
    beginsWord (storedOutput output) = true := by
  unfold storedOutput
  split
  · apply beginsWord_append
    apply beginsWord_append
    apply beginsWord_append
    exact beginsWord_take h (maxOutputChars - 2)
  · exact h

theorem storedOutput_of_short {output : String}
    (h : output.toList.length ≤ maxOutputChars) : storedOutput output = output :=
  if_neg (Nat.not_lt.mpr h)

theorem sysinfoValues_of_none {rt : Runtime} {info : List (Str × Json)} {fields : List HwField}
    (h : ∀ f ∈ fields, lookup info (Str.ofString f.name) = none) :
    sysinfoValues rt info fields = .ok [] := by
  induction fields with
  | nil => rfl
  | cons f fields ih =>
      rw [sysinfoValues, h f List.mem_cons_self]
      exact ih fun g hg => h g (List.mem_cons_of_mem f hg)

/-- The status of a machine has no member for hardware. -/
theorem storeSysinfoOutput_status {rt : Runtime} (hlimit : 0 < rt.recursionLimit)
    (machine : PlainMachine) (devices : Devices) (deviceId : String) (now : DateTime) :
    storeSysinfoOutput rt devices deviceId (statusOutput machine.env) now = .ok devices := by
  have hnodup : ((statusMembers machine.env).map Prod.fst).Nodup := by
    show ["hostname", "ip", "rearm_count", "agent_version"].Nodup
    decide
  have hreadable : ∀ m ∈ statusMembers machine.env, m.2.Readable := by
    simp only [statusMembers, List.forall_mem_cons, List.not_mem_nil, false_implies,
      implies_true, and_true]
    exact ⟨trivial, trivial, readable_int machine.env.rearmCount, trivial⟩
  have hnone : ∀ f ∈ HwField.all, lookup ((statusMembers machine.env).map
      fun m => (Str.ofString m.1, m.2.value)) (Str.ofString f.name) = none := by
    intro f _
    rw [lookup_scalars]
    cases f <;> rfl
  rw [storeSysinfoOutput, statusOutput_eq_marshal, loads_marshal hlimit hnodup hreadable]
  dsimp only
  rw [sysinfoValues_of_none hnone]

theorem storeSysinfoOutput_report {rt : Runtime} (hlimit : 0 < rt.recursionLimit) (info : SysInfo)
    (devices : Devices) (deviceId : String) (now : DateTime) : ∃ devices',
    storeSysinfoOutput rt devices deviceId (HardwareReports.output info) now = .ok devices' := by
  obtain ⟨values, hvalues, _⟩ := HardwareReports.sysinfoValues_members rt info
  rw [storeSysinfoOutput, HardwareReports.loads_output hlimit]
  dsimp only
  rw [hvalues]
  cases values with
  | nil => exact ⟨devices, rfl⟩
  | cons value values => exact ⟨_, rfl⟩

/-- **An answer** never makes the second commit raise. -/
theorem storeReplySysinfo_answer {rt : Runtime} (hlimit : 0 < rt.recursionLimit)
    {machine : PlainMachine} {ended : Except String String}
    (hanswer : ∀ output, ended = .ok output → Answer machine.env output) (row : TaskResult)
    (devices : Devices) (deviceId : String) (now : DateTime) : ∃ devices',
    storeReplySysinfo rt devices deviceId
      ⟨row, (reported ended).1, some (storedOutput (reported ended).2)⟩ now = .ok devices' := by
  unfold storeReplySysinfo
  dsimp only
  split
  · cases ended with
    | error e =>
        rename_i hsuccess
        exact absurd hsuccess.1 (by simp [reported])
    | ok output =>
        show ∃ devices', storeSysinfoOutput rt devices deviceId (storedOutput output) now = _
        cases hanswer output rfl with
        | sentence output hword =>
            exact ⟨devices, by
              rw [storeSysinfoOutput, loads_word (beginsWord_storedOutput hword)]⟩
        | status =>
            rw [storedOutput_of_short machine.status_short]
            exact ⟨devices, storeSysinfoOutput_status hlimit machine devices deviceId now⟩
        | collection =>
            rw [storedOutput_of_short machine.report_short]
            exact storeSysinfoOutput_report hlimit _ devices deviceId now
  · exact ⟨devices, rfl⟩

/-- **The frame of an answer** is stored in the row it names, and the handler goes on. -/
theorem handleFrame_answer {rt : Runtime} (hlimit : 0 < rt.recursionLimit) (db : Database)
    (machine : PlainMachine) (p : Process) {cmd : Command} {row : TaskResult}
    (hrow : db.results.find? cmd.id = some row) (hid : cmd.id ≠ "") (deviceId : String)
    (now : DateTime) (broadcastOk : Bool) :
    let result := (handleCommand machine.env p cmd).2.2
    let reply : Reply := ⟨row, result.status, some (storedOutput result.output)⟩
    ∃ devices, handleFrame rt db deviceId (resultText result) now broadcastOk =
      (syncParentTask { commitReply db reply now with devices := devices } row.taskId,
        if broadcastOk then .ok () else .error .broadcast) := by
  intro result reply
  have hread : readReply rt db.results (resultText result) = .ok (some reply) := by
    have hnamed : result.commandId ≠ "" := hid
    rw [readReply_resultText hlimit db.results hnamed]
    show Except.ok ((db.results.find? cmd.id).map _) = _
    rw [hrow]
    rfl
  have hanswers : Answers machine.env (perform machine.env p cmd.params cmd.action) :=
    perform_answers
  obtain ⟨devices, hstored⟩ :=
    storeReplySysinfo_answer hlimit hanswers row db.devices deviceId now
  refine ⟨devices, ?_⟩
  rw [handleFrame, hread]
  dsimp only
  have hkept : (commitReply db reply now).devices = db.devices := rfl
  have hreply : storeReplySysinfo rt db.devices deviceId reply now = .ok devices := hstored
  rw [hkept, hreply]

/-- The row of a command after the answer to it. -/
def answered (row : TaskResult) (result : CommandResult) (now : DateTime) : TaskResult :=
  { row with
    status := result.status, output := some (storedOutput result.output), finishedAt := some now }

theorem find?_handleFrame_answer {rt : Runtime} (hlimit : 0 < rt.recursionLimit) (db : Database)
    (machine : PlainMachine) (p : Process) {cmd : Command} {row : TaskResult}
    (hrow : db.results.find? cmd.id = some row) (hid : cmd.id ≠ "") (deviceId : String)
    (now : DateTime) (broadcastOk : Bool) (id : String) :
    let result := (handleCommand machine.env p cmd).2.2
    (handleFrame rt db deviceId (resultText result) now broadcastOk).1.results.find? id =
      if id = cmd.id then some (answered row result now) else db.results.find? id := by
  intro result
  obtain ⟨devices, hframe⟩ :=
    handleFrame_answer hlimit db machine p hrow hid deviceId now broadcastOk
  have hkey : row.id = cmd.id := Table.key_of_find? hrow
  rw [hframe, syncParentTask_results]
  show (commitReply db _ now).results.find? id = _
  rw [find?_commitReply]
  dsimp only
  rw [hkey]
  split
  · rename_i hsame
    rw [hsame, hrow, Option.map_some]
    exact congrArg some (flushReply_row _ now)
  · rfl

/-- What becomes of the command of a row: it is sent, the agent of a machine reads it, and the frame
of its answer ends with the row as the agent reported it, and with every other row as it was.  Only
the broadcast to the pages may raise behind that. -/
def RoundTrip (rt : Runtime) (shortest : Python.Float → FloatLiteral) (db : Database)
    (row : TaskResult) (taskType : TaskType) (params : List (Str × Json)) (machine : PlainMachine)
    (p : Process) (deviceId : String) (now : DateTime) : Prop :=
  ∃ text ∈ sentText rt shortest row.id taskType params, ∃ cmd, readCommand text = some cmd ∧
    ∀ broadcastOk,
      let result := (handleCommand machine.env p cmd).2.2
      let after := handleFrame rt db deviceId (resultText result) now broadcastOk
      after.2 = (if broadcastOk then .ok () else .error .broadcast) ∧
        after.1.results.find? row.id = some (answered row result now) ∧
          ∀ id, id ≠ row.id → after.1.results.find? id = db.results.find? id

/-- **A command and its answer**: the round trip succeeds for every row whose parameters can be
written and decoded. -/
theorem round_trip (rt : Runtime) (hlimit : 0 < rt.recursionLimit)
    (shortest : Python.Float → FloatLiteral) (db : Database) (row : TaskResult)
    (hrow : row ∈ db.results) (hid : row.id ≠ "") (taskType : TaskType)
    (params : List (Str × Json)) (hwritable : Writable rt params) (hparams : Decodable params)
    (machine : PlainMachine) (p : Process) (deviceId : String) (now : DateTime) :
    RoundTrip rt shortest db row taskType params machine p deviceId now := by
  obtain ⟨cmd, hread, hcmd, -, -⟩ :=
    (exists_readCommand_iff shortest row.id taskType).mpr hparams
  have hfind : db.results.find? cmd.id = some row := by
    rw [hcmd]
    exact Table.find?_key hrow
  have hnamed : cmd.id ≠ "" := by rwa [hcmd]
  refine ⟨_, sentText_eq_some_iff.mpr ⟨hwritable, rfl⟩, cmd, hread, fun broadcastOk => ?_⟩
  refine ⟨?_, ?_, fun id hother => ?_⟩
  · obtain ⟨devices, hframe⟩ :=
      handleFrame_answer hlimit db machine p hfind hnamed deviceId now broadcastOk
    rw [hframe]
  · rw [find?_handleFrame_answer hlimit db machine p hfind hnamed, if_pos hcmd.symm]
  · rw [find?_handleFrame_answer hlimit db machine p hfind hnamed,
      if_neg fun heq => hother (heq.trans hcmd)]

/-- A machine on which everything succeeds. -/
def exampleEnv : Env where
  timestamp := ⟨1700000000, rfl⟩
  now := 0
  reading := ⟨HardwareReports.onlyProcessor, 0⟩
  hostname := "PC-01"
  ip := "10.0.0.7"
  rearmCount := ⟨2, rfl⟩
  agentVersion := "1.0.1"
  fold := id
  path := Downloads.plainPaths
  exeDir := "C:\\LanAgent"
  cause := fun _ => ""
  writeUnattend := none
  makeScriptDir := none
  writesFlag := true
  writeSetupComplete := none
  runSysprep := none
  runShutdown := none
  runReboot := none
  replies := []
  disk := Downloads.workingDisk
  storage := ⟨true, none, none⟩
  destination := none
  tempExe := "C:\\LanAgent\\LanAgent_new.exe"
  executable := none
  writeUpgradeBat := none
  startUpgradeBat := none
  sessionId := 1
  shownInfo := fun info =>
    ⟨[], [], info.cpuCores, info.memoryTotalMb, info.diskTotalGb, info.diskFreeGb, [], []⟩
  badString := ""
  sendMessage := none

def exampleMachine : PlainMachine where
  env := exampleEnv
  hostname_plain := rfl
  ip_plain := rfl
  version_plain := rfl
  status_short := by decide
  report_short := by decide

def exampleProcess : Process where
  cfg := Downloads.installed
  cache := none
  upgradeRunning := false
  needRecover := false

/-- A result that waits for the answer of its agent. -/
def sentRow : TaskResult :=
  { pendingResult "t-1" "r-1" "d-1" with status := "sent", startedAt := some 1 }

/-- `{"force": true}`. -/
def forced : List (Str × Json) := [(Str.ofString "force", .bool true)]

/-- The literal with the digits of the decimal and its exponent. -/
def decimalLiteral (negative : Bool) (digits : Nat) (exponent : Int) : FloatLiteral where
  negative := negative
  whole := Nat.toDigits 10 digits
  fraction := []
  exponent := 'e' :: (if exponent < 0 then '-' else '+') :: Nat.toDigits 10 exponent.natAbs
  whole_digits := (isWhole_toDigits digits).1
  whole_head := (isWhole_toDigits digits).2
  fraction_shape := .inl rfl
  exponent_shape := by
    refine .inr ⟨_, _, rfl, ?_, Nat.toDigits_ne_nil, (isWhole_toDigits _).1⟩
    split
    · exact .inl rfl
    · exact .inr rfl
  not_whole := .inr (List.cons_ne_nil _ _)

theorem decimalLiteral_value (negative : Bool) (digits : Nat) (exponent : Int) :
    (decimalLiteral negative digits exponent).value = .decimal negative digits exponent := by
  have hdigits : (decimalLiteral negative digits exponent).digits = digits := by
    show digitsValue (Nat.toDigits 10 digits ++ []) = digits
    rw [List.append_nil, digitsValue_toDigits]
  have hscale : (decimalLiteral negative digits exponent).scale = exponent := by
    show exponentValue ('e' :: (if exponent < 0 then '-' else '+') ::
      Nat.toDigits 10 exponent.natAbs) - 0 = exponent
    by_cases hneg : exponent < 0
    · rw [if_pos hneg, exponentValue, digitsValue_toDigits]
      omega
    · rw [if_neg hneg, exponentValue, digitsValue_toDigits]
      · omega
      · decide
  rw [FloatLiteral.value, hdigits, hscale]
  rfl

/-- A `float.__repr__` that writes a literal as it was read. -/
def exampleRepr : FloatRepr where
  shortest
    | .decimal negative digits exponent => decimalLiteral negative digits exponent
    | _ => decimalLiteral false 0 0
  denotes := by
    intro x hfinite
    cases x with
    | nan => cases hfinite
    | infinity negative => cases hfinite
    | decimal negative digits exponent =>
        exact congrArg Float.double (decimalLiteral_value negative digits exponent)

theorem round_trip_sysinfo : RoundTrip HardwareReports.defaultRuntime exampleRepr.shortest
    ⟨.empty, .empty, ⟨[sentRow], List.nodup_singleton _⟩⟩ sentRow .sysinfo forced exampleMachine
    exampleProcess "d-1" 2 :=
  round_trip HardwareReports.defaultRuntime (by decide) exampleRepr.shortest _ sentRow
    (List.mem_singleton_self _) (by decide) .sysinfo forced ⟨rfl, by decide⟩ ⟨rfl, by decide⟩
    exampleMachine exampleProcess "d-1" 2

end LanAgent
