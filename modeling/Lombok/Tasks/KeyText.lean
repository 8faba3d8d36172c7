import Lombok.Core.JsonText
import Lombok.Tasks.IdempotencyKey

/-!
Contract: what two tasks with one idempotency key have in common.

The kind of the invocation stands in front of the key in plain text, so tasks of
different kinds never meet. Within a kind the hashed text determines owner, task
identifier and trigger data; hashed texts that do not collide are a hypothesis.

Does not own: which tasks are created, or how often.
-/

namespace Lombok.Tasks

open Lombok.Core Lombok.Library

/-! ### The hashed text -/

/-- The text `buildTaskIdempotencyKey` hashes. -/
def keyText (ownerId taskIdentifier : String) (triggerData : Json) : String :=
  Json.stringify
    (.obj [("ownerId", .str ownerId), ("taskIdentifier", .str taskIdentifier),
      ("triggerData", triggerData)])

theorem idempotencyKeyOf_eq (env : Env) (kind ownerId taskIdentifier : String)
    (triggerData : Json) :
    idempotencyKeyOf env kind ownerId taskIdentifier triggerData =
      kind ++ ":" ++ env.hashData (keyText ownerId taskIdentifier triggerData) :=
  rfl

theorem keyText_injective {ownerId otherId taskIdentifier otherIdentifier : String}
    {triggerData otherData : Json} (plain : triggerData.isPlain = true)
    (otherPlain : otherData.isPlain = true)
    (same : keyText ownerId taskIdentifier triggerData =
      keyText otherId otherIdentifier otherData) :
    ownerId = otherId ∧ taskIdentifier = otherIdentifier ∧ triggerData = otherData := by
  have sameJson := Json.stringify_injective
    (by simp [Json.isPlain, Json.isPlainFields, plain])
    (by simp [Json.isPlain, Json.isPlainFields, otherPlain]) same
  grind

/-! ### The kind in front -/

/-- Texts without the separator are told apart from what follows it. -/
theorem cut_separator {α : Type} {separator : α} {text other rest following : List α}
    (absent : separator ∉ text) (otherAbsent : separator ∉ other)
    (same : text ++ separator :: rest = other ++ separator :: following) :
    text = other ∧ rest = following := by
  induction text generalizing other with
  | nil =>
      cases other with
      | nil => exact ⟨rfl, (List.cons.inj same).2⟩
      | cons head others =>
          have isSeparator := (List.cons.inj same).1
          grind
  | cons head tail inductionHypothesis =>
      cases other with
      | nil =>
          have isSeparator := (List.cons.inj same).1
          grind
      | cons otherHead others =>
          obtain ⟨sameHead, sameTail⟩ := List.cons.inj same
          obtain ⟨sameText, sameRest⟩ := inductionHypothesis
            (fun member => absent (List.mem_cons_of_mem _ member))
            (fun member => otherAbsent (List.mem_cons_of_mem _ member)) sameTail
          exact ⟨by rw [sameHead, sameText], sameRest⟩

theorem kind_no_colon (context : InvokeContext) : ':' ∉ context.kind.toList := by
  cases context <;> simp [InvokeContext.kind]

/-- Equal keys have equal kinds and equal hashes. -/
theorem sameKey_kind {env : Env} {context otherContext : InvokeContext}
    {ownerId otherId taskIdentifier otherIdentifier : String} {triggerData otherData : Json}
    (same : idempotencyKeyOf env context.kind ownerId taskIdentifier triggerData =
      idempotencyKeyOf env otherContext.kind otherId otherIdentifier otherData) :
    context.kind = otherContext.kind ∧
      env.hashData (keyText ownerId taskIdentifier triggerData) =
        env.hashData (keyText otherId otherIdentifier otherData) := by
  rw [idempotencyKeyOf_eq, idempotencyKeyOf_eq] at same
  have sameText := congrArg String.toList same
  grind [String.toList_append, cut_separator, kind_no_colon, String.toList_injective]

/-! ### Plain trigger data -/

theorem ofNat_injective {value other : Nat} (same : Json.ofNat value = Json.ofNat other) :
    value = other := by
  unfold Json.ofNat at same
  rw [Json.num.injEq, Nat.toString_eq_repr, Nat.toString_eq_repr, ← String.toList_inj,
    Nat.toList_repr, Nat.toList_repr] at same
  have read := congrArg (fun digits => Nat.ofDigitChars 10 digits 0) same
  simpa only [Nat.ofDigitChars_toDigits (b := 10) (by omega : 1 < 10) (by omega :
      10 ≤ 10)] using read

theorem isPlain_ofOption_str (text : Option String) :
    (Json.ofOption (text.map .str)).isPlain = true := by
  cases text <;> rfl

theorem ofOption_str_injective {text other : Option String}
    (same : Json.ofOption (text.map .str) = Json.ofOption (other.map .str)) : text = other := by
  cases text with
  | none =>
      cases other with
      | none => rfl
      | some value => cases same
  | some value =>
      cases other with
      | none => cases same
      | some otherValue =>
          cases same
          rfl

theorem scheduleUnit_name_injective {unit other : ScheduleUnit} (same : unit.name = other.name) :
    unit = other := by
  cases unit <;> cases other <;> first | rfl | exact absurd same (by decide)

theorem isPlain_scheduleConfig (config : ScheduleConfig) : config.toJson.isPlain = true := by
  cases config with
  | interval every unit =>
      simp [ScheduleConfig.toJson, Json.isPlain, Json.isPlainFields, Json.isPlain_ofNat]
  | cron expression timezone =>
      cases timezone <;>
        simp [ScheduleConfig.toJson, Fields.ofOptions, Json.isPlain, Json.isPlainFields]

theorem scheduleConfig_toJson_injective {config other : ScheduleConfig}
    (same : config.toJson = other.toJson) : config = other := by
  cases config with
  | interval every unit =>
      cases other with
      | interval otherEvery otherUnit =>
          simp only [ScheduleConfig.toJson, Json.obj.injEq, List.cons.injEq, Prod.mk.injEq,
            Json.str.injEq, true_and, and_true] at same
          rw [ofNat_injective same.1, scheduleUnit_name_injective same.2]
      | cron expression timezone =>
          cases timezone <;> simp [ScheduleConfig.toJson, Fields.ofOptions] at same
  | cron expression timezone =>
      cases other with
      | interval otherEvery otherUnit =>
          cases timezone <;> simp [ScheduleConfig.toJson, Fields.ofOptions] at same
      | cron otherExpression otherTimezone =>
          cases timezone <;> cases otherTimezone <;>
            simp_all [ScheduleConfig.toJson, Fields.ofOptions]

/-! ### Keys of schedule tasks -/

def scheduleData (timestampBucket triggerKey : String) (config : ScheduleConfig) : Json :=
  .obj [("triggerKey", .str triggerKey), ("config", config.toJson),
    ("timestampBucket", .str timestampBucket)]

theorem isPlain_scheduleData (timestampBucket triggerKey : String) (config : ScheduleConfig) :
    (scheduleData timestampBucket triggerKey config).isPlain = true := by
  simp [scheduleData, Json.isPlain, Json.isPlainFields, isPlain_scheduleConfig]

theorem scheduleData_injective {timestampBucket otherBucket triggerKey otherKey : String}
    {config otherConfig : ScheduleConfig}
    (same : scheduleData timestampBucket triggerKey config =
      scheduleData otherBucket otherKey otherConfig) :
    timestampBucket = otherBucket ∧ triggerKey = otherKey ∧ config = otherConfig := by
  simp only [scheduleData, Json.obj.injEq, List.cons.injEq, Prod.mk.injEq, Json.str.injEq,
    true_and, and_true] at same
  exact ⟨same.2.2, same.1, scheduleConfig_toJson_injective same.2.1⟩

/-! ### Keys of progress children -/

def progressData (parentTaskId : String) (onProgressHandlerIndex : Nat)
    (code timestamp : Option String) : Json :=
  .obj [("parentTaskId", .str parentTaskId),
    ("onProgressHandlerIndex", .ofNat onProgressHandlerIndex),
    ("progressReportCode", .ofOption (code.map .str)),
    ("progressReportTimestamp", .ofOption (timestamp.map .str))]

theorem isPlain_progressData (parentTaskId : String) (index : Nat)
    (code timestamp : Option String) :
    (progressData parentTaskId index code timestamp).isPlain = true := by
  simp [progressData, Json.isPlain, Json.isPlainFields, Json.isPlain_ofNat, isPlain_ofOption_str]

theorem progressData_injective {parentTaskId otherTaskId : String} {index otherIndex : Nat}
    {code otherCode timestamp otherTimestamp : Option String}
    (same : progressData parentTaskId index code timestamp =
      progressData otherTaskId otherIndex otherCode otherTimestamp) :
    parentTaskId = otherTaskId ∧ index = otherIndex ∧ code = otherCode ∧
      timestamp = otherTimestamp := by
  simp only [progressData, Json.obj.injEq, List.cons.injEq, Prod.mk.injEq, Json.str.injEq,
    true_and, and_true] at same
  grind [ofNat_injective, ofOption_str_injective]

/-! ### Rows with keys -/

/-- The row's key begins with the kind of its invocation. -/
def KindFirst (task : Task) : Prop :=
  ∃ hash, task.idempotencyKey = task.invocation.context.kind ++ ":" ++ hash

theorem kindFirst_build (env : Env) (requestId : String) (task : Task) :
    KindFirst { task with idempotencyKey := buildTaskIdempotencyKey env requestId task } :=
  ⟨_, rfl⟩

theorem KindFirst.key_ne {task : Task} (kindFirst : KindFirst task) {env : Env}
    {context : InvokeContext} (otherKind : task.invocation.context.kind ≠ context.kind)
    (ownerId taskIdentifier : String) (triggerData : Json) :
    task.idempotencyKey ≠ idempotencyKeyOf env context.kind ownerId taskIdentifier triggerData := by
  intro same
  obtain ⟨hash, keyEqual⟩ := kindFirst
  rw [keyEqual, idempotencyKeyOf_eq] at same
  have sameText := congrArg String.toList same
  grind [String.toList_append, cut_separator, kind_no_colon, String.toList_injective]

end Lombok.Tasks
