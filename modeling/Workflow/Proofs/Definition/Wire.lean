import Workflow.Definition.Shape
import Workflow.Proofs.Shape

/-!
# The wire format of definitions

What every record of a definition declares, as schemas, and the two laws for how it is read and
written.

* `faithful`: a record that was read is written with everything that was given, in its place, and
  beside that only defaults.  There is one case for each declared field.
* `recovers`: a record that was written is read back, field by field in the order of writing.

A step is read by its kind.  The field that configures its action has the name of the kind, so the
kind must be settled before that field is met and stay so: `Step.overwrites` carries it along.
-/

namespace Workflow

open Shape (Exact Faithful Recovers exact_text exact_boolOrNull exact_anything exact_choice
  exact_map)

/-! ### Single values -/

theorem exact_textOrNull : Exact Shape.textOrNull optionalText := by
  intro v s
  cases v <;> cases s <;>
    simp [Shape.textOrNull, optionalText, Shape.mismatch, Shape.fail, eq_comm]

theorem exact_amount : Exact Amount.ofValue? fun a => (a.map Amount.toValue).getD .null := by
  intro v a
  rcases a with _ | _ | _ <;> cases v <;>
    simp [Amount.ofValue?, Amount.toValue, Shape.mismatch, Shape.fail, eq_comm]

theorem exact_fragment :
    Exact FragmentSource.ofValue? fun f => (f.map FragmentSource.toValue).getD .null := by
  intro v f
  rcases f with _ | _ | _ <;> cases v <;>
    simp [FragmentSource.ofValue?, FragmentSource.toValue, Shape.mismatch, Shape.fail, eq_comm]

theorem exact_choiceOrNull {α : Type} {choices : List (String × α)} {name : α → String}
    (hnames : ∀ choice ∈ choices, name choice.2 = choice.1)
    (hall : ∀ a, choices.lookup (name a) = some a) :
    Exact (Shape.choiceOrNull choices) fun o => optionalText (o.map name) := by
  intro v o
  cases v with
  | null => cases o <;> simp [Shape.choiceOrNull, optionalText]
  | text s =>
    have hlookup := fun a => Shape.lookup_eq_some_iff hnames hall (s := s) (a := a)
    cases h : choices.lookup s <;> cases o <;>
      simp [Shape.choiceOrNull, optionalText, Shape.fail, h, ← hlookup]
  | _ => cases o <;> simp [Shape.choiceOrNull, optionalText, Shape.mismatch, Shape.fail]

theorem exact_mapOrNull {α : Type} {read : Value → Shape.Reading α} {write : α → Value}
    (h : Exact read write) :
    Exact (Shape.mapOrNull read) fun o =>
      optionalRecord (o.map fun as => as.map fun field => (field.1, write field.2)) := by
  intro v o
  cases v with
  | null => cases o <;> simp [Shape.mapOrNull, optionalRecord]
  | record fs =>
    rw [Shape.mapOrNull, Outcome.map_eq_ok_iff]
    simp only [Shape.entries_eq_ok_iff h]
    cases o <;> simp [optionalRecord]
  | _ => cases o <;> simp [Shape.mapOrNull, optionalRecord, Shape.mismatch, Shape.fail]

theorem exact_values : Exact (Shape.mapOrNull Shape.anything) optionalRecord := by
  intro v o
  rw [exact_mapOrNull exact_anything v o]
  simp

theorem exact_method :
    Exact (Shape.choiceOrNull Method.choices) fun m => optionalText (m.map Method.name) :=
  exact_choiceOrNull (by decide) fun m => by cases m <;> rfl

theorem exact_onError : Exact (Shape.choice OnError.choices) fun policy => .text policy.name :=
  exact_choice (by decide) fun policy => by cases policy <;> rfl

/-! ### The declared fields -/

/-- A record with declared fields that are kept as they are and may all be left out. -/
def Schema.flat (defaults : List (String × Value)) : Schema :=
  .record (defaults.map fun field => (field.1, .whole)) defaults

/-- What a request declares. -/
def HttpConfig.schema : Schema :=
  .flat [("proxyId", .null), ("url", .null), ("method", .null), ("headers", .null),
    ("bodyMapping", .null)]

/-- What an operation declares. -/
def Operation.schema : Schema :=
  .flat [("target", .text ""), ("name", .null), ("value", .null), ("calldata", .null),
    ("selector", .null), ("abiFragment", .null), ("argsMapping", .null)]

/-- What a batch declares. -/
def batchSchema : Schema :=
  .record [("operations", .list Operation.schema)] [("operations", .list [])]

/-- What a condition declares. -/
def ConditionConfig.schema : Schema :=
  .flat [("expression", .null), ("onTrue", .null), ("onFalse", .null)]

/-- What a transformation declares. -/
def transformSchema : Schema := .flat [("expression", .null)]

/-- The fields of a step: those of all steps and the one that configures its action. -/
def Step.declared (own : String) (config : Schema) : List (String × Schema) :=
  [("type", .whole), ("id", .whole), ("name", .whole), ("outputAs", .whole), ("onError", .whole),
    ("inputMapping", .whole), ("requiresApproval", .whole), (own, config)]

/-- The defaults of a step's fields; the type has none. -/
def Step.defaults (own : String) : List (String × Value) :=
  [("id", .text ""), ("name", .text ""), ("outputAs", .text ""), ("onError", .text "fail"),
    ("inputMapping", .null), ("requiresApproval", .null), (own, .null)]

/-- What a step declares. -/
def Step.schemaFor (own : String) (config : Schema) : Schema :=
  .record (declared own config) (defaults own)

/-- What the configuration of an action declares. -/
def Action.configSchema : Action → Schema
  | .http _ => HttpConfig.schema
  | .onchain _ => Operation.schema
  | .onchainBatch _ => batchSchema
  | .condition _ => ConditionConfig.schema
  | .transform _ => transformSchema

/-- What a step declares, by its type. -/
def Step.schema : Schema :=
  .tagged "type"
    [("http", schemaFor "http" HttpConfig.schema),
      ("onchain", schemaFor "onchain" Operation.schema),
      ("onchain_batch", schemaFor "onchain_batch" batchSchema),
      ("condition", schemaFor "condition" ConditionConfig.schema),
      ("transform", schemaFor "transform" transformSchema)]

/-- What an allowed target declares; the address may not be left out. -/
def AllowedTarget.schema : Schema :=
  .record [("address", .whole), ("name", .whole), ("description", .whole)]
    [("name", .null), ("description", .null)]

/-- What a scope declares. -/
def scopeSchema : Schema :=
  .record [("allowedDynamicTargets", .list AllowedTarget.schema)]
    [("allowedDynamicTargets", .list [])]

/-- What a definition declares. -/
def Definition.schema : Schema :=
  .record
    [("version", .whole), ("steps", .list Step.schema), ("outputMapping", .whole),
      ("scopeConfig", scopeSchema)]
    [("version", .text ""), ("steps", .list []), ("outputMapping", .record []),
      ("scopeConfig", .null)]

/-! ### What is read is kept -/

theorem HttpConfig.faithful :
    Faithful HttpConfig.schema HttpConfig.ofValue? HttpConfig.toValue := by
  refine .record [] (fun name v set c c' hv hset h => ?_) rfl rfl rfl rfl
  unfold HttpConfig.setter at hset
  split at hset
  · exact exact_textOrNull.faithful.overwrites hv rfl (fun _ _ => ⟨_, rfl, rfl⟩) hset h
  · exact exact_textOrNull.faithful.overwrites hv rfl (fun _ _ => ⟨_, rfl, rfl⟩) hset h
  · exact exact_method.faithful.overwrites hv rfl (fun _ _ => ⟨_, rfl, rfl⟩) hset h
  · exact exact_values.faithful.overwrites hv rfl (fun _ _ => ⟨_, rfl, rfl⟩) hset h
  · exact exact_anything.faithful.overwrites hv rfl (fun _ _ => ⟨_, rfl, rfl⟩) hset h
  · nomatch hset

theorem Operation.faithful :
    Faithful Operation.schema Operation.ofValue? Operation.toValue := by
  refine .record [] (fun name v set op op' hv hset h => ?_) rfl rfl rfl rfl
  unfold Operation.setter at hset
  split at hset
  · exact exact_text.faithful.overwrites hv rfl (fun _ _ => ⟨_, rfl, rfl⟩) hset h
  · exact exact_textOrNull.faithful.overwrites hv rfl (fun _ _ => ⟨_, rfl, rfl⟩) hset h
  · exact exact_amount.faithful.overwrites hv rfl (fun _ _ => ⟨_, rfl, rfl⟩) hset h
  · exact exact_textOrNull.faithful.overwrites hv rfl (fun _ _ => ⟨_, rfl, rfl⟩) hset h
  · exact exact_textOrNull.faithful.overwrites hv rfl (fun _ _ => ⟨_, rfl, rfl⟩) hset h
  · exact exact_fragment.faithful.overwrites hv rfl (fun _ _ => ⟨_, rfl, rfl⟩) hset h
  · exact exact_values.faithful.overwrites hv rfl (fun _ _ => ⟨_, rfl, rfl⟩) hset h
  · nomatch hset

/-- The wire form of a batch. -/
def batchValue (ops : List Operation) : Value :=
  .record [("operations", .list (ops.map Operation.toValue))]

theorem batch_faithful :
    Faithful batchSchema (Shape.record true [] batchSetter []) batchValue := by
  refine .record [] (fun name v set ops ops' hv hset h => ?_) rfl rfl rfl rfl
  unfold batchSetter at hset
  split at hset
  · exact Operation.faithful.list.overwrites_alone hv rfl (fun _ => ⟨_, rfl, rfl⟩) hset h
  · nomatch hset

theorem ConditionConfig.faithful :
    Faithful ConditionConfig.schema (Shape.record true [] ConditionConfig.setter {})
      ConditionConfig.toValue := by
  refine .record [] (fun name v set c c' hv hset h => ?_) rfl rfl rfl rfl
  unfold ConditionConfig.setter at hset
  split at hset
  · exact exact_anything.faithful.overwrites hv rfl (fun _ _ => ⟨_, rfl, rfl⟩) hset h
  · exact exact_textOrNull.faithful.overwrites hv rfl (fun _ _ => ⟨_, rfl, rfl⟩) hset h
  · exact exact_textOrNull.faithful.overwrites hv rfl (fun _ _ => ⟨_, rfl, rfl⟩) hset h
  · nomatch hset

/-- The wire form of a transformation. -/
def transformValue (e : Value) : Value := .record [("expression", e)]

theorem transform_faithful :
    Faithful transformSchema (Shape.record true [] transformSetter .null) transformValue := by
  refine .record [] (fun name v set e e' hv hset h => ?_) rfl rfl rfl rfl
  unfold transformSetter at hset
  split at hset
  · exact exact_anything.faithful.overwrites_alone hv rfl (fun _ => ⟨_, rfl, rfl⟩) hset h
  · nomatch hset

theorem AllowedTarget.faithful :
    Faithful AllowedTarget.schema (Shape.record true ["address"] AllowedTarget.setter {})
      AllowedTarget.toValue := by
  refine .record [("address", .text "")] (fun name v set t t' hv hset h => ?_)
    rfl rfl rfl rfl
  unfold AllowedTarget.setter at hset
  split at hset
  · exact exact_text.faithful.overwrites hv rfl (fun _ _ => ⟨_, rfl, rfl⟩) hset h
  · exact exact_textOrNull.faithful.overwrites hv rfl (fun _ _ => ⟨_, rfl, rfl⟩) hset h
  · exact exact_textOrNull.faithful.overwrites hv rfl (fun _ _ => ⟨_, rfl, rfl⟩) hset h
  · nomatch hset

/-- The wire form of a scope that is there. -/
def targetsValue (targets : List AllowedTarget) : Value :=
  .record [("allowedDynamicTargets", .list (targets.map AllowedTarget.toValue))]

theorem scope_faithful : Faithful scopeSchema scopeOfValue? targetsValue := by
  refine .record [] (fun name v set targets targets' hv hset h => ?_) rfl rfl rfl rfl
  unfold scopeSetter at hset
  split at hset
  · exact AllowedTarget.faithful.list.overwrites_alone hv rfl (fun _ => ⟨_, rfl, rfl⟩) hset h
  · nomatch hset

/-! ### Steps -/

theorem Action.faithful (action : Action) :
    Faithful action.configSchema action.configure.2 Action.configValue := by
  cases action with
  | http => exact HttpConfig.faithful.orNull.map fun _ => rfl
  | onchain => exact Operation.faithful.orNull.map fun _ => rfl
  | onchainBatch =>
    refine batch_faithful.orNull.map fun ops => ?_
    cases ops <;> rfl
  | condition => exact ConditionConfig.faithful.orNull.map fun _ => rfl
  | transform =>
    refine transform_faithful.orNull.map fun e => ?_
    cases e <;> rfl

theorem Action.kind_of_configure {action action' : Action} {v : Value}
    (h : action.configure.2 v = .ok action') : action'.kind = action.kind := by
  cases action <;>
    · obtain ⟨_, -, h⟩ := Outcome.bind_eq_ok_iff.mp h
      obtain rfl := Except.ok.inj h
      rfl

/-- The kind of an action alone tells how it is configured. -/
theorem Action.configure_of_kind {a b : Action} (h : a.kind = b.kind) :
    a.configure = b.configure := by
  cases a <;> cases b <;> first | rfl | simp [Action.kind] at h

/-- What is written for the fields of all steps. -/
def Step.commonFields (step : Step) : List (String × Value) :=
  [("type", .text step.action.kind), ("id", .text step.id), ("name", .text step.name),
    ("outputAs", .text step.outputAs), ("onError", .text step.onError.name),
    ("inputMapping",
      optionalRecord (step.inputMapping.map fun fs => fs.map fun (n, s) => (n, .text s))),
    ("requiresApproval", (step.requiresApproval.map Value.bool).getD .null)]

theorem Step.toValue_eq (step : Step) :
    step.toValue =
      .record (step.commonFields ++ [(step.action.configure.1, step.action.configValue)]) := rfl

theorem Step.own_not_mem (action : Action) (step : Step) :
    action.configure.1 ∉ Fields.names step.commonFields := by
  cases action <;> simp [Action.configure, Step.commonFields, Fields.names]

theorem exact_texts :
    Exact (Shape.mapOrNull Shape.text) fun o =>
      optionalRecord (o.map fun fs => fs.map fun (n, s) => (n, .text s)) :=
  exact_mapOrNull exact_text

/-- Reading a field that all steps have overwrites it and leaves the action. -/
theorem Step.overwrites_header {α : Type} {read : Value → Shape.Reading α} {write : α → Value}
    (hread : Exact read write) {kind own name : String} {config : Schema} {v : Value}
    (hv : v.hasDistinctNames = true) (hname : Fields.get? (declared own config) name = some .whole)
    {update : Step → α → StepHeader} {set : Step → Value → Shape.Reading Step} {step step' : Step}
    (hwrite : ∀ a, read v = .ok a → ∃ written, step.toValue = .record written ∧
      (Step.mk (update step a) step.action).toValue =
        .record (Fields.put written name (write a)))
    (hset : some (fun step v => do return ⟨update step (← read v), step.action⟩) = some set)
    (hkind : step.action.kind = kind) (h : set step v = .ok step') :
    step'.action.kind = kind ∧
      Shape.Overwrites (declared own config) toValue name v step step' := by
  refine ⟨?_, hread.faithful.overwrites hv hname hwrite hset h⟩
  obtain rfl := Option.some.inj hset
  obtain ⟨a, -, hstep⟩ := Outcome.bind_eq_ok_iff.mp h
  obtain rfl := Except.ok.inj hstep
  exact hkind

/-- Reading a field of a step whose kind is settled overwrites it and leaves the kind. -/
theorem Step.overwrites {action : Action} {given : List (String × Value)}
    (htype : ∀ v, ("type", v) ∈ given → v = .text action.kind) {name : String} {v : Value}
    (hmem : (name, v) ∈ given) (hv : v.hasDistinctNames = true) {step step' : Step}
    {set : Step → Value → Shape.Reading Step} (hset : Step.setter action name = some set)
    (hkind : step.action.kind = action.kind) (h : set step v = .ok step') :
    step'.action.kind = action.kind ∧
      Shape.Overwrites (declared action.configure.1 action.configSchema) toValue name v step
        step' := by
  unfold Step.setter at hset
  split at hset
  · obtain rfl := Option.some.inj hset
    obtain rfl := Except.ok.inj h
    obtain rfl := htype v hmem
    -- The type is not read again; what is written for it is the settled kind.
    refine ⟨hkind, .whole, _, .text action.kind, rfl, rfl, ?_, .whole _, id⟩
    rw [← hkind]
    rfl
  · exact overwrites_header exact_text hv rfl (fun _ _ => ⟨_, rfl, rfl⟩) hset hkind h
  · exact overwrites_header exact_text hv rfl (fun _ _ => ⟨_, rfl, rfl⟩) hset hkind h
  · exact overwrites_header exact_text hv rfl (fun _ _ => ⟨_, rfl, rfl⟩) hset hkind h
  · exact overwrites_header exact_onError hv rfl (fun _ _ => ⟨_, rfl, rfl⟩) hset hkind h
  · exact overwrites_header exact_texts hv rfl (fun _ _ => ⟨_, rfl, rfl⟩) hset hkind h
  · exact overwrites_header exact_boolOrNull hv rfl (fun _ _ => ⟨_, rfl, rfl⟩) hset hkind h
  · simp only at hset
    split at hset
    case isFalse => nomatch hset
    next hown =>
    obtain rfl := hown
    -- The name of this field depends on the action that is written, before and after.
    have hconfig : Fields.get? (declared action.configure.1 action.configSchema)
        action.configure.1 = some action.configSchema := by
      cases action <;> rfl
    have hwritten : ∀ a, action.configure.2 v = .ok a → ∃ written,
        step.toValue = .record written ∧ (Step.mk step.toStepHeader a).toValue =
          .record (Fields.put written action.configure.1 a.configValue) := by
      intro a ha
      have hsame : a.kind = step.action.kind := (Action.kind_of_configure ha).trans hkind.symm
      have hput : Fields.put [(step.action.configure.1, step.action.configValue)]
          step.action.configure.1 a.configValue = [(step.action.configure.1, a.configValue)] := by
        rw [Fields.put, if_pos (beq_self_eq_true _)]
      have hcommon : (Step.mk step.toStepHeader a).commonFields = step.commonFields := by
        rw [commonFields, commonFields, hsame]
      refine ⟨_, step.toValue_eq, ?_⟩
      rw [← Action.configure_of_kind hkind,
        Fields.put_append_of_not_mem (step.own_not_mem step.action), hput, Step.toValue_eq,
        hcommon, Action.configure_of_kind hsame]
    refine ⟨?_, action.faithful.overwrites hv hconfig hwritten hset h⟩
    obtain rfl := Option.some.inj hset
    obtain ⟨a, ha, hstep⟩ := Outcome.bind_eq_ok_iff.mp h
    obtain rfl := Except.ok.inj hstep
    exact Action.kind_of_configure ha

theorem Step.readKind_eq_ok_iff {fields : List (String × Value)} {action : Action} :
    Step.readKind fields = .ok action ↔ ∃ kind, Fields.get? fields "type" = some (.text kind) ∧
      Action.choices.lookup kind = some action := by
  unfold Step.readKind
  cases htype : Fields.get? fields "type" with
  | none => simp [Shape.fail]
  | some v =>
    cases v with
    | text kind =>
      cases hlookup : Action.choices.lookup kind <;>
        simp [Shape.fail, Shape.within, Except.mapError, hlookup]
    | _ => simp [Shape.fail, Shape.within, Except.mapError]

/-- The action of a kind is of that kind and not configured. -/
theorem Action.of_lookup {kind : String} {action : Action}
    (h : Action.choices.lookup kind = some action) :
    action.kind = kind ∧ action.configValue = .null := by
  have hall : ∀ choice ∈ Action.choices,
      choice.2.kind = choice.1 ∧ choice.2.configValue = .null := by
    simp [Action.choices, Action.kind, Action.configValue]
  exact hall (kind, action) (Shape.mem_of_lookup h)

theorem Step.faithful : Faithful Step.schema Step.ofValue? Step.toValue := by
  intro v step hdistinct hread
  cases v with
  | record given =>
    obtain ⟨hgiven, hdistinct⟩ := Value.hasDistinctNames_record_iff.mp hdistinct
    obtain ⟨action, haction, hread⟩ := Outcome.bind_eq_ok_iff.mp hread
    obtain ⟨kind, htag, hlookup⟩ := readKind_eq_ok_iff.mp haction
    obtain ⟨rfl, hnull⟩ := Action.of_lookup hlookup
    obtain ⟨step', hfields, hread⟩ := Outcome.bind_eq_ok_iff.mp hread
    obtain ⟨_, -, hstep⟩ := Outcome.bind_eq_ok_iff.mp hread
    obtain rfl := Except.ok.inj hstep
    -- The kind was looked up under the name; as no name occurs twice, it is what the field holds.
    have htype : ∀ v, ("type", v) ∈ given → v = .text action.kind := by
      intro v hv
      exact Option.some.inj ((Fields.get?_of_mem hgiven hv).symm.trans htag)
    have hstart : (Step.mk {} action).toValue =
        .record (("type", .text action.kind) :: defaults action.configure.1) := by
      rw [Step.toValue_eq, hnull]
      rfl
    obtain ⟨written, hwritten, hfilled⟩ :=
      Shape.exists_filledIn_of_readFields (I := fun step => step.action.kind = action.kind)
        (fun name v set s s' hmem hset hkind h =>
          Step.overwrites htype hmem (hdistinct (name, v) hmem) hset hkind h)
        hgiven rfl hstart rfl hfields
    have hkept : Kept (schemaFor action.configure.1 action.configSchema) (.record given)
        (.record written) := by
      refine hfilled.kept_record rfl (fun name w hname hw => ?_)
        (Value.portable_record_eq_self_iff.mp rfl)
      have hne : "type" ≠ name := by
        rintro rfl
        nomatch hname.symm.trans htag
      rwa [Fields.get?_cons, if_neg hne] at hw
    rw [hwritten]
    refine ⟨.tagged htag ?_ hkept.completes, hkept.portable_eq⟩
    cases action <;> rfl
  | _ => nomatch hread

theorem exact_outputMapping : Exact (Shape.map Shape.anything) Value.record := by
  intro v as
  rw [exact_map exact_anything v as]
  simp

theorem Definition.faithful :
    Faithful Definition.schema Definition.ofValue? Definition.toValue := by
  have hscope : Faithful scopeSchema (Shape.orNull scopeOfValue?) scopeValue := by
    have h := scope_faithful.orNull
    intro v o hdistinct hread
    have hkept := h hdistinct hread
    cases o <;> exact hkept
  refine .record [] (fun name v set d d' hv hset h => ?_) rfl rfl rfl rfl
  unfold Definition.setter at hset
  split at hset
  · exact exact_text.faithful.overwrites hv rfl (fun _ _ => ⟨_, rfl, rfl⟩) hset h
  · exact Step.faithful.list.overwrites hv rfl (fun _ _ => ⟨_, rfl, rfl⟩) hset h
  · exact exact_outputMapping.faithful.overwrites hv rfl (fun _ _ => ⟨_, rfl, rfl⟩)
      hset h
  · exact hscope.overwrites hv rfl (fun _ _ => ⟨_, rfl, rfl⟩) hset h
  · nomatch hset

/-! ### What is written is read back -/

theorem HttpConfig.recovers : Recovers HttpConfig.ofValue? HttpConfig.toValue := by
  refine .record fun c => ⟨_, rfl, ?_, nofun⟩
  rw [exact_textOrNull.recovers.readFields_cons rfl _ c.proxyId,
    exact_textOrNull.recovers.readFields_cons rfl _ c.url,
    exact_method.recovers.readFields_cons rfl _ c.method,
    exact_values.recovers.readFields_cons rfl _ c.headers]
  rfl

theorem Operation.recovers : Recovers Operation.ofValue? Operation.toValue := by
  refine .record fun op => ⟨_, rfl, ?_, nofun⟩
  rw [exact_text.recovers.readFields_cons rfl _ op.target,
    exact_textOrNull.recovers.readFields_cons rfl _ op.name,
    exact_amount.recovers.readFields_cons rfl _ op.amount,
    exact_textOrNull.recovers.readFields_cons rfl _ op.calldata,
    exact_textOrNull.recovers.readFields_cons rfl _ op.selector,
    exact_fragment.recovers.readFields_cons rfl _ op.fragment,
    exact_values.recovers.readFields_cons rfl _ op.arguments]
  rfl

theorem batch_recovers : Recovers (Shape.record true [] batchSetter []) batchValue :=
  .record fun ops =>
    ⟨_, rfl, Shape.readFields_cons rfl (Operation.recovers.list ops) [], nofun⟩

theorem ConditionConfig.recovers :
    Recovers (Shape.record true [] ConditionConfig.setter {}) ConditionConfig.toValue := by
  refine .record fun c => ⟨_, rfl, ?_, nofun⟩
  rw [exact_anything.recovers.readFields_cons rfl _ c.expression,
    exact_textOrNull.recovers.readFields_cons rfl _ c.onTrue,
    exact_textOrNull.recovers.readFields_cons rfl _ c.onFalse]
  rfl

theorem transform_recovers :
    Recovers (Shape.record true [] transformSetter .null) transformValue :=
  .record fun _ => ⟨_, rfl, rfl, nofun⟩

theorem AllowedTarget.recovers :
    Recovers (Shape.record true ["address"] AllowedTarget.setter {}) AllowedTarget.toValue := by
  refine .record fun t => ⟨_, rfl, ?_, by simp [Fields.names]⟩
  rw [exact_text.recovers.readFields_cons rfl _ t.address,
    exact_textOrNull.recovers.readFields_cons rfl _ t.name,
    exact_textOrNull.recovers.readFields_cons rfl _ t.description]
  rfl

theorem scope_recovers : Recovers scopeOfValue? targetsValue :=
  .record fun targets =>
    ⟨_, rfl, Shape.readFields_cons rfl (AllowedTarget.recovers.list targets) [], nofun⟩

theorem Action.configure_configValue (action : Action) :
    action.configure.2 action.configValue = .ok action := by
  have hread : ∀ {α : Type} {read : Value → Shape.Reading α} {v : Value} {a : α} (f : α → Action),
      read v = .ok a → (do return f (← read v) : Shape.Reading Action) = .ok (f a) :=
    fun f h => Outcome.bind_eq_ok_iff.mpr ⟨_, h, rfl⟩
  cases action with
  | http c => exact hread .http (HttpConfig.recovers.orNull (fun _ => ⟨_, rfl⟩) c)
  | onchain op => exact hread .onchain (Operation.recovers.orNull (fun _ => ⟨_, rfl⟩) op)
  | onchainBatch ops =>
    have hops := batch_recovers.orNull (fun _ => ⟨_, rfl⟩) ops
    cases ops <;> exact hread .onchainBatch hops
  | condition c => exact hread .condition (ConditionConfig.recovers.orNull (fun _ => ⟨_, rfl⟩) c)
  | transform e =>
    have he := transform_recovers.orNull (fun _ => ⟨_, rfl⟩) e
    cases e <;> exact hread .transform he

theorem Action.exists_lookup (action : Action) :
    ∃ blank, Action.choices.lookup action.kind = some blank ∧ action.kind = blank.kind := by
  cases action <;> exact ⟨_, rfl, rfl⟩

theorem Step.setter_own (action : Action) :
    Step.setter action action.configure.1 =
      some fun step v => do return { step with action := ← action.configure.2 v } := by
  cases action <;> rfl

theorem Step.recovers : Recovers Step.ofValue? Step.toValue := by
  intro step
  obtain ⟨blank, hlookup, hkind⟩ := step.action.exists_lookup
  have htype : readKind
      (step.commonFields ++ [(step.action.configure.1, step.action.configValue)]) = .ok blank :=
    readKind_eq_ok_iff.mpr ⟨step.action.kind, rfl, hlookup⟩
  have hfields : Shape.readFields true (setter blank) (Step.mk {} blank)
      (step.commonFields ++ [(step.action.configure.1, step.action.configValue)]) = .ok step := by
    have hown := setter_own blank
    rw [← Action.configure_of_kind hkind] at hown
    simp only [commonFields, List.cons_append, List.nil_append]
    rw [Shape.readFields_cons rfl rfl, exact_text.recovers.readFields_cons rfl _ step.id,
      exact_text.recovers.readFields_cons rfl _ step.name,
      exact_text.recovers.readFields_cons rfl _ step.outputAs,
      exact_onError.recovers.readFields_cons rfl _ step.onError,
      exact_texts.recovers.readFields_cons rfl _ step.inputMapping,
      exact_boolOrNull.recovers.readFields_cons rfl _ step.requiresApproval,
      Shape.readFields_cons hown
        (Outcome.bind_eq_ok_iff.mpr ⟨_, step.action.configure_configValue, rfl⟩)]
    rfl
  exact Outcome.bind_eq_ok_iff.mpr
    ⟨blank, htype, Outcome.bind_eq_ok_iff.mpr ⟨step, hfields, rfl⟩⟩

theorem Definition.recovers : Recovers Definition.ofValue? Definition.toValue := by
  have hscope : Recovers (Shape.orNull scopeOfValue?) scopeValue := by
    intro o
    cases o with
    | none => rfl
    | some targets => exact scope_recovers.orNull (fun _ => ⟨_, rfl⟩) (some targets)
  refine .record fun d => ⟨_, rfl, ?_, nofun⟩
  rw [exact_text.recovers.readFields_cons rfl _ d.version,
    Step.recovers.list.readFields_cons rfl _ d.steps,
    exact_outputMapping.recovers.readFields_cons rfl _ d.outputMapping,
    hscope.readFields_cons rfl _ d.scope]
  rfl

end Workflow
