import Workflow.Definition.Loading
import Workflow.Proofs.Definition.Wire

/-!
# Definitions on the wire and back

The wire form of a definition is what is written for it, in its portable form.  What is written has
everything of the value that the definition was read from and is read back (`Definition.faithful`,
`Definition.recovers`).  The portable form of what is written is what is written for the definition
with portable values (`Definition.toValue_portable`), so that is what the wire form is read as.

The check looks into two values only: what a condition tests and what a transformation forms its
value from may not be left out.  A portable form is left out exactly if the value is, except for
the empty byte string (`isLeftOut_portable`).  Apart from that one a definition and its portable
form have the same flaws (`Definition.portable_check`).
-/

namespace Workflow

open Shape (Recovers)

/-! ### Portable definitions -/

/-- A request with portable values. -/
def HttpConfig.portable (c : HttpConfig) : HttpConfig :=
  { c with headers := c.headers.map Value.portableFields, body := c.body.portable }

/-- The description of a function with portable values. -/
def FragmentSource.portable : FragmentSource → FragmentSource
  | .written s => .written s
  | .entry fields => .entry (Value.portableFields fields)

/-- An operation with portable values. -/
def Operation.portable (op : Operation) : Operation :=
  { op with
    fragment := op.fragment.map FragmentSource.portable
    arguments := op.arguments.map Value.portableFields }

/-- A condition with portable values. -/
def ConditionConfig.portable (c : ConditionConfig) : ConditionConfig :=
  { c with expression := c.expression.portable }

/-- An action with portable values. -/
def Action.portable : Action → Action
  | .http c => .http (c.map HttpConfig.portable)
  | .onchain op => .onchain (op.map Operation.portable)
  | .onchainBatch ops => .onchainBatch (ops.map (List.map Operation.portable))
  | .condition c => .condition (c.map ConditionConfig.portable)
  | .transform e => .transform (e.map Value.portable)

/-- A step with portable values. -/
def Step.portable (step : Step) : Step := { step with action := step.action.portable }

/-- A definition with portable values. -/
def Definition.portable (d : Definition) : Definition :=
  { d with
    steps := d.steps.map Step.portable
    outputMapping := Value.portableFields d.outputMapping }

@[simp] theorem portable_optionalText (s : Option String) :
    (optionalText s).portable = optionalText s := by
  cases s <;> rfl

@[simp] theorem portable_optionalRecord (o : Option (List (String × Value))) :
    (optionalRecord o).portable = optionalRecord (o.map Value.portableFields) := by
  cases o <;> rfl

@[simp] theorem portable_null : Value.null.portable = .null := rfl

@[simp] theorem portable_text (s : String) : (Value.text s).portable = .text s := rfl

theorem HttpConfig.toValue_portable (c : HttpConfig) : c.portable.toValue = c.toValue.portable := by
  simp [HttpConfig.toValue, HttpConfig.portable]

theorem Operation.toValue_portable (op : Operation) :
    op.portable.toValue = op.toValue.portable := by
  have hamount : ((op.amount.map Amount.toValue).getD .null).portable =
      (op.amount.map Amount.toValue).getD .null := by
    rcases op.amount with _ | _ | _ <;> rfl
  have hfragment : ((op.fragment.map FragmentSource.toValue).getD .null).portable =
      ((op.fragment.map FragmentSource.portable).map FragmentSource.toValue).getD .null := by
    rcases op.fragment with _ | _ | _ <;> rfl
  simp only [Operation.toValue, Operation.portable, Value.portable_record, List.map_cons,
    List.map_nil, portable_text, portable_optionalText, portable_optionalRecord, hamount, hfragment]

theorem ConditionConfig.toValue_portable (c : ConditionConfig) :
    c.portable.toValue = c.toValue.portable := by
  simp [ConditionConfig.toValue, ConditionConfig.portable]

theorem AllowedTarget.portable_toValue (t : AllowedTarget) : t.toValue.portable = t.toValue := by
  simp [AllowedTarget.toValue]

theorem Action.configValue_portable (action : Action) :
    action.portable.configValue = action.configValue.portable := by
  cases action with
  | http c => cases c <;> simp [Action.portable, configValue, HttpConfig.toValue_portable]
  | onchain op => cases op <;> simp [Action.portable, configValue, Operation.toValue_portable]
  | onchainBatch ops =>
    cases ops <;> simp [Action.portable, configValue, Operation.toValue_portable]
  | condition c =>
    cases c <;> simp [Action.portable, configValue, ConditionConfig.toValue_portable]
  | transform e => cases e <;> simp [Action.portable, configValue]

theorem Action.kind_portable (action : Action) : action.portable.kind = action.kind := by
  cases action <;> rfl

theorem Step.toValue_portable (step : Step) : step.portable.toValue = step.toValue.portable := by
  have hcommon : step.portable.commonFields = step.commonFields := by
    rw [commonFields, commonFields, portable, Action.kind_portable]
  have hportable : (Value.record step.commonFields).portable = .record step.commonFields := by
    have happroval : ((step.requiresApproval.map Value.bool).getD .null).portable =
        (step.requiresApproval.map Value.bool).getD .null := by
      cases step.requiresApproval <;> rfl
    simp only [commonFields, Value.portable_record, List.map_cons, List.map_nil, portable_text,
      portable_optionalRecord, happroval, Option.map_map, Function.comp_def,
      Value.portableFields_eq_map, List.map_map]
  rw [Step.toValue_eq, Step.toValue_eq, Value.portable_record, List.map_append,
    Value.record.inj ((Value.portable_record _).symm.trans hportable), hcommon]
  simp only [List.map_cons, List.map_nil, portable, Action.configValue_portable,
    Action.configure_of_kind step.action.kind_portable]

theorem scopeValue_portable (scope : Option (List AllowedTarget)) :
    (scopeValue scope).portable = scopeValue scope := by
  cases scope with
  | none => rfl
  | some targets =>
    simp [scopeValue, AllowedTarget.portable_toValue]

theorem Definition.toValue_portable (d : Definition) :
    d.portable.toValue = d.toValue.portable := by
  simp [toValue, portable, Step.toValue_portable, scopeValue_portable, Function.comp_def,
    Value.portableFields_eq_map]

/-! ### Checks -/

/-- What a step tests or forms a value from. -/
def Action.expression? : Action → Option Value
  | .condition c => c.map ConditionConfig.expression
  | .transform e => e
  | _ => none

/-- No condition and no transformation is the empty byte string, whose portable form is the empty
text and thus counts as left out. -/
def Definition.HasNoEmptyBytes (d : Definition) : Prop :=
  ∀ step ∈ d.steps, step.action.expression? ≠ some (.bytes [])

/-- A struct stands for a record or a list, as structs do that are written in a JSON text. -/
def Value.HasPlainForm (v : Value) : Prop :=
  ∀ kind fields wire, v = .struct kind fields wire →
    (∃ fs, wire = .record fs) ∨ ∃ vs, wire = .list vs

/-- All structs that are conditions or transformations stand for records or lists. -/
def Definition.HasPlainStructs (d : Definition) : Prop :=
  ∀ step ∈ d.steps, ∀ v, step.action.expression? = some v → v.HasPlainForm

theorem isLeftOut_portable {v : Value} (h : v ≠ .bytes []) (hplain : v.HasPlainForm) :
    isLeftOut v.portable = isLeftOut v := by
  cases v with
  | bytes bs =>
    have hne : ¬ Base64.symbols bs = [] := by
      match bs with
      | [] => exact absurd rfl h
      | [a] => exact List.cons_ne_nil _ _
      | [a, b] => exact List.cons_ne_nil _ _
      | a :: b :: c :: bs => exact List.cons_ne_nil _ _
    simp [Value.portable, isLeftOut, Base64.encode, hne]
  | struct kind fields wire =>
    -- What stands for the struct is there as much as the struct is.
    rcases hplain kind fields wire rfl with ⟨fs, rfl⟩ | ⟨vs, rfl⟩ <;> rfl
  | _ => rfl

theorem Step.portable_flaws {step : Step} (h : step.action.expression? ≠ some (.bytes []))
    (hplain : ∀ v, step.action.expression? = some v → v.HasPlainForm) :
    step.portable.flaws = step.flaws := by
  obtain ⟨header, action⟩ := step
  cases action with
  | http c => cases c <;> rfl
  | onchain op => cases op <;> rfl
  | onchainBatch ops =>
    match ops with
    | none => rfl
    | some [] => rfl
    | some (op :: ops) =>
      -- Operations keep their numbers and their targets.
      simp only [flaws, portable, Action.portable, Option.map_some, List.map_cons]
      rw [← List.map_cons, List.zipIdx_map, List.filterMap_map]
      rfl
  | condition c =>
    cases c with
    | none => rfl
    | some c =>
      have hc : c.expression ≠ .bytes [] := fun heq => h (congrArg some heq)
      simp only [flaws, portable, Action.portable, Option.map_some, ConditionConfig.portable,
        isLeftOut_portable hc (hplain _ rfl)]
  | transform e =>
    cases e with
    | none => rfl
    | some e =>
      have he : e ≠ .bytes [] := fun heq => h (congrArg some heq)
      simp only [flaws, portable, Action.portable, Option.map_some,
        isLeftOut_portable he (hplain _ rfl)]

theorem stepFlaws_portable {steps : List Step}
    (h : ∀ step ∈ steps, step.action.expression? ≠ some (.bytes []))
    (hplain : ∀ step ∈ steps, ∀ v, step.action.expression? = some v → v.HasPlainForm)
    (seen : List String) :
    stepFlaws seen (steps.map Step.portable) = stepFlaws seen steps := by
  induction steps generalizing seen with
  | nil => rfl
  | cons step steps ih =>
    obtain ⟨hstep, hsteps⟩ := List.forall_mem_cons.mp h
    obtain ⟨hstruct, hstructs⟩ := List.forall_mem_cons.mp hplain
    have hafter : step.portable.flawsAfter seen = step.flawsAfter seen := by
      rw [Step.flawsAfter, Step.portable_flaws hstep hstruct]
      rfl
    rw [List.map_cons, stepFlaws, hafter, ih hsteps hstructs]
    rfl

theorem collisionFlaws_portable (steps : List Step) (owners : List (String × String)) :
    collisionFlaws owners (steps.map Step.portable) = collisionFlaws owners steps := by
  induction steps generalizing owners with
  | nil => rfl
  | cons step steps ih =>
    simp only [List.map_cons, collisionFlaws, ih]
    rfl

theorem Step.portable_branchFlaws (step : Step) (ids : List String) :
    step.portable.branchFlaws ids = step.branchFlaws ids := by
  obtain ⟨header, action⟩ := step
  cases action with
  | condition c => cases c <;> rfl
  | _ => rfl

/-- Portable values do not change what is found in a definition. -/
theorem Definition.portable_check {d : Definition} (h : d.HasNoEmptyBytes)
    (hplain : d.HasPlainStructs) (version : Value) :
    d.portable.check version = d.check version := by
  have hids : d.portable.stepIds = d.stepIds := by
    rw [stepIds, portable, List.map_map]
    rfl
  have hsteps : d.portable.steps.isEmpty = d.steps.isEmpty := List.isEmpty_map
  have hbranches : d.portable.steps.flatMap (·.branchFlaws d.stepIds) =
      d.steps.flatMap (·.branchFlaws d.stepIds) := by
    rw [portable, List.flatMap_map]
    simp only [Step.portable_branchFlaws]
  rw [check, check, flaws, flaws, hids, hsteps, hbranches]
  simp only [portable, stepFlaws_portable h hplain, collisionFlaws_portable]
  rfl

/-! ### The round trip -/

/-- The wire form of a definition. -/
def Definition.wire (d : Definition) : Value := d.toValue.portable

theorem checkValue_of_read {v : Value} {d : Definition} (h : Definition.ofValue? v = .ok d)
    (version : Value) : checkValue v version = d.check version := by
  rw [checkValue, h]

theorem load_of_read {v : Value} {d : Definition} (h : Definition.ofValue? v = .ok d)
    (version : Value) : Definition.load v version = d.accept version := by
  cases v with
  | record fields =>
    have hvalue : definitionValue (.record fields) = .ok (.record fields) := rfl
    rw [Definition.load, hvalue, Outcome.ok_bind, h]
  | _ => nomatch h

theorem Definition.portable_accept {d : Definition} (h : d.HasNoEmptyBytes)
    (hplain : d.HasPlainStructs) (version : Value) :
    d.portable.accept version = (d.accept version).map portable := by
  rw [accept, accept, portable_check h hplain]
  split <;> rfl

/-- What holds between a value and the definition that is read from it. -/
structure Definition.RoundTrip (raw : Value) (d : Definition) : Prop where
  /-- With all its fields written out, the definition has everything that the value has, and beside
  that only defaults. -/
  completes : Completes schema raw d.toValue
  /-- The value is checked as the definition is. -/
  check_raw : ∀ version, checkValue raw version = d.check version
  /-- The value is loaded as the definition is. -/
  load_raw : ∀ version, load raw version = d.accept version
  /-- The wire form is read as the definition with portable values. -/
  read_wire : ofValue? d.wire = .ok d.portable
  /-- The wire form is checked as the definition is. -/
  check_wire : d.HasNoEmptyBytes → d.HasPlainStructs → ∀ version,
    checkValue d.wire version = d.check version
  /-- The wire form is loaded as the definition is, with portable values. -/
  load_wire : d.HasNoEmptyBytes → d.HasPlainStructs → ∀ version,
    load d.wire version = (d.accept version).map portable
  /-- For a portable value the wire form itself has everything that the value has and beside that
  only defaults, is read as the same definition, and is checked and loaded as it is. -/
  of_portable : raw.portable = raw →
    Completes schema raw d.wire ∧ ofValue? d.wire = .ok d ∧
      ∀ version, checkValue d.wire version = d.check version ∧
        load d.wire version = d.accept version

/-- **Definitions survive the wire**: what is read from a value is written with everything that the
value has, is read from there again, and fares the same in the check wherever it comes from. -/
theorem Definition.roundTrip {raw : Value} {d : Definition} (hnames : raw.hasDistinctNames = true)
    (hread : ofValue? raw = .ok d) : RoundTrip raw d := by
  have hkept := Definition.faithful hnames hread
  have hwire : ofValue? d.wire = .ok d.portable := by
    rw [wire, ← toValue_portable]
    exact Definition.recovers d.portable
  have hsame : raw.portable = raw → d.wire = d.toValue := hkept.portable_eq
  exact {
    completes := hkept.completes
    check_raw := checkValue_of_read hread
    load_raw := load_of_read hread
    read_wire := hwire
    check_wire := fun h hplain version =>
      (checkValue_of_read hwire version).trans (portable_check h hplain version)
    load_wire := fun h hplain version =>
      (load_of_read hwire version).trans (portable_accept h hplain version)
    of_portable := by
      intro hportable
      have hagain : ofValue? d.wire = .ok d := by
        rw [hsame hportable]
        exact Definition.recovers d
      refine ⟨?_, hagain, fun version =>
        ⟨checkValue_of_read hagain version, load_of_read hagain version⟩⟩
      rw [hsame hportable]
      exact hkept.completes }

/-- A batch with one call, its fields in an order of their own and most of them left out. -/
theorem Definition.roundTrip_batch :
    let raw : Value := .record [
      ("steps", .list [.record [
        ("onchain_batch", .record [("operations", .list [.record [("value", .int 3),
          ("target", .text "$.input.token")]])]),
        ("type", .text "onchain_batch"), ("id", .text "pay"), ("outputAs", .text "payment")]]),
      ("version", .text "1.0")]
    let d : Definition := {
      version := "1.0"
      steps := [{
        id := "pay"
        outputAs := "payment"
        action := .onchainBatch (some [{
          target := "$.input.token"
          amount := some (.number 3) }]) }] }
    raw.hasDistinctNames = true ∧ ofValue? raw = .ok d ∧ RoundTrip raw d :=
  ⟨rfl, rfl, Definition.roundTrip rfl rfl⟩

/-- Not every definition comes back from the wire as it was: the empty byte string comes back as the
empty text, and what has been valid is not valid any more. -/
theorem Definition.emptyBytes_flawed :
    let raw : Value := .record [
      ("version", .text "1.0"),
      ("steps", .list [.record [
        ("type", .text "transform"), ("id", .text "t"), ("outputAs", .text "t"),
        ("transform", .record [("expression", .bytes [])])]])]
    ∃ d, ofValue? raw = .ok d ∧ ofValue? d.wire ≠ .ok d ∧
      (checkValue raw (.text "1.0")).valid = true ∧
      (checkValue d.wire (.text "1.0")).valid = false := by
  refine ⟨_, rfl, fun h => ?_, rfl, rfl⟩
  -- The wire form is read as a definition with the empty text in the place of the byte string.
  have hsteps := congrArg Definition.steps (Except.ok.inj h)
  have haction := congrArg Step.action (List.cons.inj hsteps).1
  nomatch Option.some.inj (Action.transform.inj haction)

end Workflow
