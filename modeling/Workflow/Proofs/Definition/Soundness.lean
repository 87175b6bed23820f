import Workflow.Proofs.Definition.OutputKeys
import Mathlib.Logic.Basic

/-!
# Sound definitions

The structural rules of a definition, said of what the definition holds and not of how it is
checked: `Definition.Sound`.  The check finds nothing exactly in the definitions that keep them
(`check_valid_iff`).

* What a single step needs depends on its action alone (`Action.Complete`), and the check of the
  step finds nothing exactly if it is there (`Step.flaws_eq_nil_iff`).
* The check gives each output key to the first step that claims it.  Between steps with ids of
  their own it finds nothing exactly if no two of them share an id or an alias
  (`collisionFlaws_eq_nil_iff_disjoint`).
* A label of a condition names a step exactly if the check has met its id
  (`Step.branchFlaws_eq_nil_iff`, `mem_stepIds_iff`).
-/

namespace Workflow

/-- Nothing is found where the condition of a finding does not hold. -/
theorem finding_eq_nil_iff {flaw : Flaw} {c : Prop} [Decidable c] :
    (if c then [flaw] else []) = [] ↔ ¬ c := by
  by_cases hc : c
  · simp [hc]
  · simp [hc]

/-! ### Rules of single steps -/

/-- A text that is there and not empty. -/
def IsGiven (s : Option String) : Prop := ∃ t, s = some t ∧ t ≠ ""

theorem nonempty?_eq_some_iff {s : Option String} {t : String} :
    nonempty? s = some t ↔ s = some t ∧ t ≠ "" := by
  rw [nonempty?, Option.filter_eq_some_iff, Bool.not_eq_true', String.isEmpty_eq_false_iff]

theorem isGiven_iff {s : Option String} : IsGiven s ↔ ∃ t, nonempty? s = some t := by
  simp only [IsGiven, nonempty?_eq_some_iff]

theorem isLeftOut_eq_true_iff (v : Value) : isLeftOut v = true ↔ v = .null ∨ v = .text "" := by
  cases v with
  | null => simp [isLeftOut]
  | text s => simp [isLeftOut]
  | _ => simp [isLeftOut]

/-- An action with everything that it needs. -/
inductive Action.Complete : Action → Prop where
  /-- A request goes either to a stored endpoint or to a URL. -/
  | http {config : HttpConfig} (h : Xor (IsGiven config.proxyId) (IsGiven config.url)) :
    Complete (.http (some config))
  /-- A call has a target. -/
  | onchain {op : Operation} (h : op.target ≠ "") : Complete (.onchain (some op))
  /-- A batch holds calls, all of them with a target. -/
  | onchainBatch {ops : List Operation} (hne : ops ≠ []) (h : ∀ op ∈ ops, op.target ≠ "") :
    Complete (.onchainBatch (some ops))
  /-- There is something to test. -/
  | condition {config : ConditionConfig}
    (h : ¬ (config.expression = .null ∨ config.expression = .text "")) :
    Complete (.condition (some config))
  /-- There is something to form a value from. -/
  | transform {e : Value} (h : ¬ (e = .null ∨ e = .text "")) : Complete (.transform (some e))

/-- Operations have targets one by one, whatever their numbers are. -/
theorem batchFlaws_eq_nil_iff (id : String) (ops : List Operation) :
    (ops.zipIdx.filterMap fun (op, index) =>
      if op.target.isEmpty then some (Flaw.batchNoTarget id index) else none) = [] ↔
        ∀ op ∈ ops, op.target ≠ "" := by
  have hone : ∀ numbered : Operation × Nat,
      (if numbered.1.target.isEmpty then some (Flaw.batchNoTarget id numbered.2) else none) = none
        ↔ numbered.1.target ≠ "" := by
    intro numbered
    rw [ite_eq_right_iff, String.isEmpty_iff]
    simp only [reduceCtorEq, imp_false]
  rw [List.filterMap_eq_nil_iff]
  simp only [hone]
  -- The numbers drop out, as the rule is about the operations alone.
  rw [← List.forall_mem_map (f := Prod.fst) (P := fun op : Operation => op.target ≠ ""),
    List.zipIdx_map_fst]

theorem Step.flaws_http (step : Step) {config : HttpConfig}
    (h : step.action = .http (some config)) :
    step.flaws = [] ↔ Xor (IsGiven config.proxyId) (IsGiven config.url) := by
  rw [isGiven_iff, isGiven_iff]
  simp only [Step.flaws, h]
  cases hproxy : nonempty? config.proxyId with
  | none =>
    cases hurl : nonempty? config.url with
    | none => simp
    | some url => simp
  | some id =>
    cases hurl : nonempty? config.url with
    | none => simp
    | some url => simp

/-- The check of a single step finds nothing exactly if its action is complete. -/
theorem Step.flaws_eq_nil_iff (step : Step) : step.flaws = [] ↔ step.action.Complete := by
  cases haction : step.action with
  | http config =>
    cases config with
    | none =>
      simp only [Step.flaws, haction]
      exact ⟨nofun, nofun⟩
    | some config =>
      rw [step.flaws_http haction]
      exact ⟨.http, fun | .http h => h⟩
  | onchain op =>
    simp only [Step.flaws, haction]
    cases op with
    | none => exact ⟨nofun, nofun⟩
    | some op =>
      rw [finding_eq_nil_iff, String.isEmpty_iff]
      exact ⟨.onchain, fun | .onchain h => h⟩
  | onchainBatch ops =>
    simp only [Step.flaws, haction]
    match ops with
    | none => exact ⟨nofun, nofun⟩
    | some [] => exact ⟨nofun, fun | .onchainBatch hne _ => absurd rfl hne⟩
    | some (op :: ops) =>
      refine (batchFlaws_eq_nil_iff step.id (op :: ops)).trans ?_
      exact ⟨.onchainBatch (List.cons_ne_nil op ops), fun | .onchainBatch _ h => h⟩
  | condition config =>
    simp only [Step.flaws, haction]
    cases config with
    | none => exact ⟨nofun, nofun⟩
    | some config =>
      rw [finding_eq_nil_iff, isLeftOut_eq_true_iff]
      exact ⟨.condition, fun | .condition h => h⟩
  | transform e =>
    simp only [Step.flaws, haction]
    cases e with
    | none => exact ⟨nofun, nofun⟩
    | some e =>
      rw [finding_eq_nil_iff, isLeftOut_eq_true_iff]
      exact ⟨.transform, fun | .transform h => h⟩

/-! ### Rules of all steps together -/

/-- A step with an alias has two output keys, which may be the same. -/
theorem Step.mem_outputKeys_iff {step : Step} (halias : step.outputAs ≠ "") (key : String) :
    key ∈ step.outputKeys ↔ key ∈ [step.id, step.outputAs] := by
  rw [Step.outputKeys, String.isEmpty_eq_false_iff.mpr halias, Bool.false_or]
  by_cases hsame : step.outputAs = step.id
  · simp [hsame]
  · simp [hsame]

/-- Between steps with ids of their own no key collides exactly if no two steps share one. -/
theorem collisionFlaws_eq_nil_iff_disjoint {steps : List Step}
    (hids : ∀ step ∈ steps, step.id ≠ "") (haliases : ∀ step ∈ steps, step.outputAs ≠ "")
    (hnodup : (steps.map (·.id)).Nodup) :
    collisionFlaws [] steps = [] ↔
      steps.Pairwise fun a b => List.Disjoint [a.id, a.outputAs] [b.id, b.outputAs] := by
  rw [collisionFlaws_nil_iff hids hnodup]
  refine List.Pairwise.iff_of_mem fun {a b} ha hb => ?_
  have hkeys := Step.mem_outputKeys_iff (haliases a ha)
  have hothers := Step.mem_outputKeys_iff (haliases b hb)
  simp only [hkeys, hothers]
  rfl

theorem mem_stepIds_iff {d : Definition} {label : String} (hlabel : label ≠ "") :
    label ∈ d.stepIds ↔ ∃ step ∈ d.steps, step.id = label := by
  rw [Definition.stepIds, List.mem_filter, List.mem_map, Bool.not_eq_true',
    String.isEmpty_eq_false_iff]
  exact and_iff_left hlabel

/-- A condition gives a label to one of its outcomes. -/
def Action.Labels (action : Action) (label : String) : Prop :=
  ∃ config, action = .condition (some config) ∧ label ≠ "" ∧
    (config.onTrue = some label ∨ config.onFalse = some label)

/-- No label of a step is unknown exactly if each of them is among the ids. -/
theorem Step.branchFlaws_eq_nil_iff (ids : List String) (step : Step) :
    step.branchFlaws ids = [] ↔ ∀ label, step.action.Labels label → label ∈ ids := by
  unfold Step.branchFlaws
  split
  · next config haction =>
    have hone : ∀ label : Option String, ((nonempty? label).bind fun l =>
        if ids.contains l then none else some (Flaw.unknownBranch step.id l)) = none ↔
          ∀ l, label = some l → l ≠ "" → l ∈ ids := by
      intro label
      rw [Option.bind_eq_none_iff]
      refine forall_congr' fun l => ?_
      rw [nonempty?_eq_some_iff, and_imp, ite_eq_left_iff, List.contains_iff_mem]
      simp only [reduceCtorEq, imp_false, not_not]
    rw [List.filterMap_eq_nil_iff]
    simp only [hone, List.forall_mem_cons, List.not_mem_nil, false_implies, implies_true, and_true]
    constructor
    · rintro ⟨htrue, hfalse⟩ label ⟨config', heq, hne, hlabel⟩
      obtain rfl := Option.some.inj (Action.condition.inj (haction.symm.trans heq))
      rcases hlabel with hlabel | hlabel
      · exact htrue label hlabel hne
      · exact hfalse label hlabel hne
    · intro hall
      exact ⟨fun l hl hne => hall l ⟨config, haction, hne, .inl hl⟩,
        fun l hl hne => hall l ⟨config, haction, hne, .inr hl⟩⟩
  · next hother =>
    refine ⟨?_, fun _ => rfl⟩
    rintro - label ⟨config, haction, -⟩
    exact absurd haction (hother config)

/-! ### Sound definitions -/

theorem text?_eq_some_iff {v : Value} {s : String} : v.text? = some s ↔ v = .text s := by
  cases v with
  | text t => simp [Value.text?]
  | _ => simp [Value.text?]

/-- A definition that keeps the structural rules, when one version of the format is accepted. -/
structure Definition.Sound (d : Definition) (version : Value) : Prop where
  /-- The version is the one that is accepted. -/
  version_eq : version = .text d.version
  /-- There is something to do. -/
  steps_ne_nil : d.steps ≠ []
  /-- Every step has an id. -/
  id_ne_empty : ∀ step ∈ d.steps, step.id ≠ ""
  /-- Every step has an alias for its output. -/
  outputAs_ne_empty : ∀ step ∈ d.steps, step.outputAs ≠ ""
  /-- The ids are distinct. -/
  ids_nodup : (d.steps.map (·.id)).Nodup
  /-- No two steps share an id or an alias. -/
  keys_disjoint :
    d.steps.Pairwise fun a b => List.Disjoint [a.id, a.outputAs] [b.id, b.outputAs]
  /-- Every step has what its action needs. -/
  complete : ∀ step ∈ d.steps, step.action.Complete
  /-- The labels of conditions name steps. -/
  labels_known : ∀ step ∈ d.steps, ∀ label, step.action.Labels label →
    ∃ named ∈ d.steps, named.id = label
  /-- The allowed targets are addresses. -/
  targets_wellFormed : ∀ targets, d.scope = some targets → ∀ t ∈ targets, t.isWellFormed = true

theorem branchFlaws_eq_nil_iff (d : Definition) :
    d.steps.flatMap (·.branchFlaws d.stepIds) = [] ↔
      ∀ step ∈ d.steps, ∀ label, step.action.Labels label →
        ∃ named ∈ d.steps, named.id = label := by
  rw [List.flatMap_eq_nil_iff]
  simp only [Step.branchFlaws_eq_nil_iff]
  refine forall₄_congr fun step hstep label hlabel => ?_
  obtain ⟨-, -, hne, -⟩ := hlabel
  exact mem_stepIds_iff hne

theorem targetFlaws_eq_nil_iff (d : Definition) :
    ((d.scope.getD []).filter (!·.isWellFormed)).map
      (fun t => Flaw.malformedTarget t.address) = [] ↔
        ∀ targets, d.scope = some targets → ∀ t ∈ targets, t.isWellFormed = true := by
  rw [List.map_eq_nil_iff, List.filter_eq_nil_iff]
  cases d.scope <;> simp

/-- **The check decides the structural rules**: it finds nothing exactly in sound definitions. -/
theorem check_valid_iff (d : Definition) (version : Value) :
    (d.check version).valid = true ↔ d.Sound version := by
  have hversion : (if version.text? == some d.version then []
      else [Flaw.unsupportedVersion d.version]) = [] ↔ version = .text d.version := by
    rw [ite_eq_left_iff, beq_iff_eq, text?_eq_some_iff]
    simp only [imp_false, not_not, List.cons_ne_nil]
  have hsteps : (if d.steps.isEmpty then [Flaw.noSteps] else []) = [] ↔ d.steps ≠ [] := by
    rw [finding_eq_nil_iff, List.isEmpty_iff]
  rw [Definition.check, Report.ofFlaws, List.isEmpty_iff, Definition.flaws]
  simp only [List.append_eq_nil_iff, hversion, hsteps, stepFlaws_eq_nil_iff,
    Step.flaws_eq_nil_iff, branchFlaws_eq_nil_iff, targetFlaws_eq_nil_iff]
  constructor
  · rintro ⟨⟨⟨⟨⟨hversion, hsteps⟩, hall, hnodup⟩, hcollisions⟩, hlabels⟩, htargets⟩
    have hids : ∀ step ∈ d.steps, step.id ≠ "" := fun step hs => (hall step hs).1
    have haliases : ∀ step ∈ d.steps, step.outputAs ≠ "" := fun step hs => (hall step hs).2.2.1
    exact ⟨hversion, hsteps, hids, haliases, hnodup,
      (collisionFlaws_eq_nil_iff_disjoint hids haliases hnodup).mp hcollisions,
      fun step hs => (hall step hs).2.2.2, hlabels, htargets⟩
  · rintro h
    have hcollisions := (collisionFlaws_eq_nil_iff_disjoint h.id_ne_empty h.outputAs_ne_empty
      h.ids_nodup).mpr h.keys_disjoint
    refine ⟨⟨⟨⟨⟨h.version_eq, h.steps_ne_nil⟩, ?_, h.ids_nodup⟩, hcollisions⟩, h.labels_known⟩,
      h.targets_wellFormed⟩
    intro step hs
    exact ⟨h.id_ne_empty step hs, List.not_mem_nil, h.outputAs_ne_empty step hs,
      h.complete step hs⟩

end Workflow
