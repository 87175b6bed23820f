import Workflow.Engine
import Workflow.Proofs.Fields
import Mathlib.Data.List.TakeWhile

/-!
# Recording

What a step leaves in the context is a function of how it ended (`Step.published`), and so is what
the run reports about it (`Step.verdict`).  As long as the output keys of the step are free, its
output is recorded under all of them (`Context.register_of_free`); the branches for a key that is
taken are not reached.

An output is recorded under the id of its step and then under the alias, and either key may be
taken.  If it is the alias, the entry under the id has been written when the recording fails
(`Context.HalfRecords`), and the engine does not take it back.  So, whatever is recorded before it,
a step that has ended leaves what it publishes up to the first key that is taken (`Step.left`), and
ends as `Step.settled` says.
-/

namespace Workflow

/-! ### What a step leaves behind -/

/-- What a step leaves in the context: its output under all its keys, or the mark of a skipped
step under its id. -/
def Step.published (step : Step) : Except Failure Value → List (String × Value)
  | .ok output => step.outputKeys.map (·, Context.outputEntry output)
  | .error _ => if step.onError = .skip then [(step.id, .null)] else []

/-- What a run reports about a step that has ended. -/
def Step.verdict (step : Step) (attempts : Nat) : Except Failure Value → StepResult
  | .ok output => { success := true, output, attempts }
  | .error e =>
    { success := false, error := some e.message, attempts
      status := if step.onError = .skip then .skipped else .failed }

theorem Step.id_mem_outputKeys (step : Step) : step.id ∈ step.outputKeys := by
  unfold Step.outputKeys
  split <;> simp

theorem Step.mem_outputKeys_of_published {step : Step} {outcome : Except Failure Value}
    {entry : String × Value} (h : entry ∈ step.published outcome) :
    entry.1 ∈ step.outputKeys := by
  cases outcome with
  | ok output =>
    obtain ⟨key, hkey, rfl⟩ := List.mem_map.mp h
    exact hkey
  | error e =>
    rw [Step.published] at h
    split_ifs at h
    · rw [List.mem_singleton.mp h]
      exact step.id_mem_outputKeys
    · simp at h

/-! ### Contexts with further entries -/

namespace Context

/-- A context with further entries. -/
def extended (c : Context) (entries : List (String × Value)) : Context :=
  { c with outputs := c.outputs ++ entries }

@[simp] theorem extended_outputs (c : Context) (entries : List (String × Value)) :
    (c.extended entries).outputs = c.outputs ++ entries := rfl

@[simp] theorem extended_nil (c : Context) : c.extended [] = c := by
  simp [extended]

@[simp] theorem extended_extended (c : Context) (entries more : List (String × Value)) :
    (c.extended entries).extended more = c.extended (entries ++ more) := by
  simp [extended]

theorem isRecorded_eq_false_iff (c : Context) (key : String) :
    c.isRecorded key = false ↔ ∀ entry ∈ c.outputs, entry.1 ≠ key := by
  simp [isRecorded, Fields.contains]

theorem record_of_free {c : Context} {key : String} (entry : Value)
    (h : c.isRecorded key = false) : c.record key entry = .ok (c.extended [(key, entry)]) := by
  simp [record, h, extended]

/-- A key that is taken cannot be recorded under; any other key gets its entry behind all others. -/
theorem record_eq_ok_iff {c c' : Context} {key : String} {entry : Value} :
    c.record key entry = .ok c' ↔
      c.isRecorded key = false ∧ c' = c.extended [(key, entry)] := by
  constructor
  · intro h
    rw [record] at h
    split_ifs at h with htaken
    exact ⟨Bool.eq_false_iff.mpr htaken, (Except.ok.inj h).symm⟩
  · rintro ⟨hfree, rfl⟩
    exact record_of_free entry hfree

theorem record_eq_error_iff {c : Context} {key : String} {entry : Value} {fault : Fault} :
    c.record key entry = .error fault ↔ c.isRecorded key = true ∧ fault = .keyTaken key := by
  rw [record]
  split_ifs with htaken
  · rw [Except.error.injEq]
    exact ⟨fun h => ⟨htaken, h.symm⟩, fun h => h.2.symm⟩
  · exact ⟨nofun, fun h => absurd h.1 htaken⟩

theorem register_of_free {c : Context} (step : Step) (output : Value)
    (h : ∀ key ∈ step.outputKeys, c.isRecorded key = false) :
    c.register step.toStepHeader output
      = (c.extended (step.published (.ok output)), none) := by
  have hid := record_of_free (outputEntry output) (h step.id step.id_mem_outputKeys)
  unfold register
  rw [recordOutput, hid]
  simp only [Step.published]
  by_cases hone : (step.outputAs.isEmpty || step.outputAs == step.id) = true
  · simp only [Step.outputKeys, hone, ↓reduceIte]
    rfl
  · simp only [Step.outputKeys, hone] at h ⊢
    -- The alias differs from the id that has just been recorded.
    have hne : step.outputAs ≠ step.id := fun heq => hone (by simp [heq])
    have halias : (c.extended [(step.id, outputEntry output)]).isRecorded step.outputAs
        = false := by
      rw [isRecorded_eq_false_iff]
      intro entry hentry
      rcases List.mem_append.mp hentry with hold | hnew
      · exact (isRecorded_eq_false_iff c _).mp (h step.outputAs (by simp)) entry hold
      · rw [List.mem_singleton.mp hnew]
        exact hne.symm
    simp [recordOutput, record_of_free _ halias]

theorem registerSkipped_of_free {c : Context} (step : Step)
    (h : c.isRecorded step.id = false) :
    c.registerSkipped step.toStepHeader = c.extended [(step.id, .null)] := by
  rw [registerSkipped, recordSkipped, record_of_free .null h]

end Context

/-! ### Recording where keys are taken -/

/-- The id of the step is free and its alias is taken, so an output is recorded by half. -/
def Context.HalfRecords (c : Context) (step : StepHeader) : Prop :=
  c.isRecorded step.id = false ∧ step.outputAs ≠ "" ∧ c.isRecorded step.outputAs = true

theorem Step.eq_of_mem_outputKeys (step : Step) {key : String} (h : key ∈ step.outputKeys) :
    key = step.id ∨ step.outputAs ≠ "" ∧ key = step.outputAs := by
  unfold Step.outputKeys at h
  split_ifs at h with hone
  · exact Or.inl (List.mem_singleton.mp h)
  · have hnonempty : step.outputAs ≠ "" := fun heq => hone (by simp [heq])
    rcases List.mem_cons.mp h with hid | halias
    · exact Or.inl hid
    · exact Or.inr ⟨hnonempty, List.mem_singleton.mp halias⟩

namespace Context

variable {c : Context}

/-- The keys of a step are all free, or the id is taken, or only the alias is. -/
theorem keys_cases (c : Context) (step : Step) :
    (∀ key ∈ step.outputKeys, c.isRecorded key = false) ∨ c.isRecorded step.id = true ∨
      c.HalfRecords step.toStepHeader := by
  cases hid : c.isRecorded step.id with
  | true => exact Or.inr (Or.inl rfl)
  | false =>
    by_cases hhalf : c.HalfRecords step.toStepHeader
    · exact Or.inr (Or.inr hhalf)
    · refine Or.inl fun key hkey => ?_
      rcases step.eq_of_mem_outputKeys hkey with rfl | ⟨hnonempty, rfl⟩
      · exact hid
      · by_contra halias
        exact hhalf ⟨hid, hnonempty, (Bool.not_eq_false _).mp halias⟩

theorem HalfRecords.not_isRecorded_id {step : StepHeader} (h : c.HalfRecords step) :
    ¬ c.isRecorded step.id = true := by
  rw [h.1]
  exact Bool.false_ne_true

/-- The alias of a step whose output is recorded by half is a key of its own. -/
theorem HalfRecords.outputKeys_eq {step : Step} (h : c.HalfRecords step.toStepHeader) :
    step.outputKeys = [step.id, step.outputAs] := by
  have hne : step.outputAs ≠ step.id := by
    intro heq
    have halias := h.2.2
    rw [heq] at halias
    exact h.not_isRecorded_id halias
  simp [Step.outputKeys, h.2.1, hne]

theorem register_of_taken {step : StepHeader} (output : Value)
    (h : c.isRecorded step.id = true) :
    c.register step output = (c, some (.keyTaken step.id)) := by
  have hid : c.recordOutput step.id output = .error (.keyTaken step.id) :=
    record_eq_error_iff.mpr ⟨h, rfl⟩
  rw [register, hid]

theorem HalfRecords.register_eq {step : Step} (output : Value)
    (h : c.HalfRecords step.toStepHeader) :
    c.register step.toStepHeader output
      = (c.extended [(step.id, outputEntry output)], some (.keyTaken step.outputAs)) := by
  have hkeys := h.outputKeys_eq
  obtain ⟨hfree, hnonempty, halias⟩ := h
  have hid : c.recordOutput step.id output = .ok (c.extended [(step.id, outputEntry output)]) :=
    record_of_free _ hfree
  -- The alias is taken by an older entry, which stands in front of the one under the id.
  have htaken : (c.extended [(step.id, outputEntry output)]).recordOutput step.outputAs output
      = .error (.keyTaken step.outputAs) := by
    refine record_eq_error_iff.mpr ⟨?_, rfl⟩
    have hmem : step.outputAs ∈ Fields.names c.outputs := Fields.contains_iff.mp halias
    apply Fields.contains_iff.mpr
    rw [extended_outputs, Fields.names, List.map_append]
    exact List.mem_append_left _ hmem
  have hone : (step.outputAs.isEmpty || step.outputAs == step.id) = false := by
    by_contra hone
    rw [Bool.not_eq_false] at hone
    simp [Step.outputKeys, hone] at hkeys
  rw [register, hid]
  simp only [hone, Bool.false_eq_true, ↓reduceIte, htaken]

/-- A recording that fails leaves the context as it was, unless it has been done by half. -/
theorem eq_iff_of_register {c' : Context} {step : Step} {output : Value} {fault : Fault}
    (h : c.register step.toStepHeader output = (c', some fault)) :
    c' = c ↔ ¬ c.HalfRecords step.toStepHeader := by
  rcases c.keys_cases step with hfree | htaken | hhalf
  · rw [register_of_free step output hfree] at h
    cases h
  · rw [register_of_taken output htaken] at h
    obtain ⟨rfl, -⟩ := Prod.mk.inj h
    exact ⟨fun _ hhalf => hhalf.not_isRecorded_id htaken, fun _ => rfl⟩
  · rw [hhalf.register_eq output] at h
    obtain ⟨rfl, -⟩ := Prod.mk.inj h
    refine ⟨fun heq => ?_, fun hno => absurd hhalf hno⟩
    -- One entry more than before.
    have hlength := congrArg (fun c : Context => c.outputs.length) heq
    simp at hlength

end Context

/-! ### What a step leaves behind -/

/-- What a step that has ended leaves in a context: what it publishes, up to the first key that is
taken. -/
def Step.left (step : Step) (c : Context) (outcome : Except Failure Value) :
    List (String × Value) :=
  (step.published outcome).takeWhile fun entry => !c.isRecorded entry.1

/-- How a step ends in a context: an output that cannot be recorded makes it fail. -/
def Step.settled (step : Step) (c : Context) : Except Failure Value → Except Failure Value
  | .ok output =>
    match step.outputKeys.find? c.isRecorded with
    | none => .ok output
    | some key => .error (.misconfigured (.keyTaken key))
  | .error e => .error e

theorem Step.exists_outputKeys_eq_cons (step : Step) :
    ∃ keys, step.outputKeys = step.id :: keys := by
  unfold Step.outputKeys
  split
  · exact ⟨[], rfl⟩
  · exact ⟨[step.outputAs], rfl⟩

section Left

variable {step : Step} {c : Context}

theorem Step.left_of_free (outcome : Except Failure Value)
    (h : ∀ key ∈ step.outputKeys, c.isRecorded key = false) :
    step.left c outcome = step.published outcome := by
  apply List.takeWhile_eq_self_iff.mpr
  intro entry hentry
  rw [h entry.1 (Step.mem_outputKeys_of_published hentry)]
  rfl

theorem Step.left_of_taken (outcome : Except Failure Value) (h : c.isRecorded step.id = true) :
    step.left c outcome = [] := by
  cases outcome with
  | ok output =>
    obtain ⟨keys, hkeys⟩ := step.exists_outputKeys_eq_cons
    simp [Step.left, Step.published, hkeys, h]
  | error e =>
    rw [Step.left, Step.published]
    split_ifs
    · simp [h]
    · rfl

theorem Step.left_of_half (output : Value) (h : c.HalfRecords step.toStepHeader) :
    step.left c (.ok output) = [(step.id, Context.outputEntry output)] := by
  obtain ⟨hid, -, halias⟩ := id h
  simp [Step.left, Step.published, h.outputKeys_eq, hid, halias]

/-- A failure leaves at most the mark of a skipped step. -/
theorem Step.left_error (step : Step) (c : Context) (e : Failure) :
    step.left c (.error e) = [] ∨
      step.onError = .skip ∧ step.left c (.error e) = [(step.id, .null)] := by
  rw [Step.left, Step.published]
  split_ifs with hskip
  · cases hid : c.isRecorded step.id with
    | true => exact Or.inl (by simp [hid])
    | false => exact Or.inr ⟨hskip, by simp [hid]⟩
  · exact Or.inl rfl

theorem Step.settled_of_free (outcome : Except Failure Value)
    (h : ∀ key ∈ step.outputKeys, c.isRecorded key = false) : step.settled c outcome = outcome := by
  cases outcome with
  | ok output =>
    have hnone : step.outputKeys.find? c.isRecorded = none := by
      apply List.find?_eq_none.mpr
      intro key hkey
      rw [h key hkey]
      exact Bool.false_ne_true
    rw [Step.settled, hnone]
  | error e => rfl

theorem Step.settled_of_taken (output : Value) (h : c.isRecorded step.id = true) :
    step.settled c (.ok output) = .error (.misconfigured (.keyTaken step.id)) := by
  obtain ⟨keys, hkeys⟩ := step.exists_outputKeys_eq_cons
  rw [Step.settled, hkeys, List.find?_cons_of_pos h]

theorem Step.settled_of_half (output : Value) (h : c.HalfRecords step.toStepHeader) :
    step.settled c (.ok output) = .error (.misconfigured (.keyTaken step.outputAs)) := by
  obtain ⟨hid, -, halias⟩ := id h
  simp [Step.settled, h.outputKeys_eq, hid, halias]

theorem Context.registerSkipped_of_taken (h : c.isRecorded step.id = true) :
    c.registerSkipped step.toStepHeader = c := by
  have hid : c.recordSkipped step.id = .error (.keyTaken step.id) :=
    Context.record_eq_error_iff.mpr ⟨h, rfl⟩
  rw [Context.registerSkipped, hid]

end Left

end Workflow
