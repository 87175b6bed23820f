import Workflow.Definition.Validation
import Mathlib.Data.List.Basic

/-!
# Ids and output keys of a definition without flaws

`Definition.check` looks at the steps from front to back and remembers the ids and the owners of
output keys that it has seen.  What this amounts to does not depend on that order: the ids are
distinct (`stepFlaws_eq_nil_iff`) and no two steps share an output key (`collisionFlaws_eq_nil_iff`,
`collisionFlaws_nil_iff`).  `Step.Keyed` collects both for the steps of a definition that passes its
check (`keyed_of_check`).
-/

namespace Workflow

/-! ### Ids -/

theorem Step.flawsAfter_eq_nil_iff (seen : List String) (step : Step) :
    step.flawsAfter seen = [] ↔
      step.id ≠ "" ∧ step.id ∉ seen ∧ step.outputAs ≠ "" ∧ step.flaws = [] := by
  unfold Step.flawsAfter
  simp only [List.append_eq_nil_iff, List.contains_iff_mem]
  by_cases hid : step.id = ""
  · simp [hid]
  · have hne : step.id.isEmpty = false := String.isEmpty_eq_false_iff.mpr hid
    by_cases hseen : step.id ∈ seen
    · simp [hne, hseen]
    · by_cases halias : step.outputAs.isEmpty = true
      · simp [hne, hseen, String.isEmpty_iff.mp halias]
      · have : step.outputAs ≠ "" := fun h => halias (String.isEmpty_iff.mpr h)
        simp [hne, hid, hseen, halias, this]

/-- The steps pass one by one iff no id is empty, used before or used twice. -/
theorem stepFlaws_eq_nil_iff (seen : List String) (steps : List Step) :
    stepFlaws seen steps = [] ↔
      (∀ step ∈ steps, step.id ≠ "" ∧ step.id ∉ seen ∧ step.outputAs ≠ "" ∧ step.flaws = []) ∧
        (steps.map (·.id)).Nodup := by
  induction steps generalizing seen with
  | nil => simp [stepFlaws]
  | cons step steps ih =>
    rw [stepFlaws, List.append_eq_nil_iff, Step.flawsAfter_eq_nil_iff, ih, List.map_cons,
      List.nodup_cons]
    constructor
    · rintro ⟨hstep, hsteps, hnodup⟩
      refine ⟨?_, ?_, hnodup⟩
      · intro s hs
        rcases List.mem_cons.mp hs with rfl | hs
        · exact hstep
        · obtain ⟨h1, h2, h3⟩ := hsteps s hs
          exact ⟨h1, fun h => h2 (List.mem_append_left _ h), h3⟩
      · intro hmem
        obtain ⟨s, hs, hid⟩ := List.mem_map.mp hmem
        exact (hsteps s hs).2.1 (by simp [hid])
    · rintro ⟨hall, hnew, hnodup⟩
      refine ⟨hall step (List.mem_cons_self ..), ?_, hnodup⟩
      intro s hs
      obtain ⟨h1, h2, h3⟩ := hall s (List.mem_cons_of_mem _ hs)
      refine ⟨h1, ?_, h3⟩
      rw [List.mem_append, List.mem_singleton]
      rintro (h | h)
      · exact h2 h
      · exact hnew (h ▸ List.mem_map_of_mem hs)

/-! ### Owners of output keys -/

/-- A step may claim keys iff nobody else owns one of them. -/
theorem claimKeys_fst_eq_nil_iff (id : String) (keys : List String)
    (owners : List (String × String)) :
    (claimKeys id keys owners).1 = [] ↔
      ∀ key ∈ keys, ∀ owner, owners.lookup key = some owner → owner = id := by
  induction keys generalizing owners with
  | nil => simp [claimKeys]
  | cons key keys ih =>
    rw [claimKeys]
    cases howner : owners.lookup key with
    | none =>
      rw [ih, List.forall_mem_cons]
      simp only [howner, reduceCtorEq, false_implies, implies_true, true_and]
      -- The key that has just been claimed belongs to the step itself.
      refine forall₂_congr fun k _ => ?_
      by_cases hk : k = key
      · subst hk
        simp [howner]
      · rw [List.lookup_cons, beq_eq_false_iff_ne.mpr hk]
    | some owner =>
      rw [List.forall_mem_cons]
      simp only [howner, Option.some.injEq, forall_eq']
      by_cases hown : owner = id
      · simp [hown, ih]
      · simp [hown]

/-- Keys that had no owner belong to the step that claims them. -/
theorem lookup_claimKeys (id : String) (keys : List String) (owners : List (String × String))
    (k : String) :
    (claimKeys id keys owners).2.lookup k
      = (owners.lookup k).or (if k ∈ keys then some id else none) := by
  induction keys generalizing owners with
  | nil => simp [claimKeys]
  | cons key keys ih =>
    rw [claimKeys]
    cases howner : owners.lookup key with
    | none =>
      rw [ih]
      by_cases hk : k = key
      · subst hk
        simp [howner]
      · rw [List.lookup_cons, beq_eq_false_iff_ne.mpr hk]
        simp [hk]
    | some owner =>
      simp only
      rw [ih]
      by_cases hk : k = key
      · subst hk
        simp [howner]
      · simp [hk]

/-- No key collides iff no step uses a key that somebody else owns already, and steps that share
a key are one step by their ids. -/
theorem collisionFlaws_eq_nil_iff (owners : List (String × String)) (steps : List Step)
    (hids : ∀ step ∈ steps, step.id ≠ "") :
    collisionFlaws owners steps = [] ↔
      (∀ step ∈ steps, ∀ key ∈ step.outputKeys, ∀ owner,
        owners.lookup key = some owner → owner = step.id) ∧
      steps.Pairwise fun a b => ∀ key ∈ a.outputKeys, key ∈ b.outputKeys → a.id = b.id := by
  -- Each step adds its keys to the owners, so the induction is over all lists of owners.
  induction steps generalizing owners with
  | nil => simp [collisionFlaws]
  | cons step steps ih =>
    have hne : step.id.isEmpty = false :=
      String.isEmpty_eq_false_iff.mpr (hids step (List.mem_cons_self ..))
    rw [collisionFlaws, hne]
    simp only [Bool.false_eq_true, ↓reduceIte]
    rw [List.append_eq_nil_iff, claimKeys_fst_eq_nil_iff,
      ih _ fun s hs => hids s (List.mem_cons_of_mem _ hs), List.forall_mem_cons,
      List.pairwise_cons]
    simp only [lookup_claimKeys]
    constructor
    · rintro ⟨hstep, hlater, hpair⟩
      refine ⟨⟨hstep, fun s hs key hkey owner howner => ?_⟩, fun s hs key hkey hkey' => ?_, hpair⟩
      · exact hlater s hs key hkey owner (by simp [howner])
      · cases howner : owners.lookup key with
        | none => exact hlater s hs key hkey' step.id (by simp [howner, hkey])
        | some owner =>
          rw [← hstep key hkey owner howner]
          exact hlater s hs key hkey' owner (by simp [howner])
    · rintro ⟨⟨hstep, hlater⟩, hshare, hpair⟩
      refine ⟨hstep, fun s hs key hkey owner howner => ?_, hpair⟩
      cases hold : owners.lookup key with
      | none =>
        rw [hold, Option.none_or] at howner
        split_ifs at howner with hmem
        rw [← Option.some.inj howner]
        exact hshare s hs key hmem hkey
      | some o =>
        rw [hold, Option.some_or] at howner
        exact hlater s hs key hkey owner (hold.trans howner)

/-- Between steps with ids of their own, no key collides iff no two steps have one in common. -/
theorem collisionFlaws_nil_iff {steps : List Step} (hids : ∀ step ∈ steps, step.id ≠ "")
    (hnodup : (steps.map (·.id)).Nodup) :
    collisionFlaws [] steps = [] ↔
      steps.Pairwise fun a b => ∀ key ∈ a.outputKeys, key ∉ b.outputKeys := by
  have hdistinct : steps.Pairwise fun a b => a.id ≠ b.id := List.pairwise_map.mp hnodup
  rw [collisionFlaws_eq_nil_iff [] steps hids]
  constructor
  · rintro ⟨-, hshare⟩
    -- Steps that share a key would share their id.
    exact (hshare.and hdistinct).imp fun ⟨hab, hne⟩ key ha hb => hne (hab key ha hb)
  · intro hdisjoint
    refine ⟨by simp, ?_⟩
    exact hdisjoint.imp fun hab key ha hb => absurd hb (hab key ha)

/-! ### Steps with keys of their own -/

/-- Steps whose ids are given and distinct, and no two of which share an output key. -/
structure Step.Keyed (steps : List Step) : Prop where
  /-- No id is empty. -/
  id_ne_empty : ∀ step ∈ steps, step.id ≠ ""
  /-- The ids are distinct. -/
  ids_nodup : (steps.map (·.id)).Nodup
  /-- The output keys of different steps are different. -/
  disjoint : steps.Pairwise fun a b => ∀ key ∈ a.outputKeys, key ∉ b.outputKeys

theorem keyed_of_check {d : Definition} {version : Value}
    (h : (d.check version).valid = true) : Step.Keyed d.steps := by
  have hflaws : d.flaws version = [] := List.isEmpty_iff.mp h
  simp only [Definition.flaws, List.append_eq_nil_iff] at hflaws
  obtain ⟨⟨⟨⟨-, hsteps⟩, hcollisions⟩, -⟩, -⟩ := hflaws
  obtain ⟨hall, hnodup⟩ := (stepFlaws_eq_nil_iff [] d.steps).mp hsteps
  have hids : ∀ step ∈ d.steps, step.id ≠ "" := fun step hs => (hall step hs).1
  exact ⟨hids, hnodup, (collisionFlaws_nil_iff hids hnodup).mp hcollisions⟩

end Workflow
