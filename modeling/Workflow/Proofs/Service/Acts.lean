import Workflow.Service.Basic
import Workflow.Proofs.Outcomes
import Mathlib.Logic.Relation

/-!
# Acts on the outside world

One act behind another goes as its parts do: `andThen_eq_ok_iff` and `andThen_eq_error_iff` say how
it can end and which world it leaves, and `andThen_fails_iff` whether it fails at all.

Three things are said of acts here and put together from their parts.  An act may keep what holds of
the world (`Act.Keeps`); it may be, under a view of a larger world, an act on a smaller one
(`Act.Refines`); and the world behind it may be one that lookups alone have led to
(`Services.LooksUp`).
-/

namespace Workflow

open Outcome

variable {σ τ α β : Type}

namespace Act

/-! ### How acts go -/

@[simp] theorem done_ok_andThen (a : α) (next : α → Act σ β) :
    (done (.ok a)).andThen next = next a := rfl

@[simp] theorem done_error_andThen (e : Failure) (next : α → Act σ β) :
    (done (.error e)).andThen next = done (.error e) := rfl

theorem done_eq_iff {x y : Except Failure α} {s s' : σ} :
    done x s = (y, s') ↔ x = y ∧ s = s' := Prod.ext_iff

section

variable {first : Act σ α} {next : α → Act σ β} {s s' : σ} {a : α} {e : Failure}

theorem andThen_of_ok (h : first s = (.ok a, s')) : first.andThen next s = next a s' := by
  rw [andThen, h]

theorem andThen_of_error (h : first s = (.error e, s')) :
    first.andThen next s = (.error e, s') := by
  rw [andThen, h]

/-- Behind an act that leaves the world as it is, all depends on the outcomes. -/
theorem andThen_outcome (h : (first s).2 = s) :
    (first.andThen next s).1 = ((first s).1 >>= fun a => (next a s).1) := by
  rcases hfirst : first s with ⟨e | a, s'⟩
  · rw [andThen_of_error hfirst]
    rfl
  · obtain rfl : s' = s := (congrArg Prod.snd hfirst).symm.trans h
    rw [andThen_of_ok hfirst]
    rfl

theorem andThen_eq_ok_iff {b : β} {t : σ} :
    first.andThen next s = (.ok b, t) ↔
      ∃ a s', first s = (.ok a, s') ∧ next a s' = (.ok b, t) := by
  rcases h : first s with ⟨e | a, s'⟩
  · rw [andThen_of_error h]
    exact ⟨nofun, fun ⟨_, _, heq, _⟩ => nomatch heq⟩
  · rw [andThen_of_ok h]
    constructor
    · exact fun hb => ⟨a, s', rfl, hb⟩
    · rintro ⟨_, _, ⟨⟩, hb⟩
      exact hb

theorem andThen_eq_error_iff {t : σ} :
    first.andThen next s = (.error e, t) ↔
      first s = (.error e, t) ∨ ∃ a s', first s = (.ok a, s') ∧ next a s' = (.error e, t) := by
  rcases h : first s with ⟨e' | a, s'⟩
  · rw [andThen_of_error h]
    constructor
    · rintro ⟨⟩
      exact .inl rfl
    · rintro (⟨⟨⟩⟩ | ⟨_, _, ⟨⟩, -⟩)
      rfl
  · rw [andThen_of_ok h]
    constructor
    · exact fun he => .inr ⟨a, s', rfl, he⟩
    · rintro (⟨⟨⟩⟩ | ⟨_, _, ⟨⟩, he⟩)
      exact he

end

/-- An act fails in a world. -/
def Fails (act : Act σ α) (s : σ) : Prop := ∃ e s', act s = (.error e, s')

section

variable {act : Act σ α} {s : σ}

theorem not_fails_iff : ¬ act.Fails s ↔ ∃ a s', act s = (.ok a, s') := by
  rw [Fails]
  rcases act s with ⟨e | a, s'⟩
  · exact iff_of_false (fun h => h ⟨e, s', rfl⟩) fun ⟨_, _, h⟩ => nomatch h
  · exact iff_of_true (fun ⟨_, _, h⟩ => nomatch h) ⟨a, s', rfl⟩

@[simp] theorem done_fails_iff {x : Except Failure α} : (done x).Fails s ↔ Outcome.Fails x :=
  exists_congr fun _ => ⟨fun ⟨_, h⟩ => (done_eq_iff.mp h).1, fun h => ⟨s, done_eq_iff.mpr ⟨h, rfl⟩⟩⟩

theorem andThen_fails_iff {next : α → Act σ β} :
    (act.andThen next).Fails s ↔
      act.Fails s ∨ ∃ a s', act s = (.ok a, s') ∧ (next a).Fails s' := by
  unfold Fails
  simp only [andThen_eq_error_iff]
  constructor
  · rintro ⟨e, t, h | ⟨a, s', ha, h⟩⟩
    · exact .inl ⟨e, t, h⟩
    · exact .inr ⟨a, s', ha, e, t, h⟩
  · rintro (⟨e, t, h⟩ | ⟨a, s', ha, e, t, h⟩)
    · exact ⟨e, t, .inl h⟩
    · exact ⟨e, t, .inr ⟨a, s', ha, h⟩⟩

/-- What all failures of the parts of an act have in common, its failures have. -/
theorem andThen_failsOnly {P : Failure → Prop} {next : α → Act σ β}
    (h : FailsOnly P (act s).1)
    (hnext : ∀ a s', act s = (.ok a, s') → FailsOnly P (next a s').1) :
    FailsOnly P (act.andThen next s).1 := by
  intro e he
  rcases andThen_eq_error_iff.mp (Prod.ext he rfl) with hact | ⟨a, s', ha, hrest⟩
  · exact h e (congrArg Prod.fst hact)
  · exact hnext a s' ha e (congrArg Prod.fst hrest)

end

/-! ### What acts keep -/

/-- An act keeps what holds of the world. -/
def Keeps (P : σ → Prop) (act : Act σ α) : Prop := ∀ s, P s → P (act s).2

section

variable {P : σ → Prop} {act : Act σ α}

theorem Keeps.done (x : Except Failure α) : (Act.done x).Keeps P := fun _ hs => hs

theorem Keeps.andThen {next : α → Act σ β} (h : act.Keeps P) (hnext : ∀ a, (next a).Keeps P) :
    (act.andThen next).Keeps P := by
  intro s hs
  have hfirst := h s hs
  rcases hact : act s with ⟨e | a, s'⟩
  · rw [andThen_of_error hact]
    rwa [hact] at hfirst
  · rw [andThen_of_ok hact]
    rw [hact] at hfirst
    exact hnext a s' hfirst

theorem Keeps.mapOutcome (h : act.Keeps P) (f : Except Failure α → Except Failure β) :
    (act.mapOutcome f).Keeps P := h

end

/-! ### Acts under a view of the world -/

/-- An act on a larger world that is, under a view of that world, another act. -/
def Refines (view : τ → σ) (fine : Act τ α) (coarse : Act σ α) : Prop :=
  ∀ t, coarse (view t) = ((fine t).1, view (fine t).2)

section

variable {view : τ → σ} {fine : Act τ α} {coarse : Act σ α}

theorem Refines.done (view : τ → σ) (x : Except Failure α) :
    Refines view (Act.done x) (Act.done x) := fun _ => rfl

theorem Refines.andThen {fineNext : α → Act τ β} {coarseNext : α → Act σ β}
    (h : Refines view fine coarse) (hnext : ∀ a, Refines view (fineNext a) (coarseNext a)) :
    Refines view (fine.andThen fineNext) (coarse.andThen coarseNext) := by
  intro t
  have hfirst := h t
  rcases hfine : fine t with ⟨e | a, t'⟩
  · rw [hfine] at hfirst
    rw [andThen_of_error hfirst, andThen_of_error hfine]
  · rw [hfine] at hfirst
    rw [andThen_of_ok hfirst, andThen_of_ok hfine]
    exact hnext a t'

theorem Refines.mapOutcome (h : Refines view fine coarse)
    (f : Except Failure α → Except Failure β) :
    Refines view (fine.mapOutcome f) (coarse.mapOutcome f) := by
  intro t
  simp only [Act.mapOutcome, h t]

end

end Act

/-! ### Lookups -/

/-- A single lookup leads from one world to another. -/
inductive Services.Lookup (services : Services σ) : σ → σ → Prop where
  /-- What is stored under an id is looked up. -/
  | find (id : String) (s : σ) : Lookup services s (services.findProxy id s).2
  /-- Stored headers are revealed. -/
  | reveal (stored : Value) (s : σ) : Lookup services s (services.revealHeaders stored s).2

/-- Lookups alone lead from one world to another. -/
def Services.LooksUp (services : Services σ) : σ → σ → Prop :=
  Relation.ReflTransGen services.Lookup

namespace Services.LooksUp

variable {services : Services σ} {s s' t : σ}

theorem refl (services : Services σ) (s : σ) : services.LooksUp s s :=
  Relation.ReflTransGen.refl

theorem find {id : String} {x : Except Failure (Option StoredProxy)}
    (h : services.findProxy id s = (x, s')) : services.LooksUp s s' := by
  have hone : services.Lookup s (services.findProxy id s).2 := .find id s
  rw [h] at hone
  exact .single hone

end Services.LooksUp

/-- Lookups keep what holds of the world. -/
structure Services.LookupsKeep (services : Services σ) (P : σ → Prop) : Prop where
  /-- Looking up endpoints does. -/
  findProxy : ∀ id, (services.findProxy id).Keeps P
  /-- Revealing headers does. -/
  revealHeaders : ∀ stored, (services.revealHeaders stored).Keeps P

/-- Lookups keep to the worlds that lookups lead to. -/
theorem Services.lookupsKeep_looksUp (services : Services σ) (s : σ) :
    services.LookupsKeep (services.LooksUp s) :=
  ⟨fun id _ h => h.trans (.single (.find id _)),
    fun stored _ h => h.trans (.single (.reveal stored _))⟩

end Workflow
