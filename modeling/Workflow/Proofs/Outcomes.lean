import Mathlib.Data.List.Forall2

/-!
# Computations that may fail

What is known of the parts of a computation from how it ended: it went well exactly if every part
did, and it failed exactly if some part did and those before it went well.  `Fails` says that it
failed, whatever the failure is.  In the other direction, `FailsOnly` is put together from the
parts: what all their failures have in common, the failures of the whole have.  Two computations
`Agree` if both fail or both end in related values; that is put together from the parts, too.
-/

namespace Workflow.Outcome

variable {α β ε : Type}

theorem ok_bind (a : α) (f : α → Except ε β) : (Except.ok a >>= f) = f a := rfl

theorem bind_eq_ok_iff {x : Except ε α} {f : α → Except ε β} {b : β} :
    x >>= f = .ok b ↔ ∃ a, x = .ok a ∧ f a = .ok b := by
  cases x with
  | error e => exact ⟨nofun, fun ⟨_, h, _⟩ => nomatch h⟩
  | ok a => exact ⟨fun h => ⟨a, rfl, h⟩, fun ⟨_, ha, h⟩ => Except.ok.inj ha ▸ h⟩

theorem bind_eq_error_iff {x : Except ε α} {f : α → Except ε β} {e : ε} :
    x >>= f = .error e ↔ x = .error e ∨ ∃ a, x = .ok a ∧ f a = .error e := by
  cases x with
  | error e' =>
    constructor
    · exact fun h => .inl (congrArg Except.error (Except.error.inj h))
    · rintro (h | ⟨_, h, _⟩)
      · exact congrArg Except.error (Except.error.inj h)
      · cases h
  | ok a =>
    constructor
    · exact fun h => .inr ⟨a, rfl, h⟩
    · rintro (h | ⟨_, ha, h⟩)
      · cases h
      · rw [← Except.ok.inj ha] at h
        exact h

theorem map_eq_ok_iff {x : Except ε α} {f : α → β} {b : β} :
    x.map f = .ok b ↔ ∃ a, x = .ok a ∧ f a = b := by
  cases x with
  | error e => exact ⟨nofun, fun ⟨_, h, _⟩ => nomatch h⟩
  | ok a =>
    exact ⟨fun h => ⟨a, rfl, Except.ok.inj h⟩, fun ⟨_, ha, h⟩ =>
      congrArg Except.ok (Except.ok.inj ha ▸ h)⟩

theorem map_eq_error_iff {x : Except ε α} {f : α → β} {e : ε} :
    x.map f = .error e ↔ x = .error e := by
  cases x with
  | error e' => rw [Except.map, Except.error.injEq, Except.error.injEq]
  | ok a => exact ⟨nofun, nofun⟩

theorem mapError_eq_ok_iff {ε' : Type} {x : Except ε α} {f : ε → ε'} {a : α} :
    x.mapError f = .ok a ↔ x = .ok a := by
  cases x with
  | error e => exact ⟨nofun, nofun⟩
  | ok b => rw [Except.mapError, Except.ok.injEq, Except.ok.injEq]

theorem mapError_eq_error_iff {ε' : Type} {x : Except ε α} {f : ε → ε'} {e' : ε'} :
    x.mapError f = .error e' ↔ ∃ e, x = .error e ∧ f e = e' := by
  cases x with
  | error e => exact ⟨fun h => ⟨e, rfl, Except.error.inj h⟩, fun ⟨_, he, h⟩ =>
      congrArg Except.error (Except.error.inj he ▸ h)⟩
  | ok a => exact ⟨nofun, nofun⟩

theorem ite_eq_error_iff {b : Bool} {a : α} {e e' : ε} :
    (if b then .ok a else .error e' : Except ε α) = .error e ↔ b = false ∧ e = e' := by
  cases b with
  | true => exact iff_of_false nofun (nomatch ·.1)
  | false => exact ⟨fun h => ⟨rfl, (Except.error.inj h).symm⟩, fun h => h.2 ▸ rfl⟩

/-- Items go well one by one exactly if each of them does. -/
theorem mapM_eq_ok_iff {f : α → Except ε β} {xs : List α} {ys : List β} :
    xs.mapM f = .ok ys ↔ List.Forall₂ (fun x y => f x = .ok y) xs ys := by
  induction xs generalizing ys with
  | nil =>
    rw [List.mapM_nil, List.forall₂_nil_left_iff]
    exact ⟨fun h => (Except.ok.inj h).symm, fun h => congrArg Except.ok h.symm⟩
  | cons x xs ih =>
    rw [List.mapM_cons, bind_eq_ok_iff, List.forall₂_cons_left_iff]
    constructor
    · rintro ⟨y, hy, h⟩
      obtain ⟨rest, hrest, h⟩ := bind_eq_ok_iff.mp h
      exact ⟨y, rest, hy, ih.mp hrest, (Except.ok.inj h).symm⟩
    · rintro ⟨y, rest, hy, hrest, rfl⟩
      exact ⟨y, hy, bind_eq_ok_iff.mpr ⟨rest, ih.mpr hrest, rfl⟩⟩

/-- Items that go well under a condition on each of them, and then have a known outcome. -/
theorem mapM_eq_ok_iff_map {f : α → Except ε β} {p : α → Prop} {g : α → β} {xs : List α}
    {ys : List β} (h : ∀ x ∈ xs, ∀ y, f x = .ok y ↔ p x ∧ g x = y) :
    xs.mapM f = .ok ys ↔ (∀ x ∈ xs, p x) ∧ xs.map g = ys := by
  have hforall : List.Forall₂ (fun x y => f x = .ok y) xs ys
      ↔ List.Forall₂ (fun x y => p x ∧ g x = y) xs ys := by
    induction xs generalizing ys with
    | nil => rw [List.forall₂_nil_left_iff, List.forall₂_nil_left_iff]
    | cons x xs ih =>
      have ih := fun ys => @ih ys fun x' hx' => h x' (List.mem_cons_of_mem x hx')
      simp only [List.forall₂_cons_left_iff, h x List.mem_cons_self, ih]
  have hmap : List.Forall₂ (fun x y => g x = y) xs ys ↔ xs.map g = ys := by
    rw [← List.forall₂_map_left_iff (R := fun a b => a = b), List.forall₂_eq_eq_eq]
  rw [mapM_eq_ok_iff, hforall, List.forall₂_and_left, hmap]

theorem exists_of_mem_of_mapM {f : α → Except ε β} {xs : List α} {ys : List β} {y : β}
    (h : xs.mapM f = .ok ys) (hy : y ∈ ys) : ∃ x ∈ xs, f x = .ok y := by
  have hforall := mapM_eq_ok_iff.mp h
  obtain ⟨i, hi, rfl⟩ := List.mem_iff_getElem.mp hy
  have hi' : i < xs.length := by
    rw [hforall.length_eq]
    exact hi
  exact ⟨xs[i], List.getElem_mem hi', hforall.get hi' hi⟩

theorem exists_ok_of_mapM {f : α → Except ε β} {xs : List α} {ys : List β} {x : α}
    (h : xs.mapM f = .ok ys) (hx : x ∈ xs) : ∃ y, f x = .ok y := by
  have hforall := mapM_eq_ok_iff.mp h
  obtain ⟨i, hi, rfl⟩ := List.mem_iff_getElem.mp hx
  have hi' : i < ys.length := by
    rw [← hforall.length_eq]
    exact hi
  exact ⟨ys[i], hforall.get hi hi'⟩

/-- Items fail one by one exactly if one of them fails and all in front of it go well. -/
theorem mapM_eq_error_iff {f : α → Except ε β} {xs : List α} {e : ε} :
    xs.mapM f = .error e ↔ ∃ front x back, xs = front ++ x :: back
      ∧ (∀ a ∈ front, ∃ b, f a = .ok b) ∧ f x = .error e := by
  induction xs with
  | nil => exact ⟨nofun, fun ⟨front, x, back, h, _⟩ => absurd h.symm (by simp)⟩
  | cons x xs ih =>
    rw [List.mapM_cons, bind_eq_error_iff]
    constructor
    · rintro (hx | ⟨y, hy, hrest⟩)
      · exact ⟨[], x, xs, rfl, fun a ha => absurd ha List.not_mem_nil, hx⟩
      · rcases bind_eq_error_iff.mp hrest with hxs | ⟨ys, -, hys⟩
        · obtain ⟨front, z, back, rfl, hfront, hz⟩ := ih.mp hxs
          exact ⟨x :: front, z, back, rfl, List.forall_mem_cons.mpr ⟨⟨y, hy⟩, hfront⟩, hz⟩
        · cases hys
    · rintro ⟨front, z, back, heq, hfront, hz⟩
      cases front with
      | nil =>
        obtain ⟨rfl, rfl⟩ := List.cons.inj heq
        exact .inl hz
      | cons first front =>
        obtain ⟨rfl, rfl⟩ := List.cons.inj heq
        obtain ⟨⟨y, hy⟩, hfront⟩ := List.forall_mem_cons.mp hfront
        exact .inr ⟨y, hy, bind_eq_error_iff.mpr (.inl (ih.mpr ⟨front, z, back, rfl, hfront, hz⟩))⟩

/-- Where items fail one by one, it is one of them that fails so. -/
theorem exists_of_mapM_eq_error {f : α → Except ε β} {xs : List α} {e : ε}
    (h : xs.mapM f = .error e) : ∃ x ∈ xs, f x = .error e := by
  obtain ⟨front, x, back, rfl, -, hx⟩ := mapM_eq_error_iff.mp h
  exact ⟨x, List.mem_append_right front List.mem_cons_self, hx⟩

/-! ### Whether a computation fails -/

/-- A computation fails. -/
def Fails (x : Except ε α) : Prop := ∃ e, x = .error e

theorem fails_error (e : ε) : Fails (.error e : Except ε α) := ⟨e, rfl⟩

theorem not_fails_ok (a : α) : ¬ Fails (.ok a : Except ε α) := nofun

theorem not_fails_iff {x : Except ε α} : ¬ Fails x ↔ ∃ a, x = .ok a := by
  cases x with
  | error e => exact ⟨fun h => absurd (fails_error e) h, nofun⟩
  | ok a => exact ⟨fun _ => ⟨a, rfl⟩, fun _ => not_fails_ok a⟩

theorem not_fails_of_isOk {x : Except ε α} (h : x.isOk = true) : ¬ Fails x := by
  rintro ⟨e, rfl⟩
  cases h

theorem fails_bind_iff {x : Except ε α} {f : α → Except ε β} :
    Fails (x >>= f) ↔ Fails x ∨ ∃ a, x = .ok a ∧ Fails (f a) := by
  cases x with
  | error e => exact ⟨fun _ => .inl (fails_error e), fun _ => fails_error e⟩
  | ok a =>
    constructor
    · exact fun h => .inr ⟨a, rfl, h⟩
    · rintro (h | ⟨_, ha, h⟩)
      · exact absurd h (not_fails_ok a)
      · rw [← Except.ok.inj ha] at h
        exact h

/-- What comes behind a part may fail for a reason that the part has no influence on. -/
theorem fails_bind_iff_or {x : Except ε α} {f : α → Except ε β} {p : Prop}
    (h : ∀ a, Fails (f a) ↔ p) : Fails (x >>= f) ↔ Fails x ∨ p := by
  cases x with
  | error e => exact ⟨fun _ => .inl (fails_error e), fun _ => fails_error e⟩
  | ok a =>
    have hrest : Fails (.ok a >>= f) ↔ p := h a
    rw [hrest]
    exact ⟨.inr, fun hfails => hfails.resolve_left (not_fails_ok a)⟩

/-- What is only put together at the end does not fail. -/
theorem fails_bind_pure_iff {x : Except ε α} {f : α → β} :
    Fails (x >>= fun a => pure (f a)) ↔ Fails x := by
  rw [fails_bind_iff]
  constructor
  · rintro (h | ⟨a, -, h⟩)
    · exact h
    · exact absurd h (not_fails_ok _)
  · exact .inl

theorem fails_mapM_iff {f : α → Except ε β} {xs : List α} :
    Fails (xs.mapM f) ↔ ∃ x ∈ xs, Fails (f x) := by
  constructor
  · rintro ⟨e, he⟩
    obtain ⟨x, hx, he⟩ := exists_of_mapM_eq_error he
    exact ⟨x, hx, e, he⟩
  · rintro ⟨x, hx, hfails⟩
    by_contra hok
    obtain ⟨ys, hys⟩ := not_fails_iff.mp hok
    obtain ⟨i, hi, rfl⟩ := List.mem_iff_getElem.mp hx
    have hforall := mapM_eq_ok_iff.mp hys
    have hi' : i < ys.length := by
      rw [← hforall.length_eq]
      exact hi
    rw [show f xs[i] = .ok ys[i] from hforall.get hi hi'] at hfails
    exact not_fails_ok _ hfails

/-! ### What failures have in common -/

/-- All failures of a computation have some property. -/
def FailsOnly (P : ε → Prop) (x : Except ε α) : Prop := ∀ e, x = .error e → P e

namespace FailsOnly

variable {P Q : ε → Prop} {x : Except ε α}

theorem ok (a : α) : FailsOnly P (.ok a : Except ε α) := nofun

theorem error {e : ε} (h : P e) : FailsOnly P (.error e : Except ε α) :=
  fun _ he => Except.error.inj he ▸ h

theorem mono (h : FailsOnly P x) (hPQ : ∀ e, P e → Q e) : FailsOnly Q x :=
  fun e he => hPQ e (h e he)

theorem bind {f : α → Except ε β} (hx : FailsOnly P x)
    (hf : ∀ a, x = .ok a → FailsOnly P (f a)) : FailsOnly P (x >>= f) := by
  intro e h
  rcases bind_eq_error_iff.mp h with h | ⟨a, ha, h⟩
  · exact hx e h
  · exact hf a ha e h

theorem map (hx : FailsOnly P x) (f : α → β) : FailsOnly P (x.map f) :=
  fun e h => hx e (map_eq_error_iff.mp h)

theorem of_map {f : α → β} (h : FailsOnly P (x.map f)) : FailsOnly P x :=
  fun e he => h e (map_eq_error_iff.mpr he)

theorem mapM {f : α → Except ε β} {xs : List α} (h : ∀ x ∈ xs, FailsOnly P (f x)) :
    FailsOnly P (xs.mapM f) := by
  intro e he
  obtain ⟨x, hx, he⟩ := exists_of_mapM_eq_error he
  exact h x hx e he

end FailsOnly

/-! ### Two computations -/

/-- Two computations both fail, or both end, and what they end in is related. -/
inductive Agree {ε' β : Type} (R : α → β → Prop) : Except ε α → Except ε' β → Prop where
  /-- Both end. -/
  | ok {a : α} {b : β} (h : R a b) : Agree R (.ok a) (.ok b)
  /-- Both fail. -/
  | error (e : ε) (e' : ε') : Agree R (.error e) (.error e')

namespace Agree

variable {ε' α' β β' : Type} {R : α → β → Prop} {S : α' → β' → Prop} {x : Except ε α}
  {y : Except ε' β}

theorem of_fails (hx : Fails x) (hy : Fails y) : Agree R x y := by
  obtain ⟨e, rfl⟩ := hx
  obtain ⟨e', rfl⟩ := hy
  exact .error e e'

theorem fails_iff (h : Agree R x y) : Fails x ↔ Fails y := by
  cases h with
  | ok h => exact iff_of_false (not_fails_ok _) (not_fails_ok _)
  | error e e' => exact iff_of_true (fails_error e) (fails_error e')

theorem exists_of_ok (h : Agree R x y) {a : α} (hx : x = .ok a) : ∃ b, y = .ok b ∧ R a b := by
  cases h with
  | ok h => exact ⟨_, rfl, Except.ok.inj hx ▸ h⟩
  | error e e' => cases hx

theorem bind {f : α → Except ε α'} {g : β → Except ε' β'} (h : Agree R x y)
    (hfg : ∀ a b, R a b → Agree S (f a) (g b)) : Agree S (x >>= f) (y >>= g) := by
  cases h with
  | ok h => exact hfg _ _ h
  | error e e' => exact .error e e'

theorem map {f : α → α'} {g : β → β'} (h : Agree R x y) (hfg : ∀ a b, R a b → S (f a) (g b)) :
    Agree S (x.map f) (y.map g) := by
  cases h with
  | ok h => exact .ok (hfg _ _ h)
  | error e e' => exact .error e e'

end Agree

/-- A computation agrees with itself. -/
theorem agree_self {R : α → α → Prop} (hrefl : ∀ a, R a a) (x : Except ε α) : Agree R x x := by
  cases x with
  | error e => exact .error e e
  | ok a => exact .ok (hrefl a)

end Workflow.Outcome
