import Workflow.Expression.Path
import Mathlib.Data.List.TakeWhile

/-!
# The texts of paths

A path is well-formed if its keys can be told apart in a text: they have no blanks, points and
brackets, and its indices are rows of digits.  Reading takes exactly the texts of well-formed paths,
each of them for the path that it is the text of (`Path.parse_eq_some_iff`), so the path of an
expression is unique (`Path.eq_of_render_eq`).

A segment ends where the next one starts, because a key holds neither of the characters with which
segments start (`takeWhile_flatMap_renderSegment`).
-/

namespace Workflow

/-! ### Well-formed paths -/

/-- A key of the path language. -/
def Path.IsKey (name : List Char) : Prop :=
  name ≠ [] ∧ ∀ c ∈ name, Text.isBlank c = false ∧ c ≠ '.' ∧ c ≠ '[' ∧ c ≠ ']'

/-- An index of the path language. -/
def Path.IsNumeral (digits : List Char) : Prop :=
  digits ≠ [] ∧ ∀ d ∈ digits, Text.isDigit d = true

/-- A segment whose key is a key, or whose index is a row of digits. -/
def Segment.WellFormed : Segment → Prop
  | .key name => Path.IsKey name
  | .index digits => Path.IsNumeral digits

/-- A path all of whose segments are well-formed. -/
structure Path.WellFormed (p : Path) : Prop where
  /-- The first key is a key. -/
  head : IsKey p.head
  /-- The segments behind it are well-formed. -/
  tail : ∀ s ∈ p.tail, s.WellFormed

namespace Path

theorem isKeyChar_iff (c : Char) :
    isKeyChar c = true ↔ Text.isBlank c = false ∧ c ≠ '.' ∧ c ≠ '[' ∧ c ≠ ']' := by
  simp [isKeyChar, and_assoc]

theorem isKey_iff (name : List Char) :
    IsKey name ↔ name ≠ [] ∧ ∀ c ∈ name, isKeyChar c = true := by
  simp only [IsKey, isKeyChar_iff]

instance (name : List Char) : Decidable (IsKey name) :=
  decidable_of_iff (name ≠ [] ∧ name.all isKeyChar = true)
    (by rw [isKey_iff, List.all_eq_true])

instance (digits : List Char) : Decidable (IsNumeral digits) :=
  decidable_of_iff (digits ≠ [] ∧ digits.all Text.isDigit = true)
    (by rw [IsNumeral, List.all_eq_true])

instance (s : Segment) : Decidable s.WellFormed :=
  match s with
  | .key name => inferInstanceAs (Decidable (IsKey name))
  | .index digits => inferInstanceAs (Decidable (IsNumeral digits))

/-! ### Where a segment ends -/

/-- A text of segments is empty or starts with the first character of a segment. -/
theorem flatMap_renderSegment_eq (segments : List Segment) :
    segments.flatMap renderSegment = [] ∨ ∃ c rest,
      segments.flatMap renderSegment = c :: rest ∧ (c = '.' ∨ c = '[') := by
  cases segments with
  | nil => exact Or.inl rfl
  | cons s segments =>
    right
    cases s with
    | key name => exact ⟨'.', _, rfl, Or.inl rfl⟩
    | index digits => exact ⟨'[', _, rfl, Or.inr rfl⟩

/-- A key in front of segments ends where they start. -/
theorem takeWhile_flatMap_renderSegment {name : List Char} (hname : IsKey name)
    (segments : List Segment) :
    (name ++ segments.flatMap renderSegment).takeWhile isKeyChar = name ∧
      (name ++ segments.flatMap renderSegment).dropWhile isKeyChar
        = segments.flatMap renderSegment := by
  have hall := ((isKey_iff name).mp hname).2
  rw [List.takeWhile_append_of_pos hall, List.dropWhile_append_of_pos hall]
  rcases flatMap_renderSegment_eq segments with hnil | ⟨c, rest, hcons, hc⟩
  · simp [hnil]
  · have hstop : isKeyChar c = false := by
      rcases hc with rfl | rfl <;> decide
    simp [hcons, hstop]

/-- An index ends at its bracket. -/
theorem takeWhile_isDigit_append {digits : List Char} (h : IsNumeral digits)
    (rest : List Char) :
    (digits ++ ']' :: rest).takeWhile Text.isDigit = digits ∧
      (digits ++ ']' :: rest).dropWhile Text.isDigit = ']' :: rest := by
  have hstop : Text.isDigit ']' = false := by decide
  rw [List.takeWhile_append_of_pos h.2, List.dropWhile_append_of_pos h.2]
  simp [hstop]

/-! ### Reading what was written -/

theorem readSegments_flatMap {segments : List Segment} (h : ∀ s ∈ segments, s.WellFormed)
    (steps : Nat) (hsteps : segments.length ≤ steps) :
    readSegments steps (segments.flatMap renderSegment) = some segments := by
  induction segments generalizing steps with
  | nil => cases steps <;> rfl
  | cons s segments ih =>
    obtain ⟨steps, rfl⟩ := Nat.exists_eq_add_of_le' hsteps
    rw [List.length_cons, ← Nat.add_assoc]
    obtain ⟨hs, hrest⟩ := List.forall_mem_cons.mp h
    have hread := ih hrest (steps + segments.length) (Nat.le_add_left ..)
    cases s with
    | key name =>
      obtain ⟨htake, hdrop⟩ := takeWhile_flatMap_renderSegment hs segments
      simp only [List.flatMap_cons, renderSegment, List.cons_append, readSegments]
      simp [htake, hdrop, hs.1, hread]
    | index digits =>
      obtain ⟨htake, hdrop⟩ := takeWhile_isDigit_append hs (segments.flatMap renderSegment)
      simp only [List.flatMap_cons, renderSegment, List.cons_append, List.append_assoc,
        List.nil_append, readSegments]
      simp [htake, hdrop, hs.1, hread]

/-! ### Writing what was read -/

theorem of_readSegments_eq_some {steps : Nat} {cs : List Char} {segments : List Segment}
    (h : readSegments steps cs = some segments) :
    (∀ s ∈ segments, s.WellFormed) ∧ segments.flatMap renderSegment = cs := by
  -- Each segment takes one of the steps, and reading goes on with those that are left.
  induction steps generalizing cs segments with
  | zero =>
    cases cs with
    | nil =>
      obtain rfl := Option.some.inj h
      simp
    | cons c cs => simp [readSegments] at h
  | succ steps ih =>
    cases cs with
    | nil =>
      obtain rfl := Option.some.inj h
      simp
    | cons c cs =>
      simp only [readSegments] at h
      split_ifs at h with hpoint hempty hbracket
      · -- A point and the key behind it.
        obtain ⟨more, hmore, rfl⟩ := Option.map_eq_some_iff.mp h
        obtain ⟨hall, htext⟩ := ih hmore
        have hkey : IsKey (cs.takeWhile isKeyChar) :=
          (isKey_iff _).mpr ⟨by simpa using hempty, fun c hc => List.mem_takeWhile_imp hc⟩
        refine ⟨List.forall_mem_cons.mpr ⟨hkey, hall⟩, ?_⟩
        rw [List.flatMap_cons, htext, renderSegment, List.cons_append,
          List.takeWhile_append_dropWhile, eq_of_beq hpoint]
      · -- A bracket, an index and the bracket behind it.
        split at h
        · next d rest hrest =>
          split_ifs at h with hclose
          rw [Bool.and_eq_true] at hclose
          obtain ⟨more, hmore, rfl⟩ := Option.map_eq_some_iff.mp h
          obtain ⟨hall, htext⟩ := ih hmore
          have hindex : IsNumeral (cs.takeWhile Text.isDigit) :=
            ⟨by simpa using hclose.2, fun d hd => List.mem_takeWhile_imp hd⟩
          refine ⟨List.forall_mem_cons.mpr ⟨hindex, hall⟩, ?_⟩
          rw [List.flatMap_cons, htext, renderSegment, List.cons_append, List.append_assoc,
            List.singleton_append, ← eq_of_beq hclose.1, ← hrest,
            List.takeWhile_append_dropWhile, eq_of_beq hbracket]
        · cases h

/-! ### Expressions -/

/-- The segments of a text are not longer than the text. -/
theorem length_le_length_flatMap_renderSegment (segments : List Segment) :
    segments.length ≤ (segments.flatMap renderSegment).length := by
  induction segments with
  | nil => simp
  | cons s segments ih =>
    have hs : 1 ≤ (renderSegment s).length := by
      cases s <;> simp [renderSegment]
    rw [List.flatMap_cons, List.length_append, List.length_cons]
    omega

theorem parse_render {p : Path} (h : p.WellFormed) : parse p.render = some p := by
  obtain ⟨htake, hdrop⟩ := takeWhile_flatMap_renderSegment h.head p.tail
  simp only [render, parse, htake, hdrop]
  rw [if_neg (by simpa using h.head.1),
    readSegments_flatMap h.tail _ (length_le_length_flatMap_renderSegment p.tail)]
  rfl

theorem of_parse_eq_some {cs : List Char} {p : Path} (h : parse cs = some p) :
    p.WellFormed ∧ p.render = cs := by
  unfold parse at h
  split at h
  · next cs =>
    simp only at h
    split_ifs at h with hempty
    obtain ⟨segments, hsegments, rfl⟩ := Option.map_eq_some_iff.mp h
    obtain ⟨hall, htext⟩ := of_readSegments_eq_some hsegments
    have hkey : IsKey (cs.takeWhile isKeyChar) :=
      (isKey_iff _).mpr ⟨by simpa using hempty, fun c hc => List.mem_takeWhile_imp hc⟩
    refine ⟨⟨hkey, hall⟩, ?_⟩
    rw [render, htext, List.takeWhile_append_dropWhile]
  · cases h

/-- Reading takes the texts of well-formed paths and nothing else. -/
theorem parse_eq_some_iff (cs : List Char) (p : Path) :
    parse cs = some p ↔ p.WellFormed ∧ p.render = cs := by
  constructor
  · exact of_parse_eq_some
  · rintro ⟨h, rfl⟩
    exact parse_render h

/-- The path of a text is unique. -/
theorem eq_of_render_eq {p q : Path} (hp : p.WellFormed) (hq : q.WellFormed)
    (h : p.render = q.render) : p = q := by
  have hread := parse_render hp
  rw [h, parse_render hq] at hread
  exact (Option.some.inj hread).symm

end Path

end Workflow
