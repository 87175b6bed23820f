import Workflow.Json.Reader
import Workflow.Proofs.Outcomes

/-!
# Reading under a bound on nesting

A bound on the arrays and objects around each other takes readings away and changes none: what is
read under a bound is read without one, or the reader stops because it is too deep
(`decode_of_bound`).  Without a bound it never stops for that (`decode_ne_tooDeep`).

The five readers call each other with one reading less, so both facts are shown of all of them by
one induction on the number of readings (`readers_keepTo`).
-/

namespace Workflow.Json

open Outcome

/-- A stop for another reason than the depth. -/
def Stop.IsOfText (stop : Stop) : Prop := stop ≠ .tooDeep

/-! ### Tokens -/

theorem failsOnly_breach {α : Type} (problem : Problem) (rest : List UInt8) :
    FailsOnly Stop.IsOfText (breach problem rest : Except Stop α) := .error nofun

theorem failsOnly_readWord (word : String) (v : Value) (bs : List UInt8) :
    FailsOnly Stop.IsOfText (readWord word v bs) := by
  rw [readWord]
  split_ifs
  · exact .error nofun
  · exact .ok _
  · exact failsOnly_breach _ _

theorem failsOnly_readTextBytes (done bs : List UInt8) :
    FailsOnly Stop.IsOfText (readTextBytes done bs) := by
  fun_induction readTextBytes done bs <;>
    first
    | assumption
    | exact .ok _
    | exact .error nofun
    | exact failsOnly_breach _ _
    | (split_ifs; exact .error nofun)

theorem failsOnly_readText (bs : List UInt8) : FailsOnly Stop.IsOfText (readText bs) := by
  have hbytes := failsOnly_readTextBytes [] bs
  rw [readText]
  cases hread : readTextBytes [] bs with
  | error stop => exact .error (hbytes stop hread)
  | ok content =>
    dsimp only
    cases Utf8.firstFlaw content.1 with
    | none => exact .ok _
    | some flaw => exact .error nofun

theorem failsOnly_readWhole (bs : List UInt8) : FailsOnly Stop.IsOfText (readWhole bs) := by
  rw [readWhole]
  rcases takeDigits bs with ⟨digits, rest⟩
  dsimp only
  split
  · exact failsOnly_breach _ _
  · exact failsOnly_breach _ _
  · exact .ok _

theorem failsOnly_readFraction (bs : List UInt8) :
    FailsOnly Stop.IsOfText (readFraction bs) := by
  unfold readFraction
  split
  · dsimp only
    split_ifs
    · exact failsOnly_breach _ _
    · exact .ok _
  · exact .ok _

theorem failsOnly_readExponent (bs : List UInt8) :
    FailsOnly Stop.IsOfText (readExponent bs) := by
  unfold readExponent
  split
  · exact .ok _
  · split_ifs
    · dsimp only
      split_ifs
      · exact failsOnly_breach _ _
      · exact .ok _
    · exact .ok _

theorem failsOnly_number (place : Place) (negative : Bool) (whole : List Nat)
    (fraction : Option (List Nat)) (exponent : Option Int) :
    FailsOnly Stop.IsOfText (number place negative whole fraction exponent) := by
  unfold number
  by_cases hwhole : fraction.isNone && exponent.isNone
  · rw [if_pos hwhole]
    split_ifs <;> first | exact .error nofun | exact .ok _
  · rw [if_neg hwhole]
    dsimp only
    split
    · exact .error nofun
    · exact .ok _

theorem failsOnly_readNumber (place : Place) (bs : List UInt8) :
    FailsOnly Stop.IsOfText (readNumber place bs) :=
  (failsOnly_readWhole _).bind fun _ _ =>
    (failsOnly_readFraction _).bind fun _ _ =>
      (failsOnly_readExponent _).bind fun _ _ =>
        FailsOnly.bind (failsOnly_number place _ _ _ _) fun _ _ => .ok _

/-! ### With and without a bound -/

/-- A reading without a bound does not stop because of the depth, and one under a bound comes to
the same or does. -/
structure KeepsTo {α : Type} (free bounded : Except Stop α) : Prop where
  ofText : FailsOnly Stop.IsOfText free
  bounded_eq : bounded = free ∨ bounded = .error .tooDeep

namespace KeepsTo

theorem refl {α : Type} {x : Except Stop α} (h : FailsOnly Stop.IsOfText x) : KeepsTo x x :=
  ⟨h, .inl rfl⟩

theorem breach {α : Type} (problem : Problem) (rest : List UInt8) :
    KeepsTo (Json.breach problem rest : Except Stop α) (Json.breach problem rest) :=
  refl (failsOnly_breach problem rest)

theorem truncated {α : Type} :
    KeepsTo (.error .truncated : Except Stop α) (.error .truncated) := refl (.error nofun)

/-- Under a bound there may be no more room. -/
theorem tooDeep {α : Type} {free bounded : Except Stop α} (h : KeepsTo free bounded) :
    KeepsTo free (.error .tooDeep) := ⟨h.ofText, .inr rfl⟩

/-- Where a value is read and then what is behind it, readings keep to each other as those of the
two parts do. -/
theorem behind {α : Type} {free bounded : Except Stop (Value × List UInt8)}
    {next next' : Value → List UInt8 → Except Stop α} :
    KeepsTo free bounded → (∀ v rest, KeepsTo (next v rest) (next' v rest)) →
    KeepsTo
      (match free with
        | .error stop => .error stop
        | .ok (v, rest) => next v rest)
      (match bounded with
        | .error stop => .error stop
        | .ok (v, rest) => next' v rest) := by
  rintro ⟨hfree, heq⟩ hnext
  cases free with
  | error stop =>
    have hstop : FailsOnly Stop.IsOfText (.error stop : Except Stop α) := .error (hfree stop rfl)
    rcases heq with rfl | rfl
    · exact refl hstop
    · exact ⟨hstop, .inr rfl⟩
  | ok read =>
    rcases heq with rfl | rfl
    · exact hnext read.1 read.2
    · exact ⟨(hnext read.1 read.2).ofText, .inr rfl⟩

end KeepsTo

/-- With a number of nested readings left, all readers under a bound keep to those without one. -/
structure ReadersKeepTo (limit? : Option Nat) (steps : Nat) : Prop where
  value : ∀ place bs,
    KeepsTo (readValue steps place bs) (@readValue ⟨limit?⟩ steps place bs)
  items : ∀ place done bs,
    KeepsTo (readItems steps place done bs) (@readItems ⟨limit?⟩ steps place done bs)
  item : ∀ place done bs,
    KeepsTo (readItem steps place done bs) (@readItem ⟨limit?⟩ steps place done bs)
  fields : ∀ place done? bs,
    KeepsTo (readFields steps place done? bs) (@readFields ⟨limit?⟩ steps place done? bs)
  field : ∀ place done bs,
    KeepsTo (readField steps place done bs) (@readField ⟨limit?⟩ steps place done bs)

variable {limit? : Option Nat} {steps : Nat}

theorem readValue_keepsTo (ih : ReadersKeepTo limit? steps) (place : Place) (bs : List UInt8) :
    KeepsTo (readValue (steps + 1) place bs) (@readValue ⟨limit?⟩ (steps + 1) place bs) := by
  unfold readValue
  cases skipSpace bs with
  | nil => exact .truncated
  | cons b rest =>
    simp only [Nesting.allows_unbounded, if_true]
    split_ifs
    · exact .refl (failsOnly_readWord _ _ _)
    · exact .refl (failsOnly_readWord _ _ _)
    · exact .refl (failsOnly_readWord _ _ _)
    · exact .refl ((failsOnly_readText rest).map _)
    · exact ih.items _ _ _
    · exact (ih.items _ _ _).tooDeep
    · exact ih.fields _ _ _
    · exact (ih.fields _ _ _).tooDeep
    · exact .refl (failsOnly_readNumber _ _)

theorem readItems_keepsTo (ih : ReadersKeepTo limit? steps) (place : Place) (done : List Value)
    (bs : List UInt8) :
    KeepsTo (readItems (steps + 1) place done bs)
      (@readItems ⟨limit?⟩ (steps + 1) place done bs) := by
  unfold readItems
  cases skipSpace bs with
  | nil => exact .truncated
  | cons b rest =>
    dsimp only
    split_ifs
    · exact .refl (.ok _)
    · exact ih.item _ _ _
    · cases skipSpace rest with
      | nil => exact .truncated
      | cons c left =>
        dsimp only
        split_ifs
        · exact .breach _ _
        · exact ih.item _ _ _
    · exact .breach _ _

theorem readItem_keepsTo (ih : ReadersKeepTo limit? steps) (place : Place) (done : List Value)
    (bs : List UInt8) :
    KeepsTo (readItem (steps + 1) place done bs)
      (@readItem ⟨limit?⟩ (steps + 1) place done bs) := by
  unfold readItem
  exact (ih.value _ _).behind fun _ _ => ih.items _ _ _

theorem readFields_keepsTo (ih : ReadersKeepTo limit? steps) (place : Place)
    (done? : Option (List (String × Value))) (bs : List UInt8) :
    KeepsTo (readFields (steps + 1) place done? bs)
      (@readFields ⟨limit?⟩ (steps + 1) place done? bs) := by
  unfold readFields
  cases skipSpace bs with
  | nil => exact .truncated
  | cons b rest =>
    dsimp only
    split_ifs
    · exact .refl (.ok _)
    · cases done? with
      | none => exact ih.field _ _ _
      | some done => exact ih.field _ _ _
    · cases done? with
      | none => exact ih.field _ _ _
      | some done => exact .breach _ _

theorem readField_keepsTo (ih : ReadersKeepTo limit? steps) (place : Place)
    (done : List (String × Value)) (bs : List UInt8) :
    KeepsTo (readField (steps + 1) place done bs)
      (@readField ⟨limit?⟩ (steps + 1) place done bs) := by
  unfold readField
  cases bs with
  | nil => exact .truncated
  | cons b rest =>
    dsimp only
    split_ifs
    · have hname := failsOnly_readText rest
      cases hread : readText rest with
      | error stop => exact .refl (.error (hname stop hread))
      | ok read =>
        dsimp only
        cases skipSpace read.2 with
        | nil => exact .truncated
        | cons c afterColon =>
          dsimp only
          split_ifs
          · exact (ih.value _ _).behind fun _ _ => ih.fields _ _ _
          · exact .breach _ _
    · exact .breach _ _
    · exact .breach _ _

theorem readers_keepTo (limit? : Option Nat) (steps : Nat) : ReadersKeepTo limit? steps := by
  induction steps with
  | zero =>
    exact ⟨fun _ _ => .truncated, fun _ _ _ => .truncated, fun _ _ _ => .truncated,
      fun _ _ _ => .truncated, fun _ _ _ => .truncated⟩
  | succ steps ih =>
    exact ⟨readValue_keepsTo ih, readItems_keepsTo ih, readItem_keepsTo ih, readFields_keepsTo ih,
      readField_keepsTo ih⟩

/-! ### Whole texts -/

theorem readAll_keepsTo (limit? : Option Nat) (bs : List UInt8) :
    KeepsTo (readAll bs) (@readAll ⟨limit?⟩ bs) := by
  have hvalue := (readers_keepTo limit? (3 * bs.length + 3)).value [] bs
  unfold readAll
  refine hvalue.behind fun v rest => ?_
  cases skipSpace rest with
  | nil => exact .refl (.ok v)
  | cons b left => exact .breach _ _

/-- A text is read under a bound as it is without one, or it is too deep. -/
theorem decode_of_bound (limit? : Option Nat) (bs : List UInt8) :
    @decode ⟨limit?⟩ bs = decode bs ∨ @decode ⟨limit?⟩ bs = .error .tooDeep := by
  unfold decode
  rcases (readAll_keepsTo limit? bs).bounded_eq with heq | heq
  · exact .inl (by rw [heq])
  · exact .inr (by rw [heq]; rfl)

/-- Without a bound no text is too deep. -/
theorem decode_ne_tooDeep (bs : List UInt8) : decode bs ≠ .error .tooDeep := by
  intro h
  obtain ⟨stop, hstop, herror⟩ := mapError_eq_error_iff.mp h
  have hother := (readAll_keepsTo none bs).ofText stop hstop
  cases stop with
  | tooDeep => exact hother rfl
  | _ => exact nomatch herror

/-- Without a bound only bytes that are no text stop the reader itself. -/
theorem exists_undecodable {bs : List UInt8} {e : Error} (h : decode bs = .error e)
    (he : e.isInText = false) : ∃ flaw, e = .undecodable flaw := by
  cases e with
  | undecodable flaw => exact ⟨flaw, rfl⟩
  | tooDeep => exact absurd h (decode_ne_tooDeep bs)
  | _ => cases he

end Workflow.Json
