import Workflow.Failure.Stated
import Workflow.Proofs.Outcomes

/-!
# Failures to form a transaction

The rules foresee three kinds of failures to form a transaction, with the kinds that these comprise:
of the set-up, of the resolution and of the coding (`Failure.IsForming`).  Such a failure does not
pass.  The set-up is looked at where an operation or a step is, and not where the values in it are
read: there only the other two kinds are met (`Failure.IsRefusal`).  `Failure.Foreseen` adds some
faults; a fault may pass as far as anybody can tell.

A value is behind a fault in two ways (`Value.Unfit`): as a text whose last character is a line
break where hexadecimal digits are expected, and by an integer with too many digits for a message.
Such an integer also takes the text away from a failure that shows it (`Failure.text_eq_ok_iff`,
`Failure.isRefusalOf_showing`).
-/

namespace Workflow

/-! ### Kinds of failures -/

/-- Whether a kind is one of the failures to form a transaction. -/
def FailureKind.isForming (kind : FailureKind) : Bool :=
  [kind, kind.wider].any [.misconfigured, .unresolved, .coding].contains

/-- Whether a kind is one of the failures to resolve or to code a value. -/
def FailureKind.isRefusal (kind : FailureKind) : Bool :=
  [kind, kind.wider].any [.unresolved, .coding].contains

namespace Failure

/-- The failures to form a transaction that the rules foresee. -/
def IsForming (e : Failure) : Prop := ∃ kind, e.kind? = some kind ∧ kind.isForming = true

/-- A failure to form a transaction does not pass. -/
theorem IsForming.isTransient_eq {e : Failure} (h : e.IsForming) : e.isTransient = false := by
  obtain ⟨kind, hkind, hforming⟩ := h
  rw [isTransient, hkind]
  cases kind <;> first | rfl | cases hforming

/-- The failures of the coding, of whatever problem. -/
def IsCoding (e : Failure) : Prop := ∃ problem, e = coding problem

theorem isCoding_coding (problem : CodingProblem) : (coding problem).IsCoding := ⟨problem, rfl⟩

/-- The failures to resolve or to code a value that the rules foresee. -/
def IsRefusal (e : Failure) : Prop := ∃ kind, e.kind? = some kind ∧ kind.isRefusal = true

theorem isRefusal_coding (problem : CodingProblem) : (coding problem).IsRefusal := ⟨_, rfl, rfl⟩

theorem IsCoding.isRefusal {e : Failure} (h : e.IsCoding) : e.IsRefusal := by
  obtain ⟨problem, rfl⟩ := h
  exact isRefusal_coding problem

theorem IsRefusal.isForming {e : Failure} (h : e.IsRefusal) : e.IsForming := by
  obtain ⟨kind, hkind, hrefusal⟩ := h
  refine ⟨kind, hkind, ?_⟩
  cases kind <;> first | rfl | cases hrefusal

/-- A refused value is no matter of the set-up. -/
theorem IsRefusal.kind?_ne_misconfigured {e : Failure} (h : e.IsRefusal) :
    e.kind? ≠ some .misconfigured := by
  obtain ⟨kind, hkind, hrefusal⟩ := h
  rw [hkind]
  rintro ⟨⟩
  cases hrefusal

/-- A failure of a class that the rules foresee, or one of some faults. -/
inductive Foreseen (R : Failure → Prop) (P : Fault → Prop) : Failure → Prop where
  | rule {e : Failure} (h : R e) : Foreseen R P e
  | fault {f : Fault} (h : P f) : Foreseen R P (.fault f)

namespace Foreseen

variable {R S : Failure → Prop} {P Q : Fault → Prop} {e : Failure}

theorem mono (h : e.Foreseen R P) (hPQ : ∀ f, P f → Q f) : e.Foreseen R Q := by
  cases h with
  | rule h => exact .rule h
  | fault h => exact .fault (hPQ _ h)

theorem widen (h : e.Foreseen R P) (hRS : ∀ e, R e → S e) : e.Foreseen S P := by
  cases h with
  | rule h => exact .rule (hRS _ h)
  | fault h => exact .fault h

end Foreseen

end Failure

/-! ### Texts of failures -/

/-- How a value comes to be behind a fault. -/
inductive Value.Unfit : Value → Fault → Prop where
  /-- A line break stands where digits are expected. -/
  | lineBreak {s : String} {cs : List Char} (h : s.toList = cs ++ ['\n']) :
    Unfit (.text s) (.hex .oddLength)
  /-- An integer in the value is too long for a message. -/
  | tooLong {v : Value} (h : v.isWritable = false) : Unfit v (.numeral .tooLongToWrite)

/-- The text of a failure is its wording, unless an integer in it is too long. -/
theorem Failure.text_eq_ok_iff {e : Failure} {s : String} :
    e.text = .ok s ↔ e.isWritable = true ∧ s = e.message := by
  rw [text]
  split_ifs with hwritable
  · rw [Except.ok.injEq]
    exact ⟨fun h => ⟨hwritable, h.symm⟩, fun h => h.2.symm⟩
  · exact iff_of_false nofun fun h => hwritable h.1

theorem Failure.text_eq_error_iff {e f : Failure} :
    e.text = .error f ↔ e.isWritable = false ∧ f = .fault (.numeral .tooLongToWrite) := by
  rw [text]
  split_ifs with hwritable
  · exact iff_of_false nofun fun h => absurd hwritable (Bool.eq_false_iff.mp h.1)
  · rw [Except.error.injEq]
    exact ⟨fun h => ⟨Bool.eq_false_iff.mpr hwritable, h.symm⟩, fun h => h.2.symm⟩

theorem Failure.showing_of_isWritable {v : Value} (h : v.isWritable = true) (e : Failure) :
    showing v e = e := if_pos h

theorem Failure.showing_of_not_isWritable {v : Value} (h : v.isWritable = false) (e : Failure) :
    showing v e = .fault (.numeral .tooLongToWrite) := by
  rw [showing, h]
  rfl

/-- The least integer that is too long for a message. -/
def Value.leastTooLong : Value := .int (Nat.pow 10 Numeral.digitLimit : Nat)

theorem Value.isWritable_leastTooLong : leastTooLong.isWritable = false := by
  rw [leastTooLong, isWritable, Int.natAbs_natCast]
  exact decide_eq_false (Nat.lt_irrefl _)

/-- A value is refused for a problem of the coding; if the refusal cannot show the value, it is a
fault. -/
def Failure.IsRefusalOf (e : Failure) (v : Value) (problem : CodingProblem) : Prop :=
  v.isWritable = true ∧ e = .coding problem
    ∨ v.isWritable = false ∧ e = .fault (.numeral .tooLongToWrite)

theorem Failure.isRefusalOf_showing (v : Value) (problem : CodingProblem) :
    (showing v (.coding problem)).IsRefusalOf v problem := by
  cases hwritable : v.isWritable with
  | true => exact .inl ⟨hwritable, showing_of_isWritable hwritable _⟩
  | false => exact .inr ⟨hwritable, showing_of_not_isWritable hwritable _⟩

theorem Failure.foreseen_showing {R : Failure → Prop} {P : Fault → Prop} {v : Value} {e : Failure}
    (h : R e) (hP : v.isWritable = false → P (.numeral .tooLongToWrite)) :
    (Failure.showing v e).Foreseen R P := by
  rw [showing]
  split_ifs with hwritable
  · exact .rule h
  · exact .fault (hP (Bool.eq_false_iff.mpr hwritable))

/-! ### Forming parts of a transaction -/

namespace Outcome

/-- A computation that forms a part of a transaction from values: each of its failures is a refusal
of a value, or one of some faults. -/
abbrev Forms {α : Type} (P : Fault → Prop) (x : Except Failure α) : Prop :=
  FailsOnly (Failure.Foreseen Failure.IsRefusal P) x

variable {α ι : Type} {R S : Failure → Prop} {P Q : Fault → Prop} {x : Except Failure α}

namespace FailsOnly

theorem of_rules (h : FailsOnly R x) : FailsOnly (Failure.Foreseen R P) x :=
  h.mono fun _ => .rule

theorem imp (h : FailsOnly (Failure.Foreseen R P) x) (hPQ : ∀ f, P f → Q f) :
    FailsOnly (Failure.Foreseen R Q) x := h.mono fun _ he => he.mono hPQ

/-- Where more is looked at, more may be refused. -/
theorem widen (h : FailsOnly (Failure.Foreseen R P) x) (hRS : ∀ e, R e → S e) :
    FailsOnly (Failure.Foreseen S P) x := h.mono fun _ he => he.widen hRS

variable {parts : ι → Fault → Prop} {a : ι} {xs : List ι}

/-- A fault that one of several parts is the reason for. -/
theorem of_mem (ha : a ∈ xs) (h : FailsOnly (Failure.Foreseen R (parts a)) x) :
    FailsOnly (Failure.Foreseen R fun f => ∃ b ∈ xs, parts b f) x :=
  h.imp fun _ hf => ⟨a, ha, hf⟩

theorem of_tail (h : FailsOnly (Failure.Foreseen R fun f => ∃ b ∈ xs, parts b f) x) :
    FailsOnly (Failure.Foreseen R fun f => ∃ b ∈ a :: xs, parts b f) x := by
  refine h.imp ?_
  rintro f ⟨b, hb, hf⟩
  exact ⟨b, List.mem_cons_of_mem a hb, hf⟩

end FailsOnly

namespace Forms

theorem coding (problem : CodingProblem) :
    Forms P (.error (.coding problem) : Except Failure α) :=
  .error (.rule (Failure.isRefusal_coding problem))

/-- A refusal that shows the refused value is at fault only for an integer in the value. -/
theorem showing (v : Value) (problem : CodingProblem) :
    Forms v.Unfit (.error (.showing v (.coding problem)) : Except Failure α) :=
  .error (Failure.foreseen_showing (Failure.isRefusal_coding problem) .tooLong)

end Forms

end Outcome

end Workflow
