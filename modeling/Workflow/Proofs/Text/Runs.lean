import Mathlib.Data.List.Basic
import Workflow.Proofs.Text.Blank

/-!
# Words in a text

The `runs` of a text are what stands between its other characters: letters and digits, as many as
there are.  Where a text is put together with other characters at the seams, the runs of the whole
are those of the parts (`mem_runs_append`, `mem_runs_group`); empty ones are left aside, as each
seam may bring or take them.
-/

namespace Workflow.Text

/-- The runs of letters and digits in a text; between two other characters in a row there is an
empty one. -/
def runs (cs : List Char) : List (List Char) := cs.splitOnP fun c => !c.isAlphanum

/-- A word stands in a text where neither letters nor digits adjoin it. -/
def StandsIn (word s : String) : Prop := word.toList ∈ runs s.toList

instance (word s : String) : Decidable (StandsIn word s) :=
  inferInstanceAs (Decidable (word.toList ∈ runs s.toList))

theorem runs_nil : runs [] = [[]] := List.splitOnP_nil

/-- Letters and digits alone are one run. -/
theorem runs_eq_singleton {cs : List Char} (h : ∀ c ∈ cs, c.isAlphanum = true) : runs cs = [cs] :=
  List.splitOnP_eq_singleton fun c hc => by rw [h c hc, Bool.not_true]

theorem runs_append_cons (front : List Char) {c : Char} (hc : c.isAlphanum = false)
    (back : List Char) : runs (front ++ c :: back) = runs front ++ runs back :=
  List.splitOnP_append_cons front back (by rw [hc, Bool.not_false])

/-- The characters of a run are characters of the text. -/
theorem mem_of_mem_runs {cs word : List Char} (h : word ∈ runs cs) {c : Char} (hc : c ∈ word) :
    c ∈ cs := by
  induction cs generalizing word with
  | nil =>
    rw [runs_nil, List.mem_singleton] at h
    rwa [h] at hc
  | cons d cs ih =>
    rw [runs, List.splitOnP_cons_eq_if_modifyHead] at h
    split_ifs at h
    · rcases List.mem_cons.mp h with rfl | h
      · cases hc
      · exact List.mem_cons_of_mem d (ih h hc)
    · -- The character lengthens the first run.
      obtain ⟨first, rest, hruns⟩ : ∃ first rest, runs cs = first :: rest :=
        List.exists_cons_of_ne_nil (List.splitOnP_ne_nil _ cs)
      rw [← runs, hruns, List.modifyHead_cons] at h
      rcases List.mem_cons.mp h with rfl | h
      · rcases List.mem_cons.mp hc with rfl | hc
        · exact List.mem_cons_self
        · exact List.mem_cons_of_mem d (ih (hruns ▸ List.mem_cons_self) hc)
      · exact List.mem_cons_of_mem d (ih (hruns ▸ List.mem_cons_of_mem first h) hc)

section

variable {word : List Char} (hword : word ≠ [])

include hword

theorem not_mem_runs_nil : word ∉ runs [] := by
  rwa [runs_nil, List.mem_singleton]

/-- Behind the parts of a text there may stand what starts with another character. -/
theorem mem_runs_append (front : List Char) {back : List Char}
    (hback : ∀ c rest, back = c :: rest → c.isAlphanum = false) :
    word ∈ runs (front ++ back) ↔ word ∈ runs front ∨ word ∈ runs back := by
  cases back with
  | nil =>
    rw [List.append_nil]
    exact (or_iff_left (not_mem_runs_nil hword)).symm
  | cons c back =>
    have hc : c.isAlphanum = false := hback c back rfl
    have hstart : runs (c :: back) = runs [] ++ runs back := runs_append_cons [] hc back
    rw [runs_append_cons front hc, hstart, List.mem_append, List.mem_append,
      or_iff_right (not_mem_runs_nil hword)]

theorem mem_runs_cons {c : Char} (hc : c.isAlphanum = false) (cs : List Char) :
    word ∈ runs (c :: cs) ↔ word ∈ runs cs := by
  have hstart : runs (c :: cs) = runs [] ++ runs cs := runs_append_cons [] hc cs
  rw [hstart, List.mem_append, or_iff_right (not_mem_runs_nil hword)]

theorem mem_runs_intercalate (texts : List (List Char)) :
    word ∈ runs ([','].intercalate texts) ↔ ∃ cs ∈ texts, word ∈ runs cs := by
  induction texts with
  | nil => exact iff_of_false (not_mem_runs_nil hword) (by rintro ⟨cs, hcs, -⟩; cases hcs)
  | cons cs texts ih =>
    cases texts with
    | nil => simp
    | cons next texts =>
      have hcomma : (',' : Char).isAlphanum = false := by decide
      rw [List.intercalate_cons_cons, List.append_assoc, List.singleton_append,
        runs_append_cons _ hcomma, List.mem_append, ih]
      exact (List.exists_mem_cons_iff (word ∈ runs ·) cs (next :: texts)).symm

/-- The runs of a list in parentheses with something behind it. -/
theorem mem_runs_group (texts : List (List Char)) (tail : List Char) :
    word ∈ runs ('(' :: ([','].intercalate texts ++ ')' :: tail)) ↔
      (∃ cs ∈ texts, word ∈ runs cs) ∨ word ∈ runs tail := by
  have hclosing : (')' : Char).isAlphanum = false := by decide
  rw [mem_runs_cons hword (by decide), runs_append_cons _ hclosing, List.mem_append,
    mem_runs_intercalate hword]

end

end Workflow.Text
