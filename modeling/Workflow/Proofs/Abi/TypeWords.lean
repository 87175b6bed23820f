import Workflow.Proofs.Abi.Rendering
import Workflow.Proofs.Text.Runs

/-!
# Words in the texts of types

A type that has been read is written with bases of letters, sizes behind them, and brackets and
commas around.  So a word of letters stands in its text exactly where it is a base without a size
(`Ty.standsIn_render_iff`), and each character of the text leaves a mark
(`Ty.isGraphic_of_mem_render`).
-/

namespace Workflow.Abi

open Text

/-! ### Words of letters -/

theorem isDigit_of_isAlpha {c : Char} (h : c.isAlpha = true) : Text.isDigit c = false := by
  have hgraphic : IsGraphic c := isGraphic_of_isIdentifierPart
    (isIdentifierPart_of_isAlphanum (by rw [Char.isAlphanum, h, Bool.true_or]))
  have hascii : c.toNat < 0x80 := Nat.lt_trans hgraphic.2 (by decide)
  exact forall_ascii (P := fun c => c.isAlpha = true → Text.isDigit c = false) (by decide) hascii h

/-- Array suffixes are digits in brackets. -/
theorem Suffixes.of_mem {arrays : List Char} (h : Suffixes arrays) {c : Char} (hc : c ∈ arrays) :
    c = '[' ∨ c = ']' ∨ Text.isDigit c = true := by
  induction h with
  | nil => cases hc
  | cons hdigits _ ih =>
    rw [List.mem_append, List.mem_cons, List.mem_cons] at hc
    rcases hc with (rfl | hc) | (rfl | hc)
    · exact .inl rfl
    · exact .inr (.inr (hdigits c hc))
    · exact .inr (.inl rfl)
    · exact ih hc

theorem Suffixes.not_standsIn {arrays : List Char} (h : Suffixes arrays) {word : String}
    (hword : IsLetters word) : ¬ StandsIn word (String.ofList arrays) := by
  intro hstands
  rw [StandsIn, String.toList_ofList] at hstands
  obtain ⟨c, hc⟩ := List.exists_mem_of_ne_nil word.toList (by simpa using hword.1)
  have hletter := hword.2 c hc
  rcases h.of_mem (mem_of_mem_runs hstands hc) with rfl | rfl | hdigit
  · exact absurd hletter (by decide)
  · exact absurd hletter (by decide)
  · cases (isDigit_of_isAlpha hletter).symm.trans hdigit

theorem IsLetters.isElementary {word : String} (h : IsLetters word) : IsElementary word :=
  fun c hc => by rw [Char.isAlphanum, h.2 c hc, Bool.true_or]

/-- A size holds a digit, so a word of letters has none behind it. -/
theorem Size.eq_none_of_isLetters {base : String} {size : Size}
    (h : IsLetters (base ++ size.render)) : size = .none := by
  have hdigit : ∀ n : Nat, ∃ c ∈ (toString n).toList, c.isDigit = true := by
    intro n
    obtain ⟨c, hc⟩ := List.exists_mem_of_ne_nil _ (isNumeral_toString n).1
    exact ⟨c, hc, isDigit_of_mem_toString hc⟩
  have hno : ∀ c ∈ size.render.toList, c.isDigit = false := by
    intro c hc
    have hletter := h.2 c (by simp [hc])
    have hother := isDigit_of_isAlpha hletter
    rw [Bool.eq_false_iff]
    intro hdigit
    cases hother.symm.trans (isDigit_of_isDigit hdigit)
  cases size with
  | none => rfl
  | one n =>
    obtain ⟨c, hc, hdigit⟩ := hdigit n
    cases (hno c hc).symm.trans hdigit
  | two n m =>
    obtain ⟨c, hc, hdigit⟩ := hdigit n
    have hmem : c ∈ (Size.two n m).render.toList := by
      rw [Size.render, String.toList_append, String.toList_append]
      exact List.mem_append_left _ (List.mem_append_left _ hc)
    cases (hno c hmem).symm.trans hdigit

/-! ### Words in a type -/

theorem standsIn_append {word : String} (hne : word ≠ "") (front : String) {tail : List Char}
    (hends : ∀ c rest, tail = c :: rest → c.isAlphanum = false) :
    StandsIn word (front ++ String.ofList tail) ↔
      StandsIn word front ∨ StandsIn word (String.ofList tail) := by
  rw [StandsIn, StandsIn, StandsIn, String.toList_append, String.toList_ofList]
  exact mem_runs_append (by simpa using hne) _ hends

theorem standsIn_elementary_iff {word name : String} (hname : IsElementary name) :
    StandsIn word name ↔ name = word := by
  rw [StandsIn, runs_eq_singleton hname, List.mem_singleton, String.toList_inj]
  exact eq_comm

mutual

/-- A word of letters stands in the text of a type where it is a base without a size. -/
theorem Ty.standsIn_render_iff (t : Ty) (ht : ∀ base size, t.Part base size → IsLetters base)
    {word : String} (hword : IsLetters word) : StandsIn word t.render ↔ t.Part word .none := by
  -- Brackets, commas and digits are no letters, which leaves the bases for a word of letters.
  match t with
  | .basic base size dims =>
    have hbase : IsElementary (base ++ size.render) := by
      rw [IsElementary, String.toList_append, List.forall_mem_append]
      exact ⟨(ht base size .basic).isElementary, fun c hc => Size.isAlphanum_of_mem_render hc⟩
    have hdims := suffixes_renderDims dims
    have hends : ∀ c rest, (renderDims dims).toList = c :: rest → c.isAlphanum = false := by
      intro c rest h
      have hall := alphanum_stops hdims endsType_nil c rest
      rw [List.append_nil] at hall
      exact hall h
    rw [Ty.render, ← String.ofList_toList (s := renderDims dims),
      standsIn_append hword.1 _ hends, or_iff_left (hdims.not_standsIn hword),
      standsIn_elementary_iff hbase]
    constructor
    · rintro rfl
      obtain rfl := Size.eq_none_of_isLetters hword
      have hnone : base ++ Size.none.render = base := by simp [Size.render]
      rw [hnone]
      exact .basic
    · intro h
      cases h
      simp [Size.render]
  | .tuple ts dims =>
    have hne : word.toList ≠ [] := by simpa using hword.1
    have hdims := (suffixes_renderDims dims).not_standsIn hword
    rw [StandsIn, String.toList_ofList] at hdims
    rw [StandsIn, toList_render_tuple, mem_runs_group hne, or_iff_left hdims]
    have hall := standsIn_renderAll_iff ts
      (fun t ht' base size h => ht base size (.component ht' h)) hword
    constructor
    · rintro ⟨cs, hcs, h⟩
      obtain ⟨t, ht', rfl⟩ := List.mem_map.mp hcs
      exact .component ht' ((hall t ht').mp h)
    · intro h
      cases h with
      | component ht' h => exact ⟨_, List.mem_map_of_mem ht', (hall _ ht').mpr h⟩

theorem standsIn_renderAll_iff (ts : List Ty)
    (hts : ∀ t ∈ ts, ∀ base size, t.Part base size → IsLetters base) {word : String}
    (hword : IsLetters word) : ∀ t ∈ ts, StandsIn word t.render ↔ t.Part word .none := by
  match ts with
  | [] => exact fun t ht => absurd ht List.not_mem_nil
  | t :: ts =>
    obtain ⟨ht, hts⟩ := List.forall_mem_cons.mp hts
    exact List.forall_mem_cons.mpr
      ⟨t.standsIn_render_iff ht hword, standsIn_renderAll_iff ts hts hword⟩

end

/-! ### Characters of a type -/

theorem mem_of_mem_intercalate {sep : List Char} {texts : List (List Char)} {c : Char}
    (h : c ∈ sep.intercalate texts) : c ∈ sep ∨ ∃ cs ∈ texts, c ∈ cs := by
  induction texts with
  | nil => cases h
  | cons cs texts ih =>
    cases texts with
    | nil => exact .inr ⟨cs, List.mem_singleton_self cs, by simpa using h⟩
    | cons next texts =>
      rw [List.intercalate_cons_cons, List.mem_append, List.mem_append] at h
      rcases h with (h | h) | h
      · exact .inr ⟨cs, List.mem_cons_self, h⟩
      · exact .inl h
      · exact (ih h).imp_right fun ⟨cs', hcs, hc⟩ => ⟨cs', List.mem_cons_of_mem cs hcs, hc⟩

mutual

/-- Each character in the text of a type leaves a mark. -/
theorem Ty.isGraphic_of_mem_render (t : Ty)
    (ht : ∀ base size, t.Part base size → IsLetters base) :
    ∀ c ∈ t.render.toList, IsGraphic c := by
  intro c hc
  match t with
  | .basic base size dims =>
    rw [Ty.render, String.toList_append, String.toList_append, List.mem_append,
      List.mem_append] at hc
    rcases hc with (hc | hc) | hc
    · exact (isPlain_of_isAlphanum ((ht base size .basic).isElementary c hc)).1
    · exact (isPlain_of_isAlphanum (Size.isAlphanum_of_mem_render hc)).1
    · exact (isPlain_of_mem_renderDims hc).1
  | .tuple ts dims =>
    rw [toList_render_tuple, List.mem_cons, List.mem_append, List.mem_cons] at hc
    have hmarks : IsGraphic '(' ∧ IsGraphic ',' ∧ IsGraphic ')' := by
      unfold IsGraphic
      decide
    rcases hc with rfl | hc | rfl | hc
    · exact hmarks.1
    · rcases mem_of_mem_intercalate hc with hc | ⟨cs, hcs, hc⟩
      · rw [List.mem_singleton.mp hc]
        exact hmarks.2.1
      · obtain ⟨t, ht', rfl⟩ := List.mem_map.mp hcs
        exact isGraphic_of_mem_renderAll ts
          (fun t ht' base size h => ht base size (.component ht' h)) t ht' c hc
    · exact hmarks.2.2
    · exact (isPlain_of_mem_renderDims hc).1

theorem isGraphic_of_mem_renderAll (ts : List Ty)
    (hts : ∀ t ∈ ts, ∀ base size, t.Part base size → IsLetters base) :
    ∀ t ∈ ts, ∀ c ∈ t.render.toList, IsGraphic c := by
  match ts with
  | [] => exact fun t ht => absurd ht List.not_mem_nil
  | t :: ts =>
    obtain ⟨ht, hts⟩ := List.forall_mem_cons.mp hts
    exact List.forall_mem_cons.mpr
      ⟨t.isGraphic_of_mem_render ht, isGraphic_of_mem_renderAll ts hts⟩

end

end Workflow.Abi
