import Workflow.Proofs.Abi.Described
import Workflow.Proofs.Abi.Groups

/-!
# The texts of parameters

`Described.Spelled` relates the description of a parameter to its texts in declarations: with either
notation for tuples, any of the words that may stand between type and name, and any blanks between
words and around the parameters of a tuple.

A spelled parameter is one part of a parameter list (`Described.Spelled.isPart`): it is balanced, so
that no comma and no parenthesis of it is taken for one of the list around it.
-/

namespace Workflow.Abi

open Text

/-! ### Spelling -/

/-- What stands behind the type of a parameter: words that say where its data lies, and its
label. -/
def Label.Behind (l : Label) (cs : List Char) : Prop :=
  ∃ places : List String, (∀ w ∈ places, w ∈ qualifiers) ∧
    Spaced ((places ++ l.words).map String.toList) cs

mutual

/-- The texts of a parameter. -/
inductive Described.Spelled : Described → List Char → Prop where
  | elementary {type : ElementaryType} {arrays : List Dimension} {label : Label}
    {tail : List Char} (h : label.Behind tail) :
    Spelled (.elementary type arrays label)
      (type.text.toList ++ ((renderDims arrays).toList ++ tail))
  | tuple {components : List Described} {arrays : List Dimension} {label : Label}
    {word inner tail : List Char} {texts : List (List Char)}
    (hword : word = [] ∨ word = tupleWord.toList)
    (hcomponents : Described.AllSpelled components texts)
    (hinner : ParameterList texts inner) (h : label.Behind tail) :
    Spelled (.tuple components arrays label)
      (word ++ ('(' :: inner ++ ')' :: ((renderDims arrays).toList ++ tail)))

/-- The texts of parameters, one for each of them. -/
inductive Described.AllSpelled : List Described → List (List Char) → Prop where
  | nil : AllSpelled [] []
  | cons {p : Described} {ps : List Described} {cs : List Char} {texts : List (List Char)}
    (h : Described.Spelled p cs) (hrest : Described.AllSpelled ps texts) :
    AllSpelled (p :: ps) (cs :: texts)

end

/-! ### Array suffixes -/

/-- The digits in the brackets of an array suffix. -/
def Dimension.digits : Dimension → List Char
  | .sized n => (toString n).toList
  | .open => []

theorem Dimension.isDigit_of_mem_digits {dimension : Dimension} {c : Char}
    (hc : c ∈ dimension.digits) : c.isDigit = true := by
  cases dimension with
  | sized n => exact isDigit_of_mem_toString hc
  | «open» => exact absurd hc List.not_mem_nil

/-- An array suffix is written as its digits in brackets. -/
theorem Dimension.toList_render (dimension : Dimension) :
    dimension.render.toList = '[' :: dimension.digits ++ [']'] := by
  cases dimension with
  | sized n =>
    rw [render, String.toList_append, String.toList_append]
    rfl
  | «open» => rfl

theorem toList_renderDims_cons (dimension : Dimension) (arrays : List Dimension) :
    (renderDims (dimension :: arrays)).toList
      = '[' :: dimension.digits ++ ']' :: (renderDims arrays).toList := by
  rw [renderDims, List.map_cons, String.toList_join, List.flatMap_cons, dimension.toList_render,
    renderDims, String.toList_join, List.append_assoc, List.singleton_append]

theorem mem_renderDims {arrays : List Dimension} {c : Char}
    (hc : c ∈ (renderDims arrays).toList) : c = '[' ∨ c = ']' ∨ c.isDigit = true := by
  induction arrays with
  | nil => exact absurd hc List.not_mem_nil
  | cons dimension arrays ih =>
    rw [toList_renderDims_cons, List.mem_append, List.mem_cons, List.mem_cons] at hc
    rcases hc with (hc | hc) | hc | hc
    · exact .inl hc
    · exact .inr (.inr (dimension.isDigit_of_mem_digits hc))
    · exact .inr (.inl hc)
    · exact ih hc

/-! ### What the texts look like -/

/-- The characters of type names, labels and array suffixes: they are seen, and they neither open
nor close a group nor part two parameters. -/
def IsPlain (c : Char) : Prop := IsGraphic c ∧ c ≠ '(' ∧ c ≠ ')' ∧ c ≠ ','

theorem isPlain_of_isIdentifierPart {c : Char} (h : isIdentifierPart c = true) : IsPlain c := by
  refine ⟨isGraphic_of_isIdentifierPart h, ?_, ?_, ?_⟩ <;>
    · rintro rfl
      exact absurd h (by decide)

theorem isPlain_of_isAlphanum {c : Char} (h : c.isAlphanum = true) : IsPlain c :=
  isPlain_of_isIdentifierPart (isIdentifierPart_of_isAlphanum h)

theorem isPlain_of_mem_renderDims {arrays : List Dimension} {c : Char}
    (hc : c ∈ (renderDims arrays).toList) : IsPlain c := by
  rcases mem_renderDims hc with rfl | rfl | hdigit
  · simp [IsPlain, IsGraphic]
  · simp [IsPlain, IsGraphic]
  · refine isPlain_of_isAlphanum ?_
    rw [Char.isAlphanum, hdigit, Bool.or_true]

theorem ElementaryType.isPlain_of_mem {t : ElementaryType} {c : Char}
    (hc : c ∈ t.text.toList) : IsPlain c := by
  obtain ⟨d, ds, htext, hletter, -, hrest⟩ := t.exists_letter
  rw [htext] at hc
  rcases List.mem_cons.mp hc with rfl | hc
  · exact isPlain_of_isAlphanum (by rw [Char.isAlphanum, hletter, Bool.true_or])
  · exact isPlain_of_isAlphanum (hrest c hc)

theorem isIdentifierPart_of_start {c : Char} (h : isIdentifierStart c = true) :
    isIdentifierPart c = true := by
  simp only [isIdentifierStart, Bool.or_eq_true] at h
  simp only [isIdentifierPart, Char.isAlphanum, Bool.or_eq_true]
  exact h.imp_left (Or.imp_left Or.inl)

theorem isIdentifierPart_of_mem {cs : List Char} (h : isIdentifier cs = true) {c : Char}
    (hc : c ∈ cs) : isIdentifierPart c = true := by
  cases cs with
  | nil => cases hc
  | cons d ds =>
    rw [isIdentifier, Bool.and_eq_true, List.all_eq_true] at h
    rcases List.mem_cons.mp hc with rfl | hc
    · exact isIdentifierPart_of_start h.1
    · exact h.2 c hc

theorem isPlain_of_isIdentifier {cs : List Char} (h : isIdentifier cs = true) :
    ∀ c ∈ cs, IsPlain c :=
  fun _ hc => isPlain_of_isIdentifierPart (isIdentifierPart_of_mem h hc)

theorem ne_nil_of_isIdentifier {cs : List Char} (h : isIdentifier cs = true) : cs ≠ [] := by
  rintro rfl
  cases h

/-- The words behind a type are not empty, and all their characters are plain. -/
theorem Label.isPlain_of_words {l : Label} {places : List String}
    (hplaces : ∀ w ∈ places, w ∈ qualifiers) {w : String} (hw : w ∈ places ++ l.words) :
    w.toList ≠ [] ∧ ∀ c ∈ w.toList, IsPlain c := by
  have hidentifier : isIdentifier w.toList = true := by
    rcases List.mem_append.mp hw with hw | hw
    · have hqualifiers : ∀ w ∈ qualifiers, isIdentifier w.toList = true := by decide
      exact hqualifiers w (hplaces w hw)
    · rw [Label.words] at hw
      split_ifs at hw with hempty
      · cases hw
      · rw [List.mem_singleton.mp hw]
        exact l.isName.resolve_left hempty
  exact ⟨ne_nil_of_isIdentifier hidentifier, isPlain_of_isIdentifier hidentifier⟩

theorem IsPlain.not_blank {c : Char} (h : IsPlain c) : isBlank c = false := isBlank_of_graphic h.1

theorem startsSolid_of_isIdentifier {name : List Char} (h : isIdentifier name = true) :
    StartsSolid name := by
  cases name with
  | nil => cases h
  | cons c cs => exact ⟨c, cs, rfl, (isPlain_of_isIdentifier h c List.mem_cons_self).not_blank⟩

theorem isIdentifierPart_of_blank {c : Char} (h : isBlank c = true) :
    isIdentifierPart c = false := by
  rw [Bool.eq_false_iff]
  intro hpart
  exact absurd (h.symm.trans (isPlain_of_isIdentifierPart hpart).not_blank) (by decide)

theorem balanced_of_isPlain {commas : Bool} {cs : List Char} (h : ∀ c ∈ cs, IsPlain c) :
    Balanced commas cs := .of_plain fun c hc => (h c hc).2

theorem balanced_of_spaced {commas : Bool} {ws : List (List Char)} {cs : List Char}
    (h : Spaced ws cs) (hws : ∀ w ∈ ws, ∀ c ∈ w, IsPlain c) : Balanced commas cs := by
  induction h with
  | nil => exact .nil
  | @cons gap word rest ws hgap _ _ _ _ ih =>
    have hword : Balanced commas word := balanced_of_isPlain (hws word List.mem_cons_self)
    have hrest := ih fun w hw => hws w (List.mem_cons_of_mem _ hw)
    exact .append (.append (.of_blanks hgap) hword) hrest

theorem Label.behind_empty : Label.empty.Behind [] :=
  ⟨[], fun _ h => absurd h List.not_mem_nil, .nil⟩

/-- Words may stand behind a type with one blank in front of each. -/
theorem Label.behind_spaced (l : Label) (places : List String)
    (hplaces : ∀ w ∈ places, w ∈ qualifiers) :
    l.Behind ((places ++ l.words).flatMap fun w => ' ' :: w.toList) := by
  have hspaced : ∀ ws : List String, (∀ w ∈ ws, w.toList ≠ [] ∧ ∀ c ∈ w.toList, IsPlain c) →
      Spaced (ws.map String.toList) (ws.flatMap fun w => ' ' :: w.toList) := by
    intro ws hws
    induction ws with
    | nil => exact .nil
    | cons w ws ih =>
      obtain ⟨⟨hne, hplain⟩, hrest⟩ := List.forall_mem_cons.mp hws
      have hgap : Blanks [' '] := by decide
      exact .cons hgap (List.cons_ne_nil _ _) hne (fun c hc => (hplain c hc).not_blank) (ih hrest)
  exact ⟨places, hplaces, hspaced _ fun w hw => Label.isPlain_of_words hplaces hw⟩

theorem Label.Behind.balanced {commas : Bool} {l : Label} {cs : List Char} (h : l.Behind cs) :
    Balanced commas cs := by
  obtain ⟨places, hplaces, hspaced⟩ := h
  refine balanced_of_spaced hspaced ?_
  intro w hw
  obtain ⟨word, hword, rfl⟩ := List.mem_map.mp hw
  exact (Label.isPlain_of_words hplaces hword).2

theorem Label.Behind.ends {l : Label} {cs : List Char} (h : l.Behind cs) {front : List Char}
    (hfront : EndsSolid front) : EndsSolid (front ++ cs) := by
  obtain ⟨places, -, hspaced⟩ := h
  exact hspaced.ends hfront

theorem ElementaryType.ne_nil (t : ElementaryType) : t.text.toList ≠ [] := by
  obtain ⟨c, cs, htext, -⟩ := t.exists_letter
  rw [htext]
  exact List.cons_ne_nil c cs

theorem isPart_elementary {type : ElementaryType} {arrays : List Dimension} {label : Label}
    {tail : List Char} (h : label.Behind tail) :
    IsPart (type.text.toList ++ ((renderDims arrays).toList ++ tail)) := by
  have htype : ∀ c ∈ type.text.toList, IsPlain c := fun c hc => ElementaryType.isPlain_of_mem hc
  have harrays : ∀ c ∈ (renderDims arrays).toList, IsPlain c := fun c hc =>
    isPlain_of_mem_renderDims hc
  have hfront : EndsSolid (type.text.toList ++ (renderDims arrays).toList) := by
    refine (solid_of_not_blank (by simp [type.ne_nil]) fun c hc => ?_).2
    rcases List.mem_append.mp hc with hc | hc
    · exact (htype c hc).not_blank
    · exact (harrays c hc).not_blank
  refine ⟨?_, ?_, ?_⟩
  · have hstarts := (solid_of_not_blank type.ne_nil fun c hc => (htype c hc).not_blank).1
    exact hstarts.append _
  · -- Without words behind it the type itself is the end of the text.
    rw [← List.append_assoc]
    exact h.ends hfront
  · exact .append (balanced_of_isPlain htype) (.append (balanced_of_isPlain harrays) h.balanced)

theorem isPart_tuple {arrays : List Dimension} {label : Label} {word inner tail : List Char}
    {texts : List (List Char)} (hword : word = [] ∨ word = tupleWord.toList)
    (hinner : ParameterList texts inner) (htexts : ∀ cs ∈ texts, IsPart cs)
    (h : label.Behind tail) :
    IsPart (word ++ ('(' :: inner ++ ')' :: ((renderDims arrays).toList ++ tail))) := by
  have harrays : ∀ c ∈ (renderDims arrays).toList, IsPlain c := fun c hc =>
    isPlain_of_mem_renderDims hc
  have hgroup : Balanced false ('(' :: inner ++ [')']) := .group (hinner.balanced htexts)
  refine ⟨?_, ?_, ?_⟩
  · rcases hword with rfl | rfl
    · exact ⟨'(', _, rfl, by decide⟩
    · exact ⟨'t', _, rfl, by decide⟩
  · have hfront : EndsSolid (')' :: (renderDims arrays).toList) := by
      refine (solid_of_not_blank (List.cons_ne_nil _ _) fun c hc => ?_).2
      rcases List.mem_cons.mp hc with rfl | hc
      · decide
      · exact (harrays c hc).not_blank
    have hends := h.ends (hfront.append (word ++ '(' :: inner))
    simpa only [List.append_assoc, List.cons_append] using hends
  · have hwordBalanced : Balanced false word := by
      rcases hword with rfl | rfl
      · exact .nil
      · exact balanced_of_isPlain (isPlain_of_isIdentifier (by decide))
    have hbehind := hgroup.append ((balanced_of_isPlain harrays).append h.balanced)
    simpa only [List.append_assoc, List.cons_append, List.nil_append]
      using hwordBalanced.append hbehind

mutual

/-- The text of a parameter is one part of a parameter list. -/
theorem Described.Spelled.isPart {p : Described} {cs : List Char} (h : p.Spelled cs) :
    IsPart cs := by
  match p, h with
  | .elementary .., .elementary h => exact isPart_elementary h
  | .tuple .., .tuple hword hcomponents hinner h =>
    exact isPart_tuple hword hinner hcomponents.isPart h

theorem Described.AllSpelled.isPart {ps : List Described} {texts : List (List Char)}
    (h : Described.AllSpelled ps texts) : ∀ cs ∈ texts, IsPart cs := by
  match ps, h with
  | [], .nil => exact fun cs hcs => absurd hcs List.not_mem_nil
  | p :: ps, .cons h hrest =>
    intro cs hcs
    rcases List.mem_cons.mp hcs with rfl | hcs
    · exact h.isPart
    · exact hrest.isPart cs hcs

end

end Workflow.Abi
