import Workflow.Proofs.Abi.Readings
import Workflow.Proofs.Expression.Walks

/-!
# Declarations of functions

`Description.Declared` relates the description of a function to its declarations: with blanks around
it, with or without the word `function`, and with anything behind the parameter list.  A declaration
of a description has a reading without a flaw, and it is that of the function which the description
describes (`Description.Declared.reads`).  So the reader accepts every declaration as this function,
on its own (`ofDeclaration_of_declared`) and among all forms of a description
(`ofFragment_of_declared`).
-/

namespace Workflow.Abi

open Text

/-! ### Array suffixes -/

theorem isNumeral_toString (n : Nat) : Path.IsNumeral (toString n).toList := by
  constructor
  · have hdigits : (toString n).toList = Nat.toDigits 10 n := String.toList_ofList
    rw [hdigits]
    exact Nat.toDigits_ne_nil
  · exact fun d hd => isDigit_of_isDigit (isDigit_of_mem_toString hd)

theorem suffixes_renderDims (arrays : List Dimension) : Suffixes (renderDims arrays).toList := by
  induction arrays with
  | nil => exact .nil
  | cons dimension arrays ih =>
    rw [toList_renderDims_cons]
    exact .cons (fun c hc => isDigit_of_isDigit (dimension.isDigit_of_mem_digits hc)) ih

/-! ### What stands behind a type -/

theorem Label.Behind.eq_nil_or_blank {l : Label} {cs : List Char} (h : l.Behind cs) :
    cs = [] ∨ ∃ c rest, cs = c :: rest ∧ isBlank c = true := by
  obtain ⟨places, -, hspaced⟩ := h
  exact hspaced.eq_nil_or_blank

theorem Label.Behind.not_startsSuffix {l : Label} {cs : List Char} (h : l.Behind cs) :
    ¬ StartsSuffix cs := by
  rintro ⟨digits, more, -, rfl⟩
  rcases h.eq_nil_or_blank with hnil | ⟨c, rest, hcs, hc⟩
  · cases hnil
  · rw [← (List.cons.inj hcs).1] at hc
    exact absurd hc (by decide)

/-- The name of an elementary type ends where its array suffixes or its label starts. -/
theorem Label.Behind.alphanum_stops {l : Label} {tail : List Char} (h : l.Behind tail)
    (arrays : List Dimension) :
    ∀ c rest, (renderDims arrays).toList ++ tail = c :: rest → c.isAlphanum = false := by
  intro c rest heq
  cases arrays with
  | nil =>
    rcases h.eq_nil_or_blank with rfl | ⟨d, left, rfl, hd⟩
    · cases heq
    · obtain ⟨rfl, -⟩ := List.cons.inj heq
      rw [Bool.eq_false_iff]
      intro hc
      exact absurd (hd.symm.trans (isPlain_of_isAlphanum hc).not_blank) (by decide)
  | cons dimension arrays =>
    rw [toList_renderDims_cons] at heq
    rw [← (List.cons.inj heq).1]
    rfl

/-- Of the words behind a type, the label is the only one that may not stand there anyway, and a
blank parts it from the type. -/
theorem Label.Behind.named {l : Label} {cs : List Char} (h : l.Behind cs) (closed : Bool) :
    Named closed cs false l.text := by
  have ⟨places, hplaces, hspaced⟩ := h
  have hwords := words_of_spaced hspaced
  have hqualified : ∀ w ∈ places.map String.toList, String.ofList w ∈ qualifiers := by
    rw [List.forall_mem_map]
    intro w hw
    rw [String.ofList_toList]
    exact hplaces w hw
  by_cases hempty : l.text = ""
  · rw [Label.words, if_pos hempty, List.append_nil] at hwords
    rw [hempty]
    exact .unnamed (hwords ▸ hqualified)
  · rw [Label.words, if_neg hempty, List.map_append, List.map_singleton] at hwords
    obtain ⟨front, back, hword, hfront, hback⟩ := exists_wordIn hwords
    have honly : OnlyWord cs front l.text.toList back :=
      { hword with
        unqualified := by
          rw [String.ofList_toList]
          exact l.notQualifier
        front_qualified := hfront ▸ hqualified
        back_qualified := by
          rw [hback]
          exact fun w hw => absurd hw List.not_mem_nil }
    have hapart : front ≠ [] := by
      rintro rfl
      rcases h.eq_nil_or_blank with rfl | ⟨c, rest, rfl, hc⟩
      · exact absurd hword.split (by simp [hword.word_ne_nil])
      · obtain ⟨more, hmore⟩ := hword.exists_front hc
        cases hmore
    have hnamed : Named closed cs false (String.ofList l.text.toList) :=
      .apart honly (l.isName.resolve_left hempty) (.inl hapart)
    rwa [String.ofList_toList] at hnamed

/-! ### Parameters -/

mutual

/-- A text of a parameter has a reading without a flaw. -/
theorem Described.Spelled.reads {p : Described} {cs : List Char} (h : p.Spelled cs) :
    Parameter.Reads false p.parameter cs := by
  match p, h with
  | .elementary type arrays label, @Described.Spelled.elementary _ _ _ tail h =>
    obtain ⟨c, cs, htext, hletter, ht, hrest⟩ := type.exists_letter
    have htuple : c :: cs = tupleWord.toList →
        ∀ rest, (renderDims arrays).toList ++ tail ≠ '(' :: rest :=
      fun hword => absurd (List.cons.inj hword).1 ht
    have hread : Parameter.Reads false
        ⟨label.text, expandAlias (String.ofList (c :: cs))
          ++ String.ofList (renderDims arrays).toList, []⟩
        (c :: cs ++ ((renderDims arrays).toList ++ tail)) :=
      .elementary hletter hrest (h.alphanum_stops arrays) htuple (suffixes_renderDims arrays)
        h.not_startsSuffix (h.named _)
    rwa [← htext, String.ofList_toList, String.ofList_toList] at hread
  | .tuple components arrays label, @Described.Spelled.tuple _ _ _ word inner tail _ hword
      hcomponents hinner h =>
    have hread : Parameter.Reads (false || false)
        ⟨label.text, tupleType (parametersDescribed components)
          ++ String.ofList (renderDims arrays).toList, parametersDescribed components⟩
        (word ++ ('(' :: inner ++ ')' :: ((renderDims arrays).toList ++ tail))) :=
      .tuple hword hinner hcomponents.isPart hcomponents.reads (suffixes_renderDims arrays)
        h.not_startsSuffix (h.named true)
    rwa [String.ofList_toList] at hread

theorem Described.AllSpelled.reads {ps : List Described} {texts : List (List Char)}
    (h : Described.AllSpelled ps texts) :
    Parameter.AllRead false (parametersDescribed ps) texts := by
  match ps, h with
  | [], .nil => exact .nil
  | p :: ps, .cons h hrest =>
    have hread : Parameter.AllRead (false || false) _ _ := .cons h.reads hrest.reads
    exact hread

end

/-! ### Declarations -/

/-- What stands in front of a parameter list: the name, which the word `function` may precede. -/
inductive Heads (name : List Char) : List Char → Prop where
  | bare : Heads name name
  | worded {gap after : List Char} (hgap : Blanks gap) (hne : gap ≠ []) (hafter : Blanks after) :
    Heads name (functionWord.toList ++ gap ++ name ++ after)

/-- The declarations of a function; anything may follow the parameter list. -/
inductive Description.Declared (d : Description) : List Char → Prop where
  | intro {before head inner more : List Char} {texts : List (List Char)} (hbefore : Blanks before)
    (hhead : Heads d.name.toList head) (htexts : Described.AllSpelled d.parameters texts)
    (hinner : ParameterList texts inner) :
    Declared d (before ++ (head ++ ('(' :: inner ++ [')'])) ++ more)

theorem Heads.headed {name head : List Char} (h : Heads name head) : Headed name head := by
  cases h with
  | bare =>
    have hbare : Headed name (name ++ []) := .bare blanks_nil fun _ => rfl
    rwa [List.append_nil] at hbare
  | worded hgap hne hafter => exact .worded hgap hne hafter

/-- A declaration has a reading without a flaw. -/
theorem Description.Declared.reads {d : Description} {cs : List Char} (h : d.Declared cs) :
    d.function.Reads false cs := by
  cases h with
  | intro hbefore hhead htexts hinner =>
    exact .intro hbefore d.isName hhead.headed hinner htexts.isPart htexts.reads

/-- Every declaration is read as the function that is described. -/
theorem ofDeclaration_of_declared {d : Description} {s : String} (h : d.Declared s.toList) :
    Function.ofDeclaration s = .ok d.function :=
  ofDeclaration_of_reads h.reads

/-- A declaration is read as such among all the forms in which a function is described. -/
theorem ofFragment_of_declared {d : Description} {s : String} (h : d.Declared s.toList) :
    Function.ofFragment (.text s) = .ok d.function :=
  ofFragment_of_reads h.reads

end Workflow.Abi
