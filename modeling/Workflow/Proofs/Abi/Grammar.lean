import Workflow.Proofs.Abi.Descriptions
import Workflow.Proofs.Abi.Spelling

/-!
# The grammar of declarations

`Parameter.Reads` and `Function.Reads` say of a declaration, apart from the reader, how it is cut
into names and types: a type is an elementary name or a tuple with as many array suffixes behind it
as there are, and of the words behind a type at most one is none of the qualifiers, and it is the
name.  The reader accepts exactly the declarations with such a reading, and refuses all others
(`ofDeclaration_eq_ok_iff`).

A reading is flawed where the word that is taken for a name is none: it is no identifier
(`Named.stray`), or it stands right behind an elementary name (`Named.joined`).  In a reading
without flaws each parameter, at any depth, has no name or an identifier for its name, which a
blank or a closing bracket parts from the type.
-/

namespace Workflow.Abi

open Outcome Text

/-! ### Array suffixes -/

/-- Array suffixes: brackets with digits or nothing in them. -/
inductive Suffixes : List Char → Prop where
  | nil : Suffixes []
  | cons {digits rest : List Char} (hdigits : ∀ c ∈ digits, isDigit c = true)
    (hrest : Suffixes rest) : Suffixes ('[' :: digits ++ ']' :: rest)

/-- An array suffix stands at the front. -/
def StartsSuffix (cs : List Char) : Prop :=
  ∃ digits rest, (∀ c ∈ digits, isDigit c = true) ∧ cs = '[' :: digits ++ ']' :: rest

theorem takeArrays_of_suffix {digits : List Char} (h : ∀ c ∈ digits, isDigit c = true)
    (steps : Nat) (rest : List Char) :
    takeArrays (steps + 1) ('[' :: digits ++ ']' :: rest) =
      ('[' :: digits ++ ']' :: (takeArrays steps rest).1, (takeArrays steps rest).2) := by
  have hstop : ¬ isDigit ']' = true := by decide
  rw [List.cons_append, takeArrays, List.dropWhile_append_of_pos h,
    List.dropWhile_cons_of_neg hstop, List.takeWhile_append_of_pos h,
    List.takeWhile_cons_of_neg hstop, List.append_nil]
  rfl

theorem takeArrays_of_not {cs : List Char} (h : ¬ StartsSuffix cs) (steps : Nat) :
    takeArrays steps cs = ([], cs) := by
  cases steps with
  | zero => rfl
  | succ steps =>
    rw [takeArrays.eq_def]
    dsimp only
    split
    · next rest =>
      split
      · next rest' hdrop =>
        refine absurd ⟨rest.takeWhile isDigit, rest', fun c hc => List.mem_takeWhile_imp hc, ?_⟩ h
        rw [List.cons_append, ← hdrop, List.takeWhile_append_dropWhile]
      · rfl
    · rfl

/-- Array suffixes are taken as far as they go. -/
theorem takeArrays_suffixes {arrays left : List Char} (h : Suffixes arrays)
    (hleft : ¬ StartsSuffix left) {steps : Nat} (hsteps : arrays.length ≤ steps) :
    takeArrays steps (arrays ++ left) = (arrays, left) := by
  induction h generalizing steps with
  | nil => exact takeArrays_of_not hleft steps
  | @cons digits rest hdigits hrest ih =>
    have hlength : rest.length + 1 ≤ steps := by
      simp only [List.length_append, List.length_cons] at hsteps
      omega
    obtain ⟨steps, rfl⟩ := Nat.exists_eq_add_of_le' (Nat.le_trans (Nat.le_add_left 1 _) hlength)
    have hshape :
        '[' :: digits ++ ']' :: rest ++ left = '[' :: digits ++ ']' :: (rest ++ left) := by
      simp
    rw [hshape, takeArrays_of_suffix hdigits, ih (Nat.le_of_succ_le_succ hlength)]

theorem exists_suffixes (steps : Nat) (cs : List Char) (hsteps : cs.length ≤ steps) :
    ∃ arrays left, Suffixes arrays ∧ ¬ StartsSuffix left ∧ cs = arrays ++ left := by
  induction steps generalizing cs with
  | zero =>
    obtain rfl := List.length_eq_zero_iff.mp (Nat.le_zero.mp hsteps)
    exact ⟨[], [], .nil, fun ⟨_, _, _, h⟩ => (nomatch h), rfl⟩
  | succ steps ih =>
    by_cases h : StartsSuffix cs
    · obtain ⟨digits, rest, hdigits, rfl⟩ := h
      have hlength : rest.length ≤ steps := by
        simp only [List.length_append, List.length_cons] at hsteps
        omega
      obtain ⟨arrays, left, harrays, hleft, rfl⟩ := ih rest hlength
      exact ⟨_, left, .cons hdigits harrays, hleft, by simp⟩
    · exact ⟨[], cs, .nil, h, rfl⟩

/-! ### Names -/

/-- The only word of a text that is none of the qualifiers. -/
structure OnlyWord (cs front word back : List Char) : Prop extends WordIn cs front word back where
  /-- It is none of the qualifiers. -/
  unqualified : String.ofList word ∉ qualifiers
  /-- In front of it there are qualifiers only. -/
  front_qualified : ∀ w ∈ words front, String.ofList w ∈ qualifiers
  /-- Behind it there are qualifiers only. -/
  back_qualified : ∀ w ∈ words back, String.ofList w ∈ qualifiers

/-- How a name is taken from what stands behind a type; `closed` says whether the type ends with a
closing bracket.  The first argument says whether the name is flawed. -/
inductive Named (closed : Bool) (cs : List Char) : Bool → String → Prop where
  /-- There are qualifiers only, and no name. -/
  | unnamed (h : ∀ w ∈ words cs, String.ofList w ∈ qualifiers) : Named closed cs false ""
  /-- The name is an identifier, with a blank or a closing bracket in front of it. -/
  | apart {front word back : List Char} (h : OnlyWord cs front word back)
    (hname : isIdentifier word = true) (hapart : front ≠ [] ∨ closed = true) :
    Named closed cs false (String.ofList word)
  /-- The word is no identifier. -/
  | stray {front word back : List Char} (h : OnlyWord cs front word back)
    (hname : isIdentifier word = false) : Named closed cs true (String.ofList word)
  /-- The word stands right behind the name of an elementary type. -/
  | joined {front word back : List Char} (h : OnlyWord cs front word back)
    (hname : isIdentifier word = true) (hjoined : front = [] ∧ closed = false) :
    Named closed cs true (String.ofList word)

/-- The words behind a type less the qualifiers. -/
def unqualified (cs : List Char) : List String :=
  ((words cs).map String.ofList).filter (!qualifiers.contains ·)

theorem unqualified_eq_nil_iff {cs : List Char} :
    unqualified cs = [] ↔ ∀ w ∈ words cs, String.ofList w ∈ qualifiers := by
  rw [unqualified, List.filter_eq_nil_iff, List.forall_mem_map]
  simp

theorem OnlyWord.unqualified_eq {cs front word back : List Char}
    (h : OnlyWord cs front word back) : Abi.unqualified cs = [String.ofList word] := by
  have hfront : ((words front).map String.ofList).filter (!qualifiers.contains ·) = [] :=
    unqualified_eq_nil_iff.mpr h.front_qualified
  have hback : ((words back).map String.ofList).filter (!qualifiers.contains ·) = [] :=
    unqualified_eq_nil_iff.mpr h.back_qualified
  rw [Abi.unqualified, h.words_eq, List.map_append, List.map_cons, List.filter_append, hfront,
    List.filter_cons_of_pos (by simpa using h.unqualified), hback, List.nil_append]

theorem exists_onlyWord {cs : List Char} {name : String} (h : unqualified cs = [name]) :
    ∃ front word back, OnlyWord cs front word back ∧ name = String.ofList word := by
  obtain ⟨before, after, hsplit, hbefore, hname, hafter⟩ := List.filter_eq_cons_iff.mp h
  obtain ⟨front', more, hwords, hfront', hmore⟩ := List.map_eq_append_iff.mp hsplit
  obtain ⟨word, back', rfl, rfl, hback'⟩ := List.map_eq_cons_iff.mp hmore
  obtain ⟨front, back, hword, rfl, rfl⟩ := exists_wordIn hwords
  refine ⟨front, word, back, ⟨hword, by simpa using hname, fun w hw => ?_, fun w hw => ?_⟩, rfl⟩
  · have hmem : String.ofList w ∈ before := hfront' ▸ List.mem_map_of_mem hw
    simpa using hbefore _ hmem
  · have hmem : String.ofList w ∈ after := hback' ▸ List.mem_map_of_mem hw
    simpa using List.filter_eq_nil_iff.mp hafter _ hmem

/-- A name is taken if at most one word is none of the qualifiers. -/
theorem exists_named_iff (closed : Bool) {cs : List Char} {name : String} :
    (∃ flawed, Named closed cs flawed name) ↔
      (unqualified cs = [] ∧ name = "") ∨ unqualified cs = [name] := by
  constructor
  · rintro ⟨flawed, h⟩
    cases h with
    | unnamed h => exact .inl ⟨unqualified_eq_nil_iff.mpr h, rfl⟩
    | apart h => exact .inr h.unqualified_eq
    | stray h => exact .inr h.unqualified_eq
    | joined h => exact .inr h.unqualified_eq
  · rintro (⟨h, rfl⟩ | h)
    · exact ⟨false, .unnamed (unqualified_eq_nil_iff.mp h)⟩
    · obtain ⟨front, word, back, hword, rfl⟩ := exists_onlyWord h
      by_cases hname : isIdentifier word = true
      · by_cases hapart : front ≠ [] ∨ closed = true
        · exact ⟨false, .apart hword hname hapart⟩
        · obtain ⟨hfront, hclosed⟩ := not_or.mp hapart
          exact ⟨true, .joined hword hname ⟨not_not.mp hfront, Bool.eq_false_iff.mpr hclosed⟩⟩
      · exact ⟨true, .stray hword (Bool.eq_false_iff.mpr hname)⟩

/-! ### Parameters -/

mutual

/-- The readings of the text of a parameter; the first argument says whether there is a flaw. -/
inductive Parameter.Reads : Bool → Parameter → List Char → Prop where
  /-- The name of an elementary type goes as far as there are letters and digits. -/
  | elementary {flawed : Bool} {letter : Char} {base arrays left : List Char} {name : String}
    (hletter : letter.isAlpha = true) (hbase : ∀ c ∈ base, c.isAlphanum = true)
    (hends : ∀ c rest, arrays ++ left = c :: rest → c.isAlphanum = false)
    (htuple : letter :: base = tupleWord.toList → ∀ rest, arrays ++ left ≠ '(' :: rest)
    (harrays : Suffixes arrays) (hleft : ¬ StartsSuffix left)
    (hname : Named (!arrays.isEmpty) left flawed name) :
    Reads flawed
      ⟨name, expandAlias (String.ofList (letter :: base)) ++ String.ofList arrays, []⟩
      (letter :: base ++ (arrays ++ left))
  | tuple {flawed inside : Bool} {word inner arrays left : List Char} {texts : List (List Char)}
    {components : List Parameter} {name : String} (hword : word = [] ∨ word = tupleWord.toList)
    (hinner : ParameterList texts inner) (htexts : ∀ cs ∈ texts, IsPart cs)
    (hcomponents : Parameter.AllRead inside components texts)
    (harrays : Suffixes arrays) (hleft : ¬ StartsSuffix left)
    (hname : Named true left flawed name) :
    Reads (flawed || inside) ⟨name, tupleType components ++ String.ofList arrays, components⟩
      (word ++ ('(' :: inner ++ ')' :: (arrays ++ left)))

/-- The readings of texts of parameters, one for each of them. -/
inductive Parameter.AllRead : Bool → List Parameter → List (List Char) → Prop where
  | nil : AllRead false [] []
  | cons {flawed others : Bool} {p : Parameter} {ps : List Parameter} {cs : List Char}
    {texts : List (List Char)} (h : Parameter.Reads flawed p cs)
    (hrest : Parameter.AllRead others ps texts) : AllRead (flawed || others) (p :: ps) (cs :: texts)

end

/-! ### Reading parameters -/

variable {whole : String}

/-- The rest of a parameter is what follows the array suffixes, and the name is taken from it. -/
theorem finishParameter_eq_match {arrays left : List Char} (harrays : Suffixes arrays)
    (hleft : ¬ StartsSuffix left) (whole : String) (text : List Char) (base : String)
    (components : List Parameter) :
    finishParameter whole text base components (arrays ++ left) =
      match unqualified left with
      | [] => .ok ⟨"", base ++ String.ofList arrays, components⟩
      | [name] => .ok ⟨name, base ++ String.ofList arrays, components⟩
      | _ => .error (.coding (.badParameter (String.ofList text) whole)) := by
  have hlength : arrays.length ≤ (arrays ++ left).length := by simp
  rw [finishParameter, takeArrays_suffixes harrays hleft hlength]
  rfl

theorem finishParameter_eq_ok_iff (closed : Bool) {arrays left : List Char}
    (harrays : Suffixes arrays) (hleft : ¬ StartsSuffix left) {text : List Char} {base : String}
    {components : List Parameter} {p : Parameter} :
    finishParameter whole text base components (arrays ++ left) = .ok p ↔
      ∃ flawed name, Named closed left flawed name ∧
        p = ⟨name, base ++ String.ofList arrays, components⟩ := by
  have hnamed := fun name => @exists_named_iff closed left name
  rw [finishParameter_eq_match harrays hleft]
  constructor
  · intro h
    split at h
    · next hnil =>
      obtain ⟨flawed, hname⟩ := (hnamed "").mpr (.inl ⟨hnil, rfl⟩)
      exact ⟨flawed, "", hname, (Except.ok.inj h).symm⟩
    · next name hone =>
      obtain ⟨flawed, hname⟩ := (hnamed name).mpr (.inr hone)
      exact ⟨flawed, name, hname, (Except.ok.inj h).symm⟩
    · cases h
  · rintro ⟨flawed, name, hname, rfl⟩
    rcases (hnamed name).mp ⟨flawed, hname⟩ with ⟨hnil, rfl⟩ | hone
    · rw [hnil]
    · rw [hone]

theorem takeElementary_eq_some_iff {cs base rest : List Char} :
    takeElementary cs = some (base, rest) ↔ ∃ letter more, base = letter :: more ∧
      cs = letter :: more ++ rest ∧ letter.isAlpha = true ∧
      (∀ c ∈ more, c.isAlphanum = true) ∧ ∀ c left, rest = c :: left → c.isAlphanum = false := by
  constructor
  · intro h
    unfold takeElementary at h
    split at h
    · next letter cs =>
      split_ifs at h with hletter
      obtain ⟨rfl, rfl⟩ := Prod.mk.inj (Option.some.inj h)
      refine ⟨letter, _, rfl, ?_, hletter, fun c hc => List.mem_takeWhile_imp hc,
        fun c left hrest => stops_of_dropWhile hrest⟩
      rw [List.cons_append, List.takeWhile_append_dropWhile]
    · cases h
  · rintro ⟨letter, more, rfl, rfl, hletter, hmore, hends⟩
    have hstops := takeWhile_dropWhile_of_stops (P := Char.isAlphanum) hends
    rw [List.cons_append, takeElementary, if_pos hletter, List.takeWhile_append_of_pos hmore,
      List.dropWhile_append_of_pos hmore, hstops.1, hstops.2, List.append_nil]

theorem withoutTupleWord_of_ne {c : Char} (h : c ≠ 't') (cs : List Char) :
    withoutTupleWord (c :: cs) = c :: cs := by
  rw [withoutTupleWord.eq_def]
  split
  · next heq => exact absurd (List.cons.inj heq).1 h
  · rfl

/-- The word in front of a tuple is dropped. -/
theorem withoutTupleWord_group {word : List Char} (h : word = [] ∨ word = tupleWord.toList)
    (cs : List Char) : withoutTupleWord (word ++ '(' :: cs) = '(' :: cs := by
  rcases h with rfl | rfl
  · exact withoutTupleWord_of_ne (by decide) cs
  · rfl

/-- The word in front of a tuple is dropped, and nothing else. -/
theorem withoutTupleWord_cases (cs : List Char) :
    (∃ rest, cs = tupleWord.toList ++ '(' :: rest ∧ withoutTupleWord cs = '(' :: rest) ∨
      (∀ rest, cs ≠ tupleWord.toList ++ '(' :: rest) ∧ withoutTupleWord cs = cs := by
  unfold withoutTupleWord
  split
  · next rest => exact .inl ⟨rest, rfl, rfl⟩
  · next hno => exact .inr ⟨fun rest h => hno rest h, rfl⟩

/-- The text of a parameter starts with a tuple, behind the word for it or not, or with neither. -/
theorem body_cases (cs : List Char) :
    (∃ word rest, (word = [] ∨ word = tupleWord.toList) ∧ cs = word ++ '(' :: rest ∧
      withoutTupleWord cs = '(' :: rest) ∨
    (withoutTupleWord cs = cs ∧ (∀ rest, cs ≠ '(' :: rest) ∧
      ∀ rest, cs ≠ tupleWord.toList ++ '(' :: rest) := by
  rcases withoutTupleWord_cases cs with ⟨rest, hcs, hbody⟩ | ⟨hno, hbody⟩
  · exact .inl ⟨_, rest, .inr rfl, hcs, hbody⟩
  · by_cases hgroup : ∃ rest, cs = '(' :: rest
    · obtain ⟨rest, rfl⟩ := hgroup
      exact .inl ⟨[], rest, .inl rfl, rfl, hbody⟩
    · exact .inr ⟨hbody, fun rest h => hgroup ⟨rest, h⟩, hno⟩

theorem parseParameter_of_group {word body : List Char}
    (hword : word = [] ∨ word = tupleWord.toList) (steps : Nat) :
    parseParameter whole (steps + 1) (word ++ '(' :: body) =
      splitGroup whole ('(' :: body) >>= fun (inner, rest) =>
        parseParameters whole steps (splitParameters inner) >>= fun components =>
          finishParameter whole ('(' :: body) (tupleType components) components rest := by
  have hempty : (word ++ '(' :: body).isEmpty = false := by
    rw [List.isEmpty_eq_false_iff]
    simp
  rw [parseParameter, hempty, if_neg Bool.false_ne_true, withoutTupleWord_group hword]
  rfl

theorem parseParameter_of_not_group {text : List Char} (hbody : withoutTupleWord text = text)
    (hne : text ≠ []) (hgroup : ∀ rest, text ≠ '(' :: rest) (steps : Nat) :
    parseParameter whole (steps + 1) text =
      match takeElementary text with
      | none => .error (.coding (.untypedParameter (String.ofList text) whole))
      | some (base, rest) =>
        finishParameter whole text (expandAlias (String.ofList base)) [] rest := by
  have hhead : ¬ (text.head? == some '(') = true := by
    cases text with
    | nil => simp
    | cons c rest =>
      simp only [List.head?_cons, beq_iff_eq, Option.some.injEq]
      rintro rfl
      exact hgroup rest rfl
  rw [parseParameter, List.isEmpty_eq_false_iff.mpr hne, if_neg Bool.false_ne_true, hbody]
  exact if_neg hhead

/-- A parameter list is read one parameter after the other. -/
theorem parseParameters_eq {steps : Nat} {texts : List (List Char)}
    {ps : List Parameter}
    (h : List.Forall₂ (fun cs p => parseParameter whole steps cs = .ok p) texts ps) :
    parseParameters whole (steps + 1) texts = .ok ps := by
  rw [parseParameters]
  exact mapM_eq_ok_iff.mpr h

/-! ### What is accepted has a reading -/

theorem ne_nil_of_reads {flawed : Bool} {p : Parameter} {cs : List Char}
    (h : Parameter.Reads flawed p cs) : cs ≠ [] := by
  cases h <;> simp

theorem ne_nil_of_parse {steps : Nat} {text : List Char} {p : Parameter}
    (h : parseParameter whole steps text = .ok p) : text ≠ [] := by
  rintro rfl
  cases steps with
  | zero =>
    rw [parseParameter] at h
    cases h
  | succ steps =>
    rw [parseParameter] at h
    cases h

theorem ne_nil_of_allRead {flawed : Bool} {ps : List Parameter} {texts : List (List Char)}
    (h : Parameter.AllRead flawed ps texts) : ∀ cs ∈ texts, cs ≠ [] := by
  match h with
  | .nil => exact nofun
  | .cons h hrest => exact List.forall_mem_cons.mpr ⟨ne_nil_of_reads h, ne_nil_of_allRead hrest⟩

theorem exists_allRead {texts : List (List Char)} {ps : List Parameter}
    (h : List.Forall₂ (fun cs p => ∃ flawed, Parameter.Reads flawed p cs) texts ps) :
    ∃ flawed, Parameter.AllRead flawed ps texts := by
  induction h with
  | nil => exact ⟨false, .nil⟩
  | cons h _ ih =>
    obtain ⟨flawed, h⟩ := h
    obtain ⟨others, hrest⟩ := ih
    exact ⟨_, .cons h hrest⟩

/-- A tuple that is accepted has a reading, if its components have. -/
theorem exists_reads_of_group {word body : List Char} (hword : word = [] ∨ word = tupleWord.toList)
    {steps : Nat} {p : Parameter}
    (hinside : ∀ texts ps, parseParameters whole steps texts = .ok ps →
      ∃ flawed, Parameter.AllRead flawed ps texts)
    (h : parseParameter whole (steps + 1) (word ++ '(' :: body) = .ok p) :
    ∃ flawed, Parameter.Reads flawed p (word ++ '(' :: body) := by
  rw [parseParameter_of_group hword] at h
  obtain ⟨⟨inner, rest⟩, hsplit, h⟩ := bind_eq_ok_iff.mp h
  obtain ⟨components, hcomponents, h⟩ := bind_eq_ok_iff.mp h
  obtain ⟨hbody, hbalanced⟩ := of_splitGroup hsplit
  obtain ⟨inside, hread⟩ := hinside _ _ hcomponents
  obtain ⟨hinner, hparts⟩ :=
    parameterList_of_splitParameters hbalanced (ne_nil_of_allRead hread)
  obtain ⟨arrays, left, harrays, hleft, rfl⟩ := exists_suffixes _ rest le_rfl
  obtain ⟨flawed, name, hname, rfl⟩ := (finishParameter_eq_ok_iff true harrays hleft).mp h
  rw [hbody]
  exact ⟨_, .tuple hword hinner hparts hread harrays hleft hname⟩

theorem exists_reads_of_elementary {text : List Char} (hbody : withoutTupleWord text = text)
    (hgroup : ∀ rest, text ≠ '(' :: rest) (htuple : ∀ rest, text ≠ tupleWord.toList ++ '(' :: rest)
    {steps : Nat} {p : Parameter} (h : parseParameter whole (steps + 1) text = .ok p) :
    ∃ flawed, Parameter.Reads flawed p text := by
  rw [parseParameter_of_not_group hbody (ne_nil_of_parse h) hgroup] at h
  cases htake : takeElementary text with
  | none =>
    rw [htake] at h
    cases h
  | some cut =>
    obtain ⟨base, rest⟩ := cut
    rw [htake] at h
    obtain ⟨letter, more, rfl, rfl, hletter, hmore, hends⟩ := takeElementary_eq_some_iff.mp htake
    obtain ⟨arrays, left, harrays, hleft, rfl⟩ := exists_suffixes _ rest le_rfl
    obtain ⟨flawed, name, hname, rfl⟩ :=
      (finishParameter_eq_ok_iff (!arrays.isEmpty) harrays hleft).mp h
    refine ⟨flawed,
      .elementary hletter hmore hends (fun hword rest hrest => ?_) harrays hleft hname⟩
    exact htuple rest (by rw [hword, hrest])

/-- Parameters that are accepted have readings, one by one or as a list. -/
theorem exists_reads_of_parse (steps : Nat) :
    (∀ text p, parseParameter whole steps text = .ok p →
      ∃ flawed, Parameter.Reads flawed p text) ∧
    ∀ texts ps, parseParameters whole steps texts = .ok ps →
      ∃ flawed, Parameter.AllRead flawed ps texts := by
  induction steps with
  | zero =>
    constructor
    · intro text p h
      rw [parseParameter] at h
      cases h
    · intro texts ps h
      rw [parseParameters] at h
      split_ifs at h with hempty
      obtain rfl := List.isEmpty_iff.mp hempty
      obtain rfl := Except.ok.inj h
      exact ⟨false, .nil⟩
  | succ steps ih =>
    constructor
    · intro text p h
      rcases body_cases text with ⟨word, rest, hword, rfl, -⟩ | ⟨hbody, hgroup, htuple⟩
      · exact exists_reads_of_group hword ih.2 h
      · exact exists_reads_of_elementary hbody hgroup htuple h
    · intro texts ps h
      rw [parseParameters, mapM_eq_ok_iff] at h
      exact exists_allRead (h.imp fun cs p hp => ih.1 cs p hp)

/-! ### What has a reading is accepted -/

theorem parseParameter_of_elementary {letter : Char} {base arrays left : List Char} {flawed : Bool}
    {name : String} (hletter : letter.isAlpha = true) (hbase : ∀ c ∈ base, c.isAlphanum = true)
    (hends : ∀ c rest, arrays ++ left = c :: rest → c.isAlphanum = false)
    (htuple : letter :: base = tupleWord.toList → ∀ rest, arrays ++ left ≠ '(' :: rest)
    (harrays : Suffixes arrays) (hleft : ¬ StartsSuffix left)
    (hname : Named (!arrays.isEmpty) left flawed name) (whole : String) (steps : Nat) :
    parseParameter whole (steps + 1) (letter :: base ++ (arrays ++ left)) =
      .ok ⟨name, expandAlias (String.ofList (letter :: base)) ++ String.ofList arrays, []⟩ := by
  have htake : takeElementary (letter :: base ++ (arrays ++ left))
      = some (letter :: base, arrays ++ left) :=
    takeElementary_eq_some_iff.mpr ⟨letter, base, rfl, rfl, hletter, hbase, hends⟩
  have hbody : withoutTupleWord (letter :: base ++ (arrays ++ left))
      = letter :: base ++ (arrays ++ left) := by
    rcases withoutTupleWord_cases (letter :: base ++ (arrays ++ left)) with ⟨rest, hcs, -⟩ | ⟨-, h⟩
    · -- The word would be all that is taken for the name of the type.
      have htake' : takeElementary (tupleWord.toList ++ '(' :: rest)
          = some (tupleWord.toList, '(' :: rest) := rfl
      rw [← hcs, htake] at htake'
      obtain ⟨hword, hrest⟩ := Prod.mk.inj (Option.some.inj htake')
      exact absurd hrest (htuple hword rest)
    · exact h
  have hgroup : ∀ rest, letter :: base ++ (arrays ++ left) ≠ '(' :: rest := by
    intro rest h
    obtain rfl := (List.cons.inj h).1
    exact absurd hletter (by decide)
  rw [parseParameter_of_not_group hbody (by simp) hgroup, htake]
  exact (finishParameter_eq_ok_iff _ harrays hleft).mpr ⟨flawed, name, hname, rfl⟩

theorem parseParameter_of_tuple {word inner arrays left : List Char} {texts : List (List Char)}
    {components : List Parameter} {flawed : Bool} {name : String} {steps : Nat}
    (hword : word = [] ∨ word = tupleWord.toList) (hinner : ParameterList texts inner)
    (htexts : ∀ cs ∈ texts, IsPart cs) (harrays : Suffixes arrays) (hleft : ¬ StartsSuffix left)
    (hname : Named true left flawed name)
    (hread : parseParameters whole steps texts = .ok components) :
    parseParameter whole (steps + 1) (word ++ ('(' :: inner ++ ')' :: (arrays ++ left))) =
      .ok ⟨name, tupleType components ++ String.ofList arrays, components⟩ := by
  rw [List.cons_append, parseParameter_of_group hword, ← List.cons_append,
    splitGroup_balanced (hinner.balanced htexts), ok_bind]
  dsimp only
  rw [splitParameters_of_parameterList hinner htexts, hread]
  exact (finishParameter_eq_ok_iff true harrays hleft).mpr ⟨flawed, name, hname, rfl⟩

mutual

/-- The text of a parameter is read as its readings say. -/
theorem Parameter.Reads.parse_eq {flawed : Bool} {p : Parameter} {cs : List Char}
    (h : Parameter.Reads flawed p cs) (whole : String) {steps : Nat}
    (hsteps : 2 * cs.length ≤ steps) : parseParameter whole steps cs = .ok p := by
  match h with
  | .elementary hletter hbase hends htuple harrays hleft hname =>
    obtain ⟨steps, rfl⟩ : ∃ n, steps = n + 1 := by
      rw [List.length_append, List.length_cons] at hsteps
      exact ⟨steps - 1, by omega⟩
    exact parseParameter_of_elementary hletter hbase hends htuple harrays hleft hname whole steps
  | @Parameter.Reads.tuple _ _ word inner arrays left texts components name hword hinner htexts
      hcomponents harrays hleft hname =>
    -- One step for the tuple, one for its list, and two characters for the parentheses.
    have hlength : inner.length + 2
        ≤ (word ++ ('(' :: inner ++ ')' :: (arrays ++ left))).length := by
      simp only [List.length_append, List.length_cons]
      omega
    obtain ⟨steps, rfl⟩ : ∃ n, steps = n + 2 := ⟨steps - 2, by omega⟩
    have hsteps' : ∀ cs ∈ texts, 2 * cs.length ≤ steps := by
      intro cs hcs
      have hpart := hinner.length_le cs hcs
      omega
    exact parseParameter_of_tuple hword hinner htexts harrays hleft hname
      (parseParameters_eq (hcomponents.parse_eq whole hsteps'))

theorem Parameter.AllRead.parse_eq {flawed : Bool} {ps : List Parameter}
    {texts : List (List Char)} (h : Parameter.AllRead flawed ps texts) (whole : String)
    {steps : Nat} (hsteps : ∀ cs ∈ texts, 2 * cs.length ≤ steps) :
    List.Forall₂ (fun cs p => parseParameter whole steps cs = .ok p) texts ps := by
  match h with
  | .nil => exact .nil
  | .cons h hrest =>
    exact .cons (h.parse_eq whole (hsteps _ List.mem_cons_self))
      (hrest.parse_eq whole fun cs hcs => hsteps cs (List.mem_cons_of_mem _ hcs))

end

end Workflow.Abi
