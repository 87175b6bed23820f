import Workflow.Proofs.Abi.Grammar

/-!
# What the reader of declarations accepts

`Function.Reads` is the grammar of whole declarations.  The reader accepts a declaration as a
function exactly if the declaration has a reading as the function (`ofDeclaration_eq_ok_iff`), and
refuses all others as such (`declaration_readings`).

Not every reading is one that an author can mean: an array suffix behind a blank is taken for the
name of the parameter (`spaced_suffix_flawed`).
-/

namespace Workflow.Abi

open Outcome Text

/-! ### Heads -/

/-- The word in front of the name of a function. -/
def functionWord : String := "function"

/-- What stands in front of a parameter list: the name, which the word `function` may precede.  A
name that is this word itself has no blank behind it, as it would be taken for the word. -/
inductive Headed (name : List Char) : List Char → Prop where
  | bare {after : List Char} (hafter : Blanks after)
    (hname : name = functionWord.toList → after = []) : Headed name (name ++ after)
  | worded {gap after : List Char} (hgap : Blanks gap) (hne : gap ≠ []) (hafter : Blanks after) :
    Headed name (functionWord.toList ++ gap ++ name ++ after)

theorem takeIdentifier_eq_some_iff {cs name rest : List Char} :
    takeIdentifier cs = some (name, rest) ↔ isIdentifier name = true ∧ cs = name ++ rest ∧
      ∀ c left, rest = c :: left → isIdentifierPart c = false := by
  constructor
  · intro h
    unfold takeIdentifier at h
    split at h
    · next c cs =>
      split_ifs at h with hstart
      obtain ⟨rfl, rfl⟩ := Prod.mk.inj (Option.some.inj h)
      refine ⟨?_, ?_, fun d left hrest => stops_of_dropWhile hrest⟩
      · rw [isIdentifier, hstart, Bool.true_and, List.all_eq_true]
        exact fun d hd => List.mem_takeWhile_imp hd
      · rw [List.cons_append, List.takeWhile_append_dropWhile]
    · cases h
  · rintro ⟨hname, rfl, hends⟩
    obtain ⟨c, more, rfl⟩ := List.exists_cons_of_ne_nil (ne_nil_of_isIdentifier hname)
    rw [isIdentifier, Bool.and_eq_true, List.all_eq_true] at hname
    have hstops := takeWhile_dropWhile_of_stops (P := isIdentifierPart) hends
    rw [List.cons_append, takeIdentifier, if_pos hname.1, List.takeWhile_append_of_pos hname.2,
      List.dropWhile_append_of_pos hname.2, hstops.1, hstops.2, List.append_nil]

/-- The word `function` is dropped where a blank stands behind it. -/
theorem withoutFunctionWord_cases (cs : List Char) :
    (∃ c rest, cs = functionWord.toList ++ c :: rest ∧ isBlank c = true ∧
      withoutFunctionWord cs = trimStart rest) ∨
    (withoutFunctionWord cs = cs ∧
      ∀ c rest, cs = functionWord.toList ++ c :: rest → isBlank c = false) := by
  unfold withoutFunctionWord
  split
  · next c rest =>
    split_ifs with hc
    · exact .inl ⟨c, rest, rfl, hc, rfl⟩
    · refine .inr ⟨rfl, fun d left h => ?_⟩
      have hword : functionWord.toList ++ c :: rest = functionWord.toList ++ d :: left := h
      obtain ⟨rfl, -⟩ := List.cons.inj (List.append_cancel_left hword)
      exact Bool.eq_false_iff.mpr hc
  · next hno => exact .inr ⟨rfl, fun c rest h => (hno c rest h).elim⟩

/-- An identifier is all that is taken of a text in which blanks and a parenthesis follow it. -/
theorem takeIdentifier_of_open {name after : List Char} (hname : isIdentifier name = true)
    (hafter : Blanks after) (rest : List Char) :
    takeIdentifier (name ++ (after ++ '(' :: rest)) = some (name, after ++ '(' :: rest) := by
  refine takeIdentifier_eq_some_iff.mpr ⟨hname, rfl, fun c left h => ?_⟩
  cases after with
  | nil =>
    obtain ⟨rfl, -⟩ := List.cons.inj h
    decide
  | cons d after =>
    obtain ⟨rfl, -⟩ := List.cons.inj h
    exact isIdentifierPart_of_blank (hafter _ List.mem_cons_self)

/-- Before a parameter list stands its head exactly if the name is taken from there. -/
theorem headed_iff {name cs rest : List Char} :
    (∃ head, Headed name head ∧ isIdentifier name = true ∧ cs = head ++ '(' :: rest) ↔
      ∃ left, takeIdentifier (withoutFunctionWord cs) = some (name, left) ∧
        trimStart left = '(' :: rest := by
  have hopen : StartsSolid ('(' :: rest) := ⟨'(', rest, rfl, by decide⟩
  constructor
  · rintro ⟨head, hhead, hname, rfl⟩
    cases hhead with
    | @bare after hafter hword =>
      refine ⟨after ++ '(' :: rest, ?_, trimStart_padded hafter hopen⟩
      rw [List.append_assoc]
      rcases withoutFunctionWord_cases (name ++ (after ++ '(' :: rest)) with
        ⟨c, more, hcs, hc, -⟩ | ⟨hsame, -⟩
      · -- The word would be the name, which then has no blank behind it.
        have hpart : isIdentifierPart c = false := isIdentifierPart_of_blank hc
        have htake : takeIdentifier (functionWord.toList ++ c :: more)
            = some (functionWord.toList, c :: more) := by
          refine takeIdentifier_eq_some_iff.mpr ⟨by decide, rfl, fun d left h => ?_⟩
          rw [← (List.cons.inj h).1]
          exact hpart
        rw [← hcs, takeIdentifier_of_open hname hafter] at htake
        obtain ⟨rfl, hafter'⟩ := Prod.mk.inj (Option.some.inj htake)
        rw [hword rfl] at hafter'
        rw [← (List.cons.inj hafter').1] at hc
        exact absurd hc (by decide)
      · rw [hsame, takeIdentifier_of_open hname hafter]
    | @worded gap after hgap hne hafter =>
      refine ⟨after ++ '(' :: rest, ?_, trimStart_padded hafter hopen⟩
      obtain ⟨c, gap, rfl⟩ := List.exists_cons_of_ne_nil hne
      obtain ⟨hc, hgap⟩ := List.forall_mem_cons.mp hgap
      have hdropped : withoutFunctionWord
          (functionWord.toList ++ (c :: gap) ++ name ++ after ++ '(' :: rest)
            = trimStart (gap ++ (name ++ (after ++ '(' :: rest))) := by
        simp only [List.append_assoc]
        exact if_pos hc
      rw [hdropped, trimStart_padded hgap ((startsSolid_of_isIdentifier hname).append _),
        takeIdentifier_of_open hname hafter]
  · rintro ⟨left, htake, hleft⟩
    obtain ⟨after, hafter, hcut, -⟩ := exists_trimStart left
    obtain ⟨hname, hcs, -⟩ := takeIdentifier_eq_some_iff.mp htake
    rw [hleft] at hcut
    rcases withoutFunctionWord_cases cs with ⟨c, more, rfl, hc, hdropped⟩ | ⟨hsame, hno⟩
    · obtain ⟨gap, hgap, hmore, -⟩ := exists_trimStart more
      rw [hdropped] at hcs
      have hgap : Blanks (c :: gap) := List.forall_mem_cons.mpr ⟨hc, hgap⟩
      refine ⟨_, .worded hgap (List.cons_ne_nil c gap) hafter, hname, ?_⟩
      rw [hmore, hcs, hcut]
      simp
    · rw [hsame] at hcs
      refine ⟨_, .bare hafter fun hword => ?_, hname, ?_⟩
      · -- A blank behind the word would have been dropped with it.
        cases after with
        | nil => rfl
        | cons d after =>
          have hsolid := hno d (after ++ '(' :: rest) (by rw [hcs, hcut, hword, List.cons_append])
          exact absurd ((hafter d List.mem_cons_self).symm.trans hsolid) (by decide)
      · rw [hcs, hcut, List.append_assoc]

/-! ### Declarations -/

/-- The readings of a declaration; anything may follow the parameter list.  The first argument says
whether the reading of a parameter is flawed. -/
inductive Function.Reads (flawed : Bool) (f : Function) : List Char → Prop where
  | intro {before head inner more : List Char} {texts : List (List Char)} (hbefore : Blanks before)
    (hname : isIdentifier f.name.toList = true) (hhead : Headed f.name.toList head)
    (hinner : ParameterList texts inner) (htexts : ∀ cs ∈ texts, IsPart cs)
    (hinputs : Parameter.AllRead flawed f.inputs texts) :
    Reads flawed f (before ++ (head ++ ('(' :: inner ++ [')'])) ++ more)

theorem Headed.starts {name head : List Char} (hname : isIdentifier name = true)
    (h : Headed name head) : ∃ c rest, head = c :: rest ∧ isIdentifierStart c = true := by
  cases h with
  | bare =>
    obtain ⟨c, more, rfl⟩ := List.exists_cons_of_ne_nil (ne_nil_of_isIdentifier hname)
    rw [isIdentifier, Bool.and_eq_true] at hname
    exact ⟨c, _, rfl, hname.1⟩
  | worded => exact ⟨'f', _, rfl, by decide⟩

/-- Without the blanks in front of it, a declaration still has all that is read. -/
theorem Function.Reads.exists_trim_eq {flawed : Bool} {f : Function} {cs : List Char}
    (h : f.Reads flawed cs) : ∃ head inner left texts, isIdentifier f.name.toList = true ∧
      Headed f.name.toList head ∧ ParameterList texts inner ∧ (∀ cs ∈ texts, IsPart cs) ∧
      Parameter.AllRead flawed f.inputs texts
      ∧ trim cs = head ++ '(' :: (inner ++ ')' :: left) := by
  cases h with
  | @intro before head inner more texts hbefore hname hhead hinner htexts hinputs =>
    have hstarts : StartsSolid (head ++ ('(' :: inner ++ [')'])) := by
      obtain ⟨c, rest, rfl, hc⟩ := hhead.starts hname
      exact ⟨c, _, rfl, (isPlain_of_isIdentifierPart (isIdentifierPart_of_start hc)).not_blank⟩
    have hends : EndsSolid (head ++ ('(' :: inner ++ [')'])) :=
      ⟨head ++ '(' :: inner, ')', by simp, by decide⟩
    obtain ⟨left, htrim⟩ := Text.exists_trim_eq hbefore hstarts hends more
    refine ⟨head, inner, left, texts, hname, hhead, hinner, htexts, hinputs, ?_⟩
    rw [htrim]
    simp

theorem ofDeclaration_of_reads {flawed : Bool} {f : Function} {whole : String}
    (h : f.Reads flawed whole.toList) : Function.ofDeclaration whole = .ok f := by
  obtain ⟨head, inner, left, texts, hname, hhead, hinner, htexts, hinputs, htrim⟩ :=
    h.exists_trim_eq
  obtain ⟨afterName, htake, hlist⟩ := headed_iff.mp
    ⟨head, hhead, hname, (rfl : head ++ '(' :: (inner ++ ')' :: left) = _)⟩
  have hsplit := splitGroup_balanced (hinner.balanced htexts) whole left
  have hparameters : parseParameters whole (2 * ('(' :: inner ++ ')' :: left).length) texts
      = .ok f.inputs := by
    obtain ⟨steps, hsteps⟩ : ∃ n, 2 * ('(' :: inner ++ ')' :: left).length = n + 1 :=
      ⟨2 * (inner.length + left.length) + 3, by simp [Nat.mul_add, Nat.add_assoc]⟩
    rw [hsteps]
    refine parseParameters_eq (hinputs.parse_eq whole fun cs hcs => ?_)
    have hlength := hinner.length_le cs hcs
    simp only [List.length_append, List.length_cons] at hsteps
    omega
  rw [Function.ofDeclaration, htrim, htake]
  dsimp only
  rw [hlist, List.head?_cons, if_pos (by decide), ← List.cons_append, hsplit, ok_bind]
  dsimp only
  rw [splitParameters_of_parameterList hinner htexts, hparameters, String.ofList_toList]
  rfl

/-- A declaration is no JSON text, as it starts with a letter or one of two signs. -/
theorem Function.Reads.looksLikeJson_eq {flawed : Bool} {f : Function} {s : String}
    (h : f.Reads flawed s.toList) : looksLikeJson (trimmed s).toList = false := by
  obtain ⟨head, inner, left, _, hname, hhead, -, -, -, htrim⟩ := h.exists_trim_eq
  obtain ⟨c, rest, hstart, hc⟩ := hhead.starts hname
  have hne : c ≠ '\x7b' ∧ c ≠ '[' := by
    constructor
    · rintro rfl
      exact absurd hc (by decide)
    · rintro rfl
      exact absurd hc (by decide)
  rw [trimmed, String.toList_ofList, htrim, hstart, looksLikeJson, List.cons_append,
    List.head?_cons]
  simp [hne.1, hne.2]

/-- A declaration is read as such among all the forms in which a function is described. -/
theorem ofFragment_of_reads {flawed : Bool} {f : Function} {s : String}
    (h : f.Reads flawed s.toList) : Function.ofFragment (.text s) = .ok f := by
  have hagain : f.Reads flawed (trimmed s).toList := by
    obtain ⟨head, inner, left, texts, hname, hhead, hinner, htexts, hinputs, htrim⟩ :=
      h.exists_trim_eq
    have hread : f.Reads flawed ([] ++ (head ++ ('(' :: inner ++ [')'])) ++ left) :=
      .intro blanks_nil hname hhead hinner htexts hinputs
    rw [trimmed, String.toList_ofList, htrim]
    simpa using hread
  rw [Function.ofFragment, h.looksLikeJson_eq, if_neg Bool.false_ne_true]
  exact ofDeclaration_of_reads hagain

theorem exists_reads_of_ofDeclaration {f : Function} {whole : String}
    (h : Function.ofDeclaration whole = .ok f) : ∃ flawed, f.Reads flawed whole.toList := by
  rw [Function.ofDeclaration] at h
  split at h
  · cases h
  · next name afterName htake =>
    dsimp only at h
    split_ifs at h with hopen
    obtain ⟨⟨inner, rest⟩, hsplit, h⟩ := bind_eq_ok_iff.mp h
    obtain ⟨inputs, hinputs, h⟩ := bind_eq_ok_iff.mp h
    obtain rfl := Except.ok.inj h
    obtain ⟨hlist, hbalanced⟩ := of_splitGroup hsplit
    obtain ⟨head, hhead, hname, htrim⟩ := headed_iff.mpr ⟨afterName, htake, hlist⟩
    obtain ⟨flawed, hread⟩ := (exists_reads_of_parse _).2 _ _ hinputs
    obtain ⟨hinner, htexts⟩ :=
      parameterList_of_splitParameters hbalanced (ne_nil_of_allRead hread)
    obtain ⟨before, after, hbefore, -, hwhole, -⟩ := exists_trim whole.toList
    have hshape :
        whole.toList = before ++ (head ++ ('(' :: inner ++ [')'])) ++ (rest ++ after) := by
      rw [hwhole, htrim]
      simp
    rw [hshape]
    refine ⟨flawed, .intro hbefore ?_ ?_ hinner htexts hread⟩
    · rwa [String.toList_ofList]
    · rwa [String.toList_ofList]

/-- The reader accepts exactly the declarations that have a reading. -/
theorem ofDeclaration_eq_ok_iff {f : Function} {whole : String} :
    Function.ofDeclaration whole = .ok f ↔ ∃ flawed, f.Reads flawed whole.toList :=
  ⟨exists_reads_of_ofDeclaration, fun ⟨_, h⟩ => ofDeclaration_of_reads h⟩

/-! ### Names -/

/-- A parameter and the components in it, at any depth. -/
inductive Parameter.Holds : Parameter → Parameter → Prop where
  | self (p : Parameter) : Holds p p
  | component {p q r : Parameter} (hq : q ∈ p.components) (h : Holds q r) : Holds p r

/-- A name without a flaw is empty or an identifier. -/
theorem Named.isName {closed flawed : Bool} {cs : List Char} {name : String}
    (h : Named closed cs flawed name) (hflawed : flawed = false) :
    name = "" ∨ isIdentifier name.toList = true := by
  cases h with
  | unnamed => exact .inl rfl
  | apart _ hname => exact .inr (by rwa [String.toList_ofList])
  | stray => cases hflawed
  | joined => cases hflawed

theorem Parameter.AllRead.exists_reads {flawed : Bool} {ps : List Parameter} {p : Parameter}
    {texts : List (List Char)} (h : Parameter.AllRead flawed ps texts) (hflawed : flawed = false)
    (hp : p ∈ ps) : ∃ cs, Parameter.Reads false p cs := by
  match h with
  | .nil => cases hp
  | .cons h hrest =>
    obtain ⟨rfl, hothers⟩ := Bool.or_eq_false_iff.mp hflawed
    rcases List.mem_cons.mp hp with rfl | hp
    · exact ⟨_, h⟩
    · exact hrest.exists_reads hothers hp

/-- Without a flaw, no parameter and no component has a name that is none. -/
theorem Parameter.Holds.isName {p q : Parameter} (hq : p.Holds q) {flawed : Bool} {cs : List Char}
    (h : Parameter.Reads flawed p cs) (hflawed : flawed = false) :
    q.name = "" ∨ isIdentifier q.name.toList = true := by
  induction hq generalizing flawed cs with
  | self =>
    cases h with
    | elementary _ _ _ _ _ _ hname => exact hname.isName hflawed
    | tuple _ _ _ _ _ _ hname => exact hname.isName (Bool.or_eq_false_iff.mp hflawed).1
  | component hq _ ih =>
    cases h with
    | elementary => cases hq
    | tuple _ _ _ hcomponents =>
      obtain ⟨cs, hread⟩ := hcomponents.exists_reads (Bool.or_eq_false_iff.mp hflawed).2 hq
      exact ih hread rfl

theorem Function.Reads.isName {f : Function} {cs : List Char} (h : f.Reads false cs)
    {p q : Parameter} (hp : p ∈ f.inputs) (hq : p.Holds q) :
    q.name = "" ∨ isIdentifier q.name.toList = true := by
  cases h with
  | intro _ _ _ _ _ hinputs =>
    obtain ⟨cs, hread⟩ := hinputs.exists_reads rfl hp
    exact hq.isName hread rfl

/-- **What the reader of declarations accepts.** A declaration without a reading is refused, and any
other is accepted as the function of its reading, which cuts the whole parameter list into types,
array suffixes, qualifiers and names.  Either there is a reading without a flaw: then every
parameter and every component has no name or an identifier for its name, which a blank or a closing
bracket parts from its type.  Or there is none, as a word that is no identifier is taken for a name
or one that stands right behind the name of an elementary type. -/
theorem declaration_readings (whole : String) :
    (∃ problem, Function.ofDeclaration whole = .error (.coding problem) ∧
      ∀ flawed f, ¬ Function.Reads flawed f whole.toList) ∨
    ∃ f, Function.ofDeclaration whole = .ok f ∧
      ((f.Reads false whole.toList ∧ ∀ p ∈ f.inputs, ∀ q, p.Holds q →
          q.name = "" ∨ isIdentifier q.name.toList = true) ∨
        f.Reads true whole.toList ∧ ¬ f.Reads false whole.toList) := by
  cases h : Function.ofDeclaration whole with
  | error e =>
    obtain ⟨problem, rfl⟩ := ofDeclaration_failsOnly whole e h
    refine .inl ⟨problem, rfl, fun flawed f hread => ?_⟩
    rw [ofDeclaration_of_reads hread] at h
    cases h
  | ok f =>
    refine .inr ⟨f, rfl, ?_⟩
    by_cases hsound : f.Reads false whole.toList
    · exact .inl ⟨hsound, fun p hp q hq => hsound.isName hp hq⟩
    · obtain ⟨flawed, hread⟩ := exists_reads_of_ofDeclaration h
      cases flawed with
      | false => exact absurd hread hsound
      | true => exact .inr ⟨hread, hsound⟩

/-- An array suffix behind a blank is accepted, but as the name of a parameter that is no array. -/
theorem spaced_suffix_flawed : ∃ f, Function.ofDeclaration "function f(uint256 [])" = .ok f ∧
    f.inputs.map (fun p => (p.name, p.type)) = [("[]", "uint256")] ∧
      ¬ f.Reads false "function f(uint256 [])".toList := by
  have hinputs : (Function.ofDeclaration "function f(uint256 [])").toOption.map
      (fun f => f.inputs.map fun p => (p.name, p.type)) = some [("[]", "uint256")] := by
    decide +kernel
  cases haccepted : Function.ofDeclaration "function f(uint256 [])" with
  | error e =>
    rw [haccepted] at hinputs
    cases hinputs
  | ok f =>
    rw [haccepted] at hinputs
    have hinputs : f.inputs.map (fun p => (p.name, p.type)) = [("[]", "uint256")] :=
      Option.some.inj hinputs
    refine ⟨f, rfl, hinputs, fun hread => ?_⟩
    obtain ⟨p, hp, hparts⟩ := List.mem_map.mp (hinputs ▸ List.mem_cons_self)
    have hname : p.name = "[]" := congrArg Prod.fst hparts
    rcases hread.isName hp (.self _) with hempty | hidentifier
    · exact absurd (hname.symm.trans hempty) (by decide)
    · rw [hname] at hidentifier
      exact absurd hidentifier (by decide)

end Workflow.Abi
