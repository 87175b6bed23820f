import Mathlib.Data.List.Forall2
import Mathlib.Data.List.Induction
import Workflow.Abi.Declaration
import Workflow.Proofs.Text.Blank

/-!
# Cutting parameter lists

`Balanced` says of a text that its parentheses match.  The reader of a group passes over such a text
without a look into it (`takeGroup_balanced`), and so does the search for commas where the text
holds none outside of parentheses (`splitCommas_balanced`).  Hence a parameter list is cut into the
parameters that it was put together from (`splitParameters_of_parameterList`).
-/

namespace Workflow.Abi

open Text

/-! ### Balanced texts -/

/-- A text whose parentheses match; where `commas` is false, each of its commas stands in them. -/
inductive Balanced : (commas : Bool) → List Char → Prop where
  | nil {commas : Bool} : Balanced commas []
  | single {commas : Bool} {c : Char} (hopen : c ≠ '(') (hclose : c ≠ ')')
    (hcomma : commas = false → c ≠ ',') : Balanced commas [c]
  | append {commas : Bool} {cs ds : List Char} (h : Balanced commas cs) (h' : Balanced commas ds) :
    Balanced commas (cs ++ ds)
  | group {commas : Bool} {inner : List Char} (h : Balanced true inner) :
    Balanced commas ('(' :: inner ++ [')'])

theorem Balanced.of_plain {commas : Bool} {cs : List Char}
    (h : ∀ c ∈ cs, c ≠ '(' ∧ c ≠ ')' ∧ c ≠ ',') : Balanced commas cs := by
  induction cs with
  | nil => exact .nil
  | cons c cs ih =>
    obtain ⟨hopen, hclose, hcomma⟩ := h c List.mem_cons_self
    exact .append (.single hopen hclose fun _ => hcomma)
      (ih fun d hd => h d (List.mem_cons_of_mem _ hd))

theorem Balanced.relax {commas : Bool} {cs : List Char} (h : Balanced commas cs) :
    Balanced true cs := by
  induction h with
  | nil => exact .nil
  | single hopen hclose _ => exact .single hopen hclose nofun
  | append _ _ ih ih' => exact .append ih ih'
  | group h _ => exact .group h

theorem Balanced.of_blanks {commas : Bool} {cs : List Char} (h : Blanks cs) :
    Balanced commas cs := by
  refine .of_plain fun c hc => ?_
  have hblank := h c hc
  refine ⟨?_, ?_, ?_⟩ <;>
    · rintro rfl
      exact absurd hblank (by decide)

theorem takeGroup_close_zero (cs : List Char) : takeGroup 0 (')' :: cs) = some ([], cs) := by
  rw [takeGroup.eq_def]
  exact if_pos rfl

theorem takeGroup_close_succ (depth : Nat) (cs : List Char) :
    takeGroup (depth + 1) (')' :: cs)
      = (takeGroup depth cs).map fun (inner, left) => (')' :: inner, left) := by
  rw [takeGroup.eq_def]
  exact if_pos rfl

theorem takeGroup_cons_of_ne {c : Char} (h : c ≠ ')') (depth : Nat) (cs : List Char) :
    takeGroup depth (c :: cs)
      = (takeGroup (if c == '(' then depth + 1 else depth) cs).map
          fun (inner, left) => (c :: inner, left) := by
  rw [takeGroup.eq_def]
  exact if_neg (by simpa using h)

/-- The reader of a group passes over a balanced text and keeps it as it is. -/
theorem takeGroup_balanced {commas : Bool} {cs : List Char} (h : Balanced commas cs) (depth : Nat)
    (rest : List Char) :
    takeGroup depth (cs ++ rest)
      = (takeGroup depth rest).map fun (inner, left) => (cs ++ inner, left) := by
  induction h generalizing depth rest with
  | nil => simp
  | single hopen hclose _ =>
    rw [List.singleton_append, takeGroup_cons_of_ne hclose, if_neg (by simpa using hopen)]
    rfl
  | append _ _ ih ih' =>
    rw [List.append_assoc, ih, ih', Option.map_map]
    simp only [Function.comp_def, List.append_assoc]
  | @group _ inner _ ih =>
    rw [List.cons_append, List.cons_append, List.append_assoc,
      takeGroup_cons_of_ne (by decide), if_pos (by decide), ih, List.singleton_append,
      takeGroup_close_succ]
    simp [Function.comp_def]

/-- A text in which so many groups are closed that are not opened in it. -/
inductive Closes : Nat → List Char → Prop where
  | zero {cs : List Char} (h : Balanced true cs) : Closes 0 cs
  | succ {depth : Nat} {cs ds : List Char} (h : Balanced true cs) (h' : Closes depth ds) :
    Closes (depth + 1) (cs ++ ')' :: ds)

theorem Closes.append {depth : Nat} {cs ds : List Char} (h : Balanced true cs)
    (h' : Closes depth ds) : Closes depth (cs ++ ds) := by
  cases h' with
  | zero h' => exact .zero (h.append h')
  | @succ depth ds es hds hes =>
    rw [← List.append_assoc]
    exact .succ (h.append hds) hes

theorem Closes.cons {depth : Nat} {c : Char} {cs : List Char} (hopen : c ≠ '(') (hclose : c ≠ ')')
    (h : Closes depth cs) : Closes depth (c :: cs) := by
  have hone : Balanced true [c] := .single hopen hclose nofun
  exact .append hone h

/-- The first group that is closed is the one that is opened in front. -/
theorem Closes.cons_open {depth : Nat} {cs : List Char} (h : Closes (depth + 1) cs) :
    Closes depth ('(' :: cs) := by
  cases h with
  | @succ _ cs ds hcs hds =>
    have hgroup : Balanced true ('(' :: cs ++ [')']) := .group hcs
    have hshape : '(' :: (cs ++ ')' :: ds) = ('(' :: cs ++ [')']) ++ ds := by simp
    rw [hshape]
    exact .append hgroup hds

/-- What the reader of a group takes is closed by the parenthesis behind it. -/
theorem closes_of_takeGroup {depth : Nat} {cs inner rest : List Char}
    (h : takeGroup depth cs = some (inner, rest)) :
    cs = inner ++ ')' :: rest ∧ Closes depth inner := by
  -- On the text: a parenthesis changes the depth at which the rest is read.
  induction cs generalizing depth inner with
  | nil => cases h
  | cons c cs ih =>
    by_cases hclose : c = ')'
    · subst hclose
      cases depth with
      | zero =>
        rw [takeGroup_close_zero] at h
        obtain ⟨rfl, rfl⟩ := Prod.mk.inj (Option.some.inj h)
        exact ⟨rfl, .zero .nil⟩
      | succ depth =>
        rw [takeGroup_close_succ] at h
        obtain ⟨⟨inner', rest'⟩, htake, heq⟩ := Option.map_eq_some_iff.mp h
        obtain ⟨rfl, rfl⟩ := Prod.mk.inj heq
        obtain ⟨rfl, hcloses⟩ := ih htake
        exact ⟨rfl, .succ .nil hcloses⟩
    · rw [takeGroup_cons_of_ne hclose] at h
      obtain ⟨⟨inner', rest'⟩, htake, heq⟩ := Option.map_eq_some_iff.mp h
      obtain ⟨rfl, rfl⟩ := Prod.mk.inj heq
      obtain ⟨rfl, hcloses⟩ := ih htake
      refine ⟨rfl, ?_⟩
      by_cases hopen : c = '('
      · subst hopen
        rw [if_pos (by decide)] at hcloses
        exact hcloses.cons_open
      · rw [if_neg (by simpa using hopen)] at hcloses
        exact hcloses.cons hopen hclose

/-- The group at the front of a text is balanced. -/
theorem of_splitGroup {whole : String} {cs inner rest : List Char}
    (h : splitGroup whole cs = .ok (inner, rest)) :
    cs = '(' :: inner ++ ')' :: rest ∧ Balanced true inner := by
  unfold splitGroup at h
  split at h
  · split at h
    · next group htake =>
      obtain rfl := Except.ok.inj h
      obtain ⟨rfl, hcloses⟩ := closes_of_takeGroup htake
      cases hcloses with
      | zero h => exact ⟨rfl, h⟩
    · cases h
  · cases h

/-- The group at the front of a text, if what stands in it is balanced. -/
theorem splitGroup_balanced {commas : Bool} {inner : List Char} (h : Balanced commas inner)
    (whole : String) (rest : List Char) :
    splitGroup whole ('(' :: inner ++ ')' :: rest) = .ok (inner, rest) := by
  have htake : takeGroup 0 (inner ++ ')' :: rest) = some (inner, rest) := by
    rw [takeGroup_balanced h, takeGroup_close_zero]
    simp
  rw [List.cons_append, splitGroup, htake]

/-- The search for commas passes over a balanced text whose commas all stand in parentheses, be it
in its own ones or in those around it. -/
theorem splitCommas_balanced {commas : Bool} {cs : List Char} (h : Balanced commas cs)
    {depth : Int} (hdepth : 0 ≤ depth) (hcommas : commas = true → depth ≠ 0)
    (part rest : List Char) :
    splitCommas depth part (cs ++ rest) = splitCommas depth (cs.reverse ++ part) rest := by
  induction h generalizing depth part rest with
  | nil => rfl
  | @single commas c hopen hclose hcomma =>
    -- A comma stands in parentheses here, so that it is not one that parts two parameters.
    have hno : (c == ',' && depth == 0) = false := by
      cases commas with
      | false => simp [hcomma rfl]
      | true => simp [hcommas rfl]
    rw [List.singleton_append, splitCommas, hno, if_neg Bool.false_ne_true,
      if_neg (by simpa using hopen), if_neg (by simpa using hclose)]
    rfl
  | append _ _ ih ih' =>
    rw [List.append_assoc, ih hdepth hcommas, ih' hdepth hcommas, List.reverse_append,
      List.append_assoc]
  | @group _ inner _ ih =>
    have hinner := @ih (depth + 1) (by omega) fun _ => by omega
    rw [List.cons_append, List.cons_append, List.append_assoc, splitCommas, if_neg (by simp),
      if_pos (by decide), hinner, List.singleton_append, splitCommas, if_neg (by simp),
      if_neg (by decide), if_pos (by decide), Int.add_sub_cancel]
    simp

/-- A balanced text stays balanced without what is no parenthesis at its front. -/
theorem Balanced.tail {commas : Bool} {c : Char} {cs ds : List Char} (h : Balanced commas ds)
    (hds : ds = c :: cs) (hopen : c ≠ '(') : Balanced commas cs := by
  induction h generalizing cs with
  | nil => cases hds
  | single =>
    obtain ⟨-, rfl⟩ := List.cons.inj hds
    exact .nil
  | @append _ as bs ha hb iha ihb =>
    cases as with
    | nil => exact ihb hds
    | cons a as =>
      obtain ⟨rfl, rfl⟩ := List.cons.inj hds
      exact (iha rfl).append hb
  | group => exact absurd (List.cons.inj hds).1.symm hopen

theorem Balanced.init {commas : Bool} {c : Char} {cs ds : List Char} (h : Balanced commas ds)
    (hds : ds = cs ++ [c]) (hclose : c ≠ ')') : Balanced commas cs := by
  induction h generalizing cs with
  | nil => simp at hds
  | @single _ d =>
    have hback : [] ++ [d] = cs ++ [c] := hds
    obtain ⟨rfl, -⟩ := List.append_inj' hback rfl
    exact .nil
  | @append _ as bs ha hb iha ihb =>
    rcases List.eq_nil_or_concat bs with rfl | ⟨bs, b, rfl⟩
    · rw [List.append_nil] at hds
      exact iha hds
    · rw [List.concat_eq_append, ← List.append_assoc] at hds
      obtain ⟨rfl, hb'⟩ := List.append_inj' hds rfl
      obtain rfl := List.singleton_inj.mp hb'
      exact ha.append (ihb List.concat_eq_append)
  | group =>
    obtain ⟨-, hc⟩ := List.append_inj' hds rfl
    exact absurd (List.singleton_inj.mp hc).symm hclose

/-- Blanks around a text have no part in its balance. -/
theorem Balanced.of_padded {commas : Bool} {before cs after : List Char} (hbefore : Blanks before)
    (hafter : Blanks after) (h : Balanced commas (before ++ cs ++ after)) : Balanced commas cs := by
  have hparen : ∀ {c : Char}, isBlank c = true → c ≠ '(' ∧ c ≠ ')' := by
    intro c hc
    constructor <;>
      · rintro rfl
        exact absurd hc (by decide)
  induction before with
  | cons c before ih =>
    obtain ⟨hc, hbefore⟩ := List.forall_mem_cons.mp hbefore
    exact ih hbefore (h.tail rfl (hparen hc).1)
  | nil =>
    rw [List.nil_append] at h
    induction after using List.reverseRecOn with
    | nil => rwa [List.append_nil] at h
    | append_singleton after c ih =>
      have hc : isBlank c = true := hafter c (List.mem_append_right after List.mem_cons_self)
      refine ih (fun d hd => hafter d (List.mem_append_left _ hd)) ?_
      exact h.init (List.append_assoc cs after [c]).symm (hparen hc).2

/-- A balanced text has a comma outside of parentheses, at which it may be cut, or none. -/
theorem Balanced.cut {commas : Bool} {cs : List Char} (h : Balanced commas cs) :
    Balanced false cs ∨
      ∃ part rest, cs = part ++ ',' :: rest ∧ Balanced false part ∧ Balanced true rest := by
  induction h with
  | nil => exact .inl .nil
  | @single _ c hopen hclose _ =>
    by_cases hcomma : c = ','
    · subst hcomma
      exact .inr ⟨[], [], rfl, .nil, .nil⟩
    · exact .inl (.single hopen hclose fun _ => hcomma)
  | append h h' ih ih' =>
    rcases ih with hcs | ⟨part, rest, rfl, hpart, hrest⟩
    · rcases ih' with hds | ⟨part, rest, rfl, hpart, hrest⟩
      · exact .inl (hcs.append hds)
      · exact .inr ⟨_, rest, (List.append_assoc _ _ _).symm, hcs.append hpart, hrest⟩
    · refine .inr ⟨part, _, ?_, hpart, hrest.append h'.relax⟩
      rw [List.append_assoc, List.cons_append]
  | group h _ => exact .inl (.group h)

theorem splitCommas_ne_nil (depth : Int) (part cs : List Char) :
    splitCommas depth part cs ≠ [] := by
  induction cs generalizing depth part with
  | nil => exact List.cons_ne_nil _ _
  | cons c cs ih =>
    rw [splitCommas]
    split_ifs
    · exact List.cons_ne_nil _ _
    · exact ih _ _
    · exact ih _ _
    · exact ih _ _

/-! ### Parameter lists -/

/-- The text of one parameter: no blanks around it, and no comma outside of parentheses. -/
structure IsPart (cs : List Char) : Prop where
  /-- No blank stands in front. -/
  starts : StartsSolid cs
  /-- No blank stands at the end. -/
  ends : EndsSolid cs
  /-- The parentheses match, and every comma stands in them. -/
  balanced : Balanced false cs

/-- A text with blanks around it. -/
def Padded (cs padded : List Char) : Prop :=
  ∃ before after, Blanks before ∧ Blanks after ∧ padded = before ++ cs ++ after

/-- A parameter list: blanks, or the texts of parameters with blanks around them and commas between
them. -/
inductive ParameterList : List (List Char) → List Char → Prop where
  | empty {gap : List Char} (h : Blanks gap) : ParameterList [] gap
  | last {text part : List Char} (h : Padded text part) : ParameterList [text] part
  | more {text part rest : List Char} {texts : List (List Char)} (h : Padded text part)
    (hne : texts ≠ []) (hrest : ParameterList texts rest) :
    ParameterList (text :: texts) (part ++ ',' :: rest)

theorem padded_front {before : List Char} (h : Blanks before) (cs : List Char) :
    Padded cs (before ++ cs) := ⟨before, [], h, blanks_nil, (List.append_nil _).symm⟩

theorem Padded.refl (cs : List Char) : Padded cs cs := padded_front blanks_nil cs

theorem Padded.balanced {commas : Bool} {cs padded : List Char} (h : Padded cs padded)
    (hcs : Balanced commas cs) : Balanced commas padded := by
  obtain ⟨before, after, hbefore, hafter, rfl⟩ := h
  exact .append (.append (.of_blanks hbefore) hcs) (.of_blanks hafter)

theorem Padded.trim_eq {cs padded : List Char} (h : Padded cs padded) (hcs : IsPart cs) :
    trim padded = cs := by
  obtain ⟨before, after, hbefore, hafter, rfl⟩ := h
  exact trim_padded hbefore hcs.starts hcs.ends hafter

theorem ParameterList.length_le {texts : List (List Char)} {inner : List Char}
    (h : ParameterList texts inner) : ∀ cs ∈ texts, cs.length ≤ inner.length := by
  have hpadded : ∀ {text part : List Char}, Padded text part → text.length ≤ part.length := by
    rintro text part ⟨before, after, -, -, rfl⟩
    simp only [List.length_append]
    omega
  induction h with
  | empty => exact fun cs hcs => absurd hcs List.not_mem_nil
  | last h =>
    intro cs hcs
    rw [List.mem_singleton.mp hcs]
    exact hpadded h
  | more h _ _ ih =>
    intro cs hcs
    rw [List.length_append, List.length_cons]
    rcases List.mem_cons.mp hcs with rfl | hcs
    · have := hpadded h
      omega
    · have := ih cs hcs
      omega

theorem ParameterList.balanced {texts : List (List Char)} {inner : List Char}
    (h : ParameterList texts inner) (htexts : ∀ cs ∈ texts, IsPart cs) : Balanced true inner := by
  induction h with
  | empty h => exact .of_blanks h
  | last h => exact h.balanced (htexts _ List.mem_cons_self).balanced.relax
  | @more text part rest texts h _ _ ih =>
    have hpart := h.balanced (htexts _ List.mem_cons_self).balanced.relax
    have hcomma : Balanced true [','] := .single (by decide) (by decide) nofun
    exact hpart.append (hcomma.append (ih fun cs hcs => htexts cs (List.mem_cons_of_mem _ hcs)))

/-- The parts between the commas of a parameter list are its parameters with their blanks. -/
theorem map_trim_splitCommas {texts : List (List Char)} {inner : List Char}
    (h : ParameterList texts inner) (hne : texts ≠ []) (htexts : ∀ cs ∈ texts, IsPart cs) :
    (splitCommas 0 [] inner).map trim = texts := by
  induction h with
  | empty => exact absurd rfl hne
  | @last text part h =>
    have htext := htexts text List.mem_cons_self
    have hsplit := splitCommas_balanced (h.balanced htext.balanced) (Int.le_refl 0) nofun [] []
    rw [List.append_nil] at hsplit
    rw [hsplit, splitCommas, List.append_nil, List.reverse_reverse, List.map_singleton,
      h.trim_eq htext]
  | @more text part rest texts h hne' _ ih =>
    have htext := htexts text List.mem_cons_self
    have hsplit := splitCommas_balanced (h.balanced htext.balanced) (Int.le_refl 0) nofun []
    have hrest := ih hne' fun cs hcs => htexts cs (List.mem_cons_of_mem _ hcs)
    rw [hsplit, splitCommas, if_pos (by decide), List.append_nil, List.reverse_reverse,
      List.map_cons, h.trim_eq htext, hrest]

/-- A parameter list with parameters is not all blank. -/
theorem ParameterList.not_all_blank {texts : List (List Char)} {inner : List Char}
    (h : ParameterList texts inner) (hne : texts ≠ []) (htexts : ∀ cs ∈ texts, IsPart cs) :
    inner.all isBlank = false := by
  have hpadded : ∀ {text part : List Char}, Padded text part → IsPart text →
      part.all isBlank = false := by
    rintro text part ⟨before, after, -, -, rfl⟩ htext
    rw [List.all_append, List.all_append, htext.starts.not_all, Bool.and_false, Bool.false_and]
  cases h with
  | empty => exact absurd rfl hne
  | last h => exact hpadded h (htexts _ List.mem_cons_self)
  | more h _ _ =>
    rw [List.all_append, hpadded h (htexts _ List.mem_cons_self), Bool.false_and]

/-- Balanced text that is cut at its commas is a parameter list, if no parameter is empty. -/
theorem parameterList_of_splitCommas {steps : Nat} {inner : List Char} (h : Balanced true inner)
    (hsteps : inner.length ≤ steps) (hne : ∀ cs ∈ (splitCommas 0 [] inner).map trim, cs ≠ []) :
    ParameterList ((splitCommas 0 [] inner).map trim) inner ∧
      ∀ cs ∈ (splitCommas 0 [] inner).map trim, IsPart cs := by
  have hpart : ∀ {part : List Char}, Balanced false part → trim part ≠ [] →
      Padded (trim part) part ∧ IsPart (trim part) := by
    intro part hbalanced hpart
    obtain ⟨before, after, hbefore, hafter, heq, hsolid⟩ := exists_trim part
    obtain ⟨hstarts, hends⟩ := hsolid.resolve_left hpart
    refine ⟨⟨before, after, hbefore, hafter, heq⟩, hstarts, hends, ?_⟩
    rw [heq] at hbalanced
    exact hbalanced.of_padded hbefore hafter
  -- The text behind the first comma is shorter, by the comma at least.
  induction steps generalizing inner with
  | zero =>
    obtain rfl := List.length_eq_zero_iff.mp (Nat.le_zero.mp hsteps)
    exact absurd rfl (hne [] List.mem_cons_self)
  | succ steps ih =>
    rcases h.cut with hwhole | ⟨part, rest, rfl, hfirst, hrest⟩
    · have hsplit := splitCommas_balanced hwhole (Int.le_refl 0) nofun [] []
      rw [List.append_nil, List.append_nil, splitCommas, List.reverse_reverse] at hsplit
      rw [hsplit, List.map_singleton] at hne ⊢
      obtain ⟨hpadded, hcs⟩ := hpart hwhole (hne _ List.mem_cons_self)
      exact ⟨.last hpadded, List.forall_mem_singleton.mpr hcs⟩
    · have hsplit := splitCommas_balanced hfirst (Int.le_refl 0) nofun [] (',' :: rest)
      rw [List.append_nil, splitCommas, if_pos (by decide), List.reverse_reverse] at hsplit
      rw [hsplit, List.map_cons] at hne ⊢
      obtain ⟨hfirst', hmore⟩ := List.forall_mem_cons.mp hne
      have hlength : rest.length ≤ steps := by
        rw [List.length_append, List.length_cons] at hsteps
        omega
      obtain ⟨hlist, hparts⟩ := ih hrest hlength hmore
      obtain ⟨hpadded, hcs⟩ := hpart hfirst hfirst'
      refine ⟨.more hpadded ?_ hlist, List.forall_mem_cons.mpr ⟨hcs, hparts⟩⟩
      rw [Ne, List.map_eq_nil_iff]
      exact splitCommas_ne_nil 0 [] rest

/-- Balanced text is a parameter list of the parameters that it is cut into, if none is empty. -/
theorem parameterList_of_splitParameters {inner : List Char} (h : Balanced true inner)
    (hne : ∀ cs ∈ splitParameters inner, cs ≠ []) :
    ParameterList (splitParameters inner) inner ∧ ∀ cs ∈ splitParameters inner, IsPart cs := by
  rw [splitParameters] at hne ⊢
  split_ifs at hne ⊢ with hblank
  · exact ⟨.empty (List.all_eq_true.mp hblank), nofun⟩
  · exact parameterList_of_splitCommas h le_rfl hne

/-- A parameter list is cut into the parameters that it was put together from. -/
theorem splitParameters_of_parameterList {texts : List (List Char)} {inner : List Char}
    (h : ParameterList texts inner) (htexts : ∀ cs ∈ texts, IsPart cs) :
    splitParameters inner = texts := by
  rw [splitParameters]
  by_cases hne : texts = []
  · subst hne
    cases h with
    | empty h => rw [if_pos (List.all_eq_true.mpr h)]
  · rw [h.not_all_blank hne htexts, if_neg Bool.false_ne_true,
      map_trim_splitCommas h hne htexts]

end Workflow.Abi
