import Mathlib.Data.List.Forall2
import Workflow.Proofs.Abi.Groups

/-!
# What the cuts of a parameter list keep

`depth` says how many parentheses a text leaves open, and `StaysAbove` bounds it along the text.  A
text is balanced exactly if it ends at depth zero and never gets below (`balanced_iff`).  Hence the
reader of a group finds the only group that a text can start with, and fails exactly if there is
none (`splitGroup_eq_ok_iff`, `splitGroup_eq_error_iff`).  No shorter cut at a closing parenthesis
has as many opened as closed in front of it (`IsGroup.isFirst`).

The search for commas is followed from any depth and with any part in progress.  Whatever the text
is, its parts joined by commas give it back (`intercalate_splitCommas`), and each comma at depth
zero makes one part more (`length_splitCommas`).  As the part in progress always has the depth that
the search is at, the parts of a text of depth zero have depth zero (`depth_of_mem_splitCommas`);
then none of them gets below it if the text does not (`staysAbove_of_intercalate`).
-/

namespace Workflow.Abi

open Text

/-! ### Depth -/

/-- How many more parentheses a text opens than it closes. -/
def depth (cs : List Char) : Int := cs.count '(' - cs.count ')'

/-- A text that nowhere leads below a depth. -/
def StaysAbove (level : Int) (cs : List Char) : Prop := ∀ front, front <+: cs → level ≤ depth front

@[simp] theorem depth_nil : depth [] = 0 := rfl

@[simp] theorem depth_open : depth ['('] = 1 := by decide

@[simp] theorem depth_close : depth [')'] = -1 := by decide

theorem depth_append (cs ds : List Char) : depth (cs ++ ds) = depth cs + depth ds := by
  simp only [depth, List.count_append]
  omega

theorem depth_cons (c : Char) (cs : List Char) : depth (c :: cs) = depth [c] + depth cs :=
  depth_append [c] cs

@[simp] theorem depth_reverse (cs : List Char) : depth cs.reverse = depth cs := by
  simp only [depth, List.count_reverse]

theorem depth_of_plain {cs : List Char} (h : ∀ c ∈ cs, c ≠ '(' ∧ c ≠ ')') : depth cs = 0 := by
  have hopen : cs.count '(' = 0 := List.count_eq_zero.mpr fun hmem => (h _ hmem).1 rfl
  have hclose : cs.count ')' = 0 := List.count_eq_zero.mpr fun hmem => (h _ hmem).2 rfl
  rw [depth, hopen, hclose]
  rfl

theorem depth_singleton {c : Char} (hopen : c ≠ '(') (hclose : c ≠ ')') : depth [c] = 0 :=
  depth_of_plain (List.forall_mem_singleton.mpr ⟨hopen, hclose⟩)

theorem depth_blanks {cs : List Char} (h : Blanks cs) : depth cs = 0 := by
  refine depth_of_plain fun c hc => ⟨?_, ?_⟩ <;>
    · rintro rfl
      exact absurd (h _ hc) (by decide)

section

variable {level : Int} {c : Char} {cs ds : List Char}

theorem StaysAbove.mono {level' : Int} (h : StaysAbove level cs) (hle : level' ≤ level) :
    StaysAbove level' cs := fun front hfront => Int.le_trans hle (h front hfront)

/-- A text begins at depth zero. -/
theorem StaysAbove.le_zero (h : StaysAbove level cs) : level ≤ 0 := h [] List.nil_prefix

theorem staysAbove_nil : StaysAbove 0 [] := by
  intro front hfront
  obtain rfl := List.prefix_nil.mp hfront
  exact Int.le_refl 0

theorem staysAbove_append_iff :
    StaysAbove level (cs ++ ds) ↔ StaysAbove level cs ∧ StaysAbove (level - depth cs) ds := by
  constructor
  · refine fun h => ⟨fun front hfront => h front (hfront.trans (List.prefix_append cs ds)), ?_⟩
    intro front hfront
    have hwhole := h (cs ++ front) ((List.prefix_append_right_inj cs).mpr hfront)
    rw [depth_append] at hwhole
    omega
  · rintro ⟨hcs, hds⟩ front hfront
    rcases List.prefix_or_prefix_of_prefix hfront (List.prefix_append cs ds) with hin | ⟨more, rfl⟩
    · exact hcs front hin
    · have hmore := hds more ((List.prefix_append_right_inj cs).mp hfront)
      rw [depth_append]
      omega

theorem staysAbove_singleton_iff : StaysAbove level [c] ↔ level ≤ 0 ∧ level ≤ depth [c] := by
  refine ⟨fun h => ⟨h.le_zero, h [c] (List.prefix_refl [c])⟩, fun ⟨hzero, hc⟩ front hfront => ?_⟩
  rcases List.prefix_cons_iff.mp hfront with rfl | ⟨more, rfl, hmore⟩
  · exact hzero
  · rwa [List.prefix_nil.mp hmore]

theorem staysAbove_cons_iff :
    StaysAbove level (c :: cs) ↔ level ≤ 0 ∧ StaysAbove (level - depth [c]) cs := by
  rw [← List.singleton_append, staysAbove_append_iff, staysAbove_singleton_iff]
  constructor
  · rintro ⟨⟨hzero, -⟩, hcs⟩
    exact ⟨hzero, hcs⟩
  · rintro ⟨hzero, hcs⟩
    have hstart := hcs.le_zero
    exact ⟨⟨hzero, by omega⟩, hcs⟩

end

/-! ### Balanced texts -/

theorem Balanced.depth_eq {commas : Bool} {cs : List Char} (h : Balanced commas cs) :
    depth cs = 0 := by
  induction h with
  | nil => rfl
  | single hopen hclose _ => exact depth_singleton hopen hclose
  | append _ _ ih ih' => rw [depth_append, ih, ih', Int.add_zero]
  | group _ ih => rw [depth_append, depth_cons, ih, depth_open, depth_close]; rfl

theorem Balanced.staysAbove {commas : Bool} {cs : List Char} (h : Balanced commas cs) :
    StaysAbove 0 cs := by
  induction h with
  | nil => exact staysAbove_nil
  | single hopen hclose _ =>
    rw [staysAbove_singleton_iff, depth_singleton hopen hclose]
    exact ⟨Int.le_refl 0, Int.le_refl 0⟩
  | append h _ ih ih' =>
    refine staysAbove_append_iff.mpr ⟨ih, ?_⟩
    rwa [h.depth_eq, Int.sub_zero]
  | group h ih =>
    rw [List.cons_append, staysAbove_cons_iff, staysAbove_append_iff, staysAbove_singleton_iff,
      h.depth_eq, depth_open, depth_close]
    exact ⟨Int.le_refl 0, ih.mono (by decide), by decide⟩

/-- A text that ends as far below depth zero as it ever gets closes so many groups. -/
theorem closes_of_depth {n : Nat} {cs : List Char} (hdepth : depth cs = -n)
    (habove : StaysAbove (-n) cs) : Closes n cs := by
  -- On the text: behind a parenthesis the rest ends one group deeper or one group less deep.
  induction cs generalizing n with
  | nil =>
    obtain rfl : n = 0 := by
      rw [depth_nil] at hdepth
      omega
    exact .zero .nil
  | cons c cs ih =>
    obtain ⟨-, hrest⟩ := staysAbove_cons_iff.mp habove
    rw [depth_cons] at hdepth
    by_cases hopen : c = '('
    · subst hopen
      rw [depth_open] at hdepth hrest
      have hinside : Closes (n + 1) cs := ih (by omega) (hrest.mono (by omega))
      exact hinside.cons_open
    · by_cases hclose : c = ')'
      · subst hclose
        rw [depth_close] at hdepth hrest
        have hstart := hrest.le_zero
        obtain ⟨m, rfl⟩ : ∃ m, n = m + 1 := ⟨n - 1, by omega⟩
        exact .succ .nil (ih (by omega) (hrest.mono (by omega)))
      · rw [depth_singleton hopen hclose] at hdepth hrest
        exact (ih (by omega) (hrest.mono (by omega))).cons hopen hclose

/-- A text is balanced exactly if it ends at depth zero and never gets below. -/
theorem balanced_iff {cs : List Char} : Balanced true cs ↔ depth cs = 0 ∧ StaysAbove 0 cs := by
  refine ⟨fun h => ⟨h.depth_eq, h.staysAbove⟩, fun ⟨hdepth, habove⟩ => ?_⟩
  have hcloses : Closes 0 cs := closes_of_depth hdepth habove
  cases hcloses with
  | zero h => exact h

/-! ### The group at the front -/

/-- A text cut at a parenthesis that closes what the first one opens. -/
structure IsGroup (text inner rest : List Char) : Prop where
  /-- The group and what follows it are the text. -/
  text_eq : text = '(' :: inner ++ ')' :: rest
  /-- All that is opened in the group is closed in it. -/
  depth_eq : depth inner = 0
  /-- The group is not closed before its end. -/
  staysAbove : StaysAbove 0 inner

/-- A group that ends as early as any in which the parentheses match in number. -/
structure IsFirstGroup (text inner rest : List Char) : Prop extends IsGroup text inner rest where
  /-- No other cut of this kind leaves less in the group. -/
  shortest : ∀ inner' rest', text = '(' :: inner' ++ ')' :: rest' → depth inner' = 0 →
    inner.length ≤ inner'.length

theorem IsGroup.isFirst {text inner rest : List Char} (h : IsGroup text inner rest) :
    IsFirstGroup text inner rest := by
  refine ⟨h, fun inner' rest' htext hdepth => ?_⟩
  have hsame : inner ++ ')' :: rest = inner' ++ ')' :: rest' :=
    (List.cons.inj (h.text_eq.symm.trans htext)).2
  by_contra hlong
  -- Otherwise the other group and its parenthesis are the front of this one, below depth zero.
  have hother : inner' ++ [')'] <+: inner ++ ')' :: rest := by
    rw [hsame]
    exact ⟨rest', by simp⟩
  have hshorter : (inner' ++ [')']).length ≤ inner.length := by
    rw [List.length_append, List.length_singleton]
    omega
  have hfront : inner' ++ [')'] <+: inner :=
    List.prefix_of_prefix_length_le hother (List.prefix_append inner _) hshorter
  have hbelow := h.staysAbove _ hfront
  rw [depth_append, hdepth, depth_close] at hbelow
  omega

theorem splitGroup_eq_ok_iff {whole : String} {text inner rest : List Char} :
    splitGroup whole text = .ok (inner, rest) ↔ IsGroup text inner rest := by
  constructor
  · intro h
    obtain ⟨htext, hbalanced⟩ := of_splitGroup h
    exact ⟨htext, hbalanced.depth_eq, hbalanced.staysAbove⟩
  · rintro ⟨rfl, hdepth, habove⟩
    exact splitGroup_balanced (balanced_iff.mpr ⟨hdepth, habove⟩) whole rest

theorem eq_of_splitGroup_eq_error {whole : String} {text : List Char} {e : Failure}
    (h : splitGroup whole text = .error e) : e = .coding (.unbalanced whole) := by
  unfold splitGroup at h
  split at h
  · split at h
    · cases h
    · exact (Except.error.inj h).symm
  · exact (Except.error.inj h).symm

theorem splitGroup_eq_error_iff {whole : String} {text : List Char} :
    splitGroup whole text = .error (.coding (.unbalanced whole)) ↔
      ¬ ∃ inner rest, IsGroup text inner rest := by
  cases hsplit : splitGroup whole text with
  | ok group =>
    obtain ⟨inner, rest⟩ := group
    exact iff_of_false nofun fun hno => hno ⟨inner, rest, splitGroup_eq_ok_iff.mp hsplit⟩
  | error e =>
    refine iff_of_true (by rw [eq_of_splitGroup_eq_error hsplit]) ?_
    rintro ⟨inner, rest, hgroup⟩
    rw [splitGroup_eq_ok_iff.mpr hgroup] at hsplit
    cases hsplit

/-! ### The parts between commas -/

/-- The number of commas at a depth. -/
def commasAt (level : Int) (cs : List Char) : Nat :=
  (List.range cs.length).countP fun i => cs[i]? == some ',' && depth (cs.take i) == level

theorem commasAt_cons (level : Int) (c : Char) (cs : List Char) :
    commasAt level (c :: cs)
      = (if c = ',' ∧ level = 0 then 1 else 0) + commasAt (level - depth [c]) cs := by
  have hshift :
      (fun i => (c :: cs)[i]? == some ',' && depth ((c :: cs).take i) == level) ∘ Nat.succ
        = fun i => cs[i]? == some ',' && depth (cs.take i) == level - depth [c] := by
    funext i
    have hlevel : (depth [c] + depth (cs.take i) == level)
        = (depth (cs.take i) == level - depth [c]) := by
      rw [Bool.eq_iff_iff, beq_iff_eq, beq_iff_eq]
      omega
    rw [Function.comp_apply, List.getElem?_cons_succ, List.take_succ_cons, depth_cons, hlevel]
  have hfirst : ((c :: cs)[0]? == some ',' && depth ((c :: cs).take 0) == level) = true
      ↔ c = ',' ∧ level = 0 := by
    rw [List.getElem?_cons_zero, List.take_zero, depth_nil, Bool.and_eq_true, beq_iff_eq,
      beq_iff_eq, Option.some.injEq, eq_comm (a := (0 : Int))]
  rw [commasAt, List.length_cons, List.range_succ_eq_map, List.countP_cons, List.countP_map, hshift,
    Nat.add_comm, if_congr hfirst rfl rfl, commasAt]

/-- The search stops a part at each comma at depth zero, and else follows the depth. -/
theorem splitCommas_cons (level : Int) (part : List Char) (c : Char) (cs : List Char) :
    splitCommas level part (c :: cs) =
      if c = ',' ∧ level = 0 then part.reverse :: splitCommas 0 [] cs
      else splitCommas (level + depth [c]) (c :: part) cs := by
  rw [splitCommas]
  by_cases hcut : c = ',' ∧ level = 0
  · rw [if_pos hcut, if_pos (by simp [hcut])]
  · rw [if_neg hcut, if_neg (by simpa using hcut)]
    by_cases hopen : c = '('
    · subst hopen
      rfl
    · by_cases hclose : c = ')'
      · subst hclose
        rfl
      · rw [if_neg (by simpa using hopen), if_neg (by simpa using hclose),
          depth_singleton hopen hclose, Int.add_zero]

theorem intercalate_splitCommas (level : Int) (part cs : List Char) :
    [','].intercalate (splitCommas level part cs) = part.reverse ++ cs := by
  induction cs generalizing level part with
  | nil => rw [splitCommas, List.intercalate_singleton, List.append_nil]
  | cons c cs ih =>
    rw [splitCommas_cons]
    split_ifs with hcut
    · rw [List.intercalate_cons_of_ne_nil (splitCommas_ne_nil 0 [] cs), ih, hcut.1,
        List.append_assoc]
      rfl
    · rw [ih, List.reverse_cons, List.append_assoc, List.singleton_append]

theorem length_splitCommas (level : Int) (part cs : List Char) :
    (splitCommas level part cs).length = commasAt (-level) cs + 1 := by
  induction cs generalizing level part with
  | nil => rfl
  | cons c cs ih =>
    rw [splitCommas_cons, commasAt_cons]
    by_cases hcut : c = ',' ∧ level = 0
    · obtain ⟨rfl, rfl⟩ := hcut
      rw [if_pos ⟨rfl, rfl⟩, if_pos ⟨rfl, rfl⟩, List.length_cons, ih,
        depth_singleton (by decide) (by decide), Int.neg_zero, Int.sub_zero, Nat.add_comm 1]
    · have hnot : ¬ (c = ',' ∧ -level = 0) := fun ⟨hc, hlevel⟩ => hcut ⟨hc, by omega⟩
      rw [if_neg hcut, if_neg hnot, ih, Int.neg_add, ← Int.sub_eq_add_neg, Nat.zero_add]

theorem depth_of_mem_splitCommas {level : Int} {part cs : List Char} (hpart : depth part = level)
    (hend : level + depth cs = 0) : ∀ piece ∈ splitCommas level part cs, depth piece = 0 := by
  induction cs generalizing level part with
  | nil =>
    rw [splitCommas, List.forall_mem_singleton, depth_reverse, hpart]
    rwa [depth_nil, Int.add_zero] at hend
  | cons c cs ih =>
    rw [depth_cons] at hend
    rw [splitCommas_cons]
    split_ifs with hcut
    · obtain ⟨rfl, rfl⟩ := hcut
      rw [depth_singleton (by decide) (by decide), Int.zero_add] at hend
      exact List.forall_mem_cons.mpr ⟨by rw [depth_reverse, hpart], ih depth_nil hend⟩
    · refine ih ?_ (by omega)
      rw [depth_cons, hpart, Int.add_comm]

/-- What is joined from texts of depth zero leads below it where one of them does. -/
theorem staysAbove_of_intercalate {pieces : List (List Char)}
    (hdepth : ∀ piece ∈ pieces, depth piece = 0)
    (habove : StaysAbove 0 ([','].intercalate pieces)) :
    ∀ piece ∈ pieces, StaysAbove 0 piece := by
  induction pieces with
  | nil => exact nofun
  | cons piece pieces ih =>
    obtain ⟨hpiece, hdepth⟩ := List.forall_mem_cons.mp hdepth
    rcases eq_or_ne pieces [] with rfl | hne
    · rw [List.intercalate_singleton] at habove
      exact List.forall_mem_singleton.mpr habove
    · have hfront : depth (piece ++ [',']) = 0 := by
        rw [depth_append, hpiece, depth_singleton (by decide) (by decide)]
        rfl
      rw [List.intercalate_cons_of_ne_nil hne, staysAbove_append_iff, hfront] at habove
      obtain ⟨hstart, hrest⟩ := habove
      exact List.forall_mem_cons.mpr ⟨(staysAbove_append_iff.mp hstart).1, ih hdepth hrest⟩

/-! ### Blanks around parts -/

theorem padded_trim (cs : List Char) : Padded (trim cs) cs := by
  obtain ⟨before, after, hbefore, hafter, hcs, -⟩ := exists_trim cs
  exact ⟨before, after, hbefore, hafter, hcs⟩

theorem Padded.depth_eq {cs padded : List Char} (h : Padded cs padded) :
    depth padded = depth cs := by
  obtain ⟨before, after, hbefore, hafter, rfl⟩ := h
  rw [depth_append, depth_append, depth_blanks hbefore, depth_blanks hafter, Int.zero_add,
    Int.add_zero]

theorem Padded.staysAbove {cs padded : List Char} {level : Int} (h : Padded cs padded)
    (habove : StaysAbove level padded) : StaysAbove level cs := by
  obtain ⟨before, after, hbefore, -, rfl⟩ := h
  have hcs := (staysAbove_append_iff.mp (staysAbove_append_iff.mp habove).1).2
  rwa [depth_blanks hbefore, Int.sub_zero] at hcs

/-! ### Both cuts -/

/-- A text cut at all its commas at depth zero, without the blanks around the parts. -/
structure IsCut (text : List Char) (parts : List (List Char)) : Prop where
  /-- The parts, each with some blanks around it, are the text if they are joined by commas. -/
  joined : ∃ pieces, List.Forall₂ Padded parts pieces ∧ [','].intercalate pieces = text
  /-- No blanks are left around a part. -/
  trimmed : ∀ part ∈ parts, trim part = part
  /-- All that is opened in a part is closed in it. -/
  depth_eq : ∀ part ∈ parts, depth part = 0
  /-- Nothing is closed in a part before it is opened, unless that is so in the text. -/
  staysAbove : StaysAbove 0 text → ∀ part ∈ parts, StaysAbove 0 part
  /-- There is one part more than there are commas at depth zero. -/
  length_eq : parts.length = commasAt 0 text + 1

theorem splitParameters_isCut {text : List Char} (hdepth : depth text = 0) (h : ¬ Blanks text) :
    IsCut text (splitParameters text) := by
  have hparts : splitParameters text = (splitCommas 0 [] text).map trim :=
    if_neg fun hall => h (List.all_eq_true.mp hall)
  have hjoined : [','].intercalate (splitCommas 0 [] text) = text :=
    intercalate_splitCommas 0 [] text
  have hlevel : ∀ piece ∈ splitCommas 0 [] text, depth piece = 0 :=
    depth_of_mem_splitCommas depth_nil ((Int.zero_add _).trans hdepth)
  rw [hparts]
  refine ⟨⟨splitCommas 0 [] text, ?_, hjoined⟩, ?_, ?_, ?_, ?_⟩
  · exact List.forall₂_map_left_iff.mpr (List.forall₂_same.mpr fun piece _ => padded_trim piece)
  · exact List.forall_mem_map.mpr fun piece _ => trim_trim piece
  · refine List.forall_mem_map.mpr fun piece hpiece => ?_
    rw [← (padded_trim piece).depth_eq]
    exact hlevel piece hpiece
  · intro habove
    rw [← hjoined] at habove
    exact List.forall_mem_map.mpr fun piece hpiece =>
      (padded_trim piece).staysAbove (staysAbove_of_intercalate hlevel habove piece hpiece)
  · rw [List.length_map]
    exact length_splitCommas 0 [] text

/-- Neither cut loses anything.  At the front of a text that starts with a parenthesis the group is
cut off that is closed first, and the only failure is that there is none; a text with all its
parentheses matched, of which something is seen, is cut into the parts between its commas. -/
theorem cutting_lossless (whole : String) (cs list : List Char) :
    (∀ inner rest, splitGroup whole ('(' :: cs) = .ok (inner, rest) ↔
      IsFirstGroup ('(' :: cs) inner rest) ∧
    (splitGroup whole ('(' :: cs) = .error (.coding (.unbalanced whole)) ↔
      ¬ ∃ inner rest, IsGroup ('(' :: cs) inner rest) ∧
    (depth list = 0 → ¬ Blanks list → IsCut list (splitParameters list)) := by
  refine ⟨fun inner rest => ?_, splitGroup_eq_error_iff, splitParameters_isCut⟩
  rw [splitGroup_eq_ok_iff]
  exact ⟨IsGroup.isFirst, IsFirstGroup.toIsGroup⟩

/-- Commas next to parentheses, next to each other and within a group. -/
theorem cutting_lossless_nested :
    IsFirstGroup "((a,b),c)d)".toList "(a,b),c".toList "d)".toList ∧
      depth "(a,b), ,c".toList = 0 ∧ ¬ Blanks "(a,b), ,c".toList ∧
        IsCut "(a,b), ,c".toList ["(a,b)".toList, [], ['c']] := by
  have hdepth : depth "(a,b), ,c".toList = 0 := by decide
  have hseen : ¬ Blanks "(a,b), ,c".toList := by decide
  have hparts : splitParameters "(a,b), ,c".toList = ["(a,b)".toList, [], ['c']] := by decide
  obtain ⟨hgroup, -, hcut⟩ := cutting_lossless "" "(a,b),c)d)".toList "(a,b), ,c".toList
  refine ⟨(hgroup _ _).mp rfl, hdepth, hseen, ?_⟩
  rw [← hparts]
  exact hcut hdepth hseen

end Workflow.Abi
