import Mathlib.Data.List.TakeWhile
import Workflow.Text.Blank

/-!
# Blanks around and between words

Characters that are seen are no blanks (`isBlank_of_graphic`).  From it follows what trimming
leaves of a text that starts and ends with such a character (`trim_padded`, `exists_trim_eq`), and
what the words of a text are that was put together from words (`words_of_spaced`).  Whatever a text
is, trimming takes blanks alone (`exists_trim`), and each of its words stands in it with blanks
around (`WordIn.words_eq`, `exists_wordIn`).
-/

namespace Workflow.Text

/-! ### Where a run of characters stops -/

section

variable {P : Char → Bool} {cs : List Char}

theorem stops_of_dropWhile {c : Char} {rest : List Char} (h : cs.dropWhile P = c :: rest) :
    P c = false := by
  have hnot := List.head_dropWhile_not P (l := cs) (by simp [h])
  simpa [h] using hnot

/-- What does not go on with a run of characters is left as it is. -/
theorem takeWhile_dropWhile_of_stops (h : ∀ c rest, cs = c :: rest → P c = false) :
    cs.takeWhile P = [] ∧ cs.dropWhile P = cs := by
  cases cs with
  | nil => exact ⟨rfl, rfl⟩
  | cons c rest =>
    have hc : ¬ P c = true := Bool.eq_false_iff.mp (h c rest rfl)
    exact ⟨List.takeWhile_cons_of_neg hc, List.dropWhile_cons_of_neg hc⟩

end

/-! ### Blanks and what is seen -/

/-- Whether a character is one of the ASCII block that leaves a mark. -/
def IsGraphic (c : Char) : Prop := 0x20 < c.toNat ∧ c.toNat < 0x7F

/-- Characters that are all blank. -/
def Blanks (cs : List Char) : Prop := ∀ c ∈ cs, isBlank c = true

instance (cs : List Char) : Decidable (Blanks cs) :=
  decidable_of_iff (cs.all isBlank = true) List.all_eq_true

theorem isBlank_of_graphic {c : Char} (h : IsGraphic c) : isBlank c = false := by
  obtain ⟨hlow, hhigh⟩ := h
  have hout : ∀ range ∈ blankRanges, ¬ (range.1 ≤ c.toNat ∧ c.toNat ≤ range.2) := by
    intro range hrange
    have hbounds : range.2 ≤ 0x20 ∨ 0x7F ≤ range.1 := by
      revert range
      decide
    omega
  rw [isBlank, inRanges, List.any_eq_false]
  intro range hrange
  simpa using hout range hrange

theorem blanks_nil : Blanks [] := fun _ h => absurd h List.not_mem_nil

theorem Blanks.reverse {cs : List Char} (h : Blanks cs) : Blanks cs.reverse :=
  fun c hc => h c (List.mem_reverse.mp hc)

/-- A text whose first character is no blank. -/
def StartsSolid (cs : List Char) : Prop := ∃ c rest, cs = c :: rest ∧ isBlank c = false

/-- A text whose last character is no blank. -/
def EndsSolid (cs : List Char) : Prop := ∃ front c, cs = front ++ [c] ∧ isBlank c = false

theorem StartsSolid.append {cs : List Char} (h : StartsSolid cs) (more : List Char) :
    StartsSolid (cs ++ more) := by
  obtain ⟨c, rest, rfl, hc⟩ := h
  exact ⟨c, rest ++ more, rfl, hc⟩

theorem EndsSolid.append {cs : List Char} (h : EndsSolid cs) (front : List Char) :
    EndsSolid (front ++ cs) := by
  obtain ⟨inner, c, rfl, hc⟩ := h
  exact ⟨front ++ inner, c, (List.append_assoc _ _ _).symm, hc⟩

theorem StartsSolid.not_all {cs : List Char} (h : StartsSolid cs) : cs.all isBlank = false := by
  obtain ⟨c, rest, rfl, hc⟩ := h
  rw [List.all_cons, hc, Bool.false_and]

/-- A text without blanks starts and ends with what is no blank. -/
theorem solid_of_not_blank {cs : List Char} (hne : cs ≠ [])
    (h : ∀ c ∈ cs, isBlank c = false) : StartsSolid cs ∧ EndsSolid cs := by
  constructor
  · obtain ⟨c, rest, rfl⟩ := List.exists_cons_of_ne_nil hne
    exact ⟨c, rest, rfl, h c List.mem_cons_self⟩
  · exact ⟨cs.dropLast, cs.getLast hne, (List.dropLast_concat_getLast hne).symm,
      h (cs.getLast hne) (List.getLast_mem hne)⟩

/-! ### Trimming -/

theorem trimStart_padded {before cs : List Char} (hbefore : Blanks before)
    (hcs : StartsSolid cs) : trimStart (before ++ cs) = cs := by
  obtain ⟨c, rest, rfl, hc⟩ := hcs
  rw [trimStart, List.dropWhile_append_of_pos hbefore, List.dropWhile_cons_of_neg]
  exact Bool.eq_false_iff.mp hc

theorem startsSolid_reverse {cs : List Char} (h : EndsSolid cs) : StartsSolid cs.reverse := by
  obtain ⟨front, c, rfl, hc⟩ := h
  exact ⟨c, front.reverse, List.reverse_concat, hc⟩

theorem trimEnd_padded {cs after : List Char} (hcs : EndsSolid cs) (hafter : Blanks after) :
    trimEnd (cs ++ after) = cs := by
  have hcut : trimStart (after.reverse ++ cs.reverse) = cs.reverse :=
    trimStart_padded hafter.reverse (startsSolid_reverse hcs)
  rw [trimEnd, List.reverse_append]
  exact List.reverse_eq_iff.mpr hcut

/-- Trimming takes nothing but blanks around a text. -/
theorem trim_padded {before cs after : List Char} (hbefore : Blanks before)
    (hstart : StartsSolid cs) (hend : EndsSolid cs) (hafter : Blanks after) :
    trim (before ++ cs ++ after) = cs := by
  rw [trim, List.append_assoc, trimStart_padded hbefore (hstart.append after)]
  exact trimEnd_padded hend hafter

theorem exists_trimStart (cs : List Char) : ∃ before, Blanks before ∧ cs = before ++ trimStart cs ∧
    (trimStart cs = [] ∨ StartsSolid (trimStart cs)) := by
  refine ⟨cs.takeWhile isBlank, fun c hc => List.mem_takeWhile_imp hc,
    List.takeWhile_append_dropWhile.symm, ?_⟩
  cases hcut : trimStart cs with
  | nil => exact .inl rfl
  | cons c rest => exact .inr ⟨c, rest, rfl, stops_of_dropWhile hcut⟩

/-- What is left of a trimmed text, if there is anything, starts and ends with what is no blank. -/
theorem exists_trim (cs : List Char) : ∃ before after, Blanks before ∧ Blanks after ∧
    cs = before ++ trim cs ++ after ∧
      (trim cs = [] ∨ StartsSolid (trim cs) ∧ EndsSolid (trim cs)) := by
  obtain ⟨before, hbefore, hfront, hstart⟩ := exists_trimStart cs
  obtain ⟨after, hafter, hback, hend⟩ := exists_trimStart (trimStart cs).reverse
  have hcut : trimStart cs = trim cs ++ after.reverse := by
    rw [trim, trimEnd, ← trimStart, ← List.reverse_append, ← hback, List.reverse_reverse]
  refine ⟨before, after.reverse, hbefore, hafter.reverse, ?_, ?_⟩
  · rw [List.append_assoc, ← hcut]
    exact hfront
  · rcases hend with hnil | ⟨c, rest, hrest, hc⟩
    · exact .inl (by rw [trim, trimEnd, ← trimStart, hnil, List.reverse_nil])
    · have htrim : trim cs = rest.reverse ++ [c] := by
        rw [trim, trimEnd, ← trimStart, hrest, List.reverse_cons]
      refine .inr ⟨?_, rest.reverse, c, htrim, hc⟩
      -- The first character is that of the text without the blanks in front of it.
      rcases hstart with hnil | ⟨d, more, hmore, hd⟩
      · rw [hnil, htrim] at hcut
        simp at hcut
      · rw [hcut, htrim] at hmore
        rw [htrim]
        cases hreverse : rest.reverse with
        | nil =>
          rw [hreverse] at hmore
          obtain rfl : c = d := (List.cons.inj hmore).1
          exact ⟨c, [], rfl, hc⟩
        | cons e front =>
          rw [hreverse] at hmore
          obtain rfl : e = d := (List.cons.inj hmore).1
          exact ⟨e, front ++ [c], rfl, hd⟩

theorem trim_trim (cs : List Char) : trim (trim cs) = trim cs := by
  obtain ⟨-, -, -, -, -, hnil | ⟨hstart, hend⟩⟩ := exists_trim cs
  · rw [hnil]
    rfl
  · have hcut := trim_padded blanks_nil hstart hend blanks_nil
    rwa [List.nil_append, List.append_nil] at hcut

/-- Whatever follows a text, trimming takes nothing of the text itself. -/
theorem exists_trim_eq {before cs : List Char} (hbefore : Blanks before)
    (hstart : StartsSolid cs) (hend : EndsSolid cs) (more : List Char) :
    ∃ left, trim (before ++ cs ++ more) = cs ++ left := by
  have hfront : trimStart (before ++ cs ++ more) = cs ++ more := by
    rw [List.append_assoc]
    exact trimStart_padded hbefore (hstart.append more)
  rw [trim, hfront]
  -- The blanks at the end of `more` are cut off; if nothing of it is left, the text stops that.
  by_cases hmore : Blanks more
  · exact ⟨[], by rw [trimEnd_padded hend hmore, List.append_nil]⟩
  · have hleft : trimStart more.reverse ≠ [] := by
      intro hnil
      exact hmore fun c hc =>
        List.dropWhile_eq_nil_iff.mp hnil c (List.mem_reverse.mpr hc)
    refine ⟨(trimStart more.reverse).reverse, ?_⟩
    rw [trimEnd, List.reverse_append, List.dropWhile_append]
    rw [trimStart] at hleft ⊢
    rw [if_neg (by simpa using hleft), List.reverse_append, List.reverse_reverse]

/-! ### Words -/

theorem wordsFrom_blanks {gap : List Char} (h : Blanks gap) (cs : List Char) :
    wordsFrom [] (gap ++ cs) = wordsFrom [] cs := by
  induction gap with
  | nil => rfl
  | cons c gap ih =>
    have hc : isBlank c = true := h c List.mem_cons_self
    rw [List.cons_append, wordsFrom, if_pos hc, List.isEmpty_nil, if_pos rfl]
    exact ih fun d hd => h d (List.mem_cons_of_mem _ hd)

theorem wordsFrom_word {cs : List Char} (h : ∀ c ∈ cs, isBlank c = false)
    (word rest : List Char) :
    wordsFrom word (cs ++ rest) = wordsFrom (cs.reverse ++ word) rest := by
  induction cs generalizing word with
  | nil => rfl
  | cons c cs ih =>
    have hc : isBlank c = false := h c List.mem_cons_self
    rw [List.cons_append, wordsFrom, hc, if_neg Bool.false_ne_true,
      ih (fun d hd => h d (List.mem_cons_of_mem _ hd)), List.reverse_cons, List.append_assoc]
    rfl

/-- A text that is put together from words, with blanks in front of each of them. -/
inductive Spaced : List (List Char) → List Char → Prop where
  | nil : Spaced [] []
  | cons {gap word rest : List Char} {ws : List (List Char)} (hgap : Blanks gap) (hne : gap ≠ [])
    (hword : word ≠ []) (hsolid : ∀ c ∈ word, isBlank c = false) (hrest : Spaced ws rest) :
    Spaced (word :: ws) (gap ++ word ++ rest)

/-- A word in progress ends where a spaced text starts. -/
theorem wordsFrom_spaced {ws : List (List Char)} {cs : List Char} (h : Spaced ws cs)
    {word : List Char} (hword : word ≠ []) : wordsFrom word cs = word.reverse :: words cs := by
  have hempty : word.isEmpty = false := by
    rw [List.isEmpty_eq_false_iff]
    exact hword
  cases h with
  | nil => rw [wordsFrom, hempty, if_neg Bool.false_ne_true, words, wordsFrom, List.isEmpty_nil,
      if_pos rfl]
  | @cons gap next rest ws hgap hne hnext hsolid hrest =>
    obtain ⟨c, gap, rfl⟩ := List.exists_cons_of_ne_nil hne
    have hc : isBlank c = true := hgap c List.mem_cons_self
    rw [List.cons_append, List.cons_append, wordsFrom, if_pos hc, hempty,
      if_neg Bool.false_ne_true, words, wordsFrom, if_pos hc, List.isEmpty_nil, if_pos rfl]

/-- The words of a spaced text are the words it was put together from. -/
theorem words_of_spaced {ws : List (List Char)} {cs : List Char} (h : Spaced ws cs) :
    words cs = ws := by
  induction h with
  | nil => rfl
  | @cons gap word rest ws hgap _ hword hsolid hrest ih =>
    rw [words, List.append_assoc, wordsFrom_blanks hgap, wordsFrom_word hsolid, List.append_nil,
      wordsFrom_spaced hrest (by simpa using hword), List.reverse_reverse, ih]

/-- A spaced text is empty or starts with a blank. -/
theorem Spaced.eq_nil_or_blank {ws : List (List Char)} {cs : List Char} (h : Spaced ws cs) :
    cs = [] ∨ ∃ c rest, cs = c :: rest ∧ isBlank c = true := by
  cases h with
  | nil => exact .inl rfl
  | @cons gap word rest ws hgap hne _ _ _ =>
    obtain ⟨c, gap, rfl⟩ := List.exists_cons_of_ne_nil hne
    exact .inr ⟨c, gap ++ word ++ rest, rfl, hgap c List.mem_cons_self⟩

/-- One of the words of a text, with what stands in front of it and behind it. -/
structure WordIn (cs front word back : List Char) : Prop where
  /-- The text is put together from the three parts. -/
  split : cs = front ++ word ++ back
  /-- The word is there. -/
  word_ne_nil : word ≠ []
  /-- It holds no blank. -/
  solid : ∀ c ∈ word, isBlank c = false
  /-- In front of it a blank ends what stands there. -/
  front_ends : front = [] ∨ ∃ start c, front = start ++ [c] ∧ isBlank c = true
  /-- Behind it a blank starts what stands there. -/
  back_starts : back = [] ∨ ∃ c rest, back = c :: rest ∧ isBlank c = true

theorem wordsFrom_blank {c : Char} (hc : isBlank c = true) (word front cs : List Char) :
    wordsFrom word (front ++ c :: cs) = wordsFrom word front ++ words cs := by
  induction front generalizing word with
  | nil =>
    rw [List.nil_append, wordsFrom.eq_def, wordsFrom.eq_def word [], words]
    simp only [hc, ↓reduceIte]
    split_ifs <;> rfl
  | cons d front ih =>
    rw [List.cons_append, wordsFrom, wordsFrom]
    split_ifs
    · exact ih []
    · rw [ih [], List.cons_append]
    · exact ih (d :: word)

theorem words_blanks {gap : List Char} (h : Blanks gap) : words gap = [] := by
  have hgap := wordsFrom_blanks h []
  rw [List.append_nil] at hgap
  rw [words, hgap]
  rfl

/-- The words of a text are those in front of one of them, the word, and those behind it. -/
theorem WordIn.words_eq {cs front word back : List Char} (h : WordIn cs front word back) :
    words cs = words front ++ word :: words back := by
  have hword : words (word ++ back) = word :: words back := by
    have hempty : (word.reverse ++ []).isEmpty = false := by
      rw [List.append_nil, List.isEmpty_reverse, List.isEmpty_eq_false_iff]
      exact h.word_ne_nil
    rw [words, wordsFrom_word h.solid]
    rcases h.back_starts with rfl | ⟨c, rest, rfl, hc⟩
    · rw [wordsFrom, hempty, List.append_nil, List.reverse_reverse]
      rfl
    · have hback : words (c :: rest) = words rest :=
        wordsFrom_blanks (List.forall_mem_singleton.mpr hc) rest
      rw [wordsFrom, if_pos hc, hempty, List.append_nil, List.reverse_reverse, hback]
      rfl
  rw [h.split, List.append_assoc]
  rcases h.front_ends with rfl | ⟨start, c, rfl, hc⟩
  · exact hword
  · have hfront : words (start ++ [c]) = words start := by
      rw [words, wordsFrom_blank hc]
      exact List.append_nil _
    rw [List.append_assoc, hfront, List.singleton_append, words, wordsFrom_blank hc, hword]
    rfl

/-- A text holds blanks only, or it has a first word. -/
theorem exists_first_word (cs : List Char) :
    Blanks cs ∨ ∃ front word back, WordIn cs front word back ∧ Blanks front := by
  obtain ⟨gap, hgap, hcut, hnil | ⟨c, rest, hrest, hc⟩⟩ := exists_trimStart cs
  · rw [hnil, List.append_nil] at hcut
    exact .inl (hcut ▸ hgap)
  · right
    have hword : (trimStart cs).takeWhile (!isBlank ·) = c :: rest.takeWhile (!isBlank ·) := by
      rw [hrest, List.takeWhile_cons_of_pos (by simp [hc])]
    refine ⟨gap, (trimStart cs).takeWhile (!isBlank ·), (trimStart cs).dropWhile (!isBlank ·),
      ⟨?_, ?_, ?_, ?_, ?_⟩, hgap⟩
    · rw [List.append_assoc, List.takeWhile_append_dropWhile]
      exact hcut
    · rw [hword]
      exact List.cons_ne_nil _ _
    · intro d hd
      simpa using List.mem_takeWhile_imp hd
    · rcases List.eq_nil_or_concat gap with rfl | ⟨start, d, rfl⟩
      · exact .inl rfl
      · exact .inr ⟨start, d, List.concat_eq_append, hgap d (by simp)⟩
    · cases hback : (trimStart cs).dropWhile (!isBlank ·) with
      | nil => exact .inl rfl
      | cons d more => exact .inr ⟨d, more, rfl, by simpa using stops_of_dropWhile hback⟩

/-- A blank at the start of a text stands in front of its words. -/
theorem WordIn.exists_front {c : Char} {cs front word back : List Char}
    (h : WordIn (c :: cs) front word back) (hc : isBlank c = true) :
    ∃ more, front = c :: more := by
  have hsplit := h.split
  cases front with
  | nil =>
    obtain ⟨d, word, rfl⟩ := List.exists_cons_of_ne_nil h.word_ne_nil
    obtain ⟨rfl, -⟩ := List.cons.inj hsplit
    exact absurd (hc.symm.trans (h.solid _ List.mem_cons_self)) (by decide)
  | cons d front =>
    obtain ⟨rfl, -⟩ := List.cons.inj hsplit
    exact ⟨front, rfl⟩

/-- A word behind another one is a word of the whole text, and a blank parts the two. -/
theorem WordIn.behind {cs gap first rest front word back : List Char}
    (hfirst : WordIn cs gap first rest) (hword : WordIn rest front word back) :
    WordIn cs (gap ++ first ++ front) word back ∧
      WordIn (gap ++ first ++ front) gap first front := by
  obtain ⟨c, more, rfl, hc⟩ : ∃ c more, front = c :: more ∧ isBlank c = true := by
    rcases hfirst.back_starts with rfl | ⟨c, more, rfl, hc⟩
    · exact absurd hword.split (by simp [hword.word_ne_nil])
    · obtain ⟨more, rfl⟩ := hword.exists_front hc
      exact ⟨c, more, rfl, hc⟩
  refine ⟨⟨?_, hword.word_ne_nil, hword.solid, ?_, hword.back_starts⟩,
    ⟨rfl, hfirst.word_ne_nil, hfirst.solid, hfirst.front_ends, .inr ⟨c, more, rfl, hc⟩⟩⟩
  · rw [hfirst.split, hword.split]
    simp only [List.append_assoc]
  · rcases hword.front_ends with hnil | ⟨start, d, hend, hd⟩
    · cases hnil
    · exact .inr ⟨gap ++ first ++ start, d, by rw [hend, List.append_assoc (gap ++ first)], hd⟩

/-- Each of the words of a text is found in it between the words in front of it and those behind
it. -/
theorem exists_wordIn {cs word : List Char} {before after : List (List Char)}
    (h : words cs = before ++ word :: after) :
    ∃ front back, WordIn cs front word back ∧ words front = before ∧ words back = after := by
  induction before generalizing cs with
  | nil =>
    rcases exists_first_word cs with hblanks | ⟨front, first, back, hfirst, hfront⟩
    · rw [words_blanks hblanks] at h
      cases h
    · rw [hfirst.words_eq, words_blanks hfront, List.nil_append, List.nil_append] at h
      obtain ⟨rfl, rfl⟩ := List.cons.inj h
      exact ⟨front, back, hfirst, words_blanks hfront, rfl⟩
  | cons first before ih =>
    rcases exists_first_word cs with hblanks | ⟨gap, first', rest, hfirst, hgap⟩
    · rw [words_blanks hblanks] at h
      cases h
    · rw [hfirst.words_eq, words_blanks hgap, List.nil_append, List.cons_append] at h
      obtain ⟨rfl, hrest⟩ := List.cons.inj h
      obtain ⟨front, back, hword, hfront, hback⟩ := ih hrest
      obtain ⟨hwhole, hinner⟩ := hfirst.behind hword
      refine ⟨_, back, hwhole, ?_, hback⟩
      rw [hinner.words_eq, words_blanks hgap, hfront, List.nil_append]

/-- A text that ends with no blank still does so with words behind it. -/
theorem Spaced.ends {ws : List (List Char)} {cs : List Char} (h : Spaced ws cs)
    {front : List Char} (hfront : EndsSolid front) : EndsSolid (front ++ cs) := by
  induction h generalizing front with
  | nil => rwa [List.append_nil]
  | @cons gap word rest ws _ _ hword hsolid _ ih =>
    have hends : EndsSolid (front ++ gap ++ word) :=
      (solid_of_not_blank hword hsolid).2.append (front ++ gap)
    have hshape : front ++ (gap ++ word ++ rest) = front ++ gap ++ word ++ rest := by
      simp only [List.append_assoc]
    rw [hshape]
    exact ih hends

end Workflow.Text
