import Workflow.Proofs.Abi.TypeTexts

/-!
# Types as they are written

Reading a type loses nothing: what has been read is written as the very text it was read from
(`Ty.render_of_parse`), as it is for the sizes and the array suffixes in it.

`Ty.Part` finds the bases in a type with the sizes behind them, at any depth.  A base that has been
read is a word of letters (`Ty.Part.isLetters`), and a type is its own full form unless it holds one
of the `shortBases` without a size (`Ty.full_eq_self_iff`).
-/

namespace Workflow.Abi

open Outcome Text

/-! ### Types -/

theorem render_of_takeDims (dims : List Dimension) {steps : Nat} {cs left : List Char}
    (h : (takeDims steps cs).found = some (dims, left)) :
    cs = (renderDims dims).toList ++ left := by
  induction dims generalizing steps cs with
  | nil =>
    rcases takeDims_found h with ⟨-, rfl⟩ | ⟨_, _, _, _, -, -, heq⟩
    · rfl
    · cases heq
  | cons dimension dims ih =>
    rcases takeDims_found h with ⟨heq, -⟩ | ⟨_, _, rest, _, rfl, hmore, heq⟩
    · cases heq
    · obtain ⟨rfl, rfl⟩ := List.cons.inj heq
      rw [toList_renderDims_cons, ih hmore]
      simp

theorem renderAll_eq (ts : List Ty) : renderAll ts = ts.map Ty.render := by
  induction ts with
  | nil => rfl
  | cons t ts ih => rw [renderAll, ih, List.map_cons]

theorem toList_render_tuple (ts : List Ty) (dims : List Dimension) :
    (Ty.tuple ts dims).render.toList
      = '(' :: ([','].intercalate (ts.map fun t => t.render.toList)
        ++ ')' :: (renderDims dims).toList) := by
  rw [Ty.render, renderAll_eq, String.toList_append, String.toList_append, String.toList_append,
    String.toList_intercalate, List.map_map]
  simp [Function.comp_def]

/-- The grammar has no empty tuple. -/
theorem ne_nil_of_takeComponents {steps : Nat} {cs left : List Char} {ts : List Ty}
    (h : (takeComponents steps cs).found = some (ts, left)) : ts ≠ [] := by
  obtain ⟨_, t, _, _, ⟨_, rfl⟩ | ⟨_, more, _, _, rfl⟩⟩ := takeComponents_found h
  · exact List.cons_ne_nil t []
  · exact List.cons_ne_nil t more

mutual

/-- What has been read as a type is its text. -/
theorem Ty.render_of_takeType (t : Ty) {steps : Nat} {cs left : List Char}
    (h : (takeType steps cs).found = some (t, left)) : cs = t.render.toList ++ left := by
  by_cases hopen : ∃ rest, cs = '(' :: rest
  · obtain ⟨rest, rfl⟩ := hopen
    obtain ⟨steps', ts, after, dims, hts, hdims, heq⟩ := takeType_tuple_found h
    match t, heq with
    | .tuple ts dims, rfl =>
      rw [render_of_takeComponents ts hts, render_of_takeDims dims hdims, toList_render_tuple]
      simp
  · obtain ⟨-, size, after, dims, hsize, hdims, heq⟩ :=
      takeType_base_found (fun rest hcs => hopen ⟨rest, hcs⟩) h
    rw [heq, Ty.render, String.toList_append, String.toList_append, String.toList_ofList,
      List.append_assoc, List.append_assoc, ← render_of_takeDims dims hdims,
      ← render_of_takeSize hsize, List.takeWhile_append_dropWhile]

/-- What has been read as the components of a tuple are their texts, with commas between them. -/
theorem render_of_takeComponents (ts : List Ty) {steps : Nat} {cs left : List Char}
    (h : (takeComponents steps cs).found = some (ts, left)) :
    cs = [','].intercalate (ts.map fun t => t.render.toList) ++ ')' :: left := by
  obtain ⟨steps', t, after, ht, ⟨rfl, heq⟩ | ⟨rest, more, rfl, hmore, heq⟩⟩ :=
    takeComponents_found h
  · match ts, heq with
    | [t], rfl => rw [List.map_singleton, List.intercalate_singleton, t.render_of_takeType ht]
  · match ts, heq with
    | t :: more, rfl =>
      have hrest := render_of_takeComponents more hmore
      obtain ⟨u, us, rfl⟩ := List.exists_cons_of_ne_nil (ne_nil_of_takeComponents hmore)
      rw [t.render_of_takeType ht, hrest, List.map_cons, List.map_cons, List.map_cons,
        List.intercalate_cons_cons]
      simp

end

/-- A text that is read as a type is the text of the type. -/
theorem Ty.render_of_parse {s : String} {t : Ty} (h : Ty.parse s = .ok t) : t.render = s := by
  obtain ⟨steps, hread⟩ := Ty.exists_takeType_of_parse h
  rw [← String.toList_inj, t.render_of_takeType hread, List.append_nil]

/-! ### Bases -/

/-- A base in a type, at any depth, with the size behind it. -/
inductive Ty.Part : Ty → String → Size → Prop where
  | basic {base : String} {size : Size} {dims : List Dimension} :
    Part (.basic base size dims) base size
  | component {t : Ty} {ts : List Ty} {dims : List Dimension} {base : String} {size : Size}
    (ht : t ∈ ts) (h : t.Part base size) : Part (.tuple ts dims) base size

/-- A word of letters. -/
def IsLetters (word : String) : Prop := word ≠ "" ∧ ∀ c ∈ word.toList, c.isAlpha = true

theorem exists_takeType_of_mem {ts : List Ty} {t : Ty} (ht : t ∈ ts) {steps : Nat}
    {cs left : List Char} (h : (takeComponents steps cs).found = some (ts, left)) :
    ∃ steps cs left, (takeType steps cs).found = some (t, left) := by
  induction ts generalizing steps cs with
  | nil => cases ht
  | cons u us ih =>
    obtain ⟨steps', u', after, hu, ⟨rfl, heq⟩ | ⟨rest, more, rfl, hmore, heq⟩⟩ :=
      takeComponents_found h
    · obtain ⟨rfl, rfl⟩ := List.cons.inj heq
      obtain rfl := List.mem_singleton.mp ht
      exact ⟨_, _, _, hu⟩
    · obtain ⟨rfl, rfl⟩ := List.cons.inj heq
      rcases List.mem_cons.mp ht with rfl | ht
      · exact ⟨_, _, _, hu⟩
      · exact ih ht hmore

/-- The bases that have been read are words of letters. -/
theorem Ty.Part.isLetters_of_takeType {t : Ty} {base : String} {size : Size} (h : t.Part base size)
    {steps : Nat} {cs left : List Char} (hread : (takeType steps cs).found = some (t, left)) :
    IsLetters base := by
  induction h generalizing steps cs left with
  | basic =>
    by_cases hopen : ∃ rest, cs = '(' :: rest
    · obtain ⟨rest, rfl⟩ := hopen
      obtain ⟨_, _, _, _, _, _, ⟨⟩⟩ := takeType_tuple_found hread
    · obtain ⟨hne, _, _, _, _, _, heq⟩ :=
        takeType_base_found (fun rest hcs => hopen ⟨rest, hcs⟩) hread
      obtain ⟨rfl, -, -⟩ := Ty.basic.inj heq
      constructor
      · rwa [Ne, ← String.toList_inj, String.toList_ofList]
      · rw [String.toList_ofList]
        exact fun c hc => List.mem_takeWhile_imp hc
  | component ht _ ih =>
    by_cases hopen : ∃ rest, cs = '(' :: rest
    · obtain ⟨rest, rfl⟩ := hopen
      obtain ⟨_, _, _, _, hts, _, heq⟩ := takeType_tuple_found hread
      obtain ⟨rfl, -⟩ := Ty.tuple.inj heq
      obtain ⟨_, _, _, hread'⟩ := exists_takeType_of_mem ht hts
      exact ih hread'
    · obtain ⟨_, _, _, _, _, _, ⟨⟩⟩ := takeType_base_found (fun rest hcs => hopen ⟨rest, hcs⟩) hread

theorem Ty.Part.isLetters {t : Ty} {base : String} {size : Size} (h : t.Part base size) {s : String}
    (hparse : Ty.parse s = .ok t) : IsLetters base := by
  obtain ⟨steps, hread⟩ := Ty.exists_takeType_of_parse hparse
  exact h.isLetters_of_takeType hread

/-! ### Full forms -/

/-- The names of elementary types that are short for others. -/
def aliases : List String := ["uint", "int", "byte", "fixed", "ufixed"]

/-- The bases that stand for another type where no size follows them.  What the last of them stands
for is the same in memory only, so it is no alias. -/
def shortBases : List String := aliases ++ ["function"]

theorem fullBase_eq_self_iff {base : String} {size : Size} :
    fullBase base size = (base, size) ↔ ¬ (size = .none ∧ base ∈ shortBases) := by
  cases size with
  | none =>
    have hshort : ∀ base ∈ shortBases, (fullBase base .none).2 ≠ .none := by decide
    by_cases hbase : base ∈ shortBases
    · exact iff_of_false (fun h => hshort base hbase (Prod.mk.inj h).2) fun h => h ⟨rfl, hbase⟩
    · refine iff_of_true ?_ fun h => hbase h.2
      simp only [shortBases, aliases, List.cons_append, List.nil_append, List.mem_cons,
        List.not_mem_nil, or_false, not_or] at hbase
      simp [fullBase, hbase]
  | one n => simp [fullBase]
  | two n m => simp [fullBase]

mutual

/-- A type is its own full form unless a short base without a size is in it. -/
theorem Ty.full_eq_self_iff (t : Ty) :
    t.full = t ↔ ∀ base ∈ shortBases, ¬ t.Part base .none := by
  match t with
  | .basic base size dims =>
    have hfull : (Ty.basic base size dims).full = .basic base size dims ↔
        fullBase base size = (base, size) := by
      rw [Ty.full]
      rcases fullBase base size with ⟨base', size'⟩
      simp
    rw [hfull, fullBase_eq_self_iff]
    constructor
    · intro h short hshort hpart
      cases hpart
      exact h ⟨rfl, hshort⟩
    · rintro h ⟨rfl, hbase⟩
      exact h base hbase .basic
  | .tuple ts dims =>
    have hall := fullAll_eq_self_iff ts
    rw [Ty.full]
    constructor
    · intro h base hbase hpart
      cases hpart with
      | component ht hpart => exact hall.mp (Ty.tuple.inj h).1 _ ht base hbase hpart
    · intro h
      rw [hall.mpr fun t ht base hbase hpart => h base hbase (.component ht hpart)]

theorem fullAll_eq_self_iff (ts : List Ty) :
    fullAll ts = ts ↔ ∀ t ∈ ts, ∀ base ∈ shortBases, ¬ t.Part base .none := by
  match ts with
  | [] => exact iff_of_true rfl fun t ht => absurd ht List.not_mem_nil
  | t :: ts =>
    rw [fullAll, List.cons.injEq, t.full_eq_self_iff, fullAll_eq_self_iff ts, List.forall_mem_cons]

end

end Workflow.Abi
