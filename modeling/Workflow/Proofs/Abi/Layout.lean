import Workflow.Proofs.Abi.Words
import Workflow.Proofs.Outcomes

/-!
# Parts of varying length and their offsets

Parts of varying length stand one behind the other, and a word for each of them, in front of all,
says where it begins, so parts for the same places can be told apart once they are put together
(`assemble_inj`).

Where all parts vary in length, `offsetsFrom` lists these beginnings: they are what the writer puts
into the first part of an encoding (`heads_dynamicParts_eq_ok_iff`), the places where the parts
stand (`standsAt_flatten`), and what the strict reader gets back (`offsetsAt_of_standsAt`).
-/

namespace Workflow.Abi

open Outcome

/-- Where parts of the given sizes begin that stand one behind the other from `offset` on. -/
def offsetsFrom (offset : Nat) : List Nat → List Nat
  | [] => []
  | size :: sizes => offset :: offsetsFrom (offset + size) sizes

theorem length_offsetsFrom (offset : Nat) (sizes : List Nat) :
    (offsetsFrom offset sizes).length = sizes.length := by
  induction sizes generalizing offset with
  | nil => rfl
  | cons size sizes ih => rw [offsetsFrom, List.length_cons, List.length_cons, ih]

theorem map_add_offsetsFrom (start offset : Nat) (sizes : List Nat) :
    (offsetsFrom offset sizes).map (start + ·) = offsetsFrom (start + offset) sizes := by
  induction sizes generalizing offset with
  | nil => rfl
  | cons size sizes ih => rw [offsetsFrom, List.map_cons, ih, offsetsFrom, Nat.add_assoc]

theorem le_of_mem_offsetsFrom {offset o : Nat} {sizes : List Nat}
    (h : o ∈ offsetsFrom offset sizes) : offset ≤ o := by
  induction sizes generalizing offset with
  | nil => cases h
  | cons size sizes ih =>
    rcases List.mem_cons.mp h with rfl | h
    · exact Nat.le_refl _
    · have hrest := ih h
      omega

theorem length_flatMap_word (ns : List Nat) : (ns.flatMap word).length = 32 * ns.length := by
  induction ns with
  | nil => rfl
  | cons n ns ih =>
    rw [List.flatMap_cons, List.length_append, length_word, ih, List.length_cons]
    omega

/-! ### Parts -/

/-- Two parts of one place: both vary in length, or both are of one length. -/
structure SamePlace (part part' : Bool × List UInt8) : Prop where
  /-- Both vary in length, or none does. -/
  dynamic_eq : part.1 = part'.1
  /-- If they do not vary in length, it is the same. -/
  length_eq : part.1 = false → part.2.length = part'.2.length

/-- Two sequences of parts for the same places. -/
abbrev SameLayout (parts parts' : List (Bool × List UInt8)) : Prop :=
  List.Forall₂ SamePlace parts parts'

theorem headSize_cons (dynamic : Bool) (bs : List UInt8) (parts : List (Bool × List UInt8)) :
    headSize ((dynamic, bs) :: parts) = (if dynamic then 32 else bs.length) + headSize parts := by
  rw [headSize, headSize, ← List.sum_eq_foldl, ← List.sum_eq_foldl, List.map_cons, List.sum_cons]

theorem tails_cons (dynamic : Bool) (bs : List UInt8) (parts : List (Bool × List UInt8)) :
    tails ((dynamic, bs) :: parts) = (if dynamic then bs else []) ++ tails parts := by
  rw [tails, tails, List.flatMap_cons]

theorem heads_static_eq_ok_iff {offset : Nat} {bs hs : List UInt8}
    {parts : List (Bool × List UInt8)} :
    heads offset ((false, bs) :: parts) = .ok hs ↔
      ∃ rest, heads offset parts = .ok rest ∧ bs ++ rest = hs := by
  rw [heads, map_eq_ok_iff]

theorem heads_dynamic_eq_ok_iff {offset : Nat} {bs hs : List UInt8}
    {parts : List (Bool × List UInt8)} :
    heads offset ((true, bs) :: parts) = .ok hs ↔
      offset < 2 ^ 256 ∧
        ∃ rest, heads (offset + bs.length) parts = .ok rest ∧ word offset ++ rest = hs := by
  rw [heads, bind_eq_ok_iff]
  constructor
  · rintro ⟨place, hplace, h⟩
    obtain ⟨rest, hrest, h⟩ := bind_eq_ok_iff.mp h
    obtain ⟨hoffset, rfl⟩ := sizeWord_eq_ok_iff.mp hplace
    exact ⟨hoffset, rest, hrest, Except.ok.inj h⟩
  · rintro ⟨hoffset, rest, hrest, rfl⟩
    exact ⟨_, sizeWord_eq_ok_iff.mpr ⟨hoffset, rfl⟩, bind_eq_ok_iff.mpr ⟨rest, hrest, rfl⟩⟩

theorem length_heads {offset : Nat} {parts : List (Bool × List UInt8)} {hs : List UInt8}
    (h : heads offset parts = .ok hs) : hs.length = headSize parts := by
  induction parts generalizing offset hs with
  | nil =>
    obtain rfl := Except.ok.inj h
    rfl
  | cons part parts ih =>
    obtain ⟨dynamic, bs⟩ := part
    rw [headSize_cons]
    cases dynamic with
    | false =>
      obtain ⟨rest, hrest, rfl⟩ := heads_static_eq_ok_iff.mp h
      rw [List.length_append, ih hrest]
      rfl
    | true =>
      obtain ⟨-, rest, hrest, rfl⟩ := heads_dynamic_eq_ok_iff.mp h
      rw [List.length_append, length_word, ih hrest]
      rfl

theorem SameLayout.headSize_eq {parts parts' : List (Bool × List UInt8)}
    (h : SameLayout parts parts') : headSize parts = headSize parts' := by
  induction h with
  | nil => rfl
  | @cons part part' parts parts' hplace _ ih =>
    obtain ⟨dynamic, bs⟩ := part
    obtain ⟨_, bs'⟩ := part'
    obtain ⟨rfl, hlength⟩ := hplace
    rw [headSize_cons, headSize_cons, ih]
    cases dynamic with
    | false => rw [hlength rfl]
    | true => rfl

/-- The first parts say where the second parts begin.  If these end at the same place as well, each
of them has one length in both, and they can be told apart. -/
theorem heads_inj {parts parts' : List (Bool × List UInt8)} (hlayout : SameLayout parts parts')
    {offset offset' : Nat} {hs : List UInt8} (h : heads offset parts = .ok hs)
    (h' : heads offset' parts' = .ok hs)
    (hend : offset + (tails parts).length = offset' + (tails parts').length) :
    offset = offset' ∧ (tails parts = tails parts' → parts = parts') := by
  -- An offset says where a part begins; where it ends, only the next one does, or the common end.
  -- So the offsets may differ at first, and are found to be equal on the way back.
  induction hlayout generalizing offset offset' hs with
  | nil => exact ⟨hend, fun _ => rfl⟩
  | @cons part part' parts parts' hplace _ ih =>
    obtain ⟨dynamic, bs⟩ := part
    obtain ⟨_, bs'⟩ := part'
    obtain ⟨rfl, hlength⟩ := hplace
    rw [tails_cons, tails_cons] at hend ⊢
    cases dynamic with
    | false =>
      obtain ⟨rest, hrest, rfl⟩ := heads_static_eq_ok_iff.mp h
      obtain ⟨rest', hrest', heq⟩ := heads_static_eq_ok_iff.mp h'
      obtain ⟨rfl, rfl⟩ := List.append_inj heq (hlength rfl).symm
      obtain ⟨hoffset, hparts⟩ := ih hrest hrest' hend
      exact ⟨hoffset, fun htails => by rw [hparts htails]⟩
    | true =>
      obtain ⟨hlt, rest, hrest, rfl⟩ := heads_dynamic_eq_ok_iff.mp h
      obtain ⟨hlt', rest', hrest', heq⟩ := heads_dynamic_eq_ok_iff.mp h'
      obtain ⟨hword, rfl⟩ := List.append_inj heq (by rw [length_word, length_word])
      obtain rfl := word_inj hlt' hlt hword
      simp only [if_true, List.length_append] at hend
      obtain ⟨hnext, hparts⟩ := ih hrest hrest' (by omega)
      refine ⟨rfl, fun (htails : bs ++ tails parts = bs' ++ tails parts') => ?_⟩
      obtain ⟨rfl, hmore⟩ := List.append_inj htails (Nat.add_left_cancel hnext)
      rw [hparts hmore]

/-- Parts for the same places can be told apart once they are put together. -/
theorem assemble_inj {parts parts' : List (Bool × List UInt8)} (hlayout : SameLayout parts parts')
    {bs : List UInt8} (h : assemble parts = .ok bs) (h' : assemble parts' = .ok bs) :
    parts = parts' := by
  obtain ⟨hs, hhs, rfl⟩ := map_eq_ok_iff.mp h
  obtain ⟨hs', hhs', heq⟩ := map_eq_ok_iff.mp h'
  have hlength : hs'.length = hs.length := by
    rw [length_heads hhs, length_heads hhs', hlayout.headSize_eq]
  obtain ⟨rfl, htails⟩ := List.append_inj heq hlength
  rw [← hlayout.headSize_eq] at hhs'
  exact (heads_inj hlayout hhs hhs' (by rw [htails])).2 htails.symm

theorem length_assemble {parts : List (Bool × List UInt8)} {bs : List UInt8}
    (h : assemble parts = .ok bs) : bs.length = headSize parts + (tails parts).length := by
  obtain ⟨hs, hhs, rfl⟩ := map_eq_ok_iff.mp h
  rw [List.length_append, length_heads hhs]

theorem tails_of_static {parts : List (Bool × List UInt8)} (h : ∀ part ∈ parts, part.1 = false) :
    tails parts = [] := by
  rw [tails, List.flatMap_eq_nil_iff]
  rintro ⟨dynamic, bs⟩ hpart
  exact if_neg (Bool.eq_false_iff.mp (h _ hpart))

theorem SameLayout.static {parts parts' : List (Bool × List UInt8)}
    (hlayout : SameLayout parts parts') (hstatic : ∀ part ∈ parts, part.1 = false) :
    ∀ part ∈ parts', part.1 = false := by
  induction hlayout with
  | nil => exact hstatic
  | cons hplace _ ih =>
    obtain ⟨hfirst, hrest⟩ := List.forall_mem_cons.mp hstatic
    exact List.forall_mem_cons.mpr ⟨hplace.dynamic_eq ▸ hfirst, ih hrest⟩

theorem SameLayout.length_assemble_eq {parts parts' : List (Bool × List UInt8)}
    (hlayout : SameLayout parts parts') (hstatic : ∀ part ∈ parts, part.1 = false)
    {bs bs' : List UInt8} (h : assemble parts = .ok bs) (h' : assemble parts' = .ok bs') :
    bs.length = bs'.length := by
  rw [length_assemble h, length_assemble h', hlayout.headSize_eq, tails_of_static hstatic,
    tails_of_static (hlayout.static hstatic)]

/-! ### Writing -/

/-- Parts all of which vary in length. -/
def dynamicParts (parts : List (List UInt8)) : List (Bool × List UInt8) := parts.map (true, ·)

theorem headSize_dynamicParts (parts : List (List UInt8)) :
    headSize (dynamicParts parts) = 32 * parts.length := by
  induction parts with
  | nil => rfl
  | cons part parts ih =>
    have hrest : headSize (dynamicParts (part :: parts)) = 32 + headSize (dynamicParts parts) :=
      headSize_cons true part _
    rw [hrest, ih, List.length_cons]
    omega

theorem tails_dynamicParts (parts : List (List UInt8)) :
    tails (dynamicParts parts) = parts.flatten := by
  induction parts with
  | nil => rfl
  | cons part parts ih => exact congrArg (part ++ ·) ih

/-- Offsets are written exactly if a word holds each of them. -/
theorem heads_dynamicParts_eq_ok_iff {offset : Nat} {parts : List (List UInt8)}
    {bs : List UInt8} :
    heads offset (dynamicParts parts) = .ok bs ↔
      (∀ o ∈ offsetsFrom offset (parts.map List.length), o < 2 ^ 256) ∧
        (offsetsFrom offset (parts.map List.length)).flatMap word = bs := by
  induction parts generalizing offset bs with
  | nil =>
    show Except.ok [] = .ok bs ↔ _
    rw [Except.ok.injEq]
    exact ⟨fun h => ⟨fun _ ho => absurd ho List.not_mem_nil, h⟩, fun h => h.2⟩
  | cons part parts ih =>
    show heads offset ((true, part) :: dynamicParts parts) = .ok bs ↔ _
    rw [heads_dynamic_eq_ok_iff, List.map_cons, offsetsFrom, List.forall_mem_cons,
      List.flatMap_cons]
    constructor
    · rintro ⟨hoffset, rest, hrest, rfl⟩
      obtain ⟨hoffsets, rfl⟩ := ih.mp hrest
      exact ⟨⟨hoffset, hoffsets⟩, rfl⟩
    · rintro ⟨⟨hoffset, hoffsets⟩, rfl⟩
      exact ⟨hoffset, _, ih.mpr ⟨hoffsets, rfl⟩, rfl⟩

theorem assemble_dynamicParts_eq_ok_iff {parts : List (List UInt8)} {bs : List UInt8} :
    assemble (dynamicParts parts) = .ok bs ↔
      (∀ o ∈ offsetsFrom (32 * parts.length) (parts.map List.length), o < 2 ^ 256) ∧
        (offsetsFrom (32 * parts.length) (parts.map List.length)).flatMap word ++ parts.flatten
          = bs := by
  rw [assemble, map_eq_ok_iff, headSize_dynamicParts, tails_dynamicParts]
  constructor
  · rintro ⟨head, hhead, rfl⟩
    obtain ⟨hoffsets, rfl⟩ := heads_dynamicParts_eq_ok_iff.mp hhead
    exact ⟨hoffsets, rfl⟩
  · rintro ⟨hoffsets, rfl⟩
    exact ⟨_, heads_dynamicParts_eq_ok_iff.mpr ⟨hoffsets, rfl⟩, rfl⟩

/-- Two words and a part of varying length behind them: its offset is that of the fourth word. -/
theorem assemble_words_dynamic {a w bs : List UInt8} (ha : a.length = 32) (hw : w.length = 32) :
    assemble [(false, a), (false, w), (true, bs)] = .ok (a ++ (w ++ (word 96 ++ bs))) := by
  have hsize : headSize [(false, a), (false, w), (true, bs)] = 96 := by
    show 0 + a.length + w.length + 32 = 96
    omega
  have hplace : sizeWord 96 = .ok (word 96) := sizeWord_eq_ok_iff.mpr ⟨by norm_num, rfl⟩
  rw [assemble, hsize, heads, heads, heads, hplace]
  show Except.ok ((a ++ (w ++ (word 96 ++ []))) ++ (bs ++ [])) = _
  rw [List.append_nil, List.append_nil, List.append_assoc, List.append_assoc]

/-! ### Reading -/

variable {payload : List UInt8}

/-- Parts stand where they begin. -/
theorem standsAt_flatten {position : Nat} {parts : List (List UInt8)}
    (h : StandsAt payload position parts.flatten) :
    List.Forall₂ (StandsAt payload) (offsetsFrom position (parts.map List.length)) parts := by
  induction parts generalizing position with
  | nil => exact .nil
  | cons part parts ih =>
    obtain ⟨hpart, hrest⟩ := standsAt_append.mp h
    exact .cons hpart (ih hrest)

/-- A part that is not empty begins inside the payload. -/
theorem lt_length_of_mem_offsetsFrom {position o : Nat} {parts : List (List UInt8)}
    (h : StandsAt payload position parts.flatten) (hparts : ∀ part ∈ parts, part ≠ [])
    (ho : o ∈ offsetsFrom position (parts.map List.length)) : o < payload.length := by
  induction parts generalizing position with
  | nil => cases ho
  | cons part parts ih =>
    obtain ⟨hpart, hrest⟩ := standsAt_append.mp h
    rcases List.mem_cons.mp ho with rfl | ho
    · have hpos := List.length_pos_of_ne_nil (hparts part List.mem_cons_self)
      have hle := hpart.length_le
      omega
    · exact ih hrest (fun p hp => hparts p (List.mem_cons_of_mem part hp)) ho

theorem offsetAt_of_standsAt {frame : Frame} {start entries location offset : Nat}
    (h : StandsAt payload location (word offset)) (hoffset : offset < 2 ^ 256)
    (hle : 32 * entries ≤ offset) (hlt : start + offset < payload.length) :
    offsetAt payload frame start entries location = .ok (start + offset) := by
  have hvalid : ¬ (start + offset < start + 32 * entries ∨ payload.length ≤ start + offset) := by
    omega
  rw [offsetAt, numberAt_of_standsAt h hoffset]
  show (if _ ∨ _ then _ else _) = _
  rw [if_neg hvalid]

theorem offsetsAt_of_standsAt {start entries location : Nat} {offsets : List Nat}
    (h : StandsAt payload location (offsets.flatMap word))
    (hoffsets : ∀ o ∈ offsets, o < 2 ^ 256 ∧ 32 * entries ≤ o ∧ start + o < payload.length) :
    offsetsAt payload start entries location offsets.length
      = .ok (offsets.map (start + ·)) := by
  induction offsets generalizing location with
  | nil => rfl
  | cons o offsets ih =>
    rw [List.flatMap_cons, standsAt_append, length_word] at h
    obtain ⟨hfirst, hrest⟩ := List.forall_mem_cons.mp hoffsets
    obtain ⟨ho, hle, hlt⟩ := hfirst
    rw [List.length_cons, offsetsAt, offsetAt_of_standsAt h.1 ho hle hlt, List.map_cons]
    show (do
      let positions ← offsetsAt payload start entries (location + 32) offsets.length
      return (start + o) :: positions) = _
    rw [ih h.2 hrest]
    rfl

end Workflow.Abi
