import Mathlib.Data.Bool.AllAny
import Mathlib.Data.List.Basic
import Workflow.Json.Reader

/-!
# Reading texts of ASCII characters

An ASCII text has one byte for each character, and these bytes are the text again (`encode_ascii`,
`decodeLossy_ascii`).  Of its characters most stand for themselves inside a JSON text: a text of
such characters in quotes is read as what stands between the quotes (`readText_unescaped`).
-/

namespace Workflow.Json

/-! ### Bytes of ASCII characters -/

/-- Characters that are all of the ASCII block. -/
def AreAscii (cs : List Char) : Prop := ∀ c ∈ cs, c.toNat < 0x80

instance (cs : List Char) : Decidable (AreAscii cs) :=
  decidable_of_iff _ List.all_iff_forall_prop

theorem toNat_ascii {c : Char} (h : c.toNat < 0x80) : (ascii c).toNat = c.toNat := by
  rw [ascii, UInt8.toNat_ofNat']
  omega

theorem lead_ascii {c : Char} (h : c.toNat < 0x80) : Utf8.lead (ascii c) = .whole c := by
  rw [Utf8.lead, toNat_ascii h, if_pos h, Char.ofNat_toNat]

theorem encode_ascii {cs : List Char} (h : AreAscii cs) :
    Utf8.encode (String.ofList cs) = cs.map ascii := by
  rw [Utf8.encode, String.toList_ofList]
  induction cs with
  | nil => rfl
  | cons c cs ih =>
    obtain ⟨hc, hcs⟩ := List.forall_mem_cons.mp h
    have hone : String.utf8EncodeChar c = [ascii c] := if_pos (Nat.le_of_lt_succ hc)
    rw [List.flatMap_cons, List.map_cons, hone, ih hcs, List.singleton_append]

theorem firstFlaw_ascii {cs : List Char} (h : AreAscii cs) :
    Utf8.firstFlaw (cs.map ascii) = none := by
  have hfrom : ∀ index, Utf8.firstFlawFrom index none (cs.map ascii) = none := by
    induction cs with
    | nil => exact fun _ => rfl
    | cons c cs ih =>
      obtain ⟨hc, hcs⟩ := List.forall_mem_cons.mp h
      intro index
      rw [List.map_cons, Utf8.firstFlawFrom, lead_ascii hc]
      exact ih hcs (index + 1)
  exact hfrom 0

theorem decodeLossy_ascii {cs : List Char} (h : AreAscii cs) :
    Utf8.decodeLossy (cs.map ascii) = String.ofList cs := by
  have hdecode : Utf8.decode (cs.map ascii) = cs.map some := by
    rw [Utf8.decode]
    induction cs with
    | nil => rfl
    | cons c cs ih =>
      obtain ⟨hc, hcs⟩ := List.forall_mem_cons.mp h
      rw [List.map_cons, Utf8.decodeFrom, lead_ascii hc, List.map_cons]
      exact congrArg (some c :: ·) (ih hcs)
  rw [Utf8.decodeLossy, hdecode, List.map_map]
  congr 1
  exact List.map_id cs

/-! ### Characters that stand for themselves -/

/-- An ASCII character that stands for itself inside a JSON text. -/
def IsUnescaped (c : Char) : Prop :=
  0x20 ≤ c.toNat ∧ c.toNat < 0x80 ∧ c ≠ '"' ∧ c ≠ '\\'

theorem areAscii_of_unescaped {cs : List Char} (h : ∀ c ∈ cs, IsUnescaped c) : AreAscii cs :=
  fun c hc => (h c hc).2.1

theorem ascii_ne {c d : Char} (hc : c.toNat < 0x80) (hd : d.toNat < 0x80) (h : c ≠ d) :
    ascii c ≠ ascii d := by
  intro heq
  have hnat := congrArg UInt8.toNat heq
  rw [toNat_ascii hc, toNat_ascii hd] at hnat
  exact h (Char.toNat_inj.mp hnat)

theorem readTextBytes_of_unescaped {c : Char} (h : IsUnescaped c) (done rest : List UInt8) :
    readTextBytes done (ascii c :: rest) = readTextBytes (ascii c :: done) rest := by
  obtain ⟨hlow, hhigh, hquote, hslash⟩ := h
  have hquote' : ascii c ≠ 0x22 := ascii_ne hhigh (by decide) hquote
  have hslash' : ascii c ≠ 0x5C := ascii_ne hhigh (by decide) hslash
  have hlow' : ¬ ascii c < 0x20 := by
    rw [UInt8.lt_iff_toNat_lt, toNat_ascii hhigh]
    exact Nat.not_lt.mpr hlow
  rw [readTextBytes.eq_def]
  split
  · next heq => cases heq
  · next heq => exact absurd (List.cons.inj heq).1 hquote'
  · next heq => exact absurd (List.cons.inj heq).1 hslash'
  · next heq => exact absurd (List.cons.inj heq).1 hslash'
  · next heq => exact absurd (List.cons.inj heq).1 hslash'
  · next heq => exact absurd (List.cons.inj heq).1 hslash'
  · next b left _ _ _ _ _ heq =>
    obtain ⟨rfl, rfl⟩ := List.cons.inj heq
    exact if_neg hlow'

theorem readTextBytes_unescaped {cs : List Char} (h : ∀ c ∈ cs, IsUnescaped c)
    (done rest : List UInt8) :
    readTextBytes done (cs.map ascii ++ ascii '"' :: rest)
      = .ok (done.reverse ++ cs.map ascii, rest) := by
  induction cs generalizing done with
  | nil =>
    rw [List.map_nil, List.nil_append, List.append_nil]
    exact readTextBytes.eq_2 done rest
  | cons c cs ih =>
    obtain ⟨hc, hcs⟩ := List.forall_mem_cons.mp h
    rw [List.map_cons, List.cons_append, readTextBytes_of_unescaped hc, ih hcs,
      List.reverse_cons, List.append_assoc, List.singleton_append]

/-- A text of characters that stand for themselves is read up to the closing quote. -/
theorem readText_unescaped {cs : List Char} (h : ∀ c ∈ cs, IsUnescaped c) (rest : List UInt8) :
    readText (cs.map ascii ++ ascii '"' :: rest) = .ok (String.ofList cs, rest) := by
  have hascii := areAscii_of_unescaped h
  rw [readText, readTextBytes_unescaped h, List.reverse_nil, List.nil_append]
  dsimp only
  rw [firstFlaw_ascii hascii, decodeLossy_ascii hascii]

end Workflow.Json
