import Workflow.Abi.Decoding
import Workflow.Proofs.Outcomes
import Mathlib.Data.List.Basic
import Mathlib.Data.List.Induction
import Mathlib.Tactic.NormNum

/-!
# Words and byte strings inside a payload

`StandsAt` says that some bytes stand at a position of a payload; bytes one behind the other stand
there exactly if each part stands where the one before it ends (`standsAt_append`).  What a codec
writes for a number, an address or a byte string is read back wherever it stands.

Numbers have to be below `2 ^ 256`: `sizeWord_eq_ok_iff` says that lengths and offsets are written
exactly then, and `bigEndianValue_word` that such a number is read back from its word.  Thirty-two
bytes are in turn the word of the number they denote (`word_bigEndianValue`).
-/

namespace Workflow.Abi

/-! ### Numbers and words -/

theorem length_bigEndian (count n : Nat) : (bigEndian count n).length = count := by
  rw [bigEndian, List.length_map, List.length_range]

theorem length_word (n : Nat) : (word n).length = 32 := length_bigEndian 32 n

/-- The last byte is the remainder, and the bytes in front of it are those of the quotient. -/
theorem bigEndian_succ (count n : Nat) :
    bigEndian (count + 1) n = bigEndian count (n / 256) ++ [UInt8.ofNat n] := by
  have hfront : ∀ i ∈ List.range count, UInt8.ofNat (n / Nat.pow 256 (count + 1 - 1 - i))
      = UInt8.ofNat (n / 256 / Nat.pow 256 (count - 1 - i)) := by
    intro i hi
    have hi := List.mem_range.mp hi
    have hexp : count + 1 - 1 - i = count - 1 - i + 1 := by omega
    rw [hexp, Nat.pow_eq, Nat.pow_eq, Nat.pow_succ, Nat.mul_comm, Nat.div_div_eq_div_mul]
  have hlast : count + 1 - 1 - count = 0 := by omega
  rw [bigEndian, List.range_succ, List.map_append, List.map_congr_left hfront, List.map_singleton,
    hlast, Nat.pow_eq, Nat.pow_zero, Nat.div_one]
  rfl

theorem bigEndianValue_concat (bs : List UInt8) (b : UInt8) :
    bigEndianValue (bs ++ [b]) = 256 * bigEndianValue bs + b.toNat := by
  rw [bigEndianValue, List.foldl_append]
  rfl

theorem bigEndianValue_bigEndian (count n : Nat) :
    bigEndianValue (bigEndian count n) = n % 256 ^ count := by
  induction count generalizing n with
  | zero =>
    show 0 = n % 256 ^ 0
    rw [Nat.pow_zero, Nat.mod_one]
  | succ count ih =>
    have hb : (UInt8.ofNat n).toNat = n % 256 := UInt8.toNat_ofNat'
    rw [bigEndian_succ, bigEndianValue_concat, ih, hb, Nat.pow_succ, Nat.mul_comm _ 256,
      Nat.mod_mul, Nat.add_comm]

theorem bigEndianValue_word {n : Nat} (h : n < 2 ^ 256) : bigEndianValue (word n) = n := by
  have hlimit : (256 : Nat) ^ 32 = 2 ^ 256 := by norm_num
  rw [word, bigEndianValue_bigEndian, hlimit, Nat.mod_eq_of_lt h]

theorem bigEndianValue_lt (bs : List UInt8) : bigEndianValue bs < 256 ^ bs.length := by
  induction bs using List.reverseRecOn with
  | nil => exact Nat.one_pos
  | append_singleton bs b ih =>
    have hb := b.toNat_lt
    rw [bigEndianValue_concat, List.length_append, List.length_singleton, Nat.pow_succ]
    omega

/-- Bytes are those of the number they denote. -/
theorem bigEndian_bigEndianValue (bs : List UInt8) :
    bigEndian bs.length (bigEndianValue bs) = bs := by
  induction bs using List.reverseRecOn with
  | nil => rfl
  | append_singleton bs b ih =>
    have hb := b.toNat_lt
    -- The last byte is the remainder of the number, the others are those of the quotient.
    have hquotient : (256 * bigEndianValue bs + b.toNat) / 256 = bigEndianValue bs := by omega
    have hlast : UInt8.ofNat (256 * bigEndianValue bs + b.toNat) = b := by
      rw [← UInt8.toNat_inj, UInt8.toNat_ofNat']
      omega
    rw [bigEndianValue_concat, List.length_append, List.length_singleton, bigEndian_succ,
      hquotient, hlast, ih]

theorem bigEndianValue_lt_of_length {bs : List UInt8} (h : bs.length = 32) :
    bigEndianValue bs < 2 ^ 256 := by
  have hlimit : (256 : Nat) ^ 32 = 2 ^ 256 := by norm_num
  rw [← hlimit, ← h]
  exact bigEndianValue_lt bs

theorem word_bigEndianValue {bs : List UInt8} (h : bs.length = 32) :
    word (bigEndianValue bs) = bs := by
  rw [word, ← h]
  exact bigEndian_bigEndianValue bs

theorem word_inj {m n : Nat} (hm : m < 2 ^ 256) (hn : n < 2 ^ 256) (h : word m = word n) :
    m = n := by
  rw [← bigEndianValue_word hm, h, bigEndianValue_word hn]

/-- Integers that lie in one window of the width of a word are told apart by their words. -/
theorem signedWord_inj {least m n : Int} (hm : least ≤ m ∧ m < least + 2 ^ 256)
    (hn : least ≤ n ∧ n < least + 2 ^ 256) (h : signedWord m = signedWord n) : m = n := by
  have hlimit : ((Nat.pow 2 256 : Nat) : Int) = 2 ^ 256 := by norm_num
  have hrest : ∀ k : Int, 0 ≤ k % 2 ^ 256 ∧ k % 2 ^ 256 < 2 ^ 256 := fun k =>
    ⟨Int.emod_nonneg k (by norm_num), Int.emod_lt_of_pos k (by norm_num)⟩
  have hlt : ∀ k : Int, (k % 2 ^ 256).toNat < 2 ^ 256 := by
    intro k
    have hk := hrest k
    omega
  rw [signedWord, signedWord, hlimit] at h
  have hmod := word_inj (hlt m) (hlt n) h
  have hm' := hrest m
  have hn' := hrest n
  omega

theorem signedWord_natCast {n : Nat} (h : n < 2 ^ 256) : signedWord n = word n := by
  have hmod : ((n : Int) % ((2 ^ 256 : Nat) : Int)).toNat = n := by
    rw [← Int.natCast_emod, Int.toNat_natCast, Nat.mod_eq_of_lt h]
  rw [signedWord, Nat.pow_eq, hmod]

theorem length_signedWord (n : Int) : (signedWord n).length = 32 := length_word _

theorem checkBounds_eq_ok_iff {value : Value} {n lower upper : Int} {encoder : String}
    {bits places : Nat} :
    checkBounds value n lower upper encoder bits places = .ok () ↔ lower ≤ n ∧ n ≤ upper := by
  rw [checkBounds]
  split_ifs with h
  · exact ⟨fun _ => h, fun _ => rfl⟩
  · exact ⟨nofun, fun hb => absurd hb h⟩

theorem le_greatestUnsigned_iff (n : Nat) :
    ((0 : Int) ≤ n ∧ (n : Int) ≤ greatestUnsigned 256) ↔ n < 2 ^ 256 := by
  rw [greatestUnsigned, Nat.pow_eq]
  generalize 2 ^ 256 = limit
  omega

/-- Lengths and offsets are written exactly if a word holds them. -/
theorem sizeWord_eq_ok_iff {n : Nat} {bs : List UInt8} :
    sizeWord n = .ok bs ↔ n < 2 ^ 256 ∧ word n = bs := by
  rw [sizeWord, Outcome.map_eq_ok_iff, ← le_greatestUnsigned_iff]
  constructor
  · rintro ⟨u, hbounds, rfl⟩
    exact ⟨checkBounds_eq_ok_iff.mp hbounds, rfl⟩
  · rintro ⟨hbounds, rfl⟩
    exact ⟨(), checkBounds_eq_ok_iff.mpr hbounds, rfl⟩

theorem le_ceil32 (n : Nat) : n ≤ ceil32 n := by
  rw [ceil32]
  omega

theorem length_padRight (bs : List UInt8) : (padRight bs).length = ceil32 bs.length := by
  have hle := le_ceil32 bs.length
  rw [padRight, List.length_append, List.length_replicate]
  omega

/-! ### What stands where -/

/-- Some bytes stand at a position of a payload. -/
def StandsAt (payload : List UInt8) (position : Nat) (bs : List UInt8) : Prop :=
  bs <+: payload.drop position

theorem standsAt_zero (bs : List UInt8) : StandsAt bs 0 bs := List.prefix_rfl

/-- Bytes one behind the other stand each where the ones before them end. -/
theorem standsAt_append {payload : List UInt8} {position : Nat} {front back : List UInt8} :
    StandsAt payload position (front ++ back) ↔
      StandsAt payload position front ∧ StandsAt payload (position + front.length) back := by
  unfold StandsAt
  constructor
  · rintro ⟨rest, h⟩
    rw [← List.drop_drop, ← h, List.append_assoc, List.drop_left]
    exact ⟨List.prefix_append _ _, List.prefix_append _ _⟩
  · rintro ⟨⟨rest, h⟩, hback⟩
    rw [← List.drop_drop, ← h, List.drop_left] at hback
    rw [← h]
    exact List.prefix_append_right_inj front |>.mpr hback

theorem StandsAt.take_eq {payload bs : List UInt8} {position : Nat}
    (h : StandsAt payload position bs) : (payload.drop position).take bs.length = bs :=
  (List.prefix_iff_eq_take.mp h).symm

theorem StandsAt.length_le {payload bs : List UInt8} {position : Nat}
    (h : StandsAt payload position bs) : bs.length ≤ payload.length - position := by
  rw [← List.length_drop]
  exact List.IsPrefix.length_le h

/-! ### Reading back -/

variable {payload : List UInt8} {position : Nat}

theorem wordAt_of_standsAt {w : List UInt8} (h : StandsAt payload position w)
    (hw : w.length = 32) : wordAt payload position = .ok w := by
  rw [wordAt, ← hw, h.take_eq, if_pos rfl]

theorem numberAt_of_standsAt {n : Nat} (h : StandsAt payload position (word n))
    (hn : n < 2 ^ 256) : numberAt payload position = .ok n := by
  rw [numberAt, wordAt_of_standsAt h (length_word n)]
  exact congrArg Except.ok (bigEndianValue_word hn)

theorem checkPadding_replicate (count : Nat) :
    checkPadding (List.replicate count 0) = .ok () := by
  rw [checkPadding, if_pos]
  rw [List.all_replicate]
  simp

theorem addressAt_of_standsAt {bs : List UInt8}
    (h : StandsAt payload position (List.replicate 12 0 ++ bs)) (hbs : bs.length = 20) :
    addressAt payload position = .ok bs := by
  have hw : (List.replicate 12 0 ++ bs).length = 32 := by
    rw [List.length_append, List.length_replicate, hbs]
  have htake : (List.replicate 12 (0 : UInt8) ++ bs).take 12 = List.replicate 12 0 :=
    List.take_left' List.length_replicate
  have hdrop : (List.replicate 12 (0 : UInt8) ++ bs).drop 12 = bs :=
    List.drop_left' List.length_replicate
  rw [addressAt, wordAt_of_standsAt h hw]
  show (do
    checkPadding ((List.replicate 12 0 ++ bs).take 12)
    return (List.replicate 12 0 ++ bs).drop 12) = Except.ok bs
  rw [htake, checkPadding_replicate, hdrop]
  rfl

theorem bytesAt_of_standsAt {bs : List UInt8}
    (h : StandsAt payload position (word bs.length ++ padRight bs)) (hbs : bs.length < 2 ^ 256) :
    bytesAt payload position = .ok bs := by
  obtain ⟨hlength, hbytes⟩ := standsAt_append.mp h
  rw [length_word] at hbytes
  -- What is read behind the length are the bytes and their filling.
  have htake := hbytes.take_eq
  rw [length_padRight] at htake
  have hdrop : (padRight bs).drop bs.length = List.replicate (ceil32 bs.length - bs.length) 0 :=
    List.drop_left
  have hfront : (padRight bs).take bs.length = bs := List.take_left
  rw [bytesAt, numberAt_of_standsAt hlength hbs]
  show (if ((payload.drop (position + 32)).take (ceil32 bs.length)).length < ceil32 bs.length
    then _ else _) = _
  rw [htake, length_padRight, if_neg (Nat.lt_irrefl _)]
  show (do
    checkPadding ((padRight bs).drop bs.length)
    return (padRight bs).take bs.length) = Except.ok bs
  rw [hdrop, checkPadding_replicate, hfront]
  rfl

end Workflow.Abi
