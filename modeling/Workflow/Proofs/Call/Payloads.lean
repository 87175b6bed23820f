import Workflow.Proofs.Call.Batch
import Workflow.Proofs.Call.Single

/-!
# Payloads of unknown origin

What is decoded is a text that anybody may have written, and the positions, counts and lengths in it
may be any numbers.  The text is read as bytes first (`hexBytes_text`), and then the bytes are read
as one call or as an array of calls.  Whatever comes out is written in lower case, with parts of the
right size (`Call.InLowerCase`), because it is written for bytes that were found in the payload.

What does not come out is refused under the rules, with two exceptions.  A line break behind the
digits passes the check of the text and fails behind it.  And the data of a row are looked for
before their length is compared with the payload: a length that no payload has is a fault of its own
(`bytesAt_eq_lengthTooLarge_iff`).  No other part of a payload leads to it
(`rowPositions_failsOnly`, `rowAt_eq_lengthTooLarge_iff`), so it takes a row that is otherwise
readable and has only readable rows in front of it (`Oversized`).

`payload_decoders` puts this together for all texts.
-/

namespace Workflow

open Abi Outcome

/-! ### Calls in lower case -/

/-- The digits of hexadecimal texts in lower case. -/
def Hex.lowerAlphabet : List Char := "0123456789abcdef".toList

/-- Whether a text is `0x` and a number of hexadecimal digits in lower case. -/
def Hex.IsLowerText (s : String) (count : Nat) : Prop :=
  ∃ digits : List Char, s = String.ofList ('0' :: 'x' :: digits) ∧ digits.length = count
    ∧ ∀ c ∈ digits, c ∈ Hex.lowerAlphabet

/-- Whether a call is written as decoders write it. -/
structure Call.InLowerCase (call : Call) : Prop where
  /-- The target is `0x` and forty digits in lower case. -/
  target : Hex.IsLowerText call.target 40
  /-- A word holds the amount. -/
  amount : call.amount < 2 ^ 256
  /-- The data are `0x` and pairs of digits in lower case. -/
  data : ∃ count, Hex.IsLowerText call.data (2 * count)

theorem Hex.digit_mem_lowerAlphabet {n : Nat} (h : n < 16) : Hex.digit n ∈ Hex.lowerAlphabet := by
  have hall : ∀ n < 16, Hex.digit n ∈ Hex.lowerAlphabet := by decide
  exact hall n h

theorem Hex.isLowerText_ofBytes (bs : List UInt8) :
    Hex.IsLowerText (Hex.ofBytes bs) (2 * bs.length) := by
  refine ⟨Hex.encode bs, rfl, Hex.length_encode bs, fun c hc => ?_⟩
  obtain ⟨b, -, hdigit⟩ := List.mem_flatMap.mp hc
  obtain ⟨hhigh, hlow⟩ := Hex.halves_lt b
  rcases List.mem_cons.mp hdigit with rfl | hdigit
  · exact Hex.digit_mem_lowerAlphabet hhigh
  · rw [List.mem_singleton.mp hdigit]
    exact Hex.digit_mem_lowerAlphabet hlow

/-- What is written for twenty bytes, a word and some more bytes. -/
theorem Call.inLowerCase_of_bytes {target amount data : List UInt8} (htarget : target.length = 20)
    (hamount : amount.length = 32) :
    Call.InLowerCase ⟨Hex.ofBytes target, bigEndianValue amount, Hex.ofBytes data⟩ where
  target := by
    have hdigits := Hex.isLowerText_ofBytes target
    rw [htarget] at hdigits
    exact hdigits
  amount := bigEndianValue_lt_of_length hamount
  data := ⟨data.length, Hex.isLowerText_ofBytes data⟩

theorem inLowerCase_ofPayload {payload : List UInt8} (h : singleHeadSize ≤ payload.length) :
    (Call.ofPayload payload).InLowerCase :=
  Call.inLowerCase_of_bytes (length_target_of_le h) (length_amount_of_le h)

/-! ### From text to bytes -/

/-- Whether a text is hexadecimal: pairs of digits, with or without their mark. -/
def Hex.IsPairs (s : String) : Prop := Hex.ArePairs (Hex.unmarked s.toList)

/-- Whether a text is hexadecimal but for a line break behind it. -/
def Hex.IsBrokenPairs (s : String) : Prop := ∃ t, s = t ++ "\n" ∧ Hex.IsPairs t

instance Hex.IsPairs.decidable (s : String) : Decidable (Hex.IsPairs s) :=
  inferInstanceAs (Decidable (Hex.ArePairs _))

/-- A line break is no part of a mark. -/
theorem Hex.unmarked_append_newline (cs : List Char) :
    Hex.unmarked (cs ++ ['\n']) = Hex.unmarked cs ++ ['\n'] := by
  match cs with
  | [] => rfl
  | [c] =>
    have hplain : Hex.isMarked [c] = false := by
      unfold Hex.isMarked
      split
      · next heq => cases heq
      · rfl
    have hbroken : Hex.isMarked [c, '\n'] = false := by
      rw [Bool.eq_false_iff]
      intro hmarked
      obtain ⟨-, h | h⟩ := Hex.isMarked_cons_cons_iff.mp hmarked
      · revert h
        decide
      · revert h
        decide
    rw [List.singleton_append, Hex.unmarked, Hex.unmarked, hplain, hbroken]
    rfl
  | c :: x :: cs =>
    have hsame : Hex.isMarked (c :: x :: cs ++ ['\n']) = Hex.isMarked (c :: x :: cs) := by
      rw [Bool.eq_iff_iff, List.cons_append, List.cons_append, Hex.isMarked_cons_cons_iff,
        Hex.isMarked_cons_cons_iff]
    rw [Hex.unmarked, Hex.unmarked, hsame]
    split_ifs
    · rfl
    · rfl

theorem Hex.isBrokenPairs_iff {s : String} : Hex.IsBrokenPairs s ↔
    ∃ cs, Hex.unmarked s.toList = cs ++ ['\n'] ∧ Hex.ArePairs cs := by
  constructor
  · rintro ⟨t, rfl, ht⟩
    have hlast : (t ++ "\n").toList = t.toList ++ ['\n'] := String.toList_append
    exact ⟨_, by rw [hlast, Hex.unmarked_append_newline], ht⟩
  · rintro ⟨cs, hs, hcs⟩
    obtain ⟨mark, hmark⟩ := Hex.exists_mark s.toList
    rw [hs, ← List.append_assoc] at hmark
    refine ⟨String.ofList (mark ++ cs), ?_, ?_⟩
    · rw [← String.toList_inj, String.toList_append, String.toList_ofList]
      exact hmark
    · rw [Hex.IsPairs, String.toList_ofList]
      rw [hmark, Hex.unmarked_append_newline] at hs
      rw [List.append_cancel_right hs]
      exact hcs

theorem Hex.IsBrokenPairs.not_isPairs {s : String} (h : Hex.IsBrokenPairs s) :
    ¬ Hex.IsPairs s := by
  obtain ⟨cs, hs, -⟩ := Hex.isBrokenPairs_iff.mp h
  intro hpairs
  refine Hex.ArePairs.newline_not_mem hpairs ?_
  rw [hs]
  exact List.mem_append_right cs (List.mem_singleton_self _)

/-- What becomes of a text: bytes, a fault where a line break stands behind them, or a refusal. -/
theorem hexBytes_text (label s : String) :
    (Hex.IsPairs s ∧ hexBytes label (.text s) = .ok (Hex.bytesIn s))
    ∨ (Hex.IsBrokenPairs s ∧ hexBytes label (.text s) = .error (.fault (.hex .oddLength)))
    ∨ (¬ Hex.IsPairs s ∧ ¬ Hex.IsBrokenPairs s
      ∧ hexBytes label (.text s) = .error (.coding (.notHex label (.text s)))) := by
  by_cases hpairs : Hex.IsPairs s
  · exact .inl ⟨hpairs, hexBytes_eq_ok_iff.mpr ⟨hpairs, rfl⟩⟩
  · right
    by_cases hchecked : Hex.ArePairs (Hex.dropFinalNewline (Hex.unmarked s.toList))
    · obtain ⟨hend, hodd⟩ := Hex.decode_of_not_arePairs hchecked hpairs
      refine .inl ⟨Hex.isBrokenPairs_iff.mpr ⟨_, hend, hchecked⟩, ?_⟩
      rw [hexBytes, hexText_text, if_pos hchecked]
      show bytesOfHex _ = _
      rw [bytesOfHex_marked, hodd]
      rfl
    · refine .inr ⟨hpairs, fun hbroken => hchecked ?_, ?_⟩
      · obtain ⟨cs, hs, hcs⟩ := Hex.isBrokenPairs_iff.mp hbroken
        rw [hs, Hex.dropFinalNewline_append]
        exact hcs
      · rw [hexBytes, hexText_text, if_neg hchecked]
        rfl

/-! ### Words and addresses -/

section

variable {payload : List UInt8} {position : Nat}

/-- Whether a failure of decoding is not that of a length that no payload has. -/
def Abi.DecodeError.IsPlain (e : DecodeError) : Prop := e ≠ .lengthTooLarge

theorem wordAt_failsOnly (payload : List UInt8) (position : Nat) :
    FailsOnly DecodeError.IsPlain (wordAt payload position) := by
  rw [wordAt]
  split_ifs
  · exact .ok _
  · exact .error (by rintro ⟨⟩)

theorem length_of_wordAt {bs : List UInt8} (h : wordAt payload position = .ok bs) :
    bs.length = 32 := by
  rw [wordAt] at h
  split_ifs at h with hlength
  rw [← Except.ok.inj h]
  exact hlength

theorem numberAt_failsOnly (payload : List UInt8) (position : Nat) :
    FailsOnly DecodeError.IsPlain (numberAt payload position) :=
  (wordAt_failsOnly payload position).map _

theorem exists_word_of_numberAt {n : Nat} (h : numberAt payload position = .ok n) :
    ∃ bs, bs.length = 32 ∧ bigEndianValue bs = n := by
  obtain ⟨bs, hbs, hn⟩ := map_eq_ok_iff.mp h
  exact ⟨bs, length_of_wordAt hbs, hn⟩

theorem checkPadding_failsOnly (padding : List UInt8) :
    FailsOnly DecodeError.IsPlain (checkPadding padding) := by
  rw [checkPadding]
  split_ifs
  · exact .ok _
  · exact .error (by rintro ⟨⟩)

theorem addressAt_failsOnly (payload : List UInt8) (position : Nat) :
    FailsOnly DecodeError.IsPlain (addressAt payload position) :=
  (wordAt_failsOnly payload position).bind fun _ _ =>
    (checkPadding_failsOnly _).bind fun _ _ => .ok _

theorem length_of_addressAt {bs : List UInt8} (h : addressAt payload position = .ok bs) :
    bs.length = 20 := by
  obtain ⟨front, hfront, h⟩ := bind_eq_ok_iff.mp h
  obtain ⟨-, -, h⟩ := bind_eq_ok_iff.mp h
  rw [← Except.ok.inj h, List.length_drop, length_of_wordAt hfront]

/-! ### Offsets -/

theorem offsetAt_failsOnly (payload : List UInt8) (frame : Frame) (start entries location : Nat) :
    FailsOnly DecodeError.IsPlain (offsetAt payload frame start entries location) := by
  refine (numberAt_failsOnly payload location).bind fun offset _ => ?_
  dsimp only
  split_ifs
  · exact .error (by rintro ⟨⟩)
  · exact .ok _

theorem offsetsAt_failsOnly (payload : List UInt8) (start entries location count : Nat) :
    FailsOnly DecodeError.IsPlain (offsetsAt payload start entries location count) := by
  induction count generalizing location with
  | zero => exact .ok []
  | succ count ih =>
    exact (offsetAt_failsOnly payload .array start entries location).bind fun _ _ =>
      (ih (location + 32)).bind fun _ _ => .ok _

/-- The positions of the rows in a payload of bytes. -/
def rowPositions (payload : List UInt8) : Except DecodeError (List Nat) := do
  let start ← offsetAt payload .tuple 0 1 0
  let count ← numberAt payload start
  offsetsAt payload (start + 32) count (start + 32) count

theorem rowPositions_failsOnly (payload : List UInt8) :
    FailsOnly DecodeError.IsPlain (rowPositions payload) :=
  (offsetAt_failsOnly payload .tuple 0 1 0).bind fun start _ =>
    (numberAt_failsOnly payload start).bind fun count _ =>
      offsetsAt_failsOnly payload (start + 32) count (start + 32) count

/-- The calls of a batch are read row by row. -/
theorem batchCalls_eq (payload : List UInt8) :
    batchCalls payload = rowPositions payload >>= (List.mapM (rowAt payload) ·) := by
  rw [batchCalls, rowPositions]
  cases offsetAt payload .tuple 0 1 0 with
  | error e => rfl
  | ok start =>
    simp only [ok_bind]
    cases numberAt payload start <;> rfl

/-! ### Lengths that no payload has -/

/-- Whether a byte string has a length that no payload has, and more than is left of this one. -/
def IsVast (payload : List UInt8) (position : Nat) : Prop :=
  ∃ length, numberAt payload position = .ok length ∧ payloadLimit ≤ ceil32 length
    ∧ (payload.drop (position + 32)).length < ceil32 length

theorem bytesAt_eq_lengthTooLarge_iff :
    bytesAt payload position = .error .lengthTooLarge ↔ IsVast payload position := by
  rw [bytesAt, bind_eq_error_iff]
  constructor
  · rintro (hplain | ⟨length, hlength, h⟩)
    · exact absurd rfl (numberAt_failsOnly payload position _ hplain)
    · dsimp only at h
      rw [List.length_take] at h
      split_ifs at h with hshort hlimit
      · exact ⟨length, hlength, hlimit, by omega⟩
      · cases h
      · rcases bind_eq_error_iff.mp h with hplain | ⟨_, -, h⟩
        · exact absurd rfl (checkPadding_failsOnly _ _ hplain)
        · cases h
  · rintro ⟨length, hlength, hlimit, hshort⟩
    refine .inr ⟨length, hlength, ?_⟩
    dsimp only
    rw [List.length_take, if_pos (by omega), if_pos hlimit]

/-- Whether a row can be read up to its data and these are too long for any payload. -/
structure IsVastRow (payload : List UInt8) (position : Nat) : Prop where
  /-- The target can be read. -/
  target : ∃ target, addressAt payload position = .ok target
  /-- The amount can be read. -/
  amount : ∃ amount, numberAt payload (position + 32) = .ok amount
  /-- The offset leads to data that are too long. -/
  data : ∃ dataPosition, offsetAt payload .tuple position rowEntries (position + 64)
      = .ok dataPosition ∧ IsVast payload dataPosition

theorem rowAt_eq_lengthTooLarge_iff :
    rowAt payload position = .error .lengthTooLarge ↔ IsVastRow payload position := by
  rw [rowAt, bind_eq_error_iff]
  constructor
  · -- The parts in front of the data have failures of their own.
    rintro (hplain | ⟨target, htarget, h⟩)
    · exact absurd rfl (addressAt_failsOnly payload position _ hplain)
    rcases bind_eq_error_iff.mp h with hplain | ⟨amount, hamount, h⟩
    · exact absurd rfl (numberAt_failsOnly payload _ _ hplain)
    rcases bind_eq_error_iff.mp h with hplain | ⟨dataPosition, hposition, h⟩
    · exact absurd rfl (offsetAt_failsOnly payload _ _ _ _ _ hplain)
    rcases bind_eq_error_iff.mp h with hvast | ⟨_, -, h⟩
    · exact ⟨⟨_, htarget⟩, ⟨_, hamount⟩, _, hposition, bytesAt_eq_lengthTooLarge_iff.mp hvast⟩
    · cases h
  · rintro ⟨⟨target, htarget⟩, ⟨amount, hamount⟩, dataPosition, hposition, hvast⟩
    refine .inr ⟨target, htarget, bind_eq_error_iff.mpr (.inr ⟨amount, hamount, ?_⟩)⟩
    refine bind_eq_error_iff.mpr (.inr ⟨dataPosition, hposition, ?_⟩)
    exact bind_eq_error_iff.mpr (.inl (bytesAt_eq_lengthTooLarge_iff.mpr hvast))

theorem inLowerCase_of_rowAt {call : Call} (h : rowAt payload position = .ok call) :
    call.InLowerCase := by
  obtain ⟨target, htarget, h⟩ := bind_eq_ok_iff.mp h
  obtain ⟨amount, hamount, h⟩ := bind_eq_ok_iff.mp h
  obtain ⟨dataPosition, -, h⟩ := bind_eq_ok_iff.mp h
  obtain ⟨data, -, h⟩ := bind_eq_ok_iff.mp h
  obtain ⟨bs, hlength, rfl⟩ := exists_word_of_numberAt hamount
  rw [← Except.ok.inj h]
  exact Call.inLowerCase_of_bytes (length_of_addressAt htarget) hlength

/-- Whether some row of a payload has data that are too long for any payload, and all rows in front
of it can be read. -/
def Oversized (payload : List UInt8) : Prop :=
  ∃ front position back, rowPositions payload = .ok (front ++ position :: back)
    ∧ (∀ p ∈ front, ∃ call, rowAt payload p = .ok call) ∧ IsVastRow payload position

theorem batchCalls_eq_lengthTooLarge_iff :
    batchCalls payload = .error .lengthTooLarge ↔ Oversized payload := by
  rw [batchCalls_eq, bind_eq_error_iff]
  constructor
  · rintro (hplain | ⟨positions, hpositions, h⟩)
    · exact absurd rfl (rowPositions_failsOnly payload _ hplain)
    · obtain ⟨front, position, back, rfl, hfront, hrow⟩ := mapM_eq_error_iff.mp h
      exact ⟨front, position, back, hpositions, hfront, rowAt_eq_lengthTooLarge_iff.mp hrow⟩
  · rintro ⟨front, position, back, hpositions, hfront, hrow⟩
    exact .inr ⟨_, hpositions, mapM_eq_error_iff.mpr
      ⟨front, position, back, rfl, hfront, rowAt_eq_lengthTooLarge_iff.mpr hrow⟩⟩

theorem inLowerCase_of_batchCalls {calls : List Call} (h : batchCalls payload = .ok calls) :
    ∀ call ∈ calls, call.InLowerCase := by
  rw [batchCalls_eq] at h
  obtain ⟨positions, -, hrows⟩ := bind_eq_ok_iff.mp h
  intro call hcall
  obtain ⟨position, -, hrow⟩ := exists_of_mem_of_mapM hrows hcall
  exact inLowerCase_of_rowAt hrow

end

/-! ### All texts -/

/-- How a decoder ends: with calls in lower case, with a refusal under the rules, or in one of two
faults, each of them under one condition. -/
structure Decodes (outcome : Except Failure (List Call)) (broken oversized : Prop) : Prop where
  /-- The calls are written in lower case. -/
  calls : ∀ calls, outcome = .ok calls → ∀ call ∈ calls, call.InLowerCase
  /-- The failures are refusals, but for the two faults. -/
  failures : ∀ e, outcome = .error e → e.IsCoding ∨ e = .fault (.hex .oddLength)
    ∨ e = .fault (.decoding .lengthTooLarge)
  /-- The digits are in front of a line break. -/
  broken_iff : outcome = .error (.fault (.hex .oddLength)) ↔ broken
  /-- Data are too long for any payload. -/
  oversized_iff : outcome = .error (.fault (.decoding .lengthTooLarge)) ↔ oversized

namespace Decodes

variable {calls : List Call} {e : Failure} {broken oversized : Prop}

theorem ok (hcalls : ∀ call ∈ calls, call.InLowerCase) (hbroken : ¬ broken)
    (hoversized : ¬ oversized) : Decodes (.ok calls) broken oversized where
  calls := by
    rintro _ ⟨⟩
    exact hcalls
  failures := by rintro _ ⟨⟩
  broken_iff := iff_of_false (by rintro ⟨⟩) hbroken
  oversized_iff := iff_of_false (by rintro ⟨⟩) hoversized

theorem refusal (he : e.IsCoding) (hbroken : ¬ broken) (hoversized : ¬ oversized) :
    Decodes (.error e) broken oversized := by
  obtain ⟨problem, rfl⟩ := he
  exact {
    calls := by rintro _ ⟨⟩
    failures := by
      rintro _ ⟨⟩
      exact .inl ⟨problem, rfl⟩
    broken_iff := iff_of_false (by rintro ⟨⟩) hbroken
    oversized_iff := iff_of_false (by rintro ⟨⟩) hoversized }

theorem oddLength (hbroken : broken) (hoversized : ¬ oversized) :
    Decodes (.error (.fault (.hex .oddLength))) broken oversized where
  calls := by rintro _ ⟨⟩
  failures := by
    rintro _ ⟨⟩
    exact .inr (.inl rfl)
  broken_iff := iff_of_true rfl hbroken
  oversized_iff := iff_of_false (by rintro ⟨⟩) hoversized

theorem lengthTooLarge (hbroken : ¬ broken) (hoversized : oversized) :
    Decodes (.error (.fault (.decoding .lengthTooLarge))) broken oversized where
  calls := by rintro _ ⟨⟩
  failures := by
    rintro _ ⟨⟩
    exact .inr (.inr rfl)
  broken_iff := iff_of_false (by rintro ⟨⟩) hbroken
  oversized_iff := iff_of_true rfl hoversized

end Decodes

theorem isCoding_decodingFailure {e : DecodeError} (h : e.IsPlain) :
    (decodingFailure e).IsCoding := by
  cases e with
  | lengthTooLarge => exact absurd rfl h
  | _ => exact ⟨_, rfl⟩

/-- Bytes are read as a call or refused as too short. -/
theorem decodes_unpackBytes (payload : List UInt8) :
    Decodes ((Call.unpackBytes payload).map fun call => [call]) False False := by
  rw [Call.unpackBytes]
  split_ifs with hshort
  · exact .refusal (Failure.isCoding_coding _) id id
  · refine .ok (fun call hcall => ?_) id id
    rw [List.mem_singleton.mp hcall]
    exact inLowerCase_ofPayload (Nat.not_lt.mp hshort)

/-- Bytes are read as a batch or refused, unless data are too long for any payload. -/
theorem decodes_batchCalls (payload : List UInt8) :
    Decodes ((batchCalls payload).mapError decodingFailure) False (Oversized payload) := by
  rw [← batchCalls_eq_lengthTooLarge_iff]
  cases hread : batchCalls payload with
  | ok calls => exact .ok (inLowerCase_of_batchCalls hread) id (by rintro ⟨⟩)
  | error e =>
    by_cases hplain : e = .lengthTooLarge
    · subst hplain
      exact .lengthTooLarge id rfl
    · exact .refusal (isCoding_decodingFailure hplain) id fun h => hplain (Except.error.inj h)

/-- What is read from the bytes of a text is read from the text, and a text without bytes is refused
or breaks off in front of them. -/
theorem decodes_text {s : String} {read : List UInt8 → Except Failure (List Call)}
    {oversized : List UInt8 → Prop}
    (h : ∀ payload, Decodes (read payload) False (oversized payload)) :
    Decodes (hexBytes payloadLabel (.text s) >>= read) (Hex.IsBrokenPairs s)
      (Hex.IsPairs s ∧ oversized (Hex.bytesIn s)) := by
  rcases hexBytes_text payloadLabel s with
    ⟨hpairs, hbytes⟩ | ⟨hbroken, hbytes⟩ | ⟨hno, hnot, hbytes⟩
  · have hread := h (Hex.bytesIn s)
    rw [hbytes, ok_bind]
    refine ⟨hread.calls, hread.failures, ?_, ?_⟩
    · rw [hread.broken_iff, false_iff]
      exact fun hbroken => hbroken.not_isPairs hpairs
    · rw [hread.oversized_iff, and_iff_right hpairs]
  · rw [hbytes]
    exact .oddLength hbroken fun h => hbroken.not_isPairs h.1
  · rw [hbytes]
    exact .refusal (Failure.isCoding_coding _) hnot fun h => hno h.1

/-- Whatever a text is, decoding it as one call or as a batch ends with calls in lower case, with
targets of forty digits, amounts below `2 ^ 256` and data of digit pairs, or with a refusal.  It
breaks off otherwise exactly if a line break stands behind hexadecimal digits, or, for a batch, if
the data of a row have a length that no payload has and everything in front of them can be read. -/
theorem payload_decoders (s : String) :
    Decodes ((Call.unpack (.text s)).map fun call => [call]) (Hex.IsBrokenPairs s) False
    ∧ Decodes (unpackBatch (.text s)) (Hex.IsBrokenPairs s)
        (Hex.IsPairs s ∧ Oversized (Hex.bytesIn s)) := by
  constructor
  · have hread : (Call.unpack (.text s)).map (fun call => [call])
        = hexBytes payloadLabel (.text s) >>= fun payload =>
          (Call.unpackBytes payload).map fun call => [call] := by
      rw [Call.unpack]
      cases hexBytes payloadLabel (.text s) <;> rfl
    have hsingle := decodes_text (s := s) decodes_unpackBytes
    rw [hread]
    rw [and_false] at hsingle
    exact hsingle
  · exact decodes_text decodes_batchCalls

/-- The payload of a batch with one row, whose data have the greatest length that a word holds. -/
def vastBatch : List UInt8 := [32, 1, 32, 0xAA, 0, dataOffset, 2 ^ 256 - 1].flatMap word

/-- Neither decoder returns calls or refuses the text in these cases: a mark in front of a line
break, and data that are too long for any payload. -/
theorem decoders_break_off :
    Call.unpack (.text "0x\n") = .error (.fault (.hex .oddLength))
    ∧ unpackBatch (.text "0x\n") = .error (.fault (.hex .oddLength))
    ∧ unpackBatch (.text (Hex.ofBytes vastBatch)) = .error (.fault (.decoding .lengthTooLarge))
    ∧ ¬ ∀ s e, unpackBatch (.text s) = .error e → e.IsCoding := by
  have hbroken : unpackBatch (.text "0x\n") = .error (.fault (.hex .oddLength)) := by cbv
  have hvast : batchCalls vastBatch = .error .lengthTooLarge := by decide +kernel
  refine ⟨by cbv, hbroken, ?_, fun h => ?_⟩
  · rw [unpackBatch, hexBytes_ofBytes, ok_bind, hvast]
    rfl
  · obtain ⟨_, ⟨⟩⟩ := h _ _ hbroken

end Workflow
