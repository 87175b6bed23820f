import Workflow.Proofs.Failures
import Workflow.Proofs.Text.Hex
import Workflow.Word

/-!
# What is read as call data and as a word

A text is call data exactly if its digits, less the mark, come in pairs
(`hexBytes_text_eq_ok_iff`).  The check lets one final line break through that the reading behind it
refuses: beside integers that are too long for a message, this is the only way in which reading ends
in a fault (`hexBytes_forms`, `unsignedWord_forms`).
-/

namespace Workflow

theorem Hex.unmarked_marked (cs : List Char) : Hex.unmarked ('0' :: 'x' :: cs) = cs := rfl

/-- What stands behind the mark is the end of the text. -/
theorem Hex.exists_mark (cs : List Char) : ∃ mark, cs = mark ++ Hex.unmarked cs := by
  rw [Hex.unmarked]
  split_ifs
  · exact ⟨cs.take 2, (List.take_append_drop 2 cs).symm⟩
  · exact ⟨[], rfl⟩

/-- Digits that are not pairs but pass the check are pairs in front of a line break. -/
theorem Hex.decode_of_not_arePairs {cs : List Char}
    (hcs : Hex.ArePairs (Hex.dropFinalNewline cs)) (h : ¬ Hex.ArePairs cs) :
    cs = Hex.dropFinalNewline cs ++ ['\n'] ∧ Hex.decode cs = .error .oddLength := by
  rcases Hex.eq_dropFinalNewline_or cs with heq | heq
  · rw [← heq] at hcs
    exact absurd hcs h
  · have hlen := congrArg List.length heq
    rw [List.length_append, List.length_singleton] at hlen
    refine ⟨heq, ?_⟩
    rw [Hex.decode, if_pos (by have := hcs.1; omega)]

theorem hexText_text (label s : String) :
    hexText label (.text s) =
      if Hex.ArePairs (Hex.dropFinalNewline (Hex.unmarked s.toList)) then
        .ok (String.ofList ('0' :: 'x' :: Hex.unmarked s.toList))
      else .error (.coding (.notHex label (.text s))) := by
  simp only [hexText, Hex.isMarkedPairs_marked]

theorem bytesOfHex_marked (cs : List Char) :
    bytesOfHex (String.ofList ('0' :: 'x' :: cs))
      = (Hex.decode cs).mapError fun e => .fault (.hex e) := by
  rw [bytesOfHex, Hex.toBytes, String.toList_ofList, Hex.unmarked_marked]

theorem hexBytes_text_eq_ok_iff {label s : String} {bs : List UInt8} :
    hexBytes label (.text s) = .ok bs ↔ Hex.decode (Hex.unmarked s.toList) = .ok bs := by
  rw [hexBytes, hexText_text]
  split_ifs with hpairs
  · show bytesOfHex _ = .ok bs ↔ _
    rw [bytesOfHex_marked]
    cases Hex.decode (Hex.unmarked s.toList) <;> simp [Except.mapError]
  · constructor
    · exact nofun
    · intro h
      have harePairs := (Hex.decode_eq_ok_iff.mp h).1
      rw [Hex.dropFinalNewline_of_not_mem harePairs.newline_not_mem] at hpairs
      exact absurd harePairs hpairs

theorem hexBytes_ofBytes (label : String) (bs : List UInt8) :
    hexBytes label (.text (Hex.ofBytes bs)) = .ok bs := by
  rw [hexBytes_text_eq_ok_iff, Hex.toList_ofBytes, Hex.unmarked_marked]
  exact Hex.decode_encode bs

theorem hexText_forms (label : String) (v : Value) : Outcome.Forms v.Unfit (hexText label v) := by
  cases v with
  | bytes bs => exact .ok _
  | text s =>
    rw [hexText_text]
    split_ifs
    · exact .ok _
    · exact .coding _
  | _ => exact .showing _ _

/-- Digits that passed the check are refused only where a line break stands behind them. -/
theorem bytesOfHex_forms {label s : String} {v : Value} (h : hexText label v = .ok s) :
    Outcome.Forms v.Unfit (bytesOfHex s) := by
  cases v with
  | bytes bs =>
    rw [← Except.ok.inj h, bytesOfHex, Hex.toBytes_ofBytes]
    exact .ok bs
  | text t =>
    rw [hexText_text] at h
    split_ifs at h with hpairs
    rw [← Except.ok.inj h, bytesOfHex_marked]
    by_cases harePairs : Hex.ArePairs (Hex.unmarked t.toList)
    · obtain ⟨bs, hbs⟩ := Hex.exists_decode_eq_ok harePairs
      rw [hbs]
      exact .ok bs
    · obtain ⟨hend, hodd⟩ := Hex.decode_of_not_arePairs hpairs harePairs
      obtain ⟨mark, hmark⟩ := Hex.exists_mark t.toList
      rw [hend, ← List.append_assoc] at hmark
      rw [hodd]
      exact .error (.fault (.lineBreak hmark))
  | _ => cases h

/-- What passed the check once passes it again as it is. -/
theorem hexText_of_hexText {label s : String} {v : Value} (h : hexText label v = .ok s)
    (again : String) : hexText again (.text s) = .ok s := by
  cases v with
  | bytes bs =>
    obtain rfl := Except.ok.inj h
    have hpairs := Hex.arePairs_encode bs
    rw [hexText_text, Hex.toList_ofBytes, Hex.unmarked_marked,
      Hex.dropFinalNewline_of_not_mem hpairs.newline_not_mem, if_pos hpairs]
    rfl
  | text t =>
    rw [hexText_text] at h
    split_ifs at h with hpairs
    rw [← Except.ok.inj h, hexText_text, String.toList_ofList, Hex.unmarked_marked, if_pos hpairs]
  | _ => cases h

theorem hexBytes_forms (label : String) (v : Value) :
    Outcome.Forms v.Unfit (hexBytes label v) :=
  (hexText_forms label v).bind fun _ => bytesOfHex_forms

/-- Text that passed the check is at fault as the value is that it comes from. -/
theorem hexBytes_forms_of_hexText {label s : String} {v : Value} (h : hexText label v = .ok s)
    (again : String) : Outcome.Forms v.Unfit (hexBytes again (.text s)) := by
  rw [hexBytes, hexText_of_hexText h again]
  exact bytesOfHex_forms h

/-! ### Words -/

theorem unsignedWord_eq (label : String) (v : Value) :
    unsignedWord label v = (integer label v).bind fun n =>
      if 0 ≤ n ∧ n < Nat.pow 2 256 then .ok n.toNat
      else .error (.showing v (.coding (.outOfRange label v))) := rfl

theorem unsignedWord_eq_ok_iff {label : String} {v : Value} {n : Nat} :
    unsignedWord label v = .ok n ↔ integer label v = .ok (n : Int) ∧ n < 2 ^ 256 := by
  rw [unsignedWord_eq, Nat.pow_eq]
  generalize 2 ^ 256 = limit
  cases hi : integer label v with
  | error e => exact ⟨nofun, fun h => nomatch h.1⟩
  | ok i =>
    rw [Except.ok.injEq, Except.bind]
    split_ifs with hbounds
    · rw [Except.ok.injEq]
      omega
    · refine ⟨nofun, fun h => absurd ?_ hbounds⟩
      omega

theorem unsignedWord_of_lt {n : Nat} (h : n < 2 ^ 256) (label : String) :
    unsignedWord label (.int n) = .ok n := unsignedWord_eq_ok_iff.mpr ⟨rfl, h⟩

theorem integer_forms (label : String) (v : Value) : Outcome.Forms v.Unfit (integer label v) := by
  cases v with
  | bool b => exact .coding _
  | int n => exact .ok n
  | float x =>
    rw [integer]
    cases (Decimal.Binary.ofFloat x).toInt? with
    | some n => exact .ok n
    | none => exact .coding _
  | text s =>
    rw [integer]
    cases integerOfText? s with
    | some n => exact .ok n
    | none => exact .coding _
  | _ => exact .showing _ _

theorem unsignedWord_forms (label : String) (v : Value) :
    Outcome.Forms v.Unfit (unsignedWord label v) := by
  rw [unsignedWord_eq]
  refine (integer_forms label v).bind fun n _ => ?_
  split_ifs
  · exact .ok _
  · exact Outcome.Forms.showing v _

end Workflow
