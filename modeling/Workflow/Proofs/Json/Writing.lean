import Workflow.Json.Writer
import Workflow.Proofs.Json.Reading

/-!
# Reading what was written

A plain value holds nothing but nothing, truth values, texts of characters that stand for
themselves, lists of plain values, and records of plain values with every name once.  What is
written for it is one of its JSON texts (`written_encode`), so reading gives it back
(`decodeText_encode`).
-/

namespace Workflow.Json

instance (c : Char) : Decidable (IsUnescaped c) :=
  inferInstanceAs (Decidable (_ ∧ _ ∧ _ ∧ _))

/-- Whether all characters of a text stand for themselves. -/
def isUnescapedText (s : String) : Bool := s.toList.all (decide <| IsUnescaped ·)

mutual

/-- Whether a value is plain. -/
def isPlain : Value → Bool
  | .null => true
  | .bool _ => true
  | .text s => isUnescapedText s
  | .list vs => areItemsPlain vs
  | .record fields => decide (Fields.names fields).Nodup && areFieldsPlain fields
  | _ => false
termination_by structural v => v

/-- Whether all of some items are plain. -/
def areItemsPlain : List Value → Bool
  | [] => true
  | v :: vs => isPlain v && areItemsPlain vs
termination_by structural vs => vs

/-- Whether the names of fields are of characters that stand for themselves, and their values are
plain. -/
def areFieldsPlain : List (String × Value) → Bool
  | [] => true
  | (name, v) :: fields => isUnescapedText name && isPlain v && areFieldsPlain fields
termination_by structural fields => fields

end

theorem escapeChar_of_unescaped {c : Char} (h : IsUnescaped c) : escapeChar c = [c] := by
  obtain ⟨hlow, -, hquote, hslash⟩ := h
  have hcontrols : ∀ d ∈ ['\x08', '\t', '\n', '\x0c', '\r'], c ≠ d := by
    have hbelow : ∀ d ∈ ['\x08', '\t', '\n', '\x0c', '\r'], d.toNat < 0x20 :=
      List.all_iff_forall_prop.mp (by decide)
    rintro d hd rfl
    exact absurd (hbelow c hd) (Nat.not_lt.mpr hlow)
  simp only [List.forall_mem_cons] at hcontrols
  obtain ⟨h8, h9, h10, h12, h13, -⟩ := hcontrols
  simp [escapeChar, hquote, hslash, h8, h9, h10, h12, h13, Nat.not_lt.mpr hlow]

theorem unescaped_of_isUnescapedText {s : String} (h : isUnescapedText s = true) :
    ∀ c ∈ s.toList, IsUnescaped c := by
  intro c hc
  exact of_decide_eq_true (List.all_eq_true.mp h c hc)

theorem toList_quoted {s : String} (h : isUnescapedText s = true) :
    (quoted s).toList = inQuotes s.toList := by
  have hunescaped := unescaped_of_isUnescapedText h
  have hsame : s.toList.flatMap escapeChar = s.toList := by
    generalize s.toList = cs at hunescaped
    induction cs with
    | nil => rfl
    | cons c cs ih =>
      obtain ⟨hc, hcs⟩ := List.forall_mem_cons.mp hunescaped
      rw [List.flatMap_cons, escapeChar_of_unescaped hc, ih hcs, List.singleton_append]
  rw [quoted, String.toList_ofList, hsame]
  rfl

/-- The texts behind the first of several, with a comma in front of each. -/
def behindComma (texts : List String) : List Char := texts.flatMap fun s => ',' :: s.toList

theorem toList_intercalate_cons (text : String) (texts : List String) :
    (",".intercalate (text :: texts)).toList = text.toList ++ behindComma texts := by
  rw [String.toList_intercalate, behindComma]
  induction texts generalizing text with
  | nil => simp
  | cons next texts ih =>
    rw [List.map_cons, List.map_cons, List.intercalate_cons_cons, ← List.map_cons, ih,
      List.flatMap_cons, List.append_assoc]
    rfl

/-- Several texts between brackets or braces. -/
theorem toList_enclosed {opening closing : String} {first last : Char}
    (hfirst : opening.toList = [first]) (hlast : closing.toList = [last]) (text : String)
    (texts : List String) :
    (opening ++ ",".intercalate (text :: texts) ++ closing).toList
      = first :: [] ++ text.toList ++ (behindComma texts ++ [last]) := by
  rw [String.toList_append, String.toList_append, toList_intercalate_cons, hfirst, hlast,
    List.append_assoc, List.append_assoc, List.append_assoc]

theorem gap_nil : Gap [] := fun _ hc => absurd hc List.not_mem_nil

theorem fieldWritten_of_written {name : String} {v : Value} {text : String}
    (hname : isUnescapedText name = true) (h : Written v text.toList) :
    FieldWritten name.toList v (quoted name ++ ":" ++ text).toList := by
  have hfield : FieldWritten name.toList v
      (inQuotes name.toList ++ [] ++ ':' :: [] ++ text.toList) :=
    .field (unescaped_of_isUnescapedText hname) gap_nil gap_nil h
  rw [String.toList_append, String.toList_append, toList_quoted hname]
  rwa [List.append_nil] at hfield

mutual

/-- What is written for a plain value is one of its JSON texts. -/
theorem written_encode (v : Value) (h : isPlain v = true) : Written v (encode v).toList := by
  -- No blanks are written, so that all gaps of the grammar are empty.
  match v with
  | .null => exact .null
  | .bool true => exact .true
  | .bool false => exact .false
  | .text s =>
    have hwritten := Written.text (unescaped_of_isUnescapedText h)
    rw [String.ofList_toList] at hwritten
    rw [encode, toList_quoted h]
    exact hwritten
  | .list [] => exact .nothing gap_nil
  | .list (v :: vs) =>
    rw [isPlain, areItemsPlain, Bool.and_eq_true] at h
    have hlist : Written (.list (v :: vs)) ('[' :: [] ++ (encode v).toList
        ++ (behindComma (encodeItems vs) ++ [']'])) :=
      .list gap_nil (written_encode v h.1) (itemsBehind_encode vs h.2)
    rw [encode, encodeItems, toList_enclosed rfl rfl]
    exact hlist
  | .record [] => exact .empty gap_nil
  | .record ((name, v) :: fields) =>
    rw [isPlain, areFieldsPlain, Bool.and_eq_true, Bool.and_eq_true, Bool.and_eq_true] at h
    obtain ⟨hnames, ⟨hname, hv⟩, hfields⟩ := h
    have hfield := fieldWritten_of_written hname (written_encode v hv)
    have hrecord : Written (.record ((String.ofList name.toList, v) :: fields))
        ('\x7b' :: [] ++ (quoted name ++ ":" ++ encode v).toList
          ++ (behindComma (encodeFields fields) ++ ['\x7d'])) := by
      refine .record ?_ gap_nil hfield (fieldsBehind_encode fields hfields)
      rw [String.ofList_toList]
      exact of_decide_eq_true hnames
    rw [String.ofList_toList] at hrecord
    rw [encode, encodeFields, toList_enclosed rfl rfl]
    exact hrecord

theorem itemsBehind_encode (vs : List Value) (h : areItemsPlain vs = true) :
    ItemsBehind vs (behindComma (encodeItems vs) ++ [']']) := by
  match vs with
  | [] => exact .close gap_nil
  | v :: vs =>
    rw [areItemsPlain, Bool.and_eq_true] at h
    have hnext : ItemsBehind (v :: vs) ([] ++ ',' :: [] ++ (encode v).toList
        ++ (behindComma (encodeItems vs) ++ [']'])) :=
      .next gap_nil gap_nil (written_encode v h.1) (itemsBehind_encode vs h.2)
    rw [encodeItems, behindComma, List.flatMap_cons, List.append_assoc]
    exact hnext

theorem fieldsBehind_encode (fields : List (String × Value)) (h : areFieldsPlain fields = true) :
    FieldsBehind fields (behindComma (encodeFields fields) ++ ['\x7d']) := by
  match fields with
  | [] => exact .close gap_nil
  | (name, v) :: fields =>
    rw [areFieldsPlain, Bool.and_eq_true, Bool.and_eq_true] at h
    obtain ⟨⟨hname, hv⟩, hfields⟩ := h
    have hfield := fieldWritten_of_written hname (written_encode v hv)
    have hnext : FieldsBehind ((String.ofList name.toList, v) :: fields)
        ([] ++ ',' :: [] ++ (quoted name ++ ":" ++ encode v).toList
          ++ (behindComma (encodeFields fields) ++ ['\x7d'])) :=
      .next gap_nil gap_nil hfield (fieldsBehind_encode fields hfields)
    rw [String.ofList_toList] at hnext
    rw [encodeFields, behindComma, List.flatMap_cons, List.append_assoc]
    exact hnext

end

/-- Reading gives back what was written. -/
theorem decodeText_encode {v : Value} (h : isPlain v = true) : decodeText (encode v) = .ok v := by
  rw [← decodeText_written (written_encode v h), String.ofList_toList]

end Workflow.Json
