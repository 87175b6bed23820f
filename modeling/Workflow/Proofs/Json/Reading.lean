import Mathlib.Data.List.TakeWhile
import Workflow.Proofs.Fields
import Workflow.Proofs.Json.Text

/-!
# Reading JSON texts

`Written` relates values to their JSON texts, with white space between the tokens: nothing, truth
values, texts of characters that stand for themselves, lists, and records with every name once.
Reading such a text gives the value (`decodeText_written`).

The readers of items and of fields go on from one item to the next, so their lemmas are about what
stands behind an item, up to and with the closing bracket (`ItemsBehind`, `FieldsBehind`).
-/

namespace Workflow.Json

/-! ### White space -/

/-- White space between tokens. -/
def Gap (cs : List Char) : Prop := ∀ c ∈ cs, c ∈ [' ', '\n', '\r', '\t']

theorem isSpace_of_gap {cs : List Char} (h : Gap cs) : ∀ b ∈ cs.map ascii, isSpace b = true := by
  have hspaces : ∀ c ∈ [' ', '\n', '\r', '\t'], isSpace (ascii c) = true :=
    List.all_iff_forall_prop.mp (by decide)
  intro b hb
  obtain ⟨c, hc, rfl⟩ := List.mem_map.mp hb
  exact hspaces c (h c hc)

theorem skipSpace_gap {gap : List Char} (h : Gap gap) (bs : List UInt8) :
    skipSpace (gap.map ascii ++ bs) = skipSpace bs :=
  List.dropWhile_append_of_pos (isSpace_of_gap h)

/-- White space in front of a value is skipped. -/
theorem readValue_gap {gap : List Char} (h : Gap gap) (steps : Nat) (place : Place)
    (bs : List UInt8) :
    readValue steps place (gap.map ascii ++ bs) = readValue steps place bs := by
  cases steps with
  | zero => rfl
  | succ steps => rw [readValue, readValue, skipSpace_gap h]

/-! ### Texts of values -/

/-- The text of a name or of a text value. -/
def inQuotes (cs : List Char) : List Char := '"' :: cs ++ ['"']

mutual

/-- The JSON texts of a value. -/
inductive Written : Value → List Char → Prop where
  | null : Written .null "null".toList
  | «true» : Written (.bool true) "true".toList
  | «false» : Written (.bool false) "false".toList
  | text {cs : List Char} (h : ∀ c ∈ cs, IsUnescaped c) :
    Written (.text (String.ofList cs)) (inQuotes cs)
  | nothing {gap : List Char} (hgap : Gap gap) : Written (.list []) ('[' :: gap ++ [']'])
  | list {v : Value} {vs : List Value} {gap cs more : List Char} (hgap : Gap gap)
    (h : Written v cs) (hmore : ItemsBehind vs more) :
    Written (.list (v :: vs)) ('[' :: gap ++ cs ++ more)
  | empty {gap : List Char} (hgap : Gap gap) : Written (.record []) ('\x7b' :: gap ++ ['\x7d'])
  | record {name : List Char} {v : Value} {fields : List (String × Value)}
    {gap cs more : List Char} (hnames : (Fields.names ((String.ofList name, v) :: fields)).Nodup)
    (hgap : Gap gap) (h : FieldWritten name v cs) (hmore : FieldsBehind fields more) :
    Written (.record ((String.ofList name, v) :: fields)) ('\x7b' :: gap ++ cs ++ more)

/-- What may stand behind an item that further items follow, with the closing bracket. -/
inductive ItemsBehind : List Value → List Char → Prop where
  | close {gap : List Char} (hgap : Gap gap) : ItemsBehind [] (gap ++ [']'])
  | next {v : Value} {vs : List Value} {before after cs more : List Char} (hbefore : Gap before)
    (hafter : Gap after) (h : Written v cs) (hmore : ItemsBehind vs more) :
    ItemsBehind (v :: vs) (before ++ ',' :: after ++ cs ++ more)

/-- The texts of a field. -/
inductive FieldWritten : List Char → Value → List Char → Prop where
  | field {name cs before after : List Char} {v : Value} (hname : ∀ c ∈ name, IsUnescaped c)
    (hbefore : Gap before) (hafter : Gap after) (h : Written v cs) :
    FieldWritten name v (inQuotes name ++ before ++ ':' :: after ++ cs)

/-- What may stand behind a field that further fields follow, with the closing brace. -/
inductive FieldsBehind : List (String × Value) → List Char → Prop where
  | close {gap : List Char} (hgap : Gap gap) : FieldsBehind [] (gap ++ ['\x7d'])
  | next {name : List Char} {v : Value} {fields : List (String × Value)}
    {before after cs more : List Char} (hbefore : Gap before) (hafter : Gap after)
    (h : FieldWritten name v cs) (hmore : FieldsBehind fields more) :
    FieldsBehind ((String.ofList name, v) :: fields) (before ++ ',' :: after ++ cs ++ more)

end

/-! ### Tokens -/

/-- A word of the language is read in whole. -/
theorem readWord_append (word : String) (v : Value) (rest : List UInt8) :
    readWord word v (word.toList.map ascii ++ rest) = .ok (v, rest) := by
  rw [readWord, if_neg (by rw [List.length_append]; omega), List.take_left, List.drop_left,
    if_pos (beq_self_eq_true _)]

theorem readValue_null (steps : Nat) (place : Place) (rest : List UInt8) :
    readValue (steps + 1) place ("null".toList.map ascii ++ rest) = .ok (.null, rest) := by
  rw [readValue]
  exact readWord_append "ull" .null rest

theorem readValue_true (steps : Nat) (place : Place) (rest : List UInt8) :
    readValue (steps + 1) place ("true".toList.map ascii ++ rest) = .ok (.bool true, rest) := by
  rw [readValue]
  exact readWord_append "rue" (.bool true) rest

theorem readValue_false (steps : Nat) (place : Place) (rest : List UInt8) :
    readValue (steps + 1) place ("false".toList.map ascii ++ rest) = .ok (.bool false, rest) := by
  rw [readValue]
  exact readWord_append "alse" (.bool false) rest

theorem readValue_quote (steps : Nat) (place : Place) (bs : List UInt8) :
    readValue (steps + 1) place (ascii '"' :: bs)
      = (readText bs).map fun (s, left) => (.text s, left) := by
  rw [readValue]
  rfl

theorem readValue_bracket (steps : Nat) (place : Place) (bs : List UInt8) :
    readValue (steps + 1) place (ascii '[' :: bs)
      = readItems steps place [] bs := by
  rw [readValue]
  rfl

theorem readValue_brace (steps : Nat) (place : Place) (bs : List UInt8) :
    readValue (steps + 1) place (ascii '\x7b' :: bs)
      = readFields steps place none bs := by
  rw [readValue]
  rfl

/-! ### Items -/

theorem skipSpace_of_not_space {b : UInt8} (h : isSpace b = false) (bs : List UInt8) :
    skipSpace (b :: bs) = b :: bs :=
  List.dropWhile_cons_of_neg (by simp [h])

/-- The closing bracket ends a list. -/
theorem readItems_close {gap : List Char} (hgap : Gap gap) (steps : Nat) (place : Place)
    (done : List Value) (rest : List UInt8) :
    readItems (steps + 1) place done (gap.map ascii ++ ascii ']' :: rest)
      = .ok (.list done.reverse, rest) := by
  rw [readItems, skipSpace_gap hgap]
  rfl

/-- The first character of a JSON text: neither white space nor what may end a list. -/
theorem Written.exists_cons {v : Value} {cs : List Char} (h : Written v cs) :
    ∃ c left, cs = c :: left ∧ c ∈ ['n', 't', 'f', '"', '[', '\x7b'] := by
  cases h with
  | null => exact ⟨'n', _, rfl, by decide⟩
  | «true» => exact ⟨'t', _, rfl, by decide⟩
  | «false» => exact ⟨'f', _, rfl, by decide⟩
  | text => exact ⟨'"', _, rfl, by decide⟩
  | nothing => exact ⟨'[', _, rfl, by decide⟩
  | list => exact ⟨'[', _, rfl, by decide⟩
  | empty => exact ⟨'\x7b', _, rfl, by decide⟩
  | record => exact ⟨'\x7b', _, rfl, by decide⟩

/-- A JSON text goes on behind white space, and it does not close a list. -/
theorem exists_byte_of_written {v : Value} {cs : List Char} (h : Written v cs) :
    ∃ b left, cs.map ascii = b :: left ∧ isSpace b = false ∧ (b == ascii ']') = false := by
  obtain ⟨c, left, rfl, hc⟩ := h.exists_cons
  have hfirst : ∀ c ∈ ['n', 't', 'f', '"', '[', '\x7b'],
      isSpace (ascii c) = false ∧ (ascii c == ascii ']') = false :=
    List.all_iff_forall_prop.mp (by decide)
  exact ⟨ascii c, left.map ascii, List.map_cons, hfirst c hc⟩

/-- In front of the first item there are no others, and no comma. -/
theorem readItems_first {gap : List Char} (hgap : Gap gap) {v : Value} {cs : List Char}
    (h : Written v cs) (steps : Nat) (place : Place) (bs : List UInt8) :
    readItems (steps + 1) place [] (gap.map ascii ++ (cs.map ascii ++ bs))
      = readItem steps place [] (cs.map ascii ++ bs) := by
  obtain ⟨b, left, htext, hspace, hclose⟩ := exists_byte_of_written h
  rw [readItems, skipSpace_gap hgap, htext, List.cons_append, skipSpace_of_not_space hspace]
  dsimp only
  rw [hclose, if_neg Bool.false_ne_true, List.isEmpty_nil, if_pos rfl]

/-- Behind an item, a comma announces the next one. -/
theorem readItems_next {before after : List Char} (hbefore : Gap before) (hafter : Gap after)
    {v : Value} {cs : List Char} (h : Written v cs) (steps : Nat) (place : Place)
    {done : List Value} (hdone : done ≠ []) (bs : List UInt8) :
    readItems (steps + 1) place done
        (before.map ascii ++ ascii ',' :: (after.map ascii ++ (cs.map ascii ++ bs)))
      = readItem steps place done (cs.map ascii ++ bs) := by
  obtain ⟨b, left, htext, hspace, hclose⟩ := exists_byte_of_written h
  have hempty : done.isEmpty = false := List.isEmpty_eq_false_iff.mpr hdone
  rw [readItems, skipSpace_gap hbefore, skipSpace_of_not_space (by decide)]
  dsimp only
  rw [if_neg (by decide), hempty, if_neg Bool.false_ne_true, if_pos (by decide),
    skipSpace_gap hafter, htext, List.cons_append, skipSpace_of_not_space hspace]
  dsimp only
  rw [hclose, if_neg Bool.false_ne_true]

/-! ### Fields -/

/-- The closing brace ends a record. -/
theorem readFields_close {gap : List Char} (hgap : Gap gap) (steps : Nat) (place : Place)
    (done? : Option (List (String × Value))) (rest : List UInt8) :
    readFields (steps + 1) place done? (gap.map ascii ++ ascii '\x7d' :: rest)
      = .ok (.record (done?.getD []), rest) := by
  rw [readFields, skipSpace_gap hgap]
  rfl

theorem FieldWritten.exists_cons {name : List Char} {v : Value} {cs : List Char}
    (h : FieldWritten name v cs) : ∃ left, cs = '"' :: left := by
  cases h with
  | field => exact ⟨_, rfl⟩

/-- In front of the first field there are no others, and no comma. -/
theorem readFields_first {gap : List Char} (hgap : Gap gap) {name : List Char} {v : Value}
    {cs : List Char} (h : FieldWritten name v cs) (steps : Nat) (place : Place)
    (bs : List UInt8) :
    readFields (steps + 1) place none (gap.map ascii ++ (cs.map ascii ++ bs))
      = readField steps place [] (cs.map ascii ++ bs) := by
  obtain ⟨left, rfl⟩ := h.exists_cons
  rw [readFields, skipSpace_gap hgap]
  rfl

/-- Behind a field, a comma announces the next one. -/
theorem readFields_next {before after : List Char} (hbefore : Gap before) (hafter : Gap after)
    {name : List Char} {v : Value} {cs : List Char} (h : FieldWritten name v cs) (steps : Nat)
    (place : Place) (done : List (String × Value)) (bs : List UInt8) :
    readFields (steps + 1) place (some done)
        (before.map ascii ++ ascii ',' :: (after.map ascii ++ (cs.map ascii ++ bs)))
      = readField steps place done (cs.map ascii ++ bs) := by
  obtain ⟨left, rfl⟩ := h.exists_cons
  rw [readFields, skipSpace_gap hbefore, skipSpace_of_not_space (by decide)]
  dsimp only
  rw [if_neg (by decide), if_pos (by decide), skipSpace_gap hafter, List.map_cons,
    List.cons_append, skipSpace_of_not_space (by decide)]

/-! ### Values -/

/-- An item is its value, and the items behind it follow. -/
theorem readItem_written {steps : Nat} {place : Place} {done : List Value} {v w : Value}
    {text bs rest : List UInt8}
    (hv : readValue steps (place ++ [.item done.length]) (text ++ bs) = .ok (v, bs))
    (hrest : readItems steps place (v :: done) bs = .ok (w, rest)) :
    readItem (steps + 1) place done (text ++ bs) = .ok (w, rest) := by
  rw [readItem, hv]
  exact hrest

/-- A field is its name, a colon and its value. -/
theorem readField_written {name : List Char} {v w : Value} {cs : List Char}
    (h : FieldWritten name v cs) {steps : Nat} {place : Place} {done : List (String × Value)}
    {bs rest : List UInt8}
    (hv : ∀ {text : List Char}, Written v text → text.length ≤ cs.length →
      readValue steps (place ++ [.entry]) (text.map ascii ++ bs) = .ok (v, bs))
    (hrest : readFields steps place (some (Fields.put done (String.ofList name) v)) bs
      = .ok (w, rest)) :
    readField (steps + 1) place done (cs.map ascii ++ bs) = .ok (w, rest) := by
  cases h with
  | @field _ text before after _ hname hbefore hafter h =>
    have hlength : text.length ≤ (inQuotes name ++ before ++ ':' :: after ++ text).length := by
      simp only [List.length_append]
      omega
    have hshape : (inQuotes name ++ before ++ ':' :: after ++ text).map ascii ++ bs
        = ascii '"' :: (name.map ascii ++ ascii '"' ::
          (before.map ascii ++ ascii ':' :: (after.map ascii ++ (text.map ascii ++ bs)))) := by
      simp [inQuotes]
    rw [hshape, readField, if_pos (by decide), readText_unescaped hname]
    dsimp only
    rw [skipSpace_gap hbefore, skipSpace_of_not_space (by decide)]
    dsimp only
    rw [if_pos (by decide), readValue_gap hafter, hv h hlength]
    exact hrest

theorem Written.length_pos {v : Value} {cs : List Char} (h : Written v cs) : 0 < cs.length := by
  obtain ⟨c, left, rfl, -⟩ := h.exists_cons
  exact Nat.succ_pos _

theorem FieldWritten.length_pos {name : List Char} {v : Value} {cs : List Char}
    (h : FieldWritten name v cs) : 0 < cs.length := by
  obtain ⟨left, rfl⟩ := h.exists_cons
  exact Nat.succ_pos _

mutual

/-- The text of a value is read up to its end, as the value. -/
theorem Written.read {v : Value} {cs : List Char} (h : Written v cs) {place : Place} {steps : Nat}
    (hsteps : 3 * cs.length ≤ steps) (rest : List UInt8) :
    readValue steps place (cs.map ascii ++ rest) = .ok (v, rest) := by
  -- From one value to a value in it there are at most three steps, one for each of the readers of
  -- values, lists and items, and the text has lost at least one character by then.
  have hpos := h.length_pos
  obtain ⟨steps, rfl⟩ : ∃ n, steps = n + 1 := ⟨steps - 1, by omega⟩
  match v, h with
  | .null, .null => exact readValue_null steps place rest
  | .bool true, .true => exact readValue_true steps place rest
  | .bool false, .false => exact readValue_false steps place rest
  | .text _, @Written.text text h =>
    have hshape : (inQuotes text).map ascii ++ rest
        = ascii '"' :: (text.map ascii ++ ascii '"' :: rest) := by
      simp [inQuotes]
    rw [hshape, readValue_quote, readText_unescaped h]
    rfl
  | .list [], @Written.nothing gap hgap =>
    have hshape : ('[' :: gap ++ [']']).map ascii ++ rest
        = ascii '[' :: (gap.map ascii ++ ascii ']' :: rest) := by
      simp
    obtain ⟨steps, rfl⟩ : ∃ n, steps = n + 1 := ⟨steps - 1, by omega⟩
    rw [hshape, readValue_bracket, readItems_close hgap]
    rfl
  | .list (v :: vs), @Written.list _ _ gap cs more hgap h hmore =>
    have hcs := h.length_pos
    simp only [List.length_append, List.length_cons] at hsteps
    obtain ⟨steps, rfl⟩ : ∃ n, steps = n + 2 := ⟨steps - 2, by omega⟩
    have hshape : ('[' :: gap ++ cs ++ more).map ascii ++ rest
        = ascii '[' :: (gap.map ascii ++ (cs.map ascii ++ (more.map ascii ++ rest))) := by
      simp
    rw [hshape, readValue_bracket, readItems_first hgap h]
    exact readItem_written (h.read (by omega) _)
      (hmore.read (List.cons_ne_nil v []) (by omega) rest)
  | .record [], @Written.empty gap hgap =>
    have hshape : ('\x7b' :: gap ++ ['\x7d']).map ascii ++ rest
        = ascii '\x7b' :: (gap.map ascii ++ ascii '\x7d' :: rest) := by
      simp
    obtain ⟨steps, rfl⟩ : ∃ n, steps = n + 1 := ⟨steps - 1, by omega⟩
    rw [hshape, readValue_brace, readFields_close hgap]
    rfl
  | .record ((_, v) :: fields), @Written.record name _ _ gap cs more hnames hgap h hmore =>
    have hcs := h.length_pos
    simp only [List.length_append, List.length_cons] at hsteps
    obtain ⟨steps, rfl⟩ : ∃ n, steps = n + 2 := ⟨steps - 2, by omega⟩
    have hshape : ('\x7b' :: gap ++ cs ++ more).map ascii ++ rest
        = ascii '\x7b' :: (gap.map ascii ++ (cs.map ascii ++ (more.map ascii ++ rest))) := by
      simp
    rw [hshape, readValue_brace, readFields_first hgap h]
    exact readField_written h (fun htext hlength => htext.read (by omega) _)
      (hmore.read hnames (by omega) rest)

theorem ItemsBehind.read {vs : List Value} {more : List Char} (h : ItemsBehind vs more)
    {place : Place} {done : List Value} (hdone : done ≠ []) {steps : Nat}
    (hsteps : 3 * more.length ≤ steps) (rest : List UInt8) :
    readItems steps place done (more.map ascii ++ rest)
      = .ok (.list (done.reverse ++ vs), rest) := by
  match vs, h with
  | [], @ItemsBehind.close gap hgap =>
    have hshape : (gap ++ [']']).map ascii ++ rest = gap.map ascii ++ ascii ']' :: rest := by
      simp
    rw [List.length_append, List.length_singleton] at hsteps
    obtain ⟨steps, rfl⟩ : ∃ n, steps = n + 1 := ⟨steps - 1, by omega⟩
    rw [hshape, readItems_close hgap, List.append_nil]
  | v :: vs, @ItemsBehind.next _ _ before after cs more hbefore hafter h hmore =>
    have hcs := h.length_pos
    simp only [List.length_append, List.length_cons] at hsteps
    obtain ⟨steps, rfl⟩ : ∃ n, steps = n + 2 := ⟨steps - 2, by omega⟩
    have hshape : (before ++ ',' :: after ++ cs ++ more).map ascii ++ rest
        = before.map ascii
          ++ ascii ',' :: (after.map ascii ++ (cs.map ascii ++ (more.map ascii ++ rest))) := by
      simp
    have hdone' : done.reverse ++ v :: vs = (v :: done).reverse ++ vs := by simp
    rw [hshape, readItems_next hbefore hafter h _ _ hdone, hdone']
    exact readItem_written (h.read (by omega) _)
      (hmore.read (List.cons_ne_nil v done) (by omega) rest)

theorem FieldsBehind.read {fields : List (String × Value)} {more : List Char}
    (h : FieldsBehind fields more) {place : Place} {done : List (String × Value)}
    (hnames : (Fields.names (done ++ fields)).Nodup) {steps : Nat}
    (hsteps : 3 * more.length ≤ steps) (rest : List UInt8) :
    readFields steps place (some done) (more.map ascii ++ rest)
      = .ok (.record (done ++ fields), rest) := by
  match fields, h with
  | [], @FieldsBehind.close gap hgap =>
    have hshape : (gap ++ ['\x7d']).map ascii ++ rest
        = gap.map ascii ++ ascii '\x7d' :: rest := by
      simp
    rw [List.length_append, List.length_singleton] at hsteps
    obtain ⟨steps, rfl⟩ : ∃ n, steps = n + 1 := ⟨steps - 1, by omega⟩
    rw [hshape, readFields_close hgap, List.append_nil]
    rfl
  | (_, v) :: fields, @FieldsBehind.next name _ _ before after cs more hbefore hafter h hmore =>
    have hcs := h.length_pos
    simp only [List.length_append, List.length_cons] at hsteps
    obtain ⟨steps, rfl⟩ : ∃ n, steps = n + 2 := ⟨steps - 2, by omega⟩
    have hshape : (before ++ ',' :: after ++ cs ++ more).map ascii ++ rest
        = before.map ascii
          ++ ascii ',' :: (after.map ascii ++ (cs.map ascii ++ (more.map ascii ++ rest))) := by
      simp
    -- The name is a new one, so that the field is put behind those that are there.
    have hnew : String.ofList name ∉ Fields.names done := by
      rw [Fields.names, List.map_append, List.nodup_append] at hnames
      intro hmem
      exact hnames.2.2 _ hmem _ List.mem_cons_self rfl
    have hdone : done ++ (String.ofList name, v) :: fields
        = Fields.put done (String.ofList name) v ++ fields := by
      rw [Fields.put_of_not_mem hnew, List.append_assoc, List.singleton_append]
    rw [hdone] at hnames
    rw [hshape, readFields_next hbefore hafter h, hdone]
    exact readField_written h (fun htext hlength => htext.read (by omega) _)
      (hmore.read hnames (by omega) rest)

end

/-! ### Whole texts -/

theorem areAscii_append {cs ds : List Char} (h : AreAscii cs) (h' : AreAscii ds) :
    AreAscii (cs ++ ds) := by
  intro c hc
  rcases List.mem_append.mp hc with hc | hc
  · exact h c hc
  · exact h' c hc

theorem areAscii_cons {c : Char} {cs : List Char} (hc : c.toNat < 0x80) (h : AreAscii cs) :
    AreAscii (c :: cs) := List.forall_mem_cons.mpr ⟨hc, h⟩

theorem Gap.areAscii {cs : List Char} (h : Gap cs) : AreAscii cs := by
  have hspaces : ∀ c ∈ [' ', '\n', '\r', '\t'], c.toNat < 0x80 :=
    List.all_iff_forall_prop.mp (by decide)
  exact fun c hc => hspaces c (h c hc)

theorem areAscii_inQuotes {cs : List Char} (h : ∀ c ∈ cs, IsUnescaped c) :
    AreAscii (inQuotes cs) :=
  areAscii_append (areAscii_cons (by decide) (areAscii_of_unescaped h)) (by decide)

theorem areAscii_gapped {gap : List Char} (hgap : Gap gap) {first last : Char}
    (hfirst : first.toNat < 0x80) (hlast : last.toNat < 0x80) :
    AreAscii (first :: gap ++ [last]) :=
  areAscii_append (areAscii_cons hfirst hgap.areAscii)
    (areAscii_cons hlast fun _ hc => nomatch hc)

theorem FieldWritten.areAscii {name : List Char} {v : Value} {cs : List Char}
    (h : FieldWritten name v cs) (hv : ∀ {text : List Char}, Written v text → AreAscii text) :
    AreAscii cs := by
  cases h with
  | field hname hbefore hafter h =>
    have hcolon := areAscii_cons (c := ':') (by decide) hafter.areAscii
    exact areAscii_append
      (areAscii_append (areAscii_append (areAscii_inQuotes hname) hbefore.areAscii) hcolon) (hv h)

mutual

theorem Written.areAscii {v : Value} {cs : List Char} (h : Written v cs) : AreAscii cs := by
  match v, h with
  | .null, .null => decide
  | .bool true, .true => decide
  | .bool false, .false => decide
  | .text _, .text h => exact areAscii_inQuotes h
  | .list [], .nothing hgap => exact areAscii_gapped hgap (by decide) (by decide)
  | .list (v :: vs), .list hgap h hmore =>
    exact areAscii_append (areAscii_append (areAscii_cons (by decide) hgap.areAscii) h.areAscii)
      hmore.areAscii
  | .record [], .empty hgap => exact areAscii_gapped hgap (by decide) (by decide)
  | .record ((_, v) :: fields), .record _ hgap h hmore =>
    have hfield := h.areAscii fun htext => htext.areAscii
    exact areAscii_append (areAscii_append (areAscii_cons (by decide) hgap.areAscii) hfield)
      hmore.areAscii

theorem ItemsBehind.areAscii {vs : List Value} {more : List Char} (h : ItemsBehind vs more) :
    AreAscii more := by
  match vs, h with
  | [], .close hgap =>
    exact areAscii_append hgap.areAscii (areAscii_cons (by decide) fun _ hc => nomatch hc)
  | v :: vs, .next hbefore hafter h hmore =>
    exact areAscii_append (areAscii_append (areAscii_append hbefore.areAscii
      (areAscii_cons (by decide) hafter.areAscii)) h.areAscii) hmore.areAscii

theorem FieldsBehind.areAscii {fields : List (String × Value)} {more : List Char}
    (h : FieldsBehind fields more) : AreAscii more := by
  match fields, h with
  | [], .close hgap =>
    exact areAscii_append hgap.areAscii (areAscii_cons (by decide) fun _ hc => nomatch hc)
  | (_, v) :: fields, .next hbefore hafter h hmore =>
    have hfield := h.areAscii fun htext => htext.areAscii
    exact areAscii_append (areAscii_append (areAscii_append hbefore.areAscii
      (areAscii_cons (by decide) hafter.areAscii)) hfield) hmore.areAscii

end

/-- A whole text is read as the value that it was written for. -/
theorem decodeText_written {v : Value} {cs : List Char} (h : Written v cs) :
    decodeText (String.ofList cs) = .ok v := by
  have hlength : 3 * cs.length ≤ 3 * (cs.map ascii).length + 3 := by
    rw [List.length_map]
    omega
  have hread : readValue (3 * (cs.map ascii).length + 3) [] (cs.map ascii ++ []) = .ok (v, []) :=
    h.read hlength []
  rw [List.append_nil] at hread
  rw [decodeText, encode_ascii h.areAscii, decode, readAll, hread]
  rfl

end Workflow.Json
