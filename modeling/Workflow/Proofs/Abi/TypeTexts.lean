import Workflow.Proofs.Abi.Encodings
import Workflow.Proofs.Abi.Shapes

/-!
# Type texts and their codecs

What an argument becomes is read off the text of a type from the right, suffix by suffix, and its
codec from the left, by a grammar.  Where the type of a parameter is an elementary name or the tuple
of the components, with array suffixes behind it (`Parameter.Typed`), both find the same arrays and
tuples: the grammar reads the text of each component to its end (`Parameter.takeType_found`),
so the codec of the whole is put together from those of the components as the text is
(`Parameter.Typed.codec_of`).
-/

namespace Workflow.Abi

open Outcome Text

/-! ### Where a run of characters ends -/

/-- A text falls apart in one way only into characters of a kind and what does not start so. -/
theorem append_inj_of_stops {P : Char → Bool} {front front' back back' : List Char}
    (hfront : ∀ c ∈ front, P c = true) (hfront' : ∀ c ∈ front', P c = true)
    (hback : ∀ c rest, back = c :: rest → P c = false)
    (hback' : ∀ c rest, back' = c :: rest → P c = false) (h : front ++ back = front' ++ back') :
    front = front' ∧ back = back' := by
  have htake := congrArg (List.takeWhile P) h
  rw [List.takeWhile_append_of_pos hfront, List.takeWhile_append_of_pos hfront',
    (takeWhile_dropWhile_of_stops hback).1, (takeWhile_dropWhile_of_stops hback').1,
    List.append_nil, List.append_nil] at htake
  exact ⟨htake, List.append_cancel_left (htake ▸ h)⟩

/-- What may stand behind the type of a component. -/
def EndsType (cs : List Char) : Prop := ∀ c rest, cs = c :: rest → c = ',' ∨ c = ')'

theorem endsType_nil : EndsType [] := by
  rintro c rest ⟨⟩

theorem endsType_comma (cs : List Char) : EndsType (',' :: cs) :=
  fun _ _ h => .inl (List.cons.inj h).1.symm

theorem endsType_closing (cs : List Char) : EndsType (')' :: cs) :=
  fun _ _ h => .inr (List.cons.inj h).1.symm

theorem not_endsType {c : Char} {cs : List Char} (hcomma : c ≠ ',') (hclosing : c ≠ ')') :
    ¬ EndsType (c :: cs) := fun h => (h c cs rfl).elim hcomma hclosing

/-! ### Numbers and sizes -/

theorem digitValue_lt {c : Char} (h : c.isDigit = true) : c.toNat - '0'.toNat < 10 :=
  Nat.sub_lt_left_of_lt_add (Char.isDigit_iff_toNat.mp h).1
    (Nat.lt_succ_of_le (Char.isDigit_iff_toNat.mp h).2)

theorem digitChar_digitValue {c : Char} (h : c.isDigit = true) :
    Nat.digitChar (c.toNat - '0'.toNat) = c := by
  have hlow : '0'.toNat ≤ c.toNat := (Char.isDigit_iff_toNat.mp h).1
  rw [← Char.toNat_inj, Nat.toNat_digitChar_of_lt_ten (digitValue_lt h)]
  exact Nat.add_sub_cancel' hlow

/-- Digits behind a number that is not zero extend its text. -/
theorem toDigits_ofDigitChars {digits : List Char} (hdigits : ∀ c ∈ digits, c.isDigit = true)
    {n : Nat} (hn : 0 < n) :
    Nat.toDigits 10 (Nat.ofDigitChars 10 digits n) = Nat.toDigits 10 n ++ digits := by
  induction digits generalizing n with
  | nil => simp
  | cons c digits ih =>
    obtain ⟨hc, hdigits⟩ := List.forall_mem_cons.mp hdigits
    rw [Nat.ofDigitChars_cons, ih hdigits (Nat.add_pos_left (Nat.mul_pos (by decide) hn) _),
      ← Nat.toDigits_append_toDigits (by decide) hn (digitValue_lt hc),
      Nat.toDigits_of_lt_base (digitValue_lt hc), digitChar_digitValue hc, List.append_assoc,
      List.singleton_append]

/-- A number is read from its one text, the one without leading zeros. -/
theorem toString_of_takeNumber {cs rest : List Char} {n : Nat}
    (h : takeNumber cs = some (n, rest)) : cs = (toString n).toList ++ rest := by
  unfold takeNumber at h
  split at h
  · cases h
  · next c cs =>
    split_ifs at h with hfirst
    obtain ⟨rfl, rfl⟩ := Prod.mk.inj (Option.some.inj h)
    have hdigit : c.isDigit = true := by
      rw [Char.isDigit_iff_toNat]
      exact ⟨Nat.le_of_succ_le hfirst.1, hfirst.2⟩
    have hpos : 0 < c.toNat - '0'.toNat := Nat.sub_pos_of_lt hfirst.1
    have hrest : ∀ d ∈ cs.takeWhile Char.isDigit, d.isDigit = true :=
      fun d hd => List.mem_takeWhile_imp hd
    have hnumber : ((c :: cs).takeWhile Char.isDigit).foldl
        (fun n d => 10 * n + (d.toNat - 0x30)) 0
          = Nat.ofDigitChars 10 (cs.takeWhile Char.isDigit) (c.toNat - '0'.toNat) := by
      rw [List.takeWhile_cons_of_pos hdigit, List.foldl_cons, Nat.mul_zero, Nat.zero_add]
      rfl
    rw [hnumber, Nat.toString_eq_ofList_toDigits, String.toList_ofList,
      toDigits_ofDigitChars hrest hpos, Nat.toDigits_of_lt_base (digitValue_lt hdigit),
      digitChar_digitValue hdigit, List.dropWhile_cons_of_pos hdigit, List.append_assoc,
      List.takeWhile_append_dropWhile, List.singleton_append]

theorem render_of_takeSize {cs rest : List Char} {size : Size}
    (h : (takeSize cs).found = some (size, rest)) : cs = size.render.toList ++ rest := by
  rw [takeSize] at h
  split at h
  · obtain ⟨rfl, rfl⟩ := Prod.mk.inj (Option.some.inj h)
    rfl
  · next n behind hfirst =>
    rw [toString_of_takeNumber hfirst]
    split at h
    · next m rest' hsecond =>
      obtain ⟨rfl, rfl⟩ := Prod.mk.inj (Option.some.inj h)
      rw [toString_of_takeNumber hsecond]
      simp [Size.render]
    · obtain ⟨rfl, rfl⟩ := Prod.mk.inj (Option.some.inj h)
      rfl
  · next n behind hplain hfirst =>
    obtain ⟨rfl, rfl⟩ := Prod.mk.inj (Option.some.inj h)
    exact toString_of_takeNumber hfirst

/-! ### Array suffixes -/

/-- One dimension for each array suffix. -/
inductive Dimensioned : List Char → List Dimension → Prop where
  | nil : Dimensioned [] []
  | cons {digits arrays : List Char} {dimension : Dimension} {dims : List Dimension}
    (hdigits : ∀ c ∈ digits, isDigit c = true) (h : Dimensioned arrays dims) :
    Dimensioned ('[' :: digits ++ ']' :: arrays) (dimension :: dims)

/-- Either no suffix is read, or digits in brackets and those behind them. -/
theorem takeDims_found {steps : Nat} {cs left : List Char} {dims : List Dimension}
    (h : (takeDims steps cs).found = some (dims, left)) :
    (dims = [] ∧ cs = left) ∨ ∃ steps' dimension rest more,
      cs = '[' :: dimension.digits ++ ']' :: rest ∧
      (takeDims steps' rest).found = some (more, left) ∧ dims = dimension :: more := by
  have hnone : ∀ {cs : List Char}, some (([] : List Dimension), cs) = some (dims, left) →
      dims = [] ∧ cs = left := by
    intro cs h
    obtain ⟨rfl, rfl⟩ := Prod.mk.inj (Option.some.inj h)
    exact ⟨rfl, rfl⟩
  cases steps with
  | zero => exact .inl (hnone h)
  | succ steps =>
    rw [takeDims.eq_def] at h
    dsimp only at h
    split at h
    · next rest =>
      obtain ⟨⟨more, left'⟩, hmore, heq⟩ := Option.map_eq_some_iff.mp h
      obtain ⟨rfl, rfl⟩ := Prod.mk.inj heq
      exact .inr ⟨steps, .open, rest, more, rfl, hmore, rfl⟩
    · next rest _ =>
      split at h
      · next n rest' hnumber =>
        obtain ⟨⟨more, left'⟩, hmore, heq⟩ := Option.map_eq_some_iff.mp h
        obtain ⟨rfl, rfl⟩ := Prod.mk.inj heq
        refine .inr ⟨steps, .sized n, rest', more, ?_, hmore, rfl⟩
        rw [toString_of_takeNumber hnumber]
        rfl
      · exact .inl (hnone h)
      · exact .inl (hnone h)
    · exact .inl (hnone h)

/-- Behind a type, array suffixes are read to their end. -/
theorem takeDims_suffixes {arrays rest left : List Char} (h : Suffixes arrays)
    (hrest : EndsType rest) (hleft : EndsType left) {steps : Nat} {dims : List Dimension}
    (hfound : (takeDims steps (arrays ++ rest)).found = some (dims, left)) :
    left = rest ∧ Dimensioned arrays dims := by
  induction h generalizing steps dims with
  | nil =>
    rcases takeDims_found hfound with ⟨rfl, heq⟩ | ⟨_, dimension, more, _, heq, -, -⟩
    · exact ⟨heq.symm, .nil⟩
    · have hopen : rest = '[' :: (dimension.digits ++ ']' :: more) := heq
      rw [hopen] at hrest
      exact absurd hrest (not_endsType (by decide) (by decide))
  | @cons digits arrays hdigits _ ih =>
    rcases takeDims_found hfound with ⟨-, rfl⟩ | ⟨steps', dimension, more, dims, heq, hmore, rfl⟩
    · -- Had reading stopped in front of this suffix, a bracket would be left.
      exact absurd hleft (not_endsType (by decide) (by decide))
    · -- Otherwise the digits are those up to the first closing bracket, in both texts.
      have hsame : digits ++ ']' :: (arrays ++ rest) = dimension.digits ++ ']' :: more := by
        simpa using heq
      have hstop : ∀ (more : List Char) c rest, ']' :: more = c :: rest → (c != ']') = false := by
        intro more c rest h
        rw [← (List.cons.inj h).1]
        rfl
      have hgoes : ∀ {c : Char}, c ≠ ']' → (c != ']') = true := bne_iff_ne.mpr
      obtain ⟨rfl, hbehind⟩ := append_inj_of_stops (P := fun c => c != ']')
        (fun c hc => hgoes fun heq => absurd (hdigits c hc) (heq ▸ by decide))
        (fun c hc => hgoes fun heq =>
          absurd (dimension.isDigit_of_mem_digits hc) (heq ▸ by decide))
        (hstop _) (hstop _) hsame
      obtain rfl := (List.cons.inj hbehind).2
      obtain ⟨rfl, hall⟩ := ih hmore
      exact ⟨rfl, .cons hdigits hall⟩

/-! ### Types -/

/-- What the grammar reads from the text of a type whose tuple has the given components. -/
inductive Ty.Of : List Parameter → String → Ty → Prop where
  /-- An elementary name is a base with a size, if it has any. -/
  | elementary {components : List Parameter} {base name : String} {size : Size}
    {arrays : List Char} {dims : List Dimension} (hbase : IsElementary base)
    (hname : size = .none → name = base) (harrays : Dimensioned arrays dims) :
    Of components (base ++ String.ofList arrays) (.basic name size dims)
  /-- A tuple has the types of the components. -/
  | tuple {components : List Parameter} {ts : List Ty} {arrays : List Char}
    {dims : List Dimension} (hlength : ts.length = components.length)
    (hts : ∀ (i : Nat) c t, components[i]? = some c → ts[i]? = some t →
      Of c.components c.type t) (harrays : Dimensioned arrays dims) :
    Of components (tupleType components ++ String.ofList arrays) (.tuple ts dims)

theorem takeDims_of_ne {cs : List Char} (h : ∀ rest, cs ≠ '[' :: rest) (steps : Nat) :
    (takeDims steps cs).found = some ([], cs) := by
  cases steps with
  | zero => rfl
  | succ steps =>
    rw [takeDims.eq_def]
    dsimp only
    split
    · exact absurd rfl (h _)
    · exact absurd rfl (h _)
    · rfl

theorem takeType_tuple_found {steps : Nat} {cs left : List Char} {t : Ty}
    (h : (takeType steps ('(' :: cs)).found = some (t, left)) :
    ∃ steps' ts after dims, (takeComponents steps' cs).found = some (ts, after) ∧
      (takeDims after.length after).found = some (dims, left) ∧ t = .tuple ts dims := by
  cases steps with
  | zero => cases h
  | succ steps =>
    rw [takeType] at h
    dsimp only at h
    split at h
    · next ts after hts =>
      obtain ⟨⟨dims, left'⟩, hdims, heq⟩ := Option.map_eq_some_iff.mp h
      obtain ⟨rfl, rfl⟩ := Prod.mk.inj heq
      exact ⟨steps, ts, after, dims, hts, hdims, rfl⟩
    · cases h

theorem takeType_base_found {steps : Nat} {cs left : List Char} {t : Ty}
    (hcs : ∀ rest, cs ≠ '(' :: rest) (h : (takeType steps cs).found = some (t, left)) :
    cs.takeWhile isLetter ≠ [] ∧ ∃ size after dims,
      (takeSize (cs.dropWhile isLetter)).found = some (size, after) ∧
      (takeDims after.length after).found = some (dims, left) ∧
      t = .basic (String.ofList (cs.takeWhile isLetter)) size dims := by
  cases steps with
  | zero => cases h
  | succ steps =>
    rw [takeType.eq_def] at h
    dsimp only at h
    split at h
    · exact absurd rfl (hcs _)
    · split_ifs at h with hbase
      · split at h
        · next size after hsize =>
          obtain ⟨⟨dims, left'⟩, hdims, heq⟩ := Option.map_eq_some_iff.mp h
          obtain ⟨rfl, rfl⟩ := Prod.mk.inj heq
          exact ⟨fun hnil => hbase (hnil ▸ rfl), size, after, dims, hsize, hdims, rfl⟩
        · cases h

/-- Behind a component there stands the end of the tuple or a comma and more components. -/
theorem takeComponents_found {steps : Nat} {cs left : List Char} {ts : List Ty}
    (h : (takeComponents steps cs).found = some (ts, left)) :
    ∃ steps' t after, (takeType steps' cs).found = some (t, after) ∧
      ((after = ')' :: left ∧ ts = [t]) ∨ ∃ rest more, after = ',' :: rest ∧
        (takeComponents steps' rest).found = some (more, left) ∧ ts = t :: more) := by
  cases steps with
  | zero => cases h
  | succ steps =>
    rw [takeComponents.eq_def] at h
    dsimp only at h
    split at h
    · cases h
    · next t rest ht =>
      obtain ⟨rfl, rfl⟩ := Prod.mk.inj (Option.some.inj h)
      exact ⟨steps, t, _, ht, .inl ⟨rfl, rfl⟩⟩
    · next t rest ht =>
      obtain ⟨⟨more, left'⟩, hmore, heq⟩ := Option.map_eq_some_iff.mp h
      obtain ⟨rfl, rfl⟩ := Prod.mk.inj heq
      exact ⟨steps, t, _, ht, .inr ⟨rest, more, rfl, hmore, rfl⟩⟩
    · cases h

/-- What does not start with a letter or a digit goes on behind an elementary name. -/
theorem alphanum_stops {arrays rest : List Char} (h : Suffixes arrays) (hrest : EndsType rest) :
    ∀ c more, arrays ++ rest = c :: more → c.isAlphanum = false := by
  intro c more heq
  cases h with
  | nil =>
    rcases hrest c more heq with rfl | rfl
    · rfl
    · rfl
  | cons =>
    rw [← (List.cons.inj heq).1]
    rfl

/-- An elementary name with array suffixes is read to its end. -/
theorem takeType_elementary {base : String} (hbase : IsElementary base) {arrays : List Char}
    (harrays : Suffixes arrays) {rest left : List Char} (hrest : EndsType rest)
    (hleft : EndsType left) {steps : Nat} {t : Ty} (components : List Parameter)
    (h : (takeType steps (base.toList ++ (arrays ++ rest))).found = some (t, left)) :
    left = rest ∧ Ty.Of components (base ++ String.ofList arrays) t := by
  have hstops := alphanum_stops harrays hrest
  have hcs : ∀ more, base.toList ++ (arrays ++ rest) ≠ '(' :: more := by
    intro more heq
    cases hchars : base.toList with
    | nil =>
      rw [hchars] at heq
      cases harrays with
      | nil => exact absurd (hrest '(' more heq) (by decide)
      | cons => cases heq
    | cons c cs =>
      rw [hchars] at heq
      obtain rfl := (List.cons.inj heq).1
      exact absurd (hbase '(' (hchars ▸ List.mem_cons_self)) (by decide)
  -- The grammar splits the name into letters and a size; together they are the whole name.
  obtain ⟨-, size, after, dims, hsize, hdims, rfl⟩ := takeType_base_found hcs h
  have hused := render_of_takeSize hsize
  -- Suffixes that end the type begin where the size does.
  have hafter : ∀ c more, after = c :: more → c.isAlphanum = false := by
    rintro c more rfl
    by_contra hc
    have hne : ∀ more', c :: more ≠ '[' :: more' := by
      rintro more' heq
      rw [(List.cons.inj heq).1] at hc
      exact hc rfl
    rw [takeDims_of_ne hne] at hdims
    obtain ⟨-, rfl⟩ := Prod.mk.inj (Option.some.inj hdims)
    rcases hleft c more rfl with rfl | rfl
    · exact hc rfl
    · exact hc rfl
  have hletters : ∀ c ∈ (base.toList ++ (arrays ++ rest)).takeWhile isLetter,
      c.isAlphanum = true := by
    intro c hc
    have hletter : c.isAlpha = true := List.mem_takeWhile_imp hc
    rw [Char.isAlphanum, hletter, Bool.true_or]
  have hsplit : (base.toList ++ (arrays ++ rest)).takeWhile isLetter ++ size.render.toList ++ after
      = base.toList ++ (arrays ++ rest) := by
    rw [List.append_assoc, ← hused, List.takeWhile_append_dropWhile]
  obtain ⟨hname, rfl⟩ := append_inj_of_stops (P := Char.isAlphanum)
    (List.forall_mem_append.mpr ⟨hletters, fun _ hc => Size.isAlphanum_of_mem_render hc⟩) hbase
    hafter hstops hsplit
  obtain ⟨rfl, hall⟩ := takeDims_suffixes harrays hrest hleft hdims
  refine ⟨rfl, .elementary hbase (fun hsize => ?_) hall⟩
  have hnone : Size.none.render.toList = [] := rfl
  rw [hsize, hnone, List.append_nil] at hname
  rw [hname, String.ofList_toList]

theorem toList_tupleType_append (components : List Parameter) (rest : List Char) :
    (tupleType components).toList ++ rest
      = '(' :: ([','].intercalate (components.map fun p => p.type.toList) ++ ')' :: rest) := by
  rw [toList_tupleType]
  simp

mutual

/-- The type of a parameter is read to its end if something that may stand there is left. -/
theorem Parameter.takeType_found (p : Parameter) (hp : p.Typed) {rest left : List Char}
    (hrest : EndsType rest) (hleft : EndsType left) {steps : Nat} {t : Ty}
    (h : (takeType steps (p.type.toList ++ rest)).found = some (t, left)) :
    left = rest ∧ Ty.Of p.components p.type t := by
  match p, hp with
  | ⟨name, _, components⟩, .elementary hbase harrays _ =>
    rw [String.toList_append, String.toList_ofList, List.append_assoc] at h
    exact takeType_elementary hbase harrays hrest hleft components h
  | ⟨name, _, components⟩, @Parameter.Typed.tuple _ arrays _ harrays hcomponents =>
    have htext : (tupleType components ++ String.ofList arrays).toList ++ rest
        = '(' :: ([','].intercalate (components.map fun p => p.type.toList)
          ++ ')' :: (arrays ++ rest)) := by
      rw [String.toList_append, String.toList_ofList, List.append_assoc, toList_tupleType_append]
    rw [htext] at h
    obtain ⟨steps', ts, after, dims, hts, hdims, rfl⟩ := takeType_tuple_found h
    obtain ⟨rfl, hall⟩ := takeComponents_of components hcomponents hts
    obtain ⟨hlength, hall⟩ := forall₂_iff_getElem?.mp hall
    obtain ⟨rfl, hread⟩ := takeDims_suffixes harrays hrest hleft hdims
    exact ⟨rfl, .tuple hlength.symm hall hread⟩

/-- The components of a tuple are read one by one. -/
theorem takeComponents_of (components : List Parameter)
    (hcomponents : ∀ c ∈ components, c.Typed) {rest left : List Char} {steps : Nat} {ts : List Ty}
    (h : (takeComponents steps ([','].intercalate (components.map fun p => p.type.toList)
      ++ ')' :: rest)).found = some (ts, left)) :
    left = rest ∧ List.Forall₂ (fun c t => Ty.Of c.components c.type t) components ts := by
  match components with
  | [] =>
    -- The grammar has no empty tuple: a closing bracket is no base.
    obtain ⟨_, _, _, ht, -⟩ := takeComponents_found h
    have hclosing : ∀ more, ')' :: rest ≠ '(' :: more := by
      rintro more heq
      exact absurd (List.cons.inj heq).1 (by decide)
    exact absurd rfl (takeType_base_found hclosing ht).1
  | [p] =>
    obtain ⟨hp, -⟩ := List.forall_mem_cons.mp hcomponents
    rw [List.map_singleton, List.intercalate_singleton] at h
    -- Which of the two stands behind the component is what its own text leaves behind.
    obtain ⟨_, t, after, ht, ⟨rfl, rfl⟩ | ⟨_, _, rfl, -, -⟩⟩ := takeComponents_found h
    · obtain ⟨hleft, hof⟩ := p.takeType_found hp (endsType_closing rest) (endsType_closing left) ht
      exact ⟨(List.cons.inj hleft).2, .cons hof .nil⟩
    · obtain ⟨hleft, -⟩ := p.takeType_found hp (endsType_closing rest) (endsType_comma _) ht
      cases hleft
  | p :: q :: ps =>
    obtain ⟨hp, hrest⟩ := List.forall_mem_cons.mp hcomponents
    have htext : [','].intercalate ((p :: q :: ps).map fun p => p.type.toList) ++ ')' :: rest
        = p.type.toList ++ ',' :: ([','].intercalate ((q :: ps).map fun p => p.type.toList)
          ++ ')' :: rest) := by
      rw [List.map_cons, List.map_cons, List.intercalate_cons_cons, List.append_assoc,
        List.append_assoc]
      rfl
    rw [htext] at h
    obtain ⟨_, t, after, ht, ⟨rfl, rfl⟩ | ⟨rest', more, rfl, hmore, rfl⟩⟩ := takeComponents_found h
    · obtain ⟨hleft, -⟩ := p.takeType_found hp (endsType_comma _) (endsType_closing left) ht
      cases hleft
    · obtain ⟨hleft, hof⟩ := p.takeType_found hp (endsType_comma _) (endsType_comma rest') ht
      obtain rfl := (List.cons.inj hleft).2
      obtain ⟨rfl, hall⟩ := takeComponents_of (q :: ps) hrest hmore
      exact ⟨rfl, .cons hof hall⟩

end

/-! ### Codecs -/

/-- Whether the values of a codec are sequences. -/
def Codec.isSequence : Codec → Bool
  | .sizedArray _ _ => true
  | .openArray _ => true
  | .tuple _ => true
  | _ => false

/-- The codec of a type text whose tuple has the given components. -/
inductive Codec.Of : List Parameter → String → Codec → Prop where
  /-- The last suffix may be that of an array of fixed length. -/
  | sized {components : List Parameter} {item digits : String} {codec : Codec} (length : Nat)
    (hdigits : ∀ c ∈ digits.toList, isDigit c = true) (h : Of components item codec) :
    Of components (arrayText item digits) (.sizedArray codec length)
  /-- It may be that of an array of any length. -/
  | «open» {components : List Parameter} {item digits : String} {codec : Codec}
    (hdigits : ∀ c ∈ digits.toList, isDigit c = true) (h : Of components item codec) :
    Of components (arrayText item digits) (.openArray codec)
  /-- A tuple has the codecs of the components. -/
  | tuple {components : List Parameter} {codecs : List Codec}
    (hlength : codecs.length = components.length)
    (h : ∀ (i : Nat) c codec, components[i]? = some c → codecs[i]? = some codec →
      Of c.components c.type codec) : Of components (tupleType components) (.tuple codecs)
  /-- The codec of an elementary name, of which only one names the addresses. -/
  | single {components : List Parameter} {type : String} {codec : Codec}
    (htype : IsElementary type) (hcodec : codec.isSequence = false)
    (haddress : codec = .address → type = "address") : Of components type codec

theorem Codec.Of.withDims {components : List Parameter} {type : String} {codec : Codec}
    (h : Codec.Of components type codec) {arrays : List Char} {dims : List Dimension}
    (hdims : Dimensioned arrays dims) :
    Codec.Of components (type ++ String.ofList arrays) (codec.withDims dims) := by
  induction hdims generalizing type codec with
  | nil =>
    have hnone : type ++ String.ofList [] = type := by simp
    rwa [hnone]
  | @cons digits arrays dimension dims hdigits _ ih =>
    have htext : type ++ String.ofList ('[' :: digits ++ ']' :: arrays)
        = arrayText type (String.ofList digits) ++ String.ofList arrays := by
      rw [← String.toList_inj, String.toList_append, String.toList_append, toList_arrayText]
      simp
    have hdigits' : ∀ c ∈ (String.ofList digits).toList, isDigit c = true := by
      rwa [String.toList_ofList]
    rw [htext]
    cases dimension with
    | sized length => exact ih (.sized length hdigits' h)
    | «open» => exact ih (.open hdigits' h)

theorem isSequence_of_baseCodec {base : String} {size : Size} {codec : Codec}
    (h : baseCodec base size = .ok codec) : codec.isSequence = false := by
  unfold baseCodec at h
  split at h
  case h_10 => cases h
  case h_11 => cases h
  all_goals
    obtain rfl := Except.ok.inj h
    rfl

theorem eq_of_baseCodec_address {base : String} {size : Size}
    (hsize : brokenRule? base size = none) (h : baseCodec base size = .ok .address) :
    base = "address" ∧ size = .none := by
  unfold baseCodec at h
  split at h
  case h_5 =>
    refine ⟨rfl, ?_⟩
    have hplain : (if size = .none then none else some SizeRule.addressPlain) = none := hsize
    split_ifs at hplain with hnone
    exact hnone
  all_goals cases h

theorem eq_of_fullBase_address {name : String} {size : Size}
    (h : fullBase name size = ("address", .none)) : name = "address" ∧ size = .none := by
  unfold fullBase at h
  split at h
  · split_ifs at h
    · cases (Prod.mk.inj h).2
    · cases (Prod.mk.inj h).2
    · cases (Prod.mk.inj h).2
    · cases (Prod.mk.inj h).2
    · exact ⟨(Prod.mk.inj h).1, rfl⟩
  · exact Prod.mk.inj h

theorem codecs_fullAll {ts : List Ty} {cs : List Codec} (h : codecs (fullAll ts) = .ok cs) :
    List.Forall₂ (fun t c => t.full.codec = .ok c) ts cs := by
  induction ts generalizing cs with
  | nil =>
    obtain rfl := Except.ok.inj h
    exact .nil
  | cons t ts ih =>
    rw [fullAll, codecs] at h
    split at h
    · cases h
    · next c hc =>
      obtain ⟨rest, hrest, rfl⟩ := map_eq_ok_iff.mp h
      exact .cons hc (ih hrest)

theorem exists_checkSizes {whole : String} {column : Nat} {ts : List Ty}
    (h : checkSizesAll whole column (fullAll ts) = .ok ()) {t : Ty} (ht : t ∈ ts) :
    ∃ column', t.full.checkSizes whole column' = .ok () := by
  induction ts generalizing column with
  | nil => cases ht
  | cons u ts ih =>
    rw [fullAll, checkSizesAll] at h
    split at h
    · cases h
    · next hfirst =>
      rcases List.mem_cons.mp ht with rfl | ht
      · exact ⟨column, hfirst⟩
      · exact ih h ht

/-- What has been read from the text of a type has the codec of the text. -/
theorem Ty.Of.codec_of {components : List Parameter} {type : String} {t : Ty}
    (h : Ty.Of components type t) {whole : String} {column : Nat} {codec : Codec}
    (hsizes : t.full.checkSizes whole column = .ok ()) (hcodec : t.full.codec = .ok codec) :
    Codec.Of components type codec := by
  induction h generalizing column codec with
  | @elementary components base name size arrays dims hbase hname harrays =>
    rw [Ty.full, Ty.checkSizes] at hsizes
    split at hsizes
    · cases hsizes
    · next hrule =>
      obtain ⟨c, hc, rfl⟩ := map_eq_ok_iff.mp hcodec
      refine Codec.Of.withDims (.single hbase (isSequence_of_baseCodec hc) ?_) harrays
      rintro rfl
      obtain ⟨hfull, hnone⟩ := eq_of_baseCodec_address hrule hc
      obtain ⟨rfl, hsize⟩ := eq_of_fullBase_address (Prod.ext hfull hnone)
      exact (hname hsize).symm
  | @tuple components ts arrays dims hlength hts harrays ih =>
    obtain ⟨cs, hcs, rfl⟩ := map_eq_ok_iff.mp hcodec
    obtain ⟨hcount, hall⟩ := forall₂_iff_getElem?.mp (codecs_fullAll hcs)
    refine Codec.Of.withDims (.tuple (hcount.symm.trans hlength) fun i p c hp hc => ?_) harrays
    obtain ⟨t, ht⟩ := exists_getElem?_of_length_eq hcount hc
    obtain ⟨column', hsizes'⟩ := exists_checkSizes hsizes (List.mem_of_getElem? ht)
    exact ih i p t hp ht hsizes' (hall i t c ht hc)

theorem Ty.exists_takeType_of_parse {s : String} {t : Ty} (h : Ty.parse s = .ok t) :
    ∃ steps, (takeType steps s.toList).found = some (t, []) := by
  rw [Ty.parse] at h
  split at h
  · next t' hread =>
    obtain rfl := Except.ok.inj h
    exact ⟨_, hread⟩
  · cases h
  · cases h

/-- The codec of a parameter's type is put together as the text of the type is. -/
theorem Parameter.Typed.codec_of {p : Parameter} (hp : p.Typed) {codec : Codec}
    (h : Codec.ofText p.type = .ok codec) : Codec.Of p.components p.type codec := by
  obtain ⟨t, ht, hcodec⟩ := Codec.ofText_eq_ok h
  obtain ⟨hsizes, hcodec⟩ := Codec.ofTy_eq_ok hcodec
  obtain ⟨steps, hread⟩ := Ty.exists_takeType_of_parse ht
  rw [← List.append_nil p.type.toList] at hread
  exact (p.takeType_found hp endsType_nil endsType_nil hread).2.codec_of hsizes hcodec

end Workflow.Abi
