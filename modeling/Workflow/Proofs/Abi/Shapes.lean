import Workflow.Proofs.Abi.Conversions
import Workflow.Proofs.Abi.Forms
import Workflow.Proofs.Abi.Readings
import Workflow.Proofs.Abi.Reordering
import Workflow.Proofs.Call.Bytes

/-!
# The shapes of converted arguments

The type text of a parameter that has been read from a declaration is an elementary name or the
tuple of the components, with array suffixes behind it (`Parameter.Typed`).  `Shaped` says of such
a text what an argument becomes: a list for the last suffix, whose items are shaped by the text in
front of it; a tuple with one entry for each component; and for an elementary name what
`Converted` says.

Converting an argument goes well exactly if the result is a shape of it
(`Parameter.coerce_eq_ok_iff`).  The proof peels the suffixes off from the right
(`Layers.ofType_array`), while the components stay, and then goes through the components.  What has
been shaped is its own shape (`Shaped.self`), so converting it again changes nothing
(`coercion_normalises`).
-/

namespace Workflow.Abi

open Outcome

/-! ### Array suffixes -/

/-- There is nothing, or a last suffix. -/
theorem Suffixes.exists_last {arrays : List Char} (h : Suffixes arrays) :
    arrays = [] ∨ ∃ front digits, Suffixes front ∧ (∀ c ∈ digits, Text.isDigit c = true) ∧
      arrays = front ++ '[' :: digits ++ [']'] := by
  induction h with
  | nil => exact .inl rfl
  | @cons digits rest hdigits hrest ih =>
    right
    rcases ih with rfl | ⟨front, last, hfront, hlast, rfl⟩
    · exact ⟨[], digits, .nil, hdigits, rfl⟩
    · refine ⟨'[' :: digits ++ ']' :: front, last, .cons hdigits hfront, hlast, ?_⟩
      simp

/-- What holds without suffixes, and with one more at the end, holds with all suffixes. -/
theorem Suffixes.induction_last {P : List Char → Prop} (nil : P [])
    (snoc : ∀ front digits, (∀ c ∈ digits, Text.isDigit c = true) → P front →
      P (front ++ '[' :: digits ++ [']'])) {arrays : List Char} (h : Suffixes arrays) :
    P arrays := by
  -- On the length: the suffixes in front of the last one are no part of the given derivation.
  induction hn : arrays.length using Nat.strong_induction_on generalizing arrays with
  | _ n ih =>
    rcases h.exists_last with rfl | ⟨front, digits, hfront, hdigits, rfl⟩
    · exact nil
    · refine snoc front digits hdigits (ih front.length ?_ hfront rfl)
      simp only [List.length_append, List.length_cons] at hn
      omega

theorem layersOfReverse_steps {m n : Nat} {cs : List Char} (hm : cs.length < m)
    (hn : cs.length < n) : layersOfReverse m cs = layersOfReverse n cs := by
  induction m generalizing n cs with
  | zero => omega
  | succ m ih =>
    obtain ⟨n, rfl⟩ : ∃ n', n = n' + 1 := ⟨n - 1, by omega⟩
    rw [layersOfReverse, layersOfReverse]
    split_ifs with hclosed
    · cases hdrop : cs.dropWhile (· != '[') with
      | nil => rfl
      | cons c item =>
        have hlength : item.length < cs.length := by
          have hle := List.length_dropWhile_le (· != '[') cs
          rw [hdrop, List.length_cons] at hle
          omega
        dsimp only
        rw [ih (n := n) (by omega) (by omega)]
    · rfl

/-- The text of an array type. -/
def arrayText (item digits : String) : String := item ++ "[" ++ digits ++ "]"

theorem toList_arrayText (item digits : String) :
    (arrayText item digits).toList = item.toList ++ '[' :: digits.toList ++ [']'] := by
  rw [arrayText, String.toList_append, String.toList_append, String.toList_append]
  simp

/-- The last suffix is the outermost one. -/
theorem Layers.ofType_array {item digits : String}
    (hdigits : ∀ c ∈ digits.toList, Text.isDigit c = true) :
    Layers.ofType (arrayText item digits)
      = .array (arrayText item digits) (Layers.ofType item) := by
  have hopen : ∀ c ∈ digits.toList.reverse, (c != '[') = true := by
    intro c hc
    rw [bne_iff_ne]
    rintro rfl
    exact absurd (hdigits '[' (List.mem_reverse.mp hc)) (by decide)
  -- Read from its end, the text goes on to the opening bracket of the last suffix.
  have hreverse : (arrayText item digits).toList.reverse
      = ']' :: (digits.toList.reverse ++ '[' :: item.toList.reverse) := by
    rw [toList_arrayText]
    simp
  have hdrop : (']' :: (digits.toList.reverse ++ '[' :: item.toList.reverse)).dropWhile (· != '[')
      = '[' :: item.toList.reverse := by
    rw [List.dropWhile_cons_of_pos (by decide), List.dropWhile_append_of_pos hopen,
      List.dropWhile_cons_of_neg (by decide)]
  have hlength : item.toList.reverse.length < (arrayText item digits).length := by
    rw [← String.length_toList, toList_arrayText]
    simp
  rw [Layers.ofType, layersOfReverse, hreverse, List.head?_cons, if_pos (by decide), hdrop,
    ← hreverse, List.reverse_reverse, String.ofList_toList]
  dsimp only
  rw [Layers.ofType]
  refine congrArg _ (layersOfReverse_steps hlength ?_)
  rw [List.length_reverse, String.length_toList]
  omega

theorem Layers.ofType_base {type : String} (h : type.toList.getLast? ≠ some ']') :
    Layers.ofType type = .base type := by
  rw [Layers.ofType, layersOfReverse, List.head?_reverse, if_neg (by simpa using h),
    List.reverse_reverse, String.ofList_toList]

/-! ### Shapes -/

/-- The name of an elementary type: letters and digits. -/
def IsElementary (type : String) : Prop := ∀ c ∈ type.toList, c.isAlphanum = true

theorem isElementary_iff {type : String} :
    IsElementary type ↔ type.toList.all Char.isAlphanum = true := List.all_eq_true.symm

/-- The values that an argument supplies for the components of a tuple: those of a mapping by name,
all of them given, or those of a sequence in order. -/
inductive Supplies (components : List Parameter) : Value → List Value → Prop where
  | named {v : Value} {fields : List (String × Value)} (hv : v.named? = some fields)
    (hgiven : ∀ c ∈ components, (fieldOf fields c.name).isNull = false) :
    Supplies components v (components.map fun c => fieldOf fields c.name)
  | ordered {v : Value} {vs : List Value} (hv : v.items? = some vs)
    (hlength : vs.length = components.length) : Supplies components v vs

/-- What an argument becomes by the text of a type, whose tuple has the given components. -/
inductive Shaped : List Parameter → String → Value → Value → Prop where
  /-- The items of an array are shaped by the text in front of the last suffix. -/
  | array {components : List Parameter} {item digits : String} {v : Value} {vs ws : List Value}
    (hdigits : ∀ c ∈ digits.toList, Text.isDigit c = true) (hv : v.items? = some vs)
    (hlength : vs.length = ws.length)
    (h : ∀ (i : Nat) v w, vs[i]? = some v → ws[i]? = some w → Shaped components item v w) :
    Shaped components (arrayText item digits) v (.list ws)
  /-- A tuple has an entry for each component. -/
  | tuple {components : List Parameter} {v : Value} {vs ws : List Value}
    (hvs : Supplies components v vs) (hlength : ws.length = components.length)
    (h : ∀ (i : Nat) c v w, components[i]? = some c → vs[i]? = some v → ws[i]? = some w →
      Shaped c.components c.type v w) :
    Shaped components (tupleType components) v (.tuple ws)
  /-- Other values are converted. -/
  | elementary {components : List Parameter} {type : String} {v w : Value}
    (htype : IsElementary type) (h : Converted type v w) : Shaped components type v w

theorem componentValues_eq_ok_iff {components : List Parameter} {label : String} {v : Value}
    {vs : List Value} :
    componentValues components label v = .ok vs ↔ Supplies components v vs := by
  rw [componentValues]
  constructor
  · intro h
    split at h
    · next fields hnamed =>
      split at h
      · cases h
      · next hall =>
        obtain rfl := Except.ok.inj h
        refine .named hnamed fun c hc => ?_
        simpa using List.find?_eq_none.mp hall c hc
    · split at h
      · next items hitems =>
        split_ifs at h with hlength
        obtain rfl := Except.ok.inj h
        exact .ordered hitems hlength
      · cases h
  · intro h
    cases h with
    | @named fields hv hgiven =>
      have hall : components.find? (fun c => (fieldOf fields c.name).isNull) = none :=
        List.find?_eq_none.mpr fun c hc => by simp [hgiven c hc]
      rw [hv]
      simp only [hall]
    | ordered hv hlength =>
      rw [Value.named?_of_items hv, hv]
      simp only [hlength, if_true]

theorem Supplies.length_eq {components : List Parameter} {v : Value} {vs : List Value}
    (h : Supplies components v vs) : vs.length = components.length := by
  cases h with
  | named => rw [List.length_map]
  | ordered _ hlength => exact hlength

/-! ### Telling types apart -/

theorem last_arrayText (item digits : String) :
    (arrayText item digits).toList.getLast? = some ']' := by
  rw [toList_arrayText, List.getLast?_concat]

theorem last_tupleType (components : List Parameter) :
    (tupleType components).toList.getLast? = some ')' := by
  rw [toList_tupleType, List.getLast?_concat]

theorem IsElementary.last_ne {type : String} (h : IsElementary type) {c : Char}
    (hc : c.isAlphanum = false) : type.toList.getLast? ≠ some c := by
  intro hlast
  rw [h c (List.mem_of_getLast? hlast)] at hc
  cases hc

theorem startsWith_tupleType (components : List Parameter) :
    startsWith "(" (tupleType components) = true := by
  rw [startsWith, toList_tupleType]
  rfl

theorem IsElementary.startsWith_eq {type : String} (h : IsElementary type) :
    startsWith "(" type = false := by
  rw [Bool.eq_false_iff, Ne, startsWith_iff]
  rintro ⟨rest, rfl⟩
  exact absurd (h '(' (by simp)) (by decide)

/-- What stands behind the last opening bracket says what stands in front of it. -/
theorem append_open_inj {front front' back back' : List Char} (hback : '[' ∉ back)
    (hback' : '[' ∉ back') (h : front ++ '[' :: back = front' ++ '[' :: back') :
    front = front' := by
  rcases List.append_eq_append_iff.mp h with ⟨more, rfl, hmore⟩ | ⟨more, rfl, hmore⟩
  · cases more with
    | nil => exact (List.append_nil front).symm
    | cons c more =>
      have hmem : '[' ∈ back := by
        rw [(List.cons.inj hmore).2]
        simp
      exact absurd hmem hback
  · cases more with
    | nil => exact List.append_nil front'
    | cons c more =>
      have hmem : '[' ∈ back' := by
        rw [(List.cons.inj hmore).2]
        simp
      exact absurd hmem hback'

theorem open_not_mem_of_digits {digits : List Char} (h : ∀ c ∈ digits, Text.isDigit c = true) :
    '[' ∉ digits := fun hmem => absurd (h '[' hmem) (by decide)

theorem arrayText_inj {item item' digits digits' : String}
    (hdigits : ∀ c ∈ digits.toList, Text.isDigit c = true)
    (hdigits' : ∀ c ∈ digits'.toList, Text.isDigit c = true)
    (h : arrayText item digits = arrayText item' digits') : item = item' := by
  rw [← String.toList_inj, toList_arrayText, toList_arrayText] at h
  rw [← String.toList_inj]
  exact append_open_inj (open_not_mem_of_digits hdigits) (open_not_mem_of_digits hdigits')
    (List.append_cancel_right h)

section

variable {components : List Parameter} {v w : Value}

/-- For an array type: a list of items of the shape of the type in front of the last suffix. -/
theorem shaped_array_iff {item digits : String}
    (hdigits : ∀ c ∈ digits.toList, Text.isDigit c = true) :
    Shaped components (arrayText item digits) v w ↔
      ∃ vs ws, v.items? = some vs ∧ List.Forall₂ (Shaped components item) vs ws ∧ .list ws = w := by
  constructor
  · intro h
    -- The last character of the text tells the other two kinds of types apart from this one.
    generalize htype : arrayText item digits = type at h
    cases h with
    | @array _ item' digits' _ vs ws hdigits' hv hlength h =>
      obtain rfl := arrayText_inj hdigits hdigits' htype
      exact ⟨vs, ws, hv, forall₂_iff_getElem?.mpr ⟨hlength, h⟩, rfl⟩
    | tuple =>
      have hlast := last_arrayText item digits
      rw [htype, last_tupleType] at hlast
      exact absurd hlast (by decide)
    | elementary helementary =>
      have hlast := last_arrayText item digits
      rw [htype] at hlast
      exact absurd hlast (helementary.last_ne rfl)
  · rintro ⟨vs, ws, hv, hall, rfl⟩
    obtain ⟨hlength, h⟩ := forall₂_iff_getElem?.mp hall
    exact .array hdigits hv hlength h

theorem shaped_tuple_iff :
    Shaped components (tupleType components) v w ↔
      ∃ vs ws, Supplies components v vs ∧ (ws.length = components.length ∧
        ∀ (i : Nat) c v w, components[i]? = some c → vs[i]? = some v → ws[i]? = some w →
          Shaped c.components c.type v w) ∧ .tuple ws = w := by
  constructor
  · intro h
    generalize htype : tupleType components = type at h
    cases h with
    | array =>
      have hlast := last_tupleType components
      rw [htype, last_arrayText] at hlast
      exact absurd hlast (by decide)
    | tuple hvs hlength h => exact ⟨_, _, hvs, ⟨hlength, h⟩, rfl⟩
    | elementary helementary =>
      have hlast := last_tupleType components
      rw [htype] at hlast
      exact absurd hlast (helementary.last_ne rfl)
  · rintro ⟨vs, ws, hvs, ⟨hlength, h⟩, rfl⟩
    exact .tuple hvs hlength h

theorem shaped_elementary_iff {type : String} (htype : IsElementary type) :
    Shaped components type v w ↔ Converted type v w := by
  refine ⟨fun h => ?_, .elementary htype⟩
  cases h with
  | array => exact absurd (last_arrayText _ _) (htype.last_ne rfl)
  | tuple => exact absurd (last_tupleType _) (htype.last_ne rfl)
  | elementary _ h => exact h

end

/-! ### Converting arguments -/

theorem coerceItems_eq_ok_iff {R : Value → Value → Prop}
    {item : String → Value → Except Failure Value}
    (hitem : ∀ label v w, item label v = .ok w ↔ R v w) (label : String) (index : Nat)
    {vs ws : List Value} :
    coerceItems item label index vs = .ok ws ↔ List.Forall₂ R vs ws := by
  induction vs generalizing index ws with
  | nil =>
    rw [coerceItems, List.forall₂_nil_left_iff, Except.ok.injEq]
    exact eq_comm
  | cons v vs ih =>
    rw [coerceItems, bind_eq_ok_iff, List.forall₂_cons_left_iff]
    constructor
    · rintro ⟨w, hw, h⟩
      obtain ⟨rest, hrest, h⟩ := bind_eq_ok_iff.mp h
      exact ⟨w, rest, (hitem _ v w).mp hw, (ih (index + 1)).mp hrest, (Except.ok.inj h).symm⟩
    · rintro ⟨w, rest, hw, hrest, rfl⟩
      exact ⟨w, (hitem _ v w).mpr hw, bind_eq_ok_iff.mpr ⟨rest, (ih (index + 1)).mpr hrest, rfl⟩⟩

/-- Under array suffixes an argument is converted by its shape if without them it is. -/
theorem Layers.coerce_eq_ok_iff {components : List Parameter} {base : String}
    {convert : String → String → Value → Except Failure Value}
    (hlast : base.toList.getLast? ≠ some ']')
    (hbase : ∀ label v w, convert base label v = .ok w ↔ Shaped components base v w)
    {arrays : List Char} (h : Suffixes arrays) (label : String) (v w : Value) :
    (Layers.ofType (base ++ String.ofList arrays)).coerce convert label v = .ok w ↔
      Shaped components (base ++ String.ofList arrays) v w := by
  -- The suffixes are peeled off from the right, each with the items of one array.
  have hall : ∀ label v w, (Layers.ofType (base ++ String.ofList arrays)).coerce convert label v
      = .ok w ↔ Shaped components (base ++ String.ofList arrays) v w := by
    refine h.induction_last (P := fun arrays => ∀ label v w,
      (Layers.ofType (base ++ String.ofList arrays)).coerce convert label v = .ok w ↔
        Shaped components (base ++ String.ofList arrays) v w) ?_ ?_
    · intro label v w
      have hnone : base ++ String.ofList [] = base := by simp
      rw [hnone, Layers.ofType_base hlast]
      exact hbase label v w
    · intro front digits hdigits ih label v w
      have harray : base ++ String.ofList (front ++ '[' :: digits ++ [']'])
          = arrayText (base ++ String.ofList front) (String.ofList digits) := by
        rw [← String.toList_inj, toList_arrayText]
        simp
      have hdigits' : ∀ c ∈ (String.ofList digits).toList, Text.isDigit c = true := by
        rwa [String.toList_ofList]
      rw [harray, Layers.ofType_array hdigits', shaped_array_iff hdigits', Layers.coerce]
      cases hv : v.items? with
      | none => exact iff_of_false (by rintro ⟨⟩) (by rintro ⟨_, _, ⟨⟩, -⟩)
      | some vs =>
        simp only [map_eq_ok_iff, coerceItems_eq_ok_iff ih]
        constructor
        · rintro ⟨ws, hws, rfl⟩
          exact ⟨vs, ws, rfl, hws, rfl⟩
        · rintro ⟨vs', ws, hvs, hws, rfl⟩
          obtain rfl := Option.some.inj hvs
          exact ⟨ws, hws, rfl⟩
  exact hall label v w

/-! ### Parameters of declarations -/

/-- The type of a parameter is an elementary name or the tuple of its components, with array
suffixes behind it, and the components are of such types themselves. -/
inductive Parameter.Typed : Parameter → Prop where
  | elementary {name base : String} {arrays : List Char} {components : List Parameter}
    (hbase : IsElementary base) (harrays : Suffixes arrays)
    (hcomponents : ∀ c ∈ components, c.Typed) :
    Typed ⟨name, base ++ String.ofList arrays, components⟩
  | tuple {name : String} {arrays : List Char} {components : List Parameter}
    (harrays : Suffixes arrays) (hcomponents : ∀ c ∈ components, c.Typed) :
    Typed ⟨name, tupleType components ++ String.ofList arrays, components⟩

theorem isElementary_of_letter {letter : Char} {base : List Char} (hletter : letter.isAlpha = true)
    (hbase : ∀ c ∈ base, c.isAlphanum = true) : IsElementary (String.ofList (letter :: base)) := by
  rw [IsElementary, String.toList_ofList, List.forall_mem_cons]
  exact ⟨by rw [Char.isAlphanum, hletter, Bool.true_or], hbase⟩

theorem isElementary_expandAlias {name : String} (h : IsElementary name) :
    IsElementary (expandAlias name) := by
  rw [expandAlias]
  split_ifs
  · exact isElementary_iff.mpr (by decide)
  · exact isElementary_iff.mpr (by decide)
  · exact isElementary_iff.mpr (by decide)
  · exact h

mutual

/-- The type of a parameter that has been read. -/
theorem Parameter.Reads.typed {flawed : Bool} {p : Parameter} {cs : List Char}
    (h : Parameter.Reads flawed p cs) : p.Typed := by
  match h with
  | .elementary hletter hbase _ _ harrays _ _ =>
    exact .elementary (isElementary_expandAlias (isElementary_of_letter hletter hbase)) harrays
      fun c hc => absurd hc List.not_mem_nil
  | .tuple _ _ _ hcomponents harrays _ _ => exact .tuple harrays hcomponents.typed

theorem Parameter.AllRead.typed {flawed : Bool} {ps : List Parameter} {texts : List (List Char)}
    (h : Parameter.AllRead flawed ps texts) : ∀ p ∈ ps, p.Typed := by
  match h with
  | .nil => exact fun p hp => absurd hp List.not_mem_nil
  | .cons h hrest => exact List.forall_mem_cons.mpr ⟨h.typed, hrest.typed⟩

end

theorem Parameter.Typed.of_holds {p q : Parameter} (h : p.Typed) (hq : p.Holds q) : q.Typed := by
  induction hq with
  | self => exact h
  | component hq _ ih =>
    cases h with
    | elementary _ _ hcomponents => exact ih (hcomponents _ hq)
    | tuple _ hcomponents => exact ih (hcomponents _ hq)

theorem typed_of_ofDeclaration {whole : String} {f : Function}
    (h : Function.ofDeclaration whole = .ok f) : ∀ p ∈ f.inputs, p.Typed := by
  obtain ⟨flawed, hread⟩ := exists_reads_of_ofDeclaration h
  generalize whole.toList = cs at hread
  cases hread with
  | intro _ _ _ _ _ hinputs => exact hinputs.typed

theorem ElementaryType.isElementary (type : ElementaryType) : IsElementary type.text := by
  obtain ⟨c, cs, htext, hletter, -, hrest⟩ := type.exists_letter
  rw [← String.ofList_toList (s := type.text), htext]
  exact isElementary_of_letter hletter hrest

mutual

theorem Described.typed (p : Described) : p.parameter.Typed := by
  match p with
  | .elementary type arrays label =>
    rw [Described.parameter, ← String.ofList_toList (s := renderDims arrays)]
    exact .elementary (isElementary_expandAlias type.isElementary) (suffixes_renderDims arrays)
      fun c hc => absurd hc List.not_mem_nil
  | .tuple components arrays label =>
    rw [Described.parameter, ← String.ofList_toList (s := renderDims arrays)]
    exact .tuple (suffixes_renderDims arrays) (typed_of_parametersDescribed components)

/-- The parameters of a description, in whatever form it is given. -/
theorem typed_of_parametersDescribed (ps : List Described) :
    ∀ p ∈ parametersDescribed ps, p.Typed := by
  match ps with
  | [] => exact fun p hp => absurd hp List.not_mem_nil
  | p :: ps => exact List.forall_mem_cons.mpr ⟨p.typed, typed_of_parametersDescribed ps⟩

end

mutual

/-- An argument is converted exactly to its shape by the type of the parameter. -/
theorem Parameter.coerce_eq_ok_iff (p : Parameter) (hp : p.Typed) {label : String} {v w : Value} :
    p.coerce label v = .ok w ↔ Shaped p.components p.type v w := by
  match p, hp with
  | ⟨name, _, components⟩, .elementary hbase harrays _ =>
    rw [Parameter.coerce]
    refine Layers.coerce_eq_ok_iff (hbase.last_ne rfl) (fun label v w => ?_) harrays label v w
    rw [hbase.startsWith_eq, shaped_elementary_iff hbase]
    exact coerceElementary_eq_ok_iff
  | ⟨name, _, components⟩, .tuple harrays hcomponents =>
    rw [Parameter.coerce]
    have hlast : (tupleType components).toList.getLast? ≠ some ']' := by
      rw [last_tupleType]
      decide
    refine Layers.coerce_eq_ok_iff hlast (fun label v w => ?_) harrays label v w
    rw [if_pos (startsWith_tupleType components), shaped_tuple_iff]
    have heach : ∀ {vs}, Supplies components v vs → ∀ ws,
        coerceComponents components label 0 vs = .ok ws ↔ ws.length = components.length ∧
          ∀ (i : Nat) c v w, components[i]? = some c → vs[i]? = some v → ws[i]? = some w →
            Shaped c.components c.type v w :=
      fun hvs ws => coerceComponents_eq_ok_iff components hcomponents hvs.length_eq
    constructor
    · intro h
      split at h
      · cases h
      · next vs hvs =>
        obtain ⟨ws, hws, rfl⟩ := map_eq_ok_iff.mp h
        have hsupplies := componentValues_eq_ok_iff.mp hvs
        exact ⟨vs, ws, hsupplies, (heach hsupplies ws).mp hws, rfl⟩
    · rintro ⟨vs, ws, hsupplies, hws, rfl⟩
      rw [componentValues_eq_ok_iff.mpr hsupplies]
      exact map_eq_ok_iff.mpr ⟨ws, (heach hsupplies ws).mpr hws, rfl⟩

/-- The values of the components of a tuple are converted to their shapes, one by one. -/
theorem coerceComponents_eq_ok_iff (components : List Parameter)
    (hcomponents : ∀ c ∈ components, c.Typed) {label : String} {index : Nat} {vs ws : List Value}
    (hlength : vs.length = components.length) :
    coerceComponents components label index vs = .ok ws ↔ ws.length = components.length ∧
      ∀ (i : Nat) c v w, components[i]? = some c → vs[i]? = some v → ws[i]? = some w →
        Shaped c.components c.type v w := by
  -- The index only labels failures, so that the rest is read off with the next one.
  match components, vs with
  | [], [] =>
    rw [coerceComponents, Except.ok.injEq]
    constructor
    · rintro rfl
      exact ⟨rfl, by rintro i c v w ⟨⟩⟩
    · exact fun h => (List.length_eq_zero_iff.mp h.1).symm
  | c :: cs, v :: vs =>
    obtain ⟨hc, hcs⟩ := List.forall_mem_cons.mp hcomponents
    have hrest : ∀ ws, coerceComponents cs label (index + 1) vs = .ok ws ↔
        ws.length = cs.length ∧ ∀ (i : Nat) c v w, cs[i]? = some c → vs[i]? = some v →
          ws[i]? = some w → Shaped c.components c.type v w :=
      fun ws => coerceComponents_eq_ok_iff cs hcs (Nat.succ.inj hlength)
    rw [coerceComponents, bind_eq_ok_iff]
    constructor
    · rintro ⟨w, hw, h⟩
      obtain ⟨ws, hws, h⟩ := bind_eq_ok_iff.mp h
      obtain rfl := Except.ok.inj h
      obtain ⟨hlen, hall⟩ := (hrest ws).mp hws
      refine ⟨congrArg (· + 1) hlen, fun i d v' w' hd hv hw' => ?_⟩
      cases i with
      | zero =>
        obtain rfl := Option.some.inj hd
        obtain rfl := Option.some.inj hv
        obtain rfl := Option.some.inj hw'
        exact (c.coerce_eq_ok_iff hc).mp hw
      | succ i => exact hall i d v' w' hd hv hw'
    · rintro ⟨hlen, hall⟩
      obtain ⟨w, ws, rfl⟩ := List.exists_cons_of_length_eq_add_one hlen
      refine ⟨w, (c.coerce_eq_ok_iff hc).mpr (hall 0 c v w rfl rfl rfl), ?_⟩
      refine bind_eq_ok_iff.mpr ⟨ws, (hrest ws).mpr ⟨Nat.succ.inj hlen, fun i => ?_⟩, rfl⟩
      exact hall (i + 1)

end

/-! ### Converting what has been converted -/

/-- At each place of the longer list there is something in the other one. -/
theorem exists_getElem?_of_length_eq {α β : Type} {xs : List α} {ys : List β}
    (h : xs.length = ys.length) {i : Nat} {y : β} (hy : ys[i]? = some y) :
    ∃ x, xs[i]? = some x := by
  obtain ⟨hi, -⟩ := List.getElem?_eq_some_iff.mp hy
  exact ⟨_, List.getElem?_eq_getElem (h ▸ hi)⟩

/-- What has been shaped is a shape of itself. -/
theorem Shaped.self {components : List Parameter} {type : String} {v w : Value}
    (h : Shaped components type v w) : Shaped components type w w := by
  induction h with
  | @array components item digits v vs ws hdigits hv hlength h ih =>
    refine .array hdigits rfl rfl fun i w w' hw hw' => ?_
    obtain rfl := Option.some.inj (hw.symm.trans hw')
    obtain ⟨u, hu⟩ := exists_getElem?_of_length_eq hlength hw
    exact ih i u w hu hw
  | @tuple components v vs ws hvs hlength h ih =>
    refine .tuple (.ordered rfl hlength) hlength fun i c w w' hc hw hw' => ?_
    obtain rfl := Option.some.inj (hw.symm.trans hw')
    obtain ⟨u, hu⟩ := exists_getElem?_of_length_eq (hvs.length_eq.trans hlength.symm) hw
    exact ih i c u w hc hu hw
  | elementary htype h => exact .elementary htype h.self

/-- An argument that is converted for a parameter of a declaration, or for a component at any depth,
becomes what the text of the type says: a list for each array suffix, the last one outermost, with
items of the type in front of it; a tuple with one entry for each component; and for an elementary
type the integer, the truth value, the address in lower case or the bytes of the argument, or the
argument itself where there is no rule for the type.  Converted again, the result stays as it is. -/
theorem coercion_normalises {whole : String} {f : Function}
    (hf : Function.ofDeclaration whole = .ok f) {p q : Parameter} (hp : p ∈ f.inputs)
    (hq : p.Holds q) {label : String} {v w : Value} (h : q.coerce label v = .ok w) :
    Shaped q.components q.type v w ∧ ∀ again, q.coerce again w = .ok w := by
  have htyped := (typed_of_ofDeclaration hf p hp).of_holds hq
  have hshaped := (q.coerce_eq_ok_iff htyped).mp h
  exact ⟨hshaped, fun again => (q.coerce_eq_ok_iff htyped).mpr hshaped.self⟩

/-- The declaration of a function that takes orders with a receiver and amounts. -/
def ordersText : String := "function settle((address to, uint256[] amounts)[2] orders)"

/-- The parameter with the orders. -/
def ordersParameter : Parameter :=
  ⟨"orders", "(address,uint256[])[2]",
    [⟨"to", "address", []⟩, ⟨"amounts", "uint256[]", []⟩]⟩

/-- Orders, one by name and one in order. -/
def givenOrders : Value :=
  .list [.record [("amounts", .list [.text "7", .int 8]),
      ("to", .text "0x00000000000000000000000000000000000000AA")],
    .tuple [.text "0x00000000000000000000000000000000000000bb", .list []]]

/-- The same orders as they are encoded. -/
def settledOrders : Value :=
  .list [.tuple [.text "0x00000000000000000000000000000000000000aa", .list [.int 7, .int 8]],
    .tuple [.text "0x00000000000000000000000000000000000000bb", .list []]]

theorem exists_ofDeclaration_orders :
    ∃ f, Function.ofDeclaration ordersText = .ok f ∧ f.inputs = [ordersParameter] := by
  have houter : (Function.ofDeclaration ordersText).toOption.map
      (fun f => f.inputs.map fun p => (p.name, p.type))
      = some [("orders", "(address,uint256[])[2]")] := by decide +kernel
  have hinner : (Function.ofDeclaration ordersText).toOption.map
      (fun f => f.inputs.flatMap fun p => p.components.map fun c =>
        (c.name, c.type, c.components.length))
      = some [("to", "address", 0), ("amounts", "uint256[]", 0)] := by decide +kernel
  cases hf : Function.ofDeclaration ordersText with
  | error e =>
    rw [hf] at houter
    cases houter
  | ok f =>
    rw [hf] at houter hinner
    refine ⟨f, rfl, ?_⟩
    obtain ⟨⟨name, type, components⟩, hp, hnamed⟩ :=
      List.map_eq_singleton_iff.mp (Option.some.inj houter)
    have hcomponents : components.map (fun c => (c.name, c.type, c.components.length))
        = [("to", "address", 0), ("amounts", "uint256[]", 0)] := by
      simpa [hp] using Option.some.inj hinner
    obtain ⟨⟨receiver, receiverType, receiverParts⟩, rest, rfl, hreceiver, hrest⟩ :=
      List.map_eq_cons_iff.mp hcomponents
    obtain ⟨⟨amounts, amountsType, amountsParts⟩, rfl, hamounts⟩ :=
      List.map_eq_singleton_iff.mp hrest
    simp only [Prod.mk.injEq, List.length_eq_zero_iff] at hnamed hreceiver hamounts
    obtain ⟨rfl, rfl⟩ := hnamed
    obtain ⟨rfl, rfl, rfl⟩ := hreceiver
    obtain ⟨rfl, rfl, rfl⟩ := hamounts
    exact hp

theorem coercion_normalises_orders :
    ∃ f, Function.ofDeclaration ordersText = .ok f ∧ ordersParameter ∈ f.inputs ∧
      ordersParameter.coerce "orders" givenOrders = .ok settledOrders ∧
      Shaped ordersParameter.components "(address,uint256[])[2]" givenOrders settledOrders ∧
      ordersParameter.coerce "again" settledOrders = .ok settledOrders := by
  obtain ⟨f, hf, hinputs⟩ := exists_ofDeclaration_orders
  have hp : ordersParameter ∈ f.inputs := hinputs ▸ List.mem_singleton_self _
  have hcoerce : ordersParameter.coerce "orders" givenOrders = .ok settledOrders := rfl
  obtain ⟨hshaped, hagain⟩ := coercion_normalises hf hp (.self ordersParameter) hcoerce
  exact ⟨f, hf, hp, hcoerce, hshaped, hagain "again"⟩

/-- A name with a number behind it, or without one. -/
def IsSized (lead type : String) : Prop :=
  ∃ digits, type = lead ++ digits ∧ ∀ c ∈ digits.toList, c.isDigit = true

theorem not_isSized {lead type : String} {c : Char}
    (h : (type.toList.drop lead.toList.length).head? = some c) (hc : c.isDigit = false) :
    ¬ IsSized lead type := by
  rintro ⟨digits, rfl, hdigits⟩
  rw [String.toList_append, List.drop_left] at h
  rw [hdigits c (List.mem_of_head? h)] at hc
  cases hc

/-- The inputs of a function are compared by their parts, which can be computed. -/
theorem exists_ok_of_only_input {x : Except Failure Function} {name type : String}
    (h : x.toOption.map (fun f => f.inputs.map fun p => (p.name, p.type, p.components.length))
      = some [(name, type, 0)]) : ∃ f, x = .ok f ∧ f.inputs = [⟨name, type, []⟩] := by
  cases x with
  | error e => cases h
  | ok f =>
    obtain ⟨⟨_, _, components⟩, hp, hparts⟩ :=
      List.map_eq_singleton_iff.mp (Option.some.inj h)
    simp only [Prod.mk.injEq, List.length_eq_zero_iff] at hparts
    obtain ⟨rfl, rfl, rfl⟩ := hparts
    exact ⟨f, rfl, hp⟩

/-- The type of the only parameter is no integer type, and its argument is read as an integer. -/
theorem interest_is_integer :
    ¬ ∀ (f : Function) (p : Parameter) (v w : Value),
      Function.ofDeclaration "function f(interest x)" = .ok f → p ∈ f.inputs →
      IsElementary p.type → ¬ (IsSized "uint" p.type ∨ IsSized "int" p.type ∨ p.type = "bool" ∨
        p.type = "address" ∨ IsSized "bytes" p.type) → p.coerce "x" v = .ok w → w = v := by
  intro hsame
  obtain ⟨f, hf, hinputs⟩ : ∃ f, Function.ofDeclaration "function f(interest x)" = .ok f ∧
      f.inputs = [⟨"x", "interest", []⟩] := exists_ok_of_only_input (by decide +kernel)
  have helementary : IsElementary "interest" := isElementary_iff.mpr (by decide)
  have hcoerce : Parameter.coerce ⟨"x", "interest", []⟩ "x" (.text "5") = .ok (.int 5) := rfl
  have hother : ¬ (IsSized "uint" "interest" ∨ IsSized "int" "interest" ∨ "interest" = "bool" ∨
      "interest" = "address" ∨ IsSized "bytes" "interest") := by
    simp only [not_or]
    exact ⟨not_isSized rfl rfl, not_isSized rfl rfl, by decide, by decide, not_isSized rfl rfl⟩
  have heq := hsame f _ (.text "5") (.int 5) hf (hinputs ▸ List.mem_singleton_self _) helementary
    hother hcoerce
  cases heq

end Workflow.Abi
