import Workflow.Proofs.Abi.Arguments
import Workflow.Proofs.Abi.Encodings
import Workflow.Proofs.Fields
import Mathlib.Data.List.Find

/-!
# Arguments that hold the same values under the same names

Two values are `Value.Reordered` if they differ at most in the order of the entries of mappings.
For a parameter more values are the same (`SameFor`): of a mapping that is given for a tuple, only
the entries under the names of the components count, at any depth and under any array suffixes, so
further entries do not matter.

Bringing values that are the same to the type of a parameter either fails for both or gives values
that differ at most in that order (`Parameter.coerce_agree`).  The proof follows the recursion over
array suffixes and components, and at each of them the cases of `SameFor`.  A codec takes no
mapping, so values that differ in that order only are equal if they can be encoded
(`Codec.eq_of_encode`).
-/

namespace Workflow

open Outcome

theorem forall₂_iff_getElem? {α β : Type} {R : α → β → Prop} {xs : List α} {ys : List β} :
    List.Forall₂ R xs ys ↔ xs.length = ys.length ∧
      ∀ (i : Nat) x y, xs[i]? = some x → ys[i]? = some y → R x y := by
  rw [List.forall₂_iff_get]
  constructor
  · rintro ⟨hlength, h⟩
    refine ⟨hlength, fun i x y hx hy => ?_⟩
    obtain ⟨hi, rfl⟩ := List.getElem?_eq_some_iff.mp hx
    obtain ⟨hi', rfl⟩ := List.getElem?_eq_some_iff.mp hy
    exact h i hi hi'
  · rintro ⟨hlength, h⟩
    exact ⟨hlength, fun i hi hi' =>
      h i _ _ (List.getElem?_eq_getElem hi) (List.getElem?_eq_getElem hi')⟩

/-! ### The order of entries -/

/-- Two values are the same up to the order in which mappings hold their entries. -/
inductive Value.Reordered : Value → Value → Prop where
  /-- The values are the same. -/
  | refl (v : Value) : Reordered v v
  /-- Lists of values that are the same one by one. -/
  | list {vs ws : List Value} (hlength : vs.length = ws.length)
    (h : ∀ (i : Nat) v w, vs[i]? = some v → ws[i]? = some w → Reordered v w) :
    Reordered (.list vs) (.list ws)
  /-- Tuples of values that are the same one by one. -/
  | tuple {vs ws : List Value} (hlength : vs.length = ws.length)
    (h : ∀ (i : Nat) v w, vs[i]? = some v → ws[i]? = some w → Reordered v w) :
    Reordered (.tuple vs) (.tuple ws)
  /-- Mappings with the same names and the same values under each of them. -/
  | record {fs gs : List (String × Value)}
    (hnames : ∀ name, name ∈ Fields.names fs ↔ name ∈ Fields.names gs)
    (h : ∀ name v w, (name, v) ∈ fs → (name, w) ∈ gs → Reordered v w) :
    Reordered (.record fs) (.record gs)
  /-- Mappings with the same keys of any kind and the same values under each of them. -/
  | table {rows others : List (Value × Value)}
    (hkeys : ∀ key, key ∈ rows.map Prod.fst ↔ key ∈ others.map Prod.fst)
    (h : ∀ key v w, (key, v) ∈ rows → (key, w) ∈ others → Reordered v w) :
    Reordered (.table rows) (.table others)

/-- A sequence or a mapping. -/
inductive Value.IsCompound : Value → Prop where
  | list (vs : List Value) : IsCompound (.list vs)
  | tuple (vs : List Value) : IsCompound (.tuple vs)
  | record (fs : List (String × Value)) : IsCompound (.record fs)
  | table (rows : List (Value × Value)) : IsCompound (.table rows)

theorem Value.named?_of_items {v : Value} {vs : List Value} (h : v.items? = some vs) :
    v.named? = none := by
  cases v with
  | list vs => rfl
  | tuple vs => rfl
  | _ => cases h

theorem Value.isCompound_of_items {v : Value} {vs : List Value} (h : v.items? = some vs) :
    v.IsCompound := by
  cases v with
  | list vs => exact .list vs
  | tuple vs => exact .tuple vs
  | _ => cases h

theorem Value.isCompound_of_named {v : Value} {fs : List (String × Value)}
    (h : v.named? = some fs) : v.IsCompound := by
  cases v with
  | record fs => exact .record fs
  | table rows => exact .table rows
  | _ => cases h

theorem Value.isNull_of_isCompound {v : Value} (h : v.IsCompound) : v.isNull = false := by
  cases h <;> rfl

theorem mem_names_namedRows {rows : List (Value × Value)} {name : String} :
    name ∈ Fields.names (Value.namedRows rows)
      ↔ Value.text name ∈ rows.map Prod.fst := by
  simp only [Fields.names, Value.namedRows, List.mem_map, List.mem_filterMap, Prod.exists,
    Option.map_eq_some_iff]
  constructor
  · rintro ⟨_, v, ⟨key, _, hrow, _, hkey, heq⟩, rfl⟩
    obtain ⟨rfl, rfl⟩ := Prod.mk.inj heq
    cases key with
    | text s =>
      obtain rfl := Option.some.inj hkey
      exact ⟨_, _, hrow, rfl⟩
    | _ => cases hkey
  · rintro ⟨_, v, hrow, rfl⟩
    exact ⟨name, v, ⟨_, v, hrow, name, rfl, rfl⟩, rfl⟩

theorem mem_namedRows {rows : List (Value × Value)} {name : String} {v : Value}
    (h : (name, v) ∈ Value.namedRows rows) :
    (Value.text name, v) ∈ rows := by
  obtain ⟨⟨key, u⟩, hrow, heq⟩ := List.mem_filterMap.mp h
  cases key with
  | text s =>
    obtain ⟨rfl, rfl⟩ := Prod.mk.inj (Option.some.inj heq)
    exact hrow
  | _ => cases heq

namespace Value.Reordered

variable {v w : Value}

theorem list_of_forall₂ {vs ws : List Value} (h : List.Forall₂ Reordered vs ws) :
    (Value.list vs).Reordered (.list ws) :=
  .list (forall₂_iff_getElem?.mp h).1 (forall₂_iff_getElem?.mp h).2

theorem tuple_of_forall₂ {vs ws : List Value} (h : List.Forall₂ Reordered vs ws) :
    (Value.tuple vs).Reordered (.tuple ws) :=
  .tuple (forall₂_iff_getElem?.mp h).1 (forall₂_iff_getElem?.mp h).2

theorem symm (h : v.Reordered w) : w.Reordered v := by
  induction h with
  | refl v => exact .refl v
  | list hlength _ ih => exact .list hlength.symm fun i w v hw hv => ih i v w hv hw
  | tuple hlength _ ih => exact .tuple hlength.symm fun i w v hw hv => ih i v w hv hw
  | record hnames _ ih =>
    exact .record (fun name => (hnames name).symm) fun name w v hw hv => ih name v w hv hw
  | table hkeys _ ih =>
    exact .table (fun key => (hkeys key).symm) fun key w v hw hv => ih key v w hv hw

/-- Values that are not the same are sequences or mappings. -/
theorem eq_or_isCompound (h : v.Reordered w) : v = w ∨ v.IsCompound ∧ w.IsCompound := by
  cases h with
  | refl => exact .inl rfl
  | list _ _ => exact .inr ⟨.list _, .list _⟩
  | tuple _ _ => exact .inr ⟨.tuple _, .tuple _⟩
  | record _ _ => exact .inr ⟨.record _, .record _⟩
  | table _ _ => exact .inr ⟨.table _, .table _⟩

theorem isNull_eq (h : v.Reordered w) : v.isNull = w.isNull := by
  rcases h.eq_or_isCompound with rfl | ⟨hv, hw⟩
  · rfl
  · rw [isNull_of_isCompound hv, isNull_of_isCompound hw]

theorem items_cases (h : v.Reordered w) :
    (v.items? = none ∧ w.items? = none) ∨
      ∃ vs ws, v.items? = some vs ∧ w.items? = some ws ∧ List.Forall₂ Reordered vs ws := by
  cases h with
  | refl =>
    cases hitems : v.items? with
    | none => exact .inl ⟨rfl, rfl⟩
    | some vs => exact .inr ⟨vs, vs, rfl, rfl, List.forall₂_same.mpr fun v _ => .refl v⟩
  | list hlength h => exact .inr ⟨_, _, rfl, rfl, forall₂_iff_getElem?.mpr ⟨hlength, h⟩⟩
  | tuple hlength h => exact .inr ⟨_, _, rfl, rfl, forall₂_iff_getElem?.mpr ⟨hlength, h⟩⟩
  | record _ _ => exact .inl ⟨rfl, rfl⟩
  | table _ _ => exact .inl ⟨rfl, rfl⟩

/-- Where the same names have the same values, the values of each name are the same. -/
theorem fieldOf {fs gs : List (String × Value)}
    (hnames : ∀ name, name ∈ Fields.names fs ↔ name ∈ Fields.names gs)
    (h : ∀ name v w, (name, v) ∈ fs → (name, w) ∈ gs → v.Reordered w) (name : String) :
    (Abi.fieldOf fs name).Reordered (Abi.fieldOf gs name) := by
  rw [Abi.fieldOf, Abi.fieldOf]
  cases hfs : Fields.get? fs name with
  | none =>
    have hgs : Fields.get? gs name = none := by
      rw [Fields.get?_eq_none_iff] at hfs ⊢
      exact fun hmem => hfs ((hnames name).mpr hmem)
    rw [hgs]
    exact .refl _
  | some v =>
    cases hgs : Fields.get? gs name with
    | none =>
      rw [Fields.get?_eq_none_iff] at hgs
      have hmem : name ∈ Fields.names fs := List.mem_map.mpr ⟨_, Fields.mem_of_get? hfs, rfl⟩
      exact absurd ((hnames name).mp hmem) hgs
    | some w => exact h name v w (Fields.mem_of_get? hfs) (Fields.mem_of_get? hgs)

theorem named_cases (h : v.Reordered w) :
    (v.named? = none ∧ w.named? = none) ∨
      ∃ fs gs, v.named? = some fs ∧ w.named? = some gs ∧
        ∀ name, (Abi.fieldOf fs name).Reordered (Abi.fieldOf gs name) := by
  cases h with
  | refl =>
    cases hnamed : v.named? with
    | none => exact .inl ⟨rfl, rfl⟩
    | some fs => exact .inr ⟨fs, fs, rfl, rfl, fun name => .refl _⟩
  | list _ _ => exact .inl ⟨rfl, rfl⟩
  | tuple _ _ => exact .inl ⟨rfl, rfl⟩
  | record hnames h => exact .inr ⟨_, _, rfl, rfl, fieldOf hnames h⟩
  | table hkeys h =>
    refine .inr ⟨_, _, rfl, rfl, fieldOf (fun name => ?_) fun name v w hv hw => ?_⟩
    · rw [mem_names_namedRows, mem_names_namedRows]
      exact hkeys _
    · exact h _ v w (mem_namedRows hv) (mem_namedRows hw)

end Value.Reordered

namespace Abi

/-! ### The same for a parameter -/

/-- Two values are the same for a type and the components of its tuple: they are the same up to the
order of entries, or they are arrays of such values, or they are given for a tuple and are the same
for its components, by name in mappings and by place in sequences. -/
inductive SameFor : Layers → List Parameter → Value → Value → Prop where
  /-- Values that are the same up to the order of entries. -/
  | reordered {layers : Layers} {components : List Parameter} {v w : Value} (h : v.Reordered w) :
    SameFor layers components v w
  /-- Sequences for an array, with items that are the same for the type under the suffix. -/
  | items {type : String} {item : Layers} {components : List Parameter} {v w : Value}
    {vs ws : List Value} (hv : v.items? = some vs) (hw : w.items? = some ws)
    (hlength : vs.length = ws.length)
    (h : ∀ (i : Nat) v w, vs[i]? = some v → ws[i]? = some w → SameFor item components v w) :
    SameFor (.array type item) components v w
  /-- Mappings for a tuple: only the values under the names of the components count. -/
  | named {base : String} {components : List Parameter} {v w : Value}
    {fs gs : List (String × Value)} (hbase : startsWith "(" base = true)
    (hv : v.named? = some fs) (hw : w.named? = some gs)
    (h : ∀ c ∈ components,
      SameFor (Layers.ofType c.type) c.components (fieldOf fs c.name) (fieldOf gs c.name)) :
    SameFor (.base base) components v w
  /-- Sequences for a tuple, with the values of its components in order. -/
  | ordered {base : String} {components : List Parameter} {v w : Value} {vs ws : List Value}
    (hbase : startsWith "(" base = true) (hv : v.items? = some vs) (hw : w.items? = some ws)
    (hlength : vs.length = ws.length)
    (h : ∀ (i : Nat) c v w, components[i]? = some c → vs[i]? = some v → ws[i]? = some w →
      SameFor (Layers.ofType c.type) c.components v w) :
    SameFor (.base base) components v w

/-- Two values are the same for a parameter. -/
def Parameter.Same (p : Parameter) : Value → Value → Prop :=
  SameFor (Layers.ofType p.type) p.components

/-- Values are the same for some parameters in order. -/
inductive SameEach : List Parameter → List Value → List Value → Prop where
  /-- No parameter is left. -/
  | nil : SameEach [] [] []
  /-- A parameter and the parameters behind it. -/
  | cons {p : Parameter} {ps : List Parameter} {v w : Value} {vs ws : List Value}
    (h : p.Same v w) (hrest : SameEach ps vs ws) : SameEach (p :: ps) (v :: vs) (w :: ws)

theorem sameEach_of_getElem? {ps : List Parameter} {vs ws : List Value}
    (hvs : vs.length = ps.length) (hws : ws.length = ps.length)
    (h : ∀ (i : Nat) p v w, ps[i]? = some p → vs[i]? = some v → ws[i]? = some w → p.Same v w) :
    SameEach ps vs ws := by
  induction ps generalizing vs ws with
  | nil =>
    rw [List.length_eq_zero_iff.mp hvs, List.length_eq_zero_iff.mp hws]
    exact .nil
  | cons p ps ih =>
    obtain ⟨v, vs, rfl⟩ := List.exists_cons_of_length_eq_add_one hvs
    obtain ⟨w, ws, rfl⟩ := List.exists_cons_of_length_eq_add_one hws
    have hfirst : p.Same v w := h 0 p v w rfl rfl rfl
    refine .cons hfirst (ih (by simpa using hvs) (by simpa using hws) fun i q v' w' hq hv hw => ?_)
    exact h (i + 1) q v' w' hq hv hw

theorem sameEach_map {ps : List Parameter} {f g : Parameter → Value}
    (h : ∀ p ∈ ps, p.Same (f p) (g p)) : SameEach ps (ps.map f) (ps.map g) := by
  induction ps with
  | nil => exact .nil
  | cons p ps ih =>
    obtain ⟨hp, hps⟩ := List.forall_mem_cons.mp h
    exact .cons hp (ih hps)

namespace SameFor

variable {components : List Parameter} {v w : Value}

theorem isNull_eq {layers : Layers} (h : SameFor layers components v w) :
    v.isNull = w.isNull := by
  have hitems : ∀ {u us}, Value.items? u = some us → u.isNull = false := fun hu =>
    Value.isNull_of_isCompound (Value.isCompound_of_items hu)
  have hnamed : ∀ {u fs}, Value.named? u = some fs → u.isNull = false := fun hu =>
    Value.isNull_of_isCompound (Value.isCompound_of_named hu)
  cases h with
  | reordered h => exact h.isNull_eq
  | items hv hw => rw [hitems hv, hitems hw]
  | named _ hv hw => rw [hnamed hv, hnamed hw]
  | ordered _ hv hw => rw [hitems hv, hitems hw]

/-- For an array: neither value is a sequence, or the items are the same one by one. -/
theorem array_cases {type : String} {item : Layers}
    (h : SameFor (.array type item) components v w) :
    (v.items? = none ∧ w.items? = none) ∨
      ∃ vs ws, v.items? = some vs ∧ w.items? = some ws ∧
        List.Forall₂ (SameFor item components) vs ws := by
  cases h with
  | reordered h =>
    rcases h.items_cases with hnone | ⟨vs, ws, hv, hw, hall⟩
    · exact .inl hnone
    · exact .inr ⟨vs, ws, hv, hw, hall.imp fun _ _ => .reordered⟩
  | items hv hw hlength h =>
    exact .inr ⟨_, _, hv, hw, forall₂_iff_getElem?.mpr ⟨hlength, h⟩⟩

/-- For a type that is no array and no tuple only the order of entries may differ. -/
theorem reordered_of_elementary {base : String} (h : SameFor (.base base) components v w)
    (hbase : startsWith "(" base = false) : v.Reordered w := by
  cases h with
  | reordered h => exact h
  | named htuple => rw [hbase] at htuple; cases htuple
  | ordered htuple => rw [hbase] at htuple; cases htuple

/-- For a tuple: both values are mappings that agree on the components, or neither is one; then
both are sequences of one length that agree on the components, or neither is one. -/
theorem tuple_cases {base : String} (h : SameFor (.base base) components v w) :
    (∃ fs gs, v.named? = some fs ∧ w.named? = some gs ∧
      ∀ c ∈ components, c.Same (fieldOf fs c.name) (fieldOf gs c.name)) ∨
    v.named? = none ∧ w.named? = none ∧
      ((v.items? = none ∧ w.items? = none) ∨
        ∃ vs ws, v.items? = some vs ∧ w.items? = some ws ∧ vs.length = ws.length ∧
          ∀ (i : Nat) c v w, components[i]? = some c → vs[i]? = some v → ws[i]? = some w →
            c.Same v w) := by
  cases h with
  | reordered h =>
    rcases h.named_cases with ⟨hv, hw⟩ | ⟨fs, gs, hv, hw, hall⟩
    · -- No mappings, so the components are taken from sequences if at all.
      refine .inr ⟨hv, hw, ?_⟩
      rcases h.items_cases with hnone | ⟨vs, ws, hvs, hws, hall⟩
      · exact .inl hnone
      · obtain ⟨hlength, heach⟩ := forall₂_iff_getElem?.mp hall
        exact .inr ⟨vs, ws, hvs, hws, hlength,
          fun i c v w _ hv hw => .reordered (heach i v w hv hw)⟩
    · exact .inl ⟨fs, gs, hv, hw, fun c _ => .reordered (hall c.name)⟩
  | named _ hv hw h => exact .inl ⟨_, _, hv, hw, h⟩
  | ordered _ hv hw hlength h =>
    exact .inr ⟨Value.named?_of_items hv, Value.named?_of_items hw,
      .inr ⟨_, _, hv, hw, hlength, h⟩⟩

end SameFor

/-! ### Bringing values to types -/

theorem fails_integer (label : String) {v : Value} (h : v.IsCompound) :
    Fails (integer label v) := by
  cases h <;> exact fails_error _

theorem fails_hexBytes (label : String) {v : Value} (h : v.IsCompound) :
    Fails (hexBytes label v) := by
  cases h <;> exact fails_error _

theorem fails_coerceTruth (label : String) {v : Value} (h : v.IsCompound) :
    Fails (coerceTruth label v) := by
  cases h <;> exact fails_error _

theorem fails_coerceAddress (label : String) {v : Value} (h : v.IsCompound) :
    Fails (coerceAddress label v) := by
  cases h <;> exact fails_error _

theorem coerceElementary_agree (type label : String) {v w : Value} (h : v.Reordered w) :
    Agree Value.Reordered (coerceElementary type label v) (coerceElementary type label w) := by
  rcases h.eq_or_isCompound with rfl | ⟨hv, hw⟩
  · exact agree_self .refl _
  · -- A sequence or a mapping is refused by every rule, and left as it is without one.
    rw [coerceElementary, coerceElementary]
    split_ifs
    · exact (Agree.of_fails (R := Eq) (fails_integer _ hv) (fails_integer _ hw)).map
        fun a b hab => hab ▸ .refl _
    · exact .of_fails (fails_coerceTruth _ hv) (fails_coerceTruth _ hw)
    · exact .of_fails (fails_coerceAddress _ hv) (fails_coerceAddress _ hw)
    · exact (Agree.of_fails (R := Eq) (fails_hexBytes _ hv) (fails_hexBytes _ hw)).map
        fun a b hab => hab ▸ .refl _
    · exact .ok h

theorem coerceItems_agree {S : Value → Value → Prop}
    {item : String → Value → Except Failure Value}
    (hitem : ∀ label v w, S v w → Agree Value.Reordered (item label v) (item label w))
    (label : String) (index : Nat) {vs ws : List Value} (h : List.Forall₂ S vs ws) :
    Agree (List.Forall₂ Value.Reordered) (coerceItems item label index vs)
      (coerceItems item label index ws) := by
  -- Along both lists at once; items of one place are converted under one label.
  induction h generalizing index with
  | nil => exact .ok .nil
  | cons hvw _ ih =>
    rw [coerceItems, coerceItems]
    refine (hitem _ _ _ hvw).bind fun a b hab => ?_
    exact (ih (index + 1)).bind fun as bs hall => .ok (.cons hab hall)

/-- What holds of the type under the array suffixes holds of the arrays. -/
theorem Layers.coerce_agree {components : List Parameter}
    {base : String → String → Value → Except Failure Value}
    (hbase : ∀ type label v w, SameFor (.base type) components v w →
      Agree Value.Reordered (base type label v) (base type label w))
    {layers : Layers} (label : String) {v w : Value} (h : SameFor layers components v w) :
    Agree Value.Reordered (layers.coerce base label v) (layers.coerce base label w) := by
  induction layers generalizing label v w with
  | base type => exact hbase type label v w h
  | array type item ih =>
    rw [Layers.coerce, Layers.coerce]
    rcases h.array_cases with ⟨hv, hw⟩ | ⟨vs, ws, hv, hw, hall⟩
    · rw [hv, hw]
      exact .error _ _
    · rw [hv, hw]
      have hitem : ∀ l v w, SameFor item components v w →
          Agree Value.Reordered (item.coerce base l v) (item.coerce base l w) := fun l _ _ => ih l
      exact (coerceItems_agree hitem label 0 hall).map fun _ _ => .list_of_forall₂
  | stray type =>
    -- No value can be brought to a type with a stray bracket.
    have hstray : ∀ u, Fails ((Layers.stray type).coerce base label u) := by
      intro u
      rw [Layers.coerce]
      cases u.items? with
      | none => exact fails_error _
      | some us => exact fails_error _
    exact .of_fails (hstray v) (hstray w)

/-- Of two values that are the same for a tuple the values of the components are the same. -/
theorem componentValues_agree {base : String} {components : List Parameter} (label : String)
    {v w : Value} (h : SameFor (.base base) components v w) :
    Agree (SameEach components) (componentValues components label v)
      (componentValues components label w) := by
  rw [componentValues, componentValues]
  rcases h.tuple_cases with ⟨fs, gs, hv, hw, hall⟩ | ⟨hv, hw, hsequence⟩
  · rw [hv, hw]
    -- The first component without a value is the same one in both mappings.
    have hfind : components.find? (fun c => (fieldOf fs c.name).isNull)
        = components.find? (fun c => (fieldOf gs c.name).isNull) :=
      List.find?_congr fun c hc => (hall c hc).isNull_eq
    simp only [hfind]
    cases components.find? fun c => (fieldOf gs c.name).isNull with
    | some c => exact .error _ _
    | none => exact .ok (sameEach_map hall)
  · rw [hv, hw]
    rcases hsequence with ⟨hvs, hws⟩ | ⟨vs, ws, hvs, hws, hlength, hall⟩
    · rw [hvs, hws]
      exact .error _ _
    · simp only [hvs, hws, ← hlength]
      split_ifs with hfit
      · exact .ok (sameEach_of_getElem? hfit (hlength.symm.trans hfit) hall)
      · exact .error _ _

mutual

/-- Of two values that are the same for a parameter either none can be brought to its type, or both
can and the results differ at most in the order of entries. -/
theorem Parameter.coerce_agree (p : Parameter) (label : String) {v w : Value} (h : p.Same v w) :
    Agree Value.Reordered (p.coerce label v) (p.coerce label w) := by
  match p with
  | ⟨name, type, components⟩ =>
    rw [Parameter.coerce, Parameter.coerce]
    refine Layers.coerce_agree (fun base l v w h => ?_) label h
    split_ifs with hbase
    · -- The components are looked up by name first; what is found is converted in their order.
      have hvalues := componentValues_agree l h
      generalize componentValues components l v = x at hvalues ⊢
      generalize componentValues components l w = y at hvalues ⊢
      cases hvalues with
      | error e e' => exact .error e e'
      | ok hall =>
        exact (coerceComponents_agree components l 0 hall).map fun _ _ => .tuple_of_forall₂
    · exact coerceElementary_agree base l (h.reordered_of_elementary (Bool.eq_false_iff.mpr hbase))

theorem coerceComponents_agree (components : List Parameter) (label : String) (index : Nat)
    {vs ws : List Value} (h : SameEach components vs ws) :
    Agree (List.Forall₂ Value.Reordered) (coerceComponents components label index vs)
      (coerceComponents components label index ws) := by
  match components, h with
  | [], .nil => exact .ok .nil
  | c :: cs, .cons hfirst hrest =>
    rw [coerceComponents, coerceComponents]
    refine (c.coerce_agree _ hfirst).bind fun a b hab => ?_
    exact (coerceComponents_agree cs label (index + 1) hrest).bind fun as bs hall =>
      .ok (.cons hab hall)

end

/-! ### Values that can be encoded -/

/-- Sequences that differ in the order of entries at most are equal if their items are. -/
theorem eq_of_items {v w : Value} {vs : List Value} (h : v.Reordered w)
    (hitems : v.items? = some vs) (heq : ∀ ws, List.Forall₂ Value.Reordered vs ws → vs = ws) :
    v = w := by
  cases h with
  | refl => rfl
  | list hlength h =>
    obtain rfl := Option.some.inj hitems
    rw [heq _ (forall₂_iff_getElem?.mpr ⟨hlength, h⟩)]
  | tuple hlength h =>
    obtain rfl := Option.some.inj hitems
    rw [heq _ (forall₂_iff_getElem?.mpr ⟨hlength, h⟩)]
  | record _ _ => cases hitems
  | table _ _ => cases hitems

theorem eq_of_mapM_encode {item : Codec} {vs ws : List Value} {parts : List (List UInt8)}
    (hitem : ∀ v w bs, v.Reordered w → item.encode v = .ok bs → v = w)
    (h : List.Forall₂ Value.Reordered vs ws)
    (hparts : (vs.mapM fun v => item.encode v) = .ok parts) : vs = ws := by
  have hencoded : ∀ v ∈ vs, ∃ bs, item.encode v = .ok bs := fun v => exists_ok_of_mapM hparts
  clear hparts
  induction h with
  | nil => rfl
  | cons hvw _ ih =>
    obtain ⟨⟨bs, hv⟩, hrest⟩ := List.forall_mem_cons.mp hencoded
    rw [hitem _ _ bs hvw hv, ih hrest]

mutual

/-- A value that can be encoded holds no mapping, so none of its entries can change places. -/
theorem Codec.eq_of_encode (codec : Codec) {v w : Value} {bs : List UInt8} (h : v.Reordered w)
    (hv : codec.encode v = .ok bs) : v = w := by
  match codec with
  | .sizedArray item length =>
    obtain ⟨vs, parts, hitems, hparts, -, -⟩ := encode_sizedArray_eq_ok_iff.mp hv
    exact eq_of_items h hitems fun ws hall =>
      eq_of_mapM_encode (fun _ _ _ => item.eq_of_encode) hall hparts
  | .openArray item =>
    obtain ⟨vs, parts, _, hitems, hparts, -, -, -⟩ := encode_openArray_eq_ok_iff.mp hv
    exact eq_of_items h hitems fun ws hall =>
      eq_of_mapM_encode (fun _ _ _ => item.eq_of_encode) hall hparts
  | .tuple components =>
    obtain ⟨vs, parts, hitems, hlength, hparts, -⟩ := encode_tuple_eq_ok_iff.mp hv
    exact eq_of_items h hitems fun ws hall =>
      eq_of_encodeEach components hlength hall hparts
  | .uint _ | .int _ | .ufixed _ _ | .fixed _ _ | .bool | .address | .fixedBytes _ | .bytes
  | .string =>
    -- These codecs refuse every sequence and every mapping.
    rcases h.eq_or_isCompound with heq | ⟨hcompound, -⟩
    · exact heq
    · cases hcompound <;> cases hv

theorem eq_of_encodeEach (codecs : List Codec) {vs ws : List Value}
    {parts : List (Bool × List UInt8)} (hlength : vs.length = codecs.length)
    (h : List.Forall₂ Value.Reordered vs ws) (hvs : encodeEach codecs vs = .ok parts) :
    vs = ws := by
  match codecs, h with
  | _, .nil => rfl
  | c :: cs, .cons hvw hrest =>
    obtain ⟨bs, rest, hbs, hparts, -⟩ := encodeEach_cons_eq_ok_iff.mp hvs
    rw [c.eq_of_encode hvw hbs, eq_of_encodeEach cs (Nat.succ.inj hlength) hrest hparts]

end

end Abi

end Workflow
