import Workflow.Proofs.Abi.Reordering

/-!
# Arguments go by name

The arguments of a call are looked up by the names of the parameters, and so are the components of
tuples.  `orderFrom_eq_ok_iff` says which values come out, in the order of the declaration, and
`orderFrom_missing_iff` which parameter is named as missing: a parameter without an argument, behind
parameters whose arguments are brought to their types.  For the latter no conversion may raise the
same failure on its own (`Parameter.coerce_namesNoFunction`).

`arguments_by_name` compares two calls of a function with arguments that are the same for its
parameters (`Function.SameArguments`): the entries of mappings may change places, at any depth, and
there may be further ones.
-/

namespace Workflow.Abi

open Outcome

/-! ### The order of the declaration -/

/-- The parameter with an index has an argument, and brought to its type it is `v`. -/
def Parameter.Receives (p : Parameter) (args : List (String × Value)) (index : Nat) (v : Value) :
    Prop :=
  (fieldOf args (p.key index)).isNull = false ∧
    p.coerce (p.key index) (fieldOf args (p.key index)) = .ok v

section Order

variable {name : String} {args : List (String × Value)}

theorem orderFrom_cons_eq_ok_iff {p : Parameter} {ps : List Parameter} {index : Nat}
    {us : List Value} :
    orderFrom name args index (p :: ps) = .ok us ↔
      ∃ v vs, us = v :: vs ∧ p.Receives args index v ∧
        orderFrom name args (index + 1) ps = .ok vs := by
  rw [orderFrom]
  split_ifs with hnull
  · constructor
    · intro h
      cases h
    · rintro ⟨v, vs, -, ⟨hpresent, -⟩, -⟩
      rw [hnull] at hpresent
      cases hpresent
  · rw [bind_eq_ok_iff]
    constructor
    · rintro ⟨v, hv, hrest⟩
      -- The argument is there, has been converted, and the other parameters have their values.
      obtain ⟨vs, hvs, heq⟩ := bind_eq_ok_iff.mp hrest
      exact ⟨v, vs, (Except.ok.inj heq).symm, ⟨Bool.eq_false_iff.mpr hnull, hv⟩, hvs⟩
    · rintro ⟨v, vs, rfl, ⟨-, hv⟩, hvs⟩
      exact ⟨v, hv, bind_eq_ok_iff.mpr ⟨vs, hvs, rfl⟩⟩

/-- The values come in the order of the parameters, each from the argument of its own parameter. -/
theorem orderFrom_eq_ok_iff {ps : List Parameter} {index : Nat} {vs : List Value} :
    orderFrom name args index ps = .ok vs ↔
      vs.length = ps.length ∧ ∀ (i : Nat) p v, ps[i]? = some p → vs[i]? = some v →
        p.Receives args (i + index) v := by
  induction ps generalizing index vs with
  | nil =>
    rw [orderFrom, Except.ok.injEq]
    constructor
    · rintro rfl
      exact ⟨rfl, fun i p v hp => by simp at hp⟩
    · rintro ⟨hlength, -⟩
      exact (List.length_eq_zero_iff.mp hlength).symm
  | cons p ps ih =>
    rw [orderFrom_cons_eq_ok_iff]
    constructor
    · rintro ⟨v, vs, rfl, hfirst, hrest⟩
      obtain ⟨hlength, hall⟩ := ih.mp hrest
      refine ⟨by simp [hlength], fun i q u hq hu => ?_⟩
      -- Behind the first parameter all indices are one higher.
      cases i with
      | zero =>
        obtain rfl := Option.some.inj hq
        obtain rfl := Option.some.inj hu
        rwa [Nat.zero_add]
      | succ i =>
        have hnext := hall i q u hq hu
        rwa [show i + (index + 1) = i + 1 + index by omega] at hnext
    · rintro ⟨hlength, hall⟩
      obtain ⟨v, vs, rfl⟩ := List.exists_cons_of_length_eq_add_one hlength
      have hfirst : p.Receives args index v := by
        have hzero := hall 0 p v rfl rfl
        rwa [Nat.zero_add] at hzero
      refine ⟨v, vs, rfl, hfirst, ih.mpr ⟨by simpa using hlength, fun i q u hq hu => ?_⟩⟩
      have hnext := hall (i + 1) q u hq hu
      rwa [show i + 1 + index = i + (index + 1) by omega] at hnext

end Order

/-! ### What conversions do not raise -/

/-- The failure does not say that an argument of a function is missing. -/
def NamesNoFunction (e : Failure) : Prop :=
  ∀ parameter name, e ≠ .missingArgument parameter (some name)

theorem namesNoFunction_coding (problem : CodingProblem) : NamesNoFunction (.coding problem) := by
  intro parameter name h
  cases h

theorem namesNoFunction_fault (fault : Fault) : NamesNoFunction (.fault fault) := by
  intro parameter name h
  cases h

theorem namesNoFunction_component (parameter : String) :
    NamesNoFunction (.missingArgument parameter none) := by
  intro parameter name h
  cases h

theorem namesNoFunction_showing (v : Value) (problem : CodingProblem) :
    NamesNoFunction (.showing v (.coding problem)) := by
  rw [Failure.showing]
  split_ifs
  · exact namesNoFunction_coding problem
  · exact namesNoFunction_fault _

theorem integer_namesNoFunction (label : String) (v : Value) :
    FailsOnly NamesNoFunction (integer label v) := by
  unfold integer
  split
  · exact .error (namesNoFunction_coding _)
  · exact .ok _
  · split
    · exact .ok _
    · exact .error (namesNoFunction_coding _)
  · split
    · exact .ok _
    · exact .error (namesNoFunction_coding _)
  · exact .error (namesNoFunction_showing _ _)

theorem hexBytes_namesNoFunction (label : String) (v : Value) :
    FailsOnly NamesNoFunction (hexBytes label v) := by
  have htext : FailsOnly NamesNoFunction (hexText label v) := by
    unfold hexText
    split
    · exact .ok _
    · dsimp only
      split_ifs
      · exact .ok _
      · exact .error (namesNoFunction_coding _)
    · exact .error (namesNoFunction_showing _ _)
  refine htext.bind fun s _ => ?_
  rw [bytesOfHex]
  cases Hex.toBytes s with
  | ok bs => exact .ok bs
  | error flaw => exact .error (namesNoFunction_fault _)

theorem coerceElementary_namesNoFunction (type label : String) (v : Value) :
    FailsOnly NamesNoFunction (coerceElementary type label v) := by
  rw [coerceElementary]
  split_ifs
  · exact (integer_namesNoFunction _ v).map _
  · unfold coerceTruth
    dsimp only
    split
    · exact .ok _
    · exact .error (namesNoFunction_showing _ _)
  · unfold coerceAddress
    split
    · split_ifs
      · exact .ok _
      · exact .error (namesNoFunction_coding _)
    · exact .error (namesNoFunction_showing _ _)
  · exact (hexBytes_namesNoFunction _ v).map _
  · exact .ok v

theorem coerceItems_failsOnly {P : Failure → Prop} {item : String → Value → Except Failure Value}
    (hitem : ∀ label v, FailsOnly P (item label v)) (label : String) (index : Nat)
    (vs : List Value) : FailsOnly P (coerceItems item label index vs) := by
  induction vs generalizing index with
  | nil => exact .ok _
  | cons v vs ih =>
    rw [coerceItems]
    exact (hitem _ v).bind fun w _ => (ih (index + 1)).bind fun ws _ => .ok _

theorem Layers.coerce_namesNoFunction {base : String → String → Value → Except Failure Value}
    (hbase : ∀ type label v, FailsOnly NamesNoFunction (base type label v)) (layers : Layers)
    (label : String) (v : Value) : FailsOnly NamesNoFunction (layers.coerce base label v) := by
  induction layers generalizing label v with
  | base type => exact hbase type label v
  | array type item ih =>
    rw [Layers.coerce]
    split
    · exact (coerceItems_failsOnly ih label 0 _).map _
    · exact .error (namesNoFunction_coding _)
  | stray type =>
    rw [Layers.coerce]
    split
    · exact .error (namesNoFunction_fault _)
    · exact .error (namesNoFunction_coding _)

theorem componentValues_namesNoFunction (components : List Parameter) (label : String)
    (v : Value) : FailsOnly NamesNoFunction (componentValues components label v) := by
  rw [componentValues]
  split
  · split
    · exact .error (namesNoFunction_component _)
    · exact .ok _
  · split
    · split_ifs
      · exact .ok _
      · exact .error (namesNoFunction_coding _)
    · exact .error (namesNoFunction_coding _)

mutual

/-- A conversion names components as missing, but no parameter of a function. -/
theorem Parameter.coerce_namesNoFunction (p : Parameter) (label : String) (v : Value) :
    FailsOnly NamesNoFunction (p.coerce label v) := by
  match p with
  | ⟨name, type, components⟩ =>
    rw [Parameter.coerce]
    refine Layers.coerce_namesNoFunction (fun base l w => ?_) _ label v
    split_ifs
    · cases hvalues : componentValues components l w with
      | error e => exact .error (componentValues_namesNoFunction components l w e hvalues)
      | ok vs => exact (coerceComponents_namesNoFunction components l 0 vs).map _
    · exact coerceElementary_namesNoFunction base l w

theorem coerceComponents_namesNoFunction (components : List Parameter) (label : String)
    (index : Nat) (vs : List Value) :
    FailsOnly NamesNoFunction (coerceComponents components label index vs) := by
  match components, vs with
  | [], _ => exact .ok _
  | _ :: _, [] => exact .ok _
  | c :: cs, v :: vs =>
    rw [coerceComponents]
    refine (c.coerce_namesNoFunction _ v).bind fun w _ => ?_
    exact (coerceComponents_namesNoFunction cs label (index + 1) vs).bind fun ws _ => .ok _

end

/-! ### The parameter that is named as missing -/

/-- A parameter that is called `key` has no argument, and all parameters in front of it receive
values. -/
def FirstMissing (args : List (String × Value)) (index : Nat) (ps : List Parameter)
    (key : String) : Prop :=
  ∃ front p back, ps = front ++ p :: back ∧ key = p.key (front.length + index) ∧
    (fieldOf args key).isNull = true ∧
    ∀ (i : Nat) q, front[i]? = some q → ∃ v, q.Receives args (i + index) v

theorem not_firstMissing_nil (args : List (String × Value)) (index : Nat) (key : String) :
    ¬ FirstMissing args index [] key := by
  rintro ⟨front, p, back, hsplit, -⟩
  simp at hsplit

/-- The parameter that is missing first is the first one, if that has no argument, and otherwise it
is among those behind it. -/
theorem firstMissing_cons_iff {args : List (String × Value)} {index : Nat} {p : Parameter}
    {ps : List Parameter} {key : String} :
    FirstMissing args index (p :: ps) key ↔
      (key = p.key index ∧ (fieldOf args (p.key index)).isNull = true) ∨
        (∃ v, p.Receives args index v) ∧ FirstMissing args (index + 1) ps key := by
  constructor
  · rintro ⟨front, q, back, hsplit, hkey, hnull, hfront⟩
    -- Either nothing stands in front of the missing one, or the first parameter does.
    cases front with
    | nil =>
      obtain ⟨rfl, rfl⟩ := List.cons.inj hsplit
      rw [List.length_nil, Nat.zero_add] at hkey
      rw [hkey] at hnull
      exact .inl ⟨hkey, hnull⟩
    | cons p' front =>
      obtain ⟨rfl, rfl⟩ := List.cons.inj hsplit
      have hfirst := hfront 0 p rfl
      rw [Nat.zero_add] at hfirst
      refine .inr ⟨hfirst, front, q, back, rfl, ?_, hnull, fun i r hr => ?_⟩
      · rw [hkey, List.length_cons, Nat.add_right_comm, Nat.add_assoc]
      · obtain ⟨v, hv⟩ := hfront (i + 1) r hr
        rw [Nat.add_right_comm, Nat.add_assoc] at hv
        exact ⟨v, hv⟩
  · rintro (⟨rfl, hnull⟩ | ⟨hfirst, front, q, back, rfl, hkey, hnull, hfront⟩)
    · refine ⟨[], p, ps, rfl, ?_, hnull, fun i r hr => by simp at hr⟩
      rw [List.length_nil, Nat.zero_add]
    · refine ⟨p :: front, q, back, rfl, ?_, hnull, fun i r hr => ?_⟩
      · rw [hkey, List.length_cons, Nat.add_right_comm, Nat.add_assoc]
      · cases i with
        | zero =>
          obtain rfl := Option.some.inj hr
          rwa [Nat.zero_add]
        | succ i =>
          rw [Nat.add_right_comm, Nat.add_assoc]
          exact hfront i r hr

/-- A parameter is named as missing exactly if it is the first one without an argument and those in
front of it receive values. -/
theorem orderFrom_missing_iff {name key : String} {args : List (String × Value)} {index : Nat}
    {ps : List Parameter} :
    orderFrom name args index ps = .error (.missingArgument key (some name)) ↔
      FirstMissing args index ps key := by
  induction ps generalizing index with
  | nil =>
    refine iff_of_false (fun h => ?_) (not_firstMissing_nil args index key)
    cases h
  | cons p ps ih =>
    rw [firstMissing_cons_iff, orderFrom]
    split_ifs with hnull
    · rw [Except.error.injEq, Failure.missingArgument.injEq]
      constructor
      · rintro ⟨rfl, -⟩
        exact .inl ⟨rfl, hnull⟩
      · rintro (⟨rfl, -⟩ | ⟨⟨v, hpresent, -⟩, -⟩)
        · exact ⟨rfl, rfl⟩
        · rw [hnull] at hpresent
          cases hpresent
    · rw [bind_eq_error_iff]
      constructor
      · rintro (hfirst | ⟨v, hv, hrest⟩)
        · -- A conversion that fails does not name a parameter of the function.
          exact absurd rfl (p.coerce_namesNoFunction _ _ _ hfirst key name)
        · rcases bind_eq_error_iff.mp hrest with hmissing | ⟨vs, -, hend⟩
          · exact .inr ⟨⟨v, Bool.eq_false_iff.mpr hnull, hv⟩, ih.mp hmissing⟩
          · cases hend
      · rintro (⟨-, habsent⟩ | ⟨⟨v, -, hv⟩, hrest⟩)
        · exact absurd habsent hnull
        · exact .inr ⟨v, hv, bind_eq_error_iff.mpr (.inl (ih.mpr hrest))⟩

/-! ### Two mappings with the same arguments -/

/-- Two mappings hold the same arguments for some parameters, the first of which has the index
`index`. -/
def SameFrom (fs gs : List (String × Value)) (index : Nat) (ps : List Parameter) : Prop :=
  ∀ (i : Nat) p, ps[i]? = some p →
    p.Same (fieldOf fs (p.key (i + index))) (fieldOf gs (p.key (i + index)))

/-- Two mappings hold the same arguments for a function: what they hold under the key of each
parameter is the same for that parameter.  Further entries do not matter. -/
def Function.SameArguments (f : Function) (fs gs : List (String × Value)) : Prop :=
  SameFrom fs gs 0 f.inputs

/-- Mappings that differ in the order of entries at most hold the same arguments for every
function. -/
theorem Function.sameArguments_of_reordered (f : Function) {fs gs : List (String × Value)}
    (h : (Value.record fs).Reordered (.record gs)) : f.SameArguments fs gs := by
  intro i p _
  rcases h.named_cases with ⟨hnone, -⟩ | ⟨fs', gs', hfs, hgs, hall⟩
  · cases hnone
  · obtain rfl := Option.some.inj hfs
    obtain rfl := Option.some.inj hgs
    exact .reordered (hall _)

section TwoMappings

variable {fs gs : List (String × Value)} {index : Nat} {p : Parameter} {ps : List Parameter}

theorem SameFrom.head (h : SameFrom fs gs index (p :: ps)) :
    p.Same (fieldOf fs (p.key index)) (fieldOf gs (p.key index)) := by
  have hfirst := h 0 p rfl
  rwa [Nat.zero_add] at hfirst

theorem SameFrom.tail (h : SameFrom fs gs index (p :: ps)) : SameFrom fs gs (index + 1) ps := by
  intro i q hq
  have hnext := h (i + 1) q hq
  rwa [Nat.add_right_comm, Nat.add_assoc] at hnext

theorem Parameter.receives_iff
    (h : p.Same (fieldOf fs (p.key index)) (fieldOf gs (p.key index))) :
    (∃ v, p.Receives fs index v) ↔ ∃ w, p.Receives gs index w := by
  have hagree := p.coerce_agree (p.key index) h
  have hok : (∃ v, p.coerce (p.key index) (fieldOf fs (p.key index)) = .ok v)
      ↔ ∃ w, p.coerce (p.key index) (fieldOf gs (p.key index)) = .ok w := by
    rw [← not_fails_iff, ← not_fails_iff, hagree.fails_iff]
  simp only [Parameter.Receives, exists_and_left, hok, h.isNull_eq]

theorem orderFrom_agree (name : String) (h : SameFrom fs gs index ps) :
    Agree (List.Forall₂ Value.Reordered) (orderFrom name fs index ps)
      (orderFrom name gs index ps) := by
  induction ps generalizing index with
  | nil => exact .ok .nil
  | cons p ps ih =>
    rw [orderFrom, orderFrom, h.head.isNull_eq]
    split_ifs
    · exact .error _ _
    · refine (p.coerce_agree _ h.head).bind fun v w hvw => ?_
      exact (ih h.tail).bind fun vs ws hall => .ok (.cons hvw hall)

/-- The same parameter is missing first in both mappings. -/
theorem firstMissing_iff_of_same {key : String} (h : SameFrom fs gs index ps) :
    FirstMissing fs index ps key ↔ FirstMissing gs index ps key := by
  induction ps generalizing index with
  | nil => exact iff_of_false (not_firstMissing_nil _ _ _) (not_firstMissing_nil _ _ _)
  | cons p ps ih =>
    rw [firstMissing_cons_iff, firstMissing_cons_iff, h.head.isNull_eq,
      Parameter.receives_iff h.head, ih h.tail]

end TwoMappings

/-! ### Calls -/

/-- Values that differ in the order of entries at most are equal if they can be encoded. -/
theorem eq_of_encode {types : List String} {vs ws : List Value} {bs : List UInt8}
    (hlength : vs.length = types.length) (h : List.Forall₂ Value.Reordered vs ws)
    (hvs : encode types vs = .ok bs) : vs = ws := by
  rw [encode] at hvs
  split at hvs
  · cases hvs
  · next codecs hcodecs =>
    obtain ⟨parts, hparts, -⟩ := bind_eq_ok_iff.mp (mapError_eq_ok_iff.mp hvs)
    exact eq_of_encodeEach codecs (hlength.trans (length_codecsOfTexts hcodecs).symm) h hparts

/-- Values that differ in the order of entries at most have the same encoding, if any. -/
theorem encode_agree {types : List String} {vs ws : List Value} (hlength : vs.length = types.length)
    (h : List.Forall₂ Value.Reordered vs ws) :
    Agree Eq (encode types vs) (encode types ws) := by
  cases hvs : encode types vs with
  | ok bs =>
    rw [← eq_of_encode hlength h hvs, hvs]
    exact .ok rfl
  | error e =>
    cases hws : encode types ws with
    | error e' => exact .error e e'
    | ok bs =>
      -- The values on the right can be encoded, so they are those on the left.
      have hback : List.Forall₂ Value.Reordered ws vs :=
        List.Forall₂.flip (h.imp fun _ _ hvw => hvw.symm)
      rw [eq_of_encode (h.length_eq.symm.trans hlength) hback hws, hvs] at hws
      cases hws

section Calls

variable {f : Function} {args args' : Value} {fs gs : List (String × Value)}

theorem Function.orderArguments_of_named (h : args.named? = some fs) :
    f.orderArguments args = orderFrom f.name fs 0 f.inputs := by
  rw [Function.orderArguments, h]

theorem length_of_orderFrom {vs : List Value} (h : orderFrom f.name fs 0 f.inputs = .ok vs) :
    vs.length = (f.inputs.map (·.type)).length := by
  obtain ⟨hlength, -⟩ := orderFrom_eq_ok_iff.mp h
  rw [hlength, List.length_map]

theorem Function.encodeCall_agree (hargs : args.named? = some fs) (hargs' : args'.named? = some gs)
    (h : f.SameArguments fs gs) : Agree Eq (f.encodeCall args) (f.encodeCall args') := by
  have hordered := orderFrom_agree f.name h
  rw [Function.encodeCall, Function.encodeCall, Function.orderArguments_of_named hargs,
    Function.orderArguments_of_named hargs']
  cases hvs : orderFrom f.name fs 0 f.inputs with
  | error e =>
    obtain ⟨e', hws⟩ := hordered.fails_iff.mp ⟨e, hvs⟩
    rw [hws]
    exact .error e e'
  | ok vs =>
    obtain ⟨ws, hws, hall⟩ := hordered.exists_of_ok hvs
    -- All values are encoded, as there are as many of them as types.
    have hencoded := encode_agree (length_of_orderFrom hvs) hall
    rw [hws, ok_bind, ok_bind]
    generalize encode (f.inputs.map (·.type)) vs = x at hencoded ⊢
    generalize encode (f.inputs.map (·.type)) ws = y at hencoded ⊢
    cases hencoded with
    | ok heq => exact .ok (congrArg _ heq)
    | error e e' => exact .error _ _

/-- A call names a parameter as missing exactly if ordering its arguments does. -/
theorem Function.encodeCall_missing_iff {key : String} :
    f.encodeCall args = .error (.missingArgument key (some f.name)) ↔
      f.orderArguments args = .error (.missingArgument key (some f.name)) := by
  rw [Function.encodeCall, bind_eq_error_iff]
  constructor
  · rintro (h | ⟨vs, -, h⟩)
    · exact h
    · split at h
      · cases h
      · cases h
  · exact .inl

/-- If a call is encoded, its values are those of every call with the same arguments. -/
theorem Function.orderArguments_eq_of_encodeCall {bs : List UInt8} (hargs : args.named? = some fs)
    (hargs' : args'.named? = some gs) (h : f.SameArguments fs gs)
    (hcall : f.encodeCall args = .ok bs) :
    ∃ vs, f.orderArguments args = .ok vs ∧ f.orderArguments args' = .ok vs := by
  obtain ⟨vs, hvs, hencoded⟩ := bind_eq_ok_iff.mp hcall
  rw [Function.orderArguments_of_named hargs] at hvs ⊢
  rw [Function.orderArguments_of_named hargs']
  obtain ⟨ws, hws, hall⟩ := (orderFrom_agree f.name h).exists_of_ok hvs
  split at hencoded
  · next bs hbs =>
    rw [← eq_of_encode (length_of_orderFrom hvs) hall hbs] at hws
    exact ⟨vs, hvs, hws⟩
  · cases hencoded

variable {fragment selector : Value}

/-- Behind a description and a selector that fit, call data are those of the encoded call. -/
theorem calldata_of_described (hf : Function.ofFragment fragment = .ok f) (args : Value) :
    calldata fragment args selector
      = f.checkSelector selector >>= fun _ =>
        f.encodeCall args >>= fun bs => .ok (Hex.ofBytes bs) := by
  rw [calldata, hf]
  rfl

end Calls

/-- What the calls of a function have in common with arguments that are the same for its
parameters; `fs` is what the first of them holds by name. -/
structure Function.ReadsByName (f : Function) (args args' : Value) (fs : List (String × Value)) :
    Prop where
  /-- Both fail, or both give the same values; a mapping for a type without a rule is left as it is
  and keeps the order of its entries. -/
  ordered : Agree (List.Forall₂ Value.Reordered) (f.orderArguments args) (f.orderArguments args')
  /-- Call data are formed of neither, or the same ones of both. -/
  formed : ∀ fragment selector, Function.ofFragment fragment = .ok f →
    Agree Eq (calldata fragment args selector) (calldata fragment args' selector)
  /-- If call data are formed, the values are equal. -/
  equal : ∀ fragment selector text, Function.ofFragment fragment = .ok f →
    calldata fragment args selector = .ok text →
    ∃ vs, f.orderArguments args = .ok vs ∧ f.orderArguments args' = .ok vs
  /-- The values come in the order of the declaration, each from the argument under the key of its
  parameter. -/
  declared : ∀ vs, f.orderArguments args = .ok vs ↔ vs.length = f.inputs.length ∧
    ∀ (i : Nat) p v, f.inputs[i]? = some p → vs[i]? = some v → p.Receives fs i v
  /-- The parameter that is missing first is named, and no other one. -/
  missing : ∀ key, f.orderArguments args = .error (.missingArgument key (some f.name)) ↔
    FirstMissing fs 0 f.inputs key
  /-- It is the same one for both. -/
  missingAlike : ∀ key, f.orderArguments args = .error (.missingArgument key (some f.name)) ↔
    f.orderArguments args' = .error (.missingArgument key (some f.name))
  /-- It is also named where call data are to be formed. -/
  missingCall : ∀ fragment selector key, Function.ofFragment fragment = .ok f →
    f.checkSelector selector = .ok () →
    (calldata fragment args selector = .error (.missingArgument key (some f.name)) ↔
      FirstMissing fs 0 f.inputs key)

/-- **Arguments go by name.** Two mappings that hold the same arguments for a function, in any order
and with any further entries, both fail or give the same values in the order of the declaration and
the same call data.  The first parameter without an argument, behind parameters whose arguments are
brought to their types, is the one that is named as missing. -/
theorem arguments_by_name (f : Function) {args args' : Value} {fs gs : List (String × Value)}
    (hargs : args.named? = some fs) (hargs' : args'.named? = some gs)
    (hsame : f.SameArguments fs gs) : f.ReadsByName args args' fs := by
  have hmissing : ∀ key, f.orderArguments args = .error (.missingArgument key (some f.name)) ↔
      FirstMissing fs 0 f.inputs key := by
    intro key
    rw [Function.orderArguments_of_named hargs]
    exact orderFrom_missing_iff
  have hcall := f.encodeCall_agree hargs hargs' hsame
  refine ⟨?_, fun fragment selector hf => ?_, fun fragment selector text hf htext => ?_,
    fun vs => ?_, hmissing, fun key => ?_, fun fragment selector key hf hselector => ?_⟩
  · rw [Function.orderArguments_of_named hargs, Function.orderArguments_of_named hargs']
    exact orderFrom_agree f.name hsame
  · rw [calldata_of_described hf, calldata_of_described hf]
    refine (agree_self (R := Eq) (fun _ => rfl) (f.checkSelector selector)).bind fun _ _ _ => ?_
    exact hcall.bind fun bs bs' heq => .ok (congrArg _ heq)
  · rw [calldata_of_described hf] at htext
    obtain ⟨_, -, htext⟩ := bind_eq_ok_iff.mp htext
    obtain ⟨bs, hbs, -⟩ := bind_eq_ok_iff.mp htext
    exact f.orderArguments_eq_of_encodeCall hargs hargs' hsame hbs
  · rw [Function.orderArguments_of_named hargs]
    exact orderFrom_eq_ok_iff
  · rw [hmissing, firstMissing_iff_of_same hsame, Function.orderArguments_of_named hargs',
      orderFrom_missing_iff]
  · rw [calldata_of_described hf, hselector, ok_bind, ← hmissing, ← Function.encodeCall_missing_iff,
      bind_eq_error_iff]
    constructor
    · rintro (h | ⟨bs, -, h⟩)
      · exact h
      · cases h
    · exact .inl

/-- A function with an array of tuples. -/
def payAll : Function :=
  ⟨"payAll", [⟨"legs", "(address,uint256)[]", [⟨"to", "address", []⟩, ⟨"amount", "uint256", []⟩]⟩,
    ⟨"nonce", "uint256", []⟩]⟩

/-- The arguments of two payments. -/
def payments : List (String × Value) :=
  [("legs", .list
      [.record [("to", .text "0x00000000000000000000000000000000000000aa"), ("amount", .int 5)]]),
    ("nonce", .text "7")]

/-- The same arguments in another order and with notes beside them. -/
def notedPayments : List (String × Value) :=
  [("note", .text "rent"), ("nonce", .text "7"),
    ("legs", .list [.record [("amount", .int 5), ("memo", .null),
      ("to", .text "0x00000000000000000000000000000000000000aa")]])]

theorem sameArguments_payments : payAll.SameArguments payments notedPayments := by
  intro i p hp
  match i, hp with
  | 0, hp =>
    obtain rfl := Option.some.inj hp
    have hlayers : Layers.ofType "(address,uint256)[]"
        = .array "(address,uint256)[]" (.base "(address,uint256)") := by rfl
    rw [Parameter.Same, hlayers]
    refine .items rfl rfl rfl fun j v w hv hw => ?_
    match j, hv, hw with
    | 0, hv, hw =>
      obtain rfl := Option.some.inj hv
      obtain rfl := Option.some.inj hw
      refine .named (by decide) rfl rfl fun c hc => ?_
      rcases List.mem_pair.mp hc with rfl | rfl
      · exact .reordered (.refl _)
      · exact .reordered (.refl _)
  | 1, hp =>
    obtain rfl := Option.some.inj hp
    exact .reordered (.refl _)

theorem arguments_by_name_payments :
    payAll.ReadsByName (.record payments) (.record notedPayments) payments ∧
      ∃ vs, payAll.orderArguments (.record payments) = .ok vs ∧
        payAll.orderArguments (.record notedPayments) = .ok vs := by
  refine ⟨arguments_by_name payAll rfl rfl sameArguments_payments, ?_⟩
  exact ⟨_, rfl, rfl⟩

end Workflow.Abi
