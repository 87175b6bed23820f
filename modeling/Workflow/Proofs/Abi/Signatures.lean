import Mathlib
import Workflow.Proofs.Abi.EntryReadings
import Workflow.Proofs.Abi.TypeWords

/-!
# The types in a signature

The type of a parameter that has been read is cut behind its `Parameter.front`, which is the name of
an elementary type or the tuple of the components (`Parameter.Cut`).  So a word stands in the type
where it is the front of the parameter or of a component, or stands behind one of them
(`Parameter.Cut.standsIn_iff`).  Behind the fronts of a declaration there are array suffixes only.

What is encoded are the types read from these texts.  Reading loses nothing, so the signature is
written with just these types (`render_tuple_of_parsed`), and they are their own full forms where no
short base stands in it (`fullAll_eq_self_iff_standsIn`).
-/

namespace Workflow.Abi

open Outcome Text

/-! ### Fronts -/

/-- The name of the elementary type or the tuple that the type of a parameter starts with. -/
def Parameter.front (p : Parameter) : String :=
  if startsWith "(" p.type then tupleType p.components
  else String.ofList (p.type.toList.takeWhile Char.isAlphanum)

/-- What stands behind the front. -/
def Parameter.tail (p : Parameter) : String :=
  String.ofList (p.type.toList.drop p.front.toList.length)

/-- The type is the name of an elementary type or the tuple of the components, with a tail behind it
that has a property, and so are the types of the components. -/
inductive Parameter.Cut (Tail : List Char → Prop) : Parameter → Prop where
  | elementary {name word : String} {tail : List Char} (hword : IsElementary word)
    (hne : word ≠ "") (hends : ∀ c rest, tail = c :: rest → c.isAlphanum = false)
    (htail : Tail tail) : Cut Tail ⟨name, expandAlias word ++ String.ofList tail, []⟩
  | tuple {name : String} {tail : List Char} {components : List Parameter} (htail : Tail tail)
    (hcomponents : ∀ c ∈ components, Parameter.Cut Tail c) :
    Cut Tail ⟨name, tupleType components ++ String.ofList tail, components⟩

theorem expandAlias_ne_empty {word : String} (h : word ≠ "") : expandAlias word ≠ "" := by
  rw [expandAlias]
  split_ifs
  · decide
  · decide
  · decide
  · exact h

section

variable {name word : String} {tail : List Char} {components : List Parameter}

theorem front_elementary (hword : IsElementary word) (hne : word ≠ "")
    (hends : ∀ c rest, tail = c :: rest → c.isAlphanum = false) :
    Parameter.front ⟨name, word ++ String.ofList tail, components⟩ = word := by
  obtain ⟨letter, more, hchars⟩ : ∃ letter more, word.toList = letter :: more :=
    List.exists_cons_of_ne_nil (by simpa using hne)
  have hletter : letter.isAlphanum = true := hword letter (hchars ▸ List.mem_cons_self)
  have hplain : startsWith "(" (word ++ String.ofList tail) = false := by
    have hopen : "(".toList = '(' :: [] := rfl
    have hother : ('(' == letter) = false := by
      rw [beq_eq_false_iff_ne]
      rintro rfl
      exact absurd hletter (by decide)
    rw [startsWith, hopen, String.toList_append, hchars, List.cons_append,
      List.isPrefixOf_cons_cons, hother, Bool.false_and]
  rw [Parameter.front, hplain, if_neg Bool.false_ne_true, String.toList_append,
    String.toList_ofList, List.takeWhile_append_of_pos hword,
    (takeWhile_dropWhile_of_stops hends).1, List.append_nil, String.ofList_toList]

theorem front_tuple :
    Parameter.front ⟨name, tupleType components ++ String.ofList tail, components⟩
      = tupleType components := by
  have hopen : startsWith "(" (tupleType components ++ String.ofList tail) = true := by
    obtain ⟨rest, hrest⟩ := startsWith_iff.mp (startsWith_tupleType components)
    exact startsWith_iff.mpr ⟨rest ++ String.ofList tail, by rw [hrest, String.append_assoc]⟩
  rw [Parameter.front, hopen, if_pos rfl]

theorem tail_of_front {front : String}
    (h : Parameter.front ⟨name, front ++ String.ofList tail, components⟩ = front) :
    Parameter.tail ⟨name, front ++ String.ofList tail, components⟩ = String.ofList tail := by
  rw [Parameter.tail, h, String.toList_append, List.drop_left, String.toList_ofList]

end

/-! ### Words in types -/

section

variable {word : String} (hne : word ≠ "")

include hne

theorem standsIn_tuple (components : List Parameter) (tail : List Char) :
    StandsIn word (tupleType components ++ String.ofList tail) ↔
      (∃ c ∈ components, StandsIn word c.type) ∨ StandsIn word (String.ofList tail) := by
  rw [StandsIn, StandsIn, String.toList_append, String.toList_ofList, toList_tupleType_append,
    mem_runs_group (by simpa using hne)]
  simp [StandsIn]

theorem standsIn_tupleType (components : List Parameter) :
    StandsIn word (tupleType components) ↔ ∃ c ∈ components, StandsIn word c.type := by
  have hnone : tupleType components ++ String.ofList [] = tupleType components := by simp
  have hnil : ¬ StandsIn word (String.ofList []) := by
    rw [StandsIn, String.toList_ofList]
    exact not_mem_runs_nil (by simpa using hne)
  rw [← hnone, standsIn_tuple hne, or_iff_left hnil]

end

theorem tupleType_ne {word : String} (hword : IsElementary word) (components : List Parameter) :
    tupleType components ≠ word := by
  rintro rfl
  cases hword.startsWith_eq.symm.trans (startsWith_tupleType components)

variable {Tail : List Char → Prop} {p : Parameter}

/-- A word stands in the type of a parameter as the front of the parameter or of a component, or
behind one of them. -/
theorem Parameter.Cut.standsIn_iff (h : p.Cut Tail) {word : String} (hword : IsElementary word)
    (hne : word ≠ "") :
    StandsIn word p.type ↔ ∃ q, p.Holds q ∧ (q.front = word ∨ StandsIn word q.tail) := by
  induction h with
  | @elementary name base tail hbase hnonempty hends _ =>
    have hbase := isElementary_expandAlias hbase
    have hfront := @front_elementary name _ tail [] hbase (expandAlias_ne_empty hnonempty) hends
    have htail := tail_of_front hfront
    rw [standsIn_append hne _ hends, standsIn_elementary_iff hbase]
    constructor
    · rintro (h | h)
      · exact ⟨_, .self _, .inl (hfront.trans h)⟩
      · exact ⟨_, .self _, .inr (by rwa [htail])⟩
    · rintro ⟨q, hq, h⟩
      cases hq with
      | self => rwa [hfront, htail] at h
      | component hq => cases hq
  | @tuple name tail components _ _ ih =>
    have hfront := @front_tuple name tail components
    have htail := tail_of_front hfront
    rw [standsIn_tuple hne]
    constructor
    · rintro (⟨c, hc, h⟩ | h)
      · obtain ⟨q, hq, h⟩ := (ih c hc).mp h
        exact ⟨q, .component hc hq, h⟩
      · exact ⟨_, .self _, .inr (by rwa [htail])⟩
    · rintro ⟨q, hq, h⟩
      cases hq with
      | self =>
        rw [hfront, htail] at h
        exact .inr (h.resolve_left (tupleType_ne hword components))
      | component hc hq => exact .inl ⟨_, hc, (ih _ hc).mpr ⟨q, hq, h⟩⟩

theorem Parameter.Cut.of_holds (h : p.Cut Tail) {q : Parameter} (hq : p.Holds q) : q.Cut Tail := by
  induction hq with
  | self => exact h
  | component hc _ ih =>
    cases h with
    | elementary => cases hc
    | tuple _ hcomponents => exact ih (hcomponents _ hc)

theorem Parameter.Cut.property_tail (h : p.Cut Tail) : Tail p.tail.toList := by
  cases h with
  | elementary hword hne hends htail =>
    rwa [tail_of_front (front_elementary (isElementary_expandAlias hword)
      (expandAlias_ne_empty hne) hends), String.toList_ofList]
  | tuple htail => rwa [tail_of_front front_tuple, String.toList_ofList]

/-- A front is no name that is expanded. -/
theorem Parameter.Cut.expandAlias_front (h : p.Cut Tail) : expandAlias p.front = p.front := by
  cases h with
  | elementary hword hne hends =>
    rw [front_elementary (isElementary_expandAlias hword) (expandAlias_ne_empty hne) hends,
      expandAlias_expandAlias]
  | @tuple _ _ components =>
    have hother : ∀ word, IsElementary word → tupleType components ≠ word :=
      fun word hword => tupleType_ne hword components
    rw [front_tuple, expandAlias, if_neg (hother "uint" (isElementary_iff.mpr (by decide))),
      if_neg (hother "int" (isElementary_iff.mpr (by decide))),
      if_neg (hother "byte" (isElementary_iff.mpr (by decide)))]

theorem Parameter.Cut.imp (h : p.Cut Tail) {Tail' : List Char → Prop}
    (himp : ∀ tail, Tail tail → Tail' tail) : p.Cut Tail' := by
  induction h with
  | elementary hword hne hends htail => exact .elementary hword hne hends (himp _ htail)
  | tuple htail _ ih => exact .tuple (himp _ htail) ih

/-! ### Parameters of fragments -/

mutual

theorem Parameter.Reads.cut {flawed : Bool} {p : Parameter} {cs : List Char}
    (h : Parameter.Reads flawed p cs) : p.Cut Suffixes := by
  match h with
  | .elementary hletter hbase hends _ harrays _ _ =>
    exact .elementary (isElementary_of_letter hletter hbase) (by simp)
      (fun c rest h => hends c _ (h ▸ List.cons_append)) harrays
  | .tuple _ _ _ hcomponents harrays _ _ => exact .tuple harrays hcomponents.cut

theorem Parameter.AllRead.cut {flawed : Bool} {ps : List Parameter} {texts : List (List Char)}
    (h : Parameter.AllRead flawed ps texts) : ∀ p ∈ ps, p.Cut Suffixes := by
  match h with
  | .nil => exact fun p hp => absurd hp List.not_mem_nil
  | .cons h hrest => exact List.forall_mem_cons.mpr ⟨h.cut, hrest.cut⟩

end

theorem Function.Reads.cut {flawed : Bool} {f : Function} {cs : List Char} (h : f.Reads flawed cs) :
    ∀ p ∈ f.inputs, p.Cut Suffixes := by
  cases h with
  | intro _ _ _ _ _ hinputs => exact hinputs.cut

mutual

theorem Parameter.EntryOf.cut {v : Value} {p : Parameter} (h : Parameter.EntryOf v p) :
    p.Cut fun _ => True := by
  match h with
  | .elementary _ _ hletter hbase hends _ _ =>
    exact .elementary (isElementary_of_letter hletter hbase) (by simp) hends trivial
  | .tuple _ _ hcomponents _ => exact .tuple trivial hcomponents.cut

theorem Parameter.ListedIn.cut {v : Value} {ps : List Parameter} (h : Parameter.ListedIn v ps) :
    ∀ p ∈ ps, p.Cut fun _ => True := by
  match h with
  | .nothing _ => exact fun p hp => absurd hp List.not_mem_nil
  | .items _ h => exact h.cut

theorem Parameter.AllEntries.cut {vs : List Value} {ps : List Parameter}
    (h : Parameter.AllEntries vs ps) : ∀ p ∈ ps, p.Cut fun _ => True := by
  match h with
  | .nil => exact fun p hp => absurd hp List.not_mem_nil
  | .cons h hrest => exact List.forall_mem_cons.mpr ⟨h.cut, hrest.cut⟩

end

/-! ### Signatures -/

theorem Function.selectorBytes_eq_hash {f : Function}
    (h : ∀ c ∈ f.signature.toList, IsGraphic c) :
    f.selectorBytes = (Keccak.hash (Utf8.encode f.signature)).take 4 := by
  have hsolid : f.signature.toList.filter (· != ' ') = f.signature.toList := by
    refine List.filter_eq_self.mpr fun c hc => bne_iff_ne.mpr ?_
    rintro rfl
    exact absurd (h ' ' hc).1 (by decide)
  rw [Function.selectorBytes, hsolid, String.ofList_toList]

/-- The parameters of a function and the components in them, at any depth. -/
def Function.Has (f : Function) (p : Parameter) : Prop := ∃ q ∈ f.inputs, q.Holds p

theorem isLetters_of_mem_shortBases : ∀ base ∈ shortBases, IsLetters base := by
  have hall : ∀ base ∈ shortBases, base ≠ "" ∧ base.toList.all Char.isAlpha = true := by decide
  intro base hbase
  obtain ⟨hne, hletters⟩ := hall base hbase
  exact ⟨hne, List.all_eq_true.mp hletters⟩

theorem mem_shortBases_of_mem_aliases {name : String} (h : name ∈ aliases) : name ∈ shortBases :=
  List.mem_append_left _ h

section

variable {f : Function} {Tail : List Char → Prop} (hcut : ∀ p ∈ f.inputs, p.Cut Tail)

include hcut

theorem Function.cut_of_has {p : Parameter} (hp : f.Has p) : p.Cut Tail := by
  obtain ⟨q, hq, hp⟩ := hp
  exact (hcut q hq).of_holds hp

/-- An alias stands in the signature as a front that is not expanded, or behind a front. -/
theorem Function.alias_standsIn_iff {name : String} (hname : name ∈ aliases) :
    StandsIn name (tupleType f.inputs) ↔
      ∃ p, f.Has p ∧ (p.front = name ∧ name ∈ ["fixed", "ufixed"] ∨ StandsIn name p.tail) := by
  have hletters := isLetters_of_mem_shortBases name (mem_shortBases_of_mem_aliases hname)
  -- A front with the name is none of the names that are expanded.
  have hfront : ∀ p, f.Has p → p.front = name → name ∈ ["fixed", "ufixed"] := by
    rintro p hp rfl
    have hall : ∀ name ∈ aliases, expandAlias name = name → name ∈ ["fixed", "ufixed"] := by decide
    exact hall _ hname (Function.cut_of_has hcut hp).expandAlias_front
  rw [standsIn_tupleType hletters.1]
  constructor
  · rintro ⟨q, hq, h⟩
    obtain ⟨p, hp, h⟩ := ((hcut q hq).standsIn_iff hletters.isElementary hletters.1).mp h
    exact ⟨p, ⟨q, hq, hp⟩, h.imp_left fun h => ⟨h, hfront p ⟨q, hq, hp⟩ h⟩⟩
  · rintro ⟨p, ⟨q, hq, hp⟩, h⟩
    exact ⟨q, hq, ((hcut q hq).standsIn_iff hletters.isElementary hletters.1).mpr
      ⟨p, hp, h.imp_left And.left⟩⟩

end

theorem Function.WrittenIn.cut {f : Function} {fragment : Value} (h : f.WrittenIn fragment) :
    ∀ p ∈ f.inputs, p.Cut fun _ => True := by
  cases h with
  | declared _ _ hreads => exact fun p hp => (hreads.cut p hp).imp fun _ _ => trivial
  | entered _ _ _ _ _ hinputs => exact hinputs.cut

section

variable {components : List Parameter} {ts : List Ty}
  (hts : List.Forall₂ (fun type t => Ty.parse type = .ok t) (components.map (·.type)) ts)

include hts

/-- The tuple of the types that have been read is written as the tuple of their texts. -/
theorem render_tuple_of_parsed : (Ty.tuple ts []).render = tupleType components := by
  have htexts : renderAll ts = components.map (·.type) := by
    generalize components.map (·.type) = types at hts
    induction hts with
    | nil => rfl
    | cons h _ ih => rw [renderAll, Ty.render_of_parse h, ih]
  rw [Ty.render, htexts, tupleType]
  exact String.append_empty

theorem isLetters_of_parsed :
    ∀ base size, (Ty.tuple ts []).Part base size → IsLetters base := by
  have hall : ∀ t ∈ ts, ∀ base size, t.Part base size → IsLetters base := by
    generalize components.map (·.type) = types at hts
    induction hts with
    | nil => exact fun t ht => absurd ht List.not_mem_nil
    | cons h _ ih => exact List.forall_mem_cons.mpr ⟨fun base size hpart => hpart.isLetters h, ih⟩
  intro base size h
  cases h with
  | component ht hpart => exact hall _ ht base size hpart

/-- The types in a signature are their own full forms where no short base stands in it. -/
theorem fullAll_eq_self_iff_standsIn :
    fullAll ts = ts ↔ ∀ base ∈ shortBases, ¬ StandsIn base (tupleType components) := by
  have hfull : fullAll ts = ts ↔ (Ty.tuple ts []).full = .tuple ts [] := by
    rw [Ty.full, Ty.tuple.injEq, and_iff_left rfl]
  have hstands : ∀ base ∈ shortBases,
      (StandsIn base (tupleType components) ↔ (Ty.tuple ts []).Part base .none) := by
    intro base hbase
    rw [← render_tuple_of_parsed hts]
    exact (Ty.tuple ts []).standsIn_render_iff (isLetters_of_parsed hts)
      (isLetters_of_mem_shortBases base hbase)
  rw [hfull, Ty.full_eq_self_iff]
  exact forall₂_congr fun base hbase => not_congr (hstands base hbase).symm

end

theorem exists_types_of_codecsOfTexts {types : List String} {codecs : List Codec}
    (h : codecsOfTexts types = .ok codecs) :
    ∃ ts, List.Forall₂ (fun type t => Ty.parse type = .ok t) types ts ∧
      List.Forall₂ (fun t codec => Codec.ofTy t.full = .ok codec) ts codecs := by
  have hall := codecsOfTexts_eq_ok_iff.mp h
  clear h
  induction hall with
  | nil => exact ⟨[], .nil, .nil⟩
  | cons h _ ih =>
    obtain ⟨t, ht, hcodec⟩ := Codec.ofText_eq_ok h
    obtain ⟨ts, hts, hcodecs⟩ := ih
    exact ⟨t :: ts, .cons ht hts, .cons hcodec hcodecs⟩

/-- **What is hashed into a selector.** Whatever is read as a function is written in the fragment,
with `uint`, `int` and `byte` expanded where they are the type of a parameter or of a component.  So
an alias stands in the signature for one of two reasons only: it is `fixed` or `ufixed`, which are
not expanded, or it stands behind a type in an interface entry, where anything may.

The selector hashes the very types that are read to encode the arguments, before these are replaced
by their full forms; they are the types that are encoded exactly if no short base stands in the
signature. -/
theorem signature_types {fragment : Value} {f : Function}
    (hf : Function.ofFragment fragment = .ok f) :
    f.WrittenIn fragment ∧
    (∀ name ∈ aliases, StandsIn name (tupleType f.inputs) ↔
      ∃ p, f.Has p ∧ (p.front = name ∧ name ∈ ["fixed", "ufixed"] ∨ StandsIn name p.tail)) ∧
    (∀ s, fragment = .text s → looksLikeJson (trimmed s).toList = false →
      ∀ p, f.Has p → ∀ name ∈ aliases, ¬ StandsIn name p.tail) ∧
    ∀ codecs, codecsOfTexts (f.inputs.map (·.type)) = .ok codecs →
      f.selectorBytes = (Keccak.hash (Utf8.encode f.signature)).take 4 ∧
      ∃ ts, f.signature = f.name ++ (Ty.tuple ts []).render ∧
        List.Forall₂ (fun p t => Ty.parse p.type = .ok t) f.inputs ts ∧
        List.Forall₂ (fun t codec => Codec.ofTy t.full = .ok codec) ts codecs ∧
        (fullAll ts = ts ↔ ∀ base ∈ shortBases, ¬ StandsIn base (tupleType f.inputs)) := by
  have hwritten := writtenIn_of_ofFragment hf
  refine ⟨hwritten, fun name hname => Function.alias_standsIn_iff hwritten.cut hname, ?_, ?_⟩
  · rintro s rfl hform p hp name hname
    rw [Function.ofFragment, hform, if_neg Bool.false_ne_true] at hf
    obtain ⟨flawed, hreads⟩ := exists_reads_of_ofDeclaration hf
    have htail := (Function.cut_of_has hreads.cut hp).property_tail
    rw [← String.ofList_toList (s := p.tail)]
    exact htail.not_standsIn
      (isLetters_of_mem_shortBases name (mem_shortBases_of_mem_aliases hname))
  · intro codecs hcodecs
    obtain ⟨ts, hts, hfull⟩ := exists_types_of_codecsOfTexts hcodecs
    have hsignature : f.signature = f.name ++ (Ty.tuple ts []).render := by
      rw [render_tuple_of_parsed hts, Function.signature]
    have hgraphic : ∀ c ∈ f.signature.toList, IsGraphic c := by
      rw [hsignature, String.toList_append, List.forall_mem_append]
      exact ⟨fun c hc => isGraphic_of_isIdentifierPart
        (isIdentifierPart_of_mem hwritten.isIdentifier_name hc),
        (Ty.tuple ts []).isGraphic_of_mem_render (isLetters_of_parsed hts)⟩
    exact ⟨Function.selectorBytes_eq_hash hgraphic, ts, hsignature,
      List.forall₂_map_left_iff.mp hts, hfull, fullAll_eq_self_iff_standsIn hts⟩

/-- A function that is paid two amounts, by its declaration. -/
def amountsText : String := "function pay(fixed[2] amounts)"

theorem exists_ofFragment_amounts :
    ∃ f, Function.ofFragment (.text amountsText) = .ok f ∧
      f.inputs = [⟨"amounts", "fixed[2]", []⟩] :=
  exists_ok_of_only_input (by decide +kernel)

theorem signature_types_amounts :
    ∃ f, Function.ofFragment (.text amountsText) = .ok f ∧
      (∃ p, f.Has p ∧ p.front = "fixed") ∧
      ∃ t, Ty.parse "fixed[2]" = .ok t ∧ f.signature = f.name ++ (Ty.tuple [t] []).render ∧
        Codec.ofTy t.full = .ok (.sizedArray (.fixed 128 18) 2) ∧ t.full ≠ t := by
  obtain ⟨f, hf, hinputs⟩ := exists_ofFragment_amounts
  obtain ⟨-, haliases, htails, hcodecs⟩ := signature_types hf
  have hstands : StandsIn "fixed" (tupleType f.inputs) := by
    rw [hinputs]
    decide
  obtain ⟨p, hp, ⟨hfront, -⟩ | hbehind⟩ := (haliases "fixed" (by decide)).mp hstands
  · have hcodec : codecsOfTexts (f.inputs.map (·.type)) = .ok [.sizedArray (.fixed 128 18) 2] := by
      rw [hinputs]
      cbv
    obtain ⟨-, ts, hsignature, hts, hall, hfull⟩ := hcodecs _ hcodec
    obtain ⟨t, _, hcodec, hnil, rfl⟩ := List.forall₂_cons_right_iff.mp hall
    obtain rfl := List.forall₂_nil_right_iff.mp hnil
    rw [hinputs] at hts
    obtain ⟨hparse, -⟩ := List.forall₂_cons.mp hts
    refine ⟨f, hf, ⟨p, hp, hfront⟩, t, hparse, hsignature, hcodec, fun heq => ?_⟩
    exact hfull.mp (by rw [fullAll, heq, fullAll]) "fixed" (by decide) hstands
  · exact absurd hbehind (htails amountsText rfl (by decide +kernel) p hp "fixed" (by decide))

/-- What has been read as a function is compared by its signature and the texts of its types. -/
theorem exists_ok_of_signature {x : Except Failure Function} {signature name : String}
    {types : List String} {codecs : List Codec}
    (h : x.toOption.map (fun f => (f.signature, f.inputs.map (·.type))) = some (signature, types))
    (hstands : StandsIn name ("(" ++ ",".intercalate types ++ ")"))
    (hcodecs : codecsOfTexts types = .ok codecs) :
    ∃ f, x = .ok f ∧ f.signature = signature ∧ StandsIn name (tupleType f.inputs) ∧
      codecsOfTexts (f.inputs.map (·.type)) = .ok codecs := by
  cases x with
  | error e => cases h
  | ok f =>
    obtain ⟨rfl, rfl⟩ := Prod.mk.inj (Option.some.inj h)
    exact ⟨f, rfl, rfl, hstands, hcodecs⟩

/-- An entry with a tuple whose components hide a type behind another one. -/
def hidingEntry : Value :=
  .record [("name", .text "f"), ("inputs", .list [.record [("type", .text "tuple"),
    ("components", .list [.record [("type", .text "bool,(uint")],
      .record [("type", .text "bool)")]])]])]

/-- An alias is hashed where the type that it stands for is encoded: one that is not expanded, and
one that stands behind a type in an entry. -/
theorem signature_keeps_aliases :
    (∃ f, Function.ofFragment (.text "function f(fixed x)") = .ok f ∧ f.signature = "f(fixed)" ∧
      StandsIn "fixed" (tupleType f.inputs) ∧
      codecsOfTexts (f.inputs.map (·.type)) = .ok [.fixed 128 18]) ∧
    ∃ f, Function.ofFragment hidingEntry = .ok f ∧ f.signature = "f((bool,(uint,bool)))" ∧
      StandsIn "uint" (tupleType f.inputs) ∧
      codecsOfTexts (f.inputs.map (·.type)) = .ok [.tuple [.bool, .tuple [.uint 256, .bool]]] := by
  constructor
  · exact @exists_ok_of_signature _ _ _ ["fixed"] _ (by decide +kernel) (by decide) (by cbv)
  · exact @exists_ok_of_signature _ _ _ ["(bool,(uint,bool))"] _ (by decide +kernel) (by decide)
      (by cbv)

end Workflow.Abi
