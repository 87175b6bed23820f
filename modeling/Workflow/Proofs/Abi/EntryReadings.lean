import Workflow.Proofs.Abi.Conversions
import Workflow.Proofs.Abi.Readings

/-!
# What the reader of interface entries accepts

`Parameter.EntryOf` relates an entry to the parameter in it: the type is the name of an elementary
type or the word for a tuple, and anything may follow.  The reader accepts an entry as a parameter
exactly if they are so related (`Parameter.ofEntry_eq_ok_iff`).

`Function.WrittenIn` puts the readings of declarations and of entries together: whatever is read as
a function is one of these (`writtenIn_of_ofFragment`).
-/

namespace Workflow.Abi

open Outcome

mutual

/-- The entries of a parameter. -/
inductive Parameter.EntryOf : Value → Parameter → Prop where
  /-- The name of an elementary type goes as far as there are letters and digits. -/
  | elementary {v : Value} {fields : List (String × Value)} {letter : Char}
    {base tail : List Char} {name : String} (hv : v.named? = some fields)
    (htype : entryType fields = .ok (String.ofList (letter :: base ++ tail)))
    (hletter : letter.isAlpha = true) (hbase : ∀ c ∈ base, c.isAlphanum = true)
    (hends : ∀ c rest, tail = c :: rest → c.isAlphanum = false)
    (hplain : startsWith tupleWord (String.ofList (letter :: base ++ tail)) = false)
    (hname : entryName fields = .ok name) :
    EntryOf v ⟨name, expandAlias (String.ofList (letter :: base)) ++ String.ofList tail, []⟩
  | tuple {v : Value} {fields : List (String × Value)} {tail : List Char}
    {components : List Parameter} {name : String} (hv : v.named? = some fields)
    (htype : entryType fields = .ok (tupleWord ++ String.ofList tail))
    (hcomponents : Parameter.ListedIn (fieldOf fields "components") components)
    (hname : entryName fields = .ok name) :
    EntryOf v ⟨name, tupleType components ++ String.ofList tail, components⟩

/-- The lists of entries of parameters; a value that counts as false lists none. -/
inductive Parameter.ListedIn : Value → List Parameter → Prop where
  | nothing {v : Value} (hv : v.isTruthy = false) : ListedIn v []
  | items {v : Value} {vs : List Value} {ps : List Parameter} (hv : v.items? = some vs)
    (h : Parameter.AllEntries vs ps) : ListedIn v ps

/-- The entries of some parameters, one for each of them. -/
inductive Parameter.AllEntries : List Value → List Parameter → Prop where
  | nil : AllEntries [] []
  | cons {v : Value} {vs : List Value} {p : Parameter} {ps : List Parameter}
    (h : Parameter.EntryOf v p) (hrest : Parameter.AllEntries vs ps) :
    AllEntries (v :: vs) (p :: ps)

end

/-! ### What is accepted is an entry -/

theorem drop_tupleWord (s : String) :
    String.ofList ((tupleWord ++ s).toList.drop tupleWord.length) = s := by
  have hlength : tupleWord.length = tupleWord.toList.length := String.length_toList.symm
  rw [String.toList_append, hlength, List.drop_left, String.ofList_toList]

theorem exists_of_startsWith_tupleWord {type : String} (h : startsWith tupleWord type = true) :
    ∃ tail, type = tupleWord ++ String.ofList tail ∧ type.toList.drop tupleWord.length = tail := by
  obtain ⟨rest, rfl⟩ := startsWith_iff.mp h
  refine ⟨rest.toList, by rw [String.ofList_toList], ?_⟩
  rw [← String.toList_inj.mpr (drop_tupleWord rest), String.toList_ofList]

theorem listedIn_of_noList {v : Value} (hv : v.items? = none) {ps : List Parameter}
    (h : parametersOf v = .ok ps) : Parameter.ListedIn v ps := by
  obtain ⟨f, -, heq⟩ := exists_parametersOf_of_noList hv
  rw [heq] at h
  split_ifs at h with htrue
  obtain rfl := Except.ok.inj h
  exact .nothing (Bool.eq_false_iff.mpr htrue)

/-- Fields that are read as a parameter make the value that they stand in its entry. -/
theorem entryOf_of_ofFields {v : Value} {fields : List (String × Value)} {p : Parameter}
    (hv : v.named? = some fields) {components : Except Failure (List Parameter)}
    (hcomponents : ∀ ps, components = .ok ps →
      Parameter.ListedIn (fieldOf fields "components") ps)
    (h : Parameter.ofFields fields components = .ok p) : Parameter.EntryOf v p := by
  rw [Parameter.ofFields] at h
  obtain ⟨type, htype, h⟩ := bind_eq_ok_iff.mp h
  split_ifs at h with htuple
  · obtain ⟨ps, hps, h⟩ := bind_eq_ok_iff.mp h
    obtain ⟨name, hname, h⟩ := bind_eq_ok_iff.mp h
    obtain rfl := Except.ok.inj h
    obtain ⟨tail, rfl, hdrop⟩ := exists_of_startsWith_tupleWord htuple
    rw [hdrop]
    exact .tuple hv htype (hcomponents ps hps) hname
  · split at h
    · cases h
    · next word tail htake =>
      obtain ⟨name, hname, h⟩ := bind_eq_ok_iff.mp h
      obtain rfl := Except.ok.inj h
      obtain ⟨letter, base, rfl, hcs, hletter, hbase, hends⟩ :=
        takeElementary_eq_some_iff.mp htake
      rw [← String.ofList_toList (s := type), hcs] at htype htuple
      exact .elementary hv htype hletter hbase hends (Bool.eq_false_iff.mpr htuple) hname

mutual

theorem Parameter.entryOf_of_ofEntry (v : Value) {p : Parameter}
    (h : Parameter.ofEntry v = .ok p) : Parameter.EntryOf v p := by
  match v with
  | .record fields =>
    exact entryOf_of_ofFields rfl (fun ps hps => listedIn_of_componentsIn fields hps) h
  | .table rows =>
    exact entryOf_of_ofFields rfl (fun ps hps => listedIn_of_componentsInRows rows hps) h
  | .null | .bool _ | .int _ | .float _ | .text _ | .bytes _ | .list _ | .tuple _
  | .struct .. => cases h

theorem listedIn_of_componentsIn (fields : List (String × Value)) {ps : List Parameter}
    (h : componentsIn fields = .ok ps) : Parameter.ListedIn (fieldOf fields "components") ps := by
  match fields with
  | [] =>
    obtain rfl := Except.ok.inj h
    exact .nothing rfl
  | (name, v) :: fields =>
    rw [componentsIn] at h
    rw [fieldOf_cons]
    split_ifs at h ⊢
    · exact listedIn_of_parametersOf v h
    · exact listedIn_of_componentsIn fields h

theorem listedIn_of_componentsInRows (rows : List (Value × Value)) {ps : List Parameter}
    (h : componentsInRows rows = .ok ps) :
    Parameter.ListedIn (fieldOf (Value.namedRows rows) "components") ps := by
  match rows with
  | [] =>
    obtain rfl := Except.ok.inj h
    exact .nothing rfl
  | (key, v) :: rows =>
    rw [componentsInRows] at h
    rw [fieldOf_namedRows_cons]
    split_ifs at h ⊢
    · exact listedIn_of_parametersOf v h
    · exact listedIn_of_componentsInRows rows h

theorem listedIn_of_parametersOf (v : Value) {ps : List Parameter} (h : parametersOf v = .ok ps) :
    Parameter.ListedIn v ps := by
  match v with
  | .list vs => exact .items rfl (allEntries_of_parametersOfItems vs h)
  | .tuple vs => exact .items rfl (allEntries_of_parametersOfItems vs h)
  | .null | .bool _ | .int _ | .float _ | .text _ | .bytes _ | .record _ | .table _
  | .struct .. => exact listedIn_of_noList rfl h

theorem allEntries_of_parametersOfItems (vs : List Value) {ps : List Parameter}
    (h : parametersOfItems vs = .ok ps) : Parameter.AllEntries vs ps := by
  match vs with
  | [] =>
    obtain rfl := Except.ok.inj h
    exact .nil
  | v :: vs =>
    rw [parametersOfItems] at h
    obtain ⟨p, hp, h⟩ := bind_eq_ok_iff.mp h
    obtain ⟨ps, hps, h⟩ := bind_eq_ok_iff.mp h
    obtain rfl := Except.ok.inj h
    exact .cons (Parameter.entryOf_of_ofEntry v hp) (allEntries_of_parametersOfItems vs hps)

end

/-! ### Entries are accepted -/

theorem componentsIn_eq (fields : List (String × Value)) :
    componentsIn fields = parametersOf (fieldOf fields "components") := by
  induction fields with
  | nil => rfl
  | cons field fields ih =>
    obtain ⟨name, v⟩ := field
    rw [componentsIn, fieldOf_cons, ih]
    split_ifs <;> rfl

theorem componentsInRows_eq (rows : List (Value × Value)) :
    componentsInRows rows = parametersOf (fieldOf (Value.namedRows rows) "components") := by
  induction rows with
  | nil => rfl
  | cons row rows ih =>
    obtain ⟨key, v⟩ := row
    rw [componentsInRows, fieldOf_namedRows_cons, ih]
    split_ifs <;> rfl

/-- The entry of a parameter is read by its fields. -/
theorem ofEntry_of_named {v : Value} {fields : List (String × Value)}
    (h : v.named? = some fields) :
    Parameter.ofEntry v
      = Parameter.ofFields fields (parametersOf (fieldOf fields "components")) := by
  cases v with
  | record fs =>
    obtain rfl := Option.some.inj h
    rw [Parameter.ofEntry, componentsIn_eq]
  | table rows =>
    obtain rfl := Option.some.inj h
    rw [Parameter.ofEntry, componentsInRows_eq]
  | _ => cases h

theorem parametersOf_of_items {v : Value} {vs : List Value} (hv : v.items? = some vs) :
    parametersOf v = parametersOfItems vs := by
  cases v <;> cases hv <;> rfl

theorem parametersOf_of_falsy {v : Value} (hv : v.isTruthy = false) : parametersOf v = .ok [] := by
  cases hitems : v.items? with
  | none =>
    obtain ⟨f, -, heq⟩ := exists_parametersOf_of_noList hitems
    rw [heq, hv]
    rfl
  | some vs =>
    have hnil : vs = [] := by
      cases v <;> cases hitems <;> simpa [Value.isTruthy] using hv
    rw [parametersOf_of_items hitems, hnil]
    rfl

mutual

theorem Parameter.EntryOf.ofEntry_eq {v : Value} {p : Parameter} (h : Parameter.EntryOf v p) :
    Parameter.ofEntry v = .ok p := by
  match h with
  | .elementary hv htype hletter hbase hends hplain hname =>
    have htake := takeElementary_eq_some_iff.mpr ⟨_, _, rfl, rfl, hletter, hbase, hends⟩
    rw [ofEntry_of_named hv, Parameter.ofFields]
    refine bind_eq_ok_iff.mpr ⟨_, htype, ?_⟩
    rw [hplain, if_neg Bool.false_ne_true, String.toList_ofList, htake]
    exact bind_eq_ok_iff.mpr ⟨_, hname, rfl⟩
  | .tuple hv htype hcomponents hname =>
    rw [ofEntry_of_named hv, Parameter.ofFields]
    refine bind_eq_ok_iff.mpr ⟨_, htype, ?_⟩
    rw [if_pos (startsWith_iff.mpr ⟨_, rfl⟩)]
    refine bind_eq_ok_iff.mpr ⟨_, hcomponents.parametersOf_eq, ?_⟩
    refine bind_eq_ok_iff.mpr ⟨_, hname, ?_⟩
    rw [drop_tupleWord]
    rfl

theorem Parameter.ListedIn.parametersOf_eq {v : Value} {ps : List Parameter}
    (h : Parameter.ListedIn v ps) : parametersOf v = .ok ps := by
  match h with
  | .nothing hv => exact parametersOf_of_falsy hv
  | .items hv h => rw [parametersOf_of_items hv, h.parametersOfItems_eq]

theorem Parameter.AllEntries.parametersOfItems_eq {vs : List Value} {ps : List Parameter}
    (h : Parameter.AllEntries vs ps) : parametersOfItems vs = .ok ps := by
  match h with
  | .nil => rfl
  | .cons h hrest =>
    rw [parametersOfItems, h.ofEntry_eq, hrest.parametersOfItems_eq]
    rfl

end

/-- The reader accepts exactly the entries of parameters. -/
theorem Parameter.ofEntry_eq_ok_iff {v : Value} {p : Parameter} :
    Parameter.ofEntry v = .ok p ↔ Parameter.EntryOf v p :=
  ⟨Parameter.entryOf_of_ofEntry v, Parameter.EntryOf.ofEntry_eq⟩

/-! ### Functions -/

/-- The readings of a fragment as a function. -/
inductive Function.WrittenIn (f : Function) (fragment : Value) : Prop where
  /-- A text that does not look like JSON is a declaration. -/
  | declared {s : String} {flawed : Bool} (h : fragment = .text s)
    (hform : looksLikeJson (trimmed s).toList = false) (hreads : f.Reads flawed (trimmed s).toList)
  /-- Otherwise there is an entry with a name and a list of parameters. -/
  | entered {v entry : Value} {fields : List (String × Value)} (h : Describes fragment v)
    (hv : HasEntry v entry) (hfields : entry.named? = some fields)
    (hname : fieldOf fields "name" = .text f.name)
    (hidentifier : isIdentifier f.name.toList = true)
    (hinputs : Parameter.ListedIn (fieldOf fields "inputs") f.inputs)

theorem Function.Reads.isIdentifier_name {flawed : Bool} {f : Function} {cs : List Char}
    (h : f.Reads flawed cs) : isIdentifier f.name.toList = true := by
  cases h with
  | intro _ hname => exact hname

theorem Function.WrittenIn.isIdentifier_name {f : Function} {fragment : Value}
    (h : f.WrittenIn fragment) : isIdentifier f.name.toList = true := by
  cases h with
  | declared _ _ hreads => exact hreads.isIdentifier_name
  | entered _ _ _ _ hidentifier => exact hidentifier

variable {fragment : Value} {f : Function}

theorem writtenIn_of_ofEntry {v entry : Value} (hdescribes : Describes fragment v)
    (hentry : HasEntry v entry) (h : Function.ofEntry entry = .ok f) : f.WrittenIn fragment := by
  rw [Function.ofEntry] at h
  split at h
  · cases h
  · next fields hfields =>
    split at h
    · next name hname =>
      split_ifs at h with hidentifier
      obtain ⟨inputs, hinputs, h⟩ := bind_eq_ok_iff.mp h
      obtain rfl := Except.ok.inj h
      exact .entered hdescribes hentry hfields hname hidentifier
        (listedIn_of_parametersOf _ hinputs)
    · cases h

theorem writtenIn_of_ofValue {v : Value} (hdescribes : Describes fragment v)
    (h : Function.ofValue v = .ok f) : f.WrittenIn fragment := by
  by_cases hlist : ∃ vs, v = .list vs
  · obtain ⟨vs, rfl⟩ := hlist
    rw [Function.ofValue] at h
    split at h
    · next entry hentries => exact writtenIn_of_ofEntry hdescribes (.only hentries) h
    · cases h
  · rw [not_exists] at hlist
    rw [ofValue_of_noList hlist] at h
    exact writtenIn_of_ofEntry hdescribes (.itself hlist) h

/-- Whatever is read as a function is a reading of the fragment as this function. -/
theorem writtenIn_of_ofFragment (h : Function.ofFragment fragment = .ok f) :
    f.WrittenIn fragment := by
  cases fragment with
  | text s =>
    rw [Function.ofFragment] at h
    split_ifs at h with hform
    · split at h
      · next v hv => exact writtenIn_of_ofValue (.json rfl hv) h
      · cases h
    · obtain ⟨flawed, hreads⟩ := exists_reads_of_ofDeclaration h
      exact .declared rfl (Bool.eq_false_iff.mpr hform) hreads
  | _ => exact writtenIn_of_ofValue (.itself rfl) h

end Workflow.Abi
