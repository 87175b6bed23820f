import Workflow.Abi.Entry
import Workflow.Proofs.Failures
import Workflow.Proofs.Json.Nesting

/-!
# What can be wrong with the description of a function

A declaration is refused as such or read (`ofDeclaration_failsOnly`).  Interface entries are read
without a look at the kinds of values first, so a parameter list that is no list of entries ends in
a fault: `ListFault` and `EntryFault` say how, along the recursion of the reader.
`DescriptionFault` collects what can be wrong with a description in any form (`ofFragment_forms`).
-/

namespace Workflow.Abi

open Outcome

/-! ### Declarations -/

theorem finishParameter_failsOnly (whole : String) (text : List Char) (base : String)
    (components : List Parameter) (rest : List Char) :
    FailsOnly Failure.IsCoding (finishParameter whole text base components rest) := by
  rw [finishParameter]
  rcases takeArrays rest.length rest with ⟨arrays, left⟩
  dsimp only
  split
  · exact .ok _
  · exact .ok _
  · exact .error (Failure.isCoding_coding _)

theorem splitGroup_failsOnly (whole : String) (cs : List Char) :
    FailsOnly Failure.IsCoding (splitGroup whole cs) := by
  unfold splitGroup
  split
  · split
    · exact .ok _
    · exact .error (Failure.isCoding_coding _)
  · exact .error (Failure.isCoding_coding _)

/-- Parameters of a declaration are refused as such only, one by one or as a list. -/
theorem parse_failsOnly (whole : String) (steps : Nat) :
    (∀ text, FailsOnly Failure.IsCoding (parseParameter whole steps text)) ∧
      ∀ texts, FailsOnly Failure.IsCoding (parseParameters whole steps texts) := by
  have hcoding : ∀ {α : Type} (problem : CodingProblem),
      FailsOnly (α := α) Failure.IsCoding (.error (.coding problem)) :=
    fun problem => .error (Failure.isCoding_coding problem)
  -- The two readers call each other with one step less.
  induction steps with
  | zero =>
    constructor
    · intro text
      rw [parseParameter]
      exact hcoding _
    · intro texts
      rw [parseParameters]
      split_ifs
      · exact .ok _
      · exact hcoding _
  | succ steps ih =>
    constructor
    · intro text
      rw [parseParameter]
      dsimp only
      split_ifs
      · exact hcoding _
      · exact (splitGroup_failsOnly _ _).bind fun _ _ =>
          (ih.2 _).bind fun components _ => finishParameter_failsOnly _ _ _ _ _
      · split
        · exact hcoding _
        · exact finishParameter_failsOnly _ _ _ _ _
    · intro texts
      rw [parseParameters]
      exact .mapM fun text _ => ih.1 text

theorem ofDeclaration_failsOnly (whole : String) :
    FailsOnly Failure.IsCoding (Function.ofDeclaration whole) := by
  rw [Function.ofDeclaration]
  split
  · exact .error (Failure.isCoding_coding _)
  · dsimp only
    split_ifs
    · exact (splitGroup_failsOnly _ _).bind fun _ _ =>
        ((parse_failsOnly _ _).2 _).bind fun inputs _ => .ok _
    · exact .error (Failure.isCoding_coding _)

/-! ### Interface entries -/

mutual

/-- How the entry of a parameter ends in a fault. -/
inductive EntryFault : Value → Fault → Prop where
  /-- It is no entry. -/
  | noEntry {v : Value} (h : v.named? = none) : EntryFault v (.noMember v.kindName "get")
  /-- Its type or its name holds an integer that is too long to be written. -/
  | tooLong {v w : Value} {fields : List (String × Value)} {name : String}
    (hv : v.named? = some fields) (hw : Fields.get? fields name = some w)
    (h : w.isWritable = false) : EntryFault v (.numeral .tooLongToWrite)
  /-- Its components end in a fault. -/
  | components {v : Value} {fields : List (String × Value)} {f : Fault}
    (hv : v.named? = some fields) (h : ListFault (fieldOf fields "components") f) : EntryFault v f

/-- How a parameter list ends in a fault. -/
inductive ListFault : Value → Fault → Prop where
  /-- It is no list, and not nothing either. -/
  | noList {v : Value} {f : Fault} (hitems : v.items? = none) (hv : v.isTruthy = true)
    (hf : f = .notIterable v.kindName ∨ ∃ kind, f = .noMember kind "get") : ListFault v f
  /-- One of its entries ends in a fault. -/
  | entry {v w : Value} {vs : List Value} {f : Fault} (hitems : v.items? = some vs) (hw : w ∈ vs)
    (h : EntryFault w f) : ListFault v f

end

section

variable {v : Value} {fields : List (String × Value)}

theorem entryText_forms (hv : v.named? = some fields) {name : String} {w : Value}
    (hw : Fields.get? fields name = some w) : Forms (EntryFault v) (entryText w) := by
  rw [entryText]
  split_ifs with hwritable
  · exact .ok _
  · exact .error (.fault (.tooLong hv hw (Bool.eq_false_iff.mpr hwritable)))

theorem entryType_forms (hv : v.named? = some fields) :
    Forms (EntryFault v) (entryType fields) := by
  rw [entryType]
  split
  · next w hw => exact entryText_forms hv hw
  · exact .ok _

theorem entryName_forms (hv : v.named? = some fields) :
    Forms (EntryFault v) (entryName fields) := by
  rw [entryName]
  split_ifs with htrue
  · cases hw : Fields.get? fields "name" with
    | none =>
      rw [fieldOf, hw] at htrue
      cases htrue
    | some w =>
      rw [fieldOf, hw]
      exact entryText_forms hv hw
  · exact .ok _

/-- Fields are read as a parameter, or that ends in a fault of the entry that they stand in. -/
theorem ofFields_forms (hv : v.named? = some fields) {components : Except Failure (List Parameter)}
    (hcomponents : Forms (ListFault (fieldOf fields "components")) components) :
    Forms (EntryFault v) (Parameter.ofFields fields components) := by
  rw [Parameter.ofFields]
  refine (entryType_forms hv).bind fun type _ => ?_
  split_ifs
  · refine (hcomponents.imp fun f => .components hv).bind fun components _ => ?_
    exact (entryName_forms hv).bind fun name _ => .ok _
  · split
    · exact Forms.coding _
    · exact (entryName_forms hv).bind fun name _ => .ok _

end

theorem fieldOf_cons (name key : String) (v : Value) (fields : List (String × Value)) :
    fieldOf ((name, v) :: fields) key = if name == key then v else fieldOf fields key := by
  rw [fieldOf, Fields.get?, List.find?_cons]
  cases name == key <;> rfl

theorem fieldOf_namedRows_cons (name : String) (key v : Value) (rows : List (Value × Value)) :
    fieldOf (Value.namedRows ((key, v) :: rows)) name
      = if key.text? == some name then v else fieldOf (Value.namedRows rows) name := by
  cases hkey : key.text? with
  | none => simp [Value.namedRows, hkey]
  | some text => simp [Value.namedRows, hkey, fieldOf_cons]

theorem isTruthy_eq_false_of_no_elements {v : Value} (h : v.elements? = some []) :
    v.isTruthy = false := by
  cases v with
  | text s =>
    have hs : s.toList = [] := by simpa [Value.elements?, Value.characters] using h
    rw [Value.isTruthy, String.toList_eq_nil_iff.mp hs]
    rfl
  | _ => simp_all [Value.elements?, Value.isTruthy]

/-- What is no list holds no parameters if it counts as false, and is at fault otherwise. -/
theorem exists_parametersOf_of_noList {v : Value} (h : v.items? = none) :
    ∃ f, (f = .notIterable v.kindName ∨ ∃ kind, f = .noMember kind "get") ∧
      parametersOf v = if v.isTruthy then .error (.fault f) else .ok [] := by
  have hlist : ∀ vs, v ≠ .list vs := by
    rintro vs rfl
    cases h
  have htuple : ∀ vs, v ≠ .tuple vs := by
    rintro vs rfl
    cases h
  rw [parametersOf.eq_3 v hlist htuple]
  cases helements : v.elements? with
  | none => exact ⟨_, .inl rfl, rfl⟩
  | some elements =>
    cases elements with
    | nil =>
      rw [isTruthy_eq_false_of_no_elements helements]
      exact ⟨_, .inl rfl, rfl⟩
    | cons w ws => exact ⟨_, .inr ⟨w.kindName, rfl⟩, rfl⟩

theorem parametersOf_forms_of_noList {v : Value} (h : v.items? = none) :
    Forms (ListFault v) (parametersOf v) := by
  obtain ⟨f, hf, heq⟩ := exists_parametersOf_of_noList h
  rw [heq]
  split_ifs with htrue
  · exact .error (.fault (.noList h htrue hf))
  · exact .ok _

mutual

theorem ofEntry_forms (v : Value) : Forms (EntryFault v) (Parameter.ofEntry v) := by
  match v with
  | .record fields => exact ofFields_forms rfl (componentsIn_forms fields)
  | .table rows => exact ofFields_forms rfl (componentsInRows_forms rows)
  | .null | .bool _ | .int _ | .float _ | .text _ | .bytes _ | .list _ | .tuple _
  | .struct .. => exact .error (.fault (.noEntry rfl))

theorem componentsIn_forms (fields : List (String × Value)) :
    Forms (ListFault (fieldOf fields "components")) (componentsIn fields) := by
  match fields with
  | [] => exact .ok _
  | (name, v) :: fields =>
    rw [componentsIn, fieldOf_cons]
    split_ifs
    · exact parametersOf_forms v
    · exact componentsIn_forms fields

theorem componentsInRows_forms (rows : List (Value × Value)) :
    Forms (ListFault (fieldOf (Value.namedRows rows) "components")) (componentsInRows rows) := by
  match rows with
  | [] => exact .ok _
  | (key, v) :: rows =>
    rw [componentsInRows, fieldOf_namedRows_cons]
    split_ifs
    · exact parametersOf_forms v
    · exact componentsInRows_forms rows

theorem parametersOf_forms (v : Value) : Forms (ListFault v) (parametersOf v) := by
  match v with
  | .list vs =>
    rw [parametersOf]
    refine (parametersOfItems_forms vs).imp ?_
    rintro f ⟨w, hw, h⟩
    exact .entry rfl hw h
  | .tuple vs =>
    rw [parametersOf]
    refine (parametersOfItems_forms vs).imp ?_
    rintro f ⟨w, hw, h⟩
    exact .entry rfl hw h
  | .null | .bool _ | .int _ | .float _ | .text _ | .bytes _ | .record _ | .table _
  | .struct .. => exact parametersOf_forms_of_noList rfl

theorem parametersOfItems_forms (vs : List Value) :
    Forms (fun f => ∃ w ∈ vs, EntryFault w f) (parametersOfItems vs) := by
  match vs with
  | [] => exact .ok _
  | v :: vs =>
    rw [parametersOfItems]
    have hfirst : Forms (fun f => ∃ w ∈ v :: vs, EntryFault w f) (Parameter.ofEntry v) :=
      .of_mem List.mem_cons_self (ofEntry_forms v)
    have hrest := (parametersOfItems_forms vs).of_tail (a := v)
    exact hfirst.bind fun p _ => hrest.bind fun ps _ => .ok _

end

/-! ### Descriptions in any form -/

/-- What describes a function: the value itself, or the one that it holds as a JSON text. -/
inductive Describes (fragment : Value) : Value → Prop where
  | itself (h : fragment.text? = none) : Describes fragment fragment
  | json {s : String} {v : Value} (h : fragment = .text s)
    (hv : Json.decodeText (trimmed s) = .ok v) : Describes fragment v

/-- The entry of a function: the value itself, or the only one in a list. -/
inductive HasEntry : Value → Value → Prop where
  | itself {v : Value} (h : ∀ vs, v ≠ .list vs) : HasEntry v v
  | only {vs : List Value} {entry : Value} (h : vs.filter isFunctionEntry = [entry]) :
    HasEntry (.list vs) entry

/-- How a description ends in a fault. -/
inductive DescriptionFault (fragment : Value) : Fault → Prop where
  /-- Its JSON text stops the reader itself. -/
  | reader {s : String} {flaw : Utf8.Flaw} (h : fragment = .text s)
    (he : Json.decodeText (trimmed s) = .error (.undecodable flaw)) :
    DescriptionFault fragment (.json (.undecodable flaw))
  /-- It describes no function and holds an integer that is too long to be written. -/
  | tooLong {v : Value} (h : Describes fragment v) (hv : v.isWritable = false) :
    DescriptionFault fragment (.numeral .tooLongToWrite)
  /-- The parameters in its entry end in a fault. -/
  | parameters {v entry : Value} {fields : List (String × Value)} {f : Fault}
    (h : Describes fragment v) (hv : HasEntry v entry) (hfields : entry.named? = some fields)
    (hf : ListFault (fieldOf fields "inputs") f) : DescriptionFault fragment f

theorem areWritable_eq_false_of_mem {vs : List Value} {v : Value} (hv : v ∈ vs)
    (h : v.isWritable = false) : Value.areWritable vs = false := by
  induction vs with
  | nil => cases hv
  | cons w ws ih =>
    rw [Value.areWritable]
    rcases List.mem_cons.mp hv with rfl | hv
    · rw [h, Bool.false_and]
    · rw [ih hv, Bool.and_false]

/-- What cannot be written with the entry cannot be written with the value that it stands in. -/
theorem HasEntry.isWritable_eq_false {v entry : Value} (h : HasEntry v entry)
    (hentry : entry.isWritable = false) : v.isWritable = false := by
  cases h with
  | itself => exact hentry
  | @only vs entry h =>
    have hmem : entry ∈ vs.filter isFunctionEntry := by
      rw [h]
      exact List.mem_singleton_self entry
    rw [Value.isWritable]
    exact areWritable_eq_false_of_mem (List.mem_filter.mp hmem).1 hentry

theorem ofValue_of_noList {v : Value} (h : ∀ vs, v ≠ .list vs) :
    Function.ofValue v = Function.ofEntry v := by
  cases v with
  | list vs => exact absurd rfl (h vs)
  | _ => rfl

variable {fragment : Value}

theorem ofEntry_forms_of_hasEntry {v entry : Value} (h : Describes fragment v)
    (hv : HasEntry v entry) : Forms (DescriptionFault fragment) (Function.ofEntry entry) := by
  have hshown : ∀ problem : CodingProblem, Forms (α := Function) (DescriptionFault fragment)
      (.error (.showing entry (.coding problem))) := fun problem =>
    .error (Failure.foreseen_showing (Failure.isRefusal_coding _) fun hentry =>
      .tooLong h (hv.isWritable_eq_false hentry))
  rw [Function.ofEntry]
  split
  · exact hshown _
  · next fields hfields =>
    split
    · split_ifs
      · have hinputs := (parametersOf_forms (fieldOf fields "inputs")).imp fun f hf =>
          DescriptionFault.parameters h hv hfields hf
        exact hinputs.bind fun inputs _ => .ok _
      · exact hshown _
    · exact hshown _

theorem ofValue_forms {v : Value} (h : Describes fragment v) :
    Forms (DescriptionFault fragment) (Function.ofValue v) := by
  by_cases hlist : ∃ vs, v = .list vs
  · obtain ⟨vs, rfl⟩ := hlist
    rw [Function.ofValue]
    split
    · next entry hentries => exact ofEntry_forms_of_hasEntry h (.only hentries)
    · exact .coding _
  · rw [not_exists] at hlist
    rw [ofValue_of_noList hlist]
    exact ofEntry_forms_of_hasEntry h (.itself hlist)

/-- Whatever describes a function, reading it fails by the rules or in one of these faults. -/
theorem ofFragment_forms (fragment : Value) :
    Forms (DescriptionFault fragment) (Function.ofFragment fragment) := by
  cases fragment with
  | text s =>
    rw [Function.ofFragment]
    split_ifs
    · cases hv : Json.decodeText (trimmed s) with
      | ok v => exact ofValue_forms (.json rfl hv)
      | error e =>
        show Forms _ (.error (fragmentFailure e))
        rw [fragmentFailure]
        split_ifs with hin
        · exact .coding _
        · obtain ⟨flaw, rfl⟩ := Json.exists_undecodable hv (Bool.eq_false_iff.mpr hin)
          exact .error (.fault (.reader rfl hv))
    · exact .of_rules ((ofDeclaration_failsOnly _).mono fun _ => Failure.IsCoding.isRefusal)
  | _ => exact ofValue_forms (.itself rfl)

end Workflow.Abi
