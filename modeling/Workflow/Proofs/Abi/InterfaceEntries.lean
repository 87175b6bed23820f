import Workflow.Proofs.Abi.Declarations
import Workflow.Proofs.Abi.EntryReadings

/-!
# Interface entries of functions

`Described.Entered` relates the description of a parameter to its entries in a JSON interface, and
`Description.EnteredIn` that of a function: fields may stand in any order and among others, and a
parameter without a label may have an empty name, no name or nothing for a name.  Such an entry
holds the parameter that is described (`Described.Entered.entryOf`), so every entry is read as the
function that is described (`ofEntry_of_enteredIn`), also where it is the only one of a function in
a list of entries (`ofValue_of_isOnlyFunction`).
-/

namespace Workflow.Abi

open Text

/-! ### Entries -/

/-- How an entry names a parameter. -/
def Label.EnteredIn (l : Label) (fields : List (String × Value)) : Prop :=
  Fields.get? fields "name" = some (.text l.text) ∨
    l.text = "" ∧ (Fields.get? fields "name" = none ∨ Fields.get? fields "name" = some .null)

mutual

/-- The entries of a parameter. -/
inductive Described.Entered : Described → Value → Prop where
  | elementary {type : ElementaryType} {arrays : List Dimension} {label : Label} {v : Value}
    {fields : List (String × Value)} (hv : v.named? = some fields)
    (htype : Fields.get? fields "type" = some (.text (type.text ++ renderDims arrays)))
    (hlabel : label.EnteredIn fields) : Entered (.elementary type arrays label) v
  | tuple {components : List Described} {arrays : List Dimension} {label : Label} {v : Value}
    {fields : List (String × Value)} {vs : List Value} (hv : v.named? = some fields)
    (htype : Fields.get? fields "type" = some (.text (tupleWord ++ renderDims arrays)))
    (hcomponents : Fields.get? fields "components" = some (.list vs))
    (h : Described.AllEntered components vs) (hlabel : label.EnteredIn fields) :
    Entered (.tuple components arrays label) v

/-- The entries of parameters, one for each of them. -/
inductive Described.AllEntered : List Described → List Value → Prop where
  | nil : AllEntered [] []
  | cons {p : Described} {ps : List Described} {v : Value} {vs : List Value}
    (h : Described.Entered p v) (hrest : Described.AllEntered ps vs) :
    AllEntered (p :: ps) (v :: vs)

end

/-- The entries of a function: name and parameters stand there. -/
inductive Description.EnteredIn (d : Description) (entry : Value) : Prop where
  | intro {fields : List (String × Value)} {vs : List Value} (hfields : entry.named? = some fields)
    (hname : Fields.get? fields "name" = some (.text d.name))
    (hinputs : Fields.get? fields "inputs" = some (.list vs))
    (h : Described.AllEntered d.parameters vs)

/-- An entry that is no function's: its kind is another one. -/
def IsOtherEntry (v : Value) : Prop :=
  ∃ fields kind, v.named? = some fields ∧ Fields.get? fields "type" = some (.text kind) ∧
    kind ≠ functionWord

/-- A list with the entry of one function, whose kind may be left out, and entries of other kinds
around it. -/
def IsOnlyFunction (entry : Value) (vs : List Value) : Prop :=
  (∃ fields, entry.named? = some fields ∧ (Fields.get? fields "type" = none ∨
    Fields.get? fields "type" = some (.text functionWord))) ∧
    ∃ before after, vs = before ++ entry :: after ∧ ∀ v ∈ before ++ after, IsOtherEntry v

/-! ### Reading an entry -/

theorem entryType_eq {fields : List (String × Value)} {type : String}
    (h : Fields.get? fields "type" = some (.text type)) : entryType fields = .ok type := by
  rw [entryType, h]
  rfl

theorem Label.EnteredIn.entryName_eq {l : Label} {fields : List (String × Value)}
    (h : l.EnteredIn fields) : entryName fields = .ok l.text := by
  rw [entryName, fieldOf]
  rcases h with h | ⟨hempty, h | h⟩
  · rw [h, Option.getD_some]
    -- An empty name is read as no name at all, which comes to the same.
    by_cases hempty : l.text = ""
    · rw [hempty]
      rfl
    · have htrue : (Value.text l.text).isTruthy = true := by simp [Value.isTruthy, hempty]
      rw [htrue]
      rfl
  · rw [h, hempty]
    rfl
  · rw [h, hempty]
    rfl

theorem ElementaryType.startsWith_eq_false (type : ElementaryType) (arrays : List Dimension) :
    startsWith tupleWord (type.text ++ renderDims arrays) = false := by
  obtain ⟨c, cs, htext, -, ht, -⟩ := type.exists_letter
  have hword : tupleWord.toList = 't' :: ['u', 'p', 'l', 'e'] := by decide
  rw [startsWith, hword, String.toList_append, htext, List.cons_append, List.isPrefixOf_cons_cons]
  have hne : ('t' == c) = false := by simpa using Ne.symm ht
  rw [hne, Bool.false_and]

mutual

/-- An entry of a description holds the parameter that is described. -/
theorem Described.Entered.entryOf {p : Described} {v : Value} (h : p.Entered v) :
    Parameter.EntryOf v p.parameter := by
  match p, v, h with
  | .elementary type arrays label, v, .elementary hv htype hlabel =>
    obtain ⟨c, cs, htext, hletter, -, hrest⟩ := type.exists_letter
    have hstops := Label.behind_empty.alphanum_stops arrays
    rw [List.append_nil] at hstops
    have hshape : String.ofList (c :: cs ++ (renderDims arrays).toList)
        = type.text ++ renderDims arrays := by
      rw [← htext, ← String.toList_append, String.ofList_toList]
    have hentry : Parameter.EntryOf v ⟨label.text, expandAlias (String.ofList (c :: cs))
        ++ String.ofList (renderDims arrays).toList, []⟩ := by
      refine .elementary hv ?_ hletter hrest hstops ?_ hlabel.entryName_eq
      · rw [hshape]
        exact entryType_eq htype
      · rw [hshape]
        exact type.startsWith_eq_false arrays
    rwa [← htext, String.ofList_toList, String.ofList_toList] at hentry
  | .tuple components arrays label, v,
    @Described.Entered.tuple _ _ _ _ fields _ hv htype hcomponents h hlabel =>
    have hlisted : Parameter.ListedIn (fieldOf fields "components")
        (parametersDescribed components) := by
      rw [fieldOf, hcomponents, Option.getD_some]
      exact .items rfl h.allEntries
    have hentry : Parameter.EntryOf v ⟨label.text,
        tupleType (parametersDescribed components) ++ String.ofList (renderDims arrays).toList,
        parametersDescribed components⟩ := by
      refine .tuple hv ?_ hlisted hlabel.entryName_eq
      rw [String.ofList_toList]
      exact entryType_eq htype
    rwa [String.ofList_toList] at hentry

theorem Described.AllEntered.allEntries {ps : List Described} {vs : List Value}
    (h : Described.AllEntered ps vs) : Parameter.AllEntries vs (parametersDescribed ps) := by
  match ps, vs, h with
  | [], [], .nil => exact .nil
  | p :: ps, v :: vs, .cons h hrest => exact .cons h.entryOf hrest.allEntries

end

/-- Every entry of a function is read as the function that is described. -/
theorem ofEntry_of_enteredIn {d : Description} {entry : Value} (h : d.EnteredIn entry) :
    Function.ofEntry entry = .ok d.function := by
  obtain ⟨hfields, hname, hinputs, hvs⟩ := h
  rw [Function.ofEntry, hfields]
  dsimp only
  rw [fieldOf, hname, Option.getD_some]
  dsimp only
  rw [if_pos d.isName, fieldOf, hinputs, Option.getD_some,
    parametersOf_of_items rfl, hvs.allEntries.parametersOfItems_eq]
  rfl

theorem isFunctionEntry_of_isOtherEntry {v : Value} (h : IsOtherEntry v) :
    isFunctionEntry v = false := by
  obtain ⟨fields, kind, hv, htype, hkind⟩ := h
  rw [isFunctionEntry, hv]
  dsimp only
  rw [htype]
  exact beq_eq_false_iff_ne.mpr hkind

/-- A list with one function is read as its entry. -/
theorem ofValue_of_isOnlyFunction {entry : Value} {vs : List Value}
    (h : IsOnlyFunction entry vs) : Function.ofValue (.list vs) = Function.ofEntry entry := by
  obtain ⟨⟨fields, hfields, hkind⟩, before, after, rfl, hother⟩ := h
  have hnone : ∀ {ws : List Value}, (∀ v ∈ ws, IsOtherEntry v) → ws.filter isFunctionEntry = [] :=
    fun hws => List.filter_eq_nil_iff.mpr fun v hv =>
      Bool.eq_false_iff.mp (isFunctionEntry_of_isOtherEntry (hws v hv))
  have hentry : isFunctionEntry entry = true := by
    rw [isFunctionEntry, hfields]
    dsimp only
    rcases hkind with hkind | hkind
    · rw [hkind]
    · rw [hkind]
      rfl
  have hfilter : (before ++ entry :: after).filter isFunctionEntry = [entry] := by
    rw [List.filter_append, List.filter_cons_of_pos hentry,
      hnone fun v hv => hother v (List.mem_append_left after hv),
      hnone fun v hv => hother v (List.mem_append_right before hv), List.nil_append]
  rw [Function.ofValue, hfilter]

end Workflow.Abi
