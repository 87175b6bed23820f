import Workflow.Proofs.Abi.InterfaceEntries
import Workflow.Proofs.Json.Writing

/-!
# The forms in which a function is described

A function can be described by a declaration, by its entry in a JSON interface, by the JSON text of
the entry, and by a list in which the entry is the only one of a function, again as a value or as
its text.  All of them give the same function (`forms_agree`), and so does its signature up to the
labels of parameters: the signature is a declaration of the canonical description, which describes
a function with that very signature (`signature_declared`).
-/

namespace Workflow.Abi

open Text

/-! ### Signatures -/

theorem parameterList_intercalate (texts : List (List Char)) :
    ParameterList texts ([','].intercalate texts) := by
  induction texts with
  | nil => exact .empty blanks_nil
  | cons text texts ih =>
    cases texts with
    | nil =>
      rw [List.intercalate_singleton]
      exact .last (.refl text)
    | cons next texts =>
      rw [List.intercalate_cons_cons, List.append_assoc]
      exact .more (.refl text) (List.cons_ne_nil next texts) ih

theorem toList_tupleType (components : List Parameter) :
    (tupleType components).toList
      = '(' :: [','].intercalate (components.map fun p => p.type.toList) ++ [')'] := by
  rw [tupleType, String.toList_append, String.toList_append, String.toList_intercalate,
    List.map_map]
  rfl

mutual

/-- The type of a parameter is a text of its canonical description. -/
theorem Described.spelled_canonical (p : Described) :
    p.canonical.Spelled p.parameter.type.toList := by
  match p with
  | .elementary type arrays label =>
    have hspelled : (Described.elementary type.full arrays .empty).Spelled
        (type.full.text.toList ++ ((renderDims arrays).toList ++ [])) :=
      .elementary Label.behind_empty
    rw [Described.canonical, Described.parameter, String.toList_append, ← type.text_full]
    rwa [List.append_nil] at hspelled
  | .tuple components arrays label =>
    -- A type spells its tuples without the word in front and without blanks.
    have hinner := parameterList_intercalate
      ((parametersDescribed components).map fun p => p.type.toList)
    have hspelled : (Described.tuple (canonicalAll components) arrays .empty).Spelled
        ([] ++ ('(' :: [','].intercalate
          ((parametersDescribed components).map fun p => p.type.toList)
            ++ ')' :: ((renderDims arrays).toList ++ []))) :=
      .tuple (.inl rfl) (Described.allSpelled_canonical components) hinner Label.behind_empty
    rw [Described.canonical, Described.parameter, String.toList_append, toList_tupleType,
      List.append_assoc, List.singleton_append]
    rwa [List.append_nil, List.nil_append] at hspelled

/-- The types of parameters are texts of their canonical descriptions. -/
theorem Described.allSpelled_canonical (ps : List Described) :
    Described.AllSpelled (canonicalAll ps)
      ((parametersDescribed ps).map fun p => p.type.toList) := by
  match ps with
  | [] => exact .nil
  | p :: ps => exact .cons p.spelled_canonical (Described.allSpelled_canonical ps)

end

/-- The description of a function without labels and with full names of types. -/
def Description.canonical (d : Description) : Description :=
  ⟨d.name, d.isName, canonicalAll d.parameters⟩

/-- The signature of a function is a declaration of its canonical description. -/
theorem Description.signature_declared (d : Description) :
    d.canonical.Declared d.function.signature.toList := by
  have hdeclared : d.canonical.Declared ([] ++ (d.name.toList ++ ('(' :: [','].intercalate
      ((parametersDescribed d.parameters).map fun p => p.type.toList) ++ [')'])) ++ []) :=
    .intro blanks_nil .bare (Described.allSpelled_canonical d.parameters)
      (parameterList_intercalate _)
  rw [Function.signature, String.toList_append, Description.function, toList_tupleType]
  rwa [List.append_nil, List.nil_append] at hdeclared

/-- A canonical description is that of a function with the same signature. -/
theorem Description.signature_canonical (d : Description) :
    d.canonical.function.signature = d.function.signature := by
  rw [Function.signature, Function.signature, Description.function, Description.function, tupleType,
    tupleType, Description.canonical, types_canonicalAll]

/-! ### JSON texts -/

/-- A JSON text of a value, with blanks around it. -/
def IsTextOf (v : Value) (s : String) : Prop :=
  ∃ before cs after, Blanks before ∧ Blanks after ∧ Json.Written v cs ∧
    s.toList = before ++ cs ++ after

theorem startsSolid_of_written {v : Value} {cs : List Char} (h : Json.Written v cs) :
    StartsSolid cs := by
  obtain ⟨c, left, rfl, hc⟩ := h.exists_cons
  have hsolid : ∀ c ∈ ['n', 't', 'f', '"', '[', '\x7b'], isBlank c = false :=
    List.all_iff_forall_prop.mp (by decide)
  exact ⟨c, left, rfl, hsolid c hc⟩

theorem endsSolid_concat (front : List Char) {c : Char} (hc : isBlank c = false) :
    EndsSolid (front ++ [c]) := ⟨front, c, rfl, hc⟩

theorem endsSolid_of_itemsBehind {vs : List Value} {more : List Char}
    (h : Json.ItemsBehind vs more) : EndsSolid more := by
  induction vs generalizing more with
  | nil =>
    cases h with
    | close => exact endsSolid_concat _ (by decide)
  | cons v vs ih =>
    cases h with
    | next _ _ _ hmore => exact (ih hmore).append _

theorem endsSolid_of_fieldsBehind {fields : List (String × Value)} {more : List Char}
    (h : Json.FieldsBehind fields more) : EndsSolid more := by
  induction fields generalizing more with
  | nil =>
    cases h with
    | close => exact endsSolid_concat _ (by decide)
  | cons field fields ih =>
    cases h with
    | next _ _ _ hmore => exact (ih hmore).append _

theorem endsSolid_of_written {v : Value} {cs : List Char} (h : Json.Written v cs) :
    EndsSolid cs := by
  cases h with
  | null => exact ⟨['n', 'u', 'l'], 'l', rfl, by decide⟩
  | «true» => exact ⟨['t', 'r', 'u'], 'e', rfl, by decide⟩
  | «false» => exact ⟨['f', 'a', 'l', 's'], 'e', rfl, by decide⟩
  | text => exact endsSolid_concat _ (by decide)
  | nothing => exact endsSolid_concat _ (by decide)
  | list _ _ hmore => exact (endsSolid_of_itemsBehind hmore).append _
  | empty => exact endsSolid_concat _ (by decide)
  | record _ _ _ hmore => exact (endsSolid_of_fieldsBehind hmore).append _

/-- A value that an entry stands in: the entry itself, or a list in which it is the only one of a
function. -/
inductive Presents : Value → Value → Prop where
  | entry {entry : Value} {fields : List (String × Value)} (h : entry.named? = some fields) :
    Presents entry entry
  | list {vs : List Value} {entry : Value} (h : IsOnlyFunction entry vs) :
    Presents (.list vs) entry

theorem Presents.ofValue_eq {v entry : Value} (h : Presents v entry) :
    Function.ofValue v = Function.ofEntry entry := by
  cases h with
  | entry h => exact ofValue_of_noList fun vs hlist => by rw [hlist] at h; cases h
  | list h => exact ofValue_of_isOnlyFunction h

theorem Presents.ofFragment_eq {v entry : Value} (h : Presents v entry) :
    Function.ofFragment v = Function.ofEntry entry := by
  rw [← h.ofValue_eq]
  cases h with
  | entry h =>
    cases v with
    | text s => cases h
    | _ => rfl
  | list => rfl

theorem Presents.looksLikeJson_eq {v entry : Value} (h : Presents v entry) {cs : List Char}
    (hcs : Json.Written v cs) : looksLikeJson cs = true := by
  cases h with
  | entry h =>
    cases hcs with
    | empty => rfl
    | record => rfl
    | _ => cases h
  | list => cases hcs <;> rfl

/-- A JSON text is read as the value in it. -/
theorem Presents.ofFragment_text_eq {v entry : Value} (h : Presents v entry) {s : String}
    (hs : IsTextOf v s) : Function.ofFragment (.text s) = Function.ofEntry entry := by
  obtain ⟨before, cs, after, hbefore, hafter, hcs, hshape⟩ := hs
  have htrim : trimmed s = String.ofList cs := by
    rw [trimmed, hshape, trim_padded hbefore (startsSolid_of_written hcs)
      (endsSolid_of_written hcs) hafter]
  have hlooks : looksLikeJson (String.ofList cs).toList = true := by
    rw [String.toList_ofList]
    exact h.looksLikeJson_eq hcs
  rw [Function.ofFragment, htrim, hlooks, if_pos rfl, Json.decodeText_written hcs]
  exact h.ofValue_eq

/-- What is written for a plain value is a text of it. -/
theorem isTextOf_encode {v : Value} (h : Json.isPlain v = true) : IsTextOf v (Json.encode v) :=
  ⟨[], (Json.encode v).toList, [], blanks_nil, blanks_nil, Json.written_encode v h, by simp⟩

/-! ### All forms -/

/-- **All forms describe the same function.** Every declaration of a description, every entry of it,
every list in which the entry is the only one of a function, and every JSON text of one of the two
are read as the function that is described.  The signature of the function is itself read as a
function, and that one has the same signature. -/
theorem forms_agree (d : Description) :
    (∀ s : String, d.Declared s.toList →
      Function.ofDeclaration s = .ok d.function ∧
        Function.ofFragment (.text s) = .ok d.function) ∧
    (∀ entry v, d.EnteredIn entry → Presents v entry →
      Function.ofEntry entry = .ok d.function ∧ Function.ofFragment v = .ok d.function ∧
        ∀ s, IsTextOf v s → Function.ofFragment (.text s) = .ok d.function) ∧
    ∃ g, Function.ofDeclaration d.function.signature = .ok g ∧
      g.signature = d.function.signature := by
  refine ⟨?_, ?_, ?_⟩
  · intro s hs
    exact ⟨ofDeclaration_of_declared hs, ofFragment_of_declared hs⟩
  · intro entry v hentered hv
    have hentry := ofEntry_of_enteredIn hentered
    exact ⟨hentry, hv.ofFragment_eq.trans hentry, fun s hs =>
      (hv.ofFragment_text_eq hs).trans hentry⟩
  · exact ⟨d.canonical.function, ofDeclaration_of_declared d.signature_declared,
      d.signature_canonical⟩

/-- A number under the name `amount`. -/
def settleAmount : Described :=
  .elementary ⟨"uint", .none, uint_mem_elementaryBases⟩ [] ⟨"amount", by decide, by decide⟩

/-- An address under the name `to`. -/
def settleTo : Described :=
  .elementary ⟨"address", .none, by decide⟩ [] ⟨"to", by decide, by decide⟩

/-- Two bytes without a name. -/
def settleMark : Described := .elementary ⟨"byte", .none, by decide⟩ [.sized 2] .empty

/-- Any number of pairs of an address and two bytes, under the name `orders`. -/
def settleOrders : Described :=
  .tuple [settleTo, settleMark] [.open] ⟨"orders", by decide, by decide⟩

/-- A function with an amount and an array of pairs. -/
def settle : Description := ⟨"settle", by decide, [settleAmount, settleOrders]⟩

/-- The entry of the function. -/
def settleEntry : Value := .record [
  ("type", .text "function"), ("name", .text "settle"),
  ("inputs", .list [
    .record [("name", .text "amount"), ("type", .text "uint")],
    .record [("type", .text "tuple[]"), ("name", .text "orders"), ("components", .list [
      .record [("name", .text "to"), ("type", .text "address")],
      .record [("name", .text ""), ("type", .text "byte[2]")]])]])]

/-- A declaration of the function. -/
def settleText : String :=
  " function settle( uint amount,tuple(address to, byte[2])[] memory orders) external"

theorem settle_declared : settle.Declared settleText.toList := by
  have hblank : Blanks [' '] := by decide
  have hamount : settleAmount.Spelled "uint amount".toList :=
    .elementary (Label.behind_spaced _ [] nofun)
  have hto : settleTo.Spelled "address to".toList := .elementary (Label.behind_spaced _ [] nofun)
  have hmark : settleMark.Spelled "byte[2]".toList := .elementary Label.behind_empty
  have hpair : ParameterList ["address to".toList, "byte[2]".toList]
      ("address to".toList ++ ',' :: ([' '] ++ "byte[2]".toList)) :=
    .more (.refl _) (List.cons_ne_nil _ _) (.last (padded_front hblank _))
  have horders : settleOrders.Spelled "tuple(address to, byte[2])[] memory orders".toList :=
    .tuple (.inr rfl) (.cons hto (.cons hmark .nil)) hpair
      (Label.behind_spaced _ ["memory"] (by decide))
  have hlist : ParameterList
      ["uint amount".toList, "tuple(address to, byte[2])[] memory orders".toList]
      (([' '] ++ "uint amount".toList)
        ++ ',' :: "tuple(address to, byte[2])[] memory orders".toList) :=
    .more (padded_front hblank _) (List.cons_ne_nil _ _) (.last (.refl _))
  have hhead : Heads settle.name.toList "function settle".toList :=
    .worded hblank (List.cons_ne_nil _ _) blanks_nil
  have hdeclared : settle.Declared ([' '] ++ ("function settle".toList
      ++ ('(' :: (([' '] ++ "uint amount".toList)
        ++ ',' :: "tuple(address to, byte[2])[] memory orders".toList) ++ [')']))
          ++ " external".toList) :=
    .intro hblank hhead (.cons hamount (.cons horders .nil)) hlist
  exact hdeclared

theorem settle_enteredIn : settle.EnteredIn settleEntry :=
  .intro rfl rfl rfl (.cons (.elementary rfl rfl (.inl rfl))
    (.cons (.tuple rfl rfl rfl (.cons (.elementary rfl rfl (.inl rfl))
      (.cons (.elementary rfl rfl (.inl rfl)) .nil)) (.inl rfl)) .nil))

theorem forms_agree_settle :
    Function.ofFragment (.text settleText) = .ok settle.function ∧
    Function.ofFragment (.list [.record [("type", .text "event")], settleEntry])
      = .ok settle.function ∧
    Function.ofFragment (.text (Json.encode settleEntry)) = .ok settle.function ∧
    settle.function.signature = "settle(uint256,(address,bytes1[2])[])" := by
  obtain ⟨hdeclarations, hentries, -⟩ := forms_agree settle
  have hplain : Json.isPlain settleEntry = true := by decide
  have honly : IsOnlyFunction settleEntry [.record [("type", .text "event")], settleEntry] := by
    refine ⟨⟨_, rfl, .inr rfl⟩, [.record [("type", .text "event")]], [], rfl, ?_⟩
    intro v hv
    rw [List.mem_singleton.mp hv]
    exact ⟨_, "event", rfl, rfl, by decide⟩
  obtain ⟨-, -, htexts⟩ := hentries _ _ settle_enteredIn (.entry rfl)
  obtain ⟨-, hlist, -⟩ := hentries _ _ settle_enteredIn (.list honly)
  refine ⟨(hdeclarations _ settle_declared).2, hlist, htexts _ (isTextOf_encode hplain), ?_⟩
  decide

/-! ### Where the forms differ -/

/-- A parameter without a name whose data is payable. -/
def payableNumber : Description :=
  ⟨"f", by decide, [.elementary ⟨"uint", .one 256, uint_mem_elementaryBases⟩ [] .empty]⟩

theorem payableNumber_declared :
    payableNumber.Declared "function f(uint256 payable)".toList := by
  have hspelled : (Described.elementary ⟨"uint", .one 256, by decide⟩ [] .empty).Spelled
      "uint256 payable".toList :=
    .elementary (Label.behind_spaced _ ["payable"] (by decide))
  have hhead : Heads payableNumber.name.toList "function f".toList :=
    .worded (by decide : Blanks [' ']) (List.cons_ne_nil _ _) blanks_nil
  have hdeclared : payableNumber.Declared ([] ++ ("function f".toList
      ++ ('(' :: "uint256 payable".toList ++ [')'])) ++ []) :=
    .intro blanks_nil hhead (.cons hspelled .nil) (.last (.refl _))
  exact hdeclared

/-- The name `payable` is lost in a declaration and kept in an entry, although it says nothing of a
place for data. -/
theorem forms_disagree :
    isIdentifier "payable".toList = true ∧ "payable" ∉ ["memory", "calldata", "storage"] ∧
    Function.ofFragment (.text "function f(uint256 payable)")
      = .ok ⟨"f", [⟨"", "uint256", []⟩]⟩ ∧
    Function.ofFragment (.record [("name", .text "f"), ("inputs", .list [
        .record [("name", .text "payable"), ("type", .text "uint256")]])])
      = .ok ⟨"f", [⟨"payable", "uint256", []⟩]⟩ := by
  refine ⟨by decide, by decide, ?_, ?_⟩
  · have htype : expandAlias ("uint" ++ Size.render (.one 256)) ++ renderDims [] = "uint256" := by
      decide
    have hread := ofFragment_of_declared payableNumber_declared
    rw [hread, payableNumber, Description.function, parametersDescribed, parametersDescribed,
      Described.parameter, ElementaryType.text, htype]
    rfl
  · rfl

end Workflow.Abi
