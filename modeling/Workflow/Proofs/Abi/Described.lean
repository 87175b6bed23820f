import Workflow.Abi.Entry
import Workflow.Abi.Type
import Workflow.Proofs.Text.Blank

/-!
# Descriptions of functions

What a declaration and an interface entry both say about a function: its name and its parameters,
each of them with a label and a type, which is elementary or a tuple of parameters.  A description
cannot be ill-formed: its elementary types are those of the contract language, and its names are
identifiers.  `Description.function` is the function that is described, with the short names of
elementary types written out at every depth.

Writing a type out changes nothing the second time (`Described.type_canonical`): what then is
written is the canonical description, without labels and with full names only.
-/

namespace Workflow.Abi

open Text

/-! ### Elementary types -/

/-- The base names of the elementary types. -/
def elementaryBases : List String :=
  ["address", "bool", "string", "bytes", "byte", "function", "int", "uint", "fixed", "ufixed"]

theorem uint_mem_elementaryBases : "uint" ∈ elementaryBases := by decide

/-- An elementary type. -/
structure ElementaryType where
  /-- The base name. -/
  base : String
  /-- The size behind it. -/
  size : Size
  /-- The base name is one of the contract language. -/
  isBase : base ∈ elementaryBases

/-- The text of an elementary type. -/
def ElementaryType.text (t : ElementaryType) : String := t.base ++ t.size.render

/-- The elementary type with its name written out. -/
def ElementaryType.full (t : ElementaryType) : ElementaryType :=
  if t.text = "uint" then ⟨"uint", .one 256, by decide⟩
  else if t.text = "int" then ⟨"int", .one 256, by decide⟩
  else if t.text = "byte" then ⟨"bytes", .one 1, by decide⟩
  else t

theorem ElementaryType.text_full (t : ElementaryType) : t.full.text = expandAlias t.text := by
  rw [full, expandAlias]
  split_ifs with huint hint hbyte
  · decide
  · decide
  · decide
  · rfl

theorem expandAlias_expandAlias (name : String) :
    expandAlias (expandAlias name) = expandAlias name := by
  by_cases huint : name = "uint"
  · rw [huint]
    decide
  by_cases hint : name = "int"
  · rw [hint]
    decide
  by_cases hbyte : name = "byte"
  · rw [hbyte]
    decide
  have hsame : expandAlias name = name := by
    rw [expandAlias, if_neg huint, if_neg hint, if_neg hbyte]
  rw [hsame, hsame]

theorem isDigit_of_mem_toString {n : Nat} {c : Char} (hc : c ∈ (toString n).toList) :
    c.isDigit = true := by
  have hdigits : (toString n).toList = Nat.toDigits 10 n := String.toList_ofList
  rw [hdigits] at hc
  exact Nat.isDigit_of_mem_toDigits (by decide) (by decide) hc

theorem isAlphanum_of_mem_toString {n : Nat} {c : Char} (hc : c ∈ (toString n).toList) :
    c.isAlphanum = true := by
  rw [Char.isAlphanum, isDigit_of_mem_toString hc, Bool.or_true]

theorem Size.isAlphanum_of_mem_render {size : Size} {c : Char} (hc : c ∈ size.render.toList) :
    c.isAlphanum = true := by
  cases size with
  | none => exact absurd hc (by simp [Size.render])
  | one n => exact isAlphanum_of_mem_toString hc
  | two n m =>
    rw [Size.render, String.toList_append, String.toList_append, List.mem_append,
      List.mem_append] at hc
    rcases hc with (hc | hc) | hc
    · exact isAlphanum_of_mem_toString hc
    · have hx : c = 'x' := by simpa using hc
      rw [hx]
      decide
    · exact isAlphanum_of_mem_toString hc

/-- An elementary type is a word that starts with a letter, and not as the word `tuple` does. -/
theorem ElementaryType.exists_letter (t : ElementaryType) :
    ∃ c cs, t.text.toList = c :: cs ∧ c.isAlpha = true ∧ c ≠ 't' ∧
      ∀ d ∈ cs, d.isAlphanum = true := by
  have hbases : ∀ base ∈ elementaryBases, ∃ c cs, base.toList = c :: cs ∧ c.isAlpha = true ∧
      c ≠ 't' ∧ ∀ d ∈ cs, d.isAlphanum = true := by
    have hhead : ∀ base ∈ elementaryBases, (base.toList.head?.any fun c => c.isAlpha && c != 't')
        && base.toList.tail.all Char.isAlphanum := by decide
    intro base hbase
    have h := hhead base hbase
    cases hlist : base.toList with
    | nil => simp [hlist] at h
    | cons c cs =>
      simp only [hlist, List.head?_cons, Option.any_some, List.tail_cons, Bool.and_eq_true,
        bne_iff_ne, List.all_eq_true] at h
      exact ⟨c, cs, rfl, h.1.1, h.1.2, h.2⟩
  obtain ⟨c, cs, hbase, hletter, ht, hrest⟩ := hbases t.base t.isBase
  refine ⟨c, cs ++ t.size.render.toList, ?_, hletter, ht, ?_⟩
  · rw [text, String.toList_append, hbase, List.cons_append]
  · intro d hd
    rcases List.mem_append.mp hd with hd | hd
    · exact hrest d hd
    · exact Size.isAlphanum_of_mem_render hd

/-! ### Labels -/

/-- The label of a parameter: nothing, or an identifier that is none of the words that may stand
between type and name. -/
structure Label where
  /-- The text. -/
  text : String
  /-- There is nothing or an identifier. -/
  isName : text = "" ∨ isIdentifier text.toList = true
  /-- It is none of the words in front of a name. -/
  notQualifier : text ∉ qualifiers

/-- The label that says nothing. -/
def Label.empty : Label := ⟨"", .inl rfl, by decide⟩

/-- The words that a label is written with. -/
def Label.words (l : Label) : List String := if l.text = "" then [] else [l.text]

theorem isGraphic_of_isIdentifierPart {c : Char} (h : isIdentifierPart c = true) :
    IsGraphic c := by
  unfold isIdentifierPart at h
  delta Char.isAlphanum Char.isAlpha Char.isUpper Char.isLower Char.isDigit at h
  simp only [Bool.or_eq_true, Bool.and_eq_true, decide_eq_true_eq, beq_iff_eq,
    UInt32.le_iff_toNat_le, ge_iff_le] at h
  change ((((65 ≤ c.toNat ∧ c.toNat ≤ 90) ∨ (97 ≤ c.toNat ∧ c.toNat ≤ 122)) ∨
    (48 ≤ c.toNat ∧ c.toNat ≤ 57)) ∨ c = '_') ∨ c = '$' at h
  rw [IsGraphic]
  rcases h with ((hletter | hdigit) | rfl) | rfl
  · omega
  · omega
  · decide
  · decide

theorem isIdentifierPart_of_isAlphanum {c : Char} (h : c.isAlphanum = true) :
    isIdentifierPart c = true := by
  rw [isIdentifierPart, h, Bool.true_or, Bool.true_or]

/-! ### Parameters and functions -/

/-- The description of a parameter. -/
inductive Described where
  /-- A parameter of an elementary type or of arrays of one. -/
  | elementary (type : ElementaryType) (arrays : List Dimension) (label : Label)
  /-- A parameter that is a tuple of parameters, or arrays of such tuples. -/
  | tuple (components : List Described) (arrays : List Dimension) (label : Label)

mutual

/-- The parameter that is described. -/
def Described.parameter : Described → Parameter
  | .elementary type arrays label =>
    ⟨label.text, expandAlias type.text ++ renderDims arrays, []⟩
  | .tuple components arrays label =>
    ⟨label.text, tupleType (parametersDescribed components) ++ renderDims arrays,
      parametersDescribed components⟩
termination_by structural p => p

/-- The parameters that are described, in order. -/
def parametersDescribed : List Described → List Parameter
  | [] => []
  | p :: ps => p.parameter :: parametersDescribed ps
termination_by structural ps => ps

end

/-- The description of a function. -/
structure Description where
  /-- The name. -/
  name : String
  /-- The name is an identifier. -/
  isName : isIdentifier name.toList = true
  /-- The parameters in order. -/
  parameters : List Described

/-- The function that is described. -/
def Description.function (d : Description) : Function :=
  ⟨d.name, parametersDescribed d.parameters⟩

/-! ### Canonical descriptions -/

mutual

/-- The description without labels and with full names of types. -/
def Described.canonical : Described → Described
  | .elementary type arrays _ => .elementary type.full arrays .empty
  | .tuple components arrays _ => .tuple (canonicalAll components) arrays .empty
termination_by structural p => p

/-- The canonical descriptions, in order. -/
def canonicalAll : List Described → List Described
  | [] => []
  | p :: ps => p.canonical :: canonicalAll ps
termination_by structural ps => ps

end

mutual

/-- A canonical description has the type of the one that it is made from. -/
theorem Described.type_canonical (p : Described) :
    p.canonical.parameter.type = p.parameter.type := by
  match p with
  | .elementary type arrays label =>
    rw [Described.canonical, Described.parameter, Described.parameter, ElementaryType.text_full,
      expandAlias_expandAlias]
  | .tuple components arrays label =>
    rw [Described.canonical, Described.parameter, Described.parameter, tupleType, tupleType,
      types_canonicalAll components]

theorem types_canonicalAll (ps : List Described) :
    (parametersDescribed (canonicalAll ps)).map (·.type)
      = (parametersDescribed ps).map (·.type) := by
  match ps with
  | [] => rfl
  | p :: ps =>
    rw [canonicalAll, parametersDescribed, parametersDescribed, List.map_cons, List.map_cons,
      p.type_canonical, types_canonicalAll ps]

end

end Workflow.Abi
