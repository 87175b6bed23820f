import Workflow.Value.Mapping

/-!
# Reading and writing rows

What fields are under names, rows are under texts: a text that is written has the value that was
written, every other text keeps its own, and so does every row that is not under this text, where
it stands (`get?_put_self`, `get?_put_of_ne`, `getElem?_put_of_ne`).  The keys stay in order, and a
text that has no row yet gets one behind all that is there (`keys_put`).
-/

namespace Workflow

/-- The only key that is the same as a text is the text itself. -/
theorem isSameKey_text_iff (k : Value) (name : String) :
    isSameKey k (.text name) = true ↔ k = .text name := by
  cases k <;> simp [isSameKey, exactNumber?]

namespace Rows

/-- The keys in order. -/
def keys (rows : Rows) : List Value := rows.map (·.1)

variable {rows : Rows} {name : String}

/-- A row is under a text or not. -/
theorem exists_eq_or_ne (row : Value × Value) (name : String) :
    (∃ w, row = (.text name, w)) ∨ row.1 ≠ .text name := by
  by_cases hrow : row.1 = .text name
  · exact .inl ⟨row.2, Prod.ext hrow rfl⟩
  · exact .inr hrow

theorem get?_cons_self (v : Value) (rows : Rows) (name : String) :
    get? ((.text name, v) :: rows) name = some v := by
  have hsame : isSameKey (.text name) (.text name) = true := (isSameKey_text_iff _ _).mpr rfl
  rw [get?, List.find?_cons, hsame]
  rfl

theorem get?_cons_of_ne {row : Value × Value} (h : row.1 ≠ .text name) (rows : Rows) :
    get? (row :: rows) name = get? rows name := by
  have hother : isSameKey row.1 (.text name) = false :=
    Bool.eq_false_iff.mpr fun hsame => h ((isSameKey_text_iff _ _).mp hsame)
  rw [get?, List.find?_cons, hother]
  rfl

theorem put_cons_self (v w : Value) (rows : Rows) (name : String) :
    put ((.text name, w) :: rows) (.text name) v = (.text name, v) :: rows := by
  rw [put, if_pos ((isSameKey_text_iff _ _).mpr rfl)]

theorem put_cons_of_ne {row : Value × Value} (h : row.1 ≠ .text name) (rows : Rows) (v : Value) :
    put (row :: rows) (.text name) v = row :: put rows (.text name) v := by
  rw [put, if_neg fun hsame => h ((isSameKey_text_iff _ _).mp hsame)]

theorem get?_put_self (rows : Rows) (name : String) (v : Value) :
    (rows.put (.text name) v).get? name = some v := by
  induction rows with
  | nil => exact get?_cons_self v [] name
  | cons row rows ih =>
    obtain ⟨w, rfl⟩ | hrow := exists_eq_or_ne row name
    · rw [put_cons_self, get?_cons_self]
    · rw [put_cons_of_ne hrow, get?_cons_of_ne hrow, ih]

theorem get?_put_of_ne (rows : Rows) {other : String} (h : other ≠ name) (v : Value) :
    (rows.put (.text name) v).get? other = rows.get? other := by
  have hkeys : Value.text name ≠ .text other := fun heq => h (Value.text.inj heq).symm
  induction rows with
  | nil => exact get?_cons_of_ne hkeys []
  | cons row rows ih =>
    obtain ⟨w, rfl⟩ | hrow := exists_eq_or_ne row name
    · rw [put_cons_self, get?_cons_of_ne hkeys, get?_cons_of_ne hkeys]
    · rw [put_cons_of_ne hrow]
      obtain ⟨w, rfl⟩ | hother := exists_eq_or_ne row other
      · rw [get?_cons_self, get?_cons_self]
      · rw [get?_cons_of_ne hother, get?_cons_of_ne hother, ih]

/-- A row that is not under the text stays where it is. -/
theorem getElem?_put_of_ne {i : Nat} {row : Value × Value} (h : rows[i]? = some row)
    (hrow : row.1 ≠ .text name) (v : Value) : (rows.put (.text name) v)[i]? = some row := by
  induction rows generalizing i with
  | nil => cases h
  | cons first rows ih =>
    by_cases hfirst : first.1 = .text name
    · rw [put, if_pos ((isSameKey_text_iff _ _).mpr hfirst)]
      cases i with
      | zero => exact absurd (Option.some.inj h ▸ hfirst) hrow
      | succ i => exact h
    · rw [put_cons_of_ne hfirst]
      cases i with
      | zero => exact h
      | succ i => exact ih h

/-- The keys stay as they are, or the text comes behind them. -/
theorem keys_put (rows : Rows) (name : String) (v : Value) :
    (rows.put (.text name) v).keys
      = rows.keys ++ if (rows.get? name).isNone then [.text name] else [] := by
  induction rows with
  | nil => rfl
  | cons row rows ih =>
    obtain ⟨w, rfl⟩ | hrow := exists_eq_or_ne row name
    · rw [put_cons_self, get?_cons_self]
      exact (List.append_nil _).symm
    · rw [put_cons_of_ne hrow, get?_cons_of_ne hrow]
      exact congrArg (row.1 :: ·) ih

end Rows

end Workflow
