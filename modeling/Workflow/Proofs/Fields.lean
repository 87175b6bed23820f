import Mathlib.Data.List.Induction
import Mathlib.Data.List.Nodup
import Workflow.Fields

/-!
# Reading and writing names

A name that is written has the value that was written, and every other name keeps its own
(`get?_put_self`, `get?_put_of_ne`).  A name that has no value yet is written behind all that is
there (`put_of_not_mem`), so values under new names only add to fields (`prefix_putAll`).

A map that is written by pairs has the names of the pairs, each with the value of the last pair that
has it (`get?_ofPairs`).  Where several names count as one, there is one entry for them exactly if
the pairs agree on the name (`length_filter_ofPairs_le_one_iff`).
-/

namespace Workflow.Fields

variable {α : Type}

/-! ### The value of a name -/

theorem get?_cons (field : String × α) (fields : List (String × α)) (name : String) :
    get? (field :: fields) name = if field.1 = name then some field.2 else get? fields name := by
  rw [get?, List.find?_cons]
  by_cases h : field.1 = name
  · rw [if_pos h, beq_iff_eq.mpr h]
    rfl
  · rw [if_neg h, beq_eq_false_iff_ne.mpr h]
    rfl

theorem get?_eq_none_iff {fields : List (String × α)} {name : String} :
    get? fields name = none ↔ name ∉ names fields := by
  rw [get?, Option.map_eq_none_iff, List.find?_eq_none, names, List.mem_map]
  simp only [beq_iff_eq, not_exists, not_and]

theorem contains_iff {fields : List (String × α)} {name : String} :
    contains fields name = true ↔ name ∈ names fields := by
  rw [contains, List.any_eq_true, names, List.mem_map]
  simp only [beq_iff_eq]

theorem get?_append (front back : List (String × α)) (name : String) :
    get? (front ++ back) name = (get? front name).or (get? back name) := by
  rw [get?, List.find?_append, Option.map_or]
  rfl

/-- Where no name occurs twice, a name has the value that stands beside it. -/
theorem get?_of_mem {fields : List (String × α)} {name : String} {value : α}
    (hnames : (names fields).Nodup) (h : (name, value) ∈ fields) :
    get? fields name = some value := by
  induction fields with
  | nil => nomatch h
  | cons field fields ih =>
    obtain ⟨hfresh, hnames⟩ := List.nodup_cons.mp hnames
    rw [get?_cons]
    rcases List.mem_cons.mp h with rfl | h
    · exact if_pos rfl
    · have hne : field.1 ≠ name := by
        rintro rfl
        exact hfresh (List.mem_map.mpr ⟨_, h, rfl⟩)
      rw [if_neg hne]
      exact ih hnames h

theorem mem_of_get? {fields : List (String × α)} {name : String} {value : α}
    (h : get? fields name = some value) : (name, value) ∈ fields := by
  induction fields with
  | nil => cases h
  | cons field fields ih =>
    rw [get?_cons] at h
    split at h
    · next hname =>
      obtain rfl := Option.some.inj h
      rw [← hname]
      exact List.mem_cons_self
    · exact List.mem_cons_of_mem field (ih h)

theorem get?_put_self (fields : List (String × α)) (name : String) (value : α) :
    get? (put fields name value) name = some value := by
  induction fields with
  | nil => rw [put, get?_cons, if_pos rfl]
  | cons field fields ih =>
    rw [put]
    split
    · next h => rw [get?_cons, if_pos (beq_iff_eq.mp h)]
    · next h => rw [get?_cons, if_neg fun heq => h (beq_iff_eq.mpr heq), ih]

theorem get?_put_of_ne (fields : List (String × α)) {name other : String} (h : other ≠ name)
    (value : α) : get? (put fields name value) other = get? fields other := by
  induction fields with
  | nil => rw [put, get?_cons, if_neg (Ne.symm h)]
  | cons field fields ih =>
    rw [put]
    split
    · next hfield =>
      have hne : field.1 ≠ other := fun heq => h (heq.symm.trans (beq_iff_eq.mp hfield))
      rw [get?_cons, get?_cons, if_neg hne, if_neg hne]
    · rw [get?_cons, get?_cons, ih]

/-- Writing a name that has a value keeps all names in their places. -/
theorem names_put_of_mem {fields : List (String × α)} {name : String} (h : name ∈ names fields)
    (value : α) : names (put fields name value) = names fields := by
  induction fields with
  | nil => nomatch h
  | cons field fields ih =>
    rw [put]
    split
    · rfl
    · next hfield =>
      have hne : name ≠ field.1 := fun heq => hfield (beq_iff_eq.mpr heq.symm)
      exact congrArg (field.1 :: ·) (ih ((List.mem_cons.mp h).resolve_left hne))

theorem mem_put {fields : List (String × α)} {name : String} {value : α} {field : String × α}
    (h : field ∈ put fields name value) : field = (name, value) ∨ field ∈ fields := by
  induction fields with
  | nil => exact .inl (List.mem_singleton.mp h)
  | cons front fields ih =>
    rw [put] at h
    split at h
    · next hfront =>
      rw [← beq_iff_eq.mp hfront]
      exact (List.mem_cons.mp h).imp_right (List.mem_cons_of_mem front)
    · rcases List.mem_cons.mp h with rfl | h
      · exact .inr List.mem_cons_self
      · exact (ih h).imp_right (List.mem_cons_of_mem front)

/-! ### New names -/

theorem putAll_append (fields front back : List (String × α)) :
    putAll fields (front ++ back) = putAll (putAll fields front) back :=
  List.foldl_append

theorem put_append_of_not_mem {fields : List (String × α)} {name : String}
    (h : name ∉ names fields) (back : List (String × α)) (value : α) :
    put (fields ++ back) name value = fields ++ put back name value := by
  induction fields with
  | nil => rfl
  | cons field fields ih =>
    rw [names, List.map_cons, List.mem_cons, not_or] at h
    have hne : (field.1 == name) = false := by
      rw [beq_eq_false_iff_ne]
      exact Ne.symm h.1
    rw [List.cons_append, put, hne, if_neg Bool.false_ne_true, ih h.2, List.cons_append]

/-- A new name is written behind all others. -/
theorem put_of_not_mem {fields : List (String × α)} {name : String} (h : name ∉ names fields)
    (value : α) : put fields name value = fields ++ [(name, value)] := by
  have hput := put_append_of_not_mem h [] value
  rwa [List.append_nil] at hput

/-- Values under other names keep the value of a name. -/
theorem get?_putAll_of_ne (fields : List (String × α)) {more : List (String × α)} {name : String}
    (h : ∀ entry ∈ more, entry.1 ≠ name) : get? (putAll fields more) name = get? fields name := by
  induction more generalizing fields with
  | nil => rfl
  | cons entry more ih =>
    obtain ⟨hentry, hmore⟩ := List.forall_mem_cons.mp h
    show get? (putAll (put fields entry.1 entry.2) more) name = get? fields name
    rw [ih _ hmore, get?_put_of_ne fields hentry.symm]

/-- Values under other names only add to fields. -/
theorem prefix_putAll {fields more : List (String × α)}
    (h : ∀ entry ∈ more, entry.1 ∉ names fields) : fields <+: putAll fields more := by
  suffices hfrom : ∀ back, fields <+: putAll (fields ++ back) more by
    have hall := hfrom []
    rwa [List.append_nil] at hall
  induction more with
  | nil => exact List.prefix_append fields
  | cons entry more ih =>
    intro back
    obtain ⟨hentry, hmore⟩ := List.forall_mem_cons.mp h
    show fields <+: putAll (put (fields ++ back) entry.1 entry.2) more
    rw [put_append_of_not_mem hentry]
    exact ih hmore _

/-! ### Maps from pairs -/

theorem ofPairs_concat (pairs : List (String × α)) (pair : String × α) :
    ofPairs (pairs ++ [pair]) = put (ofPairs pairs) pair.1 pair.2 :=
  putAll_append [] pairs [pair]

theorem mem_names_put_iff {fields : List (String × α)} {name other : String} {value : α} :
    other ∈ names (put fields name value) ↔ other = name ∨ other ∈ names fields := by
  by_cases h : name ∈ names fields
  · rw [names_put_of_mem h]
    exact (or_iff_right_of_imp fun heq => heq ▸ h).symm
  · rw [put_of_not_mem h, names, List.map_append, List.mem_append, List.map_singleton,
      List.mem_singleton, or_comm]
    rfl

/-- The names of a map are those of the pairs. -/
theorem mem_names_ofPairs_iff {pairs : List (String × α)} {name : String} :
    name ∈ names (ofPairs pairs) ↔ name ∈ names pairs := by
  induction pairs using List.reverseRecOn with
  | nil => rfl
  | append_singleton pairs pair ih =>
    rw [ofPairs_concat, mem_names_put_iff, ih, names, names, List.map_append, List.mem_append,
      List.map_singleton, List.mem_singleton, or_comm]

/-- Writing does not repeat a name. -/
theorem nodup_names_put {fields : List (String × α)} (h : (names fields).Nodup) (name : String)
    (value : α) : (names (put fields name value)).Nodup := by
  by_cases hname : name ∈ names fields
  · rwa [names_put_of_mem hname]
  · rw [put_of_not_mem hname, names, List.map_append]
    exact List.nodup_append_comm.mp (List.nodup_cons.mpr ⟨hname, h⟩)

theorem nodup_names_ofPairs (pairs : List (String × α)) : (names (ofPairs pairs)).Nodup := by
  induction pairs using List.reverseRecOn with
  | nil => exact List.nodup_nil
  | append_singleton pairs pair ih =>
    rw [ofPairs_concat]
    exact nodup_names_put ih pair.1 pair.2

/-- Of the pairs with a name the last one counts. -/
theorem get?_ofPairs (pairs : List (String × α)) (name : String) :
    get? (ofPairs pairs) name = (pairs.filter (·.1 == name)).getLast?.map (·.2) := by
  induction pairs using List.reverseRecOn with
  | nil => rfl
  | append_singleton pairs pair ih =>
    rw [ofPairs_concat, List.filter_append]
    by_cases h : name = pair.1
    · subst h
      have hlast : [pair].filter (·.1 == pair.1) = [pair] := by simp
      rw [get?_put_self, hlast, List.getLast?_concat]
      rfl
    · have hlast : [pair].filter (·.1 == name) = [] := by simpa using Ne.symm h
      rw [get?_put_of_ne _ h, ih, hlast, List.append_nil]

/-! ### Names of one kind -/

section

variable {P : String → Bool} {pairs : List (String × α)}

/-- Whether the pairs have at most one name of a kind. -/
def HasOneName (P : String → Bool) (pairs : List (String × α)) : Prop :=
  ∀ a ∈ names pairs, ∀ b ∈ names pairs, P a = true → P b = true → a = b

theorem length_le_one_of_nodup {β : Type} {l : List β} (hl : l.Nodup)
    (h : ∀ a ∈ l, ∀ b ∈ l, a = b) : l.length ≤ 1 := by
  match l with
  | [] => exact Nat.zero_le 1
  | [_] => exact Nat.le_refl 1
  | a :: b :: rest =>
    have heq : a = b := h a List.mem_cons_self b (List.mem_cons_of_mem a List.mem_cons_self)
    exact absurd (heq ▸ List.mem_cons_self) (List.nodup_cons.mp hl).1

/-- A map has at most one entry of a kind exactly if the pairs have at most one name of it. -/
theorem length_filter_ofPairs_le_one_iff :
    ((ofPairs pairs).filter (P ·.1)).length ≤ 1 ↔ HasOneName P pairs := by
  constructor
  · intro hone a ha b hb hPa hPb
    obtain ⟨x, hx, rfl⟩ := List.mem_map.mp (mem_names_ofPairs_iff.mpr ha)
    obtain ⟨y, hy, rfl⟩ := List.mem_map.mp (mem_names_ofPairs_iff.mpr hb)
    have hx : x ∈ (ofPairs pairs).filter (P ·.1) := List.mem_filter.mpr ⟨hx, hPa⟩
    have hy : y ∈ (ofPairs pairs).filter (P ·.1) := List.mem_filter.mpr ⟨hy, hPb⟩
    rcases Nat.le_one_iff_eq_zero_or_eq_one.mp hone with hzero | hone
    · rw [List.length_eq_zero_iff.mp hzero] at hx
      cases hx
    · obtain ⟨z, hz⟩ := List.length_eq_one_iff.mp hone
      rw [hz, List.mem_singleton] at hx hy
      rw [hx, hy]
  · intro h
    have hnames := nodup_names_ofPairs pairs
    refine length_le_one_of_nodup ((List.Nodup.of_map _ hnames).filter _) fun x hx y hy => ?_
    obtain ⟨hx, hPx⟩ := List.mem_filter.mp hx
    obtain ⟨hy, hPy⟩ := List.mem_filter.mp hy
    have hname : x.1 = y.1 := h _ (mem_names_ofPairs_iff.mp (List.mem_map_of_mem hx)) _
      (mem_names_ofPairs_iff.mp (List.mem_map_of_mem hy)) hPx hPy
    exact List.inj_on_of_nodup_map hnames hx hy hname

/-- With one name of a kind, its entry is the last of the pairs of this kind. -/
theorem filter_ofPairs_of_hasOneName (h : HasOneName P pairs) :
    (ofPairs pairs).filter (P ·.1) = (pairs.filter (P ·.1)).getLast?.toList := by
  cases hlast : (pairs.filter (P ·.1)).getLast? with
  | none =>
    rw [List.getLast?_eq_none_iff, List.filter_eq_nil_iff] at hlast
    refine List.filter_eq_nil_iff.mpr fun x hx => ?_
    obtain ⟨y, hy, hname⟩ := List.mem_map.mp (mem_names_ofPairs_iff.mp (List.mem_map_of_mem hx))
    rw [← hname]
    exact hlast y hy
  | some pair =>
    obtain ⟨hpair, hP⟩ := List.mem_filter.mp (List.mem_of_getLast? hlast)
    -- All pairs of the kind have the name of this one, so it is the last one with its name.
    have hsame : pairs.filter (·.1 == pair.1) = pairs.filter (P ·.1) := by
      refine List.filter_congr fun x hx => ?_
      rw [Bool.eq_iff_iff, beq_iff_eq]
      constructor
      · intro heq
        rwa [heq]
      · exact fun hPx => h _ (List.mem_map_of_mem hx) _ (List.mem_map_of_mem hpair) hPx hP
    have hvalue : get? (ofPairs pairs) pair.1 = some pair.2 := by
      rw [get?_ofPairs, hsame, hlast]
      rfl
    have hmem : pair ∈ (ofPairs pairs).filter (P ·.1) :=
      List.mem_filter.mpr ⟨mem_of_get? hvalue, hP⟩
    obtain ⟨x, hx⟩ := List.length_eq_one_iff.mp
      (Nat.le_antisymm (length_filter_ofPairs_le_one_iff.mpr h) (List.length_pos_of_mem hmem))
    rw [hx, List.mem_singleton] at hmem
    rw [hx, ← hmem]
    rfl

end

end Workflow.Fields
