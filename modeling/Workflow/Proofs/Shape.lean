import Workflow.Proofs.Fields
import Workflow.Proofs.Outcomes
import Workflow.Shape
import Workflow.Value.Portable

/-!
# Shapes that are read and written

A schema names the fields that a shape declares and the defaults of those that may be left out.
One value completes another by a schema (`Completes`) if it has every part of the other one in its
place, at every depth, and beside them only defaults of fields that the other one leaves out.

A shape has a reader and a writer, and two laws relate them.

* What was written is read back as what it was written for (`Recovers`).
* What was read from a value is written as a value that completes it (`Faithful`).

Both laws pass from the parts to the whole: to an optional part, to a list and to a record.  For a
record the second one is an induction on the fields that are given
(`exists_filledIn_of_readFields`); its step is that reading a field overwrites that one field of
what is written (`Overwrites`).
-/

namespace Workflow

/-! ### Names that occur once -/

namespace Value

mutual

/-- Whether no record within a value has a name twice. -/
def hasDistinctNames : Value → Bool
  | .list vs => haveDistinctNames vs
  | .tuple vs => haveDistinctNames vs
  | .record fs => decide (Fields.names fs).Nodup && fieldsHaveDistinctNames fs
  | .table rows => rowsHaveDistinctNames rows
  | _ => true
termination_by structural v => v

/-- Whether no record within some items has a name twice. -/
def haveDistinctNames : List Value → Bool
  | [] => true
  | v :: vs => hasDistinctNames v && haveDistinctNames vs
termination_by structural vs => vs

/-- Whether no record within the values of fields has a name twice. -/
def fieldsHaveDistinctNames : List (String × Value) → Bool
  | [] => true
  | (_, v) :: fs => hasDistinctNames v && fieldsHaveDistinctNames fs
termination_by structural fs => fs

/-- Whether no record within the keys and values of rows has a name twice. -/
def rowsHaveDistinctNames : List (Value × Value) → Bool
  | [] => true
  | (key, v) :: rows => hasDistinctNames key && hasDistinctNames v && rowsHaveDistinctNames rows
termination_by structural rows => rows

end

theorem haveDistinctNames_iff {vs : List Value} :
    haveDistinctNames vs = true ↔ ∀ v ∈ vs, v.hasDistinctNames = true := by
  induction vs with
  | nil => simp [haveDistinctNames]
  | cons v vs ih => rw [haveDistinctNames, Bool.and_eq_true, ih, List.forall_mem_cons]

theorem fieldsHaveDistinctNames_iff {fs : List (String × Value)} :
    fieldsHaveDistinctNames fs = true ↔ ∀ field ∈ fs, field.2.hasDistinctNames = true := by
  induction fs with
  | nil => simp [fieldsHaveDistinctNames]
  | cons field fs ih => rw [fieldsHaveDistinctNames, Bool.and_eq_true, ih, List.forall_mem_cons]

theorem hasDistinctNames_record_iff {fs : List (String × Value)} :
    (Value.record fs).hasDistinctNames = true ↔
      (Fields.names fs).Nodup ∧ ∀ field ∈ fs, field.2.hasDistinctNames = true := by
  rw [hasDistinctNames, Bool.and_eq_true, decide_eq_true_iff, fieldsHaveDistinctNames_iff]

theorem hasDistinctNames_of_items {v : Value} {vs : List Value} (hitems : v.items? = some vs)
    (h : v.hasDistinctNames = true) : ∀ w ∈ vs, w.hasDistinctNames = true := by
  cases v with
  | list ws =>
    obtain rfl := Option.some.inj hitems
    exact haveDistinctNames_iff.mp h
  | tuple ws =>
    obtain rfl := Option.some.inj hitems
    exact haveDistinctNames_iff.mp h
  | _ => nomatch hitems

/-! ### Portable values -/

theorem portableItems_eq_map (vs : List Value) : portableItems vs = vs.map portable := by
  induction vs with
  | nil => rfl
  | cons v vs ih => rw [portableItems, ih, List.map_cons]

theorem portableFields_eq_map (fs : List (String × Value)) :
    portableFields fs = fs.map fun field => (field.1, field.2.portable) := by
  induction fs with
  | nil => rfl
  | cons field fs ih => rw [portableFields, ih, List.map_cons]

@[simp] theorem portable_list (vs : List Value) :
    (Value.list vs).portable = .list (vs.map portable) := by
  rw [portable, portableItems_eq_map]

@[simp] theorem portable_record (fs : List (String × Value)) :
    (Value.record fs).portable = .record (fs.map fun field => (field.1, field.2.portable)) := by
  rw [portable, portableFields_eq_map]

theorem map_eq_self_iff {α : Type} {f : α → α} {as : List α} :
    as.map f = as ↔ ∀ a ∈ as, f a = a := by
  have h : as.map f = as.map id ↔ ∀ a ∈ as, f a = id a := List.map_inj_left
  rwa [List.map_id] at h

theorem portable_list_eq_self_iff {vs : List Value} :
    (Value.list vs).portable = .list vs ↔ ∀ v ∈ vs, v.portable = v := by
  rw [portable_list, Value.list.injEq, map_eq_self_iff]

theorem portable_record_eq_self_iff {fs : List (String × Value)} :
    (Value.record fs).portable = .record fs ↔ ∀ field ∈ fs, field.2.portable = field.2 := by
  rw [portable_record, Value.record.injEq, map_eq_self_iff]
  simp only [Prod.ext_iff, true_and]

theorem portable_of_items {v : Value} {vs : List Value} (hitems : v.items? = some vs)
    (h : v.portable = v) : ∀ w ∈ vs, w.portable = w := by
  cases v with
  | list ws =>
    obtain rfl := Option.some.inj hitems
    exact portable_list_eq_self_iff.mp h
  | tuple ws =>
    obtain rfl := Option.some.inj hitems
    rw [portable, portableItems_eq_map, Value.tuple.injEq, map_eq_self_iff] at h
    exact h
  | _ => nomatch hitems

end Value

/-! ### Schemas -/

/-- What a shape declares about a value. -/
inductive Schema where
  /-- A value that is kept as it is. -/
  | whole
  /-- A record with declared fields and the defaults of those that may be left out. -/
  | record (fields : List (String × Schema)) (defaults : List (String × Value))
  /-- A list with items of one shape. -/
  | list (item : Schema)
  /-- A record of one of several kinds; the text under a name tells the kind. -/
  | tagged (tag : String) (kinds : List (String × Schema))

/-- A value with everything that another one has, in its place and at every depth, and beside that
only defaults.  A tuple counts as the list of its items where a list is declared. -/
inductive Completes : Schema → Value → Value → Prop where
  /-- What is kept as it is. -/
  | whole (v : Value) : Completes .whole v v
  /-- Nothing in the place of an optional part. -/
  | null (schema : Schema) : Completes schema .null .null
  /-- All declared fields: those that are given, completed, and the others with their defaults. -/
  | record {fields : List (String × Schema)} {defaults given full : List (String × Value)}
    (hnames : Fields.names full = Fields.names fields)
    (hdeclared : ∀ name ∈ Fields.names given, name ∈ Fields.names fields)
    (hgiven : ∀ name schema v w, Fields.get? fields name = some schema →
      Fields.get? given name = some v → Fields.get? full name = some w → Completes schema v w)
    (hadded : ∀ name w, Fields.get? given name = none → Fields.get? full name = some w →
      Fields.get? defaults name = some w) :
    Completes (.record fields defaults) (.record given) (.record full)
  /-- All items one by one. -/
  | list {item : Schema} {v : Value} {given full : List Value} (hitems : v.items? = some given)
    (hlength : given.length = full.length)
    (hitem : ∀ i (hi : i < given.length) (hi' : i < full.length),
      Completes item given[i] full[i]) :
    Completes (.list item) v (.list full)
  /-- A record of the kind that it names. -/
  | tagged {tag kind : String} {kinds : List (String × Schema)} {schema : Schema}
    {given : List (String × Value)} {full : Value}
    (htag : Fields.get? given tag = some (.text kind))
    (hkind : Fields.get? kinds kind = some schema) (h : Completes schema (.record given) full) :
    Completes (.tagged tag kinds) (.record given) full

/-- A value is kept by one that completes it and adds nothing that is not portable. -/
structure Kept (schema : Schema) (v w : Value) : Prop where
  /-- The one completes the other. -/
  completes : Completes schema v w
  /-- What is portable stays so. -/
  portable_eq : v.portable = v → w.portable = w

namespace Shape

variable {α β σ : Type}

/-! ### The two laws -/

/-- What was written is read back. -/
def Recovers (read : Value → Reading α) (write : α → Value) : Prop := ∀ a, read (write a) = .ok a

/-- What was read from a value is written so that the value is kept. -/
def Faithful (schema : Schema) (read : Value → Reading α) (write : α → Value) : Prop :=
  ∀ ⦃v a⦄, v.hasDistinctNames = true → read v = .ok a → Kept schema v (write a)

variable {schema : Schema} {read : Value → Reading α} {write : α → Value}

/-- What is read and what is written are the same, one for one. -/
def Exact (read : Value → Reading α) (write : α → Value) : Prop :=
  ∀ v a, read v = .ok a ↔ write a = v

theorem Exact.recovers (h : Exact read write) : Recovers read write :=
  fun a => (h (write a) a).mpr rfl

/-- A value that is written as it was read is kept. -/
theorem Exact.faithful (h : Exact read write) : Faithful .whole read write := by
  intro v a _ hread
  rw [(h v a).mp hread]
  exact ⟨.whole v, id⟩

/-- What is read may be read on as something else that is written in the same way. -/
theorem Faithful.map (h : Faithful schema read write) {f : α → β} {write' : β → Value}
    (hwrite : ∀ a, write' (f a) = write a) :
    Faithful schema (fun v => return f (← read v)) write' := by
  intro v b hnames hread
  obtain ⟨a, ha, hb⟩ := Outcome.bind_eq_ok_iff.mp hread
  obtain rfl := Except.ok.inj hb
  rw [hwrite]
  exact h hnames ha

/-! ### Single values -/

theorem exact_text : Exact text Value.text := by
  intro v s
  cases v <;> simp [text, mismatch, fail, eq_comm]

theorem exact_boolOrNull :
    Exact boolOrNull fun b => (b.map Value.bool).getD .null := by
  intro v b
  cases v <;> cases b <;> simp [boolOrNull, mismatch, fail, eq_comm]

theorem exact_anything : Exact anything fun v => v := by
  intro v w
  simp [anything, eq_comm]

theorem mem_of_lookup {choices : List (String × α)} {s : String} {a : α}
    (h : choices.lookup s = some a) : (s, a) ∈ choices := by
  obtain ⟨front, back, rfl, -⟩ := List.lookup_eq_some_iff.mp h
  exact List.mem_append_cons_self

/-- Where choices are listed under their names, a name is that of the choice found under it. -/
theorem lookup_eq_some_iff {choices : List (String × α)} {name : α → String}
    (hnames : ∀ choice ∈ choices, name choice.2 = choice.1)
    (hall : ∀ a, choices.lookup (name a) = some a) {s : String} {a : α} :
    choices.lookup s = some a ↔ name a = s := by
  constructor
  · exact fun h => hnames (s, a) (mem_of_lookup h)
  · rintro rfl
    exact hall a

theorem exact_choice {choices : List (String × α)} {name : α → String}
    (hnames : ∀ choice ∈ choices, name choice.2 = choice.1)
    (hall : ∀ a, choices.lookup (name a) = some a) :
    Exact (choice choices) fun a => .text (name a) := by
  intro v a
  cases v with
  | text s =>
    rw [choice, Value.text.injEq, ← lookup_eq_some_iff hnames hall]
    cases choices.lookup s <;> simp [fail]
  | _ => simp [choice, mismatch, fail]

/-! ### Maps -/

theorem within_eq_ok_iff {step : PlaceStep} {r : Reading α} {a : α} :
    within step r = .ok a ↔ r = .ok a :=
  Outcome.mapError_eq_ok_iff

theorem entries_eq_ok_iff (h : Exact read write) {fs : List (String × Value)}
    {as : List (String × α)} :
    entries read fs = .ok as ↔ as.map (fun field => (field.1, write field.2)) = fs := by
  induction fs generalizing as with
  | nil => rw [entries, Except.ok.injEq, List.map_eq_nil_iff, eq_comm]
  | cons field fs ih =>
    obtain ⟨name, v⟩ := field
    simp only [entries, Outcome.bind_eq_ok_iff, within_eq_ok_iff, ih, h _ _,
      List.map_eq_cons_iff, Prod.mk.injEq]
    constructor
    · rintro ⟨a, ha, rest, hrest, has⟩
      exact ⟨(name, a), rest, (Except.ok.inj has).symm, ⟨rfl, ha⟩, hrest⟩
    · rintro ⟨⟨n, a⟩, rest, rfl, ⟨rfl, ha⟩, hrest⟩
      exact ⟨a, ha, rest, hrest, rfl⟩

theorem exact_map (h : Exact read write) :
    Exact (map read) fun as => .record (as.map fun field => (field.1, write field.2)) := by
  intro v as
  cases v with
  | record fs => rw [map, entries_eq_ok_iff h, Value.record.injEq]
  | _ => simp [map, mismatch, fail]

/-! ### Parts that may be missing -/

theorem orNull_eq_ok_iff {v : Value} {o : Option α} :
    orNull read v = .ok o ↔
      v = .null ∧ o = none ∨ ∃ fs a, v = .record fs ∧ read v = .ok a ∧ o = some a := by
  cases v with
  | null => simp [orNull, eq_comm]
  | record fs =>
    rw [orNull, Outcome.map_eq_ok_iff]
    simp [eq_comm]
  | _ => simp [orNull, mismatch, fail]

theorem Recovers.orNull (h : Recovers read write) (hrecord : ∀ a, ∃ fs, write a = .record fs) :
    Recovers (orNull read) fun o => (o.map write).getD .null := by
  intro o
  cases o with
  | none => rfl
  | some a =>
    obtain ⟨fs, hfs⟩ := hrecord a
    exact orNull_eq_ok_iff.mpr (.inr ⟨fs, a, hfs, h a, rfl⟩)

theorem Faithful.orNull (h : Faithful schema read write) :
    Faithful schema (orNull read) fun o => (o.map write).getD .null := by
  intro v o hnames hread
  rcases orNull_eq_ok_iff.mp hread with ⟨rfl, rfl⟩ | ⟨fs, a, -, ha, rfl⟩
  · exact ⟨.null schema, id⟩
  · exact h hnames ha

/-! ### Lists -/

theorem itemsFrom_eq_ok_iff {index : Nat} {vs : List Value} {as : List α} :
    itemsFrom read index vs = .ok as ↔ List.Forall₂ (fun v a => read v = .ok a) vs as := by
  induction vs generalizing index as with
  | nil =>
    rw [itemsFrom, List.forall₂_nil_left_iff, Except.ok.injEq, eq_comm]
  | cons v vs ih =>
    rw [itemsFrom, Outcome.bind_eq_ok_iff, List.forall₂_cons_left_iff]
    simp only [within_eq_ok_iff, Outcome.bind_eq_ok_iff, ih]
    constructor
    · rintro ⟨a, ha, rest, hrest, h⟩
      exact ⟨a, rest, ha, hrest, (Except.ok.inj h).symm⟩
    · rintro ⟨a, rest, ha, hrest, rfl⟩
      exact ⟨a, ha, rest, hrest, rfl⟩

theorem list_eq_ok_iff {v : Value} {as : List α} :
    list read v = .ok as ↔
      ∃ vs, v.items? = some vs ∧ List.Forall₂ (fun v a => read v = .ok a) vs as := by
  cases hitems : v.items? with
  | none => simp [list, hitems, mismatch, fail]
  | some vs => simp [list, hitems, itemsFrom_eq_ok_iff]

theorem Recovers.list (h : Recovers read write) :
    Recovers (list read) fun as => .list (as.map write) := by
  intro as
  refine list_eq_ok_iff.mpr ⟨as.map write, rfl, ?_⟩
  rw [List.forall₂_map_left_iff, List.forall₂_same]
  exact fun a _ => h a

theorem Faithful.list (h : Faithful schema read write) :
    Faithful (.list schema) (list read) fun as => .list (as.map write) := by
  intro v as hnames hread
  obtain ⟨vs, hitems, hread⟩ := list_eq_ok_iff.mp hread
  have hkept : List.Forall₂ (Kept schema) vs (as.map write) := by
    have hdistinct := Value.hasDistinctNames_of_items hitems hnames
    rw [List.forall₂_map_right_iff]
    refine ((List.forall₂_and_left vs as).mpr ⟨hdistinct, hread⟩).imp ?_
    rintro v a ⟨hv, ha⟩
    exact h hv ha
  obtain ⟨hlength, hitem⟩ := List.forall₂_iff_get.mp hkept
  refine ⟨.list hitems hlength fun i hi hi' => (hitem i hi hi').completes, fun hv => ?_⟩
  have hportable := Value.portable_of_items hitems hv
  refine Value.portable_list_eq_self_iff.mpr fun w hw => ?_
  obtain ⟨i, hi, rfl⟩ := List.mem_iff_getElem.mp hw
  have hi' : i < vs.length := hlength ▸ hi
  exact (hitem i hi' hi).portable_eq (hportable _ (List.getElem_mem hi'))

/-! ### Reading records -/

theorem requireFields_eq_ok_iff {fields : List (String × Value)} {names : List String} :
    requireFields fields names = .ok () ↔ ∀ name ∈ names, name ∈ Fields.names fields := by
  induction names with
  | nil => simp [requireFields]
  | cons name names ih =>
    rw [requireFields, List.forall_mem_cons, ← ih]
    by_cases hmem : name ∈ Fields.names fields
    · rw [if_pos (Fields.contains_iff.mpr hmem)]
      simp [hmem]
    · rw [if_neg fun h => hmem (Fields.contains_iff.mp h)]
      simp [hmem, fail]

variable {fields : List (String × Schema)} {writeRecord : σ → Value} {setter : Setter σ}

/-- What reading a given value of a field does to what is written: the field takes a value that
keeps the given one, and all other fields stay. -/
def Overwrites (fields : List (String × Schema)) (write : σ → Value) (name : String) (v : Value)
    (s s' : σ) : Prop :=
  ∃ schema written w, Fields.get? fields name = some schema ∧ write s = .record written ∧
    write s' = .record (Fields.put written name w) ∧ Kept schema v w

/-- A field whose value is read faithfully is overwritten. -/
theorem Faithful.overwrites (hread : Faithful schema read write) {name : String} {v : Value}
    (hv : v.hasDistinctNames = true) (hname : Fields.get? fields name = some schema)
    {update : σ → α → σ} {set : σ → Value → Reading σ} {s s' : σ}
    (hwrite : ∀ a, read v = .ok a → ∃ written, writeRecord s = .record written ∧
      writeRecord (update s a) = .record (Fields.put written name (write a)))
    (hset : some (fun s v => do return update s (← read v)) = some set) (h : set s v = .ok s') :
    Overwrites fields writeRecord name v s s' := by
  obtain rfl := Option.some.inj hset
  obtain ⟨a, ha, hs'⟩ := Outcome.bind_eq_ok_iff.mp h
  obtain rfl := Except.ok.inj hs'
  obtain ⟨written, hs, hupdate⟩ := hwrite a ha
  exact ⟨schema, written, write a, hname, hs, hupdate, hread hv ha⟩

/-- So is the field of a record that has no other, which is read as the record itself. -/
theorem Faithful.overwrites_alone {read : Value → Reading σ} {write : σ → Value}
    (hread : Faithful schema read write) {name : String} {v : Value}
    (hv : v.hasDistinctNames = true) (hname : Fields.get? fields name = some schema)
    {set : σ → Value → Reading σ} {s s' : σ}
    (hwrite : ∀ a, ∃ written, writeRecord s = .record written ∧
      writeRecord a = .record (Fields.put written name (write a)))
    (hset : some (fun _ v => read v) = some set) (h : set s v = .ok s') :
    Overwrites fields writeRecord name v s s' := by
  obtain rfl := Option.some.inj hset
  obtain ⟨written, hs, hs'⟩ := hwrite s'
  exact ⟨schema, written, write s', hname, hs, hs', hread hv h⟩

/-- How the fields that are given show in what is written in the end. -/
structure FilledIn (fields : List (String × Schema))
    (given written written' : List (String × Value)) : Prop where
  /-- No field comes or goes. -/
  names_eq : Fields.names written' = Fields.names written
  /-- What is given is declared. -/
  declared : ∀ name ∈ Fields.names given, name ∈ Fields.names fields
  /-- A field that is given keeps its value. -/
  kept : ∀ name schema v w, Fields.get? fields name = some schema →
    Fields.get? given name = some v → Fields.get? written' name = some w → Kept schema v w
  /-- A field that is not given stays. -/
  left : ∀ name, Fields.get? given name = none →
    Fields.get? written' name = Fields.get? written name
  /-- Everything is portable if it was and what is given is. -/
  portable_eq : (∀ field ∈ given, field.2.portable = field.2) →
    (∀ field ∈ written, field.2.portable = field.2) →
      ∀ field ∈ written', field.2.portable = field.2

/-- Reading fields one by one fills in what is written, if each of them is overwritten.  The
invariant `I` is for setters that rely on what has been read before. -/
theorem exists_filledIn_of_readFields {I : σ → Prop} {given written : List (String × Value)}
    {s s' : σ}
    (hset : ∀ name v set s s', (name, v) ∈ given → setter name = some set → I s →
      set s v = .ok s' → I s' ∧ Overwrites fields writeRecord name v s s')
    (hgiven : (Fields.names given).Nodup) (hs : I s) (hwritten : writeRecord s = .record written)
    (hnames : Fields.names written = Fields.names fields)
    (h : readFields true setter s given = .ok s') :
    ∃ written', writeRecord s' = .record written' ∧ FilledIn fields given written written' := by
  -- The induction is on what is given, so `written` is what the fields in front have led to.  A
  -- name that has been written is not given again, and thus keeps its value to the end.
  induction given generalizing s written with
  | nil =>
    obtain rfl := Except.ok.inj h
    exact ⟨written, hwritten, rfl, nofun, nofun, fun _ _ => rfl, fun _ h => h⟩
  | cons field given ih =>
    obtain ⟨name, v⟩ := field
    obtain ⟨hfresh, hgiven⟩ := List.nodup_cons.mp hgiven
    have hfresh : Fields.get? given name = none := Fields.get?_eq_none_iff.mpr hfresh
    rw [readFields] at h
    split at h
    case h_2 => nomatch h
    next set hset' =>
    obtain ⟨s₁, hs₁, h⟩ := Outcome.bind_eq_ok_iff.mp h
    obtain ⟨hI, schema, written₀, w, hschema, hwritten₀, hwritten₁, hkept⟩ :=
      hset name v set s s₁ List.mem_cons_self hset' hs (within_eq_ok_iff.mp hs₁)
    obtain rfl := Value.record.inj (hwritten.symm.trans hwritten₀)
    have hdeclared : name ∈ Fields.names fields := by
      by_contra hnot
      rw [Fields.get?_eq_none_iff.mpr hnot] at hschema
      nomatch hschema
    have hput := Fields.names_put_of_mem (hnames ▸ hdeclared) w
    obtain ⟨written', hwritten', hrest⟩ := ih
      (fun n u set s s' hmem => hset n u set s s' (List.mem_cons_of_mem _ hmem)) hgiven hI
      hwritten₁ (hput.trans hnames) h
    refine ⟨written', hwritten', hrest.names_eq.trans hput, ?_, ?_, ?_, ?_⟩
    · exact List.forall_mem_cons.mpr ⟨hdeclared, hrest.declared⟩
    · intro n schema' u w' hn hu hw'
      rw [Fields.get?_cons] at hu
      split at hu
      · next heq =>
        -- The value that has just been written is the one found in the end.
        subst heq
        rw [hrest.left name hfresh, Fields.get?_put_self] at hw'
        rw [hschema] at hn
        cases hn
        cases hu
        cases hw'
        exact hkept
      · exact hrest.kept n schema' u w' hn hu hw'
    · intro n hn
      rw [Fields.get?_cons] at hn
      split at hn
      · nomatch hn
      · next hne => rw [hrest.left n hn, Fields.get?_put_of_ne written (Ne.symm hne)]
    · intro hportable hbefore
      obtain ⟨hv, hportable⟩ := List.forall_mem_cons.mp hportable
      refine hrest.portable_eq hportable fun field hfield => ?_
      rcases Fields.mem_put hfield with rfl | hfield
      · exact hkept.portable_eq hv
      · exact hbefore field hfield

/-- A record whose given fields are filled in, and whose other fields start from the defaults, is
kept. -/
theorem FilledIn.kept_record {given written written' defaults : List (String × Value)}
    (h : FilledIn fields given written written')
    (hnames : Fields.names written = Fields.names fields)
    (hdefaults : ∀ name w, Fields.get? given name = none → Fields.get? written name = some w →
      Fields.get? defaults name = some w)
    (hportable : ∀ field ∈ written, field.2.portable = field.2) :
    Kept (.record fields defaults) (.record given) (.record written') where
  completes :=
    .record (h.names_eq.trans hnames) h.declared
      (fun name schema v w hname hv hw => (h.kept name schema v w hname hv hw).completes)
      fun name w hname hw => hdefaults name w hname (h.left name hname ▸ hw)
  portable_eq hgiven :=
    Value.portable_record_eq_self_iff.mpr
      (h.portable_eq (Value.portable_record_eq_self_iff.mp hgiven) hportable)

/-- A record is read faithfully if each of its fields is overwritten, starting from blanks for the
fields that are required and from the defaults. -/
theorem Faithful.record {required : List String} {start : σ} {defaults : List (String × Value)}
    (blanks : List (String × Value))
    (hset : ∀ name v set s s', v.hasDistinctNames = true → setter name = some set →
      set s v = .ok s' → Overwrites fields writeRecord name v s s')
    (hstart : writeRecord start = .record (blanks ++ defaults))
    (hnames : Fields.names (blanks ++ defaults) = Fields.names fields)
    (hblanks : Fields.names blanks = required)
    (hportable : (Value.record (blanks ++ defaults)).portable = .record (blanks ++ defaults)) :
    Faithful (.record fields defaults) (record true required setter start) writeRecord := by
  intro v s hdistinct hread
  cases v with
  | record given =>
    obtain ⟨hgiven, hdistinct⟩ := Value.hasDistinctNames_record_iff.mp hdistinct
    obtain ⟨s', hfields, hread⟩ := Outcome.bind_eq_ok_iff.mp hread
    obtain ⟨_, hrequired, hs⟩ := Outcome.bind_eq_ok_iff.mp hread
    obtain rfl := Except.ok.inj hs
    obtain ⟨written, hwritten, hfilled⟩ := exists_filledIn_of_readFields (I := fun _ => True)
      (fun name v set s s' hmem hset' _ h =>
        ⟨trivial, hset name v set s s' (hdistinct (name, v) hmem) hset' h⟩)
      hgiven trivial hstart hnames hfields
    rw [hwritten]
    refine hfilled.kept_record hnames (fun name w hname hw => ?_)
      (Value.portable_record_eq_self_iff.mp hportable)
    -- What is not given is not required, so it has no blank but a default.
    have hmissing : Fields.get? blanks name = none := by
      rw [Fields.get?_eq_none_iff, hblanks]
      exact fun hmem =>
        Fields.get?_eq_none_iff.mp hname (requireFields_eq_ok_iff.mp hrequired name hmem)
    rwa [Fields.get?_append, hmissing, Option.none_or] at hw
  | _ => nomatch hread

/-! ### Reading records that were written -/

theorem readFields_cons {name : String} {v : Value} {s s' : σ} {set : σ → Value → Reading σ}
    (hset : setter name = some set) (h : set s v = .ok s') (fs : List (String × Value)) :
    readFields true setter s ((name, v) :: fs) = readFields true setter s' fs := by
  simp only [readFields, hset, h]
  rfl

/-- A field that was written is read back. -/
theorem Recovers.readFields_cons (h : Recovers read write) {name : String} {update : σ → α → σ}
    (hset : setter name = some fun s v => do return update s (← read v)) (s : σ) (a : α)
    (fs : List (String × Value)) :
    readFields true setter s ((name, write a) :: fs) = readFields true setter (update s a) fs :=
  Shape.readFields_cons hset (Outcome.bind_eq_ok_iff.mpr ⟨a, h a, rfl⟩) fs

/-- A record is read back if its fields are. -/
theorem Recovers.record {required : List String} {start : σ}
    (h : ∀ s, ∃ written, writeRecord s = .record written ∧
      readFields true setter start written = .ok s ∧
        ∀ name ∈ required, name ∈ Fields.names written) :
    Recovers (record true required setter start) writeRecord := by
  intro s
  obtain ⟨written, hwrite, hread, hrequired⟩ := h s
  rw [hwrite, Shape.record, hread]
  exact Outcome.bind_eq_ok_iff.mpr
    ⟨s, rfl, Outcome.bind_eq_ok_iff.mpr ⟨(), requireFields_eq_ok_iff.mpr hrequired, rfl⟩⟩

end Shape

end Workflow
