import Workflow.Expression.Resolution
import Workflow.Proofs.Expression.Paths
import Workflow.Proofs.Value.Mapping

/-!
# What expressions stand for

`Value.Holds` says where a value lies inside another one: under names in records and tables, at
positions in lists and tuples, and where it lies in the object that stands for a struct.  Walking a
path finds a value exactly if it lies where the path leads (`walk_eq_ok_iff`), and `detached`
returns the copy of what was found (`copiedAs_iff`).  Every place inside the context has a path:
positions are written as decimal numerals, which are read back as what they are
(`Location.location_segment`).

`path_language` puts the texts of paths and their meaning together.
-/

namespace Workflow

/-! ### Places inside a value -/

/-- One step of the way into a value. -/
inductive Location where
  /-- To what is kept under a name. -/
  | field (name : String)
  /-- To the item at a position. -/
  | item (n : Nat)

/-- What a value has at a location; a struct is seen as the object that stands for it. -/
inductive Value.Has : Value → Location → Value → Prop where
  | record {fs : List (String × Value)} {name : String} {w : Value}
    (h : Fields.get? fs name = some w) : Has (.record fs) (.field name) w
  | table {rows : Rows} {name : String} {w : Value}
    (h : rows.get? name = some w) : Has (.table rows) (.field name) w
  | list {vs : List Value} {n : Nat} {w : Value} (h : vs[n]? = some w) : Has (.list vs) (.item n) w
  | tuple {vs : List Value} {n : Nat} {w : Value} (h : vs[n]? = some w) :
    Has (.tuple vs) (.item n) w
  | struct {kind : StructKind} {fields : List (String × Value)} {wire w : Value} {l : Location}
    (h : Has wire.portable l w) : Has (.struct kind fields wire) l w

/-- What lies inside a value at the end of a way. -/
inductive Value.Holds : Value → List Location → Value → Prop where
  | here (v : Value) : Holds v [] v
  | there {v w u : Value} {l : Location} {ls : List Location} (h : v.Has l w)
    (hw : w.Holds ls u) : Holds v (l :: ls) u

/-- Where a segment leads. -/
def Segment.location : Segment → Location
  | .key name => .field (String.ofList name)
  | .index digits => .item (Text.digitsValue digits)

/-- Where a path leads from the context on. -/
def Path.locations (p : Path) : List Location :=
  .field (String.ofList p.head) :: p.tail.map Segment.location

/-- A segment whose index, if it is one, has few enough digits to be read. -/
def Segment.Readable : Segment → Prop
  | .key _ => True
  | .index digits => digits.length ≤ Numeral.digitLimit

/-! ### Rows under texts -/

/-- The row of a text is the field under that text. -/
theorem get?_named_table (rows : Rows) (name : String) :
    (Value.table rows).named?.bind (Fields.get? · name) = rows.get? name := by
  rw [Value.named?, Option.bind_some]
  induction rows with
  | nil => rfl
  | cons row rows ih =>
    obtain ⟨w, rfl⟩ | hrow := Rows.exists_eq_or_ne row name
    · rw [Rows.get?_cons_self]
      simp [Value.namedRows, Value.text?, Fields.get?]
    · rw [Rows.get?_cons_of_ne hrow, ← ih]
      obtain ⟨k, v⟩ := row
      cases k with
      | text t =>
        have ht : (t == name) = false := by simpa using hrow
        simp [Value.namedRows, Value.text?, Fields.get?, ht]
      | _ => simp [Value.namedRows, Value.text?]

/-! ### Structs -/

/-- Where only plain values may be there are no structs. -/
theorem Value.portable_ne_struct (v : Value) (kind : StructKind) (fields : List (String × Value))
    (wire : Value) : v.portable ≠ .struct kind fields wire := by
  match v with
  | .struct _ _ plain => exact plain.portable_ne_struct kind fields wire
  | .null | .bool _ | .int _ | .float _ | .text _ | .bytes _ | .list _ | .tuple _ | .record _
  | .table _ => exact nofun

theorem opened_ne_struct (v : Value) (kind : StructKind) (fields : List (String × Value))
    (wire : Value) : opened v ≠ .struct kind fields wire := by
  cases v with
  | struct _ _ plain => exact plain.portable_ne_struct kind fields wire
  | _ => exact nofun

theorem opened_opened (v : Value) : opened (opened v) = opened v := by
  cases hv : opened v with
  | struct kind fields wire => exact absurd hv (opened_ne_struct v kind fields wire)
  | _ => rfl

/-- A step into a struct is one into the object that stands for it. -/
theorem Segment.step_opened (s : Segment) (v : Value) : s.step (opened v) = s.step v := by
  cases s <;> simp only [Segment.step, opened_opened]

theorem Value.opened_has_iff (v : Value) (l : Location) (w : Value) :
    (opened v).Has l w ↔ v.Has l w := by
  cases v with
  | struct kind fields wire => exact ⟨.struct, fun h => by cases h; assumption⟩
  | _ => exact Iff.rfl

/-! ### Walking -/

theorem itemAt_eq_ok_iff {digits : List Char} {items : List Value} {w : Value}
    (h : digits.length ≤ Numeral.digitLimit) :
    itemAt digits items = .ok w ↔ items[Text.digitsValue digits]? = some w := by
  rw [itemAt, if_neg (Nat.not_lt.mpr h)]
  cases items[Text.digitsValue digits]? <;> simp

/-- A step into a value as it can be walked into leads to what it has there. -/
theorem Segment.step_opened_eq_ok_iff {s : Segment} (hs : s.Readable) (v w : Value) :
    s.step (opened v) = .ok w ↔ (opened v).Has s.location w := by
  have hstruct := opened_ne_struct v
  rw [step_opened]
  -- Only values with names lead on by a key, and only values with items by an index.
  cases s with
  | key name =>
    rw [Segment.step, Segment.location]
    generalize opened v = v at hstruct ⊢
    constructor
    · intro h
      split at h
      · next u hu =>
        obtain rfl := Except.ok.inj h
        cases v with
        | record fs => exact .record hu
        | table rows => exact .table ((get?_named_table rows _).symm.trans hu)
        | _ => cases hu
      · cases h
    · intro h
      cases h with
      | record h => simp [Value.named?, h]
      | table h => simp only [get?_named_table, h]
      | struct => exact absurd rfl (hstruct _ _ _)
  | index digits =>
    rw [Segment.step, Segment.location]
    generalize opened v = v at hstruct ⊢
    constructor
    · intro h
      split at h
      · next items hitems =>
        rw [itemAt_eq_ok_iff hs] at h
        cases v with
        | list vs =>
          obtain rfl := Option.some.inj hitems
          exact .list h
        | tuple vs =>
          obtain rfl := Option.some.inj hitems
          exact .tuple h
        | _ => cases hitems
      · cases h
    · intro h
      cases h with
      | list h => exact (itemAt_eq_ok_iff hs).mpr h
      | tuple h => exact (itemAt_eq_ok_iff hs).mpr h
      | struct => exact absurd rfl (hstruct _ _ _)

/-- A step of a walk leads to what the value has there. -/
theorem Segment.step_eq_ok_iff {s : Segment} (hs : s.Readable) (v w : Value) :
    s.step v = .ok w ↔ v.Has s.location w := by
  rw [← s.step_opened, step_opened_eq_ok_iff hs, v.opened_has_iff]

/-- A walk leads to what lies inside the value there. -/
theorem walk_eq_ok_iff {ss : List Segment} (hss : ∀ s ∈ ss, s.Readable) (v u : Value) :
    walk v ss = .ok u ↔ v.Holds (ss.map Segment.location) u := by
  induction ss generalizing v with
  | nil =>
    constructor
    · intro h
      rw [← Except.ok.inj h]
      exact .here v
    · intro h
      cases h
      rfl
  | cons s ss ih =>
    obtain ⟨hs, hrest⟩ := List.forall_mem_cons.mp hss
    rw [walk, List.map_cons]
    constructor
    · intro h
      cases hstep : s.step v with
      | error e =>
        rw [hstep] at h
        cases h
      | ok w =>
        rw [hstep] at h
        exact .there ((Segment.step_eq_ok_iff hs v w).mp hstep) ((ih hrest w).mp h)
    · intro h
      cases h with
      | there hhas hholds =>
        rw [(Segment.step_eq_ok_iff hs v _).mpr hhas]
        exact (ih hrest _).mpr hholds

/-- A walk stops where there is nothing, or at an index with too many digits. -/
theorem of_walk_eq_error {ss : List Segment} {v : Value} {e : DeadEnd} (h : walk v ss = .error e) :
    e = .nothing ∨ ∃ digits, Segment.index digits ∈ ss ∧ Numeral.digitLimit < digits.length ∧
      e = .unreadableIndex (.tooManyDigits digits.length) := by
  induction ss generalizing v with
  | nil => cases h
  | cons s ss ih =>
    rw [walk] at h
    cases hstep : s.step v with
    | ok w =>
      rw [hstep] at h
      rcases ih h with hnothing | ⟨digits, hmem, hlong⟩
      · exact .inl hnothing
      · exact .inr ⟨digits, List.mem_cons_of_mem s hmem, hlong⟩
    | error e' =>
      rw [hstep] at h
      obtain rfl := Except.error.inj h
      -- A key that leads nowhere comes to nothing; only an index may also be unreadable.
      cases s with
      | key name =>
        rw [Segment.step] at hstep
        split at hstep
        · cases hstep
        · exact .inl (Except.error.inj hstep).symm
      | index digits =>
        rw [Segment.step] at hstep
        split at hstep
        · rw [itemAt] at hstep
          split_ifs at hstep with hlong
          · exact .inr ⟨digits, List.mem_cons_self, hlong, (Except.error.inj hstep).symm⟩
          · split at hstep
            · cases hstep
            · exact .inl (Except.error.inj hstep).symm
        · exact .inl (Except.error.inj hstep).symm

/-- A walk along indices that can be read stops only where there is nothing. -/
theorem eq_nothing_of_walk_eq_error {ss : List Segment} (hss : ∀ s ∈ ss, s.Readable) {v : Value}
    {e : DeadEnd} (h : walk v ss = .error e) : e = .nothing := by
  rcases of_walk_eq_error h with hnothing | ⟨digits, hmem, hlong, -⟩
  · exact hnothing
  · exact absurd hlong (Nat.not_lt.mpr (hss _ hmem))

/-! ### Copies -/

mutual

/-- What a value is copied as: tuples become lists, and what is neither a sequence nor a map is its
own copy. -/
inductive Value.CopiedAs : Value → Value → Prop where
  | list {vs ws : List Value} (h : Value.ItemsCopied vs ws) : CopiedAs (.list vs) (.list ws)
  | tuple {vs ws : List Value} (h : Value.ItemsCopied vs ws) : CopiedAs (.tuple vs) (.list ws)
  | record {fs gs : List (String × Value)} (h : Value.FieldsCopied fs gs) :
    CopiedAs (.record fs) (.record gs)
  | table {rows rows' : List (Value × Value)} (h : Value.RowsCopied rows rows') :
    CopiedAs (.table rows) (.table rows')
  | single {v : Value} (hitems : v.items? = none) (hnamed : v.named? = none) : CopiedAs v v

/-- Items and their copies, one by one. -/
inductive Value.ItemsCopied : List Value → List Value → Prop where
  | nil : ItemsCopied [] []
  | cons {v w : Value} {vs ws : List Value} (h : Value.CopiedAs v w)
    (hrest : Value.ItemsCopied vs ws) : ItemsCopied (v :: vs) (w :: ws)

/-- Fields and their copies under the same names. -/
inductive Value.FieldsCopied : List (String × Value) → List (String × Value) → Prop where
  | nil : FieldsCopied [] []
  | cons {name : String} {v w : Value} {fs gs : List (String × Value)} (h : Value.CopiedAs v w)
    (hrest : Value.FieldsCopied fs gs) : FieldsCopied ((name, v) :: fs) ((name, w) :: gs)

/-- Rows and their copies under the same keys. -/
inductive Value.RowsCopied : List (Value × Value) → List (Value × Value) → Prop where
  | nil : RowsCopied [] []
  | cons {key v w : Value} {rows rows' : List (Value × Value)} (h : Value.CopiedAs v w)
    (hrest : Value.RowsCopied rows rows') : RowsCopied ((key, v) :: rows) ((key, w) :: rows')

end

mutual

/-- The copy of a value is the value with plain lists for its tuples. -/
theorem copiedAs_iff (v w : Value) : v.CopiedAs w ↔ w = detached v := by
  -- The rule for single values is ruled out for containers by the items or names they have.
  match v with
  | .list vs =>
    rw [detached]
    refine ⟨fun h => ?_, fun h => h ▸ .list ((itemsCopied_iff vs _).mpr rfl)⟩
    cases h with
    | list h => rw [(itemsCopied_iff vs _).mp h]
    | single hitems _ => cases hitems
  | .tuple vs =>
    rw [detached]
    refine ⟨fun h => ?_, fun h => h ▸ .tuple ((itemsCopied_iff vs _).mpr rfl)⟩
    cases h with
    | tuple h => rw [(itemsCopied_iff vs _).mp h]
    | single hitems _ => cases hitems
  | .record fs =>
    rw [detached]
    refine ⟨fun h => ?_, fun h => h ▸ .record ((fieldsCopied_iff fs _).mpr rfl)⟩
    cases h with
    | record h => rw [(fieldsCopied_iff fs _).mp h]
    | single _ hnamed => cases hnamed
  | .table rows =>
    rw [detached]
    refine ⟨fun h => ?_, fun h => h ▸ .table ((rowsCopied_iff rows _).mpr rfl)⟩
    cases h with
    | table h => rw [(rowsCopied_iff rows _).mp h]
    | single _ hnamed => cases hnamed
  | .null => exact ⟨fun h => by cases h; rfl, fun h => h ▸ .single rfl rfl⟩
  | .bool _ => exact ⟨fun h => by cases h; rfl, fun h => h ▸ .single rfl rfl⟩
  | .int _ => exact ⟨fun h => by cases h; rfl, fun h => h ▸ .single rfl rfl⟩
  | .float _ => exact ⟨fun h => by cases h; rfl, fun h => h ▸ .single rfl rfl⟩
  | .text _ => exact ⟨fun h => by cases h; rfl, fun h => h ▸ .single rfl rfl⟩
  | .bytes _ => exact ⟨fun h => by cases h; rfl, fun h => h ▸ .single rfl rfl⟩
  | .struct .. => exact ⟨fun h => by cases h; rfl, fun h => h ▸ .single rfl rfl⟩

theorem itemsCopied_iff (vs ws : List Value) :
    Value.ItemsCopied vs ws ↔ ws = detachedItems vs := by
  match vs with
  | [] => exact ⟨fun h => by cases h; rfl, fun h => h ▸ .nil⟩
  | v :: vs =>
    rw [detachedItems]
    refine ⟨fun h => ?_, fun h =>
      h ▸ .cons ((copiedAs_iff v _).mpr rfl) ((itemsCopied_iff vs _).mpr rfl)⟩
    cases h with
    | cons h hrest => rw [(copiedAs_iff v _).mp h, (itemsCopied_iff vs _).mp hrest]

theorem fieldsCopied_iff (fs gs : List (String × Value)) :
    Value.FieldsCopied fs gs ↔ gs = detachedFields fs := by
  match fs with
  | [] => exact ⟨fun h => by cases h; rfl, fun h => h ▸ .nil⟩
  | (name, v) :: fs =>
    rw [detachedFields]
    refine ⟨fun h => ?_, fun h =>
      h ▸ .cons ((copiedAs_iff v _).mpr rfl) ((fieldsCopied_iff fs _).mpr rfl)⟩
    cases h with
    | cons h hrest => rw [(copiedAs_iff v _).mp h, (fieldsCopied_iff fs _).mp hrest]

theorem rowsCopied_iff (rows rows' : List (Value × Value)) :
    Value.RowsCopied rows rows' ↔ rows' = detachedRows rows := by
  match rows with
  | [] => exact ⟨fun h => by cases h; rfl, fun h => h ▸ .nil⟩
  | (key, v) :: rows =>
    rw [detachedRows]
    refine ⟨fun h => ?_, fun h =>
      h ▸ .cons ((copiedAs_iff v _).mpr rfl) ((rowsCopied_iff rows _).mpr rfl)⟩
    cases h with
    | cons h hrest => rw [(copiedAs_iff v _).mp h, (rowsCopied_iff rows _).mp hrest]

end

/-! ### Paths to all places -/

/-- The segment that leads to a location. -/
def Location.segment : Location → Segment
  | .field name => .key name.toList
  | .item n => .index (Nat.toDigits 10 n)

/-- A location whose name is a key of the path language. -/
def Location.IsNameable : Location → Prop
  | .field name => Path.IsKey name.toList
  | .item _ => True

theorem Text.digitValue?_of_isDigit {c : Char} (h : c.isDigit = true) :
    Text.digitValue? c = some (c.toNat - 0x30) := by
  obtain ⟨hlow, hhigh⟩ := Char.isDigit_iff_toNat.mp h
  have h1 : c.toNat < 0x80 := Nat.lt_of_le_of_lt hhigh (by decide)
  have h2 : '0' ≤ c ∧ c ≤ '9' := ⟨hlow, hhigh⟩
  rw [Text.digitValue?, if_pos h1, if_pos h2]

theorem Text.isDigit_of_isDigit {c : Char} (h : c.isDigit = true) : Text.isDigit c = true := by
  rw [Text.isDigit, Text.digitValue?_of_isDigit h, Option.isSome_some]

/-- The digits of a number denote the number. -/
theorem Text.digitsValue_toDigits (n : Nat) : Text.digitsValue (Nat.toDigits 10 n) = n := by
  have hdigits : ∀ c ∈ Nat.toDigits 10 n, c.isDigit = true := fun c hc =>
    Nat.isDigit_of_mem_toDigits (by decide) (by decide) hc
  have hfold : ∀ (cs : List Char) (k : Nat), (∀ c ∈ cs, c.isDigit = true) →
      cs.foldl (fun m c => 10 * m + (Text.digitValue? c).getD 0) k = Nat.ofDigitChars 10 cs k := by
    intro cs
    induction cs with
    | nil => simp
    | cons c cs ih =>
      intro k h
      obtain ⟨hc, hcs⟩ := List.forall_mem_cons.mp h
      rw [List.foldl_cons, ih _ hcs, Nat.ofDigitChars_cons, Text.digitValue?_of_isDigit hc]
      rfl
  rw [Text.digitsValue, hfold _ 0 hdigits, Nat.ofDigitChars_ten_toDigits]

theorem Location.location_segment (l : Location) : l.segment.location = l := by
  cases l with
  | field name => simp [Location.segment, Segment.location]
  | item n => simp [Location.segment, Segment.location, Text.digitsValue_toDigits]

theorem Location.segment_wellFormed {l : Location} (h : l.IsNameable) :
    l.segment.WellFormed := by
  cases l with
  | field name => exact h
  | item n =>
    exact ⟨Nat.toDigits_ne_nil, fun d hd =>
      Text.isDigit_of_isDigit (Nat.isDigit_of_mem_toDigits (by decide) (by decide) hd)⟩

/-! ### Resolving -/

/-- The value of an expression is the copy of what lies where its path leads, and an expression
whose path leads nowhere is the failure that names it. -/
theorem Context.resolveText_iff (c : Context) {s : String} {p : Path} (hp : p.WellFormed)
    (hs : p.render = s.toList) (hread : ∀ seg ∈ p.tail, seg.Readable) :
    (∀ u, c.resolveText s = .ok u ↔
      ∃ w, (Value.record c.root).Holds p.locations w ∧ w.CopiedAs u) ∧
    ∀ e, c.resolveText s = .error e ↔
      e = .unresolved s ∧ ¬ ∃ w, (Value.record c.root).Holds p.locations w := by
  have hparse : Path.parse s.toList = some p := (Path.parse_eq_some_iff s.toList p).mpr ⟨hp, hs⟩
  have hreadable : ∀ seg ∈ Segment.key p.head :: p.tail, seg.Readable :=
    List.forall_mem_cons.mpr ⟨trivial, hread⟩
  have hwalk : ∀ w, walk (.record c.root) (.key p.head :: p.tail) = .ok w ↔
      (Value.record c.root).Holds p.locations w := walk_eq_ok_iff hreadable _
  simp only [resolveText, hparse, resolvePath]
  cases hend : walk (.record c.root) (.key p.head :: p.tail) with
  | ok w =>
    have hholds := (hwalk w).mp hend
    -- The walk has a single end, so what lies there is what was found.
    have hunique : ∀ w', (Value.record c.root).Holds p.locations w' → w' = w := by
      intro w' hw'
      rw [← hwalk, hend] at hw'
      exact (Except.ok.inj hw').symm
    constructor
    · intro u
      constructor
      · intro hu
        exact ⟨w, hholds, (copiedAs_iff w u).mpr (Except.ok.inj hu).symm⟩
      · rintro ⟨w', hw', hcopied⟩
        rw [hunique w' hw', copiedAs_iff] at hcopied
        rw [hcopied]
    · intro e
      constructor
      · intro he
        cases he
      · rintro ⟨-, hnone⟩
        exact absurd ⟨w, hholds⟩ hnone
  | error dead =>
    obtain rfl := eq_nothing_of_walk_eq_error hreadable hend
    have hnone : ¬ ∃ w, (Value.record c.root).Holds p.locations w := by
      rintro ⟨w, hw⟩
      rw [← hwalk, hend] at hw
      cases hw
    constructor
    · intro u
      constructor
      · intro hu
        cases hu
      · rintro ⟨w, hw, -⟩
        exact absurd ⟨w, hw⟩ hnone
    · intro e
      constructor
      · intro he
        exact ⟨(Except.error.inj he).symm, hnone⟩
      · rintro ⟨rfl, -⟩
        rfl

/-- **The path language.** A text is an expression exactly if it is the text of a well-formed path,
which is unique.  It stands for the copy of what lies in the context where the path leads, and if
nothing lies there, resolving it fails and names it.  Whatever lies in the context under keys of the
language is what the text of the path to it stands for.  Every other value stands for itself. -/
theorem path_language (c : Context) :
    (∀ s : String, isExpression (.text s) = true ↔
      ∃ p : Path, p.WellFormed ∧ p.render = s.toList) ∧
    (∀ p q : Path, p.WellFormed → q.WellFormed → p.render = q.render → p = q) ∧
    (∀ (s : String) (p : Path), p.WellFormed → p.render = s.toList →
      (∀ seg ∈ p.tail, seg.Readable) →
      (∀ u, c.resolve (.text s) = .ok u ↔
        ∃ w, (Value.record c.root).Holds p.locations w ∧ w.CopiedAs u) ∧
      ∀ e, c.resolve (.text s) = .error e ↔
        e = .unresolved s ∧ ¬ ∃ w, (Value.record c.root).Holds p.locations w) ∧
    (∀ (name : String) (ls : List Location) (w : Value), Path.IsKey name.toList →
      (∀ l ∈ ls, l.IsNameable ∧ l.segment.Readable) →
      (Value.record c.root).Holds (.field name :: ls) w →
      ∃ u, w.CopiedAs u ∧ c.resolve (.text (String.ofList
        (Path.render ⟨name.toList, ls.map Location.segment⟩))) = .ok u) ∧
    ∀ v, isExpression v = false → c.resolve v = .ok v := by
  refine ⟨fun s => ?_, fun p q => Path.eq_of_render_eq, fun s p hp hs => c.resolveText_iff hp hs,
    fun name ls w hname hls hw => ?_, fun v hv => ?_⟩
  · simp only [isExpression, expressionPath?, Option.isSome_iff_exists, Path.parse_eq_some_iff]
  · have hp : Path.WellFormed ⟨name.toList, ls.map Location.segment⟩ := by
      refine ⟨hname, fun s hs => ?_⟩
      obtain ⟨l, hl, rfl⟩ := List.mem_map.mp hs
      exact Location.segment_wellFormed (hls l hl).1
    have hread : ∀ s ∈ ls.map Location.segment, s.Readable := by
      intro s hs
      obtain ⟨l, hl, rfl⟩ := List.mem_map.mp hs
      exact (hls l hl).2
    -- The path of the locations leads to them.
    have hsame : (ls.map Location.segment).map Segment.location = ls := by
      rw [List.map_map]
      exact (List.map_congr_left fun l _ => l.location_segment).trans (List.map_id ls)
    have hlocations : Path.locations ⟨name.toList, ls.map Location.segment⟩
        = .field name :: ls := by
      rw [Path.locations, hsame, String.ofList_toList]
    have hcopied : w.CopiedAs (detached w) := (copiedAs_iff w _).mpr rfl
    refine ⟨detached w, hcopied, ?_⟩
    refine ((c.resolveText_iff hp (by simp) hread).1 _).mpr ⟨w, ?_, hcopied⟩
    rwa [hlocations]
  · cases v with
    | text s =>
      rw [isExpression, expressionPath?, Option.isSome_eq_false_iff, Option.isNone_iff_eq_none]
        at hv
      simp only [Context.resolve, Context.resolveText, hv]
    | _ => rfl

/-- An offer as a struct, whose field has another name in the object that stands for it. -/
def offer : Value :=
  .struct ⟨"Offer", "market.Offer"⟩ [("quote_id", .text "c")] (.record [("quoteId", .text "c")])

/-- A context in which two quotes are kept in a tuple and an offer as it is. -/
def quotedContext : Context :=
  ⟨⟨.null, .null, .null, .null, .null⟩, .record [], 0, .int 300, .int 3600, .int 86400,
    [("quotes", Context.outputEntry
      (.tuple [.record [("id", .text "a")], .record [("id", .text "b")]])),
    ("offer", Context.outputEntry offer)]⟩

/-- The second quote has a path through all kinds of segments.  A path goes into the offer by the
names of the object that stands for it, and the offer at the end of a path stays a struct. -/
theorem path_language_quotedContext :
    Path.WellFormed ⟨"steps".toList, [.key "quotes".toList, .key "output".toList, .index ['1'],
      .key "id".toList]⟩ ∧
    quotedContext.resolve (.text "$.steps.quotes.output[1].id") = .ok (.text "b") ∧
    quotedContext.resolve (.text "$.steps.offer.output.quoteId") = .ok (.text "c") ∧
    quotedContext.resolve (.text "$.steps.offer.output") = .ok offer := by
  have hp : Path.WellFormed ⟨"steps".toList, [.key "quotes".toList, .key "output".toList,
      .index ['1'], .key "id".toList]⟩ := ⟨by decide, by decide⟩
  have hread : ∀ seg ∈ [Segment.key "quotes".toList, .key "output".toList, .index ['1'],
      .key "id".toList], seg.Readable := by
    simp [Segment.Readable, Numeral.digitLimit]
  have hstruct : Path.WellFormed ⟨"steps".toList, [.key "offer".toList, .key "output".toList,
      .key "quoteId".toList]⟩ := ⟨by decide, by decide⟩
  have hoffer : Path.WellFormed ⟨"steps".toList, [.key "offer".toList, .key "output".toList]⟩ :=
    ⟨by decide, by decide⟩
  obtain ⟨-, -, hresolve, -⟩ := path_language quotedContext
  refine ⟨hp, ?_, ?_, ?_⟩
  · refine ((hresolve "$.steps.quotes.output[1].id" _ hp (by decide) hread).1 _).mpr
      ⟨.text "b", ?_, .single rfl rfl⟩
    exact .there (.record rfl) (.there (.record rfl) (.there (.record rfl) (.there (.tuple rfl)
      (.there (.record rfl) (.here _)))))
  · refine ((hresolve "$.steps.offer.output.quoteId" _ hstruct (by decide)
      (by simp [Segment.Readable])).1 _).mpr ⟨.text "c", ?_, .single rfl rfl⟩
    exact .there (.record rfl) (.there (.record rfl) (.there (.record rfl)
      (.there (.struct (.record rfl)) (.here _))))
  · refine ((hresolve "$.steps.offer.output" _ hoffer (by decide)
      (by simp [Segment.Readable])).1 _).mpr ⟨offer, ?_, .single rfl rfl⟩
    exact .there (.record rfl) (.there (.record rfl) (.there (.record rfl) (.here _)))

end Workflow
