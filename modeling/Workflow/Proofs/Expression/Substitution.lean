import Workflow.Proofs.Expression.References
import Workflow.Proofs.Expression.Walks
import Workflow.Proofs.Outcomes

/-!
# What is put in place of expressions

`Context.Filled` relates a value to the value with its expressions replaced: each of them by the
value that it stands for, exactly as that value is, so that a text inside of it is no expression any
more.  Everything else is kept, with plain lists for tuples.  Resolving a value fills it in or fails
(`Context.filled_iff`), and what it does depends on nothing but what the expressions of the value
stand for (`Context.resolveAll_congr`).

An expression fails by leading nowhere.  The one other way to fail is an index with too many digits
at a place where there is a sequence (`Context.resolveText_eq_tooManyDigits_iff`);
`longIndex_not_unresolved` shows such an expression.  `resolution_single_pass` puts all this
together.
-/

namespace Workflow

/-! ### Filling in -/

mutual

/-- What a value is with its expressions replaced by the values that they stand for. -/
inductive Context.Filled (c : Context) : Value → Value → Prop where
  | expression {s : String} {w : Value} (hs : isExpression (.text s) = true)
    (h : c.resolve (.text s) = .ok w) : Filled c (.text s) w
  | single {v : Value} (hitems : v.items? = none) (hnamed : v.named? = none)
    (hv : isExpression v = false) : Filled c v v
  | list {vs ws : List Value} (h : Context.ItemsFilled c vs ws) : Filled c (.list vs) (.list ws)
  | tuple {vs ws : List Value} (h : Context.ItemsFilled c vs ws) : Filled c (.tuple vs) (.list ws)
  | record {fs gs : List (String × Value)} (h : Context.FieldsFilled c fs gs) :
    Filled c (.record fs) (.record gs)
  | table {rows rows' : List (Value × Value)} (h : Context.RowsFilled c rows rows') :
    Filled c (.table rows) (.table rows')

/-- Items filled in, one by one. -/
inductive Context.ItemsFilled (c : Context) : List Value → List Value → Prop where
  | nil : ItemsFilled c [] []
  | cons {v w : Value} {vs ws : List Value} (h : Context.Filled c v w)
    (hrest : Context.ItemsFilled c vs ws) : ItemsFilled c (v :: vs) (w :: ws)

/-- Fields filled in under the same names. -/
inductive Context.FieldsFilled (c : Context) :
    List (String × Value) → List (String × Value) → Prop where
  | nil : FieldsFilled c [] []
  | cons {name : String} {v w : Value} {fs gs : List (String × Value)} (h : Context.Filled c v w)
    (hrest : Context.FieldsFilled c fs gs) : FieldsFilled c ((name, v) :: fs) ((name, w) :: gs)

/-- Rows filled in under the same keys. -/
inductive Context.RowsFilled (c : Context) :
    List (Value × Value) → List (Value × Value) → Prop where
  | nil : RowsFilled c [] []
  | cons {key v w : Value} {rows rows' : List (Value × Value)} (h : Context.Filled c v w)
    (hrest : Context.RowsFilled c rows rows') : RowsFilled c ((key, v) :: rows) ((key, w) :: rows')

end

namespace Context

/-- A value of a kind that holds no other values is filled in with itself. -/
theorem filled_single_iff {c : Context} {v : Value} (hitems : v.items? = none)
    (hnamed : v.named? = none) (hv : isExpression v = false) (w : Value) :
    c.Filled v w ↔ Except.ok v = (.ok w : Except Failure Value) := by
  constructor
  · intro h
    cases h with
    | single => rfl
    | expression hs h => exact absurd (hs.symm.trans hv) nofun
    | list h => cases hitems
    | tuple h => cases hitems
    | record h => cases hnamed
    | table h => cases hnamed
  · intro h
    rw [← Except.ok.inj h]
    exact .single hitems hnamed hv

/-- A text is filled in with what it is resolved to. -/
theorem filled_text_iff (c : Context) (s : String) (w : Value) :
    c.Filled (.text s) w ↔ c.resolveText s = .ok w := by
  cases hs : isExpression (.text s) with
  | true =>
    constructor
    · intro h
      cases h with
      | expression _ h => exact h
      | single _ _ hv => exact absurd (hs.symm.trans hv) nofun
    · intro h
      exact .expression hs h
  | false =>
    have hpath : Path.parse s.toList = none := by
      rw [isExpression, expressionPath?, Option.isSome_eq_false_iff, Option.isNone_iff_eq_none]
        at hs
      exact hs
    simp only [filled_single_iff rfl rfl hs, resolveText, hpath]

mutual

/-- Resolving a value fills it in. -/
theorem filled_iff (c : Context) (v w : Value) : c.Filled v w ↔ c.resolveAll v = .ok w := by
  -- As in `copiedAs_iff`, each container leaves one rule only, and `resolveAll` follows it.
  match v with
  | .text s =>
    rw [resolveAll]
    exact c.filled_text_iff s w
  | .list vs =>
    rw [resolveAll, Outcome.map_eq_ok_iff]
    constructor
    · intro h
      cases h with
      | list h => exact ⟨_, (itemsFilled_iff c vs _).mp h, rfl⟩
      | single hitems _ _ => cases hitems
    · rintro ⟨ws, h, rfl⟩
      exact .list ((itemsFilled_iff c vs ws).mpr h)
  | .tuple vs =>
    rw [resolveAll, Outcome.map_eq_ok_iff]
    constructor
    · intro h
      cases h with
      | tuple h => exact ⟨_, (itemsFilled_iff c vs _).mp h, rfl⟩
      | single hitems _ _ => cases hitems
    · rintro ⟨ws, h, rfl⟩
      exact .tuple ((itemsFilled_iff c vs ws).mpr h)
  | .record fs =>
    rw [resolveAll, Outcome.map_eq_ok_iff]
    constructor
    · intro h
      cases h with
      | record h => exact ⟨_, (fieldsFilled_iff c fs _).mp h, rfl⟩
      | single _ hnamed _ => cases hnamed
    · rintro ⟨gs, h, rfl⟩
      exact .record ((fieldsFilled_iff c fs gs).mpr h)
  | .table rows =>
    rw [resolveAll, Outcome.map_eq_ok_iff]
    constructor
    · intro h
      cases h with
      | table h => exact ⟨_, (rowsFilled_iff c rows _).mp h, rfl⟩
      | single _ hnamed _ => cases hnamed
    · rintro ⟨rows', h, rfl⟩
      exact .table ((rowsFilled_iff c rows rows').mpr h)
  | .null => exact filled_single_iff rfl rfl rfl w
  | .bool _ => exact filled_single_iff rfl rfl rfl w
  | .int _ => exact filled_single_iff rfl rfl rfl w
  | .float _ => exact filled_single_iff rfl rfl rfl w
  | .bytes _ => exact filled_single_iff rfl rfl rfl w
  | .struct .. => exact filled_single_iff rfl rfl rfl w

theorem itemsFilled_iff (c : Context) (vs ws : List Value) :
    c.ItemsFilled vs ws ↔ c.resolveItems vs = .ok ws := by
  match vs with
  | [] =>
    constructor
    · intro h
      cases h
      rfl
    · intro h
      rw [← Except.ok.inj h]
      exact .nil
  | v :: vs =>
    rw [resolveItems]
    constructor
    · intro h
      cases h with
      | cons h hrest =>
        rw [(filled_iff c v _).mp h, (itemsFilled_iff c vs _).mp hrest]
        rfl
    · intro h
      split at h
      · cases h
      · next w hw =>
        obtain ⟨ws', hws', rfl⟩ := Outcome.map_eq_ok_iff.mp h
        exact .cons ((filled_iff c v w).mpr hw) ((itemsFilled_iff c vs ws').mpr hws')

theorem fieldsFilled_iff (c : Context) (fs gs : List (String × Value)) :
    c.FieldsFilled fs gs ↔ c.resolveFields fs = .ok gs := by
  match fs with
  | [] =>
    constructor
    · intro h
      cases h
      rfl
    · intro h
      rw [← Except.ok.inj h]
      exact .nil
  | (name, v) :: fs =>
    rw [resolveFields]
    constructor
    · intro h
      cases h with
      | cons h hrest =>
        rw [(filled_iff c v _).mp h, (fieldsFilled_iff c fs _).mp hrest]
        rfl
    · intro h
      split at h
      · cases h
      · next w hw =>
        obtain ⟨gs', hgs', rfl⟩ := Outcome.map_eq_ok_iff.mp h
        exact .cons ((filled_iff c v w).mpr hw) ((fieldsFilled_iff c fs gs').mpr hgs')

theorem rowsFilled_iff (c : Context) (rows rows' : List (Value × Value)) :
    c.RowsFilled rows rows' ↔ c.resolveRows rows = .ok rows' := by
  match rows with
  | [] =>
    constructor
    · intro h
      cases h
      rfl
    · intro h
      rw [← Except.ok.inj h]
      exact .nil
  | (key, v) :: rows =>
    rw [resolveRows]
    constructor
    · intro h
      cases h with
      | cons h hrest =>
        rw [(filled_iff c v _).mp h, (rowsFilled_iff c rows _).mp hrest]
        rfl
    · intro h
      split at h
      · cases h
      · next w hw =>
        obtain ⟨rows'', hrows, rfl⟩ := Outcome.map_eq_ok_iff.mp h
        exact .cons ((filled_iff c v w).mpr hw) ((rowsFilled_iff c rows rows'').mpr hrows)

end

/-! ### What resolving depends on -/

/-- A text is resolved alike where it is resolved alike as the expression that it may be. -/
theorem resolveText_congr {c c' : Context} {s : String}
    (h : ∀ t ∈ expressionsIn (.text s), c'.resolveText t = c.resolveText t) :
    c'.resolveText s = c.resolveText s := by
  cases hpath : Path.parse s.toList with
  | none => simp only [resolveText, hpath]
  | some p =>
    apply h
    simp [expressionsIn, hpath]

mutual

/-- Values are resolved alike where their expressions are. -/
theorem resolveAll_congr {c c' : Context} (v : Value)
    (h : ∀ s ∈ expressionsIn v, c'.resolveText s = c.resolveText s) :
    c'.resolveAll v = c.resolveAll v := by
  match v with
  | .text s =>
    rw [resolveAll, resolveAll]
    exact resolveText_congr h
  | .list vs => rw [resolveAll, resolveAll, resolveItems_congr vs h]
  | .tuple vs => rw [resolveAll, resolveAll, resolveItems_congr vs h]
  | .record fs => rw [resolveAll, resolveAll, resolveFields_congr fs h]
  | .table rows => rw [resolveAll, resolveAll, resolveRows_congr rows h]
  | .null => rfl
  | .bool _ => rfl
  | .int _ => rfl
  | .float _ => rfl
  | .bytes _ => rfl
  | .struct .. => rfl

theorem resolveItems_congr {c c' : Context} (vs : List Value)
    (h : ∀ s ∈ expressionsInItems vs, c'.resolveText s = c.resolveText s) :
    c'.resolveItems vs = c.resolveItems vs := by
  match vs with
  | [] => rfl
  | v :: vs =>
    rw [expressionsInItems, List.forall_mem_append] at h
    rw [resolveItems, resolveItems, resolveAll_congr v h.1, resolveItems_congr vs h.2]

theorem resolveFields_congr {c c' : Context} (fs : List (String × Value))
    (h : ∀ s ∈ expressionsInFields fs, c'.resolveText s = c.resolveText s) :
    c'.resolveFields fs = c.resolveFields fs := by
  match fs with
  | [] => rfl
  | (name, v) :: fs =>
    rw [expressionsInFields, List.forall_mem_append] at h
    rw [resolveFields, resolveFields, resolveAll_congr v h.1, resolveFields_congr fs h.2]

theorem resolveRows_congr {c c' : Context} (rows : List (Value × Value))
    (h : ∀ s ∈ expressionsInRows rows, c'.resolveText s = c.resolveText s) :
    c'.resolveRows rows = c.resolveRows rows := by
  match rows with
  | [] => rfl
  | (key, v) :: rows =>
    rw [expressionsInRows, List.forall_mem_append] at h
    rw [resolveRows, resolveRows, resolveAll_congr v h.1, resolveRows_congr rows h.2]

end

end Context

/-! ### Indices with too many digits -/

/-- A walk has come past its indices only if they can be read. -/
theorem readable_of_walk_eq_ok {ss : List Segment} {v u : Value} (h : walk v ss = .ok u) :
    ∀ s ∈ ss, s.Readable := by
  induction ss generalizing v with
  | nil => simp
  | cons s ss ih =>
    rw [walk] at h
    obtain ⟨w, hstep, hrest⟩ := Outcome.bind_eq_ok_iff.mp h
    rw [List.forall_mem_cons]
    refine ⟨?_, ih hrest⟩
    cases s with
    | key name => trivial
    | index digits =>
      rw [Segment.step] at hstep
      split at hstep
      · rw [itemAt] at hstep
        split_ifs at hstep with hlong
        exact Nat.le_of_not_lt hlong
      · cases hstep

/-- A step cannot read its index exactly if the index has too many digits and there are items. -/
theorem Segment.step_eq_unreadable_iff {s : Segment} {v : Value} {e : Numeral.Error} :
    s.step v = .error (.unreadableIndex e) ↔ ∃ digits, s = .index digits ∧
      (opened v).items?.isSome = true ∧ Numeral.digitLimit < digits.length ∧
      e = .tooManyDigits digits.length := by
  cases s with
  | key name =>
    rw [Segment.step]
    split <;> simp
  | index digits =>
    rw [Segment.step]
    cases hitems : (opened v).items? with
    | none => simp
    | some items =>
      simp only [itemAt]
      split_ifs with hlong
      · simp [hlong, eq_comm]
      · cases items[Text.digitsValue digits]? <;> simp [hlong]

/-- A walk stops at an index that it cannot read exactly if it comes to items and the index into
them is the first one with too many digits. -/
theorem walk_eq_unreadable_iff {ss : List Segment} {v : Value} {e : Numeral.Error} :
    walk v ss = .error (.unreadableIndex e) ↔ ∃ front digits back w,
      ss = front ++ .index digits :: back ∧ walk v front = .ok w ∧
      (opened w).items?.isSome = true ∧ Numeral.digitLimit < digits.length ∧
      e = .tooManyDigits digits.length := by
  induction ss generalizing v with
  | nil => simp [walk]
  | cons s ss ih =>
    rw [walk, Outcome.bind_eq_error_iff, Segment.step_eq_unreadable_iff]
    constructor
    · rintro (⟨digits, rfl, hitems, hlong⟩ | ⟨w, hstep, hrest⟩)
      · exact ⟨[], digits, ss, v, rfl, rfl, hitems, hlong⟩
      · obtain ⟨front, digits, back, u, rfl, hfront, hlast⟩ := ih.mp hrest
        refine ⟨s :: front, digits, back, u, rfl, ?_, hlast⟩
        rw [walk]
        exact Outcome.bind_eq_ok_iff.mpr ⟨w, hstep, hfront⟩
    · rintro ⟨front, digits, back, u, hss, hfront, hlast⟩
      cases front with
      | nil =>
        obtain ⟨rfl, rfl⟩ := List.cons_eq_cons.mp hss
        obtain rfl := Except.ok.inj hfront
        exact .inl ⟨digits, rfl, hlast⟩
      | cons t front =>
        obtain ⟨rfl, rfl⟩ := List.cons_eq_cons.mp hss
        rw [walk] at hfront
        obtain ⟨w, hstep, hfront⟩ := Outcome.bind_eq_ok_iff.mp hfront
        exact .inr ⟨w, hstep, ih.mpr ⟨front, digits, back, u, rfl, hfront, hlast⟩⟩

namespace Context

/-- The path of an expression comes to a sequence in the context, and the index into it is the first
one that has too many digits; their number is `n`. -/
def MeetsLongIndex (c : Context) (s : String) (n : Nat) : Prop :=
  ∃ head front digits back w,
    Path.parse s.toList = some ⟨head, front ++ .index digits :: back⟩ ∧
    (∀ seg ∈ front, seg.Readable) ∧
    (Value.record c.root).Holds (Path.locations ⟨head, front⟩) w ∧
    (opened w).items?.isSome = true ∧ Numeral.digitLimit < digits.length ∧ n = digits.length

theorem resolveText_eq_tooManyDigits_iff (c : Context) (s : String) (n : Nat) :
    c.resolveText s = .error (.fault (.numeral (.tooManyDigits n))) ↔ c.MeetsLongIndex s n := by
  rw [MeetsLongIndex, resolveText]
  cases hparse : Path.parse s.toList with
  | none => simp
  | some p =>
    have hwalk : c.resolvePath s p = .error (.fault (.numeral (.tooManyDigits n))) ↔
        walk (.record c.root) (.key p.head :: p.tail)
          = .error (.unreadableIndex (.tooManyDigits n)) := by
      rw [resolvePath]
      split
      · next w hw => simp [hw]
      · next e he =>
        rw [he]
        cases e <;> simp [DeadEnd.failure]
    simp only [hwalk, walk_eq_unreadable_iff]
    constructor
    · rintro ⟨front, digits, back, w, hss, hfront, hitems, hlong, hn⟩
      -- The first segment is a key, so it is one of those in front of the index.
      cases front with
      | nil => cases hss
      | cons s' front =>
        obtain ⟨rfl, htail⟩ := List.cons_eq_cons.mp hss
        have hread := readable_of_walk_eq_ok hfront
        refine ⟨p.head, front, digits, back, w, ?_, ?_, ?_, hitems, hlong, ?_⟩
        · exact congrArg (fun tail => some (Path.mk p.head tail)) htail
        · exact (List.forall_mem_cons.mp hread).2
        · exact (walk_eq_ok_iff hread _ _).mp hfront
        · injection hn
    · rintro ⟨head, front, digits, back, w, hp, hread, hholds, hitems, hlong, rfl⟩
      obtain rfl := Option.some.inj hp
      have hread' : ∀ seg ∈ Segment.key head :: front, seg.Readable :=
        List.forall_mem_cons.mpr ⟨trivial, hread⟩
      refine ⟨.key head :: front, digits, back, w, rfl, ?_, hitems, hlong, rfl⟩
      exact (walk_eq_ok_iff hread' _ _).mpr hholds

/-- An expression fails by leading nowhere or by an index with too many digits. -/
theorem of_resolveText_eq_error {c : Context} {s : String} {e : Failure}
    (h : c.resolveText s = .error e) :
    e = .unresolved s ∨
      ∃ n, c.MeetsLongIndex s n ∧ e = .fault (.numeral (.tooManyDigits n)) := by
  have hcause : e = .unresolved s ∨ ∃ n, e = .fault (.numeral (.tooManyDigits n)) := by
    rw [resolveText] at h
    split at h
    · rw [resolvePath] at h
      split at h
      · cases h
      · next dead hwalk =>
        obtain rfl := Except.error.inj h
        rcases of_walk_eq_error hwalk with rfl | ⟨digits, -, -, rfl⟩
        · exact .inl rfl
        · exact .inr ⟨digits.length, rfl⟩
    · cases h
  rcases hcause with rfl | ⟨n, rfl⟩
  · exact .inl rfl
  · exact .inr ⟨n, (c.resolveText_eq_tooManyDigits_iff s n).mp h, rfl⟩

/-- Resolving a value fails exactly as the first of its expressions that cannot be resolved. -/
theorem resolveAll_eq_error_iff (c : Context) (v : Value) (e : Failure) :
    c.resolveAll v = .error e ↔ ∃ front s back, expressionsIn v = front ++ s :: back ∧
      (∀ t ∈ front, ∃ w, c.resolveText t = .ok w) ∧ c.resolveText s = .error e := by
  rw [← Outcome.map_eq_error_iff (f := fun _ => ()), resolveAll_outcome]
  constructor
  · exact exists_of_resolveEach_eq_error
  · rintro ⟨front, s, back, hlist, hfront, hs⟩
    rw [hlist, resolveEach_append, (resolveEach_eq_ok_iff c front).mpr hfront]
    simp only [resolveEach, hs]

/-- Resolving a value goes well exactly if all its expressions can be resolved. -/
theorem exists_resolveAll_eq_ok_iff (c : Context) (v : Value) :
    (∃ w, c.resolveAll v = .ok w) ↔ ∀ s ∈ expressionsIn v, ∃ w, c.resolveText s = .ok w := by
  rw [← resolveEach_eq_ok_iff, ← resolveAll_outcome]
  simp only [Outcome.map_eq_ok_iff, and_true]

end Context

/-! ### The theorem -/

/-- **Resolution is a single pass over the expressions of a value.** It goes well exactly if each of
the expressions can be resolved.  It fails as the first of them that cannot be, with the failure
that names this expression, unless its path comes to an index with too many digits: then, and only
then, it breaks off with that fault.  What comes out is the value with its expressions filled in,
and any two contexts in which the expressions stand for the same give the same. -/
theorem resolution_single_pass (c : Context) (v : Value) :
    ((∃ w, c.resolveAll v = .ok w) ↔
      ∀ s ∈ expressionsIn v, ∃ w, c.resolve (.text s) = .ok w) ∧
    (∀ e, c.resolveAll v = .error e ↔ ∃ front s back, expressionsIn v = front ++ s :: back ∧
      (∀ t ∈ front, ∃ w, c.resolve (.text t) = .ok w) ∧
      c.resolve (.text s) = .error e ∧
      (e = .unresolved s ∨
        ∃ n, c.MeetsLongIndex s n ∧ e = .fault (.numeral (.tooManyDigits n)))) ∧
    (∀ s n, c.resolve (.text s) = .error (.fault (.numeral (.tooManyDigits n))) ↔
      c.MeetsLongIndex s n) ∧
    (∀ w, c.resolveAll v = .ok w ↔ c.Filled v w) ∧
    ∀ c' : Context, (∀ s ∈ expressionsIn v, c'.resolve (.text s) = c.resolve (.text s)) →
      c'.resolveAll v = c.resolveAll v := by
  refine ⟨c.exists_resolveAll_eq_ok_iff v, fun e => ?_, c.resolveText_eq_tooManyDigits_iff,
    fun w => ?_, fun c' h => ?_⟩
  · rw [c.resolveAll_eq_error_iff]
    constructor
    · rintro ⟨front, s, back, hlist, hfront, hs⟩
      exact ⟨front, s, back, hlist, hfront, hs, Context.of_resolveText_eq_error hs⟩
    · rintro ⟨front, s, back, hlist, hfront, hs, -⟩
      exact ⟨front, s, back, hlist, hfront, hs⟩
  · exact (c.filled_iff v w).symm
  · exact Context.resolveAll_congr v h

/-- A context in which a step has put out a text that is an expression. -/
def echoContext (wallet : String) : Context :=
  ⟨⟨.text wallet, .null, .null, .null, .null⟩, .record [("a", .list [.int 1])], 0, .int 300,
    .int 3600, .int 86400, [("echo", Context.outputEntry (.text "$.wallet"))]⟩

/-- The text that is put in is not resolved again: whatever the wallet is, the text stays. -/
theorem resolution_single_pass_echoContext :
    (∀ s ∈ expressionsIn (.tuple [.text "$.steps.echo.output", .int 1]),
      (echoContext "0xbb").resolve (.text s) = (echoContext "0xaa").resolve (.text s)) ∧
    (echoContext "0xaa").resolveAll (.tuple [.text "$.steps.echo.output", .int 1])
      = .ok (.list [.text "$.wallet", .int 1]) ∧
    (echoContext "0xbb").resolveAll (.tuple [.text "$.steps.echo.output", .int 1])
      = .ok (.list [.text "$.wallet", .int 1]) := by
  have hecho : ∀ wallet, (echoContext wallet).resolve (.text "$.steps.echo.output")
      = .ok (.text "$.wallet") := fun wallet => rfl
  have hagree : ∀ s ∈ expressionsIn (.tuple [.text "$.steps.echo.output", .int 1]),
      (echoContext "0xbb").resolve (.text s) = (echoContext "0xaa").resolve (.text s) := by
    intro s hs
    obtain rfl := List.mem_singleton.mp hs
    rw [hecho, hecho]
  obtain ⟨-, -, -, hfilled, hcongr⟩ :=
    resolution_single_pass (echoContext "0xaa") (.tuple [.text "$.steps.echo.output", .int 1])
  have hout : (echoContext "0xaa").resolveAll (.tuple [.text "$.steps.echo.output", .int 1])
      = .ok (.list [.text "$.wallet", .int 1]) :=
    (hfilled _).mpr (.tuple (.cons (.expression rfl (hecho _))
      (.cons (.single rfl rfl rfl) .nil)))
  refine ⟨hagree, hout, ?_⟩
  rw [hcongr _ hagree, hout]

/-- The path to an item whose index has one digit too many. -/
def longIndex : Path :=
  ⟨"input".toList, [.key "a".toList, .index (List.replicate (Numeral.digitLimit + 1) '1')]⟩

theorem longIndex_wellFormed : longIndex.WellFormed := by
  refine ⟨by decide, ?_⟩
  simp only [longIndex, List.forall_mem_cons]
  refine ⟨by decide, ⟨by simp, fun d hd => ?_⟩, by simp⟩
  obtain rfl := List.eq_of_mem_replicate hd
  decide

theorem parse_longIndex : Path.parse (String.ofList longIndex.render).toList = some longIndex := by
  rw [String.toList_ofList]
  exact Path.parse_render longIndex_wellFormed

/-- There is a list of one item, so that the path comes to its index. -/
theorem echoContext_meets_longIndex (wallet : String) :
    (echoContext wallet).MeetsLongIndex (String.ofList longIndex.render)
      (Numeral.digitLimit + 1) := by
  refine ⟨_, [.key "a".toList], _, [], .list [.int 1], parse_longIndex, by simp [Segment.Readable],
    ?_, rfl, by simp, by simp⟩
  exact .there (.record rfl) (.there (.record rfl) (.here _))

/-- An index beyond the end of a list is not always reported as an expression that leads nowhere:
one with too many digits breaks off with a fault that does not name the expression. -/
theorem longIndex_not_unresolved :
    expressionsIn (.list [.text (String.ofList longIndex.render)])
      = [String.ofList longIndex.render] ∧
    (echoContext "0xaa").resolveAll (.list [.text (String.ofList longIndex.render)])
      = .error (.fault (.numeral (.tooManyDigits (Numeral.digitLimit + 1)))) ∧
    (echoContext "0xaa").resolveAll (.list [.text (String.ofList longIndex.render)])
      ≠ .error (.unresolved (String.ofList longIndex.render)) := by
  have hexpr : expressionsIn (.list [.text (String.ofList longIndex.render)])
      = [String.ofList longIndex.render] := by
    simp only [expressionsIn, expressionsInItems, parse_longIndex, Option.isSome_some, ↓reduceIte,
      List.append_nil]
  have hbreak : (echoContext "0xaa").resolveAll (.list [.text (String.ofList longIndex.render)])
      = .error (.fault (.numeral (.tooManyDigits (Numeral.digitLimit + 1)))) := by
    rw [Context.resolveAll_eq_error_iff]
    exact ⟨[], _, [], hexpr, by simp,
      (Context.resolveText_eq_tooManyDigits_iff _ _ _).mpr (echoContext_meets_longIndex _)⟩
  refine ⟨hexpr, hbreak, ?_⟩
  rw [hbreak]
  simp

end Workflow
