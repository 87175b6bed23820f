import Workflow.Proofs.Expression.Substitution
import Workflow.Proofs.Fields

/-!
# Values that are resolved once more

The expressions in a value that has been resolved are those in the values that were put in, in the
same order (`Context.Filled.expressionsIn_eq`); all other expressions are gone.  A resolved value
has plain lists for tuples already (`Context.Filled.copied`), so that without expressions there is
nothing in it that could change when it is resolved again, in whatever context
(`Value.CopiedAs.filled`).

With an expression left in it there is a context in which a value does change: in
`Context.bare`, where there is no text anywhere, no expression stands for itself.
`no_residual_expressions` has both directions.
-/

namespace Workflow

/-! ### Copies are their own copies -/

mutual

theorem Value.CopiedAs.again {v w : Value} (h : v.CopiedAs w) : w.CopiedAs w := by
  cases h with
  | list h => exact .list h.again
  | tuple h => exact .list h.again
  | record h => exact .record h.again
  | table h => exact .table h.again
  | single hitems hnamed => exact .single hitems hnamed

theorem Value.ItemsCopied.again {vs ws : List Value} (h : Value.ItemsCopied vs ws) :
    Value.ItemsCopied ws ws := by
  cases h with
  | nil => exact .nil
  | cons h hrest => exact .cons h.again hrest.again

theorem Value.FieldsCopied.again {fs gs : List (String × Value)} (h : Value.FieldsCopied fs gs) :
    Value.FieldsCopied gs gs := by
  cases h with
  | nil => exact .nil
  | cons h hrest => exact .cons h.again hrest.again

theorem Value.RowsCopied.again {rows rows' : List (Value × Value)}
    (h : Value.RowsCopied rows rows') : Value.RowsCopied rows' rows' := by
  cases h with
  | nil => exact .nil
  | cons h hrest => exact .cons h.again hrest.again

end

/-- What a text stands for is a copy. -/
theorem Context.copied_of_resolveText {c : Context} {s : String} {u : Value}
    (h : c.resolveText s = .ok u) : u.CopiedAs u := by
  unfold resolveText at h
  split at h
  · unfold resolvePath at h
    split at h
    · next w _ =>
      obtain rfl := Except.ok.inj h
      have hcopied : w.CopiedAs (detached w) := (copiedAs_iff w _).mpr rfl
      exact hcopied.again
    · cases h
  · rw [← Except.ok.inj h]
    exact .single rfl rfl

mutual

/-- A value that has been filled in has plain lists for tuples. -/
theorem Context.Filled.copied {c : Context} {v w : Value} (h : c.Filled v w) : w.CopiedAs w := by
  cases h with
  | expression hs h => exact Context.copied_of_resolveText h
  | single hitems hnamed hv => exact .single hitems hnamed
  | list h => exact .list h.copied
  | tuple h => exact .list h.copied
  | record h => exact .record h.copied
  | table h => exact .table h.copied

theorem Context.ItemsFilled.copied {c : Context} {vs ws : List Value} (h : c.ItemsFilled vs ws) :
    Value.ItemsCopied ws ws := by
  cases h with
  | nil => exact .nil
  | cons h hrest => exact .cons h.copied hrest.copied

theorem Context.FieldsFilled.copied {c : Context} {fs gs : List (String × Value)}
    (h : c.FieldsFilled fs gs) : Value.FieldsCopied gs gs := by
  cases h with
  | nil => exact .nil
  | cons h hrest => exact .cons h.copied hrest.copied

theorem Context.RowsFilled.copied {c : Context} {rows rows' : List (Value × Value)}
    (h : c.RowsFilled rows rows') : Value.RowsCopied rows' rows' := by
  cases h with
  | nil => exact .nil
  | cons h hrest => exact .cons h.copied hrest.copied

end

/-! ### The expressions of a value that has been resolved -/

/-- The expressions in what an expression stands for. -/
def Context.expressionsBehind (c : Context) (s : String) : List String :=
  match c.resolveText s with
  | .ok u => expressionsIn u
  | .error _ => []

theorem expressionsIn_text (s : String) :
    expressionsIn (.text s) = if isExpression (.text s) then [s] else [] := rfl

/-- A value that holds no other values has at most itself as an expression. -/
theorem expressionsIn_eq_nil_iff {v : Value} (hitems : v.items? = none) (hnamed : v.named? = none) :
    expressionsIn v = [] ↔ isExpression v = false := by
  cases v with
  | text s =>
    rw [expressionsIn_text]
    cases isExpression (.text s) <;> simp
  | list vs => cases hitems
  | tuple vs => cases hitems
  | record fs => cases hnamed
  | table rows => cases hnamed
  | _ => exact ⟨fun _ => rfl, fun _ => rfl⟩

mutual

/-- The expressions in a value that has been filled in are those of the values that were put in. -/
theorem Context.Filled.expressionsIn_eq {c : Context} {v w : Value} (h : c.Filled v w) :
    expressionsIn w = (expressionsIn v).flatMap c.expressionsBehind := by
  cases h with
  | expression hs h =>
    rename_i s
    have hbehind : c.expressionsBehind s = expressionsIn w := by
      have htext : c.resolveText s = .ok w := h
      rw [Context.expressionsBehind, htext]
    rw [expressionsIn_text, if_pos hs, List.flatMap_singleton, hbehind]
  | single hitems hnamed hv =>
    rw [(expressionsIn_eq_nil_iff hitems hnamed).mpr hv, List.flatMap_nil]
  | list h => exact h.expressionsIn_eq
  | tuple h => exact h.expressionsIn_eq
  | record h => exact h.expressionsIn_eq
  | table h => exact h.expressionsIn_eq

theorem Context.ItemsFilled.expressionsIn_eq {c : Context} {vs ws : List Value}
    (h : c.ItemsFilled vs ws) :
    expressionsInItems ws = (expressionsInItems vs).flatMap c.expressionsBehind := by
  cases h with
  | nil => rfl
  | cons h hrest =>
    rw [expressionsInItems, expressionsInItems, List.flatMap_append, h.expressionsIn_eq,
      hrest.expressionsIn_eq]

theorem Context.FieldsFilled.expressionsIn_eq {c : Context} {fs gs : List (String × Value)}
    (h : c.FieldsFilled fs gs) :
    expressionsInFields gs = (expressionsInFields fs).flatMap c.expressionsBehind := by
  cases h with
  | nil => rfl
  | cons h hrest =>
    rw [expressionsInFields, expressionsInFields, List.flatMap_append, h.expressionsIn_eq,
      hrest.expressionsIn_eq]

theorem Context.RowsFilled.expressionsIn_eq {c : Context} {rows rows' : List (Value × Value)}
    (h : c.RowsFilled rows rows') :
    expressionsInRows rows' = (expressionsInRows rows).flatMap c.expressionsBehind := by
  cases h with
  | nil => rfl
  | cons h hrest =>
    rw [expressionsInRows, expressionsInRows, List.flatMap_append, h.expressionsIn_eq,
      hrest.expressionsIn_eq]

end

/-! ### Values without expressions -/

mutual

/-- A value without expressions is filled in with its copy, whatever the context. -/
theorem Value.CopiedAs.filled {v w : Value} (h : v.CopiedAs w) (hnone : expressionsIn v = [])
    (c : Context) : c.Filled v w := by
  cases h with
  | list h => exact .list (h.filled hnone c)
  | tuple h => exact .tuple (h.filled hnone c)
  | record h => exact .record (h.filled hnone c)
  | table h => exact .table (h.filled hnone c)
  | single hitems hnamed =>
    exact .single hitems hnamed ((expressionsIn_eq_nil_iff hitems hnamed).mp hnone)

theorem Value.ItemsCopied.filled {vs ws : List Value} (h : Value.ItemsCopied vs ws)
    (hnone : expressionsInItems vs = []) (c : Context) : c.ItemsFilled vs ws := by
  cases h with
  | nil => exact .nil
  | cons h hrest =>
    rw [expressionsInItems, List.append_eq_nil_iff] at hnone
    exact .cons (h.filled hnone.1 c) (hrest.filled hnone.2 c)

theorem Value.FieldsCopied.filled {fs gs : List (String × Value)} (h : Value.FieldsCopied fs gs)
    (hnone : expressionsInFields fs = []) (c : Context) : c.FieldsFilled fs gs := by
  cases h with
  | nil => exact .nil
  | cons h hrest =>
    rw [expressionsInFields, List.append_eq_nil_iff] at hnone
    exact .cons (h.filled hnone.1 c) (hrest.filled hnone.2 c)

theorem Value.RowsCopied.filled {rows rows' : List (Value × Value)}
    (h : Value.RowsCopied rows rows') (hnone : expressionsInRows rows = []) (c : Context) :
    c.RowsFilled rows rows' := by
  cases h with
  | nil => exact .nil
  | cons h hrest =>
    rw [expressionsInRows, List.append_eq_nil_iff] at hnone
    exact .cons (h.filled hnone.1 c) (hrest.filled hnone.2 c)

end

/-! ### A context without texts -/

/-- A value that is put together from nothing, integers and records. -/
inductive Value.Textless : Value → Prop where
  | null : Textless .null
  | int (n : Int) : Textless (.int n)
  | record {fs : List (String × Value)} (h : ∀ field ∈ fs, Textless field.2) :
    Textless (.record fs)

/-- A context without any text in it. -/
def Context.bare : Context :=
  ⟨⟨.null, .null, .null, .null, .null⟩, .null, 0, .null, .null, .null, []⟩

theorem Context.textless_bare : (Value.record bare.root).Textless := by
  have hpart : ∀ fs : List (String × Value), (∀ field ∈ fs, field.2 = .null) →
      (Value.record fs).Textless := by
    intro fs hfs
    exact .record fun field hfield => hfs field hfield ▸ .null
  refine .record ?_
  simp only [root, bare, List.forall_mem_cons, List.not_mem_nil, false_imp_iff, implies_true,
    and_true]
  exact ⟨.null, .null, .null, .null, .int 0, .null, hpart _ (by simp), hpart _ (by simp),
    hpart _ (by simp)⟩

theorem expressionsInFields_detached {fs : List (String × Value)}
    (h : ∀ field ∈ fs, expressionsIn (detached field.2) = []) :
    expressionsInFields (detachedFields fs) = [] := by
  induction fs with
  | nil => rfl
  | cons field fs ih =>
    obtain ⟨hfield, hrest⟩ := List.forall_mem_cons.mp h
    rw [detachedFields, expressionsInFields, hfield, List.nil_append]
    exact ih hrest

namespace Value.Textless

theorem step {v w : Value} {seg : Segment} (hv : v.Textless) (h : seg.step v = .ok w) :
    w.Textless := by
  cases seg with
  | index digits => cases hv <;> cases h
  | key name =>
    cases hv with
    | null => cases h
    | int n => cases h
    | record hfs =>
      simp only [Segment.step, opened, Value.named?, Option.bind_some] at h
      split at h
      · next u hu =>
        obtain rfl := Except.ok.inj h
        exact hfs _ (Fields.mem_of_get? hu)
      · cases h

theorem walk {ss : List Segment} {v w : Value} (hv : v.Textless)
    (h : Workflow.walk v ss = .ok w) : w.Textless := by
  induction ss generalizing v with
  | nil =>
    rw [← Except.ok.inj h]
    exact hv
  | cons seg ss ih =>
    rw [Workflow.walk] at h
    obtain ⟨u, hu, hrest⟩ := Outcome.bind_eq_ok_iff.mp h
    exact ih (hv.step hu) hrest

theorem expressionsIn_detached {v : Value} (hv : v.Textless) : expressionsIn (detached v) = [] := by
  induction hv with
  | null => rfl
  | int n => rfl
  | record _ ih => exact expressionsInFields_detached ih

end Value.Textless

/-- In a context without texts nothing stands for a value with expressions. -/
theorem Context.expressionsBehind_bare (s : String) : bare.expressionsBehind s = [] := by
  unfold expressionsBehind resolveText
  cases hp : Path.parse s.toList with
  | none =>
    show expressionsIn (.text s) = []
    rw [expressionsIn, hp]
    rfl
  | some p =>
    simp only [resolvePath]
    cases hwalk : walk (.record bare.root) (.key p.head :: p.tail) with
    | error dead => rfl
    | ok w => exact (textless_bare.walk hwalk).expressionsIn_detached

/-! ### The theorem -/

/-- **No residual expressions.** A value that has been resolved stays what it is when it is resolved
again, in whatever context, and there is no expression left in it, exactly if there is none in the
values that its expressions stand for.  No more is needed than that it stays what it is in every
context. -/
theorem no_residual_expressions {c : Context} {v w : Value} (h : c.resolveAll v = .ok w) :
    ((∀ s ∈ expressionsIn v, ∀ u, c.resolve (.text s) = .ok u → expressionsIn u = []) ↔
      expressionsIn w = [] ∧ ∀ c' : Context, c'.resolveAll w = .ok w) ∧
    ((∀ c' : Context, c'.resolveAll w = .ok w) → expressionsIn w = []) := by
  have hfilled : c.Filled v w := (c.filled_iff v w).mpr h
  have hkept : expressionsIn w = [] → ∀ c' : Context, c'.resolveAll w = .ok w :=
    fun hnone c' => (c'.filled_iff w w).mp (hfilled.copied.filled hnone c')
  refine ⟨⟨fun hplain => ?_, ?_⟩, fun hstays => ?_⟩
  · have hnone : expressionsIn w = [] := by
      rw [hfilled.expressionsIn_eq, List.flatMap_eq_nil_iff]
      intro s hs
      unfold Context.expressionsBehind
      cases hres : c.resolveText s with
      | error e => rfl
      | ok u => exact hplain s hs u hres
    exact ⟨hnone, hkept hnone⟩
  · rintro ⟨hnone, -⟩ s hs u hu
    rw [hfilled.expressionsIn_eq, List.flatMap_eq_nil_iff] at hnone
    have htext : c.resolveText s = .ok u := hu
    have hbehind := hnone s hs
    rw [Context.expressionsBehind, htext] at hbehind
    exact hbehind
  · -- Resolved without a text in sight, the value loses all expressions that it may have.
    have hbare : Context.bare.Filled w w := (Context.bare.filled_iff w w).mpr (hstays _)
    rw [hbare.expressionsIn_eq, List.flatMap_eq_nil_iff]
    exact fun s _ => Context.expressionsBehind_bare s

/-- A tuple with an expression becomes a list with the quote in it, and then stays what it is. -/
theorem no_residual_expressions_quotedContext :
    quotedContext.resolveAll (.tuple [.text "$.steps.quotes.output[1]", .text "at $.wallet"])
      = .ok (.list [.record [("id", .text "b")], .text "at $.wallet"]) ∧
    expressionsIn (.list [.record [("id", .text "b")], .text "at $.wallet"]) = [] ∧
    ∀ c : Context, c.resolveAll (.list [.record [("id", .text "b")], .text "at $.wallet"])
      = .ok (.list [.record [("id", .text "b")], .text "at $.wallet"]) := by
  have hquote : quotedContext.resolve (.text "$.steps.quotes.output[1]")
      = .ok (.record [("id", .text "b")]) := by rfl
  have hresolved : quotedContext.resolveAll
      (.tuple [.text "$.steps.quotes.output[1]", .text "at $.wallet"])
        = .ok (.list [.record [("id", .text "b")], .text "at $.wallet"]) := by rfl
  refine ⟨hresolved, (no_residual_expressions hresolved).1.mp fun s hs u hu => ?_⟩
  obtain rfl := List.mem_singleton.mp hs
  rw [hquote] at hu
  rw [← Except.ok.inj hu]
  rfl

end Workflow
