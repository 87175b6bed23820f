import Workflow.Proofs.Context.Recording
import Workflow.Proofs.Expression.Paths
import Workflow.Proofs.Fields
import Workflow.Proofs.Outcomes

/-!
# Values that later recordings leave alone

Recording only adds entries to a context (`Context.exists_extended_behind`), and a call under a key
that is taken adds nothing.  So the path of an expression leads where it led before, whatever has
been recorded since (`Context.resolveText_extended`): the first key finds the same part of the
context, unless that part is what has been recorded, and in there the next key finds the entry that
it found before, because new entries stand behind the old ones (`Segment.step_append`).  The one
expression whose value changes is `$.steps`, which has no next key.
-/

namespace Workflow

/-! ### Calls that record -/

/-- A call that records something in a context. -/
inductive Recording where
  /-- An output. -/
  | output (key : String) (v : Value)
  /-- That a step was skipped. -/
  | skipped (key : String)

namespace Recording

/-- The key under which a call records. -/
def key : Recording → String
  | .output key _ => key
  | .skipped key => key

/-- What a call on a context returns. -/
def outcome (c : Context) : Recording → Except Fault Context
  | .output key v => c.recordOutput key v
  | .skipped key => c.recordSkipped key

/-- The context behind a call, which is the context in front of it if the call fails. -/
def leaves (c : Context) (call : Recording) : Context :=
  match call.outcome c with
  | .ok c' => c'
  | .error _ => c

theorem outcome_eq_error_iff {c : Context} {call : Recording} {fault : Fault} :
    call.outcome c = .error fault ↔
      c.isRecorded call.key = true ∧ fault = .keyTaken call.key := by
  cases call with
  | output key v => exact Context.record_eq_error_iff
  | skipped key => exact Context.record_eq_error_iff

theorem exists_extended_leaves (c : Context) (call : Recording) :
    ∃ entries, call.leaves c = c.extended entries := by
  unfold leaves
  cases houtcome : call.outcome c with
  | error fault => exact ⟨[], c.extended_nil.symm⟩
  | ok c' =>
    cases call with
    | output key v => exact ⟨_, (Context.record_eq_ok_iff.mp houtcome).2⟩
    | skipped key => exact ⟨_, (Context.record_eq_ok_iff.mp houtcome).2⟩

end Recording

/-- The context behind some calls in order. -/
def Context.behind (c : Context) (calls : List Recording) : Context :=
  calls.foldl Recording.leaves c

/-- Calls only add entries. -/
theorem Context.exists_extended_behind (c : Context) (calls : List Recording) :
    ∃ entries, c.behind calls = c.extended entries := by
  induction calls generalizing c with
  | nil => exact ⟨[], c.extended_nil.symm⟩
  | cons call calls ih =>
    obtain ⟨front, hfront⟩ := call.exists_extended_leaves c
    obtain ⟨back, hback⟩ := ih (call.leaves c)
    refine ⟨front ++ back, ?_⟩
    show (call.leaves c).behind calls = _
    rw [hback, hfront, extended_extended]

/-! ### Paths in a context with further entries -/

/-- A step into a record leads to the same value if there are further fields behind. -/
theorem Segment.step_append {seg : Segment} {fs : List (String × Value)} {v : Value}
    (h : seg.step (.record fs) = .ok v) (more : List (String × Value)) :
    seg.step (.record (fs ++ more)) = .ok v := by
  cases seg with
  | key name =>
    have hfound : Fields.get? fs (String.ofList name) = some v := by
      simp only [Segment.step, opened, Value.named?, Option.bind_some] at h
      split at h
      · next w hw => rw [hw, Except.ok.inj h]
      · cases h
    simp only [Segment.step, opened, Value.named?, Option.bind_some, Fields.get?_append, hfound,
      Option.some_or]
  | index digits => cases h

namespace Context

/-- What has been recorded is the only part of a context that recording adds to. -/
theorem get?_root_extended (c : Context) (entries : List (String × Value)) {name : String}
    (hname : name ≠ "steps") :
    Fields.get? (c.extended entries).root name = Fields.get? c.root name := by
  have hsteps : ¬ "steps" = name := Ne.symm hname
  simp only [root, extended, Fields.get?_cons, hsteps, ↓reduceIte]

/-- A path of one key to what has been recorded is that of a single expression. -/
theorem eq_steps_of_parse {s : String} {p : Path} (hp : Path.parse s.toList = some p)
    (hhead : String.ofList p.head = "steps") (htail : p.tail = []) : s = "$.steps" := by
  obtain ⟨-, hrender⟩ := Path.of_parse_eq_some hp
  have hchars : p.head = "steps".toList := by rw [← hhead, String.toList_ofList]
  rw [Path.render, hchars, htail] at hrender
  rw [← String.ofList_toList (s := s), ← hrender]
  rfl

/-- A walk that has found something in a context finds it with further entries, too. -/
theorem walk_root_extended {c : Context} {head : List Char} {tail : List Segment} {v : Value}
    (hsteps : String.ofList head = "steps" → tail ≠ [])
    (h : walk (.record c.root) (.key head :: tail) = .ok v) (entries : List (String × Value)) :
    walk (.record (c.extended entries).root) (.key head :: tail) = .ok v := by
  rw [walk] at h ⊢
  obtain ⟨part, hpart, hrest⟩ := Outcome.bind_eq_ok_iff.mp h
  by_cases hhead : String.ofList head = "steps"
  · -- The way leads into what has been recorded, and there is a second key to tell entries apart.
    have hrecorded : ∀ c' : Context,
        (Segment.key head).step (.record c'.root) = .ok (.record c'.outputs) := by
      intro c'
      rw [Segment.step, hhead]
      rfl
    rw [hrecorded] at hpart ⊢
    obtain rfl := Except.ok.inj hpart
    cases tail with
    | nil => exact absurd rfl (hsteps hhead)
    | cons seg rest =>
      rw [walk] at hrest
      obtain ⟨w, hw, hw'⟩ := Outcome.bind_eq_ok_iff.mp hrest
      rw [Outcome.ok_bind, walk, extended_outputs, Segment.step_append hw]
      exact hw'
  · have hsame : (Segment.key head).step (.record (c.extended entries).root)
        = (Segment.key head).step (.record c.root) := by
      simp only [Segment.step, opened, Value.named?, Option.bind_some,
        c.get?_root_extended entries hhead]
    rw [hsame, hpart]
    exact hrest

/-- With further entries every text but `$.steps` stands for what it stood for. -/
theorem resolveText_extended {c : Context} {s : String} {u : Value} (hs : s ≠ "$.steps")
    (h : c.resolveText s = .ok u) (entries : List (String × Value)) :
    (c.extended entries).resolveText s = .ok u := by
  unfold resolveText at h ⊢
  cases hp : Path.parse s.toList with
  | none =>
    rw [hp] at h
    exact h
  | some p =>
    rw [hp] at h
    simp only [resolvePath] at h ⊢
    have hsteps : String.ofList p.head = "steps" → p.tail ≠ [] :=
      fun hhead htail => hs (eq_steps_of_parse hp hhead htail)
    cases hwalk : walk (.record c.root) (.key p.head :: p.tail) with
    | error dead =>
      rw [hwalk] at h
      cases h
    | ok w =>
      rw [hwalk] at h
      rw [walk_root_extended hsteps hwalk entries]
      exact h

end Context

/-! ### The theorem -/

/-- **Resolved values stay.** Whatever is recorded in a context, every expression other than
`$.steps` that can be resolved in it keeps its value.  A call fails exactly if its key is taken, and
changes nothing then.  The value of `$.steps` keeps what it had and may get further entries behind
that. -/
theorem resolved_values_stay (c : Context) (calls : List Recording) :
    (∀ s u, s ≠ "$.steps" → c.resolve (.text s) = .ok u →
      (c.behind calls).resolve (.text s) = .ok u) ∧
    (∀ (call : Recording) (fault : Fault), call.outcome c = .error fault ↔
      c.isRecorded call.key = true ∧ fault = .keyTaken call.key) ∧
    (∀ call : Recording, c.isRecorded call.key = true → call.leaves c = c) ∧
    ∃ entries, c.resolve (.text "$.steps") = .ok (.record (detachedFields c.outputs)) ∧
      (c.behind calls).resolve (.text "$.steps")
        = .ok (.record (detachedFields (c.outputs ++ entries))) := by
  obtain ⟨entries, hentries⟩ := c.exists_extended_behind calls
  have hsteps : ∀ c' : Context,
      c'.resolve (.text "$.steps") = .ok (.record (detachedFields c'.outputs)) := fun c' => rfl
  refine ⟨fun s u hs h => ?_, fun call fault => Recording.outcome_eq_error_iff, fun call h => ?_,
    entries, hsteps c, ?_⟩
  · rw [hentries]
    exact Context.resolveText_extended hs h entries
  · have herror : call.outcome c = .error (.keyTaken call.key) :=
      Recording.outcome_eq_error_iff.mpr ⟨h, rfl⟩
    rw [Recording.leaves, herror]
  · rw [hsteps, hentries, Context.extended_outputs]

/-- A context with a quote. -/
def quoted : Context :=
  ⟨⟨.null, .null, .null, .null, .null⟩, .record [], 0, .int 300, .int 3600, .int 86400,
    [("quote", Context.outputEntry (.list [.int 7]))]⟩

/-- A second quote is refused and a skipped step is recorded, and the first quote is still there. -/
theorem resolved_values_stay_quoted :
    quoted.resolve (.text "$.steps.quote.output[0]") = .ok (.int 7) ∧
    (quoted.behind [.output "quote" .null, .skipped "pay"]).outputs
      = quoted.outputs ++ [("pay", .null)] ∧
    (quoted.behind [.output "quote" .null, .skipped "pay"]).resolve
      (.text "$.steps.quote.output[0]") = .ok (.int 7) := by
  have hquote : quoted.resolve (.text "$.steps.quote.output[0]") = .ok (.int 7) := by rfl
  obtain ⟨hstay, -⟩ :=
    resolved_values_stay quoted [.output "quote" .null, .skipped "pay"]
  exact ⟨hquote, rfl, hstay _ _ (by decide) hquote⟩

end Workflow
