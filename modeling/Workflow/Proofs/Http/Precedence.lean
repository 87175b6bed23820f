import Workflow.Proofs.Expression.Idempotence
import Workflow.Proofs.Fields
import Workflow.Proofs.Http.Requests
import Workflow.Service.InMemory

/-!
# Which header counts

The headers of a request are written in three layers: the content type that every request starts
with, the headers of a stored endpoint, and those of the step.  A later layer replaces what an
earlier one has written under the same spelling of a name, so each spelling has the value of the
last layer that has it (`Precedence.spelled`).

HTTP takes names that differ in the case of their letters for one name.  For such a name the request
has a single entry, that of the last layer, exactly if all layers spell it in one way
(`header_precedence`); two spellings make two headers (`contentType_sent_twice`).
-/

namespace Workflow.Http

open Outcome

/-! ### Names and layers -/

/-- The name of a header as it is compared. -/
def headerKey (name : String) : List UInt8 := (Utf8.encode name).map Text.lowerByte

/-- Whether two names of headers are the same. -/
def isSameHeader (name other : String) : Bool := headerKey other == headerKey name

/-- The headers that a stored endpoint adds, which are none without one. -/
inductive StoredHeaders {σ : Type} (services : Services σ) (s : σ) (config : HttpConfig) :
    List (String × String) → Prop where
  | revealed {id : String} {proxy : ProxyRecord} {t : σ} {stored : List (String × String)}
    (hid : nonempty? config.proxyId = some id) (hproxy : services.Finds id s proxy t)
    (htruthy : proxy.encryptedHeaders.isTruthy = true)
    (hreveal : (services.revealHeaders proxy.encryptedHeaders t).1 = .ok stored) :
    StoredHeaders services s config stored
  | none {id : String} {proxy : ProxyRecord} {t : σ} (hid : nonempty? config.proxyId = some id)
    (hproxy : services.Finds id s proxy t) (hfalsy : proxy.encryptedHeaders.isTruthy = false) :
    StoredHeaders services s config []
  | own (hid : nonempty? config.proxyId = none) : StoredHeaders services s config []

/-- The headers of a step with their values as texts. -/
def textsOf (fields : List (String × Value)) : List (String × String) :=
  fields.map fun (name, v) => (name, v.plainText)

/-- What is said of headers that are written in layers, the last of which counts. -/
structure Precedence (layers : List (List (String × String)))
    (headers : List (String × String)) : Prop where
  /-- No spelling occurs twice. -/
  distinct : (Fields.names headers).Nodup
  /-- A spelling has the value that the last layer with this spelling gives it. -/
  spelled : ∀ name, Fields.get? headers name
    = (layers.flatten.filter (·.1 == name)).getLast?.map (·.2)
  /-- There is at most one entry for a name exactly if it is spelled in one way. -/
  single : ∀ name, (headers.filter (isSameHeader name ·.1)).length ≤ 1
    ↔ Fields.HasOneName (isSameHeader name) layers.flatten
  /-- This is the entry of the last layer that sets the name; without such a layer there is none. -/
  last : ∀ name, Fields.HasOneName (isSameHeader name) layers.flatten →
    headers.filter (isSameHeader name ·.1)
      = (layers.flatten.filter (isSameHeader name ·.1)).getLast?.toList

theorem precedence_ofPairs (layers : List (List (String × String))) :
    Precedence layers (Fields.ofPairs layers.flatten) where
  distinct := Fields.nodup_names_ofPairs _
  spelled := Fields.get?_ofPairs _
  single _ := Fields.length_filter_ofPairs_le_one_iff
  last _ := Fields.filter_ofPairs_of_hasOneName

/-! ### Requests -/

variable {σ : Type} {services : Services σ} {s s' : σ} {c : Context} {id : String}
  {config : HttpConfig}

theorem storedHeaders_of_endpointOf {endpoint : Endpoint}
    (h : endpointOf services id config s = (.ok endpoint, s')) :
    ∃ stored, StoredHeaders services s config stored
      ∧ endpoint.headers = Fields.putAll defaultHeaders stored := by
  rcases endpointOf_eq_ok_iff.mp h with
    ⟨key, proxy, t, hid, -, hproxy, hendpoint⟩ | ⟨url, hid, -, rfl, -⟩
  · obtain ⟨method, stored, -, hstored, rfl⟩ := proxyEndpoint_eq_ok_iff.mp hendpoint
    refine ⟨stored, ?_, rfl⟩
    unfold storedHeaders at hstored
    split_ifs at hstored with htruthy
    · exact .revealed hid hproxy htruthy (congrArg Prod.fst hstored)
    · obtain rfl := Except.ok.inj (congrArg Prod.fst hstored)
      exact .none hid hproxy (Bool.eq_false_iff.mpr htruthy)
  · exact ⟨[], .own hid, rfl⟩

theorem stepHeaders_eq_ok {own : List (String × String)} (h : stepHeaders c config = .ok own) :
    ∃ fields, c.resolveFields (config.headers.getD []) = .ok fields ∧ own = textsOf fields := by
  rw [stepHeaders] at h
  obtain ⟨fields, hfields, h⟩ := bind_eq_ok_iff.mp h
  unfold headerTexts at h
  split_ifs at h
  exact ⟨fields, hfields, (Except.ok.inj h).symm⟩

/-- A request that is formed has the headers of three layers: the default content type, the headers
of the stored endpoint and those of the step.  A name of a header, however it is spelled, has at
most one entry exactly if the layers spell it in one way; the entry is that of the last layer that
sets the name, and a name that no layer sets has none. -/
theorem header_precedence {channel : Channel} {r : Request}
    (h : buildRequest services channel id (some config) c s = (.ok r, s')) :
    ∃ stored fields, StoredHeaders services s config stored
      ∧ c.resolveFields (config.headers.getD []) = .ok fields
      ∧ Precedence [defaultHeaders, stored, textsOf fields] r.headers := by
  rw [buildRequest] at h
  obtain ⟨endpoint, t, hendpoint, h⟩ := Act.andThen_eq_ok_iff.mp h
  obtain ⟨h, -⟩ := Act.done_eq_iff.mp h
  obtain ⟨own, hown, h⟩ := bind_eq_ok_iff.mp h
  obtain ⟨content, -, h⟩ := bind_eq_ok_iff.mp h
  obtain rfl := Except.ok.inj h
  obtain ⟨stored, hstored, hheaders⟩ := storedHeaders_of_endpointOf hendpoint
  obtain ⟨fields, hfields, rfl⟩ := stepHeaders_eq_ok hown
  refine ⟨stored, fields, hstored, hfields, ?_⟩
  have hlayers : Fields.putAll endpoint.headers (textsOf fields)
      = Fields.ofPairs [defaultHeaders, stored, textsOf fields].flatten := by
    have hdefault : Fields.ofPairs defaultHeaders = defaultHeaders := rfl
    rw [hheaders, List.flatten_cons, List.flatten_cons, List.flatten_singleton, Fields.ofPairs,
      Fields.putAll_append, Fields.putAll_append, ← Fields.ofPairs, hdefault]
  rw [hlayers]
  exact precedence_ofPairs _

/-- A step that sends a text, and says so under the given name. -/
def textConfig (name : String) : HttpConfig :=
  { url := some "http://notes", method := some .post
    headers := some [(name, .text "text/plain")], body := .text "rent" }

/-- The request of such a step, with the given headers. -/
def textRequest (headers : List (String × String)) : Request :=
  ⟨"POST", .text "http://notes", headers, some "\"rent\"", .shared⟩

/-- Services in memory that store nothing. -/
def emptyStore : InMemory × Unit := ({}, ())

/-- The services of a client that reaches nobody. -/
def unreachable : Services (InMemory × Unit) :=
  InMemory.services fun _ => Act.done (.error (.fault .notTexts))

theorem header_precedence_textConfig :
    ∃ r, buildRequest unreachable .shared "note" (some (textConfig "Content-Type")) Context.bare
        emptyStore = (.ok r, emptyStore)
      ∧ r.headers.filter (isSameHeader "content-type" ·.1) = [("Content-Type", "text/plain")] := by
  have hbuild : buildRequest unreachable .shared "note" (some (textConfig "Content-Type"))
      Context.bare emptyStore
        = (.ok (textRequest [("Content-Type", "text/plain")]), emptyStore) := rfl
  obtain ⟨stored, fields, hstored, hfields, hheaders⟩ := header_precedence hbuild
  refine ⟨_, hbuild, ?_⟩
  have hown : Context.bare.resolveFields [("Content-Type", .text "text/plain")]
      = .ok [("Content-Type", .text "text/plain")] := rfl
  obtain rfl := Except.ok.inj (hown.symm.trans hfields)
  cases hstored with
  | revealed hid => cases hid
  | none hid => cases hid
  | own =>
    -- Both layers that set the name spell it in the same way.
    have hone : Fields.HasOneName (isSameHeader "content-type")
        [defaultHeaders, [], [("Content-Type", "text/plain")]].flatten := by
      intro a ha b hb _ _
      have hspelling : ∀ name ∈
          Fields.names [defaultHeaders, [], [("Content-Type", "text/plain")]].flatten,
          name = "Content-Type" := by decide
      rw [hspelling a ha, hspelling b hb]
    rw [hheaders.last _ hone]
    decide

/-- A step that spells the content type in another way sends two of them. -/
theorem contentType_sent_twice :
    buildRequest unreachable .shared "note" (some (textConfig "content-type")) Context.bare
        emptyStore
      = (.ok (textRequest [("Content-Type", "application/json"), ("content-type", "text/plain")]),
        emptyStore)
    ∧ ¬ ([("Content-Type", "application/json"), ("content-type", "text/plain")].filter
        (isSameHeader "content-type" ·.1)).length ≤ 1 :=
  ⟨rfl, by decide⟩

end Workflow.Http
