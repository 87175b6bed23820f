import Workflow.Proofs.Expression.Substitution
import Workflow.Proofs.Http.Requests
import Workflow.Service.InMemory

/-!
# Faults in forming a request

What is missing or contradictory in the set-up of an HTTP step, and an expression that leads
nowhere, are failures that the rules know.  Forming a request can also break off with a fault:
the stored method may be no text, the stored headers may be no JSON or no map (`HeadersFault`), an
index may have too many digits (`Context.BreaksAt`), and a header or a body may have no text.

Here the endpoints are stored in memory, where lookups change nothing (`buildRequest_leaves`).  The
parts of a request are formed one behind the other, and the first that is at fault decides.
`RequestFault` says so for each fault, and `buildRequest_eq_fault_iff` that these are all.
-/

namespace Workflow

open Outcome

/-! ### Expressions -/

/-- The first of some expressions that cannot be resolved comes to an index with `n` digits, which
are too many. -/
def Context.BreaksAt (c : Context) (expressions : List String) (n : Nat) : Prop :=
  ∃ front s back, expressions = front ++ s :: back ∧ (∀ t ∈ front, ∃ w, c.resolveText t = .ok w)
    ∧ c.MeetsLongIndex s n

section

variable {c : Context} {f : Fault}

theorem Context.resolveEach_eq_fault_iff {expressions : List String} :
    c.resolveEach expressions = .error (.fault f)
      ↔ ∃ n, c.BreaksAt expressions n ∧ f = .numeral (.tooManyDigits n) := by
  constructor
  · intro h
    obtain ⟨front, s, back, hlist, hfront, hs⟩ := Context.exists_of_resolveEach_eq_error h
    rcases Context.of_resolveText_eq_error hs with hnowhere | ⟨n, hlong, heq⟩
    · cases hnowhere
    · exact ⟨n, ⟨front, s, back, hlist, hfront, hlong⟩, Failure.fault.inj heq⟩
  · rintro ⟨n, ⟨front, s, back, rfl, hfront, hlong⟩, rfl⟩
    rw [Context.resolveEach_append, (c.resolveEach_eq_ok_iff front).mpr hfront]
    simp only [Context.resolveEach, (c.resolveText_eq_tooManyDigits_iff s n).mpr hlong]

theorem Context.resolveAll_eq_fault_iff {v : Value} :
    c.resolveAll v = .error (.fault f)
      ↔ ∃ n, c.BreaksAt (expressionsIn v) n ∧ f = .numeral (.tooManyDigits n) := by
  rw [← Context.resolveEach_eq_fault_iff, ← c.resolveAll_outcome v, map_eq_error_iff]

theorem Context.resolveFields_eq_fault_iff {fs : List (String × Value)} :
    c.resolveFields fs = .error (.fault f)
      ↔ ∃ n, c.BreaksAt (expressionsInFields fs) n ∧ f = .numeral (.tooManyDigits n) := by
  rw [← Context.resolveEach_eq_fault_iff, ← c.resolveFields_outcome fs, map_eq_error_iff]

end

namespace Http

/-! ### Stored headers -/

/-- The value that stored headers stand for; texts and bytes are read as JSON. -/
def storedValue : Value → Except Json.Error Value
  | .text s => Json.decodeText s
  | .bytes bs => Json.decode bs
  | v => .ok v

/-- The headers that a map holds. -/
def mapTexts : Value → Except Failure (List (String × String))
  | .record fields => headerTexts fields
  | .table rows => rowTexts rows
  | v => .error (.fault (.noMember v.kindName "items"))

/-- Why stored headers cannot be revealed. -/
inductive HeadersFault (stored : Value) : Fault → Prop where
  /-- The text is no JSON value. -/
  | malformed {e : Json.Error} (h : storedValue stored = .error e) : HeadersFault stored (.json e)
  /-- The value is no map. -/
  | noMap {v : Value} (h : storedValue stored = .ok v) (hmap : v.named? = none) :
    HeadersFault stored (.noMember v.kindName "items")
  /-- The map holds an integer that is too long for a text. -/
  | tooLong {v : Value} (h : storedValue stored = .ok v) (hmap : v.named?.isSome = true)
    (hlong : v.isWritable = false) : HeadersFault stored (.numeral .tooLongToWrite)

section

variable {stored v : Value} {f : Fault}

theorem plainHeaders_eq (stored : Value) :
    plainHeaders stored = ((storedValue stored).mapError jsonFailure >>= mapTexts) := by
  cases stored <;> rfl

theorem mapTexts_of_no_map (h : v.named? = none) :
    mapTexts v = .error (.fault (.noMember v.kindName "items")) := by
  cases v <;> first | rfl | cases h

/-- The headers of a map fail only for an integer that is too long. -/
theorem mapTexts_eq_error_iff_of_map (h : v.named?.isSome = true) {e : Failure} :
    mapTexts v = .error e ↔ v.isWritable = false ∧ e = .fault (.numeral .tooLongToWrite) := by
  cases v with
  | record fields => exact ite_eq_error_iff
  | table rows => exact ite_eq_error_iff
  | _ => cases h

/-- Stored headers are revealed, or this breaks off with a fault. -/
theorem plainHeaders_eq_error_iff {e : Failure} :
    plainHeaders stored = .error e ↔ ∃ f, HeadersFault stored f ∧ e = .fault f := by
  rw [plainHeaders_eq, bind_eq_error_iff, mapError_eq_error_iff]
  constructor
  · rintro (⟨e', h, rfl⟩ | ⟨v, h, hv⟩)
    · exact ⟨_, .malformed h, rfl⟩
    · have h := mapError_eq_ok_iff.mp h
      cases hmap : v.named? with
      | none =>
        rw [mapTexts_of_no_map hmap] at hv
        exact ⟨_, .noMap h hmap, (Except.error.inj hv).symm⟩
      | some fields =>
        have hsome : v.named?.isSome = true := by rw [hmap]; rfl
        obtain ⟨hlong, rfl⟩ := (mapTexts_eq_error_iff_of_map hsome).mp hv
        exact ⟨_, .tooLong h hsome hlong, rfl⟩
  · rintro ⟨f, hf, rfl⟩
    cases hf with
    | malformed h => exact .inl ⟨_, h, rfl⟩
    | noMap h hmap =>
      exact .inr ⟨_, mapError_eq_ok_iff.mpr h, mapTexts_of_no_map hmap⟩
    | tooLong h hmap hlong =>
      exact .inr ⟨_, mapError_eq_ok_iff.mpr h,
        (mapTexts_eq_error_iff_of_map hmap).mpr ⟨hlong, rfl⟩⟩

end

/-! ### Stored endpoints -/

/-- Why an endpoint that is stored in memory cannot be used. -/
inductive EndpointFault (m : InMemory) (config : HttpConfig) : Fault → Prop where
  /-- The stored method is no text. -/
  | method {id : String} {proxy : ProxyRecord} (hid : nonempty? config.proxyId = some id)
    (hurl : nonempty? config.url = none) (hproxy : OnRecord (m.findProxy id) proxy)
    (htruthy : proxy.httpMethod.isTruthy = true) (htext : ∀ t, proxy.httpMethod ≠ .text t) :
    EndpointFault m config (.noMember proxy.httpMethod.kindName "upper")
  /-- There is a method, and the stored headers cannot be revealed. -/
  | headers {id : String} {proxy : ProxyRecord} {f : Fault}
    (hid : nonempty? config.proxyId = some id) (hurl : nonempty? config.url = none)
    (hproxy : OnRecord (m.findProxy id) proxy)
    (hmethod : proxy.httpMethod.isTruthy = true → ∃ t, proxy.httpMethod = .text t)
    (htruthy : proxy.encryptedHeaders.isTruthy = true) (h : HeadersFault proxy.encryptedHeaders f) :
    EndpointFault m config f

section

variable {τ : Type} {send : Request → Act τ Response} {m : InMemory} {t : τ} {id : String}
  {config : HttpConfig} {f : Fault}

/-- Lookups in memory change nothing. -/
theorem lookupsKeep_inMemory (send : Request → Act τ Response) (s : InMemory × τ) :
    (InMemory.services send).LookupsKeep (· = s) := ⟨fun _ _ hs => hs, fun _ _ hs => hs⟩

theorem endpointOf_leaves (send : Request → Act τ Response) (id : String) (config : HttpConfig)
    (s : InMemory × τ) : (endpointOf (InMemory.services send) id config s).2 = s :=
  endpointOf_keeps (lookupsKeep_inMemory send s) id config s rfl

theorem buildRequest_leaves (send : Request → Act τ Response) (channel : Channel) (id : String)
    (given : Option HttpConfig) (c : Context) (s : InMemory × τ) :
    (buildRequest (InMemory.services send) channel id given c s).2 = s :=
  buildRequest_keeps (lookupsKeep_inMemory send s) channel id given c s rfl

theorem readProxy_ne_fault (id : String) (stored : Option StoredProxy) (f : Fault) :
    readProxy id stored ≠ .error (.fault f) := by
  intro h
  unfold readProxy at h
  split at h
  · cases h
  · cases h
  · obtain ⟨m, -, hm⟩ := mapError_eq_error_iff.mp h
    cases hm
  · cases h

theorem proxyMethod_eq_error_iff {v : Value} {e : Failure} :
    proxyMethod v = .error e ↔ v.isTruthy = true ∧ (∀ t, v ≠ .text t)
      ∧ e = .fault (.noMember v.kindName "upper") := by
  by_cases hfails : Fails (proxyMethod v)
  · obtain ⟨htruthy, htext⟩ := proxyMethod_fails_iff.mp hfails
    have heq : proxyMethod v = .error (.fault (.noMember v.kindName "upper")) := by
      unfold proxyMethod
      rw [if_pos htruthy]
      cases v with
      | text t => exact absurd rfl (htext t)
      | _ => rfl
    rw [heq, Except.error.injEq, eq_comm]
    exact ⟨fun h => ⟨htruthy, htext, h⟩, fun h => h.2.2⟩
  · exact iff_of_false (fun h => hfails ⟨e, h⟩)
      fun h => hfails (proxyMethod_fails_iff.mpr ⟨h.1, h.2.1⟩)

theorem storedHeaders_inMemory (stored : Value) (s : InMemory × τ) :
    storedHeaders (InMemory.services send) stored s
      = (if stored.isTruthy then plainHeaders stored else .ok [], s) := by
  unfold storedHeaders
  split_ifs <;> rfl

theorem proxyEndpoint_eq_error_iff {proxy : ProxyRecord} {s : InMemory × τ} {e : Failure} :
    (proxyEndpoint (InMemory.services send) proxy s).1 = .error e ↔
      proxyMethod proxy.httpMethod = .error e ∨
        ¬ Fails (proxyMethod proxy.httpMethod) ∧ proxy.encryptedHeaders.isTruthy = true
          ∧ plainHeaders proxy.encryptedHeaders = .error e := by
  have hparts : (proxyEndpoint (InMemory.services send) proxy s).1
      = (proxyMethod proxy.httpMethod >>= fun method =>
        (if proxy.encryptedHeaders.isTruthy then plainHeaders proxy.encryptedHeaders else .ok [])
          >>= fun revealed =>
            .ok ⟨method, proxy.targetUrl, Fields.putAll defaultHeaders revealed⟩) := by
    rw [proxyEndpoint, Act.andThen_outcome rfl]
    refine congrArg _ (funext fun method => ?_)
    rw [Act.andThen_outcome (by rw [storedHeaders_inMemory]), storedHeaders_inMemory]
    rfl
  rw [hparts, bind_eq_error_iff]
  refine or_congr_right ?_
  rw [not_fails_iff, exists_and_right.symm]
  refine exists_congr fun method => and_congr_right fun _ => ?_
  rw [bind_eq_error_iff]
  split_ifs with htruthy
  · simp [htruthy]
  · simp [htruthy]

theorem storedEndpoint_inMemory (s : InMemory × τ) :
    (storedEndpoint (InMemory.services send) id s).1 = (readProxy id (s.1.findProxy id) >>=
      fun proxy => (proxyEndpoint (InMemory.services send) proxy s).1) := by
  rw [storedEndpoint, Act.andThen_outcome rfl]
  show ((Act.done (readProxy id (s.1.findProxy id))).andThen _ s).1 = _
  rw [Act.andThen_outcome rfl]
  rfl

/-- With a record behind it, an endpoint is that of the record. -/
theorem endpointOf_of_onRecord {stored : String} {proxy : ProxyRecord}
    (hid : nonempty? config.proxyId = some stored) (hurl : nonempty? config.url = none)
    (hproxy : OnRecord (m.findProxy stored) proxy) :
    (endpointOf (InMemory.services send) id config (m, t)).1
      = (proxyEndpoint (InMemory.services send) proxy (m, t)).1 := by
  unfold endpointOf
  simp only [hid, hurl]
  rw [storedEndpoint_inMemory, readProxy_eq_ok_iff.mpr hproxy, ok_bind]

theorem endpointOf_eq_fault_iff :
    (endpointOf (InMemory.services send) id config (m, t)).1 = .error (.fault f)
      ↔ EndpointFault m config f := by
  constructor
  · intro h
    unfold endpointOf at h
    rcases hid : nonempty? config.proxyId with _ | stored <;>
      rcases hurl : nonempty? config.url with _ | url <;> simp only [hid, hurl] at h
    -- Only a record that is looked up can be at fault.
    case some.none =>
      rw [storedEndpoint_inMemory] at h
      rcases bind_eq_error_iff.mp h with h | ⟨proxy, hproxy, h⟩
      · exact absurd h (readProxy_ne_fault _ _ _)
      · have hrecord := readProxy_eq_ok_iff.mp hproxy
        rcases proxyEndpoint_eq_error_iff.mp h with h | ⟨hmethod, htruthy, h⟩
        · obtain ⟨htruthy, htext, heq⟩ := proxyMethod_eq_error_iff.mp h
          rw [Failure.fault.inj heq]
          exact .method hid hurl hrecord htruthy htext
        · obtain ⟨f, hf, heq⟩ := plainHeaders_eq_error_iff.mp h
          rw [Failure.fault.inj heq]
          refine .headers hid hurl hrecord (fun hmethodTruthy => ?_) htruthy hf
          -- The method is read first, so one that is no text would have been the failure.
          by_contra htext
          exact hmethod (proxyMethod_fails_iff.mpr ⟨hmethodTruthy, not_exists.mp htext⟩)
    all_goals cases h
  · intro h
    cases h with
    | method hid hurl hproxy htruthy htext =>
      rw [endpointOf_of_onRecord hid hurl hproxy, proxyEndpoint_eq_error_iff]
      exact .inl (proxyMethod_eq_error_iff.mpr ⟨htruthy, htext, rfl⟩)
    | headers hid hurl hproxy hmethod htruthy hf =>
      rw [endpointOf_of_onRecord hid hurl hproxy, proxyEndpoint_eq_error_iff]
      refine .inr ⟨fun hfails => ?_, htruthy, plainHeaders_eq_error_iff.mpr ⟨_, hf, rfl⟩⟩
      obtain ⟨hmethodTruthy, htext⟩ := proxyMethod_fails_iff.mp hfails
      obtain ⟨t, ht⟩ := hmethod hmethodTruthy
      exact htext t ht

end

/-! ### Headers and bodies -/

/-- Whether the headers of a step are resolved and have texts. -/
def HeadersReady (c : Context) (config : HttpConfig) : Prop :=
  ∃ fields, c.resolveFields (config.headers.getD []) = .ok fields
    ∧ Value.fieldsWritable fields = true

/-- Why a body has no JSON text. -/
inductive BodyFault (v : Value) : Fault → Prop where
  /-- An integer is too long. -/
  | tooLong (h : v.portable.isWritable = false) : BodyFault v (.numeral .tooLongToWrite)
  /-- A key is no text, number or byte string. -/
  | key (hshort : v.portable.isWritable = true) (h : Json.isWritable v = false) :
    BodyFault v .unwritableKey

section

variable {c : Context} {config : HttpConfig} {f : Fault}

theorem stepHeaders_eq_fault_iff :
    stepHeaders c config = .error (.fault f) ↔
      (∃ n, c.BreaksAt (expressionsInFields (config.headers.getD [])) n
        ∧ f = .numeral (.tooManyDigits n))
      ∨ ∃ fields, c.resolveFields (config.headers.getD []) = .ok fields
        ∧ Value.fieldsWritable fields = false ∧ f = .numeral .tooLongToWrite := by
  rw [stepHeaders, bind_eq_error_iff, Context.resolveFields_eq_fault_iff]
  refine or_congr_right (exists_congr fun fields => and_congr_right fun _ => ?_)
  rw [headerTexts, ite_eq_error_iff, Failure.fault.injEq]

theorem stepHeaders_eq_ok_iff :
    (∃ own, stepHeaders c config = .ok own) ↔ HeadersReady c config := by
  rw [← not_fails_iff, stepHeaders_fails_iff, HeadersReady]
  constructor
  · intro h
    obtain ⟨fields, hfields⟩ := not_fails_iff.mp fun hfails => h (.inl hfails)
    refine ⟨fields, hfields, ?_⟩
    rw [← Bool.not_eq_false]
    exact fun hlong => h (.inr ⟨fields, hfields, hlong⟩)
  · rintro ⟨fields, hfields, hwritable⟩ (⟨e, he⟩ | ⟨fields', hfields', hlong⟩)
    · cases hfields.symm.trans he
    · obtain rfl := Except.ok.inj (hfields.symm.trans hfields')
      cases hwritable.symm.trans hlong

theorem bodyText_eq_error_iff {v : Value} {e : Failure} :
    bodyText v = .error e ↔ ∃ f, BodyFault v f ∧ e = .fault f := by
  unfold bodyText Json.encode?
  constructor
  · intro h
    split_ifs at h with hshort hkeys
    · exact ⟨_, .key hshort (Bool.eq_false_iff.mpr hkeys), (Except.error.inj h).symm⟩
    · exact ⟨_, .tooLong (Bool.eq_false_iff.mpr hshort), (Except.error.inj h).symm⟩
  · rintro ⟨f, hf, rfl⟩
    cases hf with
    | tooLong h => rw [h, if_neg Bool.false_ne_true]
    | key hshort h => rw [hshort, h, if_pos rfl, if_neg Bool.false_ne_true]

theorem stepContent_eq_fault_iff {method : String} :
    stepContent c config method = .error (.fault f) ↔ config.HasBody method ∧
      ((∃ n, c.BreaksAt (expressionsIn config.body) n ∧ f = .numeral (.tooManyDigits n))
        ∨ ∃ v, c.resolveAll config.body = .ok v ∧ BodyFault v f) := by
  unfold stepContent
  by_cases hbody : config.HasBody method
  · rw [if_pos (hasBody_iff.mpr hbody), bind_eq_error_iff, Context.resolveAll_eq_fault_iff,
      and_iff_right hbody]
    refine or_congr_right (exists_congr fun v => and_congr_right fun _ => ?_)
    rw [bind_eq_error_iff, bodyText_eq_error_iff]
    constructor
    · rintro (⟨f', hf, heq⟩ | ⟨text, -, h⟩)
      · rwa [Failure.fault.inj heq]
      · cases h
    · exact fun hf => .inl ⟨f, hf, rfl⟩
  · rw [if_neg (mt hasBody_iff.mp hbody)]
    exact iff_of_false nofun fun h => hbody h.1

end

/-! ### Requests -/

/-- The faults in forming a request.  Each part is formed only if those in front of it are. -/
inductive RequestFault {τ : Type} (send : Request → Act τ Response) (m : InMemory) (t : τ)
    (c : Context) : Option HttpConfig → Fault → Prop where
  /-- The stored endpoint cannot be used. -/
  | endpoint {config : HttpConfig} {f : Fault} (h : EndpointFault m config f) :
    RequestFault send m t c (some config) f
  /-- A header is not resolved. -/
  | header {config : HttpConfig} {n : Nat}
    (hendpoint : ¬ NoEndpoint (InMemory.services send) (m, t) config)
    (h : c.BreaksAt (expressionsInFields (config.headers.getD [])) n) :
    RequestFault send m t c (some config) (.numeral (.tooManyDigits n))
  /-- A header has no text. -/
  | headerText {config : HttpConfig} {fields : List (String × Value)}
    (hendpoint : ¬ NoEndpoint (InMemory.services send) (m, t) config)
    (h : c.resolveFields (config.headers.getD []) = .ok fields)
    (htext : Value.fieldsWritable fields = false) :
    RequestFault send m t c (some config) (.numeral .tooLongToWrite)
  /-- The body is not resolved. -/
  | body {config : HttpConfig} {method : String} {n : Nat}
    (hendpoint : ¬ NoEndpoint (InMemory.services send) (m, t) config)
    (hheaders : HeadersReady c config)
    (hmethod : config.HasMethod (InMemory.services send) (m, t) method)
    (hbody : config.HasBody method) (h : c.BreaksAt (expressionsIn config.body) n) :
    RequestFault send m t c (some config) (.numeral (.tooManyDigits n))
  /-- The body has no text. -/
  | bodyText {config : HttpConfig} {method : String} {v : Value} {f : Fault}
    (hendpoint : ¬ NoEndpoint (InMemory.services send) (m, t) config)
    (hheaders : HeadersReady c config)
    (hmethod : config.HasMethod (InMemory.services send) (m, t) method)
    (hbody : config.HasBody method) (h : c.resolveAll config.body = .ok v) (hf : BodyFault v f) :
    RequestFault send m t c (some config) f

section

variable {τ : Type} {send : Request → Act τ Response} {m : InMemory} {t : τ} {c : Context}
  {id : String} {config : HttpConfig} {channel : Channel} {given : Option HttpConfig} {f : Fault}

/-- Where nothing stands in its way there is an endpoint, and looking for it changes nothing. -/
theorem not_noEndpoint_iff :
    ¬ NoEndpoint (InMemory.services send) (m, t) config ↔
      ∃ endpoint, endpointOf (InMemory.services send) id config (m, t) = (.ok endpoint, (m, t)) := by
  have hleaves := endpointOf_leaves send id config (m, t)
  rw [← endpointOf_fails_iff, Act.not_fails_iff]
  constructor
  · rintro ⟨endpoint, s', hendpoint⟩
    rw [hendpoint] at hleaves
    exact ⟨endpoint, hleaves ▸ hendpoint⟩
  · rintro ⟨endpoint, hendpoint⟩
    exact ⟨endpoint, _, hendpoint⟩

theorem buildRequest_eq_error_iff_parts {e : Failure} :
    (buildRequest (InMemory.services send) channel id (some config) c (m, t)).1 = .error e ↔
      (endpointOf (InMemory.services send) id config (m, t)).1 = .error e ∨ ∃ endpoint,
        endpointOf (InMemory.services send) id config (m, t) = (.ok endpoint, (m, t)) ∧
          (stepHeaders c config = .error e ∨ (∃ own, stepHeaders c config = .ok own)
            ∧ stepContent c config endpoint.method = .error e) := by
  have hleaves := endpointOf_leaves send id config (m, t)
  rw [buildRequest, Act.andThen_outcome hleaves, bind_eq_error_iff]
  refine or_congr_right (exists_congr fun endpoint => and_congr ?_ ?_)
  · exact ⟨fun h => Prod.ext h hleaves, congrArg Prod.fst⟩
  show requestTo endpoint channel config c = .error e ↔ _
  rw [requestTo, bind_eq_error_iff, exists_and_right.symm]
  refine or_congr_right (exists_congr fun own => and_congr_right fun _ => ?_)
  rw [bind_eq_error_iff]
  exact or_iff_left (by rintro ⟨_, -, ⟨⟩⟩)

/-- Forming a request breaks off exactly with the faults that there is a reason for. -/
theorem buildRequest_eq_fault_iff :
    (buildRequest (InMemory.services send) channel id given c (m, t)).1 = .error (.fault f)
      ↔ RequestFault send m t c given f := by
  cases given with
  | none => exact iff_of_false nofun nofun
  | some config =>
    rw [buildRequest_eq_error_iff_parts, endpointOf_eq_fault_iff, stepHeaders_eq_fault_iff]
    simp only [stepContent_eq_fault_iff, stepHeaders_eq_ok_iff]
    constructor
    · rintro (h | ⟨endpoint, hendpoint, h⟩)
      · exact .endpoint h
      · have hsome := not_noEndpoint_iff.mpr ⟨endpoint, hendpoint⟩
        have hmethod := (hasMethod_iff_of_endpointOf hendpoint).mpr rfl
        rcases h with (⟨n, h, rfl⟩ | ⟨fields, h, htext, rfl⟩) | ⟨hheaders, hbody, hcontent⟩
        · exact .header hsome h
        · exact .headerText hsome h htext
        · rcases hcontent with ⟨n, h, rfl⟩ | ⟨v, h, hf⟩
          · exact .body hsome hheaders hmethod hbody h
          · exact .bodyText hsome hheaders hmethod hbody h hf
    · intro h
      -- Behind the endpoint it is known which method the request has.
      cases h with
      | endpoint h => exact .inl h
      | header hsome h =>
        obtain ⟨endpoint, hendpoint⟩ := not_noEndpoint_iff.mp hsome
        exact .inr ⟨endpoint, hendpoint, .inl (.inl ⟨_, h, rfl⟩)⟩
      | headerText hsome h htext =>
        obtain ⟨endpoint, hendpoint⟩ := not_noEndpoint_iff.mp hsome
        exact .inr ⟨endpoint, hendpoint, .inl (.inr ⟨_, h, htext, rfl⟩)⟩
      | body hsome hheaders hmethod hbody h =>
        obtain ⟨endpoint, hendpoint⟩ := not_noEndpoint_iff.mp hsome
        obtain rfl := (hasMethod_iff_of_endpointOf hendpoint).mp hmethod
        exact .inr ⟨endpoint, hendpoint, .inr ⟨hheaders, hbody, .inl ⟨_, h, rfl⟩⟩⟩
      | bodyText hsome hheaders hmethod hbody h hf =>
        obtain ⟨endpoint, hendpoint⟩ := not_noEndpoint_iff.mp hsome
        obtain rfl := (hasMethod_iff_of_endpointOf hendpoint).mp hmethod
        exact .inr ⟨endpoint, hendpoint, .inr ⟨hheaders, hbody, .inr ⟨_, h, hf⟩⟩⟩

end

end Http

end Workflow
