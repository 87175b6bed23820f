import Workflow.Proofs.Step.Perform

/-!
# What stands in the way of a request

`Unready` lists, one by one, the reasons for which an HTTP step has no request: there is no
configuration, there is no endpoint (`NoEndpoint`), a header or the body has no value or no text.
A request is formed exactly if none of them is there (`buildRequest_fails_iff`).  Until then the
outside services are only looked things up in (`buildRequest_looksUp`), and a record that is found
belongs to the world in which it is looked up (`Services.Finds`).

The method with which a request goes out is described apart from the code that forms it
(`HttpConfig.HasMethod`).  A request that is formed has this method, and a body exactly if the
method takes one and the configuration has one (`of_buildRequest_eq_ok`).
-/

namespace Workflow

open Outcome

/-! ### Stored endpoints -/

/-- What is stored is the record of an endpoint, or a value that is read as one. -/
inductive OnRecord (stored : Option StoredProxy) : ProxyRecord → Prop where
  | record {proxy : ProxyRecord} (h : stored = some (.record proxy)) : OnRecord stored proxy
  | raw {v : Value} {proxy : ProxyRecord} (h : stored = some (.raw v))
    (hv : ProxyRecord.ofValue? v = .ok proxy) : OnRecord stored proxy

/-- Looking up an id finds the record of an endpoint and leads to another world. -/
def Services.Finds {σ : Type} (services : Services σ) (id : String) (s : σ) (proxy : ProxyRecord)
    (s' : σ) : Prop :=
  ∃ stored, services.findProxy id s = (.ok stored, s') ∧ OnRecord stored proxy

/-- The method of the request that a configuration asks for: that of the stored endpoint in upper
case, or its own, and `GET` where none is given. -/
inductive HttpConfig.HasMethod {σ : Type} (services : Services σ) (s : σ) (config : HttpConfig) :
    String → Prop where
  | stored {id method : String} {proxy : ProxyRecord} {s' : σ}
    (hid : nonempty? config.proxyId = some id) (hproxy : services.Finds id s proxy s')
    (hmethod : proxy.httpMethod = .text method) (hne : method ≠ "") :
    HasMethod services s config (Text.upper method)
  | storedDefault {id : String} {proxy : ProxyRecord} {s' : σ}
    (hid : nonempty? config.proxyId = some id) (hproxy : services.Finds id s proxy s')
    (hmethod : proxy.httpMethod.isTruthy = false) : HasMethod services s config "GET"
  | own (hid : nonempty? config.proxyId = none) :
    HasMethod services s config (config.method.getD .get).name

/-- A request with the given method has a body: the method takes one, and there is one. -/
def HttpConfig.HasBody (config : HttpConfig) (method : String) : Prop :=
  method ∈ ["POST", "PUT", "PATCH"] ∧ config.body ≠ .null

namespace Http

/-! ### Reasons -/

/-- Why there is no endpoint for a configuration. -/
inductive NoEndpoint {σ : Type} (services : Services σ) (s : σ) (config : HttpConfig) : Prop where
  /-- A stored endpoint and a URL are given. -/
  | both {id url : String} (hid : nonempty? config.proxyId = some id)
    (hurl : nonempty? config.url = some url)
  /-- Neither a stored endpoint nor a URL is given. -/
  | neither (hid : nonempty? config.proxyId = none) (hurl : nonempty? config.url = none)
  /-- The lookup fails. -/
  | lookup {id : String} (hid : nonempty? config.proxyId = some id)
    (hfind : (services.findProxy id).Fails s)
  /-- Nothing is stored under the id. -/
  | unknown {id : String} {stored : Option StoredProxy} {s' : σ}
    (hid : nonempty? config.proxyId = some id)
    (hfind : services.findProxy id s = (.ok stored, s'))
    (hnone : stored = none ∨ stored = some (.raw .null))
  /-- What is stored is no record of an endpoint. -/
  | malformed {id : String} {v : Value} {s' : σ} (hid : nonempty? config.proxyId = some id)
    (hraw : services.findProxy id s = (.ok (some (.raw v)), s'))
    (hv : Outcome.Fails (ProxyRecord.ofValue? v))
  /-- The stored method is no text. -/
  | method {id : String} {proxy : ProxyRecord} {s' : σ} (hid : nonempty? config.proxyId = some id)
    (hproxy : services.Finds id s proxy s') (htruthy : proxy.httpMethod.isTruthy = true)
    (htext : ∀ t, proxy.httpMethod ≠ .text t)
  /-- The stored headers are not revealed. -/
  | headers {id : String} {proxy : ProxyRecord} {s' : σ} (hid : nonempty? config.proxyId = some id)
    (hproxy : services.Finds id s proxy s') (htruthy : proxy.encryptedHeaders.isTruthy = true)
    (hreveal : (services.revealHeaders proxy.encryptedHeaders).Fails s')

/-- Why there is no request for a configuration. -/
inductive Unready {σ : Type} (services : Services σ) (s : σ) (c : Context) :
    Option HttpConfig → Prop where
  /-- There is no configuration. -/
  | noConfig : Unready services s c none
  /-- There is no endpoint. -/
  | endpoint {config : HttpConfig} (h : NoEndpoint services s config) :
    Unready services s c (some config)
  /-- A header is not resolved. -/
  | header {config : HttpConfig} (h : Fails (c.resolveFields (config.headers.getD []))) :
    Unready services s c (some config)
  /-- A header has no text. -/
  | headerText {config : HttpConfig} {fields : List (String × Value)}
    (h : c.resolveFields (config.headers.getD []) = .ok fields)
    (htext : Value.fieldsWritable fields = false) : Unready services s c (some config)
  /-- The body is not resolved. -/
  | body {config : HttpConfig} {method : String} (hmethod : config.HasMethod services s method)
    (hbody : config.HasBody method) (h : Fails (c.resolveAll config.body)) :
    Unready services s c (some config)
  /-- The body has no JSON text. -/
  | bodyText {config : HttpConfig} {method : String} {v : Value}
    (hmethod : config.HasMethod services s method) (hbody : config.HasBody method)
    (h : c.resolveAll config.body = .ok v)
    (htext : v.portable.isWritable = false ∨ Json.isWritable v = false) :
    Unready services s c (some config)

/-! ### Reading stored endpoints -/

section Stored

variable {id : String} {stored : Option StoredProxy} {proxy proxy' : ProxyRecord} {v : Value}

theorem readProxy_raw (h : v ≠ .null) (id : String) :
    readProxy id (some (.raw v))
      = (ProxyRecord.ofValue? v).mapError fun m => .misconfigured (.malformedProxy id m) := by
  cases v with
  | null => exact absurd rfl h
  | _ => rfl

theorem readProxy_eq_ok_iff : readProxy id stored = .ok proxy ↔ OnRecord stored proxy := by
  constructor
  · intro h
    unfold readProxy at h
    split at h
    · rw [← Except.ok.inj h]
      exact .record rfl
    · cases h
    · exact .raw rfl (mapError_eq_ok_iff.mp h)
    · cases h
  · intro h
    cases h with
    | record h =>
      rw [h]
      rfl
    | @raw v proxy h hv =>
      -- `null` is taken for a missing record, and no record is read from it.
      have hnull : v ≠ .null := by
        rintro rfl
        cases hv
      rw [h, readProxy_raw hnull]
      exact mapError_eq_ok_iff.mpr hv

theorem eq_of_onRecord (h : OnRecord stored proxy) (h' : OnRecord stored proxy') :
    proxy = proxy' := by
  have hread := (@readProxy_eq_ok_iff "" stored proxy).mpr h
  have hread' := (@readProxy_eq_ok_iff "" stored proxy').mpr h'
  exact Except.ok.inj (hread.symm.trans hread')

theorem readProxy_fails_iff :
    Fails (readProxy id stored) ↔ (stored = none ∨ stored = some (.raw .null)) ∨
      ∃ v, stored = some (.raw v) ∧ Fails (ProxyRecord.ofValue? v) := by
  rcases stored with _ | (proxy | v)
  · simp [readProxy, fails_error]
  · simp [readProxy, not_fails_ok]
  · by_cases hnull : v = .null
    · simp [hnull, readProxy, fails_error]
    · rw [readProxy_raw hnull]
      cases hv : ProxyRecord.ofValue? v with
      | error m => simp [hnull, hv, Except.mapError, fails_error]
      | ok proxy => simp [hnull, hv, Except.mapError, not_fails_ok]

theorem proxyMethod_eq_ok_iff {method : String} :
    proxyMethod v = .ok method ↔
      (∃ t, v = .text t ∧ t ≠ "" ∧ Text.upper t = method)
        ∨ v.isTruthy = false ∧ "GET" = method := by
  constructor
  · intro h
    unfold proxyMethod at h
    split_ifs at h with htruthy
    · cases v with
      | text t =>
        refine .inl ⟨t, rfl, ?_, Except.ok.inj h⟩
        rintro rfl
        cases htruthy
      | _ => cases h
    · exact .inr ⟨Bool.eq_false_iff.mpr htruthy, Except.ok.inj h⟩
  · rintro (⟨t, rfl, hne, rfl⟩ | ⟨hfalsy, rfl⟩)
    · have htruthy : (Value.text t).isTruthy = true := by simp [Value.isTruthy, hne]
      rw [proxyMethod, if_pos htruthy]
    · unfold proxyMethod
      rw [hfalsy]
      rfl

theorem proxyMethod_fails_iff :
    Fails (proxyMethod v) ↔ v.isTruthy = true ∧ ∀ t, v ≠ .text t := by
  unfold proxyMethod
  split_ifs with htruthy
  · cases v with
    | text t => simp [not_fails_ok]
    | _ => simp [htruthy, fails_error]
  · simp [htruthy, not_fails_ok]

end Stored

/-! ### Endpoints -/

section Endpoints

variable {σ : Type} {services : Services σ} {s s' : σ} {c : Context} {id : String}
  {config : HttpConfig} {endpoint : Endpoint} {proxy proxy' : ProxyRecord}

theorem eq_of_finds {t t' : σ} (h : services.Finds id s proxy t)
    (h' : services.Finds id s proxy' t') : proxy = proxy' ∧ t = t' := by
  obtain ⟨stored, hfind, hproxy⟩ := h
  obtain ⟨stored', hfind', hproxy'⟩ := h'
  obtain ⟨hstored, rfl⟩ := Prod.mk.inj (hfind.symm.trans hfind')
  obtain rfl := Except.ok.inj hstored
  exact ⟨eq_of_onRecord hproxy hproxy', rfl⟩

theorem storedHeaders_fails_iff {stored : Value} :
    (storedHeaders services stored).Fails s ↔
      stored.isTruthy = true ∧ (services.revealHeaders stored).Fails s := by
  unfold storedHeaders
  split_ifs with htruthy
  · simp [htruthy]
  · simp [htruthy, not_fails_ok]

/-- What the endpoint of a record is made of. -/
theorem proxyEndpoint_eq_ok_iff :
    proxyEndpoint services proxy s = (.ok endpoint, s') ↔ ∃ method revealed,
      proxyMethod proxy.httpMethod = .ok method ∧
        storedHeaders services proxy.encryptedHeaders s = (.ok revealed, s') ∧
        (⟨method, proxy.targetUrl, Fields.putAll defaultHeaders revealed⟩ : Endpoint)
          = endpoint := by
  simp only [proxyEndpoint, Act.andThen_eq_ok_iff, Act.done_eq_iff, Except.ok.injEq]
  constructor
  · rintro ⟨method, _, ⟨hmethod, rfl⟩, revealed, _, hrevealed, rfl, rfl⟩
    exact ⟨method, revealed, hmethod, hrevealed, rfl⟩
  · rintro ⟨method, revealed, hmethod, hrevealed, rfl⟩
    exact ⟨method, s, ⟨hmethod, rfl⟩, revealed, s', hrevealed, rfl, rfl⟩

theorem proxyEndpoint_fails_iff :
    (proxyEndpoint services proxy).Fails s ↔ Fails (proxyMethod proxy.httpMethod) ∨
      proxy.encryptedHeaders.isTruthy = true ∧
        (services.revealHeaders proxy.encryptedHeaders).Fails s := by
  rw [proxyEndpoint, ← storedHeaders_fails_iff]
  rcases hmethod : proxyMethod proxy.httpMethod with e | method
  · exact iff_of_true ⟨e, s, rfl⟩ (.inl (fails_error e))
  · rw [Act.done_ok_andThen, Act.andThen_fails_iff]
    simp [not_fails_ok]

theorem storedEndpoint_eq_ok_iff :
    storedEndpoint services id s = (.ok endpoint, s') ↔
      ∃ proxy t, services.Finds id s proxy t ∧
        proxyEndpoint services proxy t = (.ok endpoint, s') := by
  simp only [storedEndpoint, Act.andThen_eq_ok_iff, Act.done_eq_iff, readProxy_eq_ok_iff]
  constructor
  · rintro ⟨stored, t, hfind, proxy, _, ⟨hproxy, rfl⟩, hendpoint⟩
    exact ⟨proxy, t, ⟨stored, hfind, hproxy⟩, hendpoint⟩
  · rintro ⟨proxy, t, ⟨stored, hfind, hproxy⟩, hendpoint⟩
    exact ⟨stored, t, hfind, proxy, t, ⟨hproxy, rfl⟩, hendpoint⟩

theorem storedEndpoint_fails_iff :
    (storedEndpoint services id).Fails s ↔ (services.findProxy id).Fails s ∨
      ∃ stored s', services.findProxy id s = (.ok stored, s') ∧ (Fails (readProxy id stored) ∨
        ∃ proxy, OnRecord stored proxy ∧ (proxyEndpoint services proxy).Fails s') := by
  rw [storedEndpoint, Act.andThen_fails_iff]
  refine or_congr_right (exists_congr fun stored => exists_congr fun t =>
    and_congr_right fun _ => ?_)
  rw [Act.andThen_fails_iff, Act.done_fails_iff]
  simp only [Act.done_eq_iff, readProxy_eq_ok_iff]
  refine or_congr_right (exists_congr fun proxy => ?_)
  constructor
  · rintro ⟨_, ⟨hproxy, rfl⟩, h⟩
    exact ⟨hproxy, h⟩
  · exact fun ⟨hproxy, h⟩ => ⟨t, ⟨hproxy, rfl⟩, h⟩

/-- Where an endpoint comes from that is known. -/
theorem endpointOf_eq_ok_iff :
    endpointOf services id config s = (.ok endpoint, s') ↔
      (∃ stored proxy t, nonempty? config.proxyId = some stored ∧ nonempty? config.url = none ∧
        services.Finds stored s proxy t ∧ proxyEndpoint services proxy t = (.ok endpoint, s')) ∨
      ∃ url, nonempty? config.proxyId = none ∧ nonempty? config.url = some url ∧
        (⟨(config.method.getD .get).name, .text url, defaultHeaders⟩ : Endpoint) = endpoint ∧
        s = s' := by
  unfold endpointOf
  rcases hid : nonempty? config.proxyId with _ | stored <;>
    rcases hurl : nonempty? config.url with _ | url
  case none.none => simp [Act.done_eq_iff]
  case none.some => simp [Act.done_eq_iff]
  case some.some => simp [Act.done_eq_iff]
  case some.none => simp [storedEndpoint_eq_ok_iff]

/-- There is no endpoint exactly if there is a reason for it. -/
theorem endpointOf_fails_iff :
    (endpointOf services id config).Fails s ↔ NoEndpoint services s config := by
  unfold endpointOf
  rcases hid : nonempty? config.proxyId with _ | stored <;>
    rcases hurl : nonempty? config.url with _ | url
  -- A record is looked up only if a stored endpoint is given and no URL.
  case none.none => exact ⟨fun _ => .neither hid hurl, fun _ => ⟨_, s, rfl⟩⟩
  case some.some => exact ⟨fun _ => .both hid hurl, fun _ => ⟨_, s, rfl⟩⟩
  case none.some =>
    rw [Act.done_fails_iff]
    refine iff_of_false (not_fails_ok _) fun h => ?_
    cases h with
    | neither _ hurl' => cases hurl.symm.trans hurl'
    | _ hid' => cases hid.symm.trans hid'
  case some.none =>
    rw [storedEndpoint_fails_iff]
    constructor
    · rintro (h | ⟨found, t, hfind, hread | ⟨proxy, hproxy, h⟩⟩)
      · exact .lookup hid h
      · rcases readProxy_fails_iff.mp hread with hnone | ⟨v, rfl, hv⟩
        · exact .unknown hid hfind hnone
        · exact .malformed hid hfind hv
      · rcases proxyEndpoint_fails_iff.mp h with hmethod | ⟨htruthy, hreveal⟩
        · obtain ⟨htruthy, htext⟩ := proxyMethod_fails_iff.mp hmethod
          exact .method hid ⟨found, hfind, hproxy⟩ htruthy htext
        · exact .headers hid ⟨found, hfind, hproxy⟩ htruthy hreveal
    · intro h
      cases h with
      | both _ hurl' => cases hurl.symm.trans hurl'
      | neither hid' => cases hid.symm.trans hid'
      | lookup hid' hfind =>
        obtain rfl := Option.some.inj (hid.symm.trans hid')
        exact .inl hfind
      | unknown hid' hfind hnone =>
        obtain rfl := Option.some.inj (hid.symm.trans hid')
        exact .inr ⟨_, _, hfind, .inl (readProxy_fails_iff.mpr (.inl hnone))⟩
      | malformed hid' hraw hv =>
        obtain rfl := Option.some.inj (hid.symm.trans hid')
        exact .inr ⟨_, _, hraw, .inl (readProxy_fails_iff.mpr (.inr ⟨_, rfl, hv⟩))⟩
      | method hid' hproxy htruthy htext =>
        obtain rfl := Option.some.inj (hid.symm.trans hid')
        obtain ⟨found, hfind, hproxy⟩ := hproxy
        have hmethod := proxyMethod_fails_iff.mpr ⟨htruthy, htext⟩
        exact .inr ⟨_, _, hfind, .inr ⟨_, hproxy, proxyEndpoint_fails_iff.mpr (.inl hmethod)⟩⟩
      | headers hid' hproxy htruthy hreveal =>
        obtain rfl := Option.some.inj (hid.symm.trans hid')
        obtain ⟨found, hfind, hproxy⟩ := hproxy
        have hheaders := proxyEndpoint_fails_iff.mpr (.inr ⟨htruthy, hreveal⟩)
        exact .inr ⟨_, _, hfind, .inr ⟨_, hproxy, hheaders⟩⟩

/-- With a stored endpoint the method is that of the record. -/
theorem hasMethod_iff_of_finds {stored : String} (hid : nonempty? config.proxyId = some stored)
    (hproxy : services.Finds stored s proxy s') {method : String} :
    config.HasMethod services s method ↔ proxyMethod proxy.httpMethod = .ok method := by
  rw [proxyMethod_eq_ok_iff]
  constructor
  · intro h
    cases h with
    | stored hid' hproxy' hmethod hne =>
      obtain rfl := Option.some.inj (hid.symm.trans hid')
      obtain ⟨rfl, -⟩ := eq_of_finds hproxy hproxy'
      exact .inl ⟨_, hmethod, hne, rfl⟩
    | storedDefault hid' hproxy' hfalsy =>
      obtain rfl := Option.some.inj (hid.symm.trans hid')
      obtain ⟨rfl, -⟩ := eq_of_finds hproxy hproxy'
      exact .inr ⟨hfalsy, rfl⟩
    | own hid' => cases hid.symm.trans hid'
  · rintro (⟨t, ht, hne, rfl⟩ | ⟨hfalsy, rfl⟩)
    · exact .stored hid hproxy ht hne
    · exact .storedDefault hid hproxy hfalsy

/-- A known endpoint has the method that the configuration asks for, and no other. -/
theorem hasMethod_iff_of_endpointOf (h : endpointOf services id config s = (.ok endpoint, s'))
    {method : String} : config.HasMethod services s method ↔ endpoint.method = method := by
  rcases endpointOf_eq_ok_iff.mp h with
    ⟨stored, proxy, t, hid, -, hproxy, hendpoint⟩ | ⟨url, hid, -, rfl, -⟩
  · obtain ⟨own, revealed, hown, -, rfl⟩ := proxyEndpoint_eq_ok_iff.mp hendpoint
    rw [hasMethod_iff_of_finds hid hproxy, hown, Except.ok.injEq]
  · constructor
    · intro hmethod
      cases hmethod with
      | stored hid' => cases hid.symm.trans hid'
      | storedDefault hid' => cases hid.symm.trans hid'
      | own => rfl
    · rintro rfl
      exact .own hid

end Endpoints

/-! ### Headers and bodies -/

section

variable {c : Context} {config : HttpConfig}

theorem stepHeaders_fails_iff :
    Fails (stepHeaders c config) ↔ Fails (c.resolveFields (config.headers.getD [])) ∨
      ∃ fields, c.resolveFields (config.headers.getD []) = .ok fields ∧
        Value.fieldsWritable fields = false := by
  rw [stepHeaders, fails_bind_iff]
  refine or_congr_right (exists_congr fun fields => and_congr_right fun _ => ?_)
  unfold headerTexts
  split_ifs with hwritable
  · simp [hwritable, not_fails_ok]
  · simp [hwritable, fails_error]

theorem bodyText_fails_iff {v : Value} :
    Fails (bodyText v) ↔ v.portable.isWritable = false ∨ Json.isWritable v = false := by
  unfold bodyText Json.encode?
  by_cases hlong : v.portable.isWritable = true <;> by_cases hkeys : Json.isWritable v = true <;>
    simp [hlong, hkeys, fails_error, not_fails_ok]

theorem hasBody_iff {method : String} :
    (!config.body.isNull && bodyMethods.contains method) = true ↔ config.HasBody method := by
  have hnull : config.body.isNull = false ↔ config.body ≠ .null := by
    cases config.body <;> simp [Value.isNull]
  rw [Bool.and_eq_true, Bool.not_eq_true', hnull, List.contains_iff_mem, HttpConfig.HasBody,
    and_comm]
  rfl

theorem stepContent_fails_iff {method : String} :
    Fails (stepContent c config method) ↔ config.HasBody method ∧
      (Fails (c.resolveAll config.body) ∨ ∃ v, c.resolveAll config.body = .ok v ∧
        (v.portable.isWritable = false ∨ Json.isWritable v = false)) := by
  unfold stepContent
  by_cases hbody : config.HasBody method
  · rw [if_pos (hasBody_iff.mpr hbody), fails_bind_iff]
    simp only [hbody, true_and, fails_bind_pure_iff, bodyText_fails_iff]
  · rw [if_neg (mt hasBody_iff.mp hbody)]
    simp [hbody, not_fails_ok]

theorem content_ne_none_iff {method : String} {content : Option String}
    (h : stepContent c config method = .ok content) :
    content ≠ none ↔ config.HasBody method := by
  unfold stepContent at h
  split_ifs at h with hbody
  · obtain ⟨v, -, h⟩ := bind_eq_ok_iff.mp h
    obtain ⟨text, -, h⟩ := bind_eq_ok_iff.mp h
    rw [← Except.ok.inj h]
    exact ⟨fun _ => hasBody_iff.mp hbody, fun _ => Option.some_ne_none text⟩
  · rw [← Except.ok.inj h]
    exact ⟨fun h => absurd rfl h, fun h => absurd (hasBody_iff.mpr h) hbody⟩

end

/-! ### Requests -/

section

variable {σ : Type} {services : Services σ} {s s' : σ} {c : Context} {id : String}
  {config : HttpConfig} {endpoint : Endpoint} {channel : Channel} {given : Option HttpConfig}
  {r : Request}

theorem requestTo_fails_iff :
    Fails (requestTo endpoint channel config c) ↔
      Fails (stepHeaders c config) ∨ Fails (stepContent c config endpoint.method) :=
  fails_bind_iff_or fun _ => fails_bind_pure_iff

/-- There is no request exactly if there is a reason for it. -/
theorem buildRequest_fails_iff :
    (buildRequest services channel id given c).Fails s ↔ Unready services s c given := by
  cases given with
  | none => exact ⟨fun _ => .noConfig, fun _ => ⟨_, s, rfl⟩⟩
  | some config =>
    rw [buildRequest, Act.andThen_fails_iff]
    simp only [Act.done_fails_iff, requestTo_fails_iff, stepHeaders_fails_iff]
    constructor
    · rintro (h | ⟨endpoint, t, hendpoint, (h | ⟨fields, h, htext⟩) | h⟩)
      · exact .endpoint (endpointOf_fails_iff.mp h)
      · exact .header h
      · exact .headerText h htext
      · have hmethod := (hasMethod_iff_of_endpointOf hendpoint).mpr rfl
        obtain ⟨hbody, h | ⟨v, h, htext⟩⟩ := stepContent_fails_iff.mp h
        · exact .body hmethod hbody h
        · exact .bodyText hmethod hbody h htext
    · intro hunready
      -- With an endpoint at hand, the reason lies in the headers or in the body.
      by_cases hfails : (endpointOf services id config).Fails s
      · exact .inl hfails
      obtain ⟨endpoint, t, hendpoint⟩ := Act.not_fails_iff.mp hfails
      refine .inr ⟨endpoint, t, hendpoint, ?_⟩
      cases hunready with
      | endpoint h => exact absurd (endpointOf_fails_iff.mpr h) hfails
      | header h => exact .inl (.inl h)
      | headerText h htext => exact .inl (.inr ⟨_, h, htext⟩)
      | body hmethod hbody h =>
        obtain rfl := (hasMethod_iff_of_endpointOf hendpoint).mp hmethod
        exact .inr (stepContent_fails_iff.mpr ⟨hbody, .inl h⟩)
      | bodyText hmethod hbody h htext =>
        obtain rfl := (hasMethod_iff_of_endpointOf hendpoint).mp hmethod
        exact .inr (stepContent_fails_iff.mpr ⟨hbody, .inr ⟨_, h, htext⟩⟩)

/-- The world behind a request, formed or not, is that behind its endpoint. -/
theorem buildRequest_world (services : Services σ) (channel : Channel) (id : String)
    (config : HttpConfig) (c : Context) (s : σ) :
    (buildRequest services channel id (some config) c s).2
      = (endpointOf services id config s).2 := by
  rw [buildRequest]
  rcases hendpoint : endpointOf services id config s with ⟨e | endpoint, t⟩
  · rw [Act.andThen_of_error hendpoint]
  · rw [Act.andThen_of_ok hendpoint, Act.done]

/-- All that is asked of the outside world for a request are lookups. -/
theorem buildRequest_looksUp (services : Services σ) (channel : Channel) (id : String)
    (given : Option HttpConfig) (c : Context) (s : σ) :
    services.LooksUp s (buildRequest services channel id given c s).2 :=
  buildRequest_keeps (services.lookupsKeep_looksUp s) channel id given c s (.refl services s)

/-- A request has the method that the configuration asks for, and a body exactly if it is to have
one. -/
theorem of_buildRequest_eq_ok (h : buildRequest services channel id given c s = (.ok r, s')) :
    ∃ config, given = some config ∧ config.HasMethod services s r.method ∧
      (r.content ≠ none ↔ config.HasBody r.method) := by
  unfold buildRequest at h
  split at h
  · cases congrArg Prod.fst h
  · next config =>
    obtain ⟨endpoint, t, hendpoint, h⟩ := Act.andThen_eq_ok_iff.mp h
    obtain ⟨h, -⟩ := Act.done_eq_iff.mp h
    obtain ⟨own, -, h⟩ := bind_eq_ok_iff.mp h
    obtain ⟨content, hcontent, h⟩ := bind_eq_ok_iff.mp h
    obtain rfl := Except.ok.inj h
    exact ⟨config, rfl, (hasMethod_iff_of_endpointOf hendpoint).mpr rfl,
      content_ne_none_iff hcontent⟩

/-! ### Sending -/

theorem runStep_of_error {e : Failure}
    (h : buildRequest services channel id given c s = (.error e, s')) :
    runStep services channel id given c s = (.error e, s') := Act.andThen_of_error h

/-- A request that is formed is sent, and nothing happens behind it. -/
theorem runStep_of_ok (h : buildRequest services channel id given c s = (.ok r, s')) :
    runStep services channel id given c s
      = (readAnswer (services.send r s').1, (services.send r s').2) := Act.andThen_of_ok h

end

end Http

end Workflow
