import Workflow.Expression.Resolution
import Workflow.Json.Writer
import Workflow.Service.Proxy

/-!
# HTTP steps

An HTTP step sends one request, either to a stored endpoint or to a URL of its own.  The request is
formed as a whole before it is sent: headers come from the default content type, the endpoint and
the step, later ones replacing earlier ones of the same spelling, and a body goes only with the
methods that take one.  The output is the decoded JSON or the text of the answer.
-/

namespace Workflow.Http

/-- Where a request goes, before the step's own headers and body are added. -/
structure Endpoint where
  /-- The method. -/
  method : String
  /-- The URL. -/
  url : Value
  /-- The headers so far. -/
  headers : List (String × String)

/-- The headers that every request starts with. -/
def defaultHeaders : List (String × String) := [("Content-Type", "application/json")]

/-- The method of a stored endpoint in upper case. -/
def proxyMethod (method : Value) : Except Failure String :=
  if method.isTruthy then
    match method with
    | .text s => .ok (Text.upper s)
    | v => .error (.fault (.noMember v.kindName "upper"))
  else .ok Method.get.name

/-- The record of an endpoint, given what is stored under its id. -/
def readProxy (id : String) : Option StoredProxy → Except Failure ProxyRecord
  | some (.record proxy) => .ok proxy
  | some (.raw .null) => .error (.misconfigured (.unknownProxy id))
  | some (.raw v) =>
    (ProxyRecord.ofValue? v).mapError fun m => .misconfigured (.malformedProxy id m)
  | none => .error (.misconfigured (.unknownProxy id))

section

variable {σ : Type} (services : Services σ)

/-- The plain headers of a stored record, if there are any. -/
def storedHeaders (stored : Value) : Act σ (List (String × String)) :=
  if stored.isTruthy then services.revealHeaders stored else Act.done (.ok [])

/-- The endpoint that a stored record describes. -/
def proxyEndpoint (proxy : ProxyRecord) : Act σ Endpoint :=
  (Act.done (proxyMethod proxy.httpMethod)).andThen fun method =>
    (storedHeaders services proxy.encryptedHeaders).andThen fun revealed =>
      Act.done (.ok ⟨method, proxy.targetUrl, Fields.putAll defaultHeaders revealed⟩)

/-- The endpoint stored under an id. -/
def storedEndpoint (id : String) : Act σ Endpoint :=
  (services.findProxy id).andThen fun found =>
    (Act.done (readProxy id found)).andThen (proxyEndpoint services)

/-- The endpoint of a step. -/
def endpointOf (id : String) (config : HttpConfig) : Act σ Endpoint :=
  match nonempty? config.proxyId, nonempty? config.url with
  | some _, some _ => Act.done (.error (.misconfigured (.breach (.httpTwoEndpoints id))))
  | some proxyId, none => storedEndpoint services proxyId
  | none, some url => Act.done (.ok ⟨(config.method.getD .get).name, .text url, defaultHeaders⟩)
  | none, none => Act.done (.error (.misconfigured .noEndpoint))

end

/-- The step's own headers with their expressions resolved. -/
def stepHeaders (c : Context) (config : HttpConfig) :
    Except Failure (List (String × String)) := do
  headerTexts (← c.resolveFields (config.headers.getD []))

/-- The methods whose requests have a body. -/
def bodyMethods : List String := ["POST", "PUT", "PATCH"]

/-- The text of a body; an integer that is too long has none, and neither has a key that is no
text, number or byte string. -/
def bodyText (v : Value) : Except Failure String :=
  if v.portable.isWritable then
    match Json.encode? v with
    | some text => .ok text
    | none => .error (.fault .unwritableKey)
  else .error (.fault (.numeral .tooLongToWrite))

/-- The body of a request. -/
def stepContent (c : Context) (config : HttpConfig) (method : String) :
    Except Failure (Option String) :=
  if !config.body.isNull && bodyMethods.contains method then do
    return some (← bodyText (← c.resolveAll config.body))
  else .ok none

/-- The request of a step to its endpoint. -/
def requestTo (endpoint : Endpoint) (channel : Channel) (config : HttpConfig) (c : Context) :
    Except Failure Request := do
  let own ← stepHeaders c config
  let content ← stepContent c config endpoint.method
  return ⟨endpoint.method, endpoint.url, Fields.putAll endpoint.headers own, content, channel⟩

/-- The request of a step. -/
def buildRequest {σ : Type} (services : Services σ) (channel : Channel) (id : String)
    (config : Option HttpConfig) (c : Context) : Act σ Request :=
  match config with
  | none => Act.done (.error (.misconfigured (.breach (.httpMissing id))))
  | some config =>
    (endpointOf services id config).andThen fun endpoint =>
      Act.done (requestTo endpoint channel config c)

section

variable [Json.Nesting]

/-- The JSON value in a response. -/
def readJson (r : Response) : Except Failure Value :=
  match Json.decode r.content with
  | .ok v => .ok v
  | .error e =>
    if e.isInText then do
      let text ← r.text.mapError .fault
      .error (.service (.malformedBody e r.status text))
    else .error (jsonFailure e)

/-- The failure of a response that does not report success; a status that is too long to be written
is a fault. -/
def statusFailure (r : Response) : Except Failure Value := do
  if r.status.isWritable then
    let text ← r.text.mapError .fault
    .error (.service (.status r.status (reasonPhrase r.status) text))
  else .error (.fault (.numeral .tooLongToWrite))

/-- The output of a step, given the answer to its request. -/
def readResponse (r : Response) : Except Failure Value := do
  let isSuccess ← r.isSuccess.mapError .fault
  if isSuccess then
    if r.isJson then readJson r else (r.text.mapError .fault).map .text
  else statusFailure r

/-- The failure of a step whose request fails.  Trouble in the exchange is told with its text, and
without one that is the fault. -/
def sendFailure : Failure → Failure
  | .fault f =>
    if f.isExchange then
      if f.isWritable then .service (.unreachable f) else .fault (.numeral .tooLongToWrite)
    else .fault f
  | e => e

/-- The output of a step, given what became of its request. -/
def readAnswer : Except Failure Response → Except Failure Value
  | .ok response => readResponse response
  | .error e => .error (sendFailure e)

/-- Runs an HTTP step. -/
def runStep {σ : Type} (services : Services σ) (channel : Channel) (id : String)
    (config : Option HttpConfig) (c : Context) : Act σ Value :=
  (buildRequest services channel id config c).andThen fun request =>
    (services.send request).mapOutcome readAnswer

end

end Workflow.Http
