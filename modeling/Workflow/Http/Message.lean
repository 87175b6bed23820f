import Workflow.Http.Content
import Workflow.Number
import Workflow.Text.Search

/-!
# HTTP messages

Requests as they are handed to the client that sends them, and responses as they come back.  A
response holds its content with all codings undone; its text depends on the character set that its
media type declares.
-/

namespace Workflow.Http

/-- Through which client a request is sent. -/
inductive Channel where
  /-- The client that all steps share; its time limit is its own. -/
  | shared
  /-- A client for this request alone, with its time limit or nothing. -/
  | single (timeout : Value)

/-- A request. -/
structure Request where
  /-- The method. -/
  method : String
  /-- The URL. -/
  url : Value
  /-- The headers in order. -/
  headers : List (String × String)
  /-- The body as JSON text, if there is one. -/
  content : Option String
  /-- The client that sends it. -/
  channel : Channel

/-- A response. -/
structure Response where
  /-- The status code, which should be an integer. -/
  status : Value
  /-- The headers in order. -/
  headers : Headers
  /-- The content. -/
  content : List UInt8

/-- The bytes of a body. -/
def bodyBytes : Value → Except Fault (List UInt8)
  | .null => .ok []
  | .bytes bs => .ok bs
  | .text s => .ok (Utf8.encode s)
  | v => .error (.badBody v.kindPath)

/-- The response with a status, headers and a body. -/
def Response.create (status headers body : Value) : Except Fault Response := do
  let h ← (Headers.ofValue headers).mapError .header
  let sent ← bodyBytes body
  let content ← (h.content sent).mapError .content
  return ⟨status, h, content⟩

/-! ### Status -/

/-- Whether a number lies between the bounds of success. -/
def isSuccessCode : Number → Bool
  | .int n => 200 ≤ n && n ≤ 299
  | .float x => 200 ≤ x && x ≤ 299
  | .truth _ => false

/-- Whether a response reports success. -/
def Response.isSuccess (r : Response) : Except Fault Bool :=
  match Number.ofValue? r.status with
  | some code => .ok (isSuccessCode code)
  | none => .error (.noOrder "<=" (Value.int 200).kindName r.status.kindName)

/-- The reason phrases by status code. -/
def reasonPhrases : List (Int × String) := [
  (100, "Continue"), (101, "Switching Protocols"), (102, "Processing"), (103, "Early Hints"),
  (200, "OK"), (201, "Created"), (202, "Accepted"), (203, "Non-Authoritative Information"),
  (204, "No Content"), (205, "Reset Content"), (206, "Partial Content"), (207, "Multi-Status"),
  (208, "Already Reported"), (226, "IM Used"), (300, "Multiple Choices"),
  (301, "Moved Permanently"), (302, "Found"), (303, "See Other"), (304, "Not Modified"),
  (305, "Use Proxy"), (307, "Temporary Redirect"), (308, "Permanent Redirect"),
  (400, "Bad Request"), (401, "Unauthorized"), (402, "Payment Required"), (403, "Forbidden"),
  (404, "Not Found"), (405, "Method Not Allowed"), (406, "Not Acceptable"),
  (407, "Proxy Authentication Required"), (408, "Request Timeout"), (409, "Conflict"),
  (410, "Gone"), (411, "Length Required"), (412, "Precondition Failed"),
  (413, "Request Entity Too Large"), (414, "Request-URI Too Long"),
  (415, "Unsupported Media Type"), (416, "Requested Range Not Satisfiable"),
  (417, "Expectation Failed"), (418, "I'm a teapot"), (421, "Misdirected Request"),
  (422, "Unprocessable Entity"), (423, "Locked"), (424, "Failed Dependency"), (425, "Too Early"),
  (426, "Upgrade Required"), (428, "Precondition Required"), (429, "Too Many Requests"),
  (431, "Request Header Fields Too Large"), (451, "Unavailable For Legal Reasons"),
  (500, "Internal Server Error"), (501, "Not Implemented"), (502, "Bad Gateway"),
  (503, "Service Unavailable"), (504, "Gateway Timeout"), (505, "HTTP Version Not Supported"),
  (506, "Variant Also Negotiates"), (507, "Insufficient Storage"), (508, "Loop Detected"),
  (510, "Not Extended"), (511, "Network Authentication Required")]

/-- The reason phrase of a status, empty for one without a phrase. -/
def reasonPhrase (status : Value) : String :=
  ((reasonPhrases.find? fun (code, _) => isSameKey (.int code) status).map (·.2)).getD ""

/-! ### Content -/

/-- The content type, empty if there is none. -/
def Response.contentType (r : Response) : String := (r.headers.get? "content-type").getD ""

/-- Whether the content is declared to be JSON. -/
def Response.isJson (r : Response) : Bool :=
  Text.holds "application/json".toList r.contentType.toList

/-- The character set of a name, and UTF-8 for a name without one. -/
def charsetOf (name : Option String) : Except Fault Charset.Encoding :=
  match name with
  | none => .ok .utf8
  | some name =>
    (Charset.Encoding.ofName? name).map (·.getD .utf8) |>.mapError .charset

/-- The character set of the content: the declared one if it is known, else UTF-8. -/
def Response.charset (r : Response) : Except Fault Charset.Encoding := do
  charsetOf (← (declaredCharset r.contentType).mapError .mediaType)

/-- The content as text. -/
def Response.text (r : Response) : Except Fault String :=
  if r.content.isEmpty then .ok ""
  else do ((← r.charset).text r.content).mapError .charset

end Workflow.Http
