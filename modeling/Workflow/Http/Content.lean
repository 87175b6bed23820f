import Workflow.Compression.Container
import Workflow.Http.Header
import Workflow.Text.Blank

/-!
# Content of responses

The headers of a response name the codings in which its content was written, in the order in which
they were applied; they are undone in reverse.  Names without a meaning here are passed over.
-/

namespace Workflow.Http

/-- How content is written. -/
inductive Coding where
  /-- A member of an archive. -/
  | gzip
  /-- Deflated data, with or without a container. -/
  | deflate
  deriving DecidableEq, Repr

/-- The coding of a name. -/
def Coding.ofName? : String → Option Coding
  | "gzip" => some .gzip
  | "deflate" => some .deflate
  | _ => none

/-- The content that was written in a coding.  Deflated data that does not fit its container is
taken to have none. -/
def Coding.undo : Coding → List UInt8 → Except Compression.Flaw (List UInt8)
  | .gzip, data => Compression.inflate .gzip data
  | .deflate, data =>
    match Compression.inflate .zlib data with
    | .ok content => .ok content
    | .error _ => Compression.inflate .bare data

/-- The parts of a text between commas. -/
def commaParts : List Char → List (List Char)
  | [] => [[]]
  | c :: cs =>
    match commaParts cs with
    | [] => [[c]]
    | p :: ps => if c == ',' then [] :: p :: ps else (c :: p) :: ps

/-- The codings that headers name. -/
def Headers.codings (h : Headers) : List Coding :=
  (h.values "content-encoding").flatMap fun v =>
    (commaParts v.toList).filterMap fun part =>
      Coding.ofName? (Text.lower (String.ofList (Text.trim part)))

/-- The content of a body. -/
def Headers.content (h : Headers) (body : List UInt8) : Except Compression.Flaw (List UInt8) :=
  h.codings.reverse.foldlM (fun data coding => coding.undo data) body

end Workflow.Http
