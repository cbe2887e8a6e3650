import PageSketch.Check
import PageSketch.Json.Reader
import PageSketch.Sketch.Reader
import PageSketch.Text.Search

/-!
# Replies of the model

A reply should be the JSON text of a sketch. Models like to put such a text between code fences,
so these are taken out first; then the text has to be JSON, an object with a list of components,
and a sketch, in this order. What goes wrong there or on the way to the model is a failure, which
belongs to one of five kinds, and its message is what the user is told.
-/

namespace PageSketch

/-! ## Failures -/

/-- Why a request never got a response. -/
inductive TransportCause where
  /-- The address or a header of the request is not well formed. -/
  | badRequest
  /-- No request can be sent to the address. -/
  | badAddress (url : String)
  | unreachable (url : String)
deriving DecidableEq, Repr

/-- The wording of a transport cause. -/
def TransportCause.message : TransportCause → String
  | badRequest => "builder error"
  | badAddress url => "builder error for url (" ++ url ++ ")"
  | unreachable url => "error sending request for url (" ++ url ++ ")"

/-- A cause for a generation to fail. -/
inductive Failure where
  /-- The endpoint answered with a status that does not mean success. -/
  | http (status : Nat)
  | transport (cause : TransportCause)
  /-- The response is not a chat completion. -/
  | unexpectedResponse (reason : String)
  /-- The reply of the model is not JSON. -/
  | malformedReply (error : Json.TextError)
  /-- The reply of the model is JSON, but no sketch. -/
  | invalidShape (reason : String)
  | brokenRules (violations : List Violation)
deriving DecidableEq, Repr

/-- The kinds of failures. -/
inductive FailureKind where
  | http (status : Nat)
  | transport
  | unexpectedResponse
  | malformedReply
  | invalidSketch
deriving DecidableEq, Repr

namespace Failure

/-- The kind of a failure. -/
def kind : Failure → FailureKind
  | http status => .http status
  | transport _ => .transport
  | unexpectedResponse _ => .unexpectedResponse
  | malformedReply _ => .malformedReply
  | invalidShape _ => .invalidSketch
  | brokenRules _ => .invalidSketch

/-- The violations in one line. -/
def summary (violations : List Violation) : String :=
  "; ".intercalate (violations.map Violation.message)

/-- The message of a failure. -/
def message : Failure → String
  | http status => "API Error: " ++ toString status
  | transport cause => "HTTP request failed: " ++ cause.message
  | unexpectedResponse reason => "Unexpected completion response: " ++ reason
  | malformedReply error => "Model output is not valid JSON: " ++ error.message
  | invalidShape reason => "生成的 DSL 格式不合法: " ++ reason
  | brokenRules violations => "生成的 DSL 未通过校验: " ++ summary violations

end Failure

namespace Reply

/-! ## Sketches in replies -/

/-- The opening fence of a block of JSON. -/
def jsonFence : List Char := ['\x60', '\x60', '\x60', 'j', 's', 'o', 'n']

/-- A bare fence. -/
def fence : List Char := ['\x60', '\x60', '\x60']

/-- The characters without fences and without blanks at both ends. -/
def stripFencesChars (cs : List Char) : List Char :=
  Text.trimChars (Text.removeAll fence (Text.removeAll jsonFence cs))

/-- The text without fences and without blanks at both ends. -/
def stripFences (text : String) : String := String.ofList (stripFencesChars text.toList)

/-- Whether a value is an object with a list of components. -/
def hasComponents (value : Json.Value) : Bool :=
  match value.member? "components" with
  | some (.array _) => true
  | _ => false

/-- The sketch in a value. -/
def sketchOfValue (value : Json.Value) : Except Failure Sketch :=
  if hasComponents value then
    match Sketch.ofValue value with
    | .ok sketch => .ok sketch
    | .error e => .error (.invalidShape e.message)
  else .error (.invalidShape "missing `components` array")

/-- The sketch in a reply. -/
def sketch (text : String) : Except Failure Sketch :=
  match Json.parse (stripFences text) with
  | .ok value => sketchOfValue value
  | .error e => .error (.malformedReply e)

end Reply

end PageSketch
