import PageSketch.Generation.Reply
import PageSketch.Json.Record
import PageSketch.Json.Writer
import PageSketch.Log

/-!
# Chat requests

A chat request asks a model for one completion of a list of messages. `Request.body` is the JSON
text that is sent, and `Request.read` reads such a text back. The messages for a request of the user
are the prompt, which tells the model the vocabulary, the form of a reply and the rules, and the
request itself. A client answers with the text of a completion or with a failure.
-/

namespace PageSketch.Chat

open Json (Outline RecordReader FieldReader)

/-- A message of a chat. -/
structure Message where
  role : String
  content : String
deriving DecidableEq, Repr, Inhabited

/-- A message that instructs the model. -/
def Message.system (content : String) : Message := ⟨"system", content⟩

/-- A message of the user. -/
def Message.user (content : String) : Message := ⟨"user", content⟩

/-- A request for one completion. -/
structure Request where
  model : String
  messages : List Message
  temperature : ExtendedBinary .single
deriving DecidableEq

/-- Where requests are sent, and the key that goes with them. -/
structure Endpoint where
  baseUrl : String
  apiKey : String
deriving DecidableEq, Repr, Inhabited

/-! ## Addresses -/

/-- The path of completions below the base address. -/
def completionsPath : String := "/chat/completions"

/-- A text without the slashes at its end. -/
def withoutFinalSlashes (text : String) : String :=
  String.ofList (text.toList.reverse.dropWhile (· = '/')).reverse

/-- The address of completions. -/
def Endpoint.completionsUrl (endpoint : Endpoint) : String :=
  withoutFinalSlashes endpoint.baseUrl ++ completionsPath

/-! ## Writing -/

/-- A message as an outline. -/
def Message.outline (message : Message) : Outline :=
  .record [("role", .string message.role), ("content", .string message.content)]

/-- The text of a temperature; the infinities and the undefined result have no JSON form. -/
def temperatureText : ExtendedBinary .single → String
  | .finite x => DecimalStyle.jsonSingle.text x
  | .infinite _ => "null"
  | .undefined => "null"

/-- A request as an outline. -/
def Request.outline (request : Request) : Outline :=
  .record
    [("model", .string request.model),
     ("messages", .list (request.messages.map Message.outline)),
     ("temperature", .atom (temperatureText request.temperature))]

/-- The text that is sent. -/
def Request.body (request : Request) : String := request.outline.compact

/-! ## Reading -/

/-- Reads a message. -/
def Message.reader : RecordReader Message where
  name := "ChatMessage"
  fields :=
    [.of "role" true Json.readText fun role message => { message with role },
     .of "content" true Json.readText fun content message => { message with content }]
  initial := ⟨"", ""⟩

/-- Reads a request. -/
def Request.reader : RecordReader Request where
  name := "ChatRequest"
  fields :=
    [.of "model" true Json.readText fun model request => { request with model },
     .of "messages" true (Json.readList Message.reader.read)
       fun messages request => { request with messages },
     .of "temperature" true Json.readSingle
       fun temperature request => { request with temperature }]
  initial := ⟨"", [], .finite (.zero .single false)⟩

/-- The request of a text. -/
def Request.read (text : String) : Except Json.DecodeError Request :=
  Json.decodeText Request.reader.read text

/-! ## The prompt -/

/-- The instructions for the model. -/
def systemPrompt : String :=
  "You are a front-end UI expert. Convert the user's natural-language request into a UI DSL expressed as JSON.

## Component whitelist
Only use the component names below. Never invent components.
1. Layout: \"d-row\", \"d-col\" (span = 1..24)
2. Containers: \"d-card\" (props: title, shadow), \"d-card-header\", \"d-card-content\"
3. Forms: \"d-form\", \"d-form-item\" (props: label, required), \"d-input\", \"d-select\" (props: options = []), \"d-button\", \"d-textarea\"
4. Charts: \"simple-stat\" (props: label, value, trend = 'up' | 'down'), \"simple-chart\" (props: type = 'line' | 'bar')

## Output format
Reply with JSON only, following exactly this structure. Do not wrap it in markdown code fences.
\x7b
  \"page\": \x7b \"title\": \"Page title\", \"layout\": \"grid\" | \"default\" \x7d,
  \"components\": [
    \x7b
      \"component\": \"component name\",
      \"props\": \x7b ...component props \x7d,
      \"span\": 8,
      \"children\": [ ...nested components or plain text ]
    \x7d
  ]
\x7d

## Rules
- \"span\" is only meaningful when page.layout is \"grid\"; the spans of sibling components must add up to 24.
- String props are literal text; numbers, booleans, arrays and objects are passed as values.
- \"children\" keeps its order; a child may be a component object or a plain string.

## Example
User: \"Build a sales card\"
Assistant: \x7b \"page\": \x7b \"title\": \"Sales\", \"layout\": \"default\" \x7d, \"components\": [\x7b \"component\": \"d-card\", \"props\": \x7b \"title\": \"Sales\" \x7d, \"children\": [\x7b \"component\": \"simple-stat\", \"props\": \x7b \"label\": \"Revenue\", \"value\": 1200, \"trend\": \"up\" \x7d \x7d] \x7d] \x7d
"

/-- The label in front of a request. -/
def requestLabel : String := "用户需求: "

/-- The message of the user for a request. -/
def userMessage (text : String) : String := requestLabel ++ text

/-- The messages for a request. -/
def promptMessages (text : String) : List Message :=
  [.system systemPrompt, .user (userMessage text)]

/-! ## Clients -/

/-- What a client makes of a request. -/
structure Completion where
  /-- The milliseconds until the result is there; none if it is there at once. -/
  wait : Option Nat
  result : Except Failure String
  notes : List LogEntry

/-- A client: its name in the log, and its answers. -/
structure Client where
  name : String
  complete : Endpoint → Request → Completion

end PageSketch.Chat
