import PageSketch.Chat.Request
import PageSketch.Text.Lossy
import PageSketch.Web.Address

/-!
# Chat over the web

One exchange posts the body of a request to the address of completions and makes a completion of
the response. Without a well-formed address and key nothing is sent. Of a response only the status
and the bytes of the body count: a status from 200 to 299 promises a body of JSON with the text of
the first choice.
-/

namespace PageSketch.Chat

/-- A request on its way to the server. -/
structure Post where
  target : String
  authorization : String
  contentType : String
  body : String
deriving DecidableEq, Repr

/-- The answer of the server. -/
structure Response where
  status : Nat
  body : ByteArray

/-! ## Sending -/

/-- Whether a character may stand in a header. -/
def isHeaderChar (c : Char) : Bool := (0x20 ≤ c.toNat || c = '\t') && c.toNat ≠ 0x7F

/-- The header that lets a request in: a user that the address names comes before the key. -/
def authorization (address : Web.Address) (apiKey : String) : String :=
  match address.user? with
  | some user => "Basic " ++ Web.Address.userProof user
  | none => "Bearer " ++ apiKey

/-- The post for a request, and the canonical text of its address, in which no user is shown. -/
def post (endpoint : Endpoint) (request : Request) : Except TransportCause (String × Post) :=
  match Web.Address.read? endpoint.completionsUrl with
  | none => .error .badRequest
  | some address =>
    let url := address.withoutUser.text
    if address.server?.isNone then .error (.badAddress url)
    else if !endpoint.apiKey.toList.all isHeaderChar then .error .badRequest
    else if !address.withoutUser.isSendable then .error (.badAddress url)
    else
      .ok (url,
        ⟨address.target, authorization address endpoint.apiKey, "application/json", request.body⟩)

/-! ## Responses -/

/-- The name of a status, where it has one. -/
def statusName? : Nat → Option String
  | 100 => some "Continue"
  | 101 => some "Switching Protocols"
  | 102 => some "Processing"
  | 103 => some "Early Hints"
  | 200 => some "OK"
  | 201 => some "Created"
  | 202 => some "Accepted"
  | 203 => some "Non Authoritative Information"
  | 204 => some "No Content"
  | 205 => some "Reset Content"
  | 206 => some "Partial Content"
  | 207 => some "Multi-Status"
  | 208 => some "Already Reported"
  | 226 => some "IM Used"
  | 300 => some "Multiple Choices"
  | 301 => some "Moved Permanently"
  | 302 => some "Found"
  | 303 => some "See Other"
  | 304 => some "Not Modified"
  | 305 => some "Use Proxy"
  | 307 => some "Temporary Redirect"
  | 308 => some "Permanent Redirect"
  | 400 => some "Bad Request"
  | 401 => some "Unauthorized"
  | 402 => some "Payment Required"
  | 403 => some "Forbidden"
  | 404 => some "Not Found"
  | 405 => some "Method Not Allowed"
  | 406 => some "Not Acceptable"
  | 407 => some "Proxy Authentication Required"
  | 408 => some "Request Timeout"
  | 409 => some "Conflict"
  | 410 => some "Gone"
  | 411 => some "Length Required"
  | 412 => some "Precondition Failed"
  | 413 => some "Payload Too Large"
  | 414 => some "URI Too Long"
  | 415 => some "Unsupported Media Type"
  | 416 => some "Range Not Satisfiable"
  | 417 => some "Expectation Failed"
  | 418 => some "I'm a teapot"
  | 421 => some "Misdirected Request"
  | 422 => some "Unprocessable Entity"
  | 423 => some "Locked"
  | 424 => some "Failed Dependency"
  | 425 => some "Too Early"
  | 426 => some "Upgrade Required"
  | 428 => some "Precondition Required"
  | 429 => some "Too Many Requests"
  | 431 => some "Request Header Fields Too Large"
  | 451 => some "Unavailable For Legal Reasons"
  | 500 => some "Internal Server Error"
  | 501 => some "Not Implemented"
  | 502 => some "Bad Gateway"
  | 503 => some "Service Unavailable"
  | 504 => some "Gateway Timeout"
  | 505 => some "HTTP Version Not Supported"
  | 506 => some "Variant Also Negotiates"
  | 507 => some "Insufficient Storage"
  | 508 => some "Loop Detected"
  | 510 => some "Not Extended"
  | 511 => some "Network Authentication Required"
  | _ => none

/-- A status as it stands in the log. -/
def statusText (status : Nat) : String :=
  toString status ++ " " ++ (statusName? status).getD "<unknown status code>"

namespace Response

/-- Whether the status means success. -/
def isSuccess (response : Response) : Bool := 200 ≤ response.status && response.status ≤ 299

/-- Whether the response ends an exchange: its status has three digits and does not announce
another response. -/
def isFinal (response : Response) : Bool :=
  response.status == 101 || (200 ≤ response.status && response.status ≤ 999)

/-- Whether the status comes with a body. -/
def hasBody (response : Response) : Bool :=
  response.status ≠ 101 && response.status ≠ 204 && response.status ≠ 304

/-- The bytes that arrive. -/
def received (response : Response) : ByteArray :=
  if response.hasBody then response.body else ByteArray.empty

/-- The text of the first choice. -/
def firstChoice? (value : Json.Value) : Option String :=
  (((value.member? "choices").bind Json.Value.first?).bind (Json.Value.member? "message")).bind
    (Json.Value.member? "content") |>.bind Json.Value.string?

/-- The JSON value of a body. -/
def value? (bytes : ByteArray) : Option Json.Value :=
  match String.fromUTF8? bytes with
  | none => none
  | some text =>
    match Json.parse text with
    | .ok value => some value
    | .error _ => none

/-- The result of a response. -/
def result (response : Response) : Except Failure String :=
  if response.isSuccess then
    match value? response.received with
    | none =>
      .error (.unexpectedResponse "Failed to parse response: error decoding response body")
    | some value =>
      match firstChoice? value with
      | none => .error (.unexpectedResponse "missing choices[0].message.content")
      | some text => .ok text
  else .error (.http response.status)

/-- What is noted about a response. -/
def notes (response : Response) (url : String) : List LogEntry :=
  if response.isSuccess then []
  else
    [.plain .debug .client
      ("Completion request to " ++ url ++ " failed with " ++ statusText response.status ++ ": " ++
        Text.lossy response.received)]

end Response

/-! ## Exchanges -/

/-- A network: the response to a post to a host, if anything answers. -/
abbrev Network := Post → Option Response

/-- A network on which nothing answers. -/
def Network.silent : Network := fun _ => none

/-- One exchange over a network. -/
def exchange (network : Network) (endpoint : Endpoint) (request : Request) : Completion :=
  match post endpoint request with
  | .error cause => ⟨none, .error (.transport cause), []⟩
  | .ok (url, sent) =>
    match network sent with
    | none => ⟨some 0, .error (.transport (.unreachable url)), []⟩
    | some response =>
      if response.isFinal then
        ⟨some 0, response.result, response.notes endpoint.completionsUrl⟩
      else ⟨some 0, .error (.transport (.unreachable url)), []⟩

/-- The client that speaks over a network. -/
def Client.web (network : Network) : Client := ⟨"OpenAI-compatible HTTP", exchange network⟩

end PageSketch.Chat
