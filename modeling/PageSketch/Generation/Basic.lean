import PageSketch.Chat.Request
import PageSketch.Generation.Reply
import PageSketch.Settings.Basic
import PageSketch.Sketch.Basic
import PageSketch.Text.Search

/-!
# Generations

One generation turns a request into a sketch. With a key the model is asked, and the first stage
that goes wrong decides how the generation fails: the client, the JSON of the reply, its shape, the
rules. Without a key the sample page stands in for the model, if the request mentions a form. A status
line tells the user how a generation ended.

A generation is planned from the settings, carried out by a client, and concluded from the
client's result; `generate` puts the three together.
-/

namespace PageSketch

/-! ## The sample page -/

namespace Sample

/-- The word that asks for the sample page. -/
def trigger : String := "表单"

/-- The sample page. -/
def sketch : Sketch where
  header := ⟨"Mock 表单", .flow⟩
  components :=
    [(Component.named "d-card").withChild
      (.component ((Component.named "d-button").withProp "content" (.string "Mock 按钮")))]

/-- The sample page, if the text asks for it. -/
def answer? (text : String) : Option Sketch :=
  if Text.contains text trigger then some sketch else none

end Sample

/-! ## Status lines -/

namespace StatusLine

/-- The title of a page that has none. -/
def untitled : String := "未命名页面"

/-- A page was generated. -/
def generated (title : String) : String := "已为您生成界面：" ++ title

/-- The line for a sketch of the model. -/
def ofSketch (sketch : Sketch) : String := generated (sketch.titleOr untitled)

/-- The generation failed. -/
def failed (reason : String) : String := "生成失败: " ++ reason ++ "。请检查 API Key 或 Prompt。"

/-- There is no key, and the sample page is shown. -/
def sampleShown : String := "检测到未配置 Key，已展示 Mock 表单数据。请点击右上角配置 AI。"

/-- There is no key, and the request does not ask for the sample page. -/
def notConfigured : String := "未配置 AI Key，且未命中 Mock 关键词。请配置 Key 后重试。"

/-- Another generation is in flight. -/
def busy : String := "正在生成中，请等待当前请求完成后再试。"

end StatusLine

/-! ## Options -/

/-- What is done about broken rules. -/
inductive Validation where
  /-- The rules are not looked at. -/
  | off
  /-- Violations are reported, and the sketch is kept. -/
  | lenient
  /-- A sketch with violations is refused. -/
  | strict
deriving DecidableEq, Repr

/-- The choices that hold for all generations. -/
structure Options where
  /-- The milliseconds before the sample page is shown. -/
  sampleDelay : Nat
  model : String
  baseUrl : String
  temperature : ExtendedBinary .single
  validation : Validation
deriving DecidableEq

/-- The options that hold when nothing is said: among them a temperature of two tenths, for replies
that keep to the form. -/
def Options.standard : Options where
  sampleDelay := 1000
  model := "gpt-3.5-turbo"
  baseUrl := "https://api.openai.com/v1"
  temperature := scaleDecimal .single false 2 (-1)
  validation := .lenient

/-! ## Outcomes -/

/-- Where a sketch came from. -/
inductive SketchSource where
  | model
  | sample
deriving DecidableEq, Repr

/-- How a generation ended. -/
inductive Status where
  | success (sketch : Sketch) (source : SketchSource)
  /-- There is neither a key nor a sample page to show. -/
  | unchanged
  | failure (failure : Failure)

/-- How a generation ended, and the violations that were reported. -/
structure Outcome where
  status : Status
  violations : List Violation

namespace Outcome

/-- The status line of an outcome. -/
def message (outcome : Outcome) : String :=
  match outcome.status with
  | .success sketch .model => StatusLine.ofSketch sketch
  | .success _ .sample => StatusLine.sampleShown
  | .unchanged => StatusLine.notConfigured
  | .failure failure => StatusLine.failed failure.message

/-- The sketch of a success. -/
def sketch? (outcome : Outcome) : Option Sketch :=
  match outcome.status with
  | .success sketch _ => some sketch
  | .unchanged => none
  | .failure _ => none

/-- Whether there is a new sketch. -/
def isSuccess (outcome : Outcome) : Bool := outcome.sketch?.isSome

/-- The reason of a failure. -/
def error? (outcome : Outcome) : Option String :=
  match outcome.status with
  | .success _ _ => none
  | .unchanged => none
  | .failure failure => some failure.message

end Outcome

/-! ## Plans -/

/-- What a generation is going to do. -/
inductive Plan where
  | sample
  | ask (endpoint : Chat.Endpoint) (request : Chat.Request)

/-- The plan for a request: without a key the model is not asked. -/
def plan (options : Options) (settings : ModelSettings) (text : String) : Plan :=
  match settings.apiKey with
  | none => .sample
  | some apiKey =>
    .ask ⟨settings.baseUrl.getD options.baseUrl, apiKey⟩
      ⟨settings.model.getD options.model, Chat.promptMessages text, options.temperature⟩

/-- What is noted before the model is asked. -/
def askingNote (clientName : String) (endpoint : Chat.Endpoint) (request : Chat.Request) :
    LogEntry :=
  .ofCall .debug
    ("Requesting DSL from " ++ endpoint.completionsUrl ++ " via " ++ clientName ++ " (model " ++
      request.model ++ ")")

/-! ## Conclusions -/

/-- An outcome and what is noted about it. -/
structure Conclusion where
  outcome : Outcome
  notes : List LogEntry

/-- The conclusion without a key. -/
def concludeSample (text : String) : Conclusion :=
  match Sample.answer? text with
  | some sketch =>
    ⟨⟨.success sketch .sample, []⟩,
      [.ofCall .info "No API key configured, serving mock page"]⟩
  | none =>
    ⟨⟨.unchanged, []⟩, [.ofCall .info "No API key configured and no mock keyword"]⟩

/-- The violations to report about a sketch, unless it is refused. -/
def Validation.check (validation : Validation) (sketch : Sketch) :
    Except Failure (List Violation) :=
  match validation with
  | .off => .ok []
  | .lenient => .ok sketch.violations
  | .strict =>
    if sketch.violations = [] then .ok [] else .error (.brokenRules sketch.violations)

/-- The conclusion of a success. -/
def concludeSketch (sketch : Sketch) (violations : List Violation) : Conclusion :=
  ⟨⟨.success sketch .model, violations⟩,
    violations.map (fun violation => .ofCall .warn violation.message) ++
      [.ofCall .info
        ("Generated page '" ++ sketch.header.title ++ "' with " ++
          toString sketch.components.length ++ " top-level components")]⟩

/-- The conclusion of a failure. -/
def concludeFailure (failure : Failure) : Conclusion :=
  ⟨⟨.failure failure, []⟩, [.ofCall .error ("DSL generation failed: " ++ failure.message)]⟩

/-- The conclusion from the client's result. -/
def concludeReply (validation : Validation) (result : Except Failure String) : Conclusion :=
  match result with
  | .error failure => concludeFailure failure
  | .ok content =>
    match Reply.sketch content with
    | .error failure => concludeFailure failure
    | .ok sketch =>
      match validation.check sketch with
      | .error failure => concludeFailure failure
      | .ok violations => concludeSketch sketch violations

/-! ## Calls -/

/-- One generation from its start to its end. -/
structure Call where
  /-- What is noted before the call waits. -/
  opening : List LogEntry
  /-- What the client was asked. -/
  asked : Option (Chat.Endpoint × Chat.Request)
  /-- The milliseconds that the call waits, if it waits. -/
  wait : Option Nat
  /-- What is noted afterwards. -/
  closing : List LogEntry
  outcome : Outcome

/-- The longest wait, in milliseconds: thirty years of 365 days. -/
def longestWait : Nat := 30 * 365 * 24 * 60 * 60 * 1000

/-- The delay as a wait: no time at all is not waited for, and nothing for longer than the longest
wait. -/
def waitOf (delay : Nat) : Option Nat :=
  if delay = 0 then none else some (min delay longestWait)

/-- One generation with a client. -/
def generate (options : Options) (client : Chat.Client) (settings : ModelSettings)
    (text : String) : Call :=
  match plan options settings text with
  | .sample =>
    let conclusion := concludeSample text
    ⟨[], none, waitOf options.sampleDelay, conclusion.notes, conclusion.outcome⟩
  | .ask endpoint request =>
    let completion := client.complete endpoint request
    let conclusion := concludeReply options.validation completion.result
    ⟨[askingNote client.name endpoint request], some (endpoint, request), completion.wait,
      completion.notes ++ conclusion.notes, conclusion.outcome⟩

end PageSketch
