import PageSketch.Proofs.Generation.Questions
import PageSketch.Proofs.Generation.Stages
import PageSketch.Proofs.Text.Search

/-!
# What decides a generation

Without a key the model is not asked, and the word for the sample page decides. With a key the model
is asked once, at the place and for the model that the settings or else the options name, and the
first stage at which the reply fails decides.
-/

namespace PageSketch

/-! ## Settings -/

/-- A setting without the blanks around it, or another text where it is missing or blank. -/
def filledOr (stored : Option String) (fallback : String) : String :=
  match stored with
  | none => fallback
  | some text => if Text.trim text = "" then fallback else Text.trim text

namespace Settings

variable {settings : Settings} {key : SettingKey}

/-- A setting is not filled when it is missing or blank. -/
theorem filled?_eq_none
    (h : ∀ stored, settings.get? key.name = some stored → Text.trim stored = "") :
    settings.filled? key = none := by
  cases hstored : settings.get? key.name with
  | none => simp [filled?, hstored]
  | some stored => simp [filled?, hstored, Option.filter, h stored hstored]

/-- A setting that is not blank is filled. -/
theorem filled?_eq_some {stored : String} (h : settings.get? key.name = some stored)
    (hfilled : Text.trim stored ≠ "") : settings.filled? key = some (Text.trim stored) := by
  simp [filled?, h, Option.filter, hfilled]

/-- A filled setting or else another text. -/
theorem getD_filled? (fallback : String) :
    (settings.filled? key).getD fallback = filledOr (settings.get? key.name) fallback := by
  cases hstored : settings.get? key.name with
  | none =>
    rw [filled?_eq_none fun stored h => nomatch hstored.symm.trans h]
    rfl
  | some stored =>
    by_cases hblank : Text.trim stored = ""
    · have hnone : settings.filled? key = none := by
        refine filled?_eq_none fun other hother => ?_
        obtain rfl := Option.some.inj (hstored.symm.trans hother)
        exact hblank
      rw [hnone, filledOr, if_pos hblank]
      rfl
    · rw [filled?_eq_some hstored hblank, filledOr, if_neg hblank]
      rfl

end Settings

/-! ## Calls -/

/-- The question of a generation with a key: the trimmed key, the trimmed address and model of the
settings or else those of the options, and two messages. -/
def questionFor (options : Options) (settings : Settings) (key text : String) : Question :=
  (⟨filledOr (settings.get? "nl2ui_base_url") options.baseUrl, Text.trim key⟩,
    ⟨filledOr (settings.get? "nl2ui_model") options.model,
      [⟨"system", Chat.systemPrompt⟩, ⟨"user", "用户需求: " ++ text⟩], options.temperature⟩)

namespace Call

/-- What becomes of a generation without a key: the client is not asked, and the outcome is a success
with the sample page when the text has the word for it, and else nothing changes. -/
structure EndsWithoutKey (call : Call) (text : String) : Prop where
  asked : call.asked = none
  sample : call.outcome.status = .success Sample.sketch .sample ↔ "表单".toList <:+: text.toList
  unchanged : call.outcome.status = .unchanged ↔ ¬"表单".toList <:+: text.toList

/-- What becomes of a generation that asks a question: the outcome is a success with the sketch of a
reply that passes all stages, and else a failure of the kind and for the reason of the first stage
that fails. -/
structure EndsByReply (call : Call) (validation : Validation) (question : Question)
    (result : Except Failure String) : Prop where
  asked : call.asked = some question
  success : ∀ s source, call.outcome.status = .success s source ↔
    source = .model ∧ PassesAll validation result s
  failure : (¬∃ s source, call.outcome.status = .success s source) →
    ∃ stage kind reason, call.outcome.FailsWith kind reason ∧
      FailsAt validation result stage kind reason ∧
      ∀ stage' kind' reason', FailsAt validation result stage' kind' reason' →
        stage' = stage ∧ kind' = kind ∧ reason' = reason

end Call

/-- Without a key the text alone decides. -/
theorem generate_endsWithoutKey (options : Options) (client : Chat.Client)
    {settings : ModelSettings} (text : String) (h : settings.apiKey = none) :
    (generate options client settings text).EndsWithoutKey text := by
  have hplan : plan options settings text = .sample := by rw [plan, h]
  have hword : Text.contains text Sample.trigger = true ↔ "表单".toList <:+: text.toList :=
    Text.occursIn_iff
  rw [generate, hplan]
  simp only [concludeSample, Sample.answer?]
  by_cases hcontains : Text.contains text Sample.trigger = true
  · have hinfix := hword.mp hcontains
    rw [if_pos hcontains]
    exact ⟨rfl, iff_of_true rfl hinfix, iff_of_false (by simp) (not_not_intro hinfix)⟩
  · have hinfix := mt hword.mpr hcontains
    rw [if_neg hcontains]
    exact ⟨rfl, iff_of_false (by simp) hinfix, iff_of_true rfl hinfix⟩

/-- What the client makes of the question decides. -/
theorem generate_endsByReply (options : Options) (client : Chat.Client)
    {settings : ModelSettings} (text : String) {question : Question}
    (h : plan options settings text = .ask question.1 question.2) :
    (generate options client settings text).EndsByReply options.validation question
      (client.complete question.1 question.2).result := by
  have houtcome : (generate options client settings text).outcome =
      (concludeReply options.validation (client.complete question.1 question.2).result).outcome := by
    rw [generate, h]
  constructor
  case asked => rw [generate, h]
  case success =>
    intro s source
    rw [houtcome]
    exact concludeReply_success_iff
  case failure =>
    intro hfailure
    rw [houtcome] at hfailure ⊢
    rcases passesAll_or_failsAt options.validation
      (client.complete question.1 question.2).result with ⟨s, hs⟩ | ⟨stage, kind, reason, hfails⟩
    · exact absurd ⟨s, .model, concludeReply_success_iff.mpr ⟨rfl, hs⟩⟩ hfailure
    · exact ⟨stage, kind, reason, hfails.failsWith, hfails,
        fun stage' kind' reason' hfails' => hfails'.unique hfails⟩

/-- With a key the question is asked for which settings and options were made. -/
theorem plan_forModel (options : Options) {settings : Settings} {key : String} (text : String)
    (hkey : settings.get? "nl2ui_api_key" = some key) (hfilled : Text.trim key ≠ "") :
    plan options settings.forModel text =
      .ask (questionFor options settings key text).1 (questionFor options settings key text).2 := by
  have hapiKey : settings.filled? .apiKey = some (Text.trim key) :=
    Settings.filled?_eq_some hkey hfilled
  rw [plan, Settings.forModel, hapiKey]
  simp only [Settings.getD_filled?]
  rfl

/-- The failure of a generation comes without violations. -/
theorem violations_generate {options : Options} {client : Chat.Client}
    {settings : ModelSettings} {text : String} {failure : Failure}
    (h : (generate options client settings text).outcome.status = .failure failure) :
    (generate options client settings text).outcome.violations = [] := by
  rw [generate] at h ⊢
  cases hplan : plan options settings text with
  | sample =>
    simp only [hplan, concludeSample] at h ⊢
    cases Sample.answer? text <;> rfl
  | ask endpoint request =>
    simp only [hplan] at h ⊢
    exact violations_concludeReply h

/-- The first stage that fails decides how a generation ends. Carried out on a world, it comes to the
outcome of its call and asks the question of the call once. Without a key it asks nothing; with a key
it asks for what settings and options name, and succeeds when the reply passes all stages. The
reason of a failure stands in the status line, and only a success has a sketch or violations. -/
theorem first_failing_stage_decides (options : Options) (client : Chat.Client)
    (settings : Settings) (text : String) :
    let call := generate options client settings.forModel text
    (∀ directory world,
      ((Command.carryOut (World.host directory client).recorded options settings.forModel
          text).run []).run world =
        pure ((call.outcome, call.asked.toList),
          world.noting (call.opening ++ call.closing))) ∧
    ((∀ key, settings.get? "nl2ui_api_key" = some key → Text.trim key = "") →
      call.EndsWithoutKey text) ∧
    (∀ key, settings.get? "nl2ui_api_key" = some key → Text.trim key ≠ "" →
      let question := questionFor options settings key text
      call.EndsByReply options.validation question
        (client.complete question.1 question.2).result) ∧
    (∀ kind reason, call.outcome.FailsWith kind reason →
      reason.toList <:+: call.outcome.message.toList ∧ call.outcome.violations = []) ∧
    ((¬∃ s source, call.outcome.status = .success s source) → call.outcome.sketch? = none) := by
  intro call
  refine ⟨fun directory world => ?_, fun hmissing => ?_, fun key hkey hfilled => ?_,
    fun kind reason hfails => ⟨?_, ?_⟩, fun hfailure => ?_⟩
  · exact Command.run_carryOut_world directory client options settings.forModel text world
  · exact generate_endsWithoutKey options client text (Settings.filled?_eq_none hmissing)
  · exact generate_endsByReply options client text (plan_forModel options text hkey hfilled)
  · exact hfails.reason_isInfix
  · obtain ⟨failure, hstatus, -⟩ := hfails
    exact violations_generate hstatus
  · exact Outcome.sketch?_eq_none fun s source h => hfailure ⟨s, source, h⟩

/-- With a key the client is asked, at the place of the options if that of the settings is blank, and
strict rules refuse its reply; without a key it is not asked. -/
theorem first_failing_stage_decides_menu :
    let client : Chat.Client := ⟨"stub", fun _ _ => ⟨none, .ok menuReply, []⟩⟩
    let options := { Options.standard with validation := .strict }
    let settings := Settings.ofList [("nl2ui_api_key", " secret\n"), ("nl2ui_base_url", " ")]
    let call := generate options client settings.forModel "menu"
    let sampled := generate options client Settings.empty.forModel "一个表单"
    call.asked = some (⟨"https://api.openai.com/v1", "secret"⟩,
      ⟨"gpt-3.5-turbo", [⟨"system", Chat.systemPrompt⟩, ⟨"user", "用户需求: menu"⟩],
        options.temperature⟩) ∧
    call.outcome.FailsWith .invalidSketch
      "生成的 DSL 未通过校验: Node 'components[0]' uses unknown component 'd-menu'" ∧
    sampled.asked = none ∧ sampled.outcome.status = .success Sample.sketch .sample := by
  intro client options settings call sampled
  obtain ⟨-, -, hkey, -⟩ := first_failing_stage_decides options client settings "menu"
  obtain ⟨-, hmissing, -⟩ := first_failing_stage_decides options client .empty "一个表单"
  have hcall := hkey " secret\n" (by decide) (by decide)
  have hsampled := hmissing (by decide)
  refine ⟨?_, ?_, hsampled.asked, hsampled.sample.mpr ⟨"一个".toList, [], by decide⟩⟩
  · have hsecret : Text.trim " secret\n" = "secret" := by decide
    have hbaseUrl : filledOr (settings.get? "nl2ui_base_url") options.baseUrl =
        "https://api.openai.com/v1" := by decide
    rw [hcall.asked, questionFor, hbaseUrl, hsecret]
    rfl
  · have hbroken : Sketch.menu.violations ≠ [] := by simp [Sketch.violations_menu]
    have hfailure : ¬∃ s source, call.outcome.status = .success s source := by
      rintro ⟨s, source, hsuccess⟩
      obtain ⟨-, content, hcontent, hs, hrules⟩ := (hcall.success s source).mp hsuccess
      obtain rfl := Except.ok.inj hcontent
      obtain rfl := Except.ok.inj (sketch_menuReply.symm.trans hs)
      exact absurd (hrules rfl) hbroken
    obtain ⟨stage, kind, reason, hfails, -, hfirst⟩ := hcall.failure hfailure
    obtain ⟨rfl, rfl, rfl⟩ := hfirst _ _ _ (.rules rfl sketch_menuReply rfl hbroken)
    rw [Sketch.violations_menu] at hfails
    exact hfails

end PageSketch
