import PageSketch.Proofs.Generation.Decision

/-!
# What the treatment of violations changes

A generation is run three times with options that differ in nothing but what is done about broken
rules. Until a sketch has been decoded the three runs are one and the same; after that, violations are
not looked at, reported and warned of, or turned into a failure.
-/

namespace PageSketch

/-- How three calls differ of which one ignores violations, one reports them and one refuses a sketch
that has any. -/
structure Call.DifferInViolations (off lenient strict : Call) : Prop where
  asked : off.asked = lenient.asked
  status : off.outcome.status = lenient.outcome.status
  message : off.outcome.message = lenient.outcome.message
  /-- Nothing is reported when violations are ignored. -/
  ignored : off.outcome.violations = []
  /-- All violations of a sketch are reported, in their order. -/
  reported : ∀ s source, lenient.outcome.status = .success s source →
    lenient.outcome.violations = s.violations
  /-- Nothing is reported without a sketch. -/
  unreported : (¬∃ s source, lenient.outcome.status = .success s source) →
    lenient.outcome.violations = []
  opening : off.opening = lenient.opening
  /-- What is reported is warned of, one violation after the other, and nothing else is noted. -/
  warned : ∃ before after, off.closing = before ++ after ∧
    lenient.closing = before ++
      lenient.outcome.violations.map (fun v => ⟨.warn, .parser, true, v.message⟩) ++ after
  /-- Where no sketch has violations, nothing is refused. -/
  tolerated : (∀ s source, lenient.outcome.status = .success s source → s.violations = []) →
    strict.outcome.status = lenient.outcome.status ∧
      strict.outcome.message = lenient.outcome.message ∧
      strict.outcome.violations = lenient.outcome.violations
  /-- A sketch with violations is refused, and the reason tells all of them. -/
  refused : ∀ s source, lenient.outcome.status = .success s source → s.violations ≠ [] →
    strict.outcome.FailsWith .invalidSketch
      ("生成的 DSL 未通过校验: " ++ "; ".intercalate (s.violations.map Violation.message))
  /-- A sketch is taken over by the strict call when there was nothing to report about it. -/
  accepted : ∀ s source, strict.outcome.status = .success s source ↔
    lenient.outcome.status = .success s source ∧ lenient.outcome.violations = []

namespace Call.DifferInViolations

/-- A call that has nothing to report does not differ from itself. -/
theorem refl {call : Call} (hviolations : call.outcome.violations = [])
    (hclean : ∀ s source, call.outcome.status = .success s source → s.violations = []) :
    DifferInViolations call call call where
  asked := rfl
  status := rfl
  message := rfl
  ignored := hviolations
  reported s source hsuccess := hviolations.trans (hclean s source hsuccess).symm
  unreported _ := hviolations
  opening := rfl
  warned := ⟨[], call.closing, rfl, by simp [hviolations]⟩
  tolerated _ := ⟨rfl, rfl, rfl⟩
  refused s source hsuccess hbroken := absurd (hclean s source hsuccess) hbroken
  accepted s source := by simp [hviolations]

end Call.DifferInViolations

/-! ## Where the runs part -/

/-- A call with a further conclusion. -/
def Call.concluded (call : Call) (conclusion : Conclusion) : Call :=
  { call with closing := call.closing ++ conclusion.notes, outcome := conclusion.outcome }

/-- Three ways to conclude from one sketch: without its violations, with them, and by a failure if
there are any. -/
theorem Call.DifferInViolations.of_sketch {call : Call} {s : Sketch} {conclusion : Conclusion}
    (hclean : s.violations = [] → conclusion = concludeSketch s [])
    (hbroken : s.violations ≠ [] → conclusion = concludeFailure (.brokenRules s.violations)) :
    DifferInViolations (call.concluded (concludeSketch s []))
      (call.concluded (concludeSketch s s.violations)) (call.concluded conclusion) := by
  have hstatus : ∀ t source,
      (call.concluded (concludeSketch s s.violations)).outcome.status = .success t source →
        t = s := by
    intro t source hsuccess
    exact (Status.success.inj hsuccess).1.symm
  constructor
  case asked => rfl
  case status => rfl
  case message => rfl
  case ignored => rfl
  case opening => rfl
  case reported =>
    intro t source hsuccess
    rw [hstatus t source hsuccess]
    rfl
  case unreported => exact fun hnone => absurd ⟨s, .model, rfl⟩ hnone
  case warned =>
    refine ⟨call.closing, (concludeSketch s []).notes, rfl, ?_⟩
    simp [Call.concluded, concludeSketch, LogEntry.ofCall]
  case tolerated =>
    intro hnone
    have hviolations := hnone s .model rfl
    rw [hclean hviolations]
    exact ⟨rfl, rfl, hviolations.symm⟩
  case refused =>
    intro t source hsuccess hviolations
    obtain rfl := hstatus t source hsuccess
    rw [hbroken hviolations]
    exact ⟨_, rfl, rfl, rfl⟩
  case accepted =>
    intro t source
    by_cases hviolations : s.violations = []
    · rw [hclean hviolations]
      exact ⟨fun hsuccess => ⟨hsuccess, hviolations⟩, fun hsuccess => hsuccess.1⟩
    · rw [hbroken hviolations]
      exact ⟨nofun, fun hsuccess => absurd hsuccess.2 hviolations⟩

/-- The sample page keeps the rules. -/
theorem Sample.violations_sketch : Sample.sketch.violations = [] := by decide

/-- Without a key there is nothing to report. -/
theorem violations_concludeSample (text : String) :
    (concludeSample text).outcome.violations = [] ∧
      ∀ s source, (concludeSample text).outcome.status = .success s source →
        s.violations = [] := by
  rw [concludeSample, Sample.answer?]
  by_cases hword : Text.contains text Sample.trigger = true
  · rw [if_pos hword]
    refine ⟨rfl, fun s source hsuccess => ?_⟩
    obtain ⟨rfl, -⟩ := Status.success.inj hsuccess
    exact Sample.violations_sketch
  · rw [if_neg hword]
    exact ⟨rfl, by simp⟩

/-- Of its options a generation reads what is done about violations only when it concludes from a
reply. -/
theorem generate_validation (options : Options) (client : Chat.Client) (settings : ModelSettings)
    (text : String) :
    (∃ call, (∀ validation, generate { options with validation } client settings text = call) ∧
      call.outcome = (concludeSample text).outcome) ∨
    ∃ (call : Call) (result : Except Failure String), ∀ validation,
      generate { options with validation } client settings text =
        call.concluded (concludeReply validation result) := by
  have hplan : ∀ validation,
      plan { options with validation } settings text = plan options settings text :=
    fun _ => rfl
  cases h : plan options settings text with
  | sample =>
    refine .inl ⟨generate options client settings text, fun validation => ?_, ?_⟩
    · rw [generate, generate, hplan, h]
    · rw [generate, h]
  | ask endpoint request =>
    let completion := client.complete endpoint request
    refine .inr ⟨⟨[askingNote client.name endpoint request], some (endpoint, request),
      completion.wait, completion.notes, ⟨.unchanged, []⟩⟩, completion.result,
      fun validation => ?_⟩
    rw [generate, hplan, h]
    rfl

/-- Three runs of a generation differ in their violations. -/
theorem generate_differInViolations (options : Options) (client : Chat.Client)
    (settings : ModelSettings) (text : String) :
    Call.DifferInViolations (generate { options with validation := .off } client settings text)
      (generate { options with validation := .lenient } client settings text)
      (generate { options with validation := .strict } client settings text) := by
  rcases generate_validation options client settings text with
    ⟨call, hcall, houtcome⟩ | ⟨call, result, hcall⟩
  · have hsample := violations_concludeSample text
    rw [hcall, hcall, hcall]
    rw [← houtcome] at hsample
    exact .refl hsample.1 hsample.2
  · rw [hcall, hcall, hcall]
    cases result with
    | error failure =>
      rw [concludeReply_error, concludeReply_error, concludeReply_error]
      exact .refl rfl nofun
    | ok content =>
      cases hsketch : Reply.sketch content with
      | error failure =>
        rw [concludeReply_of_error hsketch, concludeReply_of_error hsketch,
          concludeReply_of_error hsketch]
        exact .refl rfl nofun
      | ok s =>
        have hoff : concludeReply .off (.ok content) = concludeSketch s [] :=
          concludeReply_of_checked hsketch rfl
        have hlenient : concludeReply .lenient (.ok content) = concludeSketch s s.violations :=
          concludeReply_of_checked hsketch rfl
        rw [hoff, hlenient]
        refine .of_sketch (fun hclean => ?_) (fun hbroken => ?_)
        · exact concludeReply_of_checked hsketch (if_pos hclean)
        · exact concludeReply_of_refused hsketch (if_neg hbroken)

/-- What is done about violations makes no difference to a generation but in its violations; and a
sketch that was decoded of the reply is reported about. -/
theorem validation_modes_differ_in_violations (options : Options) (client : Chat.Client)
    (settings : Settings) (text : String) :
    let run (validation : Validation) :=
      generate { options with validation } client settings.forModel text
    Call.DifferInViolations (run .off) (run .lenient) (run .strict) ∧
    ∀ key, settings.get? "nl2ui_api_key" = some key → Text.trim key ≠ "" →
      let question := questionFor options settings key text
      ∀ content s, (client.complete question.1 question.2).result = .ok content →
        Reply.sketch content = .ok s → (run .lenient).outcome.status = .success s .model := by
  intro run
  constructor
  · exact generate_differInViolations options client settings.forModel text
  · intro key hkey hfilled question content s hresult hsketch
    have hplan := plan_forModel { options with validation := .lenient } text hkey hfilled
    refine ((generate_endsByReply _ client text hplan).success s .model).mpr ⟨rfl, content, ?_⟩
    exact ⟨hresult, hsketch, nofun⟩

/-- One reply with an unknown component: it is taken over without a word, taken over with a report,
or refused. -/
theorem validation_modes_differ_in_violations_menu :
    let client : Chat.Client := ⟨"stub", fun _ _ => ⟨none, .ok menuReply, []⟩⟩
    let settings := Settings.ofList [("nl2ui_api_key", "secret")]
    let run (validation : Validation) :=
      generate { Options.standard with validation } client settings.forModel "menu"
    (run .off).outcome.status = .success .menu .model ∧
      (run .off).outcome.violations = [] ∧
      (run .lenient).outcome.violations = [.unknownName "components[0]" "d-menu"] ∧
      (run .strict).outcome.FailsWith .invalidSketch
        "生成的 DSL 未通过校验: Node 'components[0]' uses unknown component 'd-menu'" := by
  intro client settings run
  obtain ⟨hdiffer, hdecoded⟩ :=
    validation_modes_differ_in_violations Options.standard client settings "menu"
  have hlenient := hdecoded "secret" (by decide) (by decide) menuReply .menu rfl sketch_menuReply
  have hbroken : Sketch.menu.violations ≠ [] := by simp [Sketch.violations_menu]
  -- Spelled out, the runs are compared as they stand, and none of them is evaluated.
  dsimp only at hdiffer hlenient
  dsimp only [run]
  refine ⟨hdiffer.status.trans hlenient, hdiffer.ignored, ?_, ?_⟩
  · rw [hdiffer.reported _ _ hlenient, Sketch.violations_menu]
  · have hrefused := hdiffer.refused _ _ hlenient hbroken
    rw [Sketch.violations_menu] at hrefused
    exact hrefused

end PageSketch
