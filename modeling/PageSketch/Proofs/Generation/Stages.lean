import Mathlib
import PageSketch.Generation.Basic
import PageSketch.Proofs.Reply.Classification

/-!
# The stages of a reply

What the client makes of a question passes four stages: there is a text, the text is a document, the
value of the document has the shape of a sketch, and the sketch keeps the rules where they are
strict. `FailsAt` tells the first stage that fails, with the kind and the reason that belong to it. A
reply fails at one stage at most; a generation succeeds exactly when it fails at none, and else fails
with the kind and the reason of the stage.
-/

namespace PageSketch

open Json Reply

/-- The stages of a reply, in their order. -/
inductive ReplyStage where
  | client
  | document
  | shape
  | rules
deriving DecidableEq, Repr

/-- The first stage at which a reply fails, the kind of the failure and its reason. -/
inductive FailsAt (validation : Validation) (result : Except Failure String) :
    ReplyStage → FailureKind → String → Prop
  /-- There is no text; the failure is that of the client. -/
  | client {failure : Failure} (hresult : result = .error failure) :
      FailsAt validation result .client failure.kind failure.message
  /-- The text without its fences is no document. -/
  | document {content : String} {e : TextError} (hresult : result = .ok content)
      (hdocument : ¬∃ v, SpellsValue (stripFencesChars content.toList) v)
      (hreason : Json.parse (stripFences content) = .error e) :
      FailsAt validation result .document .malformedReply
        ("Model output is not valid JSON: " ++ e.message)
  /-- The value of the document does not have the shape of a sketch. -/
  | shape {content reason : String} {v : Value} (hresult : result = .ok content)
      (hdocument : SpellsValue (stripFencesChars content.toList) v)
      (hshape : ¬Sketch.Shape v.sorted)
      (hreason : sketchOfValue v.sorted = .error (.invalidShape reason)) :
      FailsAt validation result .shape .invalidSketch ("生成的 DSL 格式不合法: " ++ reason)
  /-- The rules are strict, and the sketch breaks some. -/
  | rules {content : String} {s : Sketch} (hresult : result = .ok content)
      (hsketch : Reply.sketch content = .ok s) (hstrict : validation = .strict)
      (hviolations : s.violations ≠ []) :
      FailsAt validation result .rules .invalidSketch
        ("生成的 DSL 未通过校验: " ++ "; ".intercalate (s.violations.map Violation.message))

/-- The sketch of a reply that passes all stages. -/
def PassesAll (validation : Validation) (result : Except Failure String) (s : Sketch) : Prop :=
  ∃ content, result = .ok content ∧ Reply.sketch content = .ok s ∧
    (validation = .strict → s.violations = [])

/-- What stands between two texts stands in the whole. -/
theorem Text.isInfix_append_append (before middle behind : String) :
    middle.toList <:+: (before ++ middle ++ behind).toList := by
  rw [String.toList_append, String.toList_append]
  exact List.infix_append _ _ _

namespace Outcome

/-- A failure with a kind and a reason. -/
def FailsWith (outcome : Outcome) (kind : FailureKind) (reason : String) : Prop :=
  ∃ failure, outcome.status = .failure failure ∧ failure.kind = kind ∧ failure.message = reason

/-- The reason of a failure stands in the status line. -/
theorem FailsWith.reason_isInfix {outcome : Outcome} {kind : FailureKind} {reason : String}
    (h : outcome.FailsWith kind reason) : reason.toList <:+: outcome.message.toList := by
  obtain ⟨failure, hstatus, -, rfl⟩ := h
  have hmessage : outcome.message = StatusLine.failed failure.message := by
    simp only [message, hstatus]
  rw [hmessage]
  exact Text.isInfix_append_append _ _ _

/-- An outcome that is no success has no sketch. -/
theorem sketch?_eq_none {outcome : Outcome} (h : ∀ s source, outcome.status ≠ .success s source) :
    outcome.sketch? = none := by
  cases hstatus : outcome.status with
  | success s source => exact absurd hstatus (h s source)
  | unchanged => simp [sketch?, hstatus]
  | failure failure => simp [sketch?, hstatus]

end Outcome

/-! ## What is concluded -/

/-- A text that is not read as a document is malformed. -/
theorem Reply.sketch_of_parse_error {content : String} {e : TextError}
    (h : Json.parse (stripFences content) = .error e) :
    Reply.sketch content = .error (.malformedReply e) := by
  unfold Reply.sketch
  simp only [h]

variable {validation : Validation} {result : Except Failure String}

/-- The check of the rules is passed unless they are strict and broken. -/
theorem Validation.exists_check_iff {s : Sketch} :
    (∃ violations, validation.check s = .ok violations) ↔
      (validation = .strict → s.violations = []) := by
  cases validation with
  | off => simp [check]
  | lenient => simp [check]
  | strict => by_cases h : s.violations = [] <;> simp [check, h]

/-- From a client's failure that failure is concluded. -/
theorem concludeReply_error (failure : Failure) :
    concludeReply validation (.error failure) = concludeFailure failure := rfl

/-- From a text without a sketch its failure is concluded. -/
theorem concludeReply_of_error {content : String} {failure : Failure}
    (h : Reply.sketch content = .error failure) :
    concludeReply validation (.ok content) = concludeFailure failure := by
  unfold concludeReply
  simp only [h]

/-- From a text with a sketch that the check refuses the refusal is concluded. -/
theorem concludeReply_of_refused {content : String} {s : Sketch} {failure : Failure}
    (h : Reply.sketch content = .ok s) (hcheck : validation.check s = .error failure) :
    concludeReply validation (.ok content) = concludeFailure failure := by
  unfold concludeReply
  simp only [h, hcheck]

/-- From a text with a sketch that the check lets through that sketch is concluded. -/
theorem concludeReply_of_checked {content : String} {s : Sketch} {violations : List Violation}
    (h : Reply.sketch content = .ok s) (hcheck : validation.check s = .ok violations) :
    concludeReply validation (.ok content) = concludeSketch s violations := by
  unfold concludeReply
  simp only [h, hcheck]

/-- From a reply that passes all stages its sketch is concluded. -/
theorem PassesAll.concludes {s : Sketch} (h : PassesAll validation result s) :
    ∃ violations, validation.check s = .ok violations ∧
      concludeReply validation result = concludeSketch s violations := by
  obtain ⟨content, rfl, hsketch, hrules⟩ := h
  obtain ⟨violations, hcheck⟩ := Validation.exists_check_iff.mpr hrules
  exact ⟨violations, hcheck, concludeReply_of_checked hsketch hcheck⟩

/-- From a reply that fails at a stage a failure of the kind and for the reason of the stage is
concluded. -/
theorem FailsAt.concludes {stage : ReplyStage} {kind : FailureKind} {reason : String}
    (h : FailsAt validation result stage kind reason) :
    ∃ failure, concludeReply validation result = concludeFailure failure ∧ failure.kind = kind ∧
      failure.message = reason := by
  cases h with
  | @client failure hresult =>
    rw [hresult, concludeReply_error]
    exact ⟨failure, rfl, rfl, rfl⟩
  | @document content e hresult hdocument hreason =>
    rw [hresult, concludeReply_of_error (sketch_of_parse_error hreason)]
    exact ⟨.malformedReply e, rfl, rfl, rfl⟩
  | @shape content reason v hresult hdocument hshape hreason =>
    have hsketch := (sketch_of_spellsValue hdocument).trans hreason
    rw [hresult, concludeReply_of_error hsketch]
    exact ⟨.invalidShape reason, rfl, rfl, rfl⟩
  | @rules content s hresult hsketch hstrict hviolations =>
    have hcheck : validation.check s = .error (.brokenRules s.violations) := by
      rw [hstrict, Validation.check, if_neg hviolations]
    rw [hresult, concludeReply_of_refused hsketch hcheck]
    exact ⟨.brokenRules s.violations, rfl, rfl, rfl⟩

/-- A reply passes all stages, or there is a first one at which it fails. -/
theorem passesAll_or_failsAt (validation : Validation) (result : Except Failure String) :
    (∃ s, PassesAll validation result s) ∨
      ∃ stage kind reason, FailsAt validation result stage kind reason := by
  cases result with
  | error failure => exact .inr ⟨_, _, _, .client rfl⟩
  | ok content =>
    by_cases hdocument : ∃ v, SpellsValue (stripFencesChars content.toList) v
    · obtain ⟨v, hv⟩ := hdocument
      have hsketch := sketch_of_spellsValue hv
      rcases sketchOfValue_cases v.sorted with ⟨s, hs⟩ | ⟨reason, hreason⟩
      · rw [hs] at hsketch
        by_cases hrules : validation = .strict → s.violations = []
        · exact .inl ⟨s, content, rfl, hsketch, hrules⟩
        · obtain ⟨hstrict, hviolations⟩ := Classical.not_imp.mp hrules
          exact .inr ⟨_, _, _, .rules rfl hsketch hstrict hviolations⟩
      · refine .inr ⟨_, _, _, .shape rfl hv (fun hshape => ?_) hreason⟩
        obtain ⟨s, hs⟩ := (exists_sketchOfValue_iff v.sorted_sorted.wellKeyed).mpr hshape
        simp [hs] at hreason
    · cases hparse : Json.parse (stripFences content) with
      | error e => exact .inr ⟨_, _, _, .document rfl hdocument hparse⟩
      | ok v =>
        obtain ⟨w, hw, -⟩ := parse_eq_ok_iff.mp hparse
        exact absurd ⟨w, by rwa [stripFences, String.toList_ofList] at hw⟩ hdocument

/-! ## Successes and failures -/

/-- A generation with a reply succeeds with the sketch that passes all stages. -/
theorem concludeReply_success_iff {s : Sketch} {source : SketchSource} :
    (concludeReply validation result).outcome.status = .success s source ↔
      source = .model ∧ PassesAll validation result s := by
  constructor
  · intro h
    rcases passesAll_or_failsAt validation result with ⟨t, ht⟩ | ⟨stage, kind, reason, hfails⟩
    · obtain ⟨violations, -, hconclusion⟩ := ht.concludes
      rw [hconclusion] at h
      obtain ⟨rfl, rfl⟩ := Status.success.inj h
      exact ⟨rfl, ht⟩
    · obtain ⟨failure, hconclusion, -⟩ := hfails.concludes
      rw [hconclusion] at h
      cases h
  · rintro ⟨rfl, hpasses⟩
    obtain ⟨violations, -, hconclusion⟩ := hpasses.concludes
    rw [hconclusion]
    rfl

/-- A reply that fails at a stage makes the generation fail with the kind and the reason of the
stage. -/
theorem FailsAt.failsWith {stage : ReplyStage} {kind : FailureKind} {reason : String}
    (h : FailsAt validation result stage kind reason) :
    (concludeReply validation result).outcome.FailsWith kind reason := by
  obtain ⟨failure, hconclusion, hkind, hreason⟩ := h.concludes
  rw [hconclusion]
  exact ⟨failure, rfl, hkind, hreason⟩

/-- The failure of a generation with a reply comes without violations. -/
theorem violations_concludeReply {failure : Failure}
    (h : (concludeReply validation result).outcome.status = .failure failure) :
    (concludeReply validation result).outcome.violations = [] := by
  rcases passesAll_or_failsAt validation result with ⟨s, hs⟩ | ⟨stage, kind, reason, hfails⟩
  · obtain ⟨violations, -, hconclusion⟩ := hs.concludes
    rw [hconclusion] at h
    cases h
  · obtain ⟨other, hconclusion, -⟩ := hfails.concludes
    rw [hconclusion]
    rfl

/-- The stage of a failure to decode, or the one behind. -/
def decodingStage : Except Failure Sketch → ReplyStage
  | .error (.malformedReply _) => .document
  | .error _ => .shape
  | .ok _ => .rules

/-- The stage that a reply gets to. -/
def lastStage : Except Failure String → ReplyStage
  | .error _ => .client
  | .ok content => decodingStage (Reply.sketch content)

/-- A reply fails nowhere but at the stage that it gets to. -/
theorem FailsAt.stage_eq {stage : ReplyStage} {kind : FailureKind} {reason : String}
    (h : FailsAt validation result stage kind reason) : stage = lastStage result := by
  cases h with
  | client hresult => rw [hresult, lastStage]
  | document hresult hdocument hreason =>
    rw [hresult, lastStage, sketch_of_parse_error hreason, decodingStage]
  | shape hresult hdocument hshape hreason =>
    rw [hresult, lastStage, sketch_of_spellsValue hdocument, hreason]
    rfl
  | rules hresult hsketch hstrict hviolations =>
    rw [hresult, lastStage, hsketch, decodingStage]

/-- A reply fails at one stage at most, of one kind and for one reason. -/
theorem FailsAt.unique {stage stage' : ReplyStage} {kind kind' : FailureKind}
    {reason reason' : String} (h : FailsAt validation result stage kind reason)
    (h' : FailsAt validation result stage' kind' reason') :
    stage = stage' ∧ kind = kind' ∧ reason = reason' := by
  obtain ⟨failure, hfailure, rfl, rfl⟩ := h.failsWith
  obtain ⟨other, hother, rfl, rfl⟩ := h'.failsWith
  obtain rfl := Status.failure.inj (hother.symm.trans hfailure)
  exact ⟨h.stage_eq.trans h'.stage_eq.symm, rfl, rfl⟩

/-! ## A reply that breaks a rule -/

/-- A reply with one component that is not in the vocabulary. -/
def menuReply : String := "\x7b\"components\":[\x7b\"component\":\"d-menu\"\x7d]\x7d"

/-- The sketch of this reply. -/
def Sketch.menu : Sketch := ⟨.empty, [.named "d-menu"]⟩

/-- The reply is decoded. -/
theorem sketch_menuReply : Reply.sketch menuReply = .ok .menu := by
  unfold Reply.sketch
  cbv

/-- The name of the component is not known. -/
theorem Sketch.violations_menu : menu.violations = [.unknownName "components[0]" "d-menu"] := by
  decide

end PageSketch
