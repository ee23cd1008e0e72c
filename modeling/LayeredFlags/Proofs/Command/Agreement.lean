import LayeredFlags.Proofs.Command.StackArguments
import LayeredFlags.Proofs.Stack.Approval
import LayeredFlags.Proofs.Stack.InputErrors
/-!
# The Commands Agree on a Stack

Three commands look at a stack, each in its own way: one renders the configuration if the gate
lets it through, one tells which constraints are broken, and one reports where everything comes
from. What a stack is found to be does not depend on which of them is asked, whatever the files
are: of these nothing is assumed. The same arguments name the same stack to all three.

## Main definitions

* `Command.Inspects`: the commands that look at a stack and write no file;
* `Command.Exits`: a command shows something and ends with an exit code;
* `Command.Agreement`: what the commands show of a stack with a given exit code.

## Main results

* `Command.rendering_eq_error`, `Command.exists_rendering`: a stack that is resolved is refused
  for its violations, and rendered if there are none;
* `Command.exists_agreement`: the commands agree on every stack, whatever files are read.
-/

namespace LayeredFlags

/-- An error of the input is shown as such. -/
theorem Outcome.failure_of_aboutInput {error : StackError} (h : error.AboutInput) :
    failure error = ⟨1, "", s!"Error: {error.message}\n"⟩ := by
  have hcode : error.exitCode = 1 := h
  have htext : errorText error = s!"Error: {error.message}\n" := by
    unfold errorText
    split
    -- broken constraints are no error of the input
    · cases hcode
    · rfl
  rw [failure, hcode, htext]

namespace Command

/-- The command looks at the stack and writes no file. -/
inductive Inspects (choice : StackChoice) : Command → Prop where
  /-- The configuration is written to the standard output. -/
  | resolve (format : OutputFormat) (annotate : Bool) :
      Inspects choice (.resolve choice format annotate none)
  /-- The stack is validated. -/
  | validate (json : Bool) : Inspects choice (.validate choice json)
  /-- The stack is explained. -/
  | explain (human : Bool) : Inspects choice (.explain choice human)

/-- The command shows something, saves nothing and ends with the exit code. -/
def Exits (read : Reader) (now : String) (command : Command) (code : Nat) : Prop :=
  ∃ outcome, answer read now command = .print outcome ∧ outcome.exitCode = code

/-- What the commands show of a stack for which the given exit code stands. They may run at
different times. -/
structure Agreement (read : Reader) (choice : StackChoice) (code : Nat) : Prop where
  /-- There are three exit codes. -/
  code_mem : code = 0 ∨ code = 1 ∨ code = 2
  /-- Validation ends with the exit code. -/
  validate_exits : ∀ now json, Exits read now (.validate choice json) code
  /-- So does resolution. -/
  resolve_exits : ∀ now format annotate,
    Exits read now (.resolve choice format annotate none) code
  /-- Explanation fails when they end with one, and only then. -/
  explain_exits : ∀ now human,
    Exits read now (.explain choice human) (if code = 1 then 1 else 0)
  /-- One stands for an error of the input. All commands show it, and nothing else. -/
  same_error : code = 1 → ∃ error, resolved read choice = .error error ∧
    ∀ now command, Inspects choice command →
      answer read now command = .print ⟨1, "", s!"Error: {error.message}\n"⟩
  /-- Two stands for broken constraints. Resolution shows them as an error, and validation as
  its result, with the same lines. -/
  same_violations : code = 2 → ∃ stack resolution,
    resolved read choice = .ok (stack, resolution) ∧ resolution.violations ≠ [] ∧
    ∃ lines, lines = resolution.violations.map (fun violation => s!"  - {violation.message}\n") ∧
      (∀ now format annotate, answer read now (.resolve choice format annotate none) =
        .print ⟨2, "", "Constraint violations:\n" ++ String.join lines⟩) ∧
      ∀ now, answer read now (.validate choice false) =
        .print ⟨2, "Configuration invalid:\n" ++ String.join lines, ""⟩

/-! ## Rendering -/

section Rendering

variable {read : Reader} {choice : StackChoice} {stack : Stack} {resolution : Resolution}

/-- A stack is loaded and then resolved. -/
theorem resolved_eq_ok_iff :
    resolved read choice = .ok (stack, resolution) ↔
      choice.load read = .ok stack ∧ stack.resolve = .ok resolution := by
  simp only [resolved, liftFlag, bind_eq_ok_iff, mapError_eq_ok_iff, pure_eq_ok, Except.ok.injEq,
    Prod.mk.injEq]
  constructor
  · rintro ⟨_, hload, _, hresolve, rfl, rfl⟩
    exact ⟨hload, hresolve⟩
  · rintro ⟨hload, hresolve⟩
    exact ⟨stack, hload, resolution, hresolve, rfl, rfl⟩

/-- What cannot be loaded and resolved cannot be rendered. -/
theorem rendering_of_error {error : StackError} (h : resolved read choice = .error error)
    (format : OutputFormat) (annotate : Bool) :
    rendering read choice format annotate = .error error := by
  rw [rendering, h, error_bind]

/-- Once resolved, what is rendered is what the gate lets through. -/
theorem rendering_of_resolved (h : resolved read choice = .ok (stack, resolution))
    (format : OutputFormat) (annotate : Bool) :
    rendering read choice format annotate =
      liftFlag ((ValidConfiguration.ofConfiguration resolution.configuration stack.registry).map
        (·.render stack.registry format annotate)) := by
  rw [rendering, h, ok_bind]
  dsimp only
  rw [Stack.approve_own (resolved_eq_ok_iff.1 h).2]
  cases ValidConfiguration.ofConfiguration resolution.configuration stack.registry <;> rfl

/-- A configuration that breaks constraints is not rendered, in no format. -/
theorem rendering_eq_error (h : resolved read choice = .ok (stack, resolution))
    (hviolations : resolution.violations ≠ []) (format : OutputFormat) (annotate : Bool) :
    rendering read choice format annotate =
      .error (.flag (.constraintViolation resolution.violations)) := by
  obtain ⟨hresolve, heq⟩ := Stack.resolve_eq_ok_iff.1 (resolved_eq_ok_iff.1 h).2
  rw [heq] at hviolations ⊢
  have hgate := (ValidConfiguration.ofConfiguration_eq_error_iff_of_resolve hresolve).2
    ⟨hviolations, rfl⟩
  rw [rendering_of_resolved h, hgate]
  rfl

/-- Any other configuration is rendered, in every format. -/
theorem exists_rendering (h : resolved read choice = .ok (stack, resolution))
    (hviolations : resolution.violations = []) (format : OutputFormat) (annotate : Bool) :
    ∃ text, rendering read choice format annotate = .ok text := by
  obtain ⟨hresolve, heq⟩ := Stack.resolve_eq_ok_iff.1 (resolved_eq_ok_iff.1 h).2
  obtain ⟨valid, hvalid⟩ :=
    ValidConfiguration.exists_ofConfiguration_eq_ok_of_resolve hresolve (heq ▸ hviolations)
  refine ⟨valid.render stack.registry format annotate, ?_⟩
  rw [rendering_of_resolved h, hvalid]
  rfl

end Rendering

/-! ## Answers -/

section Answers

variable {read : Reader} {choice : StackChoice} {format : OutputFormat} {annotate : Bool}

/-- What cannot be rendered is neither printed nor saved. -/
theorem answer_resolve_of_error {error : StackError}
    (h : rendering read choice format annotate = .error error) (now : String)
    (output : Option String) :
    answer read now (.resolve choice format annotate output) = .print (.failure error) := by
  rw [answer, h]
  rfl

/-- What can be rendered is printed, unless a file is named. -/
theorem answer_resolve_print {text : String}
    (h : rendering read choice format annotate = .ok text) (now : String) :
    answer read now (.resolve choice format annotate none) = .print (.success text) := by
  rw [answer, h]
  rfl

/-- What can be rendered is saved to the file that is named. -/
theorem answer_resolve_save {text : String}
    (h : rendering read choice format annotate = .ok text) (now path : String) :
    answer read now (.resolve choice format annotate (some path)) = .save path text := by
  rw [answer, h]
  rfl

/-- Every command that looks at a stack shows why it cannot be loaded and resolved. -/
theorem answer_of_error {error : StackError} (h : resolved read choice = .error error)
    (now : String) {command : Command} (hcommand : Inspects choice command) :
    answer read now command = .print (.failure error) := by
  cases hcommand with
  | resolve format annotate =>
    exact answer_resolve_of_error (rendering_of_error h format annotate) now none
  | validate json =>
    rw [answer, h]
    rfl
  | explain human =>
    rw [answer, h]
    rfl

variable {stack : Stack} {resolution : Resolution}

/-- Validation shows its verdict, or a report as JSON. -/
theorem answer_validate (h : resolved read choice = .ok (stack, resolution)) (now : String)
    (json : Bool) :
    answer read now (.validate choice json) = .print
      ⟨if resolution.isValid then 0 else 2,
        if json then (stack.report now resolution).toJson.pretty ++ "\n"
        else verdict stack resolution, ""⟩ := by
  rw [answer, h]
  rfl

/-- Explanation shows its report and succeeds. -/
theorem exits_explain (h : resolved read choice = .ok (stack, resolution)) (now : String)
    (human : Bool) : Exits read now (.explain choice human) 0 := by
  rw [Exits, answer, h]
  exact ⟨_, rfl, rfl⟩

end Answers

/-! ## The agreement -/

section Agreement

variable {read : Reader} {choice : StackChoice} {stack : Stack} {resolution : Resolution}

/-- What cannot be loaded and resolved is an error of the input for every command. -/
theorem agreement_of_error {error : StackError} (h : resolved read choice = .error error) :
    Agreement read choice 1 := by
  have hinput : error.AboutInput := failsOnly_resolved read choice error h
  have hanswer : ∀ now command, Inspects choice command →
      answer read now command = .print ⟨1, "", s!"Error: {error.message}\n"⟩ := by
    intro now command hcommand
    rw [answer_of_error h now hcommand, Outcome.failure_of_aboutInput hinput]
  exact
    { code_mem := by simp
      validate_exits := fun now json => ⟨_, hanswer now _ (.validate json), rfl⟩
      resolve_exits := fun now format annotate =>
        ⟨_, hanswer now _ (.resolve format annotate), rfl⟩
      explain_exits := fun now human => ⟨_, hanswer now _ (.explain human), rfl⟩
      same_error := fun _ => ⟨error, h, hanswer⟩
      same_violations := fun hcode => by cases hcode }

/-- A configuration that breaks no constraint is one for every command. -/
theorem agreement_of_eq_nil (h : resolved read choice = .ok (stack, resolution))
    (hviolations : resolution.violations = []) : Agreement read choice 0 := by
  have hvalid : resolution.isValid = true := by simp [Resolution.isValid, hviolations]
  refine
    { code_mem := by simp
      validate_exits := fun now json => ⟨_, answer_validate h now json, if_pos hvalid⟩
      resolve_exits := fun now format annotate => ?_
      explain_exits := fun now human => exits_explain h now human
      same_error := fun hcode => by cases hcode
      same_violations := fun hcode => by cases hcode }
  obtain ⟨text, htext⟩ := exists_rendering h hviolations format annotate
  exact ⟨_, answer_resolve_print htext now, rfl⟩

/-- So is a configuration that breaks constraints, and resolution and validation list the same
violations. -/
theorem agreement_of_ne_nil (h : resolved read choice = .ok (stack, resolution))
    (hviolations : resolution.violations ≠ []) : Agreement read choice 2 := by
  have hvalid : ¬ resolution.isValid = true := by simpa [Resolution.isValid] using hviolations
  have hresolve : ∀ now format annotate,
      answer read now (.resolve choice format annotate none) = .print
        ⟨2, "", "Constraint violations:\n" ++ Outcome.violationLines resolution.violations⟩ := by
    intro now format annotate
    rw [answer_resolve_of_error (rendering_eq_error h hviolations format annotate) now none]
    rfl
  have hvalidate : ∀ now, answer read now (.validate choice false) = .print
      ⟨2, "Configuration invalid:\n" ++ Outcome.violationLines resolution.violations, ""⟩ := by
    intro now
    rw [answer_validate h now false, if_neg hvalid, if_neg Bool.false_ne_true, verdict,
      if_neg hvalid]
  exact
    { code_mem := by simp
      validate_exits := fun now json => ⟨_, answer_validate h now json, if_neg hvalid⟩
      resolve_exits := fun now format annotate => ⟨_, hresolve now format annotate, rfl⟩
      explain_exits := fun now human => exits_explain h now human
      same_error := fun hcode => by cases hcode
      same_violations := fun _ =>
        ⟨stack, resolution, h, hviolations, _, rfl, hresolve, hvalidate⟩ }

end Agreement

/-- Whatever the files are, there is one exit code for every stack on which the commands agree,
and whatever arguments name the stack name it to each of the commands. -/
theorem exists_agreement (read : Reader) (choice : StackChoice) :
    (∃ code, Agreement read choice code) ∧
      ∀ arguments, StackArguments arguments choice → NamesStack arguments choice := by
  refine ⟨?_, fun arguments h => h.namesStack⟩
  cases hresolved : resolved read choice with
  | error error => exact ⟨1, agreement_of_error hresolved⟩
  | ok result =>
    by_cases hviolations : result.2.violations = []
    · exact ⟨0, agreement_of_eq_nil hresolved hviolations⟩
    · exact ⟨2, agreement_of_ne_nil hresolved hviolations⟩

end Command

end LayeredFlags
