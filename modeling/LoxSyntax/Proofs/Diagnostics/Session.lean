import Mathlib.Data.List.DropRight
import LoxSyntax.Diagnostics.Reporter

/-! # Sessions of a reporter

A session applies steps to a reporter in order. Every reporting step creates one
diagnostic (`Step.created`), which the reporter writes to its sink as a line and appends
to its record; resetting and taking the diagnostics empty the record, and resetting also
lowers both flags. Nothing else changes a flag or the record, and neither depends on the
sink, so a sink whose writes fail changes only the text written.

The main results describe a whole session by the steps since the last clearing step:

* `Reporter.flags_since_reset`: a flag is raised exactly when a step of its kind came
  after the last reset, and the exit code follows the flags, a reading error first;
* `Reporter.record_since_clear`: the record holds the diagnostics created since the last
  reset or take, each take hands out exactly that list, the sink holds every line ever
  written, and in a session without reset every diagnostic is handed out or still
  recorded.

Both rest on one description of what a step can do (`Reporter.step_cases`), from which
each field gets its step equation; a run lemma then follows by induction on the steps,
taken from the last one back.
-/

namespace LoxSyntax.Diagnostics

open LoxSyntax.Tree

namespace Step

/-- Whether the step reports an error found while reading. -/
def isReadingError : Step → Bool
  | .error .. | .errorAt .. | .report .. => true
  | _ => false

/-- Whether the step reports an error found while running. -/
def isRuntimeError : Step → Bool
  | .runtimeError _ => true
  | _ => false

/-- Whether the step resets the reporter. -/
def isReset : Step → Bool
  | .reset => true
  | _ => false

/-- Whether the step empties the record: a reset, or taking the diagnostics. -/
def clears : Step → Bool
  | .reset | .takeDiagnostics => true
  | _ => false

/-- The diagnostic a reporting step creates: its severity, line, location and message. -/
def created : Step → Option Diagnostic
  | .error line message => some ⟨.error, some line, "", message⟩
  | .errorAt token message =>
    some ⟨.error, some token.line,
      if token.kind = .eof then " at end" else " at '" ++ token.lexeme ++ "'", message⟩
  | .report line location message => some ⟨.error, some line, location, message⟩
  | .runtimeError e => some ⟨.runtimeError, some e.token.line, "", e.message⟩
  | .warning message => some ⟨.warning, none, "", message⟩
  | .reset | .takeDiagnostics | .observe => none

/-- A step that creates a diagnostic does not clear the record. -/
theorem clears_eq_false_of_created {s : Step} {d : Diagnostic} (creates : s.created = some d) :
    s.clears = false := by
  cases s <;> simp_all [created, clears]

/-- A step that creates a diagnostic does not reset the flags. -/
theorem isReset_eq_false_of_created {s : Step} {d : Diagnostic} (creates : s.created = some d) :
    s.isReset = false := by
  cases s <;> simp_all [created, isReset]

end Step

/-- The line a diagnostic writes to the sink. -/
def Diagnostic.sinkLine (d : Diagnostic) : String := d.display ++ "\n"

namespace Reporter

/-! ## A fresh reporter -/

section Fresh

variable (sink : Sink)

@[simp] theorem withSink_sink : (withSink sink).sink = sink := rfl
@[simp] theorem withSink_hadError : (withSink sink).hadError = false := rfl
@[simp] theorem withSink_hadRuntimeError : (withSink sink).hadRuntimeError = false := rfl
@[simp] theorem withSink_diagnostics : (withSink sink).diagnostics = [] := rfl

end Fresh

/-! ## One step -/

variable (r : Reporter) (s : Step)

/-- **What a step can do.** A reporting step raises the flag of its kind and emits the
diagnostic it creates; a reset clears flags and record; a take empties the record and
hands it out; observing changes nothing. -/
theorem step_cases :
    (∃ d, s.created = some d ∧
      (r.step s).1 = { r with hadError := r.hadError || s.isReadingError,
                              hadRuntimeError := r.hadRuntimeError || s.isRuntimeError }.emit d ∧
      (r.step s).2.taken = none) ∨
    (s = .reset ∧ (r.step s).1 = r.reset ∧ (r.step s).2.taken = none) ∨
    (s = .takeDiagnostics ∧ (r.step s).1 = { r with diagnostics := [] } ∧
      (r.step s).2.taken = some r.diagnostics) ∨
    (s = .observe ∧ (r.step s).1 = r ∧ (r.step s).2.taken = none) := by
  cases s with
  | errorAt token message =>
    -- the location depends on whether the token ends the input
    by_cases atEnd : token.kind = .eof <;>
      simp [step, errorAt, report, Token.isEof, atEnd, Step.created, Step.isReadingError,
        Step.isRuntimeError, Diagnostic.ofError]
  | reset => simp [step]
  | takeDiagnostics => simp [step, takeDiagnostics]
  | observe => simp [step]
  | _ =>
    simp [step, error, report, runtimeError, warning, Step.created, Step.isReadingError,
      Step.isRuntimeError, Diagnostic.ofError, Diagnostic.ofRuntime, Diagnostic.ofWarning,
      RuntimeError.line]

/-- A step lowers the reading-error flag when it resets, and otherwise raises it when it
reports a reading error. -/
theorem step_hadError :
    (r.step s).1.hadError = (!s.isReset && (s.isReadingError || r.hadError)) := by
  rcases step_cases r s with ⟨d, creates, stepped, -⟩ | ⟨rfl, stepped, -⟩ | ⟨rfl, stepped, -⟩ |
    ⟨rfl, stepped, -⟩
  · rw [stepped, Step.isReset_eq_false_of_created creates]
    simp [emit, Bool.or_comm]
  all_goals simp [stepped, reset, Step.isReadingError, Step.isReset]

/-- A step lowers the runtime-error flag when it resets, and otherwise raises it when it
reports a runtime error. -/
theorem step_hadRuntimeError :
    (r.step s).1.hadRuntimeError = (!s.isReset && (s.isRuntimeError || r.hadRuntimeError)) := by
  rcases step_cases r s with ⟨d, creates, stepped, -⟩ | ⟨rfl, stepped, -⟩ | ⟨rfl, stepped, -⟩ |
    ⟨rfl, stepped, -⟩
  · rw [stepped, Step.isReset_eq_false_of_created creates]
    simp [emit, Bool.or_comm]
  all_goals simp [stepped, reset, Step.isRuntimeError, Step.isReset]

/-- A step empties the record when it clears it, then appends what it creates. -/
theorem step_diagnostics :
    (r.step s).1.diagnostics = (if s.clears then [] else r.diagnostics) ++ s.created.toList := by
  rcases step_cases r s with ⟨d, creates, stepped, -⟩ | ⟨rfl, stepped, -⟩ | ⟨rfl, stepped, -⟩ |
    ⟨rfl, stepped, -⟩
  · simp [stepped, emit, creates, Step.clears_eq_false_of_created creates]
  all_goals simp [stepped, reset, Step.clears, Step.created]

/-- On a working sink a step writes the line of what it creates. -/
theorem step_sink {text : String} (working : r.sink = .buffer text) :
    (r.step s).1.sink =
      .buffer (text ++ String.join (s.created.toList.map Diagnostic.sinkLine)) := by
  rcases step_cases r s with ⟨d, creates, stepped, -⟩ | ⟨rfl, stepped, -⟩ | ⟨rfl, stepped, -⟩ |
    ⟨rfl, stepped, -⟩
  · simp [stepped, emit, working, creates, Diagnostic.sinkLine, String.append_assoc]
  all_goals simp [stepped, reset, working, Step.created]

/-! ## Runs -/

@[simp] theorem run_nil : r.run [] = (r, []) := rfl

@[simp] theorem run_cons (rest : List Step) :
    r.run (s :: rest) = ((r.step s).1.run rest |>.1, (r.step s).2 :: ((r.step s).1.run rest).2) :=
  rfl

/-- A run of two lists of steps is the run of the first, continued by the run of the
second. -/
theorem run_append (first second : List Step) :
    r.run (first ++ second) =
      (((r.run first).1.run second).1, (r.run first).2 ++ ((r.run first).1.run second).2) := by
  induction first generalizing r with
  | nil => rfl
  | cons s first ih => simp [ih]

/-- A run that ends with one more step reaches the state that step leaves. -/
theorem run_concat (steps : List Step) :
    (r.run (steps ++ [s])).1 = ((r.run steps).1.step s).1 := by
  simp [run_append]

/-- A run answers once per step. -/
theorem length_run (steps : List Step) : (r.run steps).2.length = steps.length := by
  induction steps generalizing r with
  | nil => rfl
  | cons s steps ih => simp [ih]

/-- **A flag over a run.** A flag that a step raises when it is of the flag's kind, lowers
when it resets and otherwise keeps, is raised after a run exactly when a step of its kind
came after the last reset, or when it was raised before and no reset came. -/
theorem flag_run {flag : Reporter → Bool} {raises : Step → Bool}
    (stepFlag : ∀ r s, flag (r.step s).1 = (!s.isReset && (raises s || flag r)))
    (steps : List Step) :
    flag (r.run steps).1 =
      ((steps.rtakeWhile (!·.isReset)).any raises || (flag r && steps.all (!·.isReset))) := by
  induction steps using List.reverseRecOn with
  | nil => simp
  | append_singleton steps s ih =>
    rw [run_concat, stepFlag, ih, List.rtakeWhile_concat]
    cases resets : s.isReset
    · cases raising : raises s <;> simp [resets, raising]
    · simp [resets]

/-- The record after a run: what the steps since the last clearing step created, after
the record the run started from if no step cleared it. -/
theorem diagnostics_run (steps : List Step) :
    (r.run steps).1.diagnostics =
      (if steps.any Step.clears then [] else r.diagnostics) ++
        (steps.rtakeWhile (!·.clears)).filterMap Step.created := by
  induction steps using List.reverseRecOn with
  | nil => simp
  | append_singleton steps s ih =>
    rw [run_concat, step_diagnostics, ih, List.rtakeWhile_concat]
    cases clearing : s.clears
    · cases creates : s.created <;> simp [clearing, creates]
    · cases s <;> simp_all [Step.clears, Step.created]

/-- On a working sink, a run writes the line of every diagnostic it creates, in order. -/
theorem sink_run {text : String} (working : r.sink = .buffer text) (steps : List Step) :
    (r.run steps).1.sink =
      .buffer (text ++ String.join ((steps.filterMap Step.created).map Diagnostic.sinkLine)) := by
  induction steps using List.reverseRecOn with
  | nil => simp [working]
  | append_singleton steps s ih =>
    rw [run_concat, step_sink _ _ ih]
    cases creates : s.created <;> simp [creates, String.append_assoc]

/-- The outcome of a take after some steps hands out the record those steps left. -/
theorem taken_run (pre post : List Step) :
    ((r.run (pre ++ .takeDiagnostics :: post)).2[pre.length]?).map (·.taken) =
      some (some (r.run pre).1.diagnostics) := by
  rw [run_append, List.getElem?_append_right (length_run r pre).le, length_run, Nat.sub_self]
  simp [step, takeDiagnostics]

/-- **Nothing is lost without a reset.** In a run with no reset, the lists the takes hand
out, followed by the record, are the record the run started from and then every
diagnostic the run created. -/
theorem taken_append_diagnostics_run (steps : List Step)
    (noReset : ∀ s ∈ steps, s.isReset = false) :
    ((r.run steps).2.filterMap (·.taken)).flatten ++ (r.run steps).1.diagnostics =
      r.diagnostics ++ steps.filterMap Step.created := by
  induction steps using List.reverseRecOn with
  | nil => simp
  | append_singleton steps s ih =>
    have earlier := ih fun t member => noReset t (List.mem_append_left _ member)
    have last : s.isReset = false := noReset s (List.mem_append_right _ (List.mem_singleton_self s))
    rw [run_append, List.filterMap_append, List.flatten_append, List.filterMap_append]
    rcases step_cases (r.run steps).1 s with ⟨d, creates, stepped, taken⟩ |
      ⟨rfl, -, -⟩ | ⟨rfl, stepped, taken⟩ | ⟨rfl, stepped, taken⟩
    · simp only [run_cons, run_nil, stepped, emit, taken, List.filterMap_cons, creates,
        List.filterMap_nil, List.flatten_nil, List.append_nil]
      rw [← List.append_assoc, earlier, List.append_assoc]
    · simp [Step.isReset] at last
    · simp [taken, stepped, Step.created, earlier]
    · simp [taken, stepped, Step.created, earlier]

/-! ## Sessions from a fresh reporter -/

/-- **Flags and exit code of a session.** After any steps from a fresh reporter, on any
sink, the reading-error flag is raised exactly when an error was reported after the last
reset, and the running-error flag exactly when a running error was; warnings and takes
leave both flags alone; and the exit code is 65 after a reading error, otherwise 70 after
a running error, otherwise 0, whichever came first. -/
theorem flags_since_reset (sink : Sink) (steps : List Step) :
    let r := ((Reporter.withSink sink).run steps).1
    let live := steps.rtakeWhile (!·.isReset)
    r.hadError = live.any Step.isReadingError ∧
      r.hadRuntimeError = live.any Step.isRuntimeError ∧
      (∀ (before : Reporter) (message : String),
        (before.step (.warning message)).1.hadError = before.hadError ∧
          (before.step (.warning message)).1.hadRuntimeError = before.hadRuntimeError ∧
          (before.step .takeDiagnostics).1.hadError = before.hadError ∧
          (before.step .takeDiagnostics).1.hadRuntimeError = before.hadRuntimeError) ∧
      r.exitCode =
        if live.any Step.isReadingError then 65
        else if live.any Step.isRuntimeError then 70 else 0 := by
  dsimp only
  -- a fresh reporter has both flags lowered, so only the steps since the last reset count
  have reading := flag_run (Reporter.withSink sink) step_hadError steps
  have running := flag_run (Reporter.withSink sink) step_hadRuntimeError steps
  simp only [withSink_hadError, withSink_hadRuntimeError, Bool.false_and, Bool.or_false]
    at reading running
  refine ⟨reading, running, fun before message => ?_, ?_⟩
  · simp [step_hadError, step_hadRuntimeError, Step.isReadingError, Step.isRuntimeError,
      Step.isReset]
  · rw [exitCode, reading, running]

/-- A reading error reported after a running error still decides the exit code. -/
example :
    ((Reporter.withSink .broken).run
      [.runtimeError ⟨Token.eof 1, "boom"⟩, .error 1 "bad"]).1.exitCode = 65 := by
  decide

/-- **Record and sink of a session.** Each step appends what it creates to the record,
after emptying it when it clears it; on a working sink a session writes the line of every
diagnostic it creates, those later cleared or taken included; the record holds the
diagnostics created since the last reset or take, which is what each take hands out; and
a session without reset hands out or keeps every diagnostic it creates, in order. -/
theorem record_since_clear (sink : Sink) (steps : List Step) :
    let session := (Reporter.withSink sink).run steps
    (∀ (r : Reporter) (s : Step),
      (r.step s).1.diagnostics = (if s.clears then [] else r.diagnostics) ++ s.created.toList) ∧
    (∀ text : String, ((Reporter.withSink (.buffer text)).run steps).1.written =
      text ++ String.join ((steps.filterMap Step.created).map Diagnostic.sinkLine)) ∧
    session.1.diagnostics = (steps.rtakeWhile (!·.clears)).filterMap Step.created ∧
    (∀ pre post : List Step,
      (((Reporter.withSink sink).run (pre ++ .takeDiagnostics :: post)).2[pre.length]?).map
          (·.taken) =
        some (some ((pre.rtakeWhile (!·.clears)).filterMap Step.created))) ∧
    ((∀ s ∈ steps, s.isReset = false) →
      (session.2.filterMap (·.taken)).flatten ++ session.1.diagnostics =
        steps.filterMap Step.created) := by
  intro session
  have recorded : ∀ steps : List Step, ((Reporter.withSink sink).run steps).1.diagnostics =
      (steps.rtakeWhile (!·.clears)).filterMap Step.created := by
    intro steps
    simp [diagnostics_run]
  refine ⟨step_diagnostics, fun text => ?_, recorded steps, fun pre post => ?_, fun noReset => ?_⟩
  · simp [written, sink_run (Reporter.withSink (.buffer text)) rfl steps]
  · rw [taken_run, recorded]
  · simpa using taken_append_diagnostics_run (Reporter.withSink sink) steps noReset

/-- A session that reports, drains and reports again hands out or keeps each diagnostic it
creates. -/
theorem record_since_clear_drained :
    let steps := [Step.error 1 "first", .warning "second", .takeDiagnostics, .warning "third"]
    (∀ s ∈ steps, s.isReset = false) ∧
      ((((Reporter.withSink (.buffer "")).run steps).2.filterMap (·.taken)).flatten ++
          ((Reporter.withSink (.buffer "")).run steps).1.diagnostics =
        steps.filterMap Step.created) :=
  ⟨by decide, (record_since_clear (.buffer "") _).2.2.2.2 (by decide)⟩

end Reporter

end LoxSyntax.Diagnostics
