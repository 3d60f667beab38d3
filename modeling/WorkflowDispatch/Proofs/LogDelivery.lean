import Mathlib.Data.List.Induction
import WorkflowDispatch.Fatal
import WorkflowDispatch.Log.Run

/-!
# The destination of a log statement

Where a line goes can be read off the history of registrations: a registration stands from when it
is made until the next one is made, or until a reset or the end of a scope that is open.  A scope's
end takes away whatever stands, also a registration that is not its own.  A statement that is
enabled and whose condition holds builds its message once and delivers it once, to the sink that
stands, or else to the error stream; any other statement delivers nothing and builds nothing.  All
this holds for every build: the thresholds decide which statements are enabled, and nothing else.

    Stands history ⟨some name, context⟩ ↔
      (initial.after history).current = ⟨some name, context⟩                  (stands_iff_current)
    Receives history d ↔ (initial.after history).current.destination = d            (receives_iff)
    (s.run (before ++ step :: later))[before.length]? = some ((s.after before).tally step)
                                                                                     (run_getElem?)
    s.emitted holds the lines that the statements of the run deliver    (lines_emitted_eq_delivered)
-/

namespace WorkflowDispatch

/-! ## Definitions -/

/-- The level counts, and it is at least the threshold of the category. -/
def LogEnabled [LogThresholds] (category : LogCategory) (level : LogLevel) : Prop :=
  level ≠ .off ∧ LogCategory.threshold category.number ≤ level.number

namespace LogStep

/-- What the step registers; a scope registers when it opens. -/
def registers? : LogStep → Option Registration
  | register r => some r
  | openScope r => some r
  | reset | endScope | statement .. => none

/-- How many scopes are open after the step. -/
def scopesAfter (scopes : Nat) : LogStep → Nat
  | openScope _ => scopes + 1
  | endScope => scopes - 1
  | register _ | reset | statement .. => scopes

end LogStep

/-- How many scopes the history leaves open. -/
def openScopes (history : List LogStep) : Nat :=
  history.foldl LogStep.scopesAfter 0

/-- The step takes away whatever stands after the history: it is a reset or the end of an open
scope. -/
def LogStep.Clears (history : List LogStep) : LogStep → Prop
  | reset => True
  | endScope => 0 < openScopes history
  | register _ | openScope _ | statement .. => False

/-- The registration is the latest of the history, and nothing has taken it away since. -/
def Stands (history : List LogStep) (r : Registration) : Prop :=
  ∃ before step later, history = before ++ step :: later ∧ step.registers? = some r ∧
    ∀ between next rest, later = between ++ next :: rest →
      next.registers? = none ∧ ¬next.Clears (before ++ step :: between)

/-- What receives a line after the history: the sink that stands, with the context of the same
registration, and the error stream if there is none. -/
inductive Receives (history : List LogStep) : Destination → Prop where
  | sink {name context : String} (stands : Stands history ⟨some name, context⟩) :
      Receives history (.sink name context)
  | errorStream (unheard : ∀ name context, ¬Stands history ⟨some name, context⟩) :
      Receives history .errorStream

/-- What a statement does whose line the destination receives: nothing when it is disabled, only
its condition when that fails, and else its message, which is delivered once. -/
inductive Handled [LogThresholds] (category : LogCategory) (level : LogLevel)
    (condition? : Option Bool) (message : String) (d : Destination) : Tally → Prop where
  | disabled (off : ¬LogEnabled category level) :
      Handled category level condition? message d ⟨0, 0, []⟩
  | declined (on : LogEnabled category level) (fails : condition? = some false) :
      Handled category level condition? message d ⟨1, 0, []⟩
  | delivered (on : LogEnabled category level) (holds : condition? ≠ some false) :
      Handled category level condition? message d
        ⟨condition?.toList.length, 1, [⟨d, ⟨category, level, message⟩⟩]⟩

/-- The log statements that a run made. -/
def State.statements {σ ν : Type} (s : State σ ν) : List LogLine := s.trace.filterMap Event.line?

/-- What the statement of a line does under a registration. -/
def LogLine.tally [LogThresholds] (line : LogLine) (r : Registration) : Tally :=
  r.emit line.category line.level none line.message

/-- The state after a list of steps. -/
def LogState.after (s : LogState) (steps : List LogStep) : LogState :=
  steps.foldl LogState.next s

/-! ## Enabled statements -/

section Enabled

variable [LogThresholds]

theorem LogCategory.threshold_number (category : LogCategory) :
    threshold category.number = category.minimum := by
  have found : Numbered.ofNumber? category.number = some category :=
    Numbered.ofNumber?_number category
  simp only [threshold, found]

theorem LogLevel.enabledFor_iff_logEnabled (level : LogLevel) (category : LogCategory) :
    level.enabledFor category = true ↔ LogEnabled category level := by
  rw [enabledFor_iff, LogEnabled, category.threshold_number]

namespace Registration

variable (r : Registration) {category : LogCategory} {level : LogLevel}

/-- A condition that fails is all that such a statement runs. -/
theorem emit_of_declined (on : level.enabledFor category = true) (message : String) :
    r.emit category level (some false) message = ⟨1, 0, []⟩ := by
  simp only [emit, logIf, on]
  rfl

/-- A condition that holds is run once before the message. -/
theorem emit_of_holds (on : level.enabledFor category = true) (message : String) :
    r.emit category level (some true) message =
      ⟨1, 1, [⟨r.destination, ⟨category, level, message⟩⟩]⟩ := by
  simp only [emit, logIf, on]
  rfl

end Registration

end Enabled

/-! ## The registration that stands -/

@[simp] theorem LogState.after_snoc (s : LogState) (history : List LogStep) (step : LogStep) :
    s.after (history ++ [step]) = (s.after history).next step := by
  simp [after]

@[simp] theorem openScopes_snoc (history : List LogStep) (step : LogStep) :
    openScopes (history ++ [step]) = step.scopesAfter (openScopes history) := by
  simp [openScopes]

theorem LogState.after_scopes (history : List LogStep) :
    (initial.after history).scopes = openScopes history := by
  induction history using List.reverseRecOn with
  | nil => rfl
  | append_singleton history step ih =>
    rw [after_snoc, openScopes_snoc, ← ih]
    cases step with
    | endScope => grind [next, LogStep.scopesAfter]
    | register | reset | openScope | statement => rfl

theorem not_stands_nil (r : Registration) : ¬Stands [] r := by
  rintro ⟨before, step, later, split, -, -⟩
  cases before <;> cases split

/-- One step: what stands after it is what it registers, or what stood before it if it neither
registers nor clears. -/
theorem stands_snoc_iff (history : List LogStep) (step : LogStep) (r : Registration) :
    Stands (history ++ [step]) r ↔
      step.registers? = some r ∨
        step.registers? = none ∧ ¬step.Clears history ∧ Stands history r := by
  constructor
  · rintro ⟨before, registering, later, split, registered, kept⟩
    rcases later.eq_nil_or_concat with rfl | ⟨later, last, rfl⟩
    · obtain ⟨-, same⟩ := List.append_inj' split rfl
      cases same
      exact .inl registered
    · rw [List.concat_eq_append, ← List.cons_append, ← List.append_assoc] at split
      obtain ⟨rfl, same⟩ := List.append_inj' split rfl
      cases same
      obtain ⟨silent, spared⟩ := kept later step [] (List.concat_eq_append ..)
      refine .inr ⟨silent, spared, before, registering, later, rfl, registered, ?_⟩
      intro between next rest inside
      exact kept between next (rest ++ [step]) (by simp [inside])
  · rintro (registered | ⟨silent, spared, before, registering, later, rfl, registered, kept⟩)
    · exact ⟨history, step, [], rfl, registered, by simp⟩
    · refine ⟨before, registering, later ++ [step], by simp, registered, ?_⟩
      intro between next rest inside
      rcases rest.eq_nil_or_concat with rfl | ⟨rest, last, rfl⟩
      · obtain ⟨rfl, same⟩ := List.append_inj' inside rfl
        cases same
        exact ⟨silent, spared⟩
      · rw [List.concat_eq_append, ← List.cons_append, ← List.append_assoc] at inside
        exact kept between next rest (List.append_inj' inside rfl).1

/-- A whole history: the sink that stands after it is the one that is registered. -/
theorem stands_iff_current (history : List LogStep) (name context : String) :
    Stands history ⟨some name, context⟩ ↔
      (LogState.initial.after history).current = ⟨some name, context⟩ := by
  induction history using List.reverseRecOn with
  | nil => exact iff_of_false (not_stands_nil _) (by rintro ⟨⟩)
  | append_singleton history step ih =>
    rw [stands_snoc_iff, ih, LogState.after_snoc]
    cases step with
    | register r | openScope r => simp [LogStep.registers?, LogState.next]
    | statement => simp [LogStep.registers?, LogStep.Clears, LogState.next]
    | reset => simp [LogStep.registers?, LogStep.Clears, LogState.next, Registration.absent]
    | endScope =>
      have counted := LogState.after_scopes history
      by_cases closed : openScopes history = 0
      · simp [LogStep.registers?, LogStep.Clears, LogState.next, counted, closed]
      · simp [LogStep.registers?, LogStep.Clears, LogState.next, counted, closed,
          Registration.absent, Nat.pos_of_ne_zero closed]

/-- Exactly one destination receives a line. -/
theorem receives_iff (history : List LogStep) (d : Destination) :
    Receives history d ↔ (LogState.initial.after history).current.destination = d := by
  obtain ⟨sink?, context, current⟩ :
      ∃ sink? context, (LogState.initial.after history).current = ⟨sink?, context⟩ := ⟨_, _, rfl⟩
  have stands_iff (name c : String) :
      Stands history ⟨some name, c⟩ ↔ sink? = some name ∧ context = c := by
    rw [stands_iff_current, current, Registration.mk.injEq]
  rw [current]
  constructor
  · rintro (stands | unheard)
    · obtain ⟨rfl, rfl⟩ := (stands_iff ..).1 stands
      rfl
    · cases sink? with
      | none => rfl
      | some name => exact absurd ((stands_iff name context).2 ⟨rfl, rfl⟩) (unheard name context)
  · rintro rfl
    cases sink? with
    | none => exact .errorStream fun name c stands => nomatch ((stands_iff name c).1 stands).1
    | some name => exact .sink ((stands_iff name context).2 ⟨rfl, rfl⟩)

/-! ## Runs -/

section Runs

variable [LogThresholds]

/-- What a step of a run does is decided by the steps before it. -/
theorem LogState.run_getElem? (s : LogState) (before later : List LogStep) (step : LogStep) :
    (s.run (before ++ step :: later))[before.length]? = some ((s.after before).tally step) := by
  induction before generalizing s with
  | nil => rfl
  | cons first before ih => exact ih (s.next first)

theorem Registration.emit_handled (r : Registration) (category : LogCategory) (level : LogLevel)
    (condition? : Option Bool) (message : String) :
    Handled category level condition? message r.destination
      (r.emit category level condition? message) := by
  by_cases on : LogEnabled category level
  · have enabled := (level.enabledFor_iff_logEnabled category).2 on
    match condition? with
    | none =>
      rw [r.emit_of_enabled enabled]
      exact .delivered on nofun
    | some true =>
      rw [r.emit_of_holds enabled]
      exact .delivered on (by decide)
    | some false =>
      rw [r.emit_of_declined enabled]
      exact .declined on rfl
  · have disabled : level.enabledFor category = false :=
      Bool.eq_false_iff.2 fun h => on ((level.enabledFor_iff_logEnabled category).1 h)
    rw [r.emit_of_not_enabled disabled]
    exact .disabled on

section Handled

variable {category : LogCategory} {level : LogLevel} {condition? : Option Bool} {message : String}
  {d : Destination} {t : Tally}

theorem Handled.errorText (handled : Handled category level condition? message d t)
    (built : t.messages = 1) (unheard : d = .errorStream) :
    t.errorText =
      "[WFROUTE][" ++ category.name ++ "][" ++ level.name ++ "] " ++ message ++ "\n" := by
  subst unheard
  cases handled with
  | disabled | declined => cases built
  | delivered =>
    show "" ++ LogLine.render ⟨category, level, message⟩ = _
    exact String.empty_append

theorem Handled.sinkLines (handled : Handled category level condition? message d t)
    (built : t.messages = 1) {name context : String} (heard : d = .sink name context) :
    t.sinkLines = [(context, ⟨category, level, message⟩)] := by
  subst heard
  cases handled with
  | disabled | declined => cases built
  | delivered => rfl

end Handled

/-! ## The statements of a run -/

theorem LogLine.delivered_tally (line : LogLine) (r : Registration) :
    (line.tally r).delivered =
      if line.level.enabledFor line.category then [⟨r.destination, line⟩] else [] := by
  unfold tally
  split
  next on => rw [r.emit_of_enabled on]
  next off => rw [r.emit_of_not_enabled (Bool.eq_false_iff.2 off)]; rfl

theorem State.lines_emitted {σ ν : Type} (s : State σ ν) :
    s.emitted.filterMap Event.line? =
      s.statements.filter fun line => line.level.enabledFor line.category := by
  unfold emitted statements
  rw [List.filterMap_filter, List.filter_filterMap]
  congr 1
  funext e
  cases e <;> rfl

/-- What goes out of a run is what its statements deliver, to whomever. -/
theorem State.lines_emitted_eq_delivered {σ ν : Type} (s : State σ ν) (r : Registration) :
    s.emitted.filterMap Event.line? =
      s.statements.flatMap fun line => (line.tally r).delivered.map Delivery.line := by
  rw [lines_emitted]
  induction s.statements with
  | nil => rfl
  | cons line rest ih =>
    rw [List.filter_cons, List.flatMap_cons, ← ih, line.delivered_tally]
    split <;> rfl

/-- Without a sink, what a run leaves on the error stream is what its statements leave there. -/
theorem errorText_emitted {σ ν : Type} (s : State σ ν) :
    errorText s.emitted =
      String.join (s.statements.map fun line => (line.tally .absent).errorText) := by
  rw [errorText, State.lines_emitted]
  induction s.statements with
  | nil => rfl
  | cons line rest ih =>
    rw [List.map_cons, String.join_cons, ← ih, Tally.errorText, line.delivered_tally,
      List.filter_cons]
    split <;> simp [Registration.destination, Registration.absent]

/-! ## Top theorem -/

/-- **A log statement goes to one destination, which its history decides.**  It runs its condition
once if it is enabled, and builds and delivers its message once if the condition holds.  The whole
message goes to the sink that stands, with the context of that registration, and otherwise as one
line with a prefix to the error stream. -/
theorem log_statement_handled_once (before later : List LogStep) (category : LogCategory)
    (level : LogLevel) (condition? : Option Bool) (message : String) :
    let statement := LogStep.statement category level condition? message
    ∃ tally d, (LogState.initial.run (before ++ statement :: later))[before.length]? = some tally ∧
      (∀ other, Receives before other ↔ other = d) ∧
      Handled category level condition? message d tally ∧
      (tally.messages = 1 → d = .errorStream →
        tally.errorText =
          "[WFROUTE][" ++ category.name ++ "][" ++ level.name ++ "] " ++ message ++ "\n") ∧
      (tally.messages = 1 → ∀ name context, d = .sink name context →
        tally.sinkLines = [(context, ⟨category, level, message⟩)]) := by
  intro statement
  have current := LogState.initial.run_getElem? before later statement
  have handled := ((LogState.initial.after before).current).emit_handled category level condition?
    message
  refine ⟨_, _, current, fun other => ?_, handled, handled.errorText,
    fun built name context heard => handled.sinkLines built heard⟩
  rw [receives_iff, eq_comm]

end Runs

/-- The end of an inner scope takes the sink of the outer one away as well: a line goes to the error
stream, a NUL in it and all.  A sink that is registered then receives the next line with its own
context. -/
theorem inner_scope_ends_outer_sink :
    let _ : LogThresholds := { overall := LogLevel.info.number }
    let ended : List LogStep :=
      [.openScope ⟨some "outer", "1"⟩, .openScope ⟨some "inner", "2"⟩, .endScope]
    let text := "left\x00right"
    let spoken := LogStep.statement .dispatch .info (some true) text
    let registering : List LogStep := ended ++ [spoken, .register ⟨some "late", "3"⟩]
    (∃ tally, (LogState.initial.run (ended ++ spoken :: []))[3]? = some tally ∧
      Receives ended .errorStream ∧
      tally.errorText = "[WFROUTE][dispatch][INFO] left\x00right\n") ∧
    ∃ tally, (LogState.initial.run (registering ++ spoken :: []))[5]? = some tally ∧
      Receives registering (.sink "late" "3") ∧
      tally.sinkLines = [("3", ⟨.dispatch, .info, text⟩)] := by
  intro _ ended text spoken registering
  constructor
  · obtain ⟨tally, d, ran, one, -, line, -⟩ :=
      log_statement_handled_once ended [] .dispatch .info (some true) text
    have built : tally.messages = 1 := by cases ran; rfl
    have receives : Receives ended .errorStream := (receives_iff ended _).2 rfl
    exact ⟨tally, ran, receives, line built ((one _).1 receives).symm⟩
  · obtain ⟨tally, d, ran, one, -, -, handed⟩ :=
      log_statement_handled_once registering [] .dispatch .info (some true) text
    have built : tally.messages = 1 := by cases ran; rfl
    have receives : Receives registering (.sink "late" "3") := (receives_iff registering _).2 rfl
    exact ⟨tally, ran, receives, handed built _ _ ((one _).1 receives).symm⟩

end WorkflowDispatch
