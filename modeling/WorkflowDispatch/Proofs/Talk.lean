import WorkflowDispatch.Action.Context

/-!
# Talks with collaborators

What the library asks of handles and batches while it carries out a call, and how they answer.  A
talk is a list of turns: a line that is logged, or a call of a collaborator with its answer.
`Talk c s turns s'` says that the turns take place one after another between the states `s` and
`s'` when the collaborators are `c`.  Nothing is assumed of them: while they answer they may call
the library again.

    c.Quiet → Talk c s turns s' → s'.calls = s.calls ++ callsOf turns        (Talk.calls_eq)
    Frame R → c.Keep R → Talk c s turns s' → R s s'                          (Talk.keeps)
-/

namespace WorkflowDispatch

open WorkflowDispatch.Action

variable {σ ν α β : Type}

/-! ## Calls -/

/-- A call of a collaborator. -/
inductive Call where
  | handle (h : HandleId) (call : HandleCall)
  | batch (b : BatchId) (call : BatchCall)
  deriving DecidableEq, Repr

/-- What is answered to a call. -/
@[reducible] def Call.Answer : Call → Type
  | .handle _ call => call.Answer
  | .batch .. => Unit

/-- Makes the call. -/
def Call.place (c : Collaborators σ ν) : (call : Call) → Action σ ν call.Answer
  | .handle h call => callHandle c h call
  | .batch b call => callBatch c b call

/-- How a call stands in the trace. -/
def Call.event : Call → Event ν
  | .handle h call => .handleCall h call
  | .batch b call => .batchCall b call

/-- The call that an event of the trace is. -/
def Event.call? : Event ν → Option Call
  | .handleCall h call => some (.handle h call)
  | .batchCall b call => some (.batch b call)
  | _ => none

/-- The calls of collaborators that were made so far. -/
def State.calls (s : State σ ν) : List Call := s.trace.filterMap Event.call?

/-! ## Turns -/

/-- One turn of a talk. -/
inductive Turn where
  | logged (line : LogLine)
  | asked (call : Call) (ending : Ending call.Answer)

def Turn.call? : Turn → Option Call
  | .logged _ => none
  | .asked call _ => some call

/-- The calls made in a talk. -/
def callsOf (turns : List Turn) : List Call := turns.filterMap Turn.call?

/-- The turns take place one after another, from one state to the other. -/
inductive Talk (c : Collaborators σ ν) : State σ ν → List Turn → State σ ν → Prop where
  | done (s : State σ ν) : Talk c s [] s
  | logged {s s' : State σ ν} {turns : List Turn} (line : LogLine)
      (rest : Talk c { s with trace := s.trace ++ [.log line] } turns s') :
      Talk c s (.logged line :: turns) s'
  | asked {s t s' : State σ ν} {turns : List Turn} (call : Call) (ending : Ending call.Answer)
      (answered : runFrom (call.place c) s = (ending, t)) (rest : Talk c t turns s') :
      Talk c s (.asked call ending :: turns) s'

/-! ## What a run keeps -/

/-- Every run of the action relates the state it begins in to the state it reaches. -/
def Action.Keeps (R : State σ ν → State σ ν → Prop) (x : Action σ ν α) : Prop :=
  ∀ s, R s (runFrom x s).2

/-- Every answer of the collaborators is such a run. -/
structure Collaborators.Keep (R : State σ ν → State σ ν → Prop) (c : Collaborators σ ν) : Prop where
  handle : ∀ h call, (c.handle h call).Keeps R
  batch : ∀ b call, (c.batch b call).Keeps R

/-- A relation that what the library itself does in a call is bound to respect: it traces events,
and it forgets and keeps outcomes. -/
structure Frame (R : State σ ν → State σ ν → Prop) : Prop where
  refl : ∀ s, R s s
  trans : ∀ {s t u}, R s t → R t u → R s u
  traced : ∀ s e, R s { s with trace := s.trace ++ [e] }
  forgotten : ∀ s, R s { s with context := s.context.map Context.forgetOutcome }
  kept : ∀ s v, R s { s with context := s.context.map (Context.keepOutcome v) }

/-- The action is refused: it fails in this way and nothing is changed. -/
def Action.RefusedAs (kind : ErrorKind) (x : Action σ ν α) (s : State σ ν) : Prop :=
  ∃ failure : Failure, failure.isOfKind kind = true ∧ runFrom x s = (.error (.thrown failure), s)

/-- Nothing of the library is used: the context stays as it is and no collaborator is called. -/
def Untouched (s s' : State σ ν) : Prop := s'.context = s.context ∧ s'.calls = s.calls

/-- The collaborators answer without calling the library. -/
def Collaborators.Quiet (c : Collaborators σ ν) : Prop := c.Keep Untouched

/-- What was called stays called: nobody undoes a call. -/
def CallsGrow (s s' : State σ ν) : Prop := s.calls <+: s'.calls

/-! ## Lemmas -/

@[simp] theorem callsOf_nil : callsOf [] = [] := rfl

@[simp] theorem callsOf_logged (line : LogLine) (turns : List Turn) :
    callsOf (.logged line :: turns) = callsOf turns := rfl

@[simp] theorem callsOf_asked (call : Call) (ending : Ending call.Answer) (turns : List Turn) :
    callsOf (.asked call ending :: turns) = call :: callsOf turns := rfl

@[simp] theorem callsOf_append (turns more : List Turn) :
    callsOf (turns ++ more) = callsOf turns ++ callsOf more := List.filterMap_append

theorem calls_traced (s : State σ ν) (e : Event ν) :
    State.calls { s with trace := s.trace ++ [e] } = s.calls ++ e.call?.toList := by
  unfold State.calls
  rw [List.filterMap_append]
  cases he : e.call? <;> simp [he]

@[simp] theorem calls_logged (s : State σ ν) (line : LogLine) :
    State.calls { s with trace := s.trace ++ [.log line] } = s.calls := by
  rw [calls_traced]
  exact List.append_nil _

/-- A collaborator that is called takes over with the call already in the trace. -/
theorem Collaborators.Keep.place {R : State σ ν → State σ ν → Prop} {c : Collaborators σ ν}
    (hc : c.Keep R) {call : Call} {ending : Ending call.Answer} {s t : State σ ν}
    (answered : runFrom (call.place c) s = (ending, t)) :
    R { s with trace := s.trace ++ [call.event] } t := by
  have ht : t = (runFrom (call.place c) s).2 := by rw [answered]
  rw [ht]
  cases call with
  | handle h k => exact hc.handle h k _
  | batch b k => exact hc.batch b k _

@[simp] theorem calls_asked (s : State σ ν) (call : Call) :
    State.calls { s with trace := s.trace ++ [call.event] } = s.calls ++ [call] := by
  rw [calls_traced]
  cases call <;> rfl

theorem callsGrow_frame : Frame (CallsGrow (σ := σ) (ν := ν)) where
  refl s := List.prefix_refl s.calls
  trans := List.IsPrefix.trans
  traced s e := ⟨e.call?.toList, (calls_traced s e).symm⟩
  forgotten s := List.prefix_refl s.calls
  kept s _ := List.prefix_refl s.calls

/-- A collaborator that does not use the library undoes no call. -/
theorem Collaborators.Quiet.growing {c : Collaborators σ ν} (quiet : c.Quiet) :
    c.Keep CallsGrow where
  handle h call s := ⟨[], by rw [List.append_nil, (quiet.handle h call s).2]⟩
  batch b call s := ⟨[], by rw [List.append_nil, (quiet.batch b call s).2]⟩

namespace Talk

variable {c : Collaborators σ ν} {s t s' : State σ ν} {turns more : List Turn}

/-- A talk of a single call. -/
theorem single {call : Call} {ending : Ending call.Answer}
    (answered : runFrom (call.place c) s = (ending, s')) : Talk c s [.asked call ending] s' :=
  .asked call ending answered (.done s')

theorem append (first : Talk c s turns t) (second : Talk c t more s') :
    Talk c s (turns ++ more) s' := by
  induction first with
  | done => exact second
  | logged line _ ih => exact .logged line (ih second)
  | asked call ending answered _ ih => exact .asked call ending answered (ih second)

theorem of_append (talk : Talk c s (turns ++ more) s') :
    ∃ t, Talk c s turns t ∧ Talk c t more s' := by
  induction turns generalizing s with
  | nil => exact ⟨s, .done s, talk⟩
  | cons turn turns ih =>
    cases talk with
    | logged line rest =>
      obtain ⟨t, first, second⟩ := ih rest
      exact ⟨t, .logged line first, second⟩
    | asked call ending answered rest =>
      obtain ⟨t, first, second⟩ := ih rest
      exact ⟨t, .asked call ending answered first, second⟩

theorem of_asked {call : Call} {ending : Ending call.Answer}
    (talk : Talk c s (.asked call ending :: turns) s') :
    ∃ t, runFrom (call.place c) s = (ending, t) ∧ Talk c t turns s' := by
  cases talk with
  | asked _ _ answered rest => exact ⟨_, answered, rest⟩

theorem of_single {call : Call} {ending : Ending call.Answer}
    (talk : Talk c s [.asked call ending] s') : runFrom (call.place c) s = (ending, s') := by
  obtain ⟨t, answered, rest⟩ := talk.of_asked
  cases rest
  exact answered

theorem of_logged {line : LogLine} (talk : Talk c s [.logged line] s') :
    s' = { s with trace := s.trace ++ [.log line] } := by
  cases talk with
  | logged _ rest =>
    cases rest
    rfl

theorem keeps {R : State σ ν → State σ ν → Prop} (frame : Frame R) (hc : c.Keep R)
    (talk : Talk c s turns s') : R s s' := by
  induction talk with
  | done s => exact frame.refl s
  | logged line _ ih => exact frame.trans (frame.traced _ (.log line)) ih
  | asked call ending answered _ ih =>
    exact frame.trans (frame.traced _ call.event) (frame.trans (hc.place answered) ih)

/-- Between quiet collaborators the context stays as it is. -/
theorem context_eq (quiet : c.Quiet) (talk : Talk c s turns s') : s'.context = s.context := by
  induction talk with
  | done => rfl
  | logged line _ ih => exact ih
  | asked call ending answered _ ih =>
    exact ih.trans (quiet.place answered).1

/-- A talk with quiet collaborators makes the calls of its turns and no other. -/
theorem calls_eq (quiet : c.Quiet) (talk : Talk c s turns s') :
    s'.calls = s.calls ++ callsOf turns := by
  induction talk with
  | done s => simp
  | logged line _ ih => simpa using ih
  | asked call ending answered _ ih =>
    rw [ih, (quiet.place answered).2, calls_asked, List.append_assoc]
    rfl

/-- Whatever the collaborators do, the first call of a talk is the first that is made. -/
theorem first_call (hc : c.Keep CallsGrow) (talk : Talk c s turns s') {call : Call}
    {rest : List Call} (first : callsOf turns = call :: rest) : s.calls ++ [call] <+: s'.calls := by
  induction talk with
  | done => simp at first
  | logged line _ ih => simpa using ih first
  | @asked s t s' turns asked ending answered talk ih =>
    obtain ⟨rfl, -⟩ : asked = call ∧ callsOf turns = rest := by simpa using first
    have own : s.calls ++ [asked] <+: t.calls := calls_asked s asked ▸ hc.place answered
    exact own.trans (talk.keeps callsGrow_frame hc)

end Talk

end WorkflowDispatch
