import WorkflowDispatch.Interface.StartSettings
import WorkflowDispatch.Proofs.Layering
import WorkflowDispatch.Proofs.ResolvedTable

/-!
# What a start is made with

The options of a start are merged twice: those of the starting method over the defaults of the
interface when the declaration is resolved, those of the caller over both when the start is made.
Together this is one merge of three layers.  Of the markers of the starting method the last of a
kind counts, and what other methods are marked with is not looked at, neither where a descriptor
is made nor where a declaration is refused.

    d.startOptions.merge caller = mergeAll [d.defaults, m.markedOptions, caller]
                                                                          (startOptions_merge)
    List.Forall₂ AlikeForStart d.methods methods →
      { d with methods := methods }.resolve = d.resolve                        (resolve_congr)
-/

namespace WorkflowDispatch

/-! ## Definitions -/

/-- The retry options of a marker that sets some. -/
def Mark.retry? : Mark → Option RetryOptions
  | .retry options => some options
  | .role _ | .cron _ => none

/-- The schedule of a marker that sets one. -/
def Mark.cron? : Mark → Option String
  | .cron expression => some expression
  | .role _ | .retry _ => none

/-- The methods differ at most in retry options and schedule, and not even there if the method
starts the workflow. -/
structure DeclaredMethod.AlikeForStart (m m' : DeclaredMethod) : Prop where
  eq_but_options : m' = { m with retry := m'.retry, cronSchedule := m'.cronSchedule }
  eq_of_starts : m.Starts → m' = m

/-! ## Markers -/

namespace DeclaredMethod

variable (identifier : String) (member : Option Member) (returns : ValueType)

theorem mark_retry (m : DeclaredMethod) (marker : Mark) :
    (m.mark marker).retry = marker.retry?.or m.retry := by
  cases marker <;> rfl

theorem mark_cronSchedule (m : DeclaredMethod) (marker : Mark) :
    (m.mark marker).cronSchedule = marker.cron?.or m.cronSchedule := by
  cases marker <;> rfl

/-- The last marker of each kind counts. -/
theorem make_retry (marks : List Mark) :
    (make identifier member returns marks).retry = topmost Mark.retry? marks :=
  foldl_eq_topmost Mark.retry? mark retry mark_retry rfl marks

theorem make_cronSchedule (marks : List Mark) :
    (make identifier member returns marks).cronSchedule = topmost Mark.cron? marks :=
  foldl_eq_topmost Mark.cron? mark cronSchedule mark_cronSchedule rfl marks

/-! ## Methods that do not start the workflow -/

namespace AlikeForStart

variable {m m' : DeclaredMethod}

theorem startsWorkflow_eq (alike : m.AlikeForStart m') :
    m'.startsWorkflow = m.startsWorkflow := by
  rw [alike.eq_but_options]
  rfl

theorem entry_eq (alike : m.AlikeForStart m') : m'.entry = m.entry := by
  rw [alike.eq_but_options]
  rfl

theorem fault?_eq (alike : m.AlikeForStart m') (interface : String)
    (earlier : List DescribedMethod) :
    m'.fault? interface earlier = m.fault? interface earlier := by
  rw [alike.eq_but_options]
  rfl

end AlikeForStart

end DeclaredMethod

section

variable {methods methods' : List DeclaredMethod}

/-- Reading the methods does not look at their options. -/
theorem resolveMethods_congr (alike : List.Forall₂ DeclaredMethod.AlikeForStart methods methods')
    (interface : String) (earlier : List DescribedMethod) :
    resolveMethods interface earlier methods' = resolveMethods interface earlier methods := by
  induction alike generalizing earlier with
  | nil => rfl
  | cons same _ ih =>
    unfold resolveMethods
    rw [same.fault?_eq, same.entry_eq, ih]

/-- The first method that starts the workflow is found where it was, and is the same. -/
theorem find?_startsWorkflow_congr
    (alike : List.Forall₂ DeclaredMethod.AlikeForStart methods methods') :
    methods'.find? DeclaredMethod.startsWorkflow =
      methods.find? DeclaredMethod.startsWorkflow := by
  induction alike with
  | nil => rfl
  | @cons m m' _ _ same _ ih =>
    rw [List.find?_cons, List.find?_cons, same.startsWorkflow_eq, ih]
    cases starts : m.startsWorkflow with
    | false => rfl
    | true => rw [same.eq_of_starts ((startsWorkflow_iff m).1 starts)]

/-- What the other methods are marked with changes nothing, also where the declaration is
refused. -/
theorem resolve_congr (d : Declaration)
    (alike : List.Forall₂ DeclaredMethod.AlikeForStart d.methods methods) :
    { d with methods := methods }.resolve = d.resolve := by
  unfold Declaration.resolve Declaration.startOptions
  simp only [resolveMethods_congr alike, find?_startsWorkflow_congr alike]

end

/-! ## The method that starts -/

section

variable {d : Declaration} {m : DeclaredMethod}

/-- The options of a start are three layers. -/
theorem startOptions_merge (fine : Unambiguous d.methods) (mem : m ∈ d.methods)
    (starts : m.Starts) (caller : WorkflowOptions) :
    d.startOptions.merge caller =
      WorkflowOptions.mergeAll [d.defaults, m.markedOptions, caller] := by
  have found : d.methods.find? DeclaredMethod.startsWorkflow = some m := by
    cases found : d.methods.find? DeclaredMethod.startsWorkflow with
    | none => exact absurd ((startsWorkflow_iff m).2 starts) (List.find?_eq_none.1 found m mem)
    | some first =>
      have starts' := (startsWorkflow_iff first).1 (List.find?_some found)
      rw [fine.start_unique (List.mem_of_find?_eq_some found) mem starts' starts]
  unfold Declaration.startOptions WorkflowOptions.mergeAll
  rw [found]
  simp only [List.foldl_cons, List.foldl_nil, WorkflowOptions.merge_empty_left]

/-- The workflow has the name of the method that starts it. -/
theorem workflowType_of_starts (fine : Unambiguous d.methods) (mem : m ∈ d.methods)
    (starts : m.Starts) :
    ∃ name, m.Plays .entryPoint name ∧ (d.tableOf d.methods).workflowType = some name := by
  obtain ⟨i, noted⟩ := Option.isSome_iff_exists.1 (fine.entryPoint_isSome_iff.2 ⟨m, mem, starts⟩)
  obtain ⟨e, name, row, resolved, type⟩ := Descriptor.workflowType_of_entryPoint _ noted
  obtain ⟨m', declared, rfl⟩ :=
    Option.map_eq_some_iff.1 ((List.getElem?_map (f := DeclaredMethod.entry)).symm.trans row)
  have mem' := List.mem_of_getElem? declared
  have plays := (DeclaredMethod.entry_resolved_eq_some_iff (fine.one_role m' mem')).1 resolved
  rw [fine.start_unique mem mem' starts ⟨name, plays⟩]
  exact ⟨name, plays, type⟩

theorem workflowType_of_not_starts (fine : Unambiguous d.methods)
    (idle : ∀ m ∈ d.methods, ¬m.Starts) : (d.tableOf d.methods).workflowType = none := by
  refine Descriptor.workflowType_eq_none _ (Option.not_isSome_iff_eq_none.1 fun noted => ?_)
  obtain ⟨m, mem, starts⟩ := fine.entryPoint_isSome_iff.1 noted
  exact idle m mem starts

end

/-! ## Top theorem -/

/-- **A start is made with the caller's options over those of its method over the defaults.**  The
workflow type is the name that the starting method resolves to, and each setting is decided by the
highest of the three layers that makes it; without a starting method nothing can be started.  Of
the markers of a method the last of a kind sets its options, and the retry options and schedules of
methods that do not start the workflow can be anything. -/
theorem startSettings_layers {d : Declaration} {t : Descriptor} (accepted : d.resolve = .ok t)
    (caller : WorkflowOptions) :
    (∀ m ∈ d.methods, m.Starts → ∃ name o, m.Plays .entryPoint name ∧
        t.startSettings caller = .ok ⟨name, o⟩ ∧
        o.Overlays [d.defaults, m.markedOptions, caller]) ∧
      ((∀ m ∈ d.methods, ¬m.Starts) → ∃ e, t.startSettings caller = .error e ∧
        Cause.toError e = .ofKind .missingEntryPoint
          (d.name ++ " has no workflow method and cannot start a workflow")) ∧
      (∀ identifier member returns marks, ∃ retry cron,
        Decides Mark.retry? marks retry ∧ Decides Mark.cron? marks cron ∧
        (DeclaredMethod.make identifier member returns marks).markedOptions =
          { WorkflowOptions.empty with retry := retry, cronSchedule := cron }) ∧
      ∀ methods, List.Forall₂ DeclaredMethod.AlikeForStart d.methods methods →
        { d with methods := methods }.resolve = .ok t := by
  obtain ⟨rfl, fine⟩ := of_resolve_eq_ok accepted
  refine ⟨fun m mem starts => ?_, fun idle => ?_, fun identifier member returns marks => ?_,
    fun methods alike => ?_⟩
  · obtain ⟨name, plays, type⟩ := workflowType_of_starts fine mem starts
    refine ⟨name, WorkflowOptions.mergeAll [d.defaults, m.markedOptions, caller], plays, ?_,
      WorkflowOptions.mergeAll_overlays _⟩
    unfold Descriptor.startSettings
    rw [type, ← startOptions_merge fine mem starts caller]
    rfl
  · refine ⟨.noEntryPoint d.name, ?_, rfl⟩
    unfold Descriptor.startSettings
    rw [workflowType_of_not_starts fine idle]
    rfl
  · refine ⟨_, _, topmost_decides Mark.retry? marks, topmost_decides Mark.cron? marks, ?_⟩
    unfold DeclaredMethod.markedOptions
    rw [DeclaredMethod.make_retry, DeclaredMethod.make_cronSchedule]
  · rw [resolve_congr d alike]
    exact accepted

/-- The caller asks for no queue by name and sets nothing about retries; the number of attempts is
that of the last marker of the method, and the interval is that of the interface. -/
theorem greet_starts_with_three_layers :
    let attempts (n : Int) : RetryOptions := { RetryOptions.empty with maximumAttempts := some n }
    let greet : DeclaredMethod := .make "greet" none .string
      [.retry (attempts 3), .role ⟨.entryPoint, "Greet"⟩, .cron "@daily", .retry (attempts 0)]
    let status : DeclaredMethod := .make "status" none .string
      [.role ⟨.query, ""⟩, .cron "@yearly", .retry (attempts 7)]
    let defaults : WorkflowOptions :=
      { WorkflowOptions.empty with
        taskQueue := some "main"
        retry := some ⟨some 10, none, none, some 5, ["timeout"]⟩ }
    let caller : WorkflowOptions :=
      { WorkflowOptions.empty with taskQueue := some "", retry := some .empty }
    let d : Declaration := ⟨"Greeter", ⟨"Greeter"⟩, defaults, [status, greet]⟩
    let t := d.tableOf d.methods
    d.resolve = .ok t ∧ ∃ o, t.startSettings caller = .ok ⟨"Greet", o⟩ ∧
      o.taskQueue = some "" ∧ o.cronSchedule = some "@daily" ∧
      o.retry.map RetryOptions.maximumAttempts = some (some 0) ∧
      Setting.doNotRetry.get o = some ["timeout"] := by
  intro attempts greet status defaults caller d t
  have accepted : d.resolve = .ok t := rfl
  have starts : greet.Starts := ⟨"Greet", ⟨.entryPoint, "Greet"⟩, .head _, rfl, rfl⟩
  obtain ⟨name, o, -, started, overlays⟩ :=
    (startSettings_layers accepted caller).1 greet (.tail _ (.head _)) starts
  obtain ⟨rfl, rfl⟩ := StartSettings.mk.inj (Except.ok.inj started)
  have kept : Setting.doNotRetry.get _ = some ["timeout"] :=
    ((overlays.setting .doNotRetry).eq_some_iff _).2
      ⟨[], defaults, [greet.markedOptions, caller], rfl, rfl, by decide⟩
  exact ⟨accepted, _, started, rfl, rfl, rfl, kept⟩

end WorkflowDispatch
