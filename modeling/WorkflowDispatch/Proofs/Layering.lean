import Mathlib.Data.List.Induction
import WorkflowDispatch.Options.Workflow

/-!
# Layers of options

Every setting of merged options, the nested ones for retries among them, is read off the layers in
the same way: the highest layer that says something about it decides, and no other setting of any
layer matters.  So a merge need not be opened setting by setting.

    s.get (lower.merge higher) = (s.get higher).or (s.get lower)                       (get_merge)
    s.get (mergeAll layers) = topmost s.get layers                                  (get_mergeAll)
-/

namespace WorkflowDispatch

/-! ## Definitions -/

/-- One setting of workflow options. -/
inductive Setting where
  | workflowId
  | taskQueue
  | reusePolicy
  | cronSchedule
  | executionTimeout
  | runTimeout
  | taskTimeout
  | initialInterval
  | backoffCoefficient
  | maximumInterval
  | maximumAttempts
  /-- Failures that are not retried; an empty list of them says nothing. -/
  | doNotRetry
  deriving DecidableEq, Repr

namespace Setting

/-- What is said where a setting is made. -/
abbrev Value : Setting → Type
  | workflowId | taskQueue | cronSchedule => String
  | reusePolicy => ReusePolicy
  | executionTimeout | runTimeout | taskTimeout => Int
  | initialInterval | maximumInterval | maximumAttempts => Int
  | backoffCoefficient => Coefficient
  | doNotRetry => List String

/-- What the options say about a setting. -/
def get : (s : Setting) → WorkflowOptions → Option s.Value
  | workflowId, o => o.workflowId
  | taskQueue, o => o.taskQueue
  | reusePolicy, o => o.reusePolicy
  | cronSchedule, o => o.cronSchedule
  | executionTimeout, o => o.executionTimeout
  | runTimeout, o => o.runTimeout
  | taskTimeout, o => o.taskTimeout
  | initialInterval, o => o.retry.bind RetryOptions.initialInterval
  | backoffCoefficient, o => o.retry.bind RetryOptions.backoffCoefficient
  | maximumInterval, o => o.retry.bind RetryOptions.maximumInterval
  | maximumAttempts, o => o.retry.bind RetryOptions.maximumAttempts
  | doNotRetry, o => o.retry.bind fun retry => (some retry.doNotRetry).filter (· ≠ [])

end Setting

section

variable {α β : Type}

/-- What the highest of the elements that say something says. -/
def topmost (read : α → Option β) (elements : List α) : Option β :=
  elements.reverse.findSome? read

/-- The result is what the highest of the elements that say something says. -/
structure Decides (read : α → Option β) (elements : List α) (result : Option β) : Prop where
  eq_some_iff : ∀ v, result = some v ↔ ∃ below e above,
    elements = below ++ e :: above ∧ read e = some v ∧ ∀ other ∈ above, read other = none
  eq_none_iff : result = none ↔ ∀ e ∈ elements, read e = none

end

/-- In each setting the options say what the highest layer says that makes it; options for retries
are there when a layer has some. -/
structure WorkflowOptions.Overlays (o : WorkflowOptions) (layers : List WorkflowOptions) :
    Prop where
  setting : ∀ s : Setting, Decides s.get layers (s.get o)
  retry_isSome_iff : o.retry.isSome = true ↔ ∃ layer ∈ layers, layer.retry.isSome = true

/-! ## The topmost -/

section

variable {α β : Type} (read : α → Option β)

theorem topmost_concat (elements : List α) (e : α) :
    topmost read (elements ++ [e]) = (read e).or (topmost read elements) := by
  unfold topmost
  rw [List.reverse_concat, List.findSome?_cons]
  cases read e <;> rfl

/-- Where each element overrides what was said before it, the topmost one has the last word. -/
theorem foldl_eq_topmost {γ : Type} (f : γ → α → γ) (get : γ → Option β)
    (step : ∀ c e, get (f c e) = (read e).or (get c)) {start : γ} (blank : get start = none)
    (elements : List α) : get (elements.foldl f start) = topmost read elements := by
  induction elements using List.reverseRecOn with
  | nil => exact blank
  | append_singleton elements e ih =>
    rw [List.foldl_append, List.foldl_cons, List.foldl_nil, step, ih, topmost_concat]

theorem topmost_decides (elements : List α) :
    Decides read elements (topmost read elements) where
  eq_some_iff v := by
    unfold topmost
    rw [List.findSome?_eq_some_iff]
    constructor
    · rintro ⟨above, e, below, split, said, silent⟩
      refine ⟨below.reverse, e, above.reverse, ?_, said, by simpa using silent⟩
      rw [← List.reverse_reverse elements, split]
      simp
    · rintro ⟨below, e, above, rfl, said, silent⟩
      exact ⟨above.reverse, e, below.reverse, by simp, said, by simpa using silent⟩
  eq_none_iff := by simp [topmost]

end

/-! ## Merging -/

namespace Setting

@[simp] theorem get_empty (s : Setting) : s.get .empty = none := by
  cases s <;> rfl

/-- The settings for retries of two layers, as any of them is read. -/
theorem mergeRetry_bind {β : Type} (read : RetryOptions → Option β)
    (merged : ∀ lower higher : RetryOptions,
      read (lower.merge higher) = (read higher).or (read lower))
    (lower higher : Option RetryOptions) :
    (WorkflowOptions.mergeRetry lower higher).bind read =
      (higher.bind read).or (lower.bind read) := by
  match lower, higher with
  | some lower, some higher => exact merged lower higher
  | some lower, none => rfl
  | none, some higher => exact (Option.or_none ..).symm
  | none, none => rfl

theorem layeredList_filter (lower higher : List String) :
    (some (layeredList lower higher)).filter (· ≠ []) =
      ((some higher).filter (· ≠ [])).or ((some lower).filter (· ≠ [])) := by
  unfold layeredList
  cases higher <;> simp [Option.filter]

/-- The higher of two layers decides a setting that it makes, the lower one any other. -/
theorem get_merge (s : Setting) (lower higher : WorkflowOptions) :
    s.get (lower.merge higher) = (s.get higher).or (s.get lower) := by
  cases s with
  | workflowId | taskQueue | reusePolicy | cronSchedule => rfl
  | executionTimeout | runTimeout | taskTimeout => rfl
  | initialInterval | backoffCoefficient | maximumInterval | maximumAttempts =>
    exact mergeRetry_bind _ (fun _ _ => rfl) lower.retry higher.retry
  | doNotRetry =>
    exact mergeRetry_bind _ (fun _ _ => layeredList_filter ..) lower.retry higher.retry

end Setting

namespace WorkflowOptions

theorem merge_retry_isSome (lower higher : WorkflowOptions) :
    (lower.merge higher).retry.isSome = (lower.retry.isSome || higher.retry.isSome) := by
  show (mergeRetry lower.retry higher.retry).isSome = _
  match lower.retry, higher.retry with
  | some _, some _ | some _, none | none, some _ | none, none => rfl

theorem merge_empty_left (o : WorkflowOptions) : empty.merge o = o := by
  unfold merge empty mergeRetry
  simp [layered]

theorem mergeAll_concat (layers : List WorkflowOptions) (layer : WorkflowOptions) :
    mergeAll (layers ++ [layer]) = (mergeAll layers).merge layer :=
  List.foldl_append ..

/-- A setting of any number of layers. -/
theorem get_mergeAll (s : Setting) (layers : List WorkflowOptions) :
    s.get (mergeAll layers) = topmost s.get layers :=
  foldl_eq_topmost s.get merge s.get s.get_merge s.get_empty layers

theorem mergeAll_retry_isSome_iff (layers : List WorkflowOptions) :
    (mergeAll layers).retry.isSome = true ↔ ∃ layer ∈ layers, layer.retry.isSome = true := by
  induction layers using List.reverseRecOn with
  | nil => simp [mergeAll, empty]
  | append_singleton layers layer ih =>
    rw [mergeAll_concat, merge_retry_isSome, Bool.or_eq_true, ih]
    simp [or_and_right, exists_or]

/-- Merging lays the layers over each other. -/
theorem mergeAll_overlays (layers : List WorkflowOptions) : (mergeAll layers).Overlays layers where
  setting s := by
    rw [get_mergeAll]
    exact topmost_decides s.get layers
  retry_isSome_iff := mergeAll_retry_isSome_iff layers

end WorkflowOptions

end WorkflowDispatch
