import WorkflowDispatch.Proofs.Layering

/-!
# Laws of merging

Workflow options are known by their settings and by whether they have retry options at all.  A merge
decides each of these on its own, by the highest layer that says something, so its laws are those
of "this or else that".  They hold of the options themselves, with a coefficient compared as its
bits.

    (a.merge b).merge c = a.merge (b.merge c)                                     (merge_assoc)
    (a.merge b).merge a = b.merge a                                               (merge_again)
    layers.foldl merge base = base.merge (mergeAllFromTop layers)                 (foldl_merge)
-/

namespace WorkflowDispatch

/-! ## Settings tell options apart -/

/-- Retry options are known by what they say, setting by setting. -/
theorem RetryOptions.eq_of_settings {retry retry' : RetryOptions}
    (initialInterval : retry.initialInterval = retry'.initialInterval)
    (backoffCoefficient : retry.backoffCoefficient = retry'.backoffCoefficient)
    (maximumInterval : retry.maximumInterval = retry'.maximumInterval)
    (maximumAttempts : retry.maximumAttempts = retry'.maximumAttempts)
    (doNotRetry : (some retry.doNotRetry).filter (· ≠ []) =
      (some retry'.doNotRetry).filter (· ≠ [])) : retry = retry' := by
  obtain ⟨_, _, _, _, failures⟩ := retry
  obtain ⟨_, _, _, _, failures'⟩ := retry'
  -- An empty list says nothing, but then the other list says nothing either.
  have same : failures = failures' := by
    cases failures <;> cases failures' <;> simp_all [Option.filter]
  simp_all

namespace WorkflowOptions

theorem retry_eq_of_settings {o o' : WorkflowOptions}
    (present : o.retry.isSome = o'.retry.isSome) (settings : ∀ s : Setting, s.get o = s.get o') :
    o.retry = o'.retry := by
  cases found : o.retry with
  | none =>
    rw [found, Option.isSome_none] at present
    exact (Option.isNone_iff_eq_none.1 (Option.isSome_eq_false_iff.1 present.symm)).symm
  | some retry =>
    rw [found] at present
    obtain ⟨retry', found'⟩ := Option.isSome_iff_exists.1 present.symm
    have said {β : Type} (read : RetryOptions → Option β)
        (same : o.retry.bind read = o'.retry.bind read) : read retry = read retry' := by
      rw [found, found'] at same
      exact same
    rw [found', RetryOptions.eq_of_settings (said _ (settings .initialInterval))
      (said _ (settings .backoffCoefficient)) (said _ (settings .maximumInterval))
      (said _ (settings .maximumAttempts)) (said _ (settings .doNotRetry))]

theorem eq_of_settings {o o' : WorkflowOptions} (present : o.retry.isSome = o'.retry.isSome)
    (settings : ∀ s : Setting, s.get o = s.get o') : o = o' := by
  have retry := retry_eq_of_settings present settings
  have workflowId := settings .workflowId
  have taskQueue := settings .taskQueue
  have reusePolicy := settings .reusePolicy
  have cronSchedule := settings .cronSchedule
  have executionTimeout := settings .executionTimeout
  have runTimeout := settings .runTimeout
  have taskTimeout := settings .taskTimeout
  obtain ⟨⟩ := o
  obtain ⟨⟩ := o'
  simp_all [Setting.get]

/-! ## Merging as an operation -/

theorem merge_assoc (a b c : WorkflowOptions) :
    (a.merge b).merge c = a.merge (b.merge c) := by
  refine eq_of_settings ?_ fun s => ?_
  · simp only [merge_retry_isSome, Bool.or_assoc]
  · simp only [Setting.get_merge, Option.or_assoc]

theorem merge_empty_right (o : WorkflowOptions) : o.merge empty = o := by
  refine eq_of_settings ?_ fun s => ?_
  · rw [merge_retry_isSome]
    exact Bool.or_false _
  · rw [Setting.get_merge, Setting.get_empty, Option.none_or]

/-- Of a layer that is applied again on top, the earlier application does not matter. -/
theorem merge_again (a b : WorkflowOptions) : (a.merge b).merge a = b.merge a := by
  refine eq_of_settings ?_ fun s => ?_
  · simp only [merge_retry_isSome]
    cases a.retry.isSome <;> simp
  · simp only [Setting.get_merge]
    -- The lower copy of the layer is asked only where the upper one says nothing.
    cases s.get a <;> simp

/-- Merging further layers over `base`, one after another, is one merge of all of them. -/
theorem foldl_merge (base : WorkflowOptions) (layers : List WorkflowOptions) :
    layers.foldl merge base = base.merge (mergeAllFromTop layers) := by
  induction layers generalizing base with
  | nil => exact (merge_empty_right base).symm
  | cons layer rest ih => exact (ih (base.merge layer)).trans (merge_assoc base layer _)

/-! ## Top theorem -/

/-- **Layers merge associatively, and on every setting the last layer that makes it wins.**  Any
number of layers merge to the same options from the lowest up as from the highest down.  Each
setting of these, also one for retries, is what the last layer says that makes it, and retry
options are there exactly when a layer has some.  So options without a setting change nothing, and
a layer that is applied again on top makes its earlier application irrelevant. -/
theorem merge_last_set_wins :
    (∀ a b c : WorkflowOptions, (a.merge b).merge c = a.merge (b.merge c)) ∧
      (∀ layers, mergeAll layers = mergeAllFromTop layers ∧
        (mergeAll layers).Overlays layers) ∧
      (∀ o : WorkflowOptions, empty.merge o = o ∧ o.merge empty = o) ∧
      ∀ a b : WorkflowOptions, (a.merge b).merge a = b.merge a := by
  refine ⟨merge_assoc, fun layers => ⟨?_, mergeAll_overlays layers⟩, fun o => ?_, merge_again⟩
  · exact (foldl_merge empty layers).trans (merge_empty_left _)
  · exact ⟨merge_empty_left o, merge_empty_right o⟩

/-- Two bit patterns of a NaN are two coefficients, and the later one is kept. -/
example :
    let backoff (bits : UInt64) : WorkflowOptions :=
      { empty with retry := some { RetryOptions.empty with backoffCoefficient := some ⟨bits⟩ } }
    (backoff 0x7ff8000000000000).merge (backoff 0x7ff8000000000001) =
      backoff 0x7ff8000000000001 := by
  rfl

end WorkflowOptions

end WorkflowDispatch
