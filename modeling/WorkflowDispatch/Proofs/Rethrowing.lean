import WorkflowDispatch.Error.Outcome

/-!
# Errors that are thrown again

An error that is thrown and captured keeps its code, and its message gets the title of the code in
front and the text of the code behind.  A catcher sees a text up to its first NUL character only,
and an empty message is not written at all, so the first round can go differently; after it the
message is neither empty nor holds a NUL, and every further round does the same.

    m ≠ "" → Plain m → rounds n (.error ⟨code, m⟩) =
      .ok (.error ⟨code, copies n (code.title ++ ": ") ++ m ++ copies n (": " ++ code.message)⟩)
                                                                           (rounds_of_plain)
-/

namespace WorkflowDispatch

/-! ## Definitions -/

/-- The text has no NUL character. -/
def Plain (s : String) : Prop := '\x00' ∉ s.toList

instance (s : String) : Decidable (Plain s) := inferInstanceAs (Decidable (_ ∉ _))

/-- The text `n` times, one after another. -/
def copies : Nat → String → String
  | 0, _ => ""
  | n + 1, s => s ++ copies n s

namespace ErrorCode

/-- The text of a code, with the name of the kind if the code is one of the library's. -/
def title (c : ErrorCode) : String :=
  match c.domain with
  | .workflow => c.message ++ " [" ++ Numbered.nameOf ErrorKind c.value ++ "]"
  | .system | .foreign _ => c.message

/-- What stands behind the titles after `n + 1` rounds that begin with the message `m`. -/
def remainder (c : ErrorCode) (m : String) (n : Nat) : String :=
  if m = "" then c.message ++ copies n (": " ++ c.message)
  else if Plain m then m ++ copies (n + 1) (": " ++ c.message)
  else untilNul m ++ copies n (": " ++ c.message)

end ErrorCode

/-! ## Texts up to the first NUL -/

theorem plain_append {s t : String} : Plain (s ++ t) ↔ Plain s ∧ Plain t := by
  simp [Plain, not_or]

theorem plain_untilNul (s : String) : Plain (untilNul s) := by
  intro mem
  rw [untilNul, String.toList_ofList] at mem
  simpa using List.all_eq_true.1 List.all_takeWhile _ mem

theorem untilNul_append {s : String} (plain : Plain s) (t : String) :
    untilNul (s ++ t) = s ++ untilNul t := by
  have all : ∀ c ∈ s.toList, (c != '\x00') = true := by
    intro c mem
    rw [bne_iff_ne]
    rintro rfl
    exact plain mem
  unfold untilNul
  rw [String.toList_append, List.takeWhile_append_of_pos all, String.ofList_append,
    String.ofList_toList]

theorem untilNul_of_plain {s : String} (plain : Plain s) : untilNul s = s := by
  have whole := untilNul_append plain ""
  rwa [String.append_empty, show untilNul "" = "" from rfl, String.append_empty] at whole

/-- What is added behind a NUL is not seen. -/
theorem untilNul_append_of_not_plain {s : String} (cut : ¬Plain s) (t : String) :
    untilNul (s ++ t) = untilNul s := by
  have short : (s.toList.takeWhile (· != '\x00')).length ≠ s.toList.length := by
    intro whole
    have same := (List.takeWhile_prefix (· != '\x00')).eq_of_length whole
    refine cut fun mem => ?_
    rw [← same] at mem
    simpa using List.all_eq_true.1 List.all_takeWhile _ mem
  unfold untilNul
  rw [String.toList_append, List.takeWhile_append, if_neg short]

theorem copies_append (n : Nat) (s t : String) :
    copies n s ++ (s ++ t) = copies (n + 1) s ++ t := by
  induction n with
  | zero => simp [copies]
  | succ n ih =>
    show s ++ copies n s ++ (s ++ t) = s ++ copies (n + 1) s ++ t
    rw [String.append_assoc, ih, String.append_assoc]

/-! ## Texts of codes -/

/-- For a literal, which is its characters without any decoding. -/
theorem plain_ofList {cs : List Char} (whole : '\x00' ∉ cs) : Plain (String.ofList cs) := by
  rwa [Plain, String.toList_ofList]

theorem plain_toString (n : Int) : Plain (toString n) := by
  have digits (n : Nat) : Plain n.repr := by
    intro mem
    rw [Nat.repr, String.toList_ofList] at mem
    exact absurd (Nat.isDigit_of_mem_toDigits (by decide) (by decide) mem) (by decide)
  cases n with
  | ofNat n => exact digits n
  | negSucc n => exact plain_append.2 ⟨by decide, digits n.succ⟩

theorem plain_kindMessage (kind : ErrorKind) : Plain kind.message := by
  cases kind <;> exact plain_ofList (by decide)

theorem plain_nameOf (n : Int) : Plain (Numbered.nameOf ErrorKind n) := by
  unfold Numbered.nameOf
  cases (Numbered.ofNumber? n : Option ErrorKind) with
  | none => decide
  | some kind => cases kind <;> exact plain_ofList (by decide)

theorem plain_of_mem_systemMessages : ∀ entry ∈ systemMessages, Plain entry.2 := by
  unfold systemMessages
  repeat refine List.forall_mem_cons.2 ⟨plain_ofList (by decide +kernel), ?_⟩
  exact List.forall_mem_nil _

theorem plain_systemMessage (n : Int) : Plain (systemMessage n) := by
  unfold systemMessage
  cases found : systemMessages.lookup n with
  | none => exact plain_append.2 ⟨by decide, plain_toString n⟩
  | some text =>
    obtain ⟨before, after, split, -⟩ := List.lookup_eq_some_iff.1 found
    exact plain_of_mem_systemMessages (n, text)
      (split ▸ List.mem_append_right before List.mem_cons_self)

namespace ErrorCode

/-- Only another library can have a NUL in its texts. -/
theorem plain_message {c : ErrorCode} (own : ∀ domain, c.domain ≠ .foreign domain) :
    Plain c.message := by
  obtain ⟨domain, n⟩ := c
  cases domain with
  | workflow =>
    unfold message
    cases (Numbered.ofNumber? n : Option ErrorKind) with
    | none => exact plain_append.2 ⟨by decide, plain_toString n⟩
    | some kind => exact plain_kindMessage kind
  | system => exact plain_systemMessage n
  | foreign domain => exact absurd rfl (own domain)

/-- A title begins with the text of the code. -/
theorem title_eq (c : ErrorCode) : ∃ named, Plain named ∧ c.title = c.message ++ named := by
  obtain ⟨domain, n⟩ := c
  cases domain with
  | workflow =>
    refine ⟨" [" ++ Numbered.nameOf ErrorKind n ++ "]", ?_, ?_⟩
    · exact plain_append.2 ⟨plain_append.2 ⟨by decide, plain_nameOf n⟩, by decide⟩
    · simp only [title, String.append_assoc]
  | system | foreign => exact ⟨"", by decide, String.append_empty.symm⟩

theorem plain_front {c : ErrorCode} (plain : Plain c.message) : Plain (c.title ++ ": ") := by
  obtain ⟨named, plainName, title⟩ := c.title_eq
  rw [title]
  exact plain_append.2 ⟨plain_append.2 ⟨plain, plainName⟩, by decide⟩

theorem plain_back {c : ErrorCode} (plain : Plain c.message) : Plain (": " ++ c.message) :=
  plain_append.2 ⟨by decide, plain⟩

/-- No NUL is left after the first round. -/
theorem plain_remainder {c : ErrorCode} (plain : Plain c.message) (m : String) :
    Plain (c.remainder m 0) := by
  unfold remainder
  simp only [copies, String.append_empty]
  split
  · exact plain
  · split
    · next whole => exact plain_append.2 ⟨whole, plain_back plain⟩
    · exact plain_untilNul m

/-- A further round adds the text of the code once more. -/
theorem remainder_eq (c : ErrorCode) (m : String) (n : Nat) :
    c.remainder m n = c.remainder m 0 ++ copies n (": " ++ c.message) := by
  unfold remainder
  split
  · simp [copies]
  · split <;> simp [copies, String.append_assoc]

end ErrorCode

theorem WorkflowError.describe_eq (e : WorkflowError) :
    e.describe = e.code.title ++ if e.message = "" then "" else ": " ++ e.message := by
  obtain ⟨⟨domain, n⟩, m⟩ := e
  unfold describe
  simp only [String.isEmpty_iff]
  split
  · cases domain <;> exact String.append_empty.symm
  · cases domain <;> exact String.append_assoc

/-! ## Rounds -/

namespace Outcome

variable {α : Type} {code : ErrorCode}

theorem rounds_succ {o o' : Outcome α} (round : capture (unwrap o) = .ok o') (n : Nat) :
    rounds (n + 1) o = rounds n o' := by
  show capture (unwrap o) >>= rounds n = _
  rw [round]
  rfl

/-- What is seen of an error that is thrown: its message stands between the title of the code and
the text of the code, if there is a message. -/
theorem round_eq (code : ErrorCode) (m : String) :
    capture (unwrap (.error ⟨code, m⟩ : Outcome α)) = .ok (.error ⟨code, untilNul
      (code.title ++ ": " ++ if m = "" then code.message else m ++ (": " ++ code.message))⟩) := by
  rw [capture_unwrap_error, WorkflowError.describe_eq]
  congr 4
  split <;> simp only [String.append_assoc, String.append_empty]

theorem round_of_plain (plain : Plain code.message) (m : String) :
    capture (unwrap (.error ⟨code, m⟩ : Outcome α)) =
      .ok (.error ⟨code, code.title ++ ": " ++ code.remainder m 0⟩) := by
  rw [round_eq, untilNul_append (ErrorCode.plain_front plain)]
  congr 4
  unfold ErrorCode.remainder
  simp only [copies, String.append_empty]
  split
  · exact untilNul_of_plain plain
  · split
    · next whole => rw [untilNul_append whole, untilNul_of_plain (ErrorCode.plain_back plain)]
    · next cut => exact untilNul_append_of_not_plain cut _

/-- Rounds that begin with a message that is neither empty nor holds a NUL. -/
theorem rounds_of_plain (plain : Plain code.message) {m : String} (written : m ≠ "")
    (whole : Plain m) (n : Nat) :
    rounds n (.error ⟨code, m⟩ : Outcome α) = .ok (.error ⟨code,
      copies n (code.title ++ ": ") ++ m ++ copies n (": " ++ code.message)⟩) := by
  induction n generalizing m with
  | zero => simp [rounds, copies]
  | succ n ih =>
    have next : code.remainder m 0 = m ++ (": " ++ code.message) := by
      simp [ErrorCode.remainder, written, whole, copies]
    have written' : code.title ++ ": " ++ (m ++ (": " ++ code.message)) ≠ "" := by
      intro empty
      simpa using congrArg String.toList empty
    have whole' := plain_append.2 ⟨ErrorCode.plain_front plain,
      plain_append.2 ⟨whole, ErrorCode.plain_back plain⟩⟩
    have round := round_of_plain (α := α) plain m
    rw [next] at round
    rw [rounds_succ round, ih written' whole', copies_append]
    simp only [copies, String.append_assoc]

/-- Any number of rounds, the first of which can go differently. -/
theorem rounds_of_error (plain : Plain code.message) (m : String) (n : Nat) :
    rounds (n + 1) (.error ⟨code, m⟩ : Outcome α) = .ok (.error ⟨code,
      copies (n + 1) (code.title ++ ": ") ++ code.remainder m n⟩) := by
  have written : code.title ++ ": " ++ code.remainder m 0 ≠ "" := by
    intro empty
    simpa using congrArg String.toList empty
  have whole := plain_append.2 ⟨ErrorCode.plain_front plain, ErrorCode.plain_remainder plain m⟩
  rw [rounds_succ (round_of_plain plain m), rounds_of_plain plain written whole, copies_append,
    code.remainder_eq m n, String.append_assoc]

/-- Where the text of the code itself holds a NUL, nothing behind that is ever seen. -/
theorem rounds_of_not_plain (cut : ¬Plain code.message) (m : String) (n : Nat) :
    rounds (n + 1) (.error ⟨code, m⟩ : Outcome α) =
      .ok (.error ⟨code, untilNul code.message⟩) := by
  have round (m : String) : capture (unwrap (.error ⟨code, m⟩ : Outcome α)) =
      .ok (.error ⟨code, untilNul code.message⟩) := by
    obtain ⟨named, -, title⟩ := code.title_eq
    rw [round_eq, title]
    simp only [String.append_assoc]
    rw [untilNul_append_of_not_plain cut]
  induction n generalizing m with
  | zero => rw [rounds_succ (round m), rounds]
  | succ n ih => rw [rounds_succ (round m), ih]

theorem rounds_of_ok (v : α) (n : Nat) : rounds n (.ok v : Outcome α) = .ok (.ok v) := by
  induction n with
  | zero => rfl
  | succ n ih => rw [rounds_succ (capture_unwrap_ok v), ih]

/-! ## Top theorem -/

/-- **An error that is captured and rethrown keeps its code, and its message grows in one way.**
After each number of rounds the titles of the code stand in front, as many as rounds, and behind
them the message with the text of the code after it for each round; an empty message and one that
holds a NUL lose one of these.  The texts of the library's own codes and of the system have no NUL;
in front of a code whose text has one the message is never seen.  A value is not changed.  What is
captured first keeps its code if it has one and is unknown otherwise, with the text that is seen of
it, and what shows no text is thrown on. -/
theorem rounds_grow_message :
    (∀ (code : ErrorCode) (m : String) (n : Nat), Plain code.message →
        rounds (n + 1) (.error ⟨code, m⟩ : Outcome α) = .ok (.error ⟨code,
          copies (n + 1) (code.title ++ ": ") ++ code.remainder m n⟩)) ∧
      (∀ code : ErrorCode, (∀ domain, code.domain ≠ .foreign domain) → Plain code.message) ∧
      (∀ (code : ErrorCode) (m : String) (n : Nat), ¬Plain code.message →
        rounds (n + 1) (.error ⟨code, m⟩ : Outcome α) =
          .ok (.error ⟨code, untilNul code.message⟩)) ∧
      (∀ (v : α) (n : Nat), rounds n (.ok v : Outcome α) = .ok (.ok v)) ∧
      ∀ f : Failure,
        (∀ code text, f.code? = some code → f.visible? = some text →
          capture (.error f : Except Failure α) = .ok (.error ⟨code, text⟩)) ∧
        (∀ text, f.code? = none → f.visible? = some text →
          capture (.error f : Except Failure α) = .ok (.error (.ofKind .unknown text))) ∧
        (f.visible? = none → capture (.error f : Except Failure α) = .error f) := by
  refine ⟨fun code m n plain => rounds_of_error plain m n, fun code => ErrorCode.plain_message,
    fun code m n cut => rounds_of_not_plain cut m n, rounds_of_ok, fun f => ⟨?_, ?_, ?_⟩⟩
  · rintro code text coded seen
    cases f with
    | coded =>
      obtain rfl := Option.some.inj coded
      obtain rfl := Option.some.inj seen
      rfl
    | runtime | logic | number => cases coded
  · rintro text plainly seen
    cases f with
    | coded => cases plainly
    | runtime | logic =>
      obtain rfl := Option.some.inj seen
      rfl
    | number => cases seen
  · intro unseen
    cases f with
    | coded | runtime | logic => cases unseen
    | number => rfl

/-- Another library's failure loses the rest of its message in the first of two rounds, and one of
the library's own has nothing to lose; where the text of the code is cut itself, the message goes
too.  A failure with a text and no code is unknown at first. -/
theorem full_queue_is_rethrown :
    let queue : ErrorDomain := .foreign ⟨"queue", [(7, "queue is full")], "queue\x00error"⟩
    let started : ErrorCode := .ofKind .duplicateWorkflow
    Plain (ErrorCode.message ⟨queue, 7⟩) ∧
      rounds 2 (.error ⟨⟨queue, 7⟩, "no room\x00left"⟩ : Outcome Unit) = .ok (.error ⟨⟨queue, 7⟩,
        "queue is full: queue is full: no room: queue is full"⟩) ∧
      Plain started.message ∧
      rounds 2 (.error ⟨started, ""⟩ : Outcome Unit) = .ok (.error ⟨started,
        "workflow already started [DuplicateWorkflow]: " ++
        "workflow already started [DuplicateWorkflow]: " ++
        "workflow already started: workflow already started"⟩) ∧
      ¬Plain (ErrorCode.message ⟨queue, 8⟩) ∧
      rounds 1 (.error ⟨⟨queue, 8⟩, "no room"⟩ : Outcome Unit) =
        .ok (.error ⟨⟨queue, 8⟩, "queue"⟩) ∧
      capture (.error (.runtime "no\x00room") : Except Failure Unit) =
        .ok (.error (.ofKind .unknown "no")) := by
  intro queue started
  obtain ⟨grows, own, cut, -, captures⟩ := rounds_grow_message (α := Unit)
  have full : Plain (ErrorCode.message ⟨queue, 7⟩) := by decide
  have known : Plain started.message := own started nofun
  have broken : ¬Plain (ErrorCode.message ⟨queue, 8⟩) := by decide
  have reworded {code : ErrorCode} {text text' : String} (same : text = text') :
      (.ok (.error ⟨code, text⟩) : Except Failure (Outcome Unit)) = .ok (.error ⟨code, text'⟩) := by
    rw [same]
  refine ⟨full, ?_, known, ?_, broken, ?_, (captures _).2.1 "no" rfl rfl⟩
  · exact (grows _ "no room\x00left" 1 full).trans (reworded (by decide))
  · exact (grows _ "" 1 known).trans (reworded (by decide))
  · exact (cut _ "no room" 0 broken).trans (reworded (by decide))

end Outcome

end WorkflowDispatch
