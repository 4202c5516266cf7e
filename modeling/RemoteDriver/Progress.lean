import RemoteDriver.Connection

/-!
# Progress

Why loops over a remote side end.  A request either takes an answer from the script, which gets
shorter, or is answered with the value `null` at once.  So a part of a result set, a step of a
subscription and a fetch that takes too long each cost the script an answer.
-/

namespace RemoteDriver

/-- How many answers the remote side has left. -/
def World.remaining (w : World) : Nat := w.remote.script.length

namespace Action

/-- A request takes an answer from the script or brings the standard one. -/
theorem post_cases (sender : Sender) (request : Request) (limits : Limits) (w : World) :
    (post sender request limits w).2.remaining < w.remaining
      ∨ ∃ content, Answer.standard.content = some content
          ∧ (post sender request limits w).1 = .ok content := by
  unfold post
  rcases w.remote.answer_cases sender request.envelope.operation with h | h
  · left
    generalize w.remote.answer sender request.envelope.operation = a at h
    obtain ⟨a, r⟩ := a
    dsimp only at h ⊢
    split
    · exact h
    · split <;> exact h
  · right
    refine ⟨_, rfl, ?_⟩
    rw [h]
    exact congrArg Prod.fst (if_pos (Nat.le_max_left w.now limits.deadline))

end Action

namespace Connection

/-- The standard answer is a value or an error of the response. -/
theorem received_standard (codec : Codec) (operation : String) {content : Content}
    (h : Answer.standard.content = some content) :
    (∃ v, received codec operation content = .ok (.value v))
      ∨ ∃ reason, received codec operation content = .error (.protocol operation reason) := by
  simp only [Answer.standard, Option.some.injEq] at h
  subst h
  have body : Response.ofJson (.object [("kind", .string "value"), ("payload", .null)])
      = .ok (.value .null) := rfl
  simp only [received, Reply.decode, body, Reply.ofResponse]
  split
  · exact Or.inl ⟨_, rfl⟩
  · exact Or.inr ⟨_, rfl⟩

/-- A call costs the script an answer, or brings a value, or fails at once. -/
theorem dispatch_cases (c : Connection) (sender : Sender) (call : Call) (route : Route)
    (limits : Limits) (w : World) :
    (c.dispatch sender call route limits w).2.remaining < w.remaining
      ∨ (∃ v, (c.dispatch sender call route limits w).1 = .ok (.value v))
      ∨ ∃ e, (c.dispatch sender call route limits w).1 = .error (.failed e)
          ∧ e.kind ≠ .timeout := by
  unfold dispatch
  split
  · exact Or.inr (Or.inr ⟨_, rfl, by simp [closedError, Error.kind]⟩)
  · split
    · next e he =>
      refine Or.inr (Or.inr ⟨e, rfl, ?_⟩)
      simp only [Envelope.ofCall] at he
      split at he
      · simp only [Except.error.injEq] at he
        simp [← he, Envelope.refused, Error.kind]
      · split at he
        · simp only [Except.error.injEq] at he
          simp [← he, Envelope.refused, Error.kind]
        · simp at he
    · next envelope _ =>
      have cases := Action.post_cases sender (c.request envelope) limits w
      split
      · next h w' hp =>
        rw [hp] at cases
        rcases cases with h | ⟨content, _, h⟩
        · exact Or.inl h
        · simp at h
      · next content w' hp =>
        rw [hp] at cases
        rcases cases with h | ⟨standard, hs, h⟩
        · left
          split <;> exact h
        · right
          simp only [Except.ok.injEq] at h
          subst h
          rcases received_standard c.codec call.name hs with ⟨v, hv⟩ | ⟨reason, hr⟩
          · exact Or.inl ⟨v, by rw [hv]⟩
          · exact Or.inr ⟨_, by rw [hr], by simp [Error.kind]⟩

end Connection

end RemoteDriver
