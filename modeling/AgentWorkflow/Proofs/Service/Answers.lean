import AgentWorkflow.Proofs.Fallible
import AgentWorkflow.Proofs.Json.Compact
import AgentWorkflow.Service.Server

/-!
# Answers

What an answer tells of the way a request has taken. A request is answered with 200 only if it was
accepted, was within the limit and was handled to the end. A refusal is sent if what it says has a
standard form that UTF-8 can write.

Results:
1. `exists_of_granted`: where an answer with 200 comes from.
2. `refuse_eq_ok`: which refusals are sent.
3. `endpoint_of_accept`, `settings_of_accept`: what accepting a request tells of it.
-/

namespace AgentWorkflow

namespace Text

theorem surrogates?_eq_none {t : Text} (h : t.isEncodable) : t.surrogates? = none := by
  have clear : t.takeWhile (!·.isSurrogate) = t :=
    List.takeWhile_eq_self_iff.mpr fun c hc => by simp [isEncodable_iff.mp h c hc]
  simp only [surrogates?, clear, List.drop_length]

end Text

/-! ## Refusals -/

theorem Refusal.status_ne_granted (reason : Refusal) : reason.status ≠ 200 := by
  cases reason <;> simp [status]

namespace Reply

/-- A refusal is sent if its body is finite and encodable. -/
theorem refuse_eq_ok {reason : Refusal} (finite : reason.body.isFinite)
    (encodable : reason.body.Encodable) :
    refuse reason = .ok ⟨reason.status, reason.body⟩ := by
  simp only [refuse, finite, if_true, Text.surrogates?_eq_none encodable.compact]

theorem status_of_refuse {reason : Refusal} {reply : Reply} (h : refuse reason = .ok reply) :
    reply.status = reason.status := by
  simp only [refuse] at h
  split at h
  · split at h
    · cases h
    · cases h
      rfl
  · cases h

end Reply

namespace Handling

variable {α β : Type}

theorem status_of_error {stop : Stop} {reply : Reply}
    (h : Handling.answer (.error stop) = .ok reply) : reply.status ≠ 200 := by
  cases stop with
  | failed failure => cases h
  | refused reason =>
    rw [Reply.status_of_refuse h]
    exact reason.status_ne_granted

end Handling

/-! ## Accepting -/

namespace Service

variable {depth : Nat} {environment : Table Text} {r : Request} {call : Call}

theorem ofReading_eq_ok {α : Type} {reading : Reading α} {x : α} :
    ofReading reading = .ok x ↔ reading = .ok x := by
  cases reading with
  | ok y => exact ⟨fun h => congrArg _ (Except.ok.inj h), fun h => congrArg _ (Except.ok.inj h)⟩
  | error e => cases e <;> simp [ofReading, refuse, fail]

theorem settings_of_authorize {settings : Settings} (h : authorize environment r = .ok settings) :
    Settings.ofEnvironment environment = .ok settings := by
  unfold authorize at h
  split at h
  · cases h
  · case h_2 given read =>
    split at h
    · cases h
      exact read
    · cases h

theorem acceptAt_of_accept (h : accept depth environment r = .ok call) :
    ∃ endpoint, r.endpoint? = some endpoint ∧
      acceptAt depth environment r endpoint = .ok call := by
  unfold accept at h
  split at h
  · cases h
  · case h_2 endpoint found =>
    split at h
    · exact ⟨endpoint, found, h⟩
    · cases h

/-- An accepted request calls the endpoint that it is sent to. -/
theorem endpoint_of_accept (h : accept depth environment r = .ok call) :
    r.endpoint? = some call.endpoint := by
  obtain ⟨endpoint, found, h⟩ := acceptAt_of_accept h
  suffices same : call.endpoint = endpoint from same ▸ found
  cases endpoint <;> simp only [acceptAt, Except.bind_eq_ok] at h
  case health =>
    obtain ⟨settings, -, ⟨⟩⟩ := h
    rfl
  all_goals
    obtain ⟨content, -, settings, -, form, -, ⟨⟩⟩ := h
    rfl

/-- Whether errors block by default is what the settings say at the time of the request. -/
theorem settings_of_accept {form : GenerateForm} {strict : Bool}
    (h : accept depth environment r = .ok (.generate form strict)) :
    ∃ settings, Settings.ofEnvironment environment = .ok settings ∧ settings.strict = strict := by
  have found := endpoint_of_accept h
  obtain ⟨endpoint, found', h⟩ := acceptAt_of_accept h
  obtain rfl : endpoint = .generate := Option.some.inj (found'.symm.trans found)
  simp only [acceptAt, Except.bind_eq_ok] at h
  obtain ⟨content, -, settings, authorized, checked, -, ⟨⟩⟩ := h
  exact ⟨settings, settings_of_authorize authorized, rfl⟩

end Service

/-! ## Answering -/

namespace Server

variable {s : Server} {environment : Table Text} {r : Request}

theorem answer_of_accept {call : Call} (accepted : Service.accept s.depth environment r = .ok call)
    (within : s.exceeded? r.path call = none) :
    (s.answer environment r).2 = Handling.answer (Service.handle call) := by
  simp only [answer, accepted, within]

/-- A request that is answered with 200 was accepted, was within the limit and was handled to the
end, and the answer is what came of it. -/
theorem exists_of_granted {reply : Reply} (h : (s.answer environment r).2 = .ok reply)
    (granted : reply.status = 200) :
    ∃ call body, Service.accept s.depth environment r = .ok call ∧
      s.exceeded? r.path call = none ∧
      Service.handle call = .ok body ∧ reply.body = body.withoutNonFinite := by
  unfold answer at h
  split at h
  · exact absurd granted (Handling.status_of_error h)
  · case h_2 call accepted =>
    split at h
    · case h_1 limit _ =>
      dsimp only [Service.refuse] at h
      exact absurd granted (Handling.status_of_error h)
    · case h_2 within =>
      cases handled : Service.handle call with
      | error stop =>
        rw [handled] at h
        exact absurd granted (Handling.status_of_error h)
      | ok body =>
        rw [handled] at h
        cases h
        exact ⟨call, body, accepted, within, handled, rfl⟩

end Server

end AgentWorkflow
