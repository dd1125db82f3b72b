import Handoff.Upload.Exchange

/-!
What the result of an upload tells of the request and its answer.
-/

namespace Handoff.Upload

/-- Whether an answer says that the upload was taken. -/
def Answer.accepts : Answer → Bool
  | .response status _ => status.isSuccess
  | .hangUp => false

theorem Status.isFinal_of_isSuccess {status : Status} (h : status.isSuccess = true) :
    status.isFinal = true := by
  simp only [isSuccess, Bool.and_eq_true, decide_eq_true_eq] at h
  simp only [isFinal, Bool.or_eq_true, Bool.and_eq_true, decide_eq_true_eq]
  exact Or.inr ⟨h.1, by omega⟩

/-- Only an answer that accepts makes an upload a success. -/
theorem judge_ok_iff (url : Url) (answer : Answer) :
    judge url answer = .ok () ↔ answer.accepts = true := by
  cases answer with
  | hangUp => exact ⟨nofun, nofun⟩
  | response status body =>
    rw [Answer.accepts, judge]
    cases hsuccess : status.isSuccess with
    | true => simp [Status.isFinal_of_isSuccess hsuccess]
    | false =>
      cases hfinal : status.isFinal <;> simp

/-- A request was received exactly if there is an answer to judge. -/
theorem exchange_cases (network : Network) (s : TransmitSection) (method : UploadMethod)
    (call : Gather.Call) :
    (∃ e, exchange network s method call = ⟨.error e, none⟩) ∨
    ∃ answer body, network call.url = some answer ∧ call.body = .ok body ∧
      exchange network s method call = ⟨judge call.url answer, some (request method call body)⟩ := by
  unfold exchange
  split
  · split
    · rename_i answer body hnetwork hbody
      split
      · exact Or.inl ⟨_, rfl⟩
      · exact Or.inr ⟨answer, body, hnetwork, hbody, rfl⟩
    · exact Or.inl ⟨_, rfl⟩
  · exact Or.inl ⟨_, rfl⟩

end Handoff.Upload
