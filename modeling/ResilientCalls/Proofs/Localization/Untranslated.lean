import ResilientCalls.Proofs.Service.Course
import ResilientCalls.Proofs.Service.Spending

namespace ResilientCalls

open Effect World

variable {τ σ α : Type}

/-- The failures after which there is no use in another attempt: a refused admission, an answer that
cannot be read, and a status that blames the request. -/
inductive Failure.Hopeless : Failure → Prop where
  | refused (key : Json) (state : String) (retryAfterMs : Option Int) :
      Hopeless (.circuitOpen key state retryAfterMs)
  | unreadable (raw : CodePoints) (reasons : List (String × String)) :
      Hopeless (.unreadable raw reasons)
  | badStatus (name : String) (status : Int) (reason : String) :
      400 ≤ status → status < 500 → status ≠ 429 → Hopeless (.badStatus name status reason)

theorem Failure.Hopeless.claimsRetriable {f : Failure} (h : f.Hopeless) :
    f.claimsRetriable = false := by
  cases h with
  | refused key state retryAfterMs => rfl
  | unreadable raw reasons => rfl
  | badStatus name status reason hlow hhigh hne =>
    have hstatus : retriableStatus status = false := by
      have : ¬ 500 ≤ status := by omega
      simp [retriableStatus, hne, this]
    simp [Failure.claimsRetriable, retriableMark, hstatus, Json.holds]

namespace Service

end Service

namespace Localization

section

variable [Clock τ] {s : Service} {p : Provider τ σ} {wait : Binary64 → Run τ σ Unit} {b : Batch}

end

namespace Lost

open Service.Unanswered (batch wait)

def config : Breaker.Config :=
  { Service.Unanswered.config with threshold := .whole 4, threshold_inRange := by decide }

def session : Breaker.Session Number Unit := .start (.start 0 ()) config

def service : Service :=
  ⟨.translating, session.id, .translating, ⟨[], false⟩, some ⟨0, .log⟩⟩

def failure : Failure := .badStatus "model" 404 "Not Found"

def provider : Provider Number Unit := ⟨"model", fun _ _ _ => fail failure, fun _ => fail failure⟩

end Lost

end Localization

end ResilientCalls
