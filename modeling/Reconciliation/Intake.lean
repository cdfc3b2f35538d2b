import Reconciliation.Record.Envelope
import Reconciliation.Store.Access

/-!
# Intake

A text that comes in becomes an untried record in the store, or an error and nothing else.
-/

namespace Reconciliation

/-- Why a text was not taken in. -/
inductive IntakeError where
  | envelope (error : EnvelopeError)
  | store (error : StoreError)
deriving DecidableEq

/-- The wording of an intake error. -/
def IntakeError.message : IntakeError → String
  | .envelope e => e.message
  | .store e => e.message

namespace Intake

variable {σ : Type} [RecordStore σ]

/-- Logs why a text was not taken in. -/
def refuse (e : IntakeError) : Run σ (Except IntakeError WorkRecord) := do
  Run.log (.notReceived e.message)
  pure (.error e)

/-- Takes a text in at an instant, as a record with a new identifier that lives for a span. -/
def receive (lifetime : Span) (id : RecordId) (raw : String) (now : Instant) :
    Run σ (Except IntakeError WorkRecord) :=
  match Envelope.parse raw with
  | .error e => refuse (.envelope e)
  | .ok envelope => do
    let record := envelope.record id now lifetime
    match ← Records.insert record with
    | .error e => refuse (.store e)
    | .ok () =>
      Run.log (.received record)
      pure (.ok record)

end Intake

end Reconciliation
