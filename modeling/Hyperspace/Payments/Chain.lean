import Mathlib.Logic.Function.Basic

/-!
# Transfers on chain

What can become of a signed transfer, and what a truthful node says of it.
-/

namespace Hyperspace.Payments

/-- What has become of a transfer on chain. -/
inductive Fate where
  | unsent
  | sent
  | failed
  | landed
  | finalized
  deriving DecidableEq, Repr

/-- What `getSignatureStatuses` says of a transfer. -/
inductive SignatureStatus where
  | notFound
  | err
  | notFinalized
  | finalized
  deriving DecidableEq, Repr

/-- A status answer is truthful; a node without history may not find a transfer. -/
def Fate.Agrees (fate : Fate) : SignatureStatus → Prop
  | .notFound => True
  | .err => fate = .failed
  | .notFinalized => fate = .landed ∨ fate = .finalized
  | .finalized => fate = .finalized

instance (fate : Fate) : (status : SignatureStatus) → Decidable (fate.Agrees status)
  | .notFound => inferInstanceAs (Decidable True)
  | .err => inferInstanceAs (Decidable (fate = .failed))
  | .notFinalized => inferInstanceAs (Decidable (fate = .landed ∨ fate = .finalized))
  | .finalized => inferInstanceAs (Decidable (fate = .finalized))

/-- A truthful answer of a node that searches the history. -/
def Fate.AgreesWithHistory (fate : Fate) (status : SignatureStatus) : Prop :=
  fate.Agrees status ∧ (status = .notFound → fate = .unsent ∨ fate = .sent)

instance (fate : Fate) (status : SignatureStatus) : Decidable (fate.AgreesWithHistory status) :=
  inferInstanceAs (Decidable (_ ∧ (_ → _ ∨ _)))

end Hyperspace.Payments
