import SentinelApex.Domain.Json

/-!
# Actions of the sleeves

The vocabulary that carry and treasury actions share: their statuses, who has to approve them, and
what is known about the venues that they are executed on.
-/

namespace SentinelApex

inductive ActionStatus where
  | recommended
  | approved
  | queued
  | executing
  | completed
  | failed
  | cancelled
  deriving DecidableEq, Repr

def ActionStatus.text : ActionStatus → String
  | .recommended => "recommended"
  | .approved => "approved"
  | .queued => "queued"
  | .executing => "executing"
  | .completed => "completed"
  | .failed => "failed"
  | .cancelled => "cancelled"

inductive ActionExecutionMode where
  | dryRun
  | live
  deriving DecidableEq, Repr

def ActionExecutionMode.text : ActionExecutionMode → String
  | .dryRun => "dry-run"
  | .live => "live"

inductive VenueMode where
  | simulated
  | live
  deriving DecidableEq, Repr

inductive VenueOnboardingState where
  | simulated
  | readOnly
  | readyForReview
  | approvedForLive
  deriving DecidableEq, Repr

inductive ApprovalRequirement where
  | operator
  | admin
  deriving DecidableEq, Repr

inductive PromotionStatus where
  | notRequested
  | pendingReview
  | approved
  | rejected
  | suspended
  deriving DecidableEq, Repr

def PromotionStatus.text : PromotionStatus → String
  | .notRequested => "not_requested"
  | .pendingReview => "pending_review"
  | .approved => "approved"
  | .rejected => "rejected"
  | .suspended => "suspended"

end SentinelApex
