import Mathlib.Order.Lattice
import Mathlib.Data.Int.Basic
import Mathlib.Tactic.Common

/-!
# Time zones

Instants are milliseconds since the epoch, and a local time is an instant shifted by the offset of
the zone. The way back follows the rule of ECMAScript: a local time that occurs more than once
denotes its first instant, and one that a change of the offset skips is read with the offset before
the change.
-/

/-- A zone may have any offset at any instant; `localOffset` is the one a local time is read with. -/
structure TimeZone where
  offset : ℤ → ℤ
  localOffset : ℤ → ℤ
  first_instant : ∀ t : ℤ,
    t + offset t - localOffset (t + offset t) ≤ t ∧
      t + offset t - localOffset (t + offset t) +
        offset (t + offset t - localOffset (t + offset t)) = t + offset t
  skipped : ∀ l : ℤ, (∀ t, t + offset t ≠ l) → ∃ t, t + offset t < l ∧
    (∀ x, t + offset t < x + offset x → l < x + offset x) ∧
      (∀ x, x + offset x = t + offset t → x ≤ t) ∧ localOffset l = offset t

namespace TimeZone

def dayLength : ℤ := 24 * 60 * 60 * 1000

variable (zone : TimeZone)

def toLocal (t : ℤ) : ℤ := t + zone.offset t

/-- The instant of a local time. -/
def toUtc (l : ℤ) : ℤ := l - zone.localOffset l

/-- `date.setDate(date.getDate() + 1)`. -/
def nextDay (t : ℤ) : ℤ := zone.toUtc (zone.toLocal t + dayLength)

/-- The same local time of the next day is read with the offset of the instant. -/
def KeepsOffset (t : ℤ) : Prop := zone.localOffset (zone.toLocal t + dayLength) = zone.offset t

instance (t : ℤ) : Decidable (zone.KeepsOffset t) := inferInstanceAs (Decidable (_ = _))

theorem nextDay_eq_iff (t : ℤ) : zone.nextDay t = t + dayLength ↔ zone.KeepsOffset t := by
  unfold nextDay toUtc KeepsOffset toLocal
  constructor <;> intro h <;> omega

def transition (change before after : ℤ) : TimeZone where
  offset t := if t < change then before else after
  localOffset l := if l < change + max before after then before else after
  first_instant t := by
    split_ifs <;> omega
  skipped l hl := by
    have hbefore := hl (l - before)
    have hafter := hl (l - after)
    refine ⟨change - 1, ?_⟩
    split_ifs at * <;> refine ⟨by omega, fun x hx => ?_, fun x hx => ?_, by omega⟩ <;>
      split_ifs at hx ⊢ <;> omega

end TimeZone
