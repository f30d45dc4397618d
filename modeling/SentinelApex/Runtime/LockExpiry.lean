import SentinelApex.Runtime.Vault

/-!
# The order of the lock expiries

A redemption draws on the lots in the order of their lock expiries. The order of deposit is the
same as long as the month of each expiry has the day of the deposit; a day that it does not have
runs over into the month after it, past the expiry of a later deposit.
-/

namespace SentinelApex

open Calendar

namespace VaultStore

/-- Two lots, the first deposited no later than the second, are locked and drawn on in the order of
deposit, and each is locked until the month that lies the lock period after its own. -/
structure LocksInOrder (months : ℤ) (lot₁ lot₂ : VaultDepositLot) : Prop where
  expiry : lot₁.lockExpiresAt ≤ lot₂.lockExpiresAt
  month₁ : monthOf lot₁.lockExpiresAt = monthOf lot₁.depositedAt + months
  month₂ : monthOf lot₂.lockExpiresAt = monthOf lot₂.depositedAt + months
  drawn₁ : lotBefore lot₁ lot₂ = true
  drawn₂ : lotBefore lot₂ lot₁ = true ↔ lot₂.depositedAt ≤ lot₁.depositedAt

theorem lockExpiresAt_of_recorded {config : VaultConfig} {store after : VaultStore}
    {input : RecordVaultDepositInput} {now : Date} {lot : VaultDepositLot}
    (h : store.recordVaultDeposit config input now = (.ok lot, after)) :
    lot.lockExpiresAt = addMonths lot.depositedAt config.lockPeriodMonths := by
  rcases store.recordVaultDeposit_cases config input now with
    ⟨message, hm⟩ | ⟨amount, t, lot', after', hok, -, hd⟩
  · simp [hm] at h
  · obtain ⟨rfl, rfl⟩ : lot' = lot ∧ after' = after := by simpa [hok] using h
    rw [hd.lockExpiresAt, hd.depositedAt]

section Deposits

variable {config : VaultConfig} {store₁ store₂ after₁ after₂ : VaultStore}
  {input₁ input₂ : RecordVaultDepositInput} {now₁ now₂ : Date} {lot₁ lot₂ : VaultDepositLot}

theorem locksInOrder_iff
    (h₁ : store₁.recordVaultDeposit config input₁ now₁ = (.ok lot₁, after₁))
    (h₂ : store₂.recordVaultDeposit config input₂ now₂ = (.ok lot₂, after₂))
    (h : lot₁.depositedAt ≤ lot₂.depositedAt) :
    LocksInOrder config.lockPeriodMonths lot₁ lot₂ ↔
      HasDay lot₁.depositedAt config.lockPeriodMonths ∧
        HasDay lot₂.depositedAt config.lockPeriodMonths := by
  have hlock₁ := lockExpiresAt_of_recorded h₁
  have hlock₂ := lockExpiresAt_of_recorded h₂
  rw [← monthOf_addMonths_iff, ← monthOf_addMonths_iff, ← hlock₁, ← hlock₂]
  constructor
  · intro horder
    exact ⟨horder.month₁, horder.month₂⟩
  · rintro ⟨hmonth₁, hmonth₂⟩
    have hexpiry : lot₁.lockExpiresAt ≤ lot₂.lockExpiresAt := by
      rw [hlock₁, hlock₂]
      exact addMonths_le h ((monthOf_addMonths_iff _ _).1 (hlock₁ ▸ hmonth₁))
    refine ⟨hexpiry, hmonth₁, hmonth₂, ?_, ?_⟩
    · simp only [lotBefore, decide_eq_true_eq]
      exact hexpiry.lt_or_eq.imp_right fun heq => ⟨heq, h⟩
    · simp only [lotBefore, decide_eq_true_eq]
      constructor
      · rintro (hlt | ⟨-, hle⟩)
        · exact absurd hlt (not_lt.2 hexpiry)
        · exact hle
      · intro hle
        have hsame : lot₂.lockExpiresAt = lot₁.lockExpiresAt := by
          rw [hlock₁, hlock₂, le_antisymm hle h]
        exact Or.inr ⟨hsame, hle⟩

end Deposits

def depositDated (depositedAt : Date) : RecordVaultDepositInput where
  investorId := "investor"
  displayName := "Investor"
  walletAddress := "wallet"
  amountUsdc := .finite 10
  depositedAt := some (some depositedAt)

theorem recordVaultDeposit_depositDated (depositedAt : Date) :
    ∃ lot after, (newVault [] none 0).recordVaultDeposit sampleVaultConfig
        (depositDated depositedAt) 0 = (.ok lot, after) ∧ lot.depositedAt = depositedAt := by
  rcases (newVault [] none 0).recordVaultDeposit_cases sampleVaultConfig
      (depositDated depositedAt) 0 with ⟨message, hm⟩ | ⟨amount, t, lot, after, hok, hacc, hd⟩
  · have hpos : ¬ (10 : Decimal) ≤ 0 := by norm_num
    simp [recordVaultDeposit, readTimestamp, AmountText.positive, depositDated, hpos] at hm
  · have ht : t = depositedAt := by simpa [depositDated] using hacc.depositedAt.symm
    exact ⟨lot, after, hok, by rw [hd.depositedAt, ht]⟩

/-- The first of a month and the first of the next. -/
theorem locksInOrder_first_of_month :
    ∃ lot₁ lot₂, lot₁.depositedAt = daysFromCivil 2025 11 1 * msPerDay ∧
      lot₂.depositedAt = daysFromCivil 2025 12 1 * msPerDay ∧
      LocksInOrder sampleVaultConfig.lockPeriodMonths lot₁ lot₂ := by
  obtain ⟨lot₁, after₁, hok₁, h₁⟩ :=
    recordVaultDeposit_depositDated (daysFromCivil 2025 11 1 * msPerDay)
  obtain ⟨lot₂, after₂, hok₂, h₂⟩ :=
    recordVaultDeposit_depositDated (daysFromCivil 2025 12 1 * msPerDay)
  refine ⟨lot₁, lot₂, h₁, h₂, (locksInOrder_iff hok₁ hok₂ ?_).2 ?_⟩
  · rw [h₁, h₂]
    decide
  · rw [h₁, h₂]
    decide

/-- Of deposits at noon of 30 November and at the start of 1 December, the earlier one is locked
for longer, and the later one is drawn on first. -/
theorem earlier_deposit_locked_longer :
    ∃ lot₁ lot₂ after₁ after₂,
      (newVault [] none 0).recordVaultDeposit sampleVaultConfig
        (depositDated (daysFromCivil 2025 11 30 * msPerDay + 43200000)) 0 = (.ok lot₁, after₁) ∧
      (newVault [] none 0).recordVaultDeposit sampleVaultConfig
        (depositDated (daysFromCivil 2025 12 1 * msPerDay)) 0 = (.ok lot₂, after₂) ∧
      lot₁.depositedAt < lot₂.depositedAt ∧
      lot₂.lockExpiresAt = daysFromCivil 2026 3 1 * msPerDay ∧
      lot₁.lockExpiresAt = daysFromCivil 2026 3 2 * msPerDay + 43200000 ∧
      lotBefore lot₁ lot₂ = false ∧
      ¬ LocksInOrder sampleVaultConfig.lockPeriodMonths lot₁ lot₂ := by
  obtain ⟨lot₁, after₁, hok₁, h₁⟩ :=
    recordVaultDeposit_depositDated (daysFromCivil 2025 11 30 * msPerDay + 43200000)
  obtain ⟨lot₂, after₂, hok₂, h₂⟩ :=
    recordVaultDeposit_depositDated (daysFromCivil 2025 12 1 * msPerDay)
  have hlock₁ : lot₁.lockExpiresAt = daysFromCivil 2026 3 2 * msPerDay + 43200000 := by
    rw [lockExpiresAt_of_recorded hok₁, h₁]
    decide
  have hlock₂ : lot₂.lockExpiresAt = daysFromCivil 2026 3 1 * msPerDay := by
    rw [lockExpiresAt_of_recorded hok₂, h₂]
    decide
  refine ⟨lot₁, lot₂, after₁, after₂, hok₁, hok₂, ?_, hlock₂, hlock₁, ?_, fun h => ?_⟩
  · rw [h₁, h₂]
    decide
  · rw [lotBefore, hlock₁, hlock₂, h₁, h₂]
    decide
  · have hle := h.expiry
    rw [hlock₁, hlock₂] at hle
    exact absurd hle (by decide)

end VaultStore

end SentinelApex
