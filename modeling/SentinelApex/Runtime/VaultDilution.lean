import SentinelApex.Domain.Places
import SentinelApex.Runtime.Vault

/-!
# Deposits and the price per share

Without a portfolio projection the summary prices a share at what the open lots were deposited for,
divided by the shares that they minted, so a deposit that mints at this price moves it by the
rounding of the shares only. A projection is a snapshot: a deposit mints shares and adds nothing to
its net asset value, and the price falls.
-/

namespace SentinelApex

open Decimal

/-- By how much the rounding of the shares can move a price of `price`, with `shares` outstanding:
one unit of shares, spread over all of them, and the last place of two prices. -/
def priceTolerance (price shares : ℚ) : ℚ :=
  (|price| + unitOf 8) * unitOf 8 / shares + 2 * unitOf 8

theorem unitOf_eight : unitOf 8 = 1 / 10 ^ 8 := by
  norm_num [unitOf]

theorem priceTolerance_nonneg (price : ℚ) {shares : ℚ} (hs : 0 ≤ shares) :
    0 ≤ priceTolerance price shares := by
  have hu := unitOf_pos 8
  rw [priceTolerance]
  positivity

/-- Adding `amount` assets and `amount / p` shares moves the ratio towards `p`, so the price that
rounds to `p` is kept. -/
theorem stored_mediant {A S a p : ℚ} (hS : 0 < S) (ha : 0 ≤ a) (hp0 : 0 < p)
    (hp : stored 8 (A / S) = p) (hb : p ≤ 10 ^ 12) :
    stored 8 ((A + a) / (S + a / p)) = p := by
  have hstored : stored 8 p = p := by
    refine stored_of_mem (hp ▸ stored_mem 8 _) ?_
    rw [abs_of_pos hp0]
    norm_num
    linarith
  have hshares : 0 ≤ a / p := by positivity
  have hden : 0 < S + a / p := by linarith
  have ha' : a = p * (a / p) := by field_simp
  rcases le_total (A / S) p with hle | hle
  · -- The ratio rises from `A / S`, at most to `p`.
    have hA : A ≤ p * S := (div_le_iff₀ hS).1 hle
    have hlow : A / S ≤ (A + a) / (S + a / p) := by
      rw [div_le_div_iff₀ hS hden]
      nlinarith
    have hhigh : (A + a) / (S + a / p) ≤ p := by
      rw [div_le_iff₀ hden]
      linarith
    refine le_antisymm ?_ ?_
    · exact (stored_mono hhigh 8).trans hstored.le
    · exact hp.ge.trans (stored_mono hlow 8)
  · have hA : p * S ≤ A := (le_div_iff₀ hS).1 hle
    have hlow : p ≤ (A + a) / (S + a / p) := by
      rw [le_div_iff₀ hden]
      linarith
    have hhigh : (A + a) / (S + a / p) ≤ A / S := by
      rw [div_le_div_iff₀ hden hS]
      nlinarith
    refine le_antisymm ?_ ?_
    · exact (stored_mono hhigh 8).trans hp.le
    · exact hstored.ge.trans (stored_mono hlow 8)

/-- The shares that are minted are rounded, which moves the price by at most the tolerance. -/
theorem abs_price_sub_le {A S a p : ℚ} (hA : 0 ≤ A) (hS : unitOf 8 ≤ S) (ha : 0 ≤ a) (hp0 : 0 < p)
    (hp : stored 8 (A / S) = p) (hb : p ≤ 10 ^ 11) (hshares : S + a / p ≤ 10 ^ 12) :
    |stored 8 ((A + a) / (S + stored 8 (a / p))) - p| ≤
      priceTolerance p (S + stored 8 (a / p)) := by
  have hu := unitOf_pos 8
  have hu8 := unitOf_eight
  have hS0 : 0 < S := hu.trans_le hS
  set minted := stored 8 (a / p) with hminted
  set exactRatio := (A + a) / (S + a / p) with hexact
  have hap : 0 ≤ a / p := by positivity
  have hminted0 : 0 ≤ minted := stored_nonneg hap 8
  have hround : |minted - a / p| ≤ unitOf 8 := by
    refine abs_stored_sub_le ?_
    rw [abs_of_nonneg hap]
    norm_num
    linarith
  have hkeep : stored 8 exactRatio = p := stored_mediant hS0 ha hp0 hp (by linarith)
  have hratio0 : 0 ≤ exactRatio := by positivity
  -- The exact ratio is within one unit of `p`.
  have hratio12 : exactRatio ≤ 10 ^ 12 := by
    by_contra hlarge
    have hmono := stored_mono (not_le.1 hlarge).le 8
    have hkeep12 : stored 8 (10 ^ 12) = 10 ^ 12 := by
      exact stored_of_mem (by exact_mod_cast natCast_mem_places (10 ^ 12) 8) (by norm_num)
    rw [hkeep12, hkeep] at hmono
    linarith
  have hratio : |p - exactRatio| ≤ unitOf 8 := by
    rw [← hkeep]
    refine abs_stored_sub_le ?_
    rw [abs_of_nonneg hratio0]
    norm_num
    linarith
  have hratioLe : exactRatio ≤ p + unitOf 8 := by linarith [(abs_le.1 hratio).1]
  -- Replacing `a / p` by the minted shares moves the ratio by the part of one unit of shares.
  have hden : 0 < S + minted := by linarith
  have hdiff : (A + a) / (S + minted) - exactRatio =
      exactRatio * (a / p - minted) / (S + minted) := by
    rw [hexact]
    field_simp
    ring
  have hmove : |(A + a) / (S + minted) - exactRatio| ≤ (p + unitOf 8) * unitOf 8 / (S + minted) := by
    rw [hdiff, abs_div, abs_mul, abs_of_nonneg hratio0, abs_of_pos hden, abs_sub_comm]
    refine div_le_div_of_nonneg_right ?_ hden.le
    exact mul_le_mul hratioLe hround (abs_nonneg _) (by linarith)
  have hpart : (p + unitOf 8) * unitOf 8 / (S + minted) ≤ p + unitOf 8 := by
    rw [div_le_iff₀ hden]
    exact mul_le_mul_of_nonneg_left (by linarith) (by linarith)
  have hafter0 : 0 ≤ (A + a) / (S + minted) := by positivity
  have hafter : |stored 8 ((A + a) / (S + minted)) - (A + a) / (S + minted)| ≤ unitOf 8 := by
    refine abs_stored_sub_le ?_
    rw [abs_of_nonneg hafter0]
    have := (abs_le.1 hmove).2
    norm_num at hu8 ⊢
    linarith
  calc |stored 8 ((A + a) / (S + minted)) - p|
      ≤ |stored 8 ((A + a) / (S + minted)) - exactRatio| + |exactRatio - p| := abs_sub_le _ _ _
    _ ≤ |stored 8 ((A + a) / (S + minted)) - (A + a) / (S + minted)| +
          |(A + a) / (S + minted) - exactRatio| + |exactRatio - p| :=
        add_le_add_left (abs_sub_le _ _ _) _
    _ ≤ unitOf 8 + (p + unitOf 8) * unitOf 8 / (S + minted) + unitOf 8 := by
        rw [abs_sub_comm exactRatio]
        exact add_le_add (add_le_add hafter hmove) hratio
    _ = priceTolerance p (S + minted) := by
        rw [priceTolerance, abs_of_pos hp0]
        ring

variable {lot : VaultDepositLot}

namespace VaultStore

section Deposits

variable (config : VaultConfig) (store : VaultStore)

def depositedTotal : ℚ := (store.openLots.map VaultDepositLot.depositedAmount).sum

/-- The shares of the open lots. -/
def mintedTotal : ℚ := (store.openLots.map VaultDepositLot.mintedShares).sum

/-- The columns of the lots hold what `formatMoney` and `formatDecimal` write. -/
structure LotColumns : Prop where
  amounts : ∀ lot ∈ store.lots, 0 ≤ lot.depositedAmount ∧ lot.depositedAmount ∈ Places 2
  shares : ∀ lot ∈ store.lots, 0 ≤ lot.mintedShares ∧ lot.mintedShares ∈ Places 8

/-- The state and the amount of a deposit that is minted at the price of the pool and counted in
it: there is no projection, the amount is a whole number of cents, the reported price is a price
(there are shares outstanding and it is not rounded to zero, or the vault is empty), and
the totals have at most twenty digits. -/
structure KeepsPrice (amount : Decimal) : Prop where
  no_portfolio : store.portfolio = none
  whole_cents : amount ∈ Places 2
  empty : store.mintedTotal = 0 → store.depositedTotal = 0
  priced : store.mintedTotal ≠ 0 → 0 < formatDecimal store.navPerShare
  price_le : formatDecimal store.navPerShare ≤ 10 ^ 11
  assets_le : store.depositedTotal + amount ≤ 10 ^ 18
  shares_le : store.mintedTotal + amount / store.sharePrice ≤ 10 ^ 12

variable {config store}

theorem mem_lots_of_mem_openLots (h : lot ∈ store.openLots) : lot ∈ store.lots :=
  (List.mem_filter.1 h).1

section

variable (hcols : store.LotColumns)

include hcols

theorem LotColumns.depositedTotal_nonneg : 0 ≤ store.depositedTotal := by
  apply List.sum_nonneg
  intro x hx
  obtain ⟨lot, hlot, rfl⟩ := List.mem_map.1 hx
  exact (hcols.amounts lot (mem_lots_of_mem_openLots hlot)).1

theorem LotColumns.mintedTotal_nonneg : 0 ≤ store.mintedTotal := by
  apply List.sum_nonneg
  intro x hx
  obtain ⟨lot, hlot, rfl⟩ := List.mem_map.1 hx
  exact (hcols.shares lot (mem_lots_of_mem_openLots hlot)).1

theorem LotColumns.mintedTotal_mem : store.mintedTotal ∈ Places 8 := by
  apply list_sum_mem
  intro x hx
  obtain ⟨lot, hlot, rfl⟩ := List.mem_map.1 hx
  exact (hcols.shares lot (mem_lots_of_mem_openLots hlot)).2

theorem totalAssetsUsd_eq (hnone : store.portfolio = none) (hb : store.depositedTotal ≤ 10 ^ 18) :
    store.totalAssetsUsd = store.depositedTotal := by
  have h := foldl_plus_eq_sum VaultDepositLot.depositedAmount store.openLots 2
    (fun lot hlot => hcols.amounts lot (mem_lots_of_mem_openLots hlot)) le_rfl
    (zero_mem _) (by rw [zero_add]; norm_num; exact hb)
  rw [zero_add] at h
  rw [totalAssetsUsd, hnone]
  exact h

theorem totalSharesOutstanding_eq (hb : store.mintedTotal ≤ 10 ^ 12) :
    store.totalSharesOutstanding = store.mintedTotal := by
  have h := foldl_plus_eq_sum VaultDepositLot.mintedShares store.openLots 8
    (fun lot hlot => hcols.shares lot (mem_lots_of_mem_openLots hlot)) le_rfl
    (zero_mem _) (by rw [zero_add]; norm_num; exact hb)
  rw [zero_add] at h
  exact h

theorem formatDecimal_navPerShare (hnone : store.portfolio = none)
    (hassets : store.depositedTotal ≤ 10 ^ 18) (hshares : store.mintedTotal ≤ 10 ^ 12) :
    formatDecimal store.navPerShare =
      if 0 < store.mintedTotal then stored 8 (store.depositedTotal / store.mintedTotal) else 1 := by
  rw [navPerShare, totalAssetsUsd_eq hcols hnone hassets, totalSharesOutstanding_eq hcols hshares]
  split_ifs
  · rfl
  · exact roundPlaces_of_mem (by exact_mod_cast natCast_mem_places 1 8)

end

section

variable {input : RecordVaultDepositInput} {amount : Decimal} {t : Date} {after : VaultStore}
  (hcols : store.LotColumns) (hd : store.Deposited config input amount t lot after)
  (hpos : 0 < amount)

include hcols hd hpos

theorem Deposited.lotColumns :
    after.LotColumns := by
  have hprice : 0 ≤ store.sharePrice := store.sharePrice_pos.le
  constructor <;> intro row hrow <;> rw [hd.lots] at hrow <;>
    rcases List.mem_append.1 hrow with hrow | hrow
  · exact hcols.amounts row hrow
  · rw [List.mem_singleton.1 hrow, hd.depositedAmount]
    exact ⟨roundPlaces_nonneg hpos.le 2, roundPlaces_mem _ 2⟩
  · exact hcols.shares row hrow
  · rw [List.mem_singleton.1 hrow, hd.mintedShares]
    exact ⟨stored_nonneg (div_nonneg hpos.le hprice) 8, stored_mem 8 _⟩

theorem Deposited.price (h : store.KeepsPrice amount) :
    lot.sharePrice = formatDecimal store.navPerShare ∧
      |formatDecimal after.navPerShare - formatDecimal store.navPerShare| ≤
        priceTolerance (formatDecimal store.navPerShare) after.mintedTotal := by
  have hA0 := hcols.depositedTotal_nonneg
  have hS0 := hcols.mintedTotal_nonneg
  have hafter := hd.lotColumns hcols hpos
  -- The reported price is positive, so it is the price of the deposit.
  have hpricePos : 0 < formatDecimal store.navPerShare := by
    by_cases hS : store.mintedTotal = 0
    · rw [formatDecimal_navPerShare hcols h.no_portfolio (by linarith [h.assets_le]) (by rw [hS]; norm_num),
        if_neg (by rw [hS]; exact lt_irrefl 0)]
      norm_num
    · exact h.priced hS
  have hsharePrice : store.sharePrice = formatDecimal store.navPerShare := by
    rw [VaultStore.sharePrice, effectiveSharePrice, if_pos hpricePos]
  have hshares := h.shares_le
  rw [hsharePrice] at hshares
  have hap : 0 < amount / formatDecimal store.navPerShare := div_pos hpos hpricePos
  have hprice := formatDecimal_navPerShare hcols h.no_portfolio (by linarith [h.assets_le])
    (by linarith)
  have hminted : lot.mintedShares = stored 8 (amount / formatDecimal store.navPerShare) := by
    rw [hd.mintedShares, hsharePrice]
    rfl
  -- The totals after the deposit, which are still exact.
  have hassets' : after.depositedTotal = store.depositedTotal + amount := by
    rw [depositedTotal, hd.openLots, List.map_append, List.sum_append, List.map_singleton,
      List.sum_singleton, hd.depositedAmount, formatMoney, roundPlaces_of_mem h.whole_cents]
    rfl
  have hshares' : after.mintedTotal =
      store.mintedTotal + stored 8 (amount / formatDecimal store.navPerShare) := by
    rw [mintedTotal, hd.openLots, List.map_append, List.sum_append, List.map_singleton,
      List.sum_singleton, hminted]
    rfl
  have hbound : after.mintedTotal ≤ 10 ^ 12 := by
    have hrest : 10 ^ 12 - store.mintedTotal ∈ Places 8 :=
      sub_mem (by exact_mod_cast natCast_mem_places (10 ^ 12) 8) hcols.mintedTotal_mem
    have hkeep : stored 8 (10 ^ 12 - store.mintedTotal) = 10 ^ 12 - store.mintedTotal := by
      refine stored_of_mem hrest ?_
      rw [abs_of_nonneg (by linarith)]
      norm_num
      exact hS0
    have hmono := stored_mono
      (show amount / formatDecimal store.navPerShare ≤ 10 ^ 12 - store.mintedTotal by linarith) 8
    rw [hkeep] at hmono
    rw [hshares']
    linarith
  have hprice' := formatDecimal_navPerShare hafter (hd.portfolio.trans h.no_portfolio)
    (by rw [hassets']; exact h.assets_le) hbound
  refine ⟨?_, ?_⟩
  · rw [hd.sharePrice, hsharePrice]
    exact roundPlaces_of_mem (roundPlaces_mem _ 8)
  · rw [hprice', hassets', hshares']
    by_cases hS : store.mintedTotal = 0
    · -- The first deposit mints one share for each unit of the base asset.
      rw [hS, if_neg (lt_irrefl 0)] at hprice
      have hamount : stored 8 amount = amount := by
        refine stored_of_mem (decimalJs.grid_le (by norm_num) h.whole_cents) ?_
        rw [hprice, hS, div_one] at hshares
        rw [abs_of_pos hpos]
        norm_num
        linarith
      have hone : stored 8 1 = 1 :=
        stored_of_mem (by exact_mod_cast natCast_mem_places 1 8) (by norm_num)
      rw [hprice, h.empty hS, hS, div_one, hamount, zero_add, if_pos hpos, div_self hpos.ne',
        hone, sub_self, abs_zero]
      exact priceTolerance_nonneg 1 hpos.le
    · have hSpos : 0 < store.mintedTotal := lt_of_le_of_ne hS0 (Ne.symm hS)
      have hunit : unitOf 8 ≤ store.mintedTotal := unitOf_le hSpos hcols.mintedTotal_mem
      rw [if_pos hSpos] at hprice
      rw [if_pos (by linarith [stored_nonneg hap.le 8])]
      exact abs_price_sub_le hA0 hunit hpos.le hpricePos hprice.symm h.price_le hshares

end

structure DepositCall where
  input : RecordVaultDepositInput
  now : Date

structure DepositStep where
  before : VaultStore
  call : DepositCall
  result : Except String VaultDepositLot
  after : VaultStore

variable (config store)

def depositSteps : VaultStore → List DepositCall → List DepositStep
  | _, [] => []
  | store, c :: calls =>
    let answer := store.recordVaultDeposit config c.input c.now
    ⟨store, c, answer.1, answer.2⟩ :: depositSteps answer.2 calls

def depositRun : VaultStore → List DepositCall → VaultStore
  | store, [] => store
  | store, c :: calls => depositRun (store.recordVaultDeposit config c.input c.now).2 calls

/-- If the deposit is accepted, it is one that keeps the price. -/
def DepositStep.KeepsPrice (step : DepositStep) : Prop :=
  ∀ amount t, Accepted step.call.input step.call.now amount t → step.before.KeepsPrice amount

def DepositStep.tolerance (step : DepositStep) : ℚ :=
  priceTolerance (formatDecimal step.before.navPerShare) step.after.mintedTotal

/-- What the deposits of a run guarantee one by one. -/
structure DepositStep.Fair (step : DepositStep) : Prop where
  price_kept : ∀ now, |(step.after.getVaultSummary config now).navPerShare -
    (step.before.getVaultSummary config now).navPerShare| ≤ step.tolerance
  minted_at_price : ∀ lot, step.result = .ok lot →
    lot.sharePrice = (step.before.getVaultSummary config step.call.now).navPerShare

variable {config store}

theorem recordVaultDeposit_fair (hcols : store.LotColumns) (c : DepositCall)
    (h : DepositStep.KeepsPrice ⟨store, c, (store.recordVaultDeposit config c.input c.now).1,
      (store.recordVaultDeposit config c.input c.now).2⟩) :
    DepositStep.Fair config ⟨store, c, (store.recordVaultDeposit config c.input c.now).1,
      (store.recordVaultDeposit config c.input c.now).2⟩ ∧
      (store.recordVaultDeposit config c.input c.now).2.LotColumns := by
  rcases store.recordVaultDeposit_cases config c.input c.now with
    ⟨message, hr⟩ | ⟨amount, t, lot, after, hr, hacc, hd⟩
  · rw [hr]
    refine ⟨⟨fun now => ?_, fun lot hlot => by cases hlot⟩, hcols⟩
    rw [sub_self, abs_zero]
    exact priceTolerance_nonneg _ hcols.mintedTotal_nonneg
  · rw [hr] at h ⊢
    obtain ⟨hminted, hkept⟩ := hd.price hcols hacc.positive (h amount t hacc)
    refine ⟨⟨fun _ => hkept, ?_⟩, hd.lotColumns hcols hacc.positive⟩
    intro row hrow
    obtain rfl : lot = row := Except.ok.inj hrow
    exact hminted

/-- Deposits that keep the price, one after the other: each is minted at the price that is reported
before it and moves the price by the rounding only, and over the run these moves add up. -/
theorem depositSteps_fair (hcols : store.LotColumns) (calls : List DepositCall)
    (h : ∀ step ∈ depositSteps config store calls, step.KeepsPrice) :
    (∀ step ∈ depositSteps config store calls, step.Fair config) ∧
      ∀ now, |((depositRun config store calls).getVaultSummary config now).navPerShare -
          (store.getVaultSummary config now).navPerShare| ≤
        ((depositSteps config store calls).map DepositStep.tolerance).sum := by
  induction calls generalizing store with
  | nil => simp [depositSteps, depositRun]
  | cons c calls ih =>
    obtain ⟨hfirst, hcols'⟩ := recordVaultDeposit_fair hcols c (h _ List.mem_cons_self)
    obtain ⟨hsteps, hdrift⟩ := ih hcols' fun step hstep => h step (List.mem_cons_of_mem _ hstep)
    refine ⟨?_, fun now => ?_⟩
    · intro step hstep
      rcases List.mem_cons.1 hstep with rfl | hstep
      · exact hfirst
      · exact hsteps step hstep
    · rw [depositSteps, List.map_cons, List.sum_cons, add_comm]
      exact (abs_sub_le _ _ _).trans (add_le_add (hdrift now) (hfirst.price_kept now))

end Deposits

def sampleDeposit (amount : Decimal) : DepositCall :=
  ⟨{ investorId := "investor"
     displayName := "Investor"
     walletAddress := "wallet"
     amountUsdc := .finite amount }, 0⟩

/-- A vault with one lot of 100 shares, whose projection is worth what was deposited. -/
def projectedVault : VaultStore :=
  { depositRun sampleVaultConfig (newVault [] none 0) [sampleDeposit 100] with portfolio := some ⟨100, 100⟩ }

/-- A vault with one lot of 100 shares that were minted at 2 USD. -/
def grownVault : VaultStore :=
  { newVault [] none 1 with
    lots :=
      [{ id := "0", vaultId := "vault", depositorId := "0", asset := "USDC", depositedAmount := 200
         mintedShares := 100, sharePrice := 2, depositedAt := 0, lockExpiresAt := 0
         redeemedAt := none, status := .active, note := none }] }

/-- A deposit of 100 and one of 33.33 beside the lot: all are minted at 2 USD. -/
theorem depositSteps_fair_two_deposits :
    (depositRun sampleVaultConfig grownVault [sampleDeposit 100, sampleDeposit 33.33]).lots.map
        (fun lot => lot.mintedShares) = [100, 50, 16.665] ∧
      (∀ step ∈ depositSteps sampleVaultConfig grownVault [sampleDeposit 100, sampleDeposit 33.33],
        step.Fair sampleVaultConfig) ∧
      ∀ now, |((depositRun sampleVaultConfig grownVault
          [sampleDeposit 100, sampleDeposit 33.33]).getVaultSummary sampleVaultConfig
            now).navPerShare - (grownVault.getVaultSummary sampleVaultConfig now).navPerShare| ≤
        ((depositSteps sampleVaultConfig grownVault
          [sampleDeposit 100, sampleDeposit 33.33]).map DepositStep.tolerance).sum := by
  refine ⟨by decide +kernel, depositSteps_fair ⟨?_, ?_⟩ [sampleDeposit 100, sampleDeposit 33.33]
    (List.forall_mem_cons.2 ⟨?_, List.forall_mem_singleton.2 ?_⟩)⟩
  · exact List.forall_mem_singleton.2 ⟨by norm_num,
      by exact_mod_cast natCast_mem_places 200 2⟩
  · exact List.forall_mem_singleton.2 ⟨by norm_num, by exact_mod_cast natCast_mem_places 100 8⟩
  · intro amount t hacc
    obtain rfl : (100 : Decimal) = amount := AmountText.finite.inj hacc.amountUsdc
    exact
      { no_portfolio := rfl
        whole_cents := by exact_mod_cast natCast_mem_places 100 2
        empty := fun h => absurd h (by decide +kernel)
        priced := fun _ => by decide +kernel
        price_le := by decide +kernel
        assets_le := by decide +kernel
        shares_le := by decide +kernel }
  · intro amount t hacc
    obtain rfl : (33.33 : Decimal) = amount := AmountText.finite.inj hacc.amountUsdc
    exact
      { no_portfolio := by decide +kernel
        whole_cents := decimalJs.mem_grid_iff.2 ⟨3333, by norm_num [decimalJs]⟩
        empty := fun h => absurd h (by decide +kernel)
        priced := fun _ => by decide +kernel
        price_le := by decide +kernel
        assets_le := by decide +kernel
        shares_le := by decide +kernel }

/-- The second deposit of 100 halves the price. -/
theorem projected_deposit_halves_price :
    ∃ step ∈ depositSteps sampleVaultConfig projectedVault [sampleDeposit 100],
      (step.before.getVaultSummary sampleVaultConfig 0).navPerShare = 1 ∧
      (step.after.getVaultSummary sampleVaultConfig 0).navPerShare = 1 / 2 ∧
      step.tolerance < |(step.after.getVaultSummary sampleVaultConfig 0).navPerShare -
        (step.before.getVaultSummary sampleVaultConfig 0).navPerShare| := by
  refine ⟨_, List.mem_singleton.2 rfl, ?_⟩
  decide +kernel

end VaultStore

end SentinelApex
