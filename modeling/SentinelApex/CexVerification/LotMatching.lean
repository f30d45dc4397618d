import SentinelApex.CexVerification.PnlCalculator

/-!
# Lots and dust

The queues of FIFO and LIFO hold what exact accounting would hold, as long as no sale meets an amount
of at most `0.00000001`: one unit of a quantity with eight decimal places. A unit that is left of a
sale is not matched, and a unit that is left of a lot is dropped (`conserved_iff`).
-/

namespace SentinelApex

open Lots (held value take Clean)

namespace LotOrder

variable {order : LotOrder}

@[simp] theorem held_arrange (lots : List BuyQueueEntry) : held (order.arrange lots) = held lots := by
  cases order <;> simp [arrange]

@[simp] theorem value_arrange (lots : List BuyQueueEntry) :
    value (order.arrange lots) = value lots := by
  cases order <;> simp [arrange]

end LotOrder

/-! ## Exact accounting -/

def ParsedTrade.lot (trade : ParsedTrade) : BuyQueueEntry :=
  { quantity := trade.quantity, price := trade.price }

def lotsAfter (order : LotOrder) (lots : List BuyQueueEntry) (trade : ParsedTrade) :
    List BuyQueueEntry :=
  if trade.side = .buy then lots ++ [trade.lot]
  else order.arrange (take trade.quantity (order.arrange lots)).2

/-- No sale needs or leaves dust of the lots that exact accounting holds before it. -/
def SalesClean (order : LotOrder) : List BuyQueueEntry → List ParsedTrade → Prop
  | _, [] => True
  | lots, trade :: trades =>
    (trade.side = .buy ∨ Clean (1 / 10 ^ 8) trade.quantity (order.arrange lots)) ∧
      SalesClean order (lotsAfter order lots trade) trades

instance decidableSalesClean (order : LotOrder) :
    ∀ (lots : List BuyQueueEntry) (trades : List ParsedTrade),
      Decidable (SalesClean order lots trades)
  | _, [] => inferInstanceAs (Decidable True)
  | lots, trade :: trades =>
    haveI := decidableSalesClean order (lotsAfter order lots trade) trades
    inferInstanceAs (Decidable ((trade.side = .buy ∨
      Clean (1 / 10 ^ 8) trade.quantity (order.arrange lots)) ∧
        SalesClean order (lotsAfter order lots trade) trades))

def purchases (trades : List ParsedTrade) : List ParsedTrade :=
  trades.filter fun t => decide (t.side = .buy)

def sales (trades : List ParsedTrade) : List ParsedTrade :=
  trades.filter fun t => decide (t.side ≠ .buy)

def volume (trades : List ParsedTrade) : Number := held (trades.map ParsedTrade.lot)

def turnover (trades : List ParsedTrade) : Number := value (trades.map ParsedTrade.lot)

def saleCosts (trades : List TradeWithPnl) : Number :=
  ((trades.filter fun t => decide (t.side ≠ .buy)).map fun t => t.costBasis.getD 0).sum

namespace NumberArithmetic

/-- Cost and quantity of the purchases are those of the sales and of the lots that are left. -/
structure Conserved (order : LotOrder) (trades : List ParsedTrade) : Prop where
  cost : saleCosts (exact.lotTrades order [] trades).1 + value (exact.lotTrades order [] trades).2 =
    turnover (purchases trades)
  quantity : held (exact.lotTrades order [] trades).2 =
    volume (purchases trades) - volume (sales trades)

/-! ## A sale -/

theorem exact_dust : exact.dust = 1 / 10 ^ 8 := rfl

theorem dust_pos : 0 < exact.dust := by
  rw [exact_dust]
  norm_num

variable {q : Number} {lots : List BuyQueueEntry}

theorem matchBuys_of_le (h : q ≤ exact.dust) (cost : Number) (lots : List BuyQueueEntry) :
    exact.matchBuys q cost lots = { remainingQty := q, totalCostBasis := cost, buyQueue := lots } := by
  cases lots with
  | nil => rfl
  | cons lot lots => rw [matchBuys, if_neg (not_lt.2 h)]

section

variable {q : Number} {lot : BuyQueueEntry} (hq : exact.dust < q) (cost : Number)
  (lots : List BuyQueueEntry)

include hq

theorem matchBuys_of_quantity_le (hlot : lot.quantity ≤ q) :
    exact.matchBuys q cost (lot :: lots) =
      exact.matchBuys (q - lot.quantity) (cost + lot.quantity * lot.price) lots := by
  rw [matchBuys, if_pos hq]
  simp only [exact_add, exact_sub, exact_mul, min_eq_right hlot, sub_self, dust_pos.le, if_true]

theorem matchBuys_of_lt_quantity (hlot : q < lot.quantity) :
    exact.matchBuys q cost (lot :: lots) =
      { remainingQty := 0
        totalCostBasis := cost + q * lot.price
        buyQueue :=
          if lot.quantity - q ≤ exact.dust then lots
          else { lot with quantity := lot.quantity - q } :: lots } := by
  rw [matchBuys, if_pos hq]
  simp only [exact_add, exact_sub, exact_mul, min_eq_left hlot.le, sub_self,
    matchBuys_of_le dust_pos.le]
  split_ifs <;> rfl

end

theorem matchBuys_of_clean (h : Clean exact.dust q lots) (cost : Number) :
    (exact.matchBuys q cost lots).totalCostBasis = cost + (take q lots).1 ∧
      (exact.matchBuys q cost lots).buyQueue = (take q lots).2 := by
  induction lots generalizing q cost with
  | nil => simp [matchBuys, take]
  | cons lot lots ih =>
    rcases h with rfl | ⟨hq, hrest⟩
    · rw [matchBuys_of_le dust_pos.le]
      simp [take]
    · rw [take, if_neg (not_le.2 (dust_pos.trans hq))]
      split_ifs at hrest ⊢ with hlot
      · rw [matchBuys_of_quantity_le hq cost lots hlot]
        obtain ⟨hcost, hqueue⟩ := ih hrest (cost + lot.quantity * lot.price)
        exact ⟨by rw [hcost, add_assoc], hqueue⟩
      · rw [matchBuys_of_lt_quantity hq cost lots (not_le.1 hlot), if_neg (not_le.2 hrest)]
        exact ⟨rfl, rfl⟩

/-- A sale that is not clean leaves another quantity than exact accounting. -/
theorem clean_of_held_matchBuys (cost : Number)
    (h : held (exact.matchBuys q cost lots).buyQueue = held lots - q) :
    Clean exact.dust q lots := by
  induction lots generalizing q cost with
  | nil =>
    simp only [matchBuys, Lots.held_nil, zero_sub, zero_eq_neg] at h
    exact h
  | cons lot lots ih =>
    by_cases hq : exact.dust < q
    · refine .inr ⟨hq, ?_⟩
      split_ifs with hlot
      · rw [matchBuys_of_quantity_le hq cost lots hlot, Lots.held_cons] at h
        exact ih _ (h.trans (by ring))
      · by_contra hdust
        rw [matchBuys_of_lt_quantity hq cost lots (not_le.1 hlot), if_pos (not_lt.1 hdust),
          Lots.held_cons] at h
        linarith [not_le.1 hlot]
    · rw [matchBuys_of_le (not_lt.1 hq)] at h
      left
      linarith

/-! ## Histories -/

section

variable {order : LotOrder} {lots : List BuyQueueEntry} {trade : ParsedTrade}

theorem lotTrade_of_buy (h : trade.side = .buy) :
    (exact.lotTrade order lots trade).1.side = .buy ∧
      (exact.lotTrade order lots trade).2 = lots ++ [trade.lot] := by
  unfold lotTrade
  split
  · exact ⟨h, rfl⟩
  · contradiction

theorem lotTrade_of_sale (h : trade.side ≠ .buy) :
    (exact.lotTrade order lots trade).1.side = trade.side ∧
      (exact.lotTrade order lots trade).1.costBasis =
        some (exact.sell order trade.quantity lots).1 ∧
      (exact.lotTrade order lots trade).2 = (exact.sell order trade.quantity lots).2 := by
  unfold lotTrade
  split
  · contradiction
  · exact ⟨rfl, rfl, rfl⟩

theorem sell_of_clean (h : Clean exact.dust trade.quantity (order.arrange lots)) :
    exact.sell order trade.quantity lots = ((take trade.quantity (order.arrange lots)).1,
      order.arrange (take trade.quantity (order.arrange lots)).2) := by
  obtain ⟨hcost, hqueue⟩ := matchBuys_of_clean h 0
  rw [sell, hcost, hqueue, zero_add]

theorem lotTrade_queue
    (h : trade.side = .buy ∨ Clean (1 / 10 ^ 8) trade.quantity (order.arrange lots)) :
    (exact.lotTrade order lots trade).2 = lotsAfter order lots trade := by
  unfold lotsAfter
  split_ifs with hside
  · exact (lotTrade_of_buy hside).2
  · rw [(lotTrade_of_sale hside).2.2, sell_of_clean (h.resolve_left hside)]

variable {trades : List ParsedTrade}

theorem saleCosts_cons (t : TradeWithPnl) (ts : List TradeWithPnl) :
    saleCosts (t :: ts) = (if t.side = .buy then 0 else t.costBasis.getD 0) + saleCosts ts := by
  unfold saleCosts
  rw [List.filter_cons]
  by_cases h : t.side = .buy <;> simp [h]

theorem turnover_purchases_cons : turnover (purchases (trade :: trades)) =
    (if trade.side = .buy then trade.quantity * trade.price else 0) + turnover (purchases trades) := by
  unfold turnover purchases
  rw [List.filter_cons]
  by_cases h : trade.side = .buy <;> simp [h, ParsedTrade.lot]

theorem volume_purchases_cons : volume (purchases (trade :: trades)) =
    (if trade.side = .buy then trade.quantity else 0) + volume (purchases trades) := by
  unfold volume purchases
  rw [List.filter_cons]
  by_cases h : trade.side = .buy <;> simp [h, ParsedTrade.lot]

theorem volume_sales_cons : volume (sales (trade :: trades)) =
    (if trade.side = .buy then 0 else trade.quantity) + volume (sales trades) := by
  unfold volume sales
  rw [List.filter_cons]
  by_cases h : trade.side = .buy <;> simp [h, ParsedTrade.lot]

/-- What a clean trade does to the lots, to their value and to what they hold. -/
theorem lotsAfter_spec
    (h : trade.side = .buy ∨ Clean (1 / 10 ^ 8) trade.quantity (order.arrange lots)) :
    (if trade.side = .buy then 0
        else ((exact.lotTrade order lots trade).1.costBasis.getD 0)) +
          value (lotsAfter order lots trade) =
        value lots + (if trade.side = .buy then trade.quantity * trade.price else 0) ∧
      held (lotsAfter order lots trade) = held lots +
        (if trade.side = .buy then trade.quantity else 0) -
          (if trade.side = .buy then 0 else trade.quantity) := by
  unfold lotsAfter
  split_ifs with hside
  · simp [ParsedTrade.lot]
  · have hclean := h.resolve_left hside
    rw [(lotTrade_of_sale hside).2.1, sell_of_clean hclean]
    constructor
    · simpa using Lots.take_value trade.quantity (order.arrange lots)
    · simpa using Lots.take_held_of_clean (by norm_num) hclean

theorem conserved_of_salesClean (h : SalesClean order lots trades) :
    saleCosts (exact.lotTrades order lots trades).1 + value (exact.lotTrades order lots trades).2 =
        value lots + turnover (purchases trades) ∧
      held (exact.lotTrades order lots trades).2 =
        held lots + volume (purchases trades) - volume (sales trades) := by
  induction trades generalizing lots with
  | nil => simp [lotTrades, saleCosts, purchases, sales, turnover, volume]
  | cons trade trades ih =>
    obtain ⟨htrade, htrades⟩ := h
    obtain ⟨hcosts, hheld⟩ := ih htrades
    obtain ⟨hcost, hquantity⟩ := lotsAfter_spec htrade
    have hside : (exact.lotTrade order lots trade).1.side = trade.side := by
      by_cases hbuy : trade.side = .buy
      · rw [(lotTrade_of_buy hbuy).1, hbuy]
      · exact (lotTrade_of_sale hbuy).1
    simp only [lotTrades, lotTrade_queue htrade]
    rw [saleCosts_cons, hside, turnover_purchases_cons, volume_purchases_cons, volume_sales_cons]
    constructor
    · linarith
    · linarith

theorem salesClean_of_isPrefix {processed : List ParsedTrade} (h : SalesClean order lots trades)
    (hpre : processed <+: trades) : SalesClean order lots processed := by
  induction trades generalizing lots processed with
  | nil =>
    rw [List.prefix_nil.1 hpre]
    trivial
  | cons trade trades ih =>
    cases processed with
    | nil => trivial
    | cons first processed =>
      obtain ⟨rfl, hrest⟩ := List.cons_prefix_cons.1 hpre
      exact ⟨h.1, ih h.2 hrest⟩

/-- Where the quantities are right after every trade, every sale was clean. -/
theorem salesClean_of_held (h : ∀ processed, processed <+: trades →
    held (exact.lotTrades order lots processed).2 =
      held lots + volume (purchases processed) - volume (sales processed)) :
    SalesClean order lots trades := by
  induction trades generalizing lots with
  | nil => trivial
  | cons trade trades ih =>
    have hfirst := h [trade] (List.prefix_append [trade] trades)
    rw [volume_purchases_cons, volume_sales_cons] at hfirst
    have htrade : trade.side = .buy ∨
        Clean (1 / 10 ^ 8) trade.quantity (order.arrange lots) := by
      by_cases hside : trade.side = .buy
      · exact .inl hside
      · refine .inr (clean_of_held_matchBuys 0 ?_)
        simp only [lotTrades, (lotTrade_of_sale hside).2.2, sell, if_neg hside] at hfirst
        simpa [volume, purchases, sales, sub_eq_add_neg] using hfirst
    refine ⟨htrade, ih fun processed hprocessed => ?_⟩
    have hnext := h (trade :: processed) (List.cons_prefix_cons.2 ⟨rfl, hprocessed⟩)
    simp only [lotTrades, lotTrade_queue htrade] at hnext
    rw [hnext, (lotsAfter_spec htrade).2, volume_purchases_cons, volume_sales_cons]
    ring

end

/-! ## Conservation -/

/-- Cost and quantity are conserved up to every trade, first in first out and last in first out, if
and only if no sale meets dust. -/
theorem conserved_iff (trades : List ParsedTrade) :
    (∀ processed, processed <+: sortByTime trades → ∀ order, Conserved order processed) ↔
      ∀ order, SalesClean order [] (sortByTime trades) := by
  constructor
  · intro h order
    refine salesClean_of_held fun processed hprocessed => ?_
    rw [Lots.held_nil, zero_add]
    exact (h processed hprocessed order).quantity
  · intro h processed hprocessed order
    obtain ⟨hcost, hquantity⟩ := conserved_of_salesClean (salesClean_of_isPrefix (h order) hprocessed)
    exact ⟨by simpa using hcost, by simpa using hquantity⟩

/-! ## One unit -/

end NumberArithmetic

def tradeOf (side : TradeSide) (quantity price : Decimal) (tradeTime : Date) : ParsedTrade where
  tradeId := "trade"
  orderId := none
  symbol := "BTCUSDT"
  asset := "BTC"
  quoteAsset := some "USDT"
  side
  type := none
  quantity
  price
  quoteQuantity := none
  fee := none
  feeAsset := none
  realizedPnl := none
  tradeTime
  raw := OrderedMap.empty

/-- One unit more is bought than sold: it is neither sold nor held. -/
def leavesUnit : List ParsedTrade :=
  [tradeOf .buy (1 + 1 / 10 ^ 8) 100 1, tradeOf .sell 1 200 2]

namespace NumberArithmetic

/-- The unit is lost in both orders, with its cost. -/
theorem unit_lost :
    sortByTime leavesUnit = leavesUnit ∧
      ∀ order, (exact.lotTrades order [] leavesUnit).2 = [] ∧
        volume (purchases leavesUnit) - volume (sales leavesUnit) = 1 / 10 ^ 8 ∧
        saleCosts (exact.lotTrades order [] leavesUnit).1 = 100 ∧
        turnover (purchases leavesUnit) = 100 + 100 / 10 ^ 8 := by
  refine ⟨rfl, fun order => ?_⟩
  cases order <;> decide +kernel

end NumberArithmetic

end SentinelApex
