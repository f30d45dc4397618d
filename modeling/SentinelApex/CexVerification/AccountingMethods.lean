import SentinelApex.CexVerification.LotMatching

/-!
# Three accounting methods

On a flat book that was never oversold the three methods realize the same profit, and the average
cost position is always what was bought less what was sold. The queues of FIFO and LIFO agree with
that as long as every sale is clean (`methods_agree_iff`): a sale beyond the holdings leaves them
empty instead of short.
-/

namespace SentinelApex

open Lots (held value take)

variable {trades : List ParsedTrade} {order : LotOrder} {position : AveragePosition}
  {lots : List BuyQueueEntry}

namespace NumberArithmetic

/-- The result of a trade: a sale has a cost basis and realizes the rest of its proceeds. -/
structure Describes (result : TradeWithPnl) (trade : ParsedTrade) : Prop where
  side : result.side = trade.side
  quantity : result.quantity = trade.quantity
  price : result.price = trade.price
  realized : trade.side ≠ .buy → result.realizedPnl =
    some (trade.quantity * trade.price - result.costBasis.getD 0)

theorem exact_sumOf {α : Type} (f : α → Number) (items : List α) :
    exact.sumOf f items = (items.map f).sum := by
  have key : ∀ sum : Number, items.foldl (fun sum item => sum + f item) sum =
      sum + (items.map f).sum := by
    induction items with
    | nil => simp
    | cons item items ih =>
      intro sum
      rw [List.foldl_cons, ih, List.map_cons, List.sum_cons, add_assoc]
  exact (key 0).trans (zero_add _)

theorem sumOf_quantity (lots : List BuyQueueEntry) :
    exact.sumOf (fun b => b.quantity) lots = held lots := exact_sumOf _ _

theorem describes_lotTrade (order : LotOrder) (lots : List BuyQueueEntry) (trade : ParsedTrade) :
    Describes (exact.lotTrade order lots trade).1 trade ∧
      (exact.lotTrade order lots trade).1.accumulatedPosition =
        some (held (exact.lotTrade order lots trade).2) := by
  unfold lotTrade
  split
  · exact ⟨⟨rfl, rfl, rfl, fun h => absurd ‹_› h⟩, congrArg some (sumOf_quantity _)⟩
  · exact ⟨⟨rfl, rfl, rfl, fun _ => rfl⟩, congrArg some (sumOf_quantity _)⟩

theorem describes_lotTrades (order : LotOrder) (lots : List BuyQueueEntry)
    (trades : List ParsedTrade) :
    List.Forall₂ Describes (exact.lotTrades order lots trades).1 trades := by
  induction trades generalizing lots with
  | nil => exact .nil
  | cons trade trades ih => exact .cons (describes_lotTrade order lots trade).1 (ih _)

theorem position_lotTrades (h : trades ≠ []) :
    ∃ last, (exact.lotTrades order lots trades).1.getLast? = some last ∧
      last.accumulatedPosition = some (held (exact.lotTrades order lots trades).2) := by
  induction trades generalizing lots with
  | nil => exact absurd rfl h
  | cons trade trades ih =>
    cases trades with
    | nil => exact ⟨_, rfl, (describes_lotTrade order lots trade).2⟩
    | cons next trades =>
      obtain ⟨last, hlast, hposition⟩ :=
        @ih (exact.lotTrade order lots trade).2 (List.cons_ne_nil next trades)
      refine ⟨last, ?_, hposition⟩
      simp only [lotTrades] at hlast ⊢
      rw [List.getLast?_cons_cons]
      exact hlast

theorem averageTrade_spec (position : AveragePosition) (trade : ParsedTrade) :
    Describes (exact.averageTrade position trade).1 trade ∧
      (exact.averageTrade position trade).1.accumulatedPosition =
        some (exact.averageTrade position trade).2.totalQuantity ∧
      (exact.averageTrade position trade).2.totalQuantity =
        position.totalQuantity + (if trade.side = .buy then trade.quantity else 0) -
          (if trade.side = .buy then 0 else trade.quantity) ∧
      (if trade.side = .buy then 0
        else (exact.averageTrade position trade).1.costBasis.getD 0) +
          (exact.averageTrade position trade).2.totalCost =
        position.totalCost + (if trade.side = .buy then trade.quantity * trade.price else 0) := by
  unfold averageTrade
  split
  · rename_i hside
    refine ⟨⟨rfl, rfl, rfl, fun h => absurd hside h⟩, rfl, ?_, ?_⟩ <;> simp [hside]
  · rename_i hside
    have hside : trade.side ≠ .buy := hside
    refine ⟨⟨rfl, rfl, rfl, fun _ => rfl⟩, rfl, ?_, ?_⟩ <;> simp [hside]

def averageAfter (position : AveragePosition) (trades : List ParsedTrade) : AveragePosition :=
  trades.foldl (fun position trade => (exact.averageTrade position trade).2) position

theorem describes_averageTrades (position : AveragePosition) (trades : List ParsedTrade) :
    List.Forall₂ Describes (exact.averageTrades position trades) trades := by
  induction trades generalizing position with
  | nil => exact .nil
  | cons trade trades ih => exact .cons (averageTrade_spec position trade).1 (ih _)

theorem position_averageTrades (h : trades ≠ []) :
    ∃ last, (exact.averageTrades position trades).getLast? = some last ∧
      last.accumulatedPosition = some (averageAfter position trades).totalQuantity := by
  induction trades generalizing position with
  | nil => exact absurd rfl h
  | cons trade trades ih =>
    cases trades with
    | nil => exact ⟨_, rfl, (averageTrade_spec position trade).2.1⟩
    | cons next trades =>
      obtain ⟨last, hlast, hposition⟩ :=
        @ih (exact.averageTrade position trade).2 (List.cons_ne_nil next trades)
      refine ⟨last, ?_, hposition⟩
      simp only [averageTrades] at hlast ⊢
      rw [List.getLast?_cons_cons]
      exact hlast

/-- The average cost position is what was bought less what was sold, also when it is short, and the
costs of the sales and of the position are those of the purchases. -/
theorem averageTrades_conserved (position : AveragePosition) (trades : List ParsedTrade) :
    (averageAfter position trades).totalQuantity =
        position.totalQuantity + volume (purchases trades) - volume (sales trades) ∧
      saleCosts (exact.averageTrades position trades) + (averageAfter position trades).totalCost =
        position.totalCost + turnover (purchases trades) := by
  induction trades generalizing position with
  | nil => simp [averageAfter, averageTrades, saleCosts, purchases, sales, turnover, volume]
  | cons trade trades ih =>
    obtain ⟨hdescribes, -, hquantity, hcost⟩ := averageTrade_spec position trade
    obtain ⟨hquantities, hcosts⟩ := ih (exact.averageTrade position trade).2
    rw [turnover_purchases_cons, volume_purchases_cons, volume_sales_cons, averageTrades,
      saleCosts_cons, hdescribes.side]
    rw [averageAfter, List.foldl_cons, ← averageAfter]
    constructor
    · linarith
    · linarith

section

variable {results : List TradeWithPnl} {trades : List ParsedTrade}

theorem openPosition_eq (h : List.Forall₂ Describes results trades)
    (hsides : ∀ t ∈ trades, t.side = .buy ∨ t.side = .sell) (includeFees : Bool) :
    (exact.generateAssetSummary results includeFees).openPosition =
      volume (purchases trades) - volume (sales trades) := by
  have key : ((results.filter fun t => decide (t.side = .buy)).map fun t => t.quantity).sum =
        volume (purchases trades) ∧
      ((results.filter fun t => decide (t.side = .sell)).map fun t => t.quantity).sum =
        volume (sales trades) := by
    induction h with
    | nil => simp [purchases, sales, volume]
    | @cons result trade results trades hfirst _ ih =>
      obtain ⟨htrade, htrades⟩ := List.forall_mem_cons.1 hsides
      obtain ⟨hbuys, hsells⟩ := ih htrades
      rw [volume_purchases_cons, volume_sales_cons, List.filter_cons, List.filter_cons,
        hfirst.side]
      rcases htrade with hside | hside
      all_goals simp [hside, hbuys, hsells, hfirst.quantity]
  simp only [generateAssetSummary, exact_toStr, exact_sub, exact_sumOf, exact_toNum]
  rw [key.1, key.2]

theorem turnover_sales_cons {trade : ParsedTrade} : turnover (sales (trade :: trades)) =
    (if trade.side = .buy then 0 else trade.quantity * trade.price) + turnover (sales trades) := by
  unfold turnover sales
  rw [List.filter_cons]
  by_cases h : trade.side = .buy <;> simp [h, ParsedTrade.lot]

theorem realizedPnl_eq (h : List.Forall₂ Describes results trades)
    (hsides : ∀ t ∈ trades, t.side = .buy ∨ t.side = .sell) :
    (exact.generateAssetSummary results false).realizedPnl =
      turnover (sales trades) - saleCosts results := by
  have key : ((results.filter fun t => decide (t.side = .sell)).map exact.realized).sum =
      turnover (sales trades) - saleCosts results := by
    induction h with
    | nil => simp [sales, turnover, saleCosts]
    | @cons result trade results trades hfirst _ ih =>
      obtain ⟨htrade, htrades⟩ := List.forall_mem_cons.1 hsides
      have hrest := ih htrades
      rw [turnover_sales_cons, saleCosts_cons, List.filter_cons, hfirst.side]
      rcases htrade with hside | hside
      · simp [hside, hrest]
      · have hrealized : exact.realized result =
            trade.quantity * trade.price - result.costBasis.getD 0 := by
          simp [realized, hfirst.realized (by simp [hside])]
        simp only [hside, decide_true, if_true, reduceCtorEq, if_false, List.map_cons,
          List.sum_cons, hrest, hrealized]
        ring
  simpa only [generateAssetSummary, exact_toStr2, exact_sumOf, Bool.false_eq_true, if_false]
    using key

end

/-- Quantities are amounts, and never more is sold than was bought before. -/
structure NeverOversold (trades : List ParsedTrade) : Prop where
  nonneg : ∀ t ∈ trades, 0 ≤ t.quantity
  covered : ∀ processed, processed <+: trades →
    volume (sales processed) ≤ volume (purchases processed)

section

variable {trades : List ParsedTrade}

theorem quantity_nonneg_of_arrange (h : ∀ lot ∈ lots, 0 ≤ lot.quantity) :
    ∀ lot ∈ order.arrange lots, 0 ≤ lot.quantity := by
  cases order with
  | first => exact h
  | last => exact fun lot hlot => h lot (List.mem_reverse.1 hlot)

theorem quantity_nonneg_of_salesClean (hclean : SalesClean order lots trades)
    (htrades : ∀ t ∈ trades, 0 ≤ t.quantity) (hlots : ∀ lot ∈ lots, 0 ≤ lot.quantity) :
    ∀ lot ∈ (exact.lotTrades order lots trades).2, 0 ≤ lot.quantity := by
  induction trades generalizing lots with
  | nil => exact hlots
  | cons trade trades ih =>
    obtain ⟨htrade, hrest⟩ := List.forall_mem_cons.1 htrades
    simp only [lotTrades, lotTrade_queue hclean.1]
    refine ih hclean.2 hrest ?_
    unfold lotsAfter
    split_ifs
    · refine List.forall_mem_append.2 ⟨hlots, ?_⟩
      simpa [ParsedTrade.lot] using htrade
    · exact quantity_nonneg_of_arrange (Lots.take_nonneg (quantity_nonneg_of_arrange hlots))

theorem saleCosts_of_flat (hclean : SalesClean order [] trades) (hnever : NeverOversold trades)
    (hflat : volume (purchases trades) = volume (sales trades)) :
    saleCosts (exact.lotTrades order [] trades).1 = turnover (purchases trades) := by
  obtain ⟨hcost, hheld⟩ := conserved_of_salesClean hclean
  have hlots := quantity_nonneg_of_salesClean hclean hnever.nonneg (by simp)
  have hvalue := Lots.value_eq_zero_of_held hlots (by rw [hheld, hflat]; simp)
  rw [hvalue] at hcost
  simpa using hcost

theorem totalCost_averageTrade {trade : ParsedTrade}
    (hposition : position.totalQuantity = 0 → position.totalCost = 0)
    (hquantity : 0 ≤ position.totalQuantity) (htrade : 0 ≤ trade.quantity)
    (hzero : (exact.averageTrade position trade).2.totalQuantity = 0) :
    (exact.averageTrade position trade).2.totalCost = 0 := by
  unfold averageTrade at *
  split at hzero
  · simp only [exact_add, exact_mul, exact_toNum] at hzero ⊢
    have hnone : position.totalQuantity = 0 := by linarith
    have htrade0 : trade.quantity = 0 := by linarith
    simp [hposition hnone, htrade0]
  · simp only [exact_sub, exact_mul, exact_toNum] at hzero ⊢
    have hall : trade.quantity = position.totalQuantity := by linarith
    rw [hall, avgPrice, exact_div]
    split_ifs with hpos
    · field_simp
      ring
    · rw [hposition (le_antisymm (not_lt.1 hpos) hquantity)]
      ring

theorem totalCost_averageAfter (hposition : position.totalQuantity = 0 → position.totalCost = 0)
    (htrades : ∀ t ∈ trades, 0 ≤ t.quantity) (hcovered : ∀ processed, processed <+: trades →
      0 ≤ position.totalQuantity + volume (purchases processed) - volume (sales processed)) :
    (averageAfter position trades).totalQuantity = 0 →
      (averageAfter position trades).totalCost = 0 := by
  induction trades generalizing position with
  | nil => exact hposition
  | cons trade trades ih =>
    obtain ⟨htrade, hrest⟩ := List.forall_mem_cons.1 htrades
    have hquantity : 0 ≤ position.totalQuantity := by
      simpa [volume, purchases, sales] using hcovered [] (List.nil_prefix)
    rw [averageAfter, List.foldl_cons, ← averageAfter]
    refine ih (totalCost_averageTrade hposition hquantity htrade) hrest
      fun processed hprocessed => ?_
    have hnext := hcovered (trade :: processed) (List.cons_prefix_cons.2 ⟨rfl, hprocessed⟩)
    rw [volume_purchases_cons, volume_sales_cons] at hnext
    rw [(averageTrade_spec position trade).2.2.1]
    linarith

theorem saleCosts_averageTrades (hnever : NeverOversold trades)
    (hflat : volume (purchases trades) = volume (sales trades)) :
    saleCosts (exact.calculateAveragePnl trades) = turnover (purchases trades) := by
  obtain ⟨hquantity, hcost⟩ := averageTrades_conserved { totalQuantity := 0, totalCost := 0 } trades
  have hzero : (averageAfter { totalQuantity := 0, totalCost := 0 } trades).totalCost = 0 := by
    refine totalCost_averageAfter (fun _ => rfl) hnever.nonneg (fun processed hprocessed => ?_) ?_
    · simpa using hnever.covered processed hprocessed
    · rw [hquantity, hflat]
      simp
  rw [hzero, add_zero] at hcost
  simpa [calculateAveragePnl] using hcost

end

/-- The last position of each method and the open position of its summary are what was bought less
what was sold. -/
structure PositionsAgree (method : PnlCalculationMethod) (trades : List ParsedTrade) : Prop where
  recorded : ∀ last, (exact.calculatePnl method trades).getLast? = some last →
    last.accumulatedPosition = some (volume (purchases trades) - volume (sales trades))
  summary : ∀ includeFees,
    (exact.generateAssetSummary (exact.calculatePnl method trades) includeFees).openPosition =
      volume (purchases trades) - volume (sales trades)

/-- The realized profit, before fees, is the value of the sales less that of the purchases. -/
def TotalAgrees (method : PnlCalculationMethod) (trades : List ParsedTrade) : Prop :=
  (exact.generateAssetSummary (exact.calculatePnl method trades) false).realizedPnl =
    turnover (sales trades) - turnover (purchases trades)

variable (method : PnlCalculationMethod)

theorem describes_calculatePnl (trades : List ParsedTrade) :
    List.Forall₂ Describes (exact.calculatePnl method trades) trades := by
  cases method with
  | fifo => exact describes_lotTrades .first [] trades
  | lifo => exact describes_lotTrades .last [] trades
  | avg => exact describes_averageTrades _ trades

theorem getLast?_calculatePnl_nil :
    (exact.calculatePnl method []).getLast? = none := by cases method <;> rfl

theorem recorded_iff {position : Number}
    (h : trades ≠ [] → ∃ last, (exact.calculatePnl method trades).getLast? = some last ∧
      last.accumulatedPosition = some position)
    (hne : trades ≠ []) :
    (∀ last, (exact.calculatePnl method trades).getLast? = some last →
      last.accumulatedPosition = some (volume (purchases trades) - volume (sales trades))) ↔
      position = volume (purchases trades) - volume (sales trades) := by
  obtain ⟨last, hlast, hposition⟩ := h hne
  rw [hlast]
  constructor
  · intro hall
    rw [hall last rfl] at hposition
    exact (Option.some.inj hposition).symm
  · rintro hposition' last' hlast'
    rw [← Option.some.inj hlast', hposition, hposition']

theorem positionsAgree_lots {method : PnlCalculationMethod}
    (hmethod : ∀ trades, exact.calculatePnl method trades =
      (exact.lotTrades order [] trades).1) (hclean : SalesClean order [] trades)
    (hsides : ∀ t ∈ trades, t.side = .buy ∨ t.side = .sell) : PositionsAgree method trades where
  recorded := by
    by_cases hne : trades = []
    · simp [hne, getLast?_calculatePnl_nil]
    · rw [recorded_iff method (fun hne => by rw [hmethod]; exact position_lotTrades hne) hne]
      simpa using (conserved_of_salesClean hclean).2
  summary := openPosition_eq (describes_calculatePnl method trades) hsides

theorem positionsAgree_avg (hsides : ∀ t ∈ trades, t.side = .buy ∨ t.side = .sell) :
    PositionsAgree .avg trades where
  recorded := by
    by_cases hne : trades = []
    · simp [hne, getLast?_calculatePnl_nil]
    · rw [recorded_iff .avg (fun hne => position_averageTrades hne) hne,
        (averageTrades_conserved _ trades).1]
      simp
  summary := openPosition_eq (describes_calculatePnl .avg trades) hsides

theorem totalAgrees_iff {method : PnlCalculationMethod}
    (hsides : ∀ t ∈ trades, t.side = .buy ∨ t.side = .sell) :
    TotalAgrees method trades ↔
      saleCosts (exact.calculatePnl method trades) = turnover (purchases trades) := by
  rw [TotalAgrees, realizedPnl_eq (describes_calculatePnl method trades) hsides]
  exact sub_right_inj

theorem salesClean_of_recorded
    (hmethod : ∀ trades, exact.calculatePnl method trades = (exact.lotTrades order [] trades).1)
    (h : ∀ processed, processed <+: trades → PositionsAgree method processed) :
    SalesClean order [] trades := by
  refine salesClean_of_held fun processed hprocessed => ?_
  by_cases hne : processed = []
  · simp [hne, lotTrades, volume, purchases, sales]
  · rw [Lots.held_nil, zero_add]
    exact (recorded_iff method (fun hne => by rw [hmethod]; exact position_lotTrades hne) hne).1
      (h processed hprocessed).recorded

/-- After every trade the methods agree on the position, and on a flat book that was never oversold
on the realized profit, if and only if no sale meets dust or exceeds the lots. -/
theorem methods_agree_iff (trades : List ParsedTrade)
    (hsides : ∀ t ∈ trades, t.side = .buy ∨ t.side = .sell) :
    (∀ processed, processed <+: sortByTime trades → ∀ method, PositionsAgree method processed ∧
        (NeverOversold processed → volume (purchases processed) = volume (sales processed) →
          TotalAgrees method processed)) ↔
      ∀ order, SalesClean order [] (sortByTime trades) := by
  constructor
  · intro h order
    cases order with
    | first =>
      exact salesClean_of_recorded .fifo (fun _ => rfl)
        fun processed hprocessed => (h processed hprocessed .fifo).1
    | last =>
      exact salesClean_of_recorded .lifo (fun _ => rfl)
        fun processed hprocessed => (h processed hprocessed .lifo).1
  · intro h processed hprocessed method
    have hclean := fun order => salesClean_of_isPrefix (h order) hprocessed
    have hsides : ∀ t ∈ processed, t.side = .buy ∨ t.side = .sell := fun t ht =>
      hsides t ((List.mem_insertionSort _).1 (hprocessed.subset ht))
    cases method with
    | fifo =>
      exact ⟨positionsAgree_lots (fun _ => rfl) (hclean .first) hsides, fun hnever hflat =>
        (totalAgrees_iff hsides).2 (saleCosts_of_flat (hclean .first) hnever hflat)⟩
    | lifo =>
      exact ⟨positionsAgree_lots (fun _ => rfl) (hclean .last) hsides, fun hnever hflat =>
        (totalAgrees_iff hsides).2 (saleCosts_of_flat (hclean .last) hnever hflat)⟩
    | avg =>
      exact ⟨positionsAgree_avg hsides, fun hnever hflat =>
        (totalAgrees_iff hsides).2 (saleCosts_averageTrades hnever hflat)⟩

/-- Two lots, sold in two parts. -/
def wholeLots : List ParsedTrade :=
  [tradeOf .buy 1 100 1, tradeOf .buy 1 120 2, tradeOf .sell (3 / 2) 150 3,
    tradeOf .sell (1 / 2) 160 4]

theorem methods_agree_wholeLots :
    (∀ order, SalesClean order [] (sortByTime wholeLots)) ∧
    ∀ processed, processed <+: sortByTime wholeLots → ∀ method, PositionsAgree method processed ∧
      (NeverOversold processed → volume (purchases processed) = volume (sales processed) →
        TotalAgrees method processed) := by
  have hclean : ∀ order, SalesClean order [] (sortByTime wholeLots) := by
    intro order
    cases order <;> decide +kernel
  exact ⟨hclean, (methods_agree_iff wholeLots (by decide)).2 hclean⟩

/-- More is sold than was bought: FIFO and LIFO record a position of zero, average cost and the
summaries one short. -/
theorem oversold_positions :
    let trades := [tradeOf .buy 1 100 1, tradeOf .sell 2 150 2]
    (exact.calculateFifoPnl trades).map (fun t => t.accumulatedPosition) = [some 1, some 0] ∧
      (exact.calculateLifoPnl trades).map (fun t => t.accumulatedPosition) = [some 1, some 0] ∧
      (exact.calculateAveragePnl trades).map (fun t => t.accumulatedPosition) =
        [some 1, some (-1)] ∧
      ∀ includeFees, (exact.generateAssetSummary (exact.calculateFifoPnl trades)
        includeFees).openPosition = -1 := by
  decide +kernel

end NumberArithmetic

end SentinelApex
