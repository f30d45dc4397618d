import SentinelApex.CexVerification.RowAccounting
import SentinelApex.Domain.Places

/-!
# What imported trades say

A row with its required fields and a readable date becomes a trade, whatever its quantity and price
cells say, and on Coinbase whatever its side is: a cell that is no number counts as zero. The trades
of a file carry what its rows say exactly if every row that gets that far is well formed
(`parseCexCsv_carries_iff`).
-/

namespace SentinelApex

open SigDigits Decimal

/-! ## Numbers in cells -/

theorem ofDigits_dropWhile_le (p : ℕ → Bool) (l : List ℕ) :
    Nat.ofDigits 10 (l.dropWhile p) ≤ Nat.ofDigits 10 l := by
  induction l with
  | nil => exact le_rfl
  | cons d l ih =>
    rw [List.dropWhile_cons]
    split_ifs
    · rw [Nat.ofDigits_cons]
      omega
    · exact le_rfl

theorem stripZeros_of_mod_ne_zero {n : ℕ} (h : n % 10 ≠ 0) : stripZeros n = n := by
  have hdigits : Nat.digits 10 n = n % 10 :: Nat.digits 10 (n / 10) :=
    Nat.digits_def' (by norm_num) (Nat.pos_of_ne_zero fun h0 => h (by rw [h0]))
  have hdrop : (Nat.digits 10 n).dropWhile (fun d => d == 0) = Nat.digits 10 n := by
    rw [hdigits, List.dropWhile_cons_of_neg (by simpa using h)]
  rw [stripZeros, hdrop, Nat.ofDigits_digits]

theorem stripZeros_le_div {n : ℕ} (h : n % 10 = 0) : stripZeros n ≤ n / 10 := by
  rcases Nat.eq_zero_or_pos n with rfl | hn
  · simp [stripZeros]
  · have hdigits : Nat.digits 10 n = 0 :: Nat.digits 10 (n / 10) := by
      rw [Nat.digits_def' (by norm_num) hn, h]
    have hdrop : (Nat.digits 10 n).dropWhile (fun d => d == 0) =
        (Nat.digits 10 (n / 10)).dropWhile fun d => d == 0 := by
      rw [hdigits, List.dropWhile_cons_of_pos (by decide)]
    calc stripZeros n ≤ Nat.ofDigits 10 (Nat.digits 10 (n / 10)) := by
          rw [stripZeros, hdrop]
          exact ofDigits_dropWhile_le _ _
      _ = n / 10 := Nat.ofDigits_digits 10 _

theorem abs_stripped_le (printed : ℚ) {e : ℕ} (hzero : e % 10 = 0) (he : 20 ≤ e) :
    |printed / 10 ^ e * 10 ^ stripZeros e| * 10 ^ 18 ≤ |printed| := by
  have hexponent : stripZeros e + 18 ≤ e := by
    have := stripZeros_le_div hzero
    omega
  have hpow : (10 : ℚ) ^ stripZeros e * 10 ^ 18 ≤ 10 ^ e := by
    rw [← pow_add]
    exact pow_le_pow_right₀ (by norm_num) hexponent
  have hpos : (0 : ℚ) < 10 ^ e := by positivity
  have hstripped : (0 : ℚ) ≤ 10 ^ stripZeros e := by positivity
  rw [abs_mul, abs_div, abs_of_pos hpos, abs_of_nonneg hstripped, mul_assoc, div_mul_eq_mul_div,
    div_le_iff₀ hpos]
  exact mul_le_mul_of_nonneg_left hpow (abs_nonneg _)

/-- Rounding to a double at most doubles a number or halves it. -/
theorem abs_ofDecimal_bounds (x : ℚ) :
    |Number.ofDecimal x| ≤ 2 * |x| ∧ |x| ≤ 2 * |Number.ofDecimal x| := by
  have pos : ∀ y : ℚ, 0 < y → binary64.round y ≤ 2 * y ∧ y ≤ 2 * binary64.round y := by
    intro y hy
    obtain ⟨hlow, hhigh⟩ := binary64.round_bounds hy
    have hle : ((2 : ℕ) : ℚ) ^ Int.log 2 y ≤ y := Int.zpow_log_le_self (by norm_num) hy
    have hlt : y < ((2 : ℕ) : ℚ) ^ (Int.log 2 y + 1) := Int.lt_zpow_succ_log_self (by norm_num) y
    change ((2 : ℕ) : ℚ) ^ Int.log 2 y ≤ _ at hlow
    change _ ≤ ((2 : ℕ) : ℚ) ^ (Int.log 2 y + 1) at hhigh
    rw [zpow_add_one₀ (by norm_num)] at hlt hhigh
    push_cast at hlow hhigh hle hlt
    constructor <;> linarith
  unfold Number.ofDecimal
  rcases lt_trichotomy x 0 with h | rfl | h
  · have hneg := pos (-x) (by linarith)
    rw [binary64.round_neg] at hneg
    have hround := binary64.round_nonpos h.le
    rw [abs_of_nonpos hround, abs_of_neg h]
    exact hneg
  · simp
  · rw [abs_of_nonneg (binary64.round_nonneg h.le), abs_of_pos h]
    exact pos x h

theorem ofDecimal_toDecimal {n : Number} (h : Number.ofDecimal n = n) :
    Number.ofDecimal (Number.toDecimal n) = n := by
  unfold Number.toDecimal
  cases hfind : ((List.range 17).map fun k => (decimalDigits (k + 1) k.succ_pos).round n).find?
      fun x => decide (Number.ofDecimal x = n) with
  | none => exact h
  | some x =>
    have hx := List.find?_some hfind
    simpa using hx

/-- The double nearest to the number agrees with it to eight places. From `10 ^ 21` on it is its
shortest decimal text that does, and the exponent must not end with a zero. -/
def ExactToEightPlaces (x : ℚ) : Prop :=
  if |Number.ofDecimal x| < 10 ^ 21 then
    roundPlaces (Number.ofDecimal x) 8 = roundPlaces x 8
  else
    Number.toDecimal (Number.ofDecimal x) = roundPlaces x 8 ∧
      Nat.log 10 ⌊|Number.toDecimal (Number.ofDecimal x)|⌋₊ % 10 ≠ 0

theorem strippedFixed_eq_iff (x : ℚ) :
    strippedFixed (Number.ofDecimal x) = roundPlaces x 8 ↔ ExactToEightPlaces x := by
  unfold strippedFixed ExactToEightPlaces
  split_ifs with hsmall
  · exact Iff.rfl
  · set num := Number.ofDecimal x with hnum
    set printed := Number.toDecimal num with hprinted
    set e := Nat.log 10 ⌊|printed|⌋₊ with he
    have hlarge : (10 : ℚ) ^ 21 ≤ |num| := not_lt.1 hsmall
    dsimp only
    by_cases hzero : e % 10 = 0
    · -- The zeros of the exponent are lost: the value is too small by far.
      refine iff_of_false (fun heq => ?_) fun h => h.2 hzero
      have hdouble : Number.ofDecimal num = num := binary64.round_round x
      have hback : Number.ofDecimal printed = num := ofDecimal_toDecimal hdouble
      have hupper : |printed| ≤ 2 * |num| := by
        rw [← hback]
        exact (abs_ofDecimal_bounds printed).2
      have hlower : |num| ≤ 2 * |printed| := by
        rw [← hback]
        exact (abs_ofDecimal_bounds printed).1
      have hfloor : 10 ^ 20 ≤ ⌊|printed|⌋₊ := by
        refine Nat.le_floor ?_
        push_cast
        linarith
      have he20 : 20 ≤ e := Nat.le_log_of_pow_le (by norm_num) hfloor
      have hvalue := abs_stripped_le printed hzero he20
      have hround : |x| ≤ |roundPlaces x 8| + 1 := by
        have hnear := abs_roundPlaces_sub_le x 8
        rw [abs_sub_comm] at hnear
        have hunit : unitOf 8 / 2 ≤ 1 := by norm_num [unitOf]
        have := abs_sub_abs_le_abs_sub x (roundPlaces x 8)
        linarith
      have hx := (abs_ofDecimal_bounds x).1
      rw [← hnum] at hx
      rw [heq] at hvalue
      linarith
    · rw [stripZeros_of_mod_ne_zero hzero, div_mul_cancel₀ _ (by positivity)]
      exact (and_iff_left hzero).symm

theorem exactToEightPlaces_natCast {n : ℕ} (h : n ≤ 2 ^ 53) : ExactToEightPlaces (n : ℚ) := by
  have hround : Number.ofDecimal (n : ℚ) = n := Number.round_natCast h
  have hsmall : (n : ℚ) < 10 ^ 21 := by
    have : (n : ℚ) ≤ 2 ^ 53 := by exact_mod_cast h
    linarith
  rw [ExactToEightPlaces, hround, if_pos (by rwa [abs_of_nonneg (Nat.cast_nonneg n)])]

/-! ## Rows that become trades -/

def timeColumns : CexPlatform → List String
  | .binance => ["Time(UTC)", "Time", "Date(UTC)", "date", "Date"]
  | .okx => ["fillTime", "Timestamp", "time"]
  | .bybit => ["Transaction Time", "Time", "execTime"]
  | .coinbase => ["time", "created at"]

def rowSymbol (platform : CexPlatform) (row : CsvRow) : String :=
  let symbol := columnText row (requiredColumns platform).symbol
  match platform with
  | .coinbase => withoutHyphen symbol
  | _ => symbol

section

variable (texts : CsvTexts) (platform : CexPlatform) (row : CsvRow)

def sideCell : String := texts.toLowerCase (columnText row (requiredColumns platform).side)

def quantityCell : String := columnText row (requiredColumns platform).quantity

def priceCell : String := columnText row (requiredColumns platform).price

def rowTime : Except String Date := parseDate texts (columnText row (timeColumns platform))

def IsSide (side : String) : Prop := side = "buy" ∨ side = "sell"

instance (side : String) : Decidable (IsSide side) := inferInstanceAs (Decidable (_ ∨ _))

/-- The row has its required fields, a side that is checked is one, and its date is readable. -/
structure RowAccepted : Prop where
  fields : (requiredFields texts (requiredColumns platform) row).missing = false
  side : platform = .coinbase ∨ IsSide (sideCell texts platform row)
  time : ∃ date, rowTime texts platform row = .ok date

structure ReadsRow (trade : ParsedTrade) : Prop where
  raw : trade.raw = row
  symbol : trade.symbol = rowSymbol platform row
  buy : trade.side = .buy ↔ sideCell texts platform row = "buy"
  sell : trade.side = .sell ↔ sideCell texts platform row = "sell"
  quantity : trade.quantity = normalizeNumber texts (quantityCell platform row)
  price : trade.price = normalizeNumber texts (priceCell platform row)
  time : rowTime texts platform row = .ok trade.tradeTime

variable {texts platform row}

variable {side timeStr : String}

theorem sideAndTime_eq_ok {date : Date} (hside : IsSide side)
    (htime : parseDate texts timeStr = .ok date) :
    sideAndTime texts side timeStr = .ok (if side = "buy" then .buy else .sell, date) := by
  rcases hside with rfl | rfl
  all_goals simp [sideAndTime, readSide, htime, Except.map]

theorem sideAndTime_eq_error (h : ¬ (IsSide side ∧ ∃ date, parseDate texts timeStr = .ok date)) :
    ∃ message, sideAndTime texts side timeStr = .error message := by
  unfold sideAndTime readSide
  by_cases hside : IsSide side
  · cases htime : parseDate texts timeStr with
    | ok date => exact absurd ⟨hside, date, htime⟩ h
    | error message =>
      rcases hside with rfl | rfl
      · exact ⟨message, rfl⟩
      · exact ⟨message, rfl⟩
  · obtain ⟨hbuy, hsell⟩ := not_or.1 hside
    rw [if_neg hbuy, if_neg hsell]
    exact ⟨_, rfl⟩

theorem buy_or_sell_iff (h : IsSide side) :
    ((if side = "buy" then TradeSide.buy else .sell) = .buy ↔ side = "buy") ∧
      ((if side = "buy" then TradeSide.buy else .sell) = .sell ↔ side = "sell") := by
  rcases h with rfl | rfl
  · decide
  · decide

theorem passedOnSide_iff (side : String) :
    ((if side = "buy" then TradeSide.buy else if side = "sell" then .sell else .other side) = .buy ↔
        side = "buy") ∧
      ((if side = "buy" then TradeSide.buy else if side = "sell" then .sell else .other side) =
        .sell ↔ side = "sell") := by
  by_cases hside : IsSide side
  · rcases hside with rfl | rfl
    · decide
    · decide
  · obtain ⟨hbuy, hsell⟩ := not_or.1 hside
    rw [if_neg hbuy, if_neg hsell]
    exact ⟨iff_of_false (by simp) hbuy, iff_of_false (by simp) hsell⟩

theorem parseTradeRow_of_accepted (h : RowAccepted texts platform row) :
    ∃ trade, parseTradeRow texts row platform = .ok trade ∧ ReadsRow texts platform row trade := by
  obtain ⟨hfields, hside, date, htime⟩ := h
  have hpresent := Bool.eq_false_iff.1 hfields
  cases platform with
  | binance =>
    have hside : IsSide (sideCell texts .binance row) := hside.resolve_left (by decide)
    refine ⟨_, (if_neg hpresent).trans (congrArg _ (sideAndTime_eq_ok hside htime)), ?_⟩
    exact ⟨rfl, rfl, (buy_or_sell_iff hside).1, (buy_or_sell_iff hside).2, rfl, rfl, htime⟩
  | okx =>
    have hside : IsSide (sideCell texts .okx row) := hside.resolve_left (by decide)
    refine ⟨_, (if_neg hpresent).trans (congrArg _ (sideAndTime_eq_ok hside htime)), ?_⟩
    exact ⟨rfl, rfl, (buy_or_sell_iff hside).1, (buy_or_sell_iff hside).2, rfl, rfl, htime⟩
  | bybit =>
    have hside : IsSide (sideCell texts .bybit row) := hside.resolve_left (by decide)
    refine ⟨_, (if_neg hpresent).trans (congrArg _ (sideAndTime_eq_ok hside htime)), ?_⟩
    exact ⟨rfl, rfl, (buy_or_sell_iff hside).1, (buy_or_sell_iff hside).2, rfl, rfl, htime⟩
  | coinbase =>
    refine ⟨_, (if_neg hpresent).trans (congrArg _ htime), ?_⟩
    exact ⟨rfl, rfl, (passedOnSide_iff _).1, (passedOnSide_iff _).2, rfl, rfl, htime⟩

theorem parseTradeRow_of_not_accepted (h : ¬ RowAccepted texts platform row) :
    ∃ message, parseTradeRow texts row platform = .error message := by
  by_cases hmissing : (requiredFields texts (requiredColumns platform) row).missing = true
  · obtain ⟨message, herror, -⟩ := parseTradeRow_of_missing texts hmissing
    exact ⟨message, herror⟩
  · have hfields := Bool.eq_false_iff.2 hmissing
    obtain ⟨message, herror⟩ : ∃ message, sideAndTime texts (sideCell texts platform row)
        (columnText row (timeColumns platform)) = .error message :=
      sideAndTime_eq_error fun hboth => h ⟨hfields, .inr hboth.1, hboth.2⟩
    cases platform with
    | binance | okx | bybit => exact ⟨message, (if_neg hmissing).trans (congrArg _ herror)⟩
    | coinbase =>
      cases htime : rowTime texts .coinbase row with
      | ok date => exact absurd ⟨hfields, .inl rfl, date, htime⟩ h
      | error message => exact ⟨message, (if_neg hmissing).trans (congrArg _ htime)⟩

end

/-! ## Files -/

/-- A trimmed text does not start with an empty line. -/
theorem hasRows_of_two_le {csvContent : String} (h : 2 ≤ (csvLines csvContent).length) :
    HasRows csvContent := by
  refine ⟨h, fun hempty => ?_⟩
  set text := ((csvContent.toList.dropWhile Json.isSpace).reverse.dropWhile Json.isSpace).reverse
    with htext
  have hlines : (csvLines csvContent).map String.toList = text.splitOn '\n' := by
    simp [csvLines, splitLines, Json.trim, htext, Function.comp_def]
  have hprefix : text <+: csvContent.toList.dropWhile Json.isSpace := by
    rw [← List.reverse_suffix, htext, List.reverse_reverse]
    exact List.dropWhile_suffix _
  have hjoin : ['\n'].intercalate (text.splitOn '\n') = text := List.intercalate_splitOn '\n'
  rw [← hlines] at hjoin
  rcases hcases : csvLines csvContent with - | ⟨firstLine, - | ⟨row, rows⟩⟩
  · rw [hcases] at h
    simp at h
  · rw [hcases] at h
    simp at h
  · rw [hcases] at hempty hjoin
    have hfirst : firstLine = "" := hempty
    rw [hfirst, List.map_cons, List.map_cons, List.intercalate_cons_cons] at hjoin
    obtain ⟨rest, hrest⟩ := hprefix
    have hnot := List.head?_dropWhile_not Json.isSpace csvContent.toList
    rw [← hrest, ← hjoin] at hnot
    change Json.isSpace '\n' = false at hnot
    exact absurd hnot (by decide)

/-- The number that a text writes, if it writes one. -/
def cellNumber (written : String → Option ℚ) (cell : String) : Option ℚ :=
  if withoutSeparators cell = "" then none else written (withoutSeparators cell)

def CsvParserOptions.leavesOut (options : CsvParserOptions) (symbol : String) (time : Date) : Bool :=
  (options.validateSymbol.any fun valid => !valid symbol) ||
    (options.minTradeTime.any fun least => decide (time < least)) ||
      options.maxTradeTime.any fun greatest => decide (greatest < time)

section

variable (texts : CsvTexts) (written : String → Option ℚ) (platform : CexPlatform) (row : CsvRow)

structure WellFormedRow : Prop where
  side : IsSide (sideCell texts platform row)
  quantity : ∃ x, cellNumber written (quantityCell platform row) = some x
  price : ∃ x, cellNumber written (priceCell platform row) = some x

/-- Eight places of the numbers survive the way through a double. -/
structure ExactRow : Prop where
  quantity : ∀ x, cellNumber written (quantityCell platform row) = some x → ExactToEightPlaces x
  price : ∀ x, cellNumber written (priceCell platform row) = some x → ExactToEightPlaces x

structure CarriesRow (trade : ParsedTrade) : Prop where
  raw : trade.raw = row
  side : (trade.side = .buy ∧ sideCell texts platform row = "buy") ∨
    (trade.side = .sell ∧ sideCell texts platform row = "sell")
  quantity : ∃ x, cellNumber written (quantityCell platform row) = some x ∧
    trade.quantity = roundPlaces x 8
  price : ∃ x, cellNumber written (priceCell platform row) = some x ∧
    trade.price = roundPlaces x 8

/-- No filter of the options applies to the row. -/
def Kept (options : CsvParserOptions) : Prop :=
  ∀ date, rowTime texts options.platform row = .ok date →
    options.leavesOut (rowSymbol options.platform row) date = false

variable {texts written platform row}

/-- `Number` reads a text as the double nearest to the number that it writes. -/
def ReadsDoubles (texts : CsvTexts) (written : String → Option ℚ) : Prop :=
  ∀ s, s ≠ "" → texts.toNumber s = (written s).map Number.ofDecimal

theorem normalizeNumber_eq (hwritten : ReadsDoubles texts written) {cell : String} {x : ℚ}
    (h : cellNumber written cell = some x) :
    normalizeNumber texts cell = strippedFixed (Number.ofDecimal x) := by
  unfold cellNumber at h
  split_ifs at h with hempty
  rw [normalizeNumber, hwritten _ hempty, h]
  rfl

theorem carriesRow_iff (hwritten : ReadsDoubles texts written) {trade : ParsedTrade}
    (hreads : ReadsRow texts platform row trade) :
    CarriesRow texts written platform row trade ↔
      WellFormedRow texts written platform row ∧ ExactRow written platform row := by
  have hnumber : ∀ {cell : String} {value : Decimal}, value = normalizeNumber texts cell →
      ((∃ x, cellNumber written cell = some x ∧ value = roundPlaces x 8) ↔
        (∃ x, cellNumber written cell = some x) ∧
          ∀ x, cellNumber written cell = some x → ExactToEightPlaces x) := by
    rintro cell _ rfl
    cases hcell : cellNumber written cell with
    | none => simp
    | some x =>
      have hx := strippedFixed_eq_iff x
      rw [← normalizeNumber_eq hwritten hcell] at hx
      simp [hx]
  constructor
  · rintro ⟨-, hside, hquantity, hprice⟩
    have hq := (hnumber hreads.quantity).1 hquantity
    have hp := (hnumber hreads.price).1 hprice
    exact ⟨⟨hside.imp And.right And.right, hq.1, hp.1⟩, hq.2, hp.2⟩
  · rintro ⟨⟨hside, hq, hp⟩, hexact⟩
    refine ⟨hreads.raw, ?_, (hnumber hreads.quantity).2 ⟨hq, hexact.quantity⟩,
      (hnumber hreads.price).2 ⟨hp, hexact.price⟩⟩
    exact hside.imp (fun h => ⟨hreads.buy.2 h, h⟩) fun h => ⟨hreads.sell.2 h, h⟩

end

section

variable (texts : CsvTexts) (written : String → Option ℚ) (csvContent : String)
  (options : CsvParserOptions)

def fileRow (line : String) : CsvRow := lineRow (headerCells csvContent) line

/-- The trades carry what their rows say, and a row that is read and not well formed has an entry
in the errors and is no trade. -/
structure CarriesFile (result : ParseResult) : Prop where
  trades : ∀ trade ∈ result.trades, ∃ line ∈ linesRead texts csvContent options,
    CarriesRow texts written options.platform (fileRow csvContent line.1) trade
  reported : ∀ line ∈ linesRead texts csvContent options, Json.trim line.1 ≠ "" →
    ¬ WellFormedRow texts written options.platform (fileRow csvContent line.1) →
      (∃ e ∈ result.errors, e.row = line.2) ∧
        ∀ trade ∈ result.trades, trade.raw ≠ fileRow csvContent line.1

/-- Each row that is read and accepted is well formed, and exact unless a filter leaves it out. -/
def SoundRows : Prop :=
  ∀ line ∈ linesRead texts csvContent options, Json.trim line.1 ≠ "" →
    RowAccepted texts options.platform (fileRow csvContent line.1) →
      WellFormedRow texts written options.platform (fileRow csvContent line.1) ∧
        (Kept texts (fileRow csvContent line.1) options →
          ExactRow written options.platform (fileRow csvContent line.1))

variable {texts written csvContent options} {line : String}

theorem lineOutcome_of_accepted (hline : Json.trim line ≠ "")
    (h : RowAccepted texts options.platform (fileRow csvContent line)) :
    ∃ trade, ReadsRow texts options.platform (fileRow csvContent line) trade ∧
      ((Kept texts (fileRow csvContent line) options ∧
          lineOutcome texts options (headerCells csvContent) line = .parsed trade) ∨
        (¬ Kept texts (fileRow csvContent line) options ∧
          lineOutcome texts options (headerCells csvContent) line = .skipped)) := by
  obtain ⟨trade, hparse, hreads⟩ := parseTradeRow_of_accepted h
  have hparse' : parseTradeRow texts (lineRow (headerCells csvContent) line) options.platform =
      .ok trade := hparse
  have hkept : Kept texts (fileRow csvContent line) options ↔ options.skips trade = false := by
    have hskips : options.skips trade =
        options.leavesOut (rowSymbol options.platform (fileRow csvContent line)) trade.tradeTime := by
      rw [← hreads.symbol]
      rfl
    rw [hskips]
    refine ⟨fun h => h _ hreads.time, fun h date hdate => ?_⟩
    obtain rfl := Except.ok.inj (hreads.time.symm.trans hdate)
    exact h
  refine ⟨trade, hreads, ?_⟩
  cases hskips : options.skips trade with
  | false => exact .inl ⟨hkept.2 hskips, by simp [lineOutcome, hline, hparse', hskips]⟩
  | true =>
    refine .inr ⟨fun h => ?_, by simp [lineOutcome, hline, hparse', hskips]⟩
    rw [hkept.1 h] at hskips
    cases hskips

theorem lineOutcome_of_not_accepted (hline : Json.trim line ≠ "")
    (h : ¬ RowAccepted texts options.platform (fileRow csvContent line)) :
    ∃ message, lineOutcome texts options (headerCells csvContent) line = .failed message := by
  obtain ⟨message, hparse⟩ := parseTradeRow_of_not_accepted h
  have hparse' : parseTradeRow texts (lineRow (headerCells csvContent) line) options.platform =
      .error message := hparse
  exact ⟨message, by simp [lineOutcome, hline, hparse']⟩

variable {trade : ParsedTrade}

theorem accepted_of_parsed
    (h : lineOutcome texts options (headerCells csvContent) line = .parsed trade) :
    Json.trim line ≠ "" ∧ RowAccepted texts options.platform (fileRow csvContent line) ∧
      Kept texts (fileRow csvContent line) options ∧
        ReadsRow texts options.platform (fileRow csvContent line) trade := by
  have hline : Json.trim line ≠ "" := by
    intro hblank
    rw [lineOutcome, if_pos hblank] at h
    cases h
  by_cases haccepted : RowAccepted texts options.platform (fileRow csvContent line)
  · obtain ⟨other, hreads, houtcome⟩ := lineOutcome_of_accepted hline haccepted
    rw [h] at houtcome
    obtain ⟨hkept, hother⟩ := houtcome.resolve_right fun h => by cases h.2
    obtain rfl := LineOutcome.parsed.inj hother
    exact ⟨hline, haccepted, hkept, hreads⟩
  · obtain ⟨message, hfailed⟩ := lineOutcome_of_not_accepted hline haccepted
    rw [h] at hfailed
    cases hfailed

theorem trades_of_no_rows (texts : CsvTexts) (options : CsvParserOptions)
    (h : ¬ 2 ≤ (csvLines csvContent).length) :
    (parseCexCsv texts csvContent options).trades = [] ∧
      linesRead texts csvContent options = [] := by
  rcases hlines : csvLines csvContent with - | ⟨firstLine, - | ⟨row, rows⟩⟩
  · simp [parseCexCsv, hlines, noRows, linesRead, readLines, TakeThrough.takeThrough]
  · simp [parseCexCsv, hlines, noRows, linesRead, readLines, TakeThrough.takeThrough]
  · rw [hlines] at h
    simp at h

theorem mem_trades_iff :
    trade ∈ (parseCexCsv texts csvContent options).trades ↔
      ∃ line ∈ linesRead texts csvContent options,
        lineOutcome texts options (headerCells csvContent) line.1 = .parsed trade := by
  by_cases hrows : 2 ≤ (csvLines csvContent).length
  · rw [(gathered_parseCexCsv texts options (hasRows_of_two_le hrows)).trades, List.mem_filterMap]
    simp only [lineTrade, LineOutcome.trade_eq_some_iff]
  · obtain ⟨htrades, hread⟩ := trades_of_no_rows texts options hrows
    simp [htrades, hread]

theorem exists_error_iff {line : String × ℕ} (hline : line ∈ linesRead texts csvContent options) :
    (∃ e ∈ (parseCexCsv texts csvContent options).errors, e.row = line.2) ↔
      ∃ message, lineOutcome texts options (headerCells csvContent) line.1 = .failed message := by
  have hrows : 2 ≤ (csvLines csvContent).length := by
    by_contra hrows
    rw [(trades_of_no_rows texts options hrows).2] at hline
    cases hline
  rw [(gathered_parseCexCsv texts options (hasRows_of_two_le hrows)).errors]
  constructor
  · rintro ⟨e, he, hrow⟩
    obtain ⟨other, hother, herror⟩ := List.mem_filterMap.1 he
    obtain ⟨message, hmessage, rfl⟩ := Option.map_eq_some_iff.1 herror
    obtain ⟨i, hi, -, hget⟩ := getElem?_of_mem_linesRead texts options hline
    obtain ⟨j, hj, -, hother⟩ := getElem?_of_mem_linesRead texts options hother
    have hindex : j = i := by
      have hrow' : other.2 = line.2 := hrow
      omega
    rw [hindex, hget] at hother
    rw [Option.some.inj hother]
    exact ⟨message, LineOutcome.message_eq_some_iff.1 hmessage⟩
  · rintro ⟨message, hfailed⟩
    refine ⟨⟨line.2, fileRow csvContent line.1, message⟩, List.mem_filterMap.2 ⟨line, hline, ?_⟩, rfl⟩
    simp [lineError, hfailed, fileRow]

theorem CarriesRow.wellFormed {platform : CexPlatform} {row : CsvRow}
    (h : CarriesRow texts written platform row trade) :
    WellFormedRow texts written platform row := by
  refine ⟨h.side.imp And.right And.right, ?_, ?_⟩
  · obtain ⟨x, hx, -⟩ := h.quantity
    exact ⟨x, hx⟩
  · obtain ⟨x, hx, -⟩ := h.price
    exact ⟨x, hx⟩

/-- The trades of a file carry what it says exactly if the rows that are accepted are sound. -/
theorem parseCexCsv_carries_iff (texts : CsvTexts) (written : String → Option ℚ)
    (csvContent : String) (options : CsvParserOptions) (hwritten : ReadsDoubles texts written) :
    CarriesFile texts written csvContent options (parseCexCsv texts csvContent options) ↔
      SoundRows texts written csvContent options := by
  constructor
  · rintro ⟨htrades, hreported⟩ line hline hblank haccepted
    obtain ⟨trade, hreads, houtcome⟩ := lineOutcome_of_accepted hblank haccepted
    constructor
    · by_contra hbad
      obtain ⟨message, hfailed⟩ := (exists_error_iff hline).1 (hreported line hline hblank hbad).1
      rcases houtcome with ⟨-, h⟩ | ⟨-, h⟩
      · rw [hfailed] at h
        cases h
      · rw [hfailed] at h
        cases h
    · intro hkept
      obtain ⟨-, hparsed⟩ := houtcome.resolve_right fun h => h.1 hkept
      obtain ⟨other, -, hcarries⟩ := htrades trade (mem_trades_iff.2 ⟨line, hline, hparsed⟩)
      rw [← hcarries.raw, hreads.raw] at hcarries
      exact ((carriesRow_iff hwritten hreads).1 hcarries).2
  · intro hsound
    have htrades : ∀ trade ∈ (parseCexCsv texts csvContent options).trades,
        ∃ line ∈ linesRead texts csvContent options,
          CarriesRow texts written options.platform (fileRow csvContent line.1) trade := by
      intro trade htrade
      obtain ⟨line, hline, hparsed⟩ := mem_trades_iff.1 htrade
      obtain ⟨hblank, haccepted, hkept, hreads⟩ := accepted_of_parsed hparsed
      obtain ⟨hwell, hexact⟩ := hsound line hline hblank haccepted
      exact ⟨line, hline, (carriesRow_iff hwritten hreads).2 ⟨hwell, hexact hkept⟩⟩
    refine ⟨htrades, fun line hline hblank hbad => ⟨?_, fun trade htrade hraw => ?_⟩⟩
    · refine (exists_error_iff hline).2 (lineOutcome_of_not_accepted hblank fun haccepted => ?_)
      exact hbad (hsound line hline hblank haccepted).1
    · obtain ⟨other, -, hcarries⟩ := htrades trade htrade
      rw [← hcarries.raw, hraw] at hcarries
      exact hbad hcarries.wellFormed

end

/-! ## Two files -/

/-- The number that a text of `plainTexts` writes. -/
def plainNumber (s : String) : Option ℚ :=
  match s.toList.splitOn '.' with
  | [whole] => if isDigits whole then some (digitsNumber whole) else none
  | [whole, places] =>
    if isDigits whole && isDigits places then
      some ((digitsNumber (whole ++ places) : ℚ) / 10 ^ places.length)
    else none
  | _ => none

theorem readsDoubles_plain : ReadsDoubles plainTexts plainNumber := by
  intro s _
  unfold plainTexts plainNumber
  dsimp only
  rcases s.toList.splitOn '.' with - | ⟨whole, - | ⟨places, - | ⟨next, rest⟩⟩⟩
  · rfl
  · dsimp only
    split_ifs <;> rfl
  · dsimp only
    split_ifs <;> rfl
  · rfl

def plainCsv : String := "tradeId,symbol,side,price,quantity,time\n1,A-B,buy,2,3,1700000000"

theorem carriesFile_plain :
    CarriesFile plainTexts plainNumber plainCsv { platform := .okx, skipInvalidRows := true }
      (parseCexCsv plainTexts plainCsv { platform := .okx, skipInvalidRows := true }) := by
  have hquantity : cellNumber plainNumber (quantityCell .okx
      (fileRow plainCsv "1,A-B,buy,2,3,1700000000")) = some ((3 : ℕ) : ℚ) := by decide +kernel
  have hprice : cellNumber plainNumber (priceCell .okx
      (fileRow plainCsv "1,A-B,buy,2,3,1700000000")) = some ((2 : ℕ) : ℚ) := by decide +kernel
  have hside : IsSide (sideCell plainTexts .okx
      (fileRow plainCsv "1,A-B,buy,2,3,1700000000")) := by decide +kernel
  have hlines : (csvLines plainCsv).tail = ["1,A-B,buy,2,3,1700000000"] := by decide +kernel
  refine (parseCexCsv_carries_iff plainTexts plainNumber plainCsv
    { platform := .okx, skipInvalidRows := true } readsDoubles_plain).2 ?_
  intro line hline _ _
  rw [linesRead_of_skip _ _ rfl, hlines] at hline
  obtain rfl := List.mem_singleton.1 hline
  refine ⟨⟨hside, ⟨_, hquantity⟩, ⟨_, hprice⟩⟩, fun _ => ⟨fun x hx => ?_, fun x hx => ?_⟩⟩
  · obtain rfl := Option.some.inj (hquantity.symm.trans hx)
    exact exactToEightPlaces_natCast (by norm_num)
  · obtain rfl := Option.some.inj (hprice.symm.trans hx)
    exact exactToEightPlaces_natCast (by norm_num)

def holdCsv : String := "trade id,product,side,price,size,time\n1,A-B,hold,2,3,1700000000"

def lettersCsv : String := "tradeId,symbol,side,price,quantity,time\n1,A-B,buy,2,abc,1700000000"

/-- A Coinbase row with another side and an OKX row without a number become trades. -/
theorem parseCexCsv_imports_malformed :
    ((parseCexCsv plainTexts holdCsv { platform := .coinbase }).trades.map fun t => t.side) =
        [.other "hold"] ∧
      ((parseCexCsv plainTexts lettersCsv { platform := .okx }).trades.map fun t => t.quantity) =
        [0] ∧
      (parseCexCsv plainTexts holdCsv { platform := .coinbase }).stats.errors = 0 ∧
      (parseCexCsv plainTexts lettersCsv { platform := .okx }).stats.errors = 0 ∧
      ¬ CarriesFile plainTexts plainNumber holdCsv { platform := .coinbase }
        (parseCexCsv plainTexts holdCsv { platform := .coinbase }) := by
  have hsides : ((parseCexCsv plainTexts holdCsv { platform := .coinbase }).trades.map
      fun t => t.side) = [.other "hold"] := by decide +kernel
  refine ⟨hsides, by decide +kernel, by decide +kernel, by decide +kernel, fun h => ?_⟩
  obtain ⟨trade, htrade, hside⟩ : ∃ trade ∈ (parseCexCsv plainTexts holdCsv
      { platform := .coinbase }).trades, trade.side = .other "hold" := by
    rw [← List.mem_map, hsides]
    exact List.mem_singleton_self _
  obtain ⟨line, -, hcarries⟩ := h.trades trade htrade
  rcases hcarries.side with ⟨hbuy, -⟩ | ⟨hsell, -⟩
  · rw [hside] at hbuy
    cases hbuy
  · rw [hside] at hsell
    cases hsell

end SentinelApex
