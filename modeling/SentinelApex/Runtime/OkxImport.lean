import SentinelApex.CexVerification.CsvParser
import SentinelApex.Lib.CursorPages

/-!
# Import of trades from the exchange

The client of the exchange asks the endpoint of the account's fills page by page, or for one page
only; an import stores what the one page holds as a session. The endpoint answers with the newest
fills of the range that are older than the cursor, which is the time of the last row before.

All fills come once if and only if no page ends among fills of one millisecond, and the session has
them all if and only if they fit on one page (`exchangeImport_complete_iff`).
-/

namespace SentinelApex

/-! ## The exchange -/

/-- A row of the fills; `ts` is its time in milliseconds. -/
structure OkxFill where
  tradeId : String
  ordId : String
  instId : String
  instType : String
  side : String
  fillSz : String
  fillPx : String
  fillFee : String
  fillFeeCcy : String
  ts : Date
  deriving DecidableEq

structure FetchOptions where
  startTime : Option Date
  endTime : Option Date

def FetchOptions.inRange (options : FetchOptions) (fill : OkxFill) : Bool :=
  options.startTime.all (fun start => decide (start ≤ fill.ts)) &&
    options.endTime.all fun stop => decide (fill.ts ≤ stop)

/-- The account's fills in `[begin, end]`. -/
def FetchOptions.range (options : FetchOptions) (history : List OkxFill) : List OkxFill :=
  history.filter options.inRange

/-- The parameters of a request: `startTime` and `endTime` go as `begin` and `end`. -/
structure FillsParams extends FetchOptions where
  limit : ℕ
  after : Option Date

/-- The newest `limit` fills in the range that are strictly older than the cursor, newest first. -/
def FillsEndpoint (history : List OkxFill) (fills : FillsParams → List OkxFill) : Prop :=
  ∀ params, CursorPages.IsPage OkxFill.ts params.limit
    ((params.range history).filter (CursorPages.olderThan OkxFill.ts params.after))
    (fills params)

/-! ## The client -/

/-- The texts that floating point numbers and Unicode take part in: `toLowerCase`,
`(parseFloat(a) * parseFloat(b)).toString()` and the text of a sum of volumes. -/
structure JsTexts where
  toLowerCase : String → String
  product : String → String → String
  sum : List (String × String × String) → String

structure OkxTrade where
  tradeId : String
  orderId : String
  symbol : String
  asset : String
  quoteAsset : String
  side : String
  type : String
  quantity : String
  price : String
  quoteQuantity : String
  fee : String
  feeAsset : String
  tradeTime : Date
  rawData : OkxFill
  deriving DecidableEq

namespace OkxApiClient

def limit : ℕ := 100

section

variable (texts : JsTexts)

def toTrade (fill : OkxFill) : OkxTrade :=
  let instParts := (fill.instId.toList.splitOn '-').map String.ofList
  { tradeId := fill.tradeId
    orderId := fill.ordId
    symbol := fill.instId
    asset := instParts[0]?.getD "UNKNOWN"
    quoteAsset := instParts[1]?.getD "USDT"
    side := texts.toLowerCase fill.side
    type := fill.instType
    quantity := fill.fillSz
    price := fill.fillPx
    quoteQuantity := texts.product fill.fillSz fill.fillPx
    fee := fill.fillFee
    feeAsset := fill.fillFeeCcy
    tradeTime := fill.ts
    rawData := fill }

variable (fills : FillsParams → List OkxFill)

def fetchTradeHistory (options : FetchOptions) (limit : Option ℕ) : List OkxTrade :=
  (fills { options with limit := limit.getD 100, after := none }).map (toTrade texts)

/-- `while (true)`; `none` is a client that still asks after `fuel` requests. -/
def fetchAllTradesLoop (options : FetchOptions) :
    ℕ → Option Date → List OkxTrade → Option (List OkxTrade)
  | 0, _, _ => none
  | fuel + 1, after, allTrades =>
    let data := fills { options with limit := limit, after := after }
    if data.length = 0 then some allTrades
    else
      let trades := data.map (toTrade texts)
      -- Fewer rows than the limit are the end.
      if data.length < limit then some (allTrades ++ trades)
      else fetchAllTradesLoop options fuel (data.getLast?.map OkxFill.ts) (allTrades ++ trades)

def fetchAllTrades (options : FetchOptions) (fuel : ℕ) : Option (List OkxTrade) :=
  fetchAllTradesLoop texts fills options fuel none []

end

end OkxApiClient

/-! ## The import -/

structure CexTradeImportRow where
  id : String
  sleeveId : String
  strategyId : String
  platform : CexPlatform
  importType : String
  status : String
  statusMessage : String
  validationPassed : Bool
  totalRowsParsed : ℕ
  validTradesCount : ℕ
  invalidTradesCount : ℕ
  totalVolumeUsd : String
  firstTradeAt : Option Date
  lastTradeAt : Option Date
  createdBy : String

structure CexImportedTradeRow where
  importId : String
  tradeId : String
  orderId : String
  platform : CexPlatform
  symbol : String
  asset : String
  quoteAsset : String
  side : String
  type : String
  quantity : String
  price : String
  quoteQuantity : String
  fee : String
  feeAsset : String
  tradeTime : Date
  isValid : Bool
  rawData : OkxFill
  deriving DecidableEq

structure CexTables where
  cexTradeImports : List CexTradeImportRow
  cexImportedTrades : List CexImportedTradeRow

structure FetchCexTradesInput where
  operatorId : String
  sleeveId : String
  platform : CexPlatform
  startTime : Option Date
  endTime : Option Date

def FetchCexTradesInput.options (input : FetchCexTradesInput) : FetchOptions :=
  { startTime := input.startTime, endTime := input.endTime }

structure FetchCexTradesResult where
  sessionId : String
  totalTrades : ℕ
  errors : List String

namespace CexTables

def tradeRow (platform : CexPlatform) (sessionId : String) (trade : OkxTrade) :
    CexImportedTradeRow :=
  { importId := sessionId
    tradeId := trade.tradeId
    orderId := trade.orderId
    platform
    symbol := trade.symbol
    asset := trade.asset
    quoteAsset := trade.quoteAsset
    side := trade.side
    type := trade.type
    quantity := trade.quantity
    price := trade.price
    quoteQuantity := trade.quoteQuantity
    fee := trade.fee
    feeAsset := trade.feeAsset
    tradeTime := trade.tradeTime
    isValid := true
    rawData := trade.rawData }

def fetchCexTradesFromApi (texts : JsTexts) (fills : FillsParams → List OkxFill)
    (input : FetchCexTradesInput) (sessionId : String) (tables : CexTables) :
    Except String FetchCexTradesResult × CexTables :=
  if input.platform ≠ .okx then
    (.error (s!"{input.platform.text} API trade fetching not yet implemented. " ++
      "Use CSV import instead."), tables)
  else
    let trades := OkxApiClient.fetchTradeHistory texts fills input.options none
    let session : CexTradeImportRow :=
      { id := sessionId
        sleeveId := input.sleeveId
        strategyId := "carry"
        platform := input.platform
        importType := "api"
        status := "completed"
        statusMessage := s!"Fetched {trades.length} trades from OKX API"
        validationPassed := true
        totalRowsParsed := trades.length
        validTradesCount := trades.length
        invalidTradesCount := 0
        totalVolumeUsd := texts.sum (trades.map fun t => (t.quoteQuantity, t.quantity, t.price))
        firstTradeAt := (trades.map OkxTrade.tradeTime).min?
        lastTradeAt := (trades.map OkxTrade.tradeTime).max?
        createdBy := input.operatorId }
    (.ok { sessionId, totalTrades := trades.length, errors := [] },
      { cexTradeImports := tables.cexTradeImports ++ [session]
        cexImportedTrades :=
          tables.cexImportedTrades ++ trades.map (tradeRow input.platform sessionId) })

def sessionTrades (tables : CexTables) (sessionId : String) : List CexImportedTradeRow :=
  tables.cexImportedTrades.filter fun row => row.importId == sessionId

end CexTables

/-! ## Completeness -/

section

variable (texts : JsTexts) (fills : FillsParams → List OkxFill) (history : List OkxFill)

def FetchesTrades (options : FetchOptions) (trades : List OkxTrade) : Prop :=
  ∃ requests, ∀ fuel, requests ≤ fuel →
    OkxApiClient.fetchAllTrades texts fills options fuel = some trades

/-- The client stops with every fill of the range once. -/
def FetchesAll (options : FetchOptions) : Prop :=
  ∃ trades, FetchesTrades texts fills options trades ∧
    trades.Perm ((options.range history).map (OkxApiClient.toTrade texts))

def StoresAll (input : FetchCexTradesInput) (sessionId : String) (tables : CexTables) : Prop :=
  ∃ result tables', CexTables.fetchCexTradesFromApi texts fills input sessionId tables =
      (.ok result, tables') ∧
    (tables'.sessionTrades result.sessionId).Perm ((input.options.range history).map fun fill =>
      CexTables.tradeRow input.platform sessionId (OkxApiClient.toTrade texts fill))

variable {texts fills history}

theorem FetchesTrades.unique {options : FetchOptions} {trades trades' : List OkxTrade}
    (h : FetchesTrades texts fills options trades)
    (h' : FetchesTrades texts fills options trades') : trades = trades' := by
  obtain ⟨requests, h⟩ := h
  obtain ⟨requests', h'⟩ := h'
  have hfuel := h (max requests requests') (le_max_left _ _)
  rw [h' _ (le_max_right _ _)] at hfuel
  exact (Option.some.inj hfuel).symm

namespace OkxApiClient

theorem toTrade_injective : Function.Injective (toTrade texts) :=
  fun _ _ h => congrArg OkxTrade.rawData h

/-- The loop is the client of the library, with the rows mapped. -/
theorem fetchAllTradesLoop_eq (options : FetchOptions) (fuel : ℕ) (after : Option Date)
    (rows : List OkxFill) :
    fetchAllTradesLoop texts fills options fuel after (rows.map (toTrade texts)) =
      (CursorPages.collect OkxFill.ts limit
        (fun cursor => fills { options with limit := limit, after := cursor }) fuel after rows).map
        (List.map (toTrade texts)) := by
  induction fuel generalizing after rows with
  | zero => rfl
  | succ fuel ih =>
    simp only [fetchAllTradesLoop, CursorPages.collect]
    split_ifs
    · rfl
    · simp
    · rw [← List.map_append, ih]

variable (texts) in
theorem fetchAllTrades_spec (hfills : FillsEndpoint history fills) (options : FetchOptions) :
    ∃ trades, FetchesTrades texts fills options trades ∧
      (trades.Perm ((options.range history).map (toTrade texts)) ↔
        ∀ ts, ¬ CursorPages.Straddles OkxFill.ts limit (options.range history) ts) := by
  have hlimit : 0 < limit := by decide
  have hpages : ∀ cursor, CursorPages.IsPage OkxFill.ts limit
      ((options.range history).filter (CursorPages.olderThan OkxFill.ts cursor))
      (fills { options with limit := limit, after := cursor }) :=
    fun cursor => hfills { options with limit := limit, after := cursor }
  obtain ⟨rows, hrows, hperm⟩ := CursorPages.collect_perm_iff hlimit hpages
  refine ⟨rows.map (toTrade texts), ⟨(options.range history).length + 1, fun fuel hfuel => ?_⟩, ?_⟩
  · rw [fetchAllTrades, ← List.map_nil, fetchAllTradesLoop_eq, hrows fuel hfuel, Option.map_some]
  · rw [List.map_perm_map_iff toTrade_injective]
    exact hperm

end OkxApiClient

variable (texts) in
/-- All pages hold every fill once if and only if no page ends among fills of one millisecond. -/
theorem fetchesAll_iff (hfills : FillsEndpoint history fills) (options : FetchOptions) :
    FetchesAll texts fills history options ↔
      ∀ ts, ¬ CursorPages.Straddles OkxFill.ts OkxApiClient.limit (options.range history) ts := by
  obtain ⟨trades, htrades, hperm⟩ := OkxApiClient.fetchAllTrades_spec texts hfills options
  rw [← hperm]
  constructor
  · rintro ⟨trades', htrades', hperm'⟩
    rwa [htrades.unique htrades']
  · intro hperm'
    exact ⟨trades, htrades, hperm'⟩

namespace CexTables

/-- The rows of a fresh session are those of the one page that was asked for. -/
theorem sessionTrades_fetchCexTradesFromApi {input : FetchCexTradesInput} {sessionId : String}
    {tables tables' : CexTables} {result : FetchCexTradesResult} (hokx : input.platform = .okx)
    (hfresh : tables.sessionTrades sessionId = [])
    (h : tables.fetchCexTradesFromApi texts fills input sessionId = (.ok result, tables')) :
    tables'.sessionTrades result.sessionId =
      (fills { input.options with limit := 100, after := none }).map fun fill =>
        tradeRow input.platform sessionId (OkxApiClient.toTrade texts fill) := by
  rw [fetchCexTradesFromApi, if_neg (not_not.2 hokx)] at h
  simp only [Prod.mk.injEq, Except.ok.injEq] at h
  obtain ⟨rfl, rfl⟩ := h
  rw [sessionTrades, List.filter_append]
  rw [sessionTrades] at hfresh
  rw [hfresh, List.nil_append, List.filter_eq_self.2, OkxApiClient.fetchTradeHistory, List.map_map]
  · rfl
  · intro row hrow
    obtain ⟨trade, -, rfl⟩ := List.mem_map.1 hrow
    simp [tradeRow]

end CexTables

variable (texts) in
theorem storesAll_iff (hfills : FillsEndpoint history fills) {input : FetchCexTradesInput}
    {sessionId : String} {tables : CexTables} (hokx : input.platform = .okx)
    (hfresh : tables.sessionTrades sessionId = []) :
    StoresAll texts fills history input sessionId tables ↔
      (input.options.range history).length ≤ 100 := by
  obtain ⟨arranged, hperm, -, hpage⟩ := hfills { input.options with limit := 100, after := none }
  have hall : (input.options.range history).filter (CursorPages.olderThan OkxFill.ts none) =
      input.options.range history := List.filter_eq_self.2 fun _ _ => rfl
  rw [hall] at hperm
  constructor
  · rintro ⟨result, tables', h, hrows⟩
    have hlength := hrows.length_eq
    rw [CexTables.sessionTrades_fetchCexTradesFromApi hokx hfresh h, hpage, List.length_map,
      List.length_map, List.length_take] at hlength
    have hmin : min 100 arranged.length = (input.options.range history).length := hlength
    omega
  · intro hlength
    obtain ⟨result, tables', h⟩ : ∃ result tables',
        tables.fetchCexTradesFromApi texts fills input sessionId = (.ok result, tables') := by
      rw [CexTables.fetchCexTradesFromApi, if_neg (not_not.2 hokx)]
      exact ⟨_, _, rfl⟩
    refine ⟨result, tables', h, ?_⟩
    rw [CexTables.sessionTrades_fetchCexTradesFromApi hokx hfresh h, hpage,
      List.take_of_length_le (by rw [hperm.length_eq]; exact hlength)]
    exact hperm.map _

/-- The client always stops. It returns every fill of the range once if and only if no page ends
among fills of one millisecond, and the session has them all as well if and only if they fit on one
page. -/
theorem exchangeImport_complete_iff (hfills : FillsEndpoint history fills)
    {input : FetchCexTradesInput} {sessionId : String} {tables : CexTables}
    (hokx : input.platform = .okx) (hfresh : tables.sessionTrades sessionId = []) :
    (∃ trades, FetchesTrades texts fills input.options trades) ∧
      (FetchesAll texts fills history input.options ↔ ∀ ts,
        ¬ CursorPages.Straddles OkxFill.ts OkxApiClient.limit (input.options.range history) ts) ∧
      (FetchesAll texts fills history input.options ∧
          StoresAll texts fills history input sessionId tables ↔
        (input.options.range history).length ≤ 100) := by
  obtain ⟨trades, htrades, -⟩ := OkxApiClient.fetchAllTrades_spec texts hfills input.options
  have hfetches := fetchesAll_iff texts hfills input.options
  have hstores := storesAll_iff texts hfills hokx hfresh
  refine ⟨⟨trades, htrades⟩, hfetches, fun h => hstores.1 h.2,
    fun hlength => ⟨?_, hstores.2 hlength⟩⟩
  exact hfetches.2 fun ts => CursorPages.not_straddles_of_length_le hlength ts

end

/-! ## An endpoint -/

def serveFills (history : List OkxFill) (params : FillsParams) : List OkxFill :=
  ((((params.range history).filter (CursorPages.olderThan OkxFill.ts params.after)).insertionSort
    fun newer older => older.ts ≤ newer.ts)).take params.limit

theorem serveFills_endpoint (history : List OkxFill) :
    FillsEndpoint history (serveFills history) := by
  intro params
  have : Std.Total fun newer older : OkxFill => older.ts ≤ newer.ts :=
    ⟨fun newer older => le_total older.ts newer.ts⟩
  have : IsTrans OkxFill fun newer older => older.ts ≤ newer.ts :=
    ⟨fun _ _ _ h h' => h'.trans h⟩
  exact ⟨_, List.perm_insertionSort _ _, List.pairwise_insertionSort _ _, rfl⟩

def sampleFill (tradeId : String) (ts : Date) : OkxFill :=
  { tradeId, ordId := "1", instId := "BTC-USDT", instType := "SPOT", side := "buy", fillSz := "1",
    fillPx := "100", fillFee := "0", fillFeeCcy := "USDT", ts }

/-- The platform on fills of one unit at the price 100. -/
def sampleTexts : JsTexts :=
  { toLowerCase := id
    product := fun fillSz fillPx => if fillSz = "1" then fillPx else "NaN"
    sum := fun volumes => toString (100 * volumes.length) }

def sampleImport : FetchCexTradesInput :=
  { operatorId := "ops", sleeveId := "carry", platform := .okx, startTime := none, endTime := none }

theorem exchangeImport_complete_sample :
    FetchesAll sampleTexts (serveFills [sampleFill "1" 1000, sampleFill "2" 2000])
        [sampleFill "1" 1000, sampleFill "2" 2000] sampleImport.options ∧
      StoresAll sampleTexts (serveFills [sampleFill "1" 1000, sampleFill "2" 2000])
        [sampleFill "1" 1000, sampleFill "2" 2000] sampleImport "session" ⟨[], []⟩ :=
  (exchangeImport_complete_iff (serveFills_endpoint _) rfl rfl).2.2.2 (by decide)

def busyMillisecond : List OkxFill := (List.range 101).map fun n => sampleFill (toString n) 1000

/-- The last one of 101 fills of one millisecond is neither returned nor stored. -/
theorem busyMillisecond_loses : FillsEndpoint busyMillisecond (serveFills busyMillisecond) ∧
    ¬ FetchesAll sampleTexts (serveFills busyMillisecond) busyMillisecond sampleImport.options ∧
    ¬ StoresAll sampleTexts (serveFills busyMillisecond) busyMillisecond sampleImport "session"
      ⟨[], []⟩ := by
  have hfills := serveFills_endpoint busyMillisecond
  refine ⟨hfills, fun h => ?_, fun h => ?_⟩
  · exact (fetchesAll_iff sampleTexts hfills sampleImport.options).1 h 1000
      ⟨1, by decide +kernel, by decide +kernel⟩
  · have hlength := (storesAll_iff sampleTexts hfills rfl rfl).1 h
    revert hlength
    decide +kernel

end SentinelApex
