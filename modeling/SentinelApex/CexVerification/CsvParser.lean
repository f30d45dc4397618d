import SentinelApex.Carry.RealizedApy
import SentinelApex.Domain.Json
import Mathlib.Data.Nat.Digits.Defs
import Mathlib.Data.List.Sort

/-!
# Trade histories of exchanges

`parseCexCsv` reads the rows of a trade history, with the columns of its platform.
`validateCsvFormat` and `detectPlatform` look for texts in the lower-case header instead.

Texts are sequences of characters, also where the source counts UTF-16 units (the symbols of
exchanges are ASCII). Decimal texts are given by their values.
-/

namespace SentinelApex

inductive CexPlatform where
  | binance
  | okx
  | bybit
  | coinbase
  deriving DecidableEq, Repr

def CexPlatform.text : CexPlatform → String
  | .binance => "binance"
  | .okx => "okx"
  | .bybit => "bybit"
  | .coinbase => "coinbase"

/-- Functions of the runtime on texts: `toLowerCase` follows Unicode, and `newDate` and `toNumber`
give `none` for an invalid date and for `NaN`. -/
structure CsvTexts where
  toLowerCase : String → String
  newDate : String → Option Date
  toNumber : String → Option Number
  /-- No character is dropped. -/
  toLowerCase_eq_empty : ∀ s, toLowerCase s = "" ↔ s = ""

/-- The side of a Coinbase row is not checked. -/
inductive TradeSide where
  | buy
  | sell
  | other (text : String)
  deriving DecidableEq, Repr

abbrev CsvRow := OrderedMap String String

structure ParsedTrade where
  tradeId : String
  orderId : Option String
  symbol : String
  asset : String
  quoteAsset : Option String
  side : TradeSide
  type : Option String
  quantity : Decimal
  price : Decimal
  quoteQuantity : Option Decimal
  fee : Option Decimal
  feeAsset : Option String
  realizedPnl : Option Decimal
  tradeTime : Date
  raw : CsvRow

structure ParseError where
  row : ℕ
  raw : CsvRow
  message : String

structure ParseStats where
  totalRows : ℕ
  parsedTrades : ℕ
  skippedRows : ℕ
  errors : ℕ
  dateRange : Option (Date × Date)
  deriving DecidableEq

structure ParseResult where
  trades : List ParsedTrade
  errors : List ParseError
  stats : ParseStats

structure CsvParserOptions where
  platform : CexPlatform
  skipInvalidRows : Bool := false
  validateSymbol : Option (String → Bool) := none
  minTradeTime : Option Date := none
  maxTradeTime : Option Date := none

/-! ## Lines and cells -/

/-- `s.includes(part)`. -/
def includes (s part : String) : Bool := decide (part.toList <:+: s.toList)

/-- `s.split('\n')`. -/
def splitLines (s : String) : List String := (s.toList.splitOn '\n').map String.ofList

structure CellReader where
  result : List String
  current : List Char
  inQuotes : Bool

def CellReader.read (r : CellReader) (char : Char) : CellReader :=
  if char = '"' then { r with inQuotes := !r.inQuotes }
  else if char = ',' ∧ r.inQuotes = false then
    { r with result := r.result ++ [Json.trim (String.ofList r.current)], current := [] }
  else { r with current := r.current ++ [char] }

def parseCsvLine (line : String) : List String :=
  let r := line.toList.foldl CellReader.read { result := [], current := [], inQuotes := false }
  r.result ++ [Json.trim (String.ofList r.current)]

/-- `headers.forEach`: a missing value is empty, and the last of two equal headers wins. -/
def arrayToObject (headers values : List String) : CsvRow :=
  headers.zipIdx.foldl
    (fun result header => result.set (Json.trim header.1) (values[header.2]?.getD ""))
    OrderedMap.empty

/-- `row[a] || row[b] || … || ''`. -/
def columnText (row : CsvRow) : List String → String
  | [] => ""
  | name :: names =>
    let value := (row.get? name).getD ""
    if value = "" then columnText row names else value

/-- `row[a] || row[b] || … || undefined`. -/
def optionalText (row : CsvRow) (names : List String) : Option String :=
  let value := columnText row names
  if value = "" then none else some value

/-- `row[a] || row[b]`. -/
def eitherText (row : CsvRow) (a b : String) : Option String :=
  if (row.get? a).getD "" = "" then row.get? b else row.get? a

/-! ## Symbols, numbers and dates -/

def isDigits (cs : List Char) : Bool := cs.all Char.isDigit

/-- `PERP`, `PERPETUAL` or an expiry in June or September 2025, in any case. -/
def isContractSuffix (cs : List Char) : Bool :=
  let upper := cs.map Char.toUpper
  upper == "PERP".toList || upper == "PERPETUAL".toList ||
    (cs.length == 6 && isDigits (cs.drop 4) &&
      (cs.take 4 == "2506".toList || cs.take 4 == "2509".toList))

/-- The symbol without the contract after its last `_` or `-`. -/
def cleanSymbol (symbol : String) : String :=
  let cs := symbol.toList
  let suffix := (cs.reverse.takeWhile fun c => c != '_' && c != '-').reverse
  if suffix.length < cs.length ∧ isContractSuffix suffix = true then
    String.ofList (cs.take (cs.length - suffix.length - 1))
  else symbol

def quoteAssets : List String := ["USDT", "USDC", "USD", "BUSD", "BTC", "ETH"]

def extractAssetsFromSymbol (symbol : String) : String × String :=
  let clean := (cleanSymbol symbol).toList
  let known := quoteAssets.findSome? fun quote =>
    let asset := clean.take (clean.length - quote.toList.length)
    if quote.toList.isSuffixOf clean ∧ asset ≠ [] then some (String.ofList asset, quote) else none
  match known with
  | some assets => assets
  | none =>
    if 6 ≤ clean.length then (String.ofList (clean.take 3), String.ofList (clean.drop 3))
    else (String.ofList clean, "UNKNOWN")

def extractAssetsFromOkxSymbol (symbol : String) : String × String :=
  match symbol.toList.splitOn '-' with
  | base :: quote :: _ =>
    if base ≠ [] ∧ quote ≠ [] then (String.ofList base, String.ofList quote)
    else extractAssetsFromSymbol symbol
  | _ => extractAssetsFromSymbol symbol

/-- `product.replace('-', '')`: the first hyphen only. -/
def withoutHyphen (product : String) : String := String.ofList (product.toList.erase '-')

/-- `value.replace(/[,\s$€£]/g, '')`. -/
def withoutSeparators (value : String) : String :=
  String.ofList (value.toList.filter fun c =>
    !(c == ',' || Json.isSpace c || c == '$' || c == '€' || c == '£'))

/-- The number without the zeros at the end of its text. -/
def stripZeros (n : ℕ) : ℕ := Nat.ofDigits 10 ((Nat.digits 10 n).dropWhile fun d => d == 0)

/-- `num.toFixed(8).replace(/\.?0+$/, '')`: a number from `1e21` on is printed with an exponent, and
loses the zeros at the end of the exponent. -/
def strippedFixed (num : Number) : Decimal :=
  if |num| < 10 ^ 21 then Decimal.roundPlaces num 8
  else
    let printed := Number.toDecimal num
    let exponent := Nat.log 10 ⌊|printed|⌋₊
    printed / 10 ^ exponent * 10 ^ stripZeros exponent

section

variable (texts : CsvTexts)

def normalizeNumber (value : String) : Decimal :=
  match texts.toNumber (withoutSeparators value) with
  | none => 0
  | some num => strippedFixed num

def calculateQuoteQuantity (quantity price : String) : Decimal :=
  let qty := Number.ofDecimal (normalizeNumber texts quantity)
  let prc := Number.ofDecimal (normalizeNumber texts price)
  strippedFixed (qty.mul prc)

/-- `new Date(ts)` of a number: an integer within the range of dates. -/
def dateOfNumber (ts : Number) : Option Date :=
  if |ts| ≤ 8640000000000000 then some (Json.truncate ts) else none

/-- A text that starts with a date and a time of the day, as UTC. -/
def dateOfTimestamp (s : String) : Option Date :=
  let cs := s.toList
  let date := cs.take 10
  let time := (cs.drop 11).take 8
  let isDate := isDigits (date.take 4) && (date.drop 4).take 1 == ['-'] &&
    isDigits ((date.drop 5).take 2) && (date.drop 7).take 1 == ['-'] && isDigits (date.drop 8)
  let isTime := isDigits (time.take 2) && (time.drop 2).take 1 == [':'] &&
    isDigits ((time.drop 3).take 2) && (time.drop 5).take 1 == [':'] && isDigits (time.drop 6)
  let isBetween := ((cs.drop 10).take 1).all fun c => Json.isSpace c || c == 'T'
  if time.length = 8 ∧ isDate = true ∧ isBetween = true ∧ isTime = true then
    texts.newDate (String.ofList date ++ "T" ++ String.ofList time ++ "Z")
  else none

/-- The formats one after the other: a date text, a timestamp text, milliseconds, seconds. -/
def parseDate (dateStr : String) : Except String Date :=
  let millis := (texts.toNumber dateStr).bind fun ts =>
    if 1000000000000 < ts then dateOfNumber ts else none
  let seconds := (texts.toNumber dateStr).bind fun ts =>
    if 1000000000 < ts ∧ ts < 10000000000 then dateOfNumber (ts.mul 1000) else none
  match [texts.newDate dateStr, dateOfTimestamp texts dateStr, millis, seconds].findSome? id with
  | some date => .ok date
  | none => .error ("Unable to parse date: " ++ dateStr)

/-! ## Rows -/

/-- The columns in which a required field is looked up, the preferred one first. -/
structure RequiredColumns where
  tradeId : List String
  symbol : List String
  side : List String
  price : List String
  quantity : List String

def RequiredColumns.groups (columns : RequiredColumns) : List (List String) :=
  [columns.tradeId, columns.symbol, columns.side, columns.price, columns.quantity]

structure RequiredFields where
  tradeId : String
  symbol : String
  side : String
  price : String
  quantity : String

def requiredFields (columns : RequiredColumns) (row : CsvRow) : RequiredFields where
  tradeId := columnText row columns.tradeId
  symbol := columnText row columns.symbol
  side := texts.toLowerCase (columnText row columns.side)
  price := columnText row columns.price
  quantity := columnText row columns.quantity

/-- `!tradeId || !symbol || !side || !price || !quantity`. -/
def RequiredFields.missing (fields : RequiredFields) : Bool :=
  fields.tradeId == "" || fields.symbol == "" || fields.side == "" || fields.price == "" ||
    fields.quantity == ""

def readSide (side : String) : Except String TradeSide :=
  if side = "buy" then .ok .buy
  else if side = "sell" then .ok .sell
  else .error ("Invalid side: " ++ side)

def sideAndTime (side timeStr : String) : Except String (TradeSide × Date) :=
  match readSide side with
  | .error message => .error message
  | .ok side => (parseDate texts timeStr).map fun tradeTime => (side, tradeTime)

def binanceColumns : RequiredColumns where
  tradeId := ["Trade ID", "tradeId", "OrderNo", "OrderId"]
  symbol := ["Symbol", "symbol", "Pair"]
  side := ["Side", "side"]
  price := ["Price", "price", "Average Price"]
  quantity := ["Quantity", "Executed", "Amount", "quantity"]

def okxColumns : RequiredColumns where
  tradeId := ["tradeId", "Trade ID", "ordId"]
  symbol := ["instId", "Instrument", "symbol"]
  side := ["side", "Side"]
  price := ["fillPx", "Price", "price"]
  quantity := ["fillSz", "Size", "quantity"]

def bybitColumns : RequiredColumns where
  tradeId := ["Trade ID", "tradeId", "execId"]
  symbol := ["Symbol", "symbol"]
  side := ["Side", "side"]
  price := ["Price", "execPrice", "price"]
  quantity := ["Qty", "Size", "execQty"]

/-- The product of a row stands for its symbol. -/
def coinbaseColumns : RequiredColumns where
  tradeId := ["trade id", "trade_id"]
  symbol := ["product", "product_id"]
  side := ["side"]
  price := ["price"]
  quantity := ["size", "amount"]

def parseBinanceRow (row : CsvRow) : Except String ParsedTrade :=
  let fields := requiredFields texts binanceColumns row
  if fields.missing then
    .error ("Missing required fields: tradeId=" ++ fields.tradeId ++ ", symbol=" ++
      fields.symbol ++ ", side=" ++ fields.side)
  else
    let timeStr := columnText row ["Time(UTC)", "Time", "Date(UTC)", "date", "Date"]
    (sideAndTime texts fields.side timeStr).map fun (side, tradeTime) =>
      let assets := extractAssetsFromSymbol fields.symbol
      { tradeId := fields.tradeId
        orderId := some (columnText row ["Order ID", "orderId"])
        symbol := fields.symbol
        asset := assets.1
        quoteAsset := some assets.2
        side
        type := eitherText row "Type" "type"
        quantity := normalizeNumber texts fields.quantity
        price := normalizeNumber texts fields.price
        quoteQuantity :=
          (optionalText row ["QuoteQuantity", "Quote Quantity", "Amount"]).map
            (normalizeNumber texts)
        fee :=
          (optionalText row ["Fee", "fee", "Trading Fee", "Commission", "commission"]).map
            (normalizeNumber texts)
        feeAsset := optionalText row ["FeeAsset", "Fee Asset", "Commission Asset"]
        realizedPnl :=
          (optionalText row ["Realized Profit", "realizedPnl"]).map (normalizeNumber texts)
        tradeTime
        raw := row }

def parseOkxRow (row : CsvRow) : Except String ParsedTrade :=
  let fields := requiredFields texts okxColumns row
  if fields.missing then .error "Missing required fields"
  else
    let timeStr := columnText row ["fillTime", "Timestamp", "time"]
    (sideAndTime texts fields.side timeStr).map fun (side, tradeTime) =>
      let assets := extractAssetsFromOkxSymbol fields.symbol
      { tradeId := fields.tradeId
        orderId := some (columnText row ["orderId", "Order ID"])
        symbol := fields.symbol
        asset := assets.1
        quoteAsset := some assets.2
        side
        type := eitherText row "ordType" "Type"
        quantity := normalizeNumber texts fields.quantity
        price := normalizeNumber texts fields.price
        quoteQuantity := some (calculateQuoteQuantity texts fields.quantity fields.price)
        fee := (optionalText row ["fee", "Fee"]).map (normalizeNumber texts)
        feeAsset := optionalText row ["feeCcy", "Fee Currency"]
        realizedPnl := (optionalText row ["pnl", "Realized PnL"]).map (normalizeNumber texts)
        tradeTime
        raw := row }

def parseBybitRow (row : CsvRow) : Except String ParsedTrade :=
  let fields := requiredFields texts bybitColumns row
  if fields.missing then .error "Missing required fields"
  else
    let timeStr := columnText row ["Transaction Time", "Time", "execTime"]
    (sideAndTime texts fields.side timeStr).map fun (side, tradeTime) =>
      let assets := extractAssetsFromSymbol fields.symbol
      { tradeId := fields.tradeId
        orderId := some (columnText row ["Order ID", "orderId"])
        symbol := fields.symbol
        asset := assets.1
        quoteAsset := some assets.2
        side
        type := eitherText row "Type" "orderType"
        quantity := normalizeNumber texts fields.quantity
        price := normalizeNumber texts fields.price
        quoteQuantity := some (calculateQuoteQuantity texts fields.quantity fields.price)
        fee := (optionalText row ["Trading Fee", "fee", "execFee"]).map (normalizeNumber texts)
        feeAsset := optionalText row ["Fee Token", "feeCurrency"]
        realizedPnl :=
          (optionalText row ["Realized P&L", "closedPnl"]).map (normalizeNumber texts)
        tradeTime
        raw := row }

/-- The side is passed on as it is. -/
def parseCoinbaseRow (row : CsvRow) : Except String ParsedTrade :=
  let fields := requiredFields texts coinbaseColumns row
  if fields.missing then .error "Missing required fields"
  else
    (parseDate texts (columnText row ["time", "created at"])).map fun tradeTime =>
      let symbol := withoutHyphen fields.symbol
      let assets := extractAssetsFromSymbol symbol
      { tradeId := fields.tradeId
        orderId := none
        symbol
        asset := assets.1
        quoteAsset := some assets.2
        side :=
          if fields.side = "buy" then .buy
          else if fields.side = "sell" then .sell
          else .other fields.side
        type := optionalText row ["type"]
        quantity := normalizeNumber texts fields.quantity
        price := normalizeNumber texts fields.price
        quoteQuantity := some (calculateQuoteQuantity texts fields.quantity fields.price)
        fee := (optionalText row ["fee"]).map (normalizeNumber texts)
        feeAsset := some assets.2
        realizedPnl := none
        tradeTime
        raw := row }

def parseTradeRow (row : CsvRow) : CexPlatform → Except String ParsedTrade
  | .binance => parseBinanceRow texts row
  | .okx => parseOkxRow texts row
  | .bybit => parseBybitRow texts row
  | .coinbase => parseCoinbaseRow texts row

/-! ## Files -/

def CsvParserOptions.skips (options : CsvParserOptions) (trade : ParsedTrade) : Bool :=
  (options.validateSymbol.any fun valid => !valid trade.symbol) ||
    (options.minTradeTime.any fun least => decide (trade.tradeTime < least)) ||
      options.maxTradeTime.any fun greatest => decide (greatest < trade.tradeTime)

/-- What the loop over the lines has gathered. -/
structure Parsing where
  trades : List ParsedTrade
  errors : List ParseError
  skippedRows : ℕ

/-- One turn of the loop at the line with index `i`; the second result says whether it goes on. -/
def parseLine (options : CsvParserOptions) (headers : List String) (i : ℕ) (line : String)
    (p : Parsing) : Parsing × Bool :=
  if line = "" ∨ Json.trim line = "" then ({ p with skippedRows := p.skippedRows + 1 }, true)
  else
    let rowData := arrayToObject headers (parseCsvLine line)
    match parseTradeRow texts rowData options.platform with
    | .ok trade =>
      if options.skips trade then ({ p with skippedRows := p.skippedRows + 1 }, true)
      else ({ p with trades := p.trades ++ [trade] }, true)
    | .error message =>
      ({ p with errors := p.errors ++ [{ row := i + 1, raw := rowData, message }] },
        options.skipInvalidRows)

/-- The loop from the line with index `i` on. -/
def parseLines (options : CsvParserOptions) (headers : List String) :
    ℕ → List String → Parsing → Parsing
  | _, [], p => p
  | i, line :: lines, p =>
    let turn := parseLine texts options headers i line p
    if turn.2 then parseLines options headers (i + 1) lines turn.1 else turn.1

def noRows (message : String) : ParseResult where
  trades := []
  errors := [{ row := 0, raw := OrderedMap.empty, message }]
  stats := { totalRows := 0, parsedTrades := 0, skippedRows := 0, errors := 1, dateRange := none }

def dateRange (dates : List Date) : Option (Date × Date) :=
  let sorted := dates.insertionSort (· ≤ ·)
  match sorted.head?, sorted.getLast? with
  | some start, some stop => some (start, stop)
  | _, _ => none

/-- `csvContent.trim().split('\n')`. -/
def csvLines (csvContent : String) : List String := splitLines (Json.trim csvContent)

def parseCexCsv (csvContent : String) (options : CsvParserOptions) : ParseResult :=
  match csvLines csvContent with
  | [] => noRows "CSV has no data rows"
  | [_] => noRows "CSV has no data rows"
  | firstLine :: rows =>
    if firstLine = "" then noRows "CSV has no header row"
    else
      let p := parseLines texts options (parseCsvLine firstLine) 1 rows
        { trades := [], errors := [], skippedRows := 0 }
      { trades := p.trades
        errors := p.errors
        stats :=
          { totalRows := rows.length
            parsedTrades := p.trades.length
            skippedRows := p.skippedRows
            errors := p.errors.length
            dateRange := dateRange (p.trades.map fun t => t.tradeTime) } }

/-- The platform that the header of the text indicates. -/
def detectPlatform (csvContent : String) : Option CexPlatform :=
  let has := includes (texts.toLowerCase ((splitLines csvContent).headD ""))
  if (has "trade id" || has "orderno") && (has "symbol" || has "pair") &&
      (has "commission" || has "fee" || has "trading fee") then some .binance
  else if has "instid" || (has "fillpx" && has "fillsz") then some .okx
  else if has "execid" || (has "execprice" && has "closedpnl") then some .bybit
  else if has "portfolio" && has "trade id" then some .coinbase
  else none

structure FormatValidation where
  valid : Bool
  error : Option String
  deriving DecidableEq

/-- The texts that the validation looks for in the lower-case header. -/
def validatedFields : CexPlatform → List String
  | .binance => ["trade id", "symbol", "side", "price"]
  | .okx => ["instid", "side", "fillpx", "fillsz"]
  | .bybit => ["symbol", "side", "price", "qty"]
  | .coinbase => ["trade id", "product", "side", "price"]

def validateCsvFormat (csvContent : String) (platform : CexPlatform) : FormatValidation :=
  match csvLines csvContent with
  | [] => ⟨false, some "CSV must have at least a header and one data row"⟩
  | [_] => ⟨false, some "CSV must have at least a header and one data row"⟩
  | firstLine :: _ =>
    if firstLine = "" then ⟨false, some "CSV has no header row"⟩
    else
      let header := texts.toLowerCase firstLine
      let missing := (validatedFields platform).filter fun field => !includes header field
      if missing ≠ [] then
        ⟨false, some ("Missing required fields for " ++ platform.text ++ ": " ++
          String.intercalate ", " missing)⟩
      else ⟨true, none⟩

end

end SentinelApex
