import SentinelApex.CexVerification.HeaderAgreement
import SentinelApex.Lib.TakeThrough

/-!
# The account of the rows

Each line after the header is skipped, gives a trade or fails (`LineOutcome`). The loop reads all
of them, or stops at the first that fails, and the trades, errors and counts of its result are those
of the lines it has read (`parseLines_eq`).
-/

namespace SentinelApex

open TakeThrough

/-- What becomes of a line; a trade that a filter leaves out is skipped. -/
inductive LineOutcome where
  | skipped
  | parsed (trade : ParsedTrade)
  | failed (message : String)

variable {outcome : LineOutcome}

namespace LineOutcome

def isSkipped : LineOutcome → Bool
  | skipped => true
  | parsed _ => false
  | failed _ => false

def isFailed : LineOutcome → Bool
  | skipped => false
  | parsed _ => false
  | failed _ => true

def trade : LineOutcome → Option ParsedTrade
  | skipped => none
  | parsed trade => some trade
  | failed _ => none

def message : LineOutcome → Option String
  | skipped => none
  | parsed _ => none
  | failed message => some message

section

variable (t : ParsedTrade) (m : String)

@[simp] theorem isSkipped_skipped : skipped.isSkipped = true := rfl

@[simp] theorem isSkipped_parsed : (parsed t).isSkipped = false := rfl

@[simp] theorem isSkipped_failed : (failed m).isSkipped = false := rfl

@[simp] theorem isFailed_skipped : skipped.isFailed = false := rfl

@[simp] theorem isFailed_parsed : (parsed t).isFailed = false := rfl

@[simp] theorem isFailed_failed : (failed m).isFailed = true := rfl

@[simp] theorem trade_skipped : skipped.trade = none := rfl

@[simp] theorem trade_parsed : (parsed t).trade = some t := rfl

@[simp] theorem trade_failed : (failed m).trade = none := rfl

@[simp] theorem message_skipped : skipped.message = none := rfl

@[simp] theorem message_parsed : (parsed t).message = none := rfl

@[simp] theorem message_failed : (failed m).message = some m := rfl

end

theorem message_eq_some_iff {message : String} :
    outcome.message = some message ↔ outcome = failed message := by
  cases outcome <;> simp

theorem trade_eq_some_iff {trade : ParsedTrade} :
    outcome.trade = some trade ↔ outcome = parsed trade := by
  cases outcome <;> simp

theorem trade_of_isFailed (h : outcome.isFailed = true) : outcome.trade = none := by
  cases outcome with
  | skipped | parsed trade => cases h
  | failed message => rfl

end LineOutcome

section

variable (texts : CsvTexts) (options : CsvParserOptions) (headers : List String)

def lineRow (line : String) : CsvRow := arrayToObject headers (parseCsvLine line)

def lineOutcome (line : String) : LineOutcome :=
  if Json.trim line = "" then .skipped
  else
    match parseTradeRow texts (lineRow headers line) options.platform with
    | .ok trade => if options.skips trade then .skipped else .parsed trade
    | .error message => .failed message

def lineTrade (line : String) : Option ParsedTrade := (lineOutcome texts options headers line).trade

def lineError (line : String × ℕ) : Option ParseError :=
  (lineOutcome texts options headers line.1).message.map fun message =>
    { row := line.2, raw := lineRow headers line.1, message }

/-- The loop ends with this line. -/
def stopsAt (line : String × ℕ) : Bool :=
  !options.skipInvalidRows && (lineOutcome texts options headers line.1).isFailed

/-- The lines that are read, with their row numbers, from the line with index `i` on. -/
def readLines (i : ℕ) (lines : List String) : List (String × ℕ) :=
  takeThrough (stopsAt texts options headers) (lines.zipIdx (i + 1))

/-! ## The loop -/

theorem parseLine_eq (i : ℕ) (line : String) (p : Parsing) :
    parseLine texts options headers i line p =
      ({ trades := p.trades ++ (lineTrade texts options headers line).toList
         errors := p.errors ++ (lineError texts options headers (line, i + 1)).toList
         skippedRows := p.skippedRows +
           if (lineOutcome texts options headers line).isSkipped then 1 else 0 },
        !stopsAt texts options headers (line, i + 1)) := by
  have hempty : line = "" → Json.trim line = "" := by
    rintro rfl
    decide +kernel
  have hblank : (line = "" ∨ Json.trim line = "") ↔ Json.trim line = "" := or_iff_right_of_imp hempty
  unfold parseLine lineTrade lineError stopsAt
  rw [show arrayToObject headers (parseCsvLine line) = lineRow headers line from rfl]
  simp only [hblank]
  by_cases htrim : Json.trim line = ""
  · have houtcome : lineOutcome texts options headers line = .skipped := if_pos htrim
    simp [htrim, houtcome]
  · cases hrow : parseTradeRow texts (lineRow headers line) options.platform with
    | ok trade =>
      by_cases hskips : options.skips trade = true
      · have houtcome : lineOutcome texts options headers line = .skipped := by
          simp [lineOutcome, htrim, hrow, hskips]
        simp [htrim, hskips, houtcome]
      · have houtcome : lineOutcome texts options headers line = .parsed trade := by
          simp [lineOutcome, htrim, hrow, hskips]
        simp [htrim, hskips, houtcome]
    | error message =>
      have houtcome : lineOutcome texts options headers line = .failed message := by
        simp [lineOutcome, htrim, hrow]
      simp [htrim, houtcome]

theorem parseLines_eq (i : ℕ) (lines : List String) (p : Parsing) :
    parseLines texts options headers i lines p =
      { trades := p.trades ++ (readLines texts options headers i lines).filterMap fun line =>
          lineTrade texts options headers line.1
        errors := p.errors ++ (readLines texts options headers i lines).filterMap
          (lineError texts options headers)
        skippedRows := p.skippedRows + (readLines texts options headers i lines).countP fun line =>
          (lineOutcome texts options headers line.1).isSkipped } := by
  induction lines generalizing i p with
  | nil => simp [parseLines, readLines, takeThrough]
  | cons line lines ih =>
    have hcons : (line :: lines).zipIdx (i + 1) = (line, i + 1) :: lines.zipIdx (i + 1 + 1) := rfl
    simp only [parseLines, parseLine_eq]
    cases hstops : stopsAt texts options headers (line, i + 1) with
    | true =>
      simp only [readLines, hcons, takeThrough_cons_of_stops hstops, Bool.not_true,
        Bool.false_eq_true, if_false, List.filterMap_cons, List.filterMap_nil, List.countP_singleton]
      rw [Parsing.mk.injEq]
      refine ⟨?_, ?_, rfl⟩
      · cases lineTrade texts options headers line <;> rfl
      · cases lineError texts options headers (line, i + 1) <;> rfl
    | false =>
      simp only [readLines, hcons, takeThrough_cons_of_goesOn hstops, Bool.not_false, if_true, ih,
        List.filterMap_cons, List.countP_cons, List.append_assoc]
      rw [Parsing.mk.injEq]
      refine ⟨?_, ?_, ?_⟩
      · cases lineTrade texts options headers line <;> rfl
      · cases lineError texts options headers (line, i + 1) <;> rfl
      · rw [add_assoc, add_comm (List.countP _ _)]

theorem length_eq_add (lines : List (String × ℕ)) :
    lines.length = (lines.filterMap fun line => lineTrade texts options headers line.1).length +
      lines.countP (fun line => (lineOutcome texts options headers line.1).isSkipped) +
        (lines.filterMap (lineError texts options headers)).length := by
  induction lines with
  | nil => rfl
  | cons line lines ih =>
    simp only [List.filterMap_cons, List.countP_cons, List.length_cons, lineTrade, lineError] at ih ⊢
    cases lineOutcome texts options headers line.1 with
    | skipped | parsed trade | failed message =>
      simp
      omega

theorem length_errors_le (h : options.skipInvalidRows = false) (i : ℕ) (lines : List String) :
    ((readLines texts options headers i lines).filterMap
      (lineError texts options headers)).length ≤ 1 := by
  have hstops : (fun line => (lineError texts options headers line).isSome) =
      stopsAt texts options headers := by
    funext line
    rw [stopsAt, h, lineError, Option.isSome_map]
    cases lineOutcome texts options headers line.1 <;> rfl
  rw [List.length_filterMap_eq_countP, hstops]
  exact countP_takeThrough_le _ _

theorem pairwise_errors (i : ℕ) (lines : List String) :
    ((readLines texts options headers i lines).filterMap
      (lineError texts options headers)).Pairwise fun a b => a.row < b.row := by
  have hnumbers : (lines.zipIdx (i + 1)).Pairwise fun a b => a.2 < b.2 := by
    rw [← List.pairwise_map, List.zipIdx_map_snd]
    exact List.pairwise_lt_range'
  rw [List.pairwise_filterMap]
  refine (hnumbers.sublist (takeThrough_isPrefix _ _).sublist).imp ?_
  intro a b hlt e he e' he'
  obtain ⟨message, -, rfl⟩ := Option.map_eq_some_iff.1 he
  obtain ⟨message', -, rfl⟩ := Option.map_eq_some_iff.1 he'
  exact hlt

end

/-! ## Files -/

section

variable (texts : CsvTexts) (csvContent : String) (options : CsvParserOptions)

/-- The lines of a file that are read, with their row numbers; the header is row 1. -/
def linesRead : List (String × ℕ) :=
  readLines texts options (headerCells csvContent) 1 (csvLines csvContent).tail

/-- The result is what the lines that are read give. -/
structure Gathered (result : ParseResult) : Prop where
  trades : result.trades = (linesRead texts csvContent options).filterMap fun line =>
    lineTrade texts options (headerCells csvContent) line.1
  errors : result.errors = (linesRead texts csvContent options).filterMap
    (lineError texts options (headerCells csvContent))
  totalRows : result.stats.totalRows = (csvLines csvContent).tail.length
  parsedTrades : result.stats.parsedTrades = result.trades.length
  skippedRows : result.stats.skippedRows = (linesRead texts csvContent options).countP fun line =>
    (lineOutcome texts options (headerCells csvContent) line.1).isSkipped
  errorCount : result.stats.errors = result.errors.length

/-- A file with a header and rows. -/
structure HasRows : Prop where
  rows : 2 ≤ (csvLines csvContent).length
  header : (csvLines csvContent).headD "" ≠ ""

variable {csvContent}

theorem gathered_parseCexCsv (h : HasRows csvContent) :
    Gathered texts csvContent options (parseCexCsv texts csvContent options) := by
  obtain ⟨hrows, hheader⟩ := h
  have hread := parseLines_eq texts options (headerCells csvContent) 1 (csvLines csvContent).tail
    { trades := [], errors := [], skippedRows := 0 }
  unfold parseCexCsv
  rcases hlines : csvLines csvContent with - | ⟨firstLine, - | ⟨row, rows⟩⟩
  · rw [hlines] at hrows
    simp at hrows
  · rw [hlines] at hrows
    simp at hrows
  · rw [hlines] at hheader hread
    have hcells : headerCells csvContent = parseCsvLine firstLine := by
      rw [headerCells, hlines]
      rfl
    have hempty : ¬ firstLine = "" := hheader
    simp only [if_neg hempty]
    rw [List.tail_cons, hcells] at hread
    rw [hread]
    constructor <;> simp [linesRead, hlines, hcells]

theorem getElem?_of_mem_linesRead {line : String × ℕ}
    (h : line ∈ linesRead texts csvContent options) :
    ∃ i, line.2 = i + 1 ∧ 1 ≤ i ∧ (csvLines csvContent)[i]? = some line.1 := by
  rw [linesRead, readLines] at h
  obtain ⟨hle, hline⟩ := List.mem_zipIdx_iff_le_and_getElem?_sub.1 (mem_of_mem_takeThrough h)
  have hindex : line.2 - (1 + 1) + 1 = line.2 - 1 := by omega
  rw [List.getElem?_tail, hindex] at hline
  exact ⟨line.2 - 1, by omega, by omega, hline⟩

variable (csvContent)

/-- Each row is counted once, the trades are in the order of the rows, and the errors point at the
lines that fail. -/
structure AllAccounted (result : ParseResult) : Prop where
  total : result.stats.totalRows =
    result.stats.parsedTrades + result.stats.skippedRows + result.stats.errors
  totalRows : result.stats.totalRows = (csvLines csvContent).tail.length
  parsedTrades : result.stats.parsedTrades = result.trades.length
  errorCount : result.stats.errors = result.errors.length
  trades : result.trades =
    (csvLines csvContent).tail.filterMap (lineTrade texts options (headerCells csvContent))
  increasing : result.errors.Pairwise fun a b => a.row < b.row
  points : ∀ e ∈ result.errors, ∃ i line, e.row = i + 1 ∧ 1 ≤ i ∧
    (csvLines csvContent)[i]? = some line ∧
      lineOutcome texts options (headerCells csvContent) line = .failed e.message
  reported : ∀ i line message, 1 ≤ i → (csvLines csvContent)[i]? = some line →
    lineOutcome texts options (headerCells csvContent) line = .failed message →
      ∃ e ∈ result.errors, e.row = i + 1 ∧ e.message = message

/-- The trades are those of the lines before the first one that fails. -/
structure StopsAtFailure (result : ParseResult) : Prop where
  trades : result.trades = ((csvLines csvContent).tail.takeWhile fun line =>
    !(lineOutcome texts options (headerCells csvContent) line).isFailed).filterMap
      (lineTrade texts options (headerCells csvContent))
  errors : result.errors.length ≤ 1

variable {csvContent}

theorem linesRead_of_skip (h : options.skipInvalidRows = true) :
    linesRead texts csvContent options = (csvLines csvContent).tail.zipIdx 2 :=
  takeThrough_eq_self fun line _ => by simp [stopsAt, h]

/-- A file with a header and rows: with `skipInvalidRows` every row is accounted for, and without
it the result stops at the first line that fails. -/
theorem parseCexCsv_accounted (h : HasRows csvContent) :
    (options.skipInvalidRows = true →
        AllAccounted texts csvContent options (parseCexCsv texts csvContent options)) ∧
      (options.skipInvalidRows = false →
        StopsAtFailure texts csvContent options (parseCexCsv texts csvContent options)) := by
  have hgathered := gathered_parseCexCsv texts options h
  have hfst : ((csvLines csvContent).tail.zipIdx 2).map Prod.fst = (csvLines csvContent).tail :=
    List.zipIdx_map_fst _ _
  refine ⟨fun hskip => ?_, fun hstop => ?_⟩
  · have hread : linesRead texts csvContent options = (csvLines csvContent).tail.zipIdx 2 :=
      linesRead_of_skip texts options hskip
    refine ⟨?_, hgathered.totalRows, hgathered.parsedTrades, hgathered.errorCount, ?_, ?_, ?_, ?_⟩
    · rw [hgathered.totalRows, hgathered.parsedTrades, hgathered.skippedRows, hgathered.errorCount,
        hgathered.trades, hgathered.errors, hread, ← length_eq_add, List.length_zipIdx]
    · conv_rhs => rw [← hfst, List.filterMap_map]
      rw [hgathered.trades, hread]
      rfl
    · rw [hgathered.errors]
      exact pairwise_errors texts options _ 1 _
    · intro e he
      rw [hgathered.errors, List.mem_filterMap] at he
      obtain ⟨line, hline, herror⟩ := he
      obtain ⟨message, hmessage, rfl⟩ := Option.map_eq_some_iff.1 herror
      obtain ⟨i, hrow, hi, hget⟩ := getElem?_of_mem_linesRead texts options hline
      exact ⟨i, line.1, hrow, hi, hget, LineOutcome.message_eq_some_iff.1 hmessage⟩
    · intro i line message hi hget hfailed
      refine ⟨⟨i + 1, lineRow (headerCells csvContent) line, message⟩, ?_, rfl, rfl⟩
      rw [hgathered.errors, List.mem_filterMap, hread]
      have hindex : i + 1 - 2 + 1 = i := by omega
      have hline : (csvLines csvContent).tail[i + 1 - 2]? = some line := by
        rw [List.getElem?_tail, hindex, hget]
      refine ⟨(line, i + 1), ?_, by simp [lineError, hfailed]⟩
      exact List.mem_zipIdx_iff_le_and_getElem?_sub.2 ⟨by omega, hline⟩
  · constructor
    · have hstops : ∀ line, stopsAt texts options (headerCells csvContent) line =
          (lineOutcome texts options (headerCells csvContent) line.1).isFailed := by
        simp [stopsAt, hstop]
      rw [hgathered.trades, linesRead, readLines, filterMap_takeThrough]
      · conv_rhs => rw [← hfst, List.takeWhile_map, List.filterMap_map]
        simp only [hstops]
        rfl
      · intro line _ hline
        exact LineOutcome.trade_of_isFailed (by rw [← hstops, hline])
    · rw [hgathered.errors]
      exact length_errors_le texts options _ hstop 1 _

end

/-- A purchase, a blank line and a row that fails. -/
def mixedCsv : String :=
  "tradeId,symbol,side,price,quantity,time\n1,A-B,buy,2,3,1700000000\n\n2,A-B,hold,2,3,1700000000"

theorem hasRows_mixed : HasRows mixedCsv := by
  have hlines : csvLines mixedCsv =
      ["tradeId,symbol,side,price,quantity,time", "1,A-B,buy,2,3,1700000000", "",
        "2,A-B,hold,2,3,1700000000"] := by decide +kernel
  refine ⟨?_, ?_⟩
  · rw [hlines]
    decide
  · rw [hlines]
    decide

theorem parseCexCsv_accounted_mixed :
    AllAccounted plainTexts mixedCsv { platform := .okx, skipInvalidRows := true }
        (parseCexCsv plainTexts mixedCsv { platform := .okx, skipInvalidRows := true }) ∧
      StopsAtFailure plainTexts mixedCsv { platform := .okx }
        (parseCexCsv plainTexts mixedCsv { platform := .okx }) :=
  ⟨(parseCexCsv_accounted plainTexts { platform := .okx, skipInvalidRows := true }
      hasRows_mixed).1 rfl,
    (parseCexCsv_accounted plainTexts { platform := .okx } hasRows_mixed).2 rfl⟩

/-- The counts of its rows. -/
example : (parseCexCsv plainTexts mixedCsv { platform := .okx, skipInvalidRows := true }).stats =
    ⟨3, 1, 1, 1, some (1700000000000, 1700000000000)⟩ := by decide +kernel

end SentinelApex
