import SentinelApex.CexVerification.CsvParser
import SentinelApex.Lib.Separated
import Mathlib.Data.List.TakeWhile

/-!
# What the validation promises

A header that passes the validation contains the texts of a platform somewhere, in any case. The
parser looks its columns up by their exact names, and needs more of them: a file with full rows is
read without missing fields exactly if its header has one of the parser's names for each required
field (`no_missing_fields_iff`).
-/

namespace SentinelApex

/-! ## Blank lines -/

theorem isSpace_of_trim_eq_empty {s : String} (h : Json.trim s = "") :
    ∀ c ∈ s.toList, Json.isSpace c = true := by
  have hnil : ((s.toList.dropWhile Json.isSpace).reverse.dropWhile Json.isSpace).reverse = [] := by
    simpa [Json.trim] using congrArg String.toList h
  rw [List.reverse_eq_nil_iff, List.dropWhile_eq_nil_iff] at hnil
  intro c hc
  rw [← List.takeWhile_append_dropWhile (p := Json.isSpace) (l := s.toList),
    List.mem_append] at hc
  rcases hc with hc | hc
  · exact List.mem_takeWhile_imp hc
  · exact hnil c (List.mem_reverse.2 hc)

theorem exists_not_blank {csvContent firstLine : String} {rows : List String}
    (hlines : csvLines csvContent = firstLine :: rows) (hrows : rows ≠ []) :
    ∃ line ∈ rows, Json.trim line ≠ "" := by
  refine ⟨rows.getLast hrows, List.getLast_mem hrows, fun hblank => ?_⟩
  set reversed :=
    (csvContent.toList.dropWhile Json.isSpace).reverse.dropWhile Json.isSpace with hreversed
  have htext : (csvLines csvContent).map String.toList = reversed.reverse.splitOn '\n' := by
    simp [csvLines, splitLines, Json.trim, hreversed, Function.comp_def]
  have hsplit : reversed.reverse.splitOn '\n' =
      (firstLine :: rows.dropLast).map String.toList ++ [(rows.getLast hrows).toList] := by
    rw [← htext, hlines]
    conv_lhs => rw [← List.dropLast_append_getLast hrows]
    simp
  -- the text as the lines before the last one, a line break and the last line
  have hjoin : ['\n'].intercalate (reversed.reverse.splitOn '\n') = reversed.reverse :=
    List.intercalate_splitOn '\n'
  rw [hsplit, Separated.intercalate_append (by simp) (by simp)] at hjoin
  have hrev := congrArg List.reverse hjoin
  simp only [List.intercalate_singleton, List.reverse_append, List.reverse_cons,
    List.reverse_reverse, List.append_assoc] at hrev
  have hhead : ∀ c, reversed.head? = some c → Json.isSpace c = false := by
    intro c hc
    have := List.head?_dropWhile_not Json.isSpace
      (csvContent.toList.dropWhile Json.isSpace).reverse
    rw [← hreversed, hc] at this
    simpa using this
  rw [← hrev] at hhead
  cases hlast : (rows.getLast hrows).toList.reverse with
  | nil =>
    rw [hlast] at hhead
    exact absurd (hhead '\n' rfl) (by decide)
  | cons c cs =>
    have hc : Json.isSpace c = true :=
      isSpace_of_trim_eq_empty hblank c (List.mem_reverse.1 (hlast ▸ List.mem_cons_self))
    rw [hlast] at hhead
    exact absurd hc (by rw [hhead c rfl]; decide)

/-! ## Looking up columns -/

theorem columnText_eq_empty_iff {row : CsvRow} {names : List String} :
    columnText row names = "" ↔ ∀ name ∈ names, (row.get? name).getD "" = "" := by
  induction names with
  | nil => simp [columnText]
  | cons name names ih =>
    rw [columnText, List.forall_mem_cons]
    by_cases h : (row.get? name).getD "" = ""
    · simp [h, ih]
    · simp [h]

theorem foldl_set_get? {K V : Type} [DecidableEq K] {P : V → Prop} {es : List (K × V)}
    (hes : ∀ e ∈ es, P e.2) (m : OrderedMap K V) (k : K) :
    (k ∉ es.map Prod.fst → (es.foldl (fun m e => m.set e.1 e.2) m).get? k = m.get? k) ∧
      (k ∈ es.map Prod.fst → ∃ v, (es.foldl (fun m e => m.set e.1 e.2) m).get? k = some v ∧ P v) := by
  induction es using List.reverseRecOn with
  | nil => simp
  | append_singleton es e ih =>
    obtain ⟨hnot, hmem⟩ := ih fun e' he' => hes e' (List.mem_append_left _ he')
    have he : P e.2 := hes e (by simp)
    rw [List.foldl_concat, OrderedMap.get?_set]
    by_cases hkey : e.1 = k
    · simp [hkey, he]
    · simp only [if_neg hkey, List.map_append, List.mem_append, List.map_cons, List.map_nil,
        List.mem_singleton, show k ≠ e.1 from fun h => hkey h.symm, or_false]
      exact ⟨hnot, hmem⟩

def FullRow (headers values : List String) : Prop :=
  ∀ i < headers.length, values[i]?.getD "" ≠ ""

/-- The assignments of `arrayToObject` in their order. -/
def rowEntries (headers values : List String) : List (String × String) :=
  headers.zipIdx.map fun header => (Json.trim header.1, values[header.2]?.getD "")

theorem arrayToObject_eq (headers values : List String) : arrayToObject headers values =
    (rowEntries headers values).foldl (fun m e => m.set e.1 e.2) OrderedMap.empty := by
  rw [rowEntries, List.foldl_map]
  rfl

theorem map_fst_rowEntries (headers values : List String) :
    (rowEntries headers values).map Prod.fst = headers.map Json.trim := by
  have hfst : (headers.zipIdx.map Prod.fst).map Json.trim = headers.map Json.trim := by
    rw [List.zipIdx_map_fst]
  rw [← hfst, rowEntries, List.map_map, List.map_map]
  rfl

theorem get?_arrayToObject {headers values : List String} (h : FullRow headers values)
    (name : String) :
    ((arrayToObject headers values).get? name).getD "" ≠ "" ↔ name ∈ headers.map Json.trim := by
  have hfull : ∀ e ∈ rowEntries headers values, e.2 ≠ "" := by
    intro e he
    obtain ⟨⟨header, i⟩, hmem, rfl⟩ := List.mem_map.1 he
    exact h i (by simpa using List.snd_lt_of_mem_zipIdx hmem)
  obtain ⟨hnot, hmem⟩ := foldl_set_get? (P := fun v => v ≠ "") hfull OrderedMap.empty name
  rw [arrayToObject_eq, ← map_fst_rowEntries headers values]
  by_cases hname : name ∈ (rowEntries headers values).map Prod.fst
  · obtain ⟨v, hv, hne⟩ := hmem hname
    simp [hname, hv, hne]
  · simp [hname, hnot hname]

theorem get?_arrayToObject_of_notMem {headers : List String} (values : List String) {name : String}
    (h : name ∉ headers.map Json.trim) : (arrayToObject headers values).get? name = none := by
  rw [arrayToObject_eq, (foldl_set_get? (P := fun _ => True) (by simp) OrderedMap.empty name).1]
  · rfl
  · rwa [map_fst_rowEntries]

/-! ## Required columns -/

def requiredColumns : CexPlatform → RequiredColumns
  | .binance => binanceColumns
  | .okx => okxColumns
  | .bybit => bybitColumns
  | .coinbase => coinbaseColumns

/-- The header has a column for each required field, under a name that the parser knows. -/
def HeaderCovers (platform : CexPlatform) (headers : List String) : Prop :=
  ∀ group ∈ (requiredColumns platform).groups, ∃ name ∈ group, name ∈ headers

instance (platform : CexPlatform) (headers : List String) :
    Decidable (HeaderCovers platform headers) :=
  inferInstanceAs (Decidable (∀ group ∈ (requiredColumns platform).groups,
    ∃ name ∈ group, name ∈ headers))

section

variable (texts : CsvTexts) {row : CsvRow} {platform : CexPlatform}

theorem missing_iff {columns : RequiredColumns} :
    (requiredFields texts columns row).missing = true ↔
      ∃ group ∈ columns.groups, columnText row group = "" := by
  simp [requiredFields, RequiredFields.missing, RequiredColumns.groups,
    texts.toLowerCase_eq_empty, or_assoc]

variable {headers : List String} {message : String}

theorem missing_arrayToObject_iff {values : List String} (h : FullRow headers values) :
    (requiredFields texts (requiredColumns platform) (arrayToObject headers values)).missing =
        false ↔ HeaderCovers platform (headers.map Json.trim) := by
  rw [← Bool.not_eq_true, missing_iff, HeaderCovers]
  push Not
  refine forall₂_congr fun group _ => ?_
  rw [ne_eq, columnText_eq_empty_iff]
  push Not
  exact exists_congr fun name => and_congr_right fun _ => get?_arrayToObject h name

theorem missing_of_not_covers (values : List String)
    (h : ¬ HeaderCovers platform (headers.map Json.trim)) :
    (requiredFields texts (requiredColumns platform) (arrayToObject headers values)).missing =
      true := by
  rw [missing_iff]
  unfold HeaderCovers at h
  push Not at h
  obtain ⟨group, hgroup, hnone⟩ := h
  refine ⟨group, hgroup, columnText_eq_empty_iff.2 fun name hname => ?_⟩
  rw [get?_arrayToObject_of_notMem values (hnone name hname)]
  rfl

/-! ## Messages -/

def SaysMissing (message : String) : Prop := "Missing required fields".toList <+: message.toList

instance (message : String) : Decidable (SaysMissing message) :=
  inferInstanceAs (Decidable (_ <+: _))

theorem SaysMissing.append {start : String} (h : SaysMissing start) (rest : String) :
    SaysMissing (start ++ rest) := by
  unfold SaysMissing
  rw [String.toList_append]
  exact h.trans (List.prefix_append _ _)

theorem not_saysMissing_append {start : String} {c : Char} (hstart : start.toList.head? = some c)
    (hc : c ≠ 'M') (rest : String) : ¬ SaysMissing (start ++ rest) := by
  rintro ⟨tail, htail⟩
  have hhead := congrArg List.head? htail
  rw [String.toList_append, List.head?_append, List.head?_append, hstart,
    show "Missing required fields".toList.head? = some 'M' by decide +kernel] at hhead
  exact hc (by simpa using hhead.symm)

theorem readSide_error {side : String} (h : readSide side = .error message) :
    ¬ SaysMissing message := by
  unfold readSide at h
  split_ifs at h
  obtain rfl := Except.error.inj h
  exact not_saysMissing_append (c := 'I') (by decide +kernel) (by decide) _

theorem parseDate_error {dateStr : String} (h : parseDate texts dateStr = .error message) :
    ¬ SaysMissing message := by
  unfold parseDate at h
  dsimp only at h
  split at h
  · cases h
  · obtain rfl := Except.error.inj h
    exact not_saysMissing_append (c := 'U') (by decide +kernel) (by decide) _

theorem parseTradeRow_of_missing
    (h : (requiredFields texts (requiredColumns platform) row).missing = true) :
    ∃ message, parseTradeRow texts row platform = .error message ∧ SaysMissing message := by
  cases platform with
  | binance =>
    refine ⟨_, if_pos h, SaysMissing.append (SaysMissing.append (SaysMissing.append
      (SaysMissing.append (SaysMissing.append ?_ _) _) _) _) _⟩
    decide +kernel
  | okx | bybit | coinbase => exact ⟨_, if_pos h, by decide +kernel⟩

theorem error_of_map_eq_error {α β : Type} {f : α → β} {x : Except String α}
    (h : x.map f = .error message) : x = .error message := by
  cases x with
  | error m => exact congrArg Except.error (Except.error.inj h)
  | ok a => cases h

theorem sideAndTime_error {side timeStr : String}
    (h : sideAndTime texts side timeStr = .error message) : ¬ SaysMissing message := by
  unfold sideAndTime at h
  split at h
  · rename_i hside
    obtain rfl := Except.error.inj h
    exact readSide_error hside
  · exact parseDate_error texts (error_of_map_eq_error h)

theorem not_saysMissing_of_parseTradeRow
    (h : (requiredFields texts (requiredColumns platform) row).missing = false)
    (herror : parseTradeRow texts row platform = .error message) : ¬ SaysMissing message := by
  have h' := Bool.eq_false_iff.1 h
  cases platform with
  | binance | okx | bybit =>
    exact sideAndTime_error texts (error_of_map_eq_error ((if_neg h').symm.trans herror))
  | coinbase => exact parseDate_error texts (error_of_map_eq_error ((if_neg h').symm.trans herror))

/-! ## All lines -/

section

variable (options : CsvParserOptions) {headers : List String}

theorem parseLine_cases (headers : List String) (i : ℕ) (line : String) (p : Parsing) :
    ((parseLine texts options headers i line p).1.errors = p.errors ∧
        (parseLine texts options headers i line p).2 = true ∧
        (Json.trim line = "" ∨ ∃ trade, parseTradeRow texts
          (arrayToObject headers (parseCsvLine line)) options.platform = .ok trade)) ∨
      ∃ e : ParseError,
        (parseLine texts options headers i line p).1.errors = p.errors ++ [e] ∧
          Json.trim line ≠ "" ∧ parseTradeRow texts (arrayToObject headers (parseCsvLine line))
            options.platform = .error e.message := by
  unfold parseLine
  by_cases hblank : line = "" ∨ Json.trim line = ""
  · rw [if_pos hblank]
    refine .inl ⟨rfl, rfl, .inl ?_⟩
    rcases hblank with rfl | hblank
    · decide +kernel
    · exact hblank
  · rw [if_neg hblank]
    rw [not_or] at hblank
    cases hrow : parseTradeRow texts (arrayToObject headers (parseCsvLine line))
        options.platform with
    | ok trade =>
      refine .inl ?_
      simp only [hrow]
      split_ifs
      all_goals exact ⟨rfl, rfl, .inr ⟨trade, rfl⟩⟩
    | error message =>
      simp only [hrow]
      exact .inr ⟨_, rfl, hblank.2, rfl⟩

theorem errors_subset_parseLines (i : ℕ) (lines : List String) (p : Parsing) :
    p.errors ⊆ (parseLines texts options headers i lines p).errors := by
  induction lines generalizing i p with
  | nil => exact fun _ he => he
  | cons line lines ih =>
    have hstep : p.errors ⊆ (parseLine texts options headers i line p).1.errors := by
      rcases parseLine_cases texts options headers i line p with h | ⟨e, h, -⟩
      · rw [h.1]
        exact fun _ he => he
      · rw [h]
        exact fun _ he => List.mem_append_left _ he
    simp only [parseLines]
    split_ifs
    · exact fun e he => ih _ _ (hstep he)
    · exact hstep

theorem mem_errors_parseLines {i : ℕ} {lines : List String} {p : Parsing} {e : ParseError}
    (he : e ∈ (parseLines texts options headers i lines p).errors) :
    e ∈ p.errors ∨ ∃ line ∈ lines, Json.trim line ≠ "" ∧
      parseTradeRow texts (arrayToObject headers (parseCsvLine line)) options.platform =
        .error e.message := by
  induction lines generalizing i p with
  | nil => exact .inl he
  | cons line lines ih =>
    have hstep : e ∈ (parseLine texts options headers i line p).1.errors →
        e ∈ p.errors ∨ ∃ line' ∈ line :: lines, Json.trim line' ≠ "" ∧
          parseTradeRow texts (arrayToObject headers (parseCsvLine line')) options.platform =
            .error e.message := by
      intro he
      rcases parseLine_cases texts options headers i line p with h | ⟨e', h, hline⟩
      · exact .inl (h.1 ▸ he)
      · rw [h, List.mem_append, List.mem_singleton] at he
        rcases he with he | rfl
        · exact .inl he
        · exact .inr ⟨line, List.mem_cons_self, hline⟩
    simp only [parseLines] at he
    split_ifs at he
    · rcases ih he with hold | ⟨line', hmem, hline'⟩
      · exact hstep hold
      · exact .inr ⟨line', List.mem_cons_of_mem _ hmem, hline'⟩
    · exact hstep he

/-- Where every row lacks a required field, the first line that is not blank is an error. -/
theorem exists_saysMissing {i : ℕ} {lines : List String} {p : Parsing}
    (hmissing : ∀ line, (requiredFields texts (requiredColumns options.platform)
      (arrayToObject headers (parseCsvLine line))).missing = true)
    (hline : ∃ line ∈ lines, Json.trim line ≠ "") :
    ∃ e ∈ (parseLines texts options headers i lines p).errors, SaysMissing e.message := by
  induction lines generalizing i p with
  | nil => simp at hline
  | cons line lines ih =>
    obtain ⟨message, hrow, hsays⟩ := parseTradeRow_of_missing texts (hmissing line)
    simp only [parseLines]
    rcases parseLine_cases texts options headers i line p with
      ⟨-, hgoesOn, hblank⟩ | ⟨e, herrors, -, he⟩
    · rw [hgoesOn, if_pos rfl]
      refine ih ?_
      rw [hrow] at hblank
      have hblank : Json.trim line = "" := hblank.resolve_right (by rintro ⟨_, h⟩; cases h)
      obtain ⟨line', hmem, hline'⟩ := hline
      rcases List.mem_cons.1 hmem with rfl | hmem
      · exact absurd hblank hline'
      · exact ⟨line', hmem, hline'⟩
    · have hmem : e ∈ (parseLine texts options headers i line p).1.errors := by
        rw [herrors]
        exact List.mem_append_right _ (List.mem_singleton_self e)
      rw [hrow] at he
      refine ⟨e, ?_, Except.error.inj he ▸ hsays⟩
      split_ifs
      · exact errors_subset_parseLines texts options _ _ _ hmem
      · exact hmem

end

end

/-! ## Validated files -/

def headerCells (csvContent : String) : List String :=
  parseCsvLine ((csvLines csvContent).headD "")

/-- The data rows have a value in every column. -/
def FullRows (csvContent : String) : Prop :=
  ∀ line ∈ (csvLines csvContent).tail, Json.trim line ≠ "" →
    FullRow (headerCells csvContent) (parseCsvLine line)

theorem csvLines_of_valid {texts : CsvTexts} {csvContent : String} {platform : CexPlatform}
    (h : (validateCsvFormat texts csvContent platform).valid = true) :
    ∃ firstLine rows, csvLines csvContent = firstLine :: rows ∧ rows ≠ [] ∧ firstLine ≠ "" := by
  unfold validateCsvFormat at h
  split at h
  · cases h
  · cases h
  · rename_i firstLine rows hrows hlines
    refine ⟨firstLine, rows, hlines, hrows, fun hempty => ?_⟩
    rw [if_pos hempty] at h
    cases h

/-- A validated file with full rows is read without missing fields if and only if its header covers
the parser's columns. -/
theorem no_missing_fields_iff (texts : CsvTexts) (csvContent : String) (options : CsvParserOptions)
    (hvalid : (validateCsvFormat texts csvContent options.platform).valid = true)
    (hrows : FullRows csvContent) :
    (∀ e ∈ (parseCexCsv texts csvContent options).errors, ¬ SaysMissing e.message) ↔
      HeaderCovers options.platform ((headerCells csvContent).map Json.trim) := by
  obtain ⟨firstLine, rows, hlines, hne, hfirst⟩ := csvLines_of_valid hvalid
  have hheader : headerCells csvContent = parseCsvLine firstLine := by rw [headerCells, hlines]; rfl
  have hparse : (parseCexCsv texts csvContent options).errors =
      (parseLines texts options (parseCsvLine firstLine) 1 rows
        { trades := [], errors := [], skippedRows := 0 }).errors := by
    rw [parseCexCsv, hlines]
    cases rows with
    | nil => exact absurd rfl hne
    | cons row rows => simp only [if_neg hfirst]
  rw [hparse, hheader]
  constructor
  · intro hnone
    by_contra hcovers
    obtain ⟨e, he, hsays⟩ := exists_saysMissing texts options (i := 1)
      (p := { trades := [], errors := [], skippedRows := 0 })
      (fun line => missing_of_not_covers texts (parseCsvLine line) hcovers)
      (exists_not_blank hlines hne)
    exact hnone e he hsays
  · intro hcovers e he
    rcases mem_errors_parseLines texts options he with hnil | ⟨line, hmem, hblank, herror⟩
    · cases hnil
    · have hfull : FullRow (parseCsvLine firstLine) (parseCsvLine line) := by
        rw [← hheader]
        exact hrows line (by rw [hlines]; exact hmem) hblank
      exact not_saysMissing_of_parseTradeRow texts
        ((missing_arrayToObject_iff texts hfull).2 hcovers) herror

/-! ## Two exports -/

def digitsNumber (cs : List Char) : ℕ := cs.foldl (fun n c => 10 * n + (c.toNat - '0'.toNat)) 0

/-- Texts in ASCII, numbers without sign or exponent, and no date texts. -/
def plainTexts : CsvTexts where
  toLowerCase s := String.ofList (s.toList.map Char.toLower)
  newDate _ := none
  toNumber s :=
    match s.toList.splitOn '.' with
    | [whole] => if isDigits whole then some (Number.ofDecimal (digitsNumber whole)) else none
    | [whole, places] =>
      if isDigits whole && isDigits places then
        some (Number.ofDecimal
          ((digitsNumber (whole ++ places) : ℚ) / 10 ^ places.length))
      else none
    | _ => none
  toLowerCase_eq_empty s := by simp [String.ofList_eq_empty_iff]

instance (csvContent : String) : Decidable (FullRows csvContent) :=
  inferInstanceAs (Decidable (∀ line ∈ (csvLines csvContent).tail, Json.trim line ≠ "" →
    ∀ i < (headerCells csvContent).length, (parseCsvLine line)[i]?.getD "" ≠ ""))

def okxCsv : String := "instId,tradeId,side,fillSz,fillPx\nBTC-USDT,1,buy,0.5,42500"

def bybitCsv : String := "Symbol,ExecId,Side,Price,Qty\nBTCUSDT,1,Buy,42500,0.5"

theorem no_missing_fields_okx :
    detectPlatform plainTexts okxCsv = some .okx ∧
    ∀ e ∈ (parseCexCsv plainTexts okxCsv { platform := .okx }).errors, ¬ SaysMissing e.message :=
  ⟨by decide +kernel, (no_missing_fields_iff plainTexts okxCsv { platform := .okx }
    (by decide +kernel) (by decide +kernel)).2 (by decide +kernel)⟩

/-- The header `ExecId` is detected and validated in lower case, but read as `execId`. -/
theorem missing_fields_bybit :
    detectPlatform plainTexts bybitCsv = some .bybit ∧
      (validateCsvFormat plainTexts bybitCsv .bybit).valid = true ∧ FullRows bybitCsv ∧
      ∃ e ∈ (parseCexCsv plainTexts bybitCsv { platform := .bybit }).errors,
        e.message = "Missing required fields" := by
  decide +kernel

end SentinelApex
