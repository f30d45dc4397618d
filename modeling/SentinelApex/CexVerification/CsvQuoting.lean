import SentinelApex.CexVerification.CsvParser

/-!
# Quoted cells

A field with a comma or a quote is written between quotes, with its own quotes doubled. Reading the
line of such fields gives the fields without their quotes (`parseCsvLine_encodeLine`): a doubled
quote turns the quoting off and on again and leaves no character behind.
-/

namespace SentinelApex

def doubleQuote (char : Char) : List Char := if char = '"' then ['"', '"'] else [char]

/-- The field, in quotes where a comma or a quote needs them. -/
def encodeField (field : String) : List Char :=
  if ',' ∈ field.toList ∨ '"' ∈ field.toList then
    '"' :: (field.toList.flatMap doubleQuote ++ ['"'])
  else field.toList

def encodeLine (fields : List String) : String :=
  String.ofList ([','].intercalate (fields.map encodeField))

def withoutQuotes (cs : List Char) : List Char := cs.filter fun c => c ≠ '"'

/-- The cell that is read where `field` was written. -/
def readBack (field : String) : String :=
  Json.trim (String.ofList (withoutQuotes field.toList))

namespace CellReader

variable {r : CellReader}

/-- `current += …`. -/
def append (r : CellReader) (cs : List Char) : CellReader := { r with current := r.current ++ cs }

/-- `result.push(current.trim())`. -/
def endCell (r : CellReader) : CellReader :=
  { r with result := r.result ++ [Json.trim (String.ofList r.current)], current := [] }

@[simp] theorem append_nil (r : CellReader) : r.append [] = r := by
  simp [append]

@[simp] theorem append_append (r : CellReader) (cs ds : List Char) :
    (r.append cs).append ds = r.append (cs ++ ds) := by
  simp [append]

@[simp] theorem append_inQuotes (r : CellReader) (cs : List Char) :
    (r.append cs).inQuotes = r.inQuotes := rfl

theorem read_quote (r : CellReader) : r.read '"' = { r with inQuotes := !r.inQuotes } := rfl

theorem read_comma (h : r.inQuotes = false) : r.read ',' = r.endCell := by
  simp [read, endCell, h]

theorem read_other {char : Char} (hquote : char ≠ '"') (h : char ≠ ',' ∨ r.inQuotes = true) :
    r.read char = r.append [char] := by
  have hcomma : ¬ (char = ',' ∧ r.inQuotes = false) := by
    rintro ⟨rfl, hout⟩
    rcases h with h | h
    · exact h rfl
    · exact absurd h (by rw [hout]; decide)
  rw [read, if_neg hquote, if_neg hcomma]
  rfl

theorem foldl_read_plain {cs : List Char} (hcomma : ',' ∉ cs) (hquote : '"' ∉ cs) :
    cs.foldl read r = r.append cs := by
  induction cs generalizing r with
  | nil => simp
  | cons c cs ih =>
    rw [List.mem_cons, not_or] at hcomma hquote
    rw [List.foldl_cons, read_other (Ne.symm hquote.1) (Or.inl (Ne.symm hcomma.1)),
      ih hcomma.2 hquote.2, append_append, List.singleton_append]

theorem foldl_read_doubled {cs : List Char} (h : r.inQuotes = true) :
    (cs.flatMap doubleQuote).foldl read r = r.append (withoutQuotes cs) := by
  induction cs generalizing r with
  | nil => simp [withoutQuotes]
  | cons c cs ih =>
    rw [List.flatMap_cons, List.foldl_append]
    by_cases hquote : c = '"'
    · subst hquote
      have htwice : (doubleQuote '"').foldl read r = r := by
        simp [doubleQuote, read_quote]
      rw [htwice, ih h]
      simp [withoutQuotes]
    · have hread : (doubleQuote c).foldl read r = r.append [c] := by
        simp [doubleQuote, hquote, read_other hquote (Or.inr h)]
      rw [hread, ih ((append_inQuotes r [c]).trans h), append_append]
      simp [withoutQuotes, hquote]

theorem foldl_read_encodeField (field : String) (h : r.inQuotes = false) :
    (encodeField field).foldl read r = r.append (withoutQuotes field.toList) := by
  unfold encodeField
  split_ifs with hspecial
  · have hopen : r.read '"' = { r with inQuotes := true } := by
      rw [read_quote, h]
      rfl
    rw [List.foldl_cons, hopen, List.foldl_append, foldl_read_doubled rfl]
    simp only [List.foldl_cons, List.foldl_nil, read_quote]
    simp [append, h]
  · obtain ⟨hcomma, hquote⟩ := not_or.1 hspecial
    rw [foldl_read_plain hcomma hquote]
    congr 1
    exact (List.filter_eq_self.2 fun c hc => by
      simpa using fun heq : c = '"' => hquote (heq ▸ hc)).symm

theorem cells_foldl_read (field : String) (fields : List String) (h : r.inQuotes = false)
    (hcurrent : r.current = []) :
    let stop := ([','].intercalate ((field :: fields).map encodeField)).foldl read r
    stop.result ++ [Json.trim (String.ofList stop.current)] =
      r.result ++ (field :: fields).map readBack := by
  induction fields generalizing field r with
  | nil => simp [foldl_read_encodeField field h, append, hcurrent, readBack]
  | cons next fields ih =>
    simp only [List.map_cons, List.intercalate_cons_cons, List.foldl_append] at ih ⊢
    rw [foldl_read_encodeField field h, List.foldl_cons, List.foldl_nil,
      read_comma ((append_inQuotes r _).trans h),
      ih next (r := (r.append (withoutQuotes field.toList)).endCell) h rfl]
    simp [append, endCell, hcurrent, readBack]

end CellReader

theorem parseCsvLine_encodeLine {fields : List String} (hfields : fields ≠ []) :
    parseCsvLine (encodeLine fields) = fields.map readBack := by
  obtain ⟨field, rest, rfl⟩ := List.exists_cons_of_ne_nil hfields
  have hcells := CellReader.cells_foldl_read field rest (r := ⟨[], [], false⟩) rfl rfl
  simpa [parseCsvLine, encodeLine] using hcells

theorem mem_of_mem_trim {s : String} {c : Char} (h : c ∈ (Json.trim s).toList) : c ∈ s.toList := by
  rw [Json.trim, String.toList_ofList, List.mem_reverse] at h
  exact (List.dropWhile_suffix _).subset (List.mem_reverse.1 ((List.dropWhile_suffix _).subset h))

theorem readBack_eq_iff {field : String} (htrim : Json.trim field = field) :
    readBack field = field ↔ '"' ∉ field.toList := by
  constructor
  · intro h hquote
    rw [← h] at hquote
    have hmem := mem_of_mem_trim hquote
    rw [String.toList_ofList] at hmem
    exact absurd (List.mem_filter.1 hmem).2 (by decide)
  · intro hquote
    have hsame : withoutQuotes field.toList = field.toList :=
      List.filter_eq_self.2 fun c hc => by simpa using fun heq : c = '"' => hquote (heq ▸ hc)
    rw [readBack, hsame, String.ofList_toList, htrim]

/-- Fields without white space around them come back from their line exactly if none of them has a
quote. -/
theorem parseCsvLine_inverts_encodeLine_iff {fields : List String} (hfields : fields ≠ [])
    (htrim : ∀ field ∈ fields, Json.trim field = field) :
    parseCsvLine (encodeLine fields) = fields ↔ ∀ field ∈ fields, '"' ∉ field.toList := by
  have hmap : fields.map readBack = fields ↔ ∀ field ∈ fields, readBack field = field := by
    conv_lhs => rhs; rw [← List.map_id fields]
    exact List.map_inj_left
  rw [parseCsvLine_encodeLine hfields, hmap]
  exact forall₂_congr fun field hfield => readBack_eq_iff (htrim field hfield)

/-- Fields with commas and an empty one. -/
theorem parseCsvLine_inverts_encodeLine_sample :
    encodeLine ["1,250.5", "", "BTC-USD"] = "\"1,250.5\",,BTC-USD" ∧
      parseCsvLine (encodeLine ["1,250.5", "", "BTC-USD"]) = ["1,250.5", "", "BTC-USD"] :=
  ⟨by decide +kernel,
    (parseCsvLine_inverts_encodeLine_iff (by decide) (by decide +kernel)).2 (by decide +kernel)⟩

/-- The quote of a field gets lost. -/
theorem parseCsvLine_drops_quote :
    Json.trim "a\"b" = "a\"b" ∧ encodeLine ["a\"b"] = "\"a\"\"b\"" ∧
      parseCsvLine (encodeLine ["a\"b"]) = ["ab"] := by
  decide +kernel

end SentinelApex
