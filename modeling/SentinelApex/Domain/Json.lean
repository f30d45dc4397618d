import SentinelApex.Domain.Numbers
import SentinelApex.Lib.OrderedMap

/-!
# Untyped values

Metadata records (`Record<string, unknown>`) hold untyped values. A string that is the text of a
decimal is kept as the number it denotes (`decimal`), as everywhere in the model; `str` is any
other text.
-/

namespace SentinelApex

/-- A JavaScript value as it occurs in metadata. -/
inductive Json where
  | null
  | bool (b : Bool)
  | num (x : Number)
  | decimal (x : Decimal)
  | str (s : String)
  | arr (items : List Json)
  | obj (fields : List (String × Json))

/-- A metadata record; an absent key reads as `undefined`. -/
abbrev Metadata := OrderedMap String Json

namespace Json

mutual

/-- `String(value)`. -/
def text : Json → String
  | null => "null"
  | bool b => toString b
  | num x => Number.toText x
  | decimal x => Decimal.toFixedAll x
  | str s => s
  | arr items => textItems items
  | obj _ => "[object Object]"

/-- `String` joins the items of an array with commas; `null` items print nothing. -/
def textItems : List Json → String
  | [] => ""
  | [null] => ""
  | [item] => text item
  | null :: items => "," ++ textItems items
  | item :: items => text item ++ "," ++ textItems items

end

/-- `new Decimal(String(value))`; `none` when the constructor throws. An array of one item prints
as the item. -/
def toDecimal? : Json → Option Decimal
  | num x => some x
  | decimal x => some x
  | arr [item] => toDecimal? item
  | _ => none

/-- Characters that `trim` removes. -/
def isSpace (c : Char) : Bool :=
  [0x09, 0x0A, 0x0B, 0x0C, 0x0D, 0x20, 0xA0, 0x1680, 0x2028, 0x2029, 0x202F, 0x205F, 0x3000,
    0xFEFF].contains c.toNat || (0x2000 ≤ c.toNat && c.toNat ≤ 0x200A)

/-- `s.trim()`. -/
def trim (s : String) : String :=
  String.ofList (((s.toList.dropWhile isSpace).reverse.dropWhile isSpace).reverse)

/-- A present string that is not blank, trimmed. -/
def stringValue : Json → Option String
  | str s => if trim s = "" then none else some (trim s)
  | decimal x => some (Decimal.toFixedAll x)
  | _ => none

def digitsValue : List Char → Option ℕ
  | cs =>
    match cs.takeWhile Char.isDigit with
    | [] => none
    | ds => some (ds.foldl (fun n c => 10 * n + (c.toNat - '0'.toNat)) 0)

/-- `Number.parseInt(s, 10)`; `none` is `NaN`. -/
def parseInt (s : String) : Option ℤ :=
  match s.toList with
  | '-' :: cs => (digitsValue cs).map fun n => -(n : ℤ)
  | '+' :: cs => (digitsValue cs).map fun n => (n : ℤ)
  | cs => (digitsValue cs).map fun n => (n : ℤ)

/-- Truncation toward zero. -/
def truncate (x : ℚ) : ℤ := if 0 ≤ x then ⌊x⌋ else -⌊-x⌋

/-- A number or a text that starts with an integer. -/
def integerValue : Json → Option ℤ
  | num x => some (truncate x)
  | decimal x => some (truncate x)
  | str s => if trim s = "" then none else parseInt (trim s)
  | _ => none

/-- A missing key or a missing optional field. -/
def ofOption (v : Option String) : Json := (v.map str).getD null

end Json

/-- `metadata[key] ?? fallback`: absent and `null` values are replaced. -/
def Metadata.getOr (m : Metadata) (key : String) (fallback : Json) : Json :=
  match m.get? key with
  | none => fallback
  | some .null => fallback
  | some v => v

end SentinelApex
