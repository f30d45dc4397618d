import Mathlib.Data.List.Basic

/-!
# Bytes as hexadecimal digits

`Hex.encode` writes two lower case digits a byte. `Hex.decode` reads pairs of digits in either case up
to the first pair that is none, as a decoder that reports no errors does; it reads back what was written
(`decode_encode`).
-/

namespace Hex

def digit (n : ℕ) : Char :=
  if n < 10 then Char.ofNat (48 + n) else Char.ofNat (87 + n)

def value? (c : Char) : Option ℕ :=
  if 48 ≤ c.toNat ∧ c.toNat ≤ 57 then some (c.toNat - 48)
  else if 97 ≤ c.toNat ∧ c.toNat ≤ 102 then some (c.toNat - 87)
  else if 65 ≤ c.toNat ∧ c.toNat ≤ 70 then some (c.toNat - 55)
  else none

def encode (bytes : List UInt8) : List Char :=
  bytes.flatMap fun b => [digit (b.toNat / 16), digit (b.toNat % 16)]

def decode : List Char → List UInt8
  | a :: b :: rest =>
    match value? a, value? b with
    | some x, some y => UInt8.ofNat (16 * x + y) :: decode rest
    | _, _ => []
  | _ => []

theorem value?_digit {n : ℕ} (h : n < 16) : value? (digit n) = some n := by
  revert n
  decide

theorem decode_encode (bytes : List UInt8) : decode (encode bytes) = bytes := by
  induction bytes with
  | nil => rfl
  | cons b bytes ih =>
    have hb : b.toNat < 256 := b.toNat_lt
    have hhigh : value? (digit (b.toNat / 16)) = some (b.toNat / 16) := value?_digit (by omega)
    have hlow : value? (digit (b.toNat % 16)) = some (b.toNat % 16) := value?_digit (by omega)
    have hsum : 16 * (b.toNat / 16) + b.toNat % 16 = b.toNat := by omega
    show decode (digit (b.toNat / 16) :: digit (b.toNat % 16) :: encode bytes) = b :: bytes
    rw [decode, hhigh, hlow]
    simp [hsum, ih]

theorem notMem_encode {c : Char} (hc : value? c = none) (bytes : List UInt8) :
    c ∉ encode bytes := by
  intro h
  obtain ⟨b, -, hb⟩ := List.mem_flatMap.1 h
  have hlt : b.toNat < 256 := b.toNat_lt
  have hdigit : ∃ n < 16, c = digit n := by
    rcases List.mem_cons.1 hb with rfl | hb
    · exact ⟨b.toNat / 16, by omega, rfl⟩
    · exact ⟨b.toNat % 16, by omega, List.mem_singleton.1 hb⟩
  obtain ⟨n, hn, rfl⟩ := hdigit
  rw [value?_digit hn] at hc
  cases hc

end Hex
