/-!
# Bytes in hexadecimal

Each byte is written as two digits, of which the letters are small. Reading takes small and
capital letters.
-/
namespace Tenure.Text

def hexValue? (c : Char) : Option Nat :=
  if c.isDigit then some (c.toNat - '0'.toNat)
  else if 'a' ≤ c ∧ c ≤ 'f' then some (c.toNat - 'a'.toNat + 10)
  else if 'A' ≤ c ∧ c ≤ 'F' then some (c.toNat - 'A'.toNat + 10)
  else none

/-- The two digits of a number below 256. -/
def twoHexDigits (n : Nat) : List Char := [Nat.digitChar (n / 16), Nat.digitChar (n % 16)]

def hex : List UInt8 → List Char
  | [] => []
  | b :: rest => twoHexDigits b.toNat ++ hex rest

/-- The byte of two digits. -/
def hexByte? (a b : Char) : Option UInt8 := do
  let high ← hexValue? a
  let low ← hexValue? b
  return .ofNat (high * 16 + low)

def ofHex? : List Char → Option (List UInt8)
  | [] => some []
  | a :: b :: rest => do
    let byte ← hexByte? a b
    return byte :: (← ofHex? rest)
  | [_] => none

theorem hexValue?_digitChar {n : Nat} (h : n < 16) : hexValue? (Nat.digitChar n) = some n := by
  have : ∀ m : Fin 16, hexValue? (Nat.digitChar m) = some m.val := by decide
  exact this ⟨n, h⟩

theorem hexByte?_digits (b : UInt8) :
    hexByte? (Nat.digitChar (b.toNat / 16)) (Nat.digitChar (b.toNat % 16)) = some b := by
  have hb := b.toNat_lt
  rw [hexByte?, hexValue?_digitChar (by omega), hexValue?_digitChar (by omega)]
  simp only [Option.bind_eq_bind, Option.bind_some, pure, Nat.div_add_mod', UInt8.ofNat_toNat]

theorem ofHex?_hex (bytes : List UInt8) : ofHex? (hex bytes) = some bytes := by
  induction bytes with
  | nil => rfl
  | cons b rest ih => simp [hex, twoHexDigits, ofHex?, hexByte?_digits, ih]

end Tenure.Text
