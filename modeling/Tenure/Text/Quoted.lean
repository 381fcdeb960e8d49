import Tenure.Text.Hidden

/-!
# Quoted text

A text between double quotes in which a double quote, a backslash and every hidden character
is escaped. Tab, line feed, carriage return and NUL have short escapes; any other hidden
character is written by its code point.
-/
namespace Tenure.Text

/-- The hexadecimal digits of a number, lower case, most significant first. -/
def hexDigits (n : Nat) : List Char := Nat.toDigits 16 n

def quotedChar (c : Char) : List Char :=
  if c = '"' ∨ c = '\\' then ['\\', c]
  else if c = '\t' then ['\\', 't']
  else if c = '\n' then ['\\', 'n']
  else if c = '\r' then ['\\', 'r']
  else if c = '\x00' then ['\\', '0']
  else if isHidden c then ['\\', 'u', '\x7b'] ++ hexDigits c.toNat ++ ['\x7d']
  else [c]

def quoted (s : String) : String :=
  .ofList ('"' :: s.toList.flatMap quotedChar ++ ['"'])

theorem quotedChar_of_plain {c : Char} (hq : c ≠ '"') (hb : c ≠ '\\') (hh : isHidden c = false) :
    quotedChar c = [c] := by
  have ht : c ≠ '\t' := by rintro rfl; exact absurd hh (by decide)
  have hn : c ≠ '\n' := by rintro rfl; exact absurd hh (by decide)
  have hr : c ≠ '\r' := by rintro rfl; exact absurd hh (by decide)
  have h0 : c ≠ '\x00' := by rintro rfl; exact absurd hh (by decide)
  simp [quotedChar, hq, hb, ht, hn, hr, h0, hh]

end Tenure.Text
