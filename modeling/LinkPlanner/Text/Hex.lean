/-! Numbers in hexadecimal digits. -/

namespace LinkPlanner.Text

/-- The value of a hexadecimal digit, small or capital. -/
def hexValue? (c : Char) : Option Nat :=
  if c.isDigit then some (c.toNat - '0'.toNat)
  else if 'a' ≤ c && c ≤ 'f' then some (c.toNat - 'a'.toNat + 10)
  else if 'A' ≤ c && c ≤ 'F' then some (c.toNat - 'A'.toNat + 10)
  else none

/-- The character whose number the digits write. At least one digit is needed. -/
def charOfHex? (digits : List Char) : Option Char :=
  if digits.isEmpty then none
  else do
    let n := (← digits.mapM hexValue?).foldl (fun n d => 16 * n + d) 0
    if n.isValidChar then some (Char.ofNat n) else none

/-- The number in small digits, without leading zeros. -/
def hexDigits (n : Nat) : List Char := Nat.toDigits 16 n

/-- The number in four capital digits, or more if it needs them. -/
def hex4 (n : Nat) : List Char :=
  let digits := (hexDigits n).map Char.toUpper
  List.replicate (4 - digits.length) '0' ++ digits

end LinkPlanner.Text
