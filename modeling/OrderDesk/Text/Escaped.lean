import OrderDesk.Text.Quoted

/-!
# Escaped text

How a text travels between double quotes: the quote and the backslash behind a
backslash, controls by letter or by number, and any character by the number of its
sixteen-bit units, of which a character beyond the first 65536 has two. A unit that is
one half of such a pair and stands alone is no character, and is read as the
replacement character.

`pairUp_units` says that reading the units of a text gives the text back.
-/

namespace OrderDesk.Text

/-- The first half of a pair. -/
def isHighHalf (u : Nat) : Bool := 0xD800 ≤ u && u < 0xDC00

/-- The second half of a pair. -/
def isLowHalf (u : Nat) : Bool := 0xDC00 ≤ u && u < 0xE000

/-- The character of a unit that stands alone. -/
def ofUnit (u : Nat) : Char :=
  if isHighHalf u || isLowHalf u then Char.ofNat 0xFFFD else Char.ofNat u

/-- The characters of a row of units. -/
def pairUp : List Nat → List Char
  | [] => []
  | [u] => [ofUnit u]
  | u :: v :: rest =>
    if isHighHalf u && isLowHalf v then
      Char.ofNat (0x10000 + (u - 0xD800) * 0x400 + (v - 0xDC00)) :: pairUp rest
    else ofUnit u :: pairUp (v :: rest)

/-- No character is half of a pair. -/
theorem not_isHalf (c : Char) : isHighHalf c.toNat = false ∧ isLowHalf c.toNat = false := by
  have h := c.valid
  simp only [UInt32.isValidChar, Nat.isValidChar] at h
  simp only [isHighHalf, isLowHalf, Char.toNat]
  constructor <;> simp only [Bool.and_eq_false_iff, decide_eq_false_iff_not] <;> omega

/-- A character is the character of its unit. -/
theorem ofUnit_toNat (c : Char) : ofUnit c.toNat = c := by
  simp [ofUnit, not_isHalf c]

/-- Characters read back from their numbers. -/
theorem pairUp_units (cs : List Char) : pairUp (cs.map Char.toNat) = cs := by
  induction cs with
  | nil => rfl
  | cons c rest ih =>
    cases rest with
    | nil => simp [pairUp, ofUnit_toNat]
    | cons d rest => simpa [pairUp, ofUnit_toNat, not_isHalf c] using ih

/-- The value of a digit of base sixteen, in either letter case. -/
def hexValue? (c : Char) : Option Nat :=
  let n := c.toNat
  if 48 ≤ n && n ≤ 57 then some (n - 48)
  else if 97 ≤ n && n ≤ 102 then some (n - 87)
  else if 65 ≤ n && n ≤ 70 then some (n - 55)
  else none

/-- The number that four digits of base sixteen denote. -/
def hexUnit? (cs : List Char) : Option Nat :=
  cs.foldlM (fun acc c => (hexValue? c).map (acc * 16 + ·)) 0

/-- The number of the character that a letter behind a backslash stands for. -/
def escape? : Char → Option Nat
  | '"' => some 34
  | '\\' => some 92
  | '/' => some 47
  | 'b' => some 8
  | 'f' => some 12
  | 'n' => some 10
  | 'r' => some 13
  | 't' => some 9
  | _ => none

/-- The units up to the closing quote, and what follows it. -/
def readUnits? : List Char → Option (List Nat × List Char)
  | [] => none
  | '"' :: rest => some ([], rest)
  | '\\' :: 'u' :: a :: b :: c :: d :: rest => do
    let u ← hexUnit? [a, b, c, d]
    let (us, rest) ← readUnits? rest
    return (u :: us, rest)
  | '\\' :: c :: rest => do
    let u ← escape? c
    let (us, rest) ← readUnits? rest
    return (u :: us, rest)
  | c :: rest => do
    let (us, rest) ← readUnits? rest
    return (c.toNat :: us, rest)

/-- The text up to the closing quote, and what follows it. -/
def readEscaped? (cs : List Char) : Option (String × List Char) :=
  (readUnits? cs).map fun (us, rest) => (String.ofList (pairUp us), rest)

/-- A unit by its number. -/
def escapedUnit (u : Nat) : List Char := '\\' :: 'u' :: hexDigits 4 u

/-- One character as it travels: the printed ones of the first 128 stand as they are. -/
def escapedChar (c : Char) : List Char :=
  let n := c.toNat
  if c == '"' || c == '\\' then ['\\', c]
  else if 32 ≤ n && n < 127 then [c]
  else if n < 0x10000 then escapedUnit n
  else
    escapedUnit (0xD800 + (n - 0x10000) / 0x400) ++ escapedUnit (0xDC00 + (n - 0x10000) % 0x400)

/-- A text as it travels, between double quotes. -/
def escaped (s : String) : String :=
  String.ofList ('"' :: s.toList.flatMap escapedChar ++ ['"'])

end OrderDesk.Text
