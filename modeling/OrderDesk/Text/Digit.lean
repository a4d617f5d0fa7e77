/-!
# Decimal digits of every script

Numbers arrive as text, and the character standard has sixty-six rows of ten
decimal digits. Each row is contiguous and starts at its zero.
-/

namespace OrderDesk.Text

/-- The zeros of the digit rows, in ascending order. -/
def digitZeros : List Nat :=
  [0x30, 0x660, 0x6F0, 0x7C0, 0x966, 0x9E6, 0xA66, 0xAE6, 0xB66, 0xBE6, 0xC66, 0xCE6,
   0xD66, 0xDE6, 0xE50, 0xED0, 0xF20, 0x1040, 0x1090, 0x17E0, 0x1810, 0x1946, 0x19D0,
   0x1A80, 0x1A90, 0x1B50, 0x1BB0, 0x1C40, 0x1C50, 0xA620, 0xA8D0, 0xA900, 0xA9D0,
   0xA9F0, 0xAA50, 0xABF0, 0xFF10, 0x104A0, 0x10D30, 0x11066, 0x110F0, 0x11136,
   0x111D0, 0x112F0, 0x11450, 0x114D0, 0x11650, 0x116C0, 0x11730, 0x118E0, 0x11950,
   0x11C50, 0x11D50, 0x11DA0, 0x16A60, 0x16AC0, 0x16B50, 0x1D7CE, 0x1D7D8, 0x1D7E2,
   0x1D7EC, 0x1D7F6, 0x1E140, 0x1E2F0, 0x1E950, 0x1FBF0]

/-- The value of a decimal digit of any script. -/
def digitValue? (c : Char) : Option Nat :=
  (digitZeros.find? fun start => start ≤ c.toNat && c.toNat < start + 10).map (c.toNat - ·)

/-- The value of one of the ten plain digits. -/
def plainDigit? (c : Char) : Option Nat :=
  if 48 ≤ c.toNat && c.toNat ≤ 57 then some (c.toNat - 48) else none

/-- The plain digit with a given value below ten. -/
def digitChar (n : Nat) : Char := Char.ofNat (48 + n)

/-- A plain digit reads back. -/
theorem plainDigit?_digitChar {n : Nat} (h : n < 10) : plainDigit? (digitChar n) = some n := by
  have all : ∀ k ∈ List.range 10, plainDigit? (digitChar k) = some k := by decide
  exact all n (List.mem_range.mpr h)

/-- The number that a row of digits denotes, most significant digit first. -/
def ofDigits (ds : List Nat) : Nat := ds.foldl (fun acc d => acc * 10 + d) 0

/-- The digits of a number, most significant first; zero has one digit. -/
def toDigits (n : Nat) : List Nat :=
  if n < 10 then [n] else toDigits (n / 10) ++ [n % 10]

/-- The digits of a number denote it. -/
theorem ofDigits_toDigits (n : Nat) : ofDigits (toDigits n) = n := by
  fun_induction toDigits n with
  | case1 n _ => simp [ofDigits]
  | case2 n _ ih =>
    have h : ofDigits (toDigits (n / 10) ++ [n % 10]) = ofDigits (toDigits (n / 10)) * 10 + n % 10 := by
      simp [ofDigits]
    rw [h, ih]
    omega

/-- The digits of a number are below ten. -/
theorem lt_ten_of_mem_toDigits {n : Nat} : ∀ digit ∈ toDigits n, digit < 10 := by
  fun_induction toDigits n with
  | case1 n small =>
    intro digit mem
    exact List.mem_singleton.mp mem ▸ small
  | case2 n _ ih =>
    intro digit mem
    rcases List.mem_append.mp mem with front | last
    · exact ih digit front
    · exact List.mem_singleton.mp last ▸ Nat.mod_lt n (by decide)

end OrderDesk.Text
