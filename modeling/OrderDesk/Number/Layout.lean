import OrderDesk.Number.Decimal
import OrderDesk.Text.Digit

/-!
# How amounts are written

One layout serves every number in messages and answers: the fewest digits that read
back, positional while the leading digit stands from the fourth place after the
point to the sixteenth place before it, and otherwise with an exponent that carries
a sign and at least two digits. A positional number always shows a point.

The store lays out a number that it keeps as a text in the same way, but in fifteen digits at
most, up to the fifteenth place, and it shows a point before an exponent as well.
-/

namespace OrderDesk.Number

/-- The plain digits of a number as text. -/
def digitsText (n : Nat) : String :=
  String.ofList ((Text.toDigits n).map Text.digitChar)

/-- A row of zeros. -/
def zeros (n : Nat) : String := String.ofList (List.replicate n '0')

/-- A whole number as text. -/
def intText (i : Int) : String :=
  if i < 0 then "-" ++ digitsText i.natAbs else digitsText i.natAbs

/-- An exponent: its sign and at least two digits. -/
def exponentText (e : Int) : String :=
  let digits := digitsText e.natAbs
  "e" ++ (if e < 0 then "-" else "+") ++ (if digits.length < 2 then "0" ++ digits else digits)

/-- The magnitude `coefficient · 10 ^ exponent`, laid out with at most `places` places before the
point. What follows a digit that stands alone before an exponent is `lone`. -/
def layoutIn (places : Int) (lone : String) (coefficient : Nat) (exponent : Int) : String :=
  let digits := digitsText coefficient
  let point : Int := digits.length + exponent
  if coefficient == 0 then "0.0"
  else if -4 < point && point ≤ places then
    if point ≤ 0 then "0." ++ zeros (-point).toNat ++ digits
    else if digits.length ≤ point then digits ++ zeros exponent.toNat ++ ".0"
    else
      String.ofList (digits.toList.take point.toNat) ++ "."
        ++ String.ofList (digits.toList.drop point.toNat)
  else
    match digits.toList with
    | [d] => String.singleton d ++ lone ++ exponentText (point - 1)
    | d :: rest => String.singleton d ++ "." ++ String.ofList rest ++ exponentText (point - 1)
    | [] => ""

/-- A double as text. -/
def text (x : Float) : String :=
  match Decimal.ofFloat? x with
  | some d => (if d.negative then "-" else "") ++ layoutIn 16 "" d.coefficient d.exponent
  | none => if x.isNaN then "nan" else if x < 0.0 then "-inf" else "inf"

/-- A double that is not NaN as the store has it in a column of texts. Zero has no sign there. -/
def columnText (x : Float) : String :=
  match Binary.ofFloat? x with
  | some b =>
    if b.significand == 0 then "0.0"
    else
      let (coefficient, exponent) := Decimal.rounded b.num b.den 15
      (if b.negative then "-" else "") ++ layoutIn 15 ".0" coefficient exponent
  | none => if x < 0.0 then "-Inf" else "Inf"

end OrderDesk.Number
