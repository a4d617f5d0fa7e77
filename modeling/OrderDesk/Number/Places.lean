import OrderDesk.Number.Layout

/-!
# A fixed number of places

Percentages are shown with two places and balances with eight. What is rounded is
the exact value of the double, and an exact half goes to the even neighbour; the
sign stays even where only zeros are left.
-/

namespace OrderDesk.Number

/-- The whole number of units of `10 ^ (-places)` nearest to the magnitude. -/
def unitsOf (places : Nat) (b : Binary) : Nat := nearest (b.num * tenTo places) b.den

/-- A double with a fixed, positive number of places. -/
def placesText (places : Nat) (x : Float) : String :=
  match Binary.ofFloat? x with
  | some b =>
    let digits := digitsText (unitsOf places b)
    let padded := zeros (places + 1 - digits.length) ++ digits
    let cut := padded.length - places
    (if b.negative then "-" else "") ++ String.ofList (padded.toList.take cut) ++ "."
      ++ String.ofList (padded.toList.drop cut)
  | none => text x

/-- The double nearest to the value rounded to a number of places. -/
def roundTo (places : Nat) (x : Float) : Float :=
  match Binary.ofFloat? x with
  | some b => Decimal.toFloat ⟨b.negative, unitsOf places b, -(places : Int)⟩
  | none => x

end OrderDesk.Number
