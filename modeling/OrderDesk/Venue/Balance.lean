import OrderDesk.Payload.Reading
import OrderDesk.Text.Case

/-!
# Balances

What an account holds on a venue, by currency: what is free to trade with, and the
total.
-/

namespace OrderDesk

/-- The holdings of an account on a venue. -/
structure Balance where
  /-- What is free to trade with. -/
  free : List (String × Float)
  total : List (String × Float)

namespace Balance

/-- What is free of a currency, named in any letter case; nothing when it is unknown. -/
def available (b : Balance) (currency : String) : Float :=
  let amount := (b.free.lookup (Text.upper currency)).getD 0.0
  if amount == 0.0 then 0.0 else amount

/-- The amounts of one section, currencies without an amount left out. -/
def readAmounts : List (String × Payload) → Except Fault (List (String × Float))
  | [] => .ok []
  | (_, .null) :: rest => readAmounts rest
  | (currency, p) :: rest => do
    let amount ← p.number
    return (currency, amount) :: (← readAmounts rest)

/-- A section of a balance. -/
def readSection (p : Payload) (name : String) : Except Fault (List (String × Float)) := do
  readAmounts (← (← p.group name).entries)

/-- A balance from what the venue wrote. -/
def read (p : Payload) : Except Fault Balance := do
  let free ← readSection p "free"
  let total ← readSection p "total"
  return ⟨free, total⟩

end Balance

end OrderDesk
