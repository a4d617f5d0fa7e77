import OrderDesk.Venue.Book
import OrderDesk.Number.Arith

/-!
# Slippage

A market order consumes the book level by level, so a large one pays a worse price than
the best on offer. The achievable price is the average over what is consumed, weighted
by amount; a book that is too thin prices only what it holds. Slippage is the distance
between the two in percent of the best price, with two places.
-/

namespace OrderDesk

variable {K : Type} [Arith K]

namespace Book

/-- How much was filled and what it is worth. -/
structure Fill (K : Type) where
  filled : K
  /-- The sum of amount times price. -/
  notional : K

/-- Levels are consumed, best first, until nothing remains to be filled. -/
def consume (remaining : K) (fill : Fill K) : List (Level K) → Fill K
  | [] => fill
  | level :: rest =>
    if remaining ≤ 0 then fill
    else
      let take := Arith.cap level.amount remaining
      consume (remaining - take) ⟨fill.filled + take, fill.notional + take * level.price⟩ rest

/-- **The average price of a fill**; none when nothing can be filled. -/
def fillPrice? (levels : List (Level K)) (quantity : K) : Option K :=
  let fill := consume quantity ⟨0, 0⟩ levels
  if fill.filled ≤ 0 then none else some (fill.notional / fill.filled)

/-- **Slippage in percent**: how far the average price is from the best one. It is zero
where there is no offer, no quantity or no best price to compare with. -/
def slippage (book : Book K) (side : Side) (quantity : K) : K :=
  match book.offersFor side with
  | [] => 0
  | best :: rest =>
    if quantity ≤ 0 || best.price == 0 then 0
    else
      match fillPrice? (best :: rest) quantity with
      | none => 0
      | some average =>
        Arith.roundTo 2 (Arith.gap average best.price / best.price * Arith.hundred)

end Book

end OrderDesk
