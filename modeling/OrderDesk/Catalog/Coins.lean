import OrderDesk.Text.Case
import OrderDesk.Number.Arith
import OrderDesk.Symbol

/-!
# The coin catalogue

Coins are listed in the order in which they were added. A coin that is added again
under its identifier takes the place of the old one. Symbols are compared in upper
case, and more than one coin can carry a symbol.
-/

namespace OrderDesk

/-- A coin. -/
structure Coin (K : Type) where
  id : String
  symbol : String
  /-- Its price, when one is known. -/
  price : Option K
  deriving Repr

/-- A catalogue of coins. -/
structure Coins where
  /-- The coins, in the order in which they were first added. -/
  entries : List (Coin Float) := []

namespace Coins

/-- A coin put among others: in place of the one with its identifier, else last. -/
def put (coin : Coin Float) : List (Coin Float) → List (Coin Float)
  | [] => [coin]
  | c :: rest => if c.id == coin.id then coin :: rest else c :: put coin rest

/-- The catalogue with a coin added. -/
def add (coins : Coins) (coin : Coin Float) : Coins := ⟨put coin coins.entries⟩

/-- The catalogue of several coins, added one after the other. -/
def ofList (coins : List (Coin Float)) : Coins := coins.foldl add ⟨[]⟩

/-- The coin with an identifier. -/
def find? (coins : Coins) (id : String) : Option (Coin Float) :=
  coins.entries.find? (·.id == id)

/-- The first coin with a symbol, in any letter case. -/
def withSymbol? (coins : Coins) (symbol : String) : Option (Coin Float) :=
  coins.entries.find? fun c => Text.upper c.symbol == Text.upper symbol

/-- All coins with one of several symbols, in any letter case. -/
def withSymbols (coins : Coins) (symbols : List String) : List (Coin Float) :=
  coins.entries.filter fun c => (symbols.map Text.upper).contains (Text.upper c.symbol)

/-- The last coin whose symbol is, in upper case, the given one. -/
def lastWithSymbol? (coins : List (Coin Float)) (symbol : String) : Option (Coin Float) :=
  coins.reverse.find? fun c => Text.upper c.symbol == symbol

/-- The coins of a reading of a symbol, when the catalogue has both. -/
def coverReading? (found : List (Coin Float)) (pair : Pair) :
    Option (Coin Float × Coin Float) := do
  return (← lastWithSymbol? found pair.base, ← lastWithSymbol? found pair.quote)

/-- **The coins of the first reading of a symbol that the catalogue covers.** -/
def cover? (coins : Coins) (readings : List Pair) : Option (Coin Float × Coin Float) :=
  let found := coins.withSymbols (readings.flatMap fun p => [p.base, p.quote])
  readings.findSome? (coverReading? found)

end Coins

end OrderDesk
