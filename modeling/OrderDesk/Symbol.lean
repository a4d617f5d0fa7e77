import OrderDesk.Fault
import OrderDesk.Text.Case

/-!
# Symbols and the pairs they name

A pair is written either with a separator or as one token, base and quote run
together. A token can be read in more than one way, because one known quote can end
in another: whoever knows which assets exist picks among the readings, and without
that knowledge the longest quote wins.
-/

namespace OrderDesk

/-- A base asset and the quote asset it is priced in. -/
structure Pair where
  base : String
  /-- What it is paid with. -/
  quote : String
  deriving DecidableEq, Repr

namespace Pair

/-- The assets that others are commonly priced in. -/
def quoteAssets : List String :=
  ["USDT", "USDC", "BUSD", "FDUSD", "TUSD", "DAI", "USD", "EUR", "GBP", "BTC", "ETH", "BNB"]

/-- The quote assets that can end a token, longer ones first. Those of one length stay in
the order in which they are listed. -/
def knownQuotes : List String := quoteAssets.mergeSort fun a b => b.length ≤ a.length

/-- A separator as it is written in a pair. -/
def isSeparator (c : Char) : Bool := c == '/' || c == '-' || c == '_'

/-- A symbol in upper case, with one spelling for all separators. -/
def token (symbol : String) : List Char :=
  (Text.upperChars symbol.toList).map fun c => if isSeparator c then '/' else c

/-- The reading of a token whose quote is the given one: some base must be left. -/
def endingIn? (cs : List Char) (quote : String) : Option Pair :=
  let base := cs.take (cs.length - quote.length)
  if quote.length < cs.length && cs.drop (cs.length - quote.length) == quote.toList then
    some ⟨String.ofList base, quote⟩
  else none

/-- **Every reading of a symbol**, longest quote first. A symbol with a separator has
one reading, at its first separator. -/
def readings (symbol : String) : List Pair :=
  match (token symbol).span (· != '/') with
  | (base, _ :: quote) => [⟨String.ofList base, String.ofList quote⟩]
  | (whole, []) => knownQuotes.filterMap (endingIn? whole)

/-- The first reading of a symbol. -/
def ofSymbol (symbol : String) : Except Fault Pair :=
  match readings symbol with
  | pair :: _ => .ok pair
  | [] => .error (.noQuote symbol)

/-- A pair as venues write it. -/
def text (p : Pair) : String := p.base ++ "/" ++ p.quote

/-- A symbol as venues write it. -/
def format (symbol : String) : Except Fault String := (ofSymbol symbol).map text

/-- What the sorting comes to. -/
theorem knownQuotes_eq : knownQuotes =
    ["FDUSD", "USDT", "USDC", "BUSD", "TUSD", "DAI", "USD", "EUR", "GBP", "BTC", "ETH", "BNB"] := by
  simp +decide [knownQuotes, quoteAssets, List.mergeSort, List.MergeSort.Internal.splitInTwo]

/-- Known quotes stand in descending order of length. -/
theorem knownQuotes_descending :
    (knownQuotes.map String.length).Pairwise (fun a b => b ≤ a) := by
  rw [knownQuotes_eq]
  decide

end Pair

end OrderDesk
