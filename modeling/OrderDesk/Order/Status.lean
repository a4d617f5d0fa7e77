import OrderDesk.Order.Terms
import OrderDesk.Fault
import OrderDesk.Text.Blank
import OrderDesk.Text.Case

/-!
# What a status allows

The desk cancels what is still open and never moves an order out of a final status.
Venues have status words of their own; one that the desk does not know, or none at
all, stands for an order that is still open.
-/

namespace OrderDesk

namespace OrderStatus

/-- No event can change an order with this status. -/
def isTerminal : OrderStatus → Bool
  | filled | canceled | rejected | expired => true
  | _ => false

/-- An order with this status can be canceled. -/
def isCancelable : OrderStatus → Bool
  | new | partiallyFilled => true
  | _ => false

/-- The status that a stored word names. -/
def read (word : String) : Except Fault OrderStatus :=
  match Vocabulary.ofName? word with
  | some s => .ok s
  | none => .error (.unknownStatus word)

/-- The venues' words and what they mean. -/
def venueWords : List (String × OrderStatus) :=
  [("open", new), ("closed", filled), ("canceled", canceled), ("cancelled", canceled),
   ("expired", expired), ("rejected", rejected), ("partial", partiallyFilled),
   ("partially_filled", partiallyFilled)]

/-- **The meaning of a venue's word**, in any letter case and between blanks. An
unknown word means that the order is still open. -/
def ofVenueWord (word : String) : OrderStatus :=
  (venueWords.lookup (Text.lower (Text.trim word))).getD new

/-- The words by which a venue answers a cancel of an order that has been filled. -/
def filledWords : List String := ["closed", "filled"]

end OrderStatus

end OrderDesk
