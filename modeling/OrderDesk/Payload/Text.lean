import OrderDesk.Payload.Basic
import OrderDesk.Number.Layout
import OrderDesk.Text.Quoted

/-!
# Payloads as text

A venue that numbers its orders sends a number where others send a text; the order's
identifier is the text of whatever was sent. Inside a list or an object a text is
quoted, at the top it stands as it is.
-/

namespace OrderDesk.Payload

mutual

/-- A payload as it is shown inside a list or an object. -/
def shown : Payload → String
  | null => "None"
  | flag true => "True"
  | flag false => "False"
  | whole i => Number.intText i
  | real x => Number.text x
  | text s => Text.quoted s
  | list items => "[" ++ ", ".intercalate (shownItems items) ++ "]"
  | object fields => "\x7b" ++ ", ".intercalate (shownFields fields) ++ "\x7d"

/-- The items of a list, shown. -/
def shownItems : List Payload → List String
  | [] => []
  | p :: ps => shown p :: shownItems ps

/-- The fields of an object, shown with their names. -/
def shownFields : List (String × Payload) → List String
  | [] => []
  | (name, p) :: rest => (Text.quoted name ++ ": " ++ shown p) :: shownFields rest

end

/-- A payload as text: a text is itself. -/
def asText : Payload → String
  | text s => s
  | p => shown p

end OrderDesk.Payload
