import OrderDesk.Payload.Text
import OrderDesk.Number.Reading
import OrderDesk.Stamp

/-!
# Reading payloads

Two readers turn a payload into a number. The strict one faults on whatever is no
number. The lenient one, for optional fields, takes all that as absent and faults
only on a whole number beyond the doubles.
-/

namespace OrderDesk.Payload

/-! ## Fields and items -/

/-- A named field of an object; none when the object lacks it. -/
def field? (p : Payload) (name : String) : Except Fault (Option Payload) :=
  match p with
  | object fields => .ok (fields.lookup name)
  | _ => .error (.unfit p.kind .lookup)

/-- A named field of an object, null when the object lacks it. -/
def field (p : Payload) (name : String) : Except Fault Payload := do
  return (← p.field? name).getD null

/-- A named field that says something, or an empty object in its place. -/
def group (p : Payload) (name : String) : Except Fault Payload := do
  return (← p.field name).orElse (object [])

/-- The fields of an object. -/
def entries : Payload → Except Fault (List (String × Payload))
  | object fields => .ok fields
  | p => .error (.unfit p.kind .entries)

/-- What going through a payload yields: the items of a list, the characters of a
text, the names of an object. -/
def items : Payload → Except Fault (List Payload)
  | list ps => .ok ps
  | text s => .ok (s.toList.map fun c => text (String.singleton c))
  | object fields => .ok (fields.map fun f => text f.1)
  | p => .error (.unfit p.kind .iteration)

/-- How many items a payload has. -/
def size : Payload → Except Fault Nat
  | list ps => .ok ps.length
  | text s => .ok s.length
  | object fields => .ok fields.length
  | p => .error (.unfit p.kind .length)

/-- The item at a position. An object has no positions. -/
def item (p : Payload) (index : Nat) : Except Fault Payload :=
  match p with
  | list ps => ((ps[index]?).map .ok).getD (.error (.missingPosition index))
  | text s =>
    ((s.toList[index]?).map fun c => .ok (text (String.singleton c))).getD
      (.error (.missingPosition index))
  | object _ => .error (.missingPosition index)
  | _ => .error (.unfit p.kind .position)

/-! ## Numbers -/

/-- A whole number as a double. -/
def doubleOf (i : Int) : Except Fault Float :=
  let x := Number.Decimal.toFloat ⟨i < 0, i.natAbs, 0⟩
  if x.isInf then .error .beyondDouble else .ok x

/-- A number, read strictly. -/
def number : Payload → Except Fault Float
  | flag b => .ok (if b then 1.0 else 0.0)
  | whole i => doubleOf i
  | real x => .ok x
  | text s => ((Number.readFloat? s).map .ok).getD (.error (.unreadableNumber s))
  | p => .error (.unfit p.kind .number)

/-- A number, read leniently: what is no number is absent. -/
def number? : Payload → Except Fault (Option Float)
  | flag b => .ok (some (if b then 1.0 else 0.0))
  | whole i => (doubleOf i).map some
  | real x => .ok (some x)
  | text s => .ok (Number.readFloat? s)
  | _ => .ok none

/-- A double without its fraction. -/
def wholeOf (x : Float) : Except Fault Int :=
  match Number.Binary.ofFloat? x with
  | some b => .ok b.truncate
  | none => .error (if x.isNaN then .undefinedWhole else .infiniteWhole)

/-- A whole number, read strictly; a fraction is cut off. -/
def wholeNumber : Payload → Except Fault Int
  | flag b => .ok (if b then 1 else 0)
  | whole i => .ok i
  | real x => wholeOf x
  | text s => ((Number.readInt? s).map .ok).getD (.error (.unreadableWhole s))
  | p => .error (.unfit p.kind .whole)

/-- A time in milliseconds; null is no time. -/
def stamp? : Payload → Except Fault (Option Stamp)
  | null => .ok none
  | p => do return some (← Stamp.ofMillis (← p.wholeNumber))

/-- A number in a named field, read leniently. -/
def numberAt? (p : Payload) (name : String) : Except Fault (Option Float) := do
  (← p.field name).number?

end OrderDesk.Payload
