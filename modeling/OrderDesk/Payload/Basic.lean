/-!
# Payloads

What a venue answers, what a form carries and what an incident stores have no type of
their own until they are read: they are nested values with named fields. A payload is
such a value. Fields keep the order in which they were written, and whole numbers are
told apart from decimal ones.
-/

namespace OrderDesk

/-- A nested value of no fixed shape. -/
inductive Payload where
  | null
  | flag (b : Bool)
  /-- A whole number of any size. -/
  | whole (i : Int)
  | real (x : Float)
  | text (s : String)
  | list (items : List Payload)
  /-- Named values, in the order in which they were written, each name once. -/
  | object (fields : List (String × Payload))
  deriving Inhabited

namespace Payload

/-- The shapes that a payload can have. -/
inductive Kind where
  | null
  | flag
  | whole
  | real
  | text
  | list
  | object
  deriving DecidableEq, Repr

/-- The shape of a payload. -/
def kind : Payload → Kind
  | null => .null
  | flag _ => .flag
  | whole _ => .whole
  | real _ => .real
  | text _ => .text
  | list _ => .list
  | object _ => .object

/-- The name of a shape inside an error message. -/
def Kind.name : Kind → String
  | .null => "NoneType"
  | .flag => "bool"
  | .whole => "int"
  | .real => "float"
  | .text => "str"
  | .list => "list"
  | .object => "dict"

/-- A payload that says something: neither null, nor false, nor a zero, nor empty. -/
def isPresent : Payload → Bool
  | null => false
  | flag b => b
  | whole i => i != 0
  | real x => !(x == 0.0)
  | text s => !s.isEmpty
  | list items => !items.isEmpty
  | object fields => !fields.isEmpty

/-- The payload when it says something, else the other one. -/
def orElse (p other : Payload) : Payload := if p.isPresent then p else other

/-- A named value put among others: in place of the one with its name, else last. -/
def put {α : Type} (name : String) (value : α) : List (String × α) → List (String × α)
  | [] => [(name, value)]
  | (n, v) :: rest => if n == name then (n, value) :: rest else (n, v) :: put name value rest

/-- Named values with each name once: a repeated name keeps its first place and its last
value. -/
def distinct {α : Type} (fields : List (String × α)) : List (String × α) :=
  fields.foldl (fun acc f => put f.1 f.2 acc) []

/-- A text or its absence as a payload. -/
def ofText? : Option String → Payload
  | some s => text s
  | none => null

/-- A number or its absence as a payload. -/
def ofReal? : Option Float → Payload
  | some x => real x
  | none => null

/-- The payload is this very text. -/
def isText (p : Payload) (s : String) : Bool :=
  match p with
  | text t => t == s
  | _ => false

end Payload

end OrderDesk
