import OrderDesk.Payload.Reading
import OrderDesk.Order.Terms

/-!
# Forms

A form is a set of named payloads that somebody filled in: an order request, a query,
the settings. Reading one either gives the value it describes or every complaint about
it, field by field in the order in which the fields are declared. A field reader is
liberal about spelling (a number may be a text, a truth value one of the usual words)
and strict about kind.
-/

namespace OrderDesk.Form

/-- What can be wrong with a field. -/
inductive Complaint where
  /-- A required field is not there. -/
  | missing
  /-- The field is no text. -/
  | textExpected
  /-- The field is no number. -/
  | numberExpected
  /-- The text of the field is no number. -/
  | numberUnreadable
  /-- The field is no whole number. -/
  | wholeExpected
  /-- The text of the field is no whole number. -/
  | wholeUnreadable
  /-- The whole number is too long. -/
  | wholeTooLong
  /-- The number has a fraction where none is allowed. -/
  | wholeHasFraction
  /-- The number is not finite where it must be. -/
  | finiteExpected
  /-- The field is no truth value. -/
  | flagExpected
  /-- The field is none of the words for a truth value. -/
  | flagUnreadable
  /-- The field is no list. -/
  | listExpected
  /-- The number is not above zero. -/
  | positiveExpected
  /-- The field names no member of its vocabulary. -/
  | memberExpected (names : List String)
  /-- The fields do not fit together. -/
  | inconsistent (reason : String)
  deriving DecidableEq, Repr

/-- The code under which a complaint is reported. -/
def Complaint.code : Complaint → String
  | missing => "missing"
  | textExpected => "string_type"
  | numberExpected => "float_type"
  | numberUnreadable => "float_parsing"
  | wholeExpected => "int_type"
  | wholeUnreadable => "int_parsing"
  | wholeTooLong => "int_parsing_size"
  | wholeHasFraction => "int_from_float"
  | finiteExpected => "finite_number"
  | flagExpected => "bool_type"
  | flagUnreadable => "bool_parsing"
  | listExpected => "list_type"
  | positiveExpected => "greater_than"
  | memberExpected _ => "enum"
  | inconsistent _ => "value_error"

/-- Quoted names with commas between them and an "or" before the last. -/
def alternatives : List String → String
  | [] => ""
  | [a] => s!"'{a}'"
  | [a, b] => s!"'{a}' or '{b}'"
  | a :: rest => s!"'{a}', " ++ alternatives rest

/-- The text of a complaint. -/
def Complaint.message : Complaint → String
  | missing => "Field required"
  | textExpected => "Input should be a valid string"
  | numberExpected => "Input should be a valid number"
  | numberUnreadable => "Input should be a valid number, unable to parse string as a number"
  | wholeExpected => "Input should be a valid integer"
  | wholeUnreadable => "Input should be a valid integer, unable to parse string as an integer"
  | wholeTooLong => "Unable to parse input string as an integer, exceeded maximum size"
  | wholeHasFraction => "Input should be a valid integer, got a number with a fractional part"
  | finiteExpected => "Input should be a finite number"
  | flagExpected => "Input should be a valid boolean"
  | flagUnreadable => "Input should be a valid boolean, unable to interpret input"
  | listExpected => "Input should be a valid list"
  | positiveExpected => "Input should be greater than 0"
  | memberExpected names => "Input should be " ++ alternatives names
  | inconsistent reason => "Value error, " ++ reason

/-- One step on the way to the place that a complaint is about. -/
inductive Place where
  /-- A named field, or a named reading of it. -/
  | name (s : String)
  /-- An item of a list. -/
  | index (i : Nat)
  deriving DecidableEq, Repr

/-- A complaint and the place it is about. -/
structure Issue where
  /-- The way to the place, from the outside in; empty for the form as a whole. -/
  place : List Place
  complaint : Complaint
  deriving DecidableEq, Repr

/-- A form that was read, or everything that is wrong with it. -/
inductive Checked (α : Type) where
  | good (value : α)
  /-- The issues, in the order of the fields. -/
  | bad (issues : List Issue)

namespace Checked

/-- The issues of a checked form. -/
def issues {α : Type} : Checked α → List Issue
  | good _ => []
  | bad is => is

/-- Reading two parts of a form collects the issues of both. -/
def combine {α β : Type} (f : Checked (α → β)) (x : Checked α) : Checked β :=
  match f, x with
  | good g, good a => good (g a)
  | f, x => bad (f.issues ++ x.issues)

instance : Applicative Checked where
  pure := good
  seq f x := combine f (x ())

/-- A last check on a form whose fields are all good. -/
def andCheck {α : Type} (x : Checked α) (check : α → Option Complaint) : Checked α :=
  match x with
  | good a =>
    match check a with
    | none => good a
    | some c => bad [⟨[], c⟩]
  | bad is => bad is

/-- A checked form as a success or its issues. -/
def toExcept {α : Type} : Checked α → Except (List Issue) α
  | good a => .ok a
  | bad is => .error is

end Checked

/-! ## Readers for single fields -/

/-- The underscores that group digits are dropped. Nothing is read when one stands at
either end or next to another. -/
def withoutGroups? (cs : List Char) : Option (List Char) :=
  if cs.head? == some '_' || cs.getLast? == some '_' || !cs.contains '_' then none
  else if (cs.zip cs.tail).any (fun p => p.1 == '_' && p.2 == '_') then none
  else some (cs.filter (· != '_'))

/-- A number from a form field's text. -/
def readNumber? (s : String) : Option Float :=
  match Number.readPlainFloat? (Text.trimNumber s.toList) with
  | some x => some x
  | none => (withoutGroups? s.toList).bind Number.readPlainFloat?

/-- The text of a whole number without a zero fraction. -/
def withoutZeroFraction (cs : List Char) : List Char :=
  match cs.span (· != '.') with
  | (whole, '.' :: fraction) => if fraction.all (· == '0') then whole else cs
  | _ => cs

/-- The text of an unsigned whole number without its leading zeros and the underscores
among them; a number that starts with a minus is left as it is. -/
def withoutLeadingZeros? : List Char → Option (List Char)
  | '0' :: cs =>
    match cs.dropWhile (fun c => c == '0' || c == '_') with
    | [] => some [((('0' :: cs).getLast?).getD '0')]
    | '.' :: rest => some ('0' :: '.' :: rest)
    | c :: rest => if (Text.plainDigit? c).isSome then some (c :: rest) else none
  | c :: cs => if c == '-' || (Text.plainDigit? c).isSome then some (c :: cs) else none
  | [] => none

/-- A whole number from a form field's text. A plus sign, leading zeros, a zero
fraction and grouping underscores are allowed. -/
def readWhole? (s : String) : Option Int := do
  let cs := Text.trimNumber s.toList
  let unsigned := if cs.head? == some '+' then cs.tail else cs
  if cs.head? == some '+' && unsigned.head? == some '-' then none
  else
    let cs := withoutZeroFraction (← withoutLeadingZeros? unsigned)
    Number.readPlainInt? ((withoutGroups? cs).getD cs)

/-- The words for a truth value, in any letter case. -/
def readFlag? (s : String) : Option Bool :=
  let word := String.ofList (s.toList.map Number.plainLower)
  if ["0", "off", "f", "false", "n", "no"].contains word then some false
  else if ["1", "on", "t", "true", "y", "yes"].contains word then some true
  else none

/-- A text field. -/
def asText : Payload → Except Complaint String
  | .text s => .ok s
  | _ => .error .textExpected

/-- A number field: a number, a truth value, or the text of a number. -/
def asNumber : Payload → Except Complaint Float
  | .real x => .ok x
  | .flag b => .ok (if b then 1.0 else 0.0)
  | .whole i => (Payload.doubleOf i).mapError fun _ => .numberExpected
  | .text s => ((readNumber? s).map .ok).getD (.error .numberUnreadable)
  | _ => .error .numberExpected

/-- A number field that must be above zero. -/
def asPositive (p : Payload) : Except Complaint Float := do
  let x ← asNumber p
  if 0.0 < x then return x else throw .positiveExpected

/-- A whole number from a decimal one; it has at most sixty-four bits, of which one is
for the sign. -/
def wholeOfReal (x : Float) : Except Complaint Int :=
  match Number.Binary.ofFloat? x with
  | none => .error .finiteExpected
  | some b =>
    if !b.isWhole then .error .wholeHasFraction
    else if b.truncate.natAbs ≤ Number.twoTo 63 then
      .ok (min b.truncate (Int.ofNat (Number.twoTo 63) - 1))
    else .error .wholeTooLong

/-- A whole-number field: a whole number, a truth value, a decimal number without a
fraction, or the text of one of these. -/
def asWhole : Payload → Except Complaint Int
  | .whole i => .ok i
  | .flag b => .ok (if b then 1 else 0)
  | .real x => wholeOfReal x
  | .text s => ((readWhole? s).map .ok).getD (.error .wholeUnreadable)
  | _ => .error .wholeExpected

/-- A truth-value field: a truth value, one or zero, or one of the usual words. -/
def asFlag : Payload → Except Complaint Bool
  | .flag b => .ok b
  | .whole i =>
    if i == 0 then .ok false else if i == 1 then .ok true else .error .flagUnreadable
  | .real x =>
    match wholeOfReal x with
    | .ok i =>
      if i == 0 then .ok false else if i == 1 then .ok true else .error .flagUnreadable
    | .error _ => .error .flagExpected
  | .text s => ((readFlag? s).map .ok).getD (.error .flagUnreadable)
  | _ => .error .flagExpected

/-- A field that names a member of a vocabulary, exactly. -/
def asMember (α : Type) [Vocabulary α] (p : Payload) : Except Complaint α :=
  match p with
  | .text s =>
    match Vocabulary.ofName? s with
    | some a => .ok a
    | none => .error (.memberExpected (Vocabulary.names α))
  | _ => .error (.memberExpected (Vocabulary.names α))

/-! ## Fields of a form -/

/-- The outcome of one reader, as the outcome of one field. -/
def inField {α : Type} (name : String) : Except Complaint α → Checked α
  | .ok a => .good a
  | .error c => .bad [⟨[.name name], c⟩]

/-- A field that must be there. -/
def required {α : Type} (form : List (String × Payload)) (name : String)
    (read : Payload → Except Complaint α) : Checked α :=
  match form.lookup name with
  | some p => inField name (read p)
  | none => .bad [⟨[.name name], .missing⟩]

/-- A field with a value for when it is left out. -/
def withDefault {α : Type} (form : List (String × Payload)) (name : String) (value : α)
    (read : Payload → Except Complaint α) : Checked α :=
  match form.lookup name with
  | some p => inField name (read p)
  | none => .good value

/-- A field that may be left out or be null. -/
def optional {α : Type} (form : List (String × Payload)) (name : String)
    (read : Payload → Except Complaint α) : Checked (Option α) :=
  match form.lookup name with
  | some .null => .good none
  | some p => inField name ((read p).map some)
  | none => .good none

end OrderDesk.Form
