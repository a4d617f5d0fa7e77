import OrderDesk.Payload.Basic
import OrderDesk.Number.Layout
import OrderDesk.Number.Reading
import OrderDesk.Text.Escaped

/-!
# Payloads on the wire

Payloads travel as JSON. A number with a point or an exponent is decimal, any other is
whole. Numbers that are not finite have no form of their own: they are read as bare
words and written as texts. A name that is repeated in an object keeps its first place
and its last value.
-/

namespace OrderDesk.Payload

/-- A blank between two parts of a payload. -/
def isGap (c : Char) : Bool := c == ' ' || c == '\n' || c == '\r' || c == '\t'

/-- A payload without the blanks before it. -/
def skipGap (cs : List Char) : List Char := cs.dropWhile isGap

/-- The bare words and what they stand for. -/
def bareWords : List (String × Payload) :=
  [("null", null), ("true", flag true), ("false", flag false), ("NaN", real (0.0 / 0.0)),
   ("Infinity", real (1.0 / 0.0)), ("-Infinity", real (-1.0 / 0.0))]

/-- A bare word at the front, and what follows it. -/
def readWord? (cs : List Char) : Option (Payload × List Char) :=
  (bareWords.find? fun w => w.1.toList.isPrefixOf cs).map fun w => (w.2, cs.drop w.1.length)

/-- A character that a number can hold. -/
def isNumberChar (c : Char) : Bool :=
  (Text.plainDigit? c).isSome || c == '-' || c == '+' || c == '.' || c == 'e' || c == 'E'

/-- A character that makes a number decimal. -/
def isDecimalMark (c : Char) : Bool := c == '.' || c == 'e' || c == 'E'

/-- A number at the front, and what follows it. -/
def readNumber? (cs : List Char) : Option (Payload × List Char) :=
  let numeral := cs.takeWhile isNumberChar
  let rest := cs.dropWhile isNumberChar
  if numeral.any isDecimalMark then
    (Number.readFloat? (String.ofList numeral)).map fun x => (real x, rest)
  else (Number.readInt? (String.ofList numeral)).map fun i => (whole i, rest)

mutual

/-- A payload at the front, and what follows it. -/
def readValue? : Nat → List Char → Option (Payload × List Char)
  | 0, _ => none
  | fuel + 1, cs =>
    match skipGap cs with
    | '"' :: rest => (Text.readEscaped? rest).map fun (s, rest) => (text s, rest)
    | '[' :: rest =>
      match skipGap rest with
      | ']' :: rest => some (list [], rest)
      | rest => readItems? fuel [] rest
    | '\x7b' :: rest =>
      match skipGap rest with
      | '\x7d' :: rest => some (object [], rest)
      | rest => readFields? fuel [] rest
    | cs => readWord? cs <|> readNumber? cs

/-- The items of a list up to its end; those before them are in reverse. -/
def readItems? : Nat → List Payload → List Char → Option (Payload × List Char)
  | 0, _, _ => none
  | fuel + 1, before, cs => do
    let (p, rest) ← readValue? fuel cs
    match skipGap rest with
    | ',' :: rest => readItems? fuel (p :: before) rest
    | ']' :: rest => return (list (p :: before).reverse, rest)
    | _ => none

/-- The fields of an object up to its end; those before them are in reverse. -/
def readFields? : Nat → List (String × Payload) → List Char → Option (Payload × List Char)
  | 0, _, _ => none
  | fuel + 1, before, cs =>
    match skipGap cs with
    | '"' :: rest => do
      let (name, rest) ← Text.readEscaped? rest
      match skipGap rest with
      | ':' :: rest =>
        let (p, rest) ← readValue? fuel rest
        match skipGap rest with
        | ',' :: rest => readFields? fuel ((name, p) :: before) rest
        | '\x7d' :: rest => return (object (distinct ((name, p) :: before).reverse), rest)
        | _ => none
      | _ => none
    | _ => none

end

/-- **A payload from its text.** Every step takes a character or goes one level down
after one, so twice the length is enough for all of them. -/
def ofJson? (s : String) : Option Payload := do
  let cs := s.toList
  let (p, rest) ← readValue? (2 * cs.length + 1) cs
  if (skipGap rest).isEmpty then some p else none

/-- A decimal number on the wire. -/
def wireNumber (x : Float) : String :=
  if x.isNaN then Text.escaped "NaN"
  else if x.isInf then Text.escaped (if 0.0 < x then "Infinity" else "-Infinity")
  else Number.text x

mutual

/-- **The text of a payload.** -/
def toJson : Payload → String
  | null => "null"
  | flag true => "true"
  | flag false => "false"
  | whole i => Number.intText i
  | real x => wireNumber x
  | text s => Text.escaped s
  | list items => "[" ++ ",".intercalate (jsonItems items) ++ "]"
  | object fields => "\x7b" ++ ",".intercalate (jsonFields fields) ++ "\x7d"

/-- The texts of the items of a list. -/
def jsonItems : List Payload → List String
  | [] => []
  | p :: ps => toJson p :: jsonItems ps

/-- The texts of the fields of an object. -/
def jsonFields : List (String × Payload) → List String
  | [] => []
  | (name, p) :: rest => (Text.escaped name ++ ":" ++ toJson p) :: jsonFields rest

end

end OrderDesk.Payload
