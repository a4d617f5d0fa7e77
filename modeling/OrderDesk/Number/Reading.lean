import OrderDesk.Number.Decimal
import OrderDesk.Text.Blank
import OrderDesk.Text.Digit

/-!
# Reading numbers from text

A venue may send any number as text. Read are decimals with an optional sign, point
and exponent, the words for infinity and for not-a-number in any letter case, and
whole numbers. The liberal readers, used on payloads, also take the decimal digits of
every script and single underscores between digits, and trim blanks.
-/

namespace OrderDesk.Number

/-- The plain digits at the front, as values, and what follows them. -/
def spanDigits : List Char → List Nat × List Char
  | [] => ([], [])
  | c :: cs =>
    match Text.plainDigit? c with
    | some d =>
      let (ds, rest) := spanDigits cs
      (d :: ds, rest)
    | none => ([], c :: cs)

/-- A sign at the front: whether it is a minus, and what follows it. -/
def spanSign : List Char → Bool × List Char
  | '-' :: cs => (true, cs)
  | '+' :: cs => (false, cs)
  | cs => (false, cs)

/-- An exponent after the digits, or nothing. -/
def readExponent? : List Char → Option Int
  | [] => some 0
  | e :: cs =>
    if e == 'e' || e == 'E' then
      let (negative, rest) := spanSign cs
      match spanDigits rest with
      | (d :: ds, []) =>
        let magnitude : Int := Int.ofNat (Text.ofDigits (d :: ds))
        some (if negative then -magnitude else magnitude)
      | _ => none
    else none

/-- An unsigned decimal: digits, a point among or around them, an exponent. At least
one digit is needed. -/
def readMagnitude? (cs : List Char) : Option (Nat × Int) :=
  let (whole, rest) := spanDigits cs
  let (fraction, rest) :=
    match rest with
    | '.' :: more => spanDigits more
    | _ => ([], rest)
  if whole.isEmpty && fraction.isEmpty then none
  else (readExponent? rest).map fun e => (Text.ofDigits (whole ++ fraction), e - fraction.length)

/-- A plain letter in lower case. -/
def plainLower (c : Char) : Char := c.toLower

/-- A decimal or one of the words for a number that is not finite, in plain
characters without blanks. -/
def readPlainFloat? (cs : List Char) : Option Float :=
  let (negative, body) := spanSign cs
  let word := String.ofList (body.map plainLower)
  if word == "inf" || word == "infinity" then
    some (if negative then -1.0 / 0.0 else 1.0 / 0.0)
  else if word == "nan" then some (0.0 / 0.0)
  else (readMagnitude? body).map fun (c, e) => Decimal.toFloat ⟨negative, c, e⟩

/-- A whole number in plain digits with an optional sign, without blanks. -/
def readPlainInt? (cs : List Char) : Option Int :=
  let (negative, body) := spanSign cs
  match spanDigits body with
  | (d :: ds, []) =>
    let magnitude : Int := Int.ofNat (Text.ofDigits (d :: ds))
    some (if negative then -magnitude else magnitude)
  | _ => none

/-- The text with every decimal digit replaced by its plain form. -/
def plainDigits (cs : List Char) : List Char :=
  cs.map fun c => match Text.digitValue? c with
    | some d => Text.digitChar d
    | none => c

/-- The text without its underscores, provided that each stands between two plain
digits. `previous` tells whether a digit stands just before. -/
def joinGroups? (previous : Bool) : List Char → Option (List Char)
  | [] => some []
  | '_' :: c :: cs =>
    if previous && (Text.plainDigit? c).isSome then (joinGroups? true cs).map (c :: ·) else none
  | '_' :: [] => none
  | c :: cs => (joinGroups? (Text.plainDigit? c).isSome cs).map (c :: ·)

/-- The liberal preparation of a numeral: blanks trimmed, digits made plain, groups
joined. -/
def numeral? (s : String) : Option (List Char) :=
  joinGroups? false (plainDigits (Text.trimNumber s.toList))

/-- A double from a text, read liberally. -/
def readFloat? (s : String) : Option Float := (numeral? s).bind readPlainFloat?

/-- A whole number from a text, read liberally. -/
def readInt? (s : String) : Option Int := (numeral? s).bind readPlainInt?

end OrderDesk.Number
