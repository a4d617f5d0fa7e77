import OrderDesk.Text.CaseTable

/-!
# Upper and lower case

The full case mappings: a sharp s becomes two letters in upper case, a dotted
capital I becomes two characters in lower case, and a capital sigma that ends a
word becomes the final form of its lower letter.
-/

namespace OrderDesk.Text

/-- The image of a character under a list of runs; itself when no run covers it. -/
def mapByRuns (runs : List CaseRun) (c : Char) : Char :=
  match runs.find? (·.covers c.toNat) with
  | some run => Char.ofNat ((c.toNat : Int) + run.delta).toNat
  | none => c

/-- The upper form of one character. -/
def upperOf (c : Char) : List Char :=
  match upperExpansions.lookup c.toNat with
  | some codes => codes.map Char.ofNat
  | none => [mapByRuns upperRuns c]

/-- The upper form of a row of characters. -/
def upperChars (cs : List Char) : List Char := cs.flatMap upperOf

/-- The upper form of a text. -/
def upper (s : String) : String := String.ofList (upperChars s.toList)

/-- Membership in a list of ranges, ends included. -/
def inRanges (ranges : List (Nat × Nat)) (c : Char) : Bool :=
  ranges.any fun r => r.1 ≤ c.toNat && c.toNat ≤ r.2

/-- The next character that is not looked through has a case. -/
def facesCased (cs : List Char) : Bool :=
  match cs.dropWhile (inRanges caseIgnorableRanges) with
  | c :: _ => inRanges casedRanges c
  | [] => false

/-- The lower form of a row of characters. `before` holds, nearest first, the
characters that stand to the left: a capital sigma takes its final form exactly
when a cased character precedes it and none follows. -/
def lowerFrom (before : List Char) : List Char → List Char
  | [] => []
  | c :: rest =>
    let image :=
      if c == 'Σ' then [if facesCased before && !facesCased rest then 'ς' else 'σ']
      else if c == 'İ' then ['i', '\u0307']
      else [mapByRuns lowerRuns c]
    image ++ lowerFrom (c :: before) rest

/-- The lower form of a text. -/
def lower (s : String) : String := String.ofList (lowerFrom [] s.toList)

end OrderDesk.Text
