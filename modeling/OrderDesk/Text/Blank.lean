/-!
# Blank characters and trimming

A venue, a form or an environment variable may surround a value with any blank of
the character standard, not only with the space bar's. Every trimming in the
library goes through this one set; around numbers the separators of records, which
belong to it, stay.
-/

namespace OrderDesk.Text

/-- Code points of the blank characters: the separators, the controls that break
lines or records, and the spaces of fixed width. The zero-width space is not among
them. -/
def isBlankCode (n : Nat) : Bool :=
  (9 ≤ n && n ≤ 13) || (28 ≤ n && n ≤ 32) || n == 133 || n == 160 || n == 5760 ||
  (8192 ≤ n && n ≤ 8202) || n == 8232 || n == 8233 || n == 8239 || n == 8287 || n == 12288

/-- A character that trimming removes. -/
def isBlank (c : Char) : Bool := isBlankCode c.toNat

/-- The characters without those of a class at either end. -/
def trimBy (drop : Char → Bool) (cs : List Char) : List Char :=
  ((cs.dropWhile drop).reverse.dropWhile drop).reverse

/-- The characters without the blanks at either end. -/
def trimChars (cs : List Char) : List Char := trimBy isBlank cs

/-- A blank that may surround a number. The four controls that separate records may
not. -/
def isPadding (c : Char) : Bool := isBlank c && !(28 ≤ c.toNat && c.toNat ≤ 31)

/-- The characters of a number without the blanks that surround it. -/
def trimNumber (cs : List Char) : List Char := trimBy isPadding cs

/-- The text without the blanks at either end. -/
def trim (s : String) : String := String.ofList (trimChars s.toList)

end OrderDesk.Text
