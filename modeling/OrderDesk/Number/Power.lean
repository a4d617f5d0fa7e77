/-!
# Powers of ten and of two

Decimals are scaled by powers of ten and doubles by powers of two. Both are whole
numbers here; a negative exponent divides by the power of its opposite.
-/

namespace OrderDesk.Number

/-- A power of ten. -/
def tenTo (k : Nat) : Nat := Nat.pow 10 k

/-- A power of two. -/
def twoTo (k : Nat) : Nat := Nat.pow 2 k

/-- A whole number needs more than so many bits beside its sign. -/
def isOutside (bits : Nat) (i : Int) : Bool :=
  let bound := Int.ofNat (twoTo bits)
  i < -bound || bound ≤ i

/-- Powers of ten are positive. -/
theorem tenTo_pos (k : Nat) : 0 < tenTo k := Nat.pow_pos (by decide)

/-- Powers of two are positive. -/
theorem twoTo_pos (k : Nat) : 0 < twoTo k := Nat.pow_pos (by decide)

/-- The next power of ten is ten times as large. -/
theorem tenTo_succ (k : Nat) : tenTo (k + 1) = tenTo k * 10 := rfl

/-- The next power of two is twice as large. -/
theorem twoTo_succ (k : Nat) : twoTo (k + 1) = twoTo k * 2 := rfl

end OrderDesk.Number
