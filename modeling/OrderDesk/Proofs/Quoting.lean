import OrderDesk.Proofs.View

/-!
# What the store quotes of a row

A store that objects to a row quotes everything that was to be written, so that its words are
different for tickets that differ in an estimate only. To say so one letter is counted, the
capital N of the word that stands for an empty column: no amount is written with it
(`Number.n_notMem_text`), and it does not come in by what is put around the columns.
-/

namespace OrderDesk

/-! ## Amounts -/

namespace Number

theorem n_notMem_digitsText (n : Nat) : 'N' ∉ (digitsText n).toList := by
  intro mem
  unfold digitsText at mem
  rw [String.toList_ofList, List.mem_map] at mem
  obtain ⟨k, digit, wrong⟩ := mem
  have readBack := Text.plainDigit?_digitChar (Text.lt_ten_of_mem_toDigits k digit)
  rw [wrong] at readBack
  cases readBack

theorem n_notMem_exponentText (e : Int) : 'N' ∉ (exponentText e).toList := by
  have digits := n_notMem_digitsText e.natAbs
  unfold exponentText
  dsimp only
  split <;> split <;> simp [digits]

theorem n_notMem_layoutIn (places : Int) (coefficient : Nat) (exponent : Int) :
    'N' ∉ (layoutIn places "" coefficient exponent).toList := by
  have digits := n_notMem_digitsText coefficient
  have zero (n : Nat) : 'N' ∉ (zeros n).toList := by simp [zeros]
  have front (k : Nat) : 'N' ∉ (digitsText coefficient).toList.take k :=
    mt List.mem_of_mem_take digits
  have back (k : Nat) : 'N' ∉ (digitsText coefficient).toList.drop k :=
    mt List.mem_of_mem_drop digits
  have raised (point : Int) := n_notMem_exponentText (point - 1)
  unfold layoutIn
  dsimp only
  split
  · decide
  split
  · split
    · simp [digits, zero]
    · split <;> simp [digits, zero, front, back]
  · split <;> rename_i shape <;> rw [shape] at digits <;> simp_all

/-- **No amount is written with a capital N.** -/
theorem n_notMem_text (x : Float) : 'N' ∉ (text x).toList := by
  unfold text
  split
  · have laid (d : Decimal) := n_notMem_layoutIn 16 d.coefficient d.exponent
    split <;> simp [laid]
  · split
    · decide
    · split <;> decide

end Number

/-! ## Columns -/

/-- Abridging brings in no capital N. -/
theorem Text.n_notMem_abridged (limit : Nat) {s : String} (h : 'N' ∉ s.toList) :
    'N' ∉ (Text.abridged limit s).toList := by
  have front (k : Nat) : 'N' ∉ s.toList.take k := mt List.mem_of_mem_take h
  have back (k : Nat) : 'N' ∉ s.toList.drop k := mt List.mem_of_mem_drop h
  have count := Number.n_notMem_digitsText (s.toList.length - limit)
  unfold Text.abridged
  dsimp only
  split
  · exact h
  · simp [front, back, count]

namespace Ticket

/-- What is shown of a column. -/
def shownChars (p : Payload) : List Char := (Text.abridged 300 p.shown).toList

theorem countN_real (x : Float) : (shownChars (.real x)).count 'N' = 0 :=
  List.count_eq_zero.mpr (Text.n_notMem_abridged 300 (Number.n_notMem_text x))

theorem countN_null : (shownChars .null).count 'N' = 1 := by decide

/-- An amount that may be absent. -/
theorem countN_ofReal? (x : Option Float) : (shownChars (.ofReal? x)).count 'N' ≤ 1 := by
  cases x with
  | some x =>
    show (shownChars (.real x)).count 'N' ≤ 1
    rw [countN_real]
    exact Nat.zero_le 1
  | none => exact Nat.le_of_eq countN_null

/-- What is between the columns may be left out of the count. -/
theorem count_intercalate {separator : List Char} (plain : 'N' ∉ separator)
    (texts : List (List Char)) :
    (separator.intercalate texts).count 'N' = texts.flatten.count 'N' := by
  induction texts with
  | nil => rfl
  | cons first rest ih =>
    cases rest with
    | nil => simp [List.intercalate]
    | cons second others =>
      rw [List.intercalate_cons_cons, List.count_append, List.count_append, ih,
        List.count_eq_zero.mpr plain, Nat.add_zero]
      exact List.count_append.symm

/-- How many capitals N there are where everything is shown. -/
theorem count_shownParameters (t : Ticket) :
    t.shownParameters.toList.count 'N'
      = (t.parameters.flatMap fun p => shownChars p.2).count 'N' := by
  have plain : 'N' ∉ ", ".toList := by decide
  unfold shownParameters
  rw [String.toList_intercalate, count_intercalate plain, List.map_map]
  rfl

/-- **A ticket without estimates is shown with more capitals N.** -/
theorem count_shownParameters_lt {t : Ticket} (estimated : t.estimatedFee.isSome = true) :
    t.shownParameters.toList.count 'N' < t.unestimated.shownParameters.toList.count 'N' := by
  obtain ⟨fee, expected⟩ := Option.isSome_iff_exists.mp estimated
  have slippage := countN_ofReal? t.estimatedSlippage
  obtain ⟨front, back, whole, without⟩ : ∃ front back,
      t.parameters = front ++ [("estimated_fee", .ofReal? t.estimatedFee),
        ("estimated_slippage", .ofReal? t.estimatedSlippage)] ++ back
      ∧ t.unestimated.parameters
        = front ++ [("estimated_fee", .null), ("estimated_slippage", .null)] ++ back :=
    ⟨t.parameters.take 20, t.parameters.drop 22, rfl, rfl⟩
  rw [count_shownParameters, count_shownParameters, whole, without, expected]
  have paid : (shownChars (.ofReal? (some fee))).count 'N' = 0 := countN_real fee
  simp only [List.flatMap_append, List.flatMap_cons, List.flatMap_nil, List.count_append, paid,
    countN_null]
  omega

end Ticket

/-- **What the store says shows the estimates**: it says something else to a ticket without. -/
theorem Objection.text_ne_unestimated (x : Objection) {t : Ticket}
    (estimated : t.estimatedFee.isSome = true) : x.text t ≠ x.text t.unestimated := by
  intro same
  have shown := Ticket.count_shownParameters_lt estimated
  unfold Objection.text at same
  have texts := congrArg String.toList same
  simp only [String.toList_append, List.append_assoc] at texts
  have rest := List.append_cancel_left texts
  simp only [List.append_cancel_left_eq, List.append_cancel_right_eq] at rest
  rw [rest] at shown
  exact Nat.lt_irrefl _ shown

end OrderDesk
