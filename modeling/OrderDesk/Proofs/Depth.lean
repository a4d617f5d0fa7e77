import Mathlib.Algebra.Order.BigOperators.Group.List
import Mathlib.Algebra.Order.Group.MinMax
import OrderDesk.Pricing.Slippage
import OrderDesk.Proofs.Exact
import OrderDesk.Proofs.Rounding

/-!
# Larger orders slip more

A market order takes what is on offer level by level, best first. Of a quantity `q` a level gives
what lies between the depth before it and the depth behind it, `min q (before + amount) - min q
before`, and nothing of this speaks of what is left to be filled. That is what the walk over the
book computes with its three running numbers (`Book.consume_eq`), so that a fill is a sum over the
levels (`Book.worth`).

A larger order takes the same from the levels before and goes on to levels that are no better. It
therefore pays more on average, and it does so by an inequality between two fills of which the one
begins like the other (`Book.worth_mul_given_le`), not by looking at single levels. Who sells walks
down the bids as who buys walks up the asks, and for both the price gets worse. So prices are
compared by how bad they are (`Side.badness`) and everything is said once.
-/

namespace OrderDesk

/-- **How bad a price is** to an order on a side: the higher the worse to who buys, and the lower
the worse to who sells. -/
def Side.badness : Side → Rat → Rat
  | .buy, price => price
  | .sell, price => -price

/-- The first price is at least as good as the second to an order on a side. -/
def Side.AsGood (side : Side) (p q : Rat) : Prop := side.badness p ≤ side.badness q

namespace Side

variable (side : Side) (p q : Rat)

theorem badness_div : side.badness (p / q) = side.badness p / q := by
  cases side with
  | buy => rfl
  | sell => exact (neg_div q p).symm

/-- How far two prices are apart is how much worse the second one is. -/
theorem gap_eq {side : Side} {p q : Rat} (h : side.AsGood p q) :
    Arith.gap q p = side.badness q - side.badness p := by
  show (if q < p then p - q else q - p) = _
  cases side with
  | buy => exact if_neg (not_lt.mpr h)
  | sell =>
    have above : q ≤ p := neg_le_neg_iff.mp h
    show _ = -q - -p
    split_ifs with less
    · ring
    · rw [above.antisymm (not_lt.mp less)]
      ring

end Side

namespace Book

/-! ## Fills as sums over the levels -/

/-- What several levels offer. -/
def depth (levels : List (Level Rat)) : Rat := (levels.map (·.amount)).sum

/-- **What a level gives** of a quantity: the part between the depth before it and the depth behind
it. -/
def share (quantity before : Rat) (level : Level Rat) : Rat :=
  min quantity (before + level.amount) - min quantity before

/-- **What a quantity is worth**, taken level by level: a sum over the levels, each of which gives
its share at its value. -/
def worth (value : Level Rat → Rat) (quantity : Rat) : Rat → List (Level Rat) → Rat
  | _, [] => 0
  | before, level :: rest =>
    share quantity before level * value level + worth value quantity (before + level.amount) rest

/-- What several levels give of a quantity. -/
def given (quantity before : Rat) (levels : List (Level Rat)) : Rat :=
  min quantity (before + depth levels) - min quantity before

/-- **The levels are in order** for a side: their prices are positive, their amounts are not
negative, and the best come first. -/
structure IsOrdered (side : Side) (levels : List (Level Rat)) : Prop where
  positive : ∀ l ∈ levels, 0 < l.price
  amounts : ∀ l ∈ levels, 0 ≤ l.amount
  bestFirst : levels.Pairwise fun l m => side.AsGood l.price m.price

section

variable {value : Level Rat → Rat} {q q₁ q₂ before p : Rat} {l : Level Rat}
  {levels rest : List (Level Rat)}

theorem depth_cons (l : Level Rat) (rest : List (Level Rat)) :
    depth (l :: rest) = l.amount + depth rest := List.sum_cons

theorem depth_nonneg (amounts : ∀ l ∈ levels, 0 ≤ l.amount) : 0 ≤ depth levels := by
  refine List.sum_nonneg fun a mem => ?_
  obtain ⟨l, among, rfl⟩ := List.mem_map.mp mem
  exact amounts l among

/-- What several levels give is what the first gives and what the others give. -/
theorem given_cons (q before : Rat) (l : Level Rat) (rest : List (Level Rat)) :
    given q before (l :: rest) = share q before l + given q (before + l.amount) rest := by
  unfold given share
  rw [depth_cons, ← add_assoc]
  ring

/-- A level that lies behind the quantity gives nothing. -/
theorem share_of_le (amount : 0 ≤ l.amount) (h : q ≤ before) : share q before l = 0 := by
  unfold share
  rw [min_eq_left h, min_eq_left (by linarith), sub_self]

/-- A level that lies before the quantity gives all it has. -/
theorem share_of_ge (amount : 0 ≤ l.amount) (h : before + l.amount ≤ q) :
    share q before l = l.amount := by
  unfold share
  rw [min_eq_right h, min_eq_right (by linarith)]
  ring

/-- **Of a larger quantity a level gives no less.** -/
theorem share_mono (amount : 0 ≤ l.amount) (h : q₁ ≤ q₂) :
    share q₁ before l ≤ share q₂ before l := by
  rcases le_total q₁ before with behind | reached
  · rw [share_of_le amount behind]
    exact sub_nonneg.mpr (min_le_min_left q₂ (by linarith))
  · unfold share
    rw [min_eq_right reached, min_eq_right (reached.trans h)]
    exact sub_le_sub_right (min_le_min_right _ h) _

theorem share_nonneg (amount : 0 ≤ l.amount) : 0 ≤ share q before l :=
  sub_nonneg.mpr (min_le_min_left q (by linarith))

/-- Levels behind the quantity give nothing. -/
theorem given_of_le (amounts : ∀ l ∈ levels, 0 ≤ l.amount) (h : q ≤ before) :
    given q before levels = 0 := by
  unfold given
  rw [min_eq_left h, min_eq_left (by linarith [depth_nonneg amounts]), sub_self]

/-- Levels behind the quantity are worth nothing. -/
theorem worth_of_le (amounts : ∀ l ∈ levels, 0 ≤ l.amount) (h : q ≤ before) :
    worth value q before levels = 0 := by
  induction levels generalizing before with
  | nil => rfl
  | cons l rest ih =>
    have amount := amounts l (List.mem_cons_self ..)
    rw [worth, share_of_le amount h,
      ih (fun m mem => amounts m (List.mem_cons_of_mem l mem)) (by linarith), zero_mul, zero_add]

/-- **Consuming the levels fills what they give**, and what this is worth. -/
theorem consume_eq (amounts : ∀ l ∈ levels, 0 ≤ l.amount) (q before : Rat) (fill : Fill Rat) :
    consume (q - min q before) fill levels
      = ⟨fill.filled + given q before levels,
          fill.notional + worth Level.price q before levels⟩ := by
  induction levels generalizing before fill with
  | nil =>
    show fill = ⟨fill.filled + (min q (before + 0) - min q before), fill.notional + 0⟩
    rw [add_zero, sub_self, add_zero, add_zero]
  | cons l rest ih =>
    have amount := amounts l (List.mem_cons_self ..)
    have others : ∀ m ∈ rest, 0 ≤ m.amount := fun m mem => amounts m (List.mem_cons_of_mem l mem)
    rcases le_or_gt q before with filled | missing
    · -- nothing is missing any more
      rw [given_of_le amounts filled, worth_of_le amounts filled, add_zero, add_zero]
      exact if_pos (by rw [min_eq_left filled, sub_self]; exact le_refl (0 : Rat))
    · have left : ¬ q - min q before ≤ 0 := by
        rw [min_eq_right missing.le]
        linarith
      have take : Arith.cap l.amount (q - min q before) = share q before l := by
        rw [Arith.cap_eq_min, min_eq_right missing.le]
        unfold share
        rw [min_eq_right missing.le, ← min_sub_sub_right, add_sub_cancel_left, min_comm]
      refine (if_neg left).trans ?_
      show consume (q - min q before - Arith.cap l.amount (q - min q before)) _ rest = _
      rw [take, given_cons, worth,
        show q - min q before - share q before l = q - min q (before + l.amount) by
          unfold share; ring]
      refine (ih others (before + l.amount) _).trans ?_
      show (⟨fill.filled + share q before l + _, fill.notional + share q before l * l.price + _⟩
        : Fill Rat) = _
      rw [add_assoc, add_assoc]

/-! ## Fills compared -/

/-- **What the larger quantity takes on top** is worth at least a price, when no level is worth
less. -/
theorem worth_grows (amounts : ∀ l ∈ levels, 0 ≤ l.amount) (least : ∀ l ∈ levels, p ≤ value l)
    (h : q₁ ≤ q₂) :
    p * (given q₂ before levels - given q₁ before levels)
      ≤ worth value q₂ before levels - worth value q₁ before levels := by
  induction levels generalizing before with
  | nil =>
    unfold given
    rw [depth, List.map_nil, List.sum_nil, add_zero, sub_self, sub_self, worth, worth, sub_self,
      mul_zero]
  | cons l rest ih =>
    have amount := amounts l (List.mem_cons_self ..)
    have first : p * (share q₂ before l - share q₁ before l)
        ≤ (share q₂ before l - share q₁ before l) * value l := by
      rw [mul_comm]
      exact mul_le_mul_of_nonneg_left (least l (List.mem_cons_self ..))
        (sub_nonneg.mpr (share_mono amount h))
    have others : p * (given q₂ (before + l.amount) rest - given q₁ (before + l.amount) rest)
        ≤ worth value q₂ (before + l.amount) rest - worth value q₁ (before + l.amount) rest :=
      ih (fun m mem => amounts m (List.mem_cons_of_mem l mem))
        (fun m mem => least m (List.mem_cons_of_mem l mem))
    rw [given_cons, given_cons, worth, worth]
    linarith

/-- A fill is worth at least a price, when no level is worth less. -/
theorem le_worth (amounts : ∀ l ∈ levels, 0 ≤ l.amount) (least : ∀ l ∈ levels, p ≤ value l)
    (h : before ≤ q) : p * given q before levels ≤ worth value q before levels := by
  have grows : p * (given q before levels - given before before levels)
      ≤ worth value q before levels - worth value before before levels :=
    worth_grows amounts least h
  rwa [given_of_le amounts le_rfl, worth_of_le amounts le_rfl, sub_zero, sub_zero] at grows

/-- **The larger fill is worth no less on average**, when the levels are worth more and more. -/
theorem worth_mul_given_le (amounts : ∀ l ∈ levels, 0 ≤ l.amount)
    (ascending : levels.Pairwise fun l m => value l ≤ value m) (h : q₁ ≤ q₂) :
    worth value q₁ before levels * given q₂ before levels
      ≤ worth value q₂ before levels * given q₁ before levels := by
  induction levels generalizing before with
  | nil =>
    rw [worth, worth, zero_mul, zero_mul]
  | cons l rest ih =>
    obtain ⟨first, ascending⟩ := List.pairwise_cons.mp ascending
    have amount := amounts l (List.mem_cons_self ..)
    have others : ∀ m ∈ rest, 0 ≤ m.amount := fun m mem => amounts m (List.mem_cons_of_mem l mem)
    have rests : worth value q₁ (before + l.amount) rest * given q₂ (before + l.amount) rest
        ≤ worth value q₂ (before + l.amount) rest * given q₁ (before + l.amount) rest :=
      ih others ascending
    rw [given_cons, given_cons, worth, worth]
    rcases le_total q₁ (before + l.amount) with within | beyond
    · -- the smaller fill ends on the first level
      rw [given_of_le others within, worth_of_le others within, add_zero, add_zero]
      have taken : 0 ≤ share q₁ before l := share_nonneg amount
      rcases le_total (before + l.amount) q₂ with reached | short
      · have least := le_worth others first reached
        nlinarith
      · rw [given_of_le others short, worth_of_le others short, add_zero, add_zero]
        exact le_of_eq (by ring)
    · -- both fills take all of the first level
      rw [share_of_ge amount beyond, share_of_ge amount (beyond.trans h)]
      have grows := @worth_grows value q₁ q₂ (before + l.amount) (value l) rest others first h
      nlinarith

/-- What the levels are worth when each is worth the opposite. -/
theorem worth_neg (value : Level Rat → Rat) (q before : Rat) (levels : List (Level Rat)) :
    worth (fun l => -value l) q before levels = -worth value q before levels := by
  induction levels generalizing before with
  | nil => exact neg_zero.symm
  | cons l rest ih =>
    rw [worth, worth, ih]
    ring

/-- A fill is worth at most a price, when no level is worth more. -/
theorem worth_le (amounts : ∀ l ∈ levels, 0 ≤ l.amount) (greatest : ∀ l ∈ levels, value l ≤ p)
    (h : before ≤ q) : worth value q before levels ≤ p * given q before levels := by
  have opposite := le_worth amounts (fun l mem => neg_le_neg (greatest l mem)) h
  rw [worth_neg] at opposite
  linarith

/-- **A fill that ends at the least value** is worth just that: all levels before it are worth
the same. -/
theorem worth_of_least (amounts : ∀ l ∈ levels, 0 ≤ l.amount) (least : ∀ l ∈ levels, p ≤ value l)
    (ascending : levels.Pairwise fun l m => value l ≤ value m) (mem : l ∈ levels)
    (isLeast : value l = p) (h : q ≤ before + l.amount) :
    worth value q before levels = p * given q before levels := by
  induction levels generalizing before with
  | nil => cases mem
  | cons m rest ih =>
    obtain ⟨first, ascending⟩ := List.pairwise_cons.mp ascending
    have amount := amounts m (List.mem_cons_self ..)
    have others : ∀ n ∈ rest, 0 ≤ n.amount := fun n mem => amounts n (List.mem_cons_of_mem m mem)
    rw [worth, given_cons]
    rcases List.mem_cons.mp mem with rfl | among
    · rw [worth_of_le others h, given_of_le others h, isLeast]
      ring
    · have same : value m = p :=
        ((first l among).trans isLeast.le).antisymm (least m (List.mem_cons_self ..))
      rw [ih others (fun n mem => least n (List.mem_cons_of_mem m mem)) ascending among
        (by linarith), same]
      ring

/-- **A quantity beyond the depth** takes all there is. -/
theorem worth_of_depth_le (amounts : ∀ l ∈ levels, 0 ≤ l.amount) (all : before + depth levels ≤ q₁)
    (h : q₁ ≤ q₂) : worth value q₁ before levels = worth value q₂ before levels := by
  induction levels generalizing before with
  | nil => rfl
  | cons l rest ih =>
    have amount := amounts l (List.mem_cons_self ..)
    have others : ∀ m ∈ rest, 0 ≤ m.amount := fun m mem => amounts m (List.mem_cons_of_mem l mem)
    rw [depth_cons, ← add_assoc] at all
    have reached : before + l.amount ≤ q₁ := by linarith [depth_nonneg others]
    rw [worth, worth, share_of_ge amount reached, share_of_ge amount (reached.trans h),
      ih others all]

/-- What the levels are worth to a side by how bad their prices are. -/
theorem worth_badness (side : Side) (q before : Rat) (levels : List (Level Rat)) :
    worth (fun l => side.badness l.price) q before levels
      = side.badness (worth Level.price q before levels) := by
  cases side with
  | buy => rfl
  | sell => exact worth_neg Level.price q before levels

/-! ## The average price -/

theorem given_zero (h : 0 ≤ q) : given q 0 levels = min q (depth levels) := by
  unfold given
  rw [zero_add, min_eq_right h, sub_zero]

/-- **The average price of a fill** is what it is worth over what it fills; there is none when
nothing is on offer. -/
theorem fillPrice?_eq (amounts : ∀ l ∈ levels, 0 ≤ l.amount) (h : 0 < q) :
    fillPrice? levels q = if depth levels = 0 then none
      else some (worth Level.price q 0 levels / min q (depth levels)) := by
  have consumed := consume_eq amounts q 0 ⟨0, 0⟩
  rw [given_zero h.le, min_eq_right h.le, sub_zero, zero_add, zero_add] at consumed
  have unfolded : fillPrice? levels q = if min q (depth levels) ≤ 0 then none
      else some (worth Level.price q 0 levels / min q (depth levels)) := by
    unfold fillPrice?
    dsimp only
    exact congrArg (fun fill : Fill Rat => if fill.filled ≤ 0 then none
      else some (fill.notional / fill.filled)) consumed
  have empty : min q (depth levels) ≤ 0 ↔ depth levels = 0 := by
    have := depth_nonneg amounts
    rw [min_le_iff, or_iff_right (not_le.mpr h)]
    exact ⟨fun le => le.antisymm this, le_of_eq⟩
  rw [unfolded]
  exact if_congr empty rfl rfl

end

section

variable {side : Side} {levels rest : List (Level Rat)} {best worst : Level Rat}
  {q q₁ q₂ a a₁ a₂ : Rat}

/-- The price of the first level is the best. -/
theorem IsOrdered.le_badness (ordered : IsOrdered side levels) (isBest : levels.head? = some best) :
    ∀ l ∈ levels, side.badness best.price ≤ side.badness l.price := by
  obtain ⟨rest, rfl⟩ := List.head?_eq_some_iff.mp isBest
  intro l mem
  rcases List.mem_cons.mp mem with rfl | among
  · exact le_rfl
  · exact (List.pairwise_cons.mp ordered.bestFirst).1 l among

/-- The price of the last level is the worst. -/
theorem IsOrdered.badness_le (ordered : IsOrdered side levels)
    (isWorst : levels.getLast? = some worst) :
    ∀ l ∈ levels, side.badness l.price ≤ side.badness worst.price := by
  obtain ⟨earlier, rfl⟩ := List.getLast?_eq_some_iff.mp isWorst
  intro l mem
  rcases List.mem_append.mp mem with among | last
  · exact (List.pairwise_append.mp ordered.bestFirst).2.2 l among worst (List.mem_singleton_self _)
  · rw [List.mem_singleton.mp last]

/-- How bad the average price of a fill is. -/
theorem badness_of_fillPrice? (ordered : IsOrdered side levels) (h : 0 < q)
    (isAverage : fillPrice? levels q = some a) :
    0 < given q 0 levels
      ∧ side.badness a = worth (fun l => side.badness l.price) q 0 levels / given q 0 levels := by
  rw [fillPrice?_eq ordered.amounts h] at isAverage
  split_ifs at isAverage with empty
  cases isAverage
  have offered : 0 < depth levels := (depth_nonneg ordered.amounts).lt_of_ne' empty
  rw [given_zero h.le, worth_badness, Side.badness_div]
  exact ⟨lt_min h offered, rfl⟩

/-- **The average price lies between the best and the worst.** -/
theorem average_between (ordered : IsOrdered side levels) (h : 0 < q)
    (isAverage : fillPrice? levels q = some a) (isBest : levels.head? = some best)
    (isWorst : levels.getLast? = some worst) :
    side.AsGood best.price a ∧ side.AsGood a worst.price := by
  obtain ⟨filled, bad⟩ := badness_of_fillPrice? ordered h isAverage
  unfold Side.AsGood
  rw [bad, le_div_iff₀ filled, div_le_iff₀ filled]
  exact ⟨le_worth ordered.amounts (ordered.le_badness isBest) h.le,
    worth_le ordered.amounts (ordered.badness_le isWorst) h.le⟩

/-- **The average price of a larger fill is no better.** -/
theorem average_grows (ordered : IsOrdered side levels) (h : 0 < q₁) (larger : q₁ ≤ q₂)
    (first : fillPrice? levels q₁ = some a₁) (second : fillPrice? levels q₂ = some a₂) :
    side.AsGood a₁ a₂ := by
  obtain ⟨filled₁, bad₁⟩ := badness_of_fillPrice? ordered h first
  obtain ⟨filled₂, bad₂⟩ := badness_of_fillPrice? ordered (h.trans_le larger) second
  unfold Side.AsGood
  rw [bad₁, bad₂, div_le_div_iff₀ filled₁ filled₂]
  exact worth_mul_given_le ordered.amounts ordered.bestFirst larger

/-- **The average price is the best one** as long as the quantity fits in a level at that price. -/
theorem average_of_best (ordered : IsOrdered side levels) (h : 0 < q)
    (isAverage : fillPrice? levels q = some a) (isBest : levels.head? = some best)
    {l : Level Rat} (mem : l ∈ levels) (same : l.price = best.price) (fits : q ≤ l.amount) :
    side.badness a = side.badness best.price := by
  obtain ⟨filled, bad⟩ := badness_of_fillPrice? ordered h isAverage
  rw [bad, worth_of_least ordered.amounts (ordered.le_badness isBest) ordered.bestFirst mem
    (congrArg side.badness same) (by rwa [zero_add]), mul_div_cancel_right₀ _ filled.ne']

/-! ## Slippage -/

/-- Slippage as a function of the best price and of the average price. -/
def slipOf (best average : Rat) : Rat :=
  Arith.roundTo 2 (Arith.gap average best / best * Arith.hundred)

/-- The slippage of a quantity, when there are levels. -/
theorem slippage_eq {book : Book Rat} (ordered : IsOrdered side (book.offersFor side))
    (isBest : (book.offersFor side).head? = some best) (h : 0 < q) :
    book.slippage side q
      = ((fillPrice? (book.offersFor side) q).map (slipOf best.price)).getD 0 := by
  obtain ⟨rest, levels⟩ := List.head?_eq_some_iff.mp isBest
  have positive : 0 < best.price :=
    ordered.positive best (by rw [levels]; exact List.mem_cons_self ..)
  unfold slippage
  rw [levels]
  refine (if_neg fun nothing => ?_).trans ?_
  · rcases (Bool.or_eq_true _ _).mp nothing with filled | free
    · exact absurd (of_decide_eq_true filled) (not_le.mpr h)
    · exact positive.ne' (of_decide_eq_true free)
  · cases fillPrice? (best :: rest) q <;> rfl

/-- Where nothing is on offer, nothing slips. -/
theorem slippage_of_empty {book : Book Rat} (ordered : IsOrdered side (book.offersFor side))
    (empty : depth (book.offersFor side) = 0) (h : 0 < q) : book.slippage side q = 0 := by
  cases isBest : (book.offersFor side).head? with
  | none =>
    unfold slippage
    rw [List.head?_eq_none_iff.mp isBest]
    rfl
  | some best =>
    rw [slippage_eq ordered isBest h, fillPrice?_eq ordered.amounts h, if_pos empty]
    rfl

/-- What is on offer has a first level and a last one. -/
theorem exists_ends (offered : depth levels ≠ 0) :
    ∃ best worst, levels.head? = some best ∧ levels.getLast? = some worst := by
  have some : levels ≠ [] := by
    rintro rfl
    exact offered rfl
  exact ⟨_, _, List.head?_eq_some_head some, List.getLast?_eq_some_getLast some⟩

/-- An average price that is as bad as the best one does not slip. -/
theorem slipOf_of_eq (side : Side) (same : side.badness a = side.badness best.price) :
    slipOf best.price a = 0 := by
  unfold slipOf
  rw [@Side.gap_eq side _ _ same.ge, same, sub_self, zero_div, zero_mul]
  exact Rat.roundToPlaces_zero 2

/-- **A worse average price slips no less.** -/
theorem slipOf_mono (positive : 0 < best.price) (between : side.AsGood best.price a₁)
    (worse : side.AsGood a₁ a₂) :
    0 ≤ slipOf best.price a₁ ∧ slipOf best.price a₁ ≤ slipOf best.price a₂ := by
  unfold slipOf
  rw [Side.gap_eq between, @Side.gap_eq side _ _ (between.trans worse)]
  have hundred : (0 : Rat) ≤ Arith.hundred := by decide
  have apart : 0 ≤ side.badness a₁ - side.badness best.price := sub_nonneg.mpr between
  have percent : 0 ≤ (side.badness a₁ - side.badness best.price) / best.price * Arith.hundred :=
    mul_nonneg (div_nonneg apart positive.le) hundred
  refine ⟨Rat.roundToPlaces_nonneg 2 percent, Rat.roundToPlaces_mono 2 percent ?_⟩
  exact mul_le_mul_of_nonneg_right
    (div_le_div_of_nonneg_right (sub_le_sub_right worse _) positive.le) hundred

end

/-- **Larger orders slip more.** On a side of the book that is in order, an order finds an average
price unless nothing is on offer. The price is what the levels give, at their prices, over the
quantity or the depth, whichever is less. It lies between the best price and the worst, and for a
larger order it is no better. So slippage is never negative, a larger order does not slip less, an
order that fits in a level at the best price does not slip, and beyond the depth nothing changes. -/
theorem larger_orders_slip_more {book : Book Rat} {side : Side} {q₁ q₂ : Rat}
    (ordered : IsOrdered side (book.offersFor side)) (positive : 0 < q₁) (larger : q₁ ≤ q₂) :
    let levels := book.offersFor side
    (fillPrice? levels q₁ = none ↔ depth levels = 0)
    ∧ (∀ a₁, fillPrice? levels q₁ = some a₁ →
        a₁ = worth Level.price q₁ 0 levels / min q₁ (depth levels)
        ∧ (∀ best worst, levels.head? = some best → levels.getLast? = some worst →
            side.AsGood best.price a₁ ∧ side.AsGood a₁ worst.price)
        ∧ ∀ a₂, fillPrice? levels q₂ = some a₂ → side.AsGood a₁ a₂)
    ∧ 0 ≤ book.slippage side q₁
    ∧ book.slippage side q₁ ≤ book.slippage side q₂
    ∧ (∀ best l, levels.head? = some best → l ∈ levels → l.price = best.price → q₁ ≤ l.amount →
        book.slippage side q₁ = 0)
    ∧ (depth levels ≤ q₁ → book.slippage side q₁ = book.slippage side q₂) := by
  intro levels
  have average₁ := fillPrice?_eq ordered.amounts positive
  have average₂ := fillPrice?_eq ordered.amounts (positive.trans_le larger)
  by_cases empty : depth levels = 0
  · rw [if_pos empty] at average₁
    have unslipped₁ := slippage_of_empty ordered empty positive
    have unslipped₂ := slippage_of_empty ordered empty (positive.trans_le larger)
    rw [unslipped₁, unslipped₂]
    refine ⟨iff_of_true average₁ empty, fun a₁ isAverage => ?_, le_rfl, le_rfl,
      fun _ _ _ _ _ _ => rfl, fun _ => rfl⟩
    cases average₁.symm.trans isAverage
  · obtain ⟨best, worst, isBest, isWorst⟩ := exists_ends empty
    rw [if_neg empty] at average₁ average₂
    have between := average_between ordered positive average₁ isBest isWorst
    have worse := average_grows ordered positive larger average₁ average₂
    have slips := slipOf_mono (ordered.positive best (List.mem_of_head? isBest)) between.1 worse
    rw [slippage_eq ordered isBest positive, slippage_eq ordered isBest (positive.trans_le larger),
      average₁, average₂]
    refine ⟨iff_of_false (Option.some_ne_none _) empty, ?_, slips.1, slips.2, ?_, fun all => ?_⟩
    · rintro a₁ ⟨⟩
      refine ⟨rfl, fun best worst isBest isWorst => ?_, ?_⟩
      · exact average_between ordered positive average₁ isBest isWorst
      · rintro a₂ ⟨⟩
        exact worse
    · intro best' l isBest' mem same fits
      obtain rfl := Option.some.inj (isBest.symm.trans isBest')
      exact slipOf_of_eq side (average_of_best ordered positive average₁ isBest mem same fits)
    · rw [worth_of_depth_le ordered.amounts (by rwa [zero_add]) larger, min_eq_right all,
        min_eq_right (all.trans larger)]

/-- A book on which the best ask is at a hundred and the next one at a hundred and two, with nothing
on offer between them. -/
def thinBook : Book Rat where
  bids := []
  asks := [⟨100, 1⟩, ⟨101, 0⟩, ⟨102, 3⟩]

/-- Two coins cost a hundred and one on average there, which is one percent more than the best
price, and one coin costs the best price. -/
theorem larger_orders_slip_more_thinBook :
    IsOrdered .buy (thinBook.offersFor .buy)
    ∧ fillPrice? (thinBook.offersFor .buy) 2 = some 101
    ∧ thinBook.slippage .buy 2 = 1
    ∧ thinBook.slippage .buy 1 = 0
    ∧ thinBook.slippage .buy 1 ≤ thinBook.slippage .buy 2 := by
  have ordered : IsOrdered .buy (thinBook.offersFor .buy) :=
    ⟨by decide +kernel, by decide +kernel, by unfold Side.AsGood; decide +kernel⟩
  obtain ⟨-, -, -, grows, flat, -⟩ :=
    @larger_orders_slip_more thinBook .buy 1 2 ordered (by decide) (by decide)
  exact ⟨ordered, by decide +kernel, by decide +kernel,
    flat ⟨100, 1⟩ ⟨100, 1⟩ rfl (List.mem_cons_self ..) rfl (by decide), grows⟩

end Book

end OrderDesk
