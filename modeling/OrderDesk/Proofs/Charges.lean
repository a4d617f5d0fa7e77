import Mathlib.Algebra.BigOperators.Group.List.Lemmas
import Mathlib.Algebra.Order.Field.Rat
import OrderDesk.Proofs.Exact
import OrderDesk.Run
import OrderDesk.Venue.Ack

/-!
# What the fees of trades add up to

A fee is an amount in one currency, and an order that states its fee states both in one section. An
order that does not is charged what its trades were charged. For that the trades are gone through
twice, each time for one half of the fee: the costs of all of them are added up, whatever they are
paid in, and the first currency that is named is taken for the sum.

The two halves need not belong together. The amount stands for what was paid in the currency beside
it exactly when the trades that were paid otherwise come to nothing (`Ack.fee_of_trades`).
-/

namespace OrderDesk

open Number (value?)

namespace Ack

namespace Fee

/-- The cost of a fee as a number. -/
def amount (f : Fee) : Option Rat := f.cost.bind value?

/-- Costs added up from the left; a missing one adds nothing. -/
def total {K : Type} [Arith K] (costs : List (Option K)) : K :=
  costs.foldl (fun acc cost => acc + cost.getD 0) 0

/-- The first currency that fees name, if any names one. -/
def named (fees : List Fee) : Payload :=
  ((fees.map Fee.currency).find? Payload.isPresent).getD .null

/-- **A fee is in a currency**: both are the same, or neither is named. -/
def IsIn (currency : Payload) (f : Fee) : Prop :=
  f.currency.orElse .null = currency.orElse .null

section

open scoped Classical

/-- The fees that are in a currency. -/
noncomputable def within (currency : Payload) (fees : List Fee) : List Fee :=
  fees.filter (·.IsIn currency)

/-- The fees that are in another currency, or in none. -/
noncomputable def beside (currency : Payload) (fees : List Fee) : List Fee :=
  fees.filter (¬ ·.IsIn currency)

theorem within_eq_self {currency : Payload} {fees : List Fee} (h : ∀ f ∈ fees, f.IsIn currency) :
    within currency fees = fees :=
  List.filter_eq_self.mpr fun f isFee => decide_eq_true (h f isFee)

/-- In exact arithmetic costs are summed. -/
theorem total_eq_sum (costs : List (Option Rat)) :
    total costs = (costs.map (·.getD 0)).sum := by
  have fold (acc : Rat) : costs.foldl (fun acc cost => acc + cost.getD 0) acc
      = acc + (costs.map (·.getD 0)).sum := by
    induction costs generalizing acc with
    | nil => exact (add_zero acc).symm
    | cons c costs ih => rw [List.foldl_cons, ih, List.map_cons, List.sum_cons, add_assoc]
  exact (fold 0).trans (zero_add _)

/-- **A sum over all currencies** is the one in a currency and the one beside it. -/
theorem total_split (currency : Payload) (fees : List Fee) :
    total (fees.map amount)
      = total ((within currency fees).map amount)
        + total ((beside currency fees).map amount) := by
  simp only [total_eq_sum, List.map_map]
  exact (List.sum_map_filter_add_sum_map_filter_not (fun f : Fee => f.IsIn currency) _ fees).symm

end

end Fee

/-! ## Reading the fees of trades -/

/-- **A section states a fee.** -/
structure States (p : Payload) (f : Fee) : Prop where
  cost : p.numberAt? "cost" = .ok f.cost
  currency : p.field "currency" = .ok f.currency

/-- **The fees of trades**, one to one. -/
abbrev AreCharged : List Payload → List Fee → Prop := List.Forall₂ (readFee · = .ok ·)

theorem readFee_eq_ok_iff {p : Payload} {f : Fee} :
    readFee p = .ok f ↔ ∃ fee, p.group "fee" = .ok fee ∧ States fee f := by
  constructor
  · intro read
    obtain ⟨fee, group, read⟩ := Run.ok_of_bind read
    obtain ⟨cost, isCost, read⟩ := Run.ok_of_bind read
    obtain ⟨currency, isCurrency, read⟩ := Run.ok_of_bind read
    cases read
    exact ⟨fee, group, isCost, isCurrency⟩
  · rintro ⟨fee, group, states⟩
    exact Run.bind_of_ok group (Run.bind_of_ok states.cost (Run.bind_of_ok states.currency rfl))

/-- A section whose cost can be read states a fee. -/
theorem exists_states {fee : Payload} {cost : Option Float}
    (h : fee.numberAt? "cost" = .ok cost) : ∃ f, f.cost = cost ∧ States fee f := by
  obtain ⟨p, isField, -⟩ := Run.ok_of_bind h
  obtain ⟨found, lookup, -⟩ := Run.ok_of_bind isField
  cases fee with
  | object fields => exact ⟨⟨cost, _⟩, rfl, h, rfl⟩
  | _ => cases lookup

theorem feesOf_eq_ok_iff {trades sections : List Payload} :
    feesOf trades = .ok sections
      ↔ List.Forall₂ (Payload.group · "fee" = .ok ·) trades sections := by
  induction trades generalizing sections with
  | nil => simp [feesOf, eq_comm]
  | cons t trades ih =>
    constructor
    · intro read
      obtain ⟨fee, group, read⟩ := Run.ok_of_bind read
      obtain ⟨rest, isRest, read⟩ := Run.ok_of_bind read
      cases read
      exact .cons group (ih.mp isRest)
    · rintro (_ | ⟨group, rest⟩)
      exact Run.bind_of_ok group (Run.bind_of_ok (ih.mpr rest) rfl)

/-- Costs that can be added up are all stated. -/
theorem exists_fees_of_sumCosts {sections : List Payload} {acc sum : Float}
    (h : sumCosts acc sections = .ok sum) : ∃ fees, List.Forall₂ States sections fees := by
  induction sections generalizing acc with
  | nil => exact ⟨[], .nil⟩
  | cons fee sections ih =>
    obtain ⟨cost, isCost, rest⟩ := Run.ok_of_bind h
    obtain ⟨f, -, states⟩ := exists_states isCost
    obtain ⟨fees, others⟩ := ih rest
    exact ⟨f :: fees, .cons states others⟩

/-- **The first pass** adds up the costs of all fees. -/
theorem sumCosts_eq {sections : List Payload} {fees : List Fee}
    (h : List.Forall₂ States sections fees) (acc : Float) :
    sumCosts acc sections
      = .ok ((fees.map Fee.cost).foldl (fun acc cost => acc + cost.getD 0) acc) := by
  induction h generalizing acc with
  | nil => rfl
  | cons states _ ih => exact Run.bind_of_ok states.cost (ih _)

/-- **The second pass** finds the first currency. -/
theorem firstCurrency_eq {sections : List Payload} {fees : List Fee}
    (h : List.Forall₂ States sections fees) : firstCurrency sections = .ok (Fee.named fees) := by
  induction h with
  | nil => rfl
  | @cons fee f sections fees states _ ih =>
    refine Run.bind_of_ok states.currency ?_
    rw [Fee.named, List.map_cons, List.find?_cons]
    cases f.currency.isPresent with
    | true => rfl
    | false => exact ih

/-- The fees of trades are stated in the sections of the trades. -/
theorem areCharged_iff {trades : List Payload} {fees : List Fee} :
    AreCharged trades fees ↔
      ∃ sections, feesOf trades = .ok sections ∧ List.Forall₂ States sections fees := by
  simp only [feesOf_eq_ok_iff]
  constructor
  · intro charged
    induction charged with
    | nil => exact ⟨[], .nil, .nil⟩
    | cons read _ ih =>
      obtain ⟨fee, group, states⟩ := readFee_eq_ok_iff.mp read
      obtain ⟨sections, groups, stated⟩ := ih
      exact ⟨fee :: sections, .cons group groups, .cons states stated⟩
  · rintro ⟨sections, groups, stated⟩
    induction groups generalizing fees with
    | nil =>
      cases stated
      exact .nil
    | cons group _ ih =>
      obtain _ | ⟨states, stated⟩ := stated
      exact .cons (readFee_eq_ok_iff.mpr ⟨_, group, states⟩) (ih stated)

/-! ## The fee of an order -/

variable {p : Payload} {trades : List Payload} {other : Payload}

/-- **The fee of an order that states none** is the sum of what its trades were charged, in the
first currency among them, and it can be read when theirs can. -/
theorem readTotalFee_eq_ok_iff (unstated : readFee p = .ok ⟨none, other⟩)
    (listed : p.field "trades" = .ok (.list trades)) (traded : trades ≠ []) {fee : Fee} :
    readTotalFee p = .ok fee ↔
      ∃ fees, AreCharged trades fees
        ∧ fee = ⟨some (Fee.total (fees.map Fee.cost)), Fee.named fees⟩ := by
  have isPresent : (Payload.list trades).isPresent = true := by
    simpa [Payload.isPresent] using traded
  have opened : readTotalFee p = (do
      let sections ← feesOf trades
      return ⟨some (← sumCosts 0.0 sections), ← firstCurrency sections⟩) :=
    Run.bind_of_ok unstated (Run.bind_of_ok listed (if_pos (by simp [isPresent])))
  rw [opened]
  constructor
  · intro read
    obtain ⟨sections, isSections, read⟩ := Run.ok_of_bind read
    obtain ⟨sum, isSum, read⟩ := Run.ok_of_bind read
    obtain ⟨fees, stated⟩ := exists_fees_of_sumCosts isSum
    obtain ⟨currency, isCurrency, read⟩ := Run.ok_of_bind read
    cases read
    rw [sumCosts_eq stated] at isSum
    rw [firstCurrency_eq stated] at isCurrency
    cases isSum
    cases isCurrency
    exact ⟨fees, areCharged_iff.mpr ⟨sections, isSections, stated⟩, rfl⟩
  · rintro ⟨fees, charged, rfl⟩
    obtain ⟨sections, isSections, stated⟩ := areCharged_iff.mp charged
    exact Run.bind_of_ok isSections (Run.bind_of_ok (sumCosts_eq stated 0.0)
      (Run.bind_of_ok (firstCurrency_eq stated) rfl))

/-- An order without trades is charged nothing that is known. -/
theorem readTotalFee_of_untraded (unstated : readFee p = .ok ⟨none, other⟩)
    (listed : p.field "trades" = .ok (.list [])) : readTotalFee p = .ok ⟨none, other⟩ :=
  Run.bind_of_ok unstated (Run.bind_of_ok listed rfl)

/-- An acknowledgement carries the fee of its order. -/
theorem readTotalFee_of_read {symbol side type : String} {ack : Ack}
    (h : read symbol side type p = .ok ack) : readTotalFee p = .ok ⟨ack.fee, ack.feeCurrency⟩ := by
  obtain ⟨fee, isFee, h⟩ := Run.ok_of_bind h
  obtain ⟨id, -, h⟩ := Run.ok_of_bind h
  cases id with
  | none => cases h
  | some id =>
    simp only [bind, Except.bind, pure, Except.pure] at h
    repeat' split at h
    all_goals cases h
    exact isFee

/-- **The fee of an order that states none**, as its acknowledgement has it. It can be read when
the fees of the trades can. Its amount is the sum of the costs of all of them, its currency the
first that one of them names, and the amount is what was paid in that currency exactly when what was
paid beside it comes to nothing. -/
theorem fee_of_trades (unstated : readFee p = .ok ⟨none, other⟩)
    (listed : p.field "trades" = .ok (.list trades)) :
    (trades = [] → readTotalFee p = .ok ⟨none, other⟩) ∧
    (trades ≠ [] → ((∃ fee, readTotalFee p = .ok fee) ↔ ∃ fees, AreCharged trades fees)) ∧
    ∀ symbol side type ack, trades ≠ [] → read symbol side type p = .ok ack →
      ∃ fees, AreCharged trades fees ∧
        ack.fee = some (Fee.total (fees.map Fee.cost)) ∧ ack.feeCurrency = Fee.named fees ∧
        ((∀ f ∈ fees, f.IsIn ack.feeCurrency) →
          ack.fee = some (Fee.total ((Fee.within ack.feeCurrency fees).map Fee.cost))) ∧
        (Fee.total (fees.map Fee.amount)
            = Fee.total ((Fee.within ack.feeCurrency fees).map Fee.amount)
          ↔ Fee.total ((Fee.beside ack.feeCurrency fees).map Fee.amount) = 0) := by
  refine ⟨fun untraded => readTotalFee_of_untraded unstated (untraded ▸ listed), fun traded => ?_,
    fun symbol side type ack traded isRead => ?_⟩
  · simp only [readTotalFee_eq_ok_iff unstated listed traded]
    constructor
    · rintro ⟨_, fees, charged, _⟩
      exact ⟨fees, charged⟩
    · rintro ⟨fees, charged⟩
      exact ⟨_, fees, charged, rfl⟩
  · obtain ⟨fees, charged, same⟩ :=
      (readTotalFee_eq_ok_iff unstated listed traded).mp (readTotalFee_of_read isRead)
    obtain ⟨isFee, isCurrency⟩ := Fee.mk.inj same
    refine ⟨fees, charged, isFee, isCurrency, fun all => ?_, ?_⟩
    · rw [Fee.within_eq_self all]
      exact isFee
    · rw [Fee.total_split ack.feeCurrency fees]
      exact add_eq_left

/-- An order that states no fee. -/
def ofTrades (trades : List Payload) : Payload :=
  .object [("id", .text "v1"), ("trades", .list trades)]

/-- A trade with its fee. -/
def trade (cost : Float) (currency : String) : Payload :=
  .object [("fee", .object [("cost", .real cost), ("currency", .text currency)])]

theorem fee_of_trades_inOneCurrency :
    let trades := [trade 0.5 "BNB", .object [], trade 0.25 "BNB"]
    ∃ ack, read "BTC/USDT" "buy" "MARKET" (ofTrades trades) = .ok ack ∧
      ∃ fees, AreCharged trades fees ∧ ack.fee = some (Fee.total (fees.map Fee.cost)) := by
  intro trades
  obtain ⟨-, -, reads⟩ := @fee_of_trades (ofTrades trades) trades .null rfl rfl
  obtain ⟨fees, charged, isFee, -⟩ := reads "BTC/USDT" "buy" "MARKET" _ (by simp [trades]) rfl
  exact ⟨_, rfl, fees, charged, isFee⟩

/-- **Currencies are mixed.** Of one half in one currency and one quarter in another the fee is
three quarters of the first. -/
theorem fee_mixes_currencies :
    ¬ ∀ (p : Payload) (trades : List Payload) (fees : List Fee) (symbol side type : String)
        (ack : Ack), readFee p = .ok ⟨none, .null⟩ → p.field "trades" = .ok (.list trades) →
      AreCharged trades fees → trades ≠ [] → read symbol side type p = .ok ack →
      ack.fee = some (Fee.total ((Fee.within ack.feeCurrency fees).map Fee.cost)) := by
  intro claimed
  have charged : AreCharged [trade 0.5 "BNB", trade 0.25 "USDT"]
      [⟨some 0.5, .text "BNB"⟩, ⟨some 0.25, .text "USDT"⟩] := .cons rfl (.cons rfl .nil)
  have only : Fee.within (.text "BNB") [⟨some 0.5, .text "BNB"⟩, ⟨some 0.25, .text "USDT"⟩]
      = [⟨some 0.5, .text "BNB"⟩] := by
    simp [Fee.within, Fee.IsIn, Payload.orElse, Payload.isPresent]
  have same : some (0.0 + 0.5 + 0.25) = some (Fee.total ((Fee.within (.text "BNB")
      [⟨some 0.5, .text "BNB"⟩, ⟨some 0.25, .text "USDT"⟩]).map Fee.cost)) :=
    claimed (ofTrades _) _ _ "BTC/USDT" "buy" "MARKET" _ rfl rfl charged (by simp) rfl
  rw [only] at same
  have sameNumber := congrArg (Option.bind · Number.value?) same
  exact absurd sameNumber (by decide +kernel)

end Ack

end OrderDesk
