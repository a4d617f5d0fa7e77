import Mathlib.Algebra.BigOperators.Ring.Finset
import OrderDesk.Proofs.Costs

/-!
# What a position adds up to

A position is folded from the filled orders of a coin in one pass, which keeps three sums over all
of them and, beside, one running amount for each venue. Nothing in the pass ties the two together.
They agree because every order is added once on either side: the amount held is what was bought less
what was sold, and it is also the sum of what is held on the venues (`sum_netOn`), those venues
among them that the snapshot leaves out because nothing, or less than nothing, is held there.

The pass takes the orders one after another, and yet their order is not to be seen in the end. What
the pass keeps of a venue is determined by the orders on it (`Tallies`): their net amount, and the
latest of their times. So when the orders come in another order the venues come in another order,
and this is all that changes.
-/

namespace OrderDesk

namespace Holdings

/-! ## What trades add up to -/

/-- How much was bought. -/
def boughtOf (trades : List (Trade Rat)) : Rat :=
  ((trades.filter (·.isBuy)).map fun t => t.amount.getD 0).sum

/-- How much was sold. -/
def soldOf (trades : List (Trade Rat)) : Rat :=
  ((trades.filter (!·.isBuy)).map fun t => t.amount.getD 0).sum

/-- What the buys cost. -/
def spentOf (trades : List (Trade Rat)) : Rat :=
  ((trades.filter (·.isBuy)).map fun t => t.cost.getD 0).sum

/-- What a trade adds to the amount that is held. -/
def gain (t : Trade Rat) : Rat := if t.isBuy then t.amount.getD 0 else -t.amount.getD 0

/-- The trades on a venue. -/
def tradesOn (venue : Option String) (trades : List (Trade Rat)) : List (Trade Rat) :=
  trades.filter (·.venue = venue)

/-- **The net amount on a venue**: what its trades add up to. -/
def netOn (venue : Option String) (trades : List (Trade Rat)) : Rat :=
  ((tradesOn venue trades).map gain).sum

/-- **The latest time of several trades**: it is the time of one of them, and no other one is later.
There is none only when no trade has a time. -/
structure IsLatest (trades : List (Trade Rat)) (latest : Option Stamp) : Prop where
  among : ∀ s, latest = some s → ∃ t ∈ trades, t.time = some s
  notEarlier : ∀ t ∈ trades, ∀ s, t.time = some s → ∃ l, latest = some l ∧ s.micros ≤ l.micros

/-- **What is kept of a venue** is what its trades say: their net amount, and their latest time. -/
structure IsHolding (trades : List (Trade Rat)) (h : VenueHolding Rat) : Prop where
  amount : h.amount = netOn h.venue trades
  latest : IsLatest (tradesOn h.venue trades) h.lastUpdated

/-- **Holdings by venue tally with trades**: each venue of a trade is there once, and no other, with
what its trades say. -/
structure Tallies (trades : List (Trade Rat)) (hs : List (VenueHolding Rat)) : Prop where
  once : (hs.map (·.venue)).Nodup
  venues : ∀ v, v ∈ hs.map (·.venue) ↔ v ∈ trades.map (·.venue)
  holdings : ∀ h ∈ hs, IsHolding trades h

section

variable {trades trades' : List (Trade Rat)} {t : Trade Rat} {venue : Option String}

theorem amountOf_eq (t : Trade Rat) : amountOf t = t.amount.getD 0 := orElse_zero t.amount

/-- **The totals are what was bought, what was sold and what the buys cost.** -/
theorem totals_eq_sums (trades : List (Trade Rat)) :
    totals trades = ⟨boughtOf trades, soldOf trades, spentOf trades⟩ := by
  have amounts : (amountOf : Trade Rat → Rat) = fun t => t.amount.getD 0 := funext amountOf_eq
  have costs : (costOf : Trade Rat → Rat) = fun t => t.cost.getD 0 :=
    funext fun t => orElse_zero t.cost
  rw [totals_eq, amounts, costs]
  rfl

/-- What is held is what was bought less what was sold. -/
theorem sum_gain (trades : List (Trade Rat)) :
    (trades.map gain).sum = boughtOf trades - soldOf trades := by
  induction trades with
  | nil => exact (sub_self 0).symm
  | cons t rest ih =>
    rw [List.map_cons, List.sum_cons, ih]
    unfold boughtOf soldOf gain
    cases side : t.isBuy <;> simp [side] <;> ring

theorem tradesOn_cons (venue : Option String) (t : Trade Rat) (rest : List (Trade Rat)) :
    tradesOn venue (t :: rest)
      = if t.venue = venue then t :: tradesOn venue rest else tradesOn venue rest := by
  unfold tradesOn
  rw [List.filter_cons]
  simp only [decide_eq_true_eq]

theorem netOn_cons (venue : Option String) (t : Trade Rat) (rest : List (Trade Rat)) :
    netOn venue (t :: rest) = (if t.venue = venue then gain t else 0) + netOn venue rest := by
  unfold netOn
  rw [tradesOn_cons]
  split_ifs
  · rw [List.map_cons, List.sum_cons]
  · rw [zero_add]

/-- **Venue by venue the same is held as altogether.** -/
theorem sum_netOn {venues : Finset (Option String)} (all : ∀ t ∈ trades, t.venue ∈ venues) :
    ∑ v ∈ venues, netOn v trades = (trades.map gain).sum := by
  induction trades with
  | nil => exact Finset.sum_const_zero
  | cons t rest ih =>
    simp only [netOn_cons]
    rw [Finset.sum_add_distrib, Finset.sum_ite_eq, if_pos (all t (List.mem_cons_self ..)),
      ih fun u mem => all u (List.mem_cons_of_mem t mem), List.map_cons, List.sum_cons]

/-- Nothing is held where nothing was traded. -/
theorem netOn_of_not_mem (h : venue ∉ trades.map (·.venue)) : netOn venue trades = 0 := by
  have none : tradesOn venue trades = [] := by
    refine List.filter_eq_nil_iff.mpr fun t mem same => h ?_
    exact List.mem_map.mpr ⟨t, mem, of_decide_eq_true same⟩
  unfold netOn
  rw [none]
  rfl

/-! ## What the pass keeps -/

/-- The latest time is determined. -/
theorem IsLatest.unique {a b : Option Stamp} (ha : IsLatest trades a) (hb : IsLatest trades b) :
    a = b := by
  cases a with
  | none =>
    cases b with
    | none => rfl
    | some s =>
      obtain ⟨t, mem, time⟩ := hb.among s rfl
      obtain ⟨_, none, -⟩ := ha.notEarlier t mem s time
      cases none
  | some s =>
    obtain ⟨t, mem, time⟩ := ha.among s rfl
    obtain ⟨r, rfl, le⟩ := hb.notEarlier t mem s time
    obtain ⟨u, mem', time'⟩ := hb.among r rfl
    obtain ⟨_, ⟨⟩, ge⟩ := ha.notEarlier u mem' r time'
    exact congrArg some (congrArg Stamp.mk (le.antisymm ge))

/-- The later of two times is one of them. -/
theorem eq_or_eq_of_later {a b : Option Stamp} {s : Stamp} (h : later a b = some s) :
    a = some s ∨ b = some s := by
  unfold later at h
  split at h
  · exact .inr h
  · exact .inl h
  · split at h
    · exact .inr h
    · exact .inl h

/-- The later of two times is not earlier than the first. -/
theorem le_later_left (a : Stamp) (b : Option Stamp) :
    ∃ l, later (some a) b = some l ∧ a.micros ≤ l.micros := by
  cases b with
  | none => exact ⟨a, rfl, le_rfl⟩
  | some b =>
    by_cases less : a.before b = true
    · exact ⟨b, if_pos less, (of_decide_eq_true less).le⟩
    · exact ⟨a, if_neg less, le_rfl⟩

/-- The later of two times is not earlier than the second. -/
theorem le_later_right (a : Option Stamp) (b : Stamp) :
    ∃ l, later a (some b) = some l ∧ b.micros ≤ l.micros := by
  cases a with
  | none => exact ⟨b, rfl, le_rfl⟩
  | some a =>
    by_cases less : a.before b = true
    · exact ⟨b, if_pos less, le_rfl⟩
    · exact ⟨a, if_neg less, not_lt.mp (mt decide_eq_true less)⟩

/-- **One more trade** moves the latest time on, at most. -/
theorem IsLatest.later {latest : Option Stamp} (h : IsLatest trades latest) (t : Trade Rat) :
    IsLatest (trades ++ [t]) (later latest t.time) := by
  refine ⟨fun s same => ?_, fun u mem s timed => ?_⟩
  · rcases eq_or_eq_of_later same with before | now
    · obtain ⟨u, mem, timed⟩ := h.among s before
      exact ⟨u, List.mem_append_left _ mem, timed⟩
    · exact ⟨t, List.mem_append_right _ (List.mem_singleton_self t), now⟩
  · rcases List.mem_append.mp mem with among | last
    · obtain ⟨a, rfl, le⟩ := h.notEarlier u among s timed
      obtain ⟨l, isLater, after⟩ := le_later_left a t.time
      exact ⟨l, isLater, le.trans after⟩
    · rw [List.mem_singleton.mp last] at timed
      rw [timed]
      exact le_later_right latest s

theorem tradesOn_concat (venue : Option String) (trades : List (Trade Rat)) (t : Trade Rat) :
    tradesOn venue (trades ++ [t])
      = if t.venue = venue then tradesOn venue trades ++ [t] else tradesOn venue trades := by
  unfold tradesOn
  rw [List.filter_append, List.filter_singleton]
  by_cases same : t.venue = venue <;> simp [same]

/-- What is held on a venue moves by what the trade adds. -/
theorem amount_addToVenue (h : VenueHolding Rat) (t : Trade Rat) :
    (addToVenue h t).amount = h.amount + gain t := by
  show (if t.isBuy then h.amount + amountOf t else h.amount - amountOf t) = _
  unfold gain
  rw [amountOf_eq]
  split
  · rfl
  · exact sub_eq_add_neg ..

/-- Of a venue without trades nothing is kept. -/
theorem isHolding_of_not_mem (h : venue ∉ trades.map (·.venue)) :
    IsHolding trades ⟨venue, 0, none⟩ := by
  refine ⟨(netOn_of_not_mem h).symm, nofun, fun t mem => ?_⟩
  obtain ⟨among, same⟩ := List.mem_filter.mp mem
  exact absurd (List.mem_map.mpr ⟨t, among, of_decide_eq_true same⟩) h

/-- One more trade on a venue. -/
theorem IsHolding.add {h : VenueHolding Rat} (holding : IsHolding trades h)
    (same : h.venue = t.venue) : IsHolding (trades ++ [t]) (addToVenue h t) := by
  have more := tradesOn_concat h.venue trades t
  rw [if_pos same.symm] at more
  constructor
  · show _ = netOn h.venue _
    unfold netOn
    rw [more, amount_addToVenue, holding.amount, List.map_append, List.sum_append,
      List.map_singleton, List.sum_singleton]
    rfl
  · show IsLatest (tradesOn h.venue _) (Holdings.later h.lastUpdated t.time)
    rw [more]
    exact holding.latest.later t

/-- One more trade elsewhere. -/
theorem IsHolding.other {h : VenueHolding Rat} (holding : IsHolding trades h)
    (other : h.venue ≠ t.venue) : IsHolding (trades ++ [t]) h := by
  have same := tradesOn_concat h.venue trades t
  rw [if_neg other.symm] at same
  refine ⟨?_, by rw [same]; exact holding.latest⟩
  unfold netOn
  rw [same]
  exact holding.amount

/-- A venue that is there already is added to in its place. -/
theorem addToVenues_of_mem {hs : List (VenueHolding Rat)} (once : (hs.map (·.venue)).Nodup)
    (mem : t.venue ∈ hs.map (·.venue)) :
    addToVenues t hs = hs.map fun h => if h.venue = t.venue then addToVenue h t else h := by
  induction hs with
  | nil => cases mem
  | cons h rest ih =>
    rw [List.map_cons] at once mem
    obtain ⟨new, once⟩ := List.nodup_cons.mp once
    by_cases same : h.venue = t.venue
    · have others : rest.map (fun h => if h.venue = t.venue then addToVenue h t else h) = rest := by
        refine (List.map_congr_left fun k among => if_neg fun again => new ?_).trans
          (List.map_id rest)
        rw [same, ← again]
        exact List.mem_map_of_mem among
      rw [addToVenues, if_pos (beq_iff_eq.mpr same), List.map_cons, if_pos same, others]
    · have among := (List.mem_cons.mp mem).resolve_left (Ne.symm same)
      rw [addToVenues, if_neg (mt beq_iff_eq.mp same), List.map_cons, if_neg same, ih once among]

/-- A venue that is new comes last. -/
theorem addToVenues_of_not_mem {hs : List (VenueHolding Rat)}
    (new : t.venue ∉ hs.map (·.venue)) :
    addToVenues t hs = hs ++ [addToVenue ⟨t.venue, 0, none⟩ t] := by
  induction hs with
  | nil => rfl
  | cons h rest ih =>
    rw [List.map_cons, List.mem_cons, not_or] at new
    rw [addToVenues, if_neg (mt beq_iff_eq.mp (Ne.symm new.1)), ih new.2]
    rfl

/-- **The step**: what tallies with some trades tallies with one more when it is added. -/
theorem Tallies.add {hs : List (VenueHolding Rat)} (h : Tallies trades hs) (t : Trade Rat) :
    Tallies (trades ++ [t]) (addToVenues t hs) := by
  by_cases known : t.venue ∈ hs.map (·.venue)
  · have venues : (addToVenues t hs).map (·.venue) = hs.map (·.venue) := by
      rw [addToVenues_of_mem h.once known, List.map_map]
      refine List.map_congr_left fun k _ => ?_
      show (if k.venue = t.venue then addToVenue k t else k).venue = k.venue
      split_ifs <;> rfl
    refine ⟨by rw [venues]; exact h.once, fun v => ?_, fun k mem => ?_⟩
    · rw [venues, h.venues, List.map_append, List.mem_append, List.map_singleton,
        List.mem_singleton]
      exact ⟨.inl, fun among => among.elim id fun same => same ▸ (h.venues t.venue).mp known⟩
    · rw [addToVenues_of_mem h.once known] at mem
      obtain ⟨j, among, rfl⟩ := List.mem_map.mp mem
      split_ifs with same
      · exact (h.holdings j among).add same
      · exact (h.holdings j among).other same
  · have new : t.venue ∉ trades.map (·.venue) := mt (h.venues t.venue).mpr known
    rw [addToVenues_of_not_mem known]
    refine ⟨?_, fun v => ?_, fun k mem => ?_⟩
    · rw [List.map_append, List.nodup_append_comm]
      exact List.nodup_cons.mpr ⟨known, h.once⟩
    · rw [List.map_append, List.mem_append, List.map_append, List.mem_append, h.venues]
      rfl
    · rcases List.mem_append.mp mem with among | last
      · exact (h.holdings k among).other fun same => known (same ▸ List.mem_map_of_mem among)
      · rw [List.mem_singleton.mp last]
        exact (isHolding_of_not_mem new).add rfl

/-- **The run**: the holdings by venue tally with all trades. -/
theorem tallies_byVenue (trades : List (Trade Rat)) : Tallies trades (byVenue trades) := by
  unfold byVenue
  induction trades using List.reverseRecOn with
  | nil => exact ⟨List.nodup_nil, fun _ => Iff.rfl, nofun⟩
  | append_singleton earlier t ih =>
    rw [List.foldl_append]
    exact ih.add t

/-! ## The order of the trades -/

/-- The latest time does not depend on the order. -/
theorem IsLatest.perm {latest : Option Stamp} (h : IsLatest trades latest)
    (same : trades.Perm trades') : IsLatest trades' latest := by
  refine ⟨fun s isLatest => ?_, fun t mem => h.notEarlier t (same.mem_iff.mpr mem)⟩
  obtain ⟨t, mem, time⟩ := h.among s isLatest
  exact ⟨t, same.mem_iff.mp mem, time⟩

/-- What is kept of a venue does not depend on the order. -/
theorem IsHolding.perm {h : VenueHolding Rat} (holding : IsHolding trades h)
    (same : trades.Perm trades') : IsHolding trades' h := by
  refine ⟨holding.amount.trans ?_, holding.latest.perm (same.filter _)⟩
  exact ((same.filter _).map gain).sum_eq

/-- What is kept of a venue is determined. -/
theorem IsHolding.unique {h h' : VenueHolding Rat} (holding : IsHolding trades h)
    (holding' : IsHolding trades h') (venue : h.venue = h'.venue) : h = h' := by
  obtain ⟨v, a, l⟩ := h
  obtain ⟨v', a', l'⟩ := h'
  obtain rfl : v = v' := venue
  obtain rfl : a = a' := holding.amount.trans holding'.amount.symm
  obtain rfl : l = l' := holding.latest.unique holding'.latest
  rfl

theorem Tallies.perm {hs : List (VenueHolding Rat)} (h : Tallies trades hs)
    (same : trades.Perm trades') : Tallies trades' hs :=
  ⟨h.once, fun v => (h.venues v).trans (same.map _).mem_iff,
    fun k mem => (h.holdings k mem).perm same⟩

/-- What tallies with the same trades has the same holdings. -/
theorem Tallies.subset {hs hs' : List (VenueHolding Rat)} (h : Tallies trades hs)
    (h' : Tallies trades hs') : ∀ k ∈ hs, k ∈ hs' := by
  intro k mem
  have listed := (h.venues k.venue).mp (List.mem_map_of_mem mem)
  obtain ⟨j, among, venue⟩ := List.mem_map.mp ((h'.venues k.venue).mpr listed)
  rw [(h.holdings k mem).unique (h'.holdings j among) venue.symm]
  exact among

/-- **Trades in another order** give the holdings by venue in another order. -/
theorem byVenue_perm (same : trades.Perm trades') : (byVenue trades).Perm (byVenue trades') := by
  have left := tallies_byVenue trades
  have right := (tallies_byVenue trades').perm same.symm
  rw [List.perm_ext_iff_of_nodup left.once.of_map right.once.of_map]
  exact fun k => ⟨left.subset right k, right.subset left k⟩

theorem boughtOf_perm (same : trades.Perm trades') : boughtOf trades = boughtOf trades' :=
  ((same.filter _).map _).sum_eq

theorem soldOf_perm (same : trades.Perm trades') : soldOf trades = soldOf trades' :=
  ((same.filter _).map _).sum_eq

theorem spentOf_perm (same : trades.Perm trades') : spentOf trades = spentOf trades' :=
  ((same.filter _).map _).sum_eq

end

/-! ## The snapshot -/

section

variable (coin : Coin Rat) (trades : List (Trade Rat))

/-- What a unit cost on average. -/
def averageOf (trades : List (Trade Rat)) : Rat :=
  if 0 < boughtOf trades then spentOf trades / boughtOf trades else 0

theorem totalAmount_snapshot :
    (snapshot coin trades).totalAmount = boughtOf trades - soldOf trades := by
  cases trades with
  | nil => exact (sub_self 0).symm
  | cons t rest =>
    show (totals (t :: rest)).bought - (totals (t :: rest)).sold = _
    rw [totals_eq_sums]

theorem averageBuyPrice_snapshot : (snapshot coin trades).averageBuyPrice = averageOf trades := by
  cases trades with
  | nil => rfl
  | cons t rest =>
    show (if 0 < (totals (t :: rest)).bought
      then (totals (t :: rest)).costBasis / (totals (t :: rest)).bought else 0) = _
    rw [totals_eq_sums]
    rfl

theorem venues_snapshot :
    (snapshot coin trades).venues = (byVenue trades).filter fun h => 0 < h.amount := by
  cases trades <;> rfl

/-- **Each venue on which something is held is listed once**, and no other. -/
theorem listed_snapshot :
    ((snapshot coin trades).venues.map (·.venue)).Nodup
    ∧ (∀ v, v ∈ (snapshot coin trades).venues.map (·.venue) ↔ 0 < netOn v trades)
    ∧ ∀ h ∈ (snapshot coin trades).venues, IsHolding trades h := by
  have tallies := tallies_byVenue trades
  rw [venues_snapshot]
  refine ⟨tallies.once.sublist ((List.filter_sublist ..).map _),
    fun v => ⟨fun mem => ?_, fun held => ?_⟩,
    fun h mem => tallies.holdings h (List.mem_of_mem_filter mem)⟩
  · obtain ⟨h, listed, rfl⟩ := List.mem_map.mp mem
    obtain ⟨among, positive⟩ := List.mem_filter.mp listed
    rw [← (tallies.holdings h among).amount]
    exact of_decide_eq_true positive
  · have traded : v ∈ trades.map (·.venue) := by
      by_contra untraded
      exact held.ne' (netOn_of_not_mem untraded)
    obtain ⟨h, among, rfl⟩ := List.mem_map.mp ((tallies.venues v).mpr traded)
    refine List.mem_map_of_mem (List.mem_filter.mpr ⟨among, decide_eq_true ?_⟩)
    rw [(tallies.holdings h among).amount]
    exact held

/-- The percentage is zero only where nothing was invested or nothing was gained or lost. -/
theorem profitLossPercentage_eq_zero_iff :
    (snapshot coin trades).profitLossPercentage = 0
      ↔ (snapshot coin trades).investedAmount = 0 ∨ (snapshot coin trades).profitLoss = 0 := by
  cases trades with
  | nil => exact iff_of_true rfl (.inl rfl)
  | cons t rest =>
    generalize same : snapshot coin (t :: rest) = s
    have percentage : s.profitLossPercentage = if Arith.nonzero s.investedAmount
        then s.profitLoss / s.investedAmount * Arith.hundred else 0 := by
      rw [← same]
      rfl
    rw [percentage]
    by_cases invested : s.investedAmount = 0
    · rw [if_neg (Bool.eq_false_iff.mp (Arith.nonzero_eq_false_iff.mpr invested))]
      exact iff_of_true rfl (.inl invested)
    · have hundred : (Arith.hundred : Rat) ≠ 0 := by decide
      rw [if_pos (Arith.nonzero_iff.mpr invested), or_iff_right invested, mul_eq_zero,
        or_iff_left hundred, div_eq_zero_iff, or_iff_left invested]

end

end Holdings

/-- Arithmetic in which a division by zero gives what one likes. -/
@[reducible] def Arith.dividingByZero {K : Type} [Arith K] (other : K) : Arith K :=
  Arith.dividingBy Arith.nonzero other

namespace Holdings

section

variable (coin : Coin Rat) (trades : List (Trade Rat))

/-- Holdings by venue are added up without any division. -/
theorem byVenue_dividingByZero (other : Rat) :
    @byVenue Rat (Arith.dividingByZero other) trades = byVenue trades := by
  have add (hs : List (VenueHolding Rat)) (t : Trade Rat) :
      @addToVenues Rat (Arith.dividingByZero other) t hs = addToVenues t hs := by
    induction hs with
    | nil => rfl
    | cons h rest ih =>
      exact congrArg (fun others =>
        if h.venue == t.venue then addToVenue h t :: rest else h :: others) ih
  exact congrArg (fun step => trades.foldl step []) (funext₂ add)

/-- **Nothing is divided by zero**: the snapshot is the same whatever comes of such a division. -/
theorem snapshot_dividingByZero (other : Rat) :
    @snapshot Rat (Arith.dividingByZero other) coin trades = snapshot coin trades := by
  cases trades with
  | nil => rfl
  | cons t rest =>
    have average (cost bought : Rat) :
        (if 0 < bought then (if Arith.nonzero bought then cost / bought else other) else 0)
          = if 0 < bought then cost / bought else 0 := by
      split_ifs with positive nonzero
      · rfl
      · exact absurd (Arith.nonzero_iff.mpr positive.ne') nonzero
      · rfl
    have percentage (profit invested : Rat) :
        (if Arith.nonzero invested then
          (if Arith.nonzero invested then profit / invested else other) * Arith.hundred else 0)
          = if Arith.nonzero invested then profit / invested * Arith.hundred else 0 := by
      split_ifs <;> rfl
    have venues := congrArg (List.filter fun h => decide (0 < h.amount))
      (byVenue_dividingByZero (t :: rest) other)
    unfold snapshot
    dsimp only
    rw [HoldingsSnapshot.mk.injEq]
    refine ⟨rfl, rfl, rfl, average _ _, rfl, rfl, congrArg (_ * ·) (average _ _),
      congrArg (fun a => _ - _ * a) (average _ _), ?_, venues⟩
    refine (percentage _ _).trans ?_
    exact congrArg (fun a => if Arith.nonzero (_ * a) then (_ - _ * a) / (_ * a) * _ else 0)
      (average _ _)

/-- **The order of the trades** shows in the order of the venues only. -/
theorem snapshot_perm {trades trades' : List (Trade Rat)} (same : trades.Perm trades') :
    (snapshot coin trades').venues.Perm (snapshot coin trades).venues
    ∧ { snapshot coin trades' with venues := [] } = { snapshot coin trades with venues := [] } := by
  refine ⟨?_, ?_⟩
  · rw [venues_snapshot, venues_snapshot]
    exact (byVenue_perm same.symm).filter _
  · cases trades with
    | nil => rw [List.nil_perm.mp same]
    | cons t rest =>
      cases trades' with
      | nil => cases List.perm_nil.mp same
      | cons t' rest' =>
        have totals_eq : totals (t :: rest) = totals (t' :: rest') := by
          rw [totals_eq_sums, totals_eq_sums, boughtOf_perm same, soldOf_perm same,
            spentOf_perm same]
        unfold snapshot
        dsimp only
        rw [totals_eq]

/-- **A position adds up.** Read exactly, for any trades: what is held is what was bought less what
was sold, and venue by venue it is the same. The venues on which something is held are listed once
each, with their net amount and their latest time, and no others are. The average price of the buys
makes up their cost, and no sell moves it. Profit is value less what was invested, and its
percentage is zero only where one of the two is; no division is by zero. Trades in another order
give the same snapshot, with the venues in another order. -/
theorem position_adds_up (coin : Coin Rat) (trades : List (Trade Rat)) :
    let s := snapshot coin trades
    s.totalAmount = boughtOf trades - soldOf trades
    ∧ s.totalAmount = ∑ v ∈ (trades.map (·.venue)).toFinset, netOn v trades
    ∧ ((s.venues.map (·.venue)).Nodup
      ∧ (∀ v, v ∈ s.venues.map (·.venue) ↔ 0 < netOn v trades)
      ∧ ∀ h ∈ s.venues, IsHolding trades h)
    ∧ (0 < boughtOf trades → s.averageBuyPrice * boughtOf trades = spentOf trades)
    ∧ (¬ 0 < boughtOf trades → s.averageBuyPrice = 0)
    ∧ (∀ earlier t later, trades = earlier ++ t :: later → t.isBuy = false →
        (snapshot coin (earlier ++ later)).averageBuyPrice = s.averageBuyPrice)
    ∧ s.profitLoss = s.currentValue - s.investedAmount
    ∧ s.currentValue = s.totalAmount * s.currentPrice
    ∧ s.investedAmount = s.totalAmount * s.averageBuyPrice
    ∧ (s.profitLossPercentage = 0 ↔ s.investedAmount = 0 ∨ s.profitLoss = 0)
    ∧ (∀ other, @snapshot Rat (Arith.dividingByZero other) coin trades = s)
    ∧ ∀ trades', trades.Perm trades' →
        (snapshot coin trades').venues.Perm s.venues
        ∧ { snapshot coin trades' with venues := [] } = { s with venues := [] } := by
  intro s
  have total : s.totalAmount = boughtOf trades - soldOf trades := totalAmount_snapshot coin trades
  have average : s.averageBuyPrice = averageOf trades := averageBuyPrice_snapshot coin trades
  have all : ∀ t ∈ trades, t.venue ∈ (trades.map (·.venue)).toFinset := fun t mem =>
    List.mem_toFinset.mpr (List.mem_map_of_mem mem)
  refine ⟨total, ?_, listed_snapshot coin trades, fun bought => ?_, fun unbought => ?_, ?_, ?_, ?_,
    ?_, profitLossPercentage_eq_zero_iff coin trades, snapshot_dividingByZero coin trades,
    fun trades' same => snapshot_perm coin same⟩
  · rw [sum_netOn all, sum_gain, total]
  · rw [average, averageOf, if_pos bought, div_mul_cancel₀ _ bought.ne']
  · rw [average, averageOf, if_neg unbought]
  · intro earlier t later parts sell
    rw [average, averageBuyPrice_snapshot, parts]
    -- a sell is in neither of the two sums
    have buys : (earlier ++ t :: later).filter (·.isBuy) = (earlier ++ later).filter (·.isBuy) := by
      rw [List.filter_append, List.filter_append, List.filter_cons_of_neg (by simp [sell])]
    unfold averageOf boughtOf spentOf
    rw [buys]
  · cases trades with
    | nil => exact (sub_self 0).symm
    | cons t rest => rfl
  · cases trades with
    | nil => exact (mul_zero 0).symm
    | cons t rest => rfl
  · cases trades with
    | nil => exact (mul_zero 0).symm
    | cons t rest => rfl

end

/-- Two coins are bought on one venue, and one of them is sold on another. -/
def boughtAndSold : List (Trade Rat) :=
  [⟨some "binance", true, some 2, some 200, some ⟨5⟩⟩,
    ⟨some "kraken", false, some 1, some 150, none⟩]

/-- One coin is held in the end, though only the venue with two is listed, and selling it has not
moved the average price of a hundred. -/
theorem position_adds_up_boughtAndSold :
    let s := snapshot ⟨"btc", "BTC", some 120⟩ boughtAndSold
    0 < boughtOf boughtAndSold
    ∧ s.averageBuyPrice * 2 = 200
    ∧ s.totalAmount = 1
    ∧ s.venues.map (fun h => (h.venue, h.amount)) = [(some "binance", 2)]
    ∧ (snapshot ⟨"btc", "BTC", some 120⟩ (boughtAndSold.take 1)).averageBuyPrice
      = s.averageBuyPrice := by
  intro s
  obtain ⟨-, -, -, average, -, sells, -⟩ :=
    position_adds_up ⟨"btc", "BTC", some 120⟩ boughtAndSold
  have bought : boughtOf boughtAndSold = 2 := by decide +kernel
  have positive : 0 < boughtOf boughtAndSold := by rw [bought]; decide
  have made := average positive
  rw [bought] at made
  exact ⟨positive, made.trans (by decide +kernel), by decide +kernel, by decide +kernel,
    sells (boughtAndSold.take 1) ⟨some "kraken", false, some 1, some 150, none⟩ [] rfl rfl⟩

end Holdings

end OrderDesk
