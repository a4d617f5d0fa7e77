import OrderDesk.Proofs.Telling

/-!
# Where the rates of an order come from

The rates of an order are looked for in three places, and any question about them may go wrong:
the method may be out of order, and what the venue answers may be impossible to read. There is
an answer all the same, and its two rates are those of one entry; a maker's rate is never put
beside the taker's rate of another entry.

What the venue wrote about its fees is read entry by entry. An entry that does not state both
rates is as good as none, but one that cannot be read spoils the whole answer. An answer that is
no table of fees at all counts as an outage. A symbol that is the empty text names no entry of
the fees. Among the markets it is a symbol like any other.
-/

namespace OrderDesk

/-! ## What the venue wrote -/

namespace Payload

/-- A rate that an entry states under a name. -/
def rateAt? (p : Payload) (name : String) : Option Float := (p.numberAt? name).toOption.join

/-- The rates of an entry about fees, when it states both. -/
def rates? : Payload → Option (FeeRates Float)
  | object fields => do
    let maker ← (object fields).rateAt? "maker"
    let taker ← (object fields).rateAt? "taker"
    return ⟨maker, taker⟩
  | _ => none

/-- An entry about fees **can be read**: a rate that it states is not beyond the doubles. -/
def IsLegible (p : Payload) : Prop :=
  ∀ fields, p = object fields →
    ∀ name ∈ ["maker", "taker"], ∃ rate, p.numberAt? name = .ok rate

end Payload

namespace Market

/-- A market states both rates. -/
def States (m : Market) (rates : FeeRates Float) : Prop :=
  m.maker = some rates.maker ∧ m.taker = some rates.taker

/-- A market leaves a rate out. -/
def IsIncomplete (m : Market) : Prop := ∀ rates, ¬ m.States rates

/-- The rates of a market as an entry. -/
def fees? (m : Market) : Option (FeeRates Float) :=
  m.rates?.map fun (maker, taker) => ⟨maker, taker⟩

theorem fees?_eq_some_iff {m : Market} {rates : FeeRates Float} :
    m.fees? = some rates ↔ m.States rates := by
  unfold fees? rates? States
  cases rates
  cases m.maker <;> cases m.taker <;> simp

theorem fees?_eq_none_iff {m : Market} : m.fees? = none ↔ m.IsIncomplete := by
  rw [Option.eq_none_iff_forall_ne_some]
  exact forall_congr' fun rates => not_congr fees?_eq_some_iff

end Market

namespace Venue

/-- The entries of the venue's answer about fees that state both rates, in its order. -/
def completeFees (v : Venue) : List (String × FeeRates Float) :=
  v.fees.filterMap fun (symbol, entry) => entry.rates?.map (symbol, ·)

/-- **The question about fees is answered**: the method is in order, and every entry of the answer
can be read. -/
structure AnswersFees (v : Venue) : Prop where
  up : v.outage? .fetchTradingFees = none
  legible : ∀ entry ∈ v.fees, entry.2.IsLegible

/-- There are **no fees to be had**: the question fails, or no entry is complete. -/
def IsSilentOnFees (v : Venue) : Prop := v.AnswersFees → v.completeFees = []

end Venue

/-- A table entry can be read when both of its rates can. -/
theorem Payload.isLegible_object_iff {fields : List (String × Payload)} :
    (Payload.object fields).IsLegible
      ↔ ∃ maker taker, (Payload.object fields).numberAt? "maker" = .ok maker
          ∧ (Payload.object fields).numberAt? "taker" = .ok taker := by
  constructor
  · intro legible
    obtain ⟨maker, readMaker⟩ := legible fields rfl "maker" (by simp)
    obtain ⟨taker, readTaker⟩ := legible fields rfl "taker" (by simp)
    exact ⟨maker, taker, readMaker, readTaker⟩
  · rintro ⟨maker, taker, readMaker, readTaker⟩ _ - name stated
    obtain rfl | rfl : name = "maker" ∨ name = "taker" := by simpa using stated
    · exact ⟨maker, readMaker⟩
    · exact ⟨taker, readTaker⟩

/-- The rates of a table entry that can be read. -/
theorem Payload.rates?_object {fields : List (String × Payload)} {maker taker : Option Float}
    (readMaker : (object fields).numberAt? "maker" = .ok maker)
    (readTaker : (object fields).numberAt? "taker" = .ok taker) :
    (object fields).rates? = maker.bind fun m => taker.map fun t => ⟨m, t⟩ := by
  simp only [rates?, rateAt?, readMaker, readTaker]
  cases maker <;> cases taker <;> rfl

/-- What is no table can be read: it states nothing. -/
theorem Payload.isLegible_of_ne_object {p : Payload} (plain : ∀ fields, p ≠ object fields) :
    p.IsLegible := fun fields isObject => absurd isObject (plain fields)

namespace Line

/-- **The fees are read** as the complete entries of an answer all of whose entries can be
read. -/
theorem readFees_eq_ok_iff {fees : List (String × Payload)}
    {entries : List (String × FeeRates Float)} :
    readFees fees = .ok entries
      ↔ (∀ entry ∈ fees, entry.2.IsLegible)
        ∧ entries = fees.filterMap fun (symbol, entry) => entry.rates?.map (symbol, ·) := by
  induction fees generalizing entries with
  | nil => simp [readFees, eq_comm]
  | cons entry rest ih =>
    obtain ⟨symbol, p⟩ := entry
    rw [List.forall_mem_cons, List.filterMap_cons]
    cases p with
    | object fields =>
      rw [Payload.isLegible_object_iff]
      constructor
      · intro read
        obtain ⟨maker, readMaker, read⟩ := Run.ok_of_bind read
        obtain ⟨taker, readTaker, read⟩ := Run.ok_of_bind read
        obtain ⟨others, readOthers, read⟩ := Run.ok_of_bind read
        obtain ⟨legible, rfl⟩ := ih.mp readOthers
        refine ⟨⟨⟨maker, taker, readMaker, readTaker⟩, legible⟩, ?_⟩
        simp only [Payload.rates?_object readMaker readTaker]
        cases maker <;> cases taker <;> cases read <;> rfl
      · rintro ⟨⟨⟨maker, taker, readMaker, readTaker⟩, legible⟩, rfl⟩
        refine Run.bind_of_ok readMaker (Run.bind_of_ok readTaker
          (Run.bind_of_ok (ih.mpr ⟨legible, rfl⟩) ?_))
        simp only [Payload.rates?_object readMaker readTaker]
        cases maker <;> cases taker <;> rfl
    | _ =>
      rw [and_iff_right (Payload.isLegible_of_ne_object (by rintro _ ⟨⟩))]
      exact ih

end Line

namespace Venue

/-- **The fees of the account** are the complete entries of the venue's answer. -/
theorem accountFees_eq_ok_iff {v : Venue} {fees : List (String × FeeRates Float)} :
    v.accountFees = .ok fees ↔ v.AnswersFees ∧ fees = v.completeFees := by
  unfold accountFees tells
  cases up : v.outage? .fetchTradingFees with
  | some reason =>
    refine ⟨nofun, fun ⟨answers, _⟩ => ?_⟩
    cases up.symm.trans answers.up
  | none =>
    show Line.readFees v.fees = .ok fees ↔ _
    rw [Line.readFees_eq_ok_iff]
    exact and_congr_left fun _ => ⟨fun legible => ⟨up, legible⟩, AnswersFees.legible⟩

end Venue

/-! ## Where the rates come from -/

namespace Session

/-- The markets that rates are looked for among: those that are loaded, else those that the venue
lists, and none when it cannot tell. -/
def marketsAtHand (s : Session) : Market.Listing :=
  if s.markets.isEmpty then s.venue.listing.toOption.getD [] else s.markets

end Session

namespace Fees

/-- **The entry that the rates come from**, with its source, whatever the venue answers. -/
inductive Sourced (s : Session) (symbol : Option String) (fallback : FeeRates Float) :
    FeeSource → FeeRates Float → Prop
  /-- The fees of the account have an entry for the symbol. -/
  | ofSymbol {name : String} {rates : FeeRates Float} (answers : s.venue.AnswersFees)
      (asked : symbol = some name) (named : name ≠ "")
      (entry : s.venue.completeFees.lookup name = some rates) :
      Sourced s symbol fallback .account rates
  /-- They have none, and their first entry stands for all of them. -/
  | ofFirst {key : String} {rates : FeeRates Float} {others : List (String × FeeRates Float)}
      (answers : s.venue.AnswersFees)
      (unlisted : ∀ name, symbol = some name → name ≠ "" →
        s.venue.completeFees.lookup name = none)
      (first : s.venue.completeFees = (key, rates) :: others) :
      Sourced s symbol fallback .account rates
  /-- There are no fees, and the symbol's market states both rates. -/
  | ofMarket {name : String} {market : Market} {rates : FeeRates Float}
      (silent : s.venue.IsSilentOnFees) (asked : symbol = some name)
      (listed : s.marketsAtHand.lookup name = some market) (states : market.States rates) :
      Sourced s symbol fallback .market rates
  /-- There are no fees, the symbol's market leaves a rate out if there is one, and so does every
  market before the first that states both. -/
  | ofFirstMarket {before after : Market.Listing} {key : String} {market : Market}
      {rates : FeeRates Float} (silent : s.venue.IsSilentOnFees)
      (own : ∀ name market, symbol = some name → s.marketsAtHand.lookup name = some market →
        market.IsIncomplete)
      (order : s.marketsAtHand = before ++ (key, market) :: after)
      (skipped : ∀ entry ∈ before, entry.2.IsIncomplete) (states : market.States rates) :
      Sourced s symbol fallback .market rates
  /-- There are no fees, and every market leaves a rate out. -/
  | ofTables (silent : s.venue.IsSilentOnFees)
      (incomplete : ∀ entry ∈ s.marketsAtHand, entry.2.IsIncomplete) :
      Sourced s symbol fallback .published (Venue.publishedFees s.slug fallback)

/-! ### Looking among the fees -/

section

variable {fees : List (String × FeeRates Float)} {markets : Market.Listing}
  {symbol : Option String} {rates : FeeRates Float}

/-- What is looked up under the symbol, unless it is empty. -/
theorem named_eq_some_iff {α : Type} {look : String → Option α} {a : α} :
    ((symbol.filter (!·.isEmpty)).bind look) = some a
      ↔ ∃ name, symbol = some name ∧ name ≠ "" ∧ look name = some a := by
  simp [Option.bind_eq_some_iff, Option.filter_eq_some_iff, and_assoc]

theorem named_eq_none_iff {α : Type} {look : String → Option α} :
    ((symbol.filter (!·.isEmpty)).bind look) = none
      ↔ ∀ name, symbol = some name → name ≠ "" → look name = none := by
  simp [Option.bind_eq_none_iff, Option.filter_eq_some_iff, and_imp]

/-- **The symbol's entry, else the first one.** -/
theorem accountEntry?_eq_some_iff :
    accountEntry? fees symbol = some rates
      ↔ (∃ name, symbol = some name ∧ name ≠ "" ∧ fees.lookup name = some rates)
        ∨ ((∀ name, symbol = some name → name ≠ "" → fees.lookup name = none)
          ∧ ∃ key others, fees = (key, rates) :: others) := by
  have first : fees.head?.map Prod.snd = some rates
      ↔ ∃ key others, fees = (key, rates) :: others := by
    rcases fees with _ | ⟨⟨key, r⟩, others⟩ <;> simp
  unfold accountEntry?
  rw [← named_eq_some_iff, ← named_eq_none_iff, ← first, ← Option.or_eq_some_iff,
    Option.or_eq_orElse]
  rfl

/-- There is an entry unless there are no fees. -/
theorem accountEntry?_eq_none_iff : accountEntry? fees symbol = none ↔ fees = [] := by
  unfold accountEntry?
  dsimp only
  rw [Option.orElse_eq_orElse, ← Option.or_eq_orElse, Option.or_eq_none_iff, named_eq_none_iff,
    Option.map_eq_none_iff, List.head?_eq_none_iff]
  refine ⟨And.right, fun isEmpty => ⟨?_, isEmpty⟩⟩
  rintro name - -
  rw [isEmpty]
  rfl

/-- The symbol's market is looked at first, then all of them in their order. -/
theorem marketEntry?_eq (markets : Market.Listing) (symbol : Option String) :
    marketEntry? markets symbol
      = ((symbol.bind fun name => markets.lookup name).bind Market.fees?).or
          (markets.findSome? fun entry => entry.2.fees?) := by
  show List.findSome? Market.fees? _ = _
  rw [List.findSome?_append, List.findSome?_map]
  cases symbol.bind fun name => markets.lookup name with
  | none => rfl
  | some market => exact congrArg (Option.or · _) (by cases h : market.fees? <;> simp [h])

/-- **The symbol's market when it states both rates, else the first market that does.** -/
theorem marketEntry?_eq_some_iff :
    marketEntry? markets symbol = some rates
      ↔ (∃ name market, symbol = some name ∧ markets.lookup name = some market
          ∧ market.States rates)
        ∨ ((∀ name market, symbol = some name → markets.lookup name = some market →
              market.IsIncomplete)
          ∧ ∃ before key market after, markets = before ++ (key, market) :: after
              ∧ (∀ entry ∈ before, entry.2.IsIncomplete) ∧ market.States rates) := by
  have first : markets.findSome? (fun entry => entry.2.fees?) = some rates
      ↔ ∃ before key market after, markets = before ++ (key, market) :: after
          ∧ (∀ entry ∈ before, entry.2.IsIncomplete) ∧ market.States rates := by
    simp only [List.findSome?_eq_some_iff, Prod.exists, Market.fees?_eq_some_iff,
      Market.fees?_eq_none_iff]
    constructor
    · rintro ⟨before, key, market, after, order, states, skipped⟩
      exact ⟨before, key, market, after, order, skipped, states⟩
    · rintro ⟨before, key, market, after, order, skipped, states⟩
      exact ⟨before, key, market, after, order, states, skipped⟩
  rw [marketEntry?_eq, Option.or_eq_some_iff, first]
  simp only [Option.bind_eq_some_iff, Option.bind_eq_none_iff, Market.fees?_eq_some_iff,
    Market.fees?_eq_none_iff]
  grind

/-- No rates are found when no market states both. -/
theorem marketEntry?_eq_none_iff :
    marketEntry? markets symbol = none ↔ ∀ entry ∈ markets, entry.2.IsIncomplete := by
  rw [marketEntry?_eq, Option.or_eq_none_iff, List.findSome?_eq_none_iff]
  simp only [Option.bind_eq_some_iff, Option.bind_eq_none_iff, Market.fees?_eq_none_iff]
  -- the symbol's market is one of them
  refine and_iff_right_of_imp fun incomplete market ⟨name, _, listed⟩ => ?_
  obtain ⟨before, after, split, -⟩ := List.lookup_eq_some_iff.mp listed
  exact incomplete (name, market) (by simp [split])

end

/-! ### The entry is found -/

variable {s : Session} {symbol : Option String} {fallback : FeeRates Float} {source : FeeSource}
  {rates : FeeRates Float}

/-- What is found among the fees of the account is found among the complete entries of the
venue's answer. -/
theorem ofAccount_eq_some_iff :
    (s.venue.accountFees.toOption.bind fun fees => accountEntry? fees symbol) = some rates
      ↔ s.venue.AnswersFees ∧ accountEntry? s.venue.completeFees symbol = some rates := by
  constructor
  · intro found
    cases answered : s.venue.accountFees with
    | error e =>
      rw [answered] at found
      cases found
    | ok fees =>
      obtain ⟨answers, rfl⟩ := Venue.accountFees_eq_ok_iff.mp answered
      rw [answered] at found
      exact ⟨answers, found⟩
  · rintro ⟨answers, found⟩
    rw [Venue.accountFees_eq_ok_iff.mpr ⟨answers, rfl⟩]
    exact found

theorem ofAccount_eq_none_iff :
    (s.venue.accountFees.toOption.bind fun fees => accountEntry? fees symbol) = none
      ↔ s.venue.IsSilentOnFees := by
  have silent : s.venue.IsSilentOnFees
      ↔ (s.venue.AnswersFees → accountEntry? s.venue.completeFees symbol = none) := by
    rw [accountEntry?_eq_none_iff]
    rfl
  rw [silent, Option.eq_none_iff_forall_ne_some, Option.eq_none_iff_forall_ne_some]
  simp only [ne_eq, ofAccount_eq_some_iff, not_and]
  exact forall_comm

/-- What is believed when the fees have an entry. -/
theorem believed_of_answers (answers : s.venue.AnswersFees)
    (found : accountEntry? s.venue.completeFees symbol = some rates) :
    believed s.slug s.venue s.markets symbol fallback = (rates, .account) := by
  unfold believed
  rw [ofAccount_eq_some_iff.mpr ⟨answers, found⟩]

/-- What is believed when there are no fees. -/
theorem believed_of_silent (silent : s.venue.IsSilentOnFees) :
    believed s.slug s.venue s.markets symbol fallback
      = match marketEntry? s.marketsAtHand symbol with
        | some rates => (rates, .market)
        | none => (Venue.publishedFees s.slug fallback, .published) := by
  unfold believed
  rw [ofAccount_eq_none_iff.mpr silent]
  rfl

/-- What is believed comes from an entry. -/
theorem sourced_believed (s : Session) (symbol : Option String) (fallback : FeeRates Float) :
    Sourced s symbol fallback (believed s.slug s.venue s.markets symbol fallback).2
      (believed s.slug s.venue s.markets symbol fallback).1 := by
  cases account : s.venue.accountFees.toOption.bind fun fees => accountEntry? fees symbol with
  | some rates =>
    obtain ⟨answers, found⟩ := ofAccount_eq_some_iff.mp account
    rw [believed_of_answers answers found]
    rcases accountEntry?_eq_some_iff.mp found with
      ⟨name, asked, named, entry⟩ | ⟨unlisted, key, others, first⟩
    · exact .ofSymbol answers asked named entry
    · exact .ofFirst answers unlisted first
  | none =>
    have silent := ofAccount_eq_none_iff.mp account
    rw [believed_of_silent silent]
    cases found : marketEntry? s.marketsAtHand symbol with
    | some rates =>
      rcases marketEntry?_eq_some_iff.mp found with ⟨name, market, asked, listed, states⟩ |
        ⟨own, before, key, market, after, order, skipped, states⟩
      · exact .ofMarket silent asked listed states
      · exact .ofFirstMarket silent own order skipped states
    | none => exact .ofTables silent (marketEntry?_eq_none_iff.mp found)

/-- **The description leaves no choice**: an entry that meets it is the one that is believed. -/
theorem Sourced.eq_believed (sourced : Sourced s symbol fallback source rates) :
    believed s.slug s.venue s.markets symbol fallback = (rates, source) := by
  cases sourced with
  | ofSymbol answers asked named entry =>
    exact believed_of_answers answers
      (accountEntry?_eq_some_iff.mpr (.inl ⟨_, asked, named, entry⟩))
  | ofFirst answers unlisted first =>
    exact believed_of_answers answers
      (accountEntry?_eq_some_iff.mpr (.inr ⟨unlisted, _, _, first⟩))
  | ofMarket silent asked listed states =>
    rw [believed_of_silent silent,
      marketEntry?_eq_some_iff.mpr (.inl ⟨_, _, asked, listed, states⟩)]
  | ofFirstMarket silent own order skipped states =>
    rw [believed_of_silent silent,
      marketEntry?_eq_some_iff.mpr (.inr ⟨own, _, _, _, _, order, skipped, states⟩)]
  | ofTables silent incomplete =>
    rw [believed_of_silent silent, marketEntry?_eq_none_iff.mpr incomplete]

/-! ## What is asked -/

end Fees

namespace Session

theorem journal_afterFees (s : Session) :
    s.afterFees.journal = s.journal ++ [⟨s.slug, .fetchTradingFees⟩] := by
  unfold afterFees
  cases s.venue.accountFees <;> rfl

theorem journal_afterMarkets (s : Session) :
    s.afterMarkets.journal
      = s.journal ++ if s.markets.isEmpty then [⟨s.slug, .loadMarkets⟩] else [] := by
  unfold afterMarkets
  split
  · cases s.venue.listing <;> rfl
  · exact (List.append_nil _).symm

end Session

namespace Fees

variable {s : Session} {symbol : Option String} {fallback : FeeRates Float} {source : FeeSource}
  {rates : FeeRates Float}

/-- **What is left of a question about rates**: the fees were asked for, and markets were needed
unless the fees had an entry. -/
theorem resolve_leaves (type : OrderType) (symbol : Option String) (fallback : FeeRates Float)
    (s : Session) :
    (resolve type symbol fallback s).2
      = if (believed s.slug s.venue s.markets symbol fallback).2 = .account then s.afterFees
        else s.afterFees.afterMarkets := by
  unfold resolve
  rw [Run.bindM_apply, fromAccount_eq]
  cases account : s.venue.accountFees.toOption.bind fun fees => accountEntry? fees symbol with
  | some rates =>
    obtain ⟨answers, found⟩ := ofAccount_eq_some_iff.mp account
    rw [believed_of_answers answers found]
    rfl
  | none =>
    rw [believed_of_silent (ofAccount_eq_none_iff.mp account)]
    dsimp only
    rw [Run.bindM_apply, ensureMarkets_eq, Run.bindM_apply,
      show (get : StateM Session Session) s.afterFees.afterMarkets
        = (s.afterFees.afterMarkets, s.afterFees.afterMarkets) from rfl]
    dsimp only
    cases marketEntry? s.afterFees.afterMarkets.markets symbol <;>
      cases marketEntry? s.marketsAtHand symbol <;> rfl

/-- **The rates of an order are those of one entry**, whatever the venue answers, and the rate is
the maker's for a limit order and the taker's for any other. The markets are loaded only when the
fees have no entry and no market is loaded, and then once. -/
theorem rates_come_from_one_entry (type : OrderType) (symbol : Option String)
    (fallback : FeeRates Float) (s : Session) :
    ∃ source rates, Sourced s symbol fallback source rates
      ∧ (resolve type symbol fallback s).1
          = { rate := if type = .limit then rates.maker else rates.taker
              maker := rates.maker
              taker := rates.taker
              source := source }
      ∧ (resolve type symbol fallback s).2.journal
          = s.journal ++ ⟨s.slug, .fetchTradingFees⟩ ::
            if source ≠ .account ∧ s.markets.isEmpty then [⟨s.slug, .loadMarkets⟩] else [] := by
  refine ⟨_, _, sourced_believed s symbol fallback, ?_, ?_⟩
  · rw [resolve_apply]
    cases type <;> rfl
  · rw [resolve_leaves]
    split
    case isTrue account =>
      rw [Session.journal_afterFees, if_neg (fun asked => asked.1 account)]
    case isFalse silent =>
      have still := s.still_afterFees
      rw [Session.journal_afterMarkets, Session.journal_afterFees, still.slug, still.markets,
        List.append_assoc]
      simp [silent]

end Fees

/-- A conversation with a venue that has a fee for a pair and after it one for the empty symbol. -/
def Session.nameless : Session where
  slug := "binance"
  venue :=
    { fees :=
        [("ETH/USDT", .object [("maker", .real 0.002), ("taker", .real 0.003)]),
         ("", .object [("maker", .real 0.004), ("taker", .real 0.005)])] }
  markets := []
  journal := []
  notices := []

namespace Fees

/-- **An entry under the empty symbol is never found by it**: the first entry stands for it. -/
theorem not_every_symbol_is_named :
    ¬ ∀ (s : Session) (type : OrderType) (name : String) (fallback rates : FeeRates Float),
        s.venue.AnswersFees → s.venue.completeFees.lookup name = some rates →
          (resolve type (some name) fallback s).1 = rates.rateFor type .account := by
  intro named
  have answers : Session.nameless.venue.AnswersFees := (Venue.accountFees_eq_ok_iff.mp rfl).1
  have same := congrArg FeeRate.maker
    (named Session.nameless .market "" Venue.assumedFees ⟨0.004, 0.005⟩ answers rfl)
  revert same
  decide +kernel

end Fees

end OrderDesk
