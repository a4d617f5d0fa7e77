import OrderDesk.Proofs.Previews
import OrderDesk.Proofs.Recording
import OrderDesk.Proofs.Telling
import OrderDesk.Proofs.Validating

/-!
# Where a preview and a placement agree

A preview shows what a venue lets one expect of an order, and a placement records it. Each of
the two asks for itself, and each has a rule of its own for the price at which the order is
reckoned. The rule of a preview goes by the type: a market order is reckoned at the last price,
whatever else it states. The rule of a placement goes by what is stated: the price that the
order was measured at, and the last price only when there is none. A market order that states
a price is where they part, and a price for its protection is enough for that.

Everything else is the same. A preview may know other markets than a placement, as it does not
load them again; but what is not loaded is loaded when it is needed, and the rate does not
depend on it (`Desk.estimate_of_appraise`).
-/

namespace OrderDesk

/-- The slippage that a venue lets one expect of a market order, and of no other. -/
def Venue.slippage (v : Venue) (type : OrderType) (side : Side) (quantity : Float) :
    Except Fault (Option Float) :=
  if type == .market then v.offers.map fun book => some (book.slippage side quantity)
  else .ok none

namespace Floor

variable {ref : Reference} {ctx : Context} {type : OrderType} {side : Side} {r : OrderRequest}
  {v : ValidatedOrder} {f g : Floor} {s t : Session}

/-! ## The estimate of a placement -/

theorem slippageOf_apply (ref : Reference) (ctx : Context) (type : OrderType) (side : Side)
    (quantity : Float) (s : Session) :
    (slippageOf ref ctx type side quantity s).1 = s.venue.slippage type side quantity
      ∧ s.Still (slippageOf ref ctx type side quantity s).2 := by
  unfold slippageOf Venue.slippage
  by_cases market : (type == .market) = true
  · rw [if_pos market, if_pos market]
    show ((slippageOnLine ref ctx side quantity >>= fun x => pure (some x) : Line _) s).1 = _
      ∧ s.Still ((slippageOnLine ref ctx side quantity >>= fun x => pure (some x) : Line _) s).2
    unfold slippageOnLine
    rw [Run.bind_apply, Run.bind_apply, Line.fetchOrderBook_apply]
    cases s.venue.offers <;> exact ⟨rfl, s.still_record _⟩
  · rw [if_neg market, if_neg market]
    exact ⟨rfl, refl_of _ s⟩

/-- The price that a validated order is reckoned at: its own, else the last one. -/
theorem priceOnLine_apply (ctx : Context) (v : ValidatedOrder) {s : Session} {quote : Quote}
    (quoted : s.venue.quote ctx.symbol = .ok quote) :
    (priceOnLine ctx v s).1 = .ok (v.referencePrice.getD quote.last)
      ∧ s.Still (priceOnLine ctx v s).2 := by
  unfold priceOnLine
  cases v.referencePrice with
  | some p => exact ⟨rfl, refl_of _ s⟩
  | none =>
    show ((Line.fetchTicker ctx.symbol >>= fun q => pure q.last : Line _) s).1 = _
      ∧ s.Still ((Line.fetchTicker ctx.symbol >>= fun q => pure q.last : Line _) s).2
    rw [Run.bind_apply, Line.fetchTicker_apply, quoted]
    exact ⟨rfl, s.still_record _⟩

/-- **What is expected of an order**, where prices and offers are told. -/
theorem estimateOnLine_apply {quote : Quote} {slippage : Option Float}
    (quoted : s.venue.quote ctx.symbol = .ok quote)
    (slips : s.venue.slippage type side v.quantity = .ok slippage) :
    (estimateOnLine ref ctx type side v s).1
      = .ok (Fees.charge type (v.quantity * v.referencePrice.getD quote.last) ctx.quote.symbol
          (Fees.believed s.slug s.venue s.markets (some ctx.symbol) (fallbackFees ref)),
        slippage) := by
  obtain ⟨found, still⟩ := slippageOf_apply ref ctx type side v.quantity s
  rw [estimateOnLine_eq, Run.bind_apply]
  rcases ran : slippageOf ref ctx type side v.quantity s with ⟨_, s₁⟩
  rw [ran] at found still
  obtain rfl := found.trans slips
  rw [← still.venue] at quoted
  obtain ⟨priced, still'⟩ := priceOnLine_apply ctx v quoted
  dsimp only
  rw [Run.bind_apply]
  rcases ran' : priceOnLine ctx v s₁ with ⟨_, s₂⟩
  rw [ran'] at priced still'
  obtain rfl := priced
  dsimp only
  unfold feeOnLine
  rw [Run.lift_bind]
  have all := trans_of _ still still'
  show Except.ok ((Fees.estimate _ _ _ _ _ s₂).1, slippage) = _
  rw [Fees.estimate_apply, all.slug, all.venue, all.markets]

/-- **The estimate of a placement** is what is expected of the order. -/
theorem estimate_apply {quote : Quote} {slippage : Option Float}
    (quoted : (f.session ctx.slug ctx.user).venue.quote ctx.symbol = .ok quote)
    (slips : (f.session ctx.slug ctx.user).venue.slippage type side v.quantity = .ok slippage) :
    (estimate ref ctx type side v f).1
      = (some (Fees.charge type (v.quantity * v.referencePrice.getD quote.last) ctx.quote.symbol
          (Fees.believed (f.session ctx.slug ctx.user).slug (f.session ctx.slug ctx.user).venue
            (f.session ctx.slug ctx.user).markets (some ctx.symbol) (fallbackFees ref))),
        slippage) := by
  have said : (trySpeak ctx (estimateOnLine ref ctx type side v) f).1 = _ :=
    estimateOnLine_apply quoted slips
  unfold estimate
  rw [Run.bindM_apply, said]
  rfl

/-! ## The appraisal of a preview -/

/-- **What a preview appraises**, where prices and offers are told. -/
theorem of_appraise {a : Appraisal} (h : Preview.appraise ref ctx r s = (.ok a, t)) :
    ∃ quote, s.venue.quote ctx.symbol = .ok quote ∧ a.marketPrice = quote.last
      ∧ s.venue.slippage r.type r.side r.quantity = .ok a.slippage
      ∧ a.fee = Fees.charge (Preview.chargedType r.type)
          (r.quantity * Preview.priceOf r quote.last) ctx.quote.symbol
          (Fees.believed s.slug s.venue s.markets (some ctx.symbol) (fallbackFees ref)) := by
  have parts : Preview.appraise ref ctx r = Line.fetchTicker ctx.symbol >>= fun quote =>
      slippageOf ref ctx r.type r.side r.quantity >>= fun slippage => do
        let fee ← (Fees.estimate (Preview.chargedType r.type)
          (r.quantity * Preview.priceOf r quote.last) ctx.quote.symbol (some ctx.symbol)
          (fallbackFees ref) : StateM Session FeeEstimate)
        return ⟨quote.last, r.quantity * Preview.priceOf r quote.last, slippage, fee⟩ := by
    unfold Preview.appraise slippageOf
    cases r.type <;> rfl
  rw [parts] at h
  obtain ⟨quote, s₁, asked, h⟩ := Run.of_bind_ok h
  rw [Line.fetchTicker_apply] at asked
  obtain ⟨quoted, rfl⟩ := Prod.mk.inj asked
  obtain ⟨slippage, s₂, slipped, h⟩ := Run.of_bind_ok h
  obtain ⟨found, still⟩ := slippageOf_apply ref ctx r.type r.side r.quantity
    (s.record (.fetchTicker ctx.symbol))
  rw [slipped] at found still
  rw [Run.lift_bind] at h
  cases h
  refine ⟨quote, quoted, rfl, found.symm, ?_⟩
  dsimp only
  rw [Fees.estimate_apply, still.slug, still.venue, still.markets]
  rfl

/-- **A preview that is shown** was appraised over the connection of its context. -/
theorem of_previewFor {user : String} {isManual : Bool} {shown : OrderPreview}
    (h : previewFor ref r user isManual f = (.ok shown, g)) :
    ∃ ctx f₁ t, context ref r user f = (.ok ctx, f₁) ∧ shown.symbol = ctx.symbol
      ∧ Preview.appraise ref ctx r (f₁.session ctx.slug ctx.user) = (.ok shown.appraisal, t) := by
  obtain ⟨ctx, f₁, found, h⟩ := Run.of_bind_ok h
  obtain ⟨appraisal, f₂, spoken, h⟩ := Run.of_bind_ok h
  obtain ⟨available, f₃, -, h⟩ := Run.of_bind_ok h
  cases h
  unfold speak at spoken
  rw [runLine_apply] at spoken
  refine ⟨ctx, f₁, _, found, rfl, Prod.ext ?_ rfl⟩
  have ended := congrArg Prod.fst spoken
  dsimp only at ended
  cases appraised : (Preview.appraise ref ctx r (f₁.session ctx.slug ctx.user)).1 with
  | error e =>
    rw [appraised] at ended
    cases ended
  | ok a =>
    rw [appraised] at ended
    cases ended
    rfl

/-! ## The context of both -/

/-- **What a context is made of.** -/
theorem parts_of_context {user : String} (h : context ref r user f = (.ok ctx, g)) :
    ∃ base quote credential symbol, ref.coinsOf r = .ok (base, quote)
      ∧ Pair.format (base.symbol ++ "/" ++ quote.symbol) = .ok symbol
      ∧ (resolve r.venue user (some credential) f).2 = g
      ∧ ctx = ⟨user, base, quote, r.venue, symbol⟩ := by
  have named := of_context h
  obtain ⟨⟨base, quote⟩, f₁, coins, h⟩ := Run.of_bind_ok h
  obtain ⟨connection, f₂, connected, h⟩ := Run.of_bind_ok h
  obtain ⟨symbol, f₃, formatted, h⟩ := Run.of_bind_ok h
  obtain ⟨credential, f₄, known, resolved⟩ := Run.of_bind_ok connected
  cases h
  obtain rfl : f = f₁ := congrArg Prod.snd coins
  obtain rfl : f = f₄ := congrArg Prod.snd known
  obtain rfl : f₂ = g := congrArg Prod.snd formatted
  refine ⟨base, quote, credential, symbol, congrArg Prod.fst coins, ?_, congrArg Prod.snd resolved,
    ?_⟩
  · have text : (Pair.format (base.symbol ++ "/" ++ quote.symbol)).mapError Failure.fault
        = .ok symbol := congrArg Prod.fst formatted
    cases read : Pair.format (base.symbol ++ "/" ++ quote.symbol) <;> rw [read] at text <;>
      cases text
    rfl
  · rw [show connection.slug = r.venue from named.1]

/-- **Two contexts of a request are the same**, whatever the floors are. -/
theorem context_unique {user : String} {ctx' : Context} {f' g' : Floor}
    (h : context ref r user f = (.ok ctx, g)) (k : context ref r user f' = (.ok ctx', g')) :
    ctx = ctx' := by
  obtain ⟨base, quote, -, symbol, coins, formatted, -, rfl⟩ := parts_of_context h
  obtain ⟨base', quote', -, symbol', coins', formatted', -, rfl⟩ := parts_of_context k
  cases coins.symm.trans coins'
  cases formatted.symm.trans formatted'
  rfl

/-- **A connection that is made has no markets**, as none had been loaded. -/
theorem still_resolve (slug user : String) (credential : Option Credential) (f : Floor) :
    (f.session slug user).Still ((resolve slug user credential f).2.session slug user) := by
  have ends := resolves slug user credential f
  have reads := ends.reads
  generalize (resolve slug user credential f).1 = r at ends
  generalize (resolve slug user credential f).2 = g at ends reads
  refine ⟨rfl, reads.script slug, ?_⟩
  cases ends with
  | made fresh =>
    have last : ((f.introduced slug credential).keep slug user).2.connection? slug user
        = some ⟨slug, user, f.made, []⟩ := by
      unfold connection? at fresh ⊢
      show (f.connections ++ [_]).find? _ = _
      rw [List.find?_append, fresh]
      simp [introduced]
    unfold session
    rw [last, fresh]
    rfl
  | _ => rfl

/-- **Finding the context leaves the session as it is.** -/
theorem still_context {user : String} (h : context ref r user f = (.ok ctx, g)) :
    (f.session r.venue user).Still (g.session ctx.slug ctx.user) := by
  obtain ⟨base, quote, credential, symbol, -, -, rfl, rfl⟩ := parts_of_context h
  exact still_resolve r.venue user (some credential) f

/-! ## Loaded markets -/

/-- **Once the markets are loaded**, the session has those that the venue lists. -/
theorem session_of_fetchMarkets {markets : List Market} (connects : f.Connects ctx.slug ctx.user)
    (h : speak ctx Line.fetchMarkets f = (.ok markets, g)) :
    ∃ listing, (f.script ctx.slug).listing = .ok listing ∧ markets = listing.map Prod.snd
      ∧ (g.session ctx.slug ctx.user).slug = ctx.slug
      ∧ (g.session ctx.slug ctx.user).venue = f.script ctx.slug
      ∧ (g.session ctx.slug ctx.user).markets = listing := by
  unfold speak at h
  rw [runLine_apply, Line.fetchMarkets_apply] at h
  cases listed : (f.session ctx.slug ctx.user).venue.listing with
  | error e =>
    rw [listed] at h
    cases h
  | ok listing =>
    rw [listed] at h
    cases h
    rw [session_absorb connects rfl]
    exact ⟨listing, listed, rfl, rfl, rfl, rfl⟩

end Floor

/-! ## Amounts and prices -/

namespace OrderRequest

/-- **A request is on the grid** of a market: flooring leaves its amount as it is, and its limit,
and for a pair the price at which profit is taken. -/
structure OnGrid (r : OrderRequest) (m : Market) : Prop where
  amount : Number.floorToStep r.quantity m.amountStep = .ok r.quantity
  limit : ∀ x, r.price = some x → Number.floorToStep x m.priceStep = .ok x
  target : r.type = .oco → ∀ x, r.takeProfitPrice = some x →
    Number.floorToStep x m.priceStep = .ok x

/-- The first price that a request states. -/
def anyPrice (r : OrderRequest) : Option Float := r.price <|> r.stopPrice <|> r.takeProfitPrice

/-- **The price that a placement is reckoned at**: the profit target for a pair, and otherwise
the first price that the request states, else the last one. -/
def reckonedAt (r : OrderRequest) (last : Float) : Float :=
  match r.type with
  | .oco => r.takeProfitPrice.getD last
  | _ => r.anyPrice.getD last

variable {r : OrderRequest} {symbol : String} {markets : List Market} {v : ValidatedOrder}

/-- **A preview reckons at the same price**, unless it is of a market order that states one. -/
theorem reckonedAt_eq_priceOf (positive : r.IsPositive)
    (plain : r.type = .market → r.anyPrice = none) (last : Float) :
    r.reckonedAt last = Preview.priceOf r last := by
  unfold reckonedAt Preview.priceOf
  rw [stated_of_pos positive.price, stated_of_pos positive.stopPrice,
    stated_of_pos positive.takeProfitPrice]
  cases type : r.type with
  | market =>
    dsimp only
    rw [plain type]
    rfl
  | _ => rfl

/-- **What is on the grid** of its market is validated as it is. -/
theorem eq_of_validate (positive : r.IsPositive) (h : r.validate symbol markets = .ok v)
    (amount : Number.floorToStep r.quantity v.market.amountStep = .ok r.quantity)
    (limit : ∀ x, r.price = some x → Number.floorToStep x v.market.priceStep = .ok x) :
    v.quantity = r.quantity ∧ v.price = r.price := by
  obtain ⟨m, -, h⟩ := Run.ok_of_bind h
  obtain ⟨_, -, h⟩ := Run.ok_of_bind h
  obtain ⟨quantity, measured, h⟩ := Run.ok_of_bind h
  obtain ⟨price, priced, h⟩ := Run.ok_of_bind h
  obtain ⟨_, -, h⟩ := Run.ok_of_bind h
  cases h
  have floored := (Market.fits_of_measured positive.quantity measured).1
  refine ⟨Except.ok.inj (floored.symm.trans amount), ?_⟩
  rcases of_checkedPrice priced with ⟨unasked, rfl⟩ | ⟨p, x, asked, checked, rfl⟩
  · exact unasked.symm
  · have floored := (Market.fits_of_checkPrice (positive.price p asked) checked).1
    rw [asked, Except.ok.inj (floored.symm.trans (limit p asked))]

end OrderRequest

/-! ## What was shown, and what is recorded -/

/-- **An appraisal foretells a row**, by the same rate. -/
structure Appraisal.Foretells (a : Appraisal) (r : OrderRequest) (row : Order) : Prop where
  slippage : row.estimatedSlippage = Ticket.keptNumber a.slippage
  /-- What is shown is reckoned at the price of the preview. -/
  shown : a.fee.amount = r.quantity * Preview.priceOf r a.marketPrice * a.fee.rate
  /-- What is recorded is reckoned at the price of the placement. -/
  recorded : row.estimatedFee
    = Ticket.keptNumber (some (r.quantity * r.reckonedAt a.marketPrice * a.fee.rate))
  /-- The two are the same, unless a market order states a price. -/
  agrees : (r.type = .market → r.anyPrice = none) →
    row.estimatedFee = Ticket.keptNumber (some a.fee.amount)

/-- What is charged for the value that was shown is shown. -/
theorem Appraisal.foretells_of_charged {a : Appraisal} {r : OrderRequest} {row : Order}
    {type : OrderType} {currency : String} {believed : FeeRates Float × FeeSource}
    (positive : r.IsPositive)
    (charged : a.fee = Fees.charge type (r.quantity * Preview.priceOf r a.marketPrice) currency
      believed)
    (slippage : row.estimatedSlippage = Ticket.keptNumber a.slippage)
    (recorded : row.estimatedFee
      = Ticket.keptNumber (some (r.quantity * r.reckonedAt a.marketPrice * a.fee.rate))) :
    a.Foretells r row := by
  have shown : a.fee.amount = r.quantity * Preview.priceOf r a.marketPrice * a.fee.rate := by
    rw [charged]
    rfl
  refine ⟨slippage, shown, recorded, fun plain => ?_⟩
  rw [recorded, shown, OrderRequest.reckonedAt_eq_priceOf positive plain]

namespace Desk

variable {ref : Reference} {ctx : Context} {r : OrderRequest} {f g : Floor}
  {v profit stop : ValidatedOrder} {fee : Option FeeEstimate} {slippage : Option Float}

/-- What precedes the submission of a single order. -/
theorem parts_of_prepareSingle (h : prepareSingle ref ctx r f = (.ok (v, fee, slippage), g)) :
    ∃ markets f₁, Floor.speak ctx Line.fetchMarkets f = (.ok markets, f₁)
      ∧ r.validate ctx.symbol markets = .ok v
      ∧ (Floor.estimate ref ctx r.type r.side v f₁).1 = (fee, slippage) := by
  obtain ⟨markets, f₁, loaded, h⟩ := Run.of_bind_ok h
  obtain ⟨v', f₂, checked, h⟩ := Run.of_bind_ok h
  obtain rfl : f₁ = f₂ := congrArg Prod.snd checked
  rw [Run.lift_bind] at h
  cases h
  exact ⟨markets, f₁, loaded, congrArg Prod.fst checked, rfl⟩

/-- What precedes the submission of a pair. -/
theorem parts_of_prepareOco (h : prepareOco ref ctx r f = (.ok (profit, stop, fee), g)) :
    ∃ markets f₁, Floor.speak ctx Line.fetchMarkets f = (.ok markets, f₁)
      ∧ (profitRequest r).validate ctx.symbol markets = .ok profit
      ∧ (Floor.estimate ref ctx .limit r.side profit f₁).1.1 = fee := by
  obtain ⟨markets, f₁, loaded, h⟩ := Run.of_bind_ok h
  obtain ⟨profit', f₂, checked, h⟩ := Run.of_bind_ok h
  obtain rfl : f₁ = f₂ := congrArg Prod.snd checked
  obtain ⟨stop', f₃, checked', h⟩ := Run.of_bind_ok h
  obtain rfl : f₁ = f₃ := congrArg Prod.snd checked'
  rw [Run.lift_bind] at h
  cases h
  exact ⟨markets, f₁, loaded, congrArg Prod.fst checked, rfl⟩

/-- **What a placement expects** when the same is told to it as to a preview: the rate is the
same, and so is the slippage. -/
theorem estimate_of_appraise {d e : Desk} {user : String} {f₀ f₁ : Floor} {a : Appraisal}
    {s : Session} {markets : List Market} (reference : e.reference = d.reference)
    (same : (e.floor.script r.venue).TellsAs (d.floor.script r.venue))
    (current : (d.floor.session r.venue user).IsCurrent)
    (found : Floor.context d.reference r user d.floor = (.ok ctx, f₀))
    (appraised : Preview.appraise d.reference ctx r (f₀.session ctx.slug ctx.user) = (.ok a, s))
    (found' : Floor.context e.reference r user e.floor = (.ok ctx, f))
    (loaded : Floor.speak ctx Line.fetchMarkets f = (.ok markets, f₁)) :
    (e.floor.script r.venue).slippage r.type r.side r.quantity = .ok a.slippage
    ∧ ∃ believed,
      a.fee = Fees.charge (Preview.chargedType r.type)
        (r.quantity * Preview.priceOf r a.marketPrice) ctx.quote.symbol believed
      ∧ ∀ type v slippage,
        (e.floor.script r.venue).slippage type r.side v.quantity = .ok slippage →
        (Floor.estimate e.reference ctx type r.side v f₁).1
          = (some (Fees.charge type (v.quantity * v.referencePrice.getD a.marketPrice)
              ctx.quote.symbol believed), slippage) := by
  -- what the preview was told
  have still := Floor.still_context found
  obtain ⟨quote, quoted, last, slips, charged⟩ := Floor.of_appraise appraised
  rw [still.slug, still.venue, still.markets] at charged
  rw [still.venue] at quoted slips
  -- what the placement is told
  have slug : ctx.slug = r.venue := (Floor.of_context found').1
  have script : f.script ctx.slug = e.floor.script r.venue := by
    rw [slug]
    have reads := Floor.keeps_context e.reference r user e.floor
    rw [show (Floor.context e.reference r user).run e.floor = _ from found'] at reads
    exact reads.script r.venue
  obtain ⟨listing, listed, -, named, venue, held⟩ :=
    Floor.session_of_fetchMarkets (Floor.connects_of_context found') loaded
  rw [script] at listed venue
  have slipsHere : (e.floor.script r.venue).slippage r.type r.side r.quantity = .ok a.slippage := by
    unfold Venue.slippage at slips ⊢
    rw [same.offers]
    exact slips
  have quotedHere : (e.floor.script r.venue).quote ctx.symbol = .ok quote := by
    rw [same.quote]
    exact quoted
  -- the rate is the same, whichever markets were loaded
  have believedHere : Fees.believed r.venue (e.floor.script r.venue) listing (some ctx.symbol)
      (Floor.fallbackFees d.reference) = _ :=
    (Fees.believed_eq_of_tellsAs same).trans
      (Fees.believed_eq_of_current current (same.listing.symm.trans listed)).symm
  refine ⟨slipsHere, Fees.believed r.venue (e.floor.script r.venue) listing (some ctx.symbol)
    (Floor.fallbackFees d.reference), ?_, fun type v slippage slips => ?_⟩
  · rw [charged, last, believedHere]
    rfl
  · rw [← venue] at quotedHere slips
    rw [Floor.estimate_apply quotedHere slips, named, venue, held, slug, reference, last]

/-- The market that decides is the one that the venue lists. -/
theorem marketOf?_of_validate {q : OrderRequest} {user : String} {e : Desk} {f₁ : Floor}
    {markets : List Market} (positive : q.IsPositive)
    (found : Floor.context e.reference r user e.floor = (.ok ctx, f))
    (loaded : Floor.speak ctx Line.fetchMarkets f = (.ok markets, f₁))
    (valid : q.validate ctx.symbol markets = .ok v) :
    e.floor.marketOf? r.venue ctx.symbol = some v.market := by
  have reads := Floor.keeps_context e.reference r user e.floor
  rw [show (Floor.context e.reference r user).run e.floor = _ from found] at reads
  rw [← reads.marketOf?, ← (Floor.of_context found).1, Floor.marketOf?_of_fetchMarkets loaded]
  exact (OrderRequest.measured_of_validate positive valid).1

/-- The estimates that a row shows are those that it was marked with. -/
theorem estimates_of_records {row : Order} {leg : Leg} {marks : Leg.Marks}
    {x : Submission × Payload} (h : row.Records ctx leg marks x) :
    row.estimatedFee = Ticket.keptNumber (marks.fee.map (·.amount))
      ∧ row.estimatedSlippage = Ticket.keptNumber marks.slippage := by
  obtain ⟨ack, -, -, terms⟩ := h.acknowledged
  exact ⟨congrArg RecordedTerms.estimatedFee terms, congrArg RecordedTerms.estimatedSlippage terms⟩

section

variable {d e : Desk} {user : String} {f₀ : Floor} {a : Appraisal} {s : Session} {row : Order}
  {leg : Leg} {x : Submission × Payload} {isManual : Bool}
  (positive : r.IsPositive) (reference : e.reference = d.reference)
  (same : (e.floor.script r.venue).TellsAs (d.floor.script r.venue))
  (current : (d.floor.session r.venue user).IsCurrent)
  (found : Floor.context d.reference r user d.floor = (.ok ctx, f₀))
  (appraised : Preview.appraise d.reference ctx r (f₀.session ctx.slug ctx.user) = (.ok a, s))
  (found' : Floor.context e.reference r user e.floor = (.ok ctx, f))
  (onGrid : ∀ m, e.floor.marketOf? r.venue ctx.symbol = some m → r.OnGrid m)

include positive reference same current found appraised found' onGrid

/-- **What was shown of a single order** foretells its row. -/
theorem foretells_of_prepareSingle (apart : r.type ≠ .oco)
    (prepared : prepareSingle e.reference ctx r f = (.ok (v, fee, slippage), g))
    (records : row.Records ctx leg (singleMarks r isManual fee slippage) x) :
    a.Foretells r row := by
  obtain ⟨markets, f₁, loaded, valid, estimated⟩ := parts_of_prepareSingle prepared
  obtain ⟨slips, believed, charged, placed⟩ :=
    estimate_of_appraise reference same current found appraised found' loaded
  have grid := onGrid _ (marketOf?_of_validate positive found' loaded valid)
  obtain ⟨amount, limit⟩ := OrderRequest.eq_of_validate positive valid grid.amount grid.limit
  -- what is recorded is what was expected, at the price of the placement
  rw [placed r.type v a.slippage (amount ▸ slips)] at estimated
  obtain ⟨rfl, rfl⟩ := Prod.mk.inj estimated
  obtain ⟨recorded, slipped⟩ := estimates_of_records records
  have price : v.referencePrice.getD a.marketPrice = r.reckonedAt a.marketPrice := by
    rw [(OrderRequest.checks_of_validate valid).reference_eq positive, limit]
    unfold OrderRequest.reckonedAt
    cases type : r.type <;> first | rfl | exact absurd type apart
  have type : Preview.chargedType r.type = r.type := by
    unfold Preview.chargedType
    cases type : r.type <;> first | rfl | exact absurd type apart
  refine Appraisal.foretells_of_charged positive charged slipped ?_
  rw [recorded, charged, type, amount, price]
  rfl

/-- **What was shown of a pair** foretells the row of its order that takes profit. -/
theorem foretells_of_prepareOco (isPair : r.type = .oco)
    (prepared : prepareOco e.reference ctx r f = (.ok (profit, stop, fee), g))
    (records : row.Records ctx leg { isManual := isManual, fee := fee } x) :
    a.Foretells r row := by
  obtain ⟨markets, f₁, loaded, valid, estimated⟩ := parts_of_prepareOco prepared
  obtain ⟨slips, believed, charged, placed⟩ :=
    estimate_of_appraise reference same current found appraised found' loaded
  have positive' := isPositive_profitRequest positive
  have grid := onGrid _ (marketOf?_of_validate positive' found' loaded valid)
  obtain ⟨amount, limit⟩ := OrderRequest.eq_of_validate positive' valid grid.amount
    (grid.target isPair)
  rw [placed .limit profit none rfl] at estimated
  subst estimated
  obtain ⟨recorded, slipped⟩ := estimates_of_records records
  have price : profit.referencePrice.getD a.marketPrice = r.reckonedAt a.marketPrice := by
    rw [(OrderRequest.checks_of_validate valid).reference_eq positive', limit]
    unfold OrderRequest.reckonedAt profitRequest
    rw [isPair]
    cases r.takeProfitPrice <;> rfl
  have unslipped : a.slippage = none := by
    unfold Venue.slippage at slips
    rw [isPair] at slips
    exact (Except.ok.inj slips).symm
  refine Appraisal.foretells_of_charged positive charged (by rw [slipped, unslipped]) ?_
  rw [recorded, charged, isPair, amount, price]
  rfl

end

end Desk

namespace Placement

/-- **The preview of what a placement places**, in either way. -/
def Previewed (p : Placement) (d : Desk) (shown : OrderPreview) : Prop :=
  (Floor.preview d.reference p.request p.user d.floor).1 = .ok shown
    ∨ (Floor.previewManual d.reference p.request p.user d.floor).1 = .ok shown

/-- Either preview is appraised in the same way. -/
theorem of_previewed {p : Placement} {d : Desk} {shown : OrderPreview} (h : p.Previewed d shown) :
    ∃ ctx f s, Floor.context d.reference p.request p.user d.floor = (.ok ctx, f)
      ∧ shown.symbol = ctx.symbol
      ∧ Preview.appraise d.reference ctx p.request (f.session ctx.slug ctx.user)
        = (.ok shown.appraisal, s) := by
  rcases h with h | h
  · exact Floor.of_previewFor (Prod.ext h rfl)
  · rcases ran : Floor.previewManual d.reference p.request p.user d.floor with ⟨res, g⟩
    rw [ran] at h
    cases h
    obtain ⟨_, f, checked, h⟩ := Run.of_bind_ok ran
    obtain rfl : d.floor = f := congrArg Prod.snd checked
    exact Floor.of_previewFor h

variable {p : Placement} {d e : Desk} {shown : OrderPreview} {t : Trail} {row : Order}
  {later : List Order}

/-- **What a preview shows foretells what a placement records.** It may be another desk, and
other things may have happened in between, as long as the venue tells the same and the request
is on the grid of its market. The slippage is the same, and so is the rate. The fee is the same
unless a market order states a price: the preview reckons it at the last price, and the
placement at the stated one. -/
theorem preview_foretells (positive : p.request.IsPositive)
    (reference : e.reference = d.reference)
    (same : (e.floor.script p.request.venue).TellsAs (d.floor.script p.request.venue))
    (current : (d.floor.session p.request.venue p.user).IsCurrent)
    (previewed : p.Previewed d shown)
    (onGrid : ∀ m, e.floor.marketOf? p.request.venue shown.symbol = some m → p.request.OnGrid m)
    (leaves : Desk.Leaves p.venue e (p.run e).2 t) (rows : t.rows = row :: later) :
    shown.appraisal.Foretells p.request row := by
  obtain ⟨ctx, f₀, s, found, symbol, appraised⟩ := of_previewed previewed
  rw [symbol] at onGrid
  obtain ⟨t', leaves', books⟩ := p.books e
  obtain rfl := leaves.unique leaves'
  cases books with
  | nothing noRows =>
    rw [noRows] at rows
    cases rows
  | pair isPair opens prepared first second =>
    cases rows
    obtain rfl := Floor.context_unique found (reference ▸ opens.found)
    have pair : p.request.type = .oco := by
      cases p with
      | byStrategy r user => cases isPair
      | byHand r user => exact beq_iff_eq.mp isPair
    exact Desk.foretells_of_prepareOco positive reference same current found appraised opens.found
      onGrid pair prepared first
  | single single apart opens prepared entry protection =>
    cases rows
    obtain rfl := Floor.context_unique found (reference ▸ opens.found)
    exact Desk.foretells_of_prepareSingle positive reference same current found appraised
      opens.found onGrid apart prepared entry

/-! ## A market order that states a price -/

/-- A small desk whose venue states a price. -/
def quoted : Desk where
  reference := (Desk.small [] {}).reference
  floor :=
    { venues := [("binance",
        { markets := [("BTC/USDT", .object [("symbol", .text "BTC/USDT")])]
          ticker := .object [("last", .real 1.0)] })] }

/-- One coin at market, to be sold again for two. -/
def soldCoin : OrderRequest := { Desk.oneCoin with takeProfitPrice := some 2.0 }

/-- The markets of the desk have no steps, so that everything is on their grid. -/
theorem onGrid_quoted (r : OrderRequest) {symbol : String} {m : Market}
    (h : quoted.floor.marketOf? "binance" symbol = some m) : r.OnGrid m := by
  have stepless : ((Market.readAll (quoted.floor.script "binance").precision
      (quoted.floor.script "binance").markets).toOption.all fun listing =>
        listing.all fun x => x.2.amountStep.isNone && x.2.priceStep.isNone) = true := by
    decide +kernel
  unfold Floor.marketOf? at h
  cases read : Market.readAll (quoted.floor.script "binance").precision
      (quoted.floor.script "binance").markets with
  | error e =>
    rw [read] at h
    cases h
  | ok listing =>
    rw [read] at h stepless
    obtain ⟨x, mem, rfl⟩ := List.mem_map.mp (List.mem_of_find?_eq_some h)
    obtain ⟨noAmountStep, noPriceStep⟩ :=
      Bool.and_eq_true_iff.mp (List.all_eq_true.mp stepless x mem)
    have floors : ∀ (y : Float) (step : Option Step), step.isNone = true →
        Number.floorToStep y step = .ok y := by
      intro y step none
      rw [Option.isNone_iff_eq_none.mp none]
      rfl
    exact ⟨floors _ _ noAmountStep, fun y _ => floors y _ noPriceStep,
      fun _ y _ => floors y _ noPriceStep⟩

/-- A fee is shown, and another one is recorded. -/
theorem shown_soldCoin :
    ∃ shown t row later, soldCoin.IsPositive
      ∧ (quoted.floor.session "binance" "u1").IsCurrent
      ∧ (byHand soldCoin "u1").Previewed quoted shown
      ∧ (∀ m, quoted.floor.marketOf? "binance" shown.symbol = some m → soldCoin.OnGrid m)
      ∧ Desk.Leaves "binance" quoted ((byHand soldCoin "u1").run quoted).2 t
      ∧ t.rows = row :: later
      ∧ shown.appraisal.fee.amount = 0.001 ∧ row.estimatedFee = some 0.002 := by
  have shows : (Floor.previewManual quoted.reference soldCoin "u1" quoted.floor).1.toOption.map
      (·.appraisal.fee.amount) = some 0.001 := by decide +kernel
  have records : ((byHand soldCoin "u1").run quoted).2.store.ledger.rows.map (·.estimatedFee)
      = [some 0.002, none] := by decide +kernel
  obtain ⟨shown, previewed, amount⟩ := Option.map_eq_some_iff.mp shows
  obtain ⟨t, leaves, -⟩ := (byHand soldCoin "u1").leaves_run quoted
  rw [show _ = t.rows from leaves.wrote.rows] at records
  obtain ⟨row, later, rows, recorded, -⟩ := List.map_eq_cons_iff.mp records
  refine ⟨shown, t, row, later, ?_, .inl rfl, .inr ?_, fun m => onGrid_quoted soldCoin, leaves,
    rows, amount, recorded⟩
  · exact ⟨by decide +kernel, by decide +kernel, by decide +kernel, by decide +kernel,
      by decide +kernel⟩
  · show (Floor.previewManual quoted.reference soldCoin "u1" quoted.floor).1 = .ok shown
    cases ended : (Floor.previewManual quoted.reference soldCoin "u1" quoted.floor).1 <;>
      rw [ended] at previewed <;> cases previewed
    rfl

theorem preview_foretells_soldCoin :
    ∃ shown row, soldCoin.IsPositive
      ∧ (byHand soldCoin "u1").Previewed quoted shown
      ∧ shown.appraisal.fee.amount = 0.001 ∧ row.estimatedFee = some 0.002
      ∧ shown.appraisal.Foretells soldCoin row := by
  obtain ⟨shown, t, row, later, positive, current, previewed, onGrid, leaves, rows, amount,
    recorded⟩ := shown_soldCoin
  have same : (quoted.floor.script "binance").TellsAs (quoted.floor.script "binance") :=
    ⟨rfl, fun _ => rfl, rfl, rfl⟩
  exact ⟨shown, row, positive, previewed, amount, recorded,
    preview_foretells (p := byHand soldCoin "u1") (d := quoted) (e := quoted) positive rfl same
      current previewed onGrid leaves rows⟩

/-- **The fee that is recorded is not always the one that was shown**, even when the order is
placed at the desk that gave the preview, and nothing happened in between. -/
theorem fee_is_not_always_as_shown :
    ¬ ∀ (p : Placement) (d : Desk) (shown : OrderPreview) (t : Trail) (row : Order)
        (later : List Order), p.request.IsPositive →
        (d.floor.session p.request.venue p.user).IsCurrent → p.Previewed d shown →
        (∀ m, d.floor.marketOf? p.request.venue shown.symbol = some m → p.request.OnGrid m) →
        Desk.Leaves p.venue d (p.run d).2 t → t.rows = row :: later →
        row.estimatedFee = some shown.appraisal.fee.amount := by
  intro always
  obtain ⟨shown, t, row, later, positive, current, previewed, onGrid, leaves, rows, amount,
    recorded⟩ := shown_soldCoin
  have same := always (byHand soldCoin "u1") quoted shown t row later positive current previewed
    onGrid leaves rows
  rw [recorded, amount] at same
  exact absurd same (by decide +kernel)

end Placement

end OrderDesk
