import OrderDesk.Desk.Leg
import OrderDesk.Proofs.Keeps

/-!
# What was said to the venues

Of everything that was said to a venue only two things matter to it: that an order was
submitted and that a cancel was asked for. These are the *commands*. Everything else in
the journal is a question. In the same way only two notices are about an accepted order
that the store did not take, the *alarms*. Between two states of a floor we ask which
commands were given, which orders were accepted, and which alarms were raised; the
questions that were asked in between, and the notices about their answers, are left out
of sight.

This module shows that whatever only asks is indeed out of sight (`Reads`), first of a
session with one venue and then of the whole floor: loading markets, prices, books and
fees, making a connection, finding out what a request is about, estimating.
-/

namespace OrderDesk

namespace JournalEntry

/-- The call tells the venue to do something about an order. -/
def isCommand (e : JournalEntry) : Bool := e.submission?.isSome || e.cancel?.isSome

end JournalEntry

namespace Notice

/-- The notice is about an accepted order that was not stored. -/
def isAlarm (n : Notice) : Bool := n.speaker == .escalation

/-- What an alarm says was not stored. -/
def divergence? : Notice → Option Divergence
  | unreconciled d => some d
  | _ => none

end Notice

/-! ## Sessions -/

namespace Session

/-- The commands that were given so far. -/
def commands (s : Session) : List JournalEntry := s.journal.filter (·.isCommand)

/-- The alarms that were raised so far. -/
def alarms (s : Session) : List Notice := s.notices.filter (·.isAlarm)

/-- **A session that only asks**: the venue is as it was, no command was given and no
alarm raised. -/
structure Reads (s t : Session) : Prop where
  /-- It is a session with the same venue. -/
  slug : t.slug = s.slug
  venue : t.venue = s.venue
  commands : t.commands = s.commands
  alarms : t.alarms = s.alarms

instance : IsPreorder Session Reads where
  refl _ := ⟨rfl, rfl, rfl, rfl⟩
  trans _ _ _ h k :=
    ⟨k.slug.trans h.slug, k.venue.trans h.venue, k.commands.trans h.commands,
      k.alarms.trans h.alarms⟩

/-- Entering a question in the journal is no command. -/
theorem reads_record {call : VenueCall}
    (h : ∀ slug, (⟨slug, call⟩ : JournalEntry).isCommand = false) (s : Session) :
    s.Reads (s.record call) := by
  refine ⟨rfl, rfl, ?_, rfl⟩
  show (s.journal ++ [_]).filter _ = s.commands
  rw [List.filter_append, List.filter_cons_of_neg (by rw [h]; decide)]
  exact List.append_nil _

/-- A notice that is no alarm. -/
theorem reads_notify {n : Notice} (h : n.isAlarm = false) (s : Session) :
    s.Reads (s.notify n) := by
  refine ⟨rfl, rfl, rfl, ?_⟩
  show (s.notices ++ [n]).filter _ = s.alarms
  rw [List.filter_append, List.filter_cons_of_neg (by rw [h]; decide)]
  exact List.append_nil _

end Session

namespace Line

open Session (Reads)

theorem keeps_ensureUp (m : VenueMethod) : Keeps Reads (ensureUp m).run := by
  refine .seq .look fun s => ?_
  cases s.venue.outage? m with
  | none => exact .answer ()
  | some reason => exact .fail _

/-- A question only asks. -/
theorem keeps_call {m : VenueMethod} {call : VenueCall}
    (h : ∀ slug, (⟨slug, call⟩ : JournalEntry).isCommand = false) :
    Keeps Reads (Line.call m call).run :=
  .seq (.change (Session.reads_record h)) fun _ => keeps_ensureUp m

theorem keeps_ofExcept {α : Type} (x : Except Fault α) : Keeps Reads (ofExcept x).run :=
  fun s => Std.Refl.refl s

theorem keeps_fetchMarkets : Keeps Reads fetchMarkets.run :=
  .seq (keeps_call fun _ => rfl) fun _ => .seq .look fun _ =>
    .seq (keeps_ofExcept _) fun _ =>
      .seq (.change fun _ => ⟨rfl, rfl, rfl, rfl⟩) fun _ => .answer _

theorem keeps_fetchTicker (symbol : String) : Keeps Reads (fetchTicker symbol).run :=
  .seq (keeps_call fun _ => rfl) fun _ => .seq .look fun _ => keeps_ofExcept _

theorem keeps_fetchOrderBook (symbol : String) (depth : Int) :
    Keeps Reads (fetchOrderBook symbol depth).run :=
  .seq (keeps_call fun _ => rfl) fun _ => .seq .look fun _ => keeps_ofExcept _

theorem keeps_fetchBalance : Keeps Reads fetchBalance.run :=
  .seq (keeps_call fun _ => rfl) fun _ => .seq .look fun _ => keeps_ofExcept _

theorem keeps_fetchTradingFees : Keeps Reads fetchTradingFees.run :=
  .seq (keeps_call fun _ => rfl) fun _ => .seq .look fun _ => keeps_ofExcept _

end Line

namespace Fees

open Session (Reads)

theorem keeps_fromAccount (symbol : Option String) : Keeps Reads (fromAccount symbol) := by
  refine .seqM Line.keeps_fetchTradingFees fun fees => ?_
  cases fees with
  | ok fees => exact .answerM _
  | error e =>
    exact .seqM (.changeM fun s => Session.reads_notify rfl s) fun _ => .answerM _

theorem keeps_ensureMarkets : Keeps Reads ensureMarkets := by
  refine .seqM .lookM fun s => ?_
  by_cases empty : s.markets.isEmpty = true
  · rw [if_pos empty]
    refine .seqM Line.keeps_fetchMarkets fun loaded => ?_
    cases loaded with
    | ok _ => exact .answerM _
    | error e => exact .changeM fun s => Session.reads_notify rfl s
  · rw [if_neg empty]
    exact .answerM _

theorem keeps_resolve (type : OrderType) (symbol : Option String) (fallback : FeeRates Float) :
    Keeps Reads (resolve type symbol fallback) := by
  refine .seqM (keeps_fromAccount symbol) fun rates => ?_
  cases rates with
  | some rates => exact .answerM _
  | none =>
    refine .seqM keeps_ensureMarkets fun _ => .seqM .lookM fun s => ?_
    cases marketEntry? s.markets symbol <;> exact .answerM _

/-- Finding out what an order will be charged only asks. -/
theorem keeps_estimate (type : OrderType) (value : Float) (currency : String)
    (symbol : Option String) (fallback : FeeRates Float) :
    Keeps Reads (estimate type value currency symbol fallback) :=
  .seqM (keeps_resolve type symbol fallback) fun _ => .answerM _

end Fees

/-! ## The floor -/

namespace Floor

/-- The commands that were given so far. -/
def commands (f : Floor) : List JournalEntry := f.journal.filter (·.isCommand)

/-- The alarms that were raised so far. -/
def alarms (f : Floor) : List Notice := f.notices.filter (·.isAlarm)

/-- The orders that a venue has accepted so far, each with its answer. -/
def accepted (f : Floor) (slug : String) : List (Submission × Payload) :=
  (f.script slug).accepted

/-- **A floor on which one only asks**: every venue is as it was, no command was given and
no alarm raised. -/
structure Reads (f g : Floor) : Prop where
  script : ∀ slug, g.script slug = f.script slug
  commands : g.commands = f.commands
  alarms : g.alarms = f.alarms

instance : IsPreorder Floor Reads where
  refl _ := ⟨fun _ => rfl, rfl, rfl⟩
  trans _ _ _ h k :=
    ⟨fun slug => (k.script slug).trans (h.script slug), k.commands.trans h.commands,
      k.alarms.trans h.alarms⟩

/-- Looking a venue up, one entry at a time. -/
theorem lookup_cons_venue (name other : String) (v : Venue) (rest : List (String × Venue)) :
    List.lookup name ((other, v) :: rest)
      = if name = other then some v else rest.lookup name := by
  rw [List.lookup_cons]
  by_cases same : name = other
  · rw [if_pos same, beq_iff_eq.mpr same]
  · rw [if_neg same, beq_eq_false_iff_ne.mpr same]

/-- A venue that was put among others is found under its name, and the others are found
as before. -/
theorem lookup_putVenue (slug : String) (v : Venue) (venues : List (String × Venue))
    (name : String) :
    (putVenue slug v venues).lookup name
      = if name = slug then some v else venues.lookup name := by
  induction venues with
  | nil => exact lookup_cons_venue name slug v []
  | cons entry rest ih =>
    obtain ⟨other, old⟩ := entry
    unfold putVenue
    by_cases here : slug = other
    · subst here
      rw [if_pos (beq_self_eq_true slug), lookup_cons_venue, lookup_cons_venue]
      by_cases same : name = slug
      · rw [if_pos same, if_pos same]
      · rw [if_neg same, if_neg same, if_neg same]
    · rw [if_neg (by rwa [beq_iff_eq]), lookup_cons_venue, lookup_cons_venue, ih]
      by_cases found : name = other
      · rw [if_pos found, if_neg (fun same => here (same.symm.trans found)), if_pos found]
      · rw [if_neg found, if_neg found]

/-- After a session its venue is as the session left it, and the others are as they
were. -/
theorem script_absorb (f : Floor) (user : String) (s : Session) (name : String) :
    (f.absorb user s).script name = if name = s.slug then s.venue else f.script name := by
  show ((putVenue s.slug s.venue f.venues).lookup name).getD {} = _
  rw [lookup_putVenue]
  by_cases same : name = s.slug
  · rw [if_pos same, if_pos same]
    rfl
  · rw [if_neg same, if_neg same]
    rfl

/-- A conversation that only asks does so on the floor. -/
theorem keeps_onLine {α : Type} (slug user : String) {x : StateM Session α}
    (h : Keeps Session.Reads x) : Keeps Reads (onLine slug user x) := by
  intro f
  have asked := h (f.session slug user)
  refine ⟨fun name => ?_, asked.commands, asked.alarms⟩
  refine (script_absorb f user _ name).trans ?_
  rw [asked.slug, asked.venue]
  by_cases same : name = slug
  · rw [same]
    exact if_pos rfl
  · exact if_neg same

theorem keeps_check {α : Type} (x : Except Failure α) : Keeps Reads (check x).run :=
  fun f => Std.Refl.refl f

theorem keeps_runLine {α : Type} (slug user : String) {x : Line α}
    (h : Keeps Session.Reads x.run) : Keeps Reads (runLine slug user x).run := by
  refine .seq (keeps_onLine slug user h) fun r => ?_
  cases r with
  | ok a => exact .answer a
  | error e => exact .fail _

theorem keeps_speak {α : Type} (ctx : Context) {x : Line α}
    (h : Keeps Session.Reads x.run) : Keeps Reads (speak ctx x).run :=
  keeps_runLine ctx.slug ctx.user h

/-- A notice that is no alarm. -/
theorem reads_notify {n : Notice} (h : n.isAlarm = false) (f : Floor) :
    f.Reads (f.notify n) := by
  refine ⟨fun _ => rfl, rfl, ?_⟩
  show (f.notices ++ [n]).filter _ = f.alarms
  rw [List.filter_append, List.filter_cons_of_neg (by rw [h]; decide)]
  exact List.append_nil _

/-! ### Connections -/

/-- What comes of making a client for a venue. -/
def opening (f : Floor) (slug : String) : Except Fault Unit :=
  match (f.making slug).building with
  | .error e => .error e
  | .ok () => if f.policy.sandbox then (f.making slug).switching else .ok ()

/-- The floor after a client was built and, when the policy says so, asked to use the sandbox. -/
def introduced (f : Floor) (slug : String) (credential : Option Credential) : Floor :=
  { f with journal := f.journal ++ ⟨slug, .build slug (options f.policy credential)⟩
      :: if f.policy.sandbox then [⟨slug, .sandbox⟩] else [] }

/-- **How asking for a connection ends**, and what floor it leaves. -/
inductive Resolves (slug user : String) (credential : Option Credential) (f : Floor) :
    Except Failure Connection → Floor → Prop where
  /-- The connection is there. -/
  | again {c : Connection} (known : f.connection? slug user = some c) :
      Resolves slug user credential f (.ok c) f
  /-- Nothing has the name of the venue. -/
  | unknown (fresh : f.connection? slug user = none) (unlisted : f.venue? slug = none) :
      Resolves slug user credential f (.error (.fault (.unknownVenue slug))) f
  /-- No client is built. -/
  | unbuilt {e : Fault} (fresh : f.connection? slug user = none)
      (listed : (f.venue? slug).isSome) (fails : (f.making slug).building = .error e) :
      Resolves slug user credential f (.error (.fault e)) f
  /-- A client is built and not switched to the sandbox, and nothing is kept of it. -/
  | unswitched {e : Fault} (fresh : f.connection? slug user = none)
      (listed : (f.venue? slug).isSome) (built : (f.making slug).building = .ok ())
      (boxed : f.policy.sandbox = true) (fails : (f.making slug).switching = .error e) :
      Resolves slug user credential f (.error (.fault e)) (f.introduced slug credential)
  /-- The connection is made. -/
  | made (fresh : f.connection? slug user = none) (listed : (f.venue? slug).isSome)
      (opens : f.opening slug = .ok ()) :
      Resolves slug user credential f (.ok ⟨slug, user, f.made, []⟩)
        ((f.introduced slug credential).keep slug user).2

section

variable {f : Floor} {slug user : String} {credential : Option Credential}

/-- A client that was built is asked to use the sandbox when the policy says so. -/
theorem makeClient_of_built (built : (f.making slug).building = .ok ()) :
    f.makeClient slug credential = (f.opening slug, f.introduced slug credential) := by
  unfold makeClient opening introduced
  rw [built]
  by_cases boxed : f.policy.sandbox = true <;> simp [boxed, record]

/-- A client that was built can be used, or it cannot be switched to the sandbox. -/
theorem opening_of_built (built : (f.making slug).building = .ok ()) :
    f.opening slug = .ok ()
      ∨ ∃ e, f.opening slug = .error e ∧ f.policy.sandbox = true
        ∧ (f.making slug).switching = .error e := by
  unfold opening
  rw [built]
  by_cases boxed : f.policy.sandbox = true
  · rw [if_pos boxed]
    cases (f.making slug).switching with
    | ok _ => exact .inl rfl
    | error e => exact .inr ⟨e, rfl, boxed, rfl⟩
  · exact .inl (if_neg boxed)

/-- **Asking for a connection** ends in one of the five ways. -/
theorem resolves (slug user : String) (credential : Option Credential) (f : Floor) :
    Resolves slug user credential f (resolve slug user credential f).1
      (resolve slug user credential f).2 := by
  unfold resolve
  rw [Run.get_bind]
  cases known : f.connection? slug user with
  | some c => exact .again known
  | none =>
    dsimp only
    cases listed : f.venue? slug with
    | none => exact .unknown known listed
    | some venue =>
      have there : (f.venue? slug).isSome := by rw [listed]; rfl
      cases built : (f.making slug).building with
      | error e =>
        have unmade : f.makeClient slug credential = (.error e, f) := by
          unfold makeClient
          rw [built]
        rw [unmade]
        exact .unbuilt known there built
      | ok _ =>
        rw [makeClient_of_built built]
        rcases opening_of_built built with opens | ⟨e, fails, boxed, switches⟩
        · rw [opens]
          exact .made known there opens
        · rw [fails]
          exact .unswitched known there built boxed switches

/-- What is said when a client is made is no command. -/
theorem reads_introduced (f : Floor) (slug : String) (credential : Option Credential) :
    f.Reads (f.introduced slug credential) := by
  refine ⟨fun _ => rfl, ?_, rfl⟩
  unfold commands introduced
  by_cases boxed : f.policy.sandbox = true <;>
    simp [boxed, JournalEntry.isCommand, JournalEntry.submission?, JournalEntry.cancel?]

/-- A connection that is kept is no command. -/
theorem reads_keep (f : Floor) (slug user : String) : f.Reads (f.keep slug user).2 :=
  ⟨fun _ => rfl, rfl, rfl⟩

/-- Asking for a connection only asks. -/
theorem Resolves.reads {r : Except Failure Connection} {g : Floor}
    (h : Resolves slug user credential f r g) : f.Reads g := by
  have introduces := reads_introduced f slug credential
  cases h with
  | again | unknown | unbuilt => exact refl_of Reads f
  | unswitched => exact introduces
  | made => exact trans_of Reads introduces (reads_keep _ slug user)

/-- The connection that is had is that of the user to the venue. -/
theorem Resolves.isFor {c : Connection} {g : Floor}
    (h : Resolves slug user credential f (.ok c) g) : c.slug = slug ∧ c.user = user := by
  cases h with
  | again known =>
    have its := List.find?_some known
    simpa only [Bool.and_eq_true, beq_iff_eq] using its
  | made => exact ⟨rfl, rfl⟩

end

theorem keeps_resolve (slug user : String) (credential : Option Credential) :
    Keeps Reads (resolve slug user credential).run :=
  fun f => (resolves slug user credential f).reads

theorem keeps_connectAs (ref : Reference) (user slug : String) :
    Keeps Reads (connectAs ref user slug).run :=
  .seq (keeps_check _) fun c => keeps_resolve slug user (some c)

/-- Finding out what a request is about only asks. -/
theorem keeps_context (ref : Reference) (r : OrderRequest) (user : String) :
    Keeps Reads (context ref r user).run :=
  .seq (keeps_check _) fun _ => .seq (keeps_connectAs ref user r.venue) fun _ =>
    .seq (keeps_check _) fun _ => .answer _

theorem keeps_slippageOnLine (ref : Reference) (ctx : Context) (side : Side)
    (quantity : Float) : Keeps Session.Reads (slippageOnLine ref ctx side quantity).run :=
  .seq (Line.keeps_fetchOrderBook _ _) fun _ => .answer _

/-- The slippage that is expected of a market order, and of no other. -/
def slippageOf (ref : Reference) (ctx : Context) (type : OrderType) (side : Side)
    (quantity : Float) : Line (Option Float) :=
  if type == .market then some <$> slippageOnLine ref ctx side quantity else pure none

/-- The price that an order is reckoned at. It is asked for only when the order has none. -/
def priceOnLine (ctx : Context) (v : ValidatedOrder) : Line Float :=
  match v.referencePrice with
  | some p => pure p
  | none => Quote.last <$> Line.fetchTicker ctx.symbol

/-- The fee that is expected at a price, beside the slippage. -/
def feeOnLine (ref : Reference) (ctx : Context) (type : OrderType) (quantity : Float)
    (slippage : Option Float) (price : Float) : Line (FeeEstimate × Option Float) := do
  let fee ← (Fees.estimate type (quantity * price) ctx.quote.symbol (some ctx.symbol)
    (fallbackFees ref) : StateM Session FeeEstimate)
  return (fee, slippage)

/-- **An estimate comes in three parts**: the slippage, the price and the fee. -/
theorem estimateOnLine_eq (ref : Reference) (ctx : Context) (type : OrderType) (side : Side)
    (v : ValidatedOrder) :
    estimateOnLine ref ctx type side v
      = slippageOf ref ctx type side v.quantity >>= fun slippage =>
          priceOnLine ctx v >>= feeOnLine ref ctx type v.quantity slippage := by
  obtain ⟨symbol, quantity, limit, reference, m⟩ := v
  cases type <;> cases reference <;> rfl

theorem keeps_estimateOnLine (ref : Reference) (ctx : Context) (type : OrderType)
    (side : Side) (v : ValidatedOrder) :
    Keeps Session.Reads (estimateOnLine ref ctx type side v).run := by
  have slipped : Keeps Session.Reads (slippageOf ref ctx type side v.quantity).run := by
    unfold slippageOf
    split
    · exact .map _ (keeps_slippageOnLine _ _ _ _)
    · exact .answer none
  have priced : Keeps Session.Reads (priceOnLine ctx v).run := by
    unfold priceOnLine
    cases v.referencePrice with
    | some p => exact .answer p
    | none => exact .map _ (Line.keeps_fetchTicker _)
  rw [estimateOnLine_eq]
  exact .seq slipped fun _ => .seq priced fun _ =>
    .seq (.lift (Fees.keeps_estimate _ _ _ _ _)) fun _ => .answer _

/-- The estimate that goes with an order only asks. -/
theorem keeps_estimate (ref : Reference) (ctx : Context) (type : OrderType) (side : Side)
    (v : ValidatedOrder) : Keeps Reads (estimate ref ctx type side v) := by
  refine .seqM (keeps_onLine _ _ (keeps_estimateOnLine ref ctx type side v)) fun r => ?_
  cases r with
  | ok found => exact .answerM _
  | error e => exact .seqM (.changeM fun f => reads_notify rfl f) fun _ => .answerM _

end Floor

end OrderDesk
