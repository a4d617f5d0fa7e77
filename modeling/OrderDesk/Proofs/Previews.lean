import OrderDesk.Desk.Operation
import OrderDesk.Proofs.Estimates
import OrderDesk.Proofs.Following

/-!
# Previews are transparent

A preview only asks. What it does change is out of sight: it may open a connection, and it
may load the markets again through one. The next placement would have opened the same
connection, and it loads the markets itself before it looks at them. So the desk after a
preview and the desk before it are the same in the whole view, and so they remain whatever
is asked of both.

There is one thing to be careful about, which is who can reach which venue. A user who is
connected to a venue needs no listing of it, while everybody else does. A preview over a
connection that leads nowhere would list the venue for all. It cannot happen as long as
connections lead to venues on the floor, which is so on every floor that began without
connections.
-/

namespace OrderDesk

/-! ## What a preview does on the floor -/

namespace Preview

/-- Appraising an order only asks. -/
theorem keeps_appraise (ref : Reference) (ctx : Context) (r : OrderRequest) :
    Keeps Session.Reads (appraise ref ctx r).run := by
  have charged (quote : Quote) (slippage : Option Float) : Keeps Session.Reads (do
      let fee ← (Fees.estimate (chargedType r.type) (r.quantity * priceOf r quote.last)
        ctx.quote.symbol (some ctx.symbol) (Floor.fallbackFees ref) : StateM Session FeeEstimate)
      return ⟨quote.last, r.quantity * priceOf r quote.last, slippage, fee⟩ :
        Line Appraisal).run :=
    .seq (.lift (Fees.keeps_estimate _ _ _ _ _)) fun _ => .answer _
  refine .seq (Line.keeps_fetchTicker _) fun quote => ?_
  dsimp only
  by_cases market : (r.type == .market) = true
  · rw [if_pos market]
    exact .seq (.map _ (Floor.keeps_slippageOnLine _ _ _ _)) fun _ => charged quote _
  · rw [if_neg market]
    exact .seq (.answer none) fun _ => charged quote _

end Preview

namespace Floor

/-- **The same venues can be reached** by the same users. -/
structure Stays (f g : Floor) : Prop where
  policy : g.policy = f.policy
  making : g.making = f.making
  lists : ∀ slug, g.Lists slug ↔ f.Lists slug
  access : ∀ slug user, g.access slug user = f.access slug user
  grounded : f.Grounded → g.Grounded

instance : IsPreorder Floor Stays where
  refl _ := ⟨rfl, rfl, fun _ => Iff.rfl, fun _ _ => rfl, id⟩
  trans _ _ _ h k :=
    ⟨k.policy.trans h.policy, k.making.trans h.making,
      fun slug => (k.lists slug).trans (h.lists slug),
      fun slug user => (k.access slug user).trans (h.access slug user), k.grounded ∘ h.grounded⟩

/-- **A floor on which a venue is asked.** The same venues can be reached when that venue was
there. -/
structure AsksAt (slug : String) (f g : Floor) : Prop where
  reads : f.Reads g
  stays : f.Lists slug → f.Stays g

instance (slug : String) : IsPreorder Floor (AsksAt slug) where
  refl f := ⟨refl_of Reads f, fun _ => refl_of Stays f⟩
  trans _ _ _ h k :=
    ⟨trans_of Reads h.reads k.reads,
      fun lists => trans_of Stays (h.stays lists)
        (k.stays (((h.stays lists).lists slug).mpr lists))⟩

/-- A session in which one only asks. -/
theorem asksAt_onLine {α : Type} (slug user : String) {x : StateM Session α}
    (h : Keeps Session.Reads x) : Keeps (AsksAt slug) (onLine slug user x) := by
  intro f
  refine ⟨keeps_onLine slug user h f, fun lists => ?_⟩
  have same : (x (f.session slug user)).2.slug = slug := (h _).slug
  have listed (name : String) : (onLine slug user x f).2.Lists name ↔ f.Lists name := by
    refine lists_absorb.trans (or_iff_right_of_imp ?_)
    rintro rfl
    rwa [same]
  refine ⟨rfl, rfl, listed, fun name other => ?_, fun grounded => grounded.absorb user _⟩
  have there : (name == (x (f.session slug user)).2.slug || (f.venue? name).isSome)
      = (f.venue? name).isSome := by
    rw [← venue?_absorb f user]
    exact Bool.eq_iff_iff.mpr (listed name)
  exact (access_absorb f user _ name other).trans (by rw [there]; rfl)

/-- Over an open connection the same venues are reached. -/
theorem Opens.stays {slug user : String} {f g : Floor} (opens : f.Opens slug user g)
    (had : f.access slug user = .ok ()) : f.Stays g :=
  ⟨opens.policy, opens.making, fun _ => opens.lists, opens.access had, opens.grounded⟩

theorem stays_resolve (slug user : String) (credential : Option Credential) :
    Keeps Stays (resolve slug user credential).run := by
  intro f
  show f.Stays (resolve slug user credential f).2
  rcases resolve_cases slug user credential f with ⟨had, -, -, -, opens⟩ | ⟨e, -, -, declines⟩
  · exact opens.stays had
  · rw [declines.rest]
    exact ⟨rfl, rfl, fun _ => Iff.rfl, fun _ _ => rfl, id⟩

theorem stays_context (ref : Reference) (r : OrderRequest) (user : String) :
    Keeps Stays (context ref r user).run := by
  have checked {α : Type} (x : Except Failure α) : Keeps Stays (check x).run := .answerM x
  exact .seq (checked _) fun _ => .seq (.seq (checked _) fun _ => stays_resolve _ _ _) fun _ =>
    .seq (checked _) fun _ => .answer _

/-- The venue of a context is on the floor when connections are grounded. -/
theorem lists_of_connects {f : Floor} {slug user : String} (grounded : f.Grounded)
    (connects : f.Connects slug user) : f.Lists slug := by
  obtain ⟨c, mem, its⟩ := List.find?_isSome.mp connects
  rw [← beq_iff_eq.mp (Bool.and_eq_true_iff.mp its).1]
  exact grounded c mem

/-- **A preview only asks**, and where connections are grounded the same venues can be reached
after it. -/
theorem asks_previewFor (ref : Reference) (r : OrderRequest) (user : String) (isManual : Bool)
    (f : Floor) :
    f.Reads (previewFor ref r user isManual f).2
      ∧ (f.Grounded → f.Stays (previewFor ref r user isManual f).2) := by
  have opened : f.Reads (context ref r user f).2 := keeps_context ref r user f
  have reached : f.Stays (context ref r user f).2 := stays_context ref r user f
  unfold previewFor
  rw [Run.bind_apply]
  rcases found : context ref r user f with ⟨e | ctx, g⟩ <;> rw [found] at opened reached
  · exact ⟨opened, fun _ => reached⟩
  have spoken {α : Type} {x : Line α} (h : Keeps Session.Reads x.run) :
      Keeps (AsksAt ctx.slug) (speak ctx x).run := by
    refine .seq (asksAt_onLine _ _ h) fun r => ?_
    cases r with
    | ok a => exact .answer a
    | error e => exact .fail _
  have balance (need : Requirement) :
      Keeps (AsksAt ctx.slug) (Preview.available? ctx r need.currency) := by
    refine .seqM (asksAt_onLine _ _ Line.keeps_fetchBalance) fun answer => ?_
    cases answer with
    | ok _ => exact .answerM _
    | error e =>
      refine .seqM (.changeM fun f => ⟨reads_notify rfl f, fun _ => ?_⟩) fun _ => .answerM _
      exact ⟨rfl, rfl, fun _ => Iff.rfl, fun _ _ => rfl, id⟩
  have asked := Keeps.seq (spoken (Preview.keeps_appraise ref ctx r)) (fun appraisal =>
    Keeps.seq (.lift (balance (Preview.requirement ctx r appraisal))) fun available =>
      Keeps.answer (Preview.assemble ref ctx r isManual appraisal available)) g
  refine ⟨trans_of Reads opened asked.reads, fun grounded => trans_of Stays reached ?_⟩
  exact asked.stays (lists_of_connects (reached.grounded grounded) (connects_of_context found))

/-- The same for a preview of an order by hand, whose request has to be complete. -/
theorem asks_previewManual (ref : Reference) (r : OrderRequest) (user : String) (f : Floor) :
    f.Reads (previewManual ref r user f).2
      ∧ (f.Grounded → f.Stays (previewManual ref r user f).2) := by
  unfold previewManual
  rw [Run.bind_apply]
  cases complete : r.ensureComplete with
  | error e => exact ⟨refl_of Reads f, fun _ => refl_of Stays f⟩
  | ok _ => exact asks_previewFor ref r user true f

/-- **What is asked on one of two floors** leaves them the same. -/
theorem SameIn.asks {v : View} {f f' g : Floor} (h : f.SameIn v none g) (reads : f.Reads f')
    (stays : f.Stays f') : f'.SameIn v none g where
  script slug := (reads.script slug).symm ▸ h.script slug
  policy := stays.policy.trans h.policy
  making := stays.making.trans h.making
  access slug user := (stays.access slug user).trans (h.access slug user)
  commands := reads.commands.trans h.commands
  held _ mem := nomatch mem
  grounded whole := ⟨stays.grounded (h.grounded whole).1, (h.grounded whole).2⟩

/-- A floor whose connections are grounded is the same as itself. -/
theorem SameIn.refl {v : View} {f : Floor} (grounded : f.Grounded) : f.SameIn v none f :=
  ⟨fun _ => .refl _, rfl, rfl, fun _ _ => rfl, rfl, fun _ mem => (nomatch mem),
    fun _ => ⟨grounded, grounded⟩⟩

end Floor

namespace Operation

/-- The operation is a preview. -/
def isPreview : Operation → Bool
  | preview _ | previewByHand _ => true
  | _ => false

/-- **What a preview changes** is on the floor. -/
theorem run_of_isPreview {op : Operation} (h : op.isPreview = true) (user : String) (d : Desk) :
    ∃ floor, (op.run user d).2 = { d with floor := floor } ∧ d.floor.Reads floor
      ∧ (d.floor.Grounded → d.floor.Stays floor) := by
  have ends (x : FloorM OrderPreview) : ((do
      return .preview (← Desk.runFloor x) : DeskM Answer) d).2
        = { d with floor := (x d.floor).2 } := by
    have ran : Desk.runFloor x d = ((x d.floor).1, { d with floor := (x d.floor).2 }) := rfl
    rw [Run.bind_apply, ran]
    cases (x d.floor).1 <;> rfl
  cases op with
  | preview r =>
    exact ⟨(Floor.previewFor d.reference r user false d.floor).2,
      (congrArg Prod.snd (Run.get_bind _ d)).trans (ends _),
      Floor.asks_previewFor d.reference r user false d.floor⟩
  | previewByHand r =>
    exact ⟨(Floor.previewManual d.reference r user d.floor).2,
      (congrArg Prod.snd (Run.get_bind _ d)).trans (ends _),
      Floor.asks_previewManual d.reference r user d.floor⟩
  | _ => cases h

end Operation

/-! ## What is asked after a preview -/

namespace Desk

variable {d e : Desk}

/-- A desk whose connections are grounded is the same as itself. -/
theorem SameIn.refl {v : View} (grounded : d.floor.Grounded) : d.SameIn v none d :=
  ⟨rfl, .refl grounded, .refl _, rfl⟩

/-- **A preview at one of two desks** leaves them the same. -/
theorem SameIn.previews (h : d.SameIn .whole none e) {op : Operation}
    (previews : op.isPreview = true) (user : String) : (op.run user d).2.SameIn .whole none e := by
  obtain ⟨floor, ended, reads, stays⟩ := op.run_of_isPreview previews user d
  rw [ended]
  exact { h with floor := h.floor.asks reads (stays (h.floor.grounded rfl).1) }

namespace SameIn

/-- **One cancel** at two desks whose stores are the same. -/
theorem respects_cancelOne (user id : String) :
    Respects (SameIn .whole none) (cancelOne user id : StateM Desk (Except Failure Retired)) := by
  intro d e h
  have store : d.store = e.store := h.store.eq
  show (cancelOne user id d).1 = (cancelOne user id e).1
    ∧ SameIn .whole none (cancelOne user id d).2 (cancelOne user id e).2
  unfold cancelOne
  rw [← store]
  cases d.store.ledger.cancelable user id with
  | error failure => exact ⟨rfl, h⟩
  | ok o =>
    obtain ⟨r, f, g, first, second, floor⟩ :=
      (Floor.respects_cancelAtVenue d.reference user o d.floor e.floor h.floor).ran
    dsimp only
    rw [← h.reference, first, second]
    rcases r with failure | _
    · exact ⟨rfl, rfl, floor, .refl _, h.clientIds⟩
    · dsimp only
      rcases Store.updateRow o OrderStatus.canceled.name none d.store with ⟨failure | ticket, s⟩ <;>
      exact ⟨rfl, rfl, floor, .refl s, h.clientIds⟩

theorem cancelsAlike (user : String) : CancelsAlike (SameIn .whole none) user :=
  ⟨fun _ _ h _ => by rw [h.store.eq], SameIn.respects_notify, respects_cancelOne user⟩

/-- What the store alone answers. -/
theorem respects_askStore (x : Store → Except Failure Answer) :
    Respects (SameIn .whole none) (Operation.askStore x).run :=
  fun _ _ h => ⟨congrArg x h.store.eq, h⟩

/-- In the whole view, placements are the same. -/
theorem respects_placement (p : Placement) : Respects (SameIn .whole none) p.run.run :=
  Matches.respects p.matches_run

/-- **Every operation but a preview** does the same at desks that are the same. -/
theorem respects_run {op : Operation} (h : op.isPreview = false) (user : String) :
    Respects (SameIn .whole none) (op.run user).run := by
  cases op with
  | place r => exact .seq (respects_placement (.byStrategy r user)) fun _ => .answer _
  | placeByHand r => exact .seq (respects_placement (.byHand r user)) fun _ => .answer _
  | cancel id => exact .seq ((cancelsAlike user).respects_cancelOrder id) fun _ => .answer _
  | fill id => exact .seq ((cancelsAlike user).respects_handleFill id) fun _ => .answer _
  | preview r => cases h
  | previewByHand r => cases h
  | order | orders | openOrders | holdings => exact respects_askStore _

end SameIn

/-- **Connections stay grounded**, whatever is asked. -/
theorem grounded_run (grounded : d.floor.Grounded) (op : Operation) (user : String) :
    (op.run user d).2.floor.Grounded := by
  cases previews : op.isPreview with
  | true => exact (((SameIn.refl grounded).previews previews user).floor.grounded rfl).1
  | false => exact ((SameIn.respects_run previews user _ _ (.refl grounded)).2.floor.grounded rfl).1

/-! ## Transparency -/

/-- **What comes of an operation**: the answer, and what there is after it to be seen from
outside. -/
structure Outcome where
  op : Operation
  answer : Except Failure Answer
  store : Store
  clientIds : Nat
  /-- All commands that were given so far. -/
  commands : List JournalEntry

/-- What comes of an operation that ended so. -/
def Outcome.of (op : Operation) (ended : Except Failure Answer × Desk) : Outcome :=
  ⟨op, ended.1, ended.2.store, ended.2.clientIds, ended.2.floor.commands⟩

/-- **What a desk is asked**, one after the other and each time by a user, and what comes
of it. -/
def serve : List (String × Operation) → Desk → List Outcome
  | [], _ => []
  | (user, op) :: rest, d => .of op (op.run user d) :: serve rest (op.run user d).2

/-- What else is asked comes out the same at a desk that gives no previews. -/
theorem serve_of_sameIn (h : d.SameIn .whole none e) (asked : List (String × Operation)) :
    (serve asked d).filter (!·.op.isPreview) = serve (asked.filter (!·.2.isPreview)) e := by
  induction asked generalizing d e with
  | nil => rfl
  | cons first rest ih =>
    obtain ⟨user, op⟩ := first
    rw [serve, List.filter_cons, List.filter_cons]
    cases previews : op.isPreview with
    | true =>
      -- the preview is left out on both sides, and only the first desk gives it
      rw [if_neg (by simp [Outcome.of, previews]), if_neg (by simp)]
      exact ih (h.previews previews user)
    | false =>
      obtain ⟨answer, after⟩ := SameIn.respects_run previews user d e h
      rw [if_pos (by simp [Outcome.of, previews]), if_pos (by simp), serve]
      refine congrArg₂ List.cons ?_ (ih after)
      exact (Outcome.mk.injEq ..).mpr
        ⟨rfl, answer, after.store.eq, after.clientIds, after.floor.commands⟩

/-- **Previews are transparent.** A preview gives no command, writes nothing and uses up
nothing. It also changes nothing for what is asked later, on a floor where connections are
grounded, and they stay so: whatever a desk is asked, what comes of everything but the
previews is what comes of it when the previews are not asked for. -/
theorem previews_are_transparent (d : Desk) :
    (∀ (op : Operation) (user : String), op.isPreview = true →
      (op.run user d).2.store = d.store
      ∧ (op.run user d).2.clientIds = d.clientIds
      ∧ (op.run user d).2.floor.commands = d.floor.commands)
    ∧ (d.floor.Grounded →
      (∀ (op : Operation) (user : String), (op.run user d).2.floor.Grounded)
      ∧ ∀ asked : List (String × Operation),
        (serve asked d).filter (!·.op.isPreview) = serve (asked.filter (!·.2.isPreview)) d) := by
  refine ⟨fun op user previews => ?_, fun grounded =>
    ⟨grounded_run grounded, serve_of_sameIn (.refl grounded)⟩⟩
  obtain ⟨floor, ended, reads, -⟩ := op.run_of_isPreview previews user d
  rw [ended]
  exact ⟨rfl, rfl, reads.commands⟩

/-- A preview, and an order after it. -/
theorem previews_are_transparent_oneCoin :
    (small [] {}).floor.Grounded
    ∧ ((Operation.preview oneCoin).run "u1" (small [] {})).2.store = (small [] {}).store
    ∧ ((Operation.preview oneCoin).run "u1" (small [] {})).2.floor.connections.length = 1
    ∧ (serve [("u1", .preview oneCoin), ("u1", .place oneCoin)] (small [] {})).filter
        (!·.op.isPreview) = serve [("u1", .place oneCoin)] (small [] {}) := by
  have grounded : (small [] {}).floor.Grounded := fun _ mem => (nomatch mem)
  obtain ⟨alone, later⟩ := previews_are_transparent (small [] {})
  exact ⟨grounded, (alone (.preview oneCoin) "u1" rfl).1, by decide +kernel,
    (later grounded).2 _⟩

end Desk

end OrderDesk
