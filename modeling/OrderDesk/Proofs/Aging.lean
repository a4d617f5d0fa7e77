import OrderDesk.Proofs.Moves

/-!
# How rows age

Rows are written and never taken back. What can happen to a row afterwards is little: while
its order is open it can be canceled, and then it stays as it is. Beside that only the
status of a named order is set from outside, and with it the filled amount and the time of
the last change. Nothing else of a row ever changes, whoever asks for whatever, and whether
it succeeds or fails.
-/

namespace OrderDesk

namespace Order

/-- **A row ages**: it stays as it is, or it is canceled while it is open. -/
inductive Ages (o : Order) : Order → Prop where
  | same : Ages o o
  | canceled (isOpen : o.isOpen = true) (time : Stamp) : Ages o (o.canceledAt time)

/-- **What can be set from outside**: the status, the filled amount, and with them the time
of the last change. -/
def SetTo (o o' : Order) : Prop :=
  ∃ status executed time,
    o' = { o with status := status, executed := executed, updatedAt := time }

variable {o o' o'' : Order}

/-- A canceled row stays as it is. -/
theorem Ages.trans (h : o.Ages o') (k : o'.Ages o'') : o.Ages o'' := by
  cases h with
  | same => exact k
  | canceled isOpen time =>
    cases k with
    | same => exact .canceled isOpen time
    | canceled again => cases again

/-- A row that is not open does not age. -/
theorem Ages.eq_of_closed (h : o.Ages o') (closed : o.isOpen = false) : o' = o := by
  cases h with
  | same => rfl
  | canceled isOpen =>
    rw [closed] at isOpen
    cases isOpen

/-- Aging changes nothing that cannot be set from outside. -/
theorem Ages.setTo (h : o.Ages o') : o.SetTo o' := by
  cases h with
  | same => exact ⟨o.status, o.executed, o.updatedAt, rfl⟩
  | canceled _ time => exact ⟨_, o.executed, time, rfl⟩

theorem SetTo.trans (h : o.SetTo o') (k : o'.SetTo o'') : o.SetTo o'' := by
  obtain ⟨_, _, _, rfl⟩ := h
  obtain ⟨status, executed, time, rfl⟩ := k
  exact ⟨status, executed, time, rfl⟩

end Order

namespace Ledger

variable {l l' : Ledger} {named : String → Prop}

/-- **A ledger ages**: every row is still there, and has aged, or its status was set when
its order is among those that are named. -/
def Ages (named : String → Prop) (l l' : Ledger) : Prop :=
  ∀ id o, l.find? id = some o →
    ∃ o', l'.find? id = some o' ∧ (o.Ages o' ∨ named id ∧ o.SetTo o')

instance (named : String → Prop) : IsPreorder Ledger (Ages named) where
  refl _ _ o found := ⟨o, found, .inl .same⟩
  trans _ _ _ h k id o found := by
    obtain ⟨o', found', first⟩ := h id o found
    obtain ⟨o'', found'', second⟩ := k id o' found'
    refine ⟨o'', found'', ?_⟩
    rcases first with aged | ⟨isNamed, set⟩
    · rcases second with aged' | ⟨isNamed, set⟩
      · exact .inl (aged.trans aged')
      · exact .inr ⟨isNamed, aged.setTo.trans set⟩
    · rcases second with aged' | ⟨-, set'⟩
      · exact .inr ⟨isNamed, set.trans aged'.setTo⟩
      · exact .inr ⟨isNamed, set.trans set'⟩

/-- More orders may be named. -/
theorem Ages.mono {named' : String → Prop} (h : l.Ages named l')
    (more : ∀ id, named id → named' id) : l.Ages named' l' := by
  intro id o found
  obtain ⟨o', found', aged⟩ := h id o found
  exact ⟨o', found', aged.imp_right (And.imp_left (more id))⟩

/-- **A step of a user** lets rows age, and names none. -/
theorem Step.ages {user : String} (h : l.Step user l') : l.Ages named l' := by
  intro id o found
  cases h with
  | written after owned =>
    refine ⟨o, ?_, .inl .same⟩
    show l'.rows.find? _ = some o
    rw [after, List.find?_append, show l.rows.find? _ = some o from found]
    rfl
  | @closed id' o' has time =>
    by_cases same : id = id'
    · subst same
      obtain rfl := Option.some.inj (has.stored.symm.trans found)
      exact ⟨_, find?_close_self time found, .inl (.canceled has.isOpen time)⟩
    · exact ⟨o, (find?_close_other time same).trans found, .inl .same⟩

/-- **Setting a status** names one order. -/
theorem ages_updateStatus (id status : String) (executed : Option Float) (s : Store) :
    s.ledger.Ages (id = ·) (Store.updateStatus id status executed s).2.ledger := by
  rcases ran : Store.updateStatus id status executed s with ⟨r, t⟩
  show s.ledger.Ages _ t.ledger
  rcases Store.updateStatus_cases ran with
    ⟨e, -, idle⟩ | ⟨-, -, idle⟩ | ⟨o', time, found', -, ledger, -⟩
  · rw [idle.ledger]
    exact refl_of (Ages _) s.ledger
  · rw [idle.ledger]
    exact refl_of (Ages _) s.ledger
  · rw [ledger]
    intro other o found
    by_cases same : other = id
    · subst same
      exact ⟨_, find?_update_self found, .inr ⟨rfl, _, _, _, rfl⟩⟩
    · exact ⟨o, (find?_update_other same).trans found, .inl .same⟩

/-- What is not open stays as it is, unless it is named. -/
theorem Ages.find?_of_closed (h : l.Ages named l') {id : String} {o : Order}
    (found : l.find? id = some o) (closed : o.isOpen = false) (unnamed : ¬ named id) :
    l'.find? id = some o := by
  obtain ⟨o', found', aged | ⟨isNamed, -⟩⟩ := h id o found
  · rwa [aged.eq_of_closed closed] at found'
  · exact absurd isNamed unnamed

end Ledger

/-! ## Acts -/

/-- **What happens to a desk**: a user asks for something, the status of an order is set
from outside, or the surroundings change. -/
inductive Act where
  | ask (user : String) (op : Operation)
  | setStatus (id status : String) (executed : Option Float)
  /-- The catalogue changes, the venues and what they will answer, and what is planned to
  fail. -/
  | change (reference : Reference) (floor : Floor) (plan : FailurePlan)

namespace Act

/-- What an act does to the desk. -/
def apply (d : Desk) : Act → Desk
  | ask user op => (op.run user d).2
  | setStatus id status executed => (Desk.runStore (Store.updateStatus id status executed) d).2
  | change reference floor plan =>
    { d with reference := reference, floor := floor, store := { d.store with plan := plan } }

/-- The act sets the status of an order. -/
def Sets (id : String) : Act → Prop
  | setStatus other _ _ => other = id
  | _ => False

/-- **One act** lets rows age. -/
theorem ages_apply (a : Act) (d : Desk) :
    d.store.ledger.Ages (fun id => a.Sets id) (a.apply d).store.ledger := by
  cases a with
  | ask user op => exact (Desk.moves_run op user d).keeps Ledger.Step.ages
  | setStatus id status executed =>
    show d.store.ledger.Ages _ (Store.updateStatus id status executed d.store).2.ledger
    exact Ledger.ages_updateStatus id status executed d.store
  | change reference floor plan => exact refl_of (Ledger.Ages _) d.store.ledger

end Act

namespace Desk

/-- **The desk after some acts.** -/
def after (acts : List Act) (d : Desk) : Desk := acts.foldl Act.apply d

/-- Several acts let rows age. -/
theorem ages_after (acts : List Act) (d : Desk) :
    d.store.ledger.Ages (fun id => ∃ a ∈ acts, a.Sets id) (d.after acts).store.ledger := by
  -- from any desk on, since every act moves the beginning of the rest
  induction acts generalizing d with
  | nil => exact refl_of (Ledger.Ages _) d.store.ledger
  | cons a rest ih =>
    refine trans_of (Ledger.Ages _) ((a.ages_apply d).mono fun id sets => ?_)
      ((ih (a.apply d)).mono fun id ⟨b, mem, sets⟩ => ?_)
    · exact ⟨a, List.mem_cons_self .., sets⟩
    · exact ⟨b, List.mem_cons_of_mem _ mem, sets⟩

/-- **The ledger is append-only**: whatever users ask for, and however it ends, no row
disappears, and of a row that is there only the status and the time of the last change can
change, and only when an open order is canceled. What was set from outside names its order,
and then nothing changes beside the status, the filled amount and that time. An order that
is not open stays as it is unless it is named. -/
theorem ledger_is_append_only (acts : List Act) (d : Desk) :
    d.store.ledger.Ages (fun id => ∃ a ∈ acts, a.Sets id) (d.after acts).store.ledger
    ∧ ∀ o ∈ d.store.ledger.rows, o.status ∉ Ledger.openStatuses →
        (∀ a ∈ acts, ¬ a.Sets o.id) → o ∈ (d.after acts).store.ledger.rows := by
  have ages := ages_after acts d
  refine ⟨ages, fun o mem closed unnamed => ?_⟩
  have isClosed : o.isOpen = false := by
    rw [Bool.eq_false_iff]
    exact fun isOpen => closed (o.isOpen_iff.mp isOpen)
  refine Ledger.mem_of_find? (ages.find?_of_closed (Ledger.find?_of_mem mem) isClosed ?_)
  rintro ⟨a, among, sets⟩
  exact unnamed a among sets

end Desk

/-! ## A small ledger -/

/-- The row of an order for one coin. -/
def Order.small (id user status : String) (link : Option String) : Order where
  id := id
  venueOrderId := id
  clientId := none
  user := user
  venue := "binance"
  baseCoin := some "btc"
  quoteCoin := some "usdt"
  symbol := "BTC/USDT"
  side := "BUY"
  type := "LIMIT"
  status := status
  isManual := false
  isAlgorithmic := true
  quantity := 1.0
  price := some 1.0
  executed := some 0.0
  average := none
  cost := some 0.0
  fee := some 0.0
  feeCurrency := none
  estimatedFee := none
  estimatedSlippage := none
  stopPrice := none
  trailingAmount := none
  trailingType := none
  takeProfitPrice := none
  stopLossPrice := none
  timeInForce := none
  link := link
  transactTime := .tick 0
  createdAt := .tick 0
  updatedAt := .tick 0

/-- Two users whose open orders are linked, and a filled order of the first. -/
def Ledger.ofTwo : Ledger where
  rows := [.small "o1" "u1" "FILLED" none, .small "o2" "u1" "NEW" (some "o3"),
    .small "o3" "u2" "NEW" (some "o2")]
  distinct := by decide

namespace Desk

/-- A desk with these orders, whose only venue has these answers to the next cancels. -/
def holding (ledger : Ledger) (cancels : List CancelAnswer) : Desk :=
  { small [] {} with
    floor := { venues := [("binance", { cancels := cancels })] }
    store := { ledger := ledger } }

/-- Another order is canceled and set to filled, and so is the attempt to cancel the filled
one made. -/
def smallActs : List Act :=
  [.ask "u1" (.cancel "o2"), .setStatus "o2" "FILLED" (some 1.0), .ask "u1" (.cancel "o1")]

theorem ledger_is_append_only_ofTwo :
    .small "o1" "u1" "FILLED" none
      ∈ ((holding .ofTwo []).after smallActs).store.ledger.rows :=
  (ledger_is_append_only smallActs (holding .ofTwo [])).2 _ (List.mem_cons_self ..) (by decide)
    (by simp [smallActs, Act.Sets, Order.small])

end Desk

end OrderDesk
