import OrderDesk.Proofs.Hearing
import OrderDesk.Proofs.Recording
import OrderDesk.Proofs.Validating

/-!
# Which protective orders are submitted, and what becomes of them

Once an entry stands, its protection is submitted: first a stop at the stop-loss price, then a
limit order at the take-profit price, as far as the request states the two. Both are on the
other side and for the quantity of the entry's row, each under an identifier that was made up
for it.
-/

namespace OrderDesk

/-! ## Identifiers that are made up -/

/-- The text of a number reads back, so that no two numbers have the same. -/
theorem Number.digitsText_injective : Function.Injective digitsText := by
  have readBack : ∀ n, (digitsText n).toList.filterMap Text.plainDigit? = Text.toDigits n := by
    intro n
    unfold digitsText
    rw [String.toList_ofList, List.filterMap_map]
    conv_rhs => rw [← List.filterMap_some (l := Text.toDigits n)]
    exact List.filterMap_congr fun digit mem =>
      Text.plainDigit?_digitChar (Text.lt_ten_of_mem_toDigits digit mem)
  intro m n same
  rw [← Text.ofDigits_toDigits m, ← Text.ofDigits_toDigits n, ← readBack m, ← readBack n, same]

namespace Desk

/-! ## The legs of a protection -/

/-- The identifier that is made up for a caller as the `n`-th. -/
def madeUpId (n : Nat) : String := "cid-" ++ Number.digitsText n

theorem madeUpId_injective : Function.Injective madeUpId := fun _ _ same =>
  Number.digitsText_injective ((String.append_right_inj "cid-").mp same)

/-- **The protective legs of an entry**, after so many identifiers were made up. -/
def protectiveLegs (r : OrderRequest) (quantity : Float) (made : Nat) : List Leg :=
  let side := r.side.opposite
  match r.stopLossPrice, r.takeProfitPrice with
  | none, none => []
  | some x, none => [stopProtection side quantity x (madeUpId (made + 1))]
  | none, some y => [profitProtection side quantity y (madeUpId (made + 1))]
  | some x, some y =>
    [stopProtection side quantity x (madeUpId (made + 1)),
      profitProtection side quantity y (madeUpId (made + 2))]

/-- The stop of a protection, as the venue hears of it. -/
def stopOrder (symbol : String) (side : Side) (quantity price : Float) (clientId : String) :
    Submission where
  symbol := symbol
  execution := .market
  side := Text.lower side.name
  amount := quantity
  price := none
  extras := { clientOrderId := some (.text clientId), stopLossPrice := some (.real price) }

/-- The limit order of a protection that takes profit, as the venue hears of it. -/
def profitOrder (symbol : String) (side : Side) (quantity price : Float) (clientId : String) :
    Submission where
  symbol := symbol
  execution := .limit
  side := Text.lower side.name
  amount := quantity
  price := some price
  extras := { clientOrderId := some (.text clientId), takeProfitPrice := some (.real price) }

/-- **The protective orders of an entry**, after so many identifiers were made up. -/
def protectiveOrders (symbol : String) (r : OrderRequest) (quantity : Float) (made : Nat) :
    List Submission :=
  let side := r.side.opposite
  match r.stopLossPrice, r.takeProfitPrice with
  | none, none => []
  | some x, none => [stopOrder symbol side quantity x (madeUpId (made + 1))]
  | none, some y => [profitOrder symbol side quantity y (madeUpId (made + 1))]
  | some x, some y =>
    [stopOrder symbol side quantity x (madeUpId (made + 1)),
      profitOrder symbol side quantity y (madeUpId (made + 2))]

section

variable {r : OrderRequest} {quantity : Float}

/-- The legs that are made up are the protective ones. -/
theorem protectionLegs_apply (positive : r.IsPositive) (quantity : Float) (d : Desk) :
    protectionLegs r quantity d = (protectiveLegs r quantity d.clientIds,
      { d with clientIds := d.clientIds + (protectiveLegs r quantity d.clientIds).length }) := by
  have stop : OrderRequest.stated r.stopLossPrice = r.stopLossPrice :=
    OrderRequest.stated_of_pos positive.stopLossPrice
  have profit : OrderRequest.stated r.takeProfitPrice = r.takeProfitPrice :=
    OrderRequest.stated_of_pos positive.takeProfitPrice
  unfold protectionLegs protectionAt protectiveLegs
  rw [stop, profit]
  cases r.stopLossPrice <;> cases r.takeProfitPrice <;> rfl

theorem isPresent_madeUpId (n : Nat) : (Payload.text (madeUpId n)).isPresent = true := by
  show (!("cid-" ++ Number.digitsText n).isEmpty) = true
  simp

/-- What every order may set, in an order under an identifier that was made up. -/
theorem commonExtras_of_madeUpId {i : Instruction} {n : Nat}
    (id : i.terms.clientId = some (.text (madeUpId n))) (stands : i.terms.timeInForce = none) :
    i.commonExtras = { clientOrderId := some (.text (madeUpId n)) } := by
  unfold Instruction.commonExtras
  rw [id, stands, Option.filter_some, isPresent_madeUpId]
  rfl

/-- The stop of a protection can be put into the venue's words. -/
theorem shape_stopProtection (ctx : Context) (side : Side) (quantity price : Float) (n : Nat) :
    ((stopProtection side quantity price (madeUpId n)).instruction ctx.symbol).shape ctx.slug
      = .ok (stopOrder ctx.symbol side quantity price (madeUpId n)) := by
  rw [Instruction.shape, Run.bind_of_ok (Instruction.arguments_stopLoss rfl rfl) rfl,
    commonExtras_of_madeUpId rfl rfl]
  rfl

/-- So can the limit order that takes profit. -/
theorem shape_profitProtection (ctx : Context) (side : Side) (quantity price : Float) (n : Nat)
    (positive : 0.0 < price) :
    ((profitProtection side quantity price (madeUpId n)).instruction ctx.symbol).shape ctx.slug
      = .ok (profitOrder ctx.symbol side quantity price (madeUpId n)) := by
  rw [Instruction.shape,
    Run.bind_of_ok (Instruction.arguments_takeProfit rfl rfl rfl positive) rfl,
    commonExtras_of_madeUpId rfl rfl]
  rfl

/-- **A leg is put into the venue's words** as an order. -/
def ShapedAs (ctx : Context) (leg : Leg) (order : Submission) : Prop :=
  (leg.instruction ctx.symbol).shape ctx.slug = .ok order

/-- A leg is put into the venue's words in one way. -/
theorem ShapedAs.unique {ctx : Context} {leg : Leg} {order other : Submission}
    (h : ShapedAs ctx leg order) (k : ShapedAs ctx leg other) : other = order :=
  Except.ok.inj (k.symm.trans h)

/-- **The protective legs are put into the venue's words** as the protective orders. -/
theorem shaped_protectiveLegs (positive : r.IsPositive) (ctx : Context) (quantity : Float)
    (made : Nat) :
    List.Forall₂ (ShapedAs ctx) (protectiveLegs r quantity made)
      (protectiveOrders ctx.symbol r quantity made) := by
  have target := positive.takeProfitPrice
  unfold protectiveLegs protectiveOrders
  cases r.stopLossPrice with
  | none =>
    cases profit : r.takeProfitPrice with
    | none => exact .nil
    | some y => exact .cons (shape_profitProtection ctx _ _ y _ (target y profit)) .nil
  | some x =>
    have stops := shape_stopProtection ctx r.side.opposite quantity x (made + 1)
    cases profit : r.takeProfitPrice with
    | none => exact .cons stops .nil
    | some y =>
      exact .cons stops (.cons (shape_profitProtection ctx _ _ y _ (target y profit)) .nil)

end

/-! ## What becomes of a leg -/

section

variable {ctx : Context} {leg : Leg} {legs : List Leg} {d d' : Desk} {t u : Trail}

/-- **What becomes of a protective leg** whose answer is not mute, with the trail that it
leaves. -/
inductive Fate (ctx : Context) (leg : Leg) (d : Desk) : Trail → Prop where
  /-- The venue gave no acknowledgement: there is neither a row nor an incident. -/
  | refused {order : Submission} {accepted : List (Submission × Payload)}
      (shaped : ShapedAs ctx leg order) (noAck : order.NoAck accepted) :
      Fate ctx leg d { commands := [.submitted ctx.slug order], accepted := accepted }
  /-- The venue acknowledged the leg and the store has it: there is one row, which is not
  linked. -/
  | stored {x : Submission × Payload} {row : Order}
      (records : row.Records ctx leg { isManual := true } x) (alone : row.link = none) :
      Fate ctx leg d (.filing ctx.slug x row)
  /-- The venue acknowledged the leg and the store does not have it: there is one incident,
  about this order. -/
  | reported {order : Submission} {answer : Payload} {ack : Ack} {x : Escalation}
      {incident : Incident} (shaped : ShapedAs ctx leg order)
      (read : order.readAck answer = .ok ack) (escalated : escalation? ctx leg d = some x)
      (writes : (Store.createIncident x.divergence.report x.desk.store).1 = .ok incident)
      (names : incident.orderId = some ack.id) :
      Fate ctx leg d { commands := [.submitted ctx.slug order], accepted := [(order, answer)],
                       alarms := [.unreconciled x.divergence], incidents := [incident] }
  /-- The writing of that incident failed as well, and a second alarm says so. -/
  | lost {order : Submission} {answer : Payload} {ack : Ack} {x : Escalation} {e : Fault}
      (shaped : ShapedAs ctx leg order) (read : order.readAck answer = .ok ack)
      (escalated : escalation? ctx leg d = some x)
      (fails : (Store.createIncident x.divergence.report x.desk.store).1 = .error e) :
      Fate ctx leg d { commands := [.submitted ctx.slug order], accepted := [(order, answer)],
                       alarms := [.unreconciled x.divergence, .incidentLost [ack.id]] }

/-- **What becomes of protective legs**, one after the other: each has its fate, or a mute
answer to it cuts the legs off that would come after it. -/
inductive Fates (ctx : Context) (entryId : String) : List Leg → Desk → Trail → Prop where
  | done {d : Desk} : Fates ctx entryId [] d {}
  | next {leg : Leg} {rest : List Leg} {d d₁ : Desk} {t u : Trail} (fate : Fate ctx leg d t)
      (unmuted : ∀ x ∈ t.accepted, ¬ Mute x) (later : afterLeg? ctx entryId leg d = some d₁)
      (fates : Fates ctx entryId rest d₁ u) : Fates ctx entryId (leg :: rest) d (t ++ u)
  | broken {leg : Leg} {rest : List Leg} {d : Desk} {x : Submission × Payload}
      (shaped : ShapedAs ctx leg x.1) (mute : Mute x) :
      Fates ctx entryId (leg :: rest) d
        { commands := [.submitted ctx.slug x.1], accepted := [x] }

/-- **Each protective leg has its fate**, and none is cut off. The trails are those of the legs,
in their order. -/
inductive EachFate (ctx : Context) (entryId : String) : List Leg → Desk → List Trail → Prop where
  | nil {d : Desk} : EachFate ctx entryId [] d []
  | cons {leg : Leg} {rest : List Leg} {d d₁ : Desk} {t : Trail} {trails : List Trail}
      (fate : Fate ctx leg d t) (later : afterLeg? ctx entryId leg d = some d₁)
      (fates : EachFate ctx entryId rest d₁ trails) :
      EachFate ctx entryId (leg :: rest) d (t :: trails)

/-- **The venues hear the commands of a trail**, and nothing else. -/
def Hears (d d' : Desk) (t : Trail) : Prop := d'.floor.journal = d.floor.journal ++ t.commands

theorem Hears.trans {d'' : Desk} (h : Hears d d' t) (k : Hears d' d'' u) :
    Hears d d'' (t ++ u) := by
  unfold Hears at *
  rw [k, h, List.append_assoc]
  rfl

theorem Hears.done {d'' : Desk} (h : Hears d d' t) (k : Unheard d' d'') : Hears d d'' t :=
  Eq.trans k h

theorem Unheard.then {d'' : Desk} (h : Unheard d d') (k : Hears d' d'' t) : Hears d d'' t :=
  Eq.trans k (congrArg (· ++ t.commands) h)

/-- What a protective leg says is its one submission. -/
theorem hears_placeProtection {order : Submission} (shaped : ShapedAs ctx leg order)
    (h : Leaves ctx.slug d (placeProtection ctx leg d).2 t) :
    t.commands = [.submitted ctx.slug order] ∧ Hears d (placeProtection ctx leg d).2 t := by
  have heard := journal_placeProtection shaped d
  have given := h.commands
  unfold Floor.commands at given
  rw [heard, List.filter_append] at given
  have same : t.commands = [.submitted ctx.slug order] := (List.append_cancel_left given).symm
  refine ⟨same, ?_⟩
  unfold Hears
  rw [heard, same]

/-- **What becomes of one protective leg.** Only a mute answer is an unforeseen failure. -/
theorem fate_placeProtection {order : Submission} (shaped : ShapedAs ctx leg order) (d : Desk) :
    ∃ t, Leaves ctx.slug d (placeProtection ctx leg d).2 t
      ∧ Hears d (placeProtection ctx leg d).2 t
      ∧ (Faults (placeProtection ctx leg d).1
          ∧ (∃ x, ShapedAs ctx leg x.1 ∧ Mute x
            ∧ t = { commands := [.submitted ctx.slug x.1], accepted := [x] })
        ∨ ¬ Faults (placeProtection ctx leg d).1 ∧ (∀ x ∈ t.accepted, ¬ Mute x)
          ∧ Fate ctx leg d t) := by
  have ends := placesLeg ctx leg d
  obtain ⟨t, settled, settles⟩ := ends.settles
  have unmuted : ¬ Faults (placeProtection ctx leg d).1 → ∀ x ∈ t.accepted, ¬ Mute x :=
    fun whole x mem mute => whole (settles.broken.mpr ⟨x, mem, mute⟩)
  rcases ran : placeProtection ctx leg d with ⟨res, d'⟩
  have submitted : ∀ {t}, Leaves ctx.slug d d' t →
      t.commands = [.submitted ctx.slug order] ∧ Hears d d' t := by
    intro t leaves
    rw [← show (placeProtection ctx leg d).2 = d' from congrArg Prod.snd ran] at leaves ⊢
    exact hears_placeProtection shaped leaves
  rw [ran] at ends settled unmuted
  cases ends with
  | @placed _ _ _ _ filed _ read word is alone calm leaves =>
    obtain ⟨x, records, filing⟩ := records_placeProtection ran
    obtain rfl := settled.unique filing
    have whole := not_faults_ok filed
    exact ⟨_, filing, (submitted filing).2, .inr ⟨whole, unmuted whole, .stored records alone⟩⟩
  | failed unplaced calm leaves =>
    obtain ⟨same, heard⟩ := submitted leaves
    obtain rfl := settled.unique leaves
    have whole := unmuted (not_faults_of_isForeseen rfl)
    cases unplaced with
    | unshaped => cases same
    | attempted noAck =>
      cases same
      exact ⟨_, leaves, heard, .inr ⟨not_faults_of_isForeseen rfl, whole, .refused shaped noAck⟩⟩
  | unrecorded read word calm leaves =>
    obtain ⟨same, heard⟩ := submitted leaves
    cases same
    exact ⟨_, leaves, heard, .inl ⟨⟨_, rfl, rfl⟩, (_, _), shaped, ⟨_, _, read, word⟩, rfl⟩⟩
  | @diverged _ _ ack _ x _ _ read word names escalated shown leaves =>
    obtain ⟨same, heard⟩ := submitted leaves
    obtain rfl := settled.unique leaves
    refine ⟨_, leaves, heard, .inr ⟨not_faults_of_isForeseen rfl,
      unmuted (not_faults_of_isForeseen rfl), ?_⟩⟩
    cases shown with
    | @recorded incident writes reports =>
      cases same
      refine .reported shaped read escalated writes ?_
      rw [reports.orderId]
      show some (Notice.joined x.divergence.venueOrderIds) = _
      rw [names]
      rfl
    | lost fails =>
      cases same
      rw [names]
      exact .lost shaped read escalated fails

/-- **What becomes of protective legs** that can be put into the venue's words. -/
theorem fates_placeEach (entryId : String) {orders : List Submission}
    (shaped : List.Forall₂ (ShapedAs ctx) legs orders) (d : Desk) :
    ∃ t, Leaves ctx.slug d (placeEach ctx entryId legs d).2 t
      ∧ Hears d (placeEach ctx entryId legs d).2 t ∧ Fates ctx entryId legs d t := by
  -- on the legs, for every desk: each leg begins where the one before has ended
  induction shaped generalizing d with
  | nil => exact ⟨{}, refl_of (Silent ctx.slug) d, (List.append_nil _).symm, .done⟩
  | @cons leg order rest _ first _ ih =>
    obtain ⟨t, leaves, heard, fate⟩ := fate_placeProtection first d
    rcases placeEach_cons ctx entryId leg rest d with
      ⟨filed, d₁, ran, later, placed⟩ | ⟨e, d₁, d₂, ran, foreseen, told, later, placed⟩
        | ⟨e, d₁, ran, unforeseen, -, placed⟩
      <;> rw [ran] at leaves heard fate <;> rw [placed]
    · rcases fate with ⟨faults, -⟩ | ⟨-, unmuted, fate⟩
      · exact absurd faults (not_faults_ok filed)
      obtain ⟨u, leaves', heard', fates⟩ := ih d₁
      exact ⟨t ++ u, leaves.trans leaves', heard.trans heard', .next fate unmuted later fates⟩
    · rcases fate with ⟨faults, -⟩ | ⟨-, unmuted, fate⟩
      · exact absurd faults (not_faults_of_isForeseen foreseen)
      have silent : Silent ctx.slug d₁ d₂ := told ▸ keeps_notify ctx.slug rfl d₁
      have unheard : Unheard d₁ d₂ := told ▸ unheard_notify _ d₁
      obtain ⟨u, leaves', heard', fates⟩ := ih d₂
      exact ⟨t ++ u, (leaves.done silent).trans leaves', (heard.done unheard).trans heard',
        .next fate unmuted later fates⟩
    · rcases fate with ⟨-, x, shaped, mute, rfl⟩ | ⟨whole, -⟩
      · exact ⟨_, leaves, heard, .broken shaped mute⟩
      · exact absurd ⟨e, rfl, unforeseen⟩ whole

end

/-! ## What becomes of a protection -/

/-- Several trails as one. -/
def joined : List Trail → Trail
  | [] => {}
  | t :: rest => t ++ joined rest

section

variable {ctx : Context} {entryId : String} {legs : List Leg} {orders : List Submission}
  {d d' : Desk} {t : Trail} {r : OrderRequest}

/-- **No leg is cut off** when no answer is mute: each has its fate. -/
theorem Fates.each (h : Fates ctx entryId legs d t) (unmuted : ∀ x ∈ t.accepted, ¬ Mute x) :
    ∃ trails, EachFate ctx entryId legs d trails ∧ t = joined trails := by
  induction h with
  | done => exact ⟨[], .nil, rfl⟩
  | next fate _ later _ ih =>
    obtain ⟨trails, fates, rfl⟩ := ih fun x mem => unmuted x (List.mem_append_right _ mem)
    exact ⟨_ :: trails, .cons fate later fates, rfl⟩
  | broken _ mute => exact absurd mute (unmuted _ (List.mem_singleton.mpr rfl))

/-- Whatever becomes of a leg, its order was submitted. -/
theorem Fate.commands {leg : Leg} {order : Submission} (h : Fate ctx leg d t)
    (shaped : ShapedAs ctx leg order) : t.commands = [.submitted ctx.slug order] := by
  cases h with
  | refused shaped' | reported shaped' | lost shaped' => rw [shaped.unique shaped']
  | @stored x _ records =>
    show [JournalEntry.submitted ctx.slug x.1] = _
    rw [shaped.unique records.shaped]

/-- All orders were submitted, one after the other. -/
theorem commands_joined {trails : List Trail} (shaped : List.Forall₂ (ShapedAs ctx) legs orders)
    (fates : EachFate ctx entryId legs d trails) :
    (joined trails).commands = orders.map (.submitted ctx.slug ·) := by
  induction shaped generalizing trails d with
  | nil => cases fates; rfl
  | cons first _ ih =>
    cases fates with
    | cons fate _ rest =>
      show _ ++ (joined _).commands = _
      rw [fate.commands first, ih rest]
      rfl

/-- **What attaching a protection comes to**: the legs have their fates, and the rows that they
left are linked, unless a mute answer breaks the attaching off. -/
theorem fates_protect (positive : r.IsPositive) (ctx : Context) (entry : Order) (d : Desk) :
    ∃ t d₁, Leaves ctx.slug d d₁ t ∧ Hears d d₁ t
      ∧ Fates ctx entry.id (protectiveLegs r entry.quantity d.clientIds)
          (protectionLegs r entry.quantity d).2 t
      ∧ ((∃ e, protect ctx r entry d = (.error e, d₁))
        ∨ ∃ rows d', protect ctx r entry d = (.ok (), d')
          ∧ Leaves ctx.slug d d' { t with rows := rows } ∧ Unheard d₁ d'
          ∧ Linking d₁.store d'.store t.rows rows) := by
  have made := protectionLegs_apply positive entry.quantity d
  have silent := keeps_protectionLegs ctx.slug r entry.quantity d
  have sides := side_of_protectionLegs r entry.quantity d
  have unheard : Unheard d (protectionLegs r entry.quantity d).2 := by
    rw [made]
    rfl
  have shaped := shaped_protectiveLegs positive ctx entry.quantity d.clientIds
  unfold protect
  rw [Run.lift_bind]
  rw [made] at silent sides unheard ⊢
  dsimp only at silent sides unheard ⊢
  generalize ({ d with clientIds := _ } : Desk) = d₀ at silent unheard ⊢
  obtain ⟨t, leaves, trail⟩ := leaves_placeEach ctx entry.id sides d₀
  obtain ⟨t', leaves', heard, fates⟩ := fates_placeEach entry.id shaped d₀
  obtain rfl := leaves.unique leaves'
  have said := unheard.then heard
  rw [Run.bind_apply]
  rcases ended : placeEach ctx entry.id (protectiveLegs r entry.quantity d.clientIds) d₀
    with ⟨e | placed, d₁⟩ <;> rw [ended] at leaves trail said
  · exact ⟨t, d₁, silent.then leaves, said, fates, .inl ⟨e, rfl⟩⟩
  · have stands := silent.then leaves
    obtain ⟨rows, left, linking⟩ := leaves_linking entry.id stands (trail.rows placed rfl)
    exact ⟨t, d₁, stands, said, fates,
      .inr ⟨rows, _, rfl, left, unheard_linkProtection entry.id placed d₁, linking⟩⟩

/-! ## The entry and its protection -/

/-- **Protective orders are told apart by their identifiers**: no two have the same one, and
none has one that was made up before. -/
theorem ids_protectiveOrders (symbol : String) (r : OrderRequest) (quantity : Float)
    (made : Nat) :
    (protectiveOrders symbol r quantity made).Pairwise
        (fun p q => p.extras.clientOrderId ≠ q.extras.clientOrderId)
      ∧ ∀ order ∈ protectiveOrders symbol r quantity made, ∀ n ≤ made,
        order.extras.clientOrderId ≠ some (.text (madeUpId n)) := by
  have differ : ∀ {m n : Nat}, m ≠ n →
      (some (.text (madeUpId m)) : Option Payload) ≠ some (.text (madeUpId n)) := by
    intro m n apart same
    injection same with same
    injection same with same
    exact apart (madeUpId_injective same)
  unfold protectiveOrders stopOrder profitOrder
  cases r.stopLossPrice <;> cases r.takeProfitPrice <;>
    simp only [List.Pairwise.nil, List.pairwise_cons, List.mem_cons, List.not_mem_nil, forall_eq,
      forall_eq_or_imp, or_false, false_implies, implies_true, and_true, true_and]
  · exact fun n le => differ (by omega)
  · exact fun n le => differ (by omega)
  · exact ⟨differ (by omega), fun n le => differ (by omega), fun n le => differ (by omega)⟩

/-- **An entry is protected**, from the state in which it stands to the end of the operation:
what is heard in the meantime, and what it comes to. -/
structure IsProtected (ctx : Context) (r : OrderRequest) (entry : Order) (d d' : Desk)
    (t : Trail) : Prop where
  /-- The venue hears the protective orders, and nothing else. -/
  heard : d'.floor.journal = d.floor.journal
    ++ (protectiveOrders ctx.symbol r entry.quantity d.clientIds).map (.submitted ctx.slug ·)
  /-- Each has an identifier of its own. -/
  ownIds : (protectiveOrders ctx.symbol r entry.quantity d.clientIds).Pairwise
      (fun p q => p.extras.clientOrderId ≠ q.extras.clientOrderId)
    ∧ ∀ order ∈ protectiveOrders ctx.symbol r entry.quantity d.clientIds, ∀ n ≤ d.clientIds,
      order.extras.clientOrderId ≠ some (.text (madeUpId n))
  /-- Each leg has its fate, whatever became of the other; then the rows are linked. -/
  fates : ∃ trails s,
    EachFate ctx entry.id (protectiveLegs r entry.quantity d.clientIds)
      (protectionLegs r entry.quantity d).2 trails
    ∧ t = { joined trails with rows := t.rows }
    ∧ Store.Wrote d.store s (joined trails).rows t.incidents
    ∧ Linking s d'.store (joined trails).rows t.rows
  /-- The row of the entry is as it was, and it is not linked. -/
  untouched : d'.store.ledger.find? entry.id = some entry
  alone : entry.link = none

variable {user : String} {filed : Filed} {d₁ : Desk}

/-- **The entry was submitted last** when it comes to stand. -/
theorem EntryStands.submitted (h : EntryStands r user d ctx filed d₁) :
    ∃ v fee slippage clientId x calls,
      filed.order.Records ctx (singleLeg r v clientId) (singleMarks r true fee slippage) x
      ∧ Leaves ctx.slug d d₁ (.filing ctx.slug x filed.order)
      ∧ d₁.floor.journal = calls ++ [.submitted ctx.slug x.1] := by
  obtain ⟨d₀, found, placed⟩ := h.placed
  obtain ⟨v, fee, slippage, g, clientId, d₂, -, silent, executed⟩ := of_placeSingle placed
  have opened := keeps_asks (Floor.keeps_context d.reference r user) d
  rw [show (runFloor (Floor.context d.reference r user)).run d = (.ok ctx, d₀) from found]
    at opened
  obtain ⟨x, records, leaves⟩ := records_executeSingle executed
  have heard := journal_executeSingle records.shaped r (singleMarks r true fee slippage) d₂
  rw [executed] at heard
  exact ⟨v, fee, slippage, clientId, x, _, records,
    (opened.silent ctx.slug).then (silent.then leaves), heard⟩

/-- The row of an entry that stands is not linked. -/
theorem EntryStands.alone (h : EntryStands r user d ctx filed d₁) : filed.order.link = none := by
  obtain ⟨d₀, -, placed⟩ := h.placed
  have ends := placesOne_placeSingle ctx r true d₀
  rw [placed] at ends
  cases ends with
  | placed read is leaves =>
    obtain ⟨rfl, -, alone, -⟩ := is
    exact alone

/-- What does not ask for protection has no protective orders. -/
theorem protectiveOrders_of_bare (positive : r.IsPositive) (bare : asksForProtection r ≠ true)
    (symbol : String) (quantity : Float) (made : Nat) :
    protectiveLegs r quantity made = [] ∧ protectiveOrders symbol r quantity made = [] := by
  unfold asksForProtection at bare
  rw [OrderRequest.stated_of_pos positive.stopLossPrice,
    OrderRequest.stated_of_pos positive.takeProfitPrice] at bare
  unfold protectiveLegs protectiveOrders
  cases stop : r.stopLossPrice with
  | some x => exact absurd (by rw [stop]; rfl) bare
  | none =>
    cases profit : r.takeProfitPrice with
    | some y => exact absurd (by rw [stop, profit]; rfl) bare
    | none => exact ⟨rfl, rfl⟩

/-- **An entry that stands is protected**, as far as no answer to its protection is mute. -/
theorem isProtected_of_stands (positive : r.IsPositive) (single : r.type ≠ .oco)
    (h : EntryStands r user d ctx filed d₁)
    (leaves : Leaves ctx.slug d₁ (placeManualOrder r user d).2 t)
    (unmuted : ∀ x ∈ t.accepted, ¬ Mute x) :
    IsProtected ctx r filed.order d₁ (placeManualOrder r user d).2 t := by
  obtain ⟨stored, -⟩ := h.stored
  have untouched := leaves.find?_of_mem stored
  have own := ids_protectiveOrders ctx.symbol r filed.order.quantity d₁.clientIds
  suffices hears : (placeManualOrder r user d).2.floor.journal = d₁.floor.journal
      ++ (protectiveOrders ctx.symbol r filed.order.quantity d₁.clientIds).map
        (.submitted ctx.slug ·)
      ∧ ∃ trails s, EachFate ctx filed.order.id
          (protectiveLegs r filed.order.quantity d₁.clientIds)
          (protectionLegs r filed.order.quantity d₁).2 trails
        ∧ t = { joined trails with rows := t.rows }
        ∧ Store.Wrote d₁.store s (joined trails).rows t.incidents
        ∧ Linking s (placeManualOrder r user d).2.store (joined trails).rows t.rows from
    ⟨hears.1, own, hears.2, untouched, h.alone⟩
  rw [placeManualOrder_of_stands single h] at leaves ⊢
  by_cases asks : asksForProtection r = true
  · rw [if_pos asks] at leaves ⊢
    obtain ⟨t₁, d₂, begun, heard, fates, ended⟩ := fates_protect positive ctx filed.order d₁
    obtain ⟨t₂, settled, settles⟩ := settles_protect ctx r filed.order d₁
    obtain rfl := leaves.unique settled
    rcases ended with ⟨e, broken⟩ | ⟨rows, d', whole, left, unheard, linking⟩
    · -- only a mute answer breaks the attaching off
      rw [broken] at settles
      obtain ⟨x, mem, mute⟩ := settles.broken.mp ⟨e, rfl⟩
      exact absurd mute (unmuted x mem)
    · rw [whole] at leaves ⊢
      obtain rfl := leaves.unique left
      obtain ⟨trails, each, rfl⟩ := fates.each unmuted
      have shaped := shaped_protectiveLegs positive ctx filed.order.quantity d₁.clientIds
      refine ⟨?_, trails, d₂.store, each, rfl, begun.wrote, linking⟩
      rw [← commands_joined shaped each]
      exact heard.done unheard
  · rw [if_neg asks] at leaves ⊢
    obtain ⟨noLegs, noOrders⟩ :=
      protectiveOrders_of_bare positive asks ctx.symbol filed.order.quantity d₁.clientIds
    obtain rfl := leaves.unique (refl_of (Silent ctx.slug) d₁)
    rw [noLegs, noOrders]
    exact ⟨(List.append_nil _).symm, [], d₁.store, .nil, rfl,
      (refl_of Store.Idles d₁.store).wrote, .apart (by decide) rfl⟩

/-- **The protection follows the entry.** Once the entry was submitted and stands, the venue
hears of a stop exactly when a stop-loss price was asked for, then of a limit order exactly
when a take-profit price was, and of nothing else. Both are on the other side and for the
amount of the entry's row, each under an identifier of its own, whatever became of the other.
Each one that was acknowledged has a row, or an incident, or else the writing of its incident
failed as well; and the two rows are linked to each other, or no row is linked. -/
theorem protection_follows_entry (positive : r.IsPositive) (single : r.type ≠ .oco)
    (h : EntryStands r user d ctx filed d₁)
    (leaves : Leaves ctx.slug d₁ (placeManualOrder r user d).2 t)
    (unmuted : ∀ x ∈ t.accepted, ¬ Mute x) :
    (∃ order calls, Leaves ctx.slug d d₁ (.filing ctx.slug order filed.order)
      ∧ d₁.floor.journal = calls ++ [.submitted ctx.slug order.1])
    ∧ IsProtected ctx r filed.order d₁ (placeManualOrder r user d).2 t := by
  obtain ⟨-, -, -, -, order, calls, -, entry, last⟩ := h.submitted
  exact ⟨⟨order, calls, entry, last⟩, isProtected_of_stands positive single h leaves unmuted⟩

/-- A caller who is given a ticket is given that of the entry. -/
theorem EntryStands.ticket_of_ok (single : r.type ≠ .oco)
    (h : EntryStands r user d ctx filed d₁) (ok : (placeManualOrder r user d).1.isOk = true) :
    (placeManualOrder r user d).1 = .ok filed.ticket := by
  rw [placeManualOrder_of_stands single h] at ok ⊢
  by_cases asks : asksForProtection r = true
  · rw [if_pos asks] at ok ⊢
    cases ended : (protect ctx r filed.order d₁).1 with
    | ok _ => rfl
    | error e =>
      rw [ended] at ok
      cases ok
  · rw [if_neg asks]

end

/-- One coin at market, protected by a stop and by a limit order that takes profit. -/
def guardedCoin : OrderRequest :=
  { oneCoin with stopLossPrice := some 0.5, takeProfitPrice := some 2.0 }

theorem isPositive_guardedCoin : guardedCoin.IsPositive :=
  ⟨by decide +kernel, by decide +kernel, by decide +kernel, by decide +kernel, by decide +kernel⟩

/-- One coin at market and both of its protective orders are stored, and these are linked. -/
theorem protection_follows_entry_guardedCoin :
    ∃ ctx filed d₁ t, guardedCoin.IsPositive ∧ guardedCoin.type ≠ .oco
      ∧ EntryStands guardedCoin "u1" (small [] {}) ctx filed d₁
      ∧ Leaves ctx.slug d₁ (placeManualOrder guardedCoin "u1" (small [] {})).2 t
      ∧ (∀ x ∈ t.accepted, ¬ Mute x)
      ∧ (placeManualOrder guardedCoin "u1" (small [] {})).2.store.ledger.rows.map (·.link.isSome)
        = [false, true, true]
      ∧ (∃ order calls, Leaves ctx.slug (small [] {}) d₁ (.filing ctx.slug order filed.order)
        ∧ d₁.floor.journal = calls ++ [.submitted ctx.slug order.1])
      ∧ IsProtected ctx guardedCoin filed.order d₁
          (placeManualOrder guardedCoin "u1" (small [] {})).2 t := by
  have positive := isPositive_guardedCoin
  have single : guardedCoin.type ≠ .oco := by decide
  have comes : comesToStand guardedCoin "u1" (small [] {}) = true := by decide +kernel
  obtain ⟨ctx, filed, d₁, stands⟩ := stands_of_comesToStand rfl rfl comes
  obtain ⟨t, leaves, attaches⟩ := attaches_of_stands single stands
  have unmuted := attaches.returned.mp (stands.ticket_of_ok single (by decide +kernel))
  exact ⟨ctx, filed, d₁, t, positive, single, stands, leaves, unmuted, by decide +kernel,
    protection_follows_entry positive single stands leaves unmuted⟩

/-- A store that takes neither stops nor incidents. -/
def noStops : FailurePlan where
  addOrder := some { reason := "disk full", types := some ["STOP_LOSS"] }
  createIncident := some { reason := "disk full" }

open Placement (protectedCoin) in
/-- **A protective order is not always stored or named by an incident.** The entry stands and is
given to the caller, the venue has acknowledged its stop as well, and of the stop there is
neither a row nor an incident. -/
theorem protective_order_without_incident :
    ∃ ctx filed d₁, EntryStands protectedCoin "u1" (small [] noStops) ctx filed d₁
      ∧ (placeManualOrder protectedCoin "u1" (small [] noStops)).1 = .ok filed.ticket
      ∧ ((placeManualOrder protectedCoin "u1" (small [] noStops)).2.floor.accepted
          "binance").filterMap recordId? = ["v1", "v2"]
      ∧ (placeManualOrder protectedCoin "u1" (small [] noStops)).2.store.ledger.rows.map
          (·.venueOrderId) = ["v1"]
      ∧ (placeManualOrder protectedCoin "u1" (small [] noStops)).2.store.incidents.length = 0 := by
  have single : protectedCoin.type ≠ .oco := by decide
  have comes : comesToStand protectedCoin "u1" (small [] noStops) = true := by decide +kernel
  obtain ⟨ctx, filed, d₁, stands⟩ := stands_of_comesToStand rfl rfl comes
  have seen : (placeManualOrder protectedCoin "u1" (small [] noStops)).1.isOk = true
      ∧ ((placeManualOrder protectedCoin "u1" (small [] noStops)).2.floor.accepted
          "binance").filterMap recordId? = ["v1", "v2"]
      ∧ (placeManualOrder protectedCoin "u1" (small [] noStops)).2.store.ledger.rows.map
          (·.venueOrderId) = ["v1"]
      ∧ (placeManualOrder protectedCoin "u1" (small [] noStops)).2.store.incidents.length = 0 := by
    decide +kernel
  exact ⟨ctx, filed, d₁, stands, stands.ticket_of_ok single seen.1, seen.2⟩

end Desk

end OrderDesk
