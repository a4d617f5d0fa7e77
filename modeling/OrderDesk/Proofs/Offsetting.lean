import OrderDesk.Proofs.Protecting

/-!
# An order that takes profit is offset by itself

A request has one field for a price at which profit is taken, and two uses for it. For most
types it asks for protection: a limit order on the other side, which closes the position that
the entry opens. For an order that takes profit itself it is the price at which that order
becomes active. The desk tells the two apart when it makes up the entry and when it writes its
row, but not when it attaches the protection. There it looks at the field alone.

So an order that takes profit is followed by a second one, on the other side and at the same
price, which undoes it. What can keep the second one from being submitted is what can keep any
protection from being attached: the entry does not stand, or the stop before it has a mute
answer.
-/

namespace OrderDesk

namespace OrderRequest

/-- **An order offsets what was asked for**: it is on the other side, and takes profit at the
price of the request. -/
def IsOffsetBy (r : OrderRequest) (order : Submission) : Prop :=
  order.side = Text.lower r.side.opposite.name
    ∧ ∃ y, r.takeProfitPrice = some y ∧ order.extras.takeProfitPrice = some (.real y)

/-- An order stops the losses of what was asked for: it is on the other side, and becomes
active as a stop. -/
def IsStoppedBy (r : OrderRequest) (order : Submission) : Prop :=
  order.side = Text.lower r.side.opposite.name ∧ order.extras.stopLossPrice.isSome = true

end OrderRequest

namespace Desk

variable {ctx : Context} {entryId : String} {r : OrderRequest} {d : Desk} {t : Trail}

/-! ## The orders of a protection -/

/-- The two sides have different names. -/
theorem lower_opposite_ne (side : Side) : Text.lower side.opposite.name ≠ Text.lower side.name := by
  cases side <;> decide +kernel

theorem not_isOffsetBy_stopOrder (symbol : String) (side : Side) (quantity x : Float)
    (id : String) : ¬ r.IsOffsetBy (stopOrder symbol side quantity x id) := by
  rintro ⟨-, y, -, wrong⟩
  cases wrong

theorem not_isStoppedBy_profitOrder (symbol : String) (side : Side) (quantity y : Float)
    (id : String) : ¬ r.IsStoppedBy (profitOrder symbol side quantity y id) := by
  rintro ⟨-, wrong⟩
  cases wrong

/-- The orders that were accepted for a leg are that leg's. -/
theorem Fate.accepted {leg : Leg} {order : Submission} (h : Fate ctx leg d t)
    (shaped : ShapedAs ctx leg order) : ∀ x ∈ t.accepted, x.1 = order := by
  intro x mem
  cases h with
  | refused shaped' noAck =>
    cases noAck with
    | refused => cases mem
    | unread read =>
      cases List.mem_singleton.mp mem
      exact shaped.unique shaped'
  | stored records =>
    cases List.mem_singleton.mp mem
    exact shaped.unique records.shaped
  | reported shaped' | lost shaped' =>
    cases List.mem_singleton.mp mem
    exact shaped.unique shaped'

/-- **A leg that nothing comes before is submitted**, and nothing else is. -/
theorem Fates.of_singleton {leg : Leg} {order : Submission} (h : Fates ctx entryId [leg] d t)
    (shaped : ShapedAs ctx leg order) :
    t.commands = [.submitted ctx.slug order] ∧ ∀ x ∈ t.accepted, x.1 = order := by
  cases h with
  | next fate unmuted _ rest =>
    cases rest
    rw [Trail.append_empty]
    exact ⟨fate.commands shaped, fate.accepted shaped⟩
  | broken shaped' mute =>
    cases shaped.unique shaped'
    exact ⟨rfl, fun x mem => by cases List.mem_singleton.mp mem; rfl⟩

/-- The leg that takes profit, when nothing cuts it off, is submitted as an order that offsets
what was asked for. -/
theorem isOffset_of_singleton (positive : r.IsPositive) {y quantity : Float} {n : Nat}
    (target : r.takeProfitPrice = some y)
    (h : Fates ctx entryId [profitProtection r.side.opposite quantity y (madeUpId n)] d t) :
    (∃ order, .submitted ctx.slug order ∈ t.commands ∧ r.IsOffsetBy order)
      ∧ ∀ x ∈ t.accepted, ¬ r.IsStoppedBy x.1 := by
  obtain ⟨commands, accepted⟩ := h.of_singleton
    (shape_profitProtection ctx _ _ y n (positive.takeProfitPrice y target))
  refine ⟨⟨_, commands ▸ List.mem_singleton.mpr rfl, rfl, y, target, rfl⟩, fun x mem => ?_⟩
  rw [accepted x mem]
  exact not_isStoppedBy_profitOrder _ _ _ _ _

/-- **The protection of what takes profit** has an order that offsets it, unless the stop that
comes before has a mute answer. -/
theorem isOffset_iff_of_fates (positive : r.IsPositive) {y quantity : Float} {made : Nat}
    (target : r.takeProfitPrice = some y)
    (h : Fates ctx entryId (protectiveLegs r quantity made) d t) :
    (∃ order, .submitted ctx.slug order ∈ t.commands ∧ r.IsOffsetBy order)
      ↔ ∀ x ∈ t.accepted, r.IsStoppedBy x.1 → ¬ Mute x := by
  unfold protectiveLegs at h
  rw [target] at h
  cases stop : r.stopLossPrice with
  | none =>
    rw [stop] at h
    obtain ⟨offset, accepted⟩ := isOffset_of_singleton positive target h
    exact iff_of_true offset fun x mem stops => absurd stops (accepted x mem)
  | some x =>
    rw [stop] at h
    have stops := shape_stopProtection ctx r.side.opposite quantity x (made + 1)
    cases h with
    | next fate unmuted _ rest =>
      obtain ⟨⟨order, mem, offset⟩, accepted⟩ := isOffset_of_singleton positive target rest
      refine iff_of_true ⟨order, List.mem_append_right _ mem, offset⟩ fun z mem stopped => ?_
      rcases List.mem_append.mp mem with first | later
      · exact unmuted z first
      · exact absurd stopped (accepted z later)
    | @broken _ _ _ z shaped mute =>
      have same := ShapedAs.unique stops shaped
      refine iff_of_false ?_ fun unmuted => unmuted z (List.mem_singleton.mpr rfl) ?_ mute
      · rintro ⟨order, mem, offset⟩
        cases List.mem_singleton.mp mem
        rw [same] at offset
        exact not_isOffsetBy_stopOrder _ _ _ _ _ offset
      · rw [same]
        exact ⟨rfl, rfl⟩

/-! ## The entry -/

/-- What a leg is submitted as is on the side of the leg. -/
theorem side_of_shapedAs {leg : Leg} {order : Submission} (h : ShapedAs ctx leg order) :
    order.side = Text.lower leg.side.name :=
  (Instruction.conveys_of_shape h).side

/-- **An order on its own side** does not offset what was asked for, and does not stop its
losses. -/
theorem not_isOffsetBy_of_side {order : Submission} (own : order.side = Text.lower r.side.name) :
    ¬ r.IsOffsetBy order ∧ ¬ r.IsStoppedBy order :=
  ⟨fun offset => lower_opposite_ne r.side (offset.1.symm.trans own),
    fun stops => lower_opposite_ne r.side (stops.1.symm.trans own)⟩

/-- **A single order is submitted on its own side.** -/
theorem submitsOnly_own (ctx : Context) (r : OrderRequest) (isManual : Bool) :
    Keeps (SubmitsOnly fun _ order => order.side = Text.lower r.side.name)
      (placeSingle ctx r isManual).run := by
  intro d
  show SubmitsOnly _ d (placeSingle ctx r isManual d).2
  unfold placeSingle
  rw [Run.get_bind]
  exact Keeps.seq (submitsOnly_asks (keeps_prepareSingle d.reference ctx r))
    (fun _ => .seq (.lift (submitsOnly_clientIdOr _)) fun _ =>
      .seq (submitsOnly_runStore _) fun _ =>
      submitsOnly_executeSingle (fun _ shaped => side_of_shapedAs shaped) r _) d

section

variable {user : String} {filed : Filed} {d₁ : Desk}

/-- **What comes of an entry that does not stand** is submitted on its own side. -/
theorem submitsOnly_own_of_fallen (single : r.type ≠ .oco)
    (fallen : ¬ ∃ ctx filed d₁, EntryStands r user d ctx filed d₁) :
    SubmitsOnly (fun _ order => order.side = Text.lower r.side.name) d
      (placeManualOrder r user d).2 := by
  rcases ran : placeManualOrder r user d with ⟨res, d'⟩
  rcases opening_found r.own_ensureComplete (OrderRequest.own_ensureSupported _ _) ran with
    ⟨e, rfl, -, asks⟩ | ⟨ctx, d₁, next, found, complete, supported, asks⟩
  · exact asks.reads.submitsOnly
  refine trans_of (SubmitsOnly _) asks.reads.submitsOnly ?_
  have entry := submitsOnly_own ctx r true d₁
  rw [beq_eq_false_iff_ne.mpr single] at next
  change placeProtected ctx r d₁ = _ at next
  unfold placeProtected at next
  rcases Run.of_bind next with ⟨e, failed, rfl⟩ | ⟨filed, d₂, placed, -⟩
  · rwa [show (placeSingle ctx r true).run d₁ = _ from failed] at entry
  · exact absurd ⟨ctx, filed, d₂, complete, supported, d₁, found, placed⟩ fallen

/-- **What follows an entry that stands** and takes profit. -/
theorem isOffset_iff_of_stands (target : r.type = .takeProfit) (positive : r.IsPositive)
    (h : EntryStands r user d ctx filed d₁)
    (leaves : Leaves ctx.slug d (placeManualOrder r user d).2 t) :
    (∃ order, .submitted ctx.slug order ∈ t.commands ∧ r.IsOffsetBy order)
      ↔ ∀ x ∈ t.accepted, r.IsStoppedBy x.1 → ¬ Mute x := by
  have single : r.type ≠ .oco := by
    rw [target]
    decide
  obtain ⟨y, price⟩ := Option.isSome_iff_exists.mp
    ((OrderRequest.isComplete_of_ensureComplete h.complete).target target)
  have asks : asksForProtection r = true := by
    unfold asksForProtection
    rw [OrderRequest.stated_of_pos positive.takeProfitPrice, price]
    exact Bool.or_true _
  obtain ⟨v, fee, slippage, clientId, x, calls, records, entry, -⟩ := h.submitted
  have own := side_of_shapedAs records.shaped
  obtain ⟨t₁, d₂, begun, -, fates, ended⟩ := fates_protect positive ctx filed.order d₁
  -- what links the rows afterwards says nothing more
  obtain ⟨rows, left⟩ : ∃ rows, Leaves ctx.slug d₁ (placeManualOrder r user d).2
      { t₁ with rows := rows } := by
    rw [placeManualOrder_of_stands single h, if_pos asks]
    rcases ended with ⟨e, broken⟩ | ⟨rows, d', whole, left, -⟩
    · exact ⟨t₁.rows, by rw [broken]; exact begun⟩
    · exact ⟨rows, by rw [whole]; exact left⟩
  have whole := leaves.unique (entry.trans left)
  have offset := isOffset_iff_of_fates positive price fates
  obtain ⟨noOffset, noStop⟩ := not_isOffsetBy_of_side (r := r) own
  rw [whole]
  constructor
  · rintro ⟨order, mem, offsets⟩ z accepted stops
    rcases List.mem_cons.mp mem with same | later
    · cases same
      exact absurd offsets noOffset
    · rcases List.mem_cons.mp accepted with rfl | later'
      · exact absurd stops noStop
      · exact offset.mp ⟨order, later, offsets⟩ z later' stops
  · intro unmuted
    obtain ⟨order, mem, offsets⟩ := offset.mpr fun z mem => unmuted z (List.mem_cons_of_mem _ mem)
    exact ⟨order, List.mem_cons_of_mem _ mem, offsets⟩

/-- **When an order that takes profit is offset by itself**: exactly when it stands, and the
protective stop before, if there is one, has no mute answer. -/
theorem target_is_offset_iff (target : r.type = .takeProfit) (positive : r.IsPositive)
    (user : String) (d : Desk) :
    ∃ t, Leaves r.venue d (placeManualOrder r user d).2 t
      ∧ ((∃ order, .submitted r.venue order ∈ t.commands ∧ r.IsOffsetBy order)
        ↔ ∃ ctx filed d₁, EntryStands r user d ctx filed d₁
          ∧ ∀ x ∈ t.accepted, r.IsStoppedBy x.1 → ¬ Mute x) := by
  obtain ⟨t, leaves, -⟩ := (Placement.byHand r user).leaves_run d
  replace leaves : Leaves r.venue d (placeManualOrder r user d).2 t := leaves
  refine ⟨t, leaves, ?_⟩
  by_cases stands : ∃ ctx filed d₁, EntryStands r user d ctx filed d₁
  · obtain ⟨ctx, filed, d₁, h⟩ := stands
    obtain ⟨d₀, found, -⟩ := h.placed
    have venue : ctx.slug = r.venue := (Floor.of_context (of_runFloor found).1).1
    rw [← venue] at leaves ⊢
    rw [isOffset_iff_of_stands target positive h leaves]
    exact ⟨fun unmuted => ⟨ctx, filed, d₁, h, unmuted⟩, fun ⟨_, _, _, _, unmuted⟩ => unmuted⟩
  · have single : r.type ≠ .oco := by
      rw [target]
      decide
    obtain ⟨commands, given, all⟩ := submitsOnly_own_of_fallen single stands
    have same := List.append_cancel_left (leaves.commands.symm.trans given)
    refine iff_of_false ?_ fun ⟨ctx, filed, d₁, h, _⟩ => stands ⟨ctx, filed, d₁, h⟩
    rintro ⟨order, mem, offsets⟩
    rw [same] at mem
    exact (not_isOffsetBy_of_side (all r.venue order mem)).1 offsets

end

/-- One coin, to be bought for two. -/
def targetCoin : OrderRequest := { oneCoin with type := .takeProfit, takeProfitPrice := some 2.0 }

theorem isPositive_targetCoin : targetCoin.IsPositive :=
  ⟨by decide +kernel, by decide +kernel, by decide +kernel, by decide +kernel, by decide +kernel⟩

/-- The coin that was to be bought is to be sold again. -/
theorem target_is_offset_iff_targetCoin :
    targetCoin.type = .takeProfit ∧ targetCoin.IsPositive
      ∧ comesToStand targetCoin "u1" (small [] {}) = true
      ∧ ∃ t, Leaves "binance" (small [] {}) (placeManualOrder targetCoin "u1" (small [] {})).2 t
        ∧ ((∃ order, .submitted "binance" order ∈ t.commands ∧ targetCoin.IsOffsetBy order)
          ↔ ∃ ctx filed d₁, EntryStands targetCoin "u1" (small [] {}) ctx filed d₁
            ∧ ∀ x ∈ t.accepted, targetCoin.IsStoppedBy x.1 → ¬ Mute x) :=
  ⟨rfl, isPositive_targetCoin, by decide +kernel,
    target_is_offset_iff rfl isPositive_targetCoin "u1" (small [] {})⟩

/-- **An order that takes profit can be offset by itself.** -/
theorem target_offsets_itself :
    ¬ ∀ (r : OrderRequest) (user : String) (d : Desk) (t : Trail), r.IsPositive →
        r.type = .takeProfit → Leaves r.venue d (placeManualOrder r user d).2 t →
        ∀ order, .submitted r.venue order ∈ t.commands → ¬ r.IsOffsetBy order := by
  intro never
  have comes : comesToStand targetCoin "u1" (small [] {}) = true := by decide +kernel
  obtain ⟨ctx, filed, d₁, h⟩ := stands_of_comesToStand rfl rfl comes
  obtain ⟨d₀, found, -⟩ := h.placed
  have venue : ctx.slug = "binance" := (Floor.of_context (of_runFloor found).1).1
  obtain ⟨t, leaves, -⟩ := (Placement.byHand targetCoin "u1").leaves_run (small [] {})
  replace leaves : Leaves "binance" _ (placeManualOrder targetCoin "u1" (small [] {})).2 t := leaves
  have accepted : (placeManualOrder targetCoin "u1" (small [] {})).2.floor.accepted "binance"
      = t.accepted := leaves.accepted
  have noStops : t.accepted.map (·.1.extras.stopLossPrice.isSome) = [false, false] := by
    rw [← accepted]
    decide +kernel
  have there : Leaves ctx.slug (small [] {})
      (placeManualOrder targetCoin "u1" (small [] {})).2 t := by
    rw [venue]
    exact leaves
  obtain ⟨order, mem, offset⟩ :=
    (isOffset_iff_of_stands rfl isPositive_targetCoin h there).mpr fun x mem stops => by
      have among := List.mem_map_of_mem (f := (·.1.extras.stopLossPrice.isSome)) mem
      rw [noStops, stops.2] at among
      simp at among
  rw [venue] at mem
  exact never targetCoin "u1" (small [] {}) t isPositive_targetCoin rfl leaves order mem offset

end Desk

end OrderDesk
