import OrderDesk.Proofs.Aging

/-!
# What is made of the answer to a cancel

A venue that answers a cancel says either that the order is canceled or that it has been
filled in the meantime, and the row of the order has to follow it. The status of an answer
is one word among many, in any letter case and between blanks, and there are two places
where the desk knows which words mean that an order was filled. The table of the venues'
words trims a word before it looks it up. The check of an answer to a cancel does not.

So the row follows the answer as long as the answer can be read and its word is not set
between blanks, and not beyond: a word of the table between blanks is taken for a confirmed
cancel, and an answer without an identifier, which need not be there to confirm a cancel,
for a failure of the venue. `cancel_heeds_answer` says that these are the only exceptions.
-/

namespace OrderDesk

/-! ## Blanks and letter case -/

namespace Text

/-- The blanks, as ranges of code points. -/
def blankRanges : List (Nat × Nat) :=
  [(9, 13), (28, 32), (133, 133), (160, 160), (5760, 5760), (8192, 8202), (8232, 8233),
   (8239, 8239), (8287, 8287), (12288, 12288)]

theorem mem_blankRanges {n : Nat} (h : isBlankCode n = true) :
    ∃ range ∈ blankRanges, range.1 ≤ n ∧ n ≤ range.2 := by
  simp only [isBlankCode, Bool.or_eq_true, Bool.and_eq_true, decide_eq_true_eq, beq_iff_eq] at h
  simp only [blankRanges, List.mem_cons, List.not_mem_nil, or_false, exists_eq_or_imp,
    exists_eq_left]
  omega

/-- A blank is its own lower form. -/
theorem mapByRuns_of_isBlank {c : Char} (h : isBlank c = true) : mapByRuns lowerRuns c = c := by
  have apart : ∀ run ∈ lowerRuns, ∀ range ∈ blankRanges,
      run.last < range.1 ∨ range.2 < run.first := by
    decide +kernel
  have none : lowerRuns.find? (·.covers c.toNat) = none := by
    refine List.find?_eq_none.mpr fun run mem covers => ?_
    obtain ⟨range, among, low, high⟩ := mem_blankRanges h
    simp only [CaseRun.covers, Bool.and_eq_true, decide_eq_true_eq] at covers
    have := apart run mem range among
    omega
  unfold mapByRuns
  rw [none]

/-- A blank is still there in lower case. -/
theorem mem_lowerFrom_of_isBlank {c : Char} (h : isBlank c = true) {cs : List Char}
    (mem : c ∈ cs) (before : List Char) : c ∈ lowerFrom before cs := by
  induction cs generalizing before with
  | nil => exact mem
  | cons x rest ih =>
    unfold lowerFrom
    rcases List.mem_cons.mp mem with rfl | later
    · have noSigma : (c == 'Σ') = false := by
        rw [beq_eq_false_iff_ne]
        rintro rfl
        cases h
      have noDotted : (c == 'İ') = false := by
        rw [beq_eq_false_iff_ne]
        rintro rfl
        cases h
      rw [noSigma, noDotted, mapByRuns_of_isBlank h]
      exact List.mem_cons_self ..
    · exact List.mem_append_right _ (ih later (x :: before))

/-- **A text whose lower form has no blanks** is not trimmed. -/
theorem trim_of_lower {s : String} (h : ∀ c ∈ (lower s).toList, isBlank c = false) :
    trim s = s := by
  have plain : ∀ c ∈ s.toList, isBlank c = false := by
    intro c mem
    cases blank : isBlank c with
    | false => rfl
    | true =>
      have still : c ∈ (lower s).toList := by
        rw [lower, String.toList_ofList]
        exact mem_lowerFrom_of_isBlank blank mem []
      rw [h c still] at blank
      cases blank
  have kept : ∀ cs : List Char, (∀ c ∈ cs, isBlank c = false) → cs.dropWhile isBlank = cs := by
    intro cs all
    cases cs with
    | nil => rfl
    | cons c rest => exact List.dropWhile_cons_of_neg (by rw [all c (List.mem_cons_self ..)]; decide)
  unfold trim trimChars trimBy
  rw [kept _ plain, kept _ fun c mem => plain c (List.mem_reverse.mp mem), List.reverse_reverse,
    String.ofList_toList]

end Text

/-! ## What an answer says -/

namespace Payload

/-- The status word of an answer, if it has one. -/
def statusWord? (answer : Payload) : Option String :=
  match answer.field "status" with
  | .ok (.text s) => some s
  | _ => none

/-- **An answer says that the order was filled**: so the table of the venues' words has it,
or the word is just that. -/
def SaysFilled (answer : Payload) : Prop :=
  ∃ s, answer.statusWord? = some s
    ∧ (OrderStatus.ofVenueWord s = .filled ∨ Text.lower (Text.trim s) = "filled")

/-- **An answer is plain**: it is empty, or it can be read and its status is missing or a
word that means the same with and without its blanks. -/
def IsPlain (answer : Payload) (symbol : String) : Prop :=
  answer.isPresent = false
  ∨ ∃ ack, Ack.read symbol "" "" answer = .ok ack
    ∧ (ack.status.isPresent = false
      ∨ ∃ s, ack.status = .text s
        ∧ (Text.lower (Text.trim s) ∈ OrderStatus.filledWords →
            Text.lower s ∈ OrderStatus.filledWords))

end Payload

namespace OrderStatus

/-- The table of the venues' words has one word for filled orders. -/
theorem ofVenueWord_eq_filled_iff (s : String) :
    ofVenueWord s = .filled ↔ Text.lower (Text.trim s) = "closed" := by
  unfold ofVenueWord
  constructor
  · intro filled
    cases found : venueWords.lookup (Text.lower (Text.trim s)) with
    | none =>
      rw [found] at filled
      cases filled
    | some status =>
      rw [found] at filled
      obtain rfl : status = .filled := filled
      obtain ⟨before, after, whole, -⟩ := List.lookup_eq_some_iff.mp found
      have mem : (Text.lower (Text.trim s), filled) ∈ venueWords := by
        rw [whole]
        exact List.mem_append_right _ (List.mem_cons_self ..)
      simpa [venueWords] using mem
  · intro closed
    rw [closed]
    rfl

/-- The word of an answer is read as that of a filled order. -/
theorem mem_filledWords_iff (s : String) :
    Text.lower (Text.trim s) ∈ filledWords
      ↔ ofVenueWord s = .filled ∨ Text.lower (Text.trim s) = "filled" := by
  rw [ofVenueWord_eq_filled_iff]
  simp only [filledWords, List.mem_cons, List.not_mem_nil, or_false]

/-- The words for filled orders have no blanks around them. -/
theorem mem_filledWords_of_lower {s : String} (h : Text.lower s ∈ filledWords) :
    Text.lower (Text.trim s) ∈ filledWords := by
  have plain : ∀ word ∈ filledWords, word.toList.all (!Text.isBlank ·) = true := by decide
  rwa [Text.trim_of_lower fun c mem =>
    Bool.eq_false_of_not_eq_true' (List.all_eq_true.mp (plain _ h) c mem)]

end OrderStatus

namespace Ack

/-- The status word of an acknowledgement is that of the answer. -/
theorem status_of_read {symbol side type : String} {p : Payload} {ack : Ack}
    (h : read symbol side type p = .ok ack) : p.field "status" = .ok ack.status := by
  unfold read at h
  obtain ⟨fee, -, h⟩ := Run.ok_of_bind h
  obtain ⟨id, -, h⟩ := Run.ok_of_bind h
  cases id with
  | none => cases h
  | some id =>
    obtain ⟨symbol, -, h⟩ := Run.ok_of_bind h
    obtain ⟨side, -, h⟩ := Run.ok_of_bind h
    obtain ⟨type, -, h⟩ := Run.ok_of_bind h
    obtain ⟨status, found, h⟩ := Run.ok_of_bind h
    obtain ⟨clientId, -, h⟩ := Run.ok_of_bind h
    obtain ⟨amount, -, h⟩ := Run.ok_of_bind h
    obtain ⟨filled, -, h⟩ := Run.ok_of_bind h
    obtain ⟨price, -, h⟩ := Run.ok_of_bind h
    obtain ⟨average, -, h⟩ := Run.ok_of_bind h
    obtain ⟨cost, -, h⟩ := Run.ok_of_bind h
    obtain ⟨word, -, h⟩ := Run.ok_of_bind h
    obtain ⟨time, -, h⟩ := Run.ok_of_bind h
    cases h
    exact found

end Ack

namespace Payload

variable {answer : Payload}

/-- An empty answer has no status. -/
theorem statusWord?_of_empty (empty : answer.isPresent = false) : answer.statusWord? = none := by
  cases answer with
  | object fields =>
    obtain rfl : fields = [] := by
      rw [← List.isEmpty_iff]
      exact (Bool.not_eq_false' ..).mp empty
    rfl
  | _ => rfl

/-- The status of an answer that was read. -/
theorem statusWord?_of_read {symbol side type : String} {ack : Ack}
    (read : Ack.read symbol side type answer = .ok ack) (s : String) :
    answer.statusWord? = some s ↔ ack.status = .text s := by
  unfold statusWord?
  rw [Ack.status_of_read read]
  cases ack.status with
  | text word => simp only [Option.some.injEq, text.injEq]
  | _ => simp only [reduceCtorEq]

/-- An answer that was read says that the order was filled when its status does. -/
theorem saysFilled_of_read {symbol side type : String} {ack : Ack}
    (read : Ack.read symbol side type answer = .ok ack) :
    answer.SaysFilled ↔ ∃ s, ack.status = .text s
      ∧ Text.lower (Text.trim s) ∈ OrderStatus.filledWords := by
  unfold SaysFilled
  simp only [statusWord?_of_read read, OrderStatus.mem_filledWords_iff]

end Payload

/-! ## The venue -/

namespace Line

variable {s : Session} {id symbol : String} {answer : Payload}

/-- The answer to a cancel, when there is one, is read unless it is empty. -/
theorem cancel_of_answer (up : s.venue.outage? .cancelOrder = none)
    (answered : (s.venue.answerCancel id).1 = .ok answer) :
    (cancel id symbol s).1 = if answer.isPresent then (Ack.read symbol "" "" answer).map some
      else .ok none := by
  have called : Line.call .cancelOrder (.cancelOrder id symbol) s
      = (.ok (), s.record (.cancelOrder id symbol)) := by
    unfold Line.call ensureUp
    rw [Run.bind_apply]
    show (get >>= _ : Line Unit) (s.record _) = _
    rw [Run.get_bind, show (s.record _).venue.outage? _ = none from up]
    rfl
  have taken : ∃ t, cancelOrder id symbol s = (.ok answer, t) := by
    rcases next : s.venue.answerCancel id with ⟨r, venue⟩
    rw [next] at answered
    cases answered
    unfold cancelOrder
    rw [Run.bind_apply, called]
    show ∃ t, takeCancelAnswer id (s.record _) = _
    unfold takeCancelAnswer
    rw [Run.get_bind, show (s.record _).venue.answerCancel id = _ from next]
    exact ⟨_, rfl⟩
  obtain ⟨t, taken⟩ := taken
  unfold cancel
  rw [Run.bind_apply, taken]
  dsimp only
  by_cases present : answer.isPresent = true
  · rw [if_pos present, if_pos present, Run.bind_apply]
    cases Ack.read symbol "" "" answer <;> rfl
  · rw [if_neg present, if_neg present]
    rfl

end Line

namespace Floor

/-- **What is made of the answer to a cancel.** -/
def verdict (symbol : String) (answer : Payload) : Except Failure Unit :=
  if answer.isPresent then
    match Ack.read symbol "" "" answer with
    | .error e => .error (.venue "cancel order" e.message)
    | .ok ack =>
      match readsFilled ack.status with
      | .error e => .error (.fault e)
      | .ok filled => Market.refuseIf filled .filledOnVenue
  else .ok ()

/-- **A venue answers the cancel of an order**: there is a connection to it, it takes
cancels, and the next answer is this one. -/
structure Answers (f : Floor) (ref : Reference) (user : String) (o : Order) (answer : Payload) :
    Prop where
  connected : ∃ c, (connectAs ref user o.venue f).1 = .ok c
  up : (f.script o.venue).outage? .cancelOrder = none
  answer : ((f.script o.venue).answerCancel o.venueOrderId).1 = .ok answer

/-- An exchange with a venue, by what is said in the session. -/
theorem tryLine_bind {α β : Type} (slug user : String) (x : Line α)
    (k : Except Fault α → FloorM β) (f : Floor) :
    (tryLine slug user x >>= k) f
      = k (x (f.session slug user)).1 (onLine slug user x.run f).2 :=
  Run.lift_bind _ _ f

/-- **A cancel that is answered** ends as the answer has it. -/
theorem cancelAtVenue_of_answer {ref : Reference} {user : String} {o : Order} {f : Floor}
    {answer : Payload} (h : f.Answers ref user o answer) :
    (cancelAtVenue ref user o f).1 = verdict o.symbol answer := by
  have reads := keeps_connectAs ref user o.venue f
  obtain ⟨c, connected⟩ := h.connected
  rcases connecting : connectAs ref user o.venue f with ⟨r, f₁⟩
  rw [connecting] at connected
  cases connected
  have left : (connectAs ref user o.venue).run f = (.ok c, f₁) := connecting
  rw [left] at reads
  obtain ⟨credential, f₀, -, resolved⟩ := Run.of_bind_ok connecting
  have slug : c.slug = o.venue := slug_of_resolve resolved
  -- the connection has left the venue as it was
  have script : (f₁.session o.venue user).venue = f.script o.venue := reads.script o.venue
  have up := h.up
  have next := h.answer
  rw [← script] at up next
  have answered : (Line.cancel o.venueOrderId o.symbol (f₁.session o.venue user)).1 = _ :=
    Line.cancel_of_answer up next
  unfold cancelAtVenue
  rw [Run.bind_apply, connecting]
  dsimp only
  rw [slug, tryLine_bind, answered]
  unfold verdict
  by_cases present : answer.isPresent = true
  · rw [if_pos present, if_pos present]
    cases Ack.read o.symbol "" "" answer with
    | error e => rfl
    | ok ack =>
      dsimp only [Except.map]
      rw [Run.bind_apply]
      cases readsFilled ack.status <;> rfl
  · rw [if_neg present, if_neg present]
    rfl

/-- A status word is looked up among those of filled orders, without trimming it. -/
theorem readsFilled_text (s : String) :
    readsFilled (.text s) = .ok (OrderStatus.filledWords.contains (Text.lower s)) := by
  cases empty : s.isEmpty with
  | false =>
    have present : (Payload.text s).isPresent = true := congrArg not empty
    exact if_pos present
  | true =>
    obtain rfl := String.isEmpty_iff.mp empty
    rfl

/-- A status that is no text is not understood. -/
theorem readsFilled_of_ne_text {p : Payload} (present : p.isPresent = true)
    (noText : ¬ ∃ s, p = .text s) : ∃ e, readsFilled p = .error e := by
  unfold readsFilled
  rw [if_pos present]
  cases p with
  | text s => exact absurd ⟨s, rfl⟩ noText
  | _ => exact ⟨_, rfl⟩

variable {symbol : String} {answer : Payload}

/-- A plain answer is understood. -/
theorem verdict_of_isPlain (plain : answer.IsPlain symbol) :
    (answer.SaysFilled → verdict symbol answer = .error (.refused .filledOnVenue))
    ∧ (¬ answer.SaysFilled → verdict symbol answer = .ok ()) := by
  unfold verdict
  cases present : answer.isPresent with
  | false =>
    rw [if_neg Bool.false_ne_true]
    refine ⟨fun ⟨s, word, _⟩ => ?_, fun _ => rfl⟩
    rw [Payload.statusWord?_of_empty present] at word
    cases word
  | true =>
    rw [if_pos rfl]
    obtain ⟨ack, read, status⟩ := plain.resolve_left (by rw [present]; decide)
    rw [read, Payload.saysFilled_of_read read]
    dsimp only
    rcases status with absent | ⟨s, word, alike⟩
    · have noWord : ¬ ∃ s, ack.status = .text s
          ∧ Text.lower (Text.trim s) ∈ OrderStatus.filledWords := by
        rintro ⟨s, word, among⟩
        rw [word] at absent
        obtain rfl : s = "" := String.isEmpty_iff.mp ((Bool.not_eq_false' ..).mp absent)
        revert among
        decide
      have notRead : readsFilled ack.status = .ok false := if_neg (by rw [absent]; decide)
      rw [notRead]
      exact ⟨fun some => absurd some noWord, fun _ => rfl⟩
    · rw [word, readsFilled_text]
      constructor
      · rintro ⟨_, same, among⟩
        cases same
        rw [List.contains_iff_mem.mpr (alike among)]
        rfl
      · intro noWord
        cases listed : OrderStatus.filledWords.contains (Text.lower s) with
        | false => rfl
        | true =>
          have among := List.contains_iff_mem.mp listed
          exact absurd ⟨s, rfl, OrderStatus.mem_filledWords_of_lower among⟩ noWord

/-- An answer that is understood is plain. -/
theorem isPlain_of_verdict
    (filled : answer.SaysFilled → ∃ why, verdict symbol answer = .error (.refused why))
    (confirmed : ¬ answer.SaysFilled → verdict symbol answer = .ok ()) :
    answer.IsPlain symbol := by
  unfold verdict at filled confirmed
  cases present : answer.isPresent with
  | false => exact .inl present
  | true =>
    refine .inr ?_
    rw [present, if_pos rfl] at filled confirmed
    cases read : Ack.read symbol "" "" answer with
    | error e =>
      -- the failure is no refusal, so that neither reading of the answer is followed
      rw [read] at filled confirmed
      by_cases wasFilled : answer.SaysFilled
      · obtain ⟨why, wrong⟩ := filled wasFilled
        cases wrong
      · cases confirmed wasFilled
    | ok ack =>
      rw [read, Payload.saysFilled_of_read read] at filled confirmed
      dsimp only at filled confirmed
      refine ⟨ack, rfl, ?_⟩
      cases stated : ack.status.isPresent with
      | false => exact .inl rfl
      | true =>
        refine .inr ?_
        by_cases text : ∃ s, ack.status = .text s
        · obtain ⟨s, word⟩ := text
          refine ⟨s, word, fun among => ?_⟩
          obtain ⟨why, refused⟩ := filled ⟨s, word, among⟩
          rw [word, readsFilled_text] at refused
          cases listed : OrderStatus.filledWords.contains (Text.lower s) with
          | true => exact List.contains_iff_mem.mp listed
          | false =>
            rw [listed] at refused
            cases refused
        · obtain ⟨e, unread⟩ := readsFilled_of_ne_text stated text
          have taken := confirmed fun ⟨s, word, _⟩ => text ⟨s, word⟩
          rw [unread] at taken
          cases taken

end Floor

/-! ## The desk -/

/-- The status of a row is set when nothing in the plan stands in the way of a transaction. -/
theorem Store.updateRow_of_plan {s : Store} (o : Order) (status : String) (executed : Option Float)
    (begins : s.plan.transaction = none) (commits : s.plan.commit = none) :
    ∃ ticket t, updateRow o status executed s = (.ok ticket, t) :=
  ⟨_, transaction_of_plan begins rfl commits⟩

namespace Desk

variable {user id : String} {d : Desk} {o : Order} {answer : Payload}

/-- **The cancel of an open order is answered**, and the store takes what is written. -/
structure IsAnswered (user id : String) (d : Desk) (o : Order) (answer : Payload) : Prop where
  has : d.store.ledger.HasOpen user id o
  answers : d.floor.Answers d.reference user o answer
  begins : d.store.plan.transaction = none
  commits : d.store.plan.commit = none

/-- An answer that is held against the cancel leaves the store alone. -/
theorem cancelOrder_of_error (h : IsAnswered user id d o answer) {e : Failure}
    (verdict : Floor.verdict o.symbol answer = .error e) :
    (cancelOrder user id d).1 = .error e ∧ (cancelOrder user id d).2.store = d.store := by
  have ends := Floor.cancelAtVenue_of_answer h.answers
  rw [verdict] at ends
  have one : ∃ f, cancelOne user id d = (.error e, { d with floor := f }) := by
    unfold cancelOne
    rw [Ledger.cancelable_iff.mpr h.has]
    dsimp only
    rcases asked : (Floor.cancelAtVenue d.reference user o).run d.floor with ⟨r, f⟩
    have same : r = .error e := by
      rw [← ends]
      exact (congrArg Prod.fst asked).symm
    rw [same]
    exact ⟨f, rfl⟩
  obtain ⟨f, one⟩ := one
  unfold cancelOrder
  rw [one]
  exact ⟨rfl, rfl⟩

/-- An answer that is not held against the cancel closes the order, and it stays closed
whatever comes of the orders that it is linked to. -/
theorem cancelOrder_of_ok (h : IsAnswered user id d o answer)
    (verdict : Floor.verdict o.symbol answer = .ok ()) :
    (∃ t, (cancelOrder user id d).1 = .ok t)
    ∧ ∃ time, (cancelOrder user id d).2.store.ledger.find? id = some (o.canceledAt time) := by
  have ends := Floor.cancelAtVenue_of_answer h.answers
  rw [verdict] at ends
  have one : ∃ r, (cancelOne user id d).1 = .ok r := by
    unfold cancelOne
    rw [Ledger.cancelable_iff.mpr h.has]
    dsimp only
    rcases asked : (Floor.cancelAtVenue d.reference user o).run d.floor with ⟨r, f⟩
    have same : r = .ok () := by
      rw [← ends]
      exact (congrArg Prod.fst asked).symm
    rw [same]
    dsimp only
    obtain ⟨ticket, s, updated⟩ :=
      Store.updateRow_of_plan o OrderStatus.canceled.name none h.begins h.commits
    rw [updated]
    exact ⟨_, rfl⟩
  have how := cancelsOne user id d
  rcases canceled : cancelOne user id d with ⟨r, d₁⟩
  rw [canceled] at one how
  obtain ⟨r, rfl⟩ := one
  cases how with
  | @closed o' time f s has said ledger incidents =>
    obtain rfl := Option.some.inj (h.has.stored.symm.trans has.stored)
    have closed : s.ledger.find? id = some (o.canceledAt time) := by
      rw [ledger]
      exact Ledger.find?_close_self time has.stored
    unfold cancelOrder
    rw [canceled]
    cases o.sibling? with
    | none => exact ⟨⟨_, rfl⟩, time, closed⟩
    | some next =>
      refine ⟨⟨_, rfl⟩, time, ?_⟩
      have ages : s.ledger.Ages (fun _ => False) _ :=
        (keeps_cascade (moves_cancelOne user) (fun _ _ => moves_of_eq rfl) next
          { d with floor := f, store := s }).keeps Ledger.Step.ages
      exact ages.find?_of_closed closed rfl not_false

/-- **The row follows the answer**: an order that the venue says was filled is not touched
and the cancel is refused, and every other order is canceled. -/
structure Heeds (user id : String) (d : Desk) (answer : Payload) : Prop where
  filled : answer.SaysFilled →
    (∃ why, (cancelOrder user id d).1 = .error (.refused why))
      ∧ (cancelOrder user id d).2.store.ledger = d.store.ledger
  confirmed : ¬ answer.SaysFilled →
    (∃ t, (cancelOrder user id d).1 = .ok t)
      ∧ ∃ row, (cancelOrder user id d).2.store.ledger.find? id = some row
        ∧ row.status = OrderStatus.canceled.name

/-- **The row follows the answer exactly when the answer is plain.** -/
theorem cancel_heeds_answer {user id : String} {d : Desk} {o : Order} {answer : Payload}
    (h : IsAnswered user id d o answer) : Heeds user id d answer ↔ answer.IsPlain o.symbol := by
  constructor
  · intro heeds
    refine Floor.isPlain_of_verdict (fun filled => ?_) fun confirmed => ?_
    · obtain ⟨⟨why, refused⟩, -⟩ := heeds.filled filled
      cases verdict : Floor.verdict o.symbol answer with
      | ok _ =>
        obtain ⟨⟨t, ended⟩, -⟩ := cancelOrder_of_ok h verdict
        rw [ended] at refused
        cases refused
      | error e =>
        rw [(cancelOrder_of_error h verdict).1] at refused
        cases refused
        exact ⟨why, rfl⟩
    · obtain ⟨⟨t, ended⟩, -⟩ := heeds.confirmed confirmed
      cases verdict : Floor.verdict o.symbol answer with
      | ok _ => rfl
      | error e =>
        rw [(cancelOrder_of_error h verdict).1] at ended
        cases ended
  · intro plain
    obtain ⟨filled, confirmed⟩ := Floor.verdict_of_isPlain plain
    constructor
    · intro wasFilled
      obtain ⟨refused, store⟩ := cancelOrder_of_error h (filled wasFilled)
      exact ⟨⟨_, refused⟩, by rw [store]⟩
    · intro notFilled
      obtain ⟨ended, time, row⟩ := cancelOrder_of_ok h (confirmed notFilled)
      exact ⟨ended, _, row, rfl⟩

end Desk

/-! ## Answers that are misread -/

/-- One open order. -/
def Ledger.ofOne : Ledger := ⟨[.small "o1" "u1" "NEW" none], by decide⟩

namespace Payload

/-- An answer with the word of a filled order, in capitals. -/
def closedInCapitals : Payload := .object [("id", .text "o1"), ("status", .text "CLOSED")]

/-- An answer with the word of a filled order, between blanks. -/
def closedInBlanks : Payload := .object [("id", .text "o1"), ("status", .text " closed ")]

/-- A confirmed cancel, without an identifier. -/
def canceledUnnamed : Payload := .object [("status", .text "canceled")]

end Payload

namespace Desk

open Payload (closedInCapitals closedInBlanks canceledUnnamed)

/-- The desk with one open order, whose cancel is answered in this way. -/
def answering (answer : Payload) : Desk := holding .ofOne [.answered answer]

/-- Whatever the answer is. -/
theorem isAnswered_answering (answer : Payload) :
    IsAnswered "u1" "o1" (answering answer) (.small "o1" "u1" "NEW" none) answer :=
  ⟨⟨rfl, rfl, rfl⟩, ⟨⟨_, rfl⟩, rfl, rfl⟩, rfl, rfl⟩

theorem cancel_heeds_answer_closedInCapitals :
    IsAnswered "u1" "o1" (answering closedInCapitals) (.small "o1" "u1" "NEW" none)
        closedInCapitals
      ∧ Heeds "u1" "o1" (answering closedInCapitals) closedInCapitals :=
  ⟨isAnswered_answering _, (cancel_heeds_answer (isAnswered_answering _)).mpr
    (.inr ⟨_, rfl, .inr ⟨"CLOSED", rfl, fun _ => by decide +kernel⟩⟩)⟩

/-- Two answers are not followed: the word of a filled order between blanks, after which the
order is canceled all the same, and a confirmed cancel without an identifier, after which it
is still open. -/
theorem not_all_answers_heeded :
    (IsAnswered "u1" "o1" (answering closedInBlanks) (.small "o1" "u1" "NEW" none) closedInBlanks
      ∧ ¬ Heeds "u1" "o1" (answering closedInBlanks) closedInBlanks)
    ∧ IsAnswered "u1" "o1" (answering canceledUnnamed) (.small "o1" "u1" "NEW" none)
        canceledUnnamed
      ∧ ¬ Heeds "u1" "o1" (answering canceledUnnamed) canceledUnnamed := by
  refine ⟨⟨isAnswered_answering _, fun heeds => ?_⟩, isAnswered_answering _, fun heeds => ?_⟩
  · obtain ⟨⟨why, refused⟩, -⟩ := heeds.filled ⟨" closed ", rfl, .inl (by decide +kernel)⟩
    have ended : (cancelOrder "u1" "o1" (answering closedInBlanks)).1.isOk = true := by
      decide +kernel
    rw [refused] at ended
    cases ended
  · have notFilled : ¬ canceledUnnamed.SaysFilled := by
      rintro ⟨s, word, among⟩
      cases word
      revert among
      decide +kernel
    obtain ⟨⟨t, ended⟩, -⟩ := heeds.confirmed notFilled
    have failed : (cancelOrder "u1" "o1" (answering canceledUnnamed)).1.isOk = false := by
      decide +kernel
    rw [ended] at failed
    cases failed

end Desk

end OrderDesk
