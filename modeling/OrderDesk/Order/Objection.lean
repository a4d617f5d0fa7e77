import OrderDesk.Order.Columns

/-!
# What the store says when it does not take a row

The store objects to a row for what stands in one column. What it says is not only about that
column: it gives the cause, then the statement that was to write the row, and then everything
that was to be written, column by column. So the whole ticket can be read off the message, also
the columns that the objection has nothing to do with.
-/

namespace OrderDesk

/-- A text of which no more than so many characters are shown, the first and the last ones. -/
def Text.abridged (limit : Nat) (s : String) : String :=
  let cs := s.toList
  let extra := cs.length - limit
  if extra == 0 then s
  else
    String.ofList (cs.take (limit / 2)) ++ " ... (" ++ Number.digitsText extra
      ++ " characters truncated) ... " ++ String.ofList (cs.drop (cs.length - limit / 2))

namespace Ticket

/-- A mark as the store takes it. -/
def bit? : Option Bool → Payload
  | some b => .whole (if b then 1 else 0)
  | none => .null

/-- The columns of a ticket as the store takes them. -/
def parameters (t : Ticket) : List (String × Payload) :=
  t.columnsWith (fun time => .ofText? (time.map Stamp.columnText)) bit?

/-- The columns of an order, in their order. -/
def columnNames : List String := (parameters {}).map Prod.fst

/-- The statement that writes a row. -/
def statement : String :=
  "INSERT INTO orders (" ++ ", ".intercalate columnNames ++ ") VALUES ("
    ++ ", ".intercalate (columnNames.map fun _ => "?") ++ ")"

/-- What is to be written, column by column. -/
def shownParameters (t : Ticket) : String :=
  ", ".intercalate (t.parameters.map fun p => Text.abridged 300 p.2.shown)

end Ticket

namespace Objection

/-- Where a column stands among the others, from one on. -/
def position (column : String) : Nat := Ticket.columnNames.idxOf column + 1

/-- The cause of an objection, in the store's words. -/
def cause : Objection → String
  | unfilled column =>
    "(sqlite3.IntegrityError) NOT NULL constraint failed: orders." ++ column
  | taken => "(sqlite3.IntegrityError) UNIQUE constraint failed: orders.id"
  | unbindable column kind =>
    "(sqlite3.ProgrammingError) Error binding parameter " ++ Number.digitsText (position column)
      ++ ": type '" ++ kind.name ++ "' is not supported"
  | beyondRange => Fault.beyondStore.message

/-- Where the manual of the store explains an objection. -/
def reference : Objection → String
  | unbindable .. => "f405"
  | _ => "gkpj"

/-- **What the store says when it does not take a row**: the cause, the statement, and the
ticket. -/
def text (x : Objection) (t : Ticket) : String :=
  x.cause ++ "\n[SQL: " ++ Ticket.statement ++ "]\n[parameters: (" ++ t.shownParameters
    ++ ")]\n(Background on this error at: https:" ++ "//sqlalche.me/e/21/" ++ x.reference ++ ")"

/-- **The fault that an objection comes to.** A number that is out of range does not reach the
store, so that nothing is said about the statement. -/
def fault (x : Objection) (t : Ticket) : Fault :=
  match x with
  | unfilled _ | taken => .constraint (x.text t)
  | unbindable .. => .unstorable (x.text t)
  | beyondRange => .beyondStore

end Objection

namespace Ticket

/-- **The row that the store makes of a ticket** whose identifier and times have been settled. -/
def row (t : Ticket) (id : String) (transactTime createdAt updatedAt : Stamp) :
    Except Fault Order :=
  (t.toOrder id transactTime createdAt updatedAt).mapError
    (·.fault (t.settle id transactTime createdAt updatedAt))

/-- A row is made when the store has no objection. -/
theorem toOrder_of_row {t : Ticket} {id : String} {transactTime createdAt updatedAt : Stamp}
    {o : Order} (h : t.row id transactTime createdAt updatedAt = .ok o) :
    t.toOrder id transactTime createdAt updatedAt = .ok o := by
  unfold row at h
  cases made : t.toOrder id transactTime createdAt updatedAt with
  | error x =>
    rw [made] at h
    cases h
  | ok p =>
    rw [made] at h
    cases h
    rfl

end Ticket

end OrderDesk
