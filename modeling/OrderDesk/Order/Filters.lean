import OrderDesk.Form
import OrderDesk.Text.Case

/-!
# Filters on orders

A query restricts orders by status, side and type. Each restriction is a text with
commas or a list of texts; blanks, letter case, order and repetition do not matter,
and a restriction without any word restricts nothing.
-/

namespace OrderDesk

/-- A restriction as it was written. -/
inductive FilterText where
  /-- Words with commas between them. -/
  | joined (s : String)
  | separate (words : List String)
  deriving DecidableEq, Repr

/-- The restrictions of a query. -/
structure OrderFilters where
  status : Option FilterText
  side : Option FilterText
  type : Option FilterText
  /-- Manual orders only, or the others only. -/
  isManual : Option Bool
  /-- How many orders at most. -/
  limit : Option Int

namespace OrderFilters

/-- The issues of the items of a list that should be texts. -/
def itemIssues (name : String) (items : List Payload) : List Form.Issue :=
  items.zipIdx.filterMap fun (p, i) =>
    match p with
    | .text _ => none
    | _ => some ⟨[.name name, .name "list[str]", .index i], .textExpected⟩

/-- The texts among payloads. -/
def textsOf (items : List Payload) : List String :=
  items.filterMap fun
    | .text s => some s
    | _ => none

/-- A restriction field: a text, a list of texts, or nothing. A payload that is neither
text nor list of texts is complained about under both readings. -/
def readFilter (form : List (String × Payload)) (name : String) :
    Form.Checked (Option FilterText) :=
  let notText : Form.Issue := ⟨[.name name, .name "str"], .textExpected⟩
  match form.lookup name with
  | none => .good none
  | some .null => .good none
  | some (.text s) => .good (some (.joined s))
  | some (.list items) =>
    match itemIssues name items with
    | [] => .good (some (.separate (textsOf items)))
    | issues => .bad (notText :: issues)
  | some _ => .bad [notText, ⟨[.name name, .name "list[str]"], .listExpected⟩]

/-- A limit field. -/
def asLimit (p : Payload) : Except Form.Complaint Int := do
  let n ← Form.asWhole p
  if 0 < n then return n else throw .positiveExpected

/-- The restrictions of a query from a form. -/
def read (form : List (String × Payload)) : Form.Checked OrderFilters :=
  mk <$> readFilter form "status"
    <*> readFilter form "side"
    <*> readFilter form "order_type"
    <*> Form.optional form "is_manual" Form.asFlag
    <*> Form.optional form "limit" asLimit

/-- No restriction at all. -/
def unrestricted : OrderFilters := ⟨none, none, none, none, none⟩

end OrderFilters

namespace FilterText

/-- The pieces of a text between its commas. -/
def pieces (s : String) : List String :=
  (s.toList.splitOn ',').map String.ofList

/-- The words of a restriction as they were written. -/
def rawWords : FilterText → List String
  | joined s => pieces s
  | separate words => words

/-- The words of a restriction that say something, trimmed and in upper case. -/
def words (f : FilterText) : List String :=
  (f.rawWords.map Text.trim).filterMap fun w => if w.isEmpty then none else some (Text.upper w)

/-- A list without repetitions, in ascending order of code points. -/
def canonical (ws : List String) : List String :=
  (ws.mergeSort (fun a b => decide (a ≤ b))).eraseReps

/-- What a restriction means, or the words that are no member of its vocabulary, both
in ascending order. A restriction without words is none. -/
def parse (α : Type) [Vocabulary α] (f : Option FilterText) :
    Except (List String) (Option (List String)) :=
  match (f.map words).map canonical with
  | none => .ok none
  | some [] => .ok none
  | some ws =>
    match ws.filter (fun w => !(Vocabulary.names α).contains w) with
    | [] => .ok (some ws)
    | invalid => .error invalid

end FilterText

end OrderDesk
