import OrderDesk.Desk.Basic

/-!
# The context of a request

Every operation on a venue starts by finding out what a request is about: which two
coins, over which connection, under which symbol. A pair that is given by coins is
looked up directly. One that is given by a symbol is the first reading of the symbol
whose two assets are both in the catalogue.
-/

namespace OrderDesk

/-- What a request is about. -/
structure Context where
  user : String
  base : Coin Float
  quote : Coin Float
  slug : String
  /-- The pair as the venue writes it. -/
  symbol : String

namespace Reference

/-- A coin by its identifier. -/
def coin (ref : Reference) (id : String) : Except Failure (Coin Float) :=
  match ref.coins.find? id with
  | some c => .ok c
  | none => .error (.missing s!"Coin {id} not found")

/-- The asset that is blamed when no reading of a symbol is covered: the base of the
first reading when the catalogue lacks it, else its quote. -/
def blamed (ref : Reference) (readings : List Pair) (first : Pair) : String :=
  let found := ref.coins.withSymbols (readings.flatMap fun p => [p.base, p.quote])
  if (Coins.lastWithSymbol? found first.base).isNone then first.base else first.quote

/-- The coins of a symbol. -/
def coinsOfSymbol (ref : Reference) (symbol : String) :
    Except Failure (Coin Float × Coin Float) :=
  match Pair.readings symbol with
  | [] => .error (.refused (.unreadableSymbol symbol))
  | first :: rest =>
    match ref.coins.cover? (first :: rest) with
    | some pair => .ok pair
    | none => .error (.missing s!"Coin {ref.blamed (first :: rest) first} not found")

/-- **The coins that a request is about.** -/
def coinsOf (ref : Reference) (r : OrderRequest) : Except Failure (Coin Float × Coin Float) :=
  match r.baseCoin.filter (!·.isEmpty), r.quoteCoin.filter (!·.isEmpty) with
  | some base, some quote => do return (← ref.coin base, ← ref.coin quote)
  | _, _ => ref.coinsOfSymbol (r.symbol.getD "")

/-- The credential of a user on a venue. -/
def credential (ref : Reference) (user slug : String) : Except Failure Credential :=
  match ref.credentials.active? user slug with
  | some c => .ok c
  | none => .error (.missing s!"No active {slug} connection for user {user}")

end Reference

namespace Floor

/-- The outcome of a check. -/
def check {α : Type} (x : Except Failure α) : FloorM α := ExceptT.mk (pure x)

/-- The connection of a user to a venue, made with the user's credential. -/
def connectAs (ref : Reference) (user slug : String) : FloorM Connection := do
  let credential ← check (ref.credential user slug)
  resolve slug user (some credential)

/-- **The context of a request.** -/
def context (ref : Reference) (r : OrderRequest) (user : String) : FloorM Context := do
  let (base, quote) ← check (ref.coinsOf r)
  let connection ← connectAs ref user r.venue
  let symbol ← check ((Pair.format (base.symbol ++ "/" ++ quote.symbol)).mapError .fault)
  return ⟨user, base, quote, connection.slug, symbol⟩

/-- An exchange over the connection of a context. -/
def speak {α : Type} (ctx : Context) (x : Line α) : FloorM α := runLine ctx.slug ctx.user x

/-- An exchange over the connection of a context, with its outcome. -/
def trySpeak {α : Type} (ctx : Context) (x : Line α) : StateM Floor (Except Fault α) :=
  onLine ctx.slug ctx.user x.run

end Floor

end OrderDesk
