import OrderDesk.Catalog.Credentials
import OrderDesk.Failure
import OrderDesk.Venue.Session

/-!
# The trading floor

The floor holds the venues and the connections to them. A connection belongs to one
user on one venue; it is made when it is first needed, with the credential of the
moment, and kept until the floor is closed. Connections of different users to one venue
share the venue but nothing else.
-/

namespace OrderDesk

/-- How connections are made. -/
structure ConnectionPolicy where
  /-- How long a client waits, in milliseconds. -/
  timeout : Int := 30000
  /-- Orders go to the sandbox. -/
  sandbox : Bool := false
  enableRateLimit : Bool := true
  deriving DecidableEq, Repr

/-- **How the making of a client goes** for a venue. The client is built and then, when orders go
to the sandbox, switched to it. Both are up to the library that clients come from, and either may
fail: what has the name of a venue there need not be an exchange, and not every exchange has a
sandbox. The options do not matter for it, as a client only keeps them. -/
structure ClientMaking where
  /-- What comes of building a client. -/
  building : Except Fault Unit := .ok ()
  /-- What comes of switching one to the sandbox. -/
  switching : Except Fault Unit := .ok ()

/-- A connection of a user to a venue. -/
structure Connection where
  slug : String
  user : String
  /-- How many connections were made before it. -/
  number : Nat
  /-- The markets that were loaded last through it. -/
  markets : Market.Listing

/-- The venues and the connections to them. -/
structure Floor where
  policy : ConnectionPolicy := {}
  venues : List (String × Venue) := []
  /-- How the making of clients goes, by the names of the venues. -/
  making : String → ClientMaking := fun _ => {}
  /-- The connections, in the order in which they were made. -/
  connections : List Connection := []
  /-- How many connections were ever made. -/
  made : Nat := 0
  /-- Every call to a venue. -/
  journal : List JournalEntry := []
  notices : List Notice := []

/-- An operation on the floor that may fail. -/
abbrev FloorM := ExceptT Failure (StateM Floor)

namespace Floor

/-- The venue with a name. -/
def venue? (f : Floor) (slug : String) : Option Venue := f.venues.lookup slug

/-- The connection of a user to a venue. -/
def connection? (f : Floor) (slug user : String) : Option Connection :=
  f.connections.find? fun c => c.slug == slug && c.user == user

/-- A notice is given. -/
def notify (f : Floor) (n : Notice) : Floor := { f with notices := f.notices ++ [n] }

/-- A call is entered in the journal. -/
def record (f : Floor) (slug : String) (call : VenueCall) : Floor :=
  { f with journal := f.journal ++ [⟨slug, call⟩] }

/-- The options that a client is built with. -/
def options (p : ConnectionPolicy) (credential : Option Credential) : ClientOptions where
  timeout := p.timeout
  enableRateLimit := p.enableRateLimit
  keys := credential.map fun c => (c.apiKey, c.secret)
  password := (credential.map (·.password)).filter (!·.isEmpty)

/-- **A client is made** for a venue. One that was built and cannot be switched to the sandbox is
left to itself. -/
def makeClient (f : Floor) (slug : String) (credential : Option Credential) :
    Except Fault Unit × Floor :=
  match (f.making slug).building with
  | .error e => (.error e, f)
  | .ok () =>
    let f := f.record slug (.build slug (options f.policy credential))
    if f.policy.sandbox then ((f.making slug).switching, f.record slug .sandbox) else (.ok (), f)

/-- A new connection is kept after the others. -/
def keep (f : Floor) (slug user : String) : Connection × Floor :=
  let c : Connection := ⟨slug, user, f.made, []⟩
  (c, { f with connections := f.connections ++ [c], made := f.made + 1 })

/-- **The connection of a user to a venue**, made when there is none. It is kept only after its
client was made. -/
def resolve (slug user : String) (credential : Option Credential) : FloorM Connection := do
  let f ← get
  match f.connection? slug user with
  | some c => return c
  | none =>
    match f.venue? slug with
    | none => throw (.fault (.unknownVenue slug))
    | some _ =>
      let (client, f) := f.makeClient slug credential
      set f
      match client with
      | .error e => throw (.fault e)
      | .ok () =>
        let (c, f) := f.keep slug user
        set f
        return c

/-- A venue as it stands. -/
def script (f : Floor) (slug : String) : Venue := (f.venue? slug).getD {}

/-- The session of a user with a venue, as the floor stands. -/
def session (f : Floor) (slug user : String) : Session where
  slug := slug
  venue := f.script slug
  markets := ((f.connection? slug user).map (·.markets)).getD []
  journal := f.journal
  notices := f.notices

/-- A venue put among others: in place of the one with its name, else last. -/
def putVenue (slug : String) (v : Venue) : List (String × Venue) → List (String × Venue)
  | [] => [(slug, v)]
  | (name, old) :: rest =>
    if slug == name then (name, v) :: rest else (name, old) :: putVenue slug v rest

/-- Loaded markets in place of those of one connection. -/
def replaceMarkets (slug user : String) (markets : Market.Listing) (cs : List Connection) :
    List Connection :=
  cs.map fun c => if c.slug == slug && c.user == user then { c with markets := markets } else c

/-- The floor after a session. -/
def absorb (f : Floor) (user : String) (s : Session) : Floor :=
  { f with
    venues := putVenue s.slug s.venue f.venues
    connections := replaceMarkets s.slug user s.markets f.connections
    journal := s.journal
    notices := s.notices }

/-- An exchange with a venue, on the floor. Whatever the outcome, the floor is as the
session left it. -/
def onLine {α : Type} (slug user : String) (x : StateM Session α) : StateM Floor α :=
  fun f =>
    let (a, s) := x (f.session slug user)
    (a, f.absorb user s)

/-- An exchange with a venue that may fault. -/
def tryLine {α : Type} (slug user : String) (x : Line α) : FloorM (Except Fault α) :=
  ExceptT.lift (onLine slug user x.run)

/-- An exchange with a venue whose fault is the failure of the operation. -/
def runLine {α : Type} (slug user : String) (x : Line α) : FloorM α := do
  match ← tryLine slug user x with
  | .ok a => return a
  | .error e => throw (.fault e)

/-- Connections are closed one after the other, up to the first that fails. -/
def closeEach : List Connection → FloorM Unit
  | [] => return
  | c :: rest => do
    runLine c.slug c.user Line.close
    closeEach rest

/-- **The floor is closed**: every connection in its order, and when all are closed they
are forgotten. -/
def close : FloorM Unit := do
  closeEach (← get).connections
  modify ({ · with connections := [] })

end Floor

end OrderDesk
