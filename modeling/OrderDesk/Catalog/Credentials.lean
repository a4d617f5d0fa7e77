/-!
# Credentials

A user trades on a venue with a credential. There is at most one for each user and
venue, the one added last, and only an active one counts.
-/

namespace OrderDesk

/-- The right of a user to trade on a venue. -/
structure Credential where
  id : String
  user : String
  /-- The venue it is for. -/
  venue : String
  apiKey : String := ""
  secret : String := ""
  /-- The password, empty when the venue needs none. -/
  password : String := ""
  active : Bool := true
  deriving DecidableEq, Repr

/-- A store of credentials. -/
structure Credentials where
  /-- The credentials, at most one for each user and venue. -/
  entries : List Credential := []

namespace Credentials

/-- A credential is for this user and this venue. -/
def isFor (c : Credential) (user venue : String) : Bool := c.user == user && c.venue == venue

/-- The store with a credential added; it takes the place of the one for the same user
and venue. -/
def add (store : Credentials) (c : Credential) : Credentials :=
  ⟨store.entries.filter (fun d => !isFor d c.user c.venue) ++ [c]⟩

/-- The store of several credentials, added one after the other. -/
def ofList (cs : List Credential) : Credentials := cs.foldl add ⟨[]⟩

/-- The active credential of a user on a venue. -/
def active? (store : Credentials) (user venue : String) : Option Credential :=
  (store.entries.find? (isFor · user venue)).filter (·.active)

end Credentials

end OrderDesk
