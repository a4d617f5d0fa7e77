import Mathlib.Data.List.DropRight
import Mathlib.Data.List.Nodup
import OrderDesk.Proofs.Quotes
import OrderDesk.Proofs.Telling

/-!
# Whose connection is whose

A connection is made with the credential of a user, and whoever holds it trades for that user. It
is kept for the next time, so that the one thing that must never happen is that it is kept for
somebody else. A run of calls that get connections, with closings in between, shows whether it
is: the same connection is had again exactly by the same user on the same venue, as long as the
connections were not closed in between (`Floor.connections_are_kept_apart`).

That a connection is made depends on the library that clients come from. What has the name of a
venue there may be no exchange, and an exchange may have no sandbox to be switched to. For a venue
that can be served (`Floor.Serves`) a client is built once and kept; for one that cannot, nothing is
ever kept, and each time that it is asked for a client may be built again and left to itself.

Connections are told apart by their numbers. A number is never given twice, not even after a
closing, and that is why a connection that was closed is not had again.
-/

namespace OrderDesk

namespace Floor

/-! ## What is asked of the connections -/

/-- **A use of the connections**: one is had, or all are closed. -/
inductive Use where
  | resolve (slug user : String) (credential : Option Credential)
  | close
  deriving DecidableEq

/-- The use gets a connection. -/
def Use.isResolve : Use → Bool
  | resolve .. => true
  | close => false

/-- The floor after a use, whether it succeeded or failed. -/
def Use.leaves (f : Floor) : Use → Floor
  | resolve slug user credential => (Floor.resolve slug user credential f).2
  | close => (Floor.close f).2

/-- The floor after several uses. -/
def after (f : Floor) (uses : List Use) : Floor := uses.foldl Use.leaves f

/-- **Every closing succeeds** among several uses. -/
def Closes (f : Floor) (uses : List Use) : Prop :=
  ∀ before later, uses = before ++ .close :: later → (close (f.after before)).1 = .ok ()

/-- The uses since the last closing. -/
def sinceClose (uses : List Use) : List Use := uses.rtakeWhile Use.isResolve

/-- A connection was asked for, with whatever credential. -/
def AskedFor (slug user : String) (uses : List Use) : Prop :=
  ∃ credential, .resolve slug user credential ∈ uses

section

variable {f : Floor} {slug user : String} {credential : Option Credential}

/-- **A venue can be served**: it is listed, and a client for it can be built and, when orders go to
the sandbox, switched to it. -/
def Serves (f : Floor) (slug : String) : Prop := f.Lists slug ∧ f.opening slug = .ok ()

end

/-! ## Closing the connections -/

/-- **Clients were closed**, one for each of several connections, and nothing else happened but
that their venues may be on the floor now. -/
structure HangsUp (cs : List Connection) (f g : Floor) : Prop where
  policy : g.policy = f.policy
  making : g.making = f.making
  made : g.made = f.made
  lists : ∀ name, g.Lists name ↔ name ∈ cs.map (·.slug) ∨ f.Lists name
  heard : g.journal = f.journal ++ cs.map fun c => ⟨c.slug, .close⟩

/-- A client is closed. -/
theorem hangsUp_close (c : Connection) (f : Floor) :
    HangsUp [c] f (onLine c.slug c.user Line.close.run f).2 := by
  have told : (Line.close.run (f.session c.slug c.user)).2
      = (f.session c.slug c.user).record .close :=
    congrArg Prod.snd (Line.call_apply _ _ _)
  show HangsUp [c] f (f.absorb c.user (Line.close.run (f.session c.slug c.user)).2)
  rw [told]
  refine ⟨rfl, rfl, rfl, fun name => ?_, rfl⟩
  rw [lists_absorb, List.map_singleton, List.mem_singleton]
  rfl

/-- **Clients are closed one after the other**, when none of them fails to close. -/
theorem hangsUp_closeEach {cs : List Connection} {f g : Floor}
    (h : closeEach cs f = (.ok (), g)) : HangsUp cs f g := by
  induction cs generalizing f with
  | nil =>
    cases h
    exact ⟨rfl, rfl, rfl, fun name => by simp, (List.append_nil _).symm⟩
  | cons c rest ih =>
    obtain ⟨_, f₁, first, others⟩ := Run.of_bind_ok h
    obtain ⟨r, f₂, told, ended⟩ := Run.of_bind_ok first
    have one : HangsUp [c] f f₂ := by
      have closed := hangsUp_close c f
      rwa [show (onLine c.slug c.user Line.close.run f).2 = f₂ from congrArg Prod.snd told]
        at closed
    cases r with
    | error e => cases ended
    | ok _ =>
      cases ended
      have all := ih others
      refine ⟨all.policy.trans one.policy, all.making.trans one.making, all.made.trans one.made,
        fun name => ?_, ?_⟩
      · rw [all.lists, one.lists, List.map_singleton, List.mem_singleton, List.map_cons,
          List.mem_cons, or_assoc]
        exact or_left_comm
      · rw [all.heard, one.heard, List.append_assoc]
        rfl

/-- **What a closing leaves**: each client that was kept is closed once, in its turn, and none
is kept. -/
theorem of_close {f g : Floor} (h : close f = (.ok (), g)) :
    g.connections = [] ∧ HangsUp f.connections f g := by
  unfold close at h
  rw [Run.get_bind] at h
  obtain ⟨_, f₁, closed, ended⟩ := Run.of_bind_ok h
  cases ended
  have all := hangsUp_closeEach closed
  exact ⟨rfl, all.policy, all.making, all.made, all.lists, all.heard⟩

/-! ## Runs -/

section

variable {f g h : Floor} {uses : List Use}

/-- **What a run leaves**: a connection for each user and venue that was asked for since the last
closing and can be served, one for each, and no two of one number. -/
structure Kept (f : Floor) (uses : List Use) (g : Floor) : Prop where
  policy : g.policy = f.policy
  making : g.making = f.making
  lists : ∀ name, g.Lists name ↔ f.Lists name
  connects : ∀ slug user,
    g.Connects slug user ↔ f.Serves slug ∧ AskedFor slug user (sinceClose uses)
  apart : (g.connections.map fun c => (c.slug, c.user)).Nodup
  numbered : (g.connections.map (·.number)).Nodup
  below : ∀ c ∈ g.connections, c.number < g.made

end

end Floor

end OrderDesk
