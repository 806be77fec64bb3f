import FilmIndex.Server.Call
import FilmIndex.Session.Event

/-!
A session with a server: the server's state, the calls made so far and which of
them fail, the events logged and the text printed. An action that fails keeps all
that happened up to its failure.
-/

namespace FilmIndex

/-- `holds` tells whether the service holds a handle on its collection. -/
structure Session where
  server : Server := {}
  plan : Plan := Plan.none
  calls : List Call := []
  events : List Event := []
  printed : String := ""
  holds : Bool := false

abbrev Action (α : Type) := ExceptT Failure (StateM Session) α

namespace Action

variable {α : Type}

def fail (e : Failure) : Action α := throw e

def ofExcept {ε : Type} (failure : ε → Failure) : Except ε α → Action α
  | .ok a => pure a
  | .error e => fail (failure e)

/-- The outcome of an action, whether it fails or not. -/
def outcome (a : Action α) : Action (Except Failure α) := fun s =>
  let (r, s) := a s
  (.ok r, s)

/-- An action and then another in any case. A failure of the second counts
before one of the first. -/
def followedBy (a : Action α) (last : Action Unit) : Action α := do
  let r ← a.outcome
  last
  ofExcept id r

def log (e : Event) : Action Unit := modify fun s => { s with events := s.events ++ [e] }

def printLine (text : String) : Action Unit :=
  modify fun s => { s with printed := s.printed ++ text ++ "\n" }

def holding : Action Bool := do return (← get).holds

def setHolding (b : Bool) : Action Unit := modify fun s => { s with holds := b }

/-- A call recorded and made. It fails if that is planned, and if the connection
that it goes through is not open; otherwise the server decides. -/
def call (connection? : Option String) (c : Call) (effect : Server.Effect α) : Action α := fun s =>
  let calls := s.calls ++ [c]
  let made := { s with calls }
  match s.plan calls with
  | some message => (.error (.server (.refused message)), made)
  | none =>
    match connection?.filter fun a => !s.server.connected.contains a with
    | some connection => (.error (.server (.notConnected connection)), made)
    | none =>
      match effect s.server with
      | .ok (a, server) => (.ok a, { made with server })
      | .error e => (.error (.server e), made)

end Action

namespace Session

/-- The next call of a name is to fail. -/
def failNext (label message : String) (s : Session) : Session :=
  { s with plan := Plan.failNext label message s.calls.length s.plan }

def onServer (f : Server → Server) (s : Session) : Session := { s with server := f s.server }

end Session
end FilmIndex
