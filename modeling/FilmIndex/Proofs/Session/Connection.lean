import FilmIndex.Proofs.Number.Numeral
import FilmIndex.Proofs.Session.Action
import FilmIndex.Session.Service

/-!
The connection of a service around what it does. What is done on an open connection does
not change how the connection is opened, and it is closed whatever came of it.
-/

namespace FilmIndex
open FilmIndex.Action

namespace Service

variable (s : Service) (t : Session)

def connectCall : Call := .connect s.connection s.connectOptions

/-- The session after a call that opened the connection. -/
def opened : Session :=
  { t with
    server := if t.server.connected.contains s.connection then t.server
      else { t.server with connected := t.server.connected ++ [s.connection] }
    calls := t.calls ++ [s.connectCall]
    events := t.events ++ [.connected s.settings.milvusHost s.settings.milvusPort] }

/-- The session after a call that closed the connection. -/
def closed : Session :=
  { t with
    server := { t.server with connected := t.server.connected.filter (· != s.connection) }
    calls := t.calls ++ [.disconnect s.connection]
    events := t.events ++ [.disconnected]
    holds := false }

variable {s t}

theorem mem_connected_opened : s.connection ∈ (s.opened t).server.connected := by
  simp only [opened]
  split
  · exact List.contains_iff_mem.1 ‹_›
  · exact List.mem_append_right _ (List.mem_singleton.2 rfl)

theorem mem_connected_opened_iff {name : String} (h : name ≠ s.connection) :
    name ∈ (s.opened t).server.connected ↔ name ∈ t.server.connected := by
  simp only [opened]
  split
  · rfl
  · simp [h]

/-- Nothing is left of a connection that is opened and closed. -/
theorem filter_connected_opened :
    { (s.opened t).server with
      connected := (s.opened t).server.connected.filter (· != s.connection) } =
        { t.server with connected := t.server.connected.filter (· != s.connection) } := by
  simp only [opened]
  split
  · rfl
  · simp

/-- A connection that is open already changes nothing. -/
theorem server_opened (h : s.connection ∈ t.server.connected) : (s.opened t).server = t.server :=
  if_pos (List.contains_iff_mem.2 h)

@[simp] theorem calls_opened : (s.opened t).calls = t.calls ++ [s.connectCall] := rfl

@[simp] theorem events_opened : (s.opened t).events =
    t.events ++ [.connected s.settings.milvusHost s.settings.milvusPort] := rfl

@[simp] theorem printed_opened : (s.opened t).printed = t.printed := rfl

@[simp] theorem collections_opened :
    (s.opened t).server.collections = t.server.collections := by
  simp only [opened]
  split <;> rfl

@[simp] theorem extraStats_opened : (s.opened t).server.extraStats = t.server.extraStats := by
  simp only [opened]
  split <;> rfl

theorem mem_connected_closed_iff {name : String} (h : name ≠ s.connection) :
    name ∈ (s.closed t).server.connected ↔ name ∈ t.server.connected := by
  simp [closed, h]

theorem not_mem_connected_closed : s.connection ∉ (s.closed t).server.connected := by
  simp [closed]

variable {α : Type} {body : Action α}

/-- A port that cannot be written is noticed before any call. -/
theorem connect_unwritable (h : ¬ Number.Writable s.settings.milvusPort) :
    s.connect t = (.error (.number .tooManyDigits), t) := by
  have unwritable : (Value.int s.settings.milvusPort).checkWritable = .error .tooManyDigits :=
    if_neg (mt Number.writable_iff.1 h)
  rw [connect, unwritable]
  rfl

theorem connected_unwritable (h : ¬ Number.Writable s.settings.milvusPort) (body : Action α) :
    s.connected body t = (.error (.number .tooManyDigits), t) := bind_error (connect_unwritable h) _

theorem connect_eq (h : Number.Writable s.settings.milvusPort) : s.connect = (do
    Action.call none s.connectCall (Server.connect s.connection)
    Action.log (.connected s.settings.milvusHost s.settings.milvusPort)) := by
  have written : (Value.int s.settings.milvusPort).checkWritable = .ok () :=
    if_pos (Number.writable_iff.2 h)
  rw [connect, written]
  rfl

section
variable (port : Number.Writable s.settings.milvusPort)
include port

theorem connected_refused {message : String}
    (h : t.plan (t.calls ++ [s.connectCall]) = some message) (body : Action α) :
    s.connected body t =
      (.error (.server (.refused message)), { t with calls := t.calls ++ [s.connectCall] }) := by
  rw [connected, connect_eq port]
  exact bind_error (bind_error (call_refused none s.connectCall _ t h) _) _

theorem connect_allowed (h : t.plan (t.calls ++ [s.connectCall]) = none) :
    s.connect t = (.ok (), s.opened t) := by
  have opened := call_apart s.connectCall (Server.connect s.connection) h rfl
  rw [connect_eq port]
  exact (bind_ok opened _).trans rfl

theorem connected_allowed (h : t.plan (t.calls ++ [s.connectCall]) = none) (body : Action α) :
    s.connected body t = body.followedBy s.close (s.opened t) :=
  bind_ok (connect_allowed port h) _

end

theorem followedBy_close_refused {r : Except Failure α} {u : Session} {message : String}
    (h : body t = (r, u))
    (refused : u.plan (u.calls ++ [.disconnect s.connection]) = some message) :
    body.followedBy s.close t = (.error (.server (.refused message)),
      { u with calls := u.calls ++ [.disconnect s.connection] }) := by
  have close := bind_error (call_refused none (.disconnect s.connection)
    (Server.disconnect s.connection) u refused) fun _ => do
      Action.setHolding false
      Action.log .disconnected
  rw [followedBy_apply, h, Service.close, close]

theorem followedBy_close_allowed {r : Except Failure α} {u : Session} (h : body t = (r, u))
    (allowed : u.plan (u.calls ++ [.disconnect s.connection]) = none) :
    body.followedBy s.close t = (r, s.closed u) := by
  have close := bind_ok (call_apart (.disconnect s.connection) (Server.disconnect s.connection)
    allowed rfl) fun _ => do
      Action.setHolding false
      Action.log .disconnected
  rw [followedBy_apply, h, Service.close, close]
  rfl

variable {r : Except Failure α} {u : Session}

theorem calls_followedBy_close (h : body t = (r, u)) :
    (body.followedBy s.close t).2.calls = u.calls ++ [.disconnect s.connection] := by
  cases hp : u.plan (u.calls ++ [.disconnect s.connection]) with
  | some message => rw [followedBy_close_refused h hp]
  | none =>
      rw [followedBy_close_allowed h hp]
      rfl

theorem followedBy_close_raises {message : String}
    (h : body t = (.error (.server (.refused message)), u)) :
    ∃ message, (body.followedBy s.close t).1 = .error (.server (.refused message)) := by
  cases hp : u.plan (u.calls ++ [.disconnect s.connection]) with
  | some message' => exact ⟨message', by rw [followedBy_close_refused h hp]⟩
  | none => exact ⟨message, by rw [followedBy_close_allowed h hp]⟩

end Service
end FilmIndex
