import FilmIndex.Session.Basic

/-!
How actions run one after the other, and actions that are made of some given ones
and handle no failure of them. What such an action does is settled by its parts.
-/

namespace FilmIndex
namespace Action

variable {α β : Type} {a : Action α} {s t : Session}

theorem bind_apply (a : Action α) (f : α → Action β) (s : Session) :
    (a >>= f) s = match a s with
      | (.ok x, t) => f x t
      | (.error e, t) => (.error e, t) := by
  simp only [bind, ExceptT.bind, ExceptT.mk, StateT.bind, ExceptT.bindCont]
  rcases a s with ⟨_ | _, _⟩ <;> rfl

theorem bind_ok {x : α} (h : a s = (.ok x, t)) (f : α → Action β) : (a >>= f) s = f x t := by
  rw [bind_apply, h]

theorem bind_error {e : Failure} (h : a s = (.error e, t)) (f : α → Action β) :
    (a >>= f) s = (.error e, t) := by
  rw [bind_apply, h]

theorem followedBy_apply (a : Action α) (last : Action Unit) (s : Session) :
    a.followedBy last s = match last (a s).2 with
      | (.ok _, t) => ((a s).1, t)
      | (.error e, t) => (.error e, t) := by
  have h : a.outcome s = (.ok (a s).1, (a s).2) := rfl
  rw [followedBy, bind_ok h, bind_apply]
  rcases last (a s).2 with ⟨_ | _, _⟩
  · rfl
  · rcases (a s).1 with _ | _ <;> rfl

section
variable (connection? : Option String) (c : Call) (effect : Server.Effect α) (s : Session)

theorem call_refused {message : String} (h : s.plan (s.calls ++ [c]) = some message) :
    call connection? c effect s =
      (.error (.server (.refused message)), { s with calls := s.calls ++ [c] }) := by
  rw [call, h]

/-- A call is recorded. Then it fails and changes nothing, or it has its effect. -/
theorem call_cases :
    (∃ e, ((∃ message, e = .refused message) ∨ (∃ a, e = .notConnected a) ∨
        effect s.server = .error e) ∧
      call connection? c effect s = (.error (.server e), { s with calls := s.calls ++ [c] })) ∨
    ∃ x server, effect s.server = .ok (x, server) ∧
      call connection? c effect s = (.ok x, { s with server, calls := s.calls ++ [c] }) := by
  cases hp : s.plan (s.calls ++ [c]) with
  | some message => exact .inl ⟨_, .inl ⟨message, rfl⟩, call_refused connection? c effect s hp⟩
  | none =>
      cases ha : connection?.filter fun a => !s.server.connected.contains a with
      | some a => exact .inl ⟨.notConnected a, .inr (.inl ⟨a, rfl⟩), by rw [call, hp, ha]⟩
      | none =>
          cases he : effect s.server with
          | error e => exact .inl ⟨e, .inr (.inr rfl), by rw [call, hp, ha, he]⟩
          | ok r => exact .inr ⟨r.1, r.2, rfl, by rw [call, hp, ha, he]⟩

theorem call_done {x : α} {server : Server} (hp : s.plan (s.calls ++ [c]) = none)
    (hc : ∀ a, connection? = some a → a ∈ s.server.connected)
    (he : effect s.server = .ok (x, server)) :
    call connection? c effect s = (.ok x, { s with server, calls := s.calls ++ [c] }) := by
  have hf : (connection?.filter fun a => !s.server.connected.contains a) = none := by
    cases connection? with
    | none => rfl
    | some a => simp [Option.filter, hc a rfl]
  rw [call, hp, hf, he]

theorem calls_call : (call connection? c effect s).2.calls = s.calls ++ [c] := by
  rcases call_cases connection? c effect s with ⟨_, _, h⟩ | ⟨_, _, _, h⟩ <;> rw [h]

theorem plan_call : (call connection? c effect s).2.plan = s.plan := by
  rcases call_cases connection? c effect s with ⟨_, _, h⟩ | ⟨_, _, _, h⟩ <;> rw [h]

end

/-- A call that goes through no connection. -/
theorem call_apart (c : Call) (effect : Server.Effect α) {s : Session} {x : α} {server : Server}
    (h : s.plan (s.calls ++ [c]) = none) (he : effect s.server = .ok (x, server)) :
    call none c effect s = (.ok x, { s with server, calls := s.calls ++ [c] }) :=
  call_done none c effect s h nofun he

theorem call_nothing (c : Call) {s : Session} (h : s.plan (s.calls ++ [c]) = none) :
    call none c Server.nothing s = (.ok (), { s with calls := s.calls ++ [c] }) :=
  call_apart c Server.nothing h rfl

theorem followedBy_allowed {r : Except Failure α} {c : Call}
    (ha : a s = (r, t)) (h : t.plan (t.calls ++ [c]) = none) :
    a.followedBy (call none c Server.nothing) s = (r, { t with calls := t.calls ++ [c] }) := by
  rw [followedBy_apply, ha, call_nothing c h]

theorem followedBy_refused {r : Except Failure α} {c : Call}
    {message : String} (ha : a s = (r, t)) (h : t.plan (t.calls ++ [c]) = some message) :
    a.followedBy (call none c Server.nothing) s =
      (.error (.server (.refused message)), { t with calls := t.calls ++ [c] }) := by
  rw [followedBy_apply, ha, call_refused none c Server.nothing t h]

/-- From the session `s` the action returns a value that is as `Q` says, or fails with
an error that is as `E` says. -/
def Ends (a : Action α) (s : Session) (Q : α → Session → Prop) (E : Failure → Session → Prop) :
    Prop :=
  match a s with
  | (.ok x, t) => Q x t
  | (.error e, t) => E e t

section
variable {Q Q' : α → Session → Prop} {R : β → Session → Prop} {E E' : Failure → Session → Prop}

theorem ends_of_ok {x : α} (h : a s = (.ok x, t)) (hQ : Q x t) : a.Ends s Q E := by
  rw [Ends, h]
  exact hQ

theorem ends_of_error {e : Failure} (h : a s = (.error e, t)) (hE : E e t) : a.Ends s Q E := by
  rw [Ends, h]
  exact hE

theorem Ends.ok {x : α} (ends : a.Ends s Q E) (h : a s = (.ok x, t)) : Q x t := by
  rwa [Ends, h] at ends

theorem Ends.error {e : Failure} (ends : a.Ends s Q E) (h : a s = (.error e, t)) : E e t := by
  rwa [Ends, h] at ends

theorem Ends.mono (h : a.Ends s Q E) (hQ : ∀ x t, Q x t → Q' x t) (hE : ∀ e t, E e t → E' e t) :
    a.Ends s Q' E' := by
  match ha : a s with
  | (.ok x, t) => exact ends_of_ok ha (hQ x t (h.ok ha))
  | (.error e, t) => exact ends_of_error ha (hE e t (h.error ha))

theorem ends_bind_ok {f : α → Action β} {x : α} (h : a s = (.ok x, t)) (next : (f x).Ends t R E) :
    (a >>= f).Ends s R E := by
  rwa [Ends, bind_ok h]

theorem Ends.bind {f : α → Action β} (h : a.Ends s Q E) (hf : ∀ x t, Q x t → (f x).Ends t R E) :
    (a >>= f).Ends s R E := by
  match ha : a s with
  | (.ok x, t) => exact ends_bind_ok ha (hf x t (h.ok ha))
  | (.error e, t) => exact ends_of_error (bind_error ha f) (h.error ha)

/-- Failures of the first of two actions may be told less of. -/
theorem Ends.bind_mono {f : α → Action β} (h : a.Ends s Q E) (hE : ∀ e t, E e t → E' e t)
    (hf : ∀ x t, Q x t → (f x).Ends t R E') : (a >>= f).Ends s R E' :=
  (h.mono (fun _ _ h => h) hE).bind hf

/-- A call has its effect on the server, or fails and leaves the server as it is. -/
theorem ends_call (connection? : Option String) (c : Call) (effect : Server.Effect α)
    (s : Session) :
    (call connection? c effect).Ends s (fun x t => effect s.server = .ok (x, t.server))
      (fun e t => t.server = s.server ∧ ∃ x, e = .server x ∧
        ((∃ message, x = .refused message) ∨ (∃ a, x = .notConnected a) ∨
          effect s.server = .error x)) := by
  rcases call_cases connection? c effect s with ⟨e, he, hcall⟩ | ⟨x, server, he, hcall⟩
  · exact ends_of_error hcall ⟨rfl, e, rfl, he⟩
  · exact ends_of_ok hcall he

/-- A call is recorded, whether it has its effect or not. -/
theorem ends_recorded (connection? : Option String) (c : Call) (effect : Server.Effect α)
    (s : Session) :
    (call connection? c effect).Ends s
      (fun x t => effect s.server = .ok (x, t.server) ∧ t.calls = s.calls ++ [c])
      fun _ t => t.server = s.server ∧ t.calls = s.calls ++ [c] := by
  rcases call_cases connection? c effect s with ⟨e, -, failed⟩ | ⟨x, server, he, done⟩
  · exact ends_of_error failed ⟨rfl, rfl⟩
  · exact ends_of_ok done ⟨he, rfl⟩

end

/-- The action writes the text, and that is all that it does. -/
def Writes (a : Action Unit) (text : String) : Prop :=
  ∀ s, a s = (.ok (), { s with printed := s.printed ++ text })

theorem writes_printLine (text : String) : Writes (printLine text) (text ++ "\n") := by
  intro s
  rw [← String.append_assoc]
  rfl

theorem Writes.bind {a : Action Unit} {f : Unit → Action Unit} {text text' : String}
    (ha : Writes a text) (hf : Writes (f ()) text') : Writes (a >>= f) (text ++ text') := by
  intro s
  rw [bind_ok (ha s), hf]
  simp only [String.append_assoc]

theorem exists_writes_forM {γ : Type} {f : γ → Action Unit} {xs : List γ}
    (h : ∀ x ∈ xs, ∃ text, Writes (f x) text) : ∃ text, Writes (xs.forM f) text := by
  induction xs with
  | nil => exact ⟨"", fun s => by rw [String.append_empty]; rfl⟩
  | cons x xs ih =>
      obtain ⟨⟨text, hx⟩, hxs⟩ := List.forall_mem_cons.1 h
      obtain ⟨text', hrest⟩ := ih hxs
      exact ⟨text ++ text', hx.bind hrest⟩

theorem Writes.printed_eq {a : Action Unit} {text : String} (h : Writes a text) :
    (a {}).2.printed = text := by
  rw [h]
  exact String.empty_append

/-- The action ends so from every session, and all that it does is to log the events. -/
def Logs (a : Action α) (r : Except Failure α) (events : List Event) : Prop :=
  ∀ s, a s = (r, { s with events := s.events ++ events })

section
variable {events later : List Event}

theorem logs_pure (x : α) : Logs (pure x) (.ok x) [] := by
  intro s
  rw [List.append_nil]
  rfl

theorem logs_fail (e : Failure) : Logs (fail (α := α) e) (.error e) [] := by
  intro s
  rw [List.append_nil]
  rfl

theorem logs_log (e : Event) : Logs (log e) (.ok ()) [e] := fun _ => rfl

theorem Logs.bind {x : α} {f : α → Action β} {r : Except Failure β} (ha : Logs a (.ok x) events)
    (hf : Logs (f x) r later) : Logs (a >>= f) r (events ++ later) := by
  intro s
  rw [bind_ok (ha s), hf, List.append_assoc]

theorem Logs.bind_error {e : Failure} (ha : Logs a (.error e) events) (f : α → Action β) :
    Logs (a >>= f) (.error e) events :=
  fun s => Action.bind_error (ha s) f

end

/-- Actions put together from the given ones by doing one after the other. -/
inductive MadeOf (Part : (α : Type) → Action α → Prop) : {α : Type} → Action α → Prop
  | part {α : Type} {a : Action α} (h : Part α a) : MadeOf Part a
  | pure {α : Type} (x : α) : MadeOf Part (pure x)
  | fail {α : Type} (e : Failure) : MadeOf Part (fail (α := α) e)
  | log (e : Event) : MadeOf Part (log e)
  | printLine (text : String) : MadeOf Part (printLine text)
  | holding : MadeOf Part holding
  | setHolding (b : Bool) : MadeOf Part (setHolding b)
  | bind {α β : Type} {a : Action α} {f : α → Action β} (first : MadeOf Part a)
      (next : ∀ x, MadeOf Part (f x)) : MadeOf Part (a >>= f)

namespace MadeOf

variable {Part : (α : Type) → Action α → Prop}

theorem ofExcept {ε : Type} (failure : ε → Failure) (r : Except ε α) :
    MadeOf Part (ofExcept failure r) := by
  cases r with
  | ok x => exact .pure x
  | error e => exact .fail _

theorem ite {c : Prop} [Decidable c] {a b : Action α} (ha : MadeOf Part a) (hb : MadeOf Part b) :
    MadeOf Part (if c then a else b) := by
  split
  · exact ha
  · exact hb

theorem mono {Part' : (α : Type) → Action α → Prop} {a : Action α} (h : MadeOf Part a)
    (parts : ∀ (α : Type) (a : Action α), Part α a → Part' α a) : MadeOf Part' a := by
  induction h with
  | part h => exact .part (parts _ _ h)
  | bind _ _ ha hf => exact .bind ha hf
  | pure x => exact .pure x
  | fail e => exact .fail e
  | log e => exact .log e
  | printLine text => exact .printLine text
  | holding => exact .holding
  | setHolding b => exact .setHolding b

theorem forM {γ : Type} (xs : List γ) {f : γ → Action Unit} (h : ∀ x, MadeOf Part (f x)) :
    MadeOf Part (xs.forM f) := by
  induction xs with
  | nil => exact .pure ()
  | cons x xs ih => exact .bind (h x) fun _ => ih

theorem mapM {γ δ : Type} (xs : List γ) {f : γ → Action δ} (h : ∀ x, MadeOf Part (f x)) :
    MadeOf Part (xs.mapM f) := by
  induction xs with
  | nil => exact .pure []
  | cons x xs ih =>
      rw [List.mapM_cons]
      exact .bind (h x) fun y => .bind ih fun ys => .pure (y :: ys)

end MadeOf
end Action
end FilmIndex
