import Provision.Log.Event

/-!
# Attempts

An `Attempt` is an outcome together with the events on the way to it. Attempts compose in
order: the events of the first part come first, and a failure ends the composition but
keeps the events that led to it.
-/

namespace Provision

/-- An outcome and the events that led to it. -/
structure Attempt (ε α : Type) where
  result : Except ε α
  events : List Event

namespace Attempt

variable {ε α β : Type}

def succeed (a : α) : Attempt ε α :=
  ⟨.ok a, []⟩

def fail (e : ε) : Attempt ε α :=
  ⟨.error e, []⟩

/-- An outcome on the way to which nothing happens. -/
def ofExcept (result : Except ε α) : Attempt ε α :=
  ⟨result, []⟩

/-- The event by itself. -/
def record (event : Event) : Attempt ε Unit :=
  ⟨.ok (), [event]⟩

def andThen (x : Attempt ε α) (f : α → Attempt ε β) : Attempt ε β :=
  match x.result with
  | .error e => ⟨.error e, x.events⟩
  | .ok a => ⟨(f a).result, x.events ++ (f a).events⟩

/-- The attempt followed by an event, whatever its outcome. -/
def closing (x : Attempt ε α) (event : Event) : Attempt ε α :=
  ⟨x.result, x.events ++ [event]⟩

/-- The attempt with its outcome in another form. -/
def map (g : α → β) (x : Attempt ε α) : Attempt ε β :=
  ⟨x.result.map g, x.events⟩

instance : Monad (Attempt ε) where
  pure := succeed
  bind := andThen

@[simp]
theorem result_pure (a : α) :
  (pure a : Attempt ε α).result = .ok a
  := rfl

@[simp]
theorem events_pure (a : α) :
  (pure a : Attempt ε α).events = []
  := rfl

@[simp]
theorem result_map (g : α → β) (x : Attempt ε α) :
  (x.map g).result = x.result.map g
  := rfl

@[simp]
theorem events_map (g : α → β) (x : Attempt ε α) :
  (x.map g).events = x.events
  := rfl

/-- The outcome of a composition is the composition of the outcomes. -/
theorem result_bind (x : Attempt ε α) (f : α → Attempt ε β) :
  (x >>= f).result = x.result.bind (fun a => (f a).result)
  := by
  change (andThen x f).result = _
  rw [andThen]
  cases x.result <;> rfl

variable (f : α → Attempt ε β)

@[simp]
theorem ofExcept_ok_bind (a : α) :
  ofExcept (.ok a) >>= f = f a
  := rfl

@[simp]
theorem ofExcept_error_bind (e : ε) :
  ofExcept (.error e) >>= f = fail e
  := rfl

@[simp]
theorem record_bind (event : Event) (f : Unit → Attempt ε β) :
  record event >>= f = ⟨(f ()).result, event :: (f ()).events⟩
  := rfl

/-- What happens in a composition happens in its first part or in a second part. -/
theorem mem_events_bind {x : Attempt ε α} {f : α → Attempt ε β} {event : Event}
    (h : event ∈ (x >>= f).events) :
  event ∈ x.events ∨ ∃ a, event ∈ (f a).events
  := by
  change event ∈ (andThen x f).events at h
  rw [andThen] at h
  split at h
  · exact .inl h
  · rename_i a _
    obtain h | h := List.mem_append.mp h
    · exact .inl h
    · exact .inr ⟨a, h⟩

end Attempt

end Provision
