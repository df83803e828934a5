import GraphDecl.Event

/-!
# Logged runs

A computation that may fail and reports events on its way. The events of a failed run are those
before the failure.
-/

namespace GraphDecl

structure Logged (ε α : Type) where
  events : List Event
  outcome : Except ε α

namespace Logged
variable {ε ε' α β : Type}

/-- Runs `f` on the outcome, its events behind those of `x`. -/
def andThen (x : Logged ε α) (f : α → Logged ε β) : Logged ε β :=
  match x.outcome with
  | .ok a => ⟨x.events ++ (f a).events, (f a).outcome⟩
  | .error e => ⟨x.events, .error e⟩

instance : Monad (Logged ε) where
  pure a := ⟨[], .ok a⟩
  bind := andThen

def emit (e : Event) : Logged ε Unit := ⟨[e], .ok ()⟩

def fail (e : ε) : Logged ε α := ⟨[], .error e⟩

def ofExcept (x : Except ε α) : Logged ε α := ⟨[], x⟩

/-- The same run with its error seen by `f`. -/
def mapError (f : ε → ε') (x : Logged ε α) : Logged ε' α := ⟨x.events, x.outcome.mapError f⟩

@[simp] theorem events_pure (a : α) : (pure a : Logged ε α).events = [] := rfl

@[simp] theorem outcome_pure (a : α) : (pure a : Logged ε α).outcome = .ok a := rfl

theorem bind_eq (x : Logged ε α) (f : α → Logged ε β) : x >>= f = x.andThen f := rfl

theorem bind_ok {x : Logged ε α} {a : α} (h : x.outcome = .ok a) (f : α → Logged ε β) :
    x >>= f = ⟨x.events ++ (f a).events, (f a).outcome⟩ := by
  rw [bind_eq, andThen, h]

theorem bind_error {x : Logged ε α} {e : ε} (h : x.outcome = .error e) (f : α → Logged ε β) :
    x >>= f = ⟨x.events, .error e⟩ := by
  rw [bind_eq, andThen, h]

theorem id_map' (x : Logged ε α) : id <$> x = x := by
  cases x with
  | mk events outcome => cases outcome <;> simp [Functor.map, andThen]

theorem andThen_assoc {γ : Type} (x : Logged ε α) (f : α → Logged ε β) (g : β → Logged ε γ) :
    (x.andThen f).andThen g = x.andThen fun a => (f a).andThen g := by
  cases x with
  | mk events outcome =>
    cases outcome with
    | error e => rfl
    | ok a =>
      simp only [andThen]
      cases (f a).outcome <;> simp

instance : LawfulMonad (Logged ε) :=
  LawfulMonad.mk' _ id_map' (fun a f => by simp [bind, andThen, pure]) andThen_assoc

end Logged
end GraphDecl
