import IndexerSettings.CommandLine.Failure
import IndexerSettings.Log.Event

/-!
# Sessions

The work of a command: it logs events as it goes, and comes to a result or a
failure.  What was logged before a failure stays logged.
-/

namespace IndexerSettings

/-- The events logged, and what the work came to. -/
structure Session (α : Type) where
  events : List Log.Event
  result : Except Failure α

namespace Session

variable {α β : Type}

/-- Work done at once, without an event. -/
def done (a : α) : Session α := ⟨[], .ok a⟩

/-- One piece of work, and then another that depends on its result. -/
def andThen (x : Session α) (f : α → Session β) : Session β :=
  match x.result with
  | .ok a => ⟨x.events ++ (f a).events, (f a).result⟩
  | .error e => ⟨x.events, .error e⟩

instance : Monad Session where
  pure := done
  bind := andThen

def log (events : List Log.Event) : Session Unit := ⟨events, .ok ()⟩

/-- What an operation gives, its error told as a failure of the command. -/
def attempt {ε : Type} (asFailure : ε → Failure) (r : Except ε α) : Session α :=
  ⟨[], r.mapError asFailure⟩

def fail (f : Failure) : Session α := ⟨[], .error f⟩

end Session

end IndexerSettings
