import ClientGen.Diagnostics.Event
import ClientGen.Service
import ClientGen.Settings
import ClientGen.TypeTable

/-!
The session of one generation run, and the steps that builders take in it.

A session remembers the canonical names generated so far, in order of arrival. A step leaves a
session behind, logs events, and either fails or has a result; what it logged before failing stays
logged.
-/

namespace ClientGen

structure Registry where
  names : List String := []
deriving DecidableEq, Repr

namespace Registry

def contains (r : Registry) (name : String) : Bool := r.names.contains name

def register (r : Registry) (name : String) : Except GenError Registry :=
  if r.contains name then .error (.duplicateClass name) else .ok ⟨r.names ++ [name]⟩

def size (r : Registry) : Nat := r.names.length

def sorted (r : Registry) : List String := r.names.mergeSort fun a b => decide (a ≤ b)

def resetting (r : Registry) : Event :=
  ⟨.debug, Target.registry, "Resetting registry of " ++ toString r.size ++ " classes"⟩

end Registry

structure Session where
  registry : Registry := {}
  types : TypeTable
  settings : Settings
  /-- The declared GET response at the end of a path of services. -/
  responseAt : List String → Option Response

namespace Session

def new (settings : Settings) (responseAt : List String → Option Response) : Session :=
  { types := .withOverrides settings.typeOverrides, settings, responseAt }

def withTypes (s : Session) (types : TypeTable) : Session := { s with types }

end Session

structure Outcome (α : Type) where
  session : Session
  events : List Event
  result : Except GenError α

def Build (α : Type) : Type := Session → Outcome α

namespace Build

variable {α β : Type}

def run (b : Build α) (s : Session) : Outcome α := b s

protected def pure (a : α) : Build α := fun s => ⟨s, [], .ok a⟩

protected def bind (b : Build α) (f : α → Build β) : Build β := fun s =>
  match b.run s with
  | ⟨s, events, .error e⟩ => ⟨s, events, .error e⟩
  | ⟨s, events, .ok a⟩ =>
    let next := (f a).run s
    { next with events := events ++ next.events }

instance : Monad Build where
  pure := Build.pure
  bind := Build.bind

def fail (e : GenError) : Build α := fun s => ⟨s, [], .error e⟩

def session : Build Session := fun s => ⟨s, [], .ok s⟩

def log (e : Event) : Build Unit := fun s => ⟨s, [e], .ok ()⟩

def ofExcept : Except GenError α → Build α
  | .ok a => pure a
  | .error e => fail e

def ensureNew (canonical : String) : Build Unit := do
  if (← session).registry.contains canonical then fail (.duplicateClass canonical)

def register (canonical : String) : Build Unit := fun s =>
  match s.registry.register canonical with
  | .ok registry => ⟨{ s with registry }, [], .ok ()⟩
  | .error e => ⟨s, [], .error e⟩

/-- Forgets every generated class, so that the session can serve another run. -/
def resetRegistry : Build Unit := fun s =>
  ⟨{ s with registry := {} }, [s.registry.resetting], .ok ()⟩

@[simp]
theorem run_pure (a : α) (s : Session) : (pure a : Build α).run s = ⟨s, [], .ok a⟩ := rfl

@[simp]
theorem run_fail (e : GenError) (s : Session) : (fail e : Build α).run s = ⟨s, [], .error e⟩ := rfl

@[simp]
theorem run_session (s : Session) : session.run s = ⟨s, [], .ok s⟩ := rfl

@[simp]
theorem run_log (e : Event) (s : Session) : (log e).run s = ⟨s, [e], .ok ()⟩ := rfl

theorem run_bind_of_ok {b : Build α} {f : α → Build β} {s s' : Session} {events : List Event}
    {a : α} (h : b.run s = ⟨s', events, .ok a⟩) :
    (b >>= f).run s =
      { (f a).run s' with events := events ++ ((f a).run s').events } := by
  show Build.bind b f s = _
  simp only [Build.bind, h]

theorem run_bind_of_error {b : Build α} {f : α → Build β} {s s' : Session} {events : List Event}
    {e : GenError} (h : b.run s = ⟨s', events, .error e⟩) :
    (b >>= f).run s = ⟨s', events, .error e⟩ := by
  show Build.bind b f s = _
  simp only [Build.bind, h]

theorem run_bind_eq_ok {b : Build α} {f : α → Build β} {s s' : Session} {events : List Event}
    {r : β} (h : (b >>= f).run s = ⟨s', events, .ok r⟩) :
    ∃ a t first second, b.run s = ⟨t, first, .ok a⟩ ∧ (f a).run t = ⟨s', second, .ok r⟩ ∧
      events = first ++ second := by
  match hb : b.run s with
  | ⟨t, first, .ok a⟩ =>
    rw [run_bind_of_ok hb] at h
    match hf : (f a).run t with
    | ⟨t', second, result⟩ =>
      simp only [hf, Outcome.mk.injEq] at h
      obtain ⟨rfl, rfl, rfl⟩ := h
      exact ⟨a, t, first, second, rfl, hf, rfl⟩
  | ⟨t, first, .error e⟩ =>
    rw [run_bind_of_error hb] at h
    simp at h

end Build

end ClientGen
