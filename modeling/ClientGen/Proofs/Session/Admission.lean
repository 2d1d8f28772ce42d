import ClientGen.Class.Basic
import ClientGen.Proofs.Session.Steps

/-! The registration of a finished class, which is the only change that a builder makes to the
session. A step that admits a class does all or nothing: it fails and leaves the session as it was,
or its class was not registered before and is now. -/

namespace ClientGen

def Session.admitting (s : Session) (canonical : String) : Session :=
  { s with registry := ⟨s.registry.names ++ [canonical]⟩ }

namespace Build

variable {α : Type}

theorem run_register (canonical : String) (s : Session) :
    (register canonical).run s =
      if s.registry.contains canonical then ⟨s, [], .error (.duplicateClass canonical)⟩
      else ⟨s.admitting canonical, [], .ok ()⟩ := by
  show register canonical s = _
  unfold register Registry.register Session.admitting
  split <;> split <;> simp_all

def enroll (c : ClassDecl) (e : Event) : Build ClassDecl := do
  register c.canonicalName
  log e
  pure c

theorem run_enroll (c : ClassDecl) (e : Event) (s : Session) :
    (enroll c e).run s =
      if s.registry.contains c.canonicalName then
        ⟨s, [], .error (.duplicateClass c.canonicalName)⟩
      else ⟨s.admitting c.canonicalName, [e], .ok c⟩ := by
  have h := run_register c.canonicalName s
  unfold enroll
  by_cases hc : s.registry.contains c.canonicalName = true
  · rw [if_pos hc] at h ⊢
    exact run_bind_of_error h
  · rw [if_neg hc] at h ⊢
    rw [run_bind_of_ok h]
    rfl

theorem Reads.run_bind_enroll_eq_ok {b : Build ClassDecl} {e : ClassDecl → Event} {c : ClassDecl}
    {s s' : Session} {events : List Event} (hb : Reads b)
    (h : (b >>= fun c => enroll c (e c)).run s = ⟨s', events, .ok c⟩) :
    ∃ making, b.run s = ⟨s, making, .ok c⟩ ∧ s' = s.admitting c.canonicalName ∧
      events = making ++ [e c] := by
  obtain ⟨made, making, noted, hmade, henroll, rfl⟩ := hb.run_bind_eq_ok h
  rw [run_enroll] at henroll
  split at henroll
  · simp at henroll
  · simp only [Outcome.mk.injEq, Except.ok.injEq] at henroll
    obtain ⟨rfl, rfl, rfl⟩ := henroll
    exact ⟨making, hmade, rfl, rfl⟩

theorem confined_enroll {P : Event → Prop} {Q : GenError → Prop} {c : ClassDecl} {e : Event}
    (he : P e) (hc : Q (.duplicateClass c.canonicalName)) : Confined P Q (enroll c e) := by
  intro s
  rw [run_enroll]
  split <;> simp [he, hc]

structure Admits (b : Build ClassDecl) : Prop where
  failed : ∀ s t events e, b.run s = ⟨t, events, .error e⟩ → t = s
  admitted : ∀ s t events c, b.run s = ⟨t, events, .ok c⟩ →
    s.registry.contains c.canonicalName = false ∧ t = s.admitting c.canonicalName

theorem admits_fail (e : GenError) : Admits (fail e) := by
  constructor
  · intro s t events e' h
    simp only [run_fail, Outcome.mk.injEq] at h
    exact h.1.symm
  · intro s t events c h
    simp at h

theorem admits_enroll (c : ClassDecl) (e : Event) : Admits (enroll c e) := by
  constructor
  · intro s t events e' h
    rw [run_enroll] at h
    split at h
    · simp only [Outcome.mk.injEq] at h
      exact h.1.symm
    · simp at h
  · intro s t events c' h
    rw [run_enroll] at h
    split at h
    · simp at h
    · rename_i hnew
      simp only [Outcome.mk.injEq, Except.ok.injEq] at h
      obtain ⟨rfl, -, rfl⟩ := h
      exact ⟨by simpa using hnew, rfl⟩

theorem Reads.admits {b : Build α} {f : α → Build ClassDecl} (hb : Reads b)
    (hf : ∀ a, Admits (f a)) : Admits (b >>= f) := by
  constructor
  · intro s t events e h
    match hr : b.run s with
    | ⟨u, first, .error e'⟩ =>
      rw [run_bind_of_error hr, Outcome.mk.injEq] at h
      exact h.1.symm.trans (hb.session_eq hr)
    | ⟨u, first, .ok a⟩ =>
      obtain rfl := hb.session_eq hr
      rw [run_bind_of_ok hr, Outcome.mk.injEq] at h
      exact (hf a).failed u t _ e (by rw [← h.1, ← h.2.2])
  · intro s t events c h
    obtain ⟨a, first, second, ha, hc, rfl⟩ := hb.run_bind_eq_ok h
    exact (hf a).admitted s t second c hc

end Build

end ClientGen
