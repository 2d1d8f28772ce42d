import ClientGen.Proofs.Session.Admission

/-! Failures told in advance. Where it is known of every step what it fails with, if it fails, it is
known of the chain: the first step that fails decides, and a fold fails with its first bad item. -/

namespace ClientGen

/-- The step fails with the error, or, where there is none, comes to a value with the property. -/
def Outcome.Foretold {α : Type} (o : Outcome α) (error? : Option GenError) (P : α → Prop) : Prop :=
  match error? with
  | some e => o.result = .error e
  | none => ∃ a, o.result = .ok a ∧ P a

namespace Outcome

variable {α : Type} {o : Outcome α} {error? : Option GenError} {P : α → Prop}

theorem Foretold.imp {Q : α → Prop} (h : o.Foretold error? P) (hPQ : ∀ a, P a → Q a) :
    o.Foretold error? Q := by
  cases error? with
  | some e => exact h
  | none =>
    obtain ⟨a, hok, ha⟩ := h
    exact ⟨a, hok, hPQ a ha⟩

theorem Foretold.result_eq_error_iff (h : o.Foretold error? P) (e : GenError) :
    o.result = .error e ↔ error? = some e := by
  cases error? with
  | some e' =>
    have herror : o.result = .error e' := h
    rw [herror, Except.error.injEq, Option.some.injEq]
  | none =>
    obtain ⟨a, hok, -⟩ := h
    rw [hok]
    constructor <;> intro h <;> cases h

theorem Foretold.exists_ok_iff (h : o.Foretold error? P) :
    (∃ a, o.result = .ok a) ↔ error? = none := by
  cases error? with
  | some e =>
    have herror : o.result = .error e := h
    rw [herror]
    constructor
    · rintro ⟨a, ha⟩
      cases ha
    · intro h
      cases h
  | none =>
    obtain ⟨a, hok, -⟩ := h
    exact ⟨fun _ => rfl, fun _ => ⟨a, hok⟩⟩

end Outcome

namespace Build

open Outcome

variable {α β : Type} {s : Session} {P : α → Prop} {Q : β → Prop}

theorem foretold_ofExcept_error (e : GenError) :
    ((ofExcept (.error e : Except GenError α)).run s).Foretold (some e) P := rfl

theorem foretold_ofExcept_ok {a : α} (h : P a) : ((ofExcept (.ok a)).run s).Foretold none P :=
  ⟨a, rfl, h⟩

theorem foretold_bind {b : Build α} {f : α → Build β} {first second : Option GenError}
    (hb : Reads b) (h : (b.run s).Foretold first P)
    (hf : ∀ a, P a → ((f a).run s).Foretold second Q) :
    ((b >>= f).run s).Foretold (first.or second) Q := by
  match hrun : b.run s with
  | ⟨t, events, result⟩ =>
    obtain rfl := hb.session_eq hrun
    rw [hrun] at h
    cases first with
    | some e =>
      obtain rfl : result = .error e := h
      rw [run_bind_of_error hrun]
      exact rfl
    | none =>
      obtain ⟨a, rfl, ha⟩ := h
      rw [run_bind_of_ok hrun, Option.none_or]
      exact hf a ha

theorem foretold_foldlM {f : β → α → Build β} {error? : α → Option GenError}
    (hf : ∀ b a, Reads (f b a)) (step : ∀ b, Q b → ∀ a, ((f b a).run s).Foretold (error? a) Q)
    (xs : List α) {b : β} (hb : Q b) :
    ((xs.foldlM f b).run s).Foretold (xs.findSome? error?) Q := by
  induction xs generalizing b with
  | nil => exact ⟨b, rfl, hb⟩
  | cons x xs ih =>
    have hfirst : (x :: xs).findSome? error? = (error? x).or (xs.findSome? error?) := by
      rw [List.findSome?_cons]
      cases error? x <;> rfl
    rw [List.foldlM_cons, hfirst]
    exact foretold_bind (hf b x) (step b hb x) fun c hc => ih hc

def duplicate? (registry : Registry) (canonical : String) : Option GenError :=
  if registry.contains canonical then some (.duplicateClass canonical) else none

theorem duplicate?_eq_none_iff {registry : Registry} {canonical : String} :
    duplicate? registry canonical = none ↔ registry.contains canonical = false := by
  rw [duplicate?]
  cases registry.contains canonical <;> simp

theorem duplicate?_eq_some_iff {registry : Registry} {canonical : String} {e : GenError} :
    duplicate? registry canonical = some e ↔
      registry.contains canonical = true ∧ e = .duplicateClass canonical := by
  rw [duplicate?]
  cases registry.contains canonical <;> simp [eq_comm]

theorem foretold_ensureNew (canonical : String) :
    ((ensureNew canonical).run s).Foretold (duplicate? s.registry canonical)
      fun _ => s.registry.contains canonical = false := by
  rw [run_ensureNew, duplicate?]
  by_cases h : s.registry.contains canonical = true
  · rw [if_pos h, if_pos h]
    exact rfl
  · rw [if_neg h, if_neg h]
    exact ⟨(), rfl, by simpa using h⟩

theorem foretold_enroll {c : ClassDecl} (e : Event)
    (h : s.registry.contains c.canonicalName = false) :
    ((enroll c e).run s).Foretold none fun d => d = c := by
  rw [run_enroll, h]
  exact ⟨c, rfl, rfl⟩

end Build

end ClientGen
