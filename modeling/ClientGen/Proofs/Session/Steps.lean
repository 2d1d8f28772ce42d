import ClientGen.Session

/-! Steps that only read the session, what the events of a step have in common, and folds of steps.
A class is made by reading steps alone until it is registered, so these are closed under everything
that a builder is put together from. -/

namespace ClientGen

theorem toOption_eq_some {ε α : Type} {r : Except ε α} {a : α} :
    r.toOption = some a ↔ r = .ok a := by
  cases r <;> simp [Except.toOption]

theorem exists_of_any_toOption {ε α : Type} {r : Except ε α} {p : α → Bool}
    (h : r.toOption.any p = true) : ∃ a, r = .ok a ∧ p a = true := by
  cases r with
  | error e => cases h
  | ok a => exact ⟨a, rfl, h⟩

namespace Build

variable {α β : Type}

/-- Whatever comes of the step, the session stays as it is. -/
def Reads (b : Build α) : Prop := ∀ s, (b.run s).session = s

/-- All that the step logs, whether it fails or not, and all that it fails with is of a kind. -/
def Confined (P : Event → Prop) (Q : GenError → Prop) (b : Build α) : Prop :=
  ∀ s, (∀ e ∈ (b.run s).events, P e) ∧ ∀ e, (b.run s).result = .error e → Q e

theorem run_bind_cases {b : Build α} {f : α → Build β} {P : Outcome β → Prop} {s : Session}
    (failed : ∀ t events e, b.run s = ⟨t, events, .error e⟩ → P ⟨t, events, .error e⟩)
    (went : ∀ t events a, b.run s = ⟨t, events, .ok a⟩ →
      P { (f a).run t with events := events ++ ((f a).run t).events }) :
    P ((b >>= f).run s) := by
  match hb : b.run s with
  | ⟨t, events, .error e⟩ =>
    rw [run_bind_of_error hb]
    exact failed t events e hb
  | ⟨t, events, .ok a⟩ =>
    rw [run_bind_of_ok hb]
    exact went t events a hb

@[simp]
theorem run_fail_bind (e : GenError) (f : α → Build β) (s : Session) :
    (fail e >>= f).run s = ⟨s, [], .error e⟩ := rfl

@[simp]
theorem run_session_bind (f : Session → Build β) (s : Session) :
    (session >>= f).run s = (f s).run s := rfl

@[simp]
theorem run_log_bind (e : Event) (f : Unit → Build β) (s : Session) :
    (log e >>= f).run s = { (f ()).run s with events := e :: ((f ()).run s).events } := rfl

@[simp]
theorem run_ofExcept (r : Except GenError α) (s : Session) : (ofExcept r).run s = ⟨s, [], r⟩ := by
  cases r <;> rfl

theorem pure_bind (a : α) (f : α → Build β) : pure a >>= f = f a := rfl

theorem fail_bind (e : GenError) (f : α → Build β) : fail e >>= f = fail e := rfl

theorem run_ensureNew (canonical : String) (s : Session) :
    (ensureNew canonical).run s =
      if s.registry.contains canonical then ⟨s, [], .error (.duplicateClass canonical)⟩
      else ⟨s, [], .ok ()⟩ := by
  unfold ensureNew
  rw [run_session_bind]
  split <;> rfl

theorem bind_assoc {γ : Type} (b : Build α) (f : α → Build β) (g : β → Build γ) :
    b >>= f >>= g = b >>= fun a => f a >>= g := by
  funext s
  show (b >>= f >>= g).run s = (b >>= fun a => f a >>= g).run s
  match hb : b.run s with
  | ⟨t, first, .error e⟩ =>
    rw [run_bind_of_error hb, run_bind_of_error (run_bind_of_error hb)]
  | ⟨t, first, .ok a⟩ =>
    rw [run_bind_of_ok hb]
    have hf := run_bind_of_ok (f := f) hb
    match ha : (f a).run t with
    | ⟨u, second, .error e⟩ =>
      rw [ha] at hf
      rw [run_bind_of_error hf, run_bind_of_error ha]
    | ⟨u, second, .ok c⟩ =>
      rw [ha] at hf
      rw [run_bind_of_ok hf, run_bind_of_ok ha]
      simp only [List.append_assoc]

section Reading

theorem Reads.session_eq {b : Build α} (h : Reads b) {s t : Session} {events : List Event}
    {r : Except GenError α} (hb : b.run s = ⟨t, events, r⟩) : t = s := by
  have := h s
  rwa [hb] at this

theorem reads_pure (a : α) : Reads (pure a : Build α) := fun _ => rfl

theorem reads_fail (e : GenError) : Reads (fail e : Build α) := fun _ => rfl

theorem reads_session : Reads session := fun _ => rfl

theorem reads_ofExcept (r : Except GenError α) : Reads (ofExcept r) := by
  cases r with
  | ok a => exact reads_pure a
  | error e => exact reads_fail e

theorem Reads.bind {b : Build α} {f : α → Build β} (hb : Reads b) (hf : ∀ a, Reads (f a)) :
    Reads (b >>= f) := by
  intro s
  apply run_bind_cases (P := fun o => o.session = s)
  · intro t events e h
    exact hb.session_eq h
  · intro t events a h
    obtain rfl := hb.session_eq h
    exact hf a t

theorem Reads.foldlM {f : β → α → Build β} (hf : ∀ b a, Reads (f b a)) (xs : List α) (b : β) :
    Reads (xs.foldlM f b) := by
  induction xs generalizing b with
  | nil => exact reads_pure b
  | cons x xs ih =>
    rw [List.foldlM_cons]
    exact (hf b x).bind ih

theorem reads_ensureNew (canonical : String) : Reads (ensureNew canonical) := by
  intro s
  rw [run_ensureNew]
  split <;> rfl

theorem run_ensureNew_bind_eq_ok {canonical : String} {f : Unit → Build β} {s s' : Session}
    {events : List Event} {r : β} (h : (ensureNew canonical >>= f).run s = ⟨s', events, .ok r⟩) :
    (f ()).run s = ⟨s', events, .ok r⟩ := by
  have hnew := run_ensureNew canonical s
  split at hnew
  · rw [run_bind_of_error hnew] at h
    simp at h
  · rw [run_bind_of_ok hnew] at h
    exact h

theorem Reads.run_bind_eq_ok {b : Build α} {f : α → Build β} {s s' : Session}
    {events : List Event} {r : β} (hb : Reads b) (h : (b >>= f).run s = ⟨s', events, .ok r⟩) :
    ∃ a first second, b.run s = ⟨s, first, .ok a⟩ ∧ (f a).run s = ⟨s', second, .ok r⟩ ∧
      events = first ++ second := by
  obtain ⟨a, t, first, second, ha, hr, rfl⟩ := Build.run_bind_eq_ok h
  obtain rfl := hb.session_eq ha
  exact ⟨a, first, second, ha, hr, rfl⟩

/-- What the steps of a fold keep, about the items done and the events so far, holds in the end. -/
theorem foldlM_induction {f : β → α → Build β} (hf : ∀ b a, Reads (f b a)) {s : Session}
    {P : List α → β → List Event → Prop}
    (step : ∀ done x b b' events more, P done b events → (f b x).run s = ⟨s, more, .ok b'⟩ →
      P (done ++ [x]) b' (events ++ more))
    (done : List α) (events : List Event) {b : β} (start : P done b events)
    {xs : List α} {s' : Session} {more : List Event} {b' : β}
    (h : (xs.foldlM f b).run s = ⟨s', more, .ok b'⟩) : P (done ++ xs) b' (events ++ more) := by
  induction xs generalizing done b events more with
  | nil =>
    simp only [List.foldlM_nil, run_pure, Outcome.mk.injEq, Except.ok.injEq] at h
    obtain ⟨-, rfl, rfl⟩ := h
    simpa only [List.append_nil] using start
  | cons x xs ih =>
    rw [List.foldlM_cons] at h
    obtain ⟨c, first, second, hx, hxs, rfl⟩ := (hf b x).run_bind_eq_ok h
    have := ih _ _ (step done x b c events first start hx) hxs
    simpa only [List.append_assoc, List.singleton_append] using this

end Reading

section Confining

variable {P : Event → Prop} {Q : GenError → Prop}

theorem confined_pure (a : α) : Confined P Q (pure a : Build α) := by simp [Confined]

theorem confined_fail {e : GenError} (h : Q e) : Confined P Q (fail e : Build α) := by
  intro s
  simp [h]

theorem confined_session : Confined P Q session := by simp [Confined]

theorem confined_ofExcept {r : Except GenError α} (h : ∀ e, r = .error e → Q e) :
    Confined P Q (ofExcept r) := by
  intro s
  rw [run_ofExcept]
  exact ⟨by simp, h⟩

theorem Confined.bind {b : Build α} {f : α → Build β} (hb : Confined P Q b)
    (hf : ∀ a, Confined P Q (f a)) : Confined P Q (b >>= f) := by
  intro s
  have hs := hb s
  apply run_bind_cases (P := fun o => (∀ e ∈ o.events, P e) ∧ ∀ e, o.result = .error e → Q e)
  · intro t events e h
    rw [h] at hs
    exact ⟨hs.1, fun e' he => hs.2 e' (by simpa using he)⟩
  · intro t events a h
    rw [h] at hs
    refine ⟨fun e he => ?_, (hf a t).2⟩
    rcases List.mem_append.mp he with he | he
    · exact hs.1 e he
    · exact (hf a t).1 e he

theorem Confined.foldlM {f : β → α → Build β} (hf : ∀ b a, Confined P Q (f b a)) (xs : List α)
    (b : β) : Confined P Q (xs.foldlM f b) := by
  induction xs generalizing b with
  | nil => exact confined_pure b
  | cons x xs ih =>
    rw [List.foldlM_cons]
    exact (hf b x).bind ih

theorem confined_ensureNew {canonical : String} (h : Q (.duplicateClass canonical)) :
    Confined P Q (ensureNew canonical) := by
  intro s
  rw [run_ensureNew]
  split <;> simp [h]

end Confining

end Build

end ClientGen
