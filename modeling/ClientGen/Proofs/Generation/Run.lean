import ClientGen.Proofs.Session.History

/-! A generation run, step by step. Each step is one equation where the class cannot be made, and
one where it is handed to the emitter. To its session a run is nothing but parsing and building, so
what holds of every history of a session holds of every run. -/

namespace ClientGen

open Build

variable {σ : Type}

namespace Generation

variable {emit : Emitter (StateM σ)} {package : String} {p : Progress} {t : Task} {s : Session}
  {events : List Event}

theorem run_step_of_error {e : GenError}
    (h : (t.parse package).run p.session = ⟨s, events, .error e⟩) (w : σ) :
    (step emit package p t).run w = (p.conclude t.entity s events (.error e), w) := by
  unfold step
  rw [h]
  rfl

theorem run_step_of_ok {c : ClassDecl}
    (h : (t.parse package).run p.session = ⟨s, events, .ok c⟩) (w : σ) :
    (step emit package p t).run w =
      (p.conclude t.entity s (events ++ (c.emitted ((emit c).run w).1).1)
        (c.emitted ((emit c).run w).1).2, ((emit c).run w).2) := by
  unfold step
  rw [h]
  rfl

end Generation

namespace Task

def source (package : String) : Task → Source
  | parameters service => .parameters package service.uri service
  | model name schema => .model package name schema

theorem builder_source (package : String) (t : Task) :
    (t.source package).builder = t.parse package := by
  cases t <;> rfl

end Task

def Operation.source? : Operation σ → Option Source
  | .parse source => some source
  | _ => none

/-- The tasks are parsed in order, and nothing is done besides but to build with the emitter. -/
structure Operation.Serve (package : String) (emit : Emitter (StateM σ)) (ts : List Task)
    (ops : List (Operation σ)) : Prop where
  parsed : ops.filterMap Operation.source? = ts.map (Task.source package)
  built : ∀ op ∈ ops, op.source? = none → ∃ c, op = .build c emit

theorem Operation.Serve.append {package : String} {emit : Emitter (StateM σ)} {ts us : List Task}
    {first rest : List (Operation σ)} (hfirst : Serve package emit ts first)
    (hrest : Serve package emit us rest) : Serve package emit (ts ++ us) (first ++ rest) := by
  constructor
  · rw [List.filterMap_append, List.map_append, hfirst.parsed, hrest.parsed]
  · intro op hop
    rcases List.mem_append.mp hop with hop | hop
    · exact hfirst.built op hop
    · exact hrest.built op hop

namespace History

open Generation

variable {h : History σ}

theorem session_next_parse (h : History σ) (package : String) (t : Task) :
    (h.next (.parse (t.source package))).session = ((t.parse package).run h.session).session := by
  rw [← t.builder_source package]
  rfl

theorem operations_of_step (emit : Emitter (StateM σ)) (package : String) {p : Progress}
    (t : Task) (hp : p.session = h.session) :
    ∃ ops, Operation.Serve package emit [t] ops ∧
      ((step emit package p t).run h.world).1.session = (ops.foldl next h).session ∧
      ((step emit package p t).run h.world).2 = (ops.foldl next h).world := by
  have hparsed := session_next_parse h package t
  match hparse : (t.parse package).run p.session with
  | ⟨s, events, .error e⟩ =>
    refine ⟨[.parse (t.source package)], ⟨rfl, by simp [Operation.source?]⟩, ?_⟩
    rw [run_step_of_error hparse]
    rw [← hp, hparse] at hparsed
    exact ⟨hparsed.symm, rfl⟩
  | ⟨s, events, .ok c⟩ =>
    refine ⟨[.parse (t.source package), .build c emit], ⟨rfl, by simp [Operation.source?]⟩, ?_⟩
    rw [run_step_of_ok hparse]
    rw [← hp, hparse] at hparsed
    exact ⟨hparsed.symm, rfl⟩

theorem operations_of_tasks (emit : Emitter (StateM σ)) (package : String) (ts : List Task)
    {p : Progress} (hp : p.session = h.session) :
    ∃ ops, Operation.Serve package emit ts ops ∧
      ((ts.foldlM (step emit package) p).run h.world).1.session = (ops.foldl next h).session ∧
      ((ts.foldlM (step emit package) p).run h.world).2 = (ops.foldl next h).world := by
  induction ts generalizing p h with
  | nil => exact ⟨[], ⟨rfl, by simp⟩, hp, rfl⟩
  | cons t ts ih =>
    obtain ⟨first, hfirst, hsession, hworld⟩ := operations_of_step emit package t hp
    obtain ⟨rest, hrest, hsession', hworld'⟩ := ih hsession
    refine ⟨first ++ rest, hfirst.append hrest, ?_⟩
    rw [List.foldlM_cons, StateT.run_bind, List.foldl_append]
    -- the later tasks find the world that the first one left
    rw [← hworld] at hsession' hworld'
    exact ⟨hsession', hworld'⟩

/-- What a run leaves, in the session and for the emitter, its operations leave as well. -/
theorem operations_of_generateAll (l : LoadedDocument) (settings : Settings) (package : String)
    (emit : Emitter (StateM σ)) (w : σ) :
    ∃ ops, Operation.Serve package emit l.tasks ops ∧
      ((generateAll l settings package emit).run w).1.session =
        (run settings l.types l.responseAt w ops).session ∧
      ((generateAll l settings package emit).run w).2 =
        (run settings l.types l.responseAt w ops).world := by
  apply operations_of_tasks (h := run settings l.types l.responseAt w [])
  rfl

end History

end ClientGen
