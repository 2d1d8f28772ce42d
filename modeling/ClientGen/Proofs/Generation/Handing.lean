import ClientGen.Proofs.Generation.Results
import Mathlib.Data.List.Count

/-! The classes that a run hands to its emitter, and what comes of them. The classes are those that
the builders make of the tasks, and no answer of the emitter changes what is made later: an answer
only decides whether the class is generated or is one more failure. -/

namespace ClientGen

open Build

variable {σ : Type}

def GenError.isEmission (e : GenError) : Bool := e.code = 6

theorem GenError.isEmission_of_stage {e : GenError} (h : e.stage = .parse) :
    e.isEmission = false := by
  cases e with
  | emission canonical cause => cases h
  | _ => rfl

namespace Call

def refused? (call : Call) : Option GenError :=
  match call.answer with
  | .ok () => none
  | .error e => some (.emission call.name e)

end Call

namespace Generation

variable {package : String} {p p' : Progress} {w w' : σ} {s : Summary} {calls : List Call}
  {rs : List (Except GenError ClassDecl)} {emit : Emitter (StateM σ)} {l : LoadedDocument}
  {settings : Settings} {classes : List ClassDecl}

def made (rs : List (Except GenError ClassDecl)) : List ClassDecl := rs.filterMap Except.toOption

def unserved (rs : List (Except GenError ClassDecl)) : List String :=
  rs.filterMap fun r => (Verdict.of r).skipped?

def unmade (rs : List (Except GenError ClassDecl)) : List GenError :=
  rs.filterMap fun r => (Verdict.of r).error?

/-- The calls of an emitter and the summary of a run in which the builders came to the results. -/
structure Follows (rs : List (Except GenError ClassDecl)) (calls : List Call) (s : Summary) :
    Prop where
  handed : calls.map Call.argument = made rs
  generated : s.generated = (calls.filterMap Call.accepted?).map ClassDecl.canonicalName
  skipped : s.skipped = unserved rs
  refused : s.failed.filter GenError.isEmission = calls.filterMap Call.refused?
  failed : (s.failed.filter fun e => !e.isEmission) = unmade rs

theorem Follows.failing (h : Follows rs calls s) {e : GenError} (he : e.stage = .parse) :
    Follows (rs ++ [.error e]) calls (s.add (.of (.error e))) := by
  have hmade : made (rs ++ [.error e]) = made rs := by
    rw [made, List.filterMap_append]
    exact List.append_nil _
  have hunserved : unserved (rs ++ [.error e]) =
      unserved rs ++ (Verdict.of (.error e)).skipped?.toList := List.filterMap_append
  have hunmade : unmade (rs ++ [.error e]) = unmade rs ++ (Verdict.of (.error e)).error?.toList :=
    List.filterMap_append
  have herror : ∀ e' ∈ (Verdict.of (.error e)).error?, e'.isEmission = false := by
    intro e' he'
    cases hu : e.unserved? with
    | none =>
      rw [Verdict.of_failure hu] at he'
      obtain rfl := Option.some.inj he'
      exact GenError.isEmission_of_stage he
    | some uri =>
      rw [Verdict.of_unserved hu] at he'
      cases he'
  constructor
  · rw [hmade, h.handed]
  · rw [Summary.add, class_of_error, Option.map_none, Option.toList_none, List.append_nil]
    exact h.generated
  · rw [hunserved, ← h.skipped]
    rfl
  · rw [← h.refused, Summary.add, List.filter_append, List.append_right_eq_self,
      List.filter_eq_nil_iff]
    intro e' he'
    rw [herror e' (Option.mem_toList.mp he')]
    exact Bool.false_ne_true
  · rw [hunmade, ← h.failed, Summary.add, List.filter_append, List.append_cancel_left_eq,
      List.filter_eq_self]
    intro e' he'
    rw [herror e' (Option.mem_toList.mp he')]
    rfl

theorem Follows.handing (h : Follows rs calls s) (c : ClassDecl) (answer : Except EmitError Unit) :
    Follows (rs ++ [.ok c]) (calls ++ [⟨c, answer⟩]) (s.add (.of (c.emitted answer).2)) := by
  have hunserved : unserved (rs ++ [.ok c]) = unserved rs := by
    rw [unserved, List.filterMap_append]
    exact List.append_nil _
  have hunmade : unmade (rs ++ [.ok c]) = unmade rs := by
    rw [unmade, List.filterMap_append]
    exact List.append_nil _
  constructor
  · rw [made, List.filterMap_append, ← made, ← h.handed, List.map_append]
    rfl
  · rw [List.filterMap_append, List.map_append, ← h.generated, Summary.add,
      accepted_of_emitted]
    cases answer <;> rfl
  · rw [hunserved, ← h.skipped, Summary.add, List.append_right_eq_self]
    cases answer <;> rfl
  · rw [List.filterMap_append, ← h.refused, Summary.add, List.filter_append]
    cases answer <;> rfl
  · rw [hunmade, ← h.failed, Summary.add, List.filter_append, List.append_right_eq_self]
    cases answer <;> rfl

theorem follows_step (emit : Emitter (StateM σ)) (t : Task) (w : σ)
    (h : Follows rs calls p.summary) :
    ∃ p' w' calls', (step emit package p t).run w = (p', w') ∧
      (step emit.recording package p t).run (w, calls) = (p', w', calls') ∧
      p'.session = t.after package p.session ∧
      Follows (rs ++ [t.result package p.session]) calls' p'.summary := by
  unfold Task.after Task.result
  match hparse : (t.parse package).run p.session with
  | ⟨s, events, .error e⟩ =>
    refine ⟨_, _, _, run_step_of_error hparse w, run_step_of_error hparse _, rfl, ?_⟩
    rw [summary_conclude]
    exact h.failing (Task.stage_of_parse hparse)
  | ⟨s, events, .ok c⟩ =>
    refine ⟨_, _, _, run_step_of_ok hparse w, run_step_of_ok hparse _, rfl, ?_⟩
    rw [summary_conclude]
    exact h.handing c _

theorem follows_run (emit : Emitter (StateM σ)) (ts : List Task) (w : σ)
    (h : Follows rs calls p.summary) :
    ∃ p' w' calls', (ts.foldlM (step emit package) p).run w = (p', w') ∧
      (ts.foldlM (step emit.recording package) p).run (w, calls) = (p', w', calls') ∧
      Follows (rs ++ results package p.session ts) calls' p'.summary := by
  induction ts generalizing rs calls p w with
  | nil =>
    refine ⟨p, w, calls, rfl, rfl, ?_⟩
    rwa [results, List.append_nil]
  | cons t ts ih =>
    obtain ⟨q, u, middle, hplain, hrecorded, hsession, hq⟩ := follows_step emit t w h
    obtain ⟨p', w', calls', hrest, hrest', hp'⟩ := ih u hq
    refine ⟨p', w', calls', ?_, ?_, ?_⟩
    · rw [List.foldlM_cons, StateT.run_bind, hplain]
      exact hrest
    · rw [List.foldlM_cons, StateT.run_bind, hrecorded]
      exact hrest'
    · rwa [hsession, List.append_assoc] at hp'

def resultsOf (l : LoadedDocument) (settings : Settings) (package : String) :
    List (Except GenError ClassDecl) :=
  results package (start l settings).session l.tasks

theorem resultsOf_eq (l : LoadedDocument) (settings : Settings) (package : String) :
    ∃ ms, resultsOf l settings package =
        results package (start l settings).session (l.services.map .parameters) ++ ms ∧
      List.Forall₂ (fun entry r =>
        (Task.model entry.1 entry.2).ComesTo package (start l settings).session r)
        l.document.schemas ms := by
  obtain ⟨registry, hlater⟩ := sessionAfter_eq package (start l settings).session
    (l.services.map Task.parameters)
  have hmodels := comesTo_results package { (start l settings).session with registry := registry }
    (l.document.schemas.map fun entry => .model entry.1 entry.2)
  refine ⟨_, ?_, List.forall₂_map_left_iff.mp hmodels⟩
  rw [resultsOf, LoadedDocument.tasks, results_append, hlater]

theorem unserved_of_models {schemas : List (String × Json)} {session : Session}
    (h : List.Forall₂ (fun entry r => (Task.model entry.1 entry.2).ComesTo package session r)
      schemas rs) : unserved rs = [] := by
  rw [unserved, List.filterMap_eq_nil_iff]
  intro r hr
  obtain ⟨entry, -, hcomes⟩ := h.exists_of_mem_right hr
  have hconcerns := hcomes.concerns
  cases hv : Verdict.of r with
  | generated c => rfl
  | failed e => rfl
  | skipped uri =>
    rw [hv] at hconcerns
    exact hconcerns.elim

theorem follows_generateAll {Q : List Call → σ → Prop} (l : LoadedDocument) (settings : Settings)
    (package : String) (emit : Emitter (StateM σ)) (w : σ)
    (keeps : ∀ t ∈ l.tasks, ∀ c calls w, t.Makes package (start l settings).session c → Q calls w →
      Q (calls ++ [⟨c, ((emit c).run w).1⟩]) ((emit c).run w).2)
    (hw : Q [] w) :
    ∃ p w' calls, (generateAll l settings package emit).run w = (p, w') ∧
      (generateAll l settings package emit.recording).run (w, []) = (p, w', calls) ∧
      Follows (resultsOf l settings package) calls p.summary ∧ (calls.map Call.name).Nodup ∧
      Q calls w' := by
  have hstart : Follows [] [] (start l settings).summary := ⟨rfl, rfl, rfl, rfl, rfl⟩
  obtain ⟨p, w', calls, hplain, hrecorded, hfollows⟩ := follows_run emit l.tasks w hstart
  obtain ⟨ledger, traced, p', ⟨u, written⟩, hrun, -, htraced, hwritten, hQ⟩ :=
    traced_generateAll (P := fun calls world => world.2 = calls ∧ Q calls world.1) l settings
      package emit.recording (w, []) (by
        rintro t ht c calls ⟨w, _⟩ hmakes - ⟨rfl, hQ⟩
        exact ⟨rfl, keeps t ht c _ w hmakes hQ⟩) ⟨rfl, hw⟩
  obtain ⟨rfl, hworld⟩ := Prod.mk.inj (hrecorded.symm.trans hrun)
  obtain ⟨rfl, rfl⟩ := Prod.mk.inj hworld
  obtain rfl : calls = traced := hwritten
  exact ⟨p, w', calls, hplain, hrecorded, hfollows, htraced.nodup, hQ⟩

theorem count_settled (calls : List Call) (name : String) :
    ((calls.filterMap Call.accepted?).map ClassDecl.canonicalName).count name +
      (calls.filterMap Call.refused?).countP (fun e => e.subject = name) =
        (calls.map Call.name).count name := by
  induction calls with
  | nil => rfl
  | cons call calls ih =>
    obtain ⟨c, answer⟩ := call
    have hname : (Call.mk c answer).name = c.canonicalName := rfl
    rw [List.map_cons, List.count_cons, ← ih, hname]
    cases answer with
    | ok _ =>
      have haccepted : (Call.mk c (.ok ())).accepted? = some c := rfl
      have hrefused : (Call.mk c (.ok ())).refused? = none := rfl
      rw [List.filterMap_cons_some haccepted, List.filterMap_cons_none hrefused, List.map_cons,
        List.count_cons]
      omega
    | error e =>
      have haccepted : (Call.mk c (.error e)).accepted? = none := rfl
      have hrefused : (Call.mk c (.error e)).refused? = some (.emission c.canonicalName e) := rfl
      rw [List.filterMap_cons_none haccepted, List.filterMap_cons_some hrefused, List.countP_cons,
        GenError.subject]
      simp only [decide_eq_true_eq, beq_iff_eq]
      omega

theorem Follows.once (h : Follows rs calls s) (hnodup : (calls.map Call.name).Nodup) {call : Call}
    (hcall : call ∈ calls) :
    s.generated.count call.name +
      s.failed.countP (fun e => e.code = 6 ∧ e.subject = call.name) = 1 := by
  have hfailed : s.failed.countP (fun e => e.code = 6 ∧ e.subject = call.name) =
      (calls.filterMap Call.refused?).countP fun e => e.subject = call.name := by
    rw [← h.refused, List.countP_filter]
    simp only [GenError.isEmission, Bool.decide_and, Bool.and_comm]
  rw [hfailed, h.generated, count_settled]
  exact List.count_eq_one_of_mem hnodup (List.mem_map_of_mem hcall)

structure Collects (rs : List (Except GenError ClassDecl)) (classes : List ClassDecl)
    (s : Summary) : Prop where
  collected : classes = made rs
  generated : s.generated = classes.map ClassDecl.canonicalName
  skipped : s.skipped = unserved rs
  failed : s.failed = unmade rs

theorem Follows.collects (h : Follows rs calls s) (hall : ∀ call ∈ calls, call.answer = .ok ()) :
    Collects rs (calls.map Call.argument) s := by
  have haccepted : calls.filterMap Call.accepted? = calls.map Call.argument := by
    rw [List.filterMap_congr (g := fun call => some call.argument), List.filterMap_eq_map']
    intro call hcall
    rw [Call.accepted?, hall call hcall]
  have hrefused : calls.filterMap Call.refused? = [] := by
    rw [List.filterMap_eq_nil_iff]
    intro call hcall
    rw [Call.refused?, hall call hcall]
  refine ⟨h.handed, haccepted ▸ h.generated, h.skipped, ?_⟩
  rw [← h.failed, eq_comm, List.filter_eq_self]
  intro e he
  have hnone := h.refused.trans hrefused
  rw [List.filter_eq_nil_iff] at hnone
  simpa using hnone e he

theorem Collects.summary_eq {others : List ClassDecl} {s' : Summary} (h : Collects rs classes s)
    (h' : Collects rs others s') : s = s' := by
  obtain ⟨rfl, hgenerated, hskipped, hfailed⟩ := h
  obtain ⟨rfl, hgenerated', hskipped', hfailed'⟩ := h'
  cases s
  cases s'
  rw [Summary.mk.injEq]
  exact ⟨hgenerated.trans hgenerated'.symm, hskipped.trans hskipped'.symm,
    hfailed.trans hfailed'.symm⟩

theorem collects_of_run
    (h : (generateAll l settings package Emitter.collecting).run [] = (p, classes)) :
    Collects (resultsOf l settings package) classes p.summary := by
  obtain ⟨p', classes', calls, hrun, -, hfollows, -, hcalls⟩ :=
    follows_generateAll (Q := fun calls classes => calls = classes.map fun c => ⟨c, .ok ()⟩) l
      settings package Emitter.collecting [] (by
        rintro t - c _ classes - rfl
        show _ = (classes ++ [c]).map _
        rw [List.map_append]
        rfl) rfl
  obtain ⟨rfl, rfl⟩ := Prod.mk.inj (hrun.symm.trans h)
  have hclasses : calls.map Call.argument = classes' := by
    rw [hcalls, List.map_map]
    exact List.map_id classes'
  rw [← hclasses]
  apply hfollows.collects
  intro call hcall
  rw [hcalls] at hcall
  obtain ⟨c, -, rfl⟩ := List.mem_map.mp hcall
  rfl

end Generation

end ClientGen
