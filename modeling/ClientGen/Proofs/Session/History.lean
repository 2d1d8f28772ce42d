import ClientGen.Generation
import ClientGen.Proofs.ModelClass.Parse
import ClientGen.Proofs.ParametersClass.Parse
import Mathlib.Data.List.DropRight

/-! A session over any sequence of operations. Each builder does all or nothing, so the registry
holds the names that were accepted since it was last reset, each of them once. -/

namespace ClientGen

inductive Source
  | model (package entity : String) (schema : Json)
  | modelText (package entity text : String)
  | parameters (package entity : String) (service : Service)

namespace Source

def builder : Source → Build ClassDecl
  | model package entity schema => ModelClass.parse package entity schema
  | modelText package entity text => ModelClass.parseText package entity text
  | parameters package entity service => ParametersClass.parse package entity service

theorem admits_builder (source : Source) : source.builder.Admits := by
  cases source with
  | model package entity schema => exact ModelClass.admits_parse package entity schema
  | modelText package entity text =>
    show Build.Admits (ModelClass.parseText package entity text)
    unfold ModelClass.parseText
    split
    · exact ModelClass.admits_parse package entity _
    · exact Build.admits_fail _
  | parameters package entity service => exact ParametersClass.admits_parse package entity service

end Source

namespace Outcome

variable {α β : Type}

def map (f : α → β) (o : Outcome α) : Outcome β := ⟨o.session, o.events, o.result.map f⟩

end Outcome

inductive Operation (σ : Type)
  | parse (source : Source)
  | build (c : ClassDecl) (emit : Emitter (StateM σ))
  | register (canonical : String)
  | insertType (schema target : String)
  | registerModel (package schema : String)
  | resetRegistry

namespace Operation

variable {σ : Type}

def perform (s : Session) (w : σ) : Operation σ → Outcome (Option ClassDecl) × σ
  | parse source => ((source.builder.run s).map some, w)
  | build c emit =>
    let (answer, w) := (emit c).run w
    let (events, result) := c.emitted answer
    (⟨s, events, result.map some⟩, w)
  | register canonical => (((Build.register canonical).run s).map fun _ => none, w)
  | insertType schema target => (⟨s.withTypes (s.types.insert schema target), [], .ok none⟩, w)
  | registerModel package schema =>
    (⟨s.withTypes (s.types.registerModel package schema), [], .ok none⟩, w)
  | resetRegistry => ((Build.resetRegistry.run s).map fun _ => none, w)

def isReset : Operation σ → Bool
  | resetRegistry => true
  | _ => false

structure Atomic (op : Operation σ) (s : Session) (w : σ) : Prop where
  parse_error : ∀ source, op = parse source → ∀ e, (op.perform s w).1.result = .error e →
    (op.perform s w).1.session = s
  parse_ok : ∀ source, op = parse source → ∀ made, (op.perform s w).1.result = .ok made →
    ∃ c, made = some c ∧ c.canonicalName ∉ s.registry.names ∧
      (op.perform s w).1.session =
        { s with registry := ⟨s.registry.names ++ [c.canonicalName]⟩ }
  build : ∀ c emit, op = build c emit → (op.perform s w).1.session.registry = s.registry

theorem atomic (op : Operation σ) (s : Session) (w : σ) : op.Atomic s w := by
  constructor
  · rintro source rfl e he
    match hr : source.builder.run s with
    | ⟨t, events, .error e'⟩ =>
      have := source.admits_builder.failed s t events e' hr
      simpa only [perform, hr, Outcome.map] using this
    | ⟨t, events, .ok c⟩ => simp [perform, hr, Outcome.map, Except.map] at he
  · rintro source rfl made hmade
    match hr : source.builder.run s with
    | ⟨t, events, .error e'⟩ => simp [perform, hr, Outcome.map, Except.map] at hmade
    | ⟨t, events, .ok c⟩ =>
      obtain ⟨hnew, rfl⟩ := source.admits_builder.admitted s t events c hr
      simp only [perform, hr, Outcome.map, Except.map, Except.ok.injEq] at hmade
      refine ⟨c, hmade.symm, by simpa [Registry.contains] using hnew, ?_⟩
      simp only [perform, hr, Outcome.map, Session.admitting]
  · rintro c emit rfl
    rfl

end Operation

structure Entry (σ : Type) where
  operation : Operation σ
  answer : Except GenError (Option ClassDecl)

def Entry.accepted {σ : Type} : Entry σ → Option String
  | ⟨.parse _, .ok (some c)⟩ => some c.canonicalName
  | ⟨.register canonical, .ok _⟩ => some canonical
  | _ => none

structure History (σ : Type) where
  session : Session
  world : σ
  entries : List (Entry σ) := []

namespace History

variable {σ : Type}

def next (h : History σ) (op : Operation σ) : History σ :=
  let (o, w) := op.perform h.session h.world
  ⟨o.session, w, h.entries ++ [⟨op, o.result⟩]⟩

def run (settings : Settings) (types : TypeTable) (responseAt : List String → Option Response)
    (w : σ) (ops : List (Operation σ)) : History σ :=
  ops.foldl next { session := (Session.new settings responseAt).withTypes types, world := w }

/-- The names accepted since the last reset, in order. -/
def accepted (h : History σ) : List String :=
  (h.entries.rtakeWhile fun e => !e.operation.isReset).filterMap Entry.accepted

theorem accepted_next (h : History σ) (op : Operation σ) :
    (h.next op).accepted =
      if op.isReset then []
      else h.accepted ++
        (Entry.accepted ⟨op, (op.perform h.session h.world).1.result⟩).toList := by
  unfold accepted next
  rw [List.rtakeWhile_concat]
  cases hr : op.isReset with
  | true => simp
  | false =>
    simp only [Bool.not_false, if_true, List.filterMap_append, Bool.false_eq_true, if_false]
    cases he : Entry.accepted ⟨op, (op.perform h.session h.world).1.result⟩ <;> simp [he]

theorem names_perform (op : Operation σ) (hr : op.isReset = false) (s : Session) (w : σ) :
    (op.perform s w).1.session.registry.names =
        s.registry.names ++ (Entry.accepted ⟨op, (op.perform s w).1.result⟩).toList ∧
      ∀ name, Entry.accepted ⟨op, (op.perform s w).1.result⟩ = some name →
        name ∉ s.registry.names := by
  cases op with
  | parse source =>
    cases hres : ((Operation.parse source).perform s w).1.result with
    | error e =>
      rw [((Operation.parse source).atomic s w).parse_error source rfl e hres]
      simp [Entry.accepted]
    | ok made =>
      obtain ⟨c, rfl, hnew, hsession⟩ :=
        ((Operation.parse source).atomic s w).parse_ok source rfl made hres
      rw [hsession]
      simpa [Entry.accepted] using hnew
  | register canonical =>
    simp only [Operation.perform, Outcome.map, Build.run_register]
    split
    · simp [Except.map, Entry.accepted]
    · rename_i hnew
      simpa [Except.map, Entry.accepted, Session.admitting, Registry.contains] using hnew
  | build c emit =>
    rw [show ((Operation.build c emit).perform s w).1.session = s from rfl]
    simp [Entry.accepted]
  | insertType schema target => simp [Operation.perform, Entry.accepted, Session.withTypes]
  | registerModel package schema => simp [Operation.perform, Entry.accepted, Session.withTypes]
  | resetRegistry => simp [Operation.isReset] at hr

structure Faithful (h : History σ) : Prop where
  names : h.session.registry.names = h.accepted
  nodup : h.session.registry.names.Nodup

theorem Faithful.next {h : History σ} (hf : h.Faithful) (op : Operation σ) :
    (h.next op).Faithful := by
  have hacc := accepted_next h op
  cases hr : op.isReset with
  | true =>
    have hnames : (h.next op).session.registry.names = [] := by
      cases op with
      | resetRegistry => rfl
      | _ => simp [Operation.isReset] at hr
    rw [hr, if_pos rfl] at hacc
    exact ⟨hnames.trans hacc.symm, by simp [hnames]⟩
  | false =>
    obtain ⟨hnames, hnew⟩ := names_perform op hr h.session h.world
    rw [hr, if_neg Bool.false_ne_true, ← hf.names] at hacc
    refine ⟨hnames.trans hacc.symm, ?_⟩
    rw [show (h.next op).session.registry.names = _ from hnames]
    refine List.nodup_append.mpr ⟨hf.nodup, ?_, ?_⟩
    · cases Entry.accepted ⟨op, (op.perform h.session h.world).1.result⟩ <;> simp
    · rintro old hold name hname rfl
      exact hnew _ (Option.mem_toList.mp hname) hold

theorem faithful_run (settings : Settings) (types : TypeTable)
    (responseAt : List String → Option Response) (w : σ) (ops : List (Operation σ)) :
    (run settings types responseAt w ops).Faithful := by
  -- from the end, since what was accepted is read off the end of the entries
  induction ops using List.reverseRecOn with
  | nil => exact ⟨rfl, List.nodup_nil⟩
  | append_singleton ops op ih =>
    have : run settings types responseAt w (ops ++ [op]) =
        (run settings types responseAt w ops).next op := by simp [run]
    rw [this]
    exact ih.next op

theorem operations_run (settings : Settings) (types : TypeTable)
    (responseAt : List String → Option Response) (w : σ) (ops : List (Operation σ)) :
    (run settings types responseAt w ops).entries.map Entry.operation = ops := by
  induction ops using List.reverseRecOn with
  | nil => rfl
  | append_singleton ops op ih => simp_all [run, next]

/-- After any operations on a new session the registry is what was accepted since the last reset,
and the next operation, whichever it is, does all or nothing. -/
theorem session_atomicity (settings : Settings) (types : TypeTable)
    (responseAt : List String → Option Response) (w : σ) (ops : List (Operation σ)) :
    let h := run settings types responseAt w ops
    h.entries.map Entry.operation = ops ∧
      h.session.registry.names = h.accepted ∧ h.session.registry.names.Nodup ∧
      ∀ op : Operation σ, op.Atomic h.session h.world := by
  have hf := faithful_run settings types responseAt w ops
  exact ⟨operations_run settings types responseAt w ops, hf.names, hf.nodup,
    fun op => op.atomic _ _⟩

end History

end ClientGen
