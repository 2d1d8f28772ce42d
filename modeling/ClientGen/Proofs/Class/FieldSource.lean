import ClientGen.Class.Basic
import ClientGen.Proofs.Class.Repeats
import ClientGen.Proofs.List.Forall
import ClientGen.Proofs.Session.Steps

/-! Classes that are given their fields item by item, be the items properties or parameters. The
first item of a name has its field, with the methods that come with it; each later one changes
nothing and has a warning. -/

namespace ClientGen

open Build

/-- How items come to fields: the name that the field of an item has, the fields that an item may
have, the methods that come with a field, and the warning where the name is taken. -/
structure FieldSource (α : Type) where
  key : α → String
  Makes : α → Field → Prop
  methods : Field → List Method
  warning : α → Event
  name_of_makes : ∀ {x f}, Makes x f → f.name = key x

namespace FieldSource

variable {α : Type} {source : FieldSource α} {empty c c' : ClassDecl} {s s' : Session}
  {events more : List Event} {items done : List α} {x : α}

inductive Adds (source : FieldSource α) (x : α) (c : ClassDecl) : ClassDecl → List Event → Prop
  | taken (h : c.fields.contains (source.key x) = true) : Adds source x c c [source.warning x]
  | fresh {f : Field} (hf : source.Makes x f) (h : c.fields.contains (source.key x) = false) :
    Adds source x c ((c.addField f).addMethods (source.methods f)) []

structure AddedBy (source : FieldSource α) (head : ClassDecl) (s : Session)
    (add : ClassDecl → α → Build ClassDecl) : Prop where
  reads : ∀ c x, Reads (add c x)
  adds : ∀ {c c' x s' events}, c.head = head → (add c x).run s = ⟨s', events, .ok c'⟩ →
    source.Adds x c c' events

structure TakesFirst (source : FieldSource α) (empty : ClassDecl) (done : List α) (c : ClassDecl)
    (events : List Event) : Prop where
  head : c.head = empty.head
  fields : List.Forall₂ source.Makes (keptBy source.key done) c.fields.toList
  methods : c.methods = empty.methods ++ c.fields.toList.flatMap source.methods
  warned : events = (droppedBy source.key done).map source.warning

theorem TakesFirst.contains_iff (h : source.TakesFirst empty done c events) (name : String) :
    c.fields.contains name = true ↔ name ∈ done.map source.key := by
  rw [FieldSet.contains_iff, h.fields.map_eq fun _ _ => source.name_of_makes, mem_map_keptBy]

theorem TakesFirst.exists_of_mem (h : source.TakesFirst empty done c events) {f : Field}
    (hf : f ∈ c.fields.toList) : ∃ x ∈ done, source.Makes x f := by
  obtain ⟨x, hx, hmakes⟩ := h.fields.exists_of_mem_right hf
  exact ⟨x, mem_of_mem_keptBy hx, hmakes⟩

theorem TakesFirst.step (hc : source.TakesFirst empty done c events)
    (h : source.Adds x c c' more) :
    source.TakesFirst empty (done ++ [x]) c' (events ++ more) := by
  cases h with
  | taken htaken =>
    obtain ⟨hkept, hdropped⟩ := keptBy_append_of_mem ((hc.contains_iff _).mp htaken)
    refine ⟨hc.head, ?_, hc.methods, ?_⟩
    · rw [hkept]
      exact hc.fields
    · rw [hdropped, hc.warned, List.map_append, List.map_singleton]
  | @fresh f hf hfresh =>
    have hnew := mt (hc.contains_iff _).mpr (Bool.eq_false_iff.mp hfresh)
    obtain ⟨hkept, hdropped⟩ := keptBy_append_of_notMem hnew
    have hfields : ((c.addField f).addMethods (source.methods f)).fields.toList =
        c.fields.toList ++ [f] := by
      simp [ClassDecl.addField, ClassDecl.addMethods, source.name_of_makes hf, hfresh]
    refine ⟨hc.head, ?_, ?_, ?_⟩
    · rw [hfields, hkept]
      exact List.rel_append hc.fields (.cons hf .nil)
    · rw [hfields, List.flatMap_append, List.flatMap_singleton, ← List.append_assoc, ← hc.methods]
      rfl
    · rw [hdropped, List.append_nil]
      exact hc.warned

theorem takesFirst_of_run {add : ClassDecl → α → Build ClassDecl}
    (hadd : source.AddedBy empty.head s add) (hempty : empty.fields.toList = [])
    (h : (items.foldlM add empty).run s = ⟨s', events, .ok c⟩) :
    source.TakesFirst empty items c events := by
  have start : source.TakesFirst empty [] empty [] := by
    refine ⟨rfl, ?_, ?_, rfl⟩
    · rw [hempty]
      exact .nil
    · rw [hempty, List.flatMap_nil, List.append_nil]
  exact foldlM_induction hadd.reads (P := fun done c events => source.TakesFirst empty done c events)
    (fun _ _ _ _ _ _ hc h => hc.step (hadd.adds hc.head h)) [] [] start h

end FieldSource

end ClientGen
