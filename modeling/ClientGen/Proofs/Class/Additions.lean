import ClientGen.Class.Basic
import ClientGen.Proofs.Class.Repeats

/-! A class that is put together call by call. Of the fields of one name it has the one that came
first, whatever else is added in between, and each call that adds a field is answered by whether
that field was the first. -/

namespace ClientGen.ClassDecl

inductive Addition
  | field (f : Field)
  | method (m : Method)
  | interface (i : String)

namespace Addition

def field? : Addition → Option Field
  | .field f => some f
  | _ => none

def apply (c : ClassDecl) : Addition → Option Bool × ClassDecl
  | .field f =>
    let (added, c) := c.tryAddField f
    (some added, c)
  | .method m => (none, c.addMethod m)
  | .interface i => (none, c.addInterface i)

end Addition

def after : List Addition → ClassDecl → ClassDecl
  | [], c => c
  | a :: rest, c => after rest (a.apply c).2

def answers : List Addition → ClassDecl → List Bool
  | [], _ => []
  | a :: rest, c => (a.apply c).1.toList ++ answers rest (a.apply c).2

theorem after_append (as bs : List Addition) (c : ClassDecl) :
    after (as ++ bs) c = after bs (after as c) := by
  induction as generalizing c with
  | nil => rfl
  | cons a rest ih => exact ih (a.apply c).2

theorem answers_append (as bs : List Addition) (c : ClassDecl) :
    answers (as ++ bs) c = answers as c ++ answers bs (after as c) := by
  induction as generalizing c with
  | nil => rfl
  | cons a rest ih => rw [List.cons_append, answers, answers, ih, List.append_assoc, after]

variable {added : List Field} {given : List Bool} {c : ClassDecl}

structure HasFirst (added : List Field) (given : List Bool) (c : ClassDecl) : Prop where
  fields : c.fields.toList = keptBy Field.name added
  answers : given = marksBy Field.name added

theorem HasFirst.contains_iff (h : HasFirst added given c) (name : String) :
    c.fields.contains name = true ↔ name ∈ added.map Field.name := by
  rw [FieldSet.contains_iff, h.fields, mem_map_keptBy]

theorem HasFirst.step (h : HasFirst added given c) (a : Addition) :
    HasFirst (added ++ a.field?.toList) (given ++ (a.apply c).1.toList) (a.apply c).2 := by
  cases a with
  | field f =>
    have htaken : c.fields.contains f.name = decide (f.name ∈ added.map Field.name) :=
      Bool.eq_iff_iff.mpr ((h.contains_iff f.name).trans decide_eq_true_iff.symm)
    constructor
    · show (c.fields.insert f).toList = keptBy Field.name (added ++ [f])
      rw [FieldSet.toList_insert, keptBy_append, htaken, h.fields]
      simp only [decide_eq_true_eq]
    · show given ++ [!c.fields.contains f.name] = marksBy Field.name (added ++ [f])
      rw [marksBy_append, h.answers, htaken]
  | method m =>
    show HasFirst (added ++ []) (given ++ []) (c.addMethod m)
    rw [List.append_nil, List.append_nil]
    exact ⟨h.fields, h.answers⟩
  | interface i =>
    show HasFirst (added ++ []) (given ++ []) (c.addInterface i)
    rw [List.append_nil, List.append_nil]
    exact ⟨h.fields, h.answers⟩

theorem hasFirst_of_run {empty : ClassDecl} (hempty : empty.fields = .empty)
    (as : List Addition) :
    HasFirst (as.filterMap Addition.field?) (answers as empty) (after as empty) := by
  induction as using List.reverseRecOn with
  | nil => exact ⟨congrArg FieldSet.toList hempty, rfl⟩
  | append_singleton as a ih =>
    have hadded : (as ++ [a]).filterMap Addition.field? =
        as.filterMap Addition.field? ++ a.field?.toList := by
      rw [List.filterMap_append]
      cases a <;> rfl
    have hanswers : answers (as ++ [a]) empty =
        answers as empty ++ (a.apply (after as empty)).1.toList := by
      rw [answers_append, answers, answers, List.append_nil]
    rw [hadded, hanswers, after_append]
    exact ih.step a

/-- A new class after any additions. Its fields are those that came first under their names, in the
order in which they came; these were answered with true, and a name finds the one that has it. -/
theorem fields_of_additions (package name documentation : String) (as : List Addition) :
    let new : ClassDecl := { packageName := package, className := name, documentation }
    let added := as.filterMap Addition.field?
    let fields := (after as new).fields
    fields.toList = keptBy Field.name added ∧
      (fields.toList.map Field.name).Nodup ∧
      answers as new = marksBy Field.name added ∧
      fields.toList = ((added.zip (answers as new)).filter Prod.snd).map Prod.fst ∧
      (∀ n, fields.get? n = added.find? (·.name = n)) ∧
      fields.size = (keptBy Field.name added).length ∧
      (fields.isEmpty = true ↔ keptBy Field.name added = []) ∧
      ∀ n, fields.contains n = true ↔ n ∈ (keptBy Field.name added).map Field.name := by
  intro new added fields
  have h : HasFirst added (answers as new) (after as new) := hasFirst_of_run rfl as
  have hfields : fields.toList = keptBy Field.name added := h.fields
  refine ⟨hfields, ?_, h.answers, ?_, fun n => ?_, ?_, ?_, fun n => ?_⟩
  · rw [hfields]
    exact nodup_map_keptBy Field.name added
  · rw [hfields, h.answers, ← keptBy_eq_marked]
  · rw [FieldSet.get?, hfields, find?_keptBy]
  · rw [FieldSet.size, hfields]
  · rw [FieldSet.isEmpty, hfields, List.isEmpty_iff]
  · rw [FieldSet.contains_iff, hfields]

example :
    let first : Field := { name := "id", type := "String", description := some "key" }
    let second : Field := { name := "id", type := "Integer", visibility := .pub }
    let as : List Addition :=
      [.field first, .interface "IModel", .field second, .field { second with name := "no" }]
    let new : ClassDecl := { packageName := "api.model", className := "Order" }
    answers as new = [true, false, true] ∧ (after as new).fields.get? "id" = some first := by
  decide

end ClientGen.ClassDecl
