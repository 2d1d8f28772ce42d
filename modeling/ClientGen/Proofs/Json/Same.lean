import ClientGen.Json.Value
import Mathlib.Data.List.Forall2

/-! JSON values that are the same but for the order of members. An object is known by what it holds
under each key, so whatever is read by key from one of two such values is read from the other. -/

namespace ClientGen

theorem bind_eq_of_rel {α β γ : Type} {R : α → β → Prop} {x : Option α} {y : Option β}
    {f : α → Option γ} {g : β → Option γ} (h : Option.Rel R x y)
    (hfg : ∀ a b, x = some a → R a b → f a = g b) : x.bind f = y.bind g := by
  cases h with
  | none => rfl
  | some hab => exact hfg _ _ rfl hab

theorem mapM_eq_of_forall₂ {α β γ : Type} {R : α → β → Prop} {as : List α} {bs : List β}
    {f : α → Option γ} {g : β → Option γ} (h : List.Forall₂ R as bs)
    (hfg : ∀ a ∈ as, ∀ b, R a b → f a = g b) : as.mapM f = bs.mapM g := by
  induction h with
  | nil => rfl
  | @cons a b as bs hab _ ih =>
    have hhead : f a = g b := hfg a List.mem_cons_self b hab
    have htail : as.mapM f = bs.mapM g := ih fun a' ha' => hfg a' (List.mem_cons_of_mem a ha')
    rw [List.mapM_cons, List.mapM_cons, hhead, htail]

theorem mapM_map_eq_some {α β : Type} {f : α → β} {g : β → Option α}
    (h : ∀ a, g (f a) = some a) (as : List α) : (as.map f).mapM g = some as := by
  induction as with
  | nil => rfl
  | cons a as ih =>
    rw [List.map_cons, List.mapM_cons, h a, ih]
    rfl

namespace Json

theorem mem_of_lookup {members : List (String × Json)} {key : String} {j : Json}
    (h : members.lookup key = some j) : (key, j) ∈ members := by
  obtain ⟨before, after, rfl, -⟩ := List.lookup_eq_some_iff.mp h
  exact List.mem_append_right before List.mem_cons_self

theorem lookup_eq_some_iff_mem {members : List (String × Json)} {key : String} {j : Json}
    (hnodup : (members.map Prod.fst).Nodup) :
    members.lookup key = some j ↔ (key, j) ∈ members := by
  refine ⟨mem_of_lookup, fun h => ?_⟩
  obtain ⟨before, after, rfl⟩ := List.append_of_mem h
  rw [List.map_append, List.map_cons, List.nodup_append] at hnodup
  have hbefore : ∀ m ∈ before, key ≠ m.1 := fun m hm heq =>
    hnodup.2.2 m.1 (List.mem_map_of_mem hm) key List.mem_cons_self heq.symm
  rw [List.lookup_eq_some_iff]
  exact ⟨before, after, rfl, fun m hm => bne_iff_ne.mpr (hbefore m hm)⟩

@[elab_as_elim]
theorem containment {P : Json → Prop} (null : P .null) (bool : ∀ b, P (.bool b))
    (number : ∀ literal, P (.number literal)) (text : ∀ s, P (.text s))
    (array : ∀ items, (∀ j ∈ items, P j) → P (.array items))
    (object : ∀ members, (∀ m ∈ members, P m.2) → P (.object members)) : ∀ j, P j
  | .null => null
  | .bool b => bool b
  | .number literal => number literal
  | .text s => text s
  | .array items => array items fun j _ => containment null bool number text array object j
  | .object members =>
    object members fun m _ => containment null bool number text array object m.2
termination_by j => sizeOf j
decreasing_by
  · have hitem := List.sizeOf_lt_of_mem (by assumption : j ∈ items)
    simp only [Json.array.sizeOf_spec]
    omega
  · have hmember := List.sizeOf_lt_of_mem (by assumption : m ∈ members)
    have hvalue : sizeOf m.2 < sizeOf m := by
      cases m
      simp only [Prod.mk.sizeOf_spec]
      omega
    simp only [Json.object.sizeOf_spec]
    omega

inductive Same : Json → Json → Prop
  | null : Same .null .null
  | bool (b : Bool) : Same (.bool b) (.bool b)
  | number (literal : String) : Same (.number literal) (.number literal)
  | text (s : String) : Same (.text s) (.text s)
  | array {items others : List Json} (h : List.Forall₂ Same items others) :
    Same (.array items) (.array others)
  | object {members others : List (String × Json)}
    (h : ∀ key, Option.Rel Same (members.lookup key) (others.lookup key)) :
    Same (.object members) (.object others)

theorem Same.refl (j : Json) : j.Same j := by
  induction j using containment with
  | null => exact .null
  | bool b => exact .bool b
  | number literal => exact .number literal
  | text s => exact .text s
  | array items ih => exact .array (List.forall₂_same.mpr ih)
  | object members ih =>
    refine .object fun key => ?_
    cases hlookup : members.lookup key with
    | none => exact .none
    | some j => exact .some (ih (key, j) (mem_of_lookup hlookup))

theorem Same.of_perm {members others : List (String × Json)} (h : members.Perm others)
    (hnodup : (members.map Prod.fst).Nodup) : Same (.object members) (.object others) := by
  have hothers : (others.map Prod.fst).Nodup := (h.map Prod.fst).nodup_iff.mp hnodup
  refine .object fun key => ?_
  have hlookup : members.lookup key = others.lookup key := by
    ext j
    rw [lookup_eq_some_iff_mem hnodup, lookup_eq_some_iff_mem hothers, h.mem_iff]
  rw [hlookup]
  cases others.lookup key with
  | none => exact .none
  | some j => exact .some (.refl j)

def bool? : Json → Option Bool
  | .bool b => some b
  | _ => none

def textAt? (j : Json) (key : String) : Option String := (j.get? key).bind text?

def boolAt? (j : Json) (key : String) : Option Bool := (j.get? key).bind bool?

def itemsAt? {α : Type} (read : Json → Option α) (j : Json) (key : String) : Option (List α) :=
  (j.get? key).bind fun value => value.items?.bind fun items => items.mapM read

namespace Same

variable {j other : Json}

theorem text?_eq (h : j.Same other) : j.text? = other.text? := by
  cases h <;> rfl

theorem bool?_eq (h : j.Same other) : j.bool? = other.bool? := by
  cases h <;> rfl

theorem items? (h : j.Same other) : Option.Rel (List.Forall₂ Same) j.items? other.items? := by
  cases h with
  | array hitems => exact .some hitems
  | _ => exact .none

theorem get? (h : j.Same other) (key : String) : Option.Rel Same (j.get? key) (other.get? key) := by
  cases h with
  | object hmembers => exact hmembers key
  | _ => exact .none

theorem textAt?_eq (h : j.Same other) (key : String) : j.textAt? key = other.textAt? key :=
  bind_eq_of_rel (h.get? key) fun _ _ _ hvalue => hvalue.text?_eq

theorem boolAt?_eq (h : j.Same other) (key : String) : j.boolAt? key = other.boolAt? key :=
  bind_eq_of_rel (h.get? key) fun _ _ _ hvalue => hvalue.bool?_eq

theorem itemsAt?_eq {α : Type} {read : Json → Option α} (h : j.Same other)
    (hread : ∀ a b, Same a b → read a = read b) (key : String) :
    j.itemsAt? read key = other.itemsAt? read key :=
  bind_eq_of_rel (h.get? key) fun _ _ _ hvalue =>
    bind_eq_of_rel hvalue.items? fun _ _ _ hitems =>
      mapM_eq_of_forall₂ hitems fun a _ b hab => hread a b hab

end Same

end Json

end ClientGen
