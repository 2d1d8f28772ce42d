import ClientGen.Navigation
import Mathlib.Data.List.Basic
import Mathlib.Data.List.Induction

/-! The field whose capitalized name ends a type name. The fields may be any, of any names, and some
of them may stand in the list more than once. A longest match is taken, and of several it is their
place in the list that decides. -/

namespace ClientGen

open Naming

namespace Field

def size (f : Field) : Nat := f.name.utf8ByteSize

def Ends (f : Field) (typeName : String) : Prop :=
  (capitalize f.name).toList <:+ typeName.toList

instance (f : Field) (typeName : String) : Decidable (f.Ends typeName) :=
  inferInstanceAs (Decidable ((capitalize f.name).toList <:+ typeName.toList))

end Field

variable {fields : List Field} {typeName : String} {f g : Field}

def longer (best : Option Field) (f : Field) : Option Field :=
  match best with
  | some b => if f.size ≤ b.size then some b else some f
  | none => some f

theorem longestSuffixField?_eq (fields : List Field) (typeName : String) :
    longestSuffixField? fields typeName =
      (fields.filter fun f => decide (f.Ends typeName)).foldl longer none := by
  have hends : ∀ f : Field, (capitalize f.name).toList.isSuffixOf typeName.toList =
      decide (f.Ends typeName) := by
    intro f
    rw [Bool.eq_iff_iff, List.isSuffixOf_iff_suffix, decide_eq_true_iff, Field.Ends]
  unfold longestSuffixField?
  simp only [hends]
  rfl

theorem longestSuffixField?_concat (fields : List Field) (f : Field) (typeName : String) :
    longestSuffixField? (fields ++ [f]) typeName =
      if f.Ends typeName then longer (longestSuffixField? fields typeName) f
      else longestSuffixField? fields typeName := by
  rw [longestSuffixField?_eq, longestSuffixField?_eq, List.filter_append, List.foldl_append]
  by_cases hends : f.Ends typeName <;> simp [hends]

/-- A match somewhere in the list: none after it is longer, and those before it are shorter. -/
def IsFirstLongest (fields : List Field) (typeName : String) (f : Field) : Prop :=
  ∃ before after, fields = before ++ f :: after ∧ f.Ends typeName ∧
    (∀ g ∈ before, g.Ends typeName → g.size < f.size) ∧
      ∀ g ∈ after, g.Ends typeName → g.size ≤ f.size

namespace IsFirstLongest

theorem mem (h : IsFirstLongest fields typeName f) : f ∈ fields := by
  obtain ⟨before, after, rfl, -, -, -⟩ := h
  exact List.mem_append_right before List.mem_cons_self

theorem ends (h : IsFirstLongest fields typeName f) : f.Ends typeName := by
  obtain ⟨-, -, -, hends, -, -⟩ := h
  exact hends

theorem longest (h : IsFirstLongest fields typeName f) :
    ∀ g ∈ fields, g.Ends typeName → g.size ≤ f.size := by
  obtain ⟨before, after, rfl, -, hbefore, hafter⟩ := h
  intro g hg hends
  rcases List.mem_append.mp hg with hg | hg
  · exact Nat.le_of_lt (hbefore g hg hends)
  · rcases List.mem_cons.mp hg with rfl | hg
    · exact Nat.le_refl _
    · exact hafter g hg hends

theorem concat (h : IsFirstLongest fields typeName f)
    (hg : g.Ends typeName → g.size ≤ f.size) : IsFirstLongest (fields ++ [g]) typeName f := by
  obtain ⟨before, after, rfl, hends, hbefore, hafter⟩ := h
  refine ⟨before, after ++ [g], by simp, hends, hbefore, List.forall_mem_append.mpr ⟨hafter, ?_⟩⟩
  exact List.forall_mem_singleton.mpr hg

theorem unique (hf : IsFirstLongest fields typeName f) (hg : IsFirstLongest fields typeName g) :
    f = g := by
  have hsize : f.size = g.size :=
    Nat.le_antisymm (hg.longest f hf.mem hf.ends) (hf.longest g hg.mem hg.ends)
  obtain ⟨before, after, rfl, hfends, hbefore, -⟩ := hf
  obtain ⟨before', after', hsplit, hgends, hbefore', -⟩ := hg
  -- of two that are equally long neither can stand before the other
  rcases List.append_eq_append_iff.mp hsplit with ⟨between, rfl, hrest⟩ | ⟨between, rfl, hrest⟩
  · cases between with
    | nil => exact (List.cons_eq_cons.mp hrest).1
    | cons a between =>
      obtain ⟨rfl, -⟩ := List.cons_eq_cons.mp hrest
      exact absurd hsize (Nat.ne_of_lt (hbefore' f (by simp) hfends))
  · cases between with
    | nil => exact (List.cons_eq_cons.mp hrest).1.symm
    | cons a between =>
      obtain ⟨rfl, -⟩ := List.cons_eq_cons.mp hrest
      exact absurd hsize.symm (Nat.ne_of_lt (hbefore g (by simp) hgends))

end IsFirstLongest

def IsChoice (seen : List Field) (typeName : String) : Option Field → Prop
  | none => ∀ f ∈ seen, ¬ f.Ends typeName
  | some f => IsFirstLongest seen typeName f

theorem isFirstLongest_concat (hg : g.Ends typeName)
    (hlonger : ∀ f ∈ fields, f.Ends typeName → f.size < g.size) :
    IsFirstLongest (fields ++ [g]) typeName g :=
  ⟨fields, [], rfl, hg, hlonger, by simp⟩

theorem IsChoice.step {best : Option Field} (h : IsChoice fields typeName best) (g : Field) :
    IsChoice (fields ++ [g]) typeName (if g.Ends typeName then longer best g else best) := by
  by_cases hends : g.Ends typeName
  · rw [if_pos hends]
    cases best with
    | none => exact isFirstLongest_concat hends fun f hf hfends => absurd hfends (h f hf)
    | some b =>
      have hb : IsFirstLongest fields typeName b := h
      rw [longer]
      split
      · rename_i hle
        exact hb.concat fun _ => hle
      · rename_i hlt
        refine isFirstLongest_concat hends fun f hf hfends => ?_
        exact Nat.lt_of_le_of_lt (hb.longest f hf hfends) (Nat.lt_of_not_le hlt)
  · rw [if_neg hends]
    cases best with
    | none => exact List.forall_mem_append.mpr ⟨h, List.forall_mem_singleton.mpr hends⟩
    | some b => exact IsFirstLongest.concat h fun hg => absurd hg hends

theorem isChoice_longestSuffixField? (fields : List Field) (typeName : String) :
    IsChoice fields typeName (longestSuffixField? fields typeName) := by
  induction fields using List.reverseRecOn with
  | nil => exact List.forall_mem_nil _
  | append_singleton fields g ih =>
    rw [longestSuffixField?_concat]
    exact ih.step g

theorem isFirstLongest_of_some (h : longestSuffixField? fields typeName = some f) :
    IsFirstLongest fields typeName f := by
  have hchoice := isChoice_longestSuffixField? fields typeName
  rwa [h] at hchoice

theorem longestSuffixField?_eq_none_iff :
    longestSuffixField? fields typeName = none ↔ ∀ f ∈ fields, ¬ f.Ends typeName := by
  have hchoice := isChoice_longestSuffixField? fields typeName
  cases h : longestSuffixField? fields typeName with
  | none =>
    rw [h] at hchoice
    exact ⟨fun _ => hchoice, fun _ => rfl⟩
  | some f =>
    have hf := isFirstLongest_of_some h
    constructor
    · intro hnone
      cases hnone
    · exact fun hnone => absurd hf.ends (hnone f hf.mem)

/-- There is no field for a type name just where no field matches it. Otherwise it is a longest
match, and the first of those. -/
theorem longestSuffix_first (fields : List Field) (typeName : String) :
    (longestSuffixField? fields typeName = none ↔ ∀ f ∈ fields, ¬ f.Ends typeName) ∧
      ∀ f, longestSuffixField? fields typeName = some f ↔ IsFirstLongest fields typeName f := by
  refine ⟨longestSuffixField?_eq_none_iff, fun f => ⟨isFirstLongest_of_some, fun hf => ?_⟩⟩
  cases h : longestSuffixField? fields typeName with
  | none => exact absurd hf.ends (longestSuffixField?_eq_none_iff.mp h f hf.mem)
  | some g => rw [(isFirstLongest_of_some h).unique hf]

end ClientGen
