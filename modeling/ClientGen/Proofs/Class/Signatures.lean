import ClientGen.Accessors
import ClientGen.Proofs.Naming.FieldName
import Mathlib.Data.List.Nodup

/-! What tells the methods of a class apart: their name and the number of their parameters. The
accessors of fields with different names differ, because field names do not change places when
they are capitalized and no prefix of an accessor starts another. -/

namespace ClientGen

open Naming

def Method.signature (m : Method) : String × Nat := (m.name, m.arity)

def ClassDecl.signatures (c : ClassDecl) : List (String × Nat) := c.methods.map Method.signature

theorem signatures_addMethods (c : ClassDecl) (ms : List Method) :
    (c.addMethods ms).signatures = c.signatures ++ ms.map Method.signature :=
  List.map_append

theorem setterName_ne_fluentName (a b : String) : setterName a ≠ fluentName b := by
  intro h
  have hchars := congrArg String.toList h
  simp [setterName, fluentName] at hchars

def accessorsOf (className : String) (f : Field) : List Method :=
  [.getter f, .setter f, .fluent className f]

theorem mem_signatures_accessorsOf {className : String} {f : Field} {x : String × Nat} :
    x ∈ (accessorsOf className f).map Method.signature ↔
      x = (getterName f.name, 0) ∨ x = (setterName f.name, 1) ∨ x = (fluentName f.name, 1) := by
  simp [accessorsOf, Method.signature, Method.arity, Method.getter, Method.setter, Method.fluent]

theorem name_eq_of_common_accessor {className : String} {f g : Field}
    (hf : Chars.IsFieldName f.name.toList) (hg : Chars.IsFieldName g.name.toList)
    {x : String × Nat} (hxf : x ∈ (accessorsOf className f).map Method.signature)
    (hxg : x ∈ (accessorsOf className g).map Method.signature) : f.name = g.name := by
  rw [mem_signatures_accessorsOf] at hxf hxg
  apply capitalize_inj hf hg
  -- the arities leave five of the nine pairs
  rcases hxf with rfl | rfl | rfl <;> rcases hxg with h | h | h <;>
    simp only [Prod.mk.injEq, Nat.zero_ne_one, Nat.one_ne_zero, and_false, and_true] at h
  · simpa [getterName] using h
  · simpa [setterName] using h
  · exact absurd h (setterName_ne_fluentName _ _)
  · exact absurd h.symm (setterName_ne_fluentName _ _)
  · simpa [fluentName] using h

theorem nodup_signatures_accessorsOf (className : String) (f : Field) :
    ((accessorsOf className f).map Method.signature).Nodup := by
  have h := setterName_ne_fluentName f.name f.name
  simp [accessorsOf, Method.signature, Method.arity, Method.getter, Method.setter, Method.fluent, h]

theorem nodup_accessor_signatures {fields : List Field} (className : String)
    (hnames : (fields.map Field.name).Nodup)
    (hnormal : ∀ f ∈ fields, Chars.IsFieldName f.name.toList) :
    ((fields.flatMap (accessorsOf className)).map Method.signature).Nodup := by
  rw [List.map_flatMap, List.nodup_flatMap]
  refine ⟨fun f _ => nodup_signatures_accessorsOf className f, ?_⟩
  rw [List.nodup_iff_pairwise_ne, List.pairwise_map] at hnames
  refine hnames.imp_of_mem (fun hf hg hne => ?_)
  intro x hxf hxg
  exact hne (name_eq_of_common_accessor (hnormal _ hf) (hnormal _ hg) hxf hxg)

end ClientGen
