import ClientGen.Dict
import ClientGen.Proofs.Text.ByteOrder

/-! Sorted lists of pairs: the keys are in the order of their bytes, and none occurs twice. -/

namespace ClientGen.Dict

variable {α : Type} {k : String} {v : α} {d : List (String × α)}

def ByteOrdered (keys : List String) : Prop :=
  keys.Pairwise fun a b => Text.bytes a < Text.bytes b

theorem mem_keys_putSorted {key : String} :
    key ∈ (putSorted k v d).map Prod.fst ↔ key = k ∨ key ∈ d.map Prod.fst := by
  induction d with
  | nil => simp [putSorted]
  | cons e rest ih =>
    obtain ⟨a, w⟩ := e
    unfold putSorted
    split
    · simp
    · split
      · rename_i heq
        subst heq
        simp
      · rw [List.map_cons, List.mem_cons, ih, List.map_cons, List.mem_cons, or_left_comm]

theorem lt_of_not_lt_of_ne {a b : String} (h : ¬a < b) (hne : b ≠ a) : b < a := by
  by_contra hba
  exact hne (String.le_antisymm (String.not_lt.mp h) (String.not_lt.mp hba))

theorem pairwise_putSorted (h : (d.map Prod.fst).Pairwise (· < ·)) :
    ((putSorted k v d).map Prod.fst).Pairwise (· < ·) := by
  induction d with
  | nil => simp [putSorted]
  | cons e rest ih =>
    obtain ⟨a, w⟩ := e
    obtain ⟨hhead, htail⟩ := List.pairwise_cons.mp h
    unfold putSorted
    split
    · rename_i hlt
      refine List.pairwise_cons.mpr ⟨fun key hkey => ?_, h⟩
      rcases List.mem_cons.mp hkey with rfl | hkey
      · exact hlt
      · exact String.lt_trans hlt (hhead key hkey)
    · rename_i hge
      split
      · rename_i heq
        subst heq
        exact h
      · rename_i hne
        refine List.pairwise_cons.mpr ⟨fun key hkey => ?_, ih htail⟩
        rcases mem_keys_putSorted.mp hkey with rfl | hkey
        · exact lt_of_not_lt_of_ne hge hne
        · exact hhead key hkey

theorem pairwise_sortedOfList (entries : List (String × α)) :
    ((sortedOfList entries).map Prod.fst).Pairwise (· < ·) := by
  refine List.foldlRecOn (motive := fun d : List (String × α) => (d.map Prod.fst).Pairwise (· < ·))
    entries _ .nil ?_
  intro d hd e _
  exact pairwise_putSorted hd

theorem byteOrdered_sortedOfList (entries : List (String × α)) :
    ByteOrdered ((sortedOfList entries).map Prod.fst) :=
  (pairwise_sortedOfList entries).imp Text.bytes_lt

end ClientGen.Dict
