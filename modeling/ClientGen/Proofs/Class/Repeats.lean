import Mathlib.Data.List.Induction
import Mathlib.Data.List.Nodup

/-! Lists in which items may share a key. Of the items of one key the first is kept, and each of the
others is dropped. -/

namespace ClientGen

section Repeats

variable {α : Type} (key : α → String) (xs : List α)

def repeatsAt (place : α × Nat) : Bool :=
  decide (key place.1 ∈ (xs.take place.2).map key)

def pickedBy (repeated : Bool) : List α :=
  (xs.zipIdx.filter fun place => repeatsAt key xs place = repeated).map Prod.fst

/-- The items whose key no earlier one has. -/
def keptBy : List α := pickedBy key xs false

def droppedBy : List α := pickedBy key xs true

def marksBy : List Bool := xs.zipIdx.map fun place => !repeatsAt key xs place

theorem repeatsAt_append {place : α × Nat} (h : place ∈ xs.zipIdx) (x : α) :
    repeatsAt key (xs ++ [x]) place = repeatsAt key xs place := by
  have hi := List.snd_lt_of_mem_zipIdx h
  rw [repeatsAt, repeatsAt, List.take_append_of_le_length (by omega)]

theorem repeatsAt_last (x : α) :
    repeatsAt key (xs ++ [x]) (x, xs.length) = decide (key x ∈ xs.map key) := by
  rw [repeatsAt, List.take_left]

theorem pickedBy_append (repeated : Bool) (x : α) :
    pickedBy key (xs ++ [x]) repeated =
      pickedBy key xs repeated ++ if decide (key x ∈ xs.map key) = repeated then [x] else [] := by
  unfold pickedBy
  rw [List.zipIdx_append, List.filter_append, List.map_append]
  congr 1
  · rw [List.filter_congr fun place hplace => by rw [repeatsAt_append key xs hplace]]
  · rw [List.zipIdx_singleton, Nat.zero_add, List.filter_singleton, repeatsAt_last]
    split <;> simp_all

theorem marksBy_append (x : α) :
    marksBy key (xs ++ [x]) = marksBy key xs ++ [!decide (key x ∈ xs.map key)] := by
  unfold marksBy
  rw [List.zipIdx_append, List.map_append]
  congr 1
  · exact List.map_congr_left fun place hplace => by rw [repeatsAt_append key xs hplace]
  · rw [List.zipIdx_singleton, Nat.zero_add, List.map_singleton, repeatsAt_last]

theorem keptBy_eq_marked :
    keptBy key xs = ((xs.zip (marksBy key xs)).filter Prod.snd).map Prod.fst := by
  have hzip : xs.zip (marksBy key xs) =
      xs.zipIdx.map fun place => (place.1, !repeatsAt key xs place) := by
    have hmap : (xs.zipIdx.map Prod.fst).zip (marksBy key xs) = _ := List.zip_map'
    rwa [List.zipIdx_map_fst] at hmap
  rw [hzip, List.filter_map, List.map_map, keptBy, pickedBy]
  simp [Function.comp_def]

variable {key xs}

theorem keptBy_append_of_mem {x : α} (h : key x ∈ xs.map key) :
    keptBy key (xs ++ [x]) = keptBy key xs ∧
      droppedBy key (xs ++ [x]) = droppedBy key xs ++ [x] := by
  rw [keptBy, droppedBy, pickedBy_append, pickedBy_append, decide_eq_true h]
  simp [keptBy, droppedBy]

theorem keptBy_append_of_notMem {x : α} (h : key x ∉ xs.map key) :
    keptBy key (xs ++ [x]) = keptBy key xs ++ [x] ∧
      droppedBy key (xs ++ [x]) = droppedBy key xs := by
  rw [keptBy, droppedBy, pickedBy_append, pickedBy_append, decide_eq_false h]
  simp [keptBy, droppedBy]

theorem keptBy_append (key : α → String) (xs : List α) (x : α) :
    keptBy key (xs ++ [x]) = if key x ∈ xs.map key then keptBy key xs else keptBy key xs ++ [x] := by
  split <;> rename_i h
  · exact (keptBy_append_of_mem h).1
  · exact (keptBy_append_of_notMem h).1

theorem find?_keptBy (key : α → String) (xs : List α) (k : String) :
    (keptBy key xs).find? (key · = k) = xs.find? (key · = k) := by
  induction xs using List.reverseRecOn with
  | nil => rfl
  | append_singleton xs x ih =>
    rw [keptBy_append, List.find?_append, ← ih]
    split <;> rename_i hx
    · -- where `x` has the key, an earlier item that is kept has it, too
      cases hfound : (keptBy key xs).find? (key · = k) with
      | some y => rfl
      | none =>
        have hother : key x ≠ k := by
          rintro rfl
          obtain ⟨y, hy, hyx⟩ := List.mem_map.mp hx
          have := List.find?_eq_none.mp (ih ▸ hfound) y hy
          simp [hyx] at this
        simp [hother]
    · rw [List.find?_append]

theorem mem_of_mem_keptBy {x : α} (h : x ∈ keptBy key xs) : x ∈ xs := by
  obtain ⟨place, hplace, rfl⟩ := List.mem_map.mp h
  exact List.fst_mem_of_mem_zipIdx (List.mem_filter.mp hplace).1

theorem mem_map_keptBy {k : String} : k ∈ (keptBy key xs).map key ↔ k ∈ xs.map key := by
  have found : ∀ ys : List α, k ∈ ys.map key ↔ (ys.find? (key · = k)).isSome = true := by
    intro ys
    simp [List.find?_isSome]
  rw [found, found, find?_keptBy]

theorem nodup_map_keptBy (key : α → String) (xs : List α) : ((keptBy key xs).map key).Nodup := by
  induction xs using List.reverseRecOn with
  | nil => exact List.nodup_nil
  | append_singleton xs x ih =>
    rw [keptBy_append]
    split <;> rename_i hx
    · exact ih
    · rw [List.map_append, List.nodup_append]
      refine ⟨ih, List.nodup_singleton _, ?_⟩
      rintro _ hold _ hnew rfl
      rw [List.map_singleton, List.mem_singleton] at hnew
      exact hx (mem_map_keptBy.mp (hnew ▸ hold))

end Repeats

end ClientGen
