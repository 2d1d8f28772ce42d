/-!
Lists of pairs in which a key occurs at most once, kept either in the order of first arrival or
sorted by key. A repeated key takes the last value.
-/

namespace ClientGen.Dict

variable {α : Type}

def put (k : String) (v : α) : List (String × α) → List (String × α)
  | [] => [(k, v)]
  | (k', v') :: rest => if k' = k then (k, v) :: rest else (k', v') :: put k v rest

def ofList (entries : List (String × α)) : List (String × α) :=
  entries.foldl (fun d (k, v) => put k v d) []

/-- Keys are compared by code points. -/
def putSorted (k : String) (v : α) : List (String × α) → List (String × α)
  | [] => [(k, v)]
  | (k', v') :: rest =>
    if k < k' then (k, v) :: (k', v') :: rest
    else if k' = k then (k, v) :: rest
    else (k', v') :: putSorted k v rest

def sortedOfList (entries : List (String × α)) : List (String × α) :=
  entries.foldl (fun d (k, v) => putSorted k v d) []

theorem lookup_cons (k k' : String) (v : α) (d : List (String × α)) :
    ((k, v) :: d).lookup k' = if k' = k then some v else d.lookup k' := by
  by_cases h : k' = k
  · simp [h]
  · simp [List.lookup_cons, beq_eq_false_iff_ne.mpr h, h]

theorem lookup_put (k k' : String) (v : α) (d : List (String × α)) :
    (put k v d).lookup k' = if k' = k then some v else d.lookup k' := by
  induction d with
  | nil => simp [put, lookup_cons]
  | cons e rest ih =>
    obtain ⟨a, w⟩ := e
    by_cases h : a = k
    · simp only [put, h, if_true, lookup_cons]
      split <;> rfl
    · simp only [put, if_neg h, lookup_cons, ih]
      split
      · rename_i ha
        rw [if_neg (ha ▸ h)]
      · rfl

theorem keys_put (k : String) (v : α) (d : List (String × α)) :
    (put k v d).map Prod.fst =
      if k ∈ d.map Prod.fst then d.map Prod.fst else d.map Prod.fst ++ [k] := by
  induction d with
  | nil => simp [put]
  | cons e rest ih =>
    by_cases h : e.1 = k
    · simp [put, h]
    · have h' : k ≠ e.1 := fun e => h e.symm
      simp only [put, if_neg h, List.map_cons, ih, List.mem_cons, h', false_or]
      split <;> simp

theorem nodup_keys_put {k : String} {v : α} {d : List (String × α)}
    (h : (d.map Prod.fst).Nodup) : ((put k v d).map Prod.fst).Nodup := by
  rw [keys_put]
  split
  · exact h
  · rename_i hk
    refine List.nodup_append.mpr ⟨h, by simp, fun a ha b hb => ?_⟩
    obtain rfl : b = k := by simpa using hb
    exact fun e => hk (e ▸ ha)

theorem nodup_keys_ofList (entries : List (String × α)) :
    ((ofList entries).map Prod.fst).Nodup := by
  have : ∀ d : List (String × α), (d.map Prod.fst).Nodup →
      ((entries.foldl (fun d (k, v) => put k v d) d).map Prod.fst).Nodup := by
    induction entries with
    | nil => exact fun _ h => h
    | cons e rest ih => exact fun d h => ih _ (nodup_keys_put h)
  exact this [] (by simp)

theorem lookup_putSorted (k k' : String) (v : α) (d : List (String × α)) :
    (putSorted k v d).lookup k' = if k' = k then some v else d.lookup k' := by
  induction d with
  | nil => simp [putSorted, lookup_cons]
  | cons e rest ih =>
    obtain ⟨a, w⟩ := e
    unfold putSorted
    split
    · exact lookup_cons ..
    · by_cases h : a = k
      · simp only [h, if_true, lookup_cons]
        split <;> rfl
      · simp only [if_neg h, lookup_cons, ih]
        split
        · rename_i ha
          rw [if_neg (ha ▸ h)]
        · rfl

end ClientGen.Dict
