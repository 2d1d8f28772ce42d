import ClientGen.Proofs.Naming.FieldName

/-! Capital letters are letters: no character but itself has a digit or an ASCII sign before the
letters for its capital. -/

namespace ClientGen

namespace Text

theorem toNat_ofNat_eq {n : Nat} {d : Char} (h : d = Char.ofNat n) (hd : d ≠ '\x00') :
    d.toNat = n := by
  by_cases hvalid : n.isValidChar
  · have hchar : Char.ofNat n = Char.ofNatAux n hvalid := dif_pos hvalid
    rw [h, hchar]
    rfl
  · exact absurd (h.trans (dif_neg hvalid)) hd

theorem special_capitals :
    ∀ entry ∈ upperSpecial, ∀ n ∈ entry.2, 'A'.toNat ≤ n := by decide +kernel

theorem mem_of_lookup {n : Nat} {ns : List Nat} {table : List (Nat × List Nat)}
    (h : table.lookup n = some ns) : (n, ns) ∈ table := by
  obtain ⟨_, _, heq, -⟩ := List.lookup_eq_some_iff.mp h
  rw [heq]
  exact List.mem_append_right _ List.mem_cons_self

theorem special_ne_nil : ∀ entry ∈ upperSpecial, entry.2 ≠ [] := by decide +kernel

theorem upper_ne_nil (c : Char) : upper c ≠ [] := by
  unfold upper
  split
  · exact List.cons_ne_nil _ _
  · unfold mapCase
    split
    · rename_i ns hspecial
      have hne := special_ne_nil _ (mem_of_lookup hspecial)
      exact fun h => hne (List.map_eq_nil_iff.mp h)
    · split
      · exact List.cons_ne_nil _ _
      · exact List.cons_ne_nil _ _

theorem run_capitals : ∀ r ∈ upperRuns, 'A'.toNat ≤ r.first + r.shift := by decide +kernel

theorem eq_of_mem_upper {c d : Char} (h : d ∈ upper c) (hnull : d ≠ '\x00')
    (hd : d.toNat < 'A'.toNat) : d = c := by
  unfold upper at h
  split at h
  · rename_i hc
    obtain rfl := List.mem_singleton.mp h
    exact Naming.Chars.ascii_forall
      (P := fun c => c.toUpper.toNat < 'A'.toNat → c.toUpper = c) (by decide) hc hd
  · unfold mapCase at h
    split at h
    · rename_i ns hspecial
      obtain ⟨n, hn, hdn⟩ := List.mem_map.mp h
      have := special_capitals _ (mem_of_lookup hspecial) n hn
      rw [← toNat_ofNat_eq hdn.symm hnull] at this
      omega
    · split at h
      · rename_i n hrun
        obtain ⟨r, hr, himage⟩ := List.exists_of_findSome?_eq_some hrun
        have hdn := toNat_ofNat_eq (List.mem_singleton.mp h) hnull
        have := run_capitals r hr
        unfold CaseRun.image? at himage
        split at himage
        · obtain rfl := Option.some.inj himage
          omega
        · cases himage
      · exact List.mem_singleton.mp h

end Text

namespace Naming

theorem capitalize_ne_empty {s : String} (h : typeName s ≠ "") : capitalize s ≠ "" := by
  cases hs : s.toList with
  | nil =>
    have hempty : typeName s = "" := by
      rw [typeName, hs]
      rfl
    exact absurd hempty h
  | cons c rest =>
    intro hcapitalize
    have hchars := congrArg String.toList hcapitalize
    rw [capitalize, String.toList_ofList, hs] at hchars
    exact Text.upper_ne_nil c (List.append_eq_nil_iff.mp hchars).1

theorem slash_notMem_capitalize {s : String} (h : '/' ∉ s.toList) :
    '/' ∉ (capitalize s).toList := by
  rw [capitalize, String.toList_ofList]
  cases hs : s.toList with
  | nil => exact List.not_mem_nil
  | cons c rest =>
    rw [hs, List.mem_cons, not_or] at h
    intro hslash
    rcases List.mem_append.mp hslash with hupper | hrest
    · exact h.1 (Text.eq_of_mem_upper hupper (by decide) (by decide))
    · exact h.2 hrest

theorem slash_notMem_typeName (s : String) : '/' ∉ (typeName s).toList := by
  rw [typeName, String.toList_ofList]
  intro hslash
  obtain ⟨w, hw, hslash⟩ := List.mem_flatMap.mp hslash
  have := (Chars.isWord_of_mem_words hw).alphanum_capitalize '/' hslash
  cases this

end Naming

end ClientGen
