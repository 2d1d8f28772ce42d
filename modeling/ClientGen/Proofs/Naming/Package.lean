import ClientGen.Naming
import Mathlib.Data.List.Basic

/-! Package names: identifiers joined by dots. No slash occurs in them, and with a slash for every
dot they are relative paths of one part for each identifier. -/

namespace ClientGen

theorem mem_splitOn (sep : Char) {c : Char} {s : List Char} (h : c ∈ s) :
    c = sep ∨ ∃ w ∈ s.splitOn sep, c ∈ w := by
  induction s with
  | nil => simp at h
  | cons a rest ih =>
    rw [List.splitOn, List.splitOnP_cons_eq_if_modifyHead]
    obtain ⟨first, more, hrest⟩ :=
      List.exists_cons_of_ne_nil (List.splitOnP_ne_nil (· == sep) rest)
    rw [List.splitOn, hrest] at ih
    rw [hrest, List.modifyHead_cons]
    rcases List.mem_cons.mp h with rfl | h
    · by_cases hsep : c = sep
      · exact .inl hsep
      · rw [if_neg (by simpa using hsep)]
        exact .inr ⟨c :: first, List.mem_cons_self, List.mem_cons_self⟩
    · rcases ih h with hsep | ⟨w, hw, hcw⟩
      · exact .inl hsep
      · right
        split
        · exact ⟨w, List.mem_cons_of_mem _ hw, hcw⟩
        · rcases List.mem_cons.mp hw with rfl | hw
          · exact ⟨a :: w, List.mem_cons_self, List.mem_cons_of_mem _ hcw⟩
          · exact ⟨w, List.mem_cons_of_mem _ hw, hcw⟩

theorem intercalate_splitOn (sep : Char) (s : String) :
    String.intercalate (String.singleton sep) ((s.toList.splitOn sep).map String.ofList) = s := by
  apply String.toList_inj.mp
  rw [String.toList_intercalate, String.toList_singleton, List.map_map]
  simp [Function.comp_def, List.intercalate_splitOn]

theorem isIdentifierPart_of_start {c : Char} (h : isIdentifierStart c = true) :
    isIdentifierPart c = true := by
  unfold isIdentifierStart isIdentifierPart at *
  unfold Char.isAlphanum
  grind

theorem identifier_chars {w : List Char} (h : isIdentifierChars w = true) :
    w ≠ [] ∧ ∀ c ∈ w, isIdentifierPart c = true := by
  cases w with
  | nil => cases h
  | cons a rest =>
    obtain ⟨ha, hrest⟩ := Bool.and_eq_true_iff.mp h
    refine ⟨List.cons_ne_nil a rest, List.forall_mem_cons.mpr ⟨isIdentifierPart_of_start ha, ?_⟩⟩
    exact List.all_eq_true.mp hrest

inductive IsIdentifier : List Char → Prop
  | mk {c : Char} {rest : List Char} (hc : c.isAlpha = true ∨ c = '_' ∨ c = '$')
    (hr : ∀ d ∈ rest, d.isAlphanum = true ∨ d = '_' ∨ d = '$') : IsIdentifier (c :: rest)

theorem isIdentifierChars_iff {w : List Char} : isIdentifierChars w = true ↔ IsIdentifier w := by
  cases w with
  | nil => exact iff_of_false Bool.false_ne_true nofun
  | cons c rest =>
    have hstart : isIdentifierStart c = true ↔ c.isAlpha = true ∨ c = '_' ∨ c = '$' := by
      simp [isIdentifierStart, or_assoc]
    have hrest : rest.all isIdentifierPart = true ↔
        ∀ d ∈ rest, d.isAlphanum = true ∨ d = '_' ∨ d = '$' := by
      simp [isIdentifierPart, or_assoc]
    rw [isIdentifierChars, Bool.and_eq_true, hstart, hrest]
    constructor
    · rintro ⟨hc, hr⟩
      exact .mk hc hr
    · rintro ⟨hc, hr⟩
      exact ⟨hc, hr⟩

theorem isIdentifier_of_all {names : List String} (h : names.all isIdentifier = true) :
    ∀ name ∈ names, IsIdentifier name.toList :=
  fun name hname => isIdentifierChars_iff.mp (List.all_eq_true.mp h name hname)

variable {package : String}

theorem isPackage_append (a b : String) :
    isPackage (a ++ "." ++ b) = (isPackage a && isPackage b) := by
  have hchars : (a ++ "." ++ b).toList = a.toList ++ '.' :: b.toList := by simp
  have hsplit : (a.toList ++ '.' :: b.toList).splitOn '.' =
      a.toList.splitOn '.' ++ b.toList.splitOn '.' :=
    List.splitOnP_append_cons _ _ (beq_self_eq_true '.')
  rw [isPackage, hchars, hsplit, List.all_append]
  rfl

def segments (package : String) : List String :=
  (package.toList.splitOn '.').map String.ofList

theorem chars_of_segment (h : isPackage package = true) {segment : String}
    (hs : segment ∈ segments package) :
    segment ≠ "" ∧ ∀ c ∈ segment.toList, isIdentifierPart c = true := by
  obtain ⟨w, hw, rfl⟩ := List.mem_map.mp hs
  obtain ⟨hne, hchars⟩ := identifier_chars (List.all_eq_true.mp h w hw)
  rw [String.toList_ofList]
  exact ⟨by simpa using hne, hchars⟩

theorem slash_notMem_package (h : isPackage package = true) : '/' ∉ package.toList := by
  intro hslash
  rcases mem_splitOn '.' hslash with hdot | ⟨w, hw, hslash⟩
  · cases hdot
  · have := (identifier_chars (List.all_eq_true.mp h w hw)).2 '/' hslash
    simp [isIdentifierPart] at this

theorem intercalate_segments (package : String) :
    String.intercalate "." (segments package) = package := intercalate_splitOn '.' package

theorem segments_inj {other : String} (h : segments package = segments other) :
    package = other := by
  rw [← intercalate_segments package, h, intercalate_segments]

structure Dotted (names : List String) (package : String) : Prop where
  ne_nil : names ≠ []
  identifiers : ∀ name ∈ names, IsIdentifier name.toList
  joined : package = String.intercalate "." names

namespace Dotted

variable {names : List String}

theorem segments_eq (h : Dotted names package) : segments package = names := by
  have hdot : ∀ w ∈ names.map String.toList, '.' ∉ w := by
    intro w hw hmem
    obtain ⟨name, hname, rfl⟩ := List.mem_map.mp hw
    have := (identifier_chars (isIdentifierChars_iff.mpr (h.identifiers name hname))).2 '.' hmem
    cases this
  have hsplit : package.toList.splitOn '.' = names.map String.toList := by
    rw [h.joined, String.toList_intercalate]
    exact List.splitOn_intercalate '.' hdot (mt List.map_eq_nil_iff.mp h.ne_nil)
  rw [segments, hsplit, List.map_map]
  simp [Function.comp_def]

theorem isPackage (h : Dotted names package) : isPackage package = true := by
  refine List.all_eq_true.mpr fun w hw => isIdentifierChars_iff.mpr ?_
  have hmem : String.ofList w ∈ names := h.segments_eq ▸ List.mem_map_of_mem hw
  have hw := h.identifiers _ hmem
  rwa [String.toList_ofList] at hw

theorem append {name : String} (h : Dotted names package) (hname : IsIdentifier name.toList) :
    Dotted (names ++ [name]) (package ++ "." ++ name) := by
  refine ⟨List.append_ne_nil_of_right_ne_nil _ (List.cons_ne_nil _ _), ?_, ?_⟩
  · exact List.forall_mem_append.mpr ⟨h.identifiers, List.forall_mem_singleton.mpr hname⟩
  · rw [String.intercalate_append_of_ne_nil h.ne_nil (List.cons_ne_nil _ _),
      String.intercalate_singleton, ← h.joined]

end Dotted

theorem isPackage_iff : isPackage package = true ↔ ∃ names, Dotted names package := by
  constructor
  · intro h
    refine ⟨segments package, ?_, fun name hname => ?_, (intercalate_segments package).symm⟩
    · exact mt List.map_eq_nil_iff.mp (List.splitOnP_ne_nil _ _)
    · obtain ⟨w, hw, rfl⟩ := List.mem_map.mp hname
      rw [String.toList_ofList]
      exact isIdentifierChars_iff.mp (List.all_eq_true.mp h w hw)
  · rintro ⟨names, h⟩
    exact h.isPackage

theorem head_of_package (h : isPackage package = true) :
    ∃ c rest, package.toList = c :: rest ∧ c ≠ '.' := by
  unfold isPackage at h
  cases hchars : package.toList with
  | nil =>
    rw [hchars] at h
    cases h
  | cons c rest =>
    refine ⟨c, rest, rfl, ?_⟩
    rintro rfl
    rw [hchars, List.splitOn, List.splitOnP_cons_eq_if_modifyHead, if_pos (beq_self_eq_true '.')]
      at h
    cases h

end ClientGen
