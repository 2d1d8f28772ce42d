import ClientGen.Files.Tree
import Mathlib.Data.List.Basic

/-! The place that a path stands for: empty parts and `.` stay where they are, `..` goes up, and an
absolute path starts from the root. Every path that can be walked leads there. -/

namespace ClientGen

namespace Path

def enter (place : List String) (part : String) : List String :=
  if part = "" ∨ part = "." then place
  else if part = ".." then place.dropLast
  else place ++ [part]

structure IsName (part : String) : Prop where
  ne_empty : part ≠ ""
  ne_dot : part ≠ "."
  ne_dots : part ≠ ".."

theorem enter_empty (place : List String) : enter place "" = place := if_pos (.inl rfl)

theorem enter_name {part : String} (h : IsName part) (place : List String) :
    enter place part = place ++ [part] := by
  rw [enter, if_neg (not_or.mpr ⟨h.ne_empty, h.ne_dot⟩), if_neg h.ne_dots]

theorem foldl_enter_names {names : List String} (h : ∀ part ∈ names, IsName part)
    (place : List String) : names.foldl enter place = place ++ names := by
  induction names generalizing place with
  | nil => exact (List.append_nil place).symm
  | cons part rest ih =>
    obtain ⟨hpart, hrest⟩ := List.forall_mem_cons.mp h
    rw [List.foldl_cons, enter_name hpart, ih hrest, List.append_assoc, List.singleton_append]

theorem isName_append {name suffix : String} (h : 2 < suffix.toList.length) :
    IsName (name ++ suffix) := by
  have hlong : 2 < (name ++ suffix).toList.length := by
    rw [String.toList_append, List.length_append]
    omega
  constructor <;> intro heq <;> rw [heq] at hlong <;> exact absurd hlong (by decide)

theorem parts_of_notMem {path : String} (h : '/' ∉ path.toList) : parts path = [path] := by
  rw [parts, List.splitOn_eq_singleton h, List.map_singleton, String.ofList_toList]

theorem parts_append_slash (a b : String) : parts (a ++ "/" ++ b) = parts a ++ parts b := by
  have hchars : (a ++ "/" ++ b).toList = a.toList ++ '/' :: b.toList := by simp
  have hsplit : (a.toList ++ '/' :: b.toList).splitOn '/' =
      a.toList.splitOn '/' ++ b.toList.splitOn '/' :=
    List.splitOnP_append_cons _ _ (beq_self_eq_true '/')
  rw [parts, hchars, hsplit, List.map_append]
  rfl

theorem isAbsolute_of_notMem {path : String} (h : '/' ∉ path.toList) :
    isAbsolute path = false := by
  rw [isAbsolute, decide_eq_false_iff_not]
  exact mt List.mem_of_head? h

theorem isAbsolute_append {a : String} (h : a ≠ "") (b : String) :
    isAbsolute (a ++ b) = isAbsolute a := by
  obtain ⟨c, rest, hc⟩ := List.exists_cons_of_ne_nil (mt String.toList_eq_nil_iff.mp h)
  simp [isAbsolute, String.toList_append, hc]

end Path

namespace FileTree

/-- The place that the path stands for, whether or not anything is there. -/
def resolve (t : FileTree) (path : String) : List String :=
  (Path.parts path).foldl Path.enter (if Path.isAbsolute path then [] else t.home)

variable {t : FileTree} {place q : List String} {path base : String}

theorem walk_cons_eq_ok_iff {part : String} {rest : List String} :
    t.walk place (part :: rest) = .ok q ↔ t.node? place = some .directory ∧
      (Path.IsName part → part.utf8ByteSize ≤ maxNameBytes) ∧
      t.walk (Path.enter place part) rest = .ok q := by
  rw [walk, Path.enter]
  cases t.node? place with
  | none => simp
  | some node =>
    cases node with
    | file content => simp
    | directory =>
      dsimp only
      by_cases hstay : part = "" ∨ part = "."
      · have hname : ¬ Path.IsName part := fun h => hstay.elim h.ne_empty h.ne_dot
        rw [if_pos hstay, if_pos hstay]
        simp [hname]
      · by_cases hup : part = ".."
        · have hname : ¬ Path.IsName part := fun h => h.ne_dots hup
          rw [if_neg hstay, if_neg hstay, if_pos hup, if_pos hup]
          simp [hname]
        · have hname : Path.IsName part := ⟨mt .inl hstay, mt .inr hstay, hup⟩
          rw [if_neg hstay, if_neg hstay, if_neg hup, if_neg hup]
          by_cases hlong : maxNameBytes < part.utf8ByteSize
          · simp [hname, hlong, Nat.not_le_of_lt hlong]
          · simp [hname, hlong, Nat.le_of_not_lt hlong]

theorem walk_eq_ok {parts : List String} (h : t.walk place parts = .ok q) :
    q = parts.foldl Path.enter place := by
  induction parts generalizing place with
  | nil => exact (Except.ok.inj h).symm
  | cons part rest ih => exact ih (walk_cons_eq_ok_iff.mp h).2.2

theorem locateParts_eq_ok_iff {parts : List String} :
    t.locateParts path parts = .ok q ↔
      ('\x00' ∉ path.toList ∧ path ≠ "" ∧ path.utf8ByteSize ≤ maxPathBytes) ∧
        t.walk (if Path.isAbsolute path then [] else t.home) parts = .ok q := by
  simp only [locateParts, List.contains_iff_mem]
  by_cases hnul : '\x00' ∈ path.toList
  · rw [if_pos hnul]
    simp [hnul]
  · rw [if_neg hnul]
    by_cases hempty : path = ""
    · simp [hempty]
    · rw [if_neg hempty]
      by_cases hlong : maxPathBytes < path.utf8ByteSize
      · simp [hlong, Nat.not_le_of_lt hlong]
      · simp [hnul, hempty, hlong, Nat.le_of_not_lt hlong]

theorem locate_eq_ok (h : t.locate path = .ok q) : q = t.resolve path :=
  walk_eq_ok (locateParts_eq_ok_iff.mp h).2

theorem resolve_empty (t : FileTree) : t.resolve "" = t.home := rfl

theorem resolve_join (h : Path.isAbsolute path = false) :
    t.resolve (Path.join base path) = (Path.parts path).foldl Path.enter (t.resolve base) := by
  unfold Path.join
  by_cases hbase : base = ""
  · rw [hbase, resolve_empty]
    simp [resolve, h]
  · rw [if_neg (by simp [h, hbase])]
    split
    · rename_i hlast
      obtain ⟨chars, hchars⟩ := List.getLast?_eq_some_iff.mp hlast
      obtain rfl : base = String.ofList chars ++ "/" := by
        apply String.toList_inj.mp
        simpa using hchars
      have hstop := Path.parts_append_slash (String.ofList chars) ""
      rw [String.append_empty] at hstop
      rw [resolve, resolve, Path.isAbsolute_append hbase, Path.parts_append_slash, hstop,
        Path.parts_of_notMem (by simp : '/' ∉ "".toList), List.foldl_append, List.foldl_append,
        List.foldl_cons, Path.enter_empty, List.foldl_nil]
    · rw [resolve, resolve, String.append_assoc, Path.isAbsolute_append hbase,
        ← String.append_assoc, Path.parts_append_slash, List.foldl_append]

theorem resolve_eq_of_home {t' : FileTree} (h : t'.home = t.home) (path : String) :
    t'.resolve path = t.resolve path := by
  rw [resolve, resolve, h]

end FileTree

end ClientGen
