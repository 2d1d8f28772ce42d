import ClientGen.Output.Emitters
import ClientGen.Proofs.Files.Kept
import ClientGen.Proofs.Naming.Package

/-! The file of a class. An emitter writes this file and no other; as long as no slash is in the
name of the class, the file lies below the output directory, and classes with different canonical
names have different files. -/

namespace ClientGen

open FileTree

namespace OutputFormat

def file (format : OutputFormat) (output : String) (c : ClassDecl) : String :=
  match format with
  | .java => Path.join (Emitter.packageDirectory output c.packageName) (c.className ++ ".java")
  | .json => Path.join output (c.canonicalName ++ ".json")

def content (format : OutputFormat) (c : ClassDecl) : ByteArray :=
  match format with
  | .java => (JavaSource.classSource c).toUTF8
  | .json => c.dump.toUTF8

end OutputFormat

section Emission

variable {t t₁ : FileTree} {directory name text : String} {fault : IoFault}

inductive Delivered (path : String) (bytes : ByteArray) (t : FileTree) :
    Except EmitError Unit × FileTree → Prop
  | written {t' : FileTree} (kept : Kept [t.resolve path] t t') (read : t'.read path = .ok bytes) :
    Delivered path bytes t (.ok (), t')
  | refused {t' : FileTree} (e : EmitError) (kept : Kept [] t t') :
    Delivered path bytes t (.error e, t')

theorem run_writeFile_of_error
    (h : (Files.createDirectories (m := StateM FileTree) directory).run t = (.error fault, t₁)) :
    (Emitter.writeFile (m := StateM FileTree) directory name text).run t =
      (.error (.io fault), t₁) :=
  run_bind_of_run h

theorem run_writeFile_of_ok
    (h : (Files.createDirectories (m := StateM FileTree) directory).run t = (.ok (), t₁)) :
    (Emitter.writeFile (m := StateM FileTree) directory name text).run t =
      match t₁.write (Path.join directory name) text.toUTF8 with
      | .error fault => (.error (.io fault), t₁)
      | .ok t₂ => (.ok (), t₂) := by
  have hwrite : (Files.write (m := StateM FileTree) (Path.join directory name) text.toUTF8).run
      t₁ = _ := run_updating (·.write (Path.join directory name) text.toUTF8) t₁
  unfold Emitter.writeFile
  rw [run_bind_of_run h]
  cases h₁ : t₁.write (Path.join directory name) text.toUTF8 <;> rw [h₁] at hwrite <;>
    dsimp only <;> rw [run_bind_of_run hwrite] <;> rfl

theorem delivered_writeFile (directory name text : String) (t : FileTree) :
    Delivered (Path.join directory name) text.toUTF8 t
      ((Emitter.writeFile (m := StateM FileTree) directory name text).run t) := by
  have hmade := keeps_createDirectories directory t
  match hrun : (Files.createDirectories (m := StateM FileTree) directory).run t with
  | (.error fault, t₁) =>
    rw [hrun] at hmade
    rw [run_writeFile_of_error hrun]
    exact .refused _ hmade
  | (.ok (), t₁) =>
    rw [hrun] at hmade
    rw [run_writeFile_of_ok hrun]
    cases hwrite : t₁.write (Path.join directory name) text.toUTF8 with
    | error fault => exact .refused _ hmade
    | ok t₂ =>
      obtain ⟨hkept, hread⟩ := write_eq_ok hwrite
      rw [resolve_eq_of_home hmade.home] at hkept
      exact .written (hmade.trans hkept) hread

theorem delivered_ofFormat (format : OutputFormat) (output : String) (c : ClassDecl)
    (t : FileTree) :
    Delivered (format.file output c) (format.content c) t
      ((Emitter.ofFormat (m := StateM FileTree) format output c).run t) := by
  unfold OutputFormat.file OutputFormat.content Emitter.ofFormat
  cases format with
  | java =>
    dsimp only [Emitter.java]
    split
    · exact .refused _ (.refl t)
    · exact delivered_writeFile _ _ _ t
  | json =>
    dsimp only [Emitter.json]
    exact delivered_writeFile _ _ _ t

end Emission

section Names

variable {c d : ClassDecl}

namespace Path

variable {package : String}

theorem isName_of_segment (h : isPackage package = true) :
    ∀ segment ∈ segments package, IsName segment := by
  intro segment hs
  obtain ⟨hne, hchars⟩ := chars_of_segment h hs
  refine ⟨hne, ?_, ?_⟩ <;> rintro rfl <;> have := hchars '.' (by decide) <;> cases this

theorem parts_package (h : isPackage package = true) :
    parts (package.map fun c => if c = '.' then '/' else c) = segments package := by
  -- the dots become the only slashes, so both split at the same characters
  have hsplit : ∀ s : List Char, '/' ∉ s →
      (s.map fun c => if c = '.' then '/' else c).splitOn '/' = s.splitOn '.' := by
    intro s hs
    induction s with
    | nil => rfl
    | cons a rest ih =>
      rw [List.mem_cons, not_or] at hs
      have ih := ih hs.2
      simp only [List.splitOn] at ih ⊢
      rw [List.map_cons, List.splitOnP_cons_eq_if_modifyHead, List.splitOnP_cons_eq_if_modifyHead,
        ih]
      by_cases hdot : a = '.'
      · simp [hdot]
      · simp [hdot, Ne.symm hs.1]
  rw [parts, segments, String.toList_map, hsplit _ (slash_notMem_package h)]

theorem isAbsolute_package (h : isPackage package = true) :
    isAbsolute (package.map fun c => if c = '.' then '/' else c) = false := by
  obtain ⟨c, rest, hchars, hc⟩ := head_of_package h
  have hslash := slash_notMem_package h
  rw [hchars, List.mem_cons, not_or] at hslash
  simp [isAbsolute, String.toList_map, hchars, hc, Ne.symm hslash.1]

end Path

structure ClassDecl.Plain (c : ClassDecl) : Prop where
  package : isPackage c.packageName = true
  name : '/' ∉ c.className.toList

namespace OutputFormat

def names (format : OutputFormat) (c : ClassDecl) : List String :=
  match format with
  | .java => segments c.packageName ++ [c.className ++ ".java"]
  | .json => [c.canonicalName ++ ".json"]

theorem resolve_file (t : FileTree) (format : OutputFormat) (output : String) (h : c.Plain) :
    t.resolve (format.file output c) = t.resolve output ++ format.names c := by
  cases format with
  | java =>
    have hfile : '/' ∉ (c.className ++ ".java").toList := by simp [h.name]
    have hname : Path.IsName (c.className ++ ".java") := Path.isName_append (by decide)
    rw [file, Emitter.packageDirectory, resolve_join (Path.isAbsolute_of_notMem hfile),
      resolve_join (Path.isAbsolute_package h.package), Path.parts_of_notMem hfile,
      Path.parts_package h.package, Path.foldl_enter_names (Path.isName_of_segment h.package),
      Path.foldl_enter_names (List.forall_mem_singleton.mpr hname), names, List.append_assoc]
  | json =>
    have hfile : '/' ∉ (c.canonicalName ++ ".json").toList := by
      simp [ClassDecl.canonicalName, slash_notMem_package h.package, h.name]
    have hname : Path.IsName (c.canonicalName ++ ".json") := Path.isName_append (by decide)
    rw [file, resolve_join (Path.isAbsolute_of_notMem hfile), Path.parts_of_notMem hfile,
      Path.foldl_enter_names (List.forall_mem_singleton.mpr hname), names]

theorem names_ne_nil (format : OutputFormat) (c : ClassDecl) : format.names c ≠ [] := by
  cases format <;> simp [names]

theorem canonicalName_eq_of_names {format : OutputFormat} (h : format.names c = format.names d) :
    c.canonicalName = d.canonicalName := by
  cases format with
  | java =>
    obtain ⟨hsegments, hfile⟩ := List.append_inj' h rfl
    have hpackage := segments_inj hsegments
    have hclass : c.className = d.className := by simpa using hfile
    rw [ClassDecl.canonicalName, hpackage, hclass, ClassDecl.canonicalName]
  | json => simpa [names] using h

end OutputFormat

end Names

end ClientGen
