import ClientGen.Proofs.Output.ClassFile
import ClientGen.Proofs.Project.Settings

/-! The directory of a package. It is below the output directory, one directory for each name in
the package, so that no two packages share one. -/

namespace ClientGen

namespace Path

structure Descends (base : String) (names : List String) (directory : String) : Prop where
  joined : directory = join base (String.intercalate "/" names)
  parts : parts (String.intercalate "/" names) = names
  named : ∀ name ∈ names, IsName name
  place : ∀ t : FileTree, t.resolve directory = t.resolve base ++ names

theorem intercalate_parts (path : String) : String.intercalate "/" (parts path) = path :=
  intercalate_splitOn '/' path

end Path

namespace Emitter

variable {package last : String} {names : List String}

theorem descends_packageDirectory (h : Dotted names package) (output : String) :
    Path.Descends output names (packageDirectory output package) := by
  have hpackage := h.isPackage
  have hparts : Path.parts (package.map fun c => if c = '.' then '/' else c) = names := by
    rw [Path.parts_package hpackage, h.segments_eq]
  have hpath : (package.map fun c => if c = '.' then '/' else c) =
      String.intercalate "/" names := by
    rw [← hparts, Path.intercalate_parts]
  have hnamed : ∀ name ∈ names, Path.IsName name := by
    rw [← h.segments_eq]
    exact Path.isName_of_segment hpackage
  refine ⟨?_, hpath ▸ hparts, hnamed, fun t => ?_⟩
  · rw [packageDirectory, hpath]
  · rw [packageDirectory, FileTree.resolve_join (Path.isAbsolute_package hpackage), hparts,
      Path.foldl_enter_names hnamed]

def subpackages : List String := [modelPackage, parametersPackage]

theorem isIdentifier_of_subpackage : ∀ last ∈ subpackages, IsIdentifier last.toList :=
  isIdentifier_of_all (by decide)

theorem descends_subpackage (h : Dotted names package) (hlast : last ∈ subpackages)
    (output : String) :
    Path.Descends output (names ++ [last]) (packageDirectory output (package ++ "." ++ last)) :=
  descends_packageDirectory (h.append (isIdentifier_of_subpackage last hlast)) output

theorem packages_eq_of_resolve {t : FileTree} {output p q last' : String}
    (hp : isPackage p = true) (hq : isPackage q = true)
    (hlast : last ∈ subpackages) (hlast' : last' ∈ subpackages)
    (h : t.resolve (packageDirectory output (p ++ "." ++ last)) =
      t.resolve (packageDirectory output (q ++ "." ++ last'))) : (p, last) = (q, last') := by
  obtain ⟨names, hnames⟩ := isPackage_iff.mp hp
  obtain ⟨names', hnames'⟩ := isPackage_iff.mp hq
  rw [(descends_subpackage hnames hlast output).place,
    (descends_subpackage hnames' hlast' output).place] at h
  obtain ⟨rfl, hend⟩ := List.append_inj' (List.append_cancel_left h) rfl
  rw [hnames.joined, hnames'.joined, List.singleton_inj.mp hend]

/-- A package is made of names with dots between them, and every base package is one. Its classes go
down one directory for each name, where no other package leads. -/
theorem directories_of_packages :
    (∀ package, isPackage package = true ↔ ∃ names, Dotted names package) ∧
      (∀ (c : ProjectConfig) (o : Overrides) (package : String),
        (∃ project, c.resolve o = .ok project ∧ project.basePackage = package) ↔
          (∃ source, (o.source <|> c.project.source) = some source) ∧
            (o.basePackage <|> c.project.basePackage) = some package ∧
            isPackage package = true) ∧
      (∀ (output package : String) (names : List String), Dotted names package →
        ∀ last ∈ subpackages, Path.Descends output (names ++ [last])
          (packageDirectory output (package ++ "." ++ last))) ∧
      ∀ (t : FileTree) (output p q last last' : String),
        isPackage p = true → isPackage q = true → last ∈ subpackages → last' ∈ subpackages →
          (p, last) ≠ (q, last') →
            t.resolve (packageDirectory output (p ++ "." ++ last)) ≠
              t.resolve (packageDirectory output (q ++ "." ++ last')) := by
  refine ⟨fun package => isPackage_iff, fun c o package => ?_, ?_, ?_⟩
  · constructor
    · rintro ⟨project, hproject, rfl⟩
      obtain ⟨hsource, hpackage, hvalid, -, -⟩ := ProjectConfig.resolve_eq_ok_iff.mp hproject
      exact ⟨⟨_, hsource⟩, hpackage, hvalid⟩
    · rintro ⟨⟨source, hsource⟩, hpackage, hvalid⟩
      let project : ResolvedProject := {
        source, basePackage := package
        output := (o.output <|> c.project.output).getD "generated"
        format := (o.format <|> c.project.format).getD .java }
      exact ⟨project,
        ProjectConfig.resolve_eq_ok_iff.mpr ⟨hsource, hpackage, hvalid, rfl, rfl⟩, rfl⟩
  · intro output package names h last hlast
    exact descends_subpackage h hlast output
  · intro t output p q last last' hp hq hlast hlast' hne heq
    exact hne (packages_eq_of_resolve hp hq hlast hlast' heq)

theorem directories_of_nested_packages :
    Dotted ["com", "model"] "com.model" ∧ modelPackage ∈ subpackages ∧
      Path.Descends "out/" ["com", "model", "model"] (packageDirectory "out/" "com.model.model") ∧
      isPackage "com.model" = true ∧ isPackage "com" = true ∧
      ("com.model", modelPackage) ≠ ("com", modelPackage) ∧
      (FileTree.mk [] []).resolve (packageDirectory "out/" "com.model.model") ≠
        (FileTree.mk [] []).resolve (packageDirectory "out/" "com.model") := by
  have hlast : modelPackage ∈ subpackages := by decide
  have hpackage : isPackage "com.model" = true := by decide
  have hparent : isPackage "com" = true := by decide
  have hdotted : Dotted ["com", "model"] "com.model" :=
    ⟨by decide, isIdentifier_of_all (by decide), by decide⟩
  have hne : ("com.model", modelPackage) ≠ ("com", modelPackage) := by decide
  obtain ⟨-, -, hdown, hapart⟩ := directories_of_packages
  have hplaces := hapart (FileTree.mk [] []) "out/" "com.model" "com" modelPackage modelPackage
    hpackage hparent hlast hlast hne
  exact ⟨hdotted, hlast, hdown "out/" "com.model" _ hdotted modelPackage hlast, hpackage, hparent,
    hne, hplaces⟩

end Emitter

end ClientGen
