import ClientGen.Project
import Mathlib.Logic.Unique

/-! The settings of a project: what they are checked for, and what comes of them and the settings
that were given on the command line. -/

namespace ClientGen

namespace ProjectConfig

theorem checkPackage_eq_ok_iff {package : String} :
    checkPackage package = .ok () ↔ isPackage package = true := by
  unfold checkPackage
  split <;> simp_all

theorem checkIdentifiers_eq_ok_iff {entries : List (String × String)} :
    checkIdentifiers entries = .ok () ↔ ∀ e ∈ entries, isIdentifier e.2 = true := by
  induction entries with
  | nil => simp [checkIdentifiers]
  | cons e rest ih =>
    rw [checkIdentifiers, List.forall_mem_cons, ← ih]
    split <;> simp_all

theorem checkOverrides_eq_ok_iff {entries : List (String × String)} :
    checkOverrides entries = .ok () ↔ ∀ e ∈ entries, Text.isBlank e.2.toList = false := by
  induction entries with
  | nil => simp [checkOverrides]
  | cons e rest ih =>
    rw [checkOverrides, List.forall_mem_cons, ← ih]
    split <;> simp_all

structure Valid (c : ProjectConfig) : Prop where
  package : ∀ package ∈ c.project.basePackage, isPackage package = true
  level : ∃ level, c.level = .ok level
  identifiers : ∀ e ∈ identifiers c.generator, isIdentifier e.2 = true
  overrides : ∀ e ∈ c.generator.typeOverrides, Text.isBlank e.2.toList = false

theorem validate_eq_ok_iff {c : ProjectConfig} : c.validate = .ok () ↔ c.Valid := by
  have hbind : ∀ {α : Type} (x : Except ProjectError α) (f : α → Except ProjectError Unit),
      x >>= f = .ok () ↔ ∃ a, x = .ok a ∧ f a = .ok () := by
    intro α x f
    cases x <;> simp [bind, Except.bind]
  have hchecks : c.validate = .ok () ↔
      (∀ package ∈ c.project.basePackage, checkPackage package = .ok ()) ∧
        (∃ level, c.level = .ok level) ∧
          checkIdentifiers (ProjectConfig.identifiers c.generator) = .ok () ∧
            checkOverrides c.generator.typeOverrides = .ok () := by
    unfold validate
    cases c.project.basePackage <;> simp [hbind, Unique.exists_iff]
  rw [hchecks, checkIdentifiers_eq_ok_iff, checkOverrides_eq_ok_iff]
  simp only [checkPackage_eq_ok_iff]
  exact ⟨fun ⟨hpackage, hlevel, hidentifiers, hoverrides⟩ =>
      ⟨hpackage, hlevel, hidentifiers, hoverrides⟩,
    fun h => ⟨h.package, h.level, h.identifiers, h.overrides⟩⟩

theorem resolve_eq_ok_iff {c : ProjectConfig} {o : Overrides} {project : ResolvedProject} :
    c.resolve o = .ok project ↔
      (o.source <|> c.project.source) = some project.source ∧
      (o.basePackage <|> c.project.basePackage) = some project.basePackage ∧
      isPackage project.basePackage = true ∧
      project.output = (o.output <|> c.project.output).getD "generated" ∧
      project.format = (o.format <|> c.project.format).getD .java := by
  unfold resolve
  cases o.source <|> c.project.source with
  | none => simp [throw, throwThe, MonadExceptOf.throw]
  | some source =>
    cases o.basePackage <|> c.project.basePackage with
    | none => simp [throw, throwThe, MonadExceptOf.throw]
    | some package =>
      by_cases hpackage : isPackage package = true
      · simp only [checkPackage, if_pos hpackage]
        obtain ⟨source', output', package', format'⟩ := project
        constructor
        · rintro ⟨⟩
          exact ⟨rfl, rfl, hpackage, rfl, rfl⟩
        · rintro ⟨⟨⟩, ⟨⟩, -, rfl, rfl⟩
          rfl
      · simp only [checkPackage, if_neg hpackage]
        refine iff_of_false nofun ?_
        rintro ⟨-, hsome, hvalid, -, -⟩
        exact hpackage (Option.some.inj hsome ▸ hvalid)

end ProjectConfig

end ClientGen
