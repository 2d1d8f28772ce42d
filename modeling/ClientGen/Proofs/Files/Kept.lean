import ClientGen.Files.Basic
import ClientGen.Proofs.Files.Place

/-! What updates of a file tree leave alone. A write changes the place of its path only, and making
directories changes nothing that is there. So a file can be read back until its own place is written
again. -/

namespace ClientGen

theorem run_bind_of_run {σ α β : Type} {b : StateM σ α} {f : α → StateM σ β} {a : α} {w w' : σ}
    (h : b.run w = (a, w')) : (b >>= f).run w = (f a).run w' := by
  rw [StateT.run_bind, h]
  rfl

namespace FileTree

/-- Apart from the places, only directories are new. Directories stay. -/
structure Kept (written : List (List String)) (before after : FileTree) : Prop where
  home : after.home = before.home
  directories : ∀ place, before.node? place = some .directory →
    after.node? place = some .directory
  others : ∀ place ∉ written, after.node? place = before.node? place ∨
    before.node? place = none ∧ after.node? place = some .directory

variable {t t' t'' : FileTree} {written more : List (List String)} {path : String}
  {content : ByteArray} {place q : List String}

theorem Kept.refl (t : FileTree) : Kept [] t t := ⟨rfl, fun _ h => h, fun _ _ => .inl rfl⟩

theorem Kept.trans (h : Kept written t t') (h' : Kept more t' t'') :
    Kept (written ++ more) t t'' := by
  refine ⟨h'.home.trans h.home, fun place hplace => ?_, fun place hplace => ?_⟩
  · exact h'.directories place (h.directories place hplace)
  · rw [List.mem_append, not_or] at hplace
    rcases h'.others place hplace.2 with hsame' | ⟨hnone', hnew'⟩
    · rw [hsame']
      exact h.others place hplace.1
    · rcases h.others place hplace.1 with hsame | ⟨-, hnew⟩
      · exact .inr ⟨hsame ▸ hnone', hnew'⟩
      · rw [hnew] at hnone'
        cases hnone'

theorem Kept.walk {parts : List String} (h : Kept written t t') (hq : t.walk place parts = .ok q) :
    t'.walk place parts = .ok q := by
  induction parts generalizing place with
  | nil => exact hq
  | cons part rest ih =>
    obtain ⟨hplace, hshort, hrest⟩ := walk_cons_eq_ok_iff.mp hq
    exact walk_cons_eq_ok_iff.mpr ⟨h.directories place hplace, hshort, ih hrest⟩

theorem Kept.locate (h : Kept written t t') (hq : t.locate path = .ok q) :
    t'.locate path = .ok q := by
  obtain ⟨hvalid, hwalk⟩ := locateParts_eq_ok_iff.mp hq
  refine locateParts_eq_ok_iff.mpr ⟨hvalid, ?_⟩
  rw [h.home]
  exact h.walk hwalk

theorem read_eq_ok_iff : t.read path = .ok content ↔
    t.locate path = .ok (t.resolve path) ∧ t.node? (t.resolve path) = some (.file content) := by
  unfold read
  cases hq : t.locate path with
  | error fault => exact iff_of_false (by rintro ⟨⟩) (by rintro ⟨⟨⟩, -⟩)
  | ok q =>
    obtain rfl := locate_eq_ok hq
    simp only [bind, Except.bind]
    cases t.node? (t.resolve path) with
    | none => simp [throw, throwThe, MonadExceptOf.throw]
    | some node => cases node <;> simp [throw, throwThe, MonadExceptOf.throw, pure, Except.pure]

theorem Kept.read (h : Kept written t t') (hread : t.read path = .ok content)
    (hplace : t.resolve path ∉ written) : t'.read path = .ok content := by
  obtain ⟨hlocate, hnode⟩ := read_eq_ok_iff.mp hread
  rw [read_eq_ok_iff, resolve_eq_of_home h.home]
  refine ⟨h.locate hlocate, ?_⟩
  rcases h.others _ hplace with hsame | ⟨hnone, -⟩
  · rw [hsame, hnode]
  · rw [hnode] at hnone
    cases hnone

theorem kept_put (n : Node) (hplace : t.node? place ≠ some .directory) :
    Kept [place] t (t.put place n) := by
  have hroot : place ≠ [] := by
    rintro rfl
    exact hplace rfl
  refine ⟨rfl, fun other hother => ?_, fun other hother => .inl ?_⟩
  · rw [node?_put t hroot, if_neg (by rintro rfl; exact hplace hother), hother]
  · rw [node?_put t hroot, if_neg (mt List.mem_singleton.mpr hother)]

theorem kept_of_createDirectory (h : t.createDirectory path = .ok t') : Kept [] t t' := by
  unfold createDirectory at h
  cases hq : t.locateParts path ((Path.parts path).reverse.dropWhile (· = "")).reverse with
  | error fault =>
    rw [hq] at h
    cases h
  | ok place =>
    rw [hq] at h
    simp only [bind, Except.bind] at h
    split at h
    · cases h
    · rename_i hnone
      obtain rfl := Except.ok.inj h
      have hkept := kept_put .directory (by rw [hnone]; simp : t.node? place ≠ some .directory)
      -- the place itself is new, so that it need not be given as written
      refine ⟨rfl, hkept.directories, fun other _ => ?_⟩
      by_cases hother : other ∈ [place]
      · obtain rfl := List.mem_singleton.mp hother
        have hroot : other ≠ [] := by
          rintro rfl
          cases hnone
        exact .inr ⟨hnone, by rw [node?_put t hroot, if_pos rfl]⟩
      · exact hkept.others other hother

theorem write_eq_ok (h : t.write path content = .ok t') :
    Kept [t.resolve path] t t' ∧ t'.read path = .ok content := by
  unfold write at h
  cases hq : t.locate path with
  | error fault =>
    rw [hq] at h
    cases h
  | ok place =>
    rw [hq] at h
    obtain rfl := locate_eq_ok hq
    simp only [bind, Except.bind] at h
    split at h
    · cases h
    · rename_i hnode
      obtain rfl := Except.ok.inj h
      have hkept := kept_put (.file content) hnode
      have hroot : t.resolve path ≠ [] := by
        intro hroot
        exact hnode (by rw [hroot]; rfl)
      refine ⟨hkept, read_eq_ok_iff.mpr ?_⟩
      rw [resolve_eq_of_home hkept.home]
      exact ⟨hkept.locate hq, by rw [node?_put t hroot, if_pos rfl]⟩

theorem run_updating (update : FileTree → Except IoFault FileTree) (t : FileTree) :
    (updating update).run t =
      match update t with
      | .ok t' => (.ok (), t')
      | .error fault => (.error fault, t) := by
  unfold updating
  rw [StateT.run_bind, StateT.run_get, pure_bind]
  cases update t <;> rfl

def Keeps {α : Type} (b : StateM FileTree α) : Prop := ∀ t, Kept [] t (b.run t).2

section Keeps

variable {α β : Type}

theorem keeps_pure (a : α) : Keeps (pure a) := fun t => .refl t

theorem Keeps.bind {b : StateM FileTree α} {f : α → StateM FileTree β} (hb : Keeps b)
    (hf : ∀ a, Keeps (f a)) : Keeps (b >>= f) :=
  fun t => (hb t).trans (hf _ _)

theorem keeps_isDirectory (path : String) : Keeps (Files.isDirectory path) := fun t => .refl t

theorem keeps_createDirectory (path : String) : Keeps (Files.createDirectory path) := by
  intro t
  change Kept [] t ((updating (·.createDirectory path)).run t).2
  rw [run_updating]
  split <;> rename_i hcreate
  · exact kept_of_createDirectory hcreate
  · exact .refl t

theorem keeps_ensureDirectory (path : String) : Keeps (Files.ensureDirectory path) := by
  refine (keeps_createDirectory path).bind (fun result => ?_)
  split
  · refine (keeps_isDirectory path).bind (fun present => ?_)
    split <;> exact keeps_pure _
  · exact keeps_pure _

theorem keeps_missing? (above below : List String) : Keeps (Files.missing? below above) := by
  induction above generalizing below with
  | nil => exact keeps_pure _
  | cons path above ih =>
    refine (keeps_ensureDirectory path).bind (fun result => ?_)
    split
    · exact keeps_pure _
    · exact ih _
    · exact keeps_pure _

theorem keeps_ensureEach (paths : List String) : Keeps (Files.ensureEach paths) := by
  induction paths with
  | nil => exact keeps_pure _
  | cons path rest ih =>
    refine (keeps_ensureDirectory path).bind (fun result => ?_)
    split
    · exact ih
    · exact keeps_pure _

theorem keeps_createDirectories (path : String) : Keeps (Files.createDirectories path) := by
  refine (keeps_missing? (Path.withAbove path) []).bind (fun result => ?_)
  split
  · exact keeps_ensureEach _
  · exact keeps_pure _

end Keeps

end FileTree

end ClientGen
