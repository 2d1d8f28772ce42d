import ClientGen.Document.Basic
import ClientGen.Proofs.Dict.Sorted

/-! Documents that were read from a text. The actions of a resource are sorted by their verbs. -/

namespace ClientGen

namespace Decode

variable {ν α : Type} {read : ν → Option α}

theorem defaulted?_eq_some {fields : List (String × ν)} {key : String} {default a : α}
    (h : defaulted? read fields key default = some a) :
    a = default ∨ ∃ v, read v = some a := by
  unfold defaulted? at h
  split at h
  · rename_i v _
    exact .inr ⟨v, h⟩
  · exact .inl (Option.some.inj h).symm

theorem mem_of_mapM {vs : List ν} {as : List α} (h : vs.mapM read = some as) :
    ∀ a ∈ as, ∃ v, read v = some a := by
  induction vs generalizing as with
  | nil =>
    obtain rfl := Option.some.inj h
    exact fun a ha => absurd ha List.not_mem_nil
  | cons v vs ih =>
    rw [List.mapM_cons] at h
    obtain ⟨a, ha, h⟩ := Option.bind_eq_some_iff.mp h
    obtain ⟨rest, hrest, h⟩ := Option.bind_eq_some_iff.mp h
    obtain rfl := Option.some.inj h
    intro b hb
    rcases List.mem_cons.mp hb with rfl | hb
    · exact ⟨v, ha⟩
    · exact ih hrest b hb

theorem mem_of_list? [Structured ν] {v : ν} {as : List α} (h : list? read v = some as) :
    ∀ a ∈ as, ∃ v, read v = some a := by
  obtain ⟨vs, -, hvs⟩ := Option.bind_eq_some_iff.mp h
  exact mem_of_mapM hvs

end Decode

namespace Document

open Dict

variable {t : Json.Tree} {d : Document} {r : Resource}

theorem byteOrdered_of_readResource? (h : readResource? t = some r) :
    ByteOrdered (r.actions.map Prod.fst) := by
  unfold readResource? at h
  obtain ⟨fields, -, h⟩ := Option.bind_eq_some_iff.mp h
  obtain ⟨uri, -, h⟩ := Option.bind_eq_some_iff.mp h
  obtain ⟨description, -, h⟩ := Option.bind_eq_some_iff.mp h
  obtain ⟨actions, -, h⟩ := Option.bind_eq_some_iff.mp h
  obtain rfl := Option.some.inj h
  exact byteOrdered_sortedOfList actions

theorem exists_readResource? (h : ofTree? t = some d) (hr : r ∈ d.resources) :
    ∃ t, readResource? t = some r := by
  unfold ofTree? at h
  obtain ⟨fields, -, h⟩ := Option.bind_eq_some_iff.mp h
  obtain ⟨title, -, h⟩ := Option.bind_eq_some_iff.mp h
  obtain ⟨baseUri, -, h⟩ := Option.bind_eq_some_iff.mp h
  obtain ⟨schemas, -, h⟩ := Option.bind_eq_some_iff.mp h
  obtain ⟨resources, hresources, h⟩ := Option.bind_eq_some_iff.mp h
  obtain rfl := Option.some.inj h
  rcases Decode.defaulted?_eq_some hresources with rfl | ⟨v, hv⟩
  · exact absurd hr List.not_mem_nil
  · exact Decode.mem_of_list? hv r hr

theorem byteOrdered_of_read? {bytes : List UInt8} (h : read? bytes = some d) :
    ∀ r ∈ d.resources, ByteOrdered (r.actions.map Prod.fst) := by
  intro r hr
  obtain ⟨t, -, ht⟩ := Option.bind_eq_some_iff.mp h
  obtain ⟨u, hu⟩ := exists_readResource? ht hr
  exact byteOrdered_of_readResource? hu

end Document

end ClientGen
