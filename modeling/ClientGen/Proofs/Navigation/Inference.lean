import ClientGen.Proofs.Class.Signatures
import ClientGen.Proofs.ModelClass.Shape
import ClientGen.Proofs.Navigation.LongestSuffix

/-! The field that gives a segment its argument. The longest match is decided by names alone: field
names that end one type name, and are equally long, are the same. So the order in which the fields
of a model class were declared, and whatever else is said of them, does not show in its navigation
methods. -/

namespace ClientGen

open Naming

def Normal (fields : List Field) : Prop := ∀ f ∈ fields, Chars.IsFieldName f.name.toList

section Ties

variable {fields fields' : List Field} {typeName : String} {f g : Field}

theorem length_capitalize (h : Chars.IsFieldName f.name.toList) :
    (capitalize f.name).toList.length = f.size := by
  rw [capitalize, String.toList_ofList, h.length_capitalize, Field.size,
    utf8ByteSize_of_ascii h.ascii]

theorem name_eq_of_equally_long (hf : Chars.IsFieldName f.name.toList)
    (hg : Chars.IsFieldName g.name.toList) (hfe : f.Ends typeName) (hge : g.Ends typeName)
    (hsize : f.size = g.size) : f.name = g.name := by
  have hlength : (capitalize f.name).toList.length = (capitalize g.name).toList.length := by
    rw [length_capitalize hf, length_capitalize hg, hsize]
  -- of two ends of one name the longer ends in the shorter, and here neither is longer
  have hends := List.suffix_of_suffix_length_le hfe hge (Nat.le_of_eq hlength)
  exact capitalize_inj hf hg (String.toList_inj.mp (hends.eq_of_length hlength))

theorem ends_congr (h : f.name = g.name) : f.Ends typeName ↔ g.Ends typeName := by
  rw [Field.Ends, Field.Ends, h]

theorem longestName_eq_some (hn : Normal fields) (hn' : Normal fields')
    (hnames : ∀ name, name ∈ fields.map Field.name ↔ name ∈ fields'.map Field.name)
    (h : longestSuffixField? fields typeName = some f) :
    ∃ g, longestSuffixField? fields' typeName = some g ∧ g.name = f.name := by
  have hf := isFirstLongest_of_some h
  obtain ⟨f', hf', hname⟩ := List.mem_map.mp ((hnames f.name).mp (List.mem_map_of_mem hf.mem))
  have hends' := (ends_congr hname).mpr hf.ends
  cases hg : longestSuffixField? fields' typeName with
  | none => exact absurd hends' (longestSuffixField?_eq_none_iff.mp hg f' hf')
  | some g =>
    have hg := isFirstLongest_of_some hg
    obtain ⟨g', hg', hname'⟩ := List.mem_map.mp ((hnames g.name).mpr (List.mem_map_of_mem hg.mem))
    refine ⟨g, rfl, name_eq_of_equally_long (hn' g hg.mem) (hn f hf.mem) hg.ends hf.ends ?_⟩
    have hle : g.size ≤ f.size := by
      have := hf.longest g' hg' ((ends_congr hname').mpr hg.ends)
      rwa [Field.size, hname'] at this
    have hge : f.size ≤ g.size := by
      have := hg.longest f' hf' hends'
      rwa [Field.size, hname] at this
    exact Nat.le_antisymm hle hge

theorem longestName_congr (hn : Normal fields) (hn' : Normal fields')
    (hnames : ∀ name, name ∈ fields.map Field.name ↔ name ∈ fields'.map Field.name)
    (typeName : String) :
    (longestSuffixField? fields typeName).map Field.name =
      (longestSuffixField? fields' typeName).map Field.name := by
  cases h : longestSuffixField? fields typeName with
  | some f =>
    obtain ⟨g, hg, hname⟩ := longestName_eq_some hn hn' hnames h
    rw [hg, Option.map_some, Option.map_some, hname]
  | none =>
    cases h' : longestSuffixField? fields' typeName with
    | none => rfl
    | some g =>
      obtain ⟨f, hf, -⟩ := longestName_eq_some hn' hn (fun name => (hnames name).symm) h'
      exact absurd (h.symm.trans hf) (by simp)

end Ties

section Navigation

variable {fields fields' : List Field}

theorem segmentArgument?_eq (fields : List Field) (segment : String) :
    Navigation.segmentArgument? fields segment =
      if hasPlaceholder segment then
        some (((longestSuffixField? fields (typeName segment)).map Field.name).elim .null
          fun name => .call (.field name) "toString" [])
      else none := by
  unfold Navigation.segmentArgument?
  cases longestSuffixField? fields (typeName segment) <;> rfl

theorem navigation_congr (hn : Normal fields) (hn' : Normal fields')
    (hnames : ∀ name, name ∈ fields.map Field.name ↔ name ∈ fields'.map Field.name)
    (s : Session) (package : String) (relation : String × Json) :
    ModelClass.navigation s package fields relation =
      ModelClass.navigation s package fields' relation := by
  have hargument : Navigation.segmentArgument? fields = Navigation.segmentArgument? fields' := by
    funext segment
    rw [segmentArgument?_eq, segmentArgument?_eq, longestName_congr hn hn' hnames]
  unfold ModelClass.navigation ModelClass.pairAt Navigation.pair Navigation.chain
  rw [hargument]

end Navigation

def Json.keysAt (schema : Json) (part : String) : List String :=
  (((schema.get? part).bind Json.members?).getD []).map Prod.fst

namespace ModelClass

/-- What follows the accessors. -/
def navigationMethods (c : ClassDecl) : List Method := c.methods.drop (accessors c).length

/-- No two fields of the class are matches of the same length, so that any order of the fields
gives the same argument. -/
structure TieFree (c : ClassDecl) : Prop where
  unique : ∀ typeName, ∀ f ∈ c.fields.toList, ∀ g ∈ c.fields.toList, f.Ends typeName →
    g.Ends typeName → f.size = g.size → f = g
  reordered : ∀ fields, fields.Perm c.fields.toList → ∀ typeName,
    longestSuffixField? fields typeName = longestSuffixField? c.fields.toList typeName

variable {s : Session} {package entity : String} {m : ModelSchema} {c : ClassDecl}

theorem Made.tieFree (h : Made s package entity m c) : TieFree c := by
  have hn := h.isFieldName
  have same : ∀ f ∈ c.fields.toList, ∀ g ∈ c.fields.toList, f.name = g.name → f = g :=
    fun f hf g hg => List.inj_on_of_nodup_map c.fields.distinct hf hg
  constructor
  · intro typeName f hf g hg hfe hge hsize
    exact same f hf g hg (name_eq_of_equally_long (hn f hf) (hn g hg) hfe hge hsize)
  · intro fields hperm typeName
    have hn' : Normal fields := fun f hf => hn f (hperm.mem_iff.mp hf)
    have hnames : ∀ name, name ∈ fields.map Field.name ↔
        name ∈ c.fields.toList.map Field.name := fun name => (hperm.map Field.name).mem_iff
    cases hf : longestSuffixField? fields typeName with
    | none =>
      refine (longestSuffixField?_eq_none_iff.mpr (fun f hfc => ?_)).symm
      exact longestSuffixField?_eq_none_iff.mp hf f (hperm.mem_iff.mpr hfc)
    | some f =>
      obtain ⟨g, hg, hname⟩ := longestName_eq_some hn' hn hnames hf
      have hfc := hperm.mem_iff.mp (isFirstLongest_of_some hf).mem
      rw [hg, same g (isFirstLongest_of_some hg).mem f hfc hname]

theorem Made.navigationMethods_eq (h : Made s package entity m c) :
    navigationMethods c = m.relations.flatMap (navigation s package c.fields.toList) := by
  rw [navigationMethods, h.methods, List.drop_left]

theorem Made.methods_eq (h : Made s package entity m c) :
    c.methods = accessors c ++ navigationMethods c := by
  rw [h.navigationMethods_eq, h.methods]

theorem made_of_result {schema : Json}
    (h : ((parse package entity schema).run s).result = .ok c) :
    ∃ m, ModelSchema.read entity schema = .ok m ∧ Made s package entity m c := by
  match hrun : (parse package entity schema).run s, h with
  | ⟨_, _, .ok _⟩, rfl => exact made_of_parse hrun

/-- Schemas with the same relations, and with properties of the same names, make classes with the
same navigation methods, in whatever order the properties stand and whatever they say; and in no
such class does it matter which of several fields was declared first. -/
theorem navigation_of_property_names (s : Session) (package entity : String) (a b : Json)
    (hrelations : a.get? "$linkedData" = b.get? "$linkedData")
    (hkeys : ∀ key, key ∈ a.keysAt "properties" ↔ key ∈ b.keysAt "properties") (c d : ClassDecl)
    (hc : ((parse package entity a).run s).result = .ok c)
    (hd : ((parse package entity b).run s).result = .ok d) :
    c.methods = accessors c ++ navigationMethods c ∧
      d.methods = accessors d ++ navigationMethods d ∧
      navigationMethods c = navigationMethods d ∧ TieFree c := by
  obtain ⟨m, hm, hc⟩ := made_of_result hc
  obtain ⟨n, hn, hd⟩ := made_of_result hd
  obtain ⟨hmp, hmr⟩ := ModelSchema.read_eq_ok hm
  obtain ⟨hnp, hnr⟩ := ModelSchema.read_eq_ok hn
  have hnames : ∀ name, name ∈ c.fields.toList.map Field.name ↔
      name ∈ d.fields.toList.map Field.name := by
    intro name
    rw [hc.mem_names, hd.mem_names, hmp, hnp]
    exact exists_congr (fun key => and_congr_left (fun _ => hkeys key))
  refine ⟨hc.methods_eq, hd.methods_eq, ?_, hc.tieFree⟩
  rw [hc.navigationMethods_eq, hd.navigationMethods_eq, hmr, hnr, hrelations]
  congr 1
  funext relation
  exact navigation_congr hc.isFieldName hd.isFieldName hnames s package relation

def orderLinks : Json :=
  .object
    [("customer", .array [.text "Customers/{customerOrder}"]),
      ("lines", .array [.text "Orders/{order}", .text "Lines"])]

def placedOrder : Json :=
  .object
    [("properties", .object
      [("order", .object [("type", .text "integer")]), ("Order", .object []),
        ("customerOrder", .object [("type", .text "string")])]),
      ("$linkedData", orderLinks)]

def reorderedOrder : Json :=
  .object
    [("$linkedData", orderLinks),
      ("properties", .object
        [("customerOrder", .object []), ("Order", .object [("type", .text "array")]),
          ("order", .object [])])]

theorem navigation_of_reordered_order :
    ∃ c d, ((parse "api" "order" placedOrder).run (.new {} fun _ => none)).result = .ok c ∧
      ((parse "api" "order" reorderedOrder).run (.new {} fun _ => none)).result = .ok d ∧
      navigationMethods c = navigationMethods d ∧ TieFree c := by
  have made : ∀ schema, schema = placedOrder ∨ schema = reorderedOrder →
      ((parse "api" "order" schema).run (.new {} fun _ => none)).result.toOption.isSome = true := by
    rintro schema (rfl | rfl) <;> decide +kernel
  simp only [Option.isSome_iff_exists, toOption_eq_some] at made
  obtain ⟨c, hc⟩ := made placedOrder (.inl rfl)
  obtain ⟨d, hd⟩ := made reorderedOrder (.inr rfl)
  have hkeys : ∀ key, key ∈ placedOrder.keysAt "properties" ↔
      key ∈ reorderedOrder.keysAt "properties" := by
    intro key
    rw [show placedOrder.keysAt "properties" = ["order", "Order", "customerOrder"] by rfl,
      show reorderedOrder.keysAt "properties" = ["customerOrder", "Order", "order"] by rfl]
    simp only [List.mem_cons, List.not_mem_nil]
    tauto
  obtain ⟨-, -, hnavigation, htie⟩ :=
    navigation_of_property_names (.new {} fun _ => none) "api" "order" placedOrder reorderedOrder
      (by rfl) hkeys c d hc hd
  exact ⟨c, d, hc, hd, hnavigation, htie⟩

end ModelClass

end ClientGen
