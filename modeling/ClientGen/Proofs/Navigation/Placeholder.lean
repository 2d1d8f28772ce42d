import ClientGen.Proofs.Navigation.Calls
import ClientGen.Proofs.Navigation.Inference

/-! The argument for a placeholder that holds the key of a property. The field of the property
matches the segment, so that some field as long is taken; but a key that starts with a digit has an
underscore before its field name, and then the field matches nothing. -/

namespace ClientGen

open Naming
open JavaSource (chainCalls)

section Longest

variable {fields : List Field} {typeName : String} {f : Field}

theorem exists_longestSuffixField? (hf : f ∈ fields) (hends : f.Ends typeName) :
    ∃ g, longestSuffixField? fields typeName = some g ∧ g ∈ fields ∧ f.size ≤ g.size := by
  cases hg : longestSuffixField? fields typeName with
  | none => exact absurd hends (longestSuffixField?_eq_none_iff.mp hg f hf)
  | some g =>
    have hlongest := isFirstLongest_of_some hg
    exact ⟨g, rfl, hlongest.mem, hlongest.longest f hf hends⟩

theorem longestSuffixField?_filter {keep : Field → Bool}
    (h : ∀ f ∈ fields, keep f = false → ¬ f.Ends typeName) :
    longestSuffixField? (fields.filter keep) typeName = longestSuffixField? fields typeName := by
  have hsame : (fields.filter keep).filter (fun f => decide (f.Ends typeName)) =
      fields.filter fun f => decide (f.Ends typeName) := by
    rw [List.filter_filter]
    refine List.filter_congr fun f hf => ?_
    cases hkeep : keep f with
    | true => rw [Bool.and_true]
    | false => rw [Bool.and_false, decide_eq_false (h f hf hkeep)]
  rw [longestSuffixField?_eq, longestSuffixField?_eq, hsame]

end Longest

namespace Navigation

variable {fields : List Field} {key : String} {first : Char}

theorem braced_placeholder (text key : String) :
    hasPlaceholder (text ++ "\x7b" ++ key ++ "\x7d") = true :=
  hasPlaceholder_iff.mpr ⟨text, key, "", by rw [String.append_empty]⟩

/-- The argument for a placeholder that stands at the end of a segment and holds the key: the text of
a field with a name as long as the key's or longer; or, where the key starts with a digit, what it
would be if the key had no field. -/
inductive KeyArgument (fields : List Field) (key segment : String) : Prop
  | letter {first : Char} (hfirst : key.toList.find? Char.isAlphanum = some first)
    (hletter : first.isAlpha = true) {f : Field} (hf : f ∈ fields)
    (hsize : (fieldName key).utf8ByteSize ≤ f.name.utf8ByteSize)
    (h : segmentArgument? fields segment = some (.call (.field f.name) "toString" [])) :
    KeyArgument fields key segment
  | digit {first : Char} (hfirst : key.toList.find? Char.isAlphanum = some first)
    (hdigit : first.isDigit = true) (hown : fieldName key ∈ fields.map Field.name)
    (h : segmentArgument? fields segment =
      segmentArgument? (fields.filter (·.name ≠ fieldName key)) segment) :
    KeyArgument fields key segment

theorem segmentArgument?_of_letter (hfirst : key.toList.find? Char.isAlphanum = some first)
    (hletter : first.isAlpha = true) (hown : fieldName key ∈ fields.map Field.name)
    (text : String) :
    ∃ f ∈ fields, (fieldName key).utf8ByteSize ≤ f.name.utf8ByteSize ∧
      segmentArgument? fields (text ++ "\x7b" ++ key ++ "\x7d") =
        some (.call (.field f.name) "toString" []) := by
  obtain ⟨own, hmem, hname⟩ := List.mem_map.mp hown
  have hends : own.Ends (typeName (text ++ "\x7b" ++ key ++ "\x7d")) := by
    rw [Field.Ends, hname, capitalize_fieldName hfirst hletter, typeName_placeholder,
      String.toList_append]
    exact List.suffix_append ..
  obtain ⟨f, hf, hmem, hsize⟩ := exists_longestSuffixField? hmem hends
  refine ⟨f, hmem, hname ▸ hsize, ?_⟩
  rw [segmentArgument?_eq, if_pos (braced_placeholder text key), hf]
  rfl

theorem segmentArgument?_of_digit (hfirst : key.toList.find? Char.isAlphanum = some first)
    (hdigit : first.isDigit = true) (segment : String) :
    segmentArgument? fields segment =
      segmentArgument? (fields.filter (·.name ≠ fieldName key)) segment := by
  have hunused : ∀ f ∈ fields, decide (f.name ≠ fieldName key) = false →
      ¬ f.Ends (typeName segment) := by
    intro f _ hname
    rw [Field.Ends, not_not.mp (of_decide_eq_false hname)]
    exact not_suffix_of_digit hfirst hdigit
  rw [segmentArgument?_eq, segmentArgument?_eq, longestSuffixField?_filter hunused]

end Navigation

namespace ModelClass

open Navigation

variable {s : Session} {package entity : String} {m : ModelSchema} {c : ClassDecl}

theorem Made.keyArgument (h : Made s package entity m c) {key : String}
    (hkey : key ∈ m.properties.map Prod.fst) (text : String) :
    KeyArgument c.fields.toList key (text ++ "\x7b" ++ key ++ "\x7d") := by
  have hown : fieldName key ∈ c.fields.toList.map Field.name := h.mem_names.mpr ⟨key, hkey, rfl⟩
  have hname : fieldName key ≠ "" := by
    obtain ⟨f, hf, hfname⟩ := List.mem_map.mp hown
    obtain ⟨a, rest, hchars, -⟩ := (h.isFieldName f hf).head
    intro hempty
    rw [hfname, hempty] at hchars
    cases hchars
  obtain ⟨first, hfirst⟩ := exists_first_of_fieldName hname
  have hclass : first.isAlphanum = true := List.find?_some hfirst
  rw [Char.isAlphanum, Bool.or_eq_true] at hclass
  rcases hclass with hletter | hdigit
  · obtain ⟨f, hf, hsize, hargument⟩ := segmentArgument?_of_letter hfirst hletter hown text
    exact .letter hfirst hletter hf hsize hargument
  · exact .digit hfirst hdigit hown (segmentArgument?_of_digit hfirst hdigit _)

structure Navigated (s : Session) (c : ClassDecl) (relation : String × Json)
    (path : List String) : Prop where
  leads : path? relation.2 = some path
  methods : ∃ p start parameter, p.derived ∈ c.methods ∧ p.explicit ∈ c.methods ∧
    Paired s.settings path start parameter p ∧ chainCalls start = path.map fun segment =>
      (segmentMethod segment, (segmentArgument? c.fields.toList segment).toList)

theorem Made.navigated (h : Made s package entity m c) {relation : String × Json}
    (hrelation : relation ∈ m.relations) : ∃ path, Navigated s c relation path := by
  obtain ⟨p, hp⟩ := Option.isSome_iff_exists.mp (h.paths relation hrelation)
  have hmem : ∀ method, method = p.derived ∨ method = p.explicit → method ∈ c.methods := by
    intro method hmethod
    rw [h.methods]
    refine List.mem_append_right _ (List.mem_flatMap.mpr ⟨relation, hrelation, ?_⟩)
    exact mem_navigation.mpr ⟨p, hp, hmethod⟩
  obtain ⟨path, last, hpath, -, rfl⟩ := pairAt_eq_some hp
  exact ⟨path, hpath, _, _, _, hmem _ (.inl rfl), hmem _ (.inr rfl), paired_pair ..,
    chainCalls_chain ..⟩

/-- In a class made of a schema, a segment that ends in the key of a property, put in braces, has the
text of a field for its argument, unless the key starts with a digit; and the calls that the
navigation methods make have these arguments. -/
theorem argument_of_declared_key (s : Session) (package entity : String) (schema : Json)
    (c : ClassDecl) (h : ((parse package entity schema).run s).result = .ok c) :
    (∀ relation ∈ (ModelSchema.parts schema).relations, ∃ path, Navigated s c relation path) ∧
      ∀ key ∈ schema.keysAt "properties", ∀ text,
        KeyArgument c.fields.toList key (text ++ "\x7b" ++ key ++ "\x7d") := by
  obtain ⟨m, hm, hmade⟩ := made_of_result h
  obtain ⟨-, rfl⟩ := ModelSchema.read_eq_ok_iff.mp hm
  exact ⟨fun relation hrelation => hmade.navigated hrelation,
    fun key hkey text => hmade.keyArgument hkey text⟩

def codedUser : Json :=
  .object
    [("properties", .object [("User-Id", .object []), ("2fa", .object [])]),
      ("$linkedData", .object
        [("user", .array [.text "Users/{User-Id}"]), ("codes", .array [.text "Codes/{2fa}"])])]

theorem argument_of_codedUser :
    ∃ c, ((parse "api" "user" codedUser).run (.new {} fun _ => none)).result = .ok c ∧
      (∀ relation ∈ (ModelSchema.parts codedUser).relations, ∃ path,
        Navigated (.new {} fun _ => none) c relation path) ∧
      ∀ key ∈ ["User-Id", "2fa"], ∀ text,
        KeyArgument c.fields.toList key (text ++ "\x7b" ++ key ++ "\x7d") := by
  have made : ((parse "api" "user" codedUser).run
      (.new {} fun _ => none)).result.toOption.isSome = true := by decide +kernel
  simp only [Option.isSome_iff_exists, toOption_eq_some] at made
  obtain ⟨c, hc⟩ := made
  obtain ⟨hnavigated, hargument⟩ :=
    argument_of_declared_key (.new {} fun _ => none) "api" "user" codedUser c hc
  exact ⟨c, hc, hnavigated, hargument⟩

theorem digit_key_without_argument :
    ∃ c, ((parse "api" "user" codedUser).run (.new {} fun _ => none)).result = .ok c ∧
      "2fa" ∈ codedUser.keysAt "properties" ∧
      segmentArgument? c.fields.toList "Codes/{2fa}" = some .null ∧
      ∃ method ∈ c.methods, method.name = "getCodes" ∧ method.body = [.returns
        (.call (.call (.staticCall "api.service.ApiMapService" "instance" []) "codes2fa" [.null])
          "httpGet" [])] := by
  have run : (((parse "api" "user" codedUser).run (.new {} fun _ => none)).result.toOption.any
      fun c => segmentArgument? c.fields.toList "Codes/{2fa}" = some .null &&
        c.methods.any fun method => method.name = "getCodes" && method.body = [.returns
          (.call (.call (.staticCall "api.service.ApiMapService" "instance" []) "codes2fa" [.null])
            "httpGet" [])]) = true := by
    decide +kernel
  obtain ⟨c, hc, run⟩ := exists_of_any_toOption run
  rw [Bool.and_eq_true, decide_eq_true_eq, List.any_eq_true] at run
  obtain ⟨hnull, method, hmethod, hbody⟩ := run
  rw [Bool.and_eq_true, decide_eq_true_eq, decide_eq_true_eq] at hbody
  exact ⟨c, hc, by decide, hnull, method, hmethod, hbody⟩

end ModelClass

end ClientGen
