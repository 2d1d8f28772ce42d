/-!
Fields of generated classes, which also serve as method parameters, and sets of fields in which
a name occurs once.
-/

namespace ClientGen

inductive Visibility
  | pub | priv | prot
deriving DecidableEq, Repr

def Visibility.keyword : Visibility → String
  | pub => "public"
  | priv => "private"
  | prot => "protected"

structure Field where
  name : String
  type : String
  visibility : Visibility := .priv
  /-- The field holds several values; `type` is then the type of the whole collection. -/
  collection : Bool := false
  /-- The name on the wire where it differs from `name`. -/
  serializedName : Option String := none
  description : Option String := none
deriving DecidableEq, Repr

namespace Field

def withSerializedName (f : Field) (name : String) : Field :=
  { f with serializedName := if name = f.name then none else some name }

def wireName (f : Field) : String := f.serializedName.getD f.name

/-- Fields of one name stand for the same field, whatever else they say. -/
def sameName (f g : Field) : Bool := f.name == g.name

end Field

structure FieldSet where
  toList : List Field := []
  distinct : (toList.map Field.name).Nodup := by simp
deriving DecidableEq

namespace FieldSet

def empty : FieldSet := {}

def get? (s : FieldSet) (name : String) : Option Field := s.toList.find? (·.name = name)

def contains (s : FieldSet) (name : String) : Bool := (s.get? name).isSome

theorem contains_iff {s : FieldSet} {name : String} :
    s.contains name = true ↔ name ∈ s.toList.map Field.name := by
  simp [contains, get?]

/-- A field whose name is taken is left out. -/
def insert (s : FieldSet) (f : Field) : FieldSet :=
  if h : s.contains f.name then s
  else
    { toList := s.toList ++ [f]
      distinct := by
        have := s.distinct
        rw [contains_iff] at h
        simp only [List.map_append, List.map_cons, List.map_nil]
        rw [List.nodup_append]
        refine ⟨this, by simp, ?_⟩
        intro a ha b hb
        obtain rfl : b = f.name := by simpa using hb
        exact fun e => h (e ▸ ha) }

def tryInsert (s : FieldSet) (f : Field) : Bool × FieldSet := (!s.contains f.name, s.insert f)

def size (s : FieldSet) : Nat := s.toList.length

def isEmpty (s : FieldSet) : Bool := s.toList.isEmpty

@[simp]
theorem toList_insert (s : FieldSet) (f : Field) :
    (s.insert f).toList = if s.contains f.name then s.toList else s.toList ++ [f] := by
  unfold insert
  split <;> simp_all

theorem insert_of_contains {s : FieldSet} {f : Field} (h : s.contains f.name = true) :
    s.insert f = s := dif_pos h

end FieldSet

end ClientGen
