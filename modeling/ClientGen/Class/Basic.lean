import ClientGen.Class.Expr
import ClientGen.Class.Field

/-!
Generated classes: what an emitter needs to know to write one. Method bodies are statements, not
text, so that every output format can render them.
-/

namespace ClientGen

inductive Statement
  /-- Assigns to a field of the owning instance. -/
  | assign (field : String) (value : Expr)
  | returns (value : Expr)
deriving DecidableEq

structure Method where
  name : String
  /-- Nothing is returned where this is `none`. -/
  returnType : Option String := none
  visibility : Visibility := .pub
  parameters : List Field := []
  body : List Statement := []
deriving DecidableEq

namespace Method

def arity (m : Method) : Nat := m.parameters.length

/-- Equal methods, where parameters count as equal when their names are. -/
def alike (m n : Method) : Bool :=
  m.name == n.name && m.returnType == n.returnType && m.visibility == n.visibility &&
    m.parameters.map Field.name == n.parameters.map Field.name && m.body == n.body

end Method

structure ClassDecl where
  packageName : String
  className : String
  documentation : String := ""
  fields : FieldSet := .empty
  methods : List Method := []
  interfaces : List String := []
deriving DecidableEq

namespace ClassDecl

def canonicalName (c : ClassDecl) : String := c.packageName ++ "." ++ c.className

def head (c : ClassDecl) : ClassDecl := { c with fields := .empty, methods := [] }

def addField (c : ClassDecl) (f : Field) : ClassDecl := { c with fields := c.fields.insert f }

def tryAddField (c : ClassDecl) (f : Field) : Bool × ClassDecl :=
  let (added, fields) := c.fields.tryInsert f
  (added, { c with fields })

def addMethod (c : ClassDecl) (m : Method) : ClassDecl := { c with methods := c.methods ++ [m] }

def addMethods (c : ClassDecl) (ms : List Method) : ClassDecl :=
  { c with methods := c.methods ++ ms }

def addInterface (c : ClassDecl) (i : String) : ClassDecl :=
  { c with interfaces := c.interfaces ++ [i] }

def methodsNamed (c : ClassDecl) (name : String) : List Method :=
  c.methods.filter (·.name = name)

@[simp]
theorem head_addField (c : ClassDecl) (f : Field) : (c.addField f).head = c.head := rfl

theorem tryAddField_eq (c : ClassDecl) (f : Field) :
    c.tryAddField f = (!c.fields.contains f.name, c.addField f) := rfl

theorem addField_of_contains {c : ClassDecl} {f : Field} (h : c.fields.contains f.name = true) :
    c.addField f = c := by
  rw [addField, FieldSet.insert_of_contains h]

@[simp]
theorem head_addMethods (c : ClassDecl) (ms : List Method) : (c.addMethods ms).head = c.head := rfl

theorem canonicalName_eq_of_head {c d : ClassDecl} (h : c.head = d.head) :
    c.canonicalName = d.canonicalName :=
  show c.head.canonicalName = d.head.canonicalName from congrArg _ h

theorem packageName_eq_of_head {c d : ClassDecl} (h : c.head = d.head) :
    c.packageName = d.packageName :=
  show c.head.packageName = d.head.packageName from congrArg _ h

theorem className_eq_of_head {c d : ClassDecl} (h : c.head = d.head) :
    c.className = d.className :=
  show c.head.className = d.head.className from congrArg _ h

end ClassDecl

end ClientGen
