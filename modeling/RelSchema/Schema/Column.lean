import RelSchema.Fault

/-!
Columns of a table.
-/
namespace RelSchema

/-- A column. Its type is spelled as its source spells it, and its default is the bare literal. -/
structure Column where
  name : String
  type : String := ""
  declaredType : Option String := none
  isPrimaryKey : Bool := false
  isNullable : Bool := true
  isForeignKey : Bool := false
  foreignTable : Option String := none
  foreignKey : Option String := none
  defaultValue : Option String := none
  deriving DecidableEq, Repr

def isGiven : Option String → Bool
  | none => false
  | some text => text != ""

namespace Column

/-- A column is foreign exactly if it names the table it refers to. -/
def Consistent (column : Column) : Prop :=
  column.isForeignKey = isGiven column.foreignTable

instance (column : Column) : Decidable column.Consistent :=
  inferInstanceAs (Decidable (_ = _))

def problem? (column : Column) : Option Problem :=
  if column.Consistent then none
  else some (.violated ("Column '" ++ column.name ++ "': is_foreign_key requires foreign_table " ++
    "(and foreign_table requires is_foreign_key)"))

def asForeignKey (column : Column) (table : String) (key : Option String) : Column :=
  { column with isForeignKey := true, foreignTable := some table, foreignKey := key }

def asPrimaryKey (column : Column) : Column :=
  { column with isPrimaryKey := true, isNullable := false }

end Column

end RelSchema
