import RelSchema.Schema.Column

/-!
Named associations between tables.
-/
namespace RelSchema

inductive RelationKind
  /-- The foreign key lies on the target table. -/
  | hasOne
  /-- The foreign key lies on this table. -/
  | belongsTo
  | hasMany
  /-- A table between the two holds the foreign keys. -/
  | manyToMany
  deriving DecidableEq, Repr

namespace RelationKind

def name : RelationKind → String
  | hasOne => "has_one"
  | belongsTo => "belongs_to"
  | hasMany => "has_many"
  | manyToMany => "many_to_many"

def ofName? : String → Option RelationKind
  | "has_one" => some hasOne
  | "belongs_to" => some belongsTo
  | "has_many" => some hasMany
  | "many_to_many" => some manyToMany
  | _ => none

end RelationKind

structure Relation where
  name : String
  kind : RelationKind
  table : String
  foreignKey : String := ""
  referenceKey : String := ""
  joinTable : Option String := none
  deriving DecidableEq, Repr

namespace Relation

/-- A relation names a table in between exactly if it needs one. -/
def Consistent (relation : Relation) : Prop :=
  (relation.kind == .manyToMany) = isGiven relation.joinTable

instance (relation : Relation) : Decidable relation.Consistent :=
  inferInstanceAs (Decidable (_ = _))

def problem? (relation : Relation) : Option Problem :=
  if relation.Consistent then none
  else some (.violated ("Relation '" ++ relation.name ++ "': join_table is required for " ++
    RelationKind.manyToMany.name ++ " and only allowed there"))

end Relation

end RelSchema
