import ColumnStore.Bytes

/-!
# Table descriptors

A table has a name and column families, each of which retains a number of versions of a column.
-/

namespace ColumnStore

structure FamilyDescriptor where
  name : Bytes
  maxVersions : Nat := 1
  deriving DecidableEq

namespace FamilyDescriptor

/-- The same family with another number of versions, at least one. -/
def withMaxVersions (f : FamilyDescriptor) (versions : Nat) : FamilyDescriptor :=
  { f with maxVersions := max versions 1 }

end FamilyDescriptor

/-- A table: its name and its families. Of several with one name the first one counts. -/
structure TableDescriptor where
  name : String
  families : List FamilyDescriptor := []
  deriving DecidableEq

namespace TableDescriptor

def family? (t : TableDescriptor) (name : Bytes) : Option FamilyDescriptor :=
  t.families.find? (·.name = name)

def undeclared? (t : TableDescriptor) (families : List Bytes) : Option Bytes :=
  families.find? fun name ↦ (t.family? name).isNone

end TableDescriptor

end ColumnStore
