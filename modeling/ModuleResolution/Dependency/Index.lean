import ModuleResolution.Table
import ModuleResolution.Dependency.Target

/-!
# The dependency index

The index holds one record per file: the target of every module reference in it.
Records are replaced as a whole. Each change tells whether it took effect: adding
keeps the record of a file that is indexed already, updating and removing need
one.
-/

set_option autoImplicit false

namespace ModuleResolution.Dependency

/-- The targets of the references in one file. -/
abbrev Record := Table Target

/-- Two records hold the same targets under the same references. -/
def Record.same (r s : Record) : Bool := Table.agrees Target.same r s

/-- The records of files. -/
structure Index where
  records : Table Record
  deriving Repr, Inhabited

namespace Index

/-- No records. -/
def empty : Index := ⟨[]⟩

/-- The record of a file. -/
def get? (index : Index) (file : String) : Option Record := index.records.get? file

/-- Whether a file is indexed. -/
def has (index : Index) (file : String) : Bool := index.records.has file

/-- The indexed files in the order in which they were added. -/
def files (index : Index) : List String := index.records.keys

/-- How many files are indexed. -/
def size (index : Index) : Nat := index.records.length

/-- Adds the record of a file that is not indexed yet. -/
def add (index : Index) (file : String) (record : Record) : Bool × Index :=
  if index.has file then (false, index) else (true, ⟨index.records.insert file record⟩)

/-- Replaces the record of an indexed file. -/
def update (index : Index) (file : String) (record : Record) : Bool × Index :=
  if index.has file then (true, ⟨index.records.insert file record⟩) else (false, index)

/-- Removes an indexed file. -/
def remove (index : Index) (file : String) : Bool × Index :=
  if index.has file then (true, ⟨index.records.erase file⟩) else (false, index)

end Index

end ModuleResolution.Dependency
