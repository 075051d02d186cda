/-!
# Environments

An environment gives some names a value. One may be given by pairs, the last pair of a
name counting, or by records: texts `name=value`, one for each variable, of which a name
finds the one that begins with it and an equals sign.
-/

namespace Provision

/-- A partial assignment of values to names. -/
structure Environment where
  lookup : String → Option String

namespace Environment

def empty : Environment :=
  ⟨fun _ => none⟩

/-- The environment in which each name has the value of its last pair. -/
def ofPairs (pairs : List (String × String)) : Environment :=
  ⟨fun name => (pairs.reverse.find? (·.1 == name)).map (·.2)⟩

/-- The value that a record holds for a name. -/
def recordValue? (name : String) (record : String × String) : Option String :=
  let record := record.1.toList ++ '=' :: record.2.toList
  ((name.toList ++ ['=']).isPrefixOf? record).map String.ofList

/-- The last record of each variable. -/
def lastRecords : List (String × String) → List (String × String)
  | [] => []
  | record :: rest =>
    if rest.any (·.1 == record.1) then lastRecords rest else record :: lastRecords rest

/-- The environment of a process whose variables were set in the order given, each to its
last value. A name with no characters has no value. -/
def ofRecords (records : List (String × String)) : Environment :=
  ⟨fun name =>
    if name.isEmpty then none else (lastRecords records).findSome? (recordValue? name)⟩

end Environment

end Provision
