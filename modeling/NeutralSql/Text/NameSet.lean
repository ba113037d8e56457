/-!
# Sets of names

A set of names is a list that is strictly sorted by code points, which is the order of
the UTF-8 bytes as well.
-/

namespace NeutralSql.Text

/-- Insert a name into a sorted list that may hold it already. -/
def insertName (name : String) : List String → List String
  | [] => [name]
  | other :: rest =>
    if name < other then name :: other :: rest
    else if name = other then other :: rest
    else other :: insertName name rest

/-- The sorted list of the names in a list, each of them once. -/
def nameSet (names : List String) : List String :=
  names.foldr insertName []

end NeutralSql.Text
