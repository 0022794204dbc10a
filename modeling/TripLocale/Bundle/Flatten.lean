/-
A bundle as one list of texts under full keys.

Every text of the bundle is listed once, in order of presentation. Its full key is the keys on the way
joined by the separator, with the position in brackets for an item of a list, and position and field for
a choice.
-/
import TripLocale.Bundle.Basic
import TripLocale.KeyPath.Grammar

namespace TripLocale

/-- A key with a position in brackets. -/
def indexedKey (key : String) (i : Nat) : String := key ++ "[" ++ toString i ++ "]"

/-- The fields of a choice under a full key. -/
def Choice.flatten (key : String) (c : Choice) : List (String × String) :=
  [(indexedKey key 0, c.value), (indexedKey key 1, c.label)]

namespace Value

mutual

/-- The texts of the value under a full key. -/
def flatten (separator key : String) : Value → List (String × String)
  | text t => [(key, t)]
  | list items => items.mapIdx fun i t => (indexedKey key i, t)
  | choices cs => (cs.mapIdx fun i c => c.flatten (indexedKey key i)).flatten
  | bundle entries => flattenEntries separator (fun k => key ++ separator ++ k) entries

/-- The texts of entries, where `full` is the full key of an entry. -/
def flattenEntries (separator : String) (full : String → String) :
    List (String × Value) → List (String × String)
  | [] => []
  | (k, v) :: es => flatten separator (full k) v ++ flattenEntries separator full es

end

end Value

namespace Bundle

/-- All texts under their full keys. -/
def flatten (b : Bundle) (separator : String) : List (String × String) :=
  Value.flattenEntries separator id b.entries

/-- The texts at the full key `top` and below it. -/
def flattenUnder (b : Bundle) (top separator : String) : List (String × String) :=
  (b.flatten separator).filter fun e => e.1 == top || KeyPath.isChildKey e.1 top separator

end Bundle

end TripLocale
