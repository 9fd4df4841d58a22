/-!
# Lists Ordered by Key

Maps as lists of pairs with increasing keys.
-/

namespace BinaryLayout.Ordered

variable {κ ν : Type} [Ord κ]

/-- Puts a pair where its key belongs, in the place of a pair with the same key. -/
def insert (key : κ) (value : ν) : List (κ × ν) → List (κ × ν)
  | [] => [(key, value)]
  | (other, old) :: rest =>
    match compare key other with
    | .lt => (key, value) :: (other, old) :: rest
    | .eq => (key, value) :: rest
    | .gt => (other, old) :: insert key value rest

/-- Puts a pair where its key belongs, unless the key is there already. -/
def insertNew (key : κ) (value : ν) : List (κ × ν) → List (κ × ν)
  | [] => [(key, value)]
  | (other, old) :: rest =>
    match compare key other with
    | .lt => (key, value) :: (other, old) :: rest
    | .eq => (other, old) :: rest
    | .gt => (other, old) :: insertNew key value rest

/-- The pairs of a list in order. Of two with the same key the later is kept. -/
def ofList (pairs : List (κ × ν)) : List (κ × ν) :=
  pairs.foldl (fun ordered pair ↦ insert pair.1 pair.2 ordered) []

end BinaryLayout.Ordered
