/-!
# Page Stores

A store keeps pages under their numbers, as many as it has room for. Pages in a list make one, in which
the page that was used longest ago makes room for a new one.
-/

namespace BinaryLayout

class PageStore (τ : Type) where
  /-- A store without pages, with room for a number of them. -/
  empty : Nat → τ
  capacity : τ → Nat
  /-- The pages by number, the one used last first. -/
  pages : τ → List (Nat × List UInt8)
  /-- A page that is kept, with the store after its use. -/
  get? : τ → Nat → Option (List UInt8 × τ)
  /-- The store after a page was added to it and used. -/
  insert : τ → Nat → List UInt8 → τ

/-- Pages in a list, the one used last first. -/
structure RecentPages where
  capacity : Nat
  pages : List (Nat × List UInt8) := []

namespace RecentPages

def get? (store : RecentPages) (number : Nat) : Option (List UInt8 × RecentPages) :=
  (store.pages.lookup number).map fun bytes ↦
    (bytes, { store with pages := (number, bytes) :: store.pages.filter fun page ↦ page.1 != number })

/-- The page used longest ago makes room. -/
def insert (store : RecentPages) (number : Nat) (bytes : List UInt8) : RecentPages :=
  { store with pages := ((number, bytes) :: store.pages).take store.capacity }

instance : PageStore RecentPages where
  empty capacity := { capacity }
  capacity := RecentPages.capacity
  pages := RecentPages.pages
  get? := RecentPages.get?
  insert := RecentPages.insert

end RecentPages

end BinaryLayout
