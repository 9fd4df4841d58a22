import BinaryLayout.Source.PageCache

/-!
# Stores That Keep the Pages Used Last

What is assumed of the store behind a page cache: it holds the pages that were used last, in the order of
their uses, and when it is full the page used longest ago makes room. Results about page caches rest on
these laws alone, so they hold of any store that has them.
-/

namespace BinaryLayout

open PageStore (pages capacity)

class LawfulPageStore (τ : Type) [PageStore τ] : Prop where
  pages_empty : ∀ room, pages (PageStore.empty room : τ) = []
  capacity_empty : ∀ room, capacity (PageStore.empty room : τ) = room
  /-- A page that is found was kept and is now the one used last. -/
  get?_eq_some : ∀ {store after : τ} {number : Nat} {bytes : List UInt8},
    PageStore.get? store number = some (bytes, after) →
      (pages store).lookup number = some bytes ∧
      pages after = (number, bytes) :: (pages store).filter (fun page ↦ page.1 != number) ∧
      capacity after = capacity store
  /-- Only a page that is not kept is not found. -/
  get?_eq_none : ∀ {store : τ} {number : Nat},
    PageStore.get? store number = none → (pages store).lookup number = none
  /-- A new page is the one used last, and of too many pages the one used longest ago goes. -/
  insert : ∀ {store : τ} {number : Nat} (bytes : List UInt8), (pages store).lookup number = none →
    pages (PageStore.insert store number bytes) =
        ((number, bytes) :: pages store).take (capacity store) ∧
      capacity (PageStore.insert store number bytes) = capacity store

instance : LawfulPageStore RecentPages where
  pages_empty _ := rfl
  capacity_empty _ := rfl
  get?_eq_some := by
    intro store after number bytes hfound
    obtain ⟨kept, hkept, hpair⟩ := Option.map_eq_some_iff.mp hfound
    obtain ⟨rfl, rfl⟩ := Prod.mk.inj hpair
    exact ⟨hkept, rfl, rfl⟩
  get?_eq_none := Option.map_eq_none_iff.mp
  insert _ _ := ⟨rfl, rfl⟩

namespace PageCache

variable {τ : Type} [PageStore τ] [LawfulPageStore τ] {cache after : PageCache τ} {number : Nat}
  {bytes : List UInt8}

theorem pages_empty (pageSize room : Nat) : (empty pageSize room : PageCache τ).pages = [] :=
  LawfulPageStore.pages_empty _

theorem capacity_empty (pageSize room : Nat) :
    (empty pageSize room : PageCache τ).capacity = max room 1 :=
  LawfulPageStore.capacity_empty _

theorem find?_eq_some (hfound : cache.find? number = some (bytes, after)) :
    cache.pages.lookup number = some bytes ∧
      after.pages = (number, bytes) :: cache.pages.filter (fun page ↦ page.1 != number) ∧
      after.pageSize = cache.pageSize ∧ after.capacity = cache.capacity := by
  obtain ⟨⟨found, store⟩, hget, hpair⟩ := Option.map_eq_some_iff.mp hfound
  obtain ⟨rfl, rfl⟩ := Prod.mk.inj hpair
  obtain ⟨hlookup, hpages, hcapacity⟩ := LawfulPageStore.get?_eq_some hget
  exact ⟨hlookup, hpages, rfl, hcapacity⟩

theorem lookup_eq_none (hmissing : cache.find? number = none) : cache.pages.lookup number = none :=
  LawfulPageStore.get?_eq_none (Option.map_eq_none_iff.mp hmissing)

theorem pages_add (hmissing : cache.find? number = none) (bytes : List UInt8) :
    (cache.add number bytes).pages = ((number, bytes) :: cache.pages).take cache.capacity :=
  (LawfulPageStore.insert bytes (lookup_eq_none hmissing)).1

theorem capacity_add (hmissing : cache.find? number = none) (bytes : List UInt8) :
    (cache.add number bytes).capacity = cache.capacity :=
  (LawfulPageStore.insert bytes (lookup_eq_none hmissing)).2

theorem mem_pages_of_find? (hfound : cache.find? number = some (bytes, after)) :
    (number, bytes) ∈ cache.pages := by
  obtain ⟨front, back, hpages, -⟩ := List.lookup_eq_some_iff.mp (find?_eq_some hfound).1
  simp [hpages]

theorem ne_of_find?_eq_none (hmissing : cache.find? number = none) {page : Nat × List UInt8}
    (hpage : page ∈ cache.pages) : number ≠ page.1 :=
  bne_iff_ne.mp (List.lookup_eq_none_iff.mp (lookup_eq_none hmissing) page hpage)

end PageCache

end BinaryLayout
