import BinaryLayout.Profile.Cycle
import BinaryLayout.Proofs.OrderedMap
import Mathlib

/-!
# The Search for Cycles

The search reports a cycle exactly when a structure contains itself, and what it reports is a cycle that
meets no structure twice. Its fuel is never used up: the path that it follows holds every structure at
most once. The structures that are finished reach no cycle, which is what lets later searches pass them
by.
-/

namespace BinaryLayout

namespace Cycle

/-- A field of the outer structure refers to the inner one, and both are among the structures. -/
def Contains (structures : List Structure) (outer inner : String) : Prop :=
  inner ∈ structures.map Structure.name ∧
    ∃ struct ∈ structures, struct.name = outer ∧
      ∃ member ∈ struct.members, member.field.kind = .reference inner

/-- The list follows edges back to where it starts and meets nothing twice on the way. -/
def IsCycle (edge : String → String → Prop) (cycle : List String) : Prop :=
  ∃ first rest, cycle = first :: rest ++ [first] ∧ (first :: rest).Nodup ∧ cycle.IsChain edge

def Edge (graph : Edges) (outer inner : String) : Prop :=
  (graph.lookup inner).isSome ∧ ∃ targets, graph.lookup outer = some targets ∧ inner ∈ targets

theorem contained?_eq_some {member : Member} {target : String} :
    contained? member = some target ↔ member.field.kind = .reference target := by
  unfold contained?
  cases member.field.kind <;> simp

/-- The structures that a structure refers to. -/
theorem mem_targets {struct : Structure} {target : String} :
    target ∈ (struct.members.filterMap contained?).eraseDups.mergeSort
        (fun first second ↦ first ≤ second) ↔
      ∃ member ∈ struct.members, member.field.kind = .reference target := by
  rw [List.mem_mergeSort, List.mem_eraseDups, List.mem_filterMap]
  simp only [contained?_eq_some]

theorem map_fst_edges (structures : List Structure) :
    (edges structures).map Prod.fst = structures.map Structure.name := by
  simp [edges, Function.comp_def]

theorem isSome_lookup_iff {graph : Edges} {name : String} :
    (graph.lookup name).isSome ↔ name ∈ graph.map Prod.fst := by
  simp

theorem edge_edges {structures : List Structure} (hnames : (structures.map Structure.name).Nodup) :
    Edge (edges structures) = Contains structures := by
  funext outer inner
  rw [Edge, isSome_lookup_iff, map_fst_edges]
  refine propext (and_congr_right fun _ ↦ ⟨?_, ?_⟩)
  · rintro ⟨targets, htargets, hinner⟩
    obtain ⟨front, back, hedges, -⟩ := List.lookup_eq_some_iff.mp htargets
    have hmem : (outer, targets) ∈ edges structures := by simp [hedges]
    obtain ⟨struct, hstruct, hpair⟩ := List.mem_map.mp hmem
    obtain ⟨rfl, rfl⟩ := Prod.mk.inj hpair
    exact ⟨struct, hstruct, rfl, mem_targets.mp hinner⟩
  · rintro ⟨struct, hstruct, rfl, hmember⟩
    refine ⟨_, Ordered.lookup_eq_some_of_mem ?_ (List.mem_map_of_mem hstruct), mem_targets.mpr hmember⟩
    exact map_fst_edges structures ▸ hnames

/-! ## The search without a bound -/

/-- What the search through `nodes` ends with, along a path and after the structures in `done`. -/
inductive Search (graph : Edges) :
    List String → List String → List String → Except (List String) (List String) → Prop
  | nil {path done : List String} : Search graph path done [] (.ok done)
  | closed {path done rest : List String} {node : String} (hpath : node ∈ path) :
      Search graph path done (node :: rest) (.error (path.dropWhile (· ≠ node) ++ [node]))
  | known {path done rest : List String} {node : String} {result : Except (List String) (List String)}
      (hpath : node ∉ path) (hdone : node ∈ done) (hrest : Search graph path done rest result) :
      Search graph path done (node :: rest) result
  | absent {path done rest : List String} {node : String} {result : Except (List String) (List String)}
      (hpath : node ∉ path) (hdone : node ∉ done) (hlookup : graph.lookup node = none)
      (hrest : Search graph path done rest result) : Search graph path done (node :: rest) result
  | failed {path done rest targets cycle : List String} {node : String}
      (hpath : node ∉ path) (hdone : node ∉ done) (hlookup : graph.lookup node = some targets)
      (hinner : Search graph (path ++ [node]) done targets (.error cycle)) :
      Search graph path done (node :: rest) (.error cycle)
  | finished {path done rest targets after : List String} {node : String}
      {result : Except (List String) (List String)}
      (hpath : node ∉ path) (hdone : node ∉ done) (hlookup : graph.lookup node = some targets)
      (hinner : Search graph (path ++ [node]) done targets (.ok after))
      (hrest : Search graph path (node :: after) rest result) :
      Search graph path done (node :: rest) result

/-- The fuel is enough: it bounds what the path can still take in, and the path has no structure twice. -/
theorem search_foldlM {graph : Edges} {fuel : Nat} : ∀ {path : List String}, path.Nodup →
    path ⊆ graph.map Prod.fst → graph.length < fuel + path.length → ∀ nodes done : List String,
      Search graph path done nodes (nodes.foldlM (visit graph fuel path) done) := by
  induction fuel with
  | zero =>
    -- the path would have more nodes than the graph
    intro path hnodup hsubset hfuel
    have hlength := hnodup.length_le_of_subset hsubset
    rw [List.length_map] at hlength
    omega
  | succ fuel ih =>
    intro path hnodup hsubset hfuel nodes
    induction nodes with
    | nil => exact fun done ↦ .nil
    | cons node rest ihrest =>
      intro done
      rw [List.foldlM_cons, visit]
      by_cases hpath : node ∈ path
      · simp only [List.contains_eq_mem, hpath, decide_true, if_true]
        exact .closed hpath
      by_cases hdone : node ∈ done
      · simp only [List.contains_eq_mem, hpath, hdone, decide_true, decide_false, if_true, if_false,
          Bool.false_eq_true]
        exact .known hpath hdone (ihrest done)
      simp only [List.contains_eq_mem, hpath, hdone, decide_false, if_false, Bool.false_eq_true]
      cases hlookup : graph.lookup node with
      | none => exact .absent hpath hdone hlookup (ihrest done)
      | some targets =>
        -- the fuel that the inner search has less is the node that its path has more
        have hinner := ih (hnodup.append (List.nodup_singleton node) (by simpa using hpath))
          (List.append_subset.mpr ⟨hsubset, by simpa using isSome_lookup_iff.mp (by simp [hlookup])⟩)
          (by simp only [List.length_append, List.length_singleton]; omega) targets done
        dsimp only
        cases hresult : targets.foldlM (visit graph fuel (path ++ [node])) done with
        | error cycle => exact .failed hpath hdone hlookup (hresult ▸ hinner)
        | ok after => exact .finished hpath hdone hlookup (hresult ▸ hinner) (ihrest (node :: after))

/-- The search ends in one way only. -/
theorem Search.unique {graph : Edges} {path done nodes : List String}
    {result other : Except (List String) (List String)} (hresult : Search graph path done nodes result)
    (hother : Search graph path done nodes other) : result = other := by
  induction hresult generalizing other with
  | nil =>
    cases hother
    rfl
  | closed hpath =>
    cases hother with
    | closed _ => rfl
    | _ => contradiction
  | known hpath hdone _ ih =>
    cases hother with
    | known _ _ hrest => exact ih hrest
    | _ => contradiction
  | absent hpath hdone hlookup _ ih =>
    cases hother with
    | absent _ _ _ hrest => exact ih hrest
    | failed _ _ hsome _ => cases hlookup.symm.trans hsome
    | finished _ _ hsome _ _ => cases hlookup.symm.trans hsome
    | _ => contradiction
  | failed hpath hdone hlookup _ ih =>
    cases hother with
    | absent _ _ hnone _ => cases hlookup.symm.trans hnone
    | failed _ _ hsome hinner =>
      obtain rfl := Option.some.inj (hlookup.symm.trans hsome)
      exact ih hinner
    | finished _ _ hsome hinner _ =>
      obtain rfl := Option.some.inj (hlookup.symm.trans hsome)
      cases ih hinner
    | _ => contradiction
  | finished hpath hdone hlookup _ _ ih ihrest =>
    cases hother with
    | absent _ _ hnone _ => cases hlookup.symm.trans hnone
    | failed _ _ hsome hinner =>
      obtain rfl := Option.some.inj (hlookup.symm.trans hsome)
      cases ih hinner
    | finished _ _ hsome hinner hrest =>
      obtain rfl := Option.some.inj (hlookup.symm.trans hsome)
      obtain rfl := Except.ok.inj (ih hinner)
      exact ihrest hrest
    | _ => contradiction

theorem exists_dropWhile_eq_cons {path : List String} {node : String} (hnode : node ∈ path) :
    ∃ rest, path.dropWhile (· ≠ node) = node :: rest := by
  induction path with
  | nil => cases hnode
  | cons first path ih =>
    by_cases hfirst : first = node
    · exact ⟨path, by simp [hfirst]⟩
    · obtain ⟨rest, hrest⟩ := ih ((List.mem_cons.mp hnode).resolve_left (Ne.symm hfirst))
      exact ⟨rest, by simpa [hfirst] using hrest⟩

/-- A path that comes back to one of its own structures goes around a cycle from there. -/
theorem isCycle_dropWhile {edge : String → String → Prop} {path : List String} {node : String}
    (hnode : node ∈ path) (hnodup : path.Nodup) (hchain : (path ++ [node]).IsChain edge) :
    IsCycle edge (path.dropWhile (· ≠ node) ++ [node]) := by
  have hsuffix := List.dropWhile_suffix (l := path) (fun other ↦ decide (other ≠ node))
  obtain ⟨rest, hrest⟩ := exists_dropWhile_eq_cons hnode
  refine ⟨node, rest, by rw [hrest], ?_, ?_⟩
  · rw [← hrest]
    exact hnodup.sublist hsuffix.sublist
  · obtain ⟨front, hfront⟩ := hsuffix
    exact hchain.suffix ⟨front, by rw [← List.append_assoc, hfront]⟩

theorem Search.isCycle {graph : Edges} {path done nodes cycle : List String}
    (hsearch : Search graph path done nodes (.error cycle)) (hnodup : path.Nodup)
    (hpath : ∀ node ∈ path, (graph.lookup node).isSome)
    (hnodes : ∀ node ∈ nodes, (graph.lookup node).isSome → (path ++ [node]).IsChain (Edge graph)) :
    IsCycle (Edge graph) cycle := by
  generalize hresult : Except.error cycle = result at hsearch
  induction hsearch with
  | nil => cases hresult
  | closed hmem =>
    obtain rfl := Except.error.inj hresult
    exact isCycle_dropWhile hmem hnodup (hnodes _ List.mem_cons_self (hpath _ hmem))
  | known _ _ _ ih => exact ih hnodup hpath (fun node hnode ↦ hnodes node (.tail _ hnode)) hresult
  | absent _ _ _ _ ih => exact ih hnodup hpath (fun node hnode ↦ hnodes node (.tail _ hnode)) hresult
  | finished _ _ _ _ _ _ ih =>
    exact ih hnodup hpath (fun node hnode ↦ hnodes node (.tail _ hnode)) hresult
  | @failed path done rest targets _ node hnew _ hlookup _ ih =>
    have hdefined : (graph.lookup node).isSome := by simp [hlookup]
    have hchain := hnodes node List.mem_cons_self hdefined
    apply ih
    · exact hnodup.append (List.nodup_singleton node) (by simpa using hnew)
    · intro other hother
      rcases List.mem_append.mp hother with hbefore | hlast
      · exact hpath other hbefore
      · exact List.mem_singleton.mp hlast ▸ hdefined
    · intro target htarget hsome
      refine List.isChain_append.mpr ⟨hchain, List.isChain_singleton target, ?_⟩
      simp only [List.getLast?_concat, List.head?_cons, Option.mem_some_iff, forall_eq']
      exact ⟨hsome, targets, hlookup, htarget⟩
    · exact hresult

abbrev Ends (graph : Edges) : String → Prop :=
  Acc fun inner outer ↦ Edge graph outer inner

theorem Search.ends {graph : Edges} {path done nodes after : List String}
    (hsearch : Search graph path done nodes (.ok after)) (hdone : ∀ node ∈ done, Ends graph node) :
    (∀ node ∈ after, Ends graph node) ∧ done ⊆ after ∧
      ∀ node ∈ nodes, (graph.lookup node).isSome → node ∈ after := by
  generalize hresult : Except.ok after = result at hsearch
  induction hsearch generalizing after with
  | nil =>
    obtain rfl := Except.ok.inj hresult
    exact ⟨hdone, List.Subset.refl _, List.forall_mem_nil _⟩
  | closed _ => cases hresult
  | known _ hmem _ ih =>
    obtain ⟨hafter, hsubset, hrest⟩ := ih hdone hresult
    exact ⟨hafter, hsubset, List.forall_mem_cons.mpr ⟨fun _ ↦ hsubset hmem, hrest⟩⟩
  | absent _ _ hlookup _ ih =>
    obtain ⟨hafter, hsubset, hrest⟩ := ih hdone hresult
    exact ⟨hafter, hsubset, List.forall_mem_cons.mpr ⟨fun hsome ↦ by simp [hlookup] at hsome, hrest⟩⟩
  | failed => cases hresult
  | @finished path done rest targets between node _ _ _ hlookup _ _ ih ihrest =>
    obtain ⟨hbetween, hkept, htargets⟩ := ih hdone rfl
    have hnode : Ends graph node := by
      refine Acc.intro node fun inner hedge ↦ ?_
      obtain ⟨hsome, found, hfound, hinner⟩ := hedge
      obtain rfl := Option.some.inj (hlookup.symm.trans hfound)
      exact hbetween inner (htargets inner hinner hsome)
    obtain ⟨hafter, hsubset, hrest⟩ := ihrest (List.forall_mem_cons.mpr ⟨hnode, hbetween⟩) hresult
    refine ⟨hafter, ?_, List.forall_mem_cons.mpr ⟨fun _ ↦ hsubset List.mem_cons_self, hrest⟩⟩
    exact fun other hother ↦ hsubset (.tail _ (hkept hother))

def outcome (structures : List Structure) : Except (List String) (List String) :=
  (starts structures).foldlM (visit (edges structures) ((edges structures).length + 1) []) []

theorem find?_eq (structures : List Structure) :
    find? structures = match outcome structures with
      | .error cycle => some cycle
      | .ok _ => none :=
  rfl

theorem find?_eq_some_iff {structures : List Structure} {cycle : List String} :
    find? structures = some cycle ↔ outcome structures = .error cycle := by
  rw [find?_eq]
  cases outcome structures <;> simp

theorem search_outcome (structures : List Structure) :
    Search (edges structures) [] [] (starts structures) (outcome structures) :=
  search_foldlM List.nodup_nil (List.nil_subset _) (Nat.lt_succ_self _) _ _

theorem mem_starts {structures : List Structure} {name : String} :
    name ∈ starts structures ↔ name ∈ structures.map Structure.name :=
  List.mem_mergeSort

theorem isCycle_of_find? {structures : List Structure} (hnames : (structures.map Structure.name).Nodup)
    {cycle : List String} (hcycle : find? structures = some cycle) :
    IsCycle (Contains structures) cycle := by
  have hsearch := search_outcome structures
  rw [find?_eq_some_iff.mp hcycle] at hsearch
  rw [← edge_edges hnames]
  apply hsearch.isCycle List.nodup_nil (List.forall_mem_nil _)
  exact fun node _ _ ↦ List.isChain_singleton node

theorem wellFounded_of_find? {structures : List Structure}
    (hnames : (structures.map Structure.name).Nodup) (hnone : find? structures = none) :
    WellFounded fun inner outer ↦ Contains structures outer inner := by
  have hsearch := search_outcome structures
  rw [find?_eq] at hnone
  split at hnone
  · cases hnone
  · rename_i after hafter
    rw [hafter] at hsearch
    rw [← edge_edges hnames]
    obtain ⟨hends, -, hall⟩ := hsearch.ends (List.forall_mem_nil _)
    constructor
    intro name
    by_cases hname : ((edges structures).lookup name).isSome
    · have hmem := isSome_lookup_iff.mp hname
      rw [map_fst_edges] at hmem
      exact hends name (hall name (mem_starts.mpr hmem) hname)
    · refine Acc.intro name fun inner hedge ↦ ?_
      obtain ⟨-, targets, htargets, -⟩ := hedge
      simp [htargets] at hname

theorem IsCycle.transGen {edge : String → String → Prop} {cycle : List String}
    (hcycle : IsCycle edge cycle) : ∃ name, Relation.TransGen edge name name := by
  obtain ⟨first, rest, rfl, -, hchain⟩ := hcycle
  have hpairs := List.isChain_iff_pairwise.mp (hchain.imp fun _ _ ↦ Relation.TransGen.single)
  exact ⟨first, List.rel_of_pairwise_cons hpairs (by simp)⟩

/-- Where following a relation comes to an end, nothing leads back to itself. -/
theorem not_transGen_self {α : Type} {relation : α → α → Prop} {start : α}
    (hends : Acc relation start) :
    ¬ Relation.TransGen relation start start := by
  have hwhole := hends.transGen
  clear hends
  induction hwhole with
  | intro start _ ih =>
    intro hcycle
    exact ih start hcycle hcycle

/-- Structures that lie inside one another in some order make up no cycle. -/
theorem find?_eq_none_of_rank {structures : List Structure}
    (hnames : (structures.map Structure.name).Nodup) (rank : String → Nat)
    (hrank : ∀ outer inner, Contains structures outer inner → rank inner < rank outer) :
    find? structures = none := by
  have hends : WellFounded fun inner outer ↦ Contains structures outer inner :=
    Subrelation.wf (fun hcontains ↦ hrank _ _ hcontains) (InvImage.wf rank Nat.lt_wfRel.wf)
  rw [Option.eq_none_iff_forall_ne_some]
  intro cycle hcycle
  obtain ⟨name, hself⟩ := (isCycle_of_find? hnames hcycle).transGen
  exact not_transGen_self (hends.apply name) (Relation.transGen_swap.mpr hself)

end Cycle

end BinaryLayout
