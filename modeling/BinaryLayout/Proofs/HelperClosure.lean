import BinaryLayout.Proofs.FieldArena
import BinaryLayout.Proofs.KeySoundness
import BinaryLayout.Proofs.OrderedMap

/-!
# The Helpers of a Run

After any sequence of resolved and refused entries, the helpers of a context are those of the kinds in
its arena and of the kinds that these need: none is missing, none is left over, and each has the text
that the kind has at the end of the run. Two kinds with one identity are assumed to differ in nothing
that enters a key through a checksum; that checksums never collide is not claimed.
-/

namespace BinaryLayout

namespace Kind

instance (options : Options) (first second : Kind) : Decidable (KeysApart options first second) :=
  inferInstanceAs (Decidable (_ → _ → _ → _))

theorem self_mem_closure (kind : Kind) : kind ∈ kind.closure := by
  cases kind <;> simp [closure]

/-- A kind calls the helpers of its element and of integers. -/
theorem calls_cases {kind next : Kind} (hcalls : kind.Calls next) :
    kind.element? = some next ∨ ∃ type, next = .integer type := by
  cases kind with
  | array count element => exact .inl (congrArg some (List.mem_singleton.mp hcalls).symm)
  | pointer element =>
    rcases List.mem_cons.mp hcalls with rfl | helement
    · exact .inr ⟨_, rfl⟩
    · exact .inl (congrArg some (List.mem_singleton.mp helement).symm)
  | bitField field => exact .inr ⟨_, List.mem_singleton.mp hcalls⟩
  | enumeration choices => exact .inr ⟨_, List.mem_singleton.mp hcalls⟩
  | flags names => exact .inr ⟨_, List.mem_singleton.mp hcalls⟩
  | _ => exact absurd hcalls List.not_mem_nil

theorem closure_subset_of_element {kind element : Kind} (helement : kind.element? = some element) :
    element.closure ⊆ kind.closure := by
  intro needed hneeded
  cases kind <;> simp_all [element?, closure]

theorem mem_closure_of_calls {kind next : Kind} (hcalls : kind.Calls next) :
    next ∈ kind.closure := by
  cases kind with
  | array count element =>
    rw [List.mem_singleton.mp hcalls]
    exact closure_subset_of_element rfl (self_mem_closure element)
  | pointer element =>
    rcases List.mem_cons.mp hcalls with rfl | helement
    · exact List.mem_cons_self
    · rw [List.mem_singleton.mp helement]
      exact closure_subset_of_element rfl (self_mem_closure element)
  | _ => exact List.mem_append_left _ hcalls

theorem closure_subset_of_calls {kind next : Kind} (hcalls : kind.Calls next) :
    next.closure ⊆ kind.closure := by
  rcases calls_cases hcalls with helement | ⟨type, rfl⟩
  · exact closure_subset_of_element helement
  · simpa [closure, dependencies] using mem_closure_of_calls hcalls

theorem needs_of_mem_closure {kind needed : Kind} (hneeded : needed ∈ kind.closure) :
    kind.Needs needed := by
  induction kind with
  | array count element ih =>
    rcases List.mem_append.mp hneeded with hinner | hself
    · exact (ih hinner).of_element rfl
    · rw [List.mem_singleton.mp hself]
  | pointer element ih =>
    rcases List.mem_append.mp hneeded with hinner | hself
    · rcases List.mem_cons.mp hinner with rfl | hinner
      · exact .single (by simp [Calls, dependencies])
      · exact (ih hinner).of_element rfl
    · rw [List.mem_singleton.mp hself]
  | _ =>
    rcases List.mem_append.mp hneeded with hcalled | hself
    · exact .single hcalled
    · rw [List.mem_singleton.mp hself]

/-- The kinds that are recorded for a kind are those it needs. -/
theorem mem_closure_iff {kind needed : Kind} : needed ∈ kind.closure ↔ kind.Needs needed := by
  constructor
  · exact needs_of_mem_closure
  · intro hneeds
    induction hneeds using Relation.ReflTransGen.head_induction_on with
    | refl => exact self_mem_closure needed
    | head hcalls _ ih => exact closure_subset_of_calls hcalls ih

theorem needs_leaf (kind : Kind) : kind.Needs kind.leaf := by
  induction kind with
  | array count element ih => exact ih.of_element rfl
  | pointer element ih => exact ih.of_element rfl
  | _ => exact .refl

theorem leaf_of_element {kind element : Kind} (helement : kind.element? = some element) :
    kind.leaf = element.leaf := by
  cases kind <;> simp_all [element?, leaf]

theorem IsNamed.of_calls {kind next : Kind} (hkind : kind.IsNamed) (hcalls : kind.Calls next) :
    next.IsNamed := by
  rcases calls_cases hcalls with helement | ⟨type, rfl⟩
  · rwa [IsNamed, ← leaf_of_element helement]
  · intro target htarget
    simp [leaf] at htarget

theorem IsNamed.of_needs {kind needed : Kind} (hkind : kind.IsNamed) (hneeds : kind.Needs needed) :
    needed.IsNamed := by
  induction hneeds with
  | refl => exact hkind
  | tail _ hcalls ih => exact ih.of_calls hcalls

end Kind

namespace Description

theorem simple_isNamed {name : String} {value : Option Json} {found : Description}
    (hfound : simple name value = .ok found) : found.kind.IsNamed := by
  intro target htarget
  cases simple_of_ok hfound with
  | reference hidentifier =>
    obtain rfl : _ = target := Kind.reference.inj htarget
    exact ⟨hidentifier, name, rfl⟩
  | _ => cases htarget

theorem ofNameWith_isNamed : ∀ {fuel : Nat} {name : String} {value : Option Json}
    {found : Description}, ofNameWith fuel name value = .ok found → found.kind.IsNamed := by
  intro fuel
  induction fuel with
  | zero => exact fun hfound ↦ nomatch hfound
  | succ fuel ih =>
    intro name value found hfound
    rcases ofNameWith_cases hfound with ⟨given, target, inner, -, -, -, hinner, helement⟩ | ⟨-, -, hsimple⟩
    · rw [Kind.IsNamed, Kind.leaf_of_element helement]
      exact ih hinner
    · exact simple_isNamed hsimple

end Description

/-- An entry that is accepted has its offset in front and the description of a kind behind it. -/
theorem Entry.exists_of_ofJson_eq_ok {entry : Json} {found : Entry}
    (hfound : ofJson entry = .ok found) :
    ∃ offset kind rest name value, entry = .array (offset :: kind :: rest) ∧
      offset.natural? = some found.offset ∧ Description.ofName name value = .ok found.description := by
  unfold ofJson at hfound
  split at hfound
  · rename_i offset kind rest
    split at hfound
    · rename_i position hposition
      obtain ⟨⟨name, value⟩, -, hfound⟩ := exists_of_bind_eq_ok hfound
      simp only at hfound
      split at hfound
      · rename_i written _
        obtain ⟨description, hdescription, hfound⟩ := exists_of_bind_eq_ok hfound
        obtain rfl : _ = found := Except.ok.inj hfound
        exact ⟨offset, kind, rest, written, value, rfl, hposition, hdescription⟩
      · nomatch hfound
    · nomatch hfound
  · nomatch hfound

/-- A structure that an entry refers to is called by its canonical name, which is an identifier. -/
theorem Entry.ofJson_isNamed {entry : Json} {found : Entry} (hfound : ofJson entry = .ok found) :
    found.description.kind.IsNamed := by
  obtain ⟨-, -, -, name, value, -, -, hdescription⟩ := exists_of_ofJson_eq_ok hfound
  exact Description.ofNameWith_isNamed hdescription

/-! ## Recording helpers -/

/-- The helpers are those of the given kinds, each under its identity. -/
structure Recorded (options : Options) (kinds : Kind → Prop) (helpers : List (String × Code)) :
    Prop where
  ordered : Ordered.Increasing helpers
  sound : ∀ identity code, (identity, code) ∈ helpers →
    ∃ kind, kinds kind ∧ kind.identity? options = some identity ∧ code = kind.helperCode options
  complete : ∀ kind identity, kinds kind → kind.identity? options = some identity →
    identity ∈ helpers.map Prod.fst

namespace Recorded

variable {options : Options} {kinds : Kind → Prop} {helpers : List (String × Code)}

theorem congr {kinds' : Kind → Prop} (hrecorded : Recorded options kinds helpers)
    (hkinds : ∀ kind, kinds kind ↔ kinds' kind) : Recorded options kinds' helpers := by
  obtain rfl : kinds = kinds' := funext fun kind ↦ propext (hkinds kind)
  exact hrecorded

/-- A kind without a helper, or whose helper is there, adds nothing. -/
theorem or_known {kind : Kind} (hrecorded : Recorded options kinds helpers)
    (hknown : ∀ identity, kind.identity? options = some identity →
      identity ∈ helpers.map Prod.fst) :
    Recorded options (fun other ↦ kinds other ∨ other = kind) helpers where
  ordered := hrecorded.ordered
  sound identity code hmem := by
    obtain ⟨owner, howner, hidentity, hcode⟩ := hrecorded.sound identity code hmem
    exact ⟨owner, .inl howner, hidentity, hcode⟩
  complete other identity hother hidentity := by
    rcases hother with hother | rfl
    · exact hrecorded.complete other identity hother hidentity
    · exact hknown identity hidentity

theorem or_insert {kind : Kind} {identity : String} (hrecorded : Recorded options kinds helpers)
    (hidentity : kind.identity? options = some identity) (hnew : identity ∉ helpers.map Prod.fst) :
    Recorded options (fun other ↦ kinds other ∨ other = kind)
      (Ordered.insert identity (kind.helperCode options) helpers) where
  ordered := hrecorded.ordered.insert identity _
  sound identity' code hmem := by
    rcases Ordered.mem_of_mem_insert hmem with hsame | hbefore
    · obtain ⟨rfl, rfl⟩ := Prod.mk.inj hsame
      exact ⟨kind, .inr rfl, hidentity, rfl⟩
    · obtain ⟨owner, howner, hidentity', hcode⟩ := hrecorded.sound identity' code hbefore
      exact ⟨owner, .inl howner, hidentity', hcode⟩
  complete other identity' hother hidentity' := by
    rcases hother with hother | rfl
    · have hbefore := hrecorded.complete other identity' hother hidentity'
      obtain ⟨⟨known, code⟩, hmem, rfl⟩ := List.mem_map.mp hbefore
      have hdifferent : known ≠ identity := fun hequal ↦ hnew (hequal ▸ hbefore)
      exact List.mem_map_of_mem (Ordered.mem_insert_of_mem hmem hdifferent)
    · obtain rfl : identity = identity' := Option.some.inj (hidentity.symm.trans hidentity')
      exact List.mem_map_of_mem (Ordered.mem_insert_self identity _ helpers)

/-- Recording a kind adds the kind. -/
theorem record {context : Context} (hoptions : context.options = options)
    (hrecorded : Recorded options kinds context.helpers) (kind : Kind) :
    Recorded options (fun other ↦ kinds other ∨ other = kind) (context.record kind).helpers := by
  unfold Context.record
  rw [hoptions]
  split
  · rename_i hnone
    exact hrecorded.or_known fun identity hidentity ↦ by simp [hnone] at hidentity
  · rename_i identity hidentity
    split
    · rename_i hknown
      refine hrecorded.or_known fun identity' hidentity' ↦ ?_
      obtain rfl : identity = identity' := Option.some.inj (hidentity.symm.trans hidentity')
      simpa [Context.hasHelper] using hknown
    · rename_i hnew
      exact hrecorded.or_insert hidentity (by simpa [Context.hasHelper] using hnew)

theorem record_all (needed : List Kind) : ∀ {kinds : Kind → Prop} {context : Context},
    context.options = options → Recorded options kinds context.helpers →
    Recorded options (fun other ↦ kinds other ∨ other ∈ needed)
      (needed.foldl (fun before next ↦ before.record next) context).helpers := by
  induction needed with
  | nil =>
    intro kinds context _ hrecorded
    exact hrecorded.congr fun other ↦ by simp
  | cons first rest ih =>
    intro kinds context hoptions hrecorded
    have hafter := ih (by simpa using hoptions) (hrecorded.record hoptions first)
    exact hafter.congr fun other ↦ by simp [or_assoc]

/-- Registering a kind adds everything that the kind needs. -/
theorem register {context : Context} (hoptions : context.options = options)
    (hrecorded : Recorded options kinds context.helpers) (kind : Kind) :
    Recorded options (fun other ↦ kinds other ∨ kind.Needs other)
      (context.register kind).helpers := by
  rw [Context.register_eq_foldl]
  exact (hrecorded.record_all kind.closure hoptions).congr fun other ↦ by rw [Kind.mem_closure_iff]

/-- Installing a kind keeps the helpers those of the arena. -/
theorem install (outside : Option String) (kind : Kind) : ∀ (offset : UInt64) {context : Context},
    context.options = options → Recorded options (Arena.Occurs context.arena) context.helpers →
    Recorded options (Arena.Occurs (context.install outside kind offset).2.arena)
      (context.install outside kind offset).2.helpers := by
  induction kind using Kind.element_induction with
  | leaf kind hleaf =>
    intro offset context hoptions hrecorded
    obtain ⟨reported, harena, hhelpers, hsame, hinstall⟩ :=
      Context.install_of_leaf hleaf outside offset context
    rw [← hhelpers, ← harena] at hrecorded
    rw [hinstall]
    refine (hrecorded.register (hsame.trans hoptions) kind).congr fun other ↦ ?_
    simp [Context.allocate, Arena.occurs_push]
  | step kind element helement ih =>
    intro offset context hoptions hrecorded
    have hinner := ih 0 hoptions hrecorded
    rw [Context.install_of_element helement]
    refine (hinner.register (by simpa using hoptions) kind).congr fun other ↦ ?_
    simp [Context.allocate, Arena.occurs_push]

end Recorded

namespace Context

/-- What holds of a context throughout a run. -/
structure Sound (options : Options) (context : Context) : Prop where
  configured : context.options = options
  arena : Arena.WellFormed context.arena
  named : ∀ kind, Arena.Occurs context.arena kind → kind.IsNamed
  helpers : Recorded options (Arena.Occurs context.arena) context.helpers

theorem sound_start (options : Options) : Sound options { options } where
  configured := rfl
  arena := Arena.wellFormed_empty
  named kind hoccurs := by simp [Arena.Occurs] at hoccurs
  helpers :=
    { ordered := List.Pairwise.nil
      sound := by simp
      complete := by simp [Arena.Occurs] }

theorem Sound.install {options : Options} {context : Context} (hsound : Sound options context)
    {kind : Kind} (hkind : kind.IsNamed) (outside : Option String) (offset : UInt64) :
    Sound options (context.install outside kind offset).2 where
  configured := by rw [install_options, hsound.configured]
  arena := (install_wellFormed outside kind offset context hsound.arena).1
  named needed hoccurs := by
    rcases (occurs_install outside kind needed offset context).mp hoccurs with hbefore | hneeds
    · exact hsound.named needed hbefore
    · exact hkind.of_needs hneeds
  helpers := hsound.helpers.install outside kind offset hsound.configured

/-- Resolving an entry leaves the context as it was, or installs a kind with a canonical name. -/
theorem resolve_cases (spec : Spec) (entry : Json) (context : Context) :
    (∃ error, Entry.ofJson entry = .error error ∧
      context.resolve spec entry = (.error error, context)) ∨
    ∃ found outside, Entry.ofJson entry = .ok found ∧
      context.resolve spec entry =
        (.ok (context.install outside found.description.kind found.offset).1,
          (context.install outside found.description.kind found.offset).2) := by
  rw [resolve_eq]
  split
  · rename_i error herror
    exact .inl ⟨error, herror, rfl⟩
  · rename_i found hfound
    exact .inr ⟨found, _, hfound, rfl⟩

/-- One step of a run, whether the entry is resolved or refused. -/
theorem Sound.resolve {options : Options} {context : Context} (hsound : Sound options context)
    (spec : Spec) (entry : Json) : Sound options (context.resolve spec entry).2 := by
  rcases resolve_cases spec entry context with ⟨error, -, hresolve⟩ | ⟨found, outside, hfound, hresolve⟩
  · rw [hresolve]
    exact hsound
  · rw [hresolve]
    exact hsound.install (Entry.ofJson_isNamed hfound) outside found.offset

/-- Resolves entries one after another, going on after an error. -/
def resolveAll (calls : List (Spec × Json)) (context : Context) : Context :=
  calls.foldl (fun before call ↦ (before.resolve call.1 call.2).2) context

theorem Sound.resolveAll {options : Options} (calls : List (Spec × Json)) : ∀ {context : Context},
    Sound options context → Sound options (context.resolveAll calls) := by
  induction calls with
  | nil => exact fun hsound ↦ hsound
  | cons call rest ih => exact fun hsound ↦ ih (hsound.resolve call.1 call.2)

/-- What occurs at the end of a run was there before or is needed by an entry that was resolved. -/
theorem occurs_resolveAll (needed : Kind) (calls : List (Spec × Json)) : ∀ context : Context,
    Arena.Occurs (context.resolveAll calls).arena needed ↔
      Arena.Occurs context.arena needed ∨
        ∃ call ∈ calls, ∃ found, Entry.ofJson call.2 = .ok found ∧
          found.description.kind.Needs needed := by
  induction calls with
  | nil => simp [resolveAll]
  | cons call rest ih =>
    intro context
    have hstep : Arena.Occurs (context.resolve call.1 call.2).2.arena needed ↔
        Arena.Occurs context.arena needed ∨ ∃ found, Entry.ofJson call.2 = .ok found ∧
          found.description.kind.Needs needed := by
      rcases resolve_cases call.1 call.2 context with
        ⟨error, herror, hresolve⟩ | ⟨found, outside, hfound, hresolve⟩
      · simp [hresolve, herror]
      · simp [hresolve, hfound, occurs_install]
    rw [resolveAll, List.foldl_cons]
    refine (ih _).trans ?_
    simp only [hstep, List.mem_cons, exists_eq_or_imp, or_assoc]

/-- Parameters that occur in a context have different keys where they enter a key through a
checksum. -/
def KeysApart (context : Context) : Prop :=
  ∀ first second, Arena.Occurs context.arena first → Arena.Occurs context.arena second →
    Kind.KeysApart context.options first second

theorem keysApart_of_closures {context : Context}
    (hclosures : ∀ first ∈ context.arena.toList.flatMap (·.kind.closure),
      ∀ second ∈ context.arena.toList.flatMap (·.kind.closure),
        Kind.KeysApart context.options first second) : context.KeysApart := by
  have hmem {kind : Kind} : Arena.Occurs context.arena kind →
      kind ∈ context.arena.toList.flatMap (·.kind.closure) := by
    rintro ⟨field, hfield, hneeds⟩
    exact List.mem_flatMap.mpr ⟨field, hfield.val, Kind.mem_closure_iff.mpr hneeds⟩
  intro first second hfirst hsecond
  exact hclosures first (hmem hfirst) second (hmem hsecond)

/-- Kinds that occur with one identity have one helper. -/
theorem Sound.helperCode_eq {options : Options} {context : Context} (hsound : Sound options context)
    (hapart : context.KeysApart) {first second : Kind} {identity : String}
    (hfirst : Arena.Occurs context.arena first) (hsecond : Arena.Occurs context.arena second)
    (hidentity : first.identity? options = some identity)
    (hidentity' : second.identity? options = some identity) :
    first.helperCode options = second.helperCode options := by
  have hleaf {kind : Kind} : Arena.Occurs context.arena kind →
      Arena.Occurs context.arena kind.leaf := by
    rintro ⟨field, hfield, hneeds⟩
    exact ⟨field, hfield, hneeds.trans kind.needs_leaf⟩
  have hleaves := hapart first.leaf second.leaf (hleaf hfirst) (hleaf hsecond)
  rw [hsound.configured] at hleaves
  exact Kind.helperCode_eq_of_identity_eq (hsound.named first hfirst) (hsound.named second hsecond)
    hleaves hidentity hidentity'

/-- The helper of a kind that occurs is found under its identity. -/
theorem Sound.lookup_eq {options : Options} {context : Context} (hsound : Sound options context)
    (hapart : context.KeysApart) {kind : Kind} {identity : String}
    (hoccurs : Arena.Occurs context.arena kind)
    (hidentity : kind.identity? options = some identity) :
    context.helpers.lookup identity = some (kind.helperCode options) := by
  have hkey := hsound.helpers.complete kind identity hoccurs hidentity
  obtain ⟨⟨known, code⟩, hmem, rfl⟩ := List.mem_map.mp hkey
  obtain ⟨owner, howner, hidentity', rfl⟩ := hsound.helpers.sound known code hmem
  rw [hsound.helperCode_eq hapart hoccurs howner hidentity hidentity']
  exact Ordered.lookup_eq_some_of_mem hsound.helpers.ordered.nodup_keys hmem

/-- Contexts in which the same kinds occur have the same helpers. -/
theorem Sound.helpers_eq {options : Options} {first second : Context} (hfirst : Sound options first)
    (hsecond : Sound options second) (hapart : first.KeysApart)
    (hoccurs : ∀ kind, Arena.Occurs first.arena kind ↔ Arena.Occurs second.arena kind) :
    first.helpers = second.helpers := by
  have hapart' : second.KeysApart := by
    intro kind kind' hkind hkind'
    have hkeys := hapart kind kind' ((hoccurs kind).mpr hkind) ((hoccurs kind').mpr hkind')
    rwa [hsecond.configured, ← hfirst.configured]
  have hsubset {before after : Context} (hbefore : Sound options before) (hafter : Sound options after)
      (hafterApart : after.KeysApart)
      (hboth : ∀ kind, Arena.Occurs before.arena kind → Arena.Occurs after.arena kind)
      {helper : String × Code} (hhelper : helper ∈ before.helpers) : helper ∈ after.helpers := by
    obtain ⟨identity, code⟩ := helper
    obtain ⟨kind, hkind, hidentity, rfl⟩ := hbefore.helpers.sound identity code hhelper
    have hlookup := hafter.lookup_eq hafterApart (hboth kind hkind) hidentity
    obtain ⟨front, back, hhelpers, -⟩ := List.lookup_eq_some_iff.mp hlookup
    simp [hhelpers]
  refine hfirst.helpers.ordered.ext hsecond.helpers.ordered fun helper ↦ ⟨?_, ?_⟩
  · exact hsubset hfirst hsecond hapart' fun kind hkind ↦ (hoccurs kind).mp hkind
  · exact hsubset hsecond hfirst hapart fun kind hkind ↦ (hoccurs kind).mpr hkind

/-- The helpers after any sequence of calls. The kinds of fields are read off the final arena, by
following its numbers, and go back to the entries that were resolved. As every kind finds its own text
under its identity, kinds with one identity have one text. -/
theorem helpers_eq_closure (options : Options) (calls : List (Spec × Json)) {final : Context}
    (hfinal : resolveAll calls { options } = final) (hapart : final.KeysApart) :
    final.options = options ∧
    (∀ number < final.arena.size, ∃ kind, Arena.Reads final.arena number kind) ∧
    (∀ needed, (∃ number kind, Arena.Reads final.arena number kind ∧ kind.Needs needed) ↔
      ∃ call ∈ calls, ∃ found, Entry.ofJson call.2 = .ok found ∧
        found.description.kind.Needs needed) ∧
    (final.helpers.map Prod.fst).Nodup ∧
    (∀ identity, identity ∈ final.helpers.map Prod.fst ↔
      ∃ number kind needed, Arena.Reads final.arena number kind ∧ kind.Needs needed ∧
        needed.identity? options = some identity) ∧
    (∀ number kind needed identity, Arena.Reads final.arena number kind → kind.Needs needed →
      needed.identity? options = some identity →
      final.helpers.lookup identity = some (needed.helperCode options)) := by
  have hsound : Sound options final := hfinal ▸ (sound_start options).resolveAll calls
  refine ⟨hsound.configured, ?_, ?_, hsound.helpers.ordered.nodup_keys, ?_, ?_⟩
  · intro number hnumber
    exact ⟨_, (Arena.reads_iff hsound.arena number _).mpr
      ⟨_, Array.getElem?_eq_getElem hnumber, rfl⟩⟩
  · intro needed
    rw [← Arena.occurs_iff_reads hsound.arena, ← hfinal, occurs_resolveAll]
    simp [Arena.Occurs]
  · intro identity
    constructor
    · intro hknown
      obtain ⟨⟨identity, code⟩, hmem, rfl⟩ := List.mem_map.mp hknown
      obtain ⟨needed, hoccurs, hidentity, -⟩ := hsound.helpers.sound identity code hmem
      obtain ⟨number, kind, hreads, hneeds⟩ := (Arena.occurs_iff_reads hsound.arena needed).mp hoccurs
      exact ⟨number, kind, needed, hreads, hneeds, hidentity⟩
    · rintro ⟨number, kind, needed, hreads, hneeds, hidentity⟩
      have hoccurs := (Arena.occurs_iff_reads hsound.arena needed).mpr ⟨number, kind, hreads, hneeds⟩
      exact hsound.helpers.complete needed identity hoccurs hidentity
  · intro number kind needed identity hreads hneeds hidentity
    have hoccurs := (Arena.occurs_iff_reads hsound.arena needed).mpr ⟨number, kind, hreads, hneeds⟩
    exact hsound.lookup_eq hapart hoccurs hidentity

def mixedCalls : List (Spec × Json) :=
  let choices (name : String) : Json := .object [("choices", .object [("1", .string name)])]
  [({}, .array [.number (.natural 0), .array [.string "Array",
      .object [("target", .string "Enumeration"), ("target_args", choices "one")]]]),
   ({}, .array [.number (.natural 0), .array [.string "Pointer", .object []]]),
   ({}, .array [.number (.natural 8), .array [.string "Pointer",
      .object [("target", .string "Enumeration"), ("target_args", choices "two")]]])]

theorem helpers_eq_closure_mixed :
    (resolveAll mixedCalls { options := {} }).KeysApart ∧
      (resolveAll mixedCalls { options := {} }).helpers.lookup "parse_array_enum_uint64_37ab2a46" =
        some (Helper.arrayCode {} (.enumeration ⟨.w64, [(1, "one")]⟩)) := by
  have hapart : (resolveAll mixedCalls { options := {} }).KeysApart :=
    keysApart_of_closures (by decide +kernel)
  have helement : (resolveAll mixedCalls { options := {} }).arena[0]? =
      some ⟨0, .enumeration ⟨.w64, [(1, "one")]⟩, none⟩ := by decide +kernel
  have harray : (resolveAll mixedCalls { options := {} }).arena[1]? =
      some ⟨0, .array (.fixed 0) (.enumeration ⟨.w64, [(1, "one")]⟩), some 0⟩ := by decide +kernel
  obtain ⟨-, -, -, -, -, hlookup⟩ := helpers_eq_closure {} mixedCalls rfl hapart
  exact ⟨hapart, hlookup 1 _ _ _ (.array harray rfl rfl (.leaf helement rfl)) .refl
    (by decide +kernel)⟩

end Context

end BinaryLayout
