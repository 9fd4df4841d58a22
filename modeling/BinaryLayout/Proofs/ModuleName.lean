import BinaryLayout.Proofs.ProfileFidelity

/-!
# The Name of the Module

Nothing that a run does depends on the name of the module, and the artifact has it in one place, a line
comment of the header. The name is written there as it is, though, and a break in it ends the comment:
the lines behind its first one stand in the artifact as code. Up to these lines, the artifacts for two
names have the same code.
-/

namespace BinaryLayout

def Spec.withModule (spec : Spec) (name : String) : Spec :=
  { spec with module := name }

namespace Kind

variable (options : Options) (name : String)

theorem key_withModule (kind : Kind) : kind.key (options.withModule name) = kind.key options := by
  induction kind with
  | text encoding length => cases length <;> rfl
  | array count element ih =>
    have hcount : count.key (options.withModule name) = count.key options := by cases count <;> rfl
    rw [key, key, ih, hcount]
  | pointer element ih => rw [key, key, ih]
  | _ => rfl

theorem arrayReader_withModule (element : Kind) :
    element.arrayReader (options.withModule name) = element.arrayReader options := by
  rw [arrayReader, arrayReader, key_withModule]

theorem identity?_withModule (kind : Kind) :
    kind.identity? (options.withModule name) = kind.identity? options := by
  cases kind with
  | text encoding length => cases encoding <;> rfl
  | array count element => rw [identity?, identity?, arrayReader_withModule]
  | _ => rfl

theorem decodeCode_withModule (site : Site) (kind : Kind) :
    kind.decodeCode (options.withModule name) site = kind.decodeCode options site := by
  induction kind with
  | text encoding length => cases length <;> rfl
  | array count element _ =>
    have hcount : countText (options.withModule name) site count = countText options site count := by
      cases site <;> cases count <;> rfl
    rw [decodeCode, decodeCode, arrayReader_withModule, hcount]
  | pointer element ih => rw [decodeCode, decodeCode, ih]
  | _ => rfl

theorem helperCode_withModule (kind : Kind) :
    kind.helperCode (options.withModule name) = kind.helperCode options := by
  cases kind with
  | text encoding length => cases encoding <;> rfl
  | array count element =>
    rw [helperCode, helperCode, Helper.arrayCode, Helper.arrayCode, arrayReader_withModule,
      decodeCode_withModule]
    rfl
  | _ => rfl

end Kind

theorem Artifact.structureCode_withModule (options : Options) (name : String) (profile : Profile)
    (struct : Structure) :
    structureCode (options.withModule name) profile struct = structureCode options profile struct := by
  have haccessors : accessors (options.withModule name) struct = accessors options struct := by
    simp only [accessors, Kind.accessorCode, Kind.decodeCode_withModule]
  rw [structureCode, structureCode, haccessors]
  rfl

/-! ## Runs under another name -/

namespace Context

def withModule (name : String) (context : Context) : Context :=
  { context with options := context.options.withModule name }

variable (name : String)

theorem record_withModule (kind : Kind) (context : Context) :
    (context.withModule name).record kind = (context.record kind).withModule name := by
  have hidentity : kind.identity? (context.withModule name).options = kind.identity? context.options :=
    kind.identity?_withModule context.options name
  have hcode : kind.helperCode (context.withModule name).options = kind.helperCode context.options :=
    kind.helperCode_withModule context.options name
  rw [record, record, hidentity, hcode]
  cases kind.identity? context.options with
  | none => rfl
  | some identity =>
    dsimp only
    rw [apply_ite (withModule name)]
    rfl

theorem register_withModule (kind : Kind) (context : Context) :
    (context.withModule name).register kind = (context.register kind).withModule name := by
  rw [register_eq_foldl, register_eq_foldl]
  generalize kind.closure = kinds
  induction kinds generalizing context with
  | nil => rfl
  | cons needed rest ih => rw [List.foldl_cons, List.foldl_cons, record_withModule, ih]

theorem install_withModule (outside : Option String) (kind : Kind) (context : Context) :
    ∀ offset : UInt64, (context.withModule name).install outside kind offset =
      Prod.map id (withModule name) (context.install outside kind offset) := by
  induction kind using Kind.element_induction with
  | leaf kind hleaf =>
    intro offset
    rw [install_leaf hleaf, install_leaf hleaf]
    cases outside with
    | none =>
      change allocate _ (register kind (context.withModule name)) = _
      rw [register_withModule]
      rfl
    | some struct =>
      change allocate _ (register kind ((context.report (.outside struct)).withModule name)) = _
      rw [register_withModule]
      rfl
  | step kind element helement ih =>
    intro offset
    rw [install_of_element helement, install_of_element helement, ih]
    dsimp only [Prod.map]
    rw [register_withModule]
    rfl

theorem resolve_withModule (spec : Spec) (given : String) (entry : Json) (context : Context) :
    (context.withModule name).resolve (spec.withModule given) entry =
      Prod.map id (withModule name) (context.resolve spec entry) := by
  rw [resolve_eq, resolve_eq]
  cases Entry.ofJson entry with
  | error error => rfl
  | ok found =>
    dsimp only [settled]
    rw [install_withModule]
    rfl

end Context

namespace Attempt

variable {ε α β : Type}

/-- The second step does under the name what the first one does: it has the same result, and its context
differs in the name alone. -/
def AgreesUnder (name : String) (step step' : Attempt ε α) : Prop :=
  ∀ context : Context, step'.outcome (context.withModule name) =
    Prod.map id (Context.withModule name) (step.outcome context)

theorem AgreesUnder.bind {name : String} {step step' : Attempt ε α} {next next' : α → Attempt ε β}
    (hstep : AgreesUnder name step step')
    (hnext : ∀ value, AgreesUnder name (next value) (next' value)) :
    AgreesUnder name (step >>= next) (step' >>= next') := by
  intro context
  rw [outcome_bind, outcome_bind, hstep context]
  rcases step.outcome context with ⟨error | value, after⟩
  · rfl
  · exact hnext value after

end Attempt

open Attempt (AgreesUnder)

namespace Structure

variable (name given : String) (spec : Spec) (schemaName : String)

theorem buildMembers_withModule (fields : List (String × Json)) :
    AgreesUnder name (buildMembers spec schemaName fields)
      (buildMembers (spec.withModule given) schemaName fields) := by
  induction fields with
  | nil => exact fun _ ↦ rfl
  | cons field rest ih =>
    obtain ⟨fieldName, entry⟩ := field
    intro context
    rw [outcome_buildMembers_cons, outcome_buildMembers_cons, Context.resolve_withModule]
    change (if spec.selectsField schemaName fieldName then _ else _) = _
    cases spec.selectsField schemaName fieldName with
    | false => exact ih (context.report (.filtered schemaName fieldName))
    | true =>
      cases Name.isIdentifier fieldName with
      | false => rfl
      | true =>
        rcases context.resolve spec entry with ⟨error | found, after⟩
        · rfl
        · simp only [if_true, Prod.map, id_eq, ih after]

theorem build_withModule (entry : Json) :
    AgreesUnder name (build spec schemaName entry) (build (spec.withModule given) schemaName entry) := by
  refine AgreesUnder.bind (fun _ ↦ rfl) fun parts ↦ ?_
  refine (buildMembers_withModule name given spec schemaName parts.2).bind fun members ↦ ?_
  dsimp only
  split <;> exact fun _ ↦ rfl

end Structure

namespace Profile

theorem buildStructures_withModule (name given : String) (spec : Spec) (schema : Schema)
    (profile : String) (names : List String) (hnames : ∀ name ∈ names, schema.contains name = true) :
    ∀ taken, AgreesUnder name (buildStructures spec schema profile taken names)
      (buildStructures (spec.withModule given) schema profile taken names) := by
  induction names with
  | nil => exact fun _ _ ↦ rfl
  | cons schemaName rest ih =>
    intro taken context
    have hrest := ih fun other hother ↦ hnames other (List.mem_cons_of_mem _ hother)
    obtain ⟨entry, hentry⟩ := Option.isSome_iff_exists.mp (hnames schemaName List.mem_cons_self)
    rw [outcome_buildStructures_cons hentry, outcome_buildStructures_cons hentry]
    change (if spec.selectsStruct schemaName then _ else _) = _
    cases spec.selectsStruct schemaName with
    | false => exact hrest taken context
    | true =>
      cases isStructName profile (Name.canonical schemaName) with
      | false => rfl
      | true =>
        cases taken.lookup (Name.canonical schemaName) with
        | some other => rfl
        | none =>
          refine (Structure.build_withModule name given spec schemaName entry).bind
            (fun struct ↦ ?_) context
          exact (hrest _).bind fun structs _ ↦ rfl

/-- The name of the module changes neither the profile nor the error of a build. -/
theorem outcome_build_withModule (options : Options) (spec : Spec) (schema : Schema)
    (name given : String) :
    (build (spec.withModule given) schema).outcome { options := options.withModule name } =
      Prod.map id (Context.withModule name) ((build spec schema).outcome { options }) := by
  have hbuilt := buildStructures_withModule name given spec schema options.profile schema.sortedNames
    (contains_sortedNames schema) [] (start options spec schema)
  have hprofile : (options.withModule name).profile = options.profile := rfl
  have hstart : start (options.withModule name) (spec.withModule given) schema =
      (start options spec schema).withModule name :=
    rfl
  rw [outcome_build, outcome_build, hprofile, hstart, hbuilt]
  cases isUsableName options.profile with
  | false => rfl
  | true =>
    rw [if_pos rfl, if_pos rfl]
    rcases (buildStructures spec schema options.profile [] schema.sortedNames).outcome
      (start options spec schema) with ⟨error | built, after⟩
    · rfl
    · dsimp only [Prod.map, id_eq]
      cases offsetCollision? [] (offsetOwners (sorted built)) with
      | some error => rfl
      | none => cases Cycle.find? (sorted built) <;> rfl

end Profile

namespace Artifact

def isComment : List Char → Bool
  | '/' :: '/' :: _ => true
  | _ => false

def uncommented (text : List Char) : List (List Char) :=
  (text.splitOn '\n').filter fun line ↦ !isComment line

/-- The lines of a name behind its first one, without those that are comments themselves. -/
def spilled (name : String) : List (List Char) :=
  (name.toList.splitOn '\n').tail.filter fun line ↦ !isComment line

theorem splitOn_break (first second : List Char) :
    (first ++ '\n' :: second).splitOn '\n' = first.splitOn '\n' ++ second.splitOn '\n' :=
  List.splitOnP_append_cons first second (beq_self_eq_true '\n')

theorem uncommented_append (first second : List Char) :
    uncommented (first ++ '\n' :: second) = uncommented first ++ uncommented second := by
  simp only [uncommented, splitOn_break, List.filter_append]

theorem uncommented_of_comment {line : List Char} (hbreak : '\n' ∉ line) :
    uncommented ('/' :: '/' :: line) = [] := by
  have hline : '\n' ∉ '/' :: '/' :: line := by simpa using hbreak
  rw [uncommented, List.splitOn_eq_singleton hline]
  rfl

theorem spilled_of_unbroken {name : String} (hbreak : '\n' ∉ name.toList) : spilled name = [] := by
  rw [spilled, List.splitOn_eq_singleton hbreak]
  rfl

/-- In a comment, the first line of a name goes with the comment, and the other ones stand for
themselves. -/
theorem uncommented_comment {lead : List Char} (hlead : '\n' ∉ lead) (name : String) :
    uncommented ('/' :: '/' :: (lead ++ name.toList)) = spilled name := by
  by_cases hbreak : '\n' ∈ name.toList
  · obtain ⟨first, later, hname, hfirst⟩ := List.eq_append_cons_of_mem hbreak
    have hcomment : '\n' ∉ lead ++ first := by simp [hlead, hfirst]
    calc uncommented ('/' :: '/' :: (lead ++ name.toList))
        = uncommented ('/' :: '/' :: (lead ++ first) ++ '\n' :: later) := by simp [hname]
      _ = uncommented later := by rw [uncommented_append, uncommented_of_comment hcomment, List.nil_append]
      _ = spilled name := by
        rw [spilled, hname, splitOn_break, List.splitOn_eq_singleton hfirst]
        rfl
  · rw [spilled_of_unbroken hbreak, uncommented_of_comment]
    simp [hlead, hbreak]

/-- The name stands in the second line, and no other line depends on it. -/
theorem lines_code_withModule (context : Context) (profile : Profile) (name : String) :
    (code (context.withModule name) profile).lines =
      ⟨0, [.text "// Code generated by binparsegen. DO NOT EDIT."]⟩ ::
        ⟨0, [.text ("// Module: " ++ name)]⟩ :: (code context profile).lines.drop 2 := by
  have hstructures : structureCode (context.withModule name).options profile =
      structureCode context.options profile :=
    funext (structureCode_withModule context.options name profile)
  rw [code, hstructures]
  rfl

/-- The code of an artifact under a name: the lines that spill from the name, then the same for all
names. -/
theorem uncommented_code_withModule (context : Context) (profile : Profile) (name : String) :
    uncommented (code (context.withModule name) profile).text.toList =
      spilled name ++ uncommented (Code.text ⟨(code context profile).lines.drop 2⟩).toList := by
  have htext : (code (context.withModule name) profile).text.toList =
      '/' :: '/' :: " Code generated by binparsegen. DO NOT EDIT.".toList ++ '\n' ::
        ('/' :: '/' :: (" Module: ".toList ++ name.toList) ++ '\n' ::
          (Code.text ⟨(code context profile).lines.drop 2⟩).toList) := by
    rw [Code.text, lines_code_withModule]
    simp [Code.text, Code.Line.render, Code.spaces, Code.Part.render]
  rw [htext, uncommented_append, uncommented_append, uncommented_of_comment (by decide),
    uncommented_comment (by decide), List.nil_append]

theorem generateWith_withModule (options : Options) (spec : Spec) (schema : Schema)
    (name given : String) :
    generateWith (options.withModule name) (spec.withModule given) schema =
      ((Profile.build spec schema).outcome { options }).1.map fun profile ↦
        (code ((finalContext options spec schema).withModule name) profile).text := by
  have hbuild := Profile.outcome_build_withModule options spec schema name given
  change ((Profile.build (spec.withModule given) schema).outcome _).1.map (fun profile ↦
    (code ((Profile.build (spec.withModule given) schema).outcome _).2 profile).text) = _
  rw [hbuild]
  rfl

/-- All names give the same error, or all give an artifact, each with its own spilled lines before the
code that they share. -/
theorem generateWith_withModule_cases (options : Options) (spec : Spec) (schema : Schema) :
    (∃ error, ∀ name given,
      generateWith (options.withModule name) (spec.withModule given) schema = .error error) ∨
    ∃ shared, ∀ name given, ∃ text,
      generateWith (options.withModule name) (spec.withModule given) schema = .ok text ∧
        uncommented text.toList = spilled name ++ shared := by
  simp only [generateWith_withModule]
  cases ((Profile.build spec schema).outcome { options }).1 with
  | error error => exact .inl ⟨error, fun _ _ ↦ rfl⟩
  | ok profile =>
    exact .inr ⟨_, fun name _ ↦
      ⟨_, rfl, uncommented_code_withModule (finalContext options spec schema) profile name⟩⟩

/-- Under two names a run ends with the same error or succeeds both times, and the artifacts have the
same code exactly if the same lines spill from the names. None do from a name without breaks. The name
that the description gives has no part in it. -/
theorem code_under_names (options : Options) (spec : Spec) (schema : Schema)
    (first second given given' : String) :
    let run (name given : String) :=
      generateWith (options.withModule name) (spec.withModule given) schema
    (∃ error, run first given = .error error ∧ run second given' = .error error) ∨
      ∃ text text', run first given = .ok text ∧ run second given' = .ok text' ∧
        (∃ shared, uncommented text.toList = spilled first ++ shared ∧
          uncommented text'.toList = spilled second ++ shared) ∧
        (uncommented text.toList = uncommented text'.toList ↔ spilled first = spilled second) ∧
        ('\n' ∉ first.toList → '\n' ∉ second.toList →
          uncommented text.toList = uncommented text'.toList) := by
  intro run
  rcases generateWith_withModule_cases options spec schema with ⟨error, herror⟩ | ⟨shared, hshared⟩
  · exact .inl ⟨error, herror first given, herror second given'⟩
  · obtain ⟨text, htext, hcode⟩ := hshared first given
    obtain ⟨text', htext', hcode'⟩ := hshared second given'
    refine .inr ⟨text, text', htext, htext', ⟨shared, hcode, hcode'⟩, ?_, fun hfirst hsecond ↦ ?_⟩
    · rw [hcode, hcode', List.append_left_inj]
    · rw [hcode, hcode', spilled_of_unbroken hfirst, spilled_of_unbroken hsecond]

/-- A name may end the way a comment starts. -/
theorem code_under_names_unbroken : ∃ text text',
    generateWith (Options.withModule {} "elf") fileSpec fileSchema = .ok text ∧
      generateWith (Options.withModule {} "elf; //") fileSpec fileSchema = .ok text' ∧
      uncommented text.toList = uncommented text'.toList := by
  obtain ⟨after, hbuild, -⟩ := outcome_fileSchema
  rcases code_under_names {} fileSpec fileSchema "elf" "elf; //" "" "" with
    ⟨error, herror, -⟩ | ⟨text, text', htext, htext', -, -, hsame⟩
  · have hfails := (generateWith_withModule {} fileSpec fileSchema "elf" "").symm.trans herror
    rw [hbuild] at hfails
    cases hfails
  · exact ⟨text, text', htext, htext', hsame (by decide) (by decide)⟩

/-- What follows a break in the name is code. -/
theorem code_of_broken_name : ∃ text text',
    generate { module := "a", profile := "Test" } ⟨[]⟩ = .ok text ∧
      generate { module := "a\nb", profile := "Test" } ⟨[]⟩ = .ok text' ∧
      uncommented text'.toList = "b".toList :: uncommented text.toList := by
  have hbuild :
      (Profile.build { profile := "Test" } ⟨[]⟩).outcome { options := { profile := "Test" } } = _ :=
    Profile.outcome_build_of_empty (by decide) _
  rcases generateWith_withModule_cases { profile := "Test" } { profile := "Test" } ⟨[]⟩ with
    ⟨error, herror⟩ | ⟨shared, hshared⟩
  · have hfails := (generateWith_withModule _ _ _ "a" "").symm.trans (herror "a" "")
    rw [hbuild] at hfails
    cases hfails
  · obtain ⟨text, htext, hcode⟩ := hshared "a" "a"
    obtain ⟨text', htext', hcode'⟩ := hshared "a\nb" "a\nb"
    have hspilled : spilled "a\nb" = ["b".toList] := by decide
    refine ⟨text, text', htext, htext', ?_⟩
    rw [hcode, hcode', hspilled, spilled_of_unbroken (by decide)]
    rfl

end Artifact

end BinaryLayout
