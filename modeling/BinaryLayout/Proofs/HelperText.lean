import BinaryLayout.Profile.Build
import BinaryLayout.Proofs.KindText

/-!
# The Words of Helpers

The text of a helper uses no helper but those of kinds that its kind needs, and it defines the names
that are listed for the kind and no others. The functions of arrays are read for any element; the fixed
texts are read as they stand, but for the number of bytes that are scanned for a terminator.
-/

namespace BinaryLayout

open Words

namespace Helper

/-- The text uses helpers that are provided, and defines the given names in this order. -/
structure Reads (provided : List Char → Prop) (names : List String) (code : Code) : Prop where
  rows : Rows (Row (Within true provided)) code
  defines : definitions 0 (words code) = names.map String.toList

variable {provided : List Char → Prop}

theorem Within.weaken {item : Item} (hitem : Within false provided item) : Within true provided item :=
  hitem.mono (fun _ ↦ rfl) fun _ ↦ id

/-- A function is the keyword, its name, its arguments and result, and a body between braces. -/
def functionBlock (name : String) (rest : List Code.Part) (body : List Code) : Code :=
  .block ([.text "fn ", .define name] ++ rest) body

section

variable {name : String} {rest : List Code.Part} {body : List Code} {character : Char}
  {others : List Char}

theorem read_functionLine (hname : IsName name.toList) (hbehind : behind name.toList = .other)
    (hrest : lineText rest = character :: others) (hcharacter : isWord character = false) :
    Words.read start (lineText ([.text "fn ", .define name] ++ rest ++ [.text " \x7b"]) ++ ['\n']) =
      (.word ['f', 'n'] .named :: .word name.toList .definition ::
        (Words.read start (lineText rest ++ " \x7b\n".toList)).1,
        (Words.read start (lineText rest ++ " \x7b\n".toList)).2) := by
  have hline : lineText ([.text "fn ", .define name] ++ rest ++ [.text " \x7b"]) ++ ['\n'] =
      ['f', 'n', ' '] ++ (name.toList ++ character :: (others ++ " \x7b\n".toList)) := by
    simp [Code.Part.render, hrest]
  rw [hline, read_define hname hbehind hcharacter, hrest, List.cons_append]

theorem functionBlock_rows (hname : IsName name.toList) (hbehind : behind name.toList = .other)
    (hrest : lineText rest = character :: others) (hcharacter : isWord character = false)
    (hphrase : Phrase (Within true provided) (lineText rest))
    (hbody : ∀ piece ∈ body, Rows (Phrase (Within true provided)) piece) :
    Rows (Phrase (Within true provided)) (functionBlock name rest body) := by
  have hkeyword : Fits (Within true provided) start "fn ".toList ⟨.plain, .keyword⟩ :=
    quiet_fits rfl rfl
  have hdefined : Within true provided (.word name.toList (place .keyword character)) :=
    rfl
  refine .block trivial ?_ hbody (quiet rfl)
  obtain ⟨state, hfits, hsettled⟩ := hphrase
  have hline := hkeyword.append ((Fits.word hname).append
    (.behind_word hbehind hcharacter hdefined (hrest ▸ hfits)))
  refine ⟨state, ?_, hsettled⟩
  rw [lineText_append, hrest]
  simpa [Code.Part.render] using hline

/-- A function defines its name, and nothing else. -/
theorem Reads.function (hname : IsName name.toList) (hbehind : behind name.toList = .other)
    (hrest : lineText rest = character :: others) (hcharacter : isWord character = false)
    (hphrase : Phrase (Within false provided) (lineText rest))
    (hbody : ∀ piece ∈ body, Rows (Phrase (Within false provided)) piece) :
    Reads provided [name] (functionBlock name rest body) := by
  have hopening : Fits (Within false provided) start (lineText rest ++ " \x7b\n".toList) start :=
    hphrase.append_fits rfl (quiet_fits rfl rfl)
  have hinner : ∀ item ∈ body.flatMap words, Within false provided item := by
    intro item hitem
    obtain ⟨piece, hpiece, hitem⟩ := List.mem_flatMap.mp hitem
    exact ((hbody piece hpiece).mono fun _ htext ↦ htext.row).words_meet item hitem
  have hclosing : ∀ item ∈ words (.line [.text "\x7d"]), Within false provided item :=
    ((Rows.single (quiet rfl)).mono fun _ htext ↦ htext.row).words_meet
  constructor
  · refine (functionBlock_rows hname hbehind hrest hcharacter
      (hphrase.mono fun _ ↦ Within.weaken) fun piece hpiece ↦ ?_).mono fun _ htext ↦ htext.row
    exact (hbody piece hpiece).mono fun _ htext ↦ htext.mono fun _ ↦ Within.weaken
  · have hback : ∀ other, .word other .definition ∉
        (Words.read start (lineText rest ++ " \x7b\n".toList)).1 ++ body.flatMap words ++
          words (.line [.text "\x7d"]) := by
      intro other hother
      simp only [List.mem_append] at hother
      rcases hother with (hother | hother) | hother
      · exact nomatch hopening.meets _ hother
      · exact nomatch hinner _ hother
      · exact nomatch hclosing _ hother
    have hwords : words (functionBlock name rest body) =
        .word ['f', 'n'] .named :: .word name.toList .definition ::
          ((Words.read start (lineText rest ++ " \x7b\n".toList)).1 ++ body.flatMap words ++
            words (.line [.text "\x7d"])) := by
      rw [functionBlock, words_block, if_neg (by simp), words_line,
        read_functionLine hname hbehind hrest hcharacter]
      rfl
    rw [hwords]
    simp only [definitions, if_true, definitions_eq_nil 0 hback]
    rfl

end

/-- Lines without a definition or a brace may stand before a text. -/
theorem Reads.behind {front code : Code} {names : List String}
    (hfront : Rows (Row (Within true provided)) front) (houtline : outline front = [])
    (hcode : Reads provided names code) : Reads provided names (.join [front, code]) where
  rows := .join (by simpa using ⟨hfront, hcode.rows⟩)
  defines := by
    have hwords : words (.join [front, code]) = words front ++ words code := by simp
    have hnone : (words front).filter isOutline = [] := houtline
    rw [hwords, ← definitions_filter, List.filter_append, hnone, List.nil_append,
      definitions_filter, hcode.defines]

theorem behind_parse (rest : String) : behind ("parse_" ++ rest).toList = .other := by
  simp [Words.behind]

theorem integerCode_reads (type : IntegerType) : Reads provided [type.reader] (integerCode type) := by
  have hrest : lineText [.text ("(" ++ parameters ++ ") -> " ++ type.typeName)] =
      '(' :: (parameters ++ ") -> " ++ type.typeName).toList := by
    simp [Code.Part.render]
  refine Reads.function type.isName_reader (behind_parse type.key) hrest rfl ?_ ?_
  · simp only [lineText_cons, lineText_nil, Code.Part.render, List.append_nil]
    rw [String.toList_append]
    exact (quiet_fits rfl rfl).append_phrase (typeName_phrase type)
  · simp only [List.forall_mem_cons]
    refine ⟨.single ?_, .block trivial (quiet rfl) ?_ (quiet rfl), by simp⟩
    · simp only [lineText_cons, lineText_nil, Code.Part.render, List.append_nil,
        String.toList_append, List.append_assoc]
      exact (quiet_fits rfl rfl).append_phrase ((number_phrase _).append rfl (quiet rfl))
    · simp only [List.forall_mem_cons]
      refine ⟨.single ?_, .single (quiet rfl), by simp⟩
      simp only [lineText_cons, lineText_nil, Code.Part.render, List.append_nil,
        String.toList_append, List.append_assoc]
      exact (quiet_fits rfl rfl).append_phrase ((typeName_phrase type).append rfl (quiet rfl))

/-- The name of the profile stands where a type stands, and is none that a helper defines. -/
theorem profile_phrase {defines : Bool} {name : String} (hname : Profile.isUsableName name = true) :
    Phrase (Within defines provided) name.toList := by
  simp only [Profile.isUsableName, Bool.and_eq_true, Bool.not_eq_true'] at hname
  obtain ⟨⟨hidentifier, hkeyword⟩, hreserved⟩ := hname
  refine .word (isName_of_isIdentifier hidentifier) (if_neg ?_) fun htype ↦ ?_
  · rintro (hsame | hsame)
    · obtain rfl : name = "fn" := String.toList_injective hsame
      exact absurd hkeyword (by decide)
    · obtain rfl : name = "struct" := String.toList_injective hsame
      exact absurd hkeyword (by decide)
  · obtain ⟨type, hmem, hsame⟩ := List.any_eq_true.mp htype
    obtain rfl : type = name := String.toList_injective (by simpa using hsame)
    have hall : ∀ other ∈ types, reservedNames.contains other = true := by decide
    rw [hall type hmem] at hreserved
    nomatch hreserved

/-- What an array's function does for every element. -/
theorem elementStep_rows {options : Options} (count : Count) {element : Kind}
    (hnamed : element.IsNamed) :
    ∀ piece ∈ [(element.decodeCode options .helper).enclosed [.text "let value = "] [.text ";"],
        Code.line ([.text "offset = offset.wrapping_add("] ++ element.sizeParts "value" "offset" ++
          [.text " as u64);"]),
        .line [.text "result.push(value);"]],
      Rows (Phrase ((Kind.array count element).Uses options)) piece := by
  have helement (item : Item) (hitem : element.Uses options item) :
      (Kind.array count element).Uses options item :=
    Kind.uses_of_calls (Kind.calls_element count element) item hitem
  have hdecode := (Kind.decodeCode_rows .helper hnamed element.countsNamed_helper).mono
    fun _ htext ↦ htext.mono helement
  have hsize := (element.sizeParts_phrase (.inl ⟨rfl, rfl⟩)).mono helement
  simp only [List.forall_mem_cons]
  refine ⟨hdecode.enclosed (quiet_fits rfl rfl) rfl (quiet rfl), .single ?_, .single (quiet rfl),
    by simp⟩
  simp only [lineText_append, lineText_cons, lineText_nil, Code.Part.render, List.append_nil,
    List.append_assoc]
  exact (quiet_fits rfl rfl).append_phrase (hsize.append rfl (quiet rfl))

def arraySignature (options : Options) (element : Kind) : List Code.Part :=
  [.text ("<'a>(profile: &'a " ++ options.profile ++
    ", reader: &'a dyn ReaderAt, mut offset: u64, count: i64) -> Vec<")] ++
    element.typeParts ++ [.text ">"]

theorem arraySignature_phrase {options : Options}
    (hprofile : Profile.isUsableName options.profile = true) (count : Count) {element : Kind}
    (hnamed : element.IsNamed) :
    Phrase ((Kind.array count element).Uses options) (lineText (arraySignature options element)) := by
  have htype : Phrase ((Kind.array count element).Uses options) (lineText element.typeParts) :=
    (Kind.typeParts_phrase (Kind.allows_uses element) hnamed).mono
    (Kind.uses_of_calls (Kind.calls_element count element))
  simp only [arraySignature, lineText_append, lineText_cons, lineText_nil, Code.Part.render,
    List.append_nil, String.toList_append, List.append_assoc]
  exact (quiet_fits rfl rfl).append_phrase ((profile_phrase hprofile).append (breaks_append rfl _)
    ((quiet_fits rfl rfl).append_phrase (htype.append rfl (quiet rfl))))

theorem arrayCode_reads {options : Options} (hprofile : Profile.isUsableName options.profile = true)
    (count : Count) {element : Kind} (hnamed : element.IsNamed) :
    Reads ((Kind.array count element).Supplies options) [element.arrayReader options]
      (arrayCode options element) := by
  have hbehind : Words.behind (element.arrayReader options).toList = .other := by
    simp [Kind.arrayReader, Words.behind]
  have hhead : lineText (arraySignature options element) =
      '<' :: ("'a>(profile: &'a " ++ options.profile ++
        ", reader: &'a dyn ReaderAt, mut offset: u64, count: i64) -> Vec<").toList ++
          (lineText element.typeParts ++ ">".toList) := by
    simp [arraySignature, Code.Part.render]
  have hphrase := arraySignature_phrase hprofile count hnamed
  refine Reads.behind (.single (quiet rfl).row) rfl
    (Reads.function (Kind.isName_arrayReader options hnamed) hbehind hhead rfl hphrase ?_)
  simp only [List.forall_mem_cons]
  refine ⟨.single ?_, .single (quiet rfl),
    .block trivial (quiet rfl) (elementStep_rows count hnamed) (quiet rfl), .single (quiet rfl),
    by simp⟩
  simp only [lineText_cons, lineText_nil, Code.Part.render, List.append_nil,
    String.toList_append, List.append_assoc]
  exact (quiet_fits rfl rfl).append_phrase ((number_phrase _).append rfl (quiet rfl))

/-- Whether a fixed text uses the given helpers at most, and defines them in this order. -/
def describes (names : List String) (code : Code) : Bool :=
  (code.lines.all fun row ↦ settles (permits true names) (fixedText row.parts)) &&
    definitions 0 (fixedWords code) == names.map String.toList

theorem rows_of_all (names : List String) {code : Code}
    (hnames : ∀ name ∈ names, provided name.toList)
    (hcode : (code.lines.all fun row ↦ settles (permits true names) (fixedText row.parts)) = true) :
    Rows (Phrase (Within true provided)) code := by
  intro row hrow
  rw [← fixedText_eq_lineText]
  exact phrase_of_settles names hnames (List.all_eq_true.mp hcode row hrow)

theorem Reads.of_describes {names : List String} {code : Code}
    (hnames : ∀ name ∈ names, provided name.toList) (hcode : describes names code = true) :
    Reads provided names code := by
  obtain ⟨hrows, hdefines⟩ := Bool.and_eq_true_iff.mp hcode
  rw [fixedWords_eq_words] at hdefines
  exact ⟨(rows_of_all names hnames hrows).mono fun _ htext ↦ htext.row, by simpa using hdefines⟩

theorem enumerationCode_reads (hname : provided "Enumeration".toList) :
    Reads provided ["Enumeration"] enumerationCode :=
  .of_describes (by simpa using hname) (by decide +kernel)

theorem flagsCode_reads (hname : provided "Flags".toList) : Reads provided ["Flags"] flagsCode :=
  .of_describes (by simpa using hname) (by decide +kernel)

theorem signatureCode_reads (hnames : ∀ name ∈ ["Signature", "parse_signature"], provided name.toList) :
    Reads provided ["Signature", "parse_signature"] signatureCode :=
  .of_describes hnames (by decide +kernel)

/-- Whether an item uses and defines nothing and is no brace. -/
def calm (item : Item) : Bool :=
  permits false [] item && !isOutline item

theorem fillCode_rows {required : Item → Prop} (hcalm : ∀ item, calm item = true → required item)
    {length : String} (hlength : Phrase required length.toList) :
    Rows (Phrase required) (fillCode length) := by
  refine .join ?_
  simp only [List.forall_mem_cons]
  refine ⟨.single ?_, .single (.of_settles rfl hcalm), .single (.of_settles rfl hcalm), by simp⟩
  simp only [lineText_cons, lineText_nil, Code.Part.render, List.append_nil,
    String.toList_append, List.append_assoc]
  exact (Fits.of_check rfl rfl hcalm).append_phrase (hlength.append rfl (.of_settles rfl hcalm))

theorem outline_fillCode (number : Nat) : outline (fillCode (toString number)) = [] := by
  have hcalm (item : Item) (hitem : calm item = true) : isOutline item = false := by
    simpa using (Bool.and_eq_true_iff.mp hitem).2
  have hnumber : Phrase (fun item ↦ isOutline item = false) (toString number).toList :=
    .word (isName_toString number) (behind_toString number) rfl
  exact outline_eq_nil ((fillCode_rows hcalm hnumber).mono fun _ htext ↦ htext.row) fun _ ↦ id

theorem windowFill_rows (window : Nat) :
    Rows (Phrase (Within true provided)) (fillCode (toString window)) :=
  fillCode_rows (fun _ hitem ↦ (within_of_permits (by simp) (Bool.and_eq_true_iff.mp hitem).1 :
    Within false provided _).weaken) (number_phrase window)

/-- A text is outlined the same whatever the window is. -/
theorem Reads.of_outline {names : List String} {code sample : Code}
    (hrows : Rows (Row (Within true provided)) code) (houtline : outline code = outline sample)
    (hsample : definitions 0 (fixedWords sample) = names.map String.toList) :
    Reads provided names code where
  rows := hrows
  defines := by
    have hfilter : (words code).filter isOutline = (words sample).filter isOutline := houtline
    rw [← definitions_filter, hfilter, definitions_filter, ← fixedWords_eq_words, hsample]

theorem stringCode_reads (window : Nat) :
    Reads provided ["parse_terminated_string", "terminated_string_size", "parse_string"]
      (stringCode window) := by
  have hnone : ∀ name ∈ ([] : List String), provided name.toList := by simp
  have hrows : Rows (Phrase (Within true provided)) (stringCode window) := by
    refine .join ?_
    simp only [List.forall_mem_cons]
    refine ⟨.block trivial (phrase_of_settles [] hnone rfl) ?_ (quiet rfl),
      rows_of_all [] hnone rfl, .block trivial (phrase_of_settles [] hnone rfl) ?_ (quiet rfl),
      rows_of_all [] hnone rfl, rows_of_all [] hnone (by decide +kernel), by simp⟩
    · simp only [List.forall_mem_cons]
      exact ⟨windowFill_rows window, rows_of_all [] hnone (by decide +kernel),
        rows_of_all [] hnone rfl, by simp⟩
    · simp only [List.forall_mem_cons]
      exact ⟨windowFill_rows window, rows_of_all [] hnone (by decide +kernel), by simp⟩
  have houtline : outline (stringCode window) = outline (stringCode 1) := by
    simp only [stringCode, function, outline_join, outline_block, List.flatMap_cons,
      outline_fillCode]
  refine .of_outline (hrows.mono fun _ htext ↦ htext.row) houtline (by decide +kernel)

theorem utf16Code_reads (window : Nat) (hnames : ∀ name ∈ utf16Names, provided name.toList) :
    Reads provided utf16Names (utf16Code window) := by
  have houtline : outline (utf16Code window) = outline (utf16Code 1) := by
    simp only [utf16Code, function, outline_join, outline_block, List.flatMap_cons,
      outline_fillCode]
  have hcomment : Row (Within true provided) (lineText [.text
      "/// Length of the text before a double-zero terminator, rounded up to a whole unit."]) :=
    quiet_fits rfl rfl
  have hrow {code : Code} (hcode : Rows (Phrase (Within true provided)) code) :
      Rows (Row (Within true provided)) code :=
    hcode.mono fun _ htext ↦ htext.row
  have hfixed {code : Code} (hcode : (code.lines.all fun row ↦
      settles (permits true utf16Names) (fixedText row.parts)) = true) :
      Rows (Phrase (Within true provided)) code :=
    rows_of_all utf16Names hnames hcode
  have hopening {text : List Char} (htext : settles (permits true utf16Names) text = true) :
      Phrase (Within true provided) text :=
    phrase_of_settles utf16Names hnames htext
  -- Only the two functions that scan for a terminator have the window in their text.
  refine .of_outline (.join ?_) houtline (by decide +kernel)
  simp only [List.forall_mem_cons]
  refine ⟨hrow (.block trivial (hopening (by decide +kernel)) ?_ (quiet rfl)),
    hrow (hfixed (by decide +kernel)),
    hrow (.block trivial (hopening (by decide +kernel)) ?_ (quiet rfl)),
    hrow (hfixed (by decide +kernel)), .single hcomment, hrow (hfixed (by decide +kernel)),
    hrow (hfixed (by decide +kernel)), hrow (hfixed (by decide +kernel)),
    hrow (hfixed (by decide +kernel)), hrow (hfixed (by decide +kernel)), by simp⟩
  · simp only [List.forall_mem_cons]
    exact ⟨windowFill_rows window, hfixed (by decide +kernel), hfixed (by decide +kernel),
      hfixed (by decide +kernel), by simp⟩
  · simp only [List.forall_mem_cons]
    exact ⟨windowFill_rows window, hfixed (by decide +kernel), by simp⟩

end Helper

/-! ## Every kind -/

namespace Kind

variable {options : Options}

/-- The text of a kind's helper uses what the kind supplies and defines what it provides. -/
theorem helperCode_reads (hprofile : Profile.isUsableName options.profile = true) {kind : Kind}
    (hnamed : kind.IsNamed) :
    Helper.Reads (kind.Supplies options) (kind.provides options) (kind.helperCode options) := by
  have hempty : Helper.Reads (kind.Supplies options) [] .empty :=
    ⟨fun row hrow ↦ absurd hrow List.not_mem_nil, rfl⟩
  cases kind with
  | integer type => exact Helper.integerCode_reads type
  | enumeration choices =>
    exact Helper.enumerationCode_reads (supplies_of_provides rfl _ List.mem_cons_self)
  | flags names => exact Helper.flagsCode_reads (supplies_of_provides rfl _ List.mem_cons_self)
  | signature expected => exact Helper.signatureCode_reads (supplies_of_provides rfl)
  | text encoding length =>
    cases encoding with
    | bytes => exact Helper.stringCode_reads options.window
    | utf16 => exact Helper.utf16Code_reads options.window (supplies_of_provides rfl)
  | array count element => exact Helper.arrayCode_reads hprofile count hnamed
  | bitField field => exact hempty
  | pointer element => exact hempty
  | reference target => exact hempty

/-- The names that a helper defines, in the text as it is written. -/
theorem definitions_helperCode (hprofile : Profile.isUsableName options.profile = true) {kind : Kind}
    (hnamed : kind.IsNamed) :
    definitions 0 (items (kind.helperCode options).text) =
      (kind.provides options).map String.toList := by
  have hreads := helperCode_reads hprofile hnamed
  rw [items_text hreads.rows, hreads.defines]

theorem provides_nodup (kind : Kind) : (kind.provides options).Nodup := by
  cases kind with
  | text encoding length => cases encoding <;> simp [provides, Helper.utf16Names]
  | _ => simp [provides]

end Kind

namespace Helper

/-- The identities of helpers that define names other than their identity. -/
def owners : List (String × String) :=
  [("parse_signature", "Signature"), ("parse_terminated_string", "String"),
   ("terminated_string_size", "String"), ("parse_string", "String")] ++
    utf16Names.map fun name ↦ (name, "UTF16String")

def owner (name : String) : String :=
  (owners.lookup name).getD name

theorem owner_arrayReader (options : Options) (element : Kind) :
    owner (element.arrayReader options) = element.arrayReader options := by
  have hfront : "parse_array_".toList <+: (element.arrayReader options).toList := by
    simp [Kind.arrayReader]
  have hothers : ∀ entry ∈ owners, ¬ "parse_array_".toList <+: entry.1.toList := by decide
  have hnone : owners.lookup (element.arrayReader options) = none := by
    rw [List.lookup_eq_none_iff]
    intro entry hentry
    simp only [bne_iff_ne, ne_eq]
    rintro hsame
    exact hothers entry hentry (hsame ▸ hfront)
  rw [owner, hnone, Option.getD_none]

end Helper

/-- A name tells which helper defines it. -/
theorem Kind.identity?_of_provides {options : Options} {kind : Kind} {name : String}
    (hname : name ∈ kind.provides options) :
    kind.identity? options = some (Helper.owner name) := by
  cases kind with
  | integer type =>
    obtain rfl : name = type.reader := List.mem_singleton.mp hname
    obtain ⟨width, signed⟩ := type
    cases width <;> cases signed <;> rfl
  | array count element =>
    obtain rfl : name = element.arrayReader options := List.mem_singleton.mp hname
    rw [Helper.owner_arrayReader]
    rfl
  | text encoding length =>
    have hbytes : ∀ other ∈ ["parse_terminated_string", "terminated_string_size", "parse_string"],
        Helper.owner other = "String" := by decide
    have hutf16 : ∀ other ∈ Helper.utf16Names, Helper.owner other = "UTF16String" := by decide
    cases encoding with
    | bytes => exact congrArg some (hbytes name hname).symm
    | utf16 => exact congrArg some (hutf16 name hname).symm
  | enumeration choices =>
    obtain rfl : name = "Enumeration" := List.mem_singleton.mp hname
    rfl
  | flags names =>
    obtain rfl : name = "Flags" := List.mem_singleton.mp hname
    rfl
  | signature expected =>
    have hsignature : ∀ other ∈ ["Signature", "parse_signature"],
        Helper.owner other = "Signature" := by decide
    exact congrArg some (hsignature name hname).symm
  | bitField field => nomatch hname
  | pointer element => nomatch hname
  | reference target => nomatch hname

end BinaryLayout
