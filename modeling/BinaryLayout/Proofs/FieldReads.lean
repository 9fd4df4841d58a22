import BinaryLayout.Proofs.KindText

/-!
# Fields That Code Reads

A text of the generated language reads the fields that stand behind a dot and are not called. The
accessor of a field reads one offset, which is that of its field. A structure may well have the name of
an offset, and so may the field that counts an array, but these are called, and a call reads no field.
-/

namespace BinaryLayout

namespace Words

def readField? (state : State) (character : Char) : Option (List Char) :=
  match state with
  | ⟨.word name, .dot⟩ => if isWord character || character = '(' then none else some name
  | _ => none

def fieldsRead : State → List Char → List (List Char)
  | _, [] => []
  | state, character :: rest =>
    (readField? state character).toList ++ fieldsRead (advance state character).2 rest

/-- The offsets that a text reads. A break behind it ends the last word. -/
def offsetsRead (text : String) : List (List Char) :=
  (fieldsRead start (text.toList ++ ['\n'])).filter Helper.isOffset

theorem fieldsRead_append (state : State) (first second : List Char) :
    fieldsRead state (first ++ second) =
      fieldsRead state first ++ fieldsRead (read state first).2 second := by
  induction first generalizing state with
  | nil => rfl
  | cons character rest ih => simp [fieldsRead, read, ih]

theorem member_of_readField? {state : State} {character : Char} {name : List Char}
    (hname : readField? state character = some name) :
    .word name .member ∈ (advance state character).1 := by
  unfold readField? at hname
  split at hname
  · rename_i word
    split at hname
    · cases hname
    · rename_i hends
      obtain rfl : word = name := Option.some.inj hname
      obtain ⟨hcharacter, -⟩ : isWord character = false ∧ character ≠ '(' := by simpa using hends
      simp [advance, hcharacter, place]
  · cases hname

/-- A field that is read is an item of the text. -/
theorem member_of_mem_fieldsRead {name text : List Char} : ∀ {state : State},
    name ∈ fieldsRead state text → .word name .member ∈ (read state text).1 := by
  induction text with
  | nil => exact fun hname ↦ absurd hname List.not_mem_nil
  | cons character rest ih =>
    intro state hname
    rcases List.mem_append.mp hname with hhere | hrest
    · exact List.mem_append_left _ (member_of_readField? (by simpa using hhere))
    · exact List.mem_append_right _ (ih hrest)

theorem fieldsRead_eq_nil {state next : State} {text : List Char}
    (hread : read state text = ([], next)) :
    fieldsRead state text = [] := by
  refine List.eq_nil_iff_forall_not_mem.mpr fun name hname ↦ ?_
  have hitem := member_of_mem_fieldsRead hname
  rw [hread] at hitem
  exact List.not_mem_nil hitem

/-- The text leads from one state to the other and reads no offset on the way. -/
structure Passes (state : State) (text : List Char) (next : State) : Prop where
  leads : (read state text).2 = next
  reads : ∀ name ∈ fieldsRead state text, Helper.isOffset name = false

/-- The item is no offset behind a dot, whether or not it is called. -/
def NoOffset : Item → Prop
  | .word name .member => Helper.isOffset name = false
  | _ => True

theorem noOffset_of_isWording {names : List String} {item : Item}
    (hitem : Helper.isWording names item = true) : NoOffset item := by
  cases item with
  | word name place =>
    cases place with
    | member => simpa [Helper.isWording, NoOffset] using hitem
    | _ => trivial
  | _ => trivial

namespace Passes

variable {state next last : State} {first second : List Char}

theorem append (hfirst : Passes state first next) (hsecond : Passes next second last) :
    Passes state (first ++ second) last := by
  constructor
  · rw [read_append, hfirst.leads]
    exact hsecond.leads
  · intro name hname
    rw [fieldsRead_append, hfirst.leads] at hname
    rcases List.mem_append.mp hname with hname | hname
    · exact hfirst.reads name hname
    · exact hsecond.reads name hname

theorem of_fits (hfits : Fits NoOffset state first next) : Passes state first next :=
  ⟨hfits.leads, fun _ hname ↦ hfits.meets _ (member_of_mem_fieldsRead hname)⟩

theorem word {before : Before} {name : List Char} (hname : IsName name) :
    Passes ⟨.plain, before⟩ name ⟨.word name, before⟩ :=
  .of_fits (.word hname)

/-- A call reads no field, whatever its name. -/
theorem call {before : Before} {name rest : List Char} (hname : IsName name)
    (hrest : Passes start ('(' :: rest) next) :
    Passes ⟨.plain, before⟩ (name ++ '(' :: rest) next := by
  refine (word hname).append ?_
  have hparenthesis : isWord '(' = false := by decide
  have hseparate (front : Before) : separate front '(' = ([], start) := by
    cases front <;> decide
  have hadvance : (advance ⟨.word name, before⟩ '(').2 = (advance start '(').2 := by
    simp [advance, hparenthesis, hseparate, start]
  have hfield : readField? ⟨.word name, before⟩ '(' = none := by
    cases before <;> simp [readField?]
  constructor
  · rw [← hrest.leads]
    simp [read, hadvance]
  · intro field hmem
    refine hrest.reads field ?_
    rw [fieldsRead, hfield, hadvance] at hmem
    exact hmem

end Passes

def Silent (text : List Char) : Prop :=
  Passes start (text ++ ['\n']) start

theorem Phrase.silent {text : List Char} (htext : Phrase NoOffset text) : Silent text :=
  .of_fits htext.row

theorem Passes.silent {text : List Char} (htext : Passes start text start) : Silent text :=
  htext.append (.of_fits (.lineBreak NoOffset))

theorem fieldsRead_render (row : Code.Line) :
    fieldsRead start (row.render.toList ++ ['\n']) =
      fieldsRead start (lineText row.parts ++ ['\n']) := by
  obtain ⟨count, hrender⟩ := exists_spaces row
  rw [hrender, List.append_assoc, fieldsRead_append, read_spaces,
    fieldsRead_eq_nil (read_spaces count), List.nil_append]

/-- The offsets of a code, line by line. -/
theorem offsetsRead_text {required : Item → Prop} {code : Code} (hcode : Rows (Row required) code) :
    offsetsRead code.text = code.lines.flatMap fun row ↦
      (fieldsRead start (lineText row.parts ++ ['\n'])).filter Helper.isOffset := by
  have hlast : fieldsRead start ['\n'] = [] := by decide
  rw [offsetsRead, fieldsRead_append, read_text hcode, hlast, List.append_nil]
  obtain ⟨rows⟩ := code
  induction rows with
  | nil => rfl
  | cons row rest ih =>
    obtain ⟨hrow, hrest⟩ := List.forall_mem_cons.mp hcode
    rw [toList_text_cons, fieldsRead_append, read_render, hrow.leads, List.filter_append, ih hrest,
      fieldsRead_render, List.flatMap_cons]

end Words

open Words

namespace Kind

variable {options : Options}

/-! ## Accessors -/

theorem allows_noOffset (kind : Kind) : kind.Allows options NoOffset where
  wording _ _ _ hitem := noOffset_of_isWording hitem
  called _ := trivial
  named _ := trivial

/-- The field that counts an array is called. If its name is a keyword, the mark in front of it ends
a word that is no offset. -/
theorem escaped_passes {field : String} (hfield : Name.isIdentifier field = true) {rest : List Char}
    {next : State} (hrest : Passes start ('(' :: rest) next) :
    Passes ⟨.plain, .dot⟩ ((Name.escaped field).toList ++ '(' :: rest) next := by
  have hname := isName_of_isIdentifier hfield
  unfold Name.escaped
  split
  · have hmark : Passes ⟨.plain, .dot⟩ "r#".toList start := ⟨by decide, by decide⟩
    rw [String.toList_append, List.append_assoc]
    exact hmark.append (.call hname hrest)
  · exact .call hname hrest

theorem arrayCall_silent {count : Count} {element : Kind} (hnamed : element.IsNamed)
    (hcounts : (array count element).CountsNamed .accessor) :
    Rows Silent ((array count element).decodeCode options .accessor) := by
  have hallows : (array count element).Allows options NoOffset := allows_noOffset _
  have hcount : Passes start ((countText options .accessor count).toList ++ ")".toList) start := by
    cases count with
    | fixed count =>
      exact .of_fits ((Helper.decimal_phrase hallows.word _).append_fits rfl (hallows.fits rfl rfl))
    | sibling field =>
      have hself : Passes start "self.".toList ⟨.plain, .dot⟩ := ⟨by decide, by decide⟩
      have hrest : Passes start "() as i64)".toList start := ⟨by decide, by decide⟩
      have htext : (countText options .accessor (.sibling field)).toList ++ ")".toList =
          "self.".toList ++ ((Name.escaped field).toList ++ "() as i64)".toList) := by
        simp [countText]
      rw [htext]
      exact hself.append (escaped_passes (hcounts rfl) hrest)
  have hfront : Passes start "(self.profile, self.reader, offset, ".toList start :=
    .of_fits (hallows.fits rfl rfl)
  have hwording : '\n' ∉ ("(" ++ Site.accessor.profile ++ ", " ++ Site.accessor.reader ++
      ", offset, " ++ countText options .accessor count ++ ")").toList := by
    simp [Site.profile, Site.reader, newline_notMem_countText .accessor hcounts]
  rw [decodeCode, arrayCall, wrapped_of_notMem _ hwording]
  refine .single ?_
  have hcall : Passes start ((element.arrayReader options).toList ++
      '(' :: ("self.profile, self.reader, offset, ".toList ++
        ((countText options .accessor count).toList ++ ")".toList))) start :=
    .call (isName_arrayReader options hnamed) (hfront.append hcount)
  simpa [Code.Part.render, Site.profile, Site.reader] using hcall.silent

/-- Decoding reads no offset. -/
theorem decodeCode_silent {kind : Kind} (hnamed : kind.IsNamed) (hcounts : kind.CountsNamed .accessor) :
    Rows Silent (kind.decodeCode options .accessor) := by
  induction kind with
  | array count element ih => exact arrayCall_silent hnamed hcounts
  | pointer element ih =>
    have hallows : (pointer element).Allows options NoOffset := allows_noOffset _
    have hopening : Silent "\x7b".toList := ⟨by decide, by decide⟩
    have hclosing : Silent "\x7d".toList := ⟨by decide, by decide⟩
    refine .braced (by simpa [Code.Part.render] using hopening) ?_
      (by simpa [Code.Part.render] using hclosing)
    simp only [List.forall_mem_cons]
    exact ⟨.single (pointerLine_phrase hallows .accessor).silent,
      ih hnamed hcounts.of_pointer, by simp⟩
  | reference target =>
    have hprofile : Passes start "self.profile.".toList ⟨.plain, .dot⟩ := ⟨by decide, by decide⟩
    have hrest : Passes start "(self.reader, offset)".toList start := ⟨by decide, by decide⟩
    have hcall : Passes start ("self.profile.".toList ++
        (target.toList ++ "(self.reader, offset)".toList)) start :=
      hprofile.append (.call (isName_of_isIdentifier (hnamed target rfl).1) hrest)
    refine .single ?_
    simpa [handleParts, Code.Part.render, Site.profile, Site.reader] using hcall.silent
  | _ =>
    refine Rows.mono ?_ fun _ ↦ Phrase.silent
    exact scalarCode_rows (allows_noOffset _) .accessor rfl fun _ ↦ Kind.noConfusion

/-- The first statement of an accessor reads the offset of its field. -/
theorem fieldsRead_offsetLine {owner field : String} (howner : IsName owner.toList)
    (hfield : IsName field.toList) :
    (fieldsRead start (lineText [.text "let offset = self.profile.", .offset owner field,
      .text ".wrapping_add(self.offset);"] ++ ['\n'])).filter Helper.isOffset =
        [(Code.offsetName owner field).toList] := by
  have hoffset : Helper.isOffset (Code.offsetName owner field).toList = true := by
    simp [Helper.isOffset, Code.offsetName]
  have hbehind : behind (Code.offsetName owner field).toList = .other := by
    simp [Code.offsetName, behind]
  have hname := read_name .dot (isName_offsetName howner hfield)
  have htext : lineText [.text "let offset = self.profile.", .offset owner field,
      .text ".wrapping_add(self.offset);"] ++ ['\n'] = "let offset = self.profile.".toList ++
        ((Code.offsetName owner field).toList ++ '.' :: "wrapping_add(self.offset);\n".toList) := by
    simp [Code.Part.render]
  have hfront : (Words.read start "let offset = self.profile.".toList).2 = ⟨.plain, .dot⟩ := by decide
  have hprofile : (fieldsRead start "let offset = self.profile.".toList).filter Helper.isOffset = [] := by
    decide
  have hrest : (fieldsRead ⟨.plain, .dot⟩ "wrapping_add(self.offset);\n".toList).filter
      Helper.isOffset = [] := by decide
  -- The dot behind the name ends it.
  have hread : fieldsRead ⟨.word (Code.offsetName owner field).toList, .dot⟩
      ('.' :: "wrapping_add(self.offset);\n".toList) = (Code.offsetName owner field).toList ::
        fieldsRead ⟨.plain, .dot⟩ "wrapping_add(self.offset);\n".toList := by
    have hdot : isWord '.' = false := by decide
    simp [fieldsRead, readField?, advance, hdot, hbehind, separate]
  rw [htext, fieldsRead_append, hfront, fieldsRead_append, fieldsRead_eq_nil hname, hname, hread,
    List.nil_append, List.filter_append, hprofile, List.nil_append, List.filter_cons_of_pos hoffset,
    hrest]

/-- The lines of an accessor. -/
theorem accessorCode_parts (owner field : String) (kind : Kind) :
    (kind.accessorCode options owner field).lines.map Code.Line.parts =
      ([.text ("pub fn " ++ Name.escaped field ++ "(&self) -> ")] ++ kind.typeParts ++
        [.text " \x7b"]) ::
      [.text "let offset = self.profile.", .offset owner field,
        .text ".wrapping_add(self.offset);"] ::
      ((kind.decodeCode options .accessor).lines.map Code.Line.parts ++ [[.text "\x7d"]]) := by
  have hlines (first second : Code) : (first ++ second).lines = first.lines ++ second.lines := rfl
  simp [accessorCode, Code.block, Code.indented, Code.join, Code.line, hlines]

/-- The accessor of a field reads the offset of that field, once, and no other. -/
theorem offsetsRead_accessorCode {owner field : String} (howner : IsName owner.toList)
    (hfield : Name.isIdentifier field = true) {kind : Kind} (hnamed : kind.IsNamed)
    (hcounts : kind.CountsNamed .accessor) :
    offsetsRead (kind.accessorCode options owner field).text =
      [(Code.offsetName owner field).toList] := by
  have hallows : kind.Allows options NoOffset := allows_noOffset kind
  let offsets (parts : List Code.Part) : List (List Char) :=
    (fieldsRead start (lineText parts ++ ['\n'])).filter Helper.isOffset
  have hsilent {parts : List Code.Part} (hparts : Silent (lineText parts)) : offsets parts = [] :=
    List.filter_eq_nil_iff.mpr fun name hname ↦ by simp [hparts.reads name hname]
  have hopening : Silent (lineText ([.text ("pub fn " ++ Name.escaped field ++ "(&self) -> ")] ++
      kind.typeParts ++ [.text " \x7b"])) := by
    have hsignature : Fits NoOffset start
        ("pub fn " ++ Name.escaped field ++ "(&self) -> ").toList start :=
      signature_fits (fun _ ↦ noOffset_of_isWording) (fun _ ↦ trivial) hfield
    have hbrace : Phrase NoOffset " \x7b".toList := hallows.phrase rfl
    have hline := hsignature.append_phrase ((typeParts_phrase hallows hnamed).append rfl hbrace)
    simpa [Code.Part.render] using hline.silent
  have hown : offsets [.text "let offset = self.profile.", .offset owner field,
      .text ".wrapping_add(self.offset);"] = [(Code.offsetName owner field).toList] :=
    fieldsRead_offsetLine howner (isName_of_isIdentifier hfield)
  have hdecode : ((kind.decodeCode options .accessor).lines.map Code.Line.parts).flatMap offsets = [] := by
    rw [List.flatMap_map]
    exact List.flatMap_eq_nil_iff.mpr fun row hrow ↦ hsilent (decodeCode_silent hnamed hcounts row hrow)
  have hclosing : Silent (lineText [.text "\x7d"]) := (hallows.phrase rfl).silent
  have hrows : Rows (Phrase (Helper.Within true (kind.Supplies options)))
      (kind.accessorCode options owner field) :=
    accessorCode_rows howner hfield hnamed hcounts
  calc offsetsRead (kind.accessorCode options owner field).text
      = ((kind.accessorCode options owner field).lines.map Code.Line.parts).flatMap offsets := by
        rw [offsetsRead_text (hrows.mono fun _ htext ↦ htext.row), List.flatMap_map]
    _ = [(Code.offsetName owner field).toList] := by
        rw [accessorCode_parts, List.flatMap_cons, List.flatMap_cons, List.flatMap_append, hdecode,
          hsilent hopening, hown, List.flatMap_singleton, hsilent hclosing]
        rfl

end Kind

end BinaryLayout
