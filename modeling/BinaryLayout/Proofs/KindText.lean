import BinaryLayout.Proofs.HelperClosure
import BinaryLayout.Proofs.SourceWords

/-!
# The Words of Kinds

The type, the size and the decoding of a kind use no helper but those of kinds that it needs. A
structure that a field refers to is the one exception: its name stands where a type stands, whether or
not a helper defines it.
-/

namespace BinaryLayout

open Words

namespace Helper

def types : List String :=
  ["Enumeration", "Flags", "Signature"]

def utf16Names : List String :=
  ["parse_terminated_utf16_string", "terminated_utf16_size", "utf16_text_end",
   "parse_utf16_string", "utf16_bytes_to_string"]

/-- The functions that helpers define, those that decode arrays apart. -/
def functions : List String :=
  ["parse_uint8", "parse_uint16", "parse_uint32", "parse_uint64", "parse_int8", "parse_int16",
   "parse_int32", "parse_int64", "parse_signature", "parse_terminated_string",
   "terminated_string_size", "parse_string"] ++ utf16Names

def isType (name : List Char) : Bool :=
  types.any (·.toList == name)

def isFunction (name : List Char) : Bool :=
  functions.any (·.toList == name) || "parse_array_".toList.isPrefixOf name

theorem isType_eq_false {name : List Char}
    (hname : ∀ character ∈ name, character ≠ 'g' ∧ character ≠ 'n') : isType name = false := by
  rw [isType, List.any_eq_false]
  intro type htype hsame
  obtain rfl : type.toList = name := by simpa using hsame
  have hletters : ∀ other ∈ types, 'g' ∈ other.toList ∨ 'n' ∈ other.toList := by decide
  rcases hletters type htype with hletter | hletter
  · exact (hname 'g' hletter).1 rfl
  · exact (hname 'n' hletter).2 rfl

/-- Helpers that are used are provided, and a name is defined only where this is allowed. -/
def Within (defines : Bool) (provided : List Char → Prop) : Item → Prop
  | .word name .called => isFunction name ∨ isType name → provided name
  | .word name .named => isType name → provided name
  | .word _ .definition => defines
  | .word _ .member | .opening | .closing => True

/-- Whether an item uses at most the given helpers, and defines a name only where this is allowed. -/
def permits (defines : Bool) (names : List String) : Item → Bool
  | .word name .called => !isFunction name && !isType name || names.any (·.toList == name)
  | .word name .named => !isType name || names.any (·.toList == name)
  | .word _ .definition => defines
  | .word _ .member | .opening | .closing => true

def isOffset (name : List Char) : Bool :=
  "Off_".toList.isPrefixOf name

/-- Whether an item belongs to the wording around the given helpers: it uses no others, defines no
name and is no offset. -/
def isWording (names : List String) : Item → Bool
  | .word name .member => !isOffset name
  | item => permits false names item

theorem permits_of_isWording {names : List String} {item : Item}
    (hitem : isWording names item = true) : permits false names item = true := by
  cases item with
  | word name place =>
    cases place with
    | member => rfl
    | _ => exact hitem
  | _ => exact hitem

section

variable {defines : Bool} {provided : List Char → Prop} {text : List Char}

theorem within_of_permits {names : List String} (hnames : ∀ name ∈ names, provided name.toList)
    {item : Item} (hpermits : permits defines names item = true) : Within defines provided item := by
  have hgiven {name : List Char} (hname : names.any (·.toList == name) = true) : provided name := by
    obtain ⟨given, hmem, hsame⟩ := List.any_eq_true.mp hname
    obtain rfl : given.toList = name := by simpa using hsame
    exact hnames given hmem
  cases item with
  | word name place =>
    cases place with
    | called =>
      rcases Bool.or_eq_true_iff.mp hpermits with hother | hname
      · intro hhelper
        simp_all
      · exact fun _ ↦ hgiven hname
    | named =>
      rcases Bool.or_eq_true_iff.mp hpermits with hother | hname
      · intro htype
        simp_all
      · exact fun _ ↦ hgiven hname
    | definition => exact hpermits
    | member => trivial
  | opening => trivial
  | closing => trivial

theorem Within.mono {defines' : Bool} {provided' : List Char → Prop} {item : Item}
    (hitem : Within defines provided item) (hdefines : defines → defines')
    (hprovided : ∀ name, provided name → provided' name) : Within defines' provided' item := by
  cases item with
  | word name place =>
    cases place with
    | called => exact fun hname ↦ hprovided name (hitem hname)
    | named => exact fun hname ↦ hprovided name (hitem hname)
    | definition => exact hdefines hitem
    | member => trivial
  | opening => trivial
  | closing => trivial

theorem within_of_isWording (item : Item) (hitem : isWording [] item = true) :
    Within defines provided item :=
  (within_of_permits (by simp) (permits_of_isWording hitem) : Within false provided item).mono
    nofun fun _ ↦ id

theorem phrase_of_settles (names : List String) (hnames : ∀ name ∈ names, provided name.toList)
    (htext : settles (permits defines names) text = true) : Phrase (Within defines provided) text :=
  .of_settles htext fun _ ↦ within_of_permits hnames

theorem fits_of_permits (names : List String) (hnames : ∀ name ∈ names, provided name.toList)
    {next : State} (hitems : (Words.read start text).1.all (permits defines names) = true)
    (hleads : (Words.read start text).2 = next) : Fits (Within defines provided) start text next :=
  .of_check hitems hleads fun _ ↦ within_of_permits hnames

/-- A fixed text that uses no helper. -/
theorem quiet (htext : settles (permits false []) text = true) :
    Phrase (Within defines provided) text :=
  (phrase_of_settles [] (by simp) htext).mono fun _ hitem ↦ hitem.mono nofun fun _ ↦ id

theorem quiet_fits {next : State} (hitems : (Words.read start text).1.all (permits false []) = true)
    (hleads : (Words.read start text).2 = next) : Fits (Within defines provided) start text next :=
  (fits_of_permits [] (by simp) hitems hleads).mono
    fun _ hitem ↦ hitem.mono nofun fun _ ↦ id

theorem typeName_phrase (type : IntegerType) :
    Phrase (Within defines provided) type.typeName.toList := by
  obtain ⟨width, signed⟩ := type
  cases width <;> cases signed <;> exact quiet rfl

theorem letterless_phrase {required : Item → Prop}
    (hword : ∀ name, isType name = false → required (.word name .named)) (hname : IsName text)
    (hletters : ∀ character ∈ text, character ≠ 'g' ∧ character ≠ 'n' ∧ character ≠ 't') :
    Phrase required text := by
  refine .word hname (behind_eq_other ⟨?_, ?_⟩) (hword text ?_)
  · exact fun hletter ↦ (hletters 'n' hletter).2.1 rfl
  · exact fun hletter ↦ (hletters 't' hletter).2.2 rfl
  · exact isType_eq_false fun character hcharacter ↦
      ⟨(hletters character hcharacter).1, (hletters character hcharacter).2.1⟩

theorem decimal_phrase {required : Item → Prop}
    (hword : ∀ name, isType name = false → required (.word name .named)) (number : Nat) :
    Phrase required (toString number).toList := by
  refine letterless_phrase hword (isName_toString number) ?_
  rw [toList_toString_nat]
  exact forall_mem_toDigits (by decide) (by decide) (by decide) number

theorem hex_phrase {required : Item → Prop}
    (hword : ∀ name, isType name = false → required (.word name .named)) (number : Nat) :
    Phrase required (hex number).toList := by
  have htext : (hex number).toList = '0' :: 'x' :: Nat.toDigits 16 number := by
    simp [hex]
  have hwords := isWord_toDigits (show 1 < 16 by decide) le_rfl number
  have hdigits : ∀ character ∈ Nat.toDigits 16 number,
      character ≠ 'g' ∧ character ≠ 'n' ∧ character ≠ 't' :=
    forall_mem_toDigits (by decide) le_rfl (by decide) number
  rw [htext]
  refine letterless_phrase hword ⟨?_, by simp⟩ (by simpa using hdigits)
  have hzero : isWord '0' := by rfl
  have hx : isWord 'x' := by rfl
  simpa [hzero, hx] using hwords

theorem number_phrase (number : Nat) : Phrase (Within defines provided) (toString number).toList := by
  refine decimal_phrase (fun name hother htype ↦ ?_) number
  simp [hother] at htype

end

end Helper

namespace Kind

/-- The names that the helper of a kind defines, in the order of its text. -/
def provides (options : Options) : Kind → List String
  | .integer type => [type.reader]
  | .enumeration _ => ["Enumeration"]
  | .flags _ => ["Flags"]
  | .signature _ => ["Signature", "parse_signature"]
  | .text .bytes _ => ["parse_terminated_string", "terminated_string_size", "parse_string"]
  | .text .utf16 _ => Helper.utf16Names
  | .array _ element => [element.arrayReader options]
  | .bitField _ | .pointer _ | .reference _ => []

/-- A kind that is needed has a helper that defines the name, or is the structure of that name. -/
def Supplies (options : Options) (kind : Kind) (name : List Char) : Prop :=
  ∃ needed item, kind.Needs needed ∧
    (item ∈ needed.provides options ∨ needed = .reference item) ∧ item.toList = name

variable {options : Options}

theorem supplies_of_provides {kind : Kind} {names : List String}
    (hnames : kind.provides options = names) : ∀ name ∈ names, kind.Supplies options name.toList := by
  rintro name hname
  exact ⟨kind, name, .refl, .inl (hnames ▸ hname), rfl⟩

theorem Supplies.of_calls {kind next : Kind} {name : List Char} (hcalls : kind.Calls next)
    (hname : next.Supplies options name) : kind.Supplies options name := by
  obtain ⟨needed, item, hneeds, hitem, hsame⟩ := hname
  exact ⟨needed, item, .head hcalls hneeds, hitem, hsame⟩

/-- The function that reads the integer behind a kind. -/
theorem supplies_reader {kind : Kind} {type : IntegerType} (hcalls : kind.Calls (.integer type)) :
    kind.Supplies options type.reader.toList :=
  .of_calls hcalls (supplies_of_provides rfl type.reader List.mem_cons_self)

end Kind

theorem isName_of_all {name : List Char} (hname : (!name.isEmpty && name.all isWord) = true) :
    IsName name := by
  obtain ⟨hnonempty, hall⟩ := Bool.and_eq_true_iff.mp hname
  exact ⟨List.all_eq_true.mp hall, by simpa using hnonempty⟩

theorem isName_append {front back : String} (hfront : IsName front.toList)
    (hback : IsName back.toList) : IsName (front ++ back).toList := by
  rw [String.toList_append]
  refine ⟨fun character hcharacter ↦ ?_, by simp [hfront.nonempty]⟩
  rcases List.mem_append.mp hcharacter with hcharacter | hcharacter
  · exact hfront.characters character hcharacter
  · exact hback.characters character hcharacter

theorem Checksum.isName_digest (text : String) : IsName (digest text).toList := by
  have hzero : isWord '0' := by rfl
  rw [digest, String.toList_ofList]
  refine ⟨fun character hcharacter ↦ ?_, by simp⟩
  rcases List.mem_append.mp hcharacter with hpadding | hdigit
  · rwa [List.eq_of_mem_replicate hpadding]
  · exact isWord_toDigits (by decide) (by decide) _ character hdigit

namespace IntegerType

theorem isName_key (type : IntegerType) : IsName type.key.toList := by
  refine isName_append ?_ (isName_toString _)
  split <;> exact isName_of_all rfl

theorem isName_reader (type : IntegerType) : IsName type.reader.toList :=
  isName_append (isName_of_all rfl) type.isName_key

end IntegerType

namespace Kind

theorem isName_textReader (isTerminated : Bool) (encoding : Encoding) :
    IsName (textReader isTerminated encoding).toList := by
  cases isTerminated <;> cases encoding <;> exact isName_of_all rfl

theorem isName_terminatedSize (encoding : Encoding) : IsName (terminatedSize encoding).toList := by
  cases encoding <;> exact isName_of_all rfl

theorem isName_countKey (options : Options) (count : Count) : IsName (count.key options).toList := by
  cases count with
  | fixed count => exact isName_toString _
  | sibling field =>
    have hdynamic : IsName "dyn".toList := isName_of_all rfl
    exact hdynamic

/-- A key is a fragment of an identifier. -/
theorem isName_key (options : Options) {kind : Kind} (hnamed : kind.IsNamed) :
    IsName (kind.key options).toList := by
  have hunderscore : IsName "_".toList := isName_of_all rfl
  induction kind with
  | integer type => exact type.isName_key
  | bitField field =>
    refine isName_append (isName_append (isName_append (isName_append (isName_append ?_ ?_)
      hunderscore) (isName_toString _)) hunderscore) (isName_toString _)
    · exact isName_of_all rfl
    · exact IntegerType.isName_key _
  | enumeration choices =>
    refine isName_append (isName_append (isName_append ?_ ?_) hunderscore) (Checksum.isName_digest _)
    · exact isName_of_all rfl
    · exact IntegerType.isName_key _
  | flags names =>
    refine isName_append (isName_append (isName_append ?_ ?_) hunderscore) (Checksum.isName_digest _)
    · exact isName_of_all rfl
    · exact IntegerType.isName_key _
  | signature expected =>
    exact isName_append (isName_of_all rfl) (Checksum.isName_digest _)
  | text encoding length =>
    have hencoding : IsName encoding.key.toList := by
      cases encoding <;> exact isName_of_all rfl
    cases length with
    | none => exact hencoding
    | some length => exact isName_append (isName_append hencoding hunderscore) (isName_toString _)
  | array count element ih =>
    refine isName_append (isName_append (isName_append ?_ (isName_countKey options count))
      hunderscore) (ih hnamed)
    exact isName_of_all rfl
  | pointer element ih => exact isName_append (isName_of_all rfl) (ih hnamed)
  | reference target => exact isName_of_isIdentifier (hnamed target rfl).1

theorem isName_arrayReader (options : Options) {element : Kind} (hnamed : element.IsNamed) :
    IsName (element.arrayReader options).toList :=
  isName_append (isName_of_all rfl) (isName_key options hnamed)

end Kind

/-- A canonical name is no keyword before a definition. -/
theorem Name.behind_canonical (name : String) : behind (canonical name).toList = .other := by
  have hhead {head : Char} {rest : List Char} (hname : (canonical name).toList = head :: rest) :
      head.isLower = false := by
    have hmem : head ∈ (canonical name).toList.head? := by simp [hname]
    exact canonical_head_not_lower hmem
  refine if_neg ?_
  rintro (hname | hname)
  · exact absurd (hhead hname) (by decide)
  · exact absurd (hhead hname) (by decide)

/-! ## Types, sizes and calls -/

namespace Kind

variable {options : Options}

abbrev Uses (options : Options) (kind : Kind) : Item → Prop :=
  Helper.Within false (kind.Supplies options)

theorem uses_of_calls {kind next : Kind} (hcalls : kind.Calls next) (item : Item)
    (hitem : next.Uses options item) : kind.Uses options item :=
  hitem.mono id fun _ hname ↦ hname.of_calls hcalls

theorem calls_element (count : Count) (element : Kind) : (array count element).Calls element :=
  List.mem_cons_self

theorem calls_target (element : Kind) : (pointer element).Calls element :=
  List.mem_cons_of_mem _ List.mem_cons_self

/-- What is required of items leaves room for the text of a kind: for wording, and for what the kind
supplies. -/
structure Allows (options : Options) (kind : Kind) (required : Item → Prop) : Prop where
  wording : ∀ names : List String, (∀ name ∈ names, kind.Supplies options name.toList) →
    ∀ item, Helper.isWording names item = true → required item
  called : ∀ {name : List Char}, kind.Supplies options name → required (.word name .called)
  named : ∀ {name : List Char}, kind.Supplies options name → required (.word name .named)

theorem allows_uses (kind : Kind) : kind.Allows options (kind.Uses options) where
  wording _ hnames _ hitem :=
    Helper.within_of_permits hnames (Helper.permits_of_isWording hitem)
  called hname _ := hname
  named hname _ := hname

namespace Allows

variable {kind : Kind} {required : Item → Prop} {text : List Char}

theorem of_calls {next : Kind} (hallows : kind.Allows options required) (hcalls : kind.Calls next) :
    next.Allows options required where
  wording names hnames := hallows.wording names fun name hname ↦ (hnames name hname).of_calls hcalls
  called hname := hallows.called (hname.of_calls hcalls)
  named hname := hallows.named (hname.of_calls hcalls)

/-- Fixed text that uses what the kind supplies. -/
theorem phrase_of (hallows : kind.Allows options required) (names : List String)
    (hnames : ∀ name ∈ names, kind.Supplies options name.toList)
    (htext : settles (Helper.isWording names) text = true) : Phrase required text :=
  .of_settles htext (hallows.wording names hnames)

theorem fits_of (hallows : kind.Allows options required) (names : List String)
    (hnames : ∀ name ∈ names, kind.Supplies options name.toList) {next : State}
    (hitems : (Words.read start text).1.all (Helper.isWording names) = true)
    (hleads : (Words.read start text).2 = next) : Fits required start text next :=
  .of_check hitems hleads (hallows.wording names hnames)

theorem phrase (hallows : kind.Allows options required)
    (htext : settles (Helper.isWording []) text = true) : Phrase required text :=
  hallows.phrase_of [] (by simp) htext

theorem fits (hallows : kind.Allows options required) {next : State}
    (hitems : (Words.read start text).1.all (Helper.isWording []) = true)
    (hleads : (Words.read start text).2 = next) : Fits required start text next :=
  hallows.fits_of [] (by simp) hitems hleads

theorem word (hallows : kind.Allows options required) (name : List Char)
    (hother : Helper.isType name = false) : required (.word name .named) :=
  hallows.wording [] (by simp) _ (by simp [Helper.isWording, Helper.permits, hother])

end Allows

theorem typeParts_phrase {kind : Kind} {required : Item → Prop}
    (hallows : kind.Allows options required) (hnamed : kind.IsNamed) :
    Phrase required (lineText kind.typeParts) := by
  induction kind with
  | integer type =>
    have htype : Phrase required type.typeName.toList := by
      obtain ⟨width, signed⟩ := type
      cases width <;> cases signed <;> exact hallows.phrase rfl
    simpa [typeParts, Code.Part.render] using htype
  | bitField field =>
    change Phrase _ (lineText [.text "u64"])
    exact hallows.phrase rfl
  | enumeration choices =>
    change Phrase _ (lineText [.mention "Enumeration"])
    exact hallows.phrase_of ["Enumeration"] (supplies_of_provides rfl) (by rfl)
  | flags names =>
    change Phrase _ (lineText [.mention "Flags"])
    exact hallows.phrase_of ["Flags"] (supplies_of_provides rfl) (by rfl)
  | signature expected =>
    change Phrase _ (lineText [.mention "Signature"])
    exact hallows.phrase_of ["Signature", "parse_signature"] (supplies_of_provides rfl) (by rfl)
  | text encoding length =>
    change Phrase _ (lineText [.text "String"])
    exact hallows.phrase rfl
  | array count element ih =>
    have helement := ih (hallows.of_calls (calls_element count element)) hnamed
    simp only [typeParts, lineText_append, lineText_cons, lineText_nil, Code.Part.render,
      List.append_nil, List.append_assoc]
    exact (hallows.fits rfl rfl).append_phrase (helement.append (by rfl) (hallows.phrase rfl))
  | pointer element ih => exact ih (hallows.of_calls (calls_target element)) hnamed
  | reference target =>
    obtain ⟨hidentifier, name, hname⟩ := hnamed target rfl
    have hsupplies : (reference target).Supplies options target.toList :=
      ⟨.reference target, target, .refl, .inr rfl, rfl⟩
    have htarget : Phrase required target.toList := by
      refine .word (isName_of_isIdentifier hidentifier) ?_ (hallows.named hsupplies)
      rw [hname]
      exact Name.behind_canonical name
    simp only [typeParts, lineText_cons, lineText_nil, Code.Part.render, List.append_nil]
    exact htarget.append (by rfl) (hallows.phrase rfl)

/-- A call with the reader and the offset, and at most a number behind them. -/
theorem callParts_fits {kind : Kind} {required : Item → Prop} (hallows : kind.Allows options required)
    (site : Site) {function : String} (hname : IsName function.toList)
    (hsupplies : kind.Supplies options function.toList) (number : Option Nat) :
    Fits required start (lineText (callParts site function (number.map toString).toList)) start := by
  have hfunction : required (.word function.toList (place .other '(')) := hallows.called hsupplies
  cases number with
  | none =>
    have htext : lineText (callParts site function []) =
        function.toList ++ '(' :: (site.reader.toList ++ ", offset)".toList) := by
      simp [callParts, Code.Part.render]
    change Fits _ _ (lineText (callParts site function [])) _
    rw [htext]
    refine .call hname hfunction ?_
    cases site <;> exact hallows.fits rfl rfl
  | some number =>
    have htext : lineText (callParts site function [toString number]) =
        function.toList ++ '(' :: (site.reader.toList ++ ", offset, ".toList ++
          ((toString number).toList ++ [')'])) := by
      simp [callParts, Code.Part.render]
    have hfront : Fits required start ('(' :: (site.reader.toList ++ ", offset, ".toList)) start := by
      cases site <;> exact hallows.fits rfl rfl
    change Fits _ _ (lineText (callParts site function [toString number])) _
    rw [htext]
    refine .call hname hfunction (hfront.append ?_)
    exact (Helper.decimal_phrase hallows.word number).append_fits (by rfl) (hallows.fits rfl rfl)

/-- The names of a value and its offset where sizes are written: those of an array's function, or
those of what a nested array holds. -/
def IsSpot (value offset : String) : Prop :=
  value = "value" ∧ offset = "offset" ∨ value = "(*item)" ∧ offset = "end"

theorem sizeParts_phrase (kind : Kind) : ∀ {value offset : String}, IsSpot value offset →
    Phrase (kind.Uses options) (lineText (kind.sizeParts value offset)) := by
  induction kind with
  | text encoding length =>
    intro value offset hspot
    cases length with
    | some length => simpa [sizeParts, Code.Part.render] using Helper.number_phrase _
    | none =>
      have hsupplies : (text encoding none).Supplies options (terminatedSize encoding).toList := by
        cases encoding <;>
          exact supplies_of_provides rfl _ (by simp [terminatedSize, provides, Helper.utf16Names])
      have hrest : Fits ((text encoding none).Uses options) start
          ('(' :: ("reader, " ++ offset ++ ")").toList) start := by
        rcases hspot with ⟨-, rfl⟩ | ⟨-, rfl⟩ <;> exact Helper.quiet_fits rfl rfl
      have hcall : Fits ((text encoding none).Uses options) start
          ((terminatedSize encoding).toList ++ '(' :: ("reader, " ++ offset ++ ")").toList) start :=
        .call (isName_terminatedSize encoding) (fun _ ↦ hsupplies) hrest
      simpa [sizeParts, Code.Part.render] using hcall.phrase
  | array count element ih =>
    intro value offset hspot
    have hfront : Fits ((array count element).Uses options) start
        (value ++ ".iter().fold(" ++ offset ++ ", |end, item| end.wrapping_add(").toList start := by
      rcases hspot with ⟨rfl, rfl⟩ | ⟨rfl, rfl⟩ <;> exact Helper.quiet_fits rfl rfl
    have hback : Fits ((array count element).Uses options) start
        (" as u64)).wrapping_sub(" ++ offset ++ ")").toList start := by
      rcases hspot with ⟨-, rfl⟩ | ⟨-, rfl⟩ <;> exact Helper.quiet_fits rfl rfl
    have hbreaks : breaks (" as u64)).wrapping_sub(" ++ offset ++ ")").toList = true := by
      rcases hspot with ⟨-, rfl⟩ | ⟨-, rfl⟩ <;> rfl
    have helement := (ih (.inr ⟨rfl, rfl⟩)).mono (uses_of_calls (calls_element count element))
    simp only [sizeParts, lineText_append, lineText_cons, lineText_nil, Code.Part.render,
      List.append_nil, List.append_assoc]
    exact hfront.append_phrase (helement.append_fits hbreaks hback).phrase
  | pointer element ih =>
    intro value offset hspot
    change Phrase _ (lineText [.text "8"])
    exact Helper.quiet rfl
  | reference target =>
    intro value offset hspot
    change Phrase _ (lineText [.text ("Structure::size(&" ++ value ++ ")")])
    rcases hspot with ⟨rfl, -⟩ | ⟨rfl, -⟩ <;> exact Helper.quiet rfl
  | _ =>
    intro value offset _
    simpa [sizeParts, Code.Part.render] using Helper.number_phrase _

/-! ## Decoding -/

/-- The count of an array, where it comes from a field, is an identifier. In a helper no field is
asked. -/
def CountsNamed (site : Site) : Kind → Prop
  | .array (.sibling field) _ => site = .accessor → Name.isIdentifier field = true
  | .pointer element => element.CountsNamed site
  | _ => True

theorem countsNamed_helper (kind : Kind) : kind.CountsNamed .helper := by
  induction kind with
  | array count element ih =>
    cases count with
    | fixed count => trivial
    | sibling field => exact fun hsite ↦ nomatch hsite
  | pointer element ih => exact ih
  | _ => trivial

/-- A raw integer that names are given to. -/
theorem backingParts_fits {kind : Kind} {required : Item → Prop}
    (hallows : kind.Allows options required)
    (site : Site) {width : Width} (hcalls : kind.Calls (.integer (.unsigned width))) :
    Fits required start (lineText (backingParts site width)) start :=
  callParts_fits hallows site (IntegerType.isName_reader _) (supplies_reader hcalls) none

theorem enumerationCode_rows {choices : Enumeration} {required : Item → Prop}
    (hallows : (enumeration choices).Allows options required) (site : Site) :
    Rows (Phrase required) (enumerationCode site choices.width choices.arms) := by
  have hbacking : Fits required start (lineText (backingParts site choices.width)) start :=
    backingParts_fits hallows site List.mem_cons_self
  have hopening : required .opening := hallows.wording [] (by simp) _ rfl
  refine .block hopening (hallows.phrase rfl) ?_ (hallows.phrase rfl)
  simp only [List.forall_mem_cons]
  refine ⟨.single ?_, .block hopening (hallows.phrase rfl) ?_ (hallows.phrase rfl), .single ?_, by simp⟩
  · simp only [lineText_append, lineText_cons, lineText_nil, Code.Part.render, List.append_nil,
      List.append_assoc]
    exact (hallows.fits rfl rfl).append_phrase (hbacking.append_phrase (hallows.phrase rfl))
  · intro arm harm
    rcases List.mem_append.mp harm with harm | harm
    · obtain ⟨⟨value, name⟩, -, rfl⟩ := List.mem_map.mp harm
      refine .single ?_
      simp only [lineText_cons, lineText_nil, Code.Part.render, List.append_nil]
      exact (Helper.hex_phrase hallows.word _).append (breaks_append rfl _)
        ((hallows.fits rfl rfl).append_phrase
          ((Fits.quote _ .other name).append_phrase (hallows.phrase rfl)))
    · rw [List.mem_singleton.mp harm]
      exact .single (hallows.phrase rfl)
  · exact hallows.phrase_of ["Enumeration"] (supplies_of_provides rfl) rfl

theorem flagsCode_rows {names : Flags} {required : Item → Prop}
    (hallows : (flags names).Allows options required) (site : Site) :
    Rows (Phrase required) (flagsCode site names.width names.predicates) := by
  have hbacking : Fits required start (lineText (backingParts site names.width)) start :=
    backingParts_fits hallows site List.mem_cons_self
  have hopening : required .opening := hallows.wording [] (by simp) _ rfl
  have hvalue : Rows (Phrase required)
      (.line ([.text "let value = "] ++ backingParts site names.width ++ [.text " as u64;"])) := by
    refine .single ?_
    simp only [lineText_append, lineText_cons, lineText_nil, Code.Part.render, List.append_nil,
      List.append_assoc]
    exact (hallows.fits rfl rfl).append_phrase (hbacking.append_phrase (hallows.phrase rfl))
  unfold flagsCode
  split
  · refine .block hopening (hallows.phrase rfl) ?_ (hallows.phrase rfl)
    simp only [List.forall_mem_cons]
    exact ⟨hvalue, .single (hallows.phrase_of ["Flags"] (supplies_of_provides rfl) rfl), by simp⟩
  · refine .block hopening (hallows.phrase rfl) ?_ (hallows.phrase rfl)
    simp only [List.forall_mem_append, List.forall_mem_cons]
    refine ⟨⟨⟨hvalue, .single (hallows.phrase rfl), by simp⟩, ?_⟩,
      .single (hallows.phrase_of ["Flags"] (supplies_of_provides rfl) rfl), by simp⟩
    intro test htest
    obtain ⟨⟨mask, name⟩, -, rfl⟩ := List.mem_map.mp htest
    refine .block hopening ?_ ?_ (hallows.phrase rfl)
    · simp only [lineText_cons, lineText_nil, Code.Part.render, List.append_nil,
        String.toList_append, List.append_assoc]
      exact (hallows.fits rfl rfl).append_phrase
        ((Helper.hex_phrase hallows.word _).append rfl (hallows.phrase rfl))
    · simp only [List.forall_mem_singleton]
      refine .single ?_
      simp only [lineText_cons, lineText_nil, Code.Part.render, List.append_nil,
        String.toList_append, List.append_assoc]
      exact (hallows.fits rfl rfl).append_phrase
        ((Fits.quote _ .other name).append_phrase (hallows.phrase rfl))

/-- A field that is called or defined by its name. A keyword is escaped, so that it is read as two
words, of which the first stands where the name would. -/
theorem escaped_fits {required : Item → Prop} {before : Before}
    (hwording : ∀ item, Helper.isWording [] item = true → required item)
    (hplace : ∀ name character, required (.word name (place before character)))
    {field : String} (hfield : Name.isIdentifier field = true) {rest : List Char} {next : State}
    (hrest : Fits required start ('(' :: rest) next) :
    Fits required ⟨.plain, before⟩ ((Name.escaped field).toList ++ '(' :: rest) next := by
  have hname := isName_of_isIdentifier hfield
  unfold Name.escaped
  split
  · rename_i hkeyword
    have hquiet : ∀ keyword ∈ Name.keywords,
        Helper.isWording [] (.word keyword.toList .called) = true := by decide
    have hcalled := hwording _ (hquiet field (by simpa [Name.isKeyword] using hkeyword))
    have hkeywordCall : Fits required start (field.toList ++ '(' :: rest) next :=
      .call hname hcalled hrest
    have hmark : Fits required start ['#'] start := .of_check rfl rfl hwording
    have hletter : IsName ['r'] := isName_of_all rfl
    rw [String.toList_append, List.append_assoc]
    exact (Fits.word hletter).append
      (.behind_word rfl rfl (hplace _ _) (hmark.append hkeywordCall))
  · exact .call hname (hplace _ _) hrest

/-- The count of an array is a number, or a field of the structure at hand. -/
theorem countText_phrase {kind : Kind} (site : Site) {count : Count} {element : Kind}
    (hcounts : (array count element).CountsNamed site) :
    Phrase (kind.Uses options) (countText options site count).toList := by
  cases count with
  | fixed count => exact Helper.number_phrase _
  | sibling field =>
    cases site with
    | helper =>
      change Phrase _ "0".toList
      exact Helper.quiet rfl
    | accessor =>
      obtain ⟨state, hrest, hsettled⟩ : Phrase (kind.Uses options) "() as i64".toList :=
        Helper.quiet rfl
      have hself : Fits (kind.Uses options) start "self.".toList ⟨.plain, .dot⟩ :=
        Helper.quiet_fits rfl rfl
      have hmember (name : List Char) (character : Char) :
          kind.Uses options (.word name (place .dot character)) :=
        trivial
      have hfield : Fits (kind.Uses options) ⟨.plain, .dot⟩
          ((Name.escaped field).toList ++ "() as i64".toList) state :=
        escaped_fits ((allows_uses kind).wording [] (by simp)) hmember (hcounts rfl) hrest
      refine ⟨state, ?_, hsettled⟩
      have htext : (countText options .accessor (.sibling field)).toList =
          "self.".toList ++ ((Name.escaped field).toList ++ "() as i64".toList) := by
        simp [countText]
      rw [htext]
      exact hself.append hfield

theorem newline_notMem {name : List Char} (hname : IsName name) : '\n' ∉ name :=
  fun hmem ↦ absurd (hname.characters '\n' hmem) (by decide)

theorem newline_notMem_countText (site : Site) {count : Count} {element : Kind}
    (hcounts : (array count element).CountsNamed site) :
    '\n' ∉ (countText options site count).toList := by
  cases count with
  | fixed count => exact newline_notMem (isName_toString _)
  | sibling field =>
    cases site with
    | helper => exact newline_notMem (isName_of_all rfl : IsName "0".toList)
    | accessor =>
      have hfield := newline_notMem (isName_of_isIdentifier (hcounts rfl))
      have hescaped : '\n' ∉ (Name.escaped field).toList := by
        unfold Name.escaped
        split <;> simp [hfield]
      simp [countText, hescaped]

theorem arrayCall_rows (site : Site) {count : Count} {element : Kind} (hnamed : element.IsNamed)
    (hcounts : (array count element).CountsNamed site) :
    Rows (Phrase ((array count element).Uses options))
      ((array count element).decodeCode options site) := by
  have hsupplies : (array count element).Supplies options (element.arrayReader options).toList :=
    supplies_of_provides rfl (element.arrayReader options) List.mem_cons_self
  have hcount : Phrase ((array count element).Uses options) (countText options site count).toList :=
    countText_phrase site hcounts
  have hfront : Fits ((array count element).Uses options) start
      ('(' :: (site.profile ++ ", " ++ site.reader ++ ", offset, ").toList) start := by
    cases site <;> exact Helper.quiet_fits rfl rfl
  have hwording : '\n' ∉ ("(" ++ site.profile ++ ", " ++ site.reader ++ ", offset, " ++
      countText options site count ++ ")").toList := by
    have hcountText : '\n' ∉ (countText options site count).toList :=
      newline_notMem_countText site hcounts
    cases site <;> simp [Site.profile, Site.reader, hcountText]
  rw [decodeCode, arrayCall, wrapped_of_notMem _ hwording]
  refine .single ?_
  have hcall : Fits ((array count element).Uses options) start
      ((element.arrayReader options).toList ++
        '(' :: ((site.profile ++ ", " ++ site.reader ++ ", offset, ").toList ++
          ((countText options site count).toList ++ ")".toList))) start :=
    .call (isName_arrayReader options hnamed) (fun _ ↦ hsupplies)
      (hfront.append (hcount.append_fits rfl (Helper.quiet_fits rfl rfl)))
  simpa [Code.Part.render] using hcall.phrase

theorem CountsNamed.of_pointer {site : Site} {element : Kind}
    (hcounts : (pointer element).CountsNamed site) : element.CountsNamed site :=
  hcounts

theorem bitFieldCode_rows {field : BitField} {required : Item → Prop}
    (hallows : (bitField field).Allows options required) (site : Site) :
    Rows (Phrase required) ((bitField field).decodeCode options site) := by
  have hbacking : Fits required start (lineText (backingParts site field.width)) start :=
    backingParts_fits hallows site List.mem_cons_self
  refine .single ?_
  simp only [bitsParts, lineText_append, lineText_cons, lineText_nil, Code.Part.render, List.append_nil,
    String.toList_append, List.append_assoc]
  exact (hallows.fits rfl rfl).append_phrase (hbacking.append_phrase
    ((hallows.fits rfl rfl).append_phrase ((Helper.hex_phrase hallows.word _).append
      (breaks_append rfl _)
      ((hallows.fits rfl rfl).append_phrase (Helper.decimal_phrase hallows.word _)))))

/-- A signature is written with its own bytes, as a literal in which no word stands. -/
theorem signatureCode_rows {expected : List UInt8} {required : Item → Prop}
    (hallows : (signature expected).Allows options required) (site : Site) :
    Rows (Phrase required) ((signature expected).decodeCode options site) := by
  have hnames : ∀ name ∈ ["Signature", "parse_signature"],
      (signature expected).Supplies options name.toList :=
    supplies_of_provides rfl
  have hfront : Fits required start ("Signature".toList ++ " \x7b value: ".toList)
      ⟨.plain, .colon⟩ :=
    hallows.fits_of ["Signature", "parse_signature"] hnames rfl rfl
  have hcall : Fits required start
      (lineText (callParts site "parse_signature" [toString expected.length])) start :=
    callParts_fits hallows site (isName_of_all rfl) (hnames _ (by simp)) (some expected.length)
  have hmiddle : Fits required start ", signature: ".toList ⟨.plain, .colon⟩ :=
    hallows.fits rfl rfl
  have hliteral : Fits required ⟨.plain, .colon⟩ (Text.ByteLiteral.literal expected).toList start := by
    refine .behind_colon ?_ (Fits.byteLiteral (hallows.word _ rfl) expected)
    simp [Text.ByteLiteral.literal, show isWord 'b' = true from rfl]
  have hback : Fits required start " \x7d".toList start := hallows.fits rfl rfl
  have hline := (hfront.append (hcall.behind_colon rfl)).append
    (hmiddle.append (hliteral.append hback))
  refine .single ?_
  simp only [signatureParts, lineText_append, lineText_cons, lineText_nil, Code.Part.render,
    List.append_nil, String.toList_append, List.append_assoc] at hline ⊢
  exact hline.phrase

theorem textCode_rows {encoding : Encoding} {length : Option UInt64} {required : Item → Prop}
    (hallows : (text encoding length).Allows options required) (site : Site) :
    Rows (Phrase required) ((text encoding length).decodeCode options site) := by
  have hsupplies (isTerminated : Bool) :
      (text encoding length).Supplies options (textReader isTerminated encoding).toList := by
    cases encoding <;> cases isTerminated <;>
      exact supplies_of_provides rfl _ (by simp [textReader, provides, Helper.utf16Names])
  cases length with
  | none =>
    exact .single (callParts_fits hallows site (isName_textReader _ _) (hsupplies true) none).phrase
  | some length =>
    exact .single (callParts_fits hallows site (isName_textReader _ _) (hsupplies false)
      (some length.toNat)).phrase

/-- Decoding a value that is no array, pointer or structure. -/
theorem scalarCode_rows {kind : Kind} {required : Item → Prop} (hallows : kind.Allows options required)
    (site : Site) (helement : kind.element? = none) (hleaf : ∀ target, kind ≠ .reference target) :
    Rows (Phrase required) (kind.decodeCode options site) := by
  cases kind with
  | integer type =>
    have hsupplies : (integer type).Supplies options type.reader.toList :=
      supplies_of_provides rfl type.reader List.mem_cons_self
    exact .single (callParts_fits hallows site type.isName_reader hsupplies none).phrase
  | bitField field => exact bitFieldCode_rows hallows site
  | enumeration choices => exact enumerationCode_rows hallows site
  | flags names => exact flagsCode_rows hallows site
  | signature expected => exact signatureCode_rows hallows site
  | text encoding length => exact textCode_rows hallows site
  | array count element => cases helement
  | pointer element => cases helement
  | reference target => exact absurd rfl (hleaf target)

/-- Where a pointer leads to. -/
theorem pointerLine_phrase {element : Kind} {required : Item → Prop}
    (hallows : (pointer element).Allows options required) (site : Site) :
    Phrase required (lineText ([.text "let offset = "] ++
      callParts site (IntegerType.unsigned .w64).reader [] ++ [.text ";"])) := by
  have hread : Fits required start
      (lineText (callParts site (IntegerType.unsigned .w64).reader [])) start :=
    callParts_fits hallows site (IntegerType.isName_reader _) (supplies_reader List.mem_cons_self) none
  simp only [lineText_append, lineText_cons, lineText_nil, Code.Part.render, List.append_nil,
    List.append_assoc]
  exact (hallows.fits rfl rfl).append_phrase (hread.append_phrase (hallows.phrase rfl))

/-- Decoding a value uses the helpers of kinds that are needed. -/
theorem decodeCode_rows (site : Site) {kind : Kind} (hnamed : kind.IsNamed)
    (hcounts : kind.CountsNamed site) :
    Rows (Phrase (kind.Uses options)) (kind.decodeCode options site) := by
  induction kind with
  | array count element ih => exact arrayCall_rows site hnamed hcounts
  | pointer element ih =>
    have helement := (ih hnamed hcounts.of_pointer).mono fun _ htext ↦
      htext.mono (uses_of_calls (calls_target element))
    refine .block trivial (Helper.quiet rfl) ?_ (Helper.quiet rfl)
    simp only [List.forall_mem_cons]
    exact ⟨.single (pointerLine_phrase (allows_uses _) site), helement, by simp⟩
  | reference target =>
    have hprofile : Fits ((reference target).Uses options) start (site.profile ++ ".").toList
        ⟨.plain, .dot⟩ := by
      cases site <;> exact Helper.quiet_fits rfl rfl
    have hrest : Fits ((reference target).Uses options) start
        ('(' :: (site.reader ++ ", offset)").toList) start := by
      cases site <;> exact Helper.quiet_fits rfl rfl
    have hmember : (reference target).Uses options (.word target.toList (place .dot '(')) :=
      trivial
    have hcall := hprofile.append
      (.call (isName_of_isIdentifier (hnamed target rfl).1) hmember hrest)
    refine .single ?_
    simpa [handleParts, Code.Part.render] using hcall.phrase
  | _ => exact scalarCode_rows (allows_uses _) site rfl fun _ ↦ Kind.noConfusion

/-- The name of an offset is one word. -/
theorem isName_offsetName {owner field : String} (howner : IsName owner.toList)
    (hfield : IsName field.toList) : IsName (Code.offsetName owner field).toList :=
  isName_append (isName_append (isName_append (isName_of_all rfl) howner) (isName_of_all rfl)) hfield

theorem offsetLine_phrase {provided : List Char → Prop} {owner field : String}
    (howner : IsName owner.toList) (hfield : IsName field.toList) :
    Phrase (Helper.Within true provided) (lineText [.text "let offset = self.profile.",
      .offset owner field, .text ".wrapping_add(self.offset);"]) := by
  have hbehind : behind (Code.offsetName owner field).toList = .other := by
    simp [Code.offsetName, behind]
  have hmember : Helper.Within true provided
      (.word (Code.offsetName owner field).toList (place .dot '.')) :=
    trivial
  have hfront : Fits (Helper.Within true provided) start "let offset = self.profile.".toList
      ⟨.plain, .dot⟩ :=
    Helper.quiet_fits rfl rfl
  have hback : Fits (Helper.Within true provided) start
      ('.' :: "wrapping_add(self.offset);".toList) start :=
    Helper.quiet_fits rfl rfl
  have hline := hfront.append ((Fits.word (isName_offsetName howner hfield)).append
    (.behind_word hbehind rfl hmember hback))
  simpa [Code.Part.render] using hline.phrase

/-- The front of an accessor, up to its type. -/
theorem signature_fits {required : Item → Prop}
    (hwording : ∀ item, Helper.isWording [] item = true → required item)
    (hdefined : ∀ name, required (.word name .definition)) {field : String}
    (hfield : Name.isIdentifier field = true) :
    Fits required start ("pub fn " ++ Name.escaped field ++ "(&self) -> ").toList start := by
  have hfront : Fits required start "pub fn ".toList ⟨.plain, .keyword⟩ := .of_check rfl rfl hwording
  have hback : Fits required start "(&self) -> ".toList start := .of_check rfl rfl hwording
  have hplace (name : List Char) (character : Char) :
      required (.word name (place .keyword character)) :=
    hdefined name
  rw [String.toList_append, String.toList_append, List.append_assoc]
  exact hfront.append (escaped_fits hwording hplace hfield hback)

/-- An accessor uses the helpers of kinds that are needed. -/
theorem accessorCode_rows {owner field : String} (howner : IsName owner.toList)
    (hfield : Name.isIdentifier field = true) {kind : Kind} (hnamed : kind.IsNamed)
    (hcounts : kind.CountsNamed .accessor) :
    Rows (Phrase (Helper.Within true (kind.Supplies options)))
      (kind.accessorCode options owner field) := by
  have hweaken (item : Item) (hitem : kind.Uses options item) :
      Helper.Within true (kind.Supplies options) item :=
    hitem.mono (fun _ ↦ rfl) fun _ ↦ id
  refine Rows.indented (.block trivial ?_ ?_ (Helper.quiet rfl)) 4
  · rw [lineText_append, lineText_cons, lineText_nil, List.append_nil]
    exact (signature_fits Helper.within_of_isWording (fun _ ↦ rfl) hfield).append_phrase
      ((typeParts_phrase (allows_uses kind) hnamed).mono hweaken)
  · simp only [List.forall_mem_cons]
    exact ⟨.single (offsetLine_phrase howner (isName_of_isIdentifier hfield)),
      (decodeCode_rows .accessor hnamed hcounts).mono fun _ htext ↦ htext.mono hweaken, by simp⟩

theorem mem_read_append {state next : State} {front back : List Char} {item : Item}
    (hfront : (Words.read state front).2 = next) (hitem : item ∈ (Words.read next back).1) :
    item ∈ (Words.read state (front ++ back)).1 := by
  rw [read_append, hfront]
  exact List.mem_append_right _ hitem

/-- The type of a kind names the structure at the bottom of the kind. -/
theorem named_typeParts {target : String} : ∀ {kind : Kind}, kind.IsNamed →
    kind.leaf = .reference target → ∀ rest,
      .word target.toList .named ∈ (Words.read start (lineText kind.typeParts ++ rest)).1 := by
  intro kind
  induction kind with
  | array count element ih =>
    intro hnamed hleaf rest
    have helement := ih hnamed hleaf (">".toList ++ rest)
    have hfront : (Words.read start "Vec<".toList).2 = start := rfl
    simpa [typeParts, Code.Part.render] using mem_read_append hfront helement
  | pointer element ih => exact fun hnamed hleaf ↦ ih hnamed hleaf
  | reference other =>
    intro hnamed hleaf rest
    obtain rfl : other = target := reference.inj hleaf
    obtain ⟨hidentifier, name, hname⟩ := hnamed other rfl
    have hbehind : behind other.toList = .other := by
      rw [hname]
      exact Name.behind_canonical name
    have hword := read_name .other (isName_of_isIdentifier hidentifier)
    have hseparator : isWord '<' = false := rfl
    have hend : .word other.toList .named ∈
        (Words.read ⟨.word other.toList, .other⟩ ("<'a>".toList ++ rest)).1 := by
      simp [Words.read, advance, hseparator, place]
    simpa [typeParts, Code.Part.render, start] using
      mem_read_append (show (Words.read start other.toList).2 = _ by rw [start, hword]) hend
  | _ => simp [leaf]

/-- So does every accessor of the kind. -/
theorem named_accessorCode {owner field target : String} (howner : IsName owner.toList)
    (hfield : Name.isIdentifier field = true) {kind : Kind} (hnamed : kind.IsNamed)
    (hcounts : kind.CountsNamed .accessor) (hleaf : kind.leaf = .reference target) :
    .word target.toList .named ∈ items (kind.accessorCode options owner field).text := by
  have hrows : Rows (Phrase (Helper.Within true (kind.Supplies options)))
      (kind.accessorCode options owner field) :=
    accessorCode_rows howner hfield hnamed hcounts
  have hsignature : Fits (Helper.Within true (kind.Supplies options)) start
      ("pub fn " ++ Name.escaped field ++ "(&self) -> ").toList start :=
    signature_fits Helper.within_of_isWording (fun _ ↦ rfl) hfield
  have hitem := mem_read_append hsignature.leads
    (named_typeParts hnamed hleaf (" \x7b".toList ++ ['\n']))
  rw [items_text (hrows.mono fun _ htext ↦ htext.row)]
  refine List.mem_flatMap.mpr ⟨⟨4, [.text ("pub fn " ++ Name.escaped field ++ "(&self) -> ")] ++
    kind.typeParts ++ [.text " \x7b"]⟩, List.mem_cons_self, ?_⟩
  simpa only [lineText_append, lineText_cons, lineText_nil, Code.Part.render, List.append_nil,
    List.append_assoc] using hitem

end Kind

end BinaryLayout
