import BinaryLayout.Proofs.KeySoundness
import BinaryLayout.Proofs.QuotedText

/-!
# Words of Generated Code

A text of the generated language is read as far as it takes to tell which names it uses and which it
defines. String literals and comments are passed over. A word is defined behind `fn` or `struct`, it
belongs to a value or a path behind a dot or a double colon, and otherwise it is called or named. No
grammar of the language is claimed beyond this.
-/

namespace BinaryLayout.Words

inductive Place
  | definition
  | member
  | called
  | named
deriving DecidableEq

inductive Item
  | word (name : List Char) (place : Place)
  | opening
  | closing
deriving DecidableEq

inductive Mode
  | plain
  | word (name : List Char)
  | quoted
  | escaped
  | slash
  | comment
deriving DecidableEq

inductive Before
  | other
  | keyword
  | dot
  | colon
  | path
deriving DecidableEq

structure State where
  mode : Mode
  before : Before
deriving DecidableEq

def start : State :=
  ⟨.plain, .other⟩

def isWord (character : Char) : Bool :=
  Name.continuesIdentifier character

def behind (name : List Char) : Before :=
  if name = ['f', 'n'] ∨ name = ['s', 't', 'r', 'u', 'c', 't'] then .keyword else .other

/-- The part that a word plays if the character follows it. -/
def place (before : Before) (character : Char) : Place :=
  match before with
  | .keyword => .definition
  | .dot | .path => .member
  | .other | .colon => if character = '(' then .called else .named

/-- Reads a character that belongs to no word. -/
def separate (before : Before) (character : Char) : List Item × State :=
  if character = '"' then ([], ⟨.quoted, .other⟩)
  else if character = '/' then ([], ⟨.slash, .other⟩)
  else if character = '\x7b' then ([.opening], start)
  else if character = '\x7d' then ([.closing], start)
  else if character = '.' then ([], ⟨.plain, if before = .dot then .other else .dot⟩)
  else if character = ':' then ([], ⟨.plain, if before = .colon then .path else .colon⟩)
  else if character.isWhitespace then ([], ⟨.plain, before⟩)
  else ([], start)

/-- Reads one character: the items that end with it, and the state behind it. -/
def advance (state : State) (character : Char) : List Item × State :=
  match state.mode with
  | .plain =>
    if isWord character then ([], ⟨.word [character], state.before⟩)
    else separate state.before character
  | .word name =>
    if isWord character then ([], ⟨.word (name ++ [character]), state.before⟩)
    else
      let (items, next) := separate (behind name) character
      (.word name (place state.before character) :: items, next)
  | .quoted =>
    if character = '\\' then ([], ⟨.escaped, .other⟩)
    else if character = '"' then ([], start)
    else ([], ⟨.quoted, .other⟩)
  | .escaped => ([], ⟨.quoted, .other⟩)
  | .slash =>
    if character = '/' then ([], ⟨.comment, .other⟩)
    else if isWord character then ([], ⟨.word [character], .other⟩)
    else separate .other character
  | .comment => if character = '\n' then ([], start) else ([], ⟨.comment, .other⟩)

def read : State → List Char → List Item × State
  | state, [] => ([], state)
  | state, character :: rest =>
    let (items, next) := advance state character
    let (others, last) := read next rest
    (items ++ others, last)

/-- The items of a text. A break behind it ends the last word. -/
def items (text : String) : List Item :=
  (read start (text.toList ++ ['\n'])).1

/-- The names that are defined outside of all braces. -/
def definitions : Nat → List Item → List (List Char)
  | _, [] => []
  | depth, .opening :: rest => definitions (depth + 1) rest
  | depth, .closing :: rest => definitions (depth - 1) rest
  | depth, .word name .definition :: rest =>
    if depth = 0 then name :: definitions depth rest else definitions depth rest
  | depth, .word _ _ :: rest => definitions depth rest

theorem read_append (state : State) (first second : List Char) :
    read state (first ++ second) =
      ((read state first).1 ++ (read (read state first).2 second).1,
        (read (read state first).2 second).2) := by
  induction first generalizing state with
  | nil => rfl
  | cons character rest ih => simp [read, ih]

/-- The text leads from one state to the other, and its items are as required. -/
structure Fits (required : Item → Prop) (state : State) (text : List Char) (next : State) :
    Prop where
  leads : (read state text).2 = next
  meets : ∀ item ∈ (read state text).1, required item

namespace Fits

variable {required : Item → Prop} {state next last : State} {first second : List Char}

theorem append (hfirst : Fits required state first next) (hsecond : Fits required next second last) :
    Fits required state (first ++ second) last := by
  constructor
  · rw [read_append, hfirst.leads]
    exact hsecond.leads
  · intro item hitem
    rw [read_append, hfirst.leads] at hitem
    rcases List.mem_append.mp hitem with hitem | hitem
    · exact hfirst.meets item hitem
    · exact hsecond.meets item hitem

theorem mono {required' : Item → Prop} (hfirst : Fits required state first next)
    (hrequired : ∀ item, required item → required' item) : Fits required' state first next :=
  ⟨hfirst.leads, fun item hitem ↦ hrequired item (hfirst.meets item hitem)⟩

end Fits

theorem isWord_toDigits {base : Nat} (hbase : 1 < base) (hsixteen : base ≤ 16) (number : Nat) :
    ∀ character ∈ Nat.toDigits base number, isWord character :=
  forall_mem_toDigits hbase hsixteen (by decide) number

/-- A text that is read as one word. -/
structure IsName (name : List Char) : Prop where
  characters : ∀ character ∈ name, isWord character
  nonempty : name ≠ []

theorem isName_of_isIdentifier {name : String} (hname : Name.isIdentifier name = true) :
    IsName name.toList := by
  unfold Name.isIdentifier at hname
  split at hname
  · simp at hname
  · rename_i first rest hlist
    simp only [Bool.and_eq_true, List.all_eq_true] at hname
    refine ⟨?_, by simp [hlist]⟩
    rw [hlist]
    rintro character (_ | ⟨_, hcharacter⟩)
    · have hfirst := hname.1.1
      simp only [Name.startsIdentifier, Bool.or_eq_true] at hfirst
      simp only [isWord, Name.continuesIdentifier, Bool.or_eq_true]
      exact .inl hfirst
    · exact hname.1.2 character hcharacter

theorem isName_toString (number : Nat) : IsName (toString number).toList := by
  rw [toList_toString_nat]
  exact ⟨isWord_toDigits (by decide) (by decide) number, Nat.toDigits_ne_nil⟩

theorem behind_eq_other {name : List Char} (hname : 'n' ∉ name ∧ 't' ∉ name) :
    behind name = .other := by
  refine if_neg ?_
  rintro (rfl | rfl)
  · simp at hname
  · simp at hname

theorem behind_toString (number : Nat) : behind (toString number).toList = .other := by
  have hletters : ∀ character ∈ (toString number).toList, character ≠ 'n' ∧ character ≠ 't' := by
    rw [toList_toString_nat]
    exact forall_mem_toDigits (by decide) (by decide) (by decide) number
  exact behind_eq_other ⟨fun hletter ↦ (hletters 'n' hletter).1 rfl,
    fun hletter ↦ (hletters 't' hletter).2 rfl⟩

theorem read_word (before : Before) {name : List Char}
    (hname : ∀ character ∈ name, isWord character) (front : List Char) :
    read ⟨.word front, before⟩ name = ([], ⟨.word (front ++ name), before⟩) := by
  induction name generalizing front with
  | nil => simp [read]
  | cons character rest ih =>
    have hrest := ih (fun other hother ↦ hname other (List.mem_cons_of_mem _ hother))
      (front ++ [character])
    simp [read, advance, hname character List.mem_cons_self, hrest]

theorem read_name (before : Before) {name : List Char} (hname : IsName name) :
    read ⟨.plain, before⟩ name = ([], ⟨.word name, before⟩) := by
  obtain ⟨character, rest, rfl⟩ := List.exists_cons_of_ne_nil hname.nonempty
  have hrest := read_word before
    (fun other hother ↦ hname.characters other (List.mem_cons_of_mem _ hother)) [character]
  simp [read, advance, hname.characters character List.mem_cons_self, hrest]

/-- A word is read as a whole. -/
theorem Fits.word {required : Item → Prop} {before : Before} {name : List Char}
    (hname : IsName name) : Fits required ⟨.plain, before⟩ name ⟨.word name, before⟩ := by
  have hread := read_name before hname
  exact ⟨by rw [hread], by simp [hread]⟩

theorem Fits.ends_word {required : Item → Prop} {before : Before} {name text : List Char}
    {place : Place} {next : State}
    (hread : read ⟨.word name, before⟩ text =
      (.word name place :: (read start text).1, (read start text).2))
    (hword : required (.word name place)) (htext : Fits required start text next) :
    Fits required ⟨.word name, before⟩ text next := by
  constructor
  · rw [hread]
    exact htext.leads
  · intro item hitem
    rw [hread] at hitem
    rcases List.mem_cons.mp hitem with rfl | hitem
    · exact hword
    · exact htext.meets item hitem

/-- What follows a word is read as it is elsewhere. -/
theorem Fits.behind_word {required : Item → Prop} {before : Before} {name rest : List Char}
    {character : Char} {next : State} (hname : behind name = .other)
    (hcharacter : isWord character = false)
    (hword : required (.word name (place before character)))
    (hrest : Fits required start (character :: rest) next) :
    Fits required ⟨.word name, before⟩ (character :: rest) next := by
  refine Fits.ends_word ?_ hword hrest
  simp [read, advance, hcharacter, hname, start]

/-- A parenthesis ends any word and calls it, unless it is defined here or belongs to a value. -/
theorem Fits.behind_call {required : Item → Prop} {before : Before} {name rest : List Char}
    {next : State} (hword : required (.word name (place before '(')))
    (hrest : Fits required start ('(' :: rest) next) :
    Fits required ⟨.word name, before⟩ ('(' :: rest) next := by
  refine Fits.ends_word ?_ hword hrest
  have hparenthesis : isWord '(' = false := by decide
  have hseparate (front : Before) : separate front '(' = ([], start) := by
    cases front <;> decide
  simp [read, advance, hparenthesis, hseparate, start]

theorem Fits.call {required : Item → Prop} {before : Before} {name rest : List Char} {next : State}
    (hname : IsName name) (hword : required (.word name (place before '(')))
    (hrest : Fits required start ('(' :: rest) next) :
    Fits required ⟨.plain, before⟩ (name ++ '(' :: rest) next :=
  (Fits.word hname).append (.behind_call hword hrest)

theorem read_word_colon {text : List Char} : ∀ {name : List Char},
    (read ⟨.word name, .other⟩ text).2 = start →
      read ⟨.word name, .colon⟩ text = read ⟨.word name, .other⟩ text := by
  induction text with
  | nil => exact fun hback ↦ nomatch hback
  | cons character rest ih =>
    intro name hback
    cases hcharacter : isWord character with
    | false => simp [read, advance, hcharacter, place]
    | true =>
      have hrest : (read ⟨.word (name ++ [character]), .other⟩ rest).2 = start := by
        simpa [read, advance, hcharacter] using hback
      simp [read, advance, hcharacter, ih hrest]

/-- Behind a single colon a word is read as it is elsewhere. -/
theorem Fits.behind_colon {required : Item → Prop} {text : List Char}
    (hhead : text.head?.any isWord = true) (htext : Fits required start text start) :
    Fits required ⟨.plain, .colon⟩ text start := by
  cases text with
  | nil => simp at hhead
  | cons character rest =>
    have hcharacter : isWord character = true := by simpa using hhead
    have hback : (read ⟨.word [character], .other⟩ rest).2 = start := by
      simpa [read, advance, hcharacter, start] using htext.leads
    have hsame : read ⟨.plain, .colon⟩ (character :: rest) = read start (character :: rest) := by
      simp [read, advance, hcharacter, start, read_word_colon hback]
    exact ⟨hsame ▸ htext.leads, hsame ▸ htext.meets⟩

/-- Nothing ends a string literal inside enclosed text. -/
theorem read_enclosed {text : List Char} (htext : Text.Enclosed text) :
    read ⟨.quoted, .other⟩ text = ([], ⟨.quoted, .other⟩) := by
  induction htext with
  | nil => rfl
  | plain hquote hbackslash _ ih => simp [read, advance, hquote, hbackslash, ih]
  | escaped _ ih => simp [read, advance, ih]

/-- A string literal has no words. -/
theorem Fits.quote (required : Item → Prop) (before : Before) (text : String) :
    Fits required ⟨.plain, before⟩ (Text.Quoted.quote text).toList start := by
  have hread : read ⟨.plain, before⟩ (Text.Quoted.quote text).toList = ([], start) := by
    rw [Text.Quoted.quote, String.toList_ofList, List.cons_append, ← List.singleton_append,
      read_append]
    have hopen : read ⟨.plain, before⟩ ['"'] = ([], ⟨.quoted, .other⟩) := by
      simp [read, advance, separate, show isWord '"' = false by decide]
    rw [hopen, read_append, read_enclosed (.flatMap Text.Quoted.enclosed_escape _)]
    rfl
  exact ⟨by rw [hread], by simp [hread]⟩

/-- A byte literal has the word in front of its quotes. -/
theorem Fits.byteLiteral {required : Item → Prop} (hfront : required (.word ['b'] .named))
    (bytes : List UInt8) : Fits required start (Text.ByteLiteral.literal bytes).toList start := by
  have hread : read start (Text.ByteLiteral.literal bytes).toList = ([.word ['b'] .named], start) := by
    have hopen : read start ['b', '"'] = ([.word ['b'] .named], ⟨.quoted, .other⟩) := by
      decide
    rw [Text.ByteLiteral.literal, String.toList_ofList, List.append_assoc, read_append, hopen,
      read_append, read_enclosed (.flatMap Text.ByteLiteral.enclosed_escape _)]
    rfl
  refine ⟨by rw [hread], fun item hitem ↦ ?_⟩
  rw [hread] at hitem
  rwa [List.mem_singleton.mp hitem]

/-! ## Phrases -/

/-- The last thing read is complete, or a word that can end here. -/
def Settled (required : Item → Prop) (state : State) : Prop :=
  state = start ∨ ∃ name before, state = ⟨.word name, before⟩ ∧ behind name = .other ∧
    required (.word name (place before ' '))

/-- The text begins with what neither extends nor calls a word. -/
def breaks : List Char → Bool
  | [] => false
  | character :: _ => !isWord character && character != '('

theorem breaks_append {first : List Char} (hfirst : breaks first = true) (second : List Char) :
    breaks (first ++ second) = true := by
  cases first with
  | nil => simp [breaks] at hfirst
  | cons character rest => exact hfirst

theorem Settled.fits {required : Item → Prop} {state next : State} {text : List Char}
    (hstate : Settled required state) (hbreaks : breaks text = true)
    (htext : Fits required start text next) : Fits required state text next := by
  rcases hstate with rfl | ⟨name, before, rfl, hname, hword⟩
  · exact htext
  · cases text with
    | nil => simp [breaks] at hbreaks
    | cons character rest =>
      obtain ⟨hcharacter, hcall⟩ : isWord character = false ∧ character ≠ '(' := by
        simpa [breaks] using hbreaks
      refine Fits.behind_word hname hcharacter ?_ htext
      have hplace : place before character = place before ' ' := by
        cases before <;> simp [place, hcall]
      rwa [hplace]

/-- A text that can be followed by a blank, a break or a semicolon. -/
def Phrase (required : Item → Prop) (text : List Char) : Prop :=
  ∃ state, Fits required start text state ∧ Settled required state

section

variable {required : Item → Prop} {first second : List Char}

theorem Fits.phrase (hfirst : Fits required start first start) : Phrase required first :=
  ⟨start, hfirst, .inl rfl⟩

theorem Fits.append_phrase (hfirst : Fits required start first start)
    (hsecond : Phrase required second) : Phrase required (first ++ second) := by
  obtain ⟨state, hfits, hsettled⟩ := hsecond
  exact ⟨state, hfirst.append hfits, hsettled⟩

theorem Phrase.append_fits {next : State} (hfirst : Phrase required first)
    (hbreaks : breaks second = true) (hsecond : Fits required start second next) :
    Fits required start (first ++ second) next := by
  obtain ⟨state, hfits, hsettled⟩ := hfirst
  exact hfits.append (hsettled.fits hbreaks hsecond)

theorem Phrase.append (hfirst : Phrase required first) (hbreaks : breaks second = true)
    (hsecond : Phrase required second) : Phrase required (first ++ second) := by
  obtain ⟨state, hfits, hsettled⟩ := hsecond
  exact ⟨state, hfirst.append_fits hbreaks hfits, hsettled⟩

theorem Phrase.mono {required' : Item → Prop} (hfirst : Phrase required first)
    (hrequired : ∀ item, required item → required' item) : Phrase required' first := by
  obtain ⟨state, hfits, hsettled⟩ := hfirst
  refine ⟨state, hfits.mono hrequired, ?_⟩
  rcases hsettled with rfl | ⟨name, before, rfl, hname, hword⟩
  · exact .inl rfl
  · exact .inr ⟨name, before, rfl, hname, hrequired _ hword⟩

theorem Phrase.word {name : List Char} (hname : IsName name) (hbehind : behind name = .other)
    (hword : required (.word name .named)) : Phrase required name :=
  ⟨_, Fits.word hname, .inr ⟨name, .other, rfl, hbehind, hword⟩⟩

/-- Whether the text is a phrase all of whose items pass the check. -/
def settles (check : Item → Bool) (text : List Char) : Bool :=
  (read start text).1.all check &&
    match (read start text).2 with
    | ⟨.plain, before⟩ => before = .other
    | ⟨.word name, before⟩ => behind name = .other && check (.word name (place before ' '))
    | _ => false

theorem Phrase.of_settles {check : Item → Bool} (hsettles : settles check first = true)
    (hcheck : ∀ item, check item = true → required item) : Phrase required first := by
  obtain ⟨hitems, hstate⟩ := Bool.and_eq_true_iff.mp hsettles
  refine ⟨_, ⟨rfl, fun item hitem ↦ hcheck item (List.all_eq_true.mp hitems item hitem)⟩, ?_⟩
  split at hstate
  · rename_i before hread
    rw [hread]
    exact .inl (by simp only [start, of_decide_eq_true hstate])
  · rename_i name before hread
    obtain ⟨hbehind, hword⟩ := Bool.and_eq_true_iff.mp hstate
    rw [hread]
    exact .inr ⟨name, before, rfl, of_decide_eq_true hbehind, hcheck _ hword⟩
  · nomatch hstate

theorem Fits.of_check {check : Item → Bool} {next : State}
    (hitems : (read start first).1.all check = true) (hleads : (read start first).2 = next)
    (hcheck : ∀ item, check item = true → required item) : Fits required start first next :=
  ⟨hleads, fun item hitem ↦ hcheck item (List.all_eq_true.mp hitems item hitem)⟩

end

def lineText (parts : List Code.Part) : List Char :=
  parts.flatMap fun part ↦ part.render.toList

@[simp]
theorem lineText_nil : lineText [] = [] :=
  rfl

@[simp]
theorem lineText_cons (part : Code.Part) (rest : List Code.Part) :
    lineText (part :: rest) = part.render.toList ++ lineText rest :=
  rfl

@[simp]
theorem lineText_append (first second : List Code.Part) :
    lineText (first ++ second) = lineText first ++ lineText second :=
  List.flatMap_append

def Rows (line : List Char → Prop) (code : Code) : Prop :=
  ∀ row ∈ code.lines, line (lineText row.parts)

namespace Rows

variable {line : List Char → Prop} {first second : Code}

theorem mono {line' : List Char → Prop} (hfirst : Rows line first)
    (hline : ∀ text, line text → line' text) : Rows line' first :=
  fun row hrow ↦ hline _ (hfirst row hrow)

theorem single {parts : List Code.Part} (hparts : line (lineText parts)) :
    Rows line (.line parts) := by
  intro row hrow
  rwa [List.mem_singleton.mp hrow]

theorem append (hfirst : Rows line first) (hsecond : Rows line second) :
    Rows line (first ++ second) := by
  intro row hrow
  rcases List.mem_append.mp hrow with hrow | hrow
  · exact hfirst row hrow
  · exact hsecond row hrow

theorem join {pieces : List Code} (hpieces : ∀ piece ∈ pieces, Rows line piece) :
    Rows line (.join pieces) := by
  intro row hrow
  obtain ⟨piece, hpiece, hrow⟩ := List.mem_flatMap.mp hrow
  exact hpieces piece hpiece row hrow

theorem indented (hfirst : Rows line first) (count : Nat) : Rows line (first.indented count) := by
  intro row hrow
  obtain ⟨inner, hinner, rfl⟩ := List.mem_map.mp hrow
  exact hfirst inner hinner

theorem braced {head tail : List Code.Part} {body : List Code}
    (hhead : line (lineText (if head.isEmpty then [.text "\x7b"] else head ++ [.text " \x7b"])))
    (hbody : ∀ piece ∈ body, Rows line piece) (htail : line (lineText (.text "\x7d" :: tail))) :
    Rows line (.block head body tail) :=
  ((Rows.single hhead).append ((Rows.join hbody).indented 4)).append (.single htail)

end Rows

section

variable {required : Item → Prop}

/-- Code between braces, behind a phrase. -/
theorem Rows.block {head tail : List Code.Part} {body : List Code} (hopening : required .opening)
    (hhead : Phrase required (lineText head)) (hbody : ∀ piece ∈ body, Rows (Phrase required) piece)
    (htail : Phrase required (lineText (.text "\x7d" :: tail))) :
    Rows (Phrase required) (.block head body tail) := by
  have hbrace : Fits required start [' ', '\x7b'] start := by
    have hread : read start [' ', '\x7b'] = ([.opening], start) := by decide
    exact ⟨by rw [hread], by simpa [hread] using hopening⟩
  have halone : Fits required start ['\x7b'] start := by
    have hread : read start ['\x7b'] = ([.opening], start) := by decide
    exact ⟨by rw [hread], by simpa [hread] using hopening⟩
  refine .braced ?_ hbody htail
  split
  · simpa [Code.Part.render] using halone.phrase
  · have hmore := (hhead.append_fits (by decide) hbrace).phrase
    simpa [Code.Part.render] using hmore

/-- Code that stands behind a phrase and before one. -/
theorem Rows.enclosed {before after : List Code.Part} {code : Code}
    (hbefore : Fits required start (lineText before) start) (hcode : Rows (Phrase required) code)
    (hbreaks : breaks (lineText after) = true) (hafter : Phrase required (lineText after)) :
    Rows (Phrase required) (code.enclosed before after) := by
  unfold Code.enclosed
  dsimp only
  split
  · exact fun row hrow ↦ absurd hrow List.not_mem_nil
  rename_i last rest hreverse
  have hopened : ∀ row ∈ last :: rest, Phrase required (lineText row.parts) := by
    intro row hrow
    rw [← hreverse, List.mem_reverse] at hrow
    split at hrow
    · rw [List.mem_singleton.mp hrow]
      exact hbefore.phrase
    · rename_i first others hlines
      rcases List.mem_cons.mp hrow with rfl | hrow
      · rw [lineText_append]
        exact hbefore.append_phrase (hcode first (hlines ▸ List.mem_cons_self))
      · exact hcode row (hlines ▸ List.mem_cons_of_mem _ hrow)
  intro row hrow
  rcases List.mem_cons.mp (List.mem_reverse.mp hrow) with rfl | hrow
  · rw [lineText_append]
    exact (hopened last List.mem_cons_self).append hbreaks hafter
  · exact hopened row (List.mem_cons_of_mem _ hrow)

end

theorem splitBreaks_of_notMem {wording : List Char} (hwording : '\n' ∉ wording) :
    Code.splitBreaks wording = (wording, []) := by
  induction wording with
  | nil => rfl
  | cons character rest ih =>
    obtain ⟨hcharacter, hrest⟩ : '\n' ≠ character ∧ '\n' ∉ rest := by
      simpa using hwording
    simp [Code.splitBreaks, ih hrest, hcharacter.symm]

theorem wrapped_of_notMem (head : List Code.Part) {wording : String}
    (hwording : '\n' ∉ wording.toList) :
    Code.wrapped head wording = .line (head ++ [.text wording]) := by
  rw [Code.wrapped, splitBreaks_of_notMem hwording]
  change Code.line (head ++ [.text (String.ofList wording.toList)]) = _
  rw [String.ofList_toList]

/-! ## The text of a code -/

/-- A line of text, whose break leads back to the start. -/
def Row (required : Item → Prop) (text : List Char) : Prop :=
  Fits required start (text ++ ['\n']) start

theorem Fits.lineBreak (required : Item → Prop) : Fits required start ['\n'] start := by
  have hread : read start ['\n'] = ([], start) := by decide
  exact ⟨by rw [hread], by simp [hread]⟩

theorem Phrase.row {required : Item → Prop} {text : List Char} (htext : Phrase required text) :
    Row required text :=
  htext.append_fits (by decide) (.lineBreak required)

def words (code : Code) : List Item :=
  code.lines.flatMap fun row ↦ (read start (lineText row.parts ++ ['\n'])).1

@[simp]
theorem words_line (parts : List Code.Part) :
    words (.line parts) = (read start (lineText parts ++ ['\n'])).1 := by
  simp [words, Code.line]

@[simp]
theorem words_append (first second : Code) : words (first ++ second) = words first ++ words second := by
  have hlines : (first ++ second).lines = first.lines ++ second.lines := rfl
  simp [words, hlines]

@[simp]
theorem words_join (pieces : List Code) : words (.join pieces) = pieces.flatMap words := by
  induction pieces with
  | nil => rfl
  | cons piece rest ih => simpa [words, Code.join] using ih

@[simp]
theorem words_indented (count : Nat) (code : Code) : words (code.indented count) = words code := by
  simp [words, Code.indented, List.flatMap_map]

theorem words_block (head tail : List Code.Part) (body : List Code) :
    words (.block head body tail) =
      words (.line (if head.isEmpty then [.text "\x7b"] else head ++ [.text " \x7b"])) ++
        body.flatMap words ++ words (.line (.text "\x7d" :: tail)) := by
  simp only [Code.block, words_append, words_indented, words_join]

/-- What is required of the lines holds of the items. -/
theorem Rows.words_meet {required : Item → Prop} {code : Code} (hcode : Rows (Row required) code) :
    ∀ item ∈ words code, required item := by
  intro item hitem
  obtain ⟨row, hrow, hitem⟩ := List.mem_flatMap.mp hitem
  exact (hcode row hrow).meets item hitem

theorem read_spaces (count : Nat) : read start (Code.spaces count).toList = ([], start) := by
  rw [Code.spaces, String.toList_ofList]
  induction count with
  | zero => rfl
  | succ count ih =>
    have hspace : advance start ' ' = ([], start) := by decide
    simp [List.replicate_succ, read, hspace, ih]

/-- A line that is written is indented. -/
theorem exists_spaces (row : Code.Line) :
    ∃ count, row.render.toList = (Code.spaces count).toList ++ lineText row.parts := by
  unfold Code.Line.render
  split
  · rename_i hempty
    exact ⟨0, by simp [List.isEmpty_iff.mp hempty, Code.spaces]⟩
  · have hjoin : (String.join (row.parts.map Code.Part.render)).toList = lineText row.parts := by
      rw [String.toList_join, List.flatMap_map]
      rfl
    exact ⟨row.indent, by rw [String.toList_append, hjoin]⟩

theorem read_render (row : Code.Line) :
    read start (row.render.toList ++ ['\n']) = read start (lineText row.parts ++ ['\n']) := by
  obtain ⟨count, hrender⟩ := exists_spaces row
  rw [hrender, List.append_assoc, read_append, read_spaces]
  rfl

theorem toList_text_cons (row : Code.Line) (rest : List Code.Line) :
    (Code.text ⟨row :: rest⟩).toList = row.render.toList ++ ['\n'] ++ (Code.text ⟨rest⟩).toList := by
  simp [Code.text]

/-- A code whose lines all lead back to the start is read line by line. -/
theorem read_text {required : Item → Prop} {code : Code} (hcode : Rows (Row required) code) :
    read start code.text.toList = (words code, start) := by
  obtain ⟨rows⟩ := code
  induction rows with
  | nil => rfl
  | cons row rest ih =>
    obtain ⟨hrow, hrest⟩ := List.forall_mem_cons.mp hcode
    rw [toList_text_cons, read_append, read_render, hrow.leads, ih hrest]
    rfl

theorem items_text {required : Item → Prop} {code : Code} (hcode : Rows (Row required) code) :
    items code.text = words code := by
  have hbreak : read start ['\n'] = ([], start) := by decide
  rw [items, read_append, read_text hcode, hbreak, List.append_nil]

/-- The characters that the bytes of a text stand for, one each. -/
def byteCharacters (text : String) : List Char :=
  text.toByteArray.data.toList.map fun byte ↦ Char.ofNat byte.toNat

/-- The characters of a text. Where each of them is one byte there is nothing to decode, which makes
it cheap to evaluate the fixed texts. -/
def characters (text : String) : List Char :=
  if (byteCharacters text).flatMap String.utf8EncodeChar = text.toByteArray.data.toList then
    byteCharacters text
  else text.toList

theorem characters_eq_toList (text : String) : characters text = text.toList := by
  unfold characters
  split
  · rename_i hbytes
    have htext : String.ofList (byteCharacters text) = text := by
      rw [← String.toByteArray_inj, String.toByteArray_ofList, List.utf8Encode, hbytes]
      ext1
      simp
    calc byteCharacters text = (String.ofList (byteCharacters text)).toList :=
          String.toList_ofList.symm
      _ = text.toList := by rw [htext]
  · rfl

/-- `lineText` as it is evaluated. -/
def fixedText (parts : List Code.Part) : List Char :=
  parts.flatMap fun part ↦ characters part.render

theorem fixedText_eq_lineText (parts : List Code.Part) : fixedText parts = lineText parts := by
  simp only [fixedText, lineText, characters_eq_toList]

/-- `words` as it is evaluated. -/
def fixedWords (code : Code) : List Item :=
  code.lines.flatMap fun row ↦ (read start (fixedText row.parts ++ ['\n'])).1

theorem fixedWords_eq_words (code : Code) : fixedWords code = words code := by
  simp only [fixedWords, words, fixedText_eq_lineText]

/-- The word behind `fn` is defined. -/
theorem read_define {name rest : List Char} {character : Char} (hname : IsName name)
    (hbehind : behind name = .other) (hcharacter : isWord character = false) :
    read start (['f', 'n', ' '] ++ (name ++ character :: rest)) =
      (.word ['f', 'n'] .named :: .word name .definition :: (read start (character :: rest)).1,
        (read start (character :: rest)).2) := by
  have hkeyword : read start ['f', 'n', ' '] = ([.word ['f', 'n'] .named], ⟨.plain, .keyword⟩) := by
    decide
  have hdefined : read ⟨.word name, .keyword⟩ (character :: rest) =
      (.word name .definition :: (read start (character :: rest)).1,
        (read start (character :: rest)).2) := by
    simp [read, advance, hcharacter, hbehind, start, place]
  rw [read_append, hkeyword, read_append, read_name .keyword hname, hdefined]
  rfl

def isOutline : Item → Bool
  | .word _ .definition | .opening | .closing => true
  | .word _ _ => false

theorem definitions_filter (depth : Nat) (found : List Item) :
    definitions depth (found.filter isOutline) = definitions depth found := by
  fun_induction definitions depth found with
  | case1 => rfl
  | case2 depth rest ih => simpa [List.filter_cons, isOutline, definitions] using ih
  | case3 depth rest ih => simpa [List.filter_cons, isOutline, definitions] using ih
  | case4 name rest ih => simpa [List.filter_cons, isOutline, definitions] using ih
  | case5 depth name rest hdepth ih =>
    simpa [List.filter_cons, isOutline, definitions, hdepth] using ih
  | case6 depth name place rest hplace ih =>
    have hword : isOutline (.word name place) = false := by
      cases place <;> simp_all [isOutline]
    simpa [List.filter_cons, hword] using ih

theorem definitions_eq_nil (depth : Nat) {found : List Item}
    (hfound : ∀ name, Item.word name .definition ∉ found) : definitions depth found = [] := by
  have hrest {first : Item} {rest : List Item}
      (hall : ∀ name, Item.word name .definition ∉ first :: rest) :
      ∀ name, Item.word name .definition ∉ rest :=
    fun name hname ↦ hall name (List.mem_cons_of_mem _ hname)
  fun_induction definitions depth found with
  | case1 => rfl
  | case4 name rest ih => exact absurd List.mem_cons_self (hfound name)
  | _ => exact ‹_ → _› (hrest hfound)

def outline (code : Code) : List Item :=
  (words code).filter isOutline

theorem outline_eq_nil {required : Item → Prop} {code : Code} (hcode : Rows (Row required) code)
    (hrequired : ∀ item, required item → isOutline item = false) : outline code = [] := by
  refine List.filter_eq_nil_iff.mpr fun item hitem ↦ ?_
  simpa using hrequired item (hcode.words_meet item hitem)

@[simp]
theorem outline_join (pieces : List Code) : outline (.join pieces) = pieces.flatMap outline := by
  simp only [outline, words_join, List.filter_flatMap]
  rfl

theorem outline_block (head tail : List Code.Part) (body : List Code) :
    outline (.block head body tail) =
      outline (.line (if head.isEmpty then [.text "\x7b"] else head ++ [.text " \x7b"])) ++
        body.flatMap outline ++ outline (.line (.text "\x7d" :: tail)) := by
  simp only [outline, words_block, List.filter_append, List.filter_flatMap]
  rfl

end BinaryLayout.Words
