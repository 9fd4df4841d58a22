import BinaryLayout.Profile.Build

/-!
# Artifacts

The module that a run generates: a header, the shared helpers in the order of their identities, the
structures in the order of their names, and the profile with its table of offsets.
-/

namespace BinaryLayout

open Code (Part)

namespace Artifact

def header (options : Options) : Code :=
  .join
    ["// Code generated by binparsegen. DO NOT EDIT.",
     .line [.text ("// Module: " ++ options.module)],
     .line [.text ("// Profile: " ++ options.profile)],
     .blank,
     .line [.text ("use " ++ options.runtime ++ "::\x7bReaderAt, Structure\x7d;")],
     .blank]

/-- Each helper with a blank line behind it. -/
def helpers (helpers : List (String × Code)) : Code :=
  .join (helpers.map fun helper ↦ helper.2 ++ .blank)

/-! ## Structures -/

/-- A structure of the artifact: a place in a source, read with a profile. -/
def handle (profile : String) (struct : Structure) : Code :=
  .join
    ["#[allow(non_camel_case_types)]",
     "#[derive(Clone, Copy)]",
     .block [.text ("pub struct " ++ struct.name ++ "<'a>")]
      ["pub reader: &'a dyn ReaderAt,",
       "pub offset: u64,",
       .line [.text ("pub profile: &'a " ++ profile ++ ",")]],
     .blank,
     .block [.text ("impl Structure for " ++ struct.name ++ "<'_>")]
      [.block ["fn size(&self) -> u64"]
        [.line [.text (toString struct.size.toNat)]]],
     .blank]

/-- The accessors with blank lines between them. -/
def separated : List Code → Code
  | [] => .empty
  | [last] => last
  | first :: rest => first ++ .blank ++ separated rest

/-- The accessors of a structure, nothing if it has no fields. -/
def accessors (options : Options) (struct : Structure) : Code :=
  let members := struct.sortedMembers
  if members.isEmpty then .empty
  else
    .join
      ["#[allow(non_snake_case)]",
       .line [.text ("impl<'a> " ++ struct.name ++ "<'a> \x7b")],
       separated (members.map fun member ↦
        member.field.kind.accessorCode options struct.name member.name),
       "\x7d",
       .blank]

/-- How the formatter of a structure shows a field. The formatter of a structure outside the profile
may not exist. -/
def displayStyle (profile : Profile) (kind : Kind) : DebugStyle :=
  match kind with
  | .reference target => if (profile.structure? target).isSome then .nested else .skip
  | _ => kind.debugStyle

/-- The methods that are called, one after another, for the lines of a structure inside another one. -/
def lineMethods : List String :=
  ["to_string", "lines"]

/-- The statements that write one field. -/
def displayField (profile : Profile) (member : Member) : Code :=
  let call := "self." ++ Name.escaped member.name ++ "()"
  let write (format value : String) : Code :=
    .line [.text ("writeln!(f, \"  " ++ member.name ++ ": " ++ format ++ "\", " ++ value ++ ")?;")]
  match displayStyle profile member.field.kind with
  | .text | .display => write "\x7b\x7d" call
  | .hex => write "\x7b:#x\x7d" call
  | .count => write "[\x7b\x7d elements]" (call ++ ".len()")
  | .nested =>
    .join
      [.line [.text ("writeln!(f, \"  " ++ member.name ++ ": \x7b\x7b\")?;")],
       .block [.text ("for line in " ++ call ++
          String.join (lineMethods.map fun method ↦ "." ++ method ++ "()"))]
        ["writeln!(f, \"    \x7bline\x7d\")?;"],
       "writeln!(f, \"  \x7d\x7d\")?;"]
  | .skip => .empty

def formatter (profile : Profile) (struct : Structure) : Code :=
  .join
    [.block [.text ("impl std::fmt::Display for " ++ struct.name ++ "<'_>")]
      [.block ["fn fmt(&self, f: &mut std::fmt::Formatter<'_>) -> std::fmt::Result"]
        [.line [.text ("writeln!(f, \"struct " ++ struct.name ++ " @ \x7b:#x\x7d:\", self.offset)?;")],
         .join (struct.sortedMembers.map (displayField profile)),
         "Ok(())"]],
     .blank]

def structureCode (options : Options) (profile : Profile) (struct : Structure) : Code :=
  handle options.profile struct ++ accessors options struct ++
    (if options.debug then formatter profile struct else .empty)

/-! ## The profile -/

/-- The type of the profile, with a field for every offset. -/
def offsetTable (profile : Profile) : Code :=
  .join
    ["#[allow(non_snake_case)]",
     "#[derive(Clone, Debug, PartialEq, Eq)]",
     .block [.text ("pub struct " ++ profile.name)]
      (profile.offsets.map fun ((owner, field), _) ↦
        .line [.text "pub ", .offset owner field, .text ": u64,"]),
     .blank]

/-- The function that gives every offset the value of the schema. -/
def constructor (profile : Profile) : Code :=
  .block ["pub fn new() -> Self"]
    [.block ["Self"]
      (profile.offsets.map fun ((owner, field), value) ↦
        .line [.offset owner field, .text (": " ++ toString value.toNat ++ ",")])]

/-- The function that makes a structure at an offset. -/
def factory (struct : Structure) : Code :=
  .block
    [.text ("pub fn " ++ struct.name ++ "<'a>(&'a self, reader: &'a dyn ReaderAt, offset: u64) -> " ++
      struct.name ++ "<'a>")]
    [.block [.text struct.name]
      ["reader,",
       "offset,",
       "profile: self,"]]

def profileCode (profile : Profile) : Code :=
  .join
    [offsetTable profile,
     "#[allow(non_snake_case)]",
     .block [.text ("impl " ++ profile.name)]
      (constructor profile :: profile.structures.map fun struct ↦ .blank ++ factory struct),
     .blank,
     .block [.text ("impl Default for " ++ profile.name)]
      [.block ["fn default() -> Self"]
        ["Self::new()"]]]

/-! ## The whole -/

/-- The artifact for a profile and the context that it was built in. -/
def code (context : Context) (profile : Profile) : Code :=
  .join
    ([header context.options, helpers context.helpers] ++
      profile.structures.map (structureCode context.options profile) ++ [profileCode profile])

/-- The text of the artifact for a description, a schema and options. -/
def generateWith (options : Options) (spec : Spec) (schema : Schema) : Except BuildError String :=
  let (result, context) := (Profile.build spec schema).run.run { options }
  result.map fun profile ↦ (code context profile).text

/-- The text of the artifact with the limits at their defaults. -/
def generate (spec : Spec) (schema : Schema) : Except BuildError String :=
  generateWith (.ofSpec spec) spec schema

end Artifact

end BinaryLayout
