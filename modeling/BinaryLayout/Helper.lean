import BinaryLayout.Kind.Code

/-!
# Shared Helpers

Functions and types of generated code that serve all fields of a kind. A helper is known by its
identity, and kinds with the same identity share one text. Bit fields, pointers and references need no
helper of their own.
-/

namespace BinaryLayout

open Code (Part)

namespace Helper

/-- The arguments of a function that reads at an offset. -/
def parameters : String :=
  "reader: &dyn ReaderAt, offset: u64"

/-- A function that reads at an offset. -/
def function (name arguments result : String) (body : List Code) : Code :=
  .block [.text "fn ", .define name, .text ("(" ++ arguments ++ ") -> " ++ result)] body

/-- The formatter of a type. -/
def displayCode (type : String) (body : List Code) : Code :=
  .block [.text "impl std::fmt::Display for ", .mention type]
    [.block ["fn fmt(&self, f: &mut std::fmt::Formatter<'_>) -> std::fmt::Result"] body]

/-- Reads as many bytes as there are, at most `length`, into `buf`. -/
def fillCode (length : String) : Code :=
  .join
    [.line [.text ("let mut buf = vec![0u8; " ++ length ++ "];")],
     "let n = reader.read_at(offset, &mut buf).unwrap_or(0);",
     "buf.truncate(n);"]

def integerCode (type : IntegerType) : Code :=
  function type.reader parameters type.typeName
    [.line [.text ("let mut buf = [0u8; " ++ toString type.width.bytes ++ "];")],
     .block ["match reader.read_at(offset, &mut buf)"]
      [.line [.text ("Ok(n) if n == buf.len() => " ++ type.typeName ++ "::from_le_bytes(buf),")],
       "_ => 0,"]]

def enumerationCode : Code :=
  .join
    ["#[derive(Clone, Copy, Debug, PartialEq, Eq)]",
     .block [.text "pub struct ", .define "Enumeration"]
      ["pub value: u64,",
       "pub name: &'static str,"],
     .blank,
     displayCode "Enumeration" ["write!(f, \"\x7b\x7d (\x7b\x7d)\", self.name, self.value)"]]

def flagsCode : Code :=
  .join
    ["#[derive(Clone, Debug, PartialEq, Eq)]",
     .block [.text "pub struct ", .define "Flags"]
      ["pub value: u64,",
       "pub names: std::collections::BTreeSet<&'static str>,"],
     .blank,
     .block [.text "impl ", .mention "Flags"]
      [.block ["pub fn is_set(&self, name: &str) -> bool"]
        ["self.names.contains(name)"]],
     .blank,
     displayCode "Flags"
      ["let names: Vec<&str> = self.names.iter().copied().collect();",
       "write!(f, \"\x7b\x7d (\x7b\x7d)\", self.value, names.join(\", \"))"]]

def signatureCode : Code :=
  .join
    ["#[derive(Clone, Debug, PartialEq, Eq)]",
     .block [.text "pub struct ", .define "Signature"]
      ["pub value: Vec<u8>,",
       "pub signature: &'static [u8],"],
     .blank,
     .block [.text "impl ", .mention "Signature"]
      [.block ["pub fn is_valid(&self) -> bool"]
        ["self.value == self.signature"]],
     .blank,
     displayCode "Signature"
      ["let state = if self.is_valid() \x7b \"valid\" \x7d else \x7b \"invalid\" \x7d;",
       "write!(f, \"\x7b\x7d (\x7b\x7d)\", String::from_utf8_lossy(&self.value), state)"],
     .blank,
     function "parse_signature" (parameters ++ ", length: usize") "Vec<u8>"
      ["let mut buf = vec![0u8; length];",
       .block ["match reader.read_at(offset, &mut buf)"]
        ["Ok(n) => buf.truncate(n),",
         "Err(_) => buf.clear(),"],
       "buf"]]

def stringCode (window : Nat) : Code :=
  .join
    [function "parse_terminated_string" parameters "String"
      [fillCode (toString window),
       .block ["if let Some(end) = buf.iter().position(|&b| b == 0)"]
        ["buf.truncate(end);"],
       "String::from_utf8_lossy(&buf).into_owned()"],
     .blank,
     function "terminated_string_size" parameters "u64"
      [fillCode (toString window),
       .block ["match buf.iter().position(|&b| b == 0)"]
        ["Some(end) => end as u64 + 1,",
         "None => n as u64,"]],
     .blank,
     function "parse_string" (parameters ++ ", length: usize") "String"
      [fillCode "length",
       "String::from_utf8_lossy(&buf).into_owned()"]]

def utf16Code (window : Nat) : Code :=
  .join
    [function "parse_terminated_utf16_string" parameters "String"
      [fillCode (toString window),
       .block
        [.text "let end = ", .mention "utf16_text_end", .text "(&buf).unwrap_or_else(||"]
        ["let end = n.saturating_sub(1);",
         "end + end % 2"] [");"],
       "buf.truncate(end.min(n));",
       .line [.mention "utf16_bytes_to_string", "(&buf)"]],
     .blank,
     function "terminated_utf16_size" parameters "u64"
      [fillCode (toString window),
       .block [.text "match ", .mention "utf16_text_end", .text "(&buf)"]
        ["Some(end) => (end + 2).min(n) as u64,",
         "None => n as u64,"]],
     .blank,
     "/// Length of the text before a double-zero terminator, rounded up to a whole unit.",
     function "utf16_text_end" "buf: &[u8]" "Option<usize>"
      ["let end = buf.windows(2).position(|w| w[0] == 0 && w[1] == 0)?;",
       "Some(end + end % 2)"],
     .blank,
     function "parse_utf16_string" (parameters ++ ", length: usize") "String"
      [fillCode "length",
       .line [.mention "utf16_bytes_to_string", "(&buf)"]],
     .blank,
     function "utf16_bytes_to_string" "bytes: &[u8]" "String"
      [.block ["if bytes.len() < 2"]
        ["return String::new();"],
       .block ["let (big_endian, body) = match bytes"]
        ["[0xff, 0xfe, rest @ ..] => (true, rest),",
         "[0xfe, 0xff, rest @ ..] => (false, rest),",
         "_ => (false, bytes),"] [";"],
       "let mut units: Vec<u16> = body",
       Code.indented 4 (.join
        [".chunks_exact(2)",
         .block [".map(|pair|"]
          ["let pair = [pair[0], pair[1]];",
           .block ["if big_endian"]
            ["u16::from_be_bytes(pair)"] [" else \x7b"],
           Code.indented 4 "u16::from_le_bytes(pair)",
           "\x7d"] [")"],
         ".collect();"]),
       .block ["if body.len() % 2 != 0"]
        ["units.push(0xfffd);"],
       "String::from_utf16_lossy(&units)"]]

/-- The function that decodes an array: it takes a count within the limit, and each element starts
where the one before it ends. -/
def loopCode (profile name : String) (limit : Nat) (type : List Part) (element : Code)
    (size : List Part) : Code :=
  .join
    ["#[allow(unused_variables)]",
     .block
      ([.text "fn ", .define name,
        .text ("<'a>(profile: &'a " ++ profile ++
          ", reader: &'a dyn ReaderAt, mut offset: u64, count: i64) -> Vec<")] ++
        type ++ [.text ">"])
      [.line [.text ("let count = count.clamp(0, " ++ toString limit ++ ") as usize;")],
       "let mut result = Vec::with_capacity(count.min(1024));",
       .block ["for _ in 0..count"]
        [element.enclosed ["let value = "] [";"],
         .line ([.text "offset = offset.wrapping_add("] ++ size ++ [.text " as u64);"]),
         "result.push(value);"],
       "result"]]

def arrayCode (options : Options) (element : Kind) (placeholder : String := "0") : Code :=
  loopCode options.profile (element.arrayReader options) options.arrayLimit element.typeParts
    (element.decodeCode options .helper placeholder) (element.sizeParts "value" "offset")

end Helper

namespace Kind

/-- The identity of the helper that the kind relies on. -/
def identity? (options : Options) : Kind → Option String
  | .integer type => some type.reader
  | .enumeration _ => some "Enumeration"
  | .flags _ => some "Flags"
  | .signature _ => some "Signature"
  | .text .bytes _ => some "String"
  | .text .utf16 _ => some "UTF16String"
  | .array _ element => some (element.arrayReader options)
  | .bitField _ | .pointer _ | .reference _ => none

/-- The helper of the kind, empty if it has none. -/
def helperCode (options : Options) (placeholder : String := "0") : Kind → Code
  | .integer type => Helper.integerCode type
  | .enumeration _ => Helper.enumerationCode
  | .flags _ => Helper.flagsCode
  | .signature _ => Helper.signatureCode
  | .text .bytes _ => Helper.stringCode options.window
  | .text .utf16 _ => Helper.utf16Code options.window
  | .array _ element => Helper.arrayCode options element placeholder
  | .bitField _ | .pointer _ | .reference _ => .empty

end Kind

end BinaryLayout
