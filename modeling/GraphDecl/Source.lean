/-!
# Sources of text

A file as a reader meets it: bytes, a directory in its place, or nothing. Bytes are text if they
are UTF-8.
-/

namespace GraphDecl

inductive Source
  | bytes (content : ByteArray)
  | directory
  | missing

inductive SourceFault
  | missing
  | directory
  | notText
deriving DecidableEq

def SourceFault.message : SourceFault → String
  | .missing => "No such file or directory (os error 2)"
  | .directory => "Is a directory (os error 21)"
  | .notText => "stream did not contain valid UTF-8"

/-- The text of a source. -/
def Source.text : Source → Except SourceFault String
  | .bytes content =>
    match String.fromUTF8? content with
    | some s => .ok s
    | none => .error .notText
  | .directory => .error .directory
  | .missing => .error .missing

end GraphDecl
