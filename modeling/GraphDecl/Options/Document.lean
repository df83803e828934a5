import GraphDecl.Json.Record
import GraphDecl.Options.Basic

/-!
# Option documents

Options as a JSON document. Every field can be left out, in the array form too, and keeps its
default then.
-/

namespace GraphDecl
open Json (Doc Fault Record Slot)

structure IdentifiersDraft where
  string : Option String := none
  int : Option String := none
  float : Option String := none
  nonNull : Option String := none
  enumType : Option String := none
  objectType : Option String := none

def identifiersRecord : Record IdentifiersDraft where
  name := "Identifiers"
  slots := [
    .of "string" true (·.string) (fun r v => { r with string := some v }) Doc.asString,
    .of "int" true (·.int) (fun r v => { r with int := some v }) Doc.asString,
    .of "float" true (·.float) (fun r v => { r with float := some v }) Doc.asString,
    .of "nonNull" true (·.nonNull) (fun r v => { r with nonNull := some v }) Doc.asString,
    .of "enumType" true (·.enumType) (fun r v => { r with enumType := some v }) Doc.asString,
    .of "objectType" true (·.objectType) (fun r v => { r with objectType := some v }) Doc.asString]

def Identifiers.ofDoc (d : Doc) : Except Fault Identifiers := do
  let r ← identifiersRecord.decode {} d
  let base : Identifiers := {}
  return ⟨r.string.getD base.string, r.int.getD base.int, r.float.getD base.float,
    r.nonNull.getD base.nonNull, r.enumType.getD base.enumType, r.objectType.getD base.objectType⟩

def declarationStyles : List (String × DeclarationStyle) :=
  [("mutable", .mutable), ("immutable", .immutable)]

def unknownTypePolicies : List (String × UnknownTypePolicy) :=
  [("reject", .reject), ("permissive", .permissive)]

structure OptionsDraft where
  defaultDescription : Option String := none
  declarationStyle : Option DeclarationStyle := none
  unknownTypes : Option UnknownTypePolicy := none
  identifiers : Option Identifiers := none

def optionsRecord : Record OptionsDraft where
  name := "GeneratorOptions"
  slots := [
    .of "defaultDescription" true (·.defaultDescription)
      (fun r v => { r with defaultDescription := some v }) Doc.asString,
    .of "declarationStyle" true (·.declarationStyle)
      (fun r v => { r with declarationStyle := some v }) (Doc.asVariant declarationStyles),
    .of "unknownTypes" true (·.unknownTypes) (fun r v => { r with unknownTypes := some v })
      (Doc.asVariant unknownTypePolicies),
    .of "identifiers" true (·.identifiers) (fun r v => { r with identifiers := some v })
      Identifiers.ofDoc]

def Options.ofDoc (d : Doc) : Except Fault Options := do
  let r ← optionsRecord.decode {} d
  let base : Options := {}
  return ⟨r.defaultDescription.getD base.defaultDescription,
    r.declarationStyle.getD base.declarationStyle, r.unknownTypes.getD base.unknownTypes,
    r.identifiers.getD base.identifiers⟩

/-- The options of a JSON text. -/
def Options.ofText (text : String) : Except Fault Options :=
  (Json.Document.ofText text).decode Options.ofDoc

end GraphDecl
