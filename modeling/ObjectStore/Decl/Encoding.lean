import ObjectStore.Decl.Basic
import ObjectStore.Query.Encoding

/-!
# Declarations as JSON

Type references and class bodies nest to any depth, so their decoders go down level by level, and the depth of the JSON value is the number of levels they are given.
-/

namespace ObjectStore

namespace Modifier

def encode (modifier : Modifier) : Json :=
  .obj [("name", .str modifier.name), ("span", modifier.span.encode)]

def decode (json : Json) : Option Modifier :=
  match json.slots ["name", "span"] with
  | some [name, span] => do
    some ⟨← name.required Json.asString, ← span.withDefault Span.unknown Span.decode⟩
  | _ => failure

end Modifier

namespace TypeRef

mutual

def encode : TypeRef → Json
  | ⟨name, arguments⟩ => .obj [("name", .str name), ("arguments", .arr (encodeAll arguments))]

def encodeAll : List TypeRef → List Json
  | [] => []
  | typeRef :: rest => typeRef.encode :: encodeAll rest

end

/-- The type reference in a value of at most the given depth. -/
def decodeWithin : Nat → Json → Option TypeRef
  | 0, _ => none
  | levels + 1, json =>
    match json.slots ["name", "arguments"] with
    | some [name, arguments] => do
      some ⟨← name.required Json.asString, ← arguments.withDefault [] (Json.asList (decodeWithin levels))⟩
    | _ => failure

def decode (json : Json) : Option TypeRef :=
  decodeWithin json.depth json

end TypeRef

namespace Parameter

def encode (parameter : Parameter) : Json :=
  .obj [("type_ref", parameter.typeRef.encode), ("name", .str parameter.name)]

def decode (json : Json) : Option Parameter :=
  match json.slots ["type_ref", "name"] with
  | some [typeRef, name] => do
    some ⟨← typeRef.required TypeRef.decode, ← name.required Json.asString⟩
  | _ => failure

end Parameter

namespace Block

def encode (block : Block) : Json :=
  .obj [("span", block.span.encode)]

def decode (json : Json) : Option Block :=
  match json.slots ["span"] with
  | some [span] => (span.required Span.decode).map Block.mk
  | _ => none

end Block

namespace MethodDeclaration

def encode (d : MethodDeclaration) : Json :=
  .obj [
    ("name", .str d.name), ("modifiers", .arr (d.modifiers.map Modifier.encode)),
    ("return_type", .ofOption TypeRef.encode d.returnType), ("parameters", .arr (d.parameters.map Parameter.encode)),
    ("body", .ofOption Block.encode d.body), ("span", d.span.encode)
  ]

def decode (json : Json) : Option MethodDeclaration :=
  match json.slots ["name", "modifiers", "return_type", "parameters", "body", "span"] with
  | some [name, modifiers, returnType, parameters, body, span] => do
    some {
      name := ← name.required Json.asString
      modifiers := ← modifiers.required (Json.asList Modifier.decode)
      returnType := ← returnType.optional TypeRef.decode
      parameters := ← parameters.required (Json.asList Parameter.decode)
      body := ← body.optional Block.decode
      span := ← span.withDefault Span.unknown Span.decode
    }
  | _ => failure

end MethodDeclaration

namespace ConstructorDeclaration

def encode (d : ConstructorDeclaration) : Json :=
  .obj [
    ("name", .str d.name), ("modifiers", .arr (d.modifiers.map Modifier.encode)),
    ("parameters", .arr (d.parameters.map Parameter.encode)), ("body", d.body.encode), ("span", d.span.encode)
  ]

def decode (json : Json) : Option ConstructorDeclaration :=
  match json.slots ["name", "modifiers", "parameters", "body", "span"] with
  | some [name, modifiers, parameters, body, span] => do
    some {
      name := ← name.required Json.asString
      modifiers := ← modifiers.required (Json.asList Modifier.decode)
      parameters := ← parameters.required (Json.asList Parameter.decode)
      body := ← body.required Block.decode
      span := ← span.withDefault Span.unknown Span.decode
    }
  | _ => failure

end ConstructorDeclaration

namespace FieldDeclaration

def encode (d : FieldDeclaration) : Json :=
  .obj [
    ("modifiers", .arr (d.modifiers.map Modifier.encode)), ("type_ref", d.typeRef.encode),
    ("names", .arr (d.names.map .str)), ("span", d.span.encode)
  ]

def decode (json : Json) : Option FieldDeclaration :=
  match json.slots ["modifiers", "type_ref", "names", "span"] with
  | some [modifiers, typeRef, names, span] => do
    some {
      modifiers := ← modifiers.required (Json.asList Modifier.decode)
      typeRef := ← typeRef.required TypeRef.decode
      names := ← names.required (Json.asList Json.asString)
      span := ← span.withDefault Span.unknown Span.decode
    }
  | _ => failure

end FieldDeclaration

namespace PropertyDeclaration

def encode (d : PropertyDeclaration) : Json :=
  .obj [
    ("modifiers", .arr (d.modifiers.map Modifier.encode)), ("type_ref", d.typeRef.encode), ("name", .str d.name),
    ("getter", .ofOption Block.encode d.getter), ("setter", .ofOption Block.encode d.setter),
    ("span", d.span.encode)
  ]

def decode (json : Json) : Option PropertyDeclaration :=
  match json.slots ["modifiers", "type_ref", "name", "getter", "setter", "span"] with
  | some [modifiers, typeRef, name, getter, setter, span] => do
    some {
      modifiers := ← modifiers.required (Json.asList Modifier.decode)
      typeRef := ← typeRef.required TypeRef.decode
      name := ← name.required Json.asString
      getter := ← getter.optional Block.decode
      setter := ← setter.optional Block.decode
      span := ← span.withDefault Span.unknown Span.decode
    }
  | _ => failure

end PropertyDeclaration

namespace InterfaceDeclaration

def encode (d : InterfaceDeclaration) : Json :=
  .obj [
    ("name", .str d.name), ("modifiers", .arr (d.modifiers.map Modifier.encode)),
    ("extends", .arr (d.extended.map TypeRef.encode)), ("methods", .arr (d.methods.map MethodDeclaration.encode)),
    ("span", d.span.encode)
  ]

def decode (json : Json) : Option InterfaceDeclaration :=
  match json.slots ["name", "modifiers", "extends", "methods", "span"] with
  | some [name, modifiers, extended, methods, span] => do
    some {
      name := ← name.required Json.asString
      modifiers := ← modifiers.required (Json.asList Modifier.decode)
      extended := ← extended.required (Json.asList TypeRef.decode)
      methods := ← methods.required (Json.asList MethodDeclaration.decode)
      span := ← span.withDefault Span.unknown Span.decode
    }
  | _ => failure

end InterfaceDeclaration

mutual

def Declaration.encode : Declaration → Json
  | .method d => .obj [("Method", d.encode)]
  | .field d => .obj [("Field", d.encode)]
  | .constructor d => .obj [("Constructor", d.encode)]
  | .property d => .obj [("Property", d.encode)]
  | .innerClass d => .obj [("Class", d.encode)]
  | .interface d => .obj [("Interface", d.encode)]

def ClassDeclaration.encode : ClassDeclaration → Json
  | ⟨name, modifiers, superClass, implemented, body, span⟩ => .obj [
    ("name", .str name), ("modifiers", .arr (modifiers.map Modifier.encode)),
    ("super_class", .ofOption TypeRef.encode superClass), ("implements", .arr (implemented.map TypeRef.encode)),
    ("body", .arr (Declaration.encodeAll body)), ("span", span.encode)
  ]

def Declaration.encodeAll : List Declaration → List Json
  | [] => []
  | declaration :: rest => declaration.encode :: Declaration.encodeAll rest

end

namespace ClassDeclaration

/-- A class whose members are decoded by the given function. -/
def decodeMembers (member : Json → Option Declaration) (json : Json) : Option ClassDeclaration :=
  match json.slots ["name", "modifiers", "super_class", "implements", "body", "span"] with
  | some [name, modifiers, superClass, implemented, body, span] => do
    some {
      name := ← name.required Json.asString
      modifiers := ← modifiers.required (Json.asList Modifier.decode)
      superClass := ← superClass.optional TypeRef.decode
      implemented := ← implemented.required (Json.asList TypeRef.decode)
      body := ← body.required (Json.asList member)
      span := ← span.withDefault Span.unknown Span.decode
    }
  | _ => failure

end ClassDeclaration

namespace Declaration

/-- The declaration in a value of at most the given depth. -/
def decodeWithin : Nat → Json → Option Declaration
  | 0, _ => none
  | levels + 1, json =>
    match json.variant? with
    | some ("Method", some content) => (MethodDeclaration.decode content).map method
    | some ("Field", some content) => (FieldDeclaration.decode content).map field
    | some ("Constructor", some content) => (ConstructorDeclaration.decode content).map constructor
    | some ("Property", some content) => (PropertyDeclaration.decode content).map property
    | some ("Class", some content) => (ClassDeclaration.decodeMembers (decodeWithin levels) content).map innerClass
    | some ("Interface", some content) => (InterfaceDeclaration.decode content).map interface
    | _ => none

def decode (json : Json) : Option Declaration :=
  decodeWithin json.depth json

end Declaration

def ClassDeclaration.decode (json : Json) : Option ClassDeclaration :=
  decodeMembers Declaration.decode json

end ObjectStore
