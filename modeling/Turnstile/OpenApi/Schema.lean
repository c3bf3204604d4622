import Turnstile.Json.Value

/-!
The shapes that the interface description names: what bodies and responses are made of.
-/

namespace Turnstile.OpenApi

open Json (Value)

inductive Shape where
  | text | optionalText | texts | uuid | time | count | flag
  /-- Section names with the names of permissions. -/
  | rights
  | named (schema : String)
  | listOf (schema : String)
  deriving DecidableEq, Repr

def typed (kind : String) (rest : List (String × Value)) : List (String × Value) :=
  ("type", .text kind) :: rest

def reference (schema : String) : Value := .record [("$ref", .text ("#/components/schemas/" ++ schema))]

def Shape.members : Shape → List (String × Value)
  | .text => typed "string" []
  | .optionalText => [("type", .texts ["string", "null"])]
  | .texts => typed "array" [("items", .record (typed "string" []))]
  | .uuid => typed "string" [("format", .text "uuid")]
  | .time => typed "string" [("format", .text "date-time")]
  | .count => typed "integer" [("format", .text "int64"), ("minimum", .integer 0)]
  | .flag => typed "boolean" []
  | .rights => typed "object"
      [("additionalProperties",
          .record (typed "array" [("items", .record (typed "string" []))])),
        ("propertyNames", .record (typed "string" []))]
  | .named schema => [("$ref", .text ("#/components/schemas/" ++ schema))]
  | .listOf schema => typed "array" [("items", reference schema)]

def described (text : Option String) : List (String × Value) :=
  (text.map fun t => ("description", Value.text t)).toList

def Shape.value (s : Shape) (description : Option String) : Value :=
  .record (s.members ++ described description)

structure Property where
  name : String
  shape : Shape
  required : Bool
  description : Option String
  deriving DecidableEq, Repr

/-- A record of properties; a closed one may have no others. -/
structure Schema where
  name : String
  closed : Bool
  properties : List Property
  deriving DecidableEq, Repr

def Schema.value (s : Schema) : Value :=
  let required := (s.properties.filter (·.required)).map (·.name)
  .record (typed "object"
    ((if required = [] then [] else [("required", .texts required)]) ++
      [("properties",
        .record (s.properties.map fun p => (p.name, p.shape.value p.description)))] ++
      (if s.closed then [("additionalProperties", .flag false)] else [])))

def must (name : String) (shape : Shape) : Property := ⟨name, shape, true, none⟩

def may (name : String) (shape : Shape) : Property := ⟨name, shape, false, none⟩

def Property.saying (p : Property) (text : String) : Property := { p with description := some text }

def answers : List Schema := [
  ⟨"ErrorBody", false,
    [(must "error" .text).saying "Stable machine-readable code, e.g. \x60not_found\x60.",
      must "message" .text]⟩,
  ⟨"TokenPair", false, [must "accessToken" .text, must "refreshToken" .text]⟩,
  ⟨"Health", false,
    [must "commit" .text, must "name" .text, must "version" .text, must "database" .text]⟩,
  ⟨"RegisterResponse", false, [must "id" .uuid]⟩,
  ⟨"UserDetail", false,
    [must "id" .uuid, must "phone" .text, may "email" .optionalText, may "firstName" .optionalText,
      may "lastName" .optionalText, must "roles" .texts, must "entitlements" .texts,
      must "createdAt" .time, must "updatedAt" .time]⟩,
  ⟨"ContextsResponse", false,
    [must "userId" .uuid, must "merchantIds" .texts,
      (must "merchants" .text).saying "Comma-joined \x60merchant_ids\x60.", must "global" .flag]⟩,
  ⟨"DeletedContexts", false, [must "removed" .count]⟩,
  ⟨"RoleResponse", false,
    [must "id" .uuid,
      (must "name" .text).saying
        "One of \x60ADMIN\x60, \x60MANAGER\x60, \x60OPERATOR\x60, \x60MERCHANT\x60, \x60SUPPORT\x60.",
      must "localizedName" .text, must "notes" .text, must "rights" .rights]⟩]

def requests : List Schema := [
  ⟨"RegisterRequest", true,
    [must "phone" .text, may "email" .optionalText, must "password" .text,
      may "firstName" .optionalText, may "lastName" .optionalText]⟩,
  ⟨"LoginRequest", true, [must "phone" .text, must "password" .text]⟩,
  ⟨"RefreshRequest", true, [must "refreshToken" .text]⟩,
  ⟨"UserUpdateRequest", true, [must "phone" .text, must "password" .text]⟩,
  ⟨"AssignRoleRequest", true,
    [must "roleId" .text,
      (may "merge" .flag).saying "Union the role's rights into the user's instead of replacing them."]⟩,
  ⟨"AddContextRequest", true, [may "merchantId" .optionalText, may "global" .flag]⟩,
  ⟨"EditContextRequest", true, [must "global" .flag]⟩,
  ⟨"RoleRequest", true,
    [must "name" .text, must "localizedName" .text, may "notes" .text, may "rights" .rights]⟩]

/-- All schemas by name; rights are a bare map and not a record. -/
def components : List (String × Value) :=
  ((answers ++ requests).map fun s => (s.name, s.value)) ++
    [("RightsBody", Shape.rights.value
      (some "Rights as they travel over the wire: section name to permission names."))]

end Turnstile.OpenApi
