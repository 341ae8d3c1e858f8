import InterfaceSchema.Schema
import InterfaceSchema.TypeDef.Recipe

/-!
# A sample schema

A small address book. Its types are declared before the types they depend on.
-/

namespace InterfaceSchema

namespace Sample

/-- The types, in the order of declaration. -/
def types : List TypeDef :=
  [ Recipe.build "Struct" "ContactList" <| .struct
      [ .comment "one page of contacts",
        .part (.arrayField "contacts" "Contact"),
        .part (.field (.build "next" (.named "PageToken") [.optional])) ],
    Recipe.build "Struct" "Contact" <| .struct
      [ .part (.field (.new "id" (.named "ContactId"))),
        .part (.field (.new "name" (.named "Name"))),
        .part (.field (.build "emails" (.array "Email") [.optional])),
        .part (.field (.build "location" (.named "Point") [.optional])),
        .part (.field (.build "labels" (.map "String" "Label") [.optional])),
        .part (.field (.build "kind" (.named "ContactKind") [.defaultValue (.text "PERSON")])),
        .part (.field (.build "rating" (.named "Rating") [.optional])),
        .part (.field (.new "created" (.named "Timestamp"))) ],
    Recipe.build "Map" "Lookup" <| .map [.part (.keys "String"), .part (.items "Point")],
    Recipe.build "Struct" "Line" <| .struct
      [ .part (.field (.new "from" (.named "Point"))),
        .part (.field (.new "to" (.named "Point"))) ],
    Recipe.build "Union" "Shape" <| .union [.part (.variant "Point"), .part (.variant "Line")],
    Recipe.build "Struct" "Point" <| .struct
      [ .part (.field (.new "x" (.named "Int32"))),
        .part (.field (.new "y" (.named "Int32"))) ],
    Recipe.build "Array" "IntList" <| .array [.part (.items "Int32")],
    Recipe.build "String" "ContactId" <| .string
      [.part (.pattern "[a-z0-9]\x7b8\x7d"), .comment "opaque contact identifier"],
    Recipe.build "String" "Name" <| .string [],
    Recipe.build "String" "Email" <| .string
      [.part (.pattern "[^@]+@[^@]+"), .part (.maxSize 254)],
    Recipe.build "String" "Label" <| .string [.part (.maxSize 32)],
    Recipe.build "Int8" "Rating" <| .number [.part (.min (.int8 0)), .part (.max (.int8 5))],
    Recipe.build "Enum" "ContactKind" <| .enum
      [.part (.element "PERSON"), .part (.elementWithComment "COMPANY" "an organisation")],
    Recipe.build "String" "PageToken" <| .synonym [],
    Recipe.build "Struct" "ResourceError" <| .struct
      [ .part (.field (.new "code" (.named "Int32"))),
        .part (.field (.new "message" (.named "String"))) ] ]

/-- The resources. -/
def resources : List Resource :=
  [ .build "Contact" "GET" "/contacts/\x7bid\x7d"
      [ .name "getContact",
        .input (.build "id" "ContactId" [.pathParam]),
        .input (.build "ifNoneMatch" "String" [.header "If-None-Match", .optional]),
        .output (.build "etag" "String" [.header "ETag"]),
        .exception "NOT_FOUND" "ResourceError" (some "no such contact") ],
    .build "ContactList" "GET" "/contacts"
      [ .name "listContacts",
        .input (.build "limit" "Int32"
          [.queryParam "limit", .optional, .defaultValue (.integer 25)]),
        .input (.build "skip" "PageToken" [.queryParam "skip", .optional]),
        .auth .authenticated ],
    .build "Contact" "PUT" "/contacts/\x7bid\x7d"
      [ .name "putContact",
        .comment "create or replace a contact",
        .input (.build "id" "ContactId" [.pathParam]),
        .input (.new "contact" "Contact"),
        .auth ((ResourceAuth.authorized "update" "contacts").inDomain "people"),
        .expected "NO_CONTENT",
        .exception "BAD_REQUEST" "ResourceError" none,
        .exception "FORBIDDEN" "ResourceError" (some "caller may not edit contacts") ] ]

/-- What the sample schema says about itself. -/
def header : Header :=
  { name := "contacts"
    namespaceName := some "com.example.contacts"
    version := some 1
    base := some "/api/v1"
    comment := some "address book service" }

/-- The sample as it is declared. -/
def draft : Draft := ⟨header, types, resources⟩

end Sample

end InterfaceSchema
