import ApiTypes.Schema.Type

/-!
# The generated module

A module is a banner and one interface with a member for each named schema, in the order
of the schemas. All members are required. In OpenAPI 3 the members stand one block
deeper than in Swagger 2.
-/

namespace ApiTypes.TypeScript

/-- The comment at the top of a module, with the blank line below it. -/
def banner : Text :=
  ("/**\n* This file was auto-generated by openapi-to-ts.\n" ++
    "* Do not make direct changes to the file.\n*/\n\n").toList

/-- The part of a module in front of its members. -/
def moduleHead : Dialect → Text
  | .swagger2 => banner ++ "export interface definitions \x7b\n".toList
  | .openapi3 => banner ++ "export interface components \x7b\n  schemas: \x7b\n".toList

/-- The part of a module behind its members. -/
def moduleTail : Dialect → Text
  | .swagger2 => "\n\x7d".toList
  | .openapi3 => "\n  \x7d\n\x7d".toList

/-- The members of a module: one for each named schema. -/
def moduleMembers (d : Dialect) (schemas : Entries) : Text :=
  Schema.membersText d schemas (schemas.map fun e => e.1.text)

/-- **The text of a module.** -/
def moduleText (d : Dialect) (schemas : Entries) : Text :=
  moduleHead d ++ moduleMembers d schemas ++ moduleTail d

end ApiTypes.TypeScript
