/-!
# The two dialects

A description is written in one of two dialects, which differ in where the named schemas
are kept, in the types that a schema may have, and in the module that is generated.
-/

namespace ApiTypes

/-- The dialect of an API description. -/
inductive Dialect where
  /-- Swagger 2. -/
  | swagger2
  /-- OpenAPI 3. -/
  | openapi3
deriving DecidableEq, Repr

/-- The major version number of a dialect. -/
def Dialect.major : Dialect → Nat
  | .swagger2 => 2
  | .openapi3 => 3

end ApiTypes
