import TypeRegistry.Schema.Library
import TypeRegistry.Schema.Standard.Draft03
import TypeRegistry.Schema.Standard.Draft04
import TypeRegistry.Schema.Standard.Draft06
import TypeRegistry.Schema.Standard.Draft07
import TypeRegistry.Schema.Standard.Draft201909
import TypeRegistry.Schema.Standard.Draft202012

/-!
# The standard library

Every dialect is described by schemas that are written in it.  They are known under their addresses
wherever a schema is used, so that a schema can refer to them.

Main definitions:

- `Standard.documents`: the schemas that describe the dialects.
- `Library.standard`: the library that holds them.
-/

namespace TypeRegistry

/-- The schemas that describe the dialects. -/
def Standard.documents : List Json :=
  [draft03, draft04, draft06, draft07] ++ Draft201909.documents ++ Draft202012.documents

/-- The library that holds the schemas that describe the dialects. -/
def Library.standard : Library :=
  let resources : Except Breakdown (List Resource) := Standard.documents.mapM fun document => do
    return ⟨document, ← Dialect.draft202012.declaredOr document⟩
  ((resources.bind Library.ofResources).toOption).getD {}

end TypeRegistry
