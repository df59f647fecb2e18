/-!
Generated callback identifiers: a counter of 64 bits behind a fixed beginning. The counter must be
able to move on, so its last number is never used.

Models `CallbackIdGen` with `next`, whose addition fails at the last number, and the loop of
`fresh_id`.
-/
namespace PageSession.Exchange

structure CallbackIds where
  next : Nat := 0
  deriving DecidableEq, Repr, Inhabited

namespace CallbackIds

def name (n : Nat) : String := "cb-" ++ toString n

/-- The next identifier, as long as there is one. -/
def draw (ids : CallbackIds) : Option String × CallbackIds :=
  if ids.next + 1 < UInt64.size then (some (name ids.next), { next := ids.next + 1 })
  else (none, ids)

/-- The next so many identifiers, if there are so many. -/
def take? (ids : CallbackIds) : Nat → Option (List String)
  | 0 => some []
  | count + 1 =>
    match ids.draw with
    | (some id, ids) => (ids.take? count).map (id :: ·)
    | (none, _) => none

/-- The next identifier that is not taken, looking at no more than so many further ones. -/
def drawFree (taken : String → Bool) (ids : CallbackIds) : Nat → Option String × CallbackIds
  | 0 => ids.draw
  | further + 1 =>
    match ids.draw with
    | (some id, later) => if taken id then drawFree taken later further else (some id, later)
    | (none, ids) => (none, ids)

end CallbackIds
end PageSession.Exchange
