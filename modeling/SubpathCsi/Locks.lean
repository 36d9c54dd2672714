import SubpathCsi.Text.Checksum

/-!
# Lock pool

A fixed number of locks is set up front, and a key is mapped onto one of them by its checksum. The
pool takes the same space however many keys are seen; two keys may share a lock and then wait for
each other.
-/

namespace SubpathCsi

/-- A pool of locks; only their number matters. -/
structure LockPool where
  /-- The number of locks. -/
  size : Nat
  /-- There is at least one lock. -/
  size_pos : 0 < size
  deriving Repr

namespace LockPool

/-- The usual number of locks. -/
def defaultSize : Int := 1024

/-- A pool of `size` locks; none if that is not positive. -/
def ofSize? (size : Int) : Option LockPool :=
  if h : 1 ≤ size then some ⟨size.toNat, by omega⟩ else none

/-- Why there is no pool of a size. -/
def sizeMessage : String := "Lock pool size must be positive"

/-- The lock that guards a key. -/
def index (pool : LockPool) (key : String) : Nat := (Checksum.ofString key).toNat % pool.size

end LockPool

end SubpathCsi
