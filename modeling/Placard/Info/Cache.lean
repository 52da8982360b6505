import Placard.Info.Value

/-!
Values remembered for the length of a render, by module and member. The first value of a key
stays.
-/

namespace Placard.Info

structure Cache where
  entries : List ((String × String) × Value) := []
  deriving Inhabited

namespace Cache

def get? (cache : Cache) (module member : String) : Option Value :=
  cache.entries.lookup (module, member)

def contains (cache : Cache) (module member : String) : Bool := (cache.get? module member).isSome

/-- Remembers a value unless there is one for the key; gives the value that stays. -/
def insert (cache : Cache) (module member : String) (value : Value) : Value × Cache :=
  match cache.get? module member with
  | some kept => (kept, cache)
  | none => (value, ⟨cache.entries ++ [((module, member), value)]⟩)

def size (cache : Cache) : Nat := cache.entries.length

def isEmpty (cache : Cache) : Bool := cache.entries.isEmpty

end Cache

end Placard.Info
