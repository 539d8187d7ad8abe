import Enclosure.Value

/-!
# Merging mappings

Merging one mapping into another goes key by key: where both hold mappings these are merged in turn,
and anywhere else the value of the overriding mapping stands. The keys of the base come first, in
their order, then the new keys of the override in theirs. Merges lie within each other as the
mappings do, and only so many of them can: two mappings that both lie within themselves have no
merged mapping at all.
-/

set_option autoImplicit false

namespace Enclosure

/-- The value that stands where an old value is overridden by a new one, given how one mapping is
merged into another. -/
def Value.overrideWith? (merge? : Entries → Entries → Option Entries) (old : Option Value)
    (new : Value) : Option Value :=
  match old.map opened, new.opened with
  | some (.map base), .map override => (merge? base override).map .map
  | _, _ => some new

/-- The entries of a base mapping with those of an override merged into them, where as many merges
as there are levels can lie within each other; none if they do not suffice. -/
def Entries.merge? : Nat → Entries → Entries → Option Entries
  | 0, _, _ => none
  | levels + 1, base, override =>
    override.foldlM (fun merged e =>
      (Value.overrideWith? (merge? levels) (merged.get? e.1) e.2).map fun v =>
        merged.insert e.1 v) base

end Enclosure
