/-
Powers of naturals.

A library of algebra brings powers of its own, and a definition that is read
where they are in scope would be made of those. Inside of this namespace a
power of naturals is always the one of the naturals themselves.
-/
namespace NetworkSlice

/-- The power of naturals, before any other. -/
scoped instance (priority := 2000) naturalPower : Pow Nat Nat := instPowNat

end NetworkSlice
