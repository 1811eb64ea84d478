import NetworkSlice.Address.Basic

/-
Carving one block into equal sub-blocks, one for each of `count` takers.

The sub-blocks are as large as possible while one more than `count` of them
fit: the first, which begins at the block's own base, is kept back and the
next `count` are handed out in address order. `bitLength count` is the number
of bits this takes from the host part.
-/
namespace NetworkSlice

/-- The number of binary digits of `n`: the least `b` with `n < 2 ^ b`. -/
def bitLength (n : Nat) : Nat :=
  if n = 0 then 0 else n.log2 + 1

/-- The `count` sub-blocks after the first. -/
def Cidr.partition (parent : Cidr) (count : Nat) : Except SliceError (List Cidr) :=
  if count = 0 then .ok []
  else
    let len := parent.len + bitLength count
    if parent.width < len then .error (.addressSpaceExhausted len parent.width)
    else do
      let blocks ← parent.subBlocks len
      return blocks.slice 1 count

/-- Who gets which sub-block: the block of the `i`-th taker is the `i`-th of
the list. -/
structure Assignment where
  blocks : List Cidr
deriving DecidableEq, Repr

namespace Assignment

/-- Carve `parent` for `count` takers. -/
def compute (parent : Cidr) (count : Nat) : Except SliceError Assignment := do
  return ⟨← parent.partition count⟩

/-- The block of the taker at `index`, counted from 0. -/
def get? (a : Assignment) (index : Nat) : Option Cidr := a.blocks[index]?

end Assignment

end NetworkSlice
