import ClusterTopology.Value

/-!
# Members of sets

The order in which the members of a set are shown. A set of numbers is a table
of cells: each number has a residue that depends on its value alone, and stands
in the cell that the residue names, or in the next free one that follows from it.
Other members stay in the order of their first mention.
-/

namespace ClusterTopology.Yaml.Members

open Number

/-- The modulus of residues, a prime. -/
def modulus : Nat := Nat.pow 2 61 - 1

/-- The number of values of a word of the machine, in which residues are kept. -/
def wordSize : Nat := Nat.pow 2 64

/-- A residue as a word; the word of minus one is not in use. -/
def word (negative : Bool) (residue : Nat) : Nat :=
  if negative then (if residue = 1 then wordSize - 2 else (wordSize - residue) % wordSize)
  else residue

/-- The word of a number, if a scalar is one that equals itself. A power of two
counts by its exponent modulo sixty-one, since two to that power is one. -/
def word? (s : Scalar) : Option Nat :=
  match s with
  | .float (.infinite negative) => some (word negative 314159)
  | .float (.finite negative mantissa exponent) =>
    some (word negative (mantissa * Nat.pow 2 (exponent.emod 61).toNat % modulus))
  | s => s.integer?.map fun n => word (n < 0) (n.natAbs % modulus)

/-- The least power of two that is greater than a number, eight at least. The fuel
bounds the number of doublings. -/
def cellsAbove (n : Nat) : Nat → Nat → Nat
  | 0, size => size
  | fuel + 1, size => if n < size then size else cellsAbove n fuel (2 * size)

/-- The number of cells of a table for so many members. -/
def cellsFor (count : Nat) : Nat :=
  if count * 5 < 21 then 8 else cellsAbove (2 * count) count 8

/-- How many neighbours of a cell are tried before the next jump. -/
def neighbours : Nat := 9

/-- The cell for a word: a free one among a cell and its neighbours, or else one to
which the rest of the word leads. The fuel bounds the number of jumps. -/
def freeCell (isFree : Nat → Bool) (size : Nat) : Nat → Nat → Nat → Nat
  | 0, cell, _ => cell
  | fuel + 1, cell, rest =>
    let tried := if cell + neighbours < size then neighbours + 1 else 1
    match (List.range tried).find? fun step => isFree (cell + step) with
    | some step => cell + step
    | none =>
      let rest := rest / 32
      freeCell isFree size fuel ((cell * 5 + 1 + rest) % size) rest

/-- Puts a number into a table. -/
def place (size : Nat) (table : List (Nat × Scalar)) (member : Scalar × Nat) :
    List (Nat × Scalar) :=
  let isFree (cell : Nat) : Bool := table.all fun entry => entry.1 ≠ cell
  (freeCell isFree size (size + 64) (member.2 % size) member.2, member.1) :: table

/-- The members of a set in the order in which they are shown. -/
def inOrder (members : List Scalar) : List Scalar :=
  match members.mapM fun s => (word? s).map fun w => (s, w) with
  | none => members
  | some numbers =>
    let table := numbers.foldl (place (cellsFor members.length)) []
    (table.mergeSort fun a b => a.1 ≤ b.1).map Prod.snd

end ClusterTopology.Yaml.Members
