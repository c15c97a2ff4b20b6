import Mathlib.Data.Int.ConditionallyCompleteOrder
import Mathlib.Order.WithBot
import Mathlib.Logic.Function.Basic
import Mathlib.Order.Lattice.Nat

/-!
This module contains the shortest augmenting path form of the Hungarian method.
-/

namespace Assignment
namespace Hungarian

structure State where
  rowPotential : Nat → Int
  columnPotential : Nat → Int
  owner : Nat → Nat
  previous : Nat → Nat

def State.empty : State where
  rowPotential := fun _ => 0
  columnPotential := fun _ => 0
  owner := fun _ => 0
  previous := fun _ => 0

structure Search where
  rowPotential : Nat → Int
  columnPotential : Nat → Int
  previous : Nat → Nat
  minimum : Nat → WithTop Int
  used : Nat → Bool
  column : Nat

def Search.start (s : State) : Search where
  rowPotential := s.rowPotential
  columnPotential := s.columnPotential
  previous := s.previous
  minimum := fun _ => ⊤
  used := fun _ => false
  column := 0

structure Scan where
  minimum : Nat → WithTop Int
  previous : Nat → Nat
  delta : WithTop Int
  next : Nat

def Search.reduced (s : Search) (cost : Nat → Nat → Int) (row candidate : Nat) : Int :=
  cost row candidate - s.rowPotential row - s.columnPotential candidate

instance instDecidableLTWithTopInt : DecidableLT (WithTop Int) :=
  @WithTop.decidableLT Int Int.instLTInt Int.decLt

def scanCandidate (s : Search) (cost : Nat → Nat → Int) (currentRow : Nat) (used : Nat → Bool)
    (acc : Scan) (candidate : Nat) : Scan :=
  if used candidate then
    acc
  else
    let reduced := s.reduced cost currentRow candidate
    let acc :=
      if (reduced : WithTop Int) < acc.minimum candidate then
        { acc with
          minimum := Function.update acc.minimum candidate reduced
          previous := Function.update acc.previous candidate s.column }
      else
        acc
    if acc.minimum candidate < acc.delta then
      { acc with delta := acc.minimum candidate, next := candidate }
    else
      acc

def scan (s : Search) (cost : Nat → Nat → Int) (columns currentRow : Nat) (used : Nat → Bool)
    : Scan :=
  (List.range' 1 columns).foldl (scanCandidate s cost currentRow used)
    { minimum := s.minimum, previous := s.previous, delta := ⊤, next := 0 }

def relaxCandidate (owner : Nat → Nat) (used : Nat → Bool) (delta : Int) (s : Search)
    (candidate : Nat) : Search :=
  if used candidate then
    let assignedRow := owner candidate
    { s with
      rowPotential :=
        Function.update s.rowPotential assignedRow (s.rowPotential assignedRow + delta)
      columnPotential :=
        Function.update s.columnPotential candidate (s.columnPotential candidate - delta) }
  else
    { s with
      minimum :=
        Function.update s.minimum candidate ((s.minimum candidate).map (· - delta)) }

def Search.step (s : Search) (cost : Nat → Nat → Int) (columns : Nat) (owner : Nat → Nat)
    : Option Search :=
  let used := Function.update s.used s.column true
  let scanned := scan s cost columns (owner s.column) used
  match scanned.delta with
  | none => none
  | some delta =>
    let s :=
      { s with minimum := scanned.minimum, previous := scanned.previous, used := used }
    let s := (List.range (columns + 1)).foldl (relaxCandidate owner used delta) s
    some { s with column := scanned.next }

def search (cost : Nat → Nat → Int) (columns : Nat) (owner : Nat → Nat)
    : (fuel : Nat) → Search → Option Search
  | 0, _ => none
  | fuel + 1, s =>
    match s.step cost columns owner with
    | none => none
    | some s => if owner s.column ≠ 0 then search cost columns owner fuel s else some s

def augment (previous : Nat → Nat) : (fuel : Nat) → (Nat → Nat) → (column : Nat) → Option (Nat → Nat)
  | 0, _, _ => none
  | fuel + 1, owner, column =>
    let predecessor := previous column
    let owner := Function.update owner column (owner predecessor)
    if predecessor ≠ 0 then augment previous fuel owner predecessor else some owner

def insertRow (cost : Nat → Nat → Int) (columns fuel : Nat) (s : State) (row : Nat)
    : Option State :=
  let owner := Function.update s.owner 0 row
  match search cost columns owner fuel (.start s) with
  | none => none
  | some found =>
    match augment found.previous fuel owner found.column with
    | none => none
    | some owner =>
      some {
        rowPotential := found.rowPotential
        columnPotential := found.columnPotential
        owner := owner
        previous := found.previous }

def run (cost : Nat → Nat → Int) (rows columns fuel : Nat) : Option State :=
  (List.range' 1 rows).foldlM (insertRow cost columns fuel) .empty

end Hungarian
end Assignment
