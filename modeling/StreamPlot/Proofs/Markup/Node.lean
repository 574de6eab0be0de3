import Mathlib.Data.List.Forall2
import StreamPlot.Settings.Reading

/-!
# Nodes as trees

The content of a document is a list of pieces, in which a collection is what lies between its
start and its end. Here nodes are trees, and a list of pieces that is the pieces of a tree is
divided where the tree says: at the end of a node, and in a mapping behind every key and every
value. References are left out, so that a node is nothing but its own pieces.
-/

namespace StreamPlot

open Markup

namespace Markup

/-- A node without references. -/
inductive Node where
  | scalar (tag : Option Tag) (text : String) (style : ScalarStyle)
  | sequence (tag : Option Tag) (items : List Node)
  | mapping (tag : Option Tag) (entries : List (Node × Node))
  deriving Inhabited

namespace Node

/-- The piece that a node begins with. -/
def head : Node → Piece
  | scalar tag text style => .scalar tag text style
  | sequence tag _ => .sequenceStart tag
  | mapping tag _ => .mappingStart tag

mutual

/-- The pieces of a node, in order. -/
def pieces : Node → List Piece
  | scalar tag text style => [.scalar tag text style]
  | sequence tag items => .sequenceStart tag :: (itemPieces items ++ [.sequenceEnd])
  | mapping tag entries => .mappingStart tag :: (entryPieces entries ++ [.mappingEnd])

def itemPieces : List Node → List Piece
  | [] => []
  | item :: items => item.pieces ++ itemPieces items

/-- The pieces of the entries of a mapping: every key and behind it its value. -/
def entryPieces : List (Node × Node) → List Piece
  | [] => []
  | (key, value) :: entries => key.pieces ++ value.pieces ++ entryPieces entries

end

end Node

end Markup

/-! ## Where a node ends -/

section

variable {depth inside : Nat} {here : LocatedPiece}

theorem splitNode_of_open (h : depthAfter depth here.piece = inside + 1)
    (rest : List LocatedPiece) :
    splitNode depth (here :: rest) =
      (here :: (splitNode (inside + 1) rest).1, (splitNode (inside + 1) rest).2) := by
  rw [splitNode, h]
  rfl

theorem splitNode_of_closed (h : depthAfter depth here.piece = 0) (rest : List LocatedPiece) :
    splitNode depth (here :: rest) = ([here], rest) := by
  rw [splitNode, h]
  rfl

theorem holdsNode_of_open (h : depthAfter depth here.piece = inside + 1)
    (rest : List LocatedPiece) :
    holdsNode depth (here :: rest) = holdsNode (inside + 1) rest := by
  rw [holdsNode, h]
  rfl

theorem holdsNode_of_closed (h : depthAfter depth here.piece = 0) (rest : List LocatedPiece) :
    holdsNode depth (here :: rest) = true := by
  rw [holdsNode, h]
  rfl

end

/-- Pieces that are passed over inside a collection: the node around them ends where it would
end without them. -/
structure Passed (pieces : List Piece) : Prop where
  splitNode_eq : ∀ depth located rest, located.map LocatedPiece.piece = pieces →
    splitNode (depth + 1) (located ++ rest) =
      (located ++ (splitNode (depth + 1) rest).1, (splitNode (depth + 1) rest).2)
  holdsNode_eq : ∀ depth located rest, located.map LocatedPiece.piece = pieces →
    holdsNode (depth + 1) (located ++ rest) = holdsNode (depth + 1) rest

/-- Pieces that are a node as a whole. -/
structure Whole (pieces : List Piece) : Prop where
  splitNode_eq : ∀ located rest, located.map LocatedPiece.piece = pieces →
    splitNode 0 (located ++ rest) = (located, rest)
  holdsNode_eq : ∀ located, located.map LocatedPiece.piece = pieces → holdsNode 0 located = true

section

variable {first second inner : List Piece} {start stop : Piece}

theorem Passed.nil : Passed [] where
  splitNode_eq := by
    intro depth located rest h
    rw [List.map_eq_nil_iff.mp h]
    rfl
  holdsNode_eq := by
    intro depth located rest h
    rw [List.map_eq_nil_iff.mp h]
    rfl

theorem Passed.append (hfirst : Passed first) (hsecond : Passed second) :
    Passed (first ++ second) where
  splitNode_eq := by
    intro depth located rest h
    obtain ⟨front, back, rfl, hfront, hback⟩ := List.map_eq_append_iff.mp h
    rw [List.append_assoc, hfirst.splitNode_eq depth front _ hfront,
      hsecond.splitNode_eq depth back _ hback, List.append_assoc]
  holdsNode_eq := by
    intro depth located rest h
    obtain ⟨front, back, rfl, hfront, hback⟩ := List.map_eq_append_iff.mp h
    rw [List.append_assoc, hfirst.holdsNode_eq depth front _ hfront,
      hsecond.holdsNode_eq depth back _ hback]

/-- A piece that opens and closes nothing. -/
theorem Passed.single (h : ∀ depth, depthAfter depth start = depth) : Passed [start] where
  splitNode_eq := by
    intro depth located rest hlocated
    obtain ⟨here, rfl, rfl⟩ := List.map_eq_singleton_iff.mp hlocated
    exact splitNode_of_open (h (depth + 1)) rest
  holdsNode_eq := by
    intro depth located rest hlocated
    obtain ⟨here, rfl, rfl⟩ := List.map_eq_singleton_iff.mp hlocated
    exact holdsNode_of_open (h (depth + 1)) rest

theorem Whole.single (h : ∀ depth, depthAfter depth start = depth) : Whole [start] where
  splitNode_eq := by
    intro located rest hlocated
    obtain ⟨here, rfl, rfl⟩ := List.map_eq_singleton_iff.mp hlocated
    exact splitNode_of_closed (h 0) rest
  holdsNode_eq := by
    intro located hlocated
    obtain ⟨here, rfl, rfl⟩ := List.map_eq_singleton_iff.mp hlocated
    exact holdsNode_of_closed (h 0) []

theorem exists_enclosed {located : List LocatedPiece}
    (h : located.map LocatedPiece.piece = start :: (inner ++ [stop])) :
    ∃ here middle there, located = here :: (middle ++ [there]) ∧ here.piece = start ∧
      middle.map LocatedPiece.piece = inner ∧ there.piece = stop := by
  obtain ⟨here, tail, rfl, hstart, htail⟩ := List.map_eq_cons_iff.mp h
  obtain ⟨middle, back, rfl, hmiddle, hback⟩ := List.map_eq_append_iff.mp htail
  obtain ⟨there, rfl, hstop⟩ := List.map_eq_singleton_iff.mp hback
  exact ⟨here, middle, there, rfl, hstart, hmiddle, hstop⟩

/-- A collection is passed over with all that is in it. -/
theorem Passed.enclosed (h : Passed inner)
    (hstart : ∀ depth, depthAfter depth start = depth + 1)
    (hstop : ∀ depth, depthAfter (depth + 1) stop = depth) :
    Passed (start :: (inner ++ [stop])) where
  splitNode_eq := by
    intro depth located rest hlocated
    obtain ⟨here, middle, there, rfl, rfl, hmiddle, rfl⟩ := exists_enclosed hlocated
    rw [List.cons_append, List.append_assoc, splitNode_of_open (hstart (depth + 1)),
      h.splitNode_eq (depth + 1) middle _ hmiddle, List.singleton_append,
      splitNode_of_open (hstop (depth + 1)), List.cons_append, List.append_assoc]
    rfl
  holdsNode_eq := by
    intro depth located rest hlocated
    obtain ⟨here, middle, there, rfl, rfl, hmiddle, rfl⟩ := exists_enclosed hlocated
    rw [List.cons_append, List.append_assoc, holdsNode_of_open (hstart (depth + 1)),
      h.holdsNode_eq (depth + 1) middle _ hmiddle, List.singleton_append,
      holdsNode_of_open (hstop (depth + 1))]

theorem Whole.enclosed (h : Passed inner)
    (hstart : ∀ depth, depthAfter depth start = depth + 1)
    (hstop : ∀ depth, depthAfter (depth + 1) stop = depth) :
    Whole (start :: (inner ++ [stop])) where
  splitNode_eq := by
    intro located rest hlocated
    obtain ⟨here, middle, there, rfl, rfl, hmiddle, rfl⟩ := exists_enclosed hlocated
    rw [List.cons_append, List.append_assoc, splitNode_of_open (hstart 0),
      h.splitNode_eq 0 middle _ hmiddle, List.singleton_append, splitNode_of_closed (hstop 0)]
  holdsNode_eq := by
    intro located hlocated
    obtain ⟨here, middle, there, rfl, rfl, hmiddle, rfl⟩ := exists_enclosed hlocated
    rw [holdsNode_of_open (hstart 0), h.holdsNode_eq 0 middle _ hmiddle,
      holdsNode_of_closed (hstop 0)]

end

namespace Markup.Node

mutual

theorem passed_pieces : ∀ node : Node, Passed node.pieces
  | scalar _ _ _ => .single fun _ => rfl
  | sequence _ items => (passed_itemPieces items).enclosed (fun _ => rfl) fun _ => rfl
  | mapping _ entries => (passed_entryPieces entries).enclosed (fun _ => rfl) fun _ => rfl

theorem passed_itemPieces : ∀ items : List Node, Passed (itemPieces items)
  | [] => .nil
  | item :: items => item.passed_pieces.append (passed_itemPieces items)

theorem passed_entryPieces : ∀ entries : List (Node × Node), Passed (entryPieces entries)
  | [] => .nil
  | (key, value) :: entries =>
      (key.passed_pieces.append value.passed_pieces).append (passed_entryPieces entries)

end

theorem whole_pieces : ∀ node : Node, Whole node.pieces
  | scalar _ _ _ => .single fun _ => rfl
  | sequence _ items => .enclosed (passed_itemPieces items) (fun _ => rfl) fun _ => rfl
  | mapping _ entries => .enclosed (passed_entryPieces entries) (fun _ => rfl) fun _ => rfl

theorem exists_head (node : Node) {located : List LocatedPiece}
    (h : located.map LocatedPiece.piece = node.pieces) :
    ∃ here rest, located = here :: rest ∧ here.piece = node.head := by
  have hpieces : ∃ rest, node.pieces = node.head :: rest := by
    cases node with
    | scalar tag text style => exact ⟨[], rfl⟩
    | sequence tag items => exact ⟨itemPieces items ++ [.sequenceEnd], rfl⟩
    | mapping tag entries => exact ⟨entryPieces entries ++ [.mappingEnd], rfl⟩
  obtain ⟨rest, hrest⟩ := hpieces
  obtain ⟨here, tail, rfl, hhere, -⟩ := List.map_eq_cons_iff.mp (h.trans hrest)
  exact ⟨here, tail, rfl, hhere⟩

end Markup.Node

/-! ## The entries of a mapping -/

/-- An entry as it is found among the pieces of a document, and the nodes that it is made of. -/
structure Entry.Spells (entry : Entry) (pair : Node × Node) : Prop where
  key : entry.key.map LocatedPiece.piece = pair.1.pieces
  value : entry.value.map LocatedPiece.piece = pair.2.pieces

theorem entries_of_end {stop : LocatedPiece} (h : stop.piece = .mappingEnd)
    (rest : List LocatedPiece) : entries (stop :: rest) = ([], true) := by
  obtain ⟨piece, start⟩ := stop
  obtain rfl : piece = .mappingEnd := h
  rw [entries]

theorem entries_of_key {here : LocatedPiece} (h : here.piece ≠ .mappingEnd)
    {rest key behind value others : List LocatedPiece}
    (hkey : splitNode 0 (here :: rest) = (key, behind))
    (hvalue : splitNode 0 behind = (value, others)) :
    entries (here :: rest) = (⟨key, value⟩ :: (entries others).1, (entries others).2) := by
  rw [entries, hkey]
  · dsimp only
    rw [hvalue]
  · rintro start rfl
    exact h rfl

/-- Behind the start of a mapping its entries are found in order, and then its end. -/
theorem exists_entries (pairs : List (Node × Node)) {located : List LocatedPiece}
    {stop : LocatedPiece} (h : located.map LocatedPiece.piece = Node.entryPieces pairs)
    (hstop : stop.piece = .mappingEnd) (rest : List LocatedPiece) :
    ∃ found, entries (located ++ stop :: rest) = (found, true) ∧
      List.Forall₂ Entry.Spells found pairs := by
  induction pairs generalizing located with
  | nil =>
      rw [List.map_eq_nil_iff.mp h]
      exact ⟨[], entries_of_end hstop rest, .nil⟩
  | cons pair pairs ih =>
      obtain ⟨key, value⟩ := pair
      obtain ⟨front, others, rfl, hfront, hothers⟩ := List.map_eq_append_iff.mp h
      obtain ⟨keyPieces, valuePieces, rfl, hkey, hvalue⟩ := List.map_eq_append_iff.mp hfront
      obtain ⟨found, hfound, hspells⟩ := ih hothers
      obtain ⟨here, tail, htail, hhere⟩ := key.exists_head hkey
      have hopen : here.piece ≠ .mappingEnd := by
        rw [hhere]
        cases key <;> simp [Node.head]
      have hsplitKey := key.whole_pieces.splitNode_eq keyPieces
        (valuePieces ++ (others ++ stop :: rest)) hkey
      have hsplitValue := value.whole_pieces.splitNode_eq valuePieces
        (others ++ stop :: rest) hvalue
      refine ⟨⟨keyPieces, valuePieces⟩ :: found, ?_, .cons ⟨hkey, hvalue⟩ hspells⟩
      rw [List.append_assoc, List.append_assoc]
      rw [htail, List.cons_append] at hsplitKey ⊢
      rw [entries_of_key hopen hsplitKey hsplitValue, hfound]

end StreamPlot
