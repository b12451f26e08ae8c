/-
Values are read as they were written.

The pieces of a value make its tree again, in whatever they stand: a bracket or a brace takes what it opened, an item
or a member what stands before its comma. Every piece leaves two units of fuel behind, and no bracket and no item takes
more. So the text of a value is a document (`Document`): it holds one value, without a flaw, and nothing else.

- `Value.value_pieces`: the pieces of a value make its tree, and what follows them is left.
- `Value.document`: the text of a value is a document that holds its tree.
- `Document.decode`: what is decoded from a document is decoded from its tree.
-/
import TokenScanner.Json.Read
import TokenScanner.Proofs.Pieces

namespace TokenScanner.Json

variable {text rest : List Char}

namespace Value

/-! ## The tree of the pieces -/

mutual

theorem length_lt_pieces (v : Value) (rest : List Piece) : rest.length < (v.pieces rest).length := by
  match v with
  | .null => exact Nat.lt_succ_self _
  | .natural _ => exact Nat.lt_succ_self _
  | .string _ => exact Nat.lt_succ_self _
  | .array [] => exact Nat.lt_succ_of_lt (Nat.lt_succ_self _)
  | .array (item :: more) =>
    have items := item.length_lt_pieces (morePieces more (.rightBracket :: rest))
    have closing := length_le_morePieces more (.rightBracket :: rest)
    simp only [pieces, List.length_cons] at items closing ⊢
    omega
  | .object [] => exact Nat.lt_succ_of_lt (Nat.lt_succ_self _)
  | .object (.mk key value :: more) =>
    have members := value.length_lt_pieces (moreMemberPieces more (.rightBrace :: rest))
    have closing := length_le_moreMemberPieces more (.rightBrace :: rest)
    simp only [pieces, List.length_cons] at members closing ⊢
    omega

theorem length_le_morePieces (more : List Value) (rest : List Piece) : rest.length ≤ (morePieces more rest).length := by
  match more with
  | [] => exact Nat.le_refl _
  | item :: more =>
    have first := item.length_lt_pieces (morePieces more rest)
    have others := length_le_morePieces more rest
    simp only [morePieces, List.length_cons]
    omega

theorem length_le_moreMemberPieces (more : List Entry) (rest : List Piece) :
    rest.length ≤ (moreMemberPieces more rest).length := by
  match more with
  | [] => exact Nat.le_refl _
  | .mk key value :: more =>
    have first := value.length_lt_pieces (moreMemberPieces more rest)
    have others := length_le_moreMemberPieces more rest
    simp only [moreMemberPieces, List.length_cons]
    omega

end

/-- the pieces of a value do not start with a closing bracket -/
theorem exists_pieces_cons (v : Value) (rest : List Piece) :
    ∃ first tail, v.pieces rest = first :: tail ∧ first ≠ .rightBracket := by
  match v with
  | .null => exact ⟨_, _, rfl, Piece.noConfusion⟩
  | .natural _ => exact ⟨_, _, rfl, Piece.noConfusion⟩
  | .string _ => exact ⟨_, _, rfl, Piece.noConfusion⟩
  | .array [] => exact ⟨_, _, rfl, Piece.noConfusion⟩
  | .array (_ :: _) => exact ⟨_, _, rfl, Piece.noConfusion⟩
  | .object [] => exact ⟨_, _, rfl, Piece.noConfusion⟩
  | .object (.mk _ _ :: _) => exact ⟨_, _, rfl, Piece.noConfusion⟩

/-- a bracket before a value opens an array with items -/
theorem value_leftBracket (fuel : Nat) (v : Value) (rest : List Piece) :
    Tree.value (fuel + 1) (.leftBracket :: v.pieces rest) =
      (.array (Tree.items fuel (v.pieces rest)).1, (Tree.items fuel (v.pieces rest)).2) := by
  obtain ⟨first, tail, starts, open_⟩ := v.exists_pieces_cons rest
  rw [starts, Tree.value]
  · exact fun h => nomatch h
  · rintro rest' h
    cases h
    exact open_ rfl

/-- a brace before a key opens an object with members -/
theorem value_leftBrace (fuel : Nat) (key : Except Flaw (List Char)) (tail : List Piece) :
    Tree.value (fuel + 1) (.leftBrace :: .string key :: tail) =
      (.object (Tree.members fuel (.string key :: tail)).1, (Tree.members fuel (.string key :: tail)).2) := by
  rw [Tree.value]
  · exact fun h => nomatch h
  · exact fun _ h => nomatch h

section

variable {fuel : Nat} {front behind : List Piece} {first : Tree}

/-- an item before a closing bracket is the last -/
theorem items_last (found : Tree.value fuel front = (first, .rightBracket :: behind)) :
    Tree.items (fuel + 1) front = ([first], behind) := by
  rw [Tree.items, found]

/-- an item before a comma and a value has others behind it -/
theorem items_cons {v : Value} {others : List Tree} {left : List Piece}
    (found : Tree.value fuel front = (first, .comma :: v.pieces behind))
    (more : Tree.items fuel (v.pieces behind) = (others, left)) :
    Tree.items (fuel + 1) front = (first :: others, left) := by
  obtain ⟨piece, tail, starts, inside⟩ := v.exists_pieces_cons behind
  rw [starts] at found more
  rw [Tree.items, found]
  split
  next closed => cases closed
  next closed =>
    cases closed
    exact absurd rfl inside
  next continued =>
    cases continued
    rw [more]
  next nothing => cases nothing
  next other _ found => exact (other _ (Prod.mk.inj found).2.symm).elim

/-- a member before a closing brace is the last -/
theorem members_last {key : Except Flaw (List Char)} (found : Tree.value fuel front = (first, .rightBrace :: behind)) :
    Tree.members (fuel + 1) (.string key :: .colon :: front) = ([.field key first], behind) := by
  rw [Tree.members, found]

/-- a member before a comma and a key has others behind it -/
theorem members_cons {key next : Except Flaw (List Char)} {others : List Member} {left : List Piece}
    (found : Tree.value fuel front = (first, .comma :: .string next :: behind))
    (more : Tree.members fuel (.string next :: behind) = (others, left)) :
    Tree.members (fuel + 1) (.string key :: .colon :: front) = (.field key first :: others, left) := by
  rw [Tree.members, found]
  simp only [more]

end

mutual

/-- **The pieces of a value make its tree** and leave what follows them, with two units of fuel for each piece. -/
theorem value_pieces (v : Value) (fuel : Nat) (rest : List Piece)
    (h : 2 * (v.pieces rest).length ≤ fuel + 2 * rest.length) : Tree.value fuel (v.pieces rest) = (v.tree, rest) := by
  match v with
  | .null => rw [pieces, Tree.value, tree]
  | .natural n => rw [pieces, Tree.value, tree]; rfl
  | .string text => rw [pieces, Tree.value, tree]
  | .array [] => rw [pieces, Tree.value, tree, trees]
  | .array (item :: more) =>
    have first := item.length_lt_pieces (morePieces more (.rightBracket :: rest))
    have closing := length_le_morePieces more (.rightBracket :: rest)
    simp only [pieces, List.length_cons] at h closing
    obtain ⟨fuel, rfl⟩ : ∃ left, fuel = left + 2 := Nat.exists_eq_add_of_le' (by omega)
    have found := item.value_pieces fuel (morePieces more (.rightBracket :: rest)) (by omega)
    rw [pieces, value_leftBracket, items_more more found (by omega), tree, trees]
  | .object [] => rw [pieces, Tree.value, tree, memberTrees]
  | .object (.mk key value :: more) =>
    have first := value.length_lt_pieces (moreMemberPieces more (.rightBrace :: rest))
    have closing := length_le_moreMemberPieces more (.rightBrace :: rest)
    simp only [pieces, List.length_cons] at h closing
    obtain ⟨fuel, rfl⟩ : ∃ left, fuel = left + 2 := Nat.exists_eq_add_of_le' (by omega)
    have found := value.value_pieces fuel (moreMemberPieces more (.rightBrace :: rest)) (by omega)
    rw [pieces, value_leftBrace, members_more more found (by omega), tree, memberTrees]

/-- behind the first item the others are found -/
theorem items_more (more : List Value) {fuel : Nat} {front rest : List Piece} {first : Tree}
    (found : Tree.value fuel front = (first, morePieces more (.rightBracket :: rest)))
    (h : 2 * (morePieces more (.rightBracket :: rest)).length < fuel + 2 * rest.length) :
    Tree.items (fuel + 1) front = (first :: trees more, rest) := by
  match more with
  | [] => exact items_last found
  | next :: more =>
    have second := next.length_lt_pieces (morePieces more (.rightBracket :: rest))
    have closing := length_le_morePieces more (.rightBracket :: rest)
    simp only [morePieces, List.length_cons] at h closing
    obtain ⟨fuel, rfl⟩ : ∃ left, fuel = left + 1 := Nat.exists_eq_add_of_le' (by omega)
    have others := next.value_pieces fuel (morePieces more (.rightBracket :: rest)) (by omega)
    exact items_cons found (items_more more others (by omega))

/-- behind the first member the others are found -/
theorem members_more (more : List Entry) {fuel : Nat} {key : Except Flaw (List Char)} {front rest : List Piece}
    {first : Tree} (found : Tree.value fuel front = (first, moreMemberPieces more (.rightBrace :: rest)))
    (h : 2 * (moreMemberPieces more (.rightBrace :: rest)).length < fuel + 2 * rest.length) :
    Tree.members (fuel + 1) (.string key :: .colon :: front) = (.field key first :: memberTrees more, rest) := by
  match more with
  | [] => exact members_last found
  | .mk next value :: more =>
    have second := value.length_lt_pieces (moreMemberPieces more (.rightBrace :: rest))
    have closing := length_le_moreMemberPieces more (.rightBrace :: rest)
    simp only [moreMemberPieces, List.length_cons] at h closing
    obtain ⟨fuel, rfl⟩ : ∃ left, fuel = left + 1 := Nat.exists_eq_add_of_le' (by omega)
    have others := value.value_pieces fuel (moreMemberPieces more (.rightBrace :: rest)) (by omega)
    exact members_cons found (members_more more others (by omega))

end

mutual

/-- a written value has no flaw -/
theorem flaw?_tree (v : Value) : v.tree.flaw? = none := by
  match v with
  | .null => rfl
  | .natural n => rfl
  | .string text => rfl
  | .array items => rw [tree, Tree.flaw?, flawOfItems?_trees items]
  | .object members => rw [tree, Tree.flaw?, flawOfMembers?_memberTrees members]

theorem flawOfItems?_trees (items : List Value) : Tree.flawOfItems? (trees items) = none := by
  match items with
  | [] => rfl
  | item :: more => rw [trees, Tree.flawOfItems?, item.flaw?_tree, flawOfItems?_trees more]; rfl

theorem flawOfMembers?_memberTrees (members : List Entry) : Tree.flawOfMembers? (memberTrees members) = none := by
  match members with
  | [] => rfl
  | .mk key value :: more =>
    rw [memberTrees, Tree.flawOfMembers?, value.flaw?_tree, flawOfMembers?_memberTrees more]; rfl

end

theorem trees_eq_map (items : List Value) : trees items = items.map tree := by
  induction items with
  | nil => rfl
  | cons item more ih => rw [trees, ih, List.map_cons]

end Value

/-! ## Documents -/

/-- the text holds one value, without a flaw, and nothing else -/
structure Document (text : List Char) (tree : Tree) : Prop where
  whole : Tree.ofPieces (Piece.ofText text) = (tree, [])
  sound : tree.flaw? = none

/-- what a document is decoded to is what its tree is decoded to -/
theorem Document.decode {α : Type} {tree : Tree} (h : Document text tree) (read : Decoder α) :
    Json.ofText read text = read tree := by
  simp only [Json.ofText, h.whole]
  cases read tree with
  | error fault => rfl
  | ok a => rfl

namespace Value

theorem line_append (depth : Nat) (rest behind : List Char) :
    line depth rest ++ behind = line depth (rest ++ behind) := by
  rw [line, line, List.cons_append, List.append_assoc]

theorem label_append (key : String) (rest behind : List Char) :
    label key rest ++ behind = label key (rest ++ behind) := by
  rw [label, label, List.append_assoc, List.cons_append, List.cons_append]

mutual

/-- what is put behind a layout is laid out with it -/
theorem layout_append (v : Value) (depth : Nat) (rest behind : List Char) :
    v.layout depth rest ++ behind = v.layout depth (rest ++ behind) := by
  match v with
  | .null => rfl
  | .natural n => rw [layout, layout, List.append_assoc]
  | .string text => rw [layout, layout, List.append_assoc]
  | .array [] => rfl
  | .array (item :: more) =>
    rw [layout, layout, List.cons_append, line_append, item.layout_append, moreItems_append more, line_append,
      List.cons_append]
  | .object [] => rfl
  | .object (.mk key value :: more) =>
    rw [layout, layout, List.cons_append, line_append, label_append, value.layout_append, moreMembers_append more,
      line_append, List.cons_append]

theorem moreItems_append (more : List Value) (depth : Nat) (rest behind : List Char) :
    moreItems depth more rest ++ behind = moreItems depth more (rest ++ behind) := by
  match more with
  | [] => rw [moreItems, moreItems]
  | item :: more =>
    rw [moreItems, moreItems, List.cons_append, line_append, item.layout_append, moreItems_append more]

theorem moreMembers_append (more : List Entry) (depth : Nat) (rest behind : List Char) :
    moreMembers depth more rest ++ behind = moreMembers depth more (rest ++ behind) := by
  match more with
  | [] => rw [moreMembers, moreMembers]
  | .mk key value :: more =>
    rw [moreMembers, moreMembers, List.cons_append, line_append, label_append, value.layout_append,
      moreMembers_append more]

end

/-- **The text of a value is a document that holds its tree,** with or without a line break behind it. -/
theorem document (v : Value) {behind : List Char} (h : behind = [] ∨ behind = ['\n']) :
    Document (v.text ++ behind) v.tree where
  whole := by
    have nothing : Piece.ofText behind = [] ∧ Numeral.Ended behind := by
      rcases h with rfl | rfl
      · exact ⟨Piece.ofText_nil, Numeral.ended_nil⟩
      · exact ⟨(Piece.ofText_space rfl []).trans Piece.ofText_nil, Numeral.ended_cons (Or.inr rfl) []⟩
    rw [text, v.layout_append, List.nil_append, v.ofText_layout 0 behind nothing.2, nothing.1, Tree.ofPieces]
    exact v.value_pieces _ [] (by simp only [List.length_nil]; omega)
  sound := v.flaw?_tree

end Value

end TokenScanner.Json
