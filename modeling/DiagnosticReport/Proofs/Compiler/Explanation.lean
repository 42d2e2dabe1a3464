import DiagnosticReport.Compiler

/-!
# The lines of an explanation

A chain of messages is a tree, and a node of it has an address: the places of the
chains on the way from the root. The order of the addresses as lists is that of the
tree, a node in front of the nodes below it and those in front of its later
siblings.

The text of a chain has one line for each address, in this order, indented by the
length of the address (`flatten_nodes`). The depths of the lines determine the
tree (`agree_of_lines`), and the depth of a line is the number of its leading spaces
if the text behind them starts with none. So the tree can be recovered from the text
(`flatten_inOrder`).
-/

set_option autoImplicit false

namespace DiagnosticReport.MessageChain

/-! ## Addresses -/

/-- The text of the node at an address. -/
def textAt? : List Nat → MessageChain → Option String
  | [], .node text _ _ _ => some text
  | place :: address, .node _ _ _ next => next[place]?.bind (textAt? address)

mutual

/-- The nodes of a chain in the order of its text, each with its address. -/
def nodes : MessageChain → List (List Nat × String)
  | .node text _ _ next => ([], text) :: nodesFrom 0 next

/-- The nodes of several chains, the first of which is at this place. -/
def nodesFrom (place : Nat) : List MessageChain → List (List Nat × String)
  | [] => []
  | chain :: chains =>
      chain.nodes.map (fun node => (place :: node.1, node.2)) ++ nodesFrom (place + 1) chains

end

mutual

/-- A node is an address with the text there. -/
theorem mem_nodes_iff : ∀ (chain : MessageChain) (address : List Nat) (text : String),
    (address, text) ∈ chain.nodes ↔ chain.textAt? address = some text
  | .node own category code next, address, text => by
      rw [nodes, List.mem_cons, mem_nodesFrom_iff next 0]
      cases address with
      | nil => simp [textAt?, eq_comm]
      | cons place address =>
          simp only [reduceCtorEq, Prod.mk.injEq, false_and, false_or, Nat.zero_add,
            List.cons.injEq, textAt?]
          constructor
          · rintro ⟨_, _, ⟨rfl, rfl⟩, found⟩
            exact found
          · exact fun found => ⟨place, address, ⟨rfl, rfl⟩, found⟩

theorem mem_nodesFrom_iff : ∀ (chains : List MessageChain) (first : Nat) (address : List Nat)
    (text : String), (address, text) ∈ nodesFrom first chains ↔
      ∃ place rest, address = (first + place) :: rest ∧
        chains[place]?.bind (textAt? rest) = some text
  | [], first, address, text => by simp [nodesFrom]
  | chain :: chains, first, address, text => by
      rw [nodesFrom, List.mem_append, mem_nodesFrom_iff chains (first + 1)]
      constructor
      · rintro (here | ⟨place, rest, rfl, found⟩)
        · obtain ⟨⟨rest, text⟩, member, same⟩ := List.mem_map.mp here
          cases same
          exact ⟨0, rest, rfl, (mem_nodes_iff chain rest text).mp member⟩
        · exact ⟨place + 1, rest, by rw [Nat.add_right_comm, Nat.add_assoc], found⟩
      · rintro ⟨place, rest, rfl, found⟩
        cases place with
        | zero =>
            exact .inl (List.mem_map.mpr
              ⟨(rest, text), (mem_nodes_iff chain rest text).mpr found, rfl⟩)
        | succ place =>
            exact .inr ⟨place, rest, by rw [Nat.add_right_comm, Nat.add_assoc], found⟩

end

mutual

/-- The addresses of the nodes ascend. -/
theorem nodes_ascending : ∀ chain : MessageChain,
    chain.nodes.Pairwise fun first second => first.1 < second.1
  | .node text category code next => by
      refine List.pairwise_cons.mpr ⟨?_, nodesFrom_ascending next 0⟩
      rintro ⟨address, text⟩ member
      obtain ⟨place, rest, rfl, -⟩ := (mem_nodesFrom_iff next 0 address text).mp member
      exact List.nil_lt_cons _ _

theorem nodesFrom_ascending : ∀ (chains : List MessageChain) (first : Nat),
    (nodesFrom first chains).Pairwise fun before behind => before.1 < behind.1
  | [], first => .nil
  | chain :: chains, first => by
      refine List.pairwise_append.mpr
        ⟨List.pairwise_map.mpr ?_, nodesFrom_ascending chains (first + 1), ?_⟩
      · exact (nodes_ascending chain).imp List.cons_lt_cons_self.mpr
      · rintro before here ⟨address, text⟩ later
        obtain ⟨node, -, rfl⟩ := List.mem_map.mp here
        obtain ⟨place, rest, rfl, -⟩ := (mem_nodesFrom_iff chains _ address text).mp later
        exact List.cons_lt_cons_iff.mpr (.inl (by omega))

end

/-- Chains with the same texts at the same addresses have the same nodes. -/
theorem nodes_eq_of_agree {chain other : MessageChain}
    (agree : ∀ address, chain.textAt? address = other.textAt? address) :
    chain.nodes = other.nodes := by
  have distinct (chain : MessageChain) : chain.nodes.Nodup := by
    refine (nodes_ascending chain).imp fun {before behind} ascending => ?_
    rintro rfl
    exact List.lt_irrefl _ ascending
  have permuted : chain.nodes.Perm other.nodes :=
    (List.perm_ext_iff_of_nodup (distinct chain) (distinct other)).mpr fun ⟨address, text⟩ => by
      rw [mem_nodes_iff, mem_nodes_iff, agree]
  exact permuted.eq_of_pairwise
    (fun _ _ _ _ before behind => absurd behind (List.lt_asymm before))
    (nodes_ascending chain) (nodes_ascending other)

/-! ## Lines -/

/-- A text on a line of its own, with two spaces a level in front of it. -/
def indented (depth : Nat) (text : String) : String :=
  String.ofList (List.replicate (2 * depth) ' ') ++ text

mutual

/-- The texts of a chain in order, with the depth of each. -/
def lines (depth : Nat) : MessageChain → List (Nat × String)
  | .node text _ _ next => (depth, text) :: linesOfAll (depth + 1) next

/-- The texts of several chains in order. -/
def linesOfAll (depth : Nat) : List MessageChain → List (Nat × String)
  | [] => []
  | chain :: chains => chain.lines depth ++ linesOfAll depth chains

end

mutual

/-- The depth of a text is the length of its address. -/
theorem lines_eq_nodes : ∀ (chain : MessageChain) (depth : Nat),
    chain.lines depth = chain.nodes.map fun node => (depth + node.1.length, node.2)
  | .node text category code next, depth => by
      rw [lines, nodes, List.map_cons, linesOfAll_eq_nodesFrom next depth 0]
      rfl

theorem linesOfAll_eq_nodesFrom : ∀ (chains : List MessageChain) (depth first : Nat),
    linesOfAll (depth + 1) chains =
      (nodesFrom first chains).map fun node => (depth + node.1.length, node.2)
  | [], depth, first => rfl
  | chain :: chains, depth, first => by
      rw [linesOfAll, nodesFrom, List.map_append, List.map_map, lines_eq_nodes chain,
        linesOfAll_eq_nodesFrom chains depth (first + 1)]
      simp only [Function.comp_def, List.length_cons, Nat.add_assoc, Nat.add_comm 1]

end

mutual

/-- If several lines are written, a chain below the root adds its own. -/
theorem flattenInto_lines (newLine : String) : ∀ (chain : MessageChain) (depth : Nat)
    (written : List String), written ≠ [] →
    chain.flattenInto newLine (depth + 1) (newLine.intercalate written) =
      newLine.intercalate
        (written ++ (chain.lines (depth + 1)).map fun line => indented line.1 line.2)
  | .node text category code next, depth, written, begun => by
      have added : newLine.intercalate written ++ lead newLine (depth + 1) ++ text =
          newLine.intercalate (written ++ [indented (depth + 1) text]) := by
        rw [String.intercalate_append_of_ne_nil begun (List.cons_ne_nil _ _),
          String.intercalate_singleton]
        simp [lead, indented, String.append_assoc]
      rw [flattenInto, added, flattenAllInto_lines newLine next (depth + 1) _ (by simp), lines,
        List.map_cons, List.append_assoc, List.singleton_append]

theorem flattenAllInto_lines (newLine : String) : ∀ (chains : List MessageChain) (depth : Nat)
    (written : List String), written ≠ [] →
    flattenAllInto newLine (depth + 1) (newLine.intercalate written) chains =
      newLine.intercalate
        (written ++ (linesOfAll (depth + 1) chains).map fun line => indented line.1 line.2)
  | [], depth, written, begun => by simp [flattenAllInto, linesOfAll]
  | chain :: chains, depth, written, begun => by
      rw [flattenAllInto, flattenInto_lines newLine chain depth written begun,
        flattenAllInto_lines newLine chains depth _ (by simp [begun]), linesOfAll, List.map_append,
        List.append_assoc]

end

/-- The text of a chain is its lines. -/
theorem flatten_lines (newLine : String) : ∀ chain : MessageChain,
    chain.flatten newLine =
      newLine.intercalate ((chain.lines 0).map fun line => indented line.1 line.2)
  | .node text category code next => by
      have root : newLine.intercalate [indented 0 text] = text := by simp [indented]
      have first : "" ++ lead newLine 0 ++ text = newLine.intercalate [indented 0 text] := by
        rw [root]; simp [lead]
      rw [flatten, flattenInto, first,
        flattenAllInto_lines newLine next 0 _ (List.cons_ne_nil _ _), lines, List.map_cons,
        List.singleton_append]

/-- The text of a chain has a line for each node, with two spaces for each step of its
address. -/
theorem flatten_nodes (newLine : String) (chain : MessageChain) :
    chain.flatten newLine =
      newLine.intercalate (chain.nodes.map fun node => indented node.1.length node.2) := by
  rw [flatten_lines, lines_eq_nodes, List.map_map]
  simp only [Function.comp_def, Nat.zero_add]

/-! ## The tree from the lines -/

/-- The lines of chains at a depth start with a line at that depth. -/
theorem head_le_of_linesOfAll (chains : List MessageChain) (depth : Nat)
    (rest : List (Nat × String)) (ends : ∀ line ∈ rest.head?, line.1 ≤ depth) :
    ∀ line ∈ (linesOfAll (depth + 1) chains ++ rest).head?, line.1 ≤ depth + 1 := by
  match chains with
  | [] => exact fun line head => Nat.le_succ_of_le (ends line head)
  | .node text _ _ next :: chains =>
      intro line head
      cases head
      exact Nat.le_refl _

mutual

/-- The lines of a chain end where the depth is no longer greater than its own, and
the chain can be told from them. -/
theorem agree_of_lines : ∀ (chain other : MessageChain) (depth : Nat)
    (rest others : List (Nat × String)),
    (∀ line ∈ rest.head?, line.1 ≤ depth) → (∀ line ∈ others.head?, line.1 ≤ depth) →
    chain.lines depth ++ rest = other.lines depth ++ others →
    (∀ address, chain.textAt? address = other.textAt? address) ∧ rest = others
  | .node text _ _ next, .node otherText _ _ otherNext, depth, rest, others, ends, otherEnds,
      same => by
      obtain ⟨head, tail⟩ := List.cons_eq_cons.mp same
      obtain ⟨agree, left⟩ := agree_of_linesOfAll next otherNext depth rest others ends otherEnds
        tail
      refine ⟨fun address => ?_, left⟩
      cases address with
      | nil => exact congrArg some (Prod.mk.inj head).2
      | cons place address => exact agree place address

/-- The same of several chains at one depth. -/
theorem agree_of_linesOfAll : ∀ (chains otherChains : List MessageChain) (depth : Nat)
    (rest others : List (Nat × String)),
    (∀ line ∈ rest.head?, line.1 ≤ depth) → (∀ line ∈ others.head?, line.1 ≤ depth) →
    linesOfAll (depth + 1) chains ++ rest = linesOfAll (depth + 1) otherChains ++ others →
    (∀ (place : Nat) (address : List Nat),
      chains[place]?.bind (textAt? address) = otherChains[place]?.bind (textAt? address)) ∧
    rest = others
  | [], [], depth, rest, others, ends, otherEnds, same => ⟨fun _ _ => rfl, same⟩
  | [], .node text _ _ _ :: _, depth, rest, others, ends, otherEnds, same => by
      -- the first line of the other chains is too deep to be one of the rest
      have deep : (depth + 1, text) ∈ rest.head? := by
        rw [show rest = _ from same]; rfl
      exact absurd (ends _ deep) (Nat.not_succ_le_self depth)
  | .node text _ _ _ :: _, [], depth, rest, others, ends, otherEnds, same => by
      have deep : (depth + 1, text) ∈ others.head? := by
        rw [show others = _ from same.symm]; rfl
      exact absurd (otherEnds _ deep) (Nat.not_succ_le_self depth)
  | chain :: chains, other :: otherChains, depth, rest, others, ends, otherEnds, same => by
      rw [linesOfAll, linesOfAll, List.append_assoc, List.append_assoc] at same
      obtain ⟨first, later⟩ := agree_of_lines chain other (depth + 1) _ _
        (head_le_of_linesOfAll chains depth rest ends)
        (head_le_of_linesOfAll otherChains depth others otherEnds) same
      obtain ⟨agree, left⟩ :=
        agree_of_linesOfAll chains otherChains depth rest others ends otherEnds later
      refine ⟨fun place address => ?_, left⟩
      cases place with
      | zero => exact first address
      | succ place => exact agree place address

end

/-! ## The tree from the text -/

/-- No text of the chain has a line break in it or starts with a space. -/
def Legible (chain : MessageChain) : Prop :=
  ∀ address text, chain.textAt? address = some text →
    '\n' ∉ text.toList ∧ text.toList.head? ≠ some ' '

theorem legible_iff_nodes {chain : MessageChain} :
    chain.Legible ↔
      ∀ node ∈ chain.nodes, '\n' ∉ node.2.toList ∧ node.2.toList.head? ≠ some ' ' := by
  simp only [Legible, ← mem_nodes_iff, Prod.forall]

instance (chain : MessageChain) : Decidable chain.Legible :=
  decidable_of_iff _ legible_iff_nodes.symm

/-- The depth and the text of a line. -/
def ofLine (line : List Char) : Nat × String :=
  ((line.takeWhile (· == ' ')).length / 2, String.ofList (line.dropWhile (· == ' ')))

/-- The depths and the texts that the lines of a text show. -/
def outline (text : String) : List (Nat × String) := (text.toList.splitOn '\n').map ofLine

theorem ofLine_indented {depth : Nat} {text : String} (starts : text.toList.head? ≠ some ' ') :
    ofLine (indented depth text).toList = (depth, text) := by
  have spaces : ∀ letter ∈ List.replicate (2 * depth) ' ', (letter == ' ') = true := by
    simp +contextual [List.mem_replicate]
  have none : text.toList.takeWhile (· == ' ') = [] ∧
      text.toList.dropWhile (· == ' ') = text.toList := by
    cases letters : text.toList with
    | nil => exact ⟨rfl, rfl⟩
    | cons letter letters =>
        have other : (letter == ' ') = false := by simpa [letters] using starts
        simp [other]
  rw [ofLine, indented, String.toList_append, String.toList_ofList,
    List.takeWhile_append_of_pos spaces, List.dropWhile_append_of_pos spaces, none.1, none.2,
    List.append_nil, List.length_replicate, Nat.mul_div_cancel_left depth Nat.two_pos,
    String.ofList_toList]

/-- The text of a legible chain shows the lines of the chain. -/
theorem outline_flatten {chain : MessageChain} (legible : chain.Legible) :
    outline (chain.flatten "\n") = chain.lines 0 := by
  have node : ∀ line ∈ chain.lines 0, '\n' ∉ line.2.toList ∧ line.2.toList.head? ≠ some ' ' := by
    intro line member
    rw [lines_eq_nodes] at member
    obtain ⟨node, known, rfl⟩ := List.mem_map.mp member
    exact legible_iff_nodes.mp legible node known
  have unbroken : ∀ letters ∈ (chain.lines 0).map fun line => (indented line.1 line.2).toList,
      '\n' ∉ letters := by
    intro letters member
    obtain ⟨line, known, rfl⟩ := List.mem_map.mp member
    simpa [indented, List.mem_replicate] using (node line known).1
  have begun : chain.lines 0 ≠ [] := by
    cases chain
    exact List.cons_ne_nil _ _
  have parted : (chain.flatten "\n").toList.splitOn '\n' =
      (chain.lines 0).map fun line => (indented line.1 line.2).toList := by
    rw [flatten_lines, String.toList_intercalate, List.map_map]
    exact List.splitOn_intercalate '\n' unbroken (by simpa using begun)
  rw [outline, parted, List.map_map]
  refine (List.map_congr_left fun line member => ?_).trans (List.map_id _)
  exact ofLine_indented (node line member).2

/-- **The text of a chain is its tree.** It holds the nodes in the order of their
addresses, each on a line with two spaces for each level above it. If no text of two
chains has a line break in it or starts with a space, and the lines are joined by line
feeds, then both chains have one text only if they have the same texts at the same
addresses. -/
theorem flatten_inOrder (newLine : String) (chain : MessageChain) :
    (∃ nodes : List (List Nat × String),
      (nodes.map Prod.fst).Pairwise (· < ·) ∧
      (∀ address text, (address, text) ∈ nodes ↔ chain.textAt? address = some text) ∧
      (MessageText.chain chain).flatten newLine =
        newLine.intercalate (nodes.map fun node => indented node.1.length node.2)) ∧
    ∀ other : MessageChain, chain.Legible → other.Legible →
      ((MessageText.chain chain).flatten "\n" = (MessageText.chain other).flatten "\n" ↔
        ∀ address, chain.textAt? address = other.textAt? address) := by
  refine ⟨⟨chain.nodes, List.pairwise_map.mpr (nodes_ascending chain), mem_nodes_iff chain,
    flatten_nodes newLine chain⟩, ?_⟩
  intro other legible otherLegible
  constructor
  · intro same
    have lines : chain.lines 0 = other.lines 0 := by
      rw [← outline_flatten legible, ← outline_flatten otherLegible]
      exact congrArg outline same
    exact (agree_of_lines chain other 0 [] [] nofun nofun (congrArg (· ++ []) lines)).1
  · intro agree
    rw [MessageText.flatten, MessageText.flatten, flatten_nodes, flatten_nodes,
      nodes_eq_of_agree agree]

/-- A message with two explanations, of which the first has one itself. -/
def branching : MessageChain :=
  .node "not assignable" 1 2322
    [.node "a differs" 1 2326 [.node "no number" 1 2322 []], .node "b is missing" 1 2741 []]

/-- The same texts with the middle one beside the others. -/
def alongside : MessageChain :=
  .node "not assignable" 1 2322
    [.node "a differs" 1 2326 [], .node "no number" 1 2322 [], .node "b is missing" 1 2741 []]

theorem flatten_branching :
    branching.Legible ∧ alongside.Legible ∧
      (MessageText.chain branching).flatten "\n" =
        "not assignable\n  a differs\n    no number\n  b is missing" ∧
      (MessageText.chain branching).flatten "\n" ≠ (MessageText.chain alongside).flatten "\n" := by
  have legible : branching.Legible := by decide
  have otherLegible : alongside.Legible := by decide
  refine ⟨legible, otherLegible, by decide, fun same => ?_⟩
  have agree := ((flatten_inOrder "\n" branching).2 alongside legible otherLegible).mp same [0, 0]
  exact absurd agree (by decide)

end DiagnosticReport.MessageChain
