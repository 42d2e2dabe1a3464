import DiagnosticReport.Proofs.Faithful
import DiagnosticReport.Proofs.Json.Readable

/-!
# How deep a chain of messages is nested

A chain is written with the list of the chains below it on every level, so each
level takes two containers, an object and a list. A chain that is read may have
left out the empty list of its lowest level, and then it takes one container less
than when it is written (`MessageChain.two_mul_height_le`).

Within an even number of levels this makes no difference: the containers of a
chain that has been read are odd or even in number, and if they are odd there is
room for one more. A diagnostic leaves 126 levels to its message. So every
message that is read can be read again from what is written
(`MessageText.ofJson?_toJson`).
-/

set_option autoImplicit false

namespace DiagnosticReport

open Json

namespace MessageChain

/-! ## The height of a chain -/

mutual

/-- How many levels a chain has. -/
def height : MessageChain → Nat
  | .node _ _ _ next => heightOfAll next + 1

/-- How many levels the highest of several chains has. -/
def heightOfAll : List MessageChain → Nat
  | [] => 0
  | chain :: chains => max chain.height (heightOfAll chains)

end

theorem heightOfAll_le_iff {chains : List MessageChain} {bound : Nat} :
    heightOfAll chains ≤ bound ↔ ∀ chain ∈ chains, chain.height ≤ bound := by
  induction chains with
  | nil => simp [heightOfAll]
  | cons chain chains ih => rw [heightOfAll, Nat.max_le, ih, List.forall_mem_cons]

theorem toJsonItems_eq_map (chains : List MessageChain) :
    toJsonItems chains = chains.map toJson := by
  induction chains with
  | nil => rfl
  | cons chain chains ih => rw [toJsonItems, ih, List.map_cons]

/-! ## A chain that is read -/

/-- The chains below a chain that is read are those of a field, or there are none. -/
theorem next_of_ofJson? {depth : Nat} {value : Json} {text : String} {category : Int64}
    {code : UInt32} {next : List MessageChain}
    (read : ofJson? (depth + 1) value = some (.node text category code next)) :
    ∃ members, value.members? ["messageText", "category", "code", "next"] = some members ∧
      (next = [] ∨ ∃ member ∈ members, member.2.list? (ofJson? depth) = some next) := by
  rw [ofJson?] at read
  obtain ⟨members, found, read⟩ := Option.bind_eq_some_iff.mp read
  obtain ⟨_, -, read⟩ := Option.bind_eq_some_iff.mp read
  obtain ⟨_, -, read⟩ := Option.bind_eq_some_iff.mp read
  obtain ⟨_, -, read⟩ := Option.bind_eq_some_iff.mp read
  obtain ⟨below, field, read⟩ := Option.bind_eq_some_iff.mp read
  obtain rfl : below = next := by
    have same := Option.some.inj read
    injection same
  refine ⟨members, found, ?_⟩
  rw [defaulted] at field
  split at field
  · exact .inl (Option.some.inj field).symm
  · rename_i value written
    obtain ⟨before, after, rfl, -⟩ := List.lookup_eq_some_iff.mp written
    exact .inr ⟨("next", value), by simp, field⟩

/-- A chain that is read within some levels takes two of them for each of its own,
but for the last. -/
theorem two_mul_height_le {depth room : Nat} {value : Json} {chain : MessageChain}
    (readable : value.readable room = true) (read : ofJson? depth value = some chain) :
    2 * chain.height ≤ room + 1 := by
  induction depth generalizing value room chain with
  | zero => cases read
  | succ depth ih =>
      obtain ⟨text, category, code, next⟩ := chain
      obtain ⟨members, found, empty | ⟨member, listed, field⟩⟩ := next_of_ofJson? read
      · obtain ⟨positive, -⟩ := readable_of_mem_members? readable found
        rw [empty, height, heightOfAll]
        omega
      · obtain ⟨positive, all⟩ := readable_of_mem_members? readable found
        have below : heightOfAll next ≤ (room - 1) / 2 := by
          rw [heightOfAll_le_iff]
          intro chain among
          obtain ⟨inner, item, within, same⟩ := exists_of_mem_list? (all member listed) field among
          have level := ih within same
          omega
        rw [height]
        omega

/-! ## A chain that is written -/

/-- A written chain takes two levels for each of its own. -/
theorem readable_toJson {room : Nat} {chain : MessageChain} (fits : 2 * chain.height ≤ room) :
    chain.toJson.readable room = true := by
  induction room using Nat.strongRecOn generalizing chain with
  | ind room ih =>
      obtain ⟨text, category, code, next⟩ := chain
      rw [height] at fits
      have below : ∀ item ∈ toJsonItems next, item.readable (room - 1 - 1) = true := by
        intro item member
        rw [toJsonItems_eq_map] at member
        obtain ⟨chain, among, rfl⟩ := List.mem_map.mp member
        have lower := heightOfAll_le_iff.mp (Nat.le_refl _) chain among
        exact ih (room - 1 - 1) (by omega) (by omega)
      have numbers : category.toInt.natAbs < UInt64.size ∧
          (code.toNat : Int).natAbs < UInt64.size := by
        have least := category.le_toInt
        have greatest := category.toInt_lt
        have code := code.toNat_lt
        rw [UInt64.size]
        omega
      rw [toJson, readable_record_iff]
      refine ⟨by omega, ?_⟩
      simp only [List.forall_mem_cons, List.not_mem_nil, false_implies, implies_true, and_true]
      exact ⟨rfl, readable_int numbers.1, readable_int numbers.2,
        readable_array_iff.mpr ⟨by omega, below⟩⟩

/-- A written chain is read back within as many levels as it has. -/
theorem ofJson?_toJson {depth : Nat} {chain : MessageChain} (fits : chain.height ≤ depth) :
    ofJson? depth chain.toJson = some chain := by
  induction depth generalizing chain with
  | zero =>
      obtain ⟨text, category, code, next⟩ := chain
      rw [height] at fits
      omega
  | succ depth ih =>
      obtain ⟨text, category, code, next⟩ := chain
      have below : list? (ofJson? depth) (.array (toJsonItems next)) = some next := by
        rw [toJsonItems_eq_map]
        refine list?_map fun chain among => ih ?_
        exact heightOfAll_le_iff.mp (Nat.le_of_lt_succ fits) chain among
      rw [toJson, ofJson?, members?_record _ (by simp)]
      simp [required, defaulted, List.lookup_cons, below]

mutual

theorem plain_toJson : ∀ chain : MessageChain, chain.toJson.Plain
  | .node text category code next =>
      .record (by simp [Plain.string, Plain.integer, Plain.array (plain_toJsonItems next)])

theorem plain_toJsonItems : ∀ chains : List MessageChain, ∀ item ∈ toJsonItems chains, item.Plain
  | [], item, member => by cases member
  | chain :: chains, item, member => by
      rcases List.mem_cons.mp member with rfl | member
      · exact plain_toJson chain
      · exact plain_toJsonItems chains item member

end

end MessageChain

/-! ## Messages and diagnostics -/

namespace MessageText

theorem chain_of_ofJson? {room : Nat} {value : Json} {root : MessageChain}
    (read : ofJson? room value = some (.chain root)) :
    value.readable room = true ∧ MessageChain.ofJson? room value = some root := by
  unfold ofJson? at read
  split at read
  · cases read
  · split at read
    · rename_i readable
      obtain ⟨_, found, same⟩ := Option.map_eq_some_iff.mp read
      injection same with same
      exact ⟨readable, same ▸ found⟩
    · cases read

/-- **A message that has been read is read back**, within the same even number of
levels. -/
theorem ofJson?_toJson {room : Nat} {value : Json} {message : MessageText} (even : room % 2 = 0)
    (read : ofJson? room value = some message) : ofJson? room message.toJson = some message := by
  cases message with
  | plain text => rfl
  | chain root =>
      obtain ⟨readable, found⟩ := chain_of_ofJson? read
      have odd := MessageChain.two_mul_height_le readable found
      have within : 2 * root.height ≤ room := by omega
      have again : MessageChain.ofJson? room root.toJson = some root :=
        MessageChain.ofJson?_toJson (by omega)
      have notText : ∀ text, root.toJson ≠ .string text := by
        obtain ⟨text, category, code, next⟩ := root
        intro other same
        rw [MessageChain.toJson, record] at same
        cases same
      rw [toJson, ofJson?]
      · rw [if_pos (MessageChain.readable_toJson within), again, Option.map_some]
      · exact notText

theorem plain_toJson (message : MessageText) : message.toJson.Plain := by
  cases message with
  | plain text => exact .string text
  | chain root => exact root.plain_toJson

end MessageText

namespace CompilerDiagnostic

theorem message_of_ofJson? {room : Nat} {value : Json} {diagnostic : CompilerDiagnostic}
    (read : ofJson? room value = some diagnostic) :
    ∃ message, MessageText.ofJson? (room - 1) message = some diagnostic.message := by
  rw [ofJson?] at read
  obtain ⟨members, -, read⟩ := Option.bind_eq_some_iff.mp read
  obtain ⟨_, -, read⟩ := Option.bind_eq_some_iff.mp read
  obtain ⟨message, found, read⟩ := Option.bind_eq_some_iff.mp read
  obtain ⟨_, -, read⟩ := Option.bind_eq_some_iff.mp read
  obtain ⟨_, -, read⟩ := Option.bind_eq_some_iff.mp read
  obtain ⟨_, -, read⟩ := Option.bind_eq_some_iff.mp read
  obtain ⟨_, -, read⟩ := Option.bind_eq_some_iff.mp read
  obtain rfl := Option.some.inj read
  obtain ⟨value, -, same⟩ := Option.bind_eq_some_iff.mp found
  exact ⟨value, same⟩

/-- A diagnostic that has been read is read back, if an even number of levels is
left to its message. -/
theorem ofJson?_toJson {room : Nat} {value : Json} {diagnostic : CompilerDiagnostic}
    (even : (room - 1) % 2 = 0) (read : ofJson? room value = some diagnostic) :
    ofJson? room diagnostic.toJson = some diagnostic := by
  obtain ⟨written, found⟩ := message_of_ofJson? read
  have message := MessageText.ofJson?_toJson even found
  rw [ofJson?, toJson, members?_record _ (by simp)]
  simp [required, defaulted, optional_eq_optionalOf, List.lookup_cons, message,
    SourceFile.faithful.optionalOf_ofOption, faithful_uint64.optionalOf_ofOption]

theorem plain_toJson (diagnostic : CompilerDiagnostic) : diagnostic.toJson.Plain :=
  .record (by
    simp [diagnostic.message.plain_toJson, Plain.integer, SourceFile.faithful.plain_ofOption,
      faithful_uint64.plain_ofOption])

end CompilerDiagnostic

end DiagnosticReport
