import QueryModel.Proofs.Query.Store
import Std.Data.HashMap.Lemmas

/-! # Computations with a memory extend the store

Copies are made, and negations are pushed down, by computations that remember what has become of the
nodes they have met. What such a memory holds is stated about a store that has the nodes met and
what they became, and it is kept as the store grows.
-/

namespace QueryModel

/-- What a map holds are nodes of the store, and each is what has become of a node of the store. -/
def NodeStore.Recalls {κ α : Type} [BEq κ] [Hashable κ] (store : NodeStore) (node : α → Node)
    (becomes : κ → α → α → Prop) (map : Std.HashMap κ α) : Prop :=
  ∀ key result, map[key]? = some result →
    node result ∈ store ∧ ∃ original, node original ∈ store ∧ becomes key original result

namespace NodeStore.Recalls

variable {κ α : Type} [BEq κ] [Hashable κ] {store : NodeStore} {node : α → Node}
  {becomes : κ → α → α → Prop} {map : Std.HashMap κ α}

theorem empty [LawfulBEq κ] [LawfulHashable κ] :
    store.Recalls node becomes (∅ : Std.HashMap κ α) := by
  intro key result hresult
  simp at hresult

theorem insert [LawfulBEq κ] [LawfulHashable κ] (hrecalls : store.Recalls node becomes map)
    {key : κ} {original result : α} (horiginal : node original ∈ store)
    (hresult : node result ∈ store) (hbecomes : becomes key original result) :
    store.Recalls node becomes (map.insert key result) := by
  intro other held hheld
  rw [Std.HashMap.getElem?_insert] at hheld
  split at hheld
  · next hkey =>
    obtain rfl := eq_of_beq hkey
    obtain rfl := Option.some.inj hheld
    exact ⟨hresult, original, horiginal, hbecomes⟩
  · exact hrecalls other held hheld

theorem mono (hrecalls : store.Recalls node becomes map) {larger : NodeStore}
    (hle : store ≤ larger) : larger.Recalls node becomes map := by
  intro key result hresult
  obtain ⟨hmem, original, horiginal, hbecomes⟩ := hrecalls key result hresult
  exact ⟨NodeStore.mem_of_le hle hmem, original, NodeStore.mem_of_le hle horiginal, hbecomes⟩

/-- What is held under the identity of a node is what has become of that very node. -/
theorem becomes_of_mem (hrecalls : store.Recalls node becomes map)
    (hinjective : Function.Injective node) {key : κ} {known result : α}
    (hknown : node known ∈ store) (hresult : map[key]? = some result)
    (hid : ∀ {original}, becomes key original result → (node original).id = (node known).id) :
    node result ∈ store ∧ becomes key known result := by
  obtain ⟨hmem, original, horiginal, hbecomes⟩ := hrecalls key result hresult
  obtain rfl := hinjective (store.eq_of_id_eq horiginal hknown (hid hbecomes))
  exact ⟨hmem, hbecomes⟩

end NodeStore.Recalls

/-- Started in a state that fits a store, a computation ends in one that fits a larger store, and
`made` holds of its value there. -/
def ExtendsBy {σ α : Type} (fits : NodeStore → σ → Prop) (computation : StateM σ α)
    (store : NodeStore) (made : α → NodeStore → Prop) : Prop :=
  ∀ state, fits store state → ∃ larger, store ≤ larger ∧ fits larger (computation state).2 ∧
    made (computation state).1 larger

namespace ExtendsBy

variable {σ α β : Type} {fits : NodeStore → σ → Prop} {store : NodeStore}

theorem pure {made : α → NodeStore → Prop} {value : α} (hmade : made value store) :
    ExtendsBy fits (Pure.pure value) store made := fun _ hfits => ⟨store, le_refl _, hfits, hmade⟩

theorem bind {computation : StateM σ α} {rest : α → StateM σ β}
    {made : α → NodeStore → Prop} {after : β → NodeStore → Prop}
    (hcomputation : ExtendsBy fits computation store made)
    (hrest : ∀ value larger, store ≤ larger → made value larger →
      ExtendsBy fits (rest value) larger after) :
    ExtendsBy fits (computation >>= rest) store after := by
  intro state hfits
  obtain ⟨larger, hle, hfits', hmade⟩ := hcomputation state hfits
  obtain ⟨largest, hle', hfits'', hafter⟩ := hrest _ larger hle hmade _ hfits'
  exact ⟨largest, hle.trans hle', hfits'', hafter⟩

theorem get_bind {rest : σ → StateM σ α} {made : α → NodeStore → Prop}
    (hrest : ∀ state, fits store state → ExtendsBy fits (rest state) store made) :
    ExtendsBy fits (MonadState.get >>= rest) store made :=
  fun state hfits => hrest state hfits state hfits

theorem modify {change : σ → σ} (hchange : ∀ state, fits store state → fits store (change state)) :
    ExtendsBy fits (modify change) store fun _ _ => True :=
  fun state hfits => ⟨store, le_refl _, hchange state hfits, trivial⟩

theorem mono {computation : StateM σ α} {made weaker : α → NodeStore → Prop}
    (hcomputation : ExtendsBy fits computation store made)
    (hweaker : ∀ value larger, store ≤ larger → made value larger → weaker value larger) :
    ExtendsBy fits computation store weaker := by
  intro state hfits
  obtain ⟨larger, hle, hfits', hmade⟩ := hcomputation state hfits
  exact ⟨larger, hle, hfits', hweaker _ larger hle hmade⟩

/-- A new identity makes a new node over nodes of the store, which the rest can use. -/
theorem fresh_node_bind {fresh : StateM σ NodeId} {rest : NodeId → StateM σ α}
    {made : α → NodeStore → Prop}
    (hmono : ∀ {store larger state}, fits store state → store ≤ larger →
      larger.next = store.next → fits larger state)
    (hfresh : ExtendsBy fits fresh store fun id larger => larger.IsUnused id)
    (node : NodeId → Node) (hid : ∀ id, (node id).id = id)
    (hoperands : ∀ id, ∀ operand ∈ (node id).operands, operand ∈ store)
    (hshaped : ∀ id, (node id).IsShaped)
    (hrest : ∀ id larger, store ≤ larger → node id ∈ larger →
      ExtendsBy fits (rest id) larger made) :
    ExtendsBy fits (fresh >>= rest) store made := by
  refine hfresh.bind fun id larger hle hunused => ?_
  rw [← hid id] at hunused
  have hlarger := fun operand hoperand => NodeStore.mem_of_le hle (hoperands id operand hoperand)
  have hinsert := larger.le_insert (node id) hunused hlarger (hshaped id)
  intro state hfits
  obtain ⟨largest, hle', hfits', hmade⟩ :=
    hrest id _ (hle.trans hinsert) (larger.mem_insert_self ..) state (hmono hfits hinsert rfl)
  exact ⟨largest, hinsert.trans hle', hfits', hmade⟩

end ExtendsBy

end QueryModel
