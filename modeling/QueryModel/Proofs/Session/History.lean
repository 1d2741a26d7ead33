import QueryModel.Proofs.Query.WellShaped
import QueryModel.Proofs.Session.Reachable

/-! # What a session hands out

The nodes that were ever obtained in a session are nodes of one store, also those whose names stand
for other nodes by now. Main statement: they are well shaped, an identity of 64 bits is enough to
tell them apart as long as not more nodes were made than there are such identities, and every
predicate among them is evaluated without fallbacks.
-/

namespace QueryModel

namespace Session

/-- A node that a session holds: it has a name, or it is a copy that a context remembers. -/
def Holds (session : Session) (node : Node) : Prop :=
  (∃ name, session.nodes.get? name = some node) ∨
    ∃ name context original, session.contexts.get? name = some context ∧
      context.node? original = some node

/-- The nodes that can be reached from those that a session holds. -/
def handles (session : Session) : Set Node :=
  {node | ∃ top, session.Holds top ∧ node ∈ top.subnodes}

/-- The nodes that were obtained on the way to a session, one step after the other. A step that
fails is a step as well. Trees may come from several builders, which know different catalogs but
share the identities that they give out; identities are also given out to others than the
session. -/
inductive History : Session → Set Node → Prop
  | start (configuration : Configuration) : History (start configuration) ∅
  | take {session : Session} {obtained : Set Node} (hhistory : History session obtained)
      (step : Step) :
      History (session.take step).2 (obtained ∪ (session.take step).2.handles)
  | reconfigure {session : Session} {obtained : Set Node} (hhistory : History session obtained)
      (configuration : Configuration) :
      History { session with configuration := configuration } obtained
  | elapse {session : Session} {obtained : Set Node} (hhistory : History session obtained)
      {later : NodeId} (hlater : session.next ≤ later) :
      History { session with next := later } obtained

/-- A step that fails leaves the session as it was. -/
theorem take_eq_self_of_error {session : Session} {step : Step} {error : StepError}
    (herror : (session.take step).1 = .error error) : (session.take step).2 = session := by
  unfold take at herror ⊢
  split at herror
  · cases herror
  · rfl

end Session

/-- The copies that a context remembers are nodes of the store they were made in. -/
theorem CopyContext.Fits.node_mem {store : NodeStore} {context : CopyContext}
    (hfits : context.Fits store) {original copy : Node}
    (hcopy : context.node? original = some copy) : copy ∈ store := by
  cases original with
  | predicate tree =>
    obtain ⟨duplicate, hduplicate, rfl⟩ := Option.map_eq_some_iff.mp hcopy
    exact (hfits.predicates _ _ hduplicate).1
  | expression tree =>
    obtain ⟨expression, hexpression, rfl⟩ := Option.map_eq_some_iff.mp hcopy
    cases tree with
    | scalar node =>
      obtain ⟨duplicate, hduplicate, rfl⟩ := Option.map_eq_some_iff.mp hexpression
      exact (hfits.scalars _ _ hduplicate).1
    | list values =>
      obtain ⟨duplicate, hduplicate, rfl⟩ := Option.map_eq_some_iff.mp hexpression
      exact (hfits.lists _ _ hduplicate).1

namespace Session

theorem Fits.mem_of_holds {store : NodeStore} {session : Session} (hfits : Fits store session)
    {node : Node} (hnode : session.Holds node) : node ∈ store := by
  obtain ⟨name, hname⟩ | ⟨name, context, original, hcontext, hcopy⟩ := hnode
  · exact hfits.nodes hname
  · exact (hfits.contexts hcontext).node_mem hcopy

theorem Fits.handles_subset {store : NodeStore} {session : Session} (hfits : Fits store session) :
    session.handles ⊆ store.nodes := by
  rintro node ⟨top, htop, hnode⟩
  exact store.subnodes_subset (hfits.mem_of_holds htop) hnode

namespace History

variable {session : Session} {obtained : Set Node}

/-- What was obtained on the way to a session lies in one store with what it holds. -/
theorem exists_store (hhistory : History session obtained) :
    ∃ store, Fits store session ∧ obtained ⊆ store.nodes := by
  induction hhistory with
  | start configuration => exact ⟨_, fits_start configuration, Set.empty_subset _⟩
  | take hhistory step ih =>
    obtain ⟨store, hfits, hobtained⟩ := ih
    obtain ⟨larger, hle, hlater⟩ := hfits.take step
    exact ⟨larger, hlater, Set.union_subset (hobtained.trans hle.2) hlater.handles_subset⟩
  | reconfigure hhistory configuration ih =>
    obtain ⟨store, hfits, hobtained⟩ := ih
    exact ⟨store, hfits.reconfigure configuration, hobtained⟩
  | elapse hhistory hlater ih =>
    obtain ⟨store, hfits, hobtained⟩ := ih
    exact ⟨_, hfits.mono (store.le_elapse (hfits.next_eq ▸ hlater)), hobtained⟩

/-- Whatever a session holds was obtained on the way to it. -/
theorem handles_subset (hhistory : History session obtained) : session.handles ⊆ obtained := by
  induction hhistory with
  | start configuration =>
    rintro node ⟨top, ⟨name, hname⟩ | ⟨name, context, original, hcontext, -⟩, -⟩
    · cases hname
    · cases hcontext
  | take hhistory step ih => exact Set.subset_union_right
  | reconfigure hhistory configuration ih => exact ih
  | elapse hhistory hlater ih => exact ih

theorem mem_of_holds (hhistory : History session obtained) {node : Node}
    (hnode : session.Holds node) : node ∈ obtained :=
  hhistory.handles_subset ⟨node, hnode, node.mem_subnodes_self⟩

/-- Several steps add to what was obtained. -/
theorem exists_takeAll (hhistory : History session obtained) (steps : List Step) :
    ∃ later, obtained ⊆ later ∧ History (session.takeAll steps) later := by
  induction steps generalizing session obtained with
  | nil => exact ⟨obtained, Set.Subset.rfl, hhistory⟩
  | cons step rest ih =>
    obtain ⟨later, hlater, hhistory'⟩ := ih (hhistory.take step)
    exact ⟨later, Set.subset_union_left.trans hlater, hhistory'⟩

/-- Whatever was obtained in a session, by steps of any kind in any order, some of which may have
failed: every node is well shaped, nodes are told apart by identities of 64 bits as long as not more
of these are needed than there are, and every predicate is evaluated without reading a list as null
or doing without one. Steps that fail yield no node. -/
theorem nodes_sound (hhistory : History session obtained) :
    (∀ node ∈ obtained, node.IsWellShaped) ∧
      (session.next ≤ UInt64.size → ∀ left ∈ obtained, ∀ right ∈ obtained,
        UInt64.ofNat left.id = UInt64.ofNat right.id → left = right) ∧
      (∀ predicate, Node.predicate predicate ∈ obtained → ∀ bindings,
        predicate.evaluate? bindings = some (predicate.evaluate bindings)) ∧
      ∀ step error, (session.take step).1 = .error error → (session.take step).2 = session := by
  obtain ⟨store, hfits, hobtained⟩ := hhistory.exists_store
  refine ⟨fun node hnode => ?_, fun hnext left hleft right hright hid => ?_,
    fun predicate hpredicate bindings => ?_, fun step error => take_eq_self_of_error⟩
  · exact (store.isShaped (hobtained hnode)).isWellShaped
  · have hlt : ∀ node ∈ obtained, node.id < UInt64.size := fun node hnode =>
      (store.id_lt (hobtained hnode)).trans_le (hfits.next_eq ▸ hnext)
    refine store.eq_of_id_eq (hobtained hleft) (hobtained hright) ?_
    rw [← UInt64.toNat_ofNat_of_lt' (hlt left hleft), hid,
      UInt64.toNat_ofNat_of_lt' (hlt right hright)]
  · refine predicate.evaluate?_eq bindings fun below hbelow => ?_
    exact (store.isShaped (store.subnodes_subset (hobtained hpredicate) hbelow)).isWellShaped

end History

/-- A test for membership that is refused at first, for want of a list, then built and negated. -/
def membership : Session :=
  (start ⟨.empty, .postgres, .distribute⟩).takeAll
    [.make (.path ⟨"user", "u"⟩ "age") "age",
      .make (.literal (.integer 3) none) "three",
      .make (.comparison "age" "three" (some .isIn)) "refused",
      .make (.list ["three"]) "list",
      .make (.comparison "age" "list" (some .isIn)) "among",
      .make (.negation "among") "root"]

theorem nodes_sound_membership :
    let age : Scalar := ⟨0, .any, none, .path ⟨"user", "u"⟩ "age"⟩
    let three : Scalar := ⟨1, .bigint, none, .literal (.integer 3)⟩
    let root : Predicate :=
      .negation 4 (.comparison 3 age .isIn (.list ⟨2, .bigint, none, [three]⟩))
    let bindings := Bindings.empty.withPath "u" "age" (.integer 4)
    let pushed := membership.takeAll
      [.make (.pushDown "root") "pushed", .make (.copy "pushed" "copies") "copy"]
    membership.nodes.get? "root" = some (.predicate root) ∧
      membership.nodes.get? "refused" = none ∧
      root.evaluate? bindings = some .holds ∧
      (∀ node ∈ membership.handles, UInt64.ofNat node.id = UInt64.ofNat root.id →
        node = .predicate root) ∧
      ∃ copy, pushed.nodes.get? "copy" = some copy ∧ copy.IsWellShaped := by
  intro age three root bindings pushed
  have hname : membership.nodes.get? "root" = some (.predicate root) := rfl
  obtain ⟨copy, hcopy⟩ : ∃ copy, pushed.nodes.get? "copy" = some copy :=
    Option.isSome_iff_exists.mp rfl
  obtain ⟨obtained, -, hhistory⟩ := (History.start _).exists_takeAll _
  obtain ⟨later, -, hhistory'⟩ := hhistory.exists_takeAll _
  obtain ⟨-, hids, hevaluates, -⟩ := History.nodes_sound hhistory
  have hroot := hhistory.mem_of_holds (.inl ⟨_, hname⟩)
  refine ⟨hname, rfl, ?_, fun node hnode hid => ?_, copy, hcopy, ?_⟩
  · exact (hevaluates root hroot bindings).trans (by decide)
  · exact hids (by decide) node (hhistory.handles_subset hnode) _ hroot hid
  · exact (History.nodes_sound hhistory').1 copy (hhistory'.mem_of_holds (.inl ⟨_, hcopy⟩))

end Session

end QueryModel
