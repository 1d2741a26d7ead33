import QueryModel.Proofs.Query.Sharing
import QueryModel.Proofs.Session.Reachable

/-! # The life of a copy context

A context starts empty and is used for any number of calls, between which nodes may be built in any
other way. Main statement: what the calls copied and the copies they returned are isomorphic, taken
all together, and the context remembers as many nodes as there are below what was copied.
-/

namespace QueryModel

/-- What is copied by one call. -/
inductive CopySubject where
  | tree (top : Node)
  | query (statement : Statement)

namespace CopySubject

/-- The node on top, which a statement without a predicate does not have. -/
def top? : CopySubject → Option Node
  | .tree top => some top
  | .query statement => statement.predicate.map .predicate

/-- Copy everything in the subject. -/
def copy : CopySubject → Copying CopySubject
  | .tree top => return .tree (← top.copy)
  | .query statement => return .query (← statement.copy)

/-- The subject without the identities of its nodes. -/
def anonymous : CopySubject → CopySubject
  | .tree top => .tree top.anonymous
  | .query statement => .query statement.anonymous

/-- The node at a position. -/
def nodeAt? (subject : CopySubject) (path : List Nat) : Option Node :=
  subject.top?.bind fun top => top.nodeAt? path

/-- The identity of the node at a position. -/
def idAt? (subject : CopySubject) (path : List Nat) : Option NodeId :=
  (subject.nodeAt? path).map Node.id

/-- The nodes at all positions. -/
def subnodes (subject : CopySubject) : Set Node :=
  {below | ∃ path, subject.nodeAt? path = some below}

end CopySubject

/-- A call that copied something, with the identities that were given out in the course of it. -/
structure CopyCall where
  original : CopySubject
  copy : CopySubject
  first : NodeId
  /-- The identity after the last one that was given out. -/
  last : NodeId

/-- The calls that were made under a context, the first of them first, and a store of nodes that
were built until then. -/
inductive CopyContext.Life : NodeStore → CopyContext → List CopyCall → Prop
  | start (store : NodeStore) : Life store .empty []
  /-- Nodes are built, or identities given out, by others than the context. -/
  | build {store larger : NodeStore} {context : CopyContext} {calls : List CopyCall}
      (hlife : Life store context calls) (hle : store ≤ larger) : Life larger context calls
  | call {store larger : NodeStore} {context : CopyContext} {calls : List CopyCall}
      (hlife : Life store context calls) {original copy : CopySubject} {state : CopyState}
      (horiginal : ∀ top ∈ original.top?, top ∈ store)
      (hcopy : original.copy ⟨store.next, context⟩ = (copy, state))
      (hle : store ≤ larger) (hnext : state.next ≤ larger.next) :
      Life larger state.context (calls ++ [⟨original, copy, store.next, state.next⟩])

/-- What the calls under a context copied, and the copies, are isomorphic. -/
structure CopyContext.IsIsomorphism (context : CopyContext) (calls : List CopyCall) : Prop where
  /-- A copy differs from its original in the identities of its nodes only. -/
  alike : ∀ call ∈ calls, call.copy.anonymous = call.original.anonymous
  /-- The nodes of a copy were made by one of the calls. -/
  made : ∀ call ∈ calls, ∀ path id, call.copy.idAt? path = some id →
    ∃ maker ∈ calls, maker.first ≤ id ∧ id < maker.last
  /-- At two positions of copies stands one node exactly if at the same positions of the originals
  stands one node. -/
  same_iff : ∀ call ∈ calls, ∀ other ∈ calls, ∀ path otherPath,
    call.original.idAt? path = other.original.idAt? otherPath ↔
      call.copy.idAt? path = other.copy.idAt? otherPath
  /-- Copying a node again gives the copy that there is, and nothing else happens. -/
  again : ∀ call ∈ calls, ∀ path below, call.original.nodeAt? path = some below →
    ∃ copy, call.copy.nodeAt? path = some copy ∧
      ∀ next, below.copy ⟨next, context⟩ = (copy, ⟨next, context⟩)
  size_eq : context.size =
    {id | ∃ call ∈ calls, ∃ path, call.original.idAt? path = some id}.ncard

theorem Node.extendsBy_copy {store : NodeStore} {node : Node} (hnode : node ∈ store) :
    ExtendsBy CopyState.Fits node.copy store fun copy larger => copy ∈ larger := by
  cases node with
  | expression tree =>
    exact (Expression.extendsBy_copy hnode).bind fun _ _ _ hcopy => ExtendsBy.pure hcopy.1
  | predicate tree =>
    exact (Predicate.extendsBy_copy hnode).bind fun _ _ _ hcopy => ExtendsBy.pure hcopy.1

namespace CopySubject

open CopyState (Tracks Precedes)

variable {store : NodeStore} {given : Set NodeId} {covered : Set Node} {state : CopyState}

theorem subnodes_query_none (root : Root) :
    (query ⟨root, none⟩).subnodes = ∅ :=
  Set.eq_empty_of_forall_notMem fun _ ⟨_, hpath⟩ => nomatch hpath

/-- After a call, what it copied is covered, and the context remembers the copy. -/
structure Copies (store : NodeStore) (given : Set NodeId) (covered : Set Node) (state : CopyState)
    (subject : CopySubject) : Prop where
  tracks : Tracks store given (covered ∪ subject.subnodes) (subject.copy state).2
  precedes : state.Precedes (subject.copy state).2
  remembers : Option.Rel (fun top copy => (subject.copy state).2.context.node? top = some copy)
    subject.top? (subject.copy state).1.top?
  alike : (subject.copy state).1.anonymous = subject.anonymous

/-- What a call copies is covered from then on. -/
theorem copies (subject : CopySubject) (hsubject : ∀ top ∈ subject.top?, top ∈ store)
    (htracks : Tracks store given covered state)
    (hgiven : ∀ id, state.next ≤ id → id ∈ given) : Copies store given covered state subject := by
  cases subject with
  | tree top =>
    have hcopies := htracks.copy (hsubject top rfl) hgiven
    have hcovered : top ∈ covered ∪ top.subnodes := Or.inr top.mem_subnodes_self
    exact
      { tracks := hcopies.tracks
        precedes := hcopies.precedes
        remembers := .some hcopies.node?_eq
        alike := congrArg tree
          (hcopies.tracks.isCopy hcovered hcopies.node?_eq).isAlike }
  | query statement =>
    obtain ⟨root, predicate⟩ := statement
    cases predicate with
    | none =>
      have hnothing : covered ∪ (query ⟨root, none⟩).subnodes = covered := by
        rw [subnodes_query_none, Set.union_empty]
      exact
        { tracks := by rw [hnothing]; exact htracks
          precedes := Precedes.refl state
          remembers := .none
          alike := rfl }
    | some predicate =>
      have hcopies := htracks.copy (hsubject (.predicate predicate) rfl) hgiven
      have hcovered : Node.predicate predicate ∈ covered ∪ (Node.predicate predicate).subnodes :=
        Or.inr (Node.predicate predicate).mem_subnodes_self
      have halike := (hcopies.tracks.isCopy hcovered hcopies.node?_eq).isAlike
      have hpredicate : (predicate.copy state).1.anonymous = predicate.anonymous :=
        Node.predicate_injective halike
      exact
        { tracks := hcopies.tracks
          precedes := hcopies.precedes
          remembers := .some hcopies.node?_eq
          alike := congrArg (fun copy => query ⟨root, some copy⟩) hpredicate }

/-- The copy of nodes of a store is made of nodes of a larger one. -/
theorem extendsBy_copy (subject : CopySubject) (hsubject : ∀ top ∈ subject.top?, top ∈ store) :
    ExtendsBy CopyState.Fits subject.copy store fun copy larger =>
      ∀ top ∈ copy.top?, top ∈ larger := by
  cases subject with
  | tree top =>
    refine (Node.extendsBy_copy (hsubject top rfl)).bind fun copy larger _ hcopy =>
      ExtendsBy.pure ?_
    rintro _ ⟨⟩
    exact hcopy
  | query statement =>
    have hpredicate : ∀ predicate ∈ statement.predicate, Node.predicate predicate ∈ store :=
      fun predicate hpredicate => hsubject _ (Option.mem_map_of_mem _ hpredicate)
    refine (Statement.extendsBy_copy hpredicate).bind fun copy larger _ hcopy => ExtendsBy.pure ?_
    intro top htop
    obtain ⟨predicate, hmem, rfl⟩ := Option.mem_map.mp htop
    exact hcopy.1 predicate hmem

end CopySubject

namespace CopyContext

open CopyState (Tracks Precedes)

/-- The nodes below what was copied. -/
def copied (calls : List CopyCall) : Set Node :=
  {below | ∃ call ∈ calls, below ∈ call.original.subnodes}

/-- The identities that were given out by calls. -/
def givenOut (calls : List CopyCall) : Set NodeId :=
  {id | ∃ call ∈ calls, call.first ≤ id ∧ id < call.last}

theorem copied_append (calls : List CopyCall) (call : CopyCall) :
    copied (calls ++ [call]) = copied calls ∪ call.original.subnodes := by
  ext below
  simp only [copied, List.mem_append, List.mem_singleton, Set.mem_ofPred_eq, Set.mem_union]
  constructor
  · rintro ⟨made, hmade | rfl, hbelow⟩
    · exact Or.inl ⟨made, hmade, hbelow⟩
    · exact Or.inr hbelow
  · rintro (⟨made, hmade, hbelow⟩ | hbelow)
    · exact ⟨made, Or.inl hmade, hbelow⟩
    · exact ⟨call, Or.inr rfl, hbelow⟩

/-- What every use of a context keeps. -/
structure IsConsistent (store : NodeStore) (context : CopyContext) (calls : List CopyCall) :
    Prop where
  tracks : Tracks store (givenOut calls) (copied calls) ⟨store.next, context⟩
  remembers : ∀ call ∈ calls, Option.Rel (fun top copy => context.node? top = some copy)
    call.original.top? call.copy.top?
  alike : ∀ call ∈ calls, call.copy.anonymous = call.original.anonymous

theorem isConsistent_empty (store : NodeStore) : IsConsistent store empty [] where
  tracks := by
    have hcopied : copied [] = ∅ :=
      Set.eq_empty_of_forall_notMem fun _ ⟨_, hcall, _⟩ => nomatch hcall
    rw [hcopied]
    exact Tracks.empty store _ store.next
  remembers := by simp
  alike := by simp

namespace IsConsistent

variable {store larger : NodeStore} {context : CopyContext} {calls : List CopyCall}

theorem build (hconsistent : IsConsistent store context calls) (hle : store ≤ larger) :
    IsConsistent larger context calls where
  tracks := hconsistent.tracks.mono hle hle.1 fun _ hid _ => hid
  remembers := hconsistent.remembers
  alike := hconsistent.alike

theorem call (hconsistent : IsConsistent store context calls) {original copy : CopySubject}
    {state : CopyState} (horiginal : ∀ top ∈ original.top?, top ∈ store)
    (hcopy : original.copy ⟨store.next, context⟩ = (copy, state))
    (hle : store ≤ larger) (hnext : state.next ≤ larger.next) :
    IsConsistent larger state.context
      (calls ++ [⟨original, copy, store.next, state.next⟩]) := by
  -- While the call runs, every identity from the next one on may become that of a copy.
  have htracks : Tracks store (givenOut calls ∪ {id | store.next ≤ id}) (copied calls)
      ⟨store.next, context⟩ :=
    hconsistent.tracks.mono (le_refl store) (Nat.le_refl _) fun _ hid _ => Or.inl hid
  have hcopies := original.copies horiginal htracks fun _ hid => Or.inr hid
  obtain ⟨htracks', hprecedes, hremembers, halike⟩ := hcopies
  rw [hcopy] at htracks' hprecedes hremembers halike
  refine ⟨?_, ?_, ?_⟩
  · rw [copied_append]
    refine htracks'.mono hle hnext ?_
    rintro id (⟨made, hmade, hid⟩ | hfirst) hlast
    · exact ⟨made, List.mem_append_left _ hmade, hid⟩
    · exact ⟨_, List.mem_append_right _ (List.mem_singleton_self _), hfirst, hlast⟩
  · intro made hmade
    obtain hmade | hmade := List.mem_append.mp hmade
    · have hknown := hconsistent.remembers made hmade
      generalize made.original.top? = top, made.copy.top? = duplicate at hknown ⊢
      cases hknown with
      | none => exact .none
      | some hknown => exact .some (hprecedes.keeps hknown)
    · rw [List.mem_singleton.mp hmade]
      exact hremembers
  · intro made hmade
    obtain hmade | hmade := List.mem_append.mp hmade
    · exact hconsistent.alike made hmade
    · rw [List.mem_singleton.mp hmade]
      exact halike

/-- At a position of an original and at the same position of its copy stand a node and its copy. -/
theorem rel_nodeAt? (hconsistent : IsConsistent store context calls) {call : CopyCall}
    (hcall : call ∈ calls) (path : List Nat) :
    Option.Rel (fun below copy => below ∈ copied calls ∧ context.node? below = some copy)
      (call.original.nodeAt? path) (call.copy.nodeAt? path) := by
  have hremembers := hconsistent.remembers call hcall
  have hmem {top : Node} (htop : call.original.top? = some top) : top ∈ copied calls := by
    refine ⟨call, hcall, [], ?_⟩
    rw [CopySubject.nodeAt?, htop]
    rfl
  unfold CopySubject.nodeAt?
  generalize call.original.top? = top, call.copy.top? = copy at hremembers hmem
  cases hremembers with
  | none => exact .none
  | some hcopy => exact hconsistent.tracks.rel_nodeAt? (hmem rfl) hcopy path

theorem idAt?_eq_iff (hconsistent : IsConsistent store context calls) {call other : CopyCall}
    (hcall : call ∈ calls) (hother : other ∈ calls) (path otherPath : List Nat) :
    call.original.idAt? path = other.original.idAt? otherPath ↔
      call.copy.idAt? path = other.copy.idAt? otherPath := by
  have hleft := hconsistent.rel_nodeAt? hcall path
  have hright := hconsistent.rel_nodeAt? hother otherPath
  unfold CopySubject.idAt?
  generalize call.original.nodeAt? path = left, call.copy.nodeAt? path = leftCopy at hleft
  generalize other.original.nodeAt? otherPath = right,
    other.copy.nodeAt? otherPath = rightCopy at hright
  cases hleft with
  | none => cases hright <;> simp
  | @some left leftCopy hleft =>
    cases hright with
    | none => simp
    | @some right rightCopy hright =>
      rw [Option.map_some, Option.map_some, Option.map_some, Option.map_some, Option.some_inj,
        Option.some_inj]
      constructor
      · intro hid
        obtain rfl := store.eq_of_id_eq (hconsistent.tracks.subset hleft.1)
          (hconsistent.tracks.subset hright.1) hid
        rw [Option.some.inj (hleft.2.symm.trans hright.2)]
      · intro hid
        rw [hconsistent.tracks.injective hleft.1 hright.1 hleft.2 hright.2 hid]

theorem exists_maker (hconsistent : IsConsistent store context calls) {call : CopyCall}
    (hcall : call ∈ calls) {path : List Nat} {id : NodeId}
    (hid : call.copy.idAt? path = some id) :
    ∃ maker ∈ calls, maker.first ≤ id ∧ id < maker.last := by
  obtain ⟨copy, hcopy, rfl⟩ := Option.map_eq_some_iff.mp hid
  have hrel := hconsistent.rel_nodeAt? hcall path
  rw [hcopy] at hrel
  generalize call.original.nodeAt? path = below at hrel
  cases hrel with
  | some hbelow => exact (hconsistent.tracks.isCopy hbelow.1 hbelow.2).id_mem

theorem copy_again (hconsistent : IsConsistent store context calls) {call : CopyCall}
    (hcall : call ∈ calls) {path : List Nat} {below : Node}
    (hbelow : call.original.nodeAt? path = some below) :
    ∃ copy, call.copy.nodeAt? path = some copy ∧
      ∀ next, below.copy ⟨next, context⟩ = (copy, ⟨next, context⟩) := by
  have hrel := hconsistent.rel_nodeAt? hcall path
  rw [hbelow] at hrel
  generalize call.copy.nodeAt? path = duplicate at hrel ⊢
  cases hrel with
  | @some _ copy hcopy =>
    refine ⟨copy, rfl, fun next => ?_⟩
    rw [Node.copy_eq, hcopy.2]

theorem size_eq (hconsistent : IsConsistent store context calls) :
    context.size = {id | ∃ call ∈ calls, ∃ path, call.original.idAt? path = some id}.ncard := by
  have hids : {id | ∃ call ∈ calls, ∃ path, call.original.idAt? path = some id} =
      Node.id '' copied calls := by
    ext id
    simp only [CopySubject.idAt?, Option.map_eq_some_iff, copied, CopySubject.subnodes]
    constructor
    · rintro ⟨call, hcall, path, below, hbelow, rfl⟩
      exact ⟨below, ⟨call, hcall, path, hbelow⟩, rfl⟩
    · rintro ⟨below, ⟨call, hcall, path, hbelow⟩, rfl⟩
      exact ⟨call, hcall, path, below, hbelow, rfl⟩
  have hinjective : Set.InjOn Node.id (copied calls) := fun left hleft right hright hid =>
    store.eq_of_id_eq (hconsistent.tracks.subset hleft) (hconsistent.tracks.subset hright) hid
  rw [hids, hinjective.ncard_image]
  exact hconsistent.tracks.size_eq

end IsConsistent

theorem Life.isConsistent {store : NodeStore} {context : CopyContext} {calls : List CopyCall}
    (hlife : Life store context calls) : IsConsistent store context calls := by
  induction hlife with
  | start store => exact isConsistent_empty store
  | build hlife hle ih => exact ih.build hle
  | call hlife horiginal hcopy hle hnext ih => exact ih.call horiginal hcopy hle hnext

/-- Whatever is copied under a context in the whole of its life, and whatever is built in between,
the originals and the copies are isomorphic. -/
theorem Life.isIsomorphism {store : NodeStore} {context : CopyContext} {calls : List CopyCall}
    (hlife : Life store context calls) : IsIsomorphism context calls := by
  have hconsistent := hlife.isConsistent
  exact
    { alike := hconsistent.alike
      made := fun _ hcall _ _ => hconsistent.exists_maker hcall
      same_iff := fun _ hcall _ hother => hconsistent.idAt?_eq_iff hcall hother
      again := fun _ hcall _ _ => hconsistent.copy_again hcall
      size_eq := hconsistent.size_eq }

/-- Whatever is in the store can be copied next, and its copy can be copied after that. -/
theorem Life.exists_call {store : NodeStore} {state : CopyState} {calls : List CopyCall}
    (hfits : CopyState.Fits store state) (hlife : Life store state.context calls)
    {original : CopySubject} (horiginal : ∀ top ∈ original.top?, top ∈ store) :
    ∃ larger, store ≤ larger ∧ CopyState.Fits larger (original.copy state).2 ∧
      (∀ top ∈ (original.copy state).1.top?, top ∈ larger) ∧
      Life larger (original.copy state).2.context
        (calls ++
          [⟨original, (original.copy state).1, state.next, (original.copy state).2.next⟩]) := by
  obtain ⟨larger, hle, hfits', hcopy⟩ := original.extendsBy_copy horiginal state hfits
  refine ⟨larger, hle, hfits', hcopy, ?_⟩
  rw [hfits.next_eq]
  refine hlife.call horiginal ?_ hle hfits'.next_eq.le
  rw [← hfits.next_eq]
  rfl

/-- A predicate is copied, then a statement that it stands in, then the copy of the predicate. -/
theorem isIsomorphism_sharedComparison :
    let less : Predicate :=
      .comparison 2 ⟨0, .any, none, .path ⟨"user", "u"⟩ "age"⟩ .lessThan
        (.scalar ⟨1, .bigint, none, .literal (.integer 3)⟩)
    let both : Predicate := .junction 4 (.negation 3 less) .and less
    let statement : Statement := ⟨⟨"user", "u"⟩, some (.negation 5 both)⟩
    let first := (CopySubject.tree (.predicate both)).copy ⟨6, .empty⟩
    let second := (CopySubject.query statement).copy first.2
    let third := first.1.copy second.2
    IsIsomorphism third.2.context
        [⟨.tree (.predicate both), first.1, 6, first.2.next⟩,
          ⟨.query statement, second.1, first.2.next, second.2.next⟩,
          ⟨first.1, third.1, second.2.next, third.2.next⟩] ∧
      first.1.idAt? [0, 0] = first.1.idAt? [1] ∧ second.1.idAt? [0] = first.1.idAt? [] := by
  intro less both statement first second third
  have hsession : Session.Reachable Session.sharedComparison :=
    (Session.Reachable.start _).takeAll _
  obtain ⟨store, hfits⟩ := hsession.exists_store
  have hboth : Node.predicate both ∈ store :=
    hfits.nodes (show Session.sharedComparison.nodes.get? "both" = _ from rfl)
  have hroot : Node.predicate (.negation 5 both) ∈ store :=
    hfits.nodes (show Session.sharedComparison.nodes.get? "root" = _ from rfl)
  have hstart : CopyState.Fits store ⟨6, .empty⟩ := ⟨hfits.next_eq, fits_empty store⟩
  have htop : ∀ top ∈ (CopySubject.tree (.predicate both)).top?, top ∈ store := by
    rintro _ ⟨⟩
    exact hboth
  obtain ⟨larger, hle, hfirst, hcopy, hlife⟩ := (Life.start store).exists_call hstart htop
  have hstatement : ∀ top ∈ (CopySubject.query statement).top?, top ∈ larger := by
    rintro _ ⟨⟩
    exact NodeStore.mem_of_le hle hroot
  obtain ⟨largest, hle', hsecond, -, hlife⟩ := hlife.exists_call hfirst hstatement
  obtain ⟨_, -, -, -, hlife⟩ :=
    hlife.exists_call hsecond fun top htop => NodeStore.mem_of_le hle' (hcopy top htop)
  have hisomorphism := hlife.isIsomorphism
  refine ⟨hisomorphism, ?_, ?_⟩
  · exact (hisomorphism.same_iff _ (.head _) _ (.head _) [0, 0] [1]).mp rfl
  · exact (hisomorphism.same_iff _ (.tail _ (.head _)) _ (.head _) [0] []).mp rfl

end CopyContext

end QueryModel
