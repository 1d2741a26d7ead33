import QueryModel.Proofs.Planning.Passes
import QueryModel.Session.Run

/-! # Reachable sessions

A session that is reached by taking steps names nodes of one store only, and its contexts hold
copies that were made in that store. It is therefore safe in every such session to treat a node
that stands in several places once. Main statement: a predicate that has a name in a reachable
session means the same after its negations are pushed down.
-/

namespace QueryModel

namespace Session

/-- The sessions that are reached by taking steps. Trees may come from several builders, which know
different catalogs but share the identities that they give out; identities are also given out to
others than the session. -/
inductive Reachable : Session → Prop
  | start (configuration : Configuration) : Reachable (start configuration)
  | take {session : Session} (hsession : Reachable session) (step : Step) :
      Reachable (session.take step).2
  | reconfigure {session : Session} (hsession : Reachable session)
      (configuration : Configuration) :
      Reachable { session with configuration := configuration }
  | elapse {session : Session} (hsession : Reachable session) {later : NodeId}
      (hlater : session.next ≤ later) : Reachable { session with next := later }

/-- What has a name in a session is in the store, and what was copied was copied in the store. -/
structure Fits (store : NodeStore) (session : Session) : Prop where
  next_eq : session.next = store.next
  nodes : ∀ {name node}, session.nodes.get? name = some node → node ∈ store
  contexts : ∀ {name context}, session.contexts.get? name = some context → context.Fits store

theorem fits_start (configuration : Configuration) : Fits (.empty 0) (start configuration) where
  next_eq := rfl
  nodes hnode := by cases hnode
  contexts hcontext := by cases hcontext

theorem Fits.mono {store larger : NodeStore} {session : Session} (hfits : Fits store session)
    (hle : store ≤ larger) : Fits larger { session with next := larger.next } where
  next_eq := rfl
  nodes hnode := NodeStore.mem_of_le hle (hfits.nodes hnode)
  contexts hcontext := (hfits.contexts hcontext).mono hle

theorem Fits.bindNode {store : NodeStore} {session : Session} (hfits : Fits store session)
    (name : String) {node : Node} (hnode : node ∈ store) :
    Fits store { session with nodes := session.nodes.insert name node } where
  next_eq := hfits.next_eq
  nodes {other held} hheld := by
    by_cases hname : other = name
    · subst hname
      rw [SortedMap.get?_insert_self] at hheld
      exact Option.some.inj hheld ▸ hnode
    · rw [SortedMap.get?_insert_of_ne _ _ hname] at hheld
      exact hfits.nodes hheld
  contexts := hfits.contexts

theorem Fits.bindContext {store : NodeStore} {session : Session} (hfits : Fits store session)
    (name : String) {context : CopyContext} (hcontext : context.Fits store) :
    Fits store { session with contexts := session.contexts.insert name context } where
  next_eq := hfits.next_eq
  nodes := hfits.nodes
  contexts {other held} hheld := by
    by_cases hname : other = name
    · subst hname
      rw [SortedMap.get?_insert_self] at hheld
      exact Option.some.inj hheld ▸ hcontext
    · rw [SortedMap.get?_insert_of_ne _ _ hname] at hheld
      exact hfits.contexts hheld

theorem Fits.renumber {store : NodeStore} {session : Session} (hfits : Fits store session)
    (numbering : Numbering) : Fits store { session with numbering := numbering } :=
  ⟨hfits.next_eq, hfits.nodes, hfits.contexts⟩

theorem Fits.reconfigure {store : NodeStore} {session : Session} (hfits : Fits store session)
    (configuration : Configuration) : Fits store { session with configuration := configuration } :=
  ⟨hfits.next_eq, hfits.nodes, hfits.contexts⟩

end Session

namespace Stepping

open Session (Fits)

/-- Taken in a session that fits a store, a step that succeeds leaves a session that fits a larger
store, and `made` holds of its value there. -/
abbrev Extends {α : Type} (stepping : Stepping α) (store : NodeStore)
    (made : α → NodeStore → Prop) : Prop :=
  ExtendsIfOk Fits stepping store made

variable {α : Type} {store : NodeStore}

theorem extends_fail {made : α → NodeStore → Prop} {error : StepError} :
    Extends (fail error) store made := by
  rintro _ _ _ _ ⟨⟩

theorem extends_get : Extends get store fun session larger => Fits larger session := by
  rintro session hfits _ _ ⟨⟩
  exact ⟨store, le_refl _, hfits, hfits⟩

theorem extends_set {session : Session} (hfits : Fits store session) :
    Extends (set session) store fun _ _ => True := by
  rintro _ _ _ _ ⟨⟩
  exact ⟨store, le_refl _, hfits, trivial⟩

theorem extends_modify {change : Session → Session}
    (hchange : ∀ session, Fits store session → Fits store (change session)) :
    Extends (modify change) store fun _ _ => True := by
  rintro session hfits _ _ ⟨⟩
  exact ⟨store, le_refl _, hchange session hfits, trivial⟩

/-! ## Looking up -/

theorem extends_node (name : String) :
    Extends (node name) store fun node larger => node ∈ larger := by
  refine extends_get.bind fun session larger _ hfits => ?_
  split
  · next hnode => exact ExtendsIfOk.pure (hfits.nodes hnode)
  · exact extends_fail

theorem extends_expression (name : String) :
    Extends (expression name) store fun tree larger => Node.expression tree ∈ larger := by
  refine (extends_node name).bind fun node larger _ hnode => ?_
  cases node with
  | expression tree => exact ExtendsIfOk.pure hnode
  | predicate tree => exact extends_fail

theorem extends_predicate (name : String) :
    Extends (predicate name) store fun tree larger => Node.predicate tree ∈ larger := by
  refine (extends_node name).bind fun node larger _ hnode => ?_
  cases node with
  | expression tree => exact extends_fail
  | predicate tree => exact ExtendsIfOk.pure hnode

theorem extends_optionalPredicate (name : Option String) :
    Extends (optionalPredicate name) store fun found larger =>
      ∀ tree ∈ found, Node.predicate tree ∈ larger := by
  cases name with
  | none => exact ExtendsIfOk.pure (by simp)
  | some name =>
    refine (extends_predicate name).bind fun tree larger _ htree => ExtendsIfOk.pure ?_
    rintro _ ⟨⟩
    exact htree

theorem extends_context (name : String) :
    Extends (context name) store fun context larger => context.Fits larger := by
  refine extends_get.bind fun session larger _ hfits => ExtendsIfOk.pure ?_
  cases hcontext : session.contexts.get? name with
  | none => exact CopyContext.fits_empty larger
  | some context => exact hfits.contexts hcontext

/-! ## Making nodes -/

theorem extends_bind (name : String) {node : Node} (hnode : node ∈ store) :
    Extends (bind name node) store fun _ _ => True :=
  extends_modify fun _ hfits => hfits.bindNode name hnode

theorem extends_build {building : Building ConstructionError α} {made : α → NodeStore → Prop}
    (hbuilding : Building.Extends building store made) :
    Extends (build building) store made := by
  intro session hfits value later hrun
  unfold build at hrun
  split at hrun
  · cases hrun
  · next next hbuilt =>
    obtain ⟨larger, hle, rfl, hmade⟩ :=
      hbuilding session.next hfits.next_eq.symm _ _ hbuilt
    obtain ⟨rfl, rfl⟩ := Prod.mk.inj (Except.ok.inj hrun)
    exact ⟨larger, hle, hfits.mono hle, hmade⟩

theorem extends_copying (name : String) {copied : Copying α} {made : α → NodeStore → Prop}
    (hcopied : ∀ larger, store ≤ larger → ExtendsBy CopyState.Fits copied larger made) :
    Extends (copying name copied) store made := by
  refine (extends_context name).bind fun context larger hle hcontext => ?_
  intro session hfits value later hrun
  have hstate : CopyState.Fits larger ⟨session.next, context⟩ :=
    { next_eq := hfits.next_eq
      context := hcontext }
  obtain ⟨largest, hle', hstate', hmade⟩ := hcopied larger hle _ hstate
  obtain ⟨rfl, rfl⟩ := Prod.mk.inj (Except.ok.inj hrun)
  refine ⟨largest, hle', ?_, hmade⟩
  have hlater := (hfits.mono hle').bindContext name hstate'.context
  rwa [← hstate'.next_eq] at hlater

end Stepping

namespace Making

open Stepping

variable {store : NodeStore}

theorem extends_scalar {building : Building ConstructionError Scalar}
    (hbuilding : Building.Extends building store fun made larger =>
      Node.expression (.scalar made) ∈ larger) :
    Extends (scalar building) store fun node larger => node ∈ larger :=
  (extends_build hbuilding).bind fun _ _ _ hmade => ExtendsIfOk.pure hmade

theorem extends_buildPredicate {building : Building ConstructionError Predicate}
    (hbuilding : Building.Extends building store fun made larger =>
      Node.predicate made ∈ larger) :
    Extends (buildPredicate building) store fun node larger => node ∈ larger :=
  (extends_build hbuilding).bind fun _ _ _ hmade => ExtendsIfOk.pure hmade

/-- What is made of nodes of a store is a node of a larger store. -/
theorem extends_run (making : Making) :
    Extends making.run store fun node larger => node ∈ larger := by
  cases making with
  | literal value type =>
    cases type with
    | none => exact extends_scalar (Building.extends_literal value)
    | some type => exact extends_scalar (Building.extends_typedLiteral value type)
  | parameter given type => exact extends_scalar (Building.extends_parameter given type)
  | path root attributeName =>
    exact extends_get.bind fun session _ _ _ =>
      extends_scalar (Building.extends_path session.configuration.catalog root attributeName)
  | list names =>
    refine (ExtendsIfOk.mapM_mem .expression (fun name _ => extends_expression name) names).bind
      fun elements larger _ helements => ?_
    exact (extends_build (Building.extends_list helements)).bind fun _ _ _ hmade =>
      ExtendsIfOk.pure hmade
  | aliased name aliasName =>
    refine (extends_expression name).bind fun unnamed larger _ hunnamed => ?_
    exact (extends_build (Building.extends_aliased aliasName hunnamed)).bind fun _ _ _ hmade =>
      ExtendsIfOk.pure hmade
  | comparison left right operator =>
    refine (extends_expression left).bind fun left larger _ hleft => ?_
    refine (extends_expression right).bind fun right largest hle hright => ?_
    cases operator with
    | none => exact extends_fail
    | some operator =>
      exact extends_buildPredicate
        (Building.extends_comparison (NodeStore.mem_of_le hle hleft) hright)
  | junction left connective right =>
    refine (extends_predicate left).bind fun left larger _ hleft => ?_
    refine (extends_predicate right).bind fun right largest hle hright => ?_
    exact extends_buildPredicate
      (Building.extends_junction connective (NodeStore.mem_of_le hle hleft) hright)
  | junctionAll connective names =>
    refine (ExtendsIfOk.mapM_mem .predicate (fun name _ => extends_predicate name) names).bind
      fun predicates larger _ hpredicates => ?_
    exact extends_buildPredicate (Building.extends_junctionAll connective hpredicates)
  | negation name =>
    refine (extends_predicate name).bind fun inner larger _ hinner => ?_
    exact extends_buildPredicate (Building.extends_negation hinner)
  | nullness name negated =>
    refine (extends_expression name).bind fun operand larger _ hoperand => ?_
    exact extends_buildPredicate (Building.extends_nullness negated hoperand)
  | between operand lower upper negated =>
    refine (extends_expression operand).bind fun operand larger _ hoperand => ?_
    refine (extends_expression lower).bind fun lower larger' hle hlower => ?_
    refine (extends_expression upper).bind fun upper largest hle' hupper => ?_
    exact extends_buildPredicate (Building.extends_between negated
      (NodeStore.mem_of_le (hle.trans hle') hoperand) (NodeStore.mem_of_le hle' hlower) hupper)
  | pushDown name =>
    refine (extends_predicate name).bind fun root larger _ hroot => ?_
    exact extends_buildPredicate
      ((Building.extends_pushDown hroot).mono fun _ _ _ hpushed => hpushed.1)
  | copyTree name =>
    refine (extends_predicate name).bind fun root larger _ hroot => ?_
    refine extends_buildPredicate ?_
    exact (Building.extends_ofCopying (Predicate.extendsBy_copy hroot)).mono
      fun _ _ _ hcopy => hcopy.1
  | copy name contextName =>
    refine (extends_node name).bind fun node larger _ hnode => ?_
    cases node with
    | expression root =>
      have hcopying := extends_copying contextName fun largest hle =>
        Expression.extendsBy_copy (NodeStore.mem_of_le hle hnode)
      exact hcopying.bind fun copy largest _ hcopy => ExtendsIfOk.pure hcopy.1
    | predicate root =>
      have hcopying := extends_copying contextName fun largest hle =>
        Predicate.extendsBy_copy (NodeStore.mem_of_le hle hnode)
      exact hcopying.bind fun copy largest _ hcopy => ExtendsIfOk.pure hcopy.1

end Making

namespace Step

open Stepping

variable {store : NodeStore}

theorem extends_run (step : Step) : Extends step.run store fun _ _ => True := by
  cases step with
  | make making name =>
    refine making.extends_run.bind fun made larger _ hmade => ?_
    exact (extends_bind name hmade).bind fun _ _ _ _ => ExtendsIfOk.pure trivial
  | copyStatement root restriction contextName name =>
    refine (extends_optionalPredicate restriction).bind fun found larger _ hfound => ?_
    refine (extends_copying contextName fun largest hle => Statement.extendsBy_copy
      fun tree htree => NodeStore.mem_of_le hle (hfound tree htree)).bind
      fun copy largest _ hcopy => ?_
    split
    · exact ExtendsIfOk.pure trivial
    · next duplicate hduplicate =>
      exact (extends_bind name (hcopy.1 duplicate hduplicate)).bind fun _ _ _ _ =>
        ExtendsIfOk.pure trivial
  | context name => exact (extends_context name).bind fun _ _ _ _ => ExtendsIfOk.pure trivial
  | copied name contextName =>
    refine (extends_node name).bind fun node _ _ _ => ?_
    refine (extends_context contextName).bind fun context _ _ _ => ?_
    split
    · exact ExtendsIfOk.pure trivial
    · refine (extends_modify fun _ hfits => hfits.renumber _).bind fun _ _ _ _ => ?_
      exact extends_get.bind fun _ _ _ _ => ExtendsIfOk.pure trivial
  | display name => exact (extends_node name).bind fun _ _ _ _ => ExtendsIfOk.pure trivial
  | statement root restriction =>
    exact (extends_optionalPredicate restriction).bind fun _ _ _ _ => ExtendsIfOk.pure trivial
  | outline name =>
    refine (extends_node name).bind fun node _ _ _ => ?_
    refine extends_get.bind fun session larger _ hfits => ?_
    exact (extends_set (hfits.renumber _)).bind fun _ _ _ _ => ExtendsIfOk.pure trivial
  | same left right =>
    refine (extends_node left).bind fun left _ _ _ => ?_
    refine (extends_node right).bind fun right _ _ _ => ?_
    cases left <;> cases right <;>
      first
      | exact ExtendsIfOk.pure trivial
      | exact extends_fail
  | distinct names =>
    exact (ExtendsIfOk.mapM_mem id (fun name _ => extends_node name) names).bind
      fun _ _ _ _ => ExtendsIfOk.pure trivial
  | parameters name => exact (extends_predicate name).bind fun _ _ _ _ => ExtendsIfOk.pure trivial
  | evaluate name bindings =>
    exact (extends_predicate name).bind fun _ _ _ _ => ExtendsIfOk.pure trivial
  | sql name root table =>
    refine (extends_predicate name).bind fun restriction _ _ _ => ?_
    refine extends_get.bind fun session _ _ _ => ?_
    dsimp only
    split
    · exact extends_fail
    · exact ExtendsIfOk.pure trivial
  | attributeType entityName attributeName =>
    exact extends_get.bind fun _ _ _ _ => ExtendsIfOk.pure trivial

end Step

namespace Session

theorem Fits.take {store : NodeStore} {session : Session} (hfits : Fits store session)
    (step : Step) : ∃ larger, store ≤ larger ∧ Fits larger (session.take step).2 := by
  unfold Session.take
  split
  · next answer later hrun =>
    obtain ⟨larger, hle, hlater, -⟩ := step.extends_run session hfits answer later hrun
    exact ⟨larger, hle, hlater⟩
  · exact ⟨store, le_refl _, hfits⟩

/-- The nodes of a reachable session are nodes of one store. -/
theorem Reachable.exists_store {session : Session} (hsession : Reachable session) :
    ∃ store, Fits store session := by
  induction hsession with
  | start configuration => exact ⟨_, fits_start configuration⟩
  | take hsession step ih =>
    obtain ⟨store, hfits⟩ := ih
    obtain ⟨larger, -, hlater⟩ := hfits.take step
    exact ⟨larger, hlater⟩
  | reconfigure hsession configuration ih =>
    obtain ⟨store, hfits⟩ := ih
    exact ⟨store, hfits.reconfigure configuration⟩
  | elapse hsession hlater ih =>
    obtain ⟨store, hfits⟩ := ih
    exact ⟨_, hfits.mono (store.le_elapse (hfits.next_eq ▸ hlater))⟩

/-- The session after several steps. -/
def takeAll (session : Session) (steps : List Step) : Session :=
  steps.foldl (fun session step => (session.take step).2) session

theorem Reachable.takeAll {session : Session} (hsession : Reachable session) (steps : List Step) :
    Reachable (session.takeAll steps) := by
  induction steps generalizing session with
  | nil => exact hsession
  | cons step rest ih => exact ih (hsession.take step)

/-- A predicate that was built in a session, however its subtrees are shared, means the same after
its negations are pushed down. -/
theorem Reachable.evaluate_pushDown {session : Session} (hsession : Reachable session)
    {name : String} {predicate : Predicate}
    (hname : session.nodes.get? name = some (.predicate predicate)) (bindings : Bindings) :
    (predicate.pushDown session.next).1.evaluate bindings = predicate.evaluate bindings := by
  obtain ⟨store, hfits⟩ := hsession.exists_store
  obtain ⟨larger, -, -, -, hpushed⟩ := predicate.exists_store_pushDown store (hfits.nodes hname)
  rw [hfits.next_eq]
  exact hpushed.evaluate_eq bindings

/-- A comparison that stands under one negation and, in the same tree, under two. -/
def sharedComparison : Session :=
  (start ⟨.empty, .postgres, .distribute⟩).takeAll
    [.make (.path ⟨"user", "u"⟩ "age") "age",
      .make (.literal (.integer 3) none) "three",
      .make (.comparison "age" "three" (some .lessThan)) "less",
      .make (.negation "less") "notLess",
      .make (.junction "notLess" .and "less") "both",
      .make (.negation "both") "root"]

theorem evaluate_pushDown_sharedComparison :
    let age : Scalar := ⟨0, .any, none, .path ⟨"user", "u"⟩ "age"⟩
    let less : Predicate :=
      .comparison 2 age .lessThan (.scalar ⟨1, .bigint, none, .literal (.integer 3)⟩)
    let root : Predicate := .negation 5 (.junction 4 (.negation 3 less) .and less)
    let bindings := Bindings.empty.withPath "u" "age" (.float .nan)
    sharedComparison.nodes.get? "root" = some (.predicate root) ∧
      (root.pushDown sharedComparison.next).1.evaluate bindings = .unknown := by
  have hname : sharedComparison.nodes.get? "root" = some (.predicate _) := rfl
  refine ⟨hname, ?_⟩
  exact (((Reachable.start _).takeAll _).evaluate_pushDown hname _).trans (by decide)

end Session

end QueryModel
