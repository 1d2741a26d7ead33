import QueryModel.Planning.Plan
import QueryModel.Proofs.Query.Building
import QueryModel.Proofs.Query.Complement
import QueryModel.Proofs.Query.Copy

/-! # Passes over a tree

What is planned is a copy of what was prepared, with its negations where the configuration wants
them. Either pass builds nodes, extends the store it starts from, and leaves a predicate that has
the truth value of the one it was given.
-/

namespace QueryModel

namespace Building

variable {ε α : Type} {store : NodeStore}

/-- Copies under a context of their own extend the store as copies under any context do. -/
theorem extends_ofCopying {copying : Copying α} {made : α → NodeStore → Prop}
    (hcopying : ExtendsBy CopyState.Fits copying store made) :
    Extends (ofCopying copying : Building ε α) store made := by
  rintro _ rfl _ _ ⟨⟩
  have hfits : CopyState.Fits store ⟨store.next, .empty⟩ :=
    { next_eq := rfl
      context := CopyContext.fits_empty store }
  obtain ⟨larger, hle, hfits', hmade⟩ := hcopying _ hfits
  exact ⟨larger, hle, hfits'.next_eq.symm, hmade⟩

theorem extends_pushDown {predicate : Predicate} (hpredicate : Node.predicate predicate ∈ store) :
    Extends (pushDown predicate : Building ε Predicate) store fun made larger =>
      Node.predicate made ∈ larger ∧ Pushed predicate false made := by
  rintro _ rfl _ _ ⟨⟩
  exact predicate.exists_store_pushDown store hpredicate

end Building

/-- The truth value of the restriction of a statement. Without one, it holds. -/
def Statement.evaluate (bindings : Bindings) (statement : Statement) : Truth :=
  match statement.predicate with
  | none => .holds
  | some predicate => predicate.evaluate bindings

/-- `statement.Refines original`: the statement selects from the root of the original one, and its
restriction has the same truth value. -/
structure Statement.Refines (statement original : Statement) : Prop where
  root_eq : statement.root = original.root
  evaluate_eq : ∀ bindings, statement.evaluate bindings = original.evaluate bindings

namespace Statement.Refines

theorem trans {first second third : Statement} (hfirst : first.Refines second)
    (hsecond : second.Refines third) : first.Refines third where
  root_eq := hfirst.root_eq.trans hsecond.root_eq
  evaluate_eq bindings := (hfirst.evaluate_eq bindings).trans (hsecond.evaluate_eq bindings)

theorem of_anonymous_eq {statement original : Statement}
    (hsame : statement.anonymous = original.anonymous) : statement.Refines original := by
  obtain ⟨root, predicate⟩ := statement
  obtain ⟨otherRoot, other⟩ := original
  injection hsame with hroot hpredicate
  refine ⟨hroot, fun bindings => ?_⟩
  cases predicate with
  | none =>
    obtain rfl := Option.map_eq_none_iff.mp hpredicate.symm
    rfl
  | some predicate =>
    obtain ⟨original, rfl, hsame⟩ := Option.map_eq_some_iff.mp hpredicate.symm
    exact Predicate.evaluate_eq_of_anonymous_eq hsame.symm bindings

end Statement.Refines

/-- A strategy for negations keeps what a statement means. -/
theorem NegationStrategy.extends_applyTo {ε : Type} {store : NodeStore}
    (strategy : NegationStrategy) {statement : Statement}
    (hstatement : ∀ predicate ∈ statement.predicate, Node.predicate predicate ∈ store) :
    Building.Extends (strategy.applyTo statement : Building ε Statement) store
      fun result larger =>
        (∀ predicate ∈ result.predicate, Node.predicate predicate ∈ larger) ∧
          result.Refines statement := by
  have hsame : statement.Refines statement := ⟨rfl, fun _ => rfl⟩
  unfold applyTo
  split
  · exact ExtendsIfOk.pure ⟨hstatement, hsame⟩
  · exact ExtendsIfOk.pure ⟨hstatement, hsame⟩
  · next predicate hpredicate =>
    refine (Building.extends_pushDown (hstatement predicate hpredicate)).bind
      fun pushed larger _ ⟨hmem, hpushed⟩ => ExtendsIfOk.pure ⟨?_, rfl, fun bindings => ?_⟩
    · rintro _ ⟨⟩
      exact hmem
    · unfold Statement.evaluate
      rw [hpredicate]
      exact hpushed.evaluate_eq bindings

end QueryModel
