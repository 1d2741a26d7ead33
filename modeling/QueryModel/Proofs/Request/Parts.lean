import QueryModel.Proofs.Json.Within
import QueryModel.Request.Reading
import QueryModel.Request.Writing

/-! # Conditions and operands are read back

What has been read of a value is written as a value that is read alike: with what was left out
spelled out, what is not known gone, members in their order and scalars in canonical form. It is
nested no deeper than the value that was read, so that a reader goes along with it again.
-/

namespace QueryModel.Request

open Json

/-! ## Members -/

section members

variable {members : List (String × Json)} {name : String} {value : Json}

theorem mem_of_optionalMember? (hvalue : optionalMember? members name = some (some value)) :
    (name, value) ∈ members := by
  unfold optionalMember? at hvalue
  split at hvalue
  · cases hvalue
  · next member hmembers =>
    cases hvalue
    have hmember : member ∈ members.filter fun member => member.1 == name := by simp [hmembers]
    obtain ⟨hmem, hname⟩ := List.mem_filter.mp hmember
    rwa [← eq_of_beq hname]
  · cases hvalue

theorem mem_of_member? (hvalue : member? members name = some value) : (name, value) ∈ members := by
  obtain ⟨held, hheld, rfl⟩ := Option.bind_eq_some_iff.mp hvalue
  exact mem_of_optionalMember? hheld

end members

variable {α : Type} {property : Number → Prop} {depth : Nat}

/-- `IsReadBack read property depth value written`: the written value is read as what it was written
for, is nested no deeper than allowed, and its numbers have the property. -/
structure IsReadBack (read : Json → Option α) (property : Number → Prop) (depth : Nat) (value : α)
    (written : Json) : Prop where
  read_eq : read written = some value
  isWithin : written.IsWithin property depth

/-- The members of an object are nested at most so deep, and their numbers have the property. -/
def AreWithin (property : Number → Prop) (depth : Nat) (members : List (String × Json)) : Prop :=
  ∀ name value, member? members name = some value → value.IsWithin property depth

/-- The members of a tagged value are nested less deep than the value, whether it is an object or an
array. -/
theorem areWithin_of_tagged? {kinds : List Kind} {nested : Bool} {value : Json} {kind : String}
    {members : List (String × Json)} (htagged : tagged? kinds nested value = some (kind, members))
    (hvalue : value.IsWithin property depth) :
    ∃ inner, depth = inner + 1 ∧ AreWithin property inner members := by
  unfold tagged? at htagged
  split at htagged
  · next known =>
    obtain ⟨inner, rfl, hmembers⟩ := hvalue.exists_depth_of_object
    simp only [Option.bind_eq_bind, Option.bind_eq_some_iff] at htagged
    obtain ⟨tag, -, found, -, htagged⟩ := htagged
    cases htagged
    exact ⟨inner, rfl, fun name held hheld => hmembers _ (mem_of_member? hheld)⟩
  · next tag values =>
    obtain ⟨inner, rfl, hitems⟩ := hvalue.exists_depth_of_array
    obtain ⟨found, -, htagged⟩ := Option.bind_eq_some_iff.mp htagged
    split at htagged
    · cases htagged
      refine ⟨inner, rfl, fun name held hheld => ?_⟩
      obtain ⟨-, hmem⟩ := List.of_mem_zip (mem_of_member? hheld)
      exact hitems held (List.mem_cons_of_mem _ hmem)
    · cases htagged
  · cases htagged

/-- A member that is read is read back if every value is. -/
theorem IsReadBack.of_member {read : Json → Option α} {toJson : α → Json}
    {members : List (String × Json)} {name : String} {value : α}
    (hmembers : AreWithin property depth members)
    (hread : (member? members name).bind read = some value)
    (hback : ∀ held, read held = some value → held.IsWithin property depth →
      IsReadBack read property depth value (toJson value)) :
    IsReadBack read property depth value (toJson value) := by
  obtain ⟨held, hheld, hvalue⟩ := Option.bind_eq_some_iff.mp hread
  exact hback held hvalue (hmembers name held hheld)

theorem mapM_eq_some {read : Json → Option α} {toJson : α → Json} {items : List Json}
    {values : List α} (hread : items.mapM read = some values)
    (hback : ∀ item ∈ items, ∀ value, read item = some value →
      IsReadBack read property depth value (toJson value)) :
    (values.map toJson).mapM read = some values ∧
      ∀ written ∈ values.map toJson, written.IsWithin property depth := by
  induction items generalizing values with
  | nil =>
    cases hread
    exact ⟨rfl, nofun⟩
  | cons item rest ih =>
    simp only [List.mapM_cons, Option.bind_eq_bind, Option.bind_eq_some_iff] at hread
    obtain ⟨value, hvalue, others, hothers, hread⟩ := hread
    cases hread
    obtain ⟨hitem, hrest⟩ := List.forall_mem_cons.mp hback
    obtain ⟨hwritten, hwithin⟩ := hitem value hvalue
    obtain ⟨hrestWritten, hrestWithin⟩ := ih hothers hrest
    refine ⟨?_, List.forall_mem_cons.mpr ⟨hwithin, hrestWithin⟩⟩
    simp [hwritten, hrestWritten]

/-- The items of a member that is an array are read back if every value is. -/
theorem mapM_isReadBack {read : Json → Option α} {toJson : α → Json}
    {members : List (String × Json)} {name : String} {items : List Json} {values : List α}
    (hmembers : AreWithin property depth members)
    (hitems : (member? members name).bind items? = some items)
    (hread : items.mapM read = some values)
    (hback : ∀ item inner value, read item = some value → item.IsWithin property inner →
      IsReadBack read property inner value (toJson value)) :
    IsReadBack (fun value => (items? value).bind fun items => items.mapM read) property depth values
      (.array (values.map toJson)) := by
  obtain ⟨held, hheld, hitems⟩ := Option.bind_eq_some_iff.mp hitems
  have hwithin := hmembers name held hheld
  cases held with
  | array known =>
    cases hitems
    obtain ⟨inner, rfl, hknown⟩ := hwithin.exists_depth_of_array
    obtain ⟨hback, hwritten⟩ := mapM_eq_some hread fun item hitem value hvalue =>
      hback item inner value hvalue (hknown item hitem)
    exact ⟨hback, .array hwritten⟩
  | _ => cases hitems

/-! ## Operands -/

theorem operandsToJson_eq (operands : List Operand) :
    operandsToJson operands = operands.map Operand.toJson := by
  induction operands with
  | nil => rfl
  | cons operand rest ih => rw [operandsToJson, ih, List.map_cons]

theorem parameter_isReadBack {value : Json} {parameter : Parameter}
    (hread : parameter? value = some parameter) (hvalue : value.IsWithin property depth) :
    IsReadBack parameter? property depth parameter (parameterJson parameter) := by
  unfold parameter? at hread
  split at hread
  · next name =>
    cases hread
    exact ⟨rfl, hvalue⟩
  · next n =>
    split at hread
    · next hposition =>
      cases hread
      have hn : (n.toNat : Int) = n := Int.toNat_of_nonneg hposition.1
      have hjson : parameterJson (.positional n.toNat) =
          .object [("positional", .number (.integer n))] := by
        rw [parameterJson, Json.singleton, Json.ofNat, hn]
      rw [hjson]
      exact ⟨by rw [parameter?, if_pos hposition], hvalue⟩
    · cases hread
  · cases hread

theorem operand_isReadBack {fuel : Nat} {value : Json} {operand : Operand}
    (hread : operand? fuel value = some operand) (hvalue : value.IsWithin property depth) :
    IsReadBack (operand? fuel) property depth operand operand.toJson := by
  induction fuel generalizing value operand depth with
  | zero => cases hread
  | succ fuel ih =>
    simp only [operand?, Option.bind_eq_bind] at hread
    obtain ⟨⟨kind, members⟩, htagged, hread⟩ := Option.bind_eq_some_iff.mp hread
    obtain ⟨inner, rfl, hmembers⟩ := areWithin_of_tagged? htagged hvalue
    dsimp only at hread
    split at hread
    · -- column
      simp only [Option.bind_eq_some_iff] at hread
      obtain ⟨name, -, aliasName, -, hread⟩ := hread
      cases hread
      cases aliasName with
      | none =>
        exact ⟨rfl, .object (by simp [aliasMembers, IsWithin.string])⟩
      | some aliasName =>
        exact ⟨rfl, .object (by simp [aliasMembers, IsWithin.string])⟩
    · -- scalar: what is read is canonical, and stays as it is when it is read again
      simp only [Option.bind_eq_some_iff] at hread
      obtain ⟨scalar, hscalar, hread⟩ := hread
      cases hread
      have hwithin := hmembers "value" scalar hscalar
      have hsame := hwithin.canonical_canonical
      exact ⟨congrArg (fun value => some (Operand.scalar value)) hsame,
        .object (by simp [IsWithin.string, hwithin.canonical])⟩
    · -- parameter
      obtain ⟨parameter, hparameter, hread⟩ := Option.bind_eq_some_iff.mp hread
      cases hread
      obtain ⟨hback, hwithin⟩ := IsReadBack.of_member hmembers hparameter fun held =>
        parameter_isReadBack
      exact ⟨congrArg (Option.bind · fun parameter => some (Operand.parameter parameter)) hback,
        .object (by simp [IsWithin.string, hwithin])⟩
    · -- list
      obtain ⟨items, hitems, hread⟩ := Option.bind_eq_some_iff.mp hread
      obtain ⟨operands, hoperands, hread⟩ := Option.bind_eq_some_iff.mp hread
      cases hread
      obtain ⟨hback, hwithin⟩ := mapM_isReadBack hmembers hitems hoperands
        fun item inner operand => ih
      rw [Operand.toJson, operandsToJson_eq]
      exact ⟨congrArg (Option.bind · fun operands => some (Operand.list operands)) hback,
        .object (by simp [IsWithin.string, hwithin])⟩
    · cases hread

theorem operand_member_isReadBack {fuel : Nat} {members : List (String × Json)} {name : String}
    {operand : Operand} (hmembers : AreWithin property depth members)
    (hread : (member? members name).bind (operand? fuel) = some operand) :
    IsReadBack (operand? fuel) property depth operand operand.toJson :=
  .of_member hmembers hread fun _ => operand_isReadBack

/-! ## Conditions -/

theorem conditionsToJson_eq (conditions : List Condition) :
    conditionsToJson conditions = conditions.map Condition.toJson := by
  induction conditions with
  | nil => rfl
  | cons condition rest ih => rw [conditionsToJson, ih, List.map_cons]

/-- The fuel that was enough to read a condition is enough to read it back, and it is read back
inside a condition as well as outside: tags are written as names. -/
theorem condition_isReadBack {fuel : Nat} {nested : Bool} {value : Json} {condition : Condition}
    (hread : condition? fuel nested value = some condition) (hvalue : value.IsWithin property depth)
    (again : Bool) :
    IsReadBack (condition? fuel again) property depth condition condition.toJson := by
  induction fuel generalizing nested value condition depth again with
  | zero => cases hread
  | succ fuel ih =>
    simp only [condition?, Option.bind_eq_bind] at hread
    obtain ⟨⟨kind, members⟩, htagged, hread⟩ := Option.bind_eq_some_iff.mp hread
    obtain ⟨inner, rfl, hmembers⟩ := areWithin_of_tagged? htagged hvalue
    dsimp only at hread
    split at hread
    · -- and
      obtain ⟨items, hitems, hread⟩ := Option.bind_eq_some_iff.mp hread
      obtain ⟨conditions, hconditions, hread⟩ := Option.bind_eq_some_iff.mp hread
      cases hread
      obtain ⟨hback, hwithin⟩ := mapM_isReadBack hmembers hitems hconditions
        fun item inner condition hcondition hitem => ih hcondition hitem true
      rw [Condition.toJson, conditionsToJson_eq]
      exact ⟨congrArg (Option.bind · fun conditions => some (Condition.and conditions)) hback,
        .object (by simp [IsWithin.string, hwithin])⟩
    · -- or
      obtain ⟨items, hitems, hread⟩ := Option.bind_eq_some_iff.mp hread
      obtain ⟨conditions, hconditions, hread⟩ := Option.bind_eq_some_iff.mp hread
      cases hread
      obtain ⟨hback, hwithin⟩ := mapM_isReadBack hmembers hitems hconditions
        fun item inner condition hcondition hitem => ih hcondition hitem true
      rw [Condition.toJson, conditionsToJson_eq]
      exact ⟨congrArg (Option.bind · fun conditions => some (Condition.or conditions)) hback,
        .object (by simp [IsWithin.string, hwithin])⟩
    · -- not
      obtain ⟨condition, hcondition, hread⟩ := Option.bind_eq_some_iff.mp hread
      cases hread
      obtain ⟨hback, hwithin⟩ := IsReadBack.of_member hmembers hcondition fun held hheld hwithin =>
        ih hheld hwithin true
      exact ⟨congrArg (Option.bind · fun condition => some (Condition.not condition)) hback,
        .object (by simp [IsWithin.string, hwithin])⟩
    · -- comparison
      obtain ⟨left, hleft, hread⟩ := Option.bind_eq_some_iff.mp hread
      obtain ⟨operator, -, hread⟩ := Option.bind_eq_some_iff.mp hread
      obtain ⟨right, hright, hread⟩ := Option.bind_eq_some_iff.mp hread
      cases hread
      obtain ⟨hleft, hleftWithin⟩ := operand_member_isReadBack hmembers hleft
      obtain ⟨hright, hrightWithin⟩ := operand_member_isReadBack hmembers hright
      refine ⟨?_, .object (by simp [IsWithin.string, hleftWithin, hrightWithin])⟩
      change (operand? fuel left.toJson).bind _ = _
      rw [hleft]
      change (Operator.ofName? operator.name).bind _ = _
      rw [Operator.ofName?_name]
      change (operand? fuel right.toJson).bind _ = _
      rw [hright]
      rfl
    · -- nullness
      obtain ⟨operand, hoperand, hread⟩ := Option.bind_eq_some_iff.mp hread
      obtain ⟨negated, -, hread⟩ := Option.bind_eq_some_iff.mp hread
      cases hread
      obtain ⟨hback, hwithin⟩ := operand_member_isReadBack hmembers hoperand
      exact ⟨congrArg (Option.bind · fun operand => some (Condition.isNull operand negated)) hback,
        .object (by simp [IsWithin.string, IsWithin.boolean, hwithin])⟩
    · -- between
      obtain ⟨operand, hoperand, hread⟩ := Option.bind_eq_some_iff.mp hread
      obtain ⟨lower, hlower, hread⟩ := Option.bind_eq_some_iff.mp hread
      obtain ⟨upper, hupper, hread⟩ := Option.bind_eq_some_iff.mp hread
      obtain ⟨negated, -, hread⟩ := Option.bind_eq_some_iff.mp hread
      cases hread
      obtain ⟨hback, hwithin⟩ := operand_member_isReadBack hmembers hoperand
      obtain ⟨hlower, hlowerWithin⟩ := operand_member_isReadBack hmembers hlower
      obtain ⟨hupper, hupperWithin⟩ := operand_member_isReadBack hmembers hupper
      refine ⟨?_, .object (by
        simp [IsWithin.string, IsWithin.boolean, hwithin, hlowerWithin, hupperWithin])⟩
      change (operand? fuel operand.toJson).bind _ = _
      rw [hback]
      change (operand? fuel lower.toJson).bind _ = _
      rw [hlower]
      change (operand? fuel upper.toJson).bind _ = _
      rw [hupper]
      rfl
    · cases hread

end QueryModel.Request
