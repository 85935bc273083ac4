import Formula.Function
import Formula.Proofs.Operator.Scale
import Mathlib.Data.Set.List

set_option autoImplicit false

/-!
# The first extreme parameter

The standard functions compute all of their parameters, from left to right, before they look at any
value. So a fault of a parameter goes before a text, whichever stands first, and a text goes before
the lack of parameters. Of numbers, the first one that no other exceeds is returned as it is,
neither rounded nor with another scale. As a number it does not depend on the order of the
parameters.

## Main definitions

* `Formula.Function.IsFirst` — a number is the first of a list that is in order with all of them.
* `Formula.Function.Seeks` — the linear order in which a number that compares as wanted is replaced.
* `Formula.Function.Selects` — what a function returns that selects such a number.

## Main results

* `Formula.Deferred.forceAll_eq_ok_iff`, `forceAll_of_fault` — parameters that are all computed, and
  the first fault.
* `Formula.Function.isFirst_extremum` — the number that is found in one pass is the first one.
* `Formula.Function.minimum_maximum_select` — the two standard functions.
-/

namespace Formula

/-! ## Parameters that are computed -/

namespace Deferred

/-- **All parameters are computed** if each of them has a value. -/
theorem forceAll_eq_ok_iff {parameters : List Deferred} {values : List Value} :
    forceAll parameters = .ok values ↔ parameters.map force = values.map .ok := by
  induction parameters generalizing values with
  | nil => cases values <;> simp [forceAll]
  | cons parameter rest ih =>
    rw [forceAll, List.map_cons]
    cases parameter.force with
    | error fault => cases values <;> simp
    | ok value =>
      cases values with
      | nil => simp [Fault.map_eq_ok_iff]
      | cons first others =>
        simp only [Fault.map_eq_ok_iff, List.map_cons, List.cons.injEq, Except.ok.injEq, ih]
        constructor
        · rintro ⟨values, forced, rfl, rfl⟩
          exact ⟨rfl, forced⟩
        · rintro ⟨rfl, forced⟩
          exact ⟨others, forced, rfl, rfl⟩

/-- **The first parameter that fails** ends the computation with its fault. -/
theorem forceAll_of_fault {front rest : List Deferred} {failing : Deferred} {fault : Fault}
    (computed : ∀ parameter ∈ front, ∃ value, parameter.force = .ok value)
    (fails : failing.force = .error fault) :
    forceAll (front ++ failing :: rest) = .error fault := by
  induction front with
  | nil => simp [forceAll, fails]
  | cons parameter front ih =>
    obtain ⟨⟨value, forced⟩, others⟩ := List.forall_mem_cons.1 computed
    rw [List.cons_append, forceAll, forced, ih others]
    rfl

end Deferred

namespace Function

variable {name : String} {wanted : Ordering} {parameters : List Deferred}
  {context : NumericContext}

/-- A text among the values is refused, whatever the other values are. -/
lemma numbers_of_text {values : List Value} {written : String} (member : .text written ∈ values) :
    numbers name values = .error (.textParameter name) := by
  induction values with
  | nil => cases member
  | cons value rest ih =>
    cases value with
    | text => rfl
    | decimal number =>
      have later : .text written ∈ rest := by simpa using member
      rw [numbers, ih later]
      rfl

/-- Values among which there is no text are numbers. -/
lemma numbers_eq_ok_iff {values : List Value} {results : List Decimal} :
    numbers name values = .ok results ↔ values = results.map .decimal := by
  induction values generalizing results with
  | nil => cases results <;> simp [numbers]
  | cons value rest ih =>
    cases value with
    | text => cases results <;> simp [numbers]
    | decimal number =>
      rw [numbers, Fault.map_eq_ok_iff]
      cases results with
      | nil => simp
      | cons first others =>
        simp only [List.map_cons, List.cons.injEq, Value.decimal.injEq, ih]
        constructor
        · rintro ⟨results, same, rfl, rfl⟩
          exact ⟨rfl, same⟩
        · rintro ⟨rfl, same⟩
          exact ⟨others, same, rfl, rfl⟩

/-- **An extreme is found exactly among numbers**, of which there must be one. -/
lemma extreme_eq_ok_iff {result : Value} :
    extreme name wanted parameters context = .ok result ↔
      ∃ first rest, parameters.map Deferred.force =
          (first :: rest).map (fun number => .ok (.decimal number)) ∧
        result = .decimal (extremum wanted first rest) := by
  have values (results : List Decimal) : parameters.map Deferred.force =
      results.map (fun number => .ok (.decimal number)) ↔
        ∃ values, Deferred.forceAll parameters = .ok values ∧
          numbers name values = .ok results := by
    simp only [Deferred.forceAll_eq_ok_iff, numbers_eq_ok_iff]
    constructor
    · intro forced
      exact ⟨results.map .decimal, by simp [forced], rfl⟩
    · rintro ⟨_, forced, rfl⟩
      simp [forced]
  simp only [values, extreme, Fault.bind_eq_ok_iff]
  constructor
  · rintro ⟨values, forced, results, taken, returned⟩
    cases results with
    | nil => cases returned
    | cons first rest =>
      obtain rfl := Except.ok.inj returned
      exact ⟨first, rest, ⟨values, forced, taken⟩, rfl⟩
  · rintro ⟨first, rest, ⟨values, forced, taken⟩, rfl⟩
    exact ⟨values, forced, first :: rest, taken, rfl⟩

/-! ## The first one -/

variable {order : ℚ → ℚ → Prop} {numbers : List Decimal} {best : Decimal}

/-- A number is the first of a list that is in order with all of them: no number in front of it
is. -/
def IsFirst (order : ℚ → ℚ → Prop) (numbers : List Decimal) (best : Decimal) : Prop :=
  ∃ front rest, numbers = front ++ best :: rest ∧
    (∀ number ∈ numbers, order best.toRat number.toRat) ∧
      ∀ earlier ∈ front, ∃ number ∈ numbers, ¬ order earlier.toRat number.toRat

/-- A number compares as wanted with another one just when that one is not in order with it, and the
order is linear. -/
structure Seeks (wanted : Ordering) (order : ℚ → ℚ → Prop) : Prop where
  replaces : ∀ a b : Decimal, a.compare b = wanted ↔ ¬ order b.toRat a.toRat
  total : ∀ x y, order x y ∨ order y x
  trans : ∀ {x y z}, order x y → order y z → order x z
  antisymm : ∀ {x y}, order x y → order y x → x = y

/-- The search that keeps the smaller one seeks a least number. -/
lemma seeks_least : Seeks .lt (· ≤ ·) where
  replaces a b := by rw [Decimal.compare_eq, compare_lt_iff_lt, not_le]
  total := le_total
  trans := le_trans
  antisymm := le_antisymm

/-- The search that keeps the greater one seeks a greatest number. -/
lemma seeks_greatest : Seeks .gt (· ≥ ·) where
  replaces a b := by rw [Decimal.compare_eq, compare_gt_iff_gt, ge_iff_le, not_le]
  total x y := le_total y x
  trans first second := le_trans second first
  antisymm first second := le_antisymm second first

namespace IsFirst

/-- The first extreme is one of the numbers. -/
lemma mem (isFirst : IsFirst order numbers best) : best ∈ numbers := by
  obtain ⟨front, rest, rfl, -⟩ := isFirst
  simp

/-- The first extreme is in order with every number. -/
lemma inOrder (isFirst : IsFirst order numbers best) {number : Decimal}
    (member : number ∈ numbers) : order best.toRat number.toRat := by
  obtain ⟨front, rest, -, least, -⟩ := isFirst
  exact least number member

/-- Another number in front is not the first one if it is not in order with the first one. -/
lemma cons (isFirst : IsFirst order numbers best) {number : Decimal}
    (inOrder : order best.toRat number.toRat) (apart : ¬ order number.toRat best.toRat) :
    IsFirst order (number :: numbers) best := by
  have member := isFirst.mem
  obtain ⟨front, rest, rfl, least, earlier⟩ := isFirst
  refine ⟨number :: front, rest, rfl, List.forall_mem_cons.2 ⟨inOrder, least⟩, ?_⟩
  refine List.forall_mem_cons.2 ⟨⟨best, List.mem_cons_of_mem _ member, apart⟩, ?_⟩
  intro other inFront
  obtain ⟨exceeded, among, apart⟩ := earlier other inFront
  exact ⟨exceeded, List.mem_cons_of_mem _ among, apart⟩

/-- A number behind another one that is in order with it is not the first one. -/
lemma insert (seeks : Seeks wanted order) {first number : Decimal}
    (isFirst : IsFirst order (first :: numbers) best) (inOrder : order first.toRat number.toRat) :
    IsFirst order (first :: number :: numbers) best := by
  obtain ⟨front, rest, split, least, earlier⟩ := isFirst
  obtain ⟨leastFirst, leastOthers⟩ := List.forall_mem_cons.1 least
  have leastAll : ∀ other ∈ first :: number :: numbers, order best.toRat other.toRat := by
    refine List.forall_mem_cons.2 ⟨leastFirst, List.forall_mem_cons.2 ⟨?_, leastOthers⟩⟩
    exact seeks.trans leastFirst inOrder
  have among : ∀ other ∈ first :: numbers, other ∈ first :: number :: numbers := by
    intro other member
    rw [List.mem_cons] at member ⊢
    exact member.imp_right (List.mem_cons_of_mem _)
  cases front with
  | nil =>
    obtain ⟨rfl, rfl⟩ := List.cons.inj split
    exact ⟨[], number :: numbers, rfl, leastAll, by simp⟩
  | cons other front =>
    obtain ⟨rfl, rfl⟩ := List.cons.inj split
    obtain ⟨⟨exceeded, member, apart⟩, others⟩ := List.forall_mem_cons.1 earlier
    refine ⟨first :: number :: front, rest, rfl, leastAll, ?_⟩
    refine List.forall_mem_cons.2 ⟨⟨exceeded, among _ member, apart⟩, ?_⟩
    refine List.forall_mem_cons.2 ⟨⟨exceeded, among _ member, ?_⟩, ?_⟩
    · exact fun ordered => apart (seeks.trans inOrder ordered)
    · intro other inFront
      obtain ⟨exceeded, member, apart⟩ := others other inFront
      exact ⟨exceeded, among _ member, apart⟩

end IsFirst

/-- **The number that is found in one pass is the first one.**

**Proof sketch.** Induction on the numbers that are left. A number that takes the place of the best
one is in order with all that follow, which the best one before is not. A number that does not is
passed over, since the best one is in order with it. -/
theorem isFirst_extremum (seeks : Seeks wanted order) (best : Decimal) (numbers : List Decimal) :
    IsFirst order (best :: numbers) (extremum wanted best numbers) := by
  induction numbers generalizing best with
  | nil =>
    have reflexive : order best.toRat best.toRat := or_self_iff.1 (seeks.total _ _)
    exact ⟨[], [], rfl, by simpa [extremum] using reflexive, by simp⟩
  | cons number rest ih =>
    rw [extremum, List.foldl_cons]
    by_cases taken : number.compare best = wanted
    · rw [if_pos (beq_iff_eq.2 taken)]
      have apart : ¬ order best.toRat number.toRat := (seeks.replaces _ _).1 taken
      have first := (ih number).inOrder List.mem_cons_self
      refine (ih number).cons ?_ fun ordered => apart (seeks.trans ordered first)
      exact seeks.trans first ((seeks.total _ _).resolve_left apart)
    · rw [if_neg (by simpa using taken)]
      have inOrder : order best.toRat number.toRat := by
        by_contra apart
        exact taken ((seeks.replaces _ _).2 apart)
      exact (ih best).insert seeks inOrder

/-- **The extreme of the same parameters in another order** is the same number.

**Proof sketch.** Each of the two numbers is the value of a parameter, so it is in order with the
other one. -/
lemma extreme_of_perm (seeks : Seeks wanted order) {others : List Deferred}
    (permuted : parameters.Perm others) {result : Decimal}
    (returned : extreme name wanted parameters context = .ok (.decimal result)) :
    ∃ same, extreme name wanted others context = .ok (.decimal same) ∧ same.SameNumber result := by
  obtain ⟨first, rest, forced, isResult⟩ := extreme_eq_ok_iff.1 returned
  obtain rfl := Value.decimal.inj isResult
  have computed : others.map Deferred.force ∈
      Set.range (List.map fun number => (.ok (.decimal number) : Outcome)) := by
    rw [Set.range_list_map, Set.mem_ofPred_eq]
    intro outcome member
    rw [← (permuted.map Deferred.force).mem_iff, forced] at member
    obtain ⟨number, -, isOutcome⟩ := List.mem_map.1 member
    exact ⟨number, isOutcome⟩
  obtain ⟨numbers, forcedOthers⟩ := computed
  have same : ∀ number, number ∈ numbers ↔ number ∈ first :: rest := by
    intro number
    have outcomes := (permuted.map Deferred.force).mem_iff (a := .ok (.decimal number))
    rw [forced, ← forcedOthers] at outcomes
    simpa [eq_comm] using outcomes.symm
  cases numbers with
  | nil => exact absurd ((same first).2 List.mem_cons_self) (by simp)
  | cons firstOther restOther =>
    refine ⟨extremum wanted firstOther restOther,
      extreme_eq_ok_iff.2 ⟨firstOther, restOther, forcedOthers.symm, rfl⟩, ?_⟩
    have isFirst := isFirst_extremum seeks first rest
    have isFirstOther := isFirst_extremum seeks firstOther restOther
    exact seeks.antisymm (isFirstOther.inOrder ((same _).2 isFirst.mem))
      (isFirst.inOrder ((same _).1 isFirstOther.mem))

/-! ## The standard functions -/

/-- What a function returns that computes all of its parameters and selects the first number that is
in order with all of them. -/
structure Selects (function : Function) (order : ℚ → ℚ → Prop) : Prop where
  /-- The first parameter that fails decides, whatever the others are. -/
  failed : ∀ (context : NumericContext) (front rest : List Deferred) (failing : Deferred)
    (fault : Fault), (∀ parameter ∈ front, ∃ value, parameter.force = .ok value) →
    failing.force = .error fault →
    function.apply (front ++ failing :: rest) context = .error fault
  /-- A text among the values is refused, and its type is named. -/
  text : ∀ (context : NumericContext) (parameters : List Deferred) (values : List Value)
    (written : String), parameters.map Deferred.force = values.map .ok → .text written ∈ values →
    ∃ fault, function.apply parameters context = .error fault ∧ fault.kind = .function ∧
      fault.message =
        s!"'{function.name}' requires numeric parameters, got {(Value.text written).kind.name}"
  /-- There must be a parameter. -/
  empty : ∀ context : NumericContext,
    ∃ fault, function.apply [] context = .error fault ∧ fault.kind = .function ∧
      fault.message = s!"'{function.name}' requires at least one parameter"
  /-- Of numbers the first one that is in order with all of them is returned, with its scale. -/
  number : ∀ (context : NumericContext) (parameters : List Deferred) (numbers : List Decimal),
    parameters.map Deferred.force = numbers.map (fun number => .ok (.decimal number)) →
    numbers ≠ [] →
    ∃ best, function.apply parameters context = .ok (.decimal best) ∧ IsFirst order numbers best
  /-- In any order of the parameters the result is the same number. -/
  permuted : ∀ (context : NumericContext) (parameters others : List Deferred) (result : Decimal),
    parameters.Perm others → function.apply parameters context = .ok (.decimal result) →
    ∃ same, function.apply others context = .ok (.decimal same) ∧ same.SameNumber result

/-- **A function that returns an extreme selects the first one.** -/
lemma selects_extreme (seeks : Seeks wanted order) (name : String) (arity : Arity) :
    Selects ⟨name, arity, extreme name wanted⟩ order where
  failed context front rest failing fault computed fails := by
    dsimp only
    rw [extreme, Deferred.forceAll_of_fault computed fails]
    rfl
  text context parameters values written forced member := by
    refine ⟨.textParameter name, ?_, rfl, rfl⟩
    dsimp only
    rw [extreme, Deferred.forceAll_eq_ok_iff.2 forced, Fault.ok_bind, numbers_of_text member]
    rfl
  empty context := ⟨.noParameters name, rfl, rfl, rfl⟩
  number context parameters numbers forced some := by
    obtain ⟨first, rest, rfl⟩ := List.exists_cons_of_ne_nil some
    dsimp only
    exact ⟨extremum wanted first rest, extreme_eq_ok_iff.2 ⟨first, rest, forced, rfl⟩,
      isFirst_extremum seeks first rest⟩
  permuted context parameters others result permuted returned := by
    dsimp only at returned ⊢
    exact extreme_of_perm seeks permuted returned

/-- **The standard functions select the first extreme parameter.** In every context the fault of the
first parameter that fails goes before the refusal of a text, and this before the lack of
parameters. Otherwise the result is the first parameter that is not above any parameter, or not
below any, just as it is. As a number it is the same in any order of the parameters. -/
theorem minimum_maximum_select : minimum.Selects (· ≤ ·) ∧ maximum.Selects (· ≥ ·) :=
  ⟨selects_extreme seeks_least "min" .variadic, selects_extreme seeks_greatest "max" .variadic⟩

/-- A parameter that fails behind a text, and of three numbers the second one, which is equal to the
last one and has another scale. -/
theorem minimum_maximum_select_tie :
    let failing : Deferred := Thunk.mk fun _ => .error .divisionByZero
    let numbers : List Decimal := [⟨2, 0⟩, ⟨150, 2⟩, ⟨15, 1⟩]
    let parameters := numbers.map fun number => Deferred.ready (.decimal number)
    minimum.apply [.ready (.text "'a'"), failing] .decimal32 = .error .divisionByZero ∧
      (∃ best, minimum.apply parameters .decimal32 = .ok (.decimal best) ∧
        IsFirst (· ≤ ·) numbers best) ∧
      minimum.apply parameters .decimal32 = .ok (.decimal ⟨150, 2⟩) ∧
      ∃ same, minimum.apply parameters.reverse .decimal32 = .ok (.decimal same) ∧
        same.SameNumber ⟨150, 2⟩ := by
  intro failing numbers parameters
  have selects := minimum_maximum_select.1
  have returned : minimum.apply parameters .decimal32 = .ok (.decimal ⟨150, 2⟩) := by rfl
  have computed : ∀ parameter ∈ [Deferred.ready (.text "'a'")],
      ∃ value, parameter.force = .ok value := List.forall_mem_singleton.2 ⟨_, rfl⟩
  exact ⟨selects.failed .decimal32 [.ready (.text "'a'")] [] failing .divisionByZero computed rfl,
    selects.number .decimal32 parameters numbers rfl (by decide), returned,
    selects.permuted .decimal32 parameters parameters.reverse ⟨150, 2⟩
      (List.reverse_perm parameters).symm returned⟩

end Function

end Formula
