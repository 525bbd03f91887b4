import Mathlib.Logic.ExistsUnique
import Mathlib.Tactic.Tauto
import FormValidation.Value.Comparison

/-!
# Laws of comparisons

Any two values of one kind have an order (`Value.exists_compare?`), and this order is total.  So the outcome
of a comparison is a matter of how the values of its texts are ordered (`Locale.compare_of_ne_range`,
`Locale.compare_range`), and the operators are related as they are for numbers (`Locale.comparisonLaws`).
-/

namespace FormValidation

/-! ## The order of values -/

/-- The first component in which instants differ decides, which is an order. -/
instance : Std.TransCmp Instant.compare :=
  inferInstanceAs <| Std.TransCmp <|
    compareLex (compareOn Instant.year) <| compareLex (compareOn Instant.month) <|
      compareLex (compareOn Instant.day) <| compareLex (compareOn Instant.hour) <|
        compareLex (compareOn Instant.minute) (compareOn Instant.second)

instance : Std.TransCmp Binary64.compare :=
  inferInstanceAs (Std.TransCmp (compareOn Binary64.key))

namespace Value

variable {x y z : Value}

def kind : Value → ValueKind
  | .int _ => .int
  | .float _ => .float
  | .date _ => .date

/-- What is read as a value of a kind is of that kind. -/
theorem kind_of_read? {l : Locale} {k : ValueKind} {text : String} (h : read? l k text = some x) :
    x.kind = k := by
  cases k <;> rcases Option.map_eq_some_iff.1 h with ⟨v, -, rfl⟩ <;> rfl

/-- Values of one kind have an order. -/
theorem exists_compare? (h : x.kind = y.kind) : ∃ o, x.compare? y = some o :=
  match x, y, h with
  | .int _, .int _, _ => ⟨_, rfl⟩
  | .float _, .float _, _ => ⟨_, rfl⟩
  | .date _, .date _, _ => ⟨_, rfl⟩

theorem compare?_swap (x y : Value) : y.compare? x = (x.compare? y).map Ordering.swap := by
  cases x <;> cases y <;> try rfl
  case int.int => exact congrArg some Std.OrientedCmp.eq_swap
  case float.float => exact congrArg some Std.OrientedCmp.eq_swap
  case date.date => exact congrArg some Std.OrientedCmp.eq_swap

theorem isLE_compare?_trans {o o' : Ordering} (hxy : x.compare? y = some o)
    (hyz : y.compare? z = some o') (ho : o.isLE = true) (ho' : o'.isLE = true) :
    ∃ o'', x.compare? z = some o'' ∧ o''.isLE = true :=
  match x, y, z, hxy, hyz with
  | .int _, .int _, .int _, rfl, rfl => ⟨_, rfl, Std.TransCmp.isLE_trans ho ho'⟩
  | .float _, .float _, .float _, rfl, rfl => ⟨_, rfl, Std.TransCmp.isLE_trans ho ho'⟩
  | .date _, .date _, .date _, rfl, rfl => ⟨_, rfl, Std.TransCmp.isLE_trans ho ho'⟩

end Value

/-! ## The order of texts -/

namespace Locale

variable {l : Locale} {kind : ValueKind} {a b m : String}

/-- The order of the values that two texts spell, if both spell one. -/
def order? (l : Locale) (kind : ValueKind) (a b : String) : Option Ordering := do
  let x ← Value.read? l kind a
  let y ← Value.read? l kind b
  x.compare? y

theorem order?_eq_some_iff {o : Ordering} :
    l.order? kind a b = some o ↔
      ∃ x y, Value.read? l kind a = some x ∧ Value.read? l kind b = some y ∧ x.compare? y = some o := by
  simp only [order?, Option.bind_eq_bind, Option.bind_eq_some_iff]
  constructor
  · rintro ⟨x, hx, y, hy, ho⟩
    exact ⟨x, y, hx, hy, ho⟩
  · rintro ⟨x, y, hx, hy, ho⟩
    exact ⟨x, hx, y, hy, ho⟩

theorem exists_compare?_of_read? {l' : Locale} {x y : Value} (hx : Value.read? l kind a = some x)
    (hy : Value.read? l' kind b = some y) : ∃ o, x.compare? y = some o :=
  Value.exists_compare? ((Value.kind_of_read? hx).trans (Value.kind_of_read? hy).symm)

/-- Two texts have no order only if one of them spells no value. -/
theorem order?_eq_none_iff :
    l.order? kind a b = none ↔ Value.read? l kind a = none ∨ Value.read? l kind b = none := by
  cases hx : Value.read? l kind a with
  | none => simp [order?, hx]
  | some x =>
      cases hy : Value.read? l kind b with
      | none => simp [order?, hx, hy]
      | some y =>
          rcases exists_compare?_of_read? hx hy with ⟨o, hxy⟩
          simp [order?, hx, hy, hxy]

theorem order?_swap (l : Locale) (kind : ValueKind) (a b : String) :
    l.order? kind b a = (l.order? kind a b).map Ordering.swap := by
  cases hx : Value.read? l kind a <;> cases hy : Value.read? l kind b <;> simp [order?, hx, hy]
  exact Value.compare?_swap _ _

theorem isLE_order?_trans {c : String} {o o' : Ordering} (hab : l.order? kind a b = some o)
    (hbc : l.order? kind b c = some o') (ho : o.isLE = true) (ho' : o'.isLE = true) :
    ∃ o'', l.order? kind a c = some o'' ∧ o''.isLE = true := by
  rcases order?_eq_some_iff.1 hab with ⟨x, y, hx, hy, hxy⟩
  rcases order?_eq_some_iff.1 hbc with ⟨y', z, hy', hz, hyz⟩
  obtain rfl : y = y' := Option.some.inj (hy.symm.trans hy')
  rcases Value.isLE_compare?_trans hxy hyz ho ho' with ⟨o'', hxz, ho''⟩
  exact ⟨o'', order?_eq_some_iff.2 ⟨x, z, hx, hz, hxz⟩, ho''⟩

end Locale

/-! ## Outcomes -/

namespace Outcome

/-- The outcome of a comparison that has a verdict if all that it needs could be read. -/
def ofVerdict (verdict : Option Bool) : Outcome :=
  (verdict.map ofBool).getD .invalid

variable {verdict : Option Bool}

theorem ofVerdict_eq_passed_iff : ofVerdict verdict = .passed ↔ verdict = some true := by
  rcases verdict with _ | _ | _ <;> decide

theorem ofVerdict_eq_failed_iff : ofVerdict verdict = .failed ↔ verdict = some false := by
  rcases verdict with _ | _ | _ <;> decide

theorem ofVerdict_eq_invalid_iff : ofVerdict verdict = .invalid ↔ verdict = none := by
  rcases verdict with _ | _ | _ <;> decide

end Outcome

namespace Operator

/-- Whether an operator without an upper bound holds for an order. -/
def accepts (op : Operator) (order : Ordering) : Bool :=
  (op.holds order none).getD false

theorem holds_of_ne_range {op : Operator} (h : op ≠ .range) (order : Ordering)
    (orderToMax : Option Ordering) : op.holds order orderToMax = some (op.accepts order) := by
  cases op <;> first | exact absurd rfl h | rfl

theorem holds_range (order orderToMax : Ordering) :
    Operator.range.holds order (some orderToMax) = some (order.isGE && orderToMax.isLE) := by
  cases order <;> rfl

/-- Of less, equal and greater, exactly one operator accepts an order. -/
theorem existsUnique_accepts (o : Ordering) :
    ∃! op, op ∈ [Operator.lessThan, .equal, .greaterThan] ∧ op.accepts o = true := by
  have hunique : ∀ op ∈ [Operator.lessThan, .equal, .greaterThan],
      ∀ op' ∈ [Operator.lessThan, .equal, .greaterThan],
        op.accepts o = true → op'.accepts o = true → op' = op := by
    cases o <;> decide
  obtain ⟨op, hop, haccepts⟩ :
      ∃ op ∈ [Operator.lessThan, .equal, .greaterThan], op.accepts o = true := by
    cases o <;> decide
  exact ⟨op, ⟨hop, haccepts⟩, fun op' h => hunique op hop op' h.1 haccepts h.2⟩

end Operator

namespace Locale

variable {l : Locale} {kind : ValueKind} {a b m : String} {op op' : Operator} {max : Option String}

/-- The outcome of a comparison without an upper bound is a matter of the order of the two texts. -/
theorem compare_of_ne_range (hop : op ≠ .range) :
    l.compare kind a op b max = .ok (.ofVerdict ((l.order? kind a b).map op.accepts)) := by
  have hmax : l.maximum? kind op max = some none := by
    cases op <;> first | exact absurd rfl hop | rfl
  rw [compare, if_neg fun hrange => hop hrange.1, outcome, hmax]
  simp only [Operator.holds_of_ne_range hop]
  -- A text that cannot be read leaves no verdict, as it has no order.
  cases hx : Value.read? l kind a with
  | none => simp [order?, hx, Outcome.ofVerdict]
  | some x =>
      cases hy : Value.read? l kind b with
      | none => simp [order?, hx, hy, Outcome.ofVerdict]
      | some y => cases hxy : x.compare? y <;> simp [order?, hx, hy, hxy, Outcome.ofVerdict]

/-- The outcome of a range is a matter of how the text is ordered to the two bounds. -/
theorem compare_range :
    l.compare kind a .range b (some m) =
      .ok (.ofVerdict ((l.order? kind a b).bind fun o =>
        (l.order? kind a m).map fun o' => o.isGE && o'.isLE)) := by
  rw [compare, if_neg (by simp), outcome]
  -- The bound is read also where the first order decides, and makes the comparison invalid even there.
  cases hx : Value.read? l kind a with
  | none => simp [order?, hx, Outcome.ofVerdict]
  | some x =>
      cases hy : Value.read? l kind b with
      | none => simp [order?, hx, hy, Outcome.ofVerdict]
      | some y =>
          rcases exists_compare?_of_read? hx hy with ⟨o, hxy⟩
          cases hz : Value.read? l kind m with
          | none => simp [order?, maximum?, hx, hy, hz, hxy, Outcome.ofVerdict]
          | some z =>
              rcases exists_compare?_of_read? hx hz with ⟨o', hxz⟩
              simp [order?, maximum?, hx, hy, hz, hxy, hxz, Operator.holds_range, Outcome.ofVerdict]

theorem compare_eq_passed_iff (hop : op ≠ .range) :
    l.compare kind a op b max = .ok .passed ↔
      ∃ o, l.order? kind a b = some o ∧ op.accepts o = true := by
  rw [compare_of_ne_range hop, Except.ok.injEq, Outcome.ofVerdict_eq_passed_iff, Option.map_eq_some_iff]

theorem compare_eq_failed_iff (hop : op ≠ .range) :
    l.compare kind a op b max = .ok .failed ↔
      ∃ o, l.order? kind a b = some o ∧ op.accepts o = false := by
  rw [compare_of_ne_range hop, Except.ok.injEq, Outcome.ofVerdict_eq_failed_iff, Option.map_eq_some_iff]

theorem compare_eq_invalid_iff (hop : op ≠ .range) :
    l.compare kind a op b max = .ok .invalid ↔
      Value.read? l kind a = none ∨ Value.read? l kind b = none := by
  rw [compare_of_ne_range hop, Except.ok.injEq, Outcome.ofVerdict_eq_invalid_iff,
    Option.map_eq_none_iff, order?_eq_none_iff]

theorem compare_range_eq_passed_iff :
    l.compare kind a .range b (some m) = .ok .passed ↔
      ∃ o o', l.order? kind a b = some o ∧ l.order? kind a m = some o' ∧
        o.isGE = true ∧ o'.isLE = true := by
  simp only [compare_range, Except.ok.injEq, Outcome.ofVerdict_eq_passed_iff, Option.bind_eq_some_iff,
    Option.map_eq_some_iff, Bool.and_eq_true, exists_and_left]

theorem compare_range_eq_invalid_iff :
    l.compare kind a .range b (some m) = .ok .invalid ↔
      Value.read? l kind a = none ∨ Value.read? l kind b = none ∨ Value.read? l kind m = none := by
  rw [compare_range, Except.ok.injEq, Outcome.ofVerdict_eq_invalid_iff]
  have hnone : ((l.order? kind a b).bind fun o => (l.order? kind a m).map fun o' => o.isGE && o'.isLE) =
      none ↔ l.order? kind a b = none ∨ l.order? kind a m = none := by
    cases l.order? kind a b <;> simp
  rw [hnone, order?_eq_none_iff, order?_eq_none_iff]
  tauto

/-- Exchanging the texts of a comparison exchanges the orders that its operator accepts. -/
theorem compare_swap (hop : op ≠ .range) (hop' : op' ≠ .range)
    (hswap : ∀ o : Ordering, op'.accepts o.swap = op.accepts o) (max : Option String) :
    l.compare kind a op b max = l.compare kind b op' a max := by
  rw [compare_of_ne_range hop, compare_of_ne_range hop', order?_swap l kind a b]
  cases l.order? kind a b with
  | none => rfl
  | some o => simp [hswap]

/-- An operator passes where another one fails if it accepts the orders that the other one does not. -/
theorem compare_eq_passed_iff_failed (hop : op ≠ .range) (hop' : op' ≠ .range)
    (hnot : ∀ o : Ordering, op.accepts o = !op'.accepts o) (max : Option String) :
    l.compare kind a op b max = .ok .passed ↔ l.compare kind a op' b max = .ok .failed := by
  simp only [compare_eq_passed_iff hop, compare_eq_failed_iff hop', hnot, Bool.not_eq_true']

/-- Only a range without an upper bound is refused, whatever the texts are. -/
theorem compare_eq_error_iff {op : Operator} {max : Option String} {e : Error} :
    l.compare kind a op b max = .error e ↔
      op = .range ∧ max = none ∧ e = .missingAttribute kind.name "comparemaxvalue" := by
  unfold compare
  by_cases h : op = .range ∧ max = none
  · simp [h, eq_comm]
  · simp only [if_neg h]
    constructor
    · rintro ⟨⟩
    · rintro ⟨hop, hmax, -⟩
      exact absurd ⟨hop, hmax⟩ h

/-! ## Laws -/

/-- How the outcomes of comparisons of two texts, and of one text with two bounds, are related. -/
structure ComparisonLaws (l : Locale) (kind : ValueKind) (a b : String) : Prop where
  /-- Comparisons are refused for a range without an upper bound, and for nothing else. -/
  error_iff : ∀ op max e, l.compare kind a op b max = .error e ↔
    op = .range ∧ max = none ∧ e = .missingAttribute kind.name "comparemaxvalue"
  /-- Without a use for an upper bound, only the two texts can make a comparison invalid. -/
  invalid_iff : ∀ op ≠ .range, ∀ max, l.compare kind a op b max = .ok .invalid ↔
    Value.read? l kind a = none ∨ Value.read? l kind b = none
  range_invalid_iff : ∀ m, l.compare kind a .range b (some m) = .ok .invalid ↔
    Value.read? l kind a = none ∨ Value.read? l kind b = none ∨ Value.read? l kind m = none
  /-- An upper bound without a use changes nothing. -/
  max_unused : ∀ op ≠ .range, ∀ max max', l.compare kind a op b max = l.compare kind a op b max'
  /-- Values of one kind have an order, under whatever locales they were read. -/
  ordered : ∀ l' x y, Value.read? l kind a = some x → Value.read? l' kind b = some y →
    ∃ o, x.compare? y = some o
  /-- Of two values the first is either less than the second, equal to it or greater. -/
  trichotomy : Value.read? l kind a ≠ none → Value.read? l kind b ≠ none → ∀ max,
    ∃! op, op ∈ [Operator.lessThan, .equal, .greaterThan] ∧ l.compare kind a op b max = .ok .passed
  notEqual_iff : ∀ max, l.compare kind a .notEqual b max = .ok .passed ↔
    l.compare kind a .equal b max = .ok .failed
  greaterThanEqual_iff : ∀ max, l.compare kind a .greaterThanEqual b max = .ok .passed ↔
    l.compare kind a .lessThan b max = .ok .failed
  lessThanEqual_iff : ∀ max, l.compare kind a .lessThanEqual b max = .ok .passed ↔
    l.compare kind a .greaterThan b max = .ok .failed
  lessThan_swap : ∀ max, l.compare kind a .lessThan b max = l.compare kind b .greaterThan a max
  lessThanEqual_swap : ∀ max, l.compare kind a .lessThanEqual b max =
    l.compare kind b .greaterThanEqual a max
  equal_swap : ∀ max, l.compare kind a .equal b max = l.compare kind b .equal a max
  notEqual_swap : ∀ max, l.compare kind a .notEqual b max = l.compare kind b .notEqual a max
  /-- A value is in a range if it is not below the one bound and not above the other. -/
  range_iff : ∀ m max max', l.compare kind a .range b (some m) = .ok .passed ↔
    l.compare kind a .greaterThanEqual b max = .ok .passed ∧
      l.compare kind a .lessThanEqual m max' = .ok .passed
  /-- A range that holds a value has its bounds in order. -/
  bounds_of_range : ∀ m max, l.compare kind a .range b (some m) = .ok .passed →
    l.compare kind b .lessThanEqual m max = .ok .passed

theorem comparisonLaws (l : Locale) (kind : ValueKind) (a b : String) : l.ComparisonLaws kind a b where
  error_iff _ _ _ := compare_eq_error_iff
  invalid_iff _ hop _ := compare_eq_invalid_iff hop
  range_invalid_iff _ := compare_range_eq_invalid_iff
  max_unused _ hop _ _ := by rw [compare_of_ne_range hop, compare_of_ne_range hop]
  ordered _ _ _ := exists_compare?_of_read?
  trichotomy ha hb max := by
    obtain ⟨o, ho⟩ : ∃ o, l.order? kind a b = some o := by
      refine Option.ne_none_iff_exists'.1 fun hnone => ?_
      exact (order?_eq_none_iff.1 hnone).elim ha hb
    have hpassed : ∀ op ∈ [Operator.lessThan, .equal, .greaterThan],
        (l.compare kind a op b max = .ok .passed ↔ op.accepts o = true) := by
      intro op hop
      have hrange : op ≠ .range := by rintro rfl; revert hop; decide
      rw [compare_eq_passed_iff hrange, ho]
      simp
    refine (existsUnique_congr fun op => and_congr_right (hpassed op)).2 (Operator.existsUnique_accepts o)
  notEqual_iff := compare_eq_passed_iff_failed (by decide) (by decide) (by decide)
  greaterThanEqual_iff := compare_eq_passed_iff_failed (by decide) (by decide) (by decide)
  lessThanEqual_iff := compare_eq_passed_iff_failed (by decide) (by decide) (by decide)
  lessThan_swap := compare_swap (by decide) (by decide) (by decide)
  lessThanEqual_swap := compare_swap (by decide) (by decide) (by decide)
  equal_swap := compare_swap (by decide) (by decide) (by decide)
  notEqual_swap := compare_swap (by decide) (by decide) (by decide)
  range_iff m max max' := by
    rw [compare_range_eq_passed_iff, compare_eq_passed_iff (by decide), compare_eq_passed_iff (by decide)]
    constructor
    · rintro ⟨o, o', ho, ho', hge, hle⟩
      exact ⟨⟨o, ho, hge⟩, o', ho', hle⟩
    · rintro ⟨⟨o, ho, hge⟩, o', ho', hle⟩
      exact ⟨o, o', ho, ho', hge, hle⟩
  bounds_of_range m max h := by
    rcases compare_range_eq_passed_iff.1 h with ⟨o, o', ho, ho', hge, hle⟩
    have hlower : l.order? kind b a = some o.swap := by rw [order?_swap, ho]; rfl
    exact (compare_eq_passed_iff (by decide)).2 (isLE_order?_trans hlower ho' (by simpa using hge) hle)

theorem comparisonLaws_decimalComma :
    Value.read? fr .float "2,50" ≠ none ∧ Value.read? fr .float "2.5" ≠ none ∧
      (∃! op, op ∈ [Operator.lessThan, .equal, .greaterThan] ∧
        fr.compare .float "2,50" op "2.5" none = .ok .passed) ∧
      fr.compare .float "2,50" .range "2.5" (some "1000") = .ok .passed ∧
      fr.compare .float "2.5" .lessThanEqual "1000" none = .ok .passed := by
  have hvalue : Value.read? fr .float "2,50" ≠ none := by decide +kernel
  have hoperand : Value.read? fr .float "2.5" ≠ none := by decide +kernel
  have hrange : fr.compare .float "2,50" .range "2.5" (some "1000") = .ok .passed := by
    have houtcome : fr.outcome .float "2,50" .range "2.5" (some "1000") = .passed := by decide +kernel
    rw [compare, if_neg (by simp), houtcome]
  have hlaws := comparisonLaws fr .float "2,50" "2.5"
  exact ⟨hvalue, hoperand, hlaws.trichotomy hvalue hoperand none, hrange,
    hlaws.bounds_of_range "1000" none hrange⟩

end Locale
end FormValidation
