import RowQuery.Value.Basic

/-!
# The order of values

Two values are compared one way round as the other, whatever they are. Values that have an order are
in order transitively, with one exception: an integer is compared with a float as the float nearest
to it, so that two integers that come to the same float are both equal to it, but not to each other.

Floats that are numbers are ordered by a *place*: infinity, or not; the exponent; the digits.

* `Value.compareFloats?_eq`: the order of floats as that of their places;
* `Value.compare?_swap`: two values the other way round;
* `Value.compare?_eq_some_iff`: the values that have an order, and which;
* `Value.exists_compare?_trans`: three values in order.
-/

namespace RowQuery

open Float.Model (UnpackedFloat)

/-! ## Floats -/

/-- The place of a number in the order of floats: whether it is below zero or infinite, and the
    exponent and the digits of what is neither zero nor infinite. -/
def floatPlace? : UnpackedFloat → Option (Int × Int × Int)
  | .notANumber => none
  | .infinity .negative => some (-2, 0, 0)
  | .finite .negative digits exponent _ => some (-1, -exponent, -digits)
  | .zero _ => some (0, 0, 0)
  | .finite .positive digits exponent _ => some (1, exponent, digits)
  | .infinity .positive => some (2, 0, 0)

/-- The order of places: by their parts, from the first on. -/
def comparePlaces : Int × Int × Int → Int × Int × Int → Ordering :=
  compareLex (compareOn (·.1)) (compareLex (compareOn (·.2.1)) (compareOn (·.2.2)))

instance : Std.TransCmp comparePlaces :=
  inferInstanceAs (Std.TransCmp (compareLex _ _))

theorem compare_neg_neg (a b : Int) : compare (-a) (-b) = (compare a b).swap := by
  have hself : ∀ c : Int, compare c c = .eq := fun _ => Std.ReflCmp.compare_self
  rcases Int.lt_trichotomy a b with h | rfl | h
  · rw [Std.compare_eq_gt.2 (Int.neg_lt_neg h), Std.compare_eq_lt.2 h]
    rfl
  · rw [hself, hself]
    rfl
  · rw [Std.compare_eq_lt.2 (Int.neg_lt_neg h), Std.compare_eq_gt.2 h]
    rfl

theorem compare_natCast (a b : Nat) : compare (a : Int) (b : Int) = compare a b := by
  simp only [compare, compareOfLessAndEq, Int.ofNat_lt, Int.natCast_inj]

theorem compare_eq_places (x y : UnpackedFloat) : x.compare y =
    (floatPlace? x).bind fun p => (floatPlace? y).map (comparePlaces p) := by
  cases x with
  | notANumber => rfl
  | infinity s =>
    cases s <;> cases y with
    | notANumber => rfl
    | infinity s' => cases s' <;> rfl
    | zero _ => rfl
    | finite s' _ _ _ => cases s' <;> rfl
  | zero s =>
    cases y with
    | notANumber => rfl
    | infinity s' => cases s' <;> rfl
    | zero _ => rfl
    | finite s' _ _ _ => cases s' <;> rfl
  | finite s m e hm =>
    cases y with
    | notANumber => cases s <;> rfl
    | infinity s' => cases s <;> cases s' <;> rfl
    | zero _ => cases s <;> rfl
    | finite s' m' e' hm' =>
      cases s <;> cases s'
      · show some _ = some ((compare (-e) (-e')).then (compare (-(m : Int)) (-(m' : Int))))
        rw [compare_neg_neg, compare_neg_neg, compare_natCast, Ordering.swap_then]
      · rfl
      · rfl
      · show some _ = some ((compare e e').then (compare (m : Int) (m' : Int)))
        rw [compare_natCast]

theorem compare_swap (x y : UnpackedFloat) : y.compare x = (x.compare y).map Ordering.swap := by
  rw [compare_eq_places, compare_eq_places]
  cases floatPlace? x with
  | none => cases floatPlace? y <;> rfl
  | some p =>
    cases floatPlace? y with
    | none => rfl
    | some q => exact congrArg some Std.OrientedCmp.eq_swap

namespace Value

/-- Two floats are compared by their places. -/
theorem compareFloats?_eq (x y : Float) :
    compareFloats? x y = x.toModel.unpack.compare y.toModel.unpack := by
  have hlt : ∀ x y : Float, x < y ↔ x.toModel.unpack.compare y.toModel.unpack = some .lt :=
    fun x y => decide_eq_true_iff.trans beq_iff_eq
  have heq : (x == y) = true ↔ x.toModel.unpack.compare y.toModel.unpack = some .eq := by
    show (x.toModel.unpack.compare y.toModel.unpack == some .eq) = true ↔ _
    exact beq_iff_eq
  rw [compareFloats?]
  simp only [hlt, heq, compare_swap x.toModel.unpack]
  generalize x.toModel.unpack.compare y.toModel.unpack = order?
  rcases order? with _ | (_ | _ | _) <;> rfl

theorem compareFloats?_swap (x y : Float) :
    compareFloats? y x = (compareFloats? x y).map Ordering.swap := by
  rw [compareFloats?_eq, compareFloats?_eq, compare_swap]

/-- The values before and behind one that is between them are in order. -/
theorem ne_gt_trans {α : Type} {cmp : α → α → Ordering} [Std.TransCmp cmp] {a b c : α}
    (hab : cmp a b ≠ .gt) (hbc : cmp b c ≠ .gt) : cmp a c ≠ .gt :=
  Ordering.isLE_iff_ne_gt.1 <|
    Std.TransCmp.isLE_trans (Ordering.isLE_iff_ne_gt.2 hab) (Ordering.isLE_iff_ne_gt.2 hbc)

theorem compareFloats?_trans {x y z : Float} {o o' : Ordering} (hxy : compareFloats? x y = some o)
    (ho : o ≠ .gt) (hyz : compareFloats? y z = some o') (ho' : o' ≠ .gt) :
    ∃ o'', compareFloats? x z = some o'' ∧ o'' ≠ .gt := by
  rw [compareFloats?_eq, compare_eq_places] at *
  obtain ⟨p, hp, hxy⟩ := Option.bind_eq_some_iff.1 hxy
  obtain ⟨q, hq, rfl⟩ := Option.map_eq_some_iff.1 hxy
  obtain ⟨q', hq', hyz⟩ := Option.bind_eq_some_iff.1 hyz
  obtain ⟨r, hr, rfl⟩ := Option.map_eq_some_iff.1 hyz
  cases hq.symm.trans hq'
  exact ⟨comparePlaces p r, by rw [hp, hr]; rfl, ne_gt_trans ho ho'⟩

/-! ## Values -/

/-- Two values the other way round. -/
theorem compare?_swap (v w : Value) : w.compare? v = (v.compare? w).map Ordering.swap := by
  cases v with
  | null => cases w <;> rfl
  | bool a => cases w with
    | bool b => exact congrArg some Std.OrientedCmp.eq_swap
    | _ => rfl
  | int a => cases w with
    | int b => exact congrArg some Std.OrientedCmp.eq_swap
    | float b => exact compareFloats?_swap _ _
    | _ => rfl
  | float a => cases w with
    | int b => exact compareFloats?_swap _ _
    | float b => exact compareFloats?_swap _ _
    | _ => rfl
  | text a => cases w with
    | text b => exact congrArg some Std.OrientedCmp.eq_swap
    | _ => rfl
  | date a => cases w with
    | date b => exact congrArg some Std.OrientedCmp.eq_swap
    | dateTime b => exact congrArg some Std.OrientedCmp.eq_swap
    | _ => rfl
  | dateTime a => cases w with
    | date b => exact congrArg some Std.OrientedCmp.eq_swap
    | dateTime b => exact congrArg some Std.OrientedCmp.eq_swap
    | _ => rfl

/-- What has an order is no null. -/
theorem isNull_of_compare? {v w : Value} {o : Ordering} (h : v.compare? w = some o) :
    v.isNull = false ∧ w.isNull = false := by
  cases v with
  | null => cases h
  | _ => cases w with
    | null => cases h
    | _ => exact ⟨rfl, rfl⟩

/-- Where a day or a time stands in the order of times. -/
def moment? : Value → Option Int
  | date d => some (Calendar.DateTime.midnight d).position
  | dateTime t => some t.position
  | _ => none

/-- The float that a number is compared as. -/
def number? : Value → Option Float
  | int i => some (Decimal.ofInt i)
  | float x => some x
  | _ => none

theorem number?_of_moment? {v : Value} {p : Int} (h : v.moment? = some p) : v.number? = none := by
  cases v with
  | date => rfl
  | dateTime => rfl
  | _ => cases h

/-- Days are in the order of their midnights. -/
theorem compare_midnight (a b : Calendar.Date) :
    compare (Calendar.DateTime.midnight a).position (Calendar.DateTime.midnight b).position =
      compare a.position b.position := by
  have hposition : ∀ d : Calendar.Date, (Calendar.DateTime.midnight d).position =
      d.position * 172800000000000 := by
    intro d
    simp only [Calendar.DateTime.position, Calendar.DateTime.midnight, Calendar.secondsPerDay,
      Calendar.nanosPerSecond]
    omega
  rw [hposition, hposition]
  simp only [compare, compareOfLessAndEq]
  grind

/-- Values that have an order, and which: both are truth values, integers, texts, numbers of which
    one is a float, or days and times. -/
inductive Ordered : Value → Value → Ordering → Prop
  | bool (a b : Bool) : Ordered (.bool a) (.bool b) (compare a b)
  | int (a b : Int) : Ordered (.int a) (.int b) (compare a b)
  | text (a b : String) : Ordered (.text a) (.text b) (compare a b)
  | numbers {v w : Value} {x y : Float} {o : Ordering} (hv : v.number? = some x)
      (hw : w.number? = some y) (hfloat : v.type? = some .float ∨ w.type? = some .float)
      (h : compareFloats? x y = some o) : Ordered v w o
  | moments {v w : Value} {p q : Int} (hv : v.moment? = some p) (hw : w.moment? = some q) :
      Ordered v w (compare p q)

variable {u v w : Value} {o o' : Ordering}

theorem compare?_eq_some_iff : v.compare? w = some o ↔ v.Ordered w o := by
  constructor
  · intro h
    cases v with
    | null => cases h
    | bool a => cases w with
      | bool b =>
        cases h
        exact .bool a b
      | _ => cases h
    | int a => cases w with
      | int b =>
        cases h
        exact .int a b
      | float b => exact .numbers rfl rfl (.inr rfl) h
      | _ => cases h
    | float a => cases w with
      | int b => exact .numbers rfl rfl (.inl rfl) h
      | float b => exact .numbers rfl rfl (.inl rfl) h
      | _ => cases h
    | text a => cases w with
      | text b =>
        cases h
        exact .text a b
      | _ => cases h
    | date a => cases w with
      | date b =>
        cases h
        rw [← compare_midnight]
        exact .moments rfl rfl
      | dateTime b =>
        cases h
        exact .moments rfl rfl
      | _ => cases h
    | dateTime a => cases w with
      | date b =>
        cases h
        exact .moments rfl rfl
      | dateTime b =>
        cases h
        exact .moments rfl rfl
      | _ => cases h
  · intro h
    cases h with
    | bool | int | text => rfl
    | numbers hv hw hfloat h =>
      cases v <;> cases hv <;> cases w <;> cases hw
      · rcases hfloat with hfloat | hfloat <;> cases hfloat
      · exact h
      · exact h
      · exact h
    | moments hv hw =>
      cases v <;> cases hv <;> cases w <;> cases hw
      · exact congrArg some (compare_midnight _ _).symm
      · rfl
      · rfl
      · rfl

/-- Whether two values, if they are integers, are in the order of the floats nearest to them. -/
def OrderedAsFloats (v w : Value) : Prop :=
  ∀ i j, v = .int i → w = .int j →
    compareFloats? (Decimal.ofInt i) (Decimal.ofInt j) = some (compare i j)

/-- Whether values, if there is a float among them, are in the order of floats. -/
def FloatsAgree (vs : List Value) : Prop :=
  ∀ x, .float x ∈ vs → ∀ v ∈ vs, ∀ w ∈ vs, OrderedAsFloats v w

theorem FloatsAgree.subset {vs ws : List Value} (h : FloatsAgree ws) (hsub : vs ⊆ ws) :
    FloatsAgree vs :=
  fun x hx v hv w hw => h x (hsub hx) v (hsub hv) w (hsub hw)

/-- Numbers that are in the order of their floats. -/
theorem ordered_iff_of_number? {x y : Float} (hv : v.number? = some x) (hw : w.number? = some y)
    (hfloats : v.OrderedAsFloats w) : v.Ordered w o ↔ compareFloats? x y = some o := by
  rw [← compare?_eq_some_iff]
  cases v with
  | int i => cases w with
    | int j =>
      cases hv
      cases hw
      rw [hfloats i j rfl rfl]
      rfl
    | float y =>
      cases hv
      cases hw
      rfl
    | _ => cases hw
  | float x => cases w with
    | int j =>
      cases hv
      cases hw
      rfl
    | float y =>
      cases hv
      cases hw
      rfl
    | _ => cases hw
  | _ => cases hv

/-- Three numbers of which the one in the middle is in order with both others are in order. -/
theorem exists_ordered_of_number? {x y z : Float} (hu : u.number? = some x)
    (hv : v.number? = some y) (hw : w.number? = some z)
    (hfloats : ∀ a ∈ [u, v, w], ∀ b ∈ [u, v, w], OrderedAsFloats a b)
    (huv : u.Ordered v o) (ho : o ≠ .gt) (hvw : v.Ordered w o') (ho' : o' ≠ .gt) :
    ∃ o'', u.Ordered w o'' ∧ o'' ≠ .gt := by
  have hxy := (ordered_iff_of_number? hu hv (hfloats u (by simp) v (by simp))).1 huv
  have hyz := (ordered_iff_of_number? hv hw (hfloats v (by simp) w (by simp))).1 hvw
  obtain ⟨o'', hxz, ho''⟩ := compareFloats?_trans hxy ho hyz ho'
  exact ⟨o'', (ordered_iff_of_number? hu hw (hfloats u (by simp) w (by simp))).2 hxz, ho''⟩

/-- Three values of which the one in the middle is in order with both others are in order. -/
theorem exists_compare?_trans (hfloats : FloatsAgree [u, v, w])
    (huv : u.compare? v = some o) (ho : o ≠ .gt) (hvw : v.compare? w = some o') (ho' : o' ≠ .gt) :
    ∃ o'', u.compare? w = some o'' ∧ o'' ≠ .gt := by
  simp only [compare?_eq_some_iff] at *
  have hasFloat : ∀ {a}, a ∈ [u, v, w] → a.type? = some .float →
      ∀ a ∈ [u, v, w], ∀ b ∈ [u, v, w], OrderedAsFloats a b := by
    intro a ha htype
    cases a with
    | float x => exact hfloats x ha
    | _ => cases htype
  cases huv with
  | bool a b => cases hvw with
    | bool _ c => exact ⟨_, .bool a c, ne_gt_trans ho ho'⟩
    | numbers hv => cases hv
    | moments hv => cases hv
  | text a b => cases hvw with
    | text _ c => exact ⟨_, .text a c, ne_gt_trans ho ho'⟩
    | numbers hv => cases hv
    | moments hv => cases hv
  | int a b => cases hvw with
    | int _ c => exact ⟨_, .int a c, ne_gt_trans ho ho'⟩
    | numbers hv hw hfloat h =>
      have hall := hfloat.elim (hasFloat (by simp)) (hasFloat (by simp))
      exact exists_ordered_of_number? rfl hv hw hall (.int a b) ho (.numbers hv hw hfloat h) ho'
    | moments hv => cases hv
  | numbers hu hv hfloat h =>
    have hall := hfloat.elim (hasFloat (by simp)) (hasFloat (by simp))
    have huv := Ordered.numbers hu hv hfloat h
    cases hvw with
    | bool => cases hv
    | text => cases hv
    | int b c => exact exists_ordered_of_number? hu hv rfl hall huv ho (.int b c) ho'
    | numbers hv' hw hfloat' h' =>
      exact exists_ordered_of_number? hu hv hw hall huv ho (.numbers hv' hw hfloat' h') ho'
    | moments hv' => exact absurd ((number?_of_moment? hv').symm.trans hv) nofun
  | moments hu hv => cases hvw with
    | bool => cases hv
    | int => cases hv
    | text => cases hv
    | numbers hv' => exact absurd ((number?_of_moment? hv).symm.trans hv') nofun
    | moments hv' hw =>
      cases hv.symm.trans hv'
      exact ⟨_, .moments hu hw, ne_gt_trans ho ho'⟩

end Value

end RowQuery
