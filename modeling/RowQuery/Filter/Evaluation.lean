import RowQuery.Filter.Like
import RowQuery.Filter.Predicate
import RowQuery.Schema

/-!
# Which rows a predicate holds on

`Predicate.eval` goes through a predicate and a row. A comparison holds only if the two values have
an order, so never on an empty cell, except that `is null` asks for just that; an operand that does
not suit its operator makes it false, and so does a text that is no pattern. How a pattern is
matched is left open: `Predicate.holds` reads the pattern where it meets it, and a `Matcher` reads
all patterns of its predicate once and looks them up.
-/

namespace RowQuery

open Like (Pattern)

/-- Whether an order is "at most". -/
def atMost : Option Ordering → Bool
  | some .lt | some .eq => true
  | _ => false

/-- Whether an order is "at least". -/
def atLeast : Option Ordering → Bool
  | some .gt | some .eq => true
  | _ => false

/-- Whether a value matches a pattern, given how texts are matched. Only a text is a pattern. -/
def matchValue (like : String → List Char → Bool) (v pattern : Value) : Bool :=
  match v.bare?, pattern with
  | some s, .text p => like p s
  | _, _ => false

/-- Whether a comparison holds on a row, or another answer if its operand does not suit its
    operator. -/
def Comparison.evalOr (fallback : Bool) (like : String → List Char → Bool) (c : Comparison)
    (row : Row) : Bool :=
  let v := row.value c.column
  match c.operator, c.operand with
  | .is, .scalar .null => v.isNull
  | .is, .scalar w | .eq, .scalar w => v.compare? w == some .eq
  | .gt, .scalar w => v.compare? w == some .gt
  | .gte, .scalar w => atLeast (v.compare? w)
  | .lt, .scalar w => v.compare? w == some .lt
  | .lte, .scalar w => atMost (v.compare? w)
  | .isIn, .list ws => ws.any fun w => v.compare? w == some .eq
  | .between, .range low high => atLeast (v.compare? low) && atMost (v.compare? high)
  | .like, .scalar w => matchValue like v w
  | .like, .list ws => ws.any (matchValue like v)
  | _, _ => fallback

/-- Whether a comparison holds on a row. -/
def Comparison.eval (like : String → List Char → Bool) (c : Comparison) (row : Row) : Bool :=
  c.evalOr false like row

namespace Predicate

/-- Whether a predicate holds on a row, given how texts are matched. -/
def eval (like : String → List Char → Bool) (row : Row) : Predicate → Bool
  | compare c => c.eval like row
  | and l r => l.eval like row && r.eval like row
  | or l r => l.eval like row || r.eval like row
  | not p => !p.eval like row

/-- Whether a predicate holds on a row. -/
def holds (p : Predicate) (row : Row) : Bool :=
  p.eval (fun pattern s => ((Pattern.read? pattern.toList).map (·.accepts s)).getD false) row

end Predicate

/-- The texts among values. -/
def textsOf (vs : List Value) : List String :=
  vs.filterMap fun v => match v with
    | .text s => some s
    | _ => none

/-- The patterns that a comparison matches against. -/
def Comparison.patterns (c : Comparison) : List String :=
  match c.operator, c.operand with
  | .like, .scalar v => textsOf [v]
  | .like, .list vs => textsOf vs
  | _, _ => []

/-- The patterns that a predicate matches against. -/
def Predicate.patterns : Predicate → List String
  | compare c => c.patterns
  | and l r | or l r => l.patterns ++ r.patterns
  | not p => p.patterns

/-- A predicate made ready for many rows: its patterns are read once. -/
structure Matcher where
  predicate : Predicate
  patterns : Named Pattern

namespace Matcher

/-- Makes a predicate ready. -/
def ofPredicate (p : Predicate) : Matcher :=
  let add (patterns : Named Pattern) (s : String) :=
    match Pattern.read? s.toList with
    | some pattern => patterns.insert s pattern
    | none => patterns
  ⟨p, p.patterns.foldl add ∅⟩

/-- Whether a row satisfies the predicate. A text that is no pattern matches nothing. -/
def accepts (m : Matcher) (row : Row) : Bool :=
  m.predicate.eval (fun pattern s => ((m.patterns.get? pattern).map (·.accepts s)).getD false) row

/-- The rows that satisfy the predicate. -/
def filter (m : Matcher) (rows : List Row) : List Row :=
  rows.filter m.accepts

end Matcher

end RowQuery
