import LinkObservatory.Checked

namespace LinkObservatory
set_option autoImplicit true

/-- An absolute instant in nanoseconds since the Unix epoch. -/
structure TimePoint where
  nanos : Int64 := 0
deriving DecidableEq, Repr, Inhabited

/-- A signed span of time in nanoseconds. -/
structure Duration where
  nanos : Int64 := 0
deriving DecidableEq, Repr, Inhabited

def Duration.fromSeconds (value : Int64) : Duration := ⟨value * 1000000000⟩

/-- Signed difference between two instants; `none` stands for an overflow. -/
def difference (later earlier : TimePoint) : Option Duration :=
  (checkedSubI64 later.nanos earlier.nanos).map Duration.mk

def advance (origin : TimePoint) (delta : Duration) : Option TimePoint :=
  (checkedAddI64 origin.nanos delta.nanos).map TimePoint.mk

theorem difference_some (h : difference later earlier = some d) :
    d.nanos.toInt = later.nanos.toInt - earlier.nanos.toInt := by
  obtain ⟨v, hv, rfl⟩ := Option.map_eq_some_iff.1 h
  exact checkedSubI64_some hv

/-- The instants whose distance the checked subtraction cannot compute. -/
theorem difference_eq_none (later earlier : TimePoint) :
    difference later earlier = none ↔
      earlier.nanos = Int64.minValue ∨ later.nanos.toInt - earlier.nanos.toInt < -2 ^ 63 ∨
        2 ^ 63 ≤ later.nanos.toInt - earlier.nanos.toInt := by
  rw [difference, Option.map_eq_none_iff, checkedSubI64_eq_none]

end LinkObservatory
