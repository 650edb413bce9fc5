import RemoteNotes.Time.Instant

/-!
# Instants on one scale

Outside of leap seconds, instants are numbers of nanoseconds since the start of 1970. They are
compared as these numbers are (`lt_iff`), and a second holds those that start with its number.
-/

namespace RemoteNotes.Time.Instant

/-- Less than a second past its second, so that it is in no leap second. -/
def IsPlain (t : Instant) : Prop := t.nanos < nanosPerSecond

instance (t : Instant) : Decidable t.IsPlain := inferInstanceAs (Decidable (_ < _))

/-- Nanoseconds since the start of 1970. -/
def sinceEpoch (t : Instant) : Int := t.seconds * nanosPerSecond + t.nanos

variable {a b t : Instant}

theorem lt_iff (ha : a.IsPlain) (hb : b.IsPlain) :
    a.lt b = true ↔ a.sinceEpoch < b.sinceEpoch := by
  simp only [lt, sinceEpoch, Bool.or_eq_true, Bool.and_eq_true, decide_eq_true_eq, beq_iff_eq]
  unfold IsPlain nanosPerSecond at *
  omega

def startOf (second : Int) : Instant := ⟨second, 0⟩

theorem isPlain_startOf (s : Int) : (startOf s).IsPlain := show 0 < nanosPerSecond by decide

/-- A second starts before an instant just if it is one of those before the rounded instant. -/
theorem startOf_lt_iff (hb : b.IsPlain) (s : Int) :
    (startOf s).sinceEpoch < b.sinceEpoch ↔ s < b.ceilSeconds := by
  simp only [startOf, sinceEpoch, ceilSeconds]
  unfold IsPlain nanosPerSecond at *
  split <;> omega

theorem le_startOf (ha : a.IsPlain) {s : Int} (h : a.seconds < s) :
    a.sinceEpoch ≤ (startOf s).sinceEpoch := by
  simp only [startOf, sinceEpoch]
  unfold IsPlain nanosPerSecond at *
  omega

theorem seconds_le (hb : b.IsPlain) (h : a.sinceEpoch ≤ b.sinceEpoch) : a.seconds ≤ b.seconds := by
  unfold IsPlain sinceEpoch nanosPerSecond at *
  omega

theorem startOf_le (t : Instant) : (startOf t.seconds).sinceEpoch ≤ t.sinceEpoch := by
  simp only [startOf, sinceEpoch]
  omega

end RemoteNotes.Time.Instant
