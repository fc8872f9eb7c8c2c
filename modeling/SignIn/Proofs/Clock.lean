import SignIn.Clock

/-! The instants that have a date. -/

namespace SignIn

namespace Instant

/-- The calendar has a date for it. -/
def InCalendar (t : Int) : Prop := earliest ≤ t ∧ t ≤ latest

instance (t : Int) : Decidable (InCalendar t) := inferInstanceAs (Decidable (_ ∧ _))

theorem toInt_ofInt_seconds {t : Int} (h : InCalendar t) : (Int64.ofInt (seconds t)).toInt = seconds t := by
  obtain ⟨h1, h2⟩ := h
  unfold earliest at h1
  unfold latest at h2
  apply Int64.toInt_ofInt_of_le
  · unfold seconds
    omega
  · unfold seconds
    omega

theorem after?_of_inCalendar {t d : Int} (h : InCalendar (t + d)) : after? t d = some (t + d) := if_pos h

end Instant
end SignIn
