import RemoteNotes.Proofs.Instants
import RemoteNotes.Proofs.Session

/-!
# The end of a token

Instants are cut to whole seconds before the end of a token is compared with the time, so a
verdict is off by less than a second, and never on the side of a token that ends too soon
(`remaining_of_seconds_lt`, `remaining_of_seconds_le`). A token that a client finds valid lasts
longer than the margin (`verdict_margins`).
-/

namespace RemoteNotes

open Time

namespace Time.Instant

variable {a b : Instant} {margin : Nat}

/-- The nanoseconds that are left at `b` until `a`. -/
def remaining (a b : Instant) : Int := a.sinceEpoch - b.sinceEpoch

/-- The fraction of the second that has begun counts against the end. -/
theorem remaining_of_seconds_lt (hb : b.IsPlain) (h : b.seconds + margin < a.seconds) :
    margin * nanosPerSecond < a.remaining b := by
  unfold IsPlain remaining sinceEpoch nanosPerSecond at *
  omega

theorem remaining_of_seconds_le (ha : a.IsPlain) (h : a.seconds ≤ b.seconds + margin) :
    a.remaining b < (margin + 1) * nanosPerSecond := by
  unfold IsPlain remaining sinceEpoch nanosPerSecond at *
  omega

theorem seconds_le_of_le (h : a.le b = true) : a.seconds ≤ b.seconds := by
  simp only [le, lt, Bool.not_eq_true', Bool.or_eq_false_iff, decide_eq_false_iff_not] at h
  omega

end Time.Instant

namespace SessionToken

variable {t : SessionToken} {now later : Instant}

theorem isExpiredAt_eq_true :
    t.isExpiredAt now = true ↔ ∃ e ∈ t.expiresAt, e.seconds ≤ now.seconds + safetyMargin := by
  unfold isExpiredAt
  cases t.expiresAt <;> simp

theorem isExpiredAt_eq_false :
    t.isExpiredAt now = false ↔ ∀ e ∈ t.expiresAt, now.seconds + safetyMargin < e.seconds := by
  unfold isExpiredAt
  cases t.expiresAt <;> simp

theorem isExpiredAt_later (h : t.isExpiredAt now = true) (hle : now.le later = true) :
    t.isExpiredAt later = true := by
  obtain ⟨e, he, hend⟩ := isExpiredAt_eq_true.mp h
  have hseconds := Instant.seconds_le_of_le hle
  exact isExpiredAt_eq_true.mpr ⟨e, he, by omega⟩

/-- What the verdict on a token says about the time that it has left. -/
structure Margins (t : SessionToken) (now : Instant) : Prop where
  unexpired : t.isExpiredAt now = false → ∀ e ∈ t.expiresAt, 60 * nanosPerSecond < e.remaining now
  expired : t.isExpiredAt now = true → ∃ e ∈ t.expiresAt, e.remaining now < 61 * nanosPerSecond
  forGood : t.isExpiredAt now = true → ∀ later, now.le later = true → t.isExpiredAt later = true

theorem remaining_of_unexpired (hnow : now.IsPlain) (h : t.isExpiredAt now = false) :
    ∀ e ∈ t.expiresAt, 60 * nanosPerSecond < e.remaining now := fun e he =>
  Instant.remaining_of_seconds_lt hnow (isExpiredAt_eq_false.mp h e he)

theorem margins (hnow : now.IsPlain) (hplain : ∀ e ∈ t.expiresAt, e.IsPlain) :
    t.Margins now where
  unexpired := remaining_of_unexpired hnow
  expired h := by
    obtain ⟨e, he, hend⟩ := isExpiredAt_eq_true.mp h
    exact ⟨e, he, Instant.remaining_of_seconds_le (hplain e he) hend⟩
  forGood h _ hle := isExpiredAt_later h hle

end SessionToken

namespace Client

/-- A token that is found valid is the one that is held, and it is not expired. -/
theorem isExpiredAt_of_validToken? {c : Client} {s s' : ClientState} {t : SessionToken}
    (h : c.validToken?.runFrom s = (.ok (some t), s')) :
    s.token = some t ∧ t.isExpiredAt (c.world.clock s.readings) = false := by
  rcases validToken?_looks c s with ⟨token, htoken, hvalid, hrun⟩ | ⟨n, hrun, -⟩
  · cases hrun.symm.trans h
    exact ⟨htoken, hvalid⟩
  · cases hrun.symm.trans h

end Client

/-- A token that is not expired has more than a minute left, and one that is has less than a second
more. A client uses no token that ends within a minute. -/
theorem verdict_margins (t : SessionToken) (now : Instant) (hnow : now.IsPlain)
    (hplain : ∀ e ∈ t.expiresAt, e.IsPlain) :
    t.Margins now ∧ ∀ (c : Client) (s s' : ClientState), c.world.clock s.readings = now →
      c.validToken?.runFrom s = (.ok (some t), s') →
      t.expiresAt = none ∨ ∃ e, t.expiresAt = some e ∧ 60 * nanosPerSecond < e.remaining now := by
  refine ⟨SessionToken.margins hnow hplain, ?_⟩
  rintro c s s' rfl hrun
  have hleft := SessionToken.remaining_of_unexpired hnow (Client.isExpiredAt_of_validToken? hrun).2
  cases hend : t.expiresAt with
  | none => exact .inl rfl
  | some e => exact .inr ⟨e, rfl, hleft e hend⟩

/-- One nanosecond more than a minute is left, and the whole seconds differ by one more than it. -/
theorem margins_of_last_nanosecond :
    let now : Instant := ⟨-100, 999999999⟩
    let t : SessionToken := ⟨"key", some ⟨-39, 0⟩⟩
    let c : Client := Client.facing (.token "key") fun _ _ => .lost
    let c : Client := { c with world := { c.world with clock := fun _ => now } }
    t.Margins now ∧ (Instant.mk (-39) 0).remaining now = 60 * nanosPerSecond + 1 ∧
      t.isExpiredAt now = false ∧
      c.validToken?.runFrom { token := some t } = (.ok (some t), { token := some t, readings := 1 }) ∧
      (t.expiresAt = none ∨ ∃ e, t.expiresAt = some e ∧ 60 * nanosPerSecond < e.remaining now) := by
  intro now t c c
  have hplain : ∀ e ∈ t.expiresAt, e.IsPlain := by
    rintro e ⟨⟩
    decide
  obtain ⟨hmargins, hvalid⟩ := verdict_margins t now (by decide) hplain
  have hrun : c.validToken?.runFrom { token := some t } =
      (.ok (some t), { token := some t, readings := 1 }) := rfl
  exact ⟨hmargins, by decide, by decide, hrun, hvalid c _ _ rfl hrun⟩

end RemoteNotes
