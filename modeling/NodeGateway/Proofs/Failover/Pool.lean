import Mathlib.Order.Basic
import NodeGateway.Failover.Dispatch

/-!
# What the Changes of a Pool Do

The readiness of a role (`Pool.readiness?`) is what everything else about a pool is read from, so
each change of a pool is described by what it does to that. A recheck, a loss and a recovery of a
role change the readiness of this role by the function of the same name, and leave the other role
alone (`readiness?_recheck`, `readiness?_markLost`, `readiness?_markRecovered`).

From these come the three steps of a dispatch:

* `readiness?_enter` — a dispatch that begins rechecks both roles;
* `attempt_choose` — what is attempted follows from the readiness after the recheck;
* `Pool.Settled` — the six ways in which the end of an attempt goes on, each with the pool it
  leaves behind, and `settle_settled`, that there is no other.

What a pool is made of never changes (`Pool.makeup`).
-/

namespace NodeGateway

/-! ### Instants -/

/-- Instants are ordered by their distance from the epoch. -/
instance : Preorder Instant where
  le_refl _ := Int.le_refl _
  le_trans _ _ _ := Int.le_trans

namespace Instant

theorem le_def {s t : Instant} : s ≤ t ↔ s.nanos ≤ t.nanos := Iff.rfl

/-- A delay has elapsed as soon as the time in between is as long: it is never negative. -/
theorem hasElapsed_iff {since now : Instant} {delay : Duration} :
    since.hasElapsed now delay = true ↔
      (delay.nanos : Int) ≤ now.nanos - since.nanos := by
  simp only [hasElapsed, Bool.and_eq_true, decide_eq_true_eq]
  omega

/-- What has elapsed stays elapsed. -/
theorem hasElapsed_mono {since s t : Instant} {delay : Duration} (hst : s ≤ t)
    (h : since.hasElapsed s delay = true) : since.hasElapsed t delay = true := by
  rw [hasElapsed_iff] at h ⊢
  rw [le_def] at hst
  omega

/-- The whole milliseconds of an instant do not lie behind it. -/
theorem ofMillis_millis_le (t : Instant) : ofMillis t.millis ≤ t := by
  simp only [le_def, ofMillis, millis]
  omega

/-- A millisecond that begins before an instant is at most that of the instant. -/
theorem le_millis_of_ofMillis_le {n : Int} {t : Instant} (h : ofMillis n ≤ t) :
    n ≤ t.millis := by
  simp only [le_def, ofMillis, millis] at h ⊢
  omega

end Instant

/-- An endpoint is due when it is not ready and its last loss, if it had one, is the delay
past. -/
theorem Readiness.isDue_iff {r : Readiness} {now : Instant} {delay : Duration} :
    r.isDue now delay = true ↔ r.ready = false ∧ ∀ millis, r.lastLoss = some millis →
      (Instant.ofMillis millis).hasElapsed now delay = true := by
  cases hloss : r.lastLoss <;> simp [Readiness.isDue, hloss]

/-- An outcome is a lost connection if it is the fault of that name. -/
theorem Outcome.isDisconnected_iff {outcome : Outcome α} :
    outcome.isDisconnected = true ↔ ∃ detail, outcome = .error (.disconnected detail) := by
  rcases outcome with fault | value
  · cases fault <;> simp [Outcome.isDisconnected, Fault.isDisconnected]
  · simp [Outcome.isDisconnected]

namespace Pool

/-! ### Readiness by role -/

theorem isReady_eq {pool : Pool} {role : Role} {r : Readiness}
    (h : pool.readiness? role = some r) : pool.isReady role = r.ready := by
  simp [isReady, h]

theorem lastLoss?_eq {pool : Pool} {role : Role} {r : Readiness}
    (h : pool.readiness? role = some r) : pool.lastLoss? role = r.lastLoss := by
  simp [lastLoss?, h]

theorem isReady_iff {pool : Pool} {role : Role} : pool.isReady role = true ↔
    ∃ r, pool.readiness? role = some r ∧ r.ready = true := by
  cases h : pool.readiness? role <;> simp [isReady, h]

/-- There always is a primary. -/
@[simp] theorem readiness?_primary (pool : Pool) :
    pool.readiness? .primary = some pool.primary := rfl

/-- A pool whose fallback is ready has a fallback. -/
theorem hasFallback_of_isReady {pool : Pool} (h : pool.isReady .fallback = true) :
    pool.hasFallback = true := by
  obtain ⟨r, hr, -⟩ := isReady_iff.mp h
  exact Option.isSome_iff_exists.mpr ⟨r, hr⟩

@[simp] theorem readiness?_note (notice : Notice) (pool : Pool) (role : Role) :
    (pool.note notice).readiness? role = pool.readiness? role := by
  cases role <;> rfl

@[simp] theorem readiness?_setGauge (gauge : Role) (ready : Bool) (pool : Pool) (role : Role) :
    (pool.setGauge gauge ready).readiness? role = pool.readiness? role := by
  cases role <;> rfl

@[simp] theorem readiness?_modify_self (role : Role) (change : Readiness → Readiness)
    (pool : Pool) : (pool.modify role change).readiness? role =
      (pool.readiness? role).map change := by
  cases role <;> rfl

theorem readiness?_modify_of_ne {role other : Role} (h : other ≠ role)
    (change : Readiness → Readiness) (pool : Pool) :
    (pool.modify role change).readiness? other = pool.readiness? other := by
  cases role <;> cases other <;> first | rfl | exact absurd rfl h

/-- A recheck of a role rechecks its readiness. -/
theorem readiness?_recheck (now : Instant) (role : Role) (pool : Pool) :
    (pool.recheck now role).readiness? role =
      (pool.readiness? role).map (Readiness.recheck now pool.reconnectDelay) := by
  cases h : pool.readiness? role with
  | none => simp [recheck, isDue, h]
  | some r => by_cases hdue : r.isDue now pool.reconnectDelay <;>
      simp [recheck, isDue, h, Readiness.recheck, hdue]

/-- A recheck of one role leaves the other role alone. -/
theorem readiness?_recheck_of_ne {role other : Role} (h : other ≠ role) (now : Instant)
    (pool : Pool) : (pool.recheck now role).readiness? other = pool.readiness? other := by
  unfold recheck
  split
  · rw [readiness?_setGauge, readiness?_note, readiness?_modify_of_ne h]
  · rfl

/-- A loss in a role marks its readiness. -/
theorem readiness?_markLost (now : Instant) (role : Role) (fault : Fault) (pool : Pool) :
    (pool.markLost now role fault).readiness? role =
      (pool.readiness? role).map (Readiness.markLost now) := by
  cases role <;> rfl

/-- A role that was just lost is down. -/
theorem isReady_markLost (now : Instant) (role : Role) (fault : Fault) (pool : Pool) :
    (pool.markLost now role fault).isReady role = false := by
  rw [isReady, readiness?_markLost]
  cases pool.readiness? role <;> simp

/-- A loss in one role leaves the other role alone. -/
theorem readiness?_markLost_of_ne {role other : Role} (h : other ≠ role) (now : Instant)
    (fault : Fault) (pool : Pool) :
    (pool.markLost now role fault).readiness? other = pool.readiness? other := by
  cases role <;> cases other <;> first | rfl | exact absurd rfl h

/-- A recovery in a role marks its readiness. -/
theorem readiness?_markRecovered (role : Role) (pool : Pool) :
    (pool.markRecovered role).readiness? role =
      (pool.readiness? role).map Readiness.markReady := by
  unfold markRecovered
  split <;> simp

/-- A recovery in one role leaves the other role alone. -/
theorem readiness?_markRecovered_of_ne {role other : Role} (h : other ≠ role) (pool : Pool) :
    (pool.markRecovered role).readiness? other = pool.readiness? other := by
  unfold markRecovered
  split <;> simp [readiness?_modify_of_ne h]

/-! ### What never changes -/

/-- What a pool is **made of**: the part of it that no step changes. -/
structure Makeup where
  clientType : String
  reconnectDelay : Duration
  hasFallback : Bool

/-- What the pool is made of. -/
def makeup (pool : Pool) : Makeup := ⟨pool.clientType, pool.reconnectDelay, pool.hasFallback⟩

theorem clientType_eq {pool other : Pool} (h : pool.makeup = other.makeup) :
    pool.clientType = other.clientType := congrArg Makeup.clientType h

theorem reconnectDelay_eq {pool other : Pool} (h : pool.makeup = other.makeup) :
    pool.reconnectDelay = other.reconnectDelay := congrArg Makeup.reconnectDelay h

theorem hasFallback_eq {pool other : Pool} (h : pool.makeup = other.makeup) :
    pool.hasFallback = other.hasFallback := congrArg Makeup.hasFallback h

@[simp] theorem makeup_note (notice : Notice) (pool : Pool) :
    (pool.note notice).makeup = pool.makeup := rfl

@[simp] theorem makeup_setGauge (role : Role) (ready : Bool) (pool : Pool) :
    (pool.setGauge role ready).makeup = pool.makeup := rfl

@[simp] theorem makeup_modify (role : Role) (change : Readiness → Readiness) (pool : Pool) :
    (pool.modify role change).makeup = pool.makeup := by
  cases role <;> simp [modify, makeup, hasFallback]

@[simp] theorem makeup_recheck (now : Instant) (role : Role) (pool : Pool) :
    (pool.recheck now role).makeup = pool.makeup := by
  unfold recheck
  split <;> simp

@[simp] theorem makeup_recheckAll (now : Readings) (pool : Pool) :
    (pool.recheckAll now).makeup = pool.makeup := by
  simp [recheckAll]

@[simp] theorem makeup_markLost (now : Instant) (role : Role) (fault : Fault) (pool : Pool) :
    (pool.markLost now role fault).makeup = pool.makeup :=
  makeup_modify role (Readiness.markLost now) pool

@[simp] theorem makeup_markRecovered (role : Role) (pool : Pool) :
    (pool.markRecovered role).makeup = pool.makeup := by
  unfold markRecovered
  split <;> simp

/-- A recheck of every role rechecks the readiness of each. -/
theorem readiness?_recheckAll (now : Readings) (pool : Pool) (role : Role) :
    (pool.recheckAll now).readiness? role =
      (pool.readiness? role).map (Readiness.recheck (now.of role) pool.reconnectDelay) := by
  cases role with
  | primary =>
      rw [recheckAll, readiness?_recheck_of_ne (by decide), readiness?_recheck]
      rfl
  | fallback =>
      rw [recheckAll, readiness?_recheck, readiness?_recheck_of_ne (by decide),
        reconnectDelay_eq (makeup_recheck now.primary .primary pool)]
      rfl

/-! ### Choosing an attempt -/

/-- The pool that a choice leaves behind, up to the notice about it: the fallback is rechecked,
and so is the primary unless the dispatch has lost it. -/
def rechecked (primaryLost : Bool) (now : Readings) (pool : Pool) : Pool :=
  (if primaryLost then pool else pool.recheck now.primary .primary).recheck now.fallback
    .fallback

/-- What is attempted follows from the readiness after the recheck, and nothing else about the
pool changes. -/
theorem choose_eq (primaryLost : Bool) (now : Readings) (pool : Pool) :
    pool.choose primaryLost now =
      let after := pool.rechecked primaryLost now
      if !primaryLost && after.isReady .primary then
        (.ordinary .primary, after.note (.dispatching .primary))
      else if after.isReady .fallback then
        (.ordinary .fallback, after.note (.dispatching .fallback))
      else (.forced, after.note .forcing) := rfl

theorem exists_note_choose (primaryLost : Bool) (now : Readings) (pool : Pool) :
    ∃ notice, (pool.choose primaryLost now).2 = (pool.rechecked primaryLost now).note notice := by
  rw [choose_eq]
  dsimp only
  split
  · exact ⟨_, rfl⟩
  · split <;> exact ⟨_, rfl⟩

@[simp] theorem makeup_choose (primaryLost : Bool) (now : Readings) (pool : Pool) :
    (pool.choose primaryLost now).2.makeup = pool.makeup := by
  obtain ⟨notice, h⟩ := exists_note_choose primaryLost now pool
  rw [h, makeup_note, rechecked]
  split <;> simp

/-- A choice rechecks the fallback. -/
theorem readiness?_choose_fallback (primaryLost : Bool) (now : Readings) (pool : Pool) :
    (pool.choose primaryLost now).2.readiness? .fallback =
      (pool.readiness? .fallback).map (Readiness.recheck now.fallback pool.reconnectDelay) := by
  obtain ⟨notice, h⟩ := exists_note_choose primaryLost now pool
  rw [h, readiness?_note, rechecked, readiness?_recheck]
  cases primaryLost with
  | true => rfl
  | false =>
      rw [if_neg Bool.false_ne_true, readiness?_recheck_of_ne (by decide),
        reconnectDelay_eq (makeup_recheck now.primary .primary pool)]

/-- A choice rechecks the primary, unless the dispatch has lost it. -/
theorem readiness?_choose_primary (primaryLost : Bool) (now : Readings) (pool : Pool) :
    (pool.choose primaryLost now).2.readiness? .primary =
      if primaryLost then pool.readiness? .primary
      else (pool.readiness? .primary).map
        (Readiness.recheck now.primary pool.reconnectDelay) := by
  obtain ⟨notice, h⟩ := exists_note_choose primaryLost now pool
  rw [h, readiness?_note, rechecked, readiness?_recheck_of_ne (by decide)]
  cases primaryLost with
  | true => rfl
  | false => exact readiness?_recheck now.primary .primary pool

/-- What is attempted follows from the readiness that the choice leaves behind. -/
theorem attempt_choose (primaryLost : Bool) (now : Readings) (pool : Pool) :
    (pool.choose primaryLost now).1 =
      if !primaryLost && (pool.choose primaryLost now).2.isReady .primary then
        .ordinary .primary
      else if (pool.choose primaryLost now).2.isReady .fallback then .ordinary .fallback
      else .forced := by
  have hready (role : Role) : (pool.choose primaryLost now).2.isReady role =
      (pool.rechecked primaryLost now).isReady role := by
    obtain ⟨notice, h⟩ := exists_note_choose primaryLost now pool
    rw [h, isReady, readiness?_note, isReady]
  rw [hready, hready, choose_eq]
  dsimp only
  split
  · rfl
  · split <;> rfl

/-- A dispatch that has lost the primary goes on with a ready fallback. -/
theorem choose_eq_fallback {now : Readings} {pool : Pool}
    (h : (pool.choose true now).2.isReady .fallback = true) :
    (pool.choose true now).1 = .ordinary .fallback := by
  rw [attempt_choose, h]
  rfl

/-- While the fallback is ready, no attempt is forced. -/
theorem choose_ne_forced {primaryLost : Bool} {now : Readings} {pool : Pool}
    (h : (pool.choose primaryLost now).2.isReady .fallback = true) :
    (pool.choose primaryLost now).1 ≠ .forced := by
  rw [attempt_choose, h]
  split <;> simp

/-- A dispatch that has lost the primary leaves it as it is. -/
theorem primary_choose (now : Readings) (pool : Pool) :
    (pool.choose true now).2.primary = pool.primary :=
  Option.some.inj (readiness?_choose_primary true now pool)

/-- A choice leaves a ready fallback ready. -/
theorem isReady_fallback_choose {pool : Pool} (h : pool.isReady .fallback = true)
    (primaryLost : Bool) (now : Readings) :
    (pool.choose primaryLost now).2.isReady .fallback = true := by
  obtain ⟨r, hr, hready⟩ := isReady_iff.mp h
  refine isReady_iff.mpr ⟨r, ?_, hready⟩
  rw [readiness?_choose_fallback, hr, Option.map_some, Readiness.recheck_of_ready hready]

/-- An ordinary attempt on the fallback goes to a fallback that is ready. -/
theorem isReady_fallback_of_choose {primaryLost : Bool} {now : Readings} {pool : Pool}
    (h : (pool.choose primaryLost now).1 = .ordinary .fallback) :
    (pool.choose primaryLost now).2.isReady .fallback = true := by
  rw [attempt_choose] at h
  split at h
  · cases h
  · split at h
    · next hready => exact hready
    · cases h

/-! ### The first attempt -/

theorem enter_of_hasFallback {pool : Pool} (h : pool.hasFallback = true) (now : Readings) :
    pool.enter now = pool.choose false now := if_pos h

theorem enter_of_not_hasFallback {pool : Pool} (h : pool.hasFallback = false)
    (now : Readings) : pool.enter now = (.direct, pool) := by
  simp [enter, h]

@[simp] theorem makeup_enter (now : Readings) (pool : Pool) :
    (pool.enter now).2.makeup = pool.makeup := by
  unfold enter
  split
  · exact makeup_choose false now pool
  · rfl

/-- A dispatch that begins on a pool with a fallback rechecks both roles. -/
theorem readiness?_enter {pool : Pool} (h : pool.hasFallback = true) (now : Readings)
    (role : Role) : (pool.enter now).2.readiness? role =
      (pool.readiness? role).map (Readiness.recheck (now.of role) pool.reconnectDelay) := by
  rw [enter_of_hasFallback h]
  cases role with
  | primary => exact readiness?_choose_primary false now pool
  | fallback => exact readiness?_choose_fallback false now pool

/-- What a dispatch opens with follows from the readiness after the recheck. -/
theorem attempt_enter {pool : Pool} (h : pool.hasFallback = true) (now : Readings) :
    (pool.enter now).1 =
      if (pool.enter now).2.isReady .primary then .ordinary .primary
      else if (pool.enter now).2.isReady .fallback then .ordinary .fallback
      else .forced := by
  rw [enter_of_hasFallback h]
  exact attempt_choose false now pool

/-- A dispatch that begins leaves ready what is ready or due. -/
theorem isReady_enter {pool : Pool} (h : pool.hasFallback = true) (now : Readings) {role : Role}
    {r : Readiness} (hr : pool.readiness? role = some r) :
    (pool.enter now).2.isReady role =
      (r.ready || r.isDue (now.of role) pool.reconnectDelay) := by
  have hafter := readiness?_enter h now role
  rw [hr, Option.map_some] at hafter
  rw [isReady_eq hafter, Readiness.ready_recheck]

/-- A dispatch that begins rechecks the primary. -/
theorem primary_enter {pool : Pool} (h : pool.hasFallback = true) (now : Readings) :
    (pool.enter now).2.primary = pool.primary.recheck now.primary pool.reconnectDelay :=
  Option.some.inj (readiness?_enter h now .primary)

/-- A dispatch that begins leaves a ready fallback ready. -/
theorem isReady_fallback_enter {pool : Pool} (h : pool.isReady .fallback = true)
    (now : Readings) : (pool.enter now).2.isReady .fallback = true := by
  rw [enter_of_hasFallback (hasFallback_of_isReady h)]
  exact isReady_fallback_choose h false now

/-- While the fallback is ready, no dispatch opens with a forced attempt. -/
theorem enter_ne_forced {now : Readings} {pool : Pool}
    (h : (pool.enter now).2.isReady .fallback = true) : (pool.enter now).1 ≠ .forced := by
  cases hfallback : pool.hasFallback with
  | true =>
      rw [enter_of_hasFallback hfallback] at h ⊢
      exact choose_ne_forced h
  | false =>
      rw [enter_of_not_hasFallback hfallback]
      exact nofun

/-- A dispatch that opens on the fallback opens on a fallback that is ready. -/
theorem isReady_fallback_of_enter {now : Readings} {pool : Pool}
    (h : (pool.enter now).1 = .ordinary .fallback) :
    (pool.enter now).2.isReady .fallback = true := by
  cases hfallback : pool.hasFallback with
  | true =>
      rw [enter_of_hasFallback hfallback] at h ⊢
      exact isReady_fallback_of_choose h
  | false =>
      rw [enter_of_not_hasFallback hfallback] at h
      cases h

/-- A dispatch that leaves the primary ready when it opens is one that opens on it. -/
theorem enter_eq_primary {now : Readings} {pool : Pool} (hfallback : pool.hasFallback = true)
    (h : (pool.enter now).2.isReady .primary = true) :
    (pool.enter now).1 = .ordinary .primary := by
  rw [attempt_enter hfallback, if_pos h]

/-- The attempts with which a dispatch may open. -/
def openings (hasFallback : Bool) : List Attempt :=
  if hasFallback then [.ordinary .primary, .ordinary .fallback, .forced] else [.direct]

/-- The attempts that may follow the loss of the primary. -/
def replacements : List Attempt := [.ordinary .fallback, .forced]

/-- The openings on a pool with a fallback. -/
theorem mem_openings {attempt : Attempt} : attempt ∈ openings true ↔
    attempt = .ordinary .primary ∨ attempt = .ordinary .fallback ∨ attempt = .forced := by
  simp [openings]

theorem mem_replacements {attempt : Attempt} : attempt ∈ replacements ↔
    attempt = .ordinary .fallback ∨ attempt = .forced := by
  simp [replacements]

theorem enter_mem_openings (now : Readings) (pool : Pool) :
    (pool.enter now).1 ∈ openings pool.hasFallback := by
  cases h : pool.hasFallback with
  | false =>
      rw [enter_of_not_hasFallback h]
      exact List.mem_singleton.mpr rfl
  | true =>
      rw [enter_of_hasFallback h, attempt_choose]
      split
      · decide
      · split <;> decide

theorem choose_mem_replacements (now : Readings) (pool : Pool) :
    (pool.choose true now).1 ∈ replacements := by
  rw [attempt_choose, Bool.not_true, Bool.false_and, if_neg Bool.false_ne_true]
  split <;> decide

/-! ### The end of an attempt -/

/-- The ways in which the **end of an attempt** goes on: the attempt and its outcome, what
follows, and the pool that is left behind. -/
inductive Settled (now : Readings) (pool : Pool) :
    Attempt → Outcome α → Verdict α → Pool → Prop
  | direct (outcome : Outcome α) : Settled now pool .direct outcome (.done outcome) pool
  | answered (role : Role) (outcome : Outcome α) (h : outcome.isDisconnected = false) :
      Settled now pool (.ordinary role) outcome (.done outcome) pool
  | failover (detail : String) :
      Settled now pool (.ordinary .primary) (.error (.disconnected detail))
        (.retry ((pool.markLost now.primary .primary (.disconnected detail)).choose true
          now).1)
        ((pool.markLost now.primary .primary (.disconnected detail)).choose true now).2
  | exhausted (detail : String) :
      Settled now pool (.ordinary .fallback) (.error (.disconnected detail))
        (.done (.error (.allClientsFailed pool.clientType)))
        (pool.markLost now.fallback .fallback (.disconnected detail))
  | forcedLost (outcome : Outcome α) (h : outcome.isDisconnected = true) :
      Settled now pool .forced outcome (.done outcome) pool
  | recovered (outcome : Outcome α) (h : outcome.isDisconnected = false) :
      Settled now pool .forced outcome (.done outcome) (pool.markRecovered .primary)

/-- Settling an attempt goes on in one of these ways. -/
theorem settle_settled (now : Readings) (attempt : Attempt) (outcome : Outcome α)
    (pool : Pool) : Settled now pool attempt outcome (pool.settle now attempt outcome).1
      (pool.settle now attempt outcome).2 := by
  cases attempt with
  | direct => exact .direct outcome
  | ordinary role =>
      cases h : outcome.isDisconnected with
      | false =>
          have heq : pool.settle now (.ordinary role) outcome = (.done outcome, pool) := by
            rcases outcome with fault | value
            · exact if_neg (ne_true_of_eq_false h)
            · rfl
          rw [heq]
          exact .answered role outcome h
      | true =>
          obtain ⟨detail, rfl⟩ := Outcome.isDisconnected_iff.mp h
          cases role with
          | primary => exact .failover detail
          | fallback => exact .exhausted detail
  | forced =>
      cases h : outcome.isDisconnected with
      | false =>
          simp only [settle, h, Bool.false_eq_true, if_false]
          exact .recovered outcome h
      | true =>
          simp only [settle, h, if_true]
          exact .forcedLost outcome h

/-- What can follow the end of an attempt is settled by it. -/
theorem Settled.eq_settle {now : Readings} {pool next : Pool} {attempt : Attempt}
    {outcome : Outcome α} {verdict : Verdict α}
    (h : Settled now pool attempt outcome verdict next) :
    pool.settle now attempt outcome = (verdict, next) := by
  cases h with
  | direct => rfl
  | answered role _ h =>
      rcases outcome with fault | value
      · exact if_neg (ne_true_of_eq_false h)
      · rfl
  | failover detail => rfl
  | exhausted detail => rfl
  | forcedLost _ h => simp only [settle, h, if_true]
  | recovered _ h => simp only [settle, h, Bool.false_eq_true, if_false]

theorem Settled.makeup_eq {now : Readings} {pool next : Pool} {attempt : Attempt}
    {outcome : Outcome α} {verdict : Verdict α}
    (h : Settled now pool attempt outcome verdict next) : next.makeup = pool.makeup := by
  cases h with
  | direct | answered | forcedLost => rfl
  | failover detail => rw [makeup_choose, makeup_markLost]
  | exhausted detail => exact makeup_markLost now.fallback .fallback _ pool
  | recovered => exact makeup_markRecovered .primary pool

/-- What the end of an attempt can do to the **readiness of a role**: nothing, or one of three
changes, each only on its own occasion. -/
inductive Changed (now : Readings) (delay : Duration) (role : Role) :
    Attempt → Outcome α → Readiness → Readiness → Prop
  | kept (attempt : Attempt) (outcome : Outcome α) (r : Readiness) :
      Changed now delay role attempt outcome r r
  | lost (detail : String) (r : Readiness) :
      Changed now delay role (.ordinary role) (.error (.disconnected detail)) r
        (r.markLost (now.of role))
  | rechecked (detail : String) (r : Readiness) (h : role = .fallback) :
      Changed now delay role (.ordinary .primary) (.error (.disconnected detail)) r
        (r.recheck (now.of role) delay)
  | recovered (outcome : Outcome α) (r : Readiness) (h : role = .primary)
      (houtcome : outcome.isDisconnected = false) :
      Changed now delay role .forced outcome r r.markReady

/-- The end of an attempt changes the readiness of a role in one of these ways. -/
theorem Settled.changed {now : Readings} {pool next : Pool} {attempt : Attempt}
    {outcome : Outcome α} {verdict : Verdict α}
    (h : Settled now pool attempt outcome verdict next) {role : Role} {r : Readiness}
    (hr : pool.readiness? role = some r) :
    ∃ r', next.readiness? role = some r' ∧
      Changed now pool.reconnectDelay role attempt outcome r r' := by
  cases h with
  | direct | answered | forcedLost => exact ⟨r, hr, .kept _ _ r⟩
  | failover detail =>
      cases role with
      | primary =>
          refine ⟨r.markLost now.primary, ?_, .lost detail r⟩
          rw [readiness?_choose_primary, if_pos rfl, readiness?_markLost, hr, Option.map_some]
      | fallback =>
          refine ⟨r.recheck now.fallback pool.reconnectDelay, ?_, .rechecked detail r rfl⟩
          rw [readiness?_choose_fallback, readiness?_markLost_of_ne (by decide), hr,
            Option.map_some, reconnectDelay_eq (makeup_markLost now.primary .primary _ pool)]
  | exhausted detail =>
      cases role with
      | primary =>
          exact ⟨r, by rw [readiness?_markLost_of_ne (by decide), hr], .kept _ _ r⟩
      | fallback =>
          exact ⟨r.markLost now.fallback, by rw [readiness?_markLost, hr, Option.map_some],
            .lost detail r⟩
  | recovered outcome h =>
      cases role with
      | primary =>
          exact ⟨r.markReady, by rw [readiness?_markRecovered, hr, Option.map_some],
            .recovered outcome r rfl h⟩
      | fallback =>
          exact ⟨r, by rw [readiness?_markRecovered_of_ne (by decide), hr], .kept _ _ r⟩

end Pool

end NodeGateway
