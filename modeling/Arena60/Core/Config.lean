import Arena60.Core.GameLoop
import Arena60.Misc.NumericPrefix

/-!
# The configuration

`config.{h,cpp}`, and the tick period that `GameLoop` computes from it. A value that cannot be read is
replaced by a default; a port has to be in range too, a tick rate that can be read is taken as it is.
-/

namespace Arena60

open Misc

universe v

/-- `GameConfig`. -/
structure GameConfig where
  port : UInt16
  metricsPort : UInt16
  tickRate : Binary64
  databaseDsn : String

def kDefaultTickRate : Binary64 := .round false 60 (by norm_num)

def kDefaultPort : UInt16 := 8080

def kDefaultMetricsPort : UInt16 := 9090

def kDefaultDsn : String := "postgresql://localhost:5432/arena60"

/-- `ParseDoubleOrDefault`. -/
def parseDoubleOrDefault (value : Option String) (fallback : Binary64) : Binary64 :=
  match value with
  | none => fallback
  | some text =>
      match stod text with
      | .ok parsed => parsed
      | .error _ => fallback

/-- `ParsePortOrDefault`. -/
def parsePortOrDefault (value : Option String) (fallback : UInt16) : UInt16 :=
  match value with
  | none => fallback
  | some text =>
      match stol text with
      | .ok parsed => if parsed < 0 ∨ parsed > 65535 then fallback else UInt16.ofNat parsed.toNat
      | .error _ => fallback

/-- `GameConfig::FromEnv`, given `std::getenv`. -/
def GameConfig.fromEnv (getenv : String → Option String) : GameConfig where
  port := parsePortOrDefault (getenv "ARENA60_PORT") kDefaultPort
  metricsPort := parsePortOrDefault (getenv "ARENA60_METRICS_PORT") kDefaultMetricsPort
  tickRate := parseDoubleOrDefault (getenv "ARENA60_TICK_RATE") kDefaultTickRate
  databaseDsn := (getenv "ARENA60_DATABASE_DSN").getD kDefaultDsn

/-- `GameLoop::GameLoop`, which takes the tick rate. -/
def GameLoop.ofTickRate {Callback : Type v} (tickRate : Binary64) : GameLoop Binary64 Callback :=
  .new tickRate.reciprocal

/-! ## The tick period -/

/-- The tick rate and the tick period are finite and greater than 0. -/
def UsableTickRate (tickRate : Binary64) : Prop := tickRate.IsPositive ∧ tickRate.reciprocal.IsPositive

/-- A magnitude in range gives a usable tick rate unless its reciprocal overflows. -/
theorem usable_round_iff {magnitude : ℚ} (nonneg : 0 ≤ magnitude)
    (inRange : isOutOfRange magnitude = false) :
    UsableTickRate (.round false magnitude nonneg) ↔ 2 ^ (-1024 : Int) < magnitude := by
  obtain ⟨small, shape⟩ := normal_or_multiple nonneg inRange
  rw [UsableTickRate, Binary64.round, dif_pos small, Binary64.reciprocal_isPositive_iff]
  by_cases normal : 2 ^ (-1022 : Int) ≤ magnitude
  · have above : (2 : ℚ) ^ (-1024 : Int) < 2 ^ (-1022 : Int) :=
      zpow_lt_zpow_right₀ (by norm_num) (by norm_num)
    have rounded : 2 ^ (-1022 : Int) ≤ nearest magnitude := zpow_le_nearest (by norm_num) normal
    exact iff_of_true (above.trans_le rounded) (above.trans_le normal)
  · obtain ⟨n, multiple⟩ := shape.resolve_left normal
    rw [nearest_of_subnormal (not_le.mp normal) multiple]

/-- A number with a minus sign is never a usable tick rate. -/
theorem not_usable_round_negative {magnitude : ℚ} (nonneg : 0 ≤ magnitude) :
    ¬UsableTickRate (.round true magnitude nonneg) := by
  unfold Binary64.round
  split_ifs
  · exact fun usable => usable.1
  · exact fun usable => usable.1

theorem usable_default : UsableTickRate kDefaultTickRate := by
  have inRange : isOutOfRange 60 = false := by decide +kernel
  have above : (2 : ℚ) ^ (-1024 : Int) < 1 := zpow_lt_one_of_neg₀ (by norm_num) (by norm_num)
  refine (usable_round_iff (by norm_num) inRange).mpr ?_
  linarith

/-- A value of `ARENA60_TICK_RATE` with which the server runs: none, one that cannot be read, and a
positive number that is not too small. -/
def FitsTickRate : Option String → Prop
  | none => True
  | some text =>
      match numericPrefix text.toList with
      | none => True
      | some (.number negative magnitude _) =>
          isOutOfRange magnitude = true ∨ (negative = false ∧ 2 ^ (-1024 : Int) < magnitude)
      | some (.infinity _) => False
      | some .nan => False

theorem usable_parseDouble_iff (value : Option String) :
    UsableTickRate (parseDoubleOrDefault value kDefaultTickRate) ↔ FitsTickRate value := by
  cases value with
  | none => exact iff_of_true usable_default trivial
  | some text =>
      unfold parseDoubleOrDefault FitsTickRate stod
      dsimp only
      cases numericPrefix text.toList with
      | none => exact iff_of_true usable_default trivial
      | some numeral =>
          cases numeral with
          | infinity negative => exact iff_of_false (fun usable => usable.1) id
          | nan => exact iff_of_false (fun usable => usable.1) id
          | number negative magnitude nonneg =>
              dsimp only
              cases inRange : isOutOfRange magnitude with
              | true => exact iff_of_true usable_default (Or.inl rfl)
              | false =>
                  cases negative with
                  | true =>
                      refine iff_of_false (not_usable_round_negative nonneg) ?_
                      rintro (out | ⟨positive, -⟩)
                      · cases out
                      · cases positive
                  | false =>
                      have usable := usable_round_iff nonneg inRange
                      simpa using usable

namespace GameConfig

/-- The configured tick rate and the period of the game loop are finite and positive exactly when the
text of `ARENA60_TICK_RATE` fits. -/
theorem tick_period_usable_iff {Callback : Type v} (getenv : String → Option String) :
    ((fromEnv getenv).tickRate.IsPositive ∧
      (GameLoop.ofTickRate (fromEnv getenv).tickRate : GameLoop Binary64 Callback).targetDelta.IsPositive) ↔
        FitsTickRate (getenv "ARENA60_TICK_RATE") :=
  usable_parseDouble_iff _

/-- With a tick rate of "0" the period is infinite. -/
theorem tick_period_unusable_zero :
    ¬∀ getenv : String → Option String, (fromEnv getenv).tickRate.IsPositive ∧
      (GameLoop.ofTickRate (fromEnv getenv).tickRate : GameLoop Binary64 Unit).targetDelta.IsPositive := by
  intro usable
  obtain ⟨positive, -⟩ := usable fun name => if name = "ARENA60_TICK_RATE" then some "0" else none
  revert positive
  decide +kernel

end GameConfig

end Arena60
