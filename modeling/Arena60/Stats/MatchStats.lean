import Arena60.Game.GameSession
import Mathlib.Data.List.Sort
import Mathlib.Data.String.Basic

/-!
# Match statistics

`match_stats.{h,cpp}`. The counters of a session are non-negative, so that their
conversion to unsigned numbers keeps them.
-/

namespace Arena60

open Misc Misc.DoubleArith

universe u

/-- `RunningTotals`. -/
structure RunningTotals where
  playerId : String
  shotsFired : Nat := 0
  hitsLanded : Nat := 0
  kills : Nat := 0
  deaths : Nat := 0
  damageDealt : Nat := 0
  damageTaken : Nat := 0
  deriving DecidableEq

/-- `PlayerMatchStats`. -/
structure PlayerMatchStats where
  matchId : String
  playerId : String
  shotsFired : Nat
  hitsLanded : Nat
  kills : Nat
  deaths : Nat
  damageDealt : Nat
  damageTaken : Nat
  deriving DecidableEq

/-- The quotient that `PlayerMatchStats::Accuracy` and `PlayerProfile::Accuracy` compute. -/
def accuracyOf (R : Type u) [DoubleArith R] (hitsLanded shotsFired : Nat) : R :=
  if shotsFired = 0 then ofRat 0 else ofRat hitsLanded / ofRat shotsFired

/-- `PlayerMatchStats::Accuracy`. -/
def PlayerMatchStats.accuracy (R : Type u) [DoubleArith R] (stats : PlayerMatchStats) : R :=
  accuracyOf R stats.hitsLanded stats.shotsFired

/-- `MatchResult`. -/
structure MatchResult where
  matchId : String
  winnerId : String
  loserId : String
  completedAt : Int
  playerStats : List PlayerMatchStats
  deriving DecidableEq

/-- The entry of a player as it is emitted. -/
def RunningTotals.toStats (matchId : String) (entry : RunningTotals) : PlayerMatchStats where
  matchId := matchId
  playerId := entry.playerId
  shotsFired := entry.shotsFired
  hitsLanded := entry.hitsLanded
  kills := entry.kills
  deaths := entry.deaths
  damageDealt := entry.damageDealt
  damageTaken := entry.damageTaken

namespace MatchStatsCollector

variable {R : Type u}

/-- The entry of a player of the snapshot. -/
def snapshotEntry (state : PlayerState R) : RunningTotals where
  playerId := state.playerId
  shotsFired := state.shotsFired
  hitsLanded := state.hitsLanded
  deaths := state.deaths

/-- The entries of the players of the snapshot. -/
def snapshotTotals (states : List (PlayerState R)) : UnorderedMap String RunningTotals :=
  states.foldl (fun totals state => totals.emplace state.playerId (snapshotEntry state)) .empty

/-- `ensure_entry`, and the use made of the entry it returns. -/
def withEntry (totals : UnorderedMap String RunningTotals) (playerId : String)
    (f : RunningTotals → RunningTotals) : UnorderedMap String RunningTotals :=
  totals.upsert playerId { playerId } f

/-- `static_cast<std::uint64_t>(event.damage)`. -/
def damageOf (event : CombatEvent) : Nat := (event.damage % 2 ^ 64).toNat

/-- One round of the loop over the combat log. -/
def logEvent (deathTick : Nat) (totals : UnorderedMap String RunningTotals) (event : CombatEvent) :
    UnorderedMap String RunningTotals :=
  if event.tick > deathTick then totals
  else
    match event.type with
    | .hit =>
        let totals := withEntry totals event.shooterId fun shooter =>
          { shooter with damageDealt := shooter.damageDealt + damageOf event }
        withEntry totals event.targetId fun target =>
          { target with damageTaken := target.damageTaken + damageOf event }
    | .death =>
        let totals := withEntry totals event.shooterId fun shooter =>
          { shooter with kills := shooter.kills + 1 }
        withEntry totals event.targetId fun target =>
          if target.deaths = 0 then { target with deaths := 1 } else target

/-- The entries after the winner and the loser were patched. -/
def closeTotals (death : CombatEvent) (totals : UnorderedMap String RunningTotals) :
    UnorderedMap String RunningTotals :=
  let totals := withEntry totals death.shooterId id
  let totals := withEntry totals death.targetId id
  let totals := totals.adjust death.shooterId fun winner =>
    if winner.kills = 0 then { winner with kills := 1 } else winner
  totals.adjust death.targetId fun loser =>
    if loser.deaths = 0 then { loser with deaths := 1 } else loser

/-- All entries for a death. -/
def totals (death : CombatEvent) (s : GameSession R) : UnorderedMap String RunningTotals :=
  closeTotals death (s.combatLogSnapshot.foldl (logEvent death.tick) (snapshotTotals s.snapshot))

/-- The match id of a death. -/
def matchIdOf (death : CombatEvent) : String :=
  "match-" ++ toString death.tick ++ "-" ++ death.shooterId ++ "-vs-" ++ death.targetId

/-- `MatchStatsCollector::Collect`. -/
def collect (death : CombatEvent) (s : GameSession R) (completedAt : Int) : MatchResult where
  matchId := matchIdOf death
  winnerId := death.shooterId
  loserId := death.targetId
  completedAt := completedAt
  playerStats :=
    ((totals death s).entries.map fun entry => entry.2.toStats (matchIdOf death)).insertionSort
      fun lhs rhs => lhs.playerId ≤ rhs.playerId

end MatchStatsCollector

end Arena60
