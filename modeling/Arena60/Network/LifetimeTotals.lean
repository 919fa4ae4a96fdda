import Arena60.Misc.ExactArith
import Arena60.Network.WiredServer

/-!
# Lifetime totals

A profile adds up what `Collect` reports, and `Collect` reports again what it finds in a
session that is not new: deaths that are still in the log, death counters that count since
the player was inserted, and players that take no part in the match. The totals are right
exactly as long as it finds nothing of the kind.
-/

namespace Arena60

open Misc GameSession MatchStatsCollector PlayerProfileService WiredServer

universe u

/-! ## One result -/

section result

variable {R : Type u} (death : CombatEvent) (s : GameSession R)

theorem sumFor_collect (playerId : String) (completedAt : Int) (field : PlayerMatchStats → Nat) :
    sumFor playerId field (collect death s completedAt).playerStats =
      if takesPart death s playerId then
        field ((totalsFor death s playerId).toStats (matchIdOf death))
      else 0 := by
  by_cases part : takesPart death s playerId = true
  · rw [if_pos part]
    have listed : (totalsFor death s playerId).toStats (matchIdOf death) ∈
        (collect death s completedAt).playerStats :=
      (mem_playerStats death s).mpr ⟨part, rfl⟩
    exact sumFor_of_mem (playerStats_distinct death s completedAt) listed field
  · rw [if_neg part]
    refine sumFor_of_absent ?_ field
    intro entry listed same
    rw [← same] at part
    exact part ((mem_playerStats death s).mp listed).1

/-- Who takes no part has nothing to report. -/
theorem totalsFor_of_absent {playerId : String} (absent : takesPart death s playerId = false) :
    (totalsFor death s playerId).kills = 0 ∧ (totalsFor death s playerId).deaths = 0 := by
  simp only [takesPart, Bool.or_eq_false_iff, beq_eq_false_iff_ne] at absent
  obtain ⟨⟨⟨notWinner, notLoser⟩, notNamed⟩, notPresent⟩ := absent
  have unseen : s.snapshot.find? (fun state => state.playerId == playerId) = none := by
    rw [List.find?_eq_none]
    exact List.any_eq_false.mp notPresent
  have noKills : killsBy playerId (logged death s) = 0 := by
    rw [killsBy, List.countP_eq_zero]
    intro event member counted
    have other := List.any_eq_false.mp notNamed event member
    simp only [Bool.and_eq_true, Bool.or_eq_true, not_or] at counted other
    exact other.2 counted.2
  have notKilled : killed playerId (logged death s) = false := by
    rw [killed, List.any_eq_false]
    intro event member counted
    have other := List.any_eq_false.mp notNamed event member
    simp only [Bool.and_eq_true, Bool.or_eq_true, not_or] at counted other
    exact other.1 counted.2
  constructor
  · rw [totalsFor]
    dsimp only
    rw [if_neg notWinner, noKills]
  · rw [totalsFor, firstEntry, unseen]
    simp [notKilled, notLoser]

end result

/-- The session has recorded no other death than this one: no other is in the log up to its
tick, and only the loser's counter counts it. -/
structure OnlyDeath {R : Type u} (death : CombatEvent) (s : GameSession R) : Prop where
  inLog : ∀ event ∈ logged death s, event.type = .death →
    event.shooterId = death.shooterId ∧ event.targetId = death.targetId
  once : (logged death s).countP (fun event => event.type == .death) ≤ 1
  others : ∀ playerId runtime, s.players.find playerId = some runtime →
    playerId ≠ death.targetId → runtime.state.deaths = 0
  loser : ∀ runtime, s.players.find death.targetId = some runtime → runtime.state.deaths ≤ 1

instance {R : Type u} (death : CombatEvent) (s : GameSession R) : Decidable (OnlyDeath death s) :=
  decidable_of_iff
    ((∀ event ∈ logged death s, event.type = .death →
        event.shooterId = death.shooterId ∧ event.targetId = death.targetId) ∧
      (logged death s).countP (fun event => event.type == .death) ≤ 1 ∧
      ∀ entry ∈ s.players.entries, (entry.1 ≠ death.targetId → entry.2.state.deaths = 0) ∧
        (entry.1 = death.targetId → entry.2.state.deaths ≤ 1))
    ⟨fun ⟨inLog, once, counters⟩ => ⟨inLog, once,
        fun playerId runtime present =>
          (counters _ ((s.players.find_eq_some_iff playerId runtime).mp present)).1,
        fun runtime present => (counters _ ((s.players.find_eq_some_iff _ runtime).mp present)).2 rfl⟩,
      fun only => ⟨only.inLog, only.once, fun ⟨playerId, runtime⟩ member =>
        have present := (s.players.find_eq_some_iff playerId runtime).mpr member
        ⟨only.others playerId runtime present, fun same => only.loser runtime (same ▸ present)⟩⟩⟩

section onlyDeath

variable {R : Type u} {death : CombatEvent} {s : GameSession R}

/-- Whom `Collect` gives a kill at least, and a death at least. -/
theorem totalsFor_lower (death : CombatEvent) (s : GameSession R) (playerId : String) :
    (playerId == death.shooterId).toNat ≤ (totalsFor death s playerId).kills ∧
      (playerId == death.targetId).toNat ≤ (totalsFor death s playerId).deaths := by
  rw [toNat_beq, toNat_beq]
  unfold totalsFor
  dsimp only
  constructor
  · split
    · exact Nat.le_max_left 1 _
    · exact Nat.zero_le _
  · by_cases lost : playerId = death.targetId
    · rw [if_pos lost, beq_iff_eq.mpr lost, Bool.or_true]
      split
      · exact Nat.le_refl 1
      · omega
    · rw [if_neg lost]
      exact Nat.zero_le _

theorem OnlyDeath.kills (only : OnlyDeath death s) (playerId : String) :
    (totalsFor death s playerId).kills = (playerId == death.shooterId).toNat := by
  rw [toNat_beq, totalsFor]
  dsimp only
  by_cases won : playerId = death.shooterId
  · rw [if_pos won, if_pos won]
    have fewer : killsBy playerId (logged death s) ≤
        (logged death s).countP fun event => event.type == .death := by
      apply List.countP_mono_left
      intro event _ counted
      exact (Bool.and_eq_true_iff.mp counted).1
    have once := only.once
    omega
  · rw [if_neg won, if_neg won, killsBy, List.countP_eq_zero]
    intro event member counted
    obtain ⟨type, shooter⟩ := Bool.and_eq_true_iff.mp counted
    exact won ((eq_of_beq shooter).trans (only.inLog event member (eq_of_beq type)).1)

theorem OnlyDeath.deaths (only : OnlyDeath death s)
    (named : ∀ key runtime, s.players.find key = some runtime → runtime.state.playerId = key)
    (playerId : String) :
    (totalsFor death s playerId).deaths = (playerId == death.targetId).toNat := by
  rw [toNat_beq, totalsFor]
  dsimp only
  have first := (firstEntry_of_named s named playerId).1
  by_cases lost : playerId = death.targetId
  · rw [if_pos lost, beq_iff_eq.mpr lost, Bool.or_true]
    split
    · rfl
    · next counted =>
        cases present : s.players.find playerId with
        | none =>
            rw [present] at first
            rw [first] at counted
            exact absurd rfl counted
        | some runtime =>
            rw [present] at first
            rw [first] at counted ⊢
            have atMost := only.loser runtime (lost ▸ present)
            exact Nat.le_antisymm atMost (Nat.pos_of_ne_zero counted)
  · have fresh : (firstEntry s playerId).deaths = 0 := by
      rw [first]
      cases present : s.players.find playerId with
      | none => rfl
      | some runtime => exact only.others playerId runtime present lost
    have alive : killed playerId (logged death s) = false := by
      rw [killed, List.any_eq_false]
      intro event member counted
      obtain ⟨type, target⟩ := Bool.and_eq_true_iff.mp counted
      exact lost ((eq_of_beq target).trans (only.inLog event member (eq_of_beq type)).2)
    rw [if_pos fresh, alive, if_neg lost, beq_false_of_ne lost]
    rfl

/-- When nobody is given more than that, the session has recorded no other death. -/
theorem onlyDeath_of_totals
    (named : ∀ key runtime, s.players.find key = some runtime → runtime.state.playerId = key)
    (exact : ∀ playerId, (totalsFor death s playerId).kills = (playerId == death.shooterId).toNat ∧
      (totalsFor death s playerId).deaths = (playerId == death.targetId).toNat) :
    OnlyDeath death s := by
  have kills : ∀ playerId, killsBy playerId (logged death s) ≤
      (playerId == death.shooterId).toNat := by
    intro playerId
    rw [← (exact playerId).1, totalsFor]
    dsimp only
    split <;> omega
  have deaths : ∀ playerId, playerId ≠ death.targetId → killed playerId (logged death s) = false ∧
      (firstEntry s playerId).deaths = 0 := by
    intro playerId notLoser
    have none := (exact playerId).2
    rw [toNat_beq, if_neg notLoser, totalsFor] at none
    dsimp only at none
    split at none
    · next fresh =>
        rw [Bool.toNat_eq_zero, Bool.or_eq_false_iff] at none
        exact ⟨none.1, fresh⟩
    · next counted => exact absurd none counted
  have shooters : ∀ event ∈ logged death s, event.type = .death →
      event.shooterId = death.shooterId := by
    intro event member type
    by_contra other
    have none := kills event.shooterId
    rw [toNat_beq, if_neg other, Nat.le_zero, killsBy, List.countP_eq_zero] at none
    exact none event member (by simp [type])
  constructor
  · intro event member type
    refine ⟨shooters event member type, ?_⟩
    by_contra other
    have none := (deaths event.targetId other).1
    rw [killed, List.any_eq_false] at none
    exact none event member (by simp [type])
  · have most := kills death.shooterId
    rw [toNat_beq, if_pos rfl, killsBy] at most
    refine Nat.le_trans (Nat.le_of_eq (List.countP_congr ?_)) most
    intro event member
    simp only [Bool.and_eq_true, beq_iff_eq]
    exact ⟨fun type => ⟨type, (shooters event member type).symm⟩, fun both => both.1⟩
  · intro playerId runtime present notLoser
    have fresh := (deaths playerId notLoser).2
    rw [(firstEntry_of_named s named playerId).1, present] at fresh
    exact fresh
  · intro runtime present
    have counter : (firstEntry s death.targetId).deaths = runtime.state.deaths := by
      rw [(firstEntry_of_named s named death.targetId).1, present]
      rfl
    have most := (exact death.targetId).2
    rw [toNat_beq, if_pos rfl, totalsFor] at most
    dsimp only at most
    rw [counter] at most
    by_contra more
    have counted : runtime.state.deaths ≠ 0 := by omega
    rw [if_neg counted] at most
    omega

end onlyDeath

/-! ## All results of a run -/

namespace WiredServer

section run

variable {R : Type u} [DoubleConversions R] {trace : List (WiredItem R)} {server : WiredServer R}

omit [DoubleConversions R] in
theorem concerns_result (call : CollectCall R) (playerId : String) :
    concerns playerId call.result = takesPart call.death call.session playerId := by
  have listed : (call.result.playerStats.any fun entry => entry.playerId == playerId) = true ↔
      takesPart call.death call.session playerId = true := by
    rw [List.any_eq_true]
    constructor
    · rintro ⟨entry, member, same⟩
      rw [← eq_of_beq same]
      exact ((mem_playerStats call.death call.session).mp member).1
    · intro part
      exact ⟨(totalsFor call.death call.session playerId).toStats (matchIdOf call.death),
        (mem_playerStats call.death call.session).mpr ⟨part, rfl⟩, beq_self_eq_true playerId⟩
  rw [concerns, Bool.eq_iff_iff.mpr listed]
  show (takesPart call.death call.session playerId || playerId == call.death.shooterId ||
    playerId == call.death.targetId) = takesPart call.death call.session playerId
  rw [takesPart]
  cases playerId == call.death.shooterId <;> cases playerId == call.death.targetId <;> simp

theorem WiredLedger.named (ledger : WiredLedger trace server) {call : CollectCall R}
    (member : call ∈ calls trace) (key : String) (runtime : PlayerRuntimeState R)
    (present : call.session.players.find key = some runtime) : runtime.state.playerId = key := by
  obtain ⟨earlier, run, -⟩ := ledger.reached call member
  exact (MoveRuns.accounts (Runs.byMoves run).1 key runtime present).named

/-- The deaths of a run that satisfy a condition. -/
theorem WiredLedger.countP_deaths (ledger : WiredLedger trace server) (p : CombatEvent → Bool) :
    (deathEvents (sessionTrace trace)).countP p =
      ((calls trace).map fun call => (p call.death).toNat).sum := by
  rw [← ledger.deaths, List.countP_map, countP_eq_sum]
  rfl

/-- The profile of a player is there when a call concerned it, and adds up its entries in
the results of all calls. -/
theorem WiredLedger.getProfile (ledger : WiredLedger trace server) (playerId : String) :
    ∃ rating, server.profiles.getProfile playerId =
      if (calls trace).any fun call => takesPart call.death call.session playerId then
        some (buildProfileUnsafe playerId
          { recordedAll playerId {} ((calls trace).map CollectCall.result) with rating })
      else none := by
  obtain ⟨leaderboard, profiles⟩ := ledger.profiles
  obtain ⟨rating, shown⟩ := getProfile_foldl R leaderboard
    ((calls trace).map CollectCall.result) playerId
  refine ⟨rating, ?_⟩
  have concerned : (((calls trace).map CollectCall.result).any (concerns playerId)) =
      (calls trace).any fun call => takesPart call.death call.session playerId := by
    rw [List.any_map]
    exact congrArg (List.any (calls trace)) (funext fun call => concerns_result call playerId)
  rw [profiles, shown, concerned]

omit [DoubleConversions R] in
theorem totalFor_calls (made : List (CollectCall R)) (playerId : String)
    (field : PlayerMatchStats → Nat) (count : CollectCall R → Nat)
    (each : ∀ call, sumFor playerId field call.result.playerStats = count call) :
    totalFor playerId field (made.map CollectCall.result) = (made.map count).sum := by
  rw [totalFor, List.map_map]
  exact congrArg (fun f => (made.map f).sum) (funext each)

omit [DoubleConversions R] in
theorem sumFor_kills (playerId : String) (call : CollectCall R) :
    sumFor playerId PlayerMatchStats.kills call.result.playerStats =
      (totalsFor call.death call.session playerId).kills := by
  rw [CollectCall.result, sumFor_collect]
  split
  · rfl
  · next absent => exact (totalsFor_of_absent _ _ (Bool.eq_false_iff.mpr absent)).1.symm

omit [DoubleConversions R] in
theorem sumFor_deaths (playerId : String) (call : CollectCall R) :
    sumFor playerId PlayerMatchStats.deaths call.result.playerStats =
      (totalsFor call.death call.session playerId).deaths := by
  rw [CollectCall.result, sumFor_collect]
  split
  · rfl
  · next absent => exact (totalsFor_of_absent _ _ (Bool.eq_false_iff.mpr absent)).2.symm

/-- A profile counts the deaths of a run, each once. -/
structure LifetimeExact (history : List CombatEvent) (playerId : String) (profile : PlayerProfile) :
    Prop where
  kills : profile.kills = history.countP fun death => playerId == death.shooterId
  wins : profile.wins = history.countP fun death => playerId == death.shooterId
  deaths : profile.deaths = history.countP fun death => playerId == death.targetId
  losses : profile.losses = history.countP fun death => playerId == death.targetId

/-- A player's profile is exact when every call gave it what it should. -/
theorem WiredLedger.lifetimeExact_iff (ledger : WiredLedger trace server) (playerId : String)
    (rating : Int) :
    LifetimeExact (deathEvents (sessionTrace trace)) playerId (buildProfileUnsafe playerId
        { recordedAll playerId {} ((calls trace).map CollectCall.result) with rating }) ↔
      ∀ call ∈ calls trace,
        (totalsFor call.death call.session playerId).kills =
            (playerId == call.death.shooterId).toNat ∧
          (totalsFor call.death call.session playerId).deaths =
            (playerId == call.death.targetId).toNat := by
  have shooters := ledger.countP_deaths fun death => playerId == death.shooterId
  have targets := ledger.countP_deaths fun death => playerId == death.targetId
  have kills := totalFor_calls (calls trace) playerId PlayerMatchStats.kills _ (sumFor_kills playerId)
  have deaths := totalFor_calls (calls trace) playerId PlayerMatchStats.deaths _
    (sumFor_deaths playerId)
  have wins : ((calls trace).map CollectCall.result).countP (fun result =>
      playerId == result.winnerId) = (deathEvents (sessionTrace trace)).countP fun death =>
        playerId == death.shooterId := by
    rw [← ledger.deaths, List.countP_map, List.countP_map]
    rfl
  have losses : ((calls trace).map CollectCall.result).countP (fun result =>
      playerId == result.loserId) = (deathEvents (sessionTrace trace)).countP fun death =>
        playerId == death.targetId := by
    rw [← ledger.deaths, List.countP_map, List.countP_map]
    rfl
  have killsExact := sum_map_eq_iff (calls trace)
    (fun call => (totalsFor call.death call.session playerId).kills)
    (fun call => (playerId == call.death.shooterId).toNat)
    fun call _ => (totalsFor_lower call.death call.session playerId).1
  have deathsExact := sum_map_eq_iff (calls trace)
    (fun call => (totalsFor call.death call.session playerId).deaths)
    (fun call => (playerId == call.death.targetId).toNat)
    fun call _ => (totalsFor_lower call.death call.session playerId).2
  rw [← shooters, ← kills] at killsExact
  rw [← targets, ← deaths] at deathsExact
  rw [forall₂_and, ← killsExact, ← deathsExact]
  constructor
  · intro exact
    exact ⟨(Nat.zero_add _).symm.trans exact.kills, (Nat.zero_add _).symm.trans exact.deaths⟩
  · rintro ⟨sameKills, sameDeaths⟩
    exact ⟨(Nat.zero_add _).trans sameKills, (Nat.zero_add _).trans wins,
      (Nat.zero_add _).trans sameDeaths, (Nat.zero_add _).trans losses⟩

/-- After a run all profiles are exact exactly when no session that a result was collected
from had recorded another death. -/
theorem lifetimeTotals_iff (run : WiredServer.Runs trace server) :
    (∀ playerId profile, server.profiles.getProfile playerId = some profile →
      LifetimeExact (deathEvents (sessionTrace trace)) playerId profile) ↔
      ∀ call ∈ calls trace, OnlyDeath call.death call.session := by
  have ledger := Runs.ledger run
  constructor
  · intro exact call member
    refine onlyDeath_of_totals (ledger.named member) fun playerId => ?_
    obtain ⟨rating, shown⟩ := ledger.getProfile playerId
    by_cases known : (calls trace).any (fun call =>
        takesPart call.death call.session playerId) = true
    · rw [if_pos known] at shown
      exact (ledger.lifetimeExact_iff playerId rating).mp (exact playerId _ shown) call member
    · have absent := Bool.eq_false_iff.mpr fun part => known (List.any_eq_true.mpr ⟨call, member, part⟩)
      have lower := totalsFor_lower call.death call.session playerId
      have none := totalsFor_of_absent call.death call.session absent
      omega
  · intro only playerId profile found
    obtain ⟨rating, shown⟩ := ledger.getProfile playerId
    rw [shown] at found
    split at found
    · cases found
      refine (ledger.lifetimeExact_iff playerId rating).mpr fun call member => ?_
      exact ⟨(only call member).kills playerId,
        (only call member).deaths (ledger.named member) playerId⟩
    · cases found

end run

/-! ## A duel, and another one -/

/-- Six inputs that move a player to the right. -/
def walkAway (playerId : String) : List (WiredOp ℚ) :=
  List.replicate 6 (.onRead playerId ⟨1, false, false, false, true, 0, 0, false⟩ (1 / 8))

/-- Five shots to the right, each followed by a tick. -/
def shootFive (playerId : String) (firstTick : Nat) : List (WiredOp ℚ) :=
  (List.range 5).flatMap fun round =>
    [.onRead playerId ⟨1, false, false, false, false, 1, 0, true⟩ (1 / 8),
      .broadcastState (firstTick + round) (1 / 8) fun _ => 0]

/-- A server as `main` wires it. -/
noncomputable def freshServer : WiredServer ℚ := ⟨.new, .new (some .new)⟩

/-- A kills B. -/
def oneDuel : List (WiredOp ℚ) :=
  [.registerClient "A", .registerClient "B"] ++ walkAway "B" ++ shootFive "A" 0

/-- A kills B, who leaves and comes back, and A kills B again. -/
def twoDuels : List (WiredOp ℚ) :=
  oneDuel ++ [.unregisterClient "B", .registerClient "B"] ++ walkAway "B" ++ shootFive "A" 5

theorem lifetimeTotals_iff_oneDuel :
    ∃ (trace : List (WiredItem ℚ)) (server : WiredServer ℚ),
      (∀ playerId profile, server.profiles.getProfile playerId = some profile →
        LifetimeExact (deathEvents (sessionTrace trace)) playerId profile) ∧
      deathEvents (sessionTrace trace) = [⟨.death, "A", "B", "projectile-5", 0, 4⟩] := by
  have fresh : Initial freshServer := ⟨rfl, _, rfl⟩
  obtain ⟨trace, server, run, passed⟩ := exists_run_of_replay oneDuel
    (fun trace _ => decide (∀ call ∈ calls trace, OnlyDeath call.death call.session) &&
      decide (deathEvents (sessionTrace trace) = [⟨.death, "A", "B", "projectile-5", 0, 4⟩])) fresh
    (show (replay perform _ _).any _ = true by decide +kernel)
  simp only [Bool.and_eq_true, decide_eq_true_eq] at passed
  exact ⟨trace, server, (lifetimeTotals_iff run).mpr passed.1, passed.2⟩

/-- The second result of two duels counts the first kill again. -/
theorem twoDuels_countsThreeKills :
    ∃ (trace : List (WiredItem ℚ)) (server : WiredServer ℚ),
      WiredServer.Runs trace server ∧
      deathEvents (sessionTrace trace) =
        [⟨.death, "A", "B", "projectile-5", 0, 4⟩, ⟨.death, "A", "B", "projectile-10", 0, 9⟩] ∧
      ∃ profile, server.profiles.getProfile "A" = some profile ∧ profile.kills = 3 ∧
        ¬ LifetimeExact (deathEvents (sessionTrace trace)) "A" profile := by
  have fresh : Initial freshServer := ⟨rfl, _, rfl⟩
  obtain ⟨trace, server, run, passed⟩ := exists_run_of_replay twoDuels
    (fun trace (server : WiredServer ℚ) => decide (deathEvents (sessionTrace trace) =
        [⟨.death, "A", "B", "projectile-5", 0, 4⟩, ⟨.death, "A", "B", "projectile-10", 0, 9⟩]) &&
      decide ((server.profiles.getProfile "A").map PlayerProfile.kills = some 3)) fresh
    (show (replay perform _ _).any _ = true by decide +kernel)
  simp only [Bool.and_eq_true, decide_eq_true_eq] at passed
  obtain ⟨deaths, known⟩ := passed
  obtain ⟨profile, found, kills⟩ := Option.map_eq_some_iff.mp known
  refine ⟨trace, server, run, deaths, profile, found, kills, fun exact => ?_⟩
  have counted := exact.kills
  rw [kills, deaths] at counted
  cases counted

end WiredServer

end Arena60
