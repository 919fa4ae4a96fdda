import Arena60.Network.LifetimeTotals

/-!
# Matches, wins and losses

`Collect` reports a match for everybody in the session and in the log, but only two of
them win or lose it: the counts agree exactly as long as nobody else is there.
-/

namespace Arena60

open Misc GameSession MatchStatsCollector PlayerProfileService

universe u

/-- The session has seen nobody but the two of this death: nobody else is present, and the
log up to its tick names nobody else. -/
structure NoBystander {R : Type u} (death : CombatEvent) (s : GameSession R) : Prop where
  present : ∀ playerId, s.players.contains playerId = true →
    playerId = death.shooterId ∨ playerId = death.targetId
  inLog : ∀ event ∈ logged death s,
    (event.shooterId = death.shooterId ∨ event.shooterId = death.targetId) ∧
      (event.targetId = death.shooterId ∨ event.targetId = death.targetId)

instance {R : Type u} (death : CombatEvent) (s : GameSession R) : Decidable (NoBystander death s) :=
  decidable_of_iff
    ((∀ playerId ∈ s.players.keys, playerId = death.shooterId ∨ playerId = death.targetId) ∧
      ∀ event ∈ logged death s,
        (event.shooterId = death.shooterId ∨ event.shooterId = death.targetId) ∧
          (event.targetId = death.shooterId ∨ event.targetId = death.targetId))
    ⟨fun ⟨present, inLog⟩ => ⟨fun playerId there =>
        present playerId ((s.players.contains_iff playerId).mp there), inLog⟩,
      fun only => ⟨fun playerId listed =>
        only.present playerId ((s.players.contains_iff playerId).mpr listed), only.inLog⟩⟩

section noBystander

variable {R : Type u} {death : CombatEvent} {s : GameSession R}

theorem takesPart_of_either (s : GameSession R) {playerId : String}
    (either : playerId = death.shooterId ∨ playerId = death.targetId) :
    takesPart death s playerId = true := by
  rcases either with rfl | rfl <;> simp [takesPart]

/-- Nobody else is there exactly when nobody else takes part. -/
theorem noBystander_iff
    (named : ∀ key runtime, s.players.find key = some runtime → runtime.state.playerId = key) :
    NoBystander death s ↔ ∀ playerId, takesPart death s playerId = true →
      playerId = death.shooterId ∨ playerId = death.targetId := by
  constructor
  · intro only playerId part
    simp only [takesPart, Bool.or_eq_true, beq_iff_eq] at part
    rcases part with (either | mentioned) | seen
    · exact either
    · obtain ⟨event, member, same⟩ := List.any_eq_true.mp mentioned
      obtain ⟨shooter, target⟩ := only.inLog event member
      rcases (Bool.or_eq_true _ _).mp same with same | same
      · exact eq_of_beq same ▸ target
      · exact eq_of_beq same ▸ shooter
    · rw [(firstEntry_of_named s named playerId).2] at seen
      exact only.present playerId seen
  · intro only
    have mentions : ∀ event ∈ logged death s, ∀ playerId,
        playerId = event.targetId ∨ playerId = event.shooterId →
          playerId = death.shooterId ∨ playerId = death.targetId := by
      intro event member playerId either
      apply only
      have mentioned : MatchStatsCollector.named playerId (logged death s) = true :=
        List.any_eq_true.mpr ⟨event, member, by simpa using either⟩
      rw [takesPart, mentioned, Bool.or_true, Bool.true_or]
    constructor
    · intro playerId present
      apply only
      rw [takesPart, (firstEntry_of_named s named playerId).2, present, Bool.or_true]
    · intro event member
      exact ⟨mentions event member _ (Or.inr rfl), mentions event member _ (Or.inl rfl)⟩

/-- Nobody takes part less often than it wins or loses. -/
theorem takesPart_lower (s : GameSession R) (foreign : death.shooterId ≠ death.targetId)
    (playerId : String) :
    (playerId == death.shooterId).toNat + (playerId == death.targetId).toNat ≤
      (takesPart death s playerId).toNat := by
  rw [toNat_beq, toNat_beq]
  by_cases won : playerId = death.shooterId
  · have notLost : playerId ≠ death.targetId := fun lost => foreign (won.symm.trans lost)
    rw [if_pos won, if_neg notLost, takesPart_of_either s (Or.inl won)]
    exact Nat.le_refl 1
  · rw [if_neg won]
    by_cases lost : playerId = death.targetId
    · rw [if_pos lost, takesPart_of_either s (Or.inr lost)]
      exact Nat.le_refl 1
    · rw [if_neg lost]
      exact Nat.zero_le _

theorem takesPart_exact_iff (s : GameSession R) (foreign : death.shooterId ≠ death.targetId)
    (playerId : String) :
    (takesPart death s playerId).toNat =
        (playerId == death.shooterId).toNat + (playerId == death.targetId).toNat ↔
      (takesPart death s playerId = true →
        playerId = death.shooterId ∨ playerId = death.targetId) := by
  have lower := takesPart_lower s foreign playerId
  rw [toNat_beq, toNat_beq] at lower ⊢
  constructor
  · intro exact part
    rw [part, Bool.toNat_true] at exact
    by_contra neither
    rw [not_or] at neither
    rw [if_neg neither.1, if_neg neither.2] at exact
    cases exact
  · intro either
    cases part : takesPart death s playerId with
    | false =>
        rw [part, Bool.toNat_false] at lower
        rw [Bool.toNat_false]
        omega
    | true =>
        have atMost : (true : Bool).toNat ≤
            (if playerId = death.shooterId then 1 else 0) +
              if playerId = death.targetId then 1 else 0 := by
          rcases either part with won | lost
          · rw [if_pos won]
            exact Nat.le_add_right 1 _
          · rw [if_pos lost]
            exact Nat.le_add_left 1 _
        rw [part] at lower
        omega

end noBystander

/-! ## All results of a run -/

namespace WiredServer

section run

variable {R : Type u} [DoubleConversions R] {trace : List (WiredItem R)} {server : WiredServer R}

omit [DoubleConversions R] in
theorem sumFor_appearances (playerId : String) (call : CollectCall R) :
    sumFor playerId (fun _ => 1) call.result.playerStats =
      (takesPart call.death call.session playerId).toNat := by
  rw [CollectCall.result, sumFor_collect]
  cases takesPart call.death call.session playerId <;> rfl

theorem WiredLedger.foreign (ledger : WiredLedger trace server) {call : CollectCall R}
    (member : call ∈ calls trace) : call.death.shooterId ≠ call.death.targetId := by
  obtain ⟨earlier, run, died⟩ := ledger.reached call member
  exact Runs.death_foreign run died

/-- A player's matches are its wins and losses when it took part in every match that it is
reported for. -/
theorem WiredLedger.matches_iff (ledger : WiredLedger trace server) (playerId : String)
    (rating : Int) {profile : PlayerProfile}
    (made : profile = buildProfileUnsafe playerId
      { recordedAll playerId {} ((calls trace).map CollectCall.result) with rating }) :
    profile.matchesPlayed = profile.wins + profile.losses ↔
      ∀ call ∈ calls trace, takesPart call.death call.session playerId = true →
        playerId = call.death.shooterId ∨ playerId = call.death.targetId := by
  have appearances := totalFor_calls (calls trace) playerId (fun _ => 1) _
    (sumFor_appearances playerId)
  have wins : ((calls trace).map CollectCall.result).countP (fun result =>
      playerId == result.winnerId) =
        ((calls trace).map fun call => (playerId == call.death.shooterId).toNat).sum := by
    rw [List.countP_map, countP_eq_sum]
    rfl
  have losses : ((calls trace).map CollectCall.result).countP (fun result =>
      playerId == result.loserId) =
        ((calls trace).map fun call => (playerId == call.death.targetId).toNat).sum := by
    rw [List.countP_map, countP_eq_sum]
    rfl
  have exact := sum_map_eq_iff (calls trace)
    (fun call => (takesPart call.death call.session playerId).toNat)
    (fun call => (playerId == call.death.shooterId).toNat + (playerId == call.death.targetId).toNat)
    fun call member => takesPart_lower call.session (ledger.foreign member) playerId
  have fields : profile.matchesPlayed = profile.wins + profile.losses ↔
      0 + totalFor playerId (fun _ => 1) ((calls trace).map CollectCall.result) =
        0 + ((calls trace).map CollectCall.result).countP (fun result => playerId == result.winnerId) +
          (0 + ((calls trace).map CollectCall.result).countP fun result =>
            playerId == result.loserId) := by
    rw [made]
    rfl
  rw [fields, appearances, wins, losses, Nat.zero_add, Nat.zero_add, Nat.zero_add,
    ← List.sum_map_add, exact]
  constructor
  · intro each call member
    exact (takesPart_exact_iff call.session (ledger.foreign member) playerId).mp (each call member)
  · intro each call member
    exact (takesPart_exact_iff call.session (ledger.foreign member) playerId).mpr (each call member)

/-- After a run all profiles have as many matches as wins and losses exactly when no
session that a result was collected from had seen a third player. -/
theorem matchCounts_iff (run : WiredServer.Runs trace server) :
    (∀ playerId profile, server.profiles.getProfile playerId = some profile →
      profile.matchesPlayed = profile.wins + profile.losses) ↔
      ∀ call ∈ calls trace, NoBystander call.death call.session := by
  have ledger := Runs.ledger run
  constructor
  · intro exact call member
    rw [noBystander_iff (ledger.named member)]
    intro playerId part
    obtain ⟨rating, shown⟩ := ledger.getProfile playerId
    rw [if_pos (List.any_eq_true.mpr ⟨call, member, part⟩)] at shown
    exact (ledger.matches_iff playerId rating rfl).mp (exact playerId _ shown) call member part
  · intro only playerId profile found
    obtain ⟨rating, shown⟩ := ledger.getProfile playerId
    rw [shown] at found
    split at found
    · cases found
      refine (ledger.matches_iff playerId rating rfl).mpr fun call member part => ?_
      exact (noBystander_iff (ledger.named member)).mp (only call member) playerId part
    · cases found

end run

/-- A duel with a third player in the session. -/
def watchedDuel : List (WiredOp ℚ) := .registerClient "C" :: oneDuel

theorem matchCounts_iff_oneDuel :
    ∃ (trace : List (WiredItem ℚ)) (server : WiredServer ℚ),
      (∀ playerId profile, server.profiles.getProfile playerId = some profile →
        profile.matchesPlayed = profile.wins + profile.losses) ∧
      deathEvents (sessionTrace trace) = [⟨.death, "A", "B", "projectile-5", 0, 4⟩] := by
  have fresh : Initial freshServer := ⟨rfl, _, rfl⟩
  obtain ⟨trace, server, run, passed⟩ := exists_run_of_replay oneDuel
    (fun trace _ => decide (∀ call ∈ calls trace, NoBystander call.death call.session) &&
      decide (deathEvents (sessionTrace trace) = [⟨.death, "A", "B", "projectile-5", 0, 4⟩])) fresh
    (show (replay perform _ _).any _ = true by decide +kernel)
  simp only [Bool.and_eq_true, decide_eq_true_eq] at passed
  exact ⟨trace, server, (matchCounts_iff run).mpr passed.1, passed.2⟩

/-- The third player has a match that it neither won nor lost. -/
theorem watchedDuel_countsForThree :
    ∃ (trace : List (WiredItem ℚ)) (server : WiredServer ℚ),
      WiredServer.Runs trace server ∧
      ∃ profile, server.profiles.getProfile "C" = some profile ∧ profile.matchesPlayed = 1 ∧
        profile.wins = 0 ∧ profile.losses = 0 := by
  have fresh : Initial freshServer := ⟨rfl, _, rfl⟩
  obtain ⟨trace, server, run, passed⟩ := exists_run_of_replay watchedDuel
    (fun _ (server : WiredServer ℚ) => decide ((server.profiles.getProfile "C").map (fun profile =>
      (profile.matchesPlayed, profile.wins, profile.losses)) = some (1, 0, 0))) fresh
    (show (replay perform _ _).any _ = true by decide +kernel)
  obtain ⟨profile, found, counts⟩ := Option.map_eq_some_iff.mp (of_decide_eq_true passed)
  simp only [Prod.mk.injEq] at counts
  exact ⟨trace, server, run, profile, found, counts⟩

end WiredServer

end Arena60
