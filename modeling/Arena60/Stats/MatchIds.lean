import Arena60.Game.TickDeaths
import Arena60.Misc.ExactArith
import Arena60.Misc.InputStreams
import Arena60.Misc.NumberedNames
import Arena60.Stats.MatchStats

/-!
# The ids of matches

`Collect` writes the tick, the winner and the loser of a death into one text. The tick can be read back
from it; the two names cannot, since a name may hold the `-vs-` that stands between them.
-/

namespace Arena60

open Misc MatchStatsCollector

universe u

/-! ## Reading an id -/

/-- Two pairs of names with the same text, the second winner being the longer one: its name goes on with
the separator, or with the part of it that the loser of the first pair completes. -/
def ReadsLonger (winner loser winner' loser' : String) : Prop :=
  (winner' = winner ++ "-vs" ∧ loser = "vs-" ++ loser') ∨
    ∃ middle, winner' = winner ++ "-vs-" ++ middle ∧ loser = middle ++ "-vs-" ++ loser'

/-- The separator in front of a text that is found again some characters later. -/
theorem separator_shifted_iff (shift loser loser' : List Char) :
    ['-', 'v', 's', '-'] ++ loser = shift ++ (['-', 'v', 's', '-'] ++ loser') ↔
      (shift = [] ∧ loser = loser') ∨
        (shift = ['-', 'v', 's'] ∧ loser = ['v', 's', '-'] ++ loser') ∨
          ∃ middle, shift = ['-', 'v', 's', '-'] ++ middle ∧
            loser = middle ++ (['-', 'v', 's', '-'] ++ loser') := by
  -- within the separator only its last character can be its first one again
  rcases shift with _ | ⟨first, _ | ⟨second, _ | ⟨third, _ | ⟨fourth, middle⟩⟩⟩⟩
  · simp
  · simp
  · simp
  · grind
  · grind

/-- A second winner that is the longer one. -/
theorem exists_shift_iff (winner loser winner' loser' : String) :
    (∃ shift : List Char, winner'.toList = winner.toList ++ shift ∧
      ['-', 'v', 's', '-'] ++ loser.toList = shift ++ (['-', 'v', 's', '-'] ++ loser'.toList)) ↔
      (winner = winner' ∧ loser = loser') ∨ ReadsLonger winner loser winner' loser' := by
  unfold ReadsLonger
  simp only [← String.toList_inj, String.toList_append]
  constructor
  · rintro ⟨shift, longer, split⟩
    rcases (separator_shifted_iff _ _ _).mp split with
      ⟨rfl, same⟩ | ⟨rfl, rest⟩ | ⟨middle, rfl, rest⟩
    · exact Or.inl ⟨(longer.trans (List.append_nil _)).symm, same⟩
    · exact Or.inr (Or.inl ⟨longer, rest⟩)
    · have back : (String.ofList middle).toList = middle := String.toList_ofList
      refine Or.inr (Or.inr ⟨String.ofList middle, ?_, ?_⟩)
      · rw [back, List.append_assoc]
        exact longer
      · rw [back, List.append_assoc]
        exact rest
  · rintro (⟨same, same'⟩ | ⟨longer, rest⟩ | ⟨middle, longer, rest⟩)
    · exact ⟨[], by rw [same, List.append_nil], by rw [same', List.nil_append]⟩
    · exact ⟨['-', 'v', 's'], longer,
        (separator_shifted_iff _ _ _).mpr (Or.inr (Or.inl ⟨rfl, rest⟩))⟩
    · rw [List.append_assoc] at longer rest
      exact ⟨_, longer, (separator_shifted_iff _ _ _).mpr (Or.inr (Or.inr ⟨_, rfl, rest⟩))⟩

/-- The text of a pair of names determines them up to a longer reading. -/
theorem versus_eq_iff (winner loser winner' loser' : String) :
    winner ++ "-vs-" ++ loser = winner' ++ "-vs-" ++ loser' ↔
      (winner = winner' ∧ loser = loser') ∨ ReadsLonger winner loser winner' loser' ∨
        ReadsLonger winner' loser' winner loser := by
  have texts : winner ++ "-vs-" ++ loser = winner' ++ "-vs-" ++ loser' ↔
      winner.toList ++ (['-', 'v', 's', '-'] ++ loser.toList) =
        winner'.toList ++ (['-', 'v', 's', '-'] ++ loser'.toList) := by
    rw [← String.toList_inj, String.append_assoc, String.append_assoc]
    simp only [String.toList_append]
    exact Iff.rfl
  rw [texts, List.append_eq_append_iff]
  have first := exists_shift_iff winner loser winner' loser'
  have second := exists_shift_iff winner' loser' winner loser
  rw [first, second]
  constructor
  · rintro ((same | longer) | (⟨same, same'⟩ | longer))
    · exact Or.inl same
    · exact Or.inr (Or.inl longer)
    · exact Or.inl ⟨same.symm, same'.symm⟩
    · exact Or.inr (Or.inr longer)
  · rintro (same | longer | longer)
    · exact Or.inl (Or.inl same)
    · exact Or.inl (Or.inr longer)
    · exact Or.inr (Or.inr longer)

/-- An id holds the tick and the text of the names. -/
theorem matchIdOf_eq_iff (death death' : CombatEvent) :
    matchIdOf death = matchIdOf death' ↔ death.tick = death'.tick ∧
      death.shooterId ++ "-vs-" ++ death.targetId = death'.shooterId ++ "-vs-" ++ death'.targetId := by
  have split : ∀ event : CombatEvent, (matchIdOf event).toList = "match-".toList ++
      (Nat.toDigits 10 event.tick ++ '-' :: (event.shooterId ++ "-vs-" ++ event.targetId).toList) := by
    intro event
    simp [matchIdOf]
  rw [← String.toList_inj, split, split]
  constructor
  · intro same
    obtain ⟨tick, names⟩ := toDigits_append_inj (by decide) (List.append_cancel_left same)
    exact ⟨tick, String.toList_inj.mp names⟩
  · rintro ⟨tick, names⟩
    rw [tick, names]

/-! ## The deaths of a run -/

namespace GameSession

variable {R : Type u} [DoubleArith R] {trace : List SessionItem} {s : GameSession R}

/-- A run that numbers its ticks differently has one death of a player in a tick at most. -/
theorem Runs.deaths_nodup (run : Runs trace s) (numbered : (ticks trace).Nodup) :
    ((deathEvents trace).map fun death => (death.tick, death.targetId)).Nodup := by
  revert numbered
  refine Run.invariant (P := fun trace _ => (ticks trace).Nodup →
    ((deathEvents trace).map fun death => (death.tick, death.targetId)).Nodup) ?_ ?_ run
  · intro s _ _
    exact List.nodup_nil
  · rintro trace s items s' run distinct ⟨op, performed⟩ numbered
    by_cases ticking : ∃ tick deltaSeconds, op = .tick tick deltaSeconds
    · obtain ⟨tick, deltaSeconds, rfl⟩ := ticking
      rw [ticks_perform performed, List.nodup_cons] at numbered
      obtain ⟨fresh, earlier⟩ := numbered
      have targets := (Runs.tickDeaths_spec run tick deltaSeconds).1
      rw [deathEvents_append, filterMap_combat_tick performed, List.map_append, List.nodup_append]
      refine ⟨distinct earlier, ?_, ?_⟩
      · refine List.Nodup.of_map Prod.snd ?_
        rw [List.map_map]
        exact targets
      · rintro key old key' new rfl
        obtain ⟨death, listed, rfl⟩ := List.mem_map.mp old
        obtain ⟨death', listed', same⟩ := List.mem_map.mp new
        have known := (Runs.stamped run death (List.mem_filter.mp listed).1).1
        have stamped := (tickDeaths_stamped s listed').2
        rw [← (Prod.mk.inj same).1, stamped] at known
        exact fresh known
    · have none : items.filterMap SessionItem.combat? = [] := by
        rw [List.filterMap_eq_nil_iff]
        intro item member
        cases item with
        | combat event =>
            obtain ⟨tick, deltaSeconds, same, -⟩ := perform_combat performed member
            exact absurd ⟨tick, deltaSeconds, same⟩ ticking
        | _ => rfl
      have same : deathEvents (items.reverse ++ trace) = deathEvents trace := by
        rw [deathEvents_append, none]
        exact List.append_nil _
      rw [same]
      rw [ticks, List.filterMap_append, List.nodup_append] at numbered
      exact distinct numbered.2.1

/-- The ids of two different deaths are the same only when both happened in one tick and the names of
winner and loser read the same with `-vs-` between them. -/
theorem matchIds_eq_iff (run : Runs trace s) (numbered : (ticks trace).Nodup) {i j : Nat} (differ : i ≠ j)
    {death death' : CombatEvent} (first : (deathEvents trace)[i]? = some death)
    (second : (deathEvents trace)[j]? = some death') (session session' : GameSession R)
    (completedAt completedAt' : Int) :
    (collect death session completedAt).matchId = (collect death' session' completedAt').matchId ↔
      death.tick = death'.tick ∧
        (ReadsLonger death.shooterId death.targetId death'.shooterId death'.targetId ∨
          ReadsLonger death'.shooterId death'.targetId death.shooterId death.targetId) := by
  have distinct := Runs.deaths_nodup run numbered
  have other : death.tick = death'.tick → death.targetId ≠ death'.targetId := by
    intro tick target
    have same : ((deathEvents trace).map fun death => (death.tick, death.targetId))[i]? =
        ((deathEvents trace).map fun death => (death.tick, death.targetId))[j]? := by
      rw [List.getElem?_map, List.getElem?_map, first, second, Option.map_some, Option.map_some,
        tick, target]
    have inside : i < ((deathEvents trace).map fun death => (death.tick, death.targetId)).length := by
      rw [List.length_map]
      exact (List.getElem?_eq_some_iff.mp first).1
    exact differ ((List.getElem?_inj inside distinct).mp same)
  show matchIdOf death = matchIdOf death' ↔ _
  rw [matchIdOf_eq_iff, versus_eq_iff]
  refine and_congr_right fun tick => or_iff_right ?_
  rintro ⟨-, target⟩
  exact other tick target

/-- Two duels at a time: "a" shoots "b-vs-c" dead while "a-vs-b" shoots "c" dead four meters below. -/
def twoDuels : List (SessionOp ℚ) :=
  let right : MovementInput ℚ := ⟨1, false, false, false, true, 0, 0, false⟩
  let down : MovementInput ℚ := ⟨1, false, true, false, false, 0, 0, false⟩
  let fire : MovementInput ℚ := ⟨1, false, false, false, false, 1, 0, true⟩
  [.upsertPlayer "a", .upsertPlayer "b-vs-c", .upsertPlayer "a-vs-b", .upsertPlayer "c",
    .applyInput "b-vs-c" right (4 / 5), .applyInput "c" right (4 / 5), .applyInput "c" down (4 / 5),
    .applyInput "a-vs-b" down (4 / 5)] ++
    (List.range 5).flatMap fun round =>
      [.applyInput "a" fire 0, .applyInput "a-vs-b" fire 0, .tick round (1 / 8)]

/-- The names of a run are not empty and hold no white space, and its ticks are numbered differently. -/
def Proper (trace : List SessionItem) : Prop :=
  (ticks trace).Nodup ∧ ∀ playerId ∈ enteredIds trace, playerId ≠ "" ∧ playerId.toList.any isSpace = false

instance (trace : List SessionItem) : Decidable (Proper trace) := inferInstanceAs (Decidable (_ ∧ _))

theorem exists_twoDuels : ∃ trace, ∃ s : GameSession ℚ, Runs trace s ∧ Proper trace ∧
    deathEvents trace = [⟨.death, "a", "b-vs-c", "projectile-9", 0, 4⟩,
      ⟨.death, "a-vs-b", "c", "projectile-10", 0, 4⟩] := by
  have fresh : (GameSession.new : GameSession ℚ).Initial := rfl
  obtain ⟨trace, s, run, passed⟩ := exists_run_of_replay twoDuels
    (fun trace _ => decide (Proper trace) &&
      decide (deathEvents trace = [⟨.death, "a", "b-vs-c", "projectile-9", 0, 4⟩,
        ⟨.death, "a-vs-b", "c", "projectile-10", 0, 4⟩])) fresh
    (show (replay GameSession.perform _ _).any _ = true by decide +kernel)
  simp only [Bool.and_eq_true, decide_eq_true_eq] at passed
  exact ⟨trace, s, run, passed⟩

theorem matchIds_coincide_twoDuels :
    ¬∀ (trace : List SessionItem) (s : GameSession ℚ), Runs trace s → Proper trace →
      ∀ (i j : Nat) (death death' : CombatEvent), i ≠ j → (deathEvents trace)[i]? = some death →
        (deathEvents trace)[j]? = some death' → ∀ (session session' : GameSession ℚ)
          (completedAt completedAt' : Int), (collect death session completedAt).matchId ≠
            (collect death' session' completedAt').matchId := by
  intro different
  obtain ⟨trace, s, run, proper, deaths⟩ := exists_twoDuels
  refine different trace s run proper 0 1 _ _ (by decide) (by rw [deaths]; rfl) (by rw [deaths]; rfl)
    s s 0 0 ?_
  show matchIdOf _ = matchIdOf _
  decide

theorem matchIds_eq_iff_twoDuels :
    ∃ trace, ∃ s : GameSession ℚ, Runs trace s ∧ ∃ death death', deathEvents trace = [death, death'] ∧
      (collect death s 0).matchId = (collect death' s 0).matchId := by
  obtain ⟨trace, s, run, proper, deaths⟩ := exists_twoDuels
  refine ⟨trace, s, run, _, _, deaths, ?_⟩
  refine (matchIds_eq_iff run proper.1 (i := 0) (j := 1) (by decide) (by rw [deaths]; rfl)
    (by rw [deaths]; rfl) s s 0 0).mpr ⟨rfl, Or.inl (Or.inr ⟨"b", by decide, by decide⟩)⟩

end GameSession

end Arena60
