import Arena60.Game.DeathLedger
import Arena60.Game.ProjectileLedger
import Arena60.Misc.Sums

/-!
# The totals of the combat

The totals of a session against each other: a death takes five hits on the player, and a hit takes a
projectile that is no longer in flight.
-/

namespace Arena60

open Misc

universe u

variable {R : Type u} {trace : List SessionItem} {s : GameSession R}

/-- The hits and deaths of a player against those of its life. -/
structure FiveHitsEach (playerId : String) (trace : List SessionItem) : Prop where
  earlier : 5 * deathsOf playerId trace + hitsOn playerId (life playerId trace) ≤
    hitsOn playerId trace + 5 * deathsOf playerId (life playerId trace)
  life : 5 * deathsOf playerId (life playerId trace) +
    (trace.head?.any (SessionItem.isHitOn playerId)).toNat ≤ hitsOn playerId (life playerId trace)

theorem fiveHitsEach (playerId : String) (announced : ∀ death older, .combat death :: older <:+ trace →
    death.type = .death → AnnouncedByFifthHit death older) : FiveHitsEach playerId trace := by
  induction trace with
  | nil => exact ⟨Nat.le_refl _, Nat.le_refl _⟩
  | cons item older ih =>
      obtain ⟨earlier, inLife⟩ := ih fun death rest suffix => announced death rest (suffix.trans (List.suffix_cons _ _))
      have deaths : ∀ items, deathsOf playerId (item :: items) =
          deathsOf playerId items + (item.isDeathOf playerId).toNat := by
        intro items
        rw [deathsOf, List.countP_cons, deathsOf]
        cases item.isDeathOf playerId <;> rfl
      have hits : ∀ items, hitsOn playerId (item :: items) =
          hitsOn playerId items + (item.isHitOn playerId).toNat := by
        intro items
        rw [hitsOn, List.countP_cons, hitsOn]
        cases item.isHitOn playerId <;> rfl
      by_cases entered : item.isUpsertOf playerId = true
      · have noHit : item.isHitOn playerId = false := by
          cases item with
          | upserted other fresh => rfl
          | _ => cases entered
        have noDeath : item.isDeathOf playerId = false := by
          cases item with
          | upserted other fresh => rfl
          | _ => cases entered
        have newLife : life playerId (item :: older) = [] := by rw [life, since_cons, if_pos entered]
        constructor
        · have nothing : hitsOn playerId [] = 0 ∧ deathsOf playerId [] = 0 := ⟨rfl, rfl⟩
          rw [newLife, deaths, hits, noHit, noDeath, nothing.1, nothing.2]
          simp only [Bool.toNat_false]
          omega
        · rw [newLife, List.head?_cons, Option.any_some, noHit]
          exact Nat.le_refl _
      · have goesOn : life playerId (item :: older) = item :: life playerId older := by
          rw [life, since_cons, if_neg entered, life]
        constructor
        · rw [goesOn, deaths, deaths, hits, hits]
          omega
        · rw [goesOn, deaths, hits, List.head?_cons, Option.any_some]
          by_cases dies : item.isDeathOf playerId = true
          · -- a death: the newest item is the fifth hit, and the life has no other death
            cases item with
            | combat death =>
                obtain ⟨type, target⟩ := (Bool.and_eq_true _ _).mp dies
                obtain ⟨hit, rest, rfl, isHit, -, same, -, -, five⟩ :=
                  announced death older (List.suffix_refl _) (eq_of_beq type)
                rw [eq_of_beq target] at same five
                have struck : (SessionItem.combat hit).isHitOn playerId = true := by
                  simp [SessionItem.isHitOn, isHit, same]
                have noHit : (SessionItem.combat death).isHitOn playerId = false := by
                  simp [SessionItem.isHitOn, eq_of_beq type]
                rw [List.head?_cons, Option.any_some, struck, five] at inLife
                rw [dies, noHit, five]
                simp only [Bool.toNat_true, Bool.toNat_false] at inLife ⊢
                omega
            | _ => cases dies
          · rw [Bool.not_eq_true] at dies
            rw [dies]
            simp only [Bool.toNat_false]
            omega

/-- How the totals of a session relate. -/
structure CombatTotals (trace : List SessionItem) (s : GameSession R) : Prop where
  lethal : 5 * (deathEvents trace).length ≤ (hitEvents trace).length
  spent : s.live.length + (hitEvents trace).length ≤ (spawnedIds trace).length

theorem GameSession.MoveRuns.combatTotals [DoubleArith R] (run : MoveRuns trace s) : CombatTotals trace s := by
  constructor
  · refine mul_length_le_of_countP CombatEvent.targetId CombatEvent.targetId fun playerId => ?_
    have five := fiveHitsEach playerId run.combatLedger.announced
    have counted := Nat.add_le_add five.earlier five.life
    have deaths : (deathEvents trace).countP (fun death => death.targetId == playerId) = deathsOf playerId trace := by
      rw [deathEvents, List.countP_filter, deathsOf_eq]
      simp only [Bool.and_comm]
    have hits : (hitEvents trace).countP (fun hit => hit.targetId == playerId) = hitsOn playerId trace := by
      rw [hitEvents, List.countP_filter, hitsOn_eq]
      simp only [Bool.and_comm]
    rw [deaths, hits]
    omega
  · have among : ((s.live.map Projectile.id ++ hitIds trace : List String) : Multiset String) ≤ spawnedIds trace := by
      rw [Multiset.le_iff_count]
      intro id
      have balance := run.projectileLedger.balance id
      rw [Multiset.coe_count, Multiset.coe_count, List.count_append]
      omega
    have sizes := Multiset.card_le_card among
    rwa [Multiset.coe_card, Multiset.coe_card, List.length_append, List.length_map, hitIds, List.length_map] at sizes

end Arena60
