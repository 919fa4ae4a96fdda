import Arena60.Game.DeathLedger
import Arena60.Game.Stretches

/-!
# The dead

From its death until it enters again a player takes no part: it is not hit, does not die and does not
shoot, and it stays where it fell.
-/

namespace Arena60

open Misc

universe u

/-- The player has died, and not entered since. -/
def Fallen (playerId : String) (trace : List SessionItem) : Prop :=
  Standing (fun item => item.isDeathOf playerId = true) (fun item => item.isUpsertOf playerId = true) trace

instance (playerId : String) (trace : List SessionItem) : Decidable (Fallen playerId trace) := by
  unfold Fallen
  infer_instance

/-- The player is hit, dies or shoots. -/
def SessionItem.takesPart (playerId : String) (item : SessionItem) : Bool :=
  item.isHitOn playerId || item.isDeathOf playerId || item.isSpawnBy playerId

theorem not_upsert_of_death {playerId : String} {item : SessionItem} (death : item.isDeathOf playerId = true) :
    item.isUpsertOf playerId = false := by
  cases item with
  | combat event => rfl
  | _ => cases death

theorem fallen_cons {playerId : String} {item : SessionItem} {older : List SessionItem}
    (fallen : Fallen playerId (item :: older)) : item.isDeathOf playerId = true ∨
      item.isUpsertOf playerId = false ∧ Fallen playerId older := by
  rcases (standing_cons _ _ _ _).mp fallen with died | ⟨stays, before⟩
  · exact Or.inl died
  · exact Or.inr ⟨Bool.eq_false_iff.mpr stays, before⟩

/-- The life of the dead has a death. -/
theorem Fallen.deathsOf_pos {playerId : String} {trace : List SessionItem} (fallen : Fallen playerId trace) :
    0 < deathsOf playerId (life playerId trace) := by
  induction trace with
  | nil => exact absurd fallen (standing_nil _ _)
  | cons item older ih =>
      rcases fallen_cons fallen with died | ⟨stays, before⟩
      · rw [life, since_cons, not_upsert_of_death died, if_neg Bool.false_ne_true, deathsOf]
        exact List.countP_pos_iff.mpr ⟨item, List.mem_cons_self, died⟩
      · rw [life, since_cons, stays, if_neg Bool.false_ne_true]
        exact (ih before).trans_le ((List.sublist_cons_self _ _).countP_le)

theorem LifeAccount.dead {R : Type u} {playerId : String} {runtime : PlayerRuntimeState R}
    {trace : List SessionItem}
    (account : LifeAccount playerId runtime trace) (fallen : Fallen playerId trace) :
    runtime.state.isAlive = false ∧ runtime.health.current = 0 := by
  have died := fallen.deathsOf_pos
  have five : hitsOn playerId (life playerId trace) = 5 := by
    by_contra fewer
    rw [account.deathsInLife, if_neg fewer] at died
    exact Nat.lt_irrefl 0 died
  rw [account.alive, account.health, five]
  exact ⟨rfl, rfl⟩

/-- Items by which nobody takes part. -/
def Uneventful (items : List SessionItem) : Prop := ∀ playerId, ∀ item ∈ items, item.takesPart playerId = false

namespace GameSession

variable {R : Type u} {trace items : List SessionItem} {s s' : GameSession R}

variable [DoubleArith R]

/-- A move by which a player takes part finds it alive, and it dies last. -/
theorem Move.alive (accounts : Accounts trace s) (move : Move s items s') : Uneventful items ∨
    ∃ playerId runtime, s.players.find playerId = some runtime ∧ runtime.state.isAlive = true ∧
      ∀ item rest, item :: rest <:+ items.reverse → (∀ other, item.takesPart other = true → other = playerId) ∧
        ∀ earlier ∈ rest, earlier.isDeathOf playerId = false := by
  cases move with
  | upsert named => exact Or.inl fun other => List.forall_mem_singleton.mpr rfl
  | remove removed settled =>
      refine Or.inl fun other => List.forall_mem_cons.mpr ⟨rfl, ?_⟩
      intro item member
      obtain ⟨projectile, -, rfl⟩ := List.mem_map.mp member
      rfl
  | receive playerId => exact Or.inl fun other => List.forall_mem_singleton.mpr rfl
  | moveProjectiles tick deltaSeconds settled =>
      refine Or.inl fun other => List.forall_mem_cons.mpr ⟨rfl, ?_⟩
      intro item member
      obtain ⟨projectile, -, rfl⟩ := List.mem_map.mp member
      rfl
  | consume => exact Or.inl fun other => List.forall_mem_singleton.mpr rfl
  | @spawn playerId runtime projectile present alive id owner active =>
      refine Or.inr ⟨playerId, runtime, present, alive, ?_⟩
      intro item rest suffix
      obtain ⟨rfl, rfl⟩ := List.cons.inj (List.suffix_cons_iff.mp suffix |>.resolve_right fun none => by
        cases List.eq_nil_of_suffix_nil none)
      refine ⟨fun other shoots => ?_, fun earlier none => absurd none List.not_mem_nil⟩
      have shooter : projectile.ownerId = other := by
        simpa [SessionItem.takesPart, SessionItem.isHitOn, SessionItem.isDeathOf, SessionItem.isSpawnBy] using shoots
      rw [← shooter, owner, (accounts playerId runtime present).named]
  | @hit tick before after projectile key runtime stored active present alive other =>
      refine Or.inr ⟨key, runtime, present, alive, ?_⟩
      have named := (accounts key runtime present).named
      have events := registerHit_events s tick projectile key runtime
      intro item rest suffix
      have listed : item ∈ (s.registerHit tick projectile key runtime).2.map SessionItem.combat :=
        List.mem_reverse.mp (suffix.subset List.mem_cons_self)
      constructor
      · intro player suffers
        obtain ⟨event, happened, rfl⟩ := List.mem_map.mp listed
        have target : event.targetId = key := by
          rw [events] at happened
          rcases List.mem_cons.mp happened with rfl | later
          · exact named
          · split at later
            · rw [List.mem_singleton.mp later]
              exact named
            · cases later
        simp only [SessionItem.takesPart, SessionItem.isHitOn, SessionItem.isDeathOf, SessionItem.isSpawnBy,
          Bool.or_false, Bool.or_eq_true, Bool.and_eq_true, beq_iff_eq] at suffers
        rw [← target]
        rcases suffers with ⟨-, same⟩ | ⟨-, same⟩ <;> exact same.symm
      · -- only the hit itself is older than the newest item
        intro earlier member
        rw [events] at suffix
        split at suffix
        · rcases List.suffix_cons_iff.mp suffix with same | older
          · obtain ⟨-, rfl⟩ := List.cons.inj same
            rw [List.mem_singleton.mp member]
            rfl
          · rcases List.suffix_cons_iff.mp older with same | none
            · obtain ⟨-, rfl⟩ := List.cons.inj same
              cases member
            · cases List.eq_nil_of_suffix_nil none
        · rcases List.suffix_cons_iff.mp suffix with same | none
          · obtain ⟨-, rfl⟩ := List.cons.inj same
            cases member
          · cases List.eq_nil_of_suffix_nil none
  | _ => exact Or.inl fun other item member => absurd member List.not_mem_nil

/-- The dead take no part. -/
def AtPeace (trace : List SessionItem) : Prop :=
  ∀ playerId item older, item :: older <:+ trace → Fallen playerId older → item.takesPart playerId = false

theorem Accounts.atPeace (accounts : Accounts trace s) (peace : AtPeace trace) (move : Move s items s') :
    AtPeace (items.reverse ++ trace) := by
  intro playerId item older suffix fallen
  rcases suffix_cons_append suffix with old | ⟨rest, new, rfl⟩
  · exact peace playerId item older old fallen
  · have member : item ∈ items := List.mem_reverse.mp (new.subset List.mem_cons_self)
    rcases Move.alive accounts move with none | ⟨living, runtime, present, alive, late⟩
    · exact none playerId item member
    · obtain ⟨only, earlier⟩ := late item rest new
      by_contra part
      obtain rfl := only playerId (Bool.eq_true_of_not_eq_false part)
      have before : Fallen playerId trace := by
        rcases Standing.of_append fallen with ⟨death, listed, died⟩ | ⟨-, before⟩
        · rw [earlier death listed] at died
          cases died
        · exact before
      rw [((accounts playerId runtime present).dead before).1] at alive
      cases alive

theorem MoveRuns.atPeace (run : MoveRuns trace s) : AtPeace trace := by
  induction run with
  | start initial =>
      intro playerId item older suffix
      cases List.eq_nil_of_suffix_nil suffix
  | next earlier move ih => exact Accounts.atPeace (MoveRuns.accounts earlier) ih move

/-! ## Where the dead lie -/

/-- Only an upsert lets the player enter. -/
theorem perform_upserts {op : SessionOp R} (performed : perform op s = some (items, s')) {playerId : String}
    (undisturbed : ¬Disturbs playerId op) : ∀ item ∈ items, item.isUpsertOf playerId = false := by
  cases op with
  | upsertPlayer other =>
      obtain ⟨-, rfl, -⟩ := perform_upsertPlayer performed
      exact List.forall_mem_singleton.mpr (beq_eq_false_iff_ne.mpr undisturbed)
  | removePlayer other =>
      cases performed
      refine List.forall_mem_cons.mpr ⟨rfl, fun item member => ?_⟩
      obtain ⟨projectile, -, rfl⟩ := List.mem_map.mp member
      rfl
  | applyInput other input deltaSeconds =>
      cases performed
      refine List.forall_mem_cons.mpr ⟨rfl, fun item member => ?_⟩
      obtain ⟨projectile, -, rfl⟩ := List.mem_map.mp member
      rfl
  | tick tick deltaSeconds =>
      cases performed
      refine List.forall_mem_cons.mpr ⟨rfl, fun item member => ?_⟩
      rcases List.mem_append.mp member with expired | event
      · obtain ⟨projectile, -, rfl⟩ := List.mem_map.mp expired
        rfl
      · obtain ⟨event, -, rfl⟩ := List.mem_map.mp event
        rfl
  | consumeDeathEvents =>
      cases performed
      exact List.forall_mem_singleton.mpr rfl
  | reorder order =>
      cases performed
      exact fun item member => absurd member List.not_mem_nil

/-- The entry of a dead player that stays where it was. -/
structure LiesAt (runtime runtime' : PlayerRuntimeState R) : Prop where
  x : runtime'.state.x = runtime.state.x
  y : runtime'.state.y = runtime.state.y
  dead : runtime'.state.isAlive = false
  health : runtime'.state.health = 0

/-- An operation other than its entering and leaving lets the dead lie. -/
theorem EntryStep.place {playerId : String} {runtime runtime' : PlayerRuntimeState R} {op : SessionOp R}
    (step : EntryStep s playerId runtime runtime' op) (dead : runtime.state.isAlive = false) :
    runtime'.state.x = runtime.state.x ∧ runtime'.state.y = runtime.state.y := by
  cases op with
  | applyInput other input deltaSeconds =>
      unfold EntryStep at step
      dsimp only at step
      split at step
      · obtain ⟨shotsFired, state⟩ := step.state
        rw [state]
        unfold receive
        dsimp only
        rw [dead, if_neg Bool.false_ne_true]
        split <;> exact ⟨rfl, rfl⟩
      · rw [step]
        exact ⟨rfl, rfl⟩
  | tick tick deltaSeconds => exact ⟨Fought.x step, Fought.y step⟩
  | _ =>
      rw [show runtime' = runtime from step]
      exact ⟨rfl, rfl⟩

theorem Runs.liesAt {playerId : String} (run : Runs trace s) (fallen : Fallen playerId trace)
    {runtime : PlayerRuntimeState R} (present : s.players.find playerId = some runtime) (ops : List (SessionOp R))
    (undisturbed : ∀ op ∈ ops, ¬Disturbs playerId op) :
    ∃ runtime', (s.after ops).players.find playerId = some runtime' ∧ LiesAt runtime runtime' := by
  induction ops generalizing trace s runtime with
  | nil =>
      have account := MoveRuns.accounts run.byMoves.1 playerId runtime present
      obtain ⟨dead, health⟩ := account.dead fallen
      exact ⟨runtime, present, rfl, rfl, dead, account.shownHealth.trans health⟩
  | cons op ops ih =>
      obtain ⟨undisturbed, others⟩ := List.forall_mem_cons.mp undisturbed
      have account := MoveRuns.accounts run.byMoves.1 playerId runtime present
      obtain ⟨runtime₁, present₁, step⟩ := act_entry s undisturbed present
      obtain ⟨x, y⟩ := step.place (account.dead fallen).1
      obtain ⟨items, run₁, unentered⟩ : ∃ items, Runs (items ++ trace) (s.act op) ∧
          ∀ item ∈ items, item.isUpsertOf playerId = false := by
        cases performed : perform op s with
        | none =>
            have refused : s.act op = s := by rw [act, performed]
            refine ⟨[], ?_, fun item none => absurd none List.not_mem_nil⟩
            rw [refused]
            exact run
        | some result =>
            obtain ⟨items, s'⟩ := result
            have reached : s.act op = s' := by rw [act, performed]
            rw [reached]
            refine ⟨items.reverse, .next run ⟨op, performed⟩, fun item member => ?_⟩
            exact perform_upserts performed undisturbed item (List.mem_reverse.mp member)
      have fallen₁ : Fallen playerId (items ++ trace) := by
        obtain ⟨newer, death, older, rfl, died, stays⟩ := fallen
        refine ⟨items ++ newer, death, older, (List.append_assoc _ _ _).symm, died, ?_⟩
        intro item member
        rcases List.mem_append.mp member with new | old
        · exact Bool.eq_false_iff.mp (unentered item new)
        · exact stays item old
      obtain ⟨runtime', present', lies⟩ := ih run₁ fallen₁ present₁ others
      exact ⟨runtime', present', lies.x.trans x, lies.y.trans y, lies.dead, lies.health⟩

/-- From its death until it enters again a player takes no part in the session, and its body stays where it fell. -/
theorem Runs.dead_rest (run : Runs trace s) (playerId : String) :
    (∀ item older, item :: older <:+ trace → Fallen playerId older → item.takesPart playerId = false) ∧
      (Fallen playerId trace → ∀ runtime, s.players.find playerId = some runtime →
        ∀ ops, (∀ op ∈ ops, ¬Disturbs playerId op) →
          ∃ runtime', (s.after ops).players.find playerId = some runtime' ∧ LiesAt runtime runtime') :=
  ⟨MoveRuns.atPeace run.byMoves.1 playerId, fun fallen _ present => run.liesAt fallen present⟩

end GameSession

/-- `"B"` was shot four meters away, and cannot walk or shoot any more. -/
theorem dead_rest_fiveHits : ∃ (trace : List SessionItem) (s : GameSession ℚ) (runtime runtime' : PlayerRuntimeState ℚ),
    (∀ item older, item :: older <:+ trace → Fallen "B" older → item.takesPart "B" = false) ∧ Fallen "B" trace ∧
      s.players.find "B" = some runtime ∧ runtime.state.x = 4 ∧
      (s.after [.applyInput "B" ⟨2, false, false, true, false, 1, 0, true⟩ 1, .tick 5 (1 / 8)]).players.find "B" =
        some runtime' ∧ GameSession.LiesAt runtime runtime' := by
  have fresh : (GameSession.new : GameSession ℚ).Initial := rfl
  obtain ⟨trace, s, run, passed⟩ := exists_run_of_replay fiveHits
    (fun trace s => decide (Fallen "B" trace) && (s.players.find "B").any fun runtime => runtime.state.x == 4) fresh
    (show (replay GameSession.perform _ _).any _ = true by decide +kernel)
  rw [Bool.and_eq_true, decide_eq_true_iff] at passed
  obtain ⟨fallen, place⟩ := passed
  obtain ⟨runtime, present, place⟩ := (Option.any_eq_true _ _).mp place
  obtain ⟨peace, lies⟩ := GameSession.Runs.dead_rest run "B"
  have others : ∀ op ∈ [.applyInput "B" ⟨2, false, false, true, false, 1, 0, true⟩ 1, SessionOp.tick 5 (1 / 8 : ℚ)],
      ¬GameSession.Disturbs "B" op := by simp [GameSession.Disturbs]
  obtain ⟨runtime', present', body⟩ := lies fallen runtime present _ others
  exact ⟨trace, s, runtime, runtime', peace, fallen, present, eq_of_beq place, present', body⟩

end Arena60
