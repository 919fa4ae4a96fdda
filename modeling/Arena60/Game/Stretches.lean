import Arena60.Game.Frames
import Arena60.Game.LifeAccounts

/-!
# Stretches of a run

A run as the list of its operations, so that its parts can be quantified over. A stretch
that does not disturb a player neither inserts nor removes it.
-/

namespace Arena60

open Misc Misc.DoubleArith

universe u

namespace GameSession

variable {R : Type u} [DoubleArith R]

/-- The session after an operation; one that is refused changes nothing. -/
def act (s : GameSession R) (op : SessionOp R) : GameSession R :=
  match perform op s with
  | none => s
  | some (_, s') => s'

/-- The session after some operations. -/
def after (s : GameSession R) (ops : List (SessionOp R)) : GameSession R := ops.foldl act s

/-- The operations by which a player enters and leaves. -/
def Disturbs (playerId : String) : SessionOp R → Prop
  | .upsertPlayer other => other = playerId
  | .removePlayer other => other = playerId
  | _ => False

theorem after_append (s : GameSession R) (ops ops' : List (SessionOp R)) :
    s.after (ops ++ ops') = (s.after ops).after ops' :=
  List.foldl_append

theorem act_upsertPlayer (s : GameSession R) (playerId : String) :
    s.act (.upsertPlayer playerId) = if playerId = "" then s else s.upsertPlayer playerId := by
  rw [act, perform]
  by_cases unnamed : playerId = ""
  · rw [if_pos unnamed, if_pos unnamed]
  · rw [if_neg unnamed, if_neg unnamed]

/-- What a run's operations reach, a run reaches. -/
theorem runs_after (ops : List (SessionOp R)) :
    ∃ trace, Runs trace ((new : GameSession R).after ops) := by
  induction ops using List.reverseRecOn with
  | nil => exact ⟨[], .start rfl⟩
  | append_singleton ops op ih =>
      obtain ⟨trace, run⟩ := ih
      rw [after_append]
      show ∃ trace, Runs trace (((new : GameSession R).after ops).act op)
      unfold act
      cases performed : perform op ((new : GameSession R).after ops) with
      | none => exact ⟨trace, run⟩
      | some result => exact ⟨_, .next run ⟨op, performed⟩⟩

/-! ## The entry of a player that is not disturbed -/

omit [DoubleArith R] in
/-- The entry of a player after contacts: it stays where it is, and so does its fire time. -/
structure Fought (runtime runtime' : PlayerRuntimeState R) : Prop where
  x : runtime'.state.x = runtime.state.x
  y : runtime'.state.y = runtime.state.y
  lastSequence : runtime'.state.lastSequence = runtime.state.lastSequence
  lastFireTime : runtime'.lastFireTime = runtime.lastFireTime

omit [DoubleArith R] in
theorem Fought.refl (runtime : PlayerRuntimeState R) : Fought runtime runtime := ⟨rfl, rfl, rfl, rfl⟩

omit [DoubleArith R] in
theorem Fought.trans {first second third : PlayerRuntimeState R} (fought : Fought first second)
    (fought' : Fought second third) : Fought first third :=
  ⟨fought'.x.trans fought.x, fought'.y.trans fought.y, fought'.lastSequence.trans fought.lastSequence,
    fought'.lastFireTime.trans fought.lastFireTime⟩

omit [DoubleArith R] in
/-- Players one of whose entries was updated by a contact. -/
theorem find_adjust_fought {players : UnorderedMap String (PlayerRuntimeState R)}
    {playerId : String} {runtime : PlayerRuntimeState R} (present : players.find playerId = some runtime)
    (key : String) {f : PlayerRuntimeState R → PlayerRuntimeState R} (fought : ∀ other, Fought other (f other)) :
    ∃ runtime', (players.adjust key f).find playerId = some runtime' ∧ Fought runtime runtime' := by
  rw [UnorderedMap.find_adjust, present]
  split_ifs
  · exact ⟨f runtime, rfl, fought runtime⟩
  · exact ⟨runtime, rfl, .refl runtime⟩

omit [DoubleArith R] in
theorem registerHit_fought (s : GameSession R) (tick : Nat) (projectile : Projectile R) (key : String)
    (target : PlayerRuntimeState R) {playerId : String} {runtime : PlayerRuntimeState R}
    (present : s.players.find playerId = some runtime) :
    ∃ runtime', (s.registerHit tick projectile key target).1.players.find playerId = some runtime' ∧
      Fought runtime runtime' := by
  obtain ⟨struck, present', fought⟩ := find_adjust_fought present key (f := .takeHit) fun _ =>
    ⟨rfl, rfl, rfl, rfl⟩
  obtain ⟨credited, present'', fought'⟩ := find_adjust_fought present' projectile.ownerId (f := .creditHit)
    fun _ => ⟨rfl, rfl, rfl, rfl⟩
  unfold registerHit
  dsimp only
  split
  · obtain ⟨announced, found, fought''⟩ := find_adjust_fought present'' key (f := .announceDeath) fun _ =>
      ⟨rfl, rfl, rfl, rfl⟩
    exact ⟨announced, found, (fought.trans fought').trans fought''⟩
  · exact ⟨credited, present'', fought.trans fought'⟩

theorem collide_fought (s : GameSession R) (tick : Nat) (projectile : Projectile R) {playerId : String}
    {runtime : PlayerRuntimeState R} (present : s.players.find playerId = some runtime) :
    ∃ runtime', (s.collide tick projectile).1.players.find playerId = some runtime' ∧
      Fought runtime runtime' := by
  unfold collide
  split
  · exact ⟨runtime, present, .refl runtime⟩
  · dsimp only
    split
    · exact ⟨runtime, present, .refl runtime⟩
    · exact registerHit_fought s tick projectile _ _ present

theorem sweep_fought (tick : Nat) (projectiles : List (Projectile R)) :
    ∀ (s : GameSession R) {playerId : String} {runtime : PlayerRuntimeState R},
      s.players.find playerId = some runtime →
      ∃ runtime', (sweep tick projectiles s).1.players.find playerId = some runtime' ∧
        Fought runtime runtime' := by
  induction projectiles with
  | nil => exact fun s playerId runtime present => ⟨runtime, present, .refl runtime⟩
  | cons projectile projectiles ih =>
      intro s playerId runtime present
      obtain ⟨struck, present', fought⟩ := collide_fought s tick projectile present
      obtain ⟨last, present'', fought'⟩ := ih (s.collide tick projectile).1 present'
      exact ⟨last, present'', fought.trans fought'⟩

theorem sweep_frame (tick : Nat) (projectiles : List (Projectile R)) :
    ∀ s : GameSession R, (sweep tick projectiles s).1.elapsedTime = s.elapsedTime ∧
      (sweep tick projectiles s).1.speedPerSecond = s.speedPerSecond ∧
      (sweep tick projectiles s).1.players.keys = s.players.keys := by
  induction projectiles with
  | nil => exact fun s => ⟨rfl, rfl, rfl⟩
  | cons projectile projectiles ih =>
      intro s
      obtain ⟨clock, pace, keys⟩ := ih (s.collide tick projectile).1
      obtain ⟨clock', pace'⟩ : (s.collide tick projectile).1.elapsedTime = s.elapsedTime ∧
          (s.collide tick projectile).1.speedPerSecond = s.speedPerSecond := by
        unfold collide
        split
        · exact ⟨rfl, rfl⟩
        · dsimp only
          split
          · exact ⟨rfl, rfl⟩
          · unfold registerHit
            dsimp only
            split <;> exact ⟨rfl, rfl⟩
      exact ⟨clock.trans clock', pace.trans pace', keys.trans (collide_keys s tick projectile)⟩

/-- What an operation that does not disturb a player does to its entry. -/
def EntryStep (s : GameSession R) (playerId : String) (runtime runtime' : PlayerRuntimeState R) :
    SessionOp R → Prop
  | .applyInput other input deltaSeconds =>
      if other = playerId then
        Attempted s.elapsedTime
          { runtime with state := receive s.speedPerSecond input deltaSeconds runtime.state } runtime'
      else runtime' = runtime
  | .tick _ _ => Fought runtime runtime'
  | _ => runtime' = runtime

/-- A player's entry is left alone by all operations but inputs and ticks that do not disturb it. -/
theorem act_find_quiet (s : GameSession R) {playerId : String} {op : SessionOp R}
    (undisturbed : ¬Disturbs playerId op)
    (noInput : ∀ other input deltaSeconds, op ≠ .applyInput other input deltaSeconds)
    (noTick : ∀ tick deltaSeconds, op ≠ .tick tick deltaSeconds) :
    (s.act op).players.find playerId = s.players.find playerId := by
  cases op with
  | upsertPlayer other =>
      have differ : playerId ≠ other := fun same => undisturbed same.symm
      rw [act_upsertPlayer]
      split_ifs
      · rfl
      · exact (UnorderedMap.find_upsert _ _ _ _ _).trans (if_neg differ)
  | removePlayer other =>
      have differ : playerId ≠ other := fun same => undisturbed same.symm
      exact (UnorderedMap.find_erase _ _ _).trans (if_neg differ)
  | applyInput other input deltaSeconds => exact absurd rfl (noInput other input deltaSeconds)
  | tick tick deltaSeconds => exact absurd rfl (noTick tick deltaSeconds)
  | consumeDeathEvents => rfl
  | reorder order => exact UnorderedMap.find_reorder _ _ _

theorem act_entry (s : GameSession R) {playerId : String} {op : SessionOp R}
    (undisturbed : ¬Disturbs playerId op) {runtime : PlayerRuntimeState R}
    (present : s.players.find playerId = some runtime) :
    ∃ runtime', (s.act op).players.find playerId = some runtime' ∧
      EntryStep s playerId runtime runtime' op := by
  cases op with
  | applyInput other input deltaSeconds =>
      obtain ⟨effect, proper, applied⟩ := s.exists_applyInput_effect other input deltaSeconds
      have reached : s.act (.applyInput other input deltaSeconds) = effect.apply other s := applied
      rw [reached]
      unfold InputEffect.apply EntryStep
      dsimp only
      rw [UnorderedMap.find_adjust]
      by_cases mine : playerId = other
      · subst mine
        rw [if_pos rfl, present]
        refine ⟨_, rfl, ?_⟩
        rw [if_pos rfl]
        exact proper.update runtime present
      · rw [if_neg mine]
        exact ⟨runtime, present, if_neg (Ne.symm mine) ▸ rfl⟩
  | tick tick deltaSeconds =>
      exact sweep_fought tick _ (s.moveProjectiles deltaSeconds) present
  | _ =>
      have same := act_find_quiet s undisturbed (by simp) (by simp)
      exact ⟨runtime, same.trans present, rfl⟩

/-- Only a tick moves the clock, and nothing changes the speed. -/
theorem act_clock (s : GameSession R) (op : SessionOp R) :
    (s.act op).speedPerSecond = s.speedPerSecond ∧
    (s.act op).elapsedTime =
      match op with
      | .tick _ deltaSeconds => s.elapsedTime + deltaSeconds
      | _ => s.elapsedTime := by
  cases op with
  | upsertPlayer other =>
      rw [act_upsertPlayer]
      split_ifs <;> exact ⟨rfl, rfl⟩
  | removePlayer other => exact ⟨rfl, rfl⟩
  | applyInput other input deltaSeconds =>
      obtain ⟨effect, -, applied⟩ := s.exists_applyInput_effect other input deltaSeconds
      have reached : s.act (.applyInput other input deltaSeconds) = effect.apply other s := applied
      rw [reached]
      exact ⟨rfl, rfl⟩
  | tick tick deltaSeconds =>
      obtain ⟨clock, pace, _⟩ := sweep_frame tick (s.moveProjectiles deltaSeconds).projectiles
        (s.moveProjectiles deltaSeconds)
      exact ⟨pace, clock⟩
  | consumeDeathEvents => exact ⟨rfl, rfl⟩
  | reorder order => exact ⟨rfl, rfl⟩

end GameSession

end Arena60
