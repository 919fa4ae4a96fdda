import Arena60.Stats.MatchStats
import Mathlib.Algebra.GroupWithZero.Nat

/-!
# What a match result says

The entries that `Collect` builds one event after the other, in closed form: a player's
shots, hits and deaths are those of the snapshot, the damage and the kills are sums over
the logged events that are not newer than the death.
-/

namespace Arena60

open Misc

universe u

namespace MatchStatsCollector

variable {R : Type u}

/-! ## Sums over events -/

/-- The damage that a player dealt. -/
def damageBy (playerId : String) (events : List CombatEvent) : Nat :=
  (events.map fun event =>
    if event.type = .hit ∧ playerId = event.shooterId then damageOf event else 0).sum

/-- The damage that a player took. -/
def damageOn (playerId : String) (events : List CombatEvent) : Nat :=
  (events.map fun event =>
    if event.type = .hit ∧ playerId = event.targetId then damageOf event else 0).sum

/-- The deaths that a player caused. -/
def killsBy (playerId : String) (events : List CombatEvent) : Nat :=
  events.countP fun event => event.type == .death && playerId == event.shooterId

/-- Whether a player died. -/
def killed (playerId : String) (events : List CombatEvent) : Bool :=
  events.any fun event => event.type == .death && playerId == event.targetId

/-- Whether a player shot or was shot. -/
def named (playerId : String) (events : List CombatEvent) : Bool :=
  events.any fun event => playerId == event.targetId || playerId == event.shooterId

/-- The events of the combat log that are not newer than a death. -/
def logged (death : CombatEvent) (s : GameSession R) : List CombatEvent :=
  s.combatLogSnapshot.filter fun event => !decide (event.tick > death.tick)

/-! ## One player's entry -/

/-- The entry of a player, or the one that would be made for it. -/
def entryFor (totals : UnorderedMap String RunningTotals) (playerId : String) : RunningTotals :=
  (totals.find playerId).getD { playerId }

section entry

variable {totals : UnorderedMap String RunningTotals} {playerId : String}

theorem find_eq_entryFor (totals : UnorderedMap String RunningTotals) (playerId : String) :
    totals.find playerId =
      if totals.contains playerId then some (entryFor totals playerId) else none := by
  unfold entryFor UnorderedMap.contains
  cases totals.find playerId <;> rfl

@[simp] theorem entryFor_withEntry (changed : String) (f : RunningTotals → RunningTotals) :
    entryFor (withEntry totals changed f) playerId =
      if playerId = changed then f (entryFor totals playerId) else entryFor totals playerId := by
  exact totals.getD_find_upsert changed playerId (fun playerId => { playerId }) f

@[simp] theorem contains_withEntry (changed : String) (f : RunningTotals → RunningTotals) :
    (withEntry totals changed f).contains playerId =
      (playerId == changed || totals.contains playerId) :=
  totals.contains_upsert changed playerId _ f

/-- What an event adds to a player's entry. -/
def booked (playerId : String) (entry : RunningTotals) (event : CombatEvent) : RunningTotals :=
  match event.type with
  | .hit =>
      { entry with
        damageDealt := entry.damageDealt + if playerId = event.shooterId then damageOf event else 0
        damageTaken := entry.damageTaken + if playerId = event.targetId then damageOf event else 0 }
  | .death =>
      { entry with
        kills := entry.kills + (playerId == event.shooterId).toNat
        deaths := if entry.deaths = 0 then (playerId == event.targetId).toNat else entry.deaths }

theorem entryFor_logEvent {deathTick : Nat} {event : CombatEvent} (older : ¬ event.tick > deathTick) :
    entryFor (logEvent deathTick totals event) playerId =
      booked playerId (entryFor totals playerId) event := by
  unfold logEvent booked
  rw [if_neg older]
  cases event.type with
  | hit =>
      simp only [entryFor_withEntry]
      split_ifs <;> rfl
  | death =>
      simp only [entryFor_withEntry, toNat_beq]
      generalize entryFor totals playerId = entry
      obtain ⟨_, _, _, _, deaths, _, _⟩ := entry
      cases deaths <;> split_ifs <;> first | rfl | contradiction

theorem contains_logEvent {deathTick : Nat} {event : CombatEvent} (older : ¬ event.tick > deathTick) :
    (logEvent deathTick totals event).contains playerId =
      (named playerId [event] || totals.contains playerId) := by
  unfold logEvent
  rw [if_neg older]
  cases event.type <;> simp [named, Bool.or_assoc]

theorem foldl_logEvent (playerId : String) (deathTick : Nat) (events : List CombatEvent) :
    ∀ totals : UnorderedMap String RunningTotals,
      entryFor (events.foldl (logEvent deathTick) totals) playerId =
        (events.filter fun event => !decide (event.tick > deathTick)).foldl (booked playerId)
          (entryFor totals playerId) ∧
      (events.foldl (logEvent deathTick) totals).contains playerId =
        (named playerId (events.filter fun event => !decide (event.tick > deathTick)) ||
          totals.contains playerId) := by
  induction events with
  | nil => exact fun totals => ⟨rfl, rfl⟩
  | cons event events ih =>
      intro totals
      obtain ⟨entry, present⟩ := ih (logEvent deathTick totals event)
      rw [List.foldl_cons]
      by_cases newer : event.tick > deathTick
      · have skipped : logEvent deathTick totals event = totals := if_pos newer
        rw [List.filter_cons_of_neg (by simpa using newer), entry, present, skipped]
        exact ⟨rfl, rfl⟩
      · rw [List.filter_cons_of_pos (by simpa using newer), entry, present,
          entryFor_logEvent newer, contains_logEvent newer]
        refine ⟨rfl, ?_⟩
        simp [named, Bool.or_assoc, Bool.or_left_comm]

/-- What a list of events adds to a player's entry. -/
theorem foldl_booked (playerId : String) (events : List CombatEvent) :
    ∀ entry : RunningTotals, events.foldl (booked playerId) entry =
      { entry with
        kills := entry.kills + killsBy playerId events
        deaths := if entry.deaths = 0 then (killed playerId events).toNat else entry.deaths
        damageDealt := entry.damageDealt + damageBy playerId events
        damageTaken := entry.damageTaken + damageOn playerId events } := by
  induction events with
  | nil =>
      intro entry
      obtain ⟨_, _, _, _, deaths, _, _⟩ := entry
      cases deaths <;> rfl
  | cons event events ih =>
      intro entry
      rw [List.foldl_cons, ih]
      cases type : event.type with
      | hit =>
          have notDeath : (CombatEventType.hit == CombatEventType.death) = false := rfl
          simp [booked, killsBy, killed, damageBy, damageOn, type, notDeath, Nat.add_assoc]
      | death =>
          have later : ∀ deaths : Nat, (if (if deaths = 0 then (playerId == event.targetId).toNat
              else deaths) = 0 then (killed playerId events).toNat
              else if deaths = 0 then (playerId == event.targetId).toNat else deaths) =
                if deaths = 0 then (playerId == event.targetId || killed playerId events).toNat
                else deaths := by
            intro deaths
            by_cases none : deaths = 0 <;> cases playerId == event.targetId <;> simp [none]
          have kills : killsBy playerId (event :: events) =
              (playerId == event.shooterId).toNat + killsBy playerId events := by
            rw [killsBy, List.countP_cons, killsBy]
            cases shooter : playerId == event.shooterId <;> simp [type, Nat.add_comm]
          simp only [booked, type, later, kills]
          simp [killed, damageBy, damageOn, type, Nat.add_assoc]

theorem foldl_snapshot (states : List (PlayerState R)) :
    ∀ totals : UnorderedMap String RunningTotals,
      (states.foldl (fun totals state => totals.emplace state.playerId (snapshotEntry state))
          totals).find playerId =
        (totals.find playerId).or
          ((states.find? fun state => state.playerId == playerId).map snapshotEntry) := by
  induction states with
  | nil =>
      intro totals
      exact (Option.or_none).symm
  | cons state states ih =>
      intro totals
      rw [List.foldl_cons, ih, UnorderedMap.find_emplace, List.find?_cons]
      by_cases asked : playerId = state.playerId
      · subst asked
        cases totals.find state.playerId <;> simp
      · have other : (state.playerId == playerId) = false := beq_false_of_ne (Ne.symm asked)
        rw [if_neg asked, other]

/-- The entry of a player after the snapshot was read. -/
def firstEntry (s : GameSession R) (playerId : String) : RunningTotals :=
  ((s.snapshot.find? fun state => state.playerId == playerId).map snapshotEntry).getD { playerId }

/-- Whether a player is in the snapshot. -/
def inSnapshot (s : GameSession R) (playerId : String) : Bool :=
  s.snapshot.any fun state => state.playerId == playerId

theorem entryFor_snapshotTotals (s : GameSession R) :
    entryFor (snapshotTotals s.snapshot) playerId = firstEntry s playerId := by
  rw [entryFor, snapshotTotals, foldl_snapshot, UnorderedMap.find_empty, Option.none_or, firstEntry]

theorem contains_snapshotTotals (s : GameSession R) :
    (snapshotTotals s.snapshot).contains playerId = inSnapshot s playerId := by
  rw [UnorderedMap.contains, snapshotTotals, foldl_snapshot, UnorderedMap.find_empty,
    Option.none_or, Option.isSome_map, List.isSome_find?, inSnapshot]

theorem firstEntry_spec (s : GameSession R) (playerId : String) :
    (firstEntry s playerId).playerId = playerId ∧ (firstEntry s playerId).kills = 0 ∧
      (firstEntry s playerId).damageDealt = 0 ∧ (firstEntry s playerId).damageTaken = 0 := by
  unfold firstEntry
  cases found : s.snapshot.find? fun state => state.playerId == playerId with
  | none => exact ⟨rfl, rfl, rfl, rfl⟩
  | some state =>
      have named := List.find?_some found
      exact ⟨eq_of_beq named, rfl, rfl, rfl⟩

end entry

/-! ## The whole result -/

variable (death : CombatEvent) (s : GameSession R)

/-- Whether a player gets an entry in the result of a death. -/
def takesPart (playerId : String) : Bool :=
  playerId == death.shooterId || playerId == death.targetId || named playerId (logged death s) ||
    inSnapshot s playerId

/-- The entry of a player in the result of a death. -/
def totalsFor (playerId : String) : RunningTotals :=
  let first := firstEntry s playerId
  let events := logged death s
  { playerId := playerId
    shotsFired := first.shotsFired
    hitsLanded := first.hitsLanded
    kills := if playerId = death.shooterId then max 1 (killsBy playerId events)
      else killsBy playerId events
    deaths := if first.deaths = 0 then (killed playerId events || playerId == death.targetId).toNat
      else first.deaths
    damageDealt := damageBy playerId events
    damageTaken := damageOn playerId events }

theorem entryFor_adjust {totals : UnorderedMap String RunningTotals} {changed playerId : String}
    {f : RunningTotals → RunningTotals} (present : totals.contains changed = true) :
    entryFor (totals.adjust changed f) playerId =
      if playerId = changed then f (entryFor totals playerId) else entryFor totals playerId := by
  unfold entryFor
  rw [UnorderedMap.find_adjust]
  by_cases asked : playerId = changed
  · subst asked
    obtain ⟨entry, found⟩ := Option.isSome_iff_exists.mp present
    rw [if_pos rfl, if_pos rfl, found, Option.map_some, Option.getD_some, Option.getD_some]
  · rw [if_neg asked, if_neg asked]

/-- `Collect` has an entry for exactly those who take part, and it is this one. -/
theorem totals_find (playerId : String) :
    (totals death s).find playerId =
      if takesPart death s playerId then some (totalsFor death s playerId) else none := by
  obtain ⟨entry, present⟩ := foldl_logEvent playerId death.tick s.combatLogSnapshot
    (snapshotTotals s.snapshot)
  rw [entryFor_snapshotTotals, foldl_booked] at entry
  rw [contains_snapshotTotals] at present
  obtain ⟨name, kills, dealt, taken⟩ := firstEntry_spec s playerId
  have part : (totals death s).contains playerId = takesPart death s playerId := by
    rw [totals, closeTotals, UnorderedMap.contains_adjust, UnorderedMap.contains_adjust, contains_withEntry,
      contains_withEntry, present, takesPart, logged]
    cases playerId == death.targetId <;> cases playerId == death.shooterId <;> rfl
  have filled : entryFor (totals death s) playerId = totalsFor death s playerId := by
    rw [totals, closeTotals, entryFor_adjust (by simp), entryFor_adjust (by simp),
      entryFor_withEntry, entryFor_withEntry, entry, totalsFor, logged]
    simp only [name, kills, dealt, taken, Nat.zero_add, id_eq, ite_self]
    generalize killsBy playerId _ = killCount
    generalize killed playerId _ = died
    generalize (firstEntry s playerId).deaths = deaths
    clear entry present part name kills dealt taken
    have loser : (playerId == death.targetId) = decide (playerId = death.targetId) := rfl
    rw [loser]
    by_cases lost : playerId = death.targetId
    · rw [if_pos lost, decide_eq_true lost, Bool.or_true]
      by_cases won : playerId = death.shooterId <;>
        cases killCount <;> cases deaths <;> cases died <;> simp [won]
    · rw [if_neg lost, decide_eq_false lost, Bool.or_false]
      by_cases won : playerId = death.shooterId <;>
        cases killCount <;> cases deaths <;> cases died <;> simp [won]
  rw [find_eq_entryFor, part, filled]

/-- The stats of a result, sorted or not. -/
theorem playerStats_perm (completedAt : Int) :
    (collect death s completedAt).playerStats.Perm
      ((totals death s).entries.map fun entry => entry.2.toStats (matchIdOf death)) :=
  List.perm_insertionSort _ _

theorem entry_of_mem {playerId : String} {entry : RunningTotals}
    (member : (playerId, entry) ∈ (totals death s).entries) :
    takesPart death s playerId = true ∧ entry = totalsFor death s playerId := by
  have found := ((totals death s).find_eq_some_iff playerId entry).mpr member
  rw [totals_find] at found
  split at found
  · next part => exact ⟨part, (Option.some.inj found).symm⟩
  · cases found

theorem mem_playerStats {completedAt : Int} {stats : PlayerMatchStats} :
    stats ∈ (collect death s completedAt).playerStats ↔
      takesPart death s stats.playerId = true ∧
        stats = (totalsFor death s stats.playerId).toStats (matchIdOf death) := by
  rw [(playerStats_perm death s completedAt).mem_iff, List.mem_map]
  constructor
  · rintro ⟨⟨playerId, entry⟩, member, rfl⟩
    obtain ⟨part, rfl⟩ := entry_of_mem death s member
    exact ⟨part, rfl⟩
  · rintro ⟨part, same⟩
    refine ⟨(stats.playerId, totalsFor death s stats.playerId), ?_, same.symm⟩
    rw [← UnorderedMap.find_eq_some_iff, totals_find, if_pos part]

/-- No player has two entries in a result. -/
theorem playerStats_distinct (completedAt : Int) :
    ((collect death s completedAt).playerStats.map PlayerMatchStats.playerId).Nodup := by
  rw [((playerStats_perm death s completedAt).map PlayerMatchStats.playerId).nodup_iff, List.map_map]
  have keys : (totals death s).entries.map
      (PlayerMatchStats.playerId ∘ fun entry => entry.2.toStats (matchIdOf death)) =
        (totals death s).keys := by
    apply List.map_congr_left
    rintro ⟨playerId, entry⟩ member
    obtain ⟨-, rfl⟩ := entry_of_mem death s member
    rfl
  rw [keys]
  exact (totals death s).keys_nodup

/-! ## Sessions whose players carry their own ids -/

/-- The snapshot of a session whose players carry the ids they are stored under. -/
theorem firstEntry_of_named
    (named : ∀ key runtime, s.players.find key = some runtime → runtime.state.playerId = key)
    (playerId : String) :
    firstEntry s playerId = ((s.players.find playerId).map fun runtime =>
      snapshotEntry runtime.state).getD { playerId } ∧
    inSnapshot s playerId = s.players.contains playerId := by
  have isSome : inSnapshot s playerId =
      (s.snapshot.find? fun state => state.playerId == playerId).isSome :=
    List.isSome_find?.symm
  rw [isSome, firstEntry]
  cases found : s.snapshot.find? fun state => state.playerId == playerId with
  | none =>
      have absent : s.players.find playerId = none := by
        rw [Option.eq_none_iff_forall_ne_some]
        intro runtime present
        have listed : runtime.state ∈ s.snapshot :=
          List.mem_map.mpr ⟨_, (s.players.find_eq_some_iff playerId runtime).mp present, rfl⟩
        have other := List.find?_eq_none.mp found _ listed
        exact other (beq_iff_eq.mpr (named playerId runtime present))
      rw [UnorderedMap.contains, absent]
      exact ⟨rfl, rfl⟩
  | some state =>
      obtain ⟨⟨key, runtime⟩, member, rfl⟩ := List.mem_map.mp (List.mem_of_find?_eq_some found)
      have present := (s.players.find_eq_some_iff key runtime).mpr member
      have matched := List.find?_some found
      have same : key = playerId := (named key runtime present).symm.trans (eq_of_beq matched)
      rw [UnorderedMap.contains, ← same, present]
      exact ⟨rfl, rfl⟩

end MatchStatsCollector

end Arena60
