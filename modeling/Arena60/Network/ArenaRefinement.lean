import Arena60.Game.Presence
import Arena60.Network.Arena
import Arena60.Network.Lobby
import Arena60.Network.ServerEvents

/-!
# The server is an arena

The health of a player is how it stands, the queue of the matchmaker is who waits, and the profiles are the
duels. Seen so, every run of the server is a run of the arena.
-/

namespace Arena60

open Misc GameSession

universe u

/-! ## The arena of a server -/

/-- What a match pairs. -/
def Match.pairing (created : Match) : List (ArenaEvent String) :=
  match created.players with
  | [player, opponent] => [.paired player opponent]
  | _ => []

/-- What an item of the session is in the arena. -/
def SessionItem.arenaEvents : SessionItem → List (ArenaEvent String)
  | combat event =>
      match event.type with
      | .hit => [.hits event.shooterId event.targetId]
      | .death => [.falls event.targetId event.shooterId]
  | _ => []

/-- What an item is in the arena. -/
def ServerItem.arenaEvents {R : Type u} : ServerItem R → List (ArenaEvent String)
  | wired (.inSession item) => item.arenaEvents
  | joined playerId _ => [.enters playerId]
  | left playerId => [.leaves playerId]
  | ran call => call.made.flatMap Match.pairing
  | _ => []

/-- Five hits of 20 use up a health of 100, and duels are rated by `EloRatingCalculator`. -/
def arenaRules (R : Type u) [DoubleConversions R] : ArenaRules where
  hitsToFall := 5
  positive := by decide
  newcomer := 1200
  rate winnerRating loserRating :=
    let update := EloRatingCalculator.update R winnerRating loserRating
    (update.winnerNew, update.loserNew)

variable {R : Type u} [DoubleConversions R]

/-- How a player stands, by its health. -/
def PlayerRuntimeState.condition (runtime : PlayerRuntimeState R) : Condition (arenaRules R) :=
  let taken := ((runtime.health.max - runtime.health.current) / kDamagePerHit).toNat
  if standing : taken < 5 then .standing ⟨taken, standing⟩ else .fallen

/-- The duels of a player, by its profile. -/
def PlayerProfileService.duelRecord (service : PlayerProfileService) (playerId : String) : DuelRecord :=
  match service.getProfile playerId with
  | none => ⟨0, 0, 1200⟩
  | some profile => ⟨profile.wins, profile.losses, profile.rating⟩

/-- The arena that a session and a queue show. -/
def arenaOf (session : GameSession R) (queue : InMemoryMatchQueue) (records : String → DuelRecord) :
    Arena (arenaRules R) String where
  conditions playerId := (session.players.find playerId).map PlayerRuntimeState.condition
  waiting := queue.holds
  records := records

/-- The arena that the server is. -/
def WebSocketServer.arena (s : WebSocketServer R) : Arena (arenaRules R) String :=
  arenaOf s.session s.matchmaker.queue s.profiles.duelRecord

/-! ## Fighting -/

section fighting

variable {trace items : List SessionItem} {s s' : GameSession R} (queue : InMemoryMatchQueue)
  (records : String → DuelRecord)

theorem arenaOf_congr (same : ∀ playerId, (s'.players.find playerId).map PlayerRuntimeState.condition =
    (s.players.find playerId).map PlayerRuntimeState.condition) :
    arenaOf s' queue records = arenaOf s queue records := by
  unfold arenaOf
  simp only [same]

theorem condition_of_health {runtime : PlayerRuntimeState R} {hits : Nat} (maximum : runtime.health.max = 100)
    (current : runtime.health.current = 100 - 20 * (hits : Int)) : runtime.condition =
      if standing : hits < 5 then .standing ⟨hits, standing⟩ else .fallen := by
  have taken : ((runtime.health.max - runtime.health.current) / kDamagePerHit).toNat = hits := by
    rw [maximum, current, kDamagePerHit]
    omega
  unfold PlayerRuntimeState.condition
  simp only [taken]

/-- A hit changes how its target stands. -/
theorem conditions_afterHit (tick : Nat) (before after : List (Projectile R)) {projectile : Projectile R}
    {key : String} {runtime : PlayerRuntimeState R} (present : s.players.find key = some runtime)
    (notOwner : projectile.ownerId ≠ key) :
    (arenaOf (afterHit s tick before after projectile key runtime) queue records).conditions =
      Function.update (arenaOf s queue records).conditions key (some runtime.takeHit.condition) := by
  funext playerId
  change ((s.registerHit tick projectile key runtime).1.players.find playerId).map _ = _
  rw [registerHit_find s tick projectile key runtime notOwner]
  by_cases asked : playerId = key
  · subst asked
    rw [Function.update_self, if_pos rfl, present]
    split <;> rfl
  · rw [Function.update_of_ne asked, if_neg asked]
    split
    · rw [Option.map_map]
      rfl
    · rfl

omit [DoubleConversions R] in
/-- A death is announced with the fifth hit. -/
theorem LifeAccount.announces_eq {playerId : String} {runtime : PlayerRuntimeState R}
    (account : LifeAccount playerId runtime trace) (alive : runtime.state.isAlive = true) :
    announces runtime = decide (hitsOn playerId (life playerId trace) + 1 = 5) := by
  have fewer := account.hits_lt alive
  have unannounced : runtime.deathAnnounced = false := by
    rw [account.announced]
    exact decide_eq_false (by omega)
  rw [announces, account.applyDamage alive, unannounced, Bool.not_false, Bool.and_true]

/-- A hit is a hit in the arena, and the fifth also a fall. -/
theorem hit_steps (accounts : Accounts trace s)
    (owners : ∀ projectile ∈ s.live, s.players.contains projectile.ownerId = true) (tick : Nat)
    {before after : List (Projectile R)} {projectile : Projectile R} {key : String}
    {runtime : PlayerRuntimeState R} (stored : s.projectiles = before ++ projectile :: after)
    (active : projectile.active = true) (present : s.players.find key = some runtime)
    (alive : runtime.state.isAlive = true) (other : runtime.state.playerId ≠ projectile.ownerId) :
    ∃ records', Steps (StepOf Arena.perform) (arenaOf s queue records)
      (((s.registerHit tick projectile key runtime).2.map SessionItem.combat).flatMap SessionItem.arenaEvents)
      (arenaOf (afterHit s tick before after projectile key runtime) queue records') := by
  have account := accounts key runtime present
  have fewer := account.hits_lt alive
  have named := account.named
  have notOwner : projectile.ownerId ≠ key := fun same => other (named.trans same.symm)
  have here : (arenaOf s queue records).conditions key = some (.standing ⟨hitsOn key (life key trace), fewer⟩) := by
    change (s.players.find key).map PlayerRuntimeState.condition = _
    rw [present, Option.map_some, condition_of_health account.maximum account.health, dif_pos fewer]
  have owner : (arenaOf s queue records).conditions projectile.ownerId ≠ none := by
    have member : projectile ∈ s.live := by
      rw [mem_live, stored]
      exact ⟨List.mem_append_right _ List.mem_cons_self, active⟩
    obtain ⟨shooter, found⟩ := Option.isSome_iff_exists.mp (owners projectile member)
    change (s.players.find projectile.ownerId).map PlayerRuntimeState.condition ≠ none
    rw [found]
    exact Option.some_ne_none _
  obtain ⟨maximum, current, -⟩ := takeHit_eq account alive
  have struck : (arenaOf s queue records).Allows (.hits projectile.ownerId key) := ⟨notOwner, owner, _, here⟩
  have result := conditions_afterHit queue records tick before after present notOwner
  let standing : Condition (arenaRules R) := .standing ⟨hitsOn key (life key trace), fewer⟩
  have blow : ((arenaOf s queue records).after (.hits projectile.ownerId key)).conditions =
      Function.update (arenaOf s queue records).conditions key (some standing.strike) := by
    change Function.update (arenaOf s queue records).conditions key
      (((arenaOf s queue records).conditions key).map Condition.strike) = _
    rw [here]
    rfl
  rw [registerHit_events, account.announces_eq alive]
  by_cases fifth : hitsOn key (life key trace) + 1 = 5
  · have last : standing.strike = .struck := Condition.strike_last fifth
    have felled : runtime.takeHit.condition = .fallen := by
      rw [condition_of_health maximum current, dif_neg (by omega)]
    rw [last] at blow
    let hurt := (arenaOf s queue records).after (.hits projectile.ownerId key)
    have falls : hurt.Allows (.falls key projectile.ownerId) := by
      refine ⟨notOwner, ?_, ?_⟩
      · rw [blow, Function.update_of_ne notOwner]
        exact owner
      · rw [blow, Function.update_self]
    have events : ([hitEvent tick projectile runtime, deathEvent tick projectile runtime].map
        SessionItem.combat).flatMap SessionItem.arenaEvents =
          [.hits projectile.ownerId key] ++ [.falls key projectile.ownerId] := by
      rw [← named]
      rfl
    rw [decide_eq_true fifth, if_pos rfl, events]
    have fell : (hurt.after (.falls key projectile.ownerId)).conditions =
        (arenaOf (afterHit s tick before after projectile key runtime) queue records).conditions := by
      change Function.update hurt.conditions key (some .fallen) = _
      rw [result, felled, blow, Function.update_idem]
    let settled := settleDuel (arenaRules R) records (projectile.ownerId, key)
    have reached : hurt.after (.falls key projectile.ownerId) =
        arenaOf (afterHit s tick before after projectile key runtime) queue settled := Arena.ext fell rfl rfl
    exact ⟨settled, (Arena.step _ struck rfl).trans (Arena.step _ falls reached)⟩
  · have more : hitsOn key (life key trace) + 1 < 5 := by omega
    have stands : runtime.takeHit.condition = standing.strike := by
      rw [condition_of_health maximum current, dif_pos more]
      have stays : standing.strike = .standing ⟨hitsOn key (life key trace) + 1, more⟩ := Condition.strike_more more
      exact stays.symm
    have events : ([hitEvent tick projectile runtime].map SessionItem.combat).flatMap SessionItem.arenaEvents =
        [.hits projectile.ownerId key] := by
      rw [← named]
      rfl
    rw [decide_eq_false fifth, if_neg Bool.false_ne_true, events]
    exact ⟨records, Arena.step _ struck (Arena.ext (by rw [blow, result, stands]) rfl rfl)⟩

/-- A move that lets nobody enter or leave. -/
theorem move_steps (run : MoveRuns trace s) (move : Move s items s')
    (calm : ∀ playerId, ∀ item ∈ items, item.presence? playerId = none) :
    ∃ records', Steps (StepOf Arena.perform) (arenaOf s queue records) (items.flatMap SessionItem.arenaEvents)
      (arenaOf s' queue records') := by
  have still : ∀ {s₁ : GameSession R}, (∀ playerId, (s₁.players.find playerId).map PlayerRuntimeState.condition =
      (s.players.find playerId).map PlayerRuntimeState.condition) →
      ∃ records', Steps (StepOf Arena.perform) (arenaOf s queue records) [] (arenaOf s₁ queue records') := by
    intro s₁ same
    refine ⟨records, ?_⟩
    rw [arenaOf_congr queue records same]
    exact .none _
  have adjusted : ∀ {key : String} {runtime runtime' : PlayerRuntimeState R}, s.players.find key = some runtime →
      runtime'.condition = runtime.condition → ∀ playerId,
      ((s.players.adjust key fun _ => runtime').find playerId).map PlayerRuntimeState.condition =
        (s.players.find playerId).map PlayerRuntimeState.condition := by
    intro key runtime runtime' present same playerId
    rw [UnorderedMap.find_adjust]
    split
    · next asked =>
        subst asked
        rw [present, Option.map_some, Option.map_some, Option.map_some, same]
    · rfl
  cases move with
  | @upsert playerId named =>
      have enters := calm playerId _ List.mem_cons_self
      rw [SessionItem.presence?, if_pos rfl] at enters
      cases enters
  | remove playerId settled =>
      have leaves := calm playerId _ List.mem_cons_self
      rw [SessionItem.presence?, if_pos rfl] at leaves
      cases leaves
  | receive playerId => exact still fun _ => rfl
  | steer present steered =>
      obtain ⟨x, y, facing, sequence, fire, rfl⟩ := steered
      exact still (adjusted present rfl)
  | number => exact still fun _ => rfl
  | @spawn playerId runtime projectile present alive id owner active =>
      refine still fun other => ?_
      dsimp only
      rw [UnorderedMap.find_adjust]
      split
      · rw [Option.map_map]
        rfl
      · rfl
  | moveProjectiles tick deltaSeconds settled =>
      have unseen : (SessionItem.ticked tick :: (s.moveProjectiles deltaSeconds).expiredItems).flatMap
          SessionItem.arenaEvents = [] := by
        refine List.flatMap_eq_nil_iff.mpr fun item member => ?_
        rcases List.mem_cons.mp member with rfl | expired
        · rfl
        · obtain ⟨projectile, -, rfl⟩ := List.mem_map.mp expired
          rfl
      rw [unseen]
      exact still fun _ => rfl
  | hit tick stored active present alive other =>
      exact hit_steps queue records (MoveRuns.accounts run) (MoveRuns.projectileLedger run).owners tick stored active
        present alive other
  | settle checked => exact still fun _ => rfl
  | consume => exact still fun _ => rfl
  | reorder order => exact still fun playerId => congrArg _ (s.players.find_reorder order playerId)

/-- What happens in the session while nobody enters or leaves, happens in the arena. -/
theorem moves_steps (run : MoveRuns trace s) (moves : Moves s items s')
    (calm : ∀ playerId, ∀ item ∈ items, item.presence? playerId = none) :
    ∃ records', Steps (StepOf Arena.perform) (arenaOf s queue records) (items.flatMap SessionItem.arenaEvents)
      (arenaOf s' queue records') := by
  induction moves generalizing trace records with
  | nil => exact ⟨records, .none _⟩
  | @cons s s' s'' items items' move moves ih =>
      obtain ⟨records', first⟩ := move_steps queue records run move fun playerId item member =>
        calm playerId item (List.mem_append_left _ member)
      obtain ⟨records'', later⟩ := ih records' (.next run move) fun playerId item member =>
        calm playerId item (List.mem_append_right _ member)
      rw [List.flatMap_append]
      exact ⟨records'', first.trans later⟩

end fighting

/-! ## Duels -/

section duels

open PlayerProfileService

/-- The duels in an aggregate. -/
def AggregateStats.duelRecord (aggregate : AggregateStats) : DuelRecord :=
  ⟨aggregate.wins, aggregate.losses, aggregate.rating⟩

theorem duelRecord_eq (service : PlayerProfileService) (playerId : String) :
    service.duelRecord playerId = (aggregateOf service.aggregates playerId).duelRecord := by
  unfold PlayerProfileService.duelRecord getProfile aggregateOf
  cases service.aggregates.find playerId <;> rfl

theorem aggregateOf_adjust {aggregates : UnorderedMap String AggregateStats} {changed : String}
    (present : aggregates.contains changed = true) (f : AggregateStats → AggregateStats) (playerId : String) :
    aggregateOf (aggregates.adjust changed f) playerId =
      if playerId = changed then f (aggregateOf aggregates playerId) else aggregateOf aggregates playerId := by
  unfold aggregateOf
  rw [UnorderedMap.find_adjust]
  by_cases asked : playerId = changed
  · subst asked
    obtain ⟨aggregate, found⟩ := Option.isSome_iff_exists.mp present
    rw [if_pos rfl, if_pos rfl, found]
    rfl
  · rw [if_neg asked, if_neg asked]

/-- Recording a result settles a duel. -/
theorem duelRecord_recordMatch (service : PlayerProfileService) {result : MatchResult}
    (differ : result.winnerId ≠ result.loserId) : (service.recordMatch R result).duelRecord =
      settleDuel (arenaRules R) service.duelRecord (result.winnerId, result.loserId) := by
  let added := result.playerStats.foldl addStats service.aggregates
  let won := added.upsert result.winnerId {} fun winner => { winner with wins := winner.wins + 1 }
  let lost := won.upsert result.loserId {} fun loser => { loser with losses := loser.losses + 1 }
  let update := EloRatingCalculator.update R (aggregateOf lost result.winnerId).rating
    (aggregateOf lost result.loserId).rating
  let raised := lost.adjust result.winnerId fun winner => { winner with rating := update.winnerNew }
  have aggregates : (service.recordMatch R result).aggregates =
      raised.adjust result.loserId fun loser => { loser with rating := update.loserNew } := rfl
  have loserKnown : lost.contains result.loserId = true := by
    rw [UnorderedMap.contains_upsert]
    simp
  have winnerKnown : lost.contains result.winnerId = true := by
    rw [UnorderedMap.contains_upsert, UnorderedMap.contains_upsert]
    simp
  have loserKnown' : raised.contains result.loserId = true :=
    (lost.contains_adjust result.winnerId result.loserId _).trans loserKnown
  have same : ∀ playerId, service.duelRecord playerId = (aggregateOf added playerId).duelRecord := by
    intro playerId
    rw [duelRecord_eq, (foldl_addStats playerId result.playerStats service.aggregates).1]
    rfl
  have winner : aggregateOf lost result.winnerId =
      { aggregateOf added result.winnerId with wins := (aggregateOf added result.winnerId).wins + 1 } := by
    rw [aggregateOf_upsert, if_neg differ, aggregateOf_upsert, if_pos rfl]
  have loser : aggregateOf lost result.loserId =
      { aggregateOf added result.loserId with losses := (aggregateOf added result.loserId).losses + 1 } := by
    rw [aggregateOf_upsert, if_pos rfl, aggregateOf_upsert, if_neg (Ne.symm differ)]
  have rated : update = EloRatingCalculator.update R (service.duelRecord result.winnerId).rating
      (service.duelRecord result.loserId).rating := by
    have winnerRating : (aggregateOf lost result.winnerId).rating = (aggregateOf added result.winnerId).rating := by
      rw [winner]
    have loserRating : (aggregateOf lost result.loserId).rating = (aggregateOf added result.loserId).rating := by
      rw [loser]
    rw [same, same]
    exact congrArg₂ (EloRatingCalculator.update R) winnerRating loserRating
  funext playerId
  rw [duelRecord_eq, aggregates, aggregateOf_adjust loserKnown', aggregateOf_adjust winnerKnown]
  unfold settleDuel
  dsimp only
  by_cases lostIt : playerId = result.loserId
  · rw [lostIt, Function.update_self, if_pos rfl, if_neg (Ne.symm differ), loser, rated, same, same]
    rfl
  · rw [Function.update_of_ne lostIt, if_neg lostIt]
    by_cases wonIt : playerId = result.winnerId
    · rw [wonIt, Function.update_self, if_pos rfl, winner, rated, same, same]
      rfl
    · rw [Function.update_of_ne wonIt, if_neg wonIt, same, aggregateOf_upsert, if_neg lostIt, aggregateOf_upsert,
        if_neg wonIt]

theorem duelRecord_foldl (results : List MatchResult) (service : PlayerProfileService)
    (differ : ∀ result ∈ results, result.winnerId ≠ result.loserId) :
    (results.foldl (PlayerProfileService.recordMatch R) service).duelRecord =
      (results.map fun result => (result.winnerId, result.loserId)).foldl (settleDuel (arenaRules R))
        service.duelRecord := by
  induction results generalizing service with
  | nil => rfl
  | cons result results ih =>
      obtain ⟨first, rest⟩ := List.forall_mem_cons.mp differ
      rw [List.foldl_cons, ih _ rest, duelRecord_recordMatch service first]
      rfl

omit [DoubleConversions R] in
/-- The duels that end are the deaths. -/
theorem duels_eq (items : List SessionItem) :
    (items.flatMap SessionItem.arenaEvents).filterMap ArenaEvent.duel? =
      ((items.filterMap SessionItem.combat?).filter fun event => event.type == .death).map fun event =>
        (event.shooterId, event.targetId) := by
  induction items with
  | nil => rfl
  | cons item items ih =>
      rw [List.flatMap_cons, List.filterMap_append, ih]
      cases item with
      | combat event =>
          obtain ⟨type, shooterId, targetId, projectileId, damage, tick⟩ := event
          cases type <;> rfl
      | _ => rfl

end duels

/-! ## Events -/

namespace WebSocketServer

/-- What is behind the connections is an arena that the trace leads to. -/
structure InArena (trace : List (ServerItem R)) (w : WiredServer R) (m : Matchmaker R) : Prop where
  present : ∀ playerId, w.session.players.contains playerId = (presences playerId trace).head?.getD false
  played : ∃ older, GameSession.Runs older w.session
  wellFormed : m.WellFormed
  run : Arena.Runs (seenAs ServerItem.arenaEvents trace) (arenaOf w.session m.queue w.profiles.duelRecord)

variable {trace items : List (ServerItem R)} {w : WiredServer R} {m : Matchmaker R}

omit [DoubleConversions R] in
theorem flatMap_inSession (items : List SessionItem) :
    (items.map (ServerItem.inSession (R := R))).flatMap ServerItem.arenaEvents =
      items.flatMap SessionItem.arenaEvents := by
  rw [List.flatMap_map]
  rfl

omit [DoubleConversions R] in
theorem unseen_inSession {items : List SessionItem} (unseen : ∀ item ∈ items, item.arenaEvents = []) :
    ∀ item ∈ items.map (ServerItem.inSession (R := R)), item.arenaEvents = [] := by
  intro item member
  obtain ⟨inner, listed, rfl⟩ := List.mem_map.mp member
  exact unseen inner listed

omit [DoubleConversions R] in
theorem presences_inSession (playerId : String) (items : List SessionItem) (trace : List (ServerItem R)) :
    presences playerId ((items.map ServerItem.inSession).reverse ++ trace) = presences playerId trace :=
  Unnoticed.presences_eq (.map items fun _ => ⟨fun _ => rfl, rfl⟩) playerId trace

/-- Somebody who is absent enters. -/
theorem InArena.joined (inArena : InArena trace w m) {playerId : String} (rating now : Int) (named : playerId ≠ "")
    (absent : (presences playerId trace).head?.getD false = false) :
    InArena
      (.joined playerId rating :: .inSession (.upserted playerId (!w.session.players.contains playerId)) :: trace)
      { w with session := w.session.upsertPlayer playerId }
      (m.enqueue { playerId, elo := 1200, enqueuedAt := now }) := by
  let fresh := !w.session.players.contains playerId
  have nobody : (w.session.players.find playerId).isSome = false := (inArena.present playerId).trans absent
  have missing := Option.not_isSome_iff_eq_none.mp (Bool.eq_false_iff.mp nobody)
  obtain ⟨older, run⟩ := inArena.played
  have played : GameSession.Runs (.upserted playerId fresh :: older) (w.session.upsertPlayer playerId) :=
    .next run ⟨.upsertPlayer playerId, if_neg named⟩
  have entered : (w.session.upsertPlayer playerId).players.find playerId =
      some ((PlayerRuntimeState.default : PlayerRuntimeState R).enter playerId) := by
    rw [GameSession.upsertPlayer, UnorderedMap.find_upsert, if_pos rfl, missing]
    rfl
  have others : ∀ other, other ≠ playerId →
      (w.session.upsertPlayer playerId).players.find other = w.session.players.find other := by
    intro other apart
    rw [GameSession.upsertPlayer, UnorderedMap.find_upsert, if_neg apart]
  have unhurt : ((PlayerRuntimeState.default : PlayerRuntimeState R).enter playerId).condition = .unhurt := by
    have account : LifeAccount playerId ((PlayerRuntimeState.default : PlayerRuntimeState R).enter playerId)
      [.upserted playerId true] := lifeAccount_insert
    rw [condition_of_health account.maximum account.health, dif_pos (by rw [hitsOn_upserted]; decide)]
    simp only [hitsOn_upserted]
    rfl
  refine ⟨?_, ⟨_, played⟩, Matchmaker.wellFormed_enqueue inArena.wellFormed _, ?_⟩
  · intro other
    rw [UnorderedMap.contains]
    by_cases asked : other = playerId
    · subst asked
      rw [entered]
      simp [presences, ServerItem.presence?]
    · have same : presences other (.joined playerId rating :: .inSession (.upserted playerId fresh) :: trace) =
          presences other trace := by
        rw [presences, List.filterMap_cons, ServerItem.presence?, if_neg (Ne.symm asked)]
        rfl
      rw [others other asked, same]
      exact inArena.present other
  · let arena := arenaOf w.session m.queue w.profiles.duelRecord
    have allowed : arena.Allows (.enters playerId) := by
      change (w.session.players.find playerId).map PlayerRuntimeState.condition = none
      rw [missing]
      rfl
    have steps : Steps (StepOf Arena.perform) arena
        ([ServerItem.inSession (R := R) (.upserted playerId fresh), .joined playerId rating].flatMap
          ServerItem.arenaEvents)
        (arenaOf (w.session.upsertPlayer playerId) (m.enqueue { playerId, elo := 1200, enqueuedAt := now }).queue
          w.profiles.duelRecord) := by
      refine Arena.step _ allowed (Arena.ext ?_ ?_ rfl)
      · funext other
        change Function.update arena.conditions playerId (some .unhurt) other = Option.map _ _
        by_cases asked : other = playerId
        · rw [asked, Function.update_self, entered, Option.map_some, unhurt]
        · rw [Function.update_of_ne asked, others other asked]
          rfl
      · funext other
        change Function.update arena.waiting playerId true other = InMemoryMatchQueue.holds _ other
        rw [holds_enqueue inArena.wellFormed]
        by_cases asked : other = playerId
        · rw [asked, Function.update_self, if_pos rfl]
        · rw [Function.update_of_ne asked, if_neg asked]
          rfl
    exact steps.seen inArena.run

/-- Somebody who is present leaves. -/
theorem InArena.left (inArena : InArena trace w m) {playerId : String}
    (present : (presences playerId trace).head?.getD false = true) :
    InArena (.left playerId :: ((removal w playerId).reverse ++ trace))
      { w with session := w.session.removePlayer playerId } (m.cancel playerId).2 := by
  have here := (inArena.present playerId).trans present
  obtain ⟨runtime, found⟩ := Option.isSome_iff_exists.mp here
  obtain ⟨older, run⟩ := inArena.played
  have finds : ∀ other, (w.session.removePlayer playerId).players.find other =
      if other = playerId then none else w.session.players.find other := by
    intro other
    rw [removePlayer, UnorderedMap.find_erase]
  have played := Run.next run ⟨.removePlayer playerId, rfl⟩
  refine ⟨?_, ⟨_, played⟩, Matchmaker.wellFormed_cancel inArena.wellFormed playerId, ?_⟩
  · intro other
    have quiet : presences other ((removal w playerId).reverse ++ trace) = presences other trace :=
      presences_inSession other _ trace
    rw [UnorderedMap.contains, finds, presences, List.filterMap_cons, ← presences, quiet]
    by_cases asked : other = playerId
    · subst asked
      simp [ServerItem.presence?]
    · rw [if_neg asked, ServerItem.presence?, if_neg (Ne.symm asked)]
      exact inArena.present other
  · let arena := arenaOf w.session m.queue w.profiles.duelRecord
    have allowed : arena.Allows (.leaves playerId) := by
      change (w.session.players.find playerId).map PlayerRuntimeState.condition ≠ none
      rw [found]
      exact Option.some_ne_none _
    have unseen : ∀ item ∈ removal w playerId, item.arenaEvents = [] := by
      refine unseen_inSession fun item member => ?_
      rcases List.mem_cons.mp member with rfl | dropped
      · rfl
      · obtain ⟨projectile, -, rfl⟩ := List.mem_map.mp dropped
        rfl
    have run := inArena.run
    rw [← seenAs_unseen unseen] at run
    have steps : Steps (StepOf Arena.perform) arena
        ([ServerItem.left (R := R) playerId].flatMap ServerItem.arenaEvents)
        (arenaOf (w.session.removePlayer playerId) (m.cancel playerId).2.queue w.profiles.duelRecord) := by
      refine Arena.step _ allowed (Arena.ext ?_ ?_ rfl)
      · funext other
        change Function.update arena.conditions playerId none other = Option.map _ _
        rw [finds]
        by_cases asked : other = playerId
        · rw [asked, Function.update_self, if_pos rfl]
          rfl
        · rw [Function.update_of_ne asked, if_neg asked]
          rfl
      · funext other
        change Function.update arena.waiting playerId false other = InMemoryMatchQueue.holds _ other
        rw [holds_cancel inArena.wellFormed]
        by_cases asked : other = playerId
        · rw [asked, Function.update_self, if_pos rfl]
        · rw [Function.update_of_ne asked, if_neg asked]
          rfl
    exact steps.seen run

/-- The session moves, but nobody enters or leaves. -/
theorem InArena.moves (inArena : InArena trace w m) {items older newer : List SessionItem} {session : GameSession R}
    (profiles : PlayerProfileService) (run : GameSession.Runs older w.session) (moves : Moves w.session items session)
    (calm : ∀ playerId, ∀ item ∈ items, item.presence? playerId = none) (played : GameSession.Runs newer session)
    {observed : List (ServerItem R)}
    (seen : observed.flatMap ServerItem.arenaEvents = items.flatMap SessionItem.arenaEvents)
    (silent : ∀ playerId, presences playerId (observed.reverse ++ trace) = presences playerId trace)
    (settled : (∀ duel ∈ (items.flatMap SessionItem.arenaEvents).filterMap ArenaEvent.duel?, duel.1 ≠ duel.2) →
      profiles.duelRecord = ((items.flatMap SessionItem.arenaEvents).filterMap ArenaEvent.duel?).foldl
        (settleDuel (arenaRules R)) w.profiles.duelRecord) :
    InArena (observed.reverse ++ trace) ⟨session, profiles⟩ m := by
  have byMoves := run.byMoves.1
  obtain ⟨records, steps⟩ := moves_steps m.queue w.profiles.duelRecord byMoves moves calm
  have same : records = profiles.duelRecord :=
    (Arena.records_of_steps steps).trans (settled (Arena.differ_of_steps steps)).symm
  refine ⟨fun playerId => ?_, ⟨newer, played⟩, inArena.wellFormed, ?_⟩
  · have before := (MoveRuns.presenceLedger byMoves).present playerId
    have after := (MoveRuns.presenceLedger (byMoves.moves moves)).present playerId
    rw [isPresent_append (calm playerId), ← before, inArena.present] at after
    rw [silent]
    exact after
  · rw [← seen, same] at steps
    exact steps.seen inArena.run

/-- An input lets nobody enter, leave or be hit. -/
theorem InArena.received (inArena : InArena trace w m) (call : InputCall R) {playerId : String}
    {input : MovementInput R} {targetDelta : R} {after : GameSession R} {outcome : Unit}
    (applied : w.session.applyInput playerId input targetDelta = (after, .ok outcome)) :
    InArena (.applied call :: ((receipt w playerId after).reverse ++ trace)) { w with session := after } m := by
  obtain ⟨older, run⟩ := inArena.played
  have same : (w.session.applyInput playerId input targetDelta).1 = after := congrArg Prod.fst applied
  have moves := w.session.applyInput_moves playerId input targetDelta
  rw [same] at moves
  have about : ∀ item ∈ SessionItem.input playerId :: w.session.spawnedItems after,
      item.arenaEvents = [] ∧ ∀ other, item.presence? other = none := by
    intro item member
    rcases List.mem_cons.mp member with rfl | spawned
    · exact ⟨rfl, fun _ => rfl⟩
    · obtain ⟨projectile, -, rfl⟩ := List.mem_map.mp spawned
      exact ⟨rfl, fun _ => rfl⟩
  have quiet := List.flatMap_eq_nil_iff.mpr fun item member => (about item member).1
  have played : GameSession.Runs _ after :=
    .next run ⟨.applyInput playerId input targetDelta, by rw [GameSession.perform, same]⟩
  have seen : (receipt w playerId after ++ [ServerItem.applied call]).flatMap ServerItem.arenaEvents =
      (SessionItem.input playerId :: w.session.spawnedItems after).flatMap SessionItem.arenaEvents := by
    rw [List.flatMap_append, receipt, flatMap_inSession]
    exact List.append_nil _
  have silent : ∀ other, presences other ((receipt w playerId after ++ [ServerItem.applied call]).reverse ++ trace) =
      presences other trace := by
    intro other
    rw [List.reverse_append, List.append_assoc]
    exact presences_inSession other _ trace
  have received := inArena.moves w.profiles run moves
    (fun other item member => (about item member).2 other) played seen silent fun _ => by rw [quiet]; rfl
  rw [List.reverse_append, List.append_assoc] at received
  exact received

/-- The maps enumerate their entries in another order. -/
theorem InArena.reordered (inArena : InArena trace w m) (order : List String) :
    InArena trace { w with session := { w.session with players := w.session.players.reorder order } } m := by
  obtain ⟨older, run⟩ := inArena.played
  have nothing : ∀ playerId, ∀ item ∈ ([] : List SessionItem), item.presence? playerId = none :=
    fun _ _ member => absurd member List.not_mem_nil
  have played : GameSession.Runs ([].reverse ++ older) { w.session with players := w.session.players.reorder order } :=
    .next run ⟨.reorder order, rfl⟩
  have seen : ([] : List (ServerItem R)).flatMap ServerItem.arenaEvents =
      ([] : List SessionItem).flatMap SessionItem.arenaEvents := rfl
  have moves := (Move.reorder w.session order).single
  exact inArena.moves w.profiles run moves nothing played seen (fun _ => rfl) fun _ => rfl

/-- A tick is fought in the arena, and each death of it is a duel that is recorded. -/
theorem InArena.broadcast {s : WebSocketServer R} (run : Runs trace s)
    (inArena : InArena trace s.toWiredServer s.matchmaker) (tick : Nat) (deltaSeconds : R)
    (now : CombatEvent → Int) :
    InArena (((s.toWiredServer.broadcastState tick deltaSeconds now).1.map .wired).reverse ++ trace)
      (s.toWiredServer.broadcastState tick deltaSeconds now).2 s.matchmaker := by
  have ledger := WiredServer.Runs.ledger (Runs.wired run)
  let session := (s.session.tick tick deltaSeconds).1
  let events := (s.session.tick tick deltaSeconds).2
  let expired := (s.session.moveProjectiles deltaSeconds).expiredItems
  let ticked : List SessionItem := .ticked tick :: (expired ++ events.map .combat)
  let items := ticked ++ [.consumed session.pendingDeaths]
  let calls := (session.pendingDeaths.filter fun event => event.type == .death).map fun event =>
    CollectCall.mk event session.consumeDeathEvents.2 (now event)
  let profiles := (calls.map CollectCall.result).foldl (PlayerProfileService.recordMatch R) s.profiles
  have moves : Moves s.session items session.consumeDeathEvents.2 :=
    (s.session.tick_moves tick deltaSeconds ledger.run.byMoves.2).append (Move.consume session).single
  have played : GameSession.Runs _ session.consumeDeathEvents.2 :=
    .next (.next ledger.run ⟨.tick tick deltaSeconds, rfl⟩) ⟨.consumeDeathEvents, rfl⟩
  have calm : ∀ playerId, ∀ item ∈ items, item.presence? playerId = none := by
    intro playerId item member
    rcases List.mem_append.mp member with inTick | last
    · rcases List.mem_cons.mp inTick with rfl | later
      · rfl
      · rcases List.mem_append.mp later with gone | fought
        · obtain ⟨projectile, -, rfl⟩ := List.mem_map.mp gone
          rfl
        · obtain ⟨event, -, rfl⟩ := List.mem_map.mp fought
          rfl
    · rw [List.mem_singleton.mp last]
      rfl
  let observed : List (ServerItem R) :=
    items.map ServerItem.inSession ++ calls.map fun call => .wired (.collected call)
  have seen : observed.flatMap ServerItem.arenaEvents = items.flatMap SessionItem.arenaEvents := by
    have unseen : (calls.map fun call => ServerItem.wired (.collected call)).flatMap ServerItem.arenaEvents = [] := by
      refine List.flatMap_eq_nil_iff.mpr fun item member => ?_
      obtain ⟨call, -, rfl⟩ := List.mem_map.mp member
      rfl
    rw [List.flatMap_append, unseen, List.append_nil, flatMap_inSession]
  have silent : ∀ playerId, presences playerId (observed.reverse ++ trace) = presences playerId trace :=
    fun playerId => Unnoticed.presences_eq ((Unnoticed.map items fun _ => ⟨fun _ => rfl, rfl⟩).append
      (.map calls fun _ => ⟨fun _ => rfl, rfl⟩)) playerId trace
  have deaths : (items.filterMap SessionItem.combat?).filter (fun event => event.type == .death) =
      session.pendingDeaths := by
    have pending := GameSession.Runs.deathEvents_tick ledger.run ledger.delivered
      (rfl : GameSession.perform (.tick tick deltaSeconds) s.session = some (ticked, session))
    rw [deathEvents_append, List.append_cancel_left_eq] at pending
    have inTick : (ticked.filterMap SessionItem.combat?).filter (fun event => event.type == .death) =
        session.pendingDeaths := pending
    rw [List.filterMap_append, List.filter_append, inTick]
    exact List.append_nil _
  have wired : (s.toWiredServer.broadcastState tick deltaSeconds now).1.map ServerItem.wired = observed := by
    change (items.map WiredItem.inSession ++ calls.map WiredItem.collected).map ServerItem.wired = observed
    rw [List.map_append, List.map_map, List.map_map]
    rfl
  rw [wired]
  refine inArena.moves profiles ledger.run moves calm played seen silent ?_
  rw [duels_eq, deaths]
  intro differ
  have results : (calls.map CollectCall.result).map (fun result => (result.winnerId, result.loserId)) =
      session.pendingDeaths.map fun event => (event.shooterId, event.targetId) := by
    have all : session.pendingDeaths.filter (fun event => event.type == .death) = session.pendingDeaths := by
      rw [← deaths, List.filter_filter]
      simp only [Bool.and_self]
    change (((session.pendingDeaths.filter fun event => event.type == .death).map _).map _).map _ = _
    rw [all, List.map_map, List.map_map]
    rfl
  rw [← results] at differ ⊢
  exact duelRecord_foldl _ s.profiles fun result member => differ _ (List.mem_map_of_mem member)

/-- The matches of a pass pair players that wait. -/
theorem pairings_steps {made : List Match} (two : ∀ created ∈ made, ∃ a b, created.players = [a, b])
    (once : (made.flatMap Match.players).Nodup) {arena : Arena (arenaRules R) String}
    (waits : ∀ playerId ∈ made.flatMap Match.players, arena.waiting playerId = true) :
    Steps (StepOf Arena.perform) arena (made.flatMap Match.pairing) (arena.dismiss (made.flatMap Match.players)) := by
  induction made generalizing arena with
  | nil =>
      rw [List.flatMap_nil, List.flatMap_nil, Arena.dismiss_nil]
      exact .none arena
  | cons created made ih =>
      obtain ⟨⟨a, b, players⟩, rest⟩ := List.forall_mem_cons.mp two
      have events : created.pairing = [.paired a b] := by rw [Match.pairing, players]
      rw [List.flatMap_cons, players] at once waits
      obtain ⟨first, later, apart⟩ := List.nodup_append.mp once
      have differ : a ≠ b := by
        rintro rfl
        exact absurd first (by simp)
      have allowed : arena.Allows (.paired a b) := ⟨differ, waits a (by simp), waits b (by simp)⟩
      have still : ∀ playerId ∈ made.flatMap Match.players, (arena.after (.paired a b)).waiting playerId = true := by
        intro playerId member
        have notA : playerId ≠ a := fun same => apart a (by simp) playerId member same.symm
        have notB : playerId ≠ b := fun same => apart b (by simp) playerId member same.symm
        change Function.update (Function.update arena.waiting a false) b false playerId = true
        rw [Function.update_of_ne notB, Function.update_of_ne notA]
        exact waits playerId (List.mem_append_right _ member)
      have steps := (Arena.step _ allowed rfl).trans (ih rest later still)
      rw [List.flatMap_cons, events, List.flatMap_cons, players, ← Arena.dismiss_paired]
      exact steps

/-- A pass pairs those whom it matches. -/
theorem InArena.ran (inArena : InArena trace w m) (now : Int) :
    InArena (.ran ⟨m.queue, now, (m.runMatching now).2⟩ :: trace) w (m.runMatching now).1.drain.2 := by
  have sound := pass_sound inArena.wellFormed.coherent now
  have wellFormed := Matchmaker.wellFormed_runMatching inArena.wellFormed now
  refine ⟨inArena.present, inArena.played, ⟨wellFormed.coherent, wellFormed.issued⟩, ?_⟩
  have two : ∀ created ∈ (m.runMatching now).2, ∃ a b, created.players = [a, b] := by
    intro created member
    obtain ⟨a, b, -, -, joins⟩ := sound.joins created member
    exact ⟨_, _, joins.players⟩
  have waits : ∀ playerId ∈ (m.runMatching now).2.flatMap Match.players, m.queue.holds playerId = true := by
    intro playerId member
    obtain ⟨created, listed, named⟩ := List.mem_flatMap.mp member
    obtain ⟨a, b, foundA, foundB, joins⟩ := sound.joins created listed
    rw [joins.players] at named
    rcases List.mem_cons.mp named with rfl | second
    · rw [InMemoryMatchQueue.holds, foundA]
      rfl
    · rw [List.mem_singleton.mp second, InMemoryMatchQueue.holds, foundB]
      rfl
  let arena := arenaOf w.session m.queue w.profiles.duelRecord
  have steps := pairings_steps two sound.once (show ∀ playerId ∈ _, arena.waiting playerId = true from waits)
  have same : arenaOf w.session (m.runMatching now).1.drain.2.queue w.profiles.duelRecord =
      arena.dismiss ((m.runMatching now).2.flatMap Match.players) := by
    refine Arena.ext rfl (funext fun playerId => ?_) rfl
    change ((m.runMatching now).1.queue.contents playerId).isSome =
      if _ then false else (m.queue.contents playerId).isSome
    rw [sound.contents]
    split <;> rfl
  rw [← same] at steps
  have pass : Steps (StepOf Arena.perform) arena
      ([ServerItem.ran (R := R) ⟨m.queue, now, (m.runMatching now).2⟩].flatMap ServerItem.arenaEvents)
      (arenaOf w.session (m.runMatching now).1.drain.2.queue w.profiles.duelRecord) := by
    rw [List.flatMap_singleton]
    exact steps
  exact pass.seen inArena.run

omit [DoubleConversions R] in
/-- The joins and leaves of a player alternate in what happened before. -/
theorem alternates_suffix {older : List (ServerItem R)} (suffix : older <:+ trace)
    (alternate : ∀ playerId, Alternates (presences playerId trace)) (playerId : String) :
    Alternates (presences playerId older) := by
  obtain ⟨newer, rfl⟩ := suffix
  induction newer with
  | nil => exact alternate playerId
  | cons item newer ih =>
      refine ih fun playerId => ?_
      have all := alternate playerId
      rw [List.cons_append, presences, List.filterMap_cons] at all
      split at all
      · exact all
      · exact (Alternates.uncons all).2

/-- Frames are nothing in the arena. -/
theorem InArena.told (inArena : InArena trace w m) (frames : ∀ item ∈ items, item.isFrame = true) :
    InArena (items.reverse ++ trace) w m := by
  have silent : ∀ item ∈ items, (∀ playerId, item.presence? playerId = none) ∧ item.arenaEvents = [] := by
    intro item member
    have frame := frames item member
    cases item with
    | enqueued _ _ | missed _ => exact ⟨fun _ => rfl, rfl⟩
    | _ => cases frame
  refine ⟨fun playerId => ?_, inArena.played, inArena.wellFormed, ?_⟩
  · have none : items.reverse.filterMap (ServerItem.presence? playerId) = [] := by
      rw [List.filterMap_eq_nil_iff]
      exact fun item member => (silent item (List.mem_reverse.mp member)).1 playerId
    rw [presences, List.filterMap_append, none, List.nil_append]
    exact inArena.present playerId
  · rw [seenAs_unseen fun item member => (silent item member).2]
    exact inArena.run

/-- While joins and leaves alternate, the events of the server are those of the arena. -/
theorem inArena_invariant : EventInvariant (R := R) fun trace w m =>
    (∀ playerId, Alternates (presences playerId trace)) → InArena trace w m where
  told frames holds alternate :=
    (holds (alternates_suffix (List.suffix_append _ _) alternate)).told frames
  joined := by
    intro trace w m playerId rating now named holds alternate
    have turns := alternates_suffix ((List.suffix_cons _ trace).trans (List.suffix_cons _ _)) alternate
    have turn : Alternates (true :: presences playerId trace) := by
      have all := alternate playerId
      rw [presences, List.filterMap_cons, ServerItem.presence?, if_pos rfl] at all
      exact all
    exact (holds turns).joined rating now named (by simpa using (Alternates.uncons turn).1)
  left := by
    intro trace w m playerId holds alternate
    have turns := alternates_suffix ((List.suffix_append _ trace).trans (List.suffix_cons _ _)) alternate
    have turn : Alternates (false :: presences playerId trace) := by
      have all := alternate playerId
      rw [presences, List.filterMap_cons, ServerItem.presence?, if_pos rfl] at all
      have quiet : presences playerId ((removal w playerId).reverse ++ trace) = presences playerId trace :=
        presences_inSession playerId _ trace
      rw [← quiet]
      exact all
    exact (holds turns).left (by simpa using (Alternates.uncons turn).1)
  received := by
    intro trace w m playerId input targetDelta after outcome call applied holds alternate
    have turns := alternates_suffix ((List.suffix_append _ trace).trans (List.suffix_cons _ _)) alternate
    exact (holds turns).received call applied
  broadcast tick deltaSeconds now run holds alternate :=
    (holds (alternates_suffix (List.suffix_append _ _) alternate)).broadcast run tick deltaSeconds now
  ran now holds alternate := (holds (alternates_suffix (List.suffix_cons _ _) alternate)).ran now
  reordered order holds alternate := (holds alternate).reordered order

/-- Every run of the server is a run of the arena that the server is: who enters is absent, who leaves is present,
only two who wait are paired, only a player of the arena hits another one that stands, whoever falls has taken five
hits, and each fall is one duel in the two records. So the books of every player balance. -/
theorem Runs.refinesArena {s : WebSocketServer R} (run : Runs trace s) :
    Arena.Runs (seenAs ServerItem.arenaEvents trace) s.arena ∧
      ∀ playerId, Arena.Books (seenAs ServerItem.arenaEvents trace) s.arena playerId := by
  have start : InArena ([] : List (ServerItem R)) ⟨.new, .new (some .new)⟩ .new := by
    refine ⟨fun _ => rfl, ⟨[], .start rfl⟩, Matchmaker.Reachable.new.wellFormed, .start ?_⟩
    exact Arena.ext rfl rfl rfl
  have inArena := inArena_invariant.holds (fun _ => start) run (registry_agrees run).alternate
  exact ⟨inArena.run, Arena.Runs.books inArena.run⟩

end WebSocketServer

/-- `"bob"` loses a duel, is paired nevertheless, and leaves. -/
def duelAndPairing : List (ServerAction Computed) :=
  connects 0 ++ sends 0 "alice" alice_named (duelInput 0 false false) ++ lostDuel 1 ++
    [.matchmakingTick 0, .completeRead 1 .failed, .readLoop 1 0]

theorem refinesArena_duelAndPairing : ∃ (trace : List (ServerItem Computed)) (s : WebSocketServer Computed),
    (Arena.Runs (seenAs ServerItem.arenaEvents trace) s.arena ∧
      ∀ playerId, Arena.Books (seenAs ServerItem.arenaEvents trace) s.arena playerId) ∧
      seenAs ServerItem.arenaEvents trace =
        [.leaves "bob", .paired "alice" "bob", .falls "bob" "alice"] ++
          List.replicate 5 (.hits "alice" "bob") ++ [.enters "bob", .enters "alice"] := by
  have fresh : WebSocketServer.Initial (WebSocketServer.new (1 / 10 : ℚ) : WebSocketServer Computed) := ⟨_, rfl⟩
  obtain ⟨trace, s, run, passed⟩ := exists_run_of_replay duelAndPairing
    (fun trace _ => seenAs ServerItem.arenaEvents trace ==
      [.leaves "bob", .paired "alice" "bob", .falls "bob" "alice"] ++
        List.replicate 5 (.hits "alice" "bob") ++ [.enters "bob", .enters "alice"])
    fresh (show (replay WebSocketServer.perform _ _).any _ = true by decide +kernel)
  exact ⟨trace, s, WebSocketServer.Runs.refinesArena run, eq_of_beq passed⟩

end Arena60
