import Arena60.Game.Frames
import Arena60.Game.LifeAccounts
import Arena60.Misc.ExactArith

/-!
# Ticks and the enumeration order of the players

A projectile hits the first player it touches in the order in which the players are
enumerated. That order matters to a tick if and only if some projectile touches two players
who are still alive when it is their turn, and who is still alive then can be counted from
the state before the tick.
-/

namespace Arena60

open Misc Misc.DoubleArith

universe u

namespace GameSession

variable {R : Type u} [DoubleArith R]

/-! ## Which player is hit -/

/-- Whether a projectile can hit a player. -/
def isCandidate (projectile : Projectile R) (runtime : PlayerRuntimeState R) : Bool :=
  runtime.state.isAlive && runtime.state.playerId != projectile.ownerId &&
    touches projectile runtime.state

/-- The loop over the players finds the first one that can be hit. -/
theorem firstContact_find (projectile : Projectile R) (entries : List (String × PlayerRuntimeState R)) :
    (firstContact projectile entries).1 =
      (entries.find? fun entry => isCandidate projectile entry.2).map Prod.fst := by
  induction entries with
  | nil => rfl
  | cons entry entries ih =>
      obtain ⟨key, runtime⟩ := entry
      rw [firstContact, List.find?_cons]
      by_cases skipped : (!runtime.state.isAlive || runtime.state.playerId == projectile.ownerId) = true
      · have other : isCandidate projectile runtime = false := by
          unfold isCandidate
          cases alive : runtime.state.isAlive with
          | false => rfl
          | true =>
              rw [alive, Bool.not_true, Bool.false_or] at skipped
              simp [bne, skipped]
        rw [if_pos skipped, other]
        exact ih
      · have eligible : isCandidate projectile runtime = touches projectile runtime.state := by
          unfold isCandidate
          rw [Bool.not_eq_true, Bool.or_eq_false_iff, Bool.not_eq_false'] at skipped
          rw [skipped.1, bne, skipped.2]
          rfl
        rw [if_neg skipped, eligible]
        cases touches projectile runtime.state with
        | true => rfl
        | false => exact ih

/-- Who is hit can be hit. -/
theorem firstContact_some {projectile : Projectile R}
    {players : UnorderedMap String (PlayerRuntimeState R)} {key : String}
    (found : (firstContact projectile players.entries).1 = some key) :
    ∃ runtime, players.find key = some runtime ∧ isCandidate projectile runtime = true := by
  rw [firstContact_find] at found
  obtain ⟨entry, first, rfl⟩ := Option.map_eq_some_iff.mp found
  have hit := List.find?_some first
  exact ⟨entry.2, (players.find_eq_some_iff entry.1 entry.2).mpr (List.mem_of_find?_eq_some first), hit⟩

/-- Nobody is hit when nobody can be. -/
theorem firstContact_none {projectile : Projectile R}
    {players : UnorderedMap String (PlayerRuntimeState R)}
    (missed : (firstContact projectile players.entries).1 = none) {key : String}
    {runtime : PlayerRuntimeState R} (present : players.find key = some runtime) :
    isCandidate projectile runtime = false := by
  rw [firstContact_find, Option.map_eq_none_iff, List.find?_eq_none] at missed
  have other := missed (key, runtime) ((players.find_eq_some_iff key runtime).mp present)
  rwa [Bool.not_eq_true] at other

/-! ## Sessions that enumerate their players differently -/

/-- Sessions that differ only in the order of the players and in the pairs checked. -/
structure Agree (s s' : GameSession R) : Prop where
  rest : s' = { s with players := s'.players, collisionsCheckedTotal := s'.collisionsCheckedTotal }
  players : ∀ key, s.players.find key = s'.players.find key

omit [DoubleArith R] in
theorem Agree.registerHit {s s' : GameSession R} (agree : Agree s s') (tick : Nat)
    (projectile : Projectile R) (key : String) (runtime : PlayerRuntimeState R) :
    Agree (s.registerHit tick projectile key runtime).1 (s'.registerHit tick projectile key runtime).1 ∧
    (s.registerHit tick projectile key runtime).2 = (s'.registerHit tick projectile key runtime).2 := by
  have rest := agree.rest
  have players := agree.players
  generalize s'.players = order at rest players
  generalize s'.collisionsCheckedTotal = checked at rest
  subst rest
  unfold GameSession.registerHit
  dsimp only
  split
  · refine ⟨⟨rfl, fun other => ?_⟩, rfl⟩
    simp only [UnorderedMap.find_adjust, appendCombatEvent, players]
  · refine ⟨⟨rfl, fun other => ?_⟩, rfl⟩
    simp only [UnorderedMap.find_adjust, appendCombatEvent, players]

/-- At most one player can be hit. -/
def Uncontested (projectile : Projectile R) (players : UnorderedMap String (PlayerRuntimeState R)) :
    Prop :=
  ∀ key runtime key' runtime', players.find key = some runtime → players.find key' = some runtime' →
    isCandidate projectile runtime = true → isCandidate projectile runtime' = true → key = key'

/-- Who is hit does not depend on the order when only one player can be. -/
theorem Agree.contact {s s' : GameSession R} (agree : Agree s s') {projectile : Projectile R}
    (single : Uncontested projectile s.players) :
    (firstContact projectile s'.players.entries).1 = (firstContact projectile s.players.entries).1 := by
  cases found : (firstContact projectile s.players.entries).1 with
  | none =>
      cases found' : (firstContact projectile s'.players.entries).1 with
      | none => rfl
      | some key =>
          obtain ⟨runtime, present, hit⟩ := firstContact_some found'
          rw [← agree.players] at present
          rw [firstContact_none found present] at hit
          cases hit
  | some key =>
      obtain ⟨runtime, present, hit⟩ := firstContact_some found
      cases found' : (firstContact projectile s'.players.entries).1 with
      | none =>
          rw [agree.players] at present
          rw [firstContact_none found' present] at hit
          cases hit
      | some key' =>
          obtain ⟨runtime', present', hit'⟩ := firstContact_some found'
          rw [← agree.players] at present'
          rw [single key runtime key' runtime' present present' hit hit']

theorem Agree.collide {s s' : GameSession R} (agree : Agree s s') (tick : Nat)
    {projectile : Projectile R} (single : projectile.active = true → Uncontested projectile s.players) :
    Agree (s.collide tick projectile).1 (s'.collide tick projectile).1 ∧
    (s.collide tick projectile).2.1 = (s'.collide tick projectile).2.1 ∧
    (s.collide tick projectile).2.2.2 = (s'.collide tick projectile).2.2.2 := by
  cases active : projectile.active with
  | false =>
      rw [collide_inactive s tick active, collide_inactive s' tick active]
      exact ⟨agree, rfl, rfl⟩
  | true =>
      have same := agree.contact (single active)
      cases found : (firstContact projectile s.players.entries).1 with
      | none =>
          rw [found] at same
          rw [collide_missed tick active found, collide_missed tick active same]
          exact ⟨agree, rfl, rfl⟩
      | some key =>
          rw [found] at same
          obtain ⟨runtime, present, _⟩ := firstContact_some found
          have present' := present
          rw [agree.players] at present'
          rw [collide_hit tick active found present, collide_hit tick active same present']
          obtain ⟨after, events⟩ := agree.registerHit tick projectile key runtime
          exact ⟨after, rfl, events⟩

/-! ## Who is still alive -/

/-- The projectiles among some that touch a player other than their owner. -/
def touchCount (projectiles : List (Projectile R)) (runtime : PlayerRuntimeState R) : Nat :=
  projectiles.countP fun projectile => projectile.active &&
    runtime.state.playerId != projectile.ownerId && touches projectile runtime.state

omit [DoubleArith R] in
/-- Whether a player is alive after a number of hits. -/
def isAliveAfter (hits : Nat) (runtime : PlayerRuntimeState R) : Bool :=
  runtime.state.isAlive && (hits == 0 || decide (kDamagePerHit * hits < runtime.health.current))

/-- Whether a projectile can hit a player after some other projectiles. -/
def isCandidateAfter (earlier : List (Projectile R)) (projectile : Projectile R)
    (runtime : PlayerRuntimeState R) : Bool :=
  isCandidate projectile runtime && isAliveAfter (touchCount earlier runtime) runtime

omit [DoubleArith R] in
/-- The entry of a player in the middle of a sweep, after a number of hits. -/
structure Damaged (hits : Nat) (start runtime : PlayerRuntimeState R) : Prop where
  name : runtime.state.playerId = start.state.playerId
  x : runtime.state.x = start.state.x
  y : runtime.state.y = start.state.y
  alive : runtime.state.isAlive = isAliveAfter hits start
  health : runtime.state.isAlive = true →
    runtime.health.current = start.health.current - kDamagePerHit * hits

omit [DoubleArith R] in
theorem Damaged.start (runtime : PlayerRuntimeState R) : Damaged 0 runtime runtime where
  name := rfl
  x := rfl
  y := rfl
  alive := by simp [isAliveAfter]
  health := by simp

omit [DoubleArith R] in
/-- The account of a hit does not show in the entry. -/
theorem Damaged.credit {hits : Nat} {start runtime : PlayerRuntimeState R}
    (damaged : Damaged hits start runtime) : Damaged hits start runtime.creditHit :=
  ⟨damaged.name, damaged.x, damaged.y, damaged.alive, damaged.health⟩

omit [DoubleArith R] in
theorem Damaged.announce {hits : Nat} {start runtime : PlayerRuntimeState R}
    (damaged : Damaged hits start runtime) : Damaged hits start runtime.announceDeath :=
  ⟨damaged.name, damaged.x, damaged.y, damaged.alive, damaged.health⟩

omit [DoubleArith R] in
theorem Damaged.hit {hits : Nat} {start runtime : PlayerRuntimeState R}
    (damaged : Damaged hits start runtime) (alive : runtime.state.isAlive = true) :
    Damaged (hits + 1) start runtime.takeHit := by
  have health := damaged.health alive
  have started : start.state.isAlive = true := by
    have same := damaged.alive
    rw [alive, isAliveAfter, eq_comm, Bool.and_eq_true] at same
    exact same.1
  have after : isAliveAfter (hits + 1) start =
      decide (kDamagePerHit * (hits + 1 : Nat) < start.health.current) := by
    simp [isAliveAfter, started]
  refine ⟨damaged.name, damaged.x, damaged.y, ?_, ?_⟩
  · rw [after, Bool.eq_iff_iff, decide_eq_true_iff]
    show HealthComponent.isAlive (HealthComponent.applyDamage runtime.health kDamagePerHit).2 = true ↔ _
    unfold HealthComponent.applyDamage HealthComponent.isAlive kDamagePerHit at *
    split_ifs <;> simp_all <;> omega
  · intro survived
    show (HealthComponent.applyDamage runtime.health kDamagePerHit).2.current = _
    have survived : HealthComponent.isAlive (HealthComponent.applyDamage runtime.health kDamagePerHit).2 =
      true := survived
    unfold HealthComponent.applyDamage HealthComponent.isAlive kDamagePerHit at *
    split_ifs at * <;> simp_all <;> omega

omit [DoubleArith R] in
/-- More hits do not bring a player back to life. -/
theorem isAliveAfter_succ {hits : Nat} {start : PlayerRuntimeState R}
    (dead : isAliveAfter hits start = false) : isAliveAfter (hits + 1) start = false := by
  unfold isAliveAfter kDamagePerHit at *
  cases alive : start.state.isAlive with
  | false => rfl
  | true =>
      rw [alive, Bool.true_and, Bool.or_eq_false_iff, decide_eq_false_iff_not] at dead
      rw [Bool.true_and, Bool.or_eq_false_iff, decide_eq_false_iff_not]
      refine ⟨rfl, ?_⟩
      have enough := dead.2
      push_cast
      omega

theorem isCandidate_eq (projectile : Projectile R) {hits : Nat} {start runtime : PlayerRuntimeState R}
    (damaged : Damaged hits start runtime) :
    isCandidate projectile runtime =
      (isAliveAfter hits start && start.state.playerId != projectile.ownerId &&
        touches projectile start.state) := by
  have position : touches projectile runtime.state = touches projectile start.state := by
    unfold touches
    rw [damaged.x, damaged.y]
  rw [isCandidate, damaged.name, damaged.alive, position]

/-- The players in the middle of a sweep, after some projectiles. -/
structure Swept (earlier : List (Projectile R)) (start players : UnorderedMap String (PlayerRuntimeState R)) :
    Prop where
  damaged : ∀ key runtime, players.find key = some runtime →
    ∃ before, start.find key = some before ∧ Damaged (touchCount earlier before) before runtime
  present : ∀ key before, start.find key = some before → ∃ runtime, players.find key = some runtime

theorem touchCount_concat (earlier : List (Projectile R)) (projectile : Projectile R)
    (runtime : PlayerRuntimeState R) :
    touchCount (earlier ++ [projectile]) runtime = touchCount earlier runtime +
      (projectile.active && runtime.state.playerId != projectile.ownerId &&
        touches projectile runtime.state).toNat := by
  rw [touchCount, List.countP_append, ← touchCount, List.countP_singleton]
  cases projectile.active && runtime.state.playerId != projectile.ownerId &&
    touches projectile runtime.state <;> rfl

/-- A player that a projectile cannot hit is out of reach or dead. -/
theorem Damaged.missed {earlier : List (Projectile R)} {start runtime : PlayerRuntimeState R}
    (damaged : Damaged (touchCount earlier start) start runtime) {projectile : Projectile R}
    (missed : projectile.active = true → isCandidate projectile runtime = false) :
    Damaged (touchCount (earlier ++ [projectile]) start) start runtime := by
  rw [touchCount_concat]
  by_cases touched : (projectile.active && start.state.playerId != projectile.ownerId &&
      touches projectile start.state) = true
  · rw [touched]
    rw [Bool.and_eq_true, Bool.and_eq_true] at touched
    have dead : isAliveAfter (touchCount earlier start) start = false := by
      have other := missed touched.1.1
      rw [isCandidate_eq projectile damaged, touched.1.2, touched.2, Bool.and_true, Bool.and_true] at other
      exact other
    have notAlive : runtime.state.isAlive = false := damaged.alive.trans dead
    refine ⟨damaged.name, damaged.x, damaged.y, ?_, ?_⟩
    · rw [notAlive]
      exact (isAliveAfter_succ dead).symm
    · intro alive
      rw [notAlive] at alive
      cases alive
  · rw [Bool.not_eq_true] at touched
    rw [touched]
    exact damaged

omit [DoubleArith R] in
/-- After a contact the entries are those before, with a hit for the player that was hit. -/
theorem registerHit_damaged (s : GameSession R) (tick : Nat) (projectile : Projectile R) (key : String)
    (runtime : PlayerRuntimeState R) {other : String} {after : PlayerRuntimeState R}
    (found : (s.registerHit tick projectile key runtime).1.players.find other = some after) :
    ∃ stored, s.players.find other = some stored ∧ ∀ hits start,
      Damaged hits start (if other = key then stored.takeHit else stored) → Damaged hits start after := by
  have struck : ∀ {value}, ((s.players.adjust key .takeHit).adjust projectile.ownerId .creditHit).find
      other = some value → ∃ stored, s.players.find other = some stored ∧ ∀ hits start,
        Damaged hits start (if other = key then stored.takeHit else stored) → Damaged hits start value := by
    intro value present
    obtain ⟨hurt, present', rfl⟩ := UnorderedMap.find_adjust_eq_some present
    obtain ⟨stored, present'', rfl⟩ := UnorderedMap.find_adjust_eq_some present'
    refine ⟨stored, present'', fun hits start damaged => ?_⟩
    split
    · exact damaged.credit
    · exact damaged
  unfold registerHit at found
  dsimp only at found
  split at found
  · obtain ⟨value, present, rfl⟩ := UnorderedMap.find_adjust_eq_some found
    obtain ⟨stored, before, damaged⟩ := struck present
    refine ⟨stored, before, fun hits start hurt => ?_⟩
    split
    · exact (damaged hits start hurt).announce
    · exact damaged hits start hurt
  · exact struck found

theorem Swept.collide {earlier : List (Projectile R)}
    {start : UnorderedMap String (PlayerRuntimeState R)} {s : GameSession R}
    (swept : Swept earlier start s.players) (tick : Nat) {projectile : Projectile R}
    (single : projectile.active = true → Uncontested projectile s.players) :
    Swept (earlier ++ [projectile]) start (s.collide tick projectile).1.players := by
  -- nobody is hit
  have unchanged : (∀ key runtime, s.players.find key = some runtime → projectile.active = true →
      isCandidate projectile runtime = false) → Swept (earlier ++ [projectile]) start s.players := by
    intro missed
    refine ⟨fun key runtime present => ?_, swept.present⟩
    obtain ⟨before, stored, damaged⟩ := swept.damaged key runtime present
    exact ⟨before, stored, damaged.missed (missed key runtime present)⟩
  cases active : projectile.active with
  | false =>
      rw [collide_inactive s tick active]
      apply unchanged
      intro key runtime _ inactive
      rw [active] at inactive
      cases inactive
  | true =>
      cases found : (firstContact projectile s.players.entries).1 with
      | none =>
          rw [collide_missed tick active found]
          exact unchanged fun key runtime present _ => firstContact_none found present
      | some key =>
          obtain ⟨runtime, present, hit⟩ := firstContact_some found
          rw [collide_hit tick active found present]
          constructor
          · intro other after stored
            obtain ⟨entry, present', hurt⟩ := registerHit_damaged s tick projectile key runtime stored
            obtain ⟨before, first, damaged⟩ := swept.damaged other entry present'
            refine ⟨before, first, hurt _ _ ?_⟩
            by_cases target : other = key
            · subst target
              rw [present] at present'
              cases present'
              have touched := hit
              rw [isCandidate_eq projectile damaged, Bool.and_assoc, Bool.and_eq_true] at touched
              have alive : runtime.state.isAlive = true := damaged.alive.trans touched.1
              rw [if_pos rfl, touchCount_concat, active, Bool.true_and, touched.2]
              exact damaged.hit alive
            · rw [if_neg target]
              apply damaged.missed
              intro _
              rw [Bool.eq_false_iff]
              intro hit'
              exact target (single active other entry key runtime present' present hit' hit)
          · intro other before stored
            have known : s.players.contains other = true :=
              Option.isSome_iff_exists.mpr (swept.present other before stored)
            rw [UnorderedMap.contains_iff, ← registerHit_keys s tick projectile key runtime,
              ← UnorderedMap.contains_iff] at known
            exact Option.isSome_iff_exists.mp known

/-! ## Sweeps -/

/-- The elements of a list, each with those before it. -/
def withEarlier {α : Type u} : List α → List α → List (List α × α)
  | _, [] => []
  | earlier, a :: rest => (earlier, a) :: withEarlier (earlier ++ [a]) rest

/-- Two players can be hit by a projectile after the ones before it. -/
def IsContested (start : UnorderedMap String (PlayerRuntimeState R))
    (shot : List (Projectile R) × Projectile R) : Prop :=
  shot.2.active = true ∧ ∃ entry ∈ start.entries, ∃ entry' ∈ start.entries, entry.1 ≠ entry'.1 ∧
    isCandidateAfter shot.1 shot.2 entry.2 = true ∧ isCandidateAfter shot.1 shot.2 entry'.2 = true

instance (start : UnorderedMap String (PlayerRuntimeState R))
    (shot : List (Projectile R) × Projectile R) : Decidable (IsContested start shot) :=
  inferInstanceAs (Decidable (_ ∧ _))

theorem isCandidateAfter_eq {earlier : List (Projectile R)} {start runtime : PlayerRuntimeState R}
    (damaged : Damaged (touchCount earlier start) start runtime) {projectile : Projectile R} :
    isCandidateAfter earlier projectile start = isCandidate projectile runtime := by
  rw [isCandidate_eq projectile damaged, isCandidateAfter, isCandidate]
  unfold isAliveAfter
  cases start.state.isAlive <;> cases touches projectile start.state <;>
    cases start.state.playerId != projectile.ownerId <;> simp

theorem Swept.uncontested {earlier : List (Projectile R)}
    {start players : UnorderedMap String (PlayerRuntimeState R)} (swept : Swept earlier start players)
    {projectile : Projectile R} (free : ¬IsContested start (earlier, projectile))
    (active : projectile.active = true) : Uncontested projectile players := by
  intro key runtime key' runtime' present present' hit hit'
  obtain ⟨before, stored, damaged⟩ := swept.damaged key runtime present
  obtain ⟨before', stored', damaged'⟩ := swept.damaged key' runtime' present'
  by_contra differ
  rw [← isCandidateAfter_eq damaged] at hit
  rw [← isCandidateAfter_eq damaged'] at hit'
  exact free ⟨active, (key, before), (start.find_eq_some_iff _ _).mp stored, (key', before'),
    (start.find_eq_some_iff _ _).mp stored', differ, hit, hit'⟩

/-- Without contested projectiles a sweep does not depend on the order of the players. -/
theorem Agree.sweep (tick : Nat) (start : UnorderedMap String (PlayerRuntimeState R))
    (rest : List (Projectile R)) :
    ∀ (earlier : List (Projectile R)) {s s' : GameSession R}, Agree s s' →
      Swept earlier start s.players → (∀ shot ∈ withEarlier earlier rest, ¬IsContested start shot) →
      Agree (GameSession.sweep tick rest s).1 (GameSession.sweep tick rest s').1 ∧
      (GameSession.sweep tick rest s).2.1 = (GameSession.sweep tick rest s').2.1 ∧
      (GameSession.sweep tick rest s).2.2.2 = (GameSession.sweep tick rest s').2.2.2 := by
  induction rest with
  | nil => exact fun earlier s s' agree _ _ => ⟨agree, rfl, rfl⟩
  | cons projectile rest ih =>
      intro earlier s s' agree swept free
      have single := swept.uncontested (free _ List.mem_cons_self)
      obtain ⟨after, done, events⟩ := agree.collide tick single
      obtain ⟨finish, done', events'⟩ := ih (earlier ++ [projectile]) after (swept.collide tick single)
        fun shot member => free shot (List.mem_cons_of_mem _ member)
      rw [GameSession.sweep, GameSession.sweep]
      dsimp only
      rw [done, done', events, events']
      exact ⟨finish, rfl, rfl⟩

/-- The player enumerated first is hit when it can be. -/
theorem firstContact_head {projectile : Projectile R}
    {players : UnorderedMap String (PlayerRuntimeState R)} {key : String}
    {runtime : PlayerRuntimeState R} (first : players.keys.head? = some key)
    (present : players.find key = some runtime) (hit : isCandidate projectile runtime = true) :
    (firstContact projectile players.entries).1 = some key := by
  rw [firstContact_find]
  unfold UnorderedMap.keys UnorderedMap.find at *
  cases stored : players.entries with
  | nil =>
      rw [stored] at first
      cases first
  | cons entry entries =>
      obtain ⟨other, value⟩ := entry
      rw [stored] at first present
      cases first
      rw [lookupIn_cons, if_pos rfl] at present
      cases present
      rw [List.find?_cons, hit]
      rfl

/-- Of two sessions that enumerate different players first, a projectile that can hit both
hits a different player in each. -/
theorem collide_events_head {s : GameSession R} {earlier : List (Projectile R)}
    {start : UnorderedMap String (PlayerRuntimeState R)} (swept : Swept earlier start s.players)
    (filed : ∀ key runtime, start.find key = some runtime → runtime.state.playerId = key)
    (tick : Nat) {projectile : Projectile R} (active : projectile.active = true) {key : String}
    {before : PlayerRuntimeState R} (first : s.players.keys.head? = some key)
    (stored : start.find key = some before)
    (hit : isCandidateAfter earlier projectile before = true) :
    ∃ event later, (s.collide tick projectile).2.2.2 = event :: later ∧ event.targetId = key := by
  obtain ⟨runtime, present⟩ := swept.present key before stored
  obtain ⟨before', stored', damaged⟩ := swept.damaged key runtime present
  rw [stored] at stored'
  cases stored'
  rw [isCandidateAfter_eq damaged] at hit
  have target : runtime.state.playerId = key := damaged.name.trans (filed key before stored)
  rw [collide_hit tick active (firstContact_head first present hit) present]
  exact ⟨_, _, registerHit_events s tick projectile key runtime, target⟩

/-- The first contested projectile makes the events depend on the order of the players. -/
theorem sweep_differs (tick : Nat) {start : UnorderedMap String (PlayerRuntimeState R)}
    (filed : ∀ key runtime, start.find key = some runtime → runtime.state.playerId = key)
    (rest : List (Projectile R)) :
    ∀ earlier : List (Projectile R), (∃ shot ∈ withEarlier earlier rest, IsContested start shot) →
      ∃ key ∈ start.keys, ∃ key' ∈ start.keys, ∀ {s s' : GameSession R}, Agree s s' →
        Swept earlier start s.players → Swept earlier start s'.players →
        s.players.keys.head? = some key → s'.players.keys.head? = some key' →
        (sweep tick rest s).2.2.2 ≠ (sweep tick rest s').2.2.2 := by
  induction rest with
  | nil =>
      intro earlier contested
      obtain ⟨shot, member, _⟩ := contested
      cases member
  | cons projectile rest ih =>
      intro earlier contested
      by_cases here : IsContested start (earlier, projectile)
      · obtain ⟨active, entry, member, entry', member', differ, hit, hit'⟩ := here
        refine ⟨entry.1, List.mem_map_of_mem member, entry'.1, List.mem_map_of_mem member', ?_⟩
        intro s s' _ swept swept' first first' same
        obtain ⟨event, later, events, target⟩ := collide_events_head swept filed tick active first
          ((start.find_eq_some_iff _ _).mpr member) hit
        obtain ⟨event', later', events', target'⟩ := collide_events_head swept' filed tick active first'
          ((start.find_eq_some_iff _ _).mpr member') hit'
        rw [sweep, sweep] at same
        dsimp only at same
        rw [events, events', List.cons_append, List.cons_append] at same
        have event_eq : event = event' := (List.cons.inj same).1
        exact differ (target.symm.trans ((congrArg CombatEvent.targetId event_eq).trans target'))
      · have later : ∃ shot ∈ withEarlier (earlier ++ [projectile]) rest, IsContested start shot := by
          obtain ⟨shot, member, contest⟩ := contested
          cases member with
          | head => exact absurd contest here
          | tail _ member => exact ⟨shot, member, contest⟩
        obtain ⟨key, member, key', member', differs⟩ := ih (earlier ++ [projectile]) later
        refine ⟨key, member, key', member', ?_⟩
        intro s s' agree swept swept' first first' same
        have single := swept.uncontested here
        have single' := swept'.uncontested here
        obtain ⟨after, _, events⟩ := agree.collide tick single
        rw [← collide_keys s tick projectile] at first
        rw [← collide_keys s' tick projectile] at first'
        apply differs after (swept.collide tick single) (swept'.collide tick single') first first'
        rw [sweep, sweep] at same
        dsimp only at same
        rw [events] at same
        exact List.append_cancel_left same

/-! ## Ticks -/

omit [DoubleArith R] in
/-- The session with its players enumerated in another order. -/
def reordered (s : GameSession R) (order : List String) : GameSession R :=
  { s with players := s.players.reorder order }

/-- A tick has the same outcome for all orders of the players. -/
def OrderIndependent (s : GameSession R) (tick : Nat) (deltaSeconds : R) : Prop :=
  ∀ order order', let ticked := (s.reordered order).tick tick deltaSeconds
    let ticked' := (s.reordered order').tick tick deltaSeconds
    (∀ playerId, ticked.1.getPlayer playerId = ticked'.1.getPlayer playerId) ∧
    ticked.1.projectiles = ticked'.1.projectiles ∧ ticked.2 = ticked'.2

/-- Some projectile of a tick can hit two players when its turn comes. -/
def Contested (s : GameSession R) (deltaSeconds : R) : Prop :=
  ∃ shot ∈ withEarlier [] (s.moveProjectiles deltaSeconds).projectiles, IsContested s.players shot

instance (s : GameSession R) (deltaSeconds : R) : Decidable (Contested s deltaSeconds) :=
  inferInstanceAs (Decidable (∃ shot ∈ withEarlier [] (s.moveProjectiles deltaSeconds).projectiles,
    IsContested s.players shot))

omit [DoubleArith R] in
theorem agree_reordered (s : GameSession R) (order order' : List String) :
    Agree (s.reordered order) (s.reordered order') where
  rest := rfl
  players key := by
    unfold reordered
    rw [UnorderedMap.find_reorder, UnorderedMap.find_reorder]

theorem swept_reordered (s : GameSession R) (order : List String) :
    Swept [] s.players (s.reordered order).players := by
  have same : ∀ key, (s.reordered order).players.find key = s.players.find key := fun key =>
    UnorderedMap.find_reorder _ _ _
  constructor
  · intro key runtime found
    rw [same] at found
    exact ⟨runtime, found, Damaged.start runtime⟩
  · intro key before stored
    exact ⟨before, (same key).trans stored⟩

/-- A tick is independent of the order of the players if and only if no projectile is contested. -/
theorem tick_orderIndependent_iff {s : GameSession R} (filed : s.Filed) (tick : Nat)
    (deltaSeconds : R) : OrderIndependent s tick deltaSeconds ↔ ¬Contested s deltaSeconds := by
  constructor
  · intro independent contested
    obtain ⟨key, member, key', member', differs⟩ := sweep_differs tick filed _ [] contested
    let order := key :: s.players.keys.erase key
    let order' := key' :: s.players.keys.erase key'
    have first : ((s.moveProjectiles deltaSeconds).reordered order).players.keys.head? = some key :=
      congrArg List.head? (s.players.keys_reorder (List.perm_cons_erase member).symm)
    have first' : ((s.moveProjectiles deltaSeconds).reordered order').players.keys.head? = some key' :=
      congrArg List.head? (s.players.keys_reorder (List.perm_cons_erase member').symm)
    exact differs (agree_reordered (s.moveProjectiles deltaSeconds) order order')
      (swept_reordered (s.moveProjectiles deltaSeconds) order)
      (swept_reordered (s.moveProjectiles deltaSeconds) order') first first'
      (independent order order').2.2
  · intro free order order'
    have all : ∀ shot ∈ withEarlier [] (s.moveProjectiles deltaSeconds).projectiles,
        ¬IsContested s.players shot := fun shot member contest => free ⟨shot, member, contest⟩
    obtain ⟨agree, projectiles, events⟩ := Agree.sweep tick s.players _ []
      (agree_reordered (s.moveProjectiles deltaSeconds) order order') (swept_reordered _ order) all
    refine ⟨fun playerId => ?_, ?_, events⟩
    · have players : ((s.reordered order).tick tick deltaSeconds).1.players.find playerId =
          ((s.reordered order').tick tick deltaSeconds).1.players.find playerId := agree.players playerId
      unfold getPlayer
      rw [players]
    · exact congrArg (List.filter fun projectile => projectile.active) projectiles

/-- A fires to the right, where B stands and, unless it walked to the left, C as well. -/
def threePlayers (cWalksLeft : Bool) : List (SessionOp ℚ) :=
  [.upsertPlayer "A", .upsertPlayer "B", .upsertPlayer "C",
    .applyInput "B" ⟨1, false, false, false, true, 0, 0, false⟩ (4 / 5),
    .applyInput "C" ⟨1, false, false, cWalksLeft, !cWalksLeft, 0, 0, false⟩ (4 / 5),
    .applyInput "A" ⟨1, false, false, false, false, 1, 0, true⟩ 0]

theorem tick_orderIndependent_iff_apart :
    ∃ trace, ∃ s : GameSession ℚ, Runs trace s ∧ OrderIndependent s 0 (1 / 8) ∧
      s.players.size = 3 ∧ s.projectiles.length = 1 := by
  have fresh : (GameSession.new : GameSession ℚ).Initial := rfl
  obtain ⟨trace, s, run, passed⟩ := exists_run_of_replay (threePlayers true)
    (fun _ (s : GameSession ℚ) => decide (¬Contested s (1 / 8)) && decide (s.players.size = 3) &&
      decide (s.projectiles.length = 1)) fresh
    (show (replay GameSession.perform _ _).any _ = true by decide +kernel)
  simp only [Bool.and_eq_true, decide_eq_true_eq] at passed
  obtain ⟨⟨free, players⟩, shots⟩ := passed
  exact ⟨trace, s, run, (tick_orderIndependent_iff (Runs.filed run) 0 (1 / 8)).mpr free, players, shots⟩

/-- B or C is hit, whoever is enumerated first. -/
theorem tick_dependsOnOrder :
    ∃ trace, ∃ s : GameSession ℚ, Runs trace s ∧ ¬OrderIndependent s 0 (1 / 8) := by
  have fresh : (GameSession.new : GameSession ℚ).Initial := rfl
  obtain ⟨trace, s, run, passed⟩ := exists_run_of_replay (threePlayers false)
    (fun _ (s : GameSession ℚ) =>
      decide (((s.reordered ["A", "B", "C"]).tick 0 (1 / 8)).2 ≠
        ((s.reordered ["A", "C", "B"]).tick 0 (1 / 8)).2)) fresh
    (show (replay GameSession.perform _ _).any _ = true by decide +kernel)
  refine ⟨trace, s, run, fun independent => ?_⟩
  exact of_decide_eq_true passed (independent ["A", "B", "C"] ["A", "C", "B"]).2.2

end GameSession

end Arena60
