import Arena60.Game.StaleInputs
import Arena60.Game.Trajectories
import Arena60.Misc.ExactArith

/-!
# What a player does itself

Where a player stands, where it faces and what it shoots depends on its own inputs, on the clock and
on when it is killed, and on nothing else that happens in the session: a player is a small machine of
its own, and the session runs one for each player.
-/

namespace Arena60

open Misc Misc.DoubleArith

namespace GameSession

/-! ## The machine of one player -/

section machine

variable {R : Type} [DoubleArith R]

/-- The part of an entry that hits do not touch, and whether the player is alive. -/
structure Conduct (R : Type) where
  x : R
  y : R
  facingRadians : R
  lastSequence : Nat
  isAlive : Bool
  lastFireTime : R
  shotsFired : Nat

omit [DoubleArith R] in
def conduct (runtime : PlayerRuntimeState R) : Conduct R where
  x := runtime.state.x
  y := runtime.state.y
  facingRadians := runtime.state.facingRadians
  lastSequence := runtime.state.lastSequence
  isAlive := runtime.state.isAlive
  lastFireTime := runtime.lastFireTime
  shotsFired := runtime.shotsFired

/-- What concerns one player: that it enters and leaves, its inputs, and the time that passes, with
whether it is alive afterwards. -/
inductive OwnEvent (R : Type) where
  | entered
  | left
  | input (input : MovementInput R) (deltaSeconds : R)
  | passed (deltaSeconds : R) (isAlive : Bool)

deriving instance DecidableEq for MovementInput

deriving instance DecidableEq for OwnEvent

/-- One player with its clock and the shots it has made, whose ids are left open. -/
structure Alone (R : Type) where
  elapsedTime : R
  conduct : Option (Conduct R)
  shots : List (Projectile R)

namespace Conduct

/-- The conduct of a player that enters. -/
def enter : Option (Conduct R) → Conduct R
  | none => ⟨ofRat 0, ofRat 0, ofRat 0, 0, true, lowest, 0⟩
  | some conduct => { conduct with isAlive := true, lastFireTime := lowest }

/-- An attempt to shoot. -/
def shoot (playerId : String) (elapsedTime : R) (input : MovementInput R) (conduct : Conduct R) :
    Conduct R × List (Projectile R) :=
  if !input.fire || !conduct.isAlive then (conduct, [])
  else
    let aimMagnitude := sqrt (input.mouseX * input.mouseX + input.mouseY * input.mouseY)
    if less aimMagnitude kMinAim then (conduct, [])
    else if less (elapsedTime - conduct.lastFireTime) kFireCooldown then (conduct, [])
    else
      let dirX := input.mouseX / aimMagnitude
      let dirY := input.mouseY / aimMagnitude
      match Projectile.new "" playerId (conduct.x + dirX * kSpawnOffset) (conduct.y + dirY * kSpawnOffset)
          dirX dirY elapsedTime with
      | .error _ => ({ conduct with lastFireTime := elapsedTime }, [])
      | .ok projectile =>
          ({ conduct with lastFireTime := elapsedTime, shotsFired := conduct.shotsFired + 1 }, [projectile])

/-- An input. -/
def receive (playerId : String) (elapsedTime : R) (input : MovementInput R) (deltaSeconds : R)
    (conduct : Conduct R) : Conduct R × List (Projectile R) :=
  if input.sequence < conduct.lastSequence then (conduct, [])
  else
    let moved := GameSession.receive kPlayerSpeed input deltaSeconds
      ⟨playerId, conduct.x, conduct.y, conduct.facingRadians, conduct.lastSequence, 0, conduct.isAlive, 0, 0, 0⟩
    shoot playerId elapsedTime input
      { conduct with
        x := moved.x, y := moved.y, facingRadians := moved.facingRadians, lastSequence := moved.lastSequence }

end Conduct

namespace Alone

/-- Nobody is there yet. -/
def new : Alone R := ⟨ofRat 0, none, []⟩

/-- What an event does to the player. -/
def step (playerId : String) (alone : Alone R) : OwnEvent R → Alone R
  | .entered => { alone with conduct := some (.enter alone.conduct) }
  | .left => { alone with conduct := none }
  | .input input deltaSeconds =>
      match alone.conduct with
      | none => alone
      | some conduct =>
          let received := conduct.receive playerId alone.elapsedTime input deltaSeconds
          { alone with conduct := some received.1, shots := alone.shots ++ received.2 }
  | .passed deltaSeconds isAlive =>
      { alone with
        elapsedTime := alone.elapsedTime + deltaSeconds
        conduct := alone.conduct.map fun conduct => { conduct with isAlive } }

end Alone

/-! ## The session as seen by a player -/

/-- Whether a player is there and alive. -/
def lives (s : GameSession R) (playerId : String) : Bool :=
  (s.players.find playerId).any fun runtime => runtime.state.isAlive

/-- What an operation is to a player. -/
def own? (playerId : String) (s : GameSession R) : SessionOp R → Option (OwnEvent R)
  | .upsertPlayer other => if other = playerId ∧ other ≠ "" then some .entered else none
  | .removePlayer other => if other = playerId then some .left else none
  | .applyInput other input deltaSeconds => if other = playerId then some (.input input deltaSeconds) else none
  | .tick tick deltaSeconds => some (.passed deltaSeconds ((s.act (.tick tick deltaSeconds)).lives playerId))
  | .consumeDeathEvents => none
  | .reorder _ => none

/-- What some operations are to a player. -/
def ownView (playerId : String) (s : GameSession R) : List (SessionOp R) → List (OwnEvent R)
  | [] => []
  | op :: ops => (own? playerId s op).toList ++ ownView playerId (s.act op) ops

/-- A session in which a player is where its machine says. -/
structure Follows (playerId : String) (shots : List (Projectile R)) (s : GameSession R) (alone : Alone R) :
    Prop where
  speed : s.speedPerSecond = kPlayerSpeed
  clock : s.elapsedTime = alone.elapsedTime
  conduct : (s.players.find playerId).map conduct = alone.conduct
  shots : shots.map Projectile.anonymous = alone.shots

/-! ## Hits -/

omit [DoubleArith R] in
/-- The part of a conduct that hits leave alone. -/
def still (runtime : PlayerRuntimeState R) : Conduct R := { conduct runtime with isAlive := true }

omit [DoubleArith R] in
theorem adjust_still (players : UnorderedMap String (PlayerRuntimeState R)) (key playerId : String)
    {f : PlayerRuntimeState R → PlayerRuntimeState R} (same : ∀ runtime, still (f runtime) = still runtime) :
    ((players.adjust key f).find playerId).map still = (players.find playerId).map still := by
  rw [UnorderedMap.find_adjust]
  split
  · rw [Option.map_map]
    exact congrArg (Option.map · _) (funext same)
  · rfl

theorem collide_still (s : GameSession R) (tick : Nat) (projectile : Projectile R) (playerId : String) :
    ((s.collide tick projectile).1.players.find playerId).map still = (s.players.find playerId).map still := by
  unfold collide
  split
  · rfl
  · dsimp only
    split
    · rfl
    · next key runtime _ =>
        have struck := adjust_still s.players key playerId (f := .takeHit) fun _ => rfl
        have credited := (adjust_still _ projectile.ownerId playerId (f := .creditHit) fun _ => rfl).trans struck
        unfold registerHit
        dsimp only
        split
        · exact (adjust_still _ key playerId (f := .announceDeath) fun _ => rfl).trans credited
        · exact credited

theorem sweep_still (tick : Nat) (rest : List (Projectile R)) (s : GameSession R) (playerId : String) :
    ((sweep tick rest s).1.players.find playerId).map still = (s.players.find playerId).map still := by
  induction rest generalizing s with
  | nil => rfl
  | cons first rest ih => exact (ih _).trans (s.collide_still tick first playerId)

/-! ## Inputs -/

theorem anonymous_numbered {ownerId : String} {x y dirX dirY spawnTime : R} {projectile : Projectile R}
    (counter : Nat) (built : Projectile.new "" ownerId x y dirX dirY spawnTime = .ok projectile) :
    (projectile.numbered counter).anonymous = projectile := by
  obtain ⟨id, -, -⟩ := Projectile.new_spec built
  unfold Projectile.numbered Projectile.anonymous
  dsimp only
  rw [← id]

/-- An attempt to shoot is that of the machine. -/
theorem trySpawnProjectile_shoot (s : GameSession R) (runtime : PlayerRuntimeState R) (input : MovementInput R) :
    (conduct (s.trySpawnProjectile runtime input).2.1,
      ((s.trySpawnProjectile runtime input).1.projectiles.drop s.projectiles.length).map Projectile.anonymous) =
        (conduct runtime).shoot runtime.state.playerId s.elapsedTime input := by
  have nothing : (s.projectiles.drop s.projectiles.length).map Projectile.anonymous = [] := by
    rw [List.drop_length]
    rfl
  unfold trySpawnProjectile Conduct.shoot
  by_cases idle : (!input.fire || !runtime.state.isAlive) = true
  · have idle' : (!input.fire || !(conduct runtime).isAlive) = true := idle
    rw [if_pos idle, if_pos idle', nothing]
  · have ready : ¬(!input.fire || !(conduct runtime).isAlive) = true := idle
    rw [if_neg idle, if_neg ready]
    by_cases short : less (sqrt (input.mouseX * input.mouseX + input.mouseY * input.mouseY)) (kMinAim : R) = true
    · rw [if_pos short, if_pos short, nothing]
    · rw [if_neg short, if_neg short]
      by_cases early : less (s.elapsedTime - runtime.lastFireTime) kFireCooldown = true
      · have early' : less (s.elapsedTime - (conduct runtime).lastFireTime) kFireCooldown = true := early
        rw [if_pos early, if_pos early', nothing]
      · have cooled : ¬less (s.elapsedTime - (conduct runtime).lastFireTime) kFireCooldown = true := early
        rw [if_neg early, if_neg cooled]
        dsimp only [conduct]
        rw [Projectile.new_numbered]
        generalize made : Projectile.new "" runtime.state.playerId _ _ _ _ s.elapsedTime = built
        cases built with
        | error thrown => rw [Except.map, nothing]
        | ok projectile =>
            dsimp only [Except.map]
            rw [List.drop_left, List.map_singleton, anonymous_numbered _ made]

/-- Where an input takes a player and where the player looks depends on its conduct. -/
theorem conduct_receive (runtime : PlayerRuntimeState R) (input : MovementInput R) (deltaSeconds : R) :
    conduct { runtime with state := receive kPlayerSpeed input deltaSeconds runtime.state } =
      let moved := receive kPlayerSpeed input deltaSeconds
        ⟨runtime.state.playerId, runtime.state.x, runtime.state.y, runtime.state.facingRadians,
          runtime.state.lastSequence, 0, runtime.state.isAlive, 0, 0, 0⟩
      { conduct runtime with
        x := moved.x, y := moved.y, facingRadians := moved.facingRadians, lastSequence := moved.lastSequence } := by
  unfold receive
  dsimp only
  split
  · rfl
  · split
    · next alive =>
        unfold conduct PlayerRuntimeState.steer
        dsimp only
    · rfl

/-- An input is that of the machine. -/
theorem applyInput_receive {s : GameSession R} {playerId : String} {runtime : PlayerRuntimeState R}
    (pace : s.speedPerSecond = kPlayerSpeed) (present : s.players.find playerId = some runtime)
    (named : runtime.state.playerId = playerId) (input : MovementInput R) (deltaSeconds : R) :
    ((s.act (.applyInput playerId input deltaSeconds)).players.find playerId).map conduct =
        some ((conduct runtime).receive playerId s.elapsedTime input deltaSeconds).1 ∧
      (s.madeBy (.applyInput playerId input deltaSeconds)).map Projectile.anonymous =
        ((conduct runtime).receive playerId s.elapsedTime input deltaSeconds).2 := by
  have reached : s.act (.applyInput playerId input deltaSeconds) = (s.applyInput playerId input deltaSeconds).1 := rfl
  rw [reached, madeBy]
  by_cases stale : input.sequence < runtime.state.lastSequence
  · have stale' : input.sequence < (conduct runtime).lastSequence := stale
    unfold applyInput Conduct.receive
    rw [present]
    dsimp only
    rw [if_pos stale, if_pos stale']
    refine ⟨by rw [present]; rfl, ?_⟩
    rw [List.drop_length]
    rfl
  · have fresh : ¬input.sequence < (conduct runtime).lastSequence := stale
    let moved : PlayerRuntimeState R :=
      { runtime with state := receive kPlayerSpeed input deltaSeconds runtime.state }
    have asked : (conduct runtime).receive playerId s.elapsedTime input deltaSeconds =
        (conduct moved).shoot playerId s.elapsedTime input := by
      subst named
      rw [Conduct.receive, if_neg fresh, conduct_receive]
      rfl
    have applied : (s.applyInput playerId input deltaSeconds).1 =
        { (s.trySpawnProjectile moved input).1 with
          players := (s.trySpawnProjectile moved input).1.players.adjust playerId fun _ =>
            (s.trySpawnProjectile moved input).2.1 } := by
      unfold applyInput
      rw [present]
      dsimp only
      rw [if_neg stale]
      dsimp only [moved]
      rw [receive, if_neg stale, pace]
    obtain ⟨runtime', numbers, made, -, -, -, tried⟩ := trySpawnProjectile_effect s.elapsedTime moved input
    obtain ⟨outcome, attempt⟩ := tried s rfl
    have shot := trySpawnProjectile_shoot s moved input
    have owner : moved.state.playerId = playerId := (receive_keeps _ _ _ _).1.trans named
    rw [owner, ← asked] at shot
    rw [← shot, applied]
    refine ⟨?_, rfl⟩
    dsimp only
    rw [attempt]
    dsimp only
    rw [UnorderedMap.find_adjust, if_pos rfl, present]
    rfl

/-! ## Runs -/

theorem conduct_enter {playerId : String} (runtime : Option (PlayerRuntimeState R))
    (account : ∀ present ∈ runtime, present.state.playerId = playerId ∧ present.health.max = 100)
    (named : playerId ≠ "") :
    conduct ((runtime.getD .default).enter playerId) = .enter (runtime.map conduct) := by
  cases runtime with
  | none => rfl
  | some runtime =>
      obtain ⟨filed, maximum⟩ := account runtime rfl
      have known : (runtime.state.playerId == "") = false := by
        rw [filed]
        exact beq_eq_false_iff_ne.mpr named
      unfold PlayerRuntimeState.enter conduct Conduct.enter
      simp [known, HealthComponent.reset, HealthComponent.isAlive, maximum]

/-- The machine of a player after some operations. -/
def alone (playerId : String) (s : GameSession R) (ops : List (SessionOp R)) : Alone R :=
  (ownView playerId s ops).foldl (Alone.step playerId) .new

theorem ownView_concat (playerId : String) (ops : List (SessionOp R)) (op : SessionOp R) :
    ∀ s : GameSession R,
      ownView playerId s (ops ++ [op]) = ownView playerId s ops ++ (own? playerId (s.after ops) op).toList := by
  induction ops with
  | nil =>
      intro s
      rw [List.nil_append, ownView, ownView, ownView, List.append_nil]
      rfl
  | cons first ops ih =>
      intro s
      rw [List.cons_append, ownView, ih, ownView, List.append_assoc]
      rfl

/-- An input makes shots of its player. -/
theorem madeBy_owner {s : GameSession R} (filed : s.Filed) {playerId : String} {input : MovementInput R}
    {deltaSeconds : R} {shot : Projectile R} (made : shot ∈ s.madeBy (.applyInput playerId input deltaSeconds)) :
    shot.ownerId = playerId := by
  obtain ⟨effect, proper, applied⟩ := s.exists_applyInput_effect playerId input deltaSeconds
  rw [madeBy, applied, InputEffect.apply, List.drop_left] at made
  obtain ⟨projectile, fired, rfl⟩ := List.mem_map.mp made
  obtain ⟨runtime, present, shoots⟩ := proper.fired projectile fired
  exact shoots.owner.trans ((receive_keeps _ _ _ _).1.trans (filed playerId runtime present))

/-- What is nothing to a player keeps it where its machine says. -/
theorem Follows.quiet {playerId : String} {shots : List (Projectile R)} {s s' : GameSession R} {alone : Alone R}
    (follows : Follows playerId shots s alone) (pace : s'.speedPerSecond = s.speedPerSecond)
    (clock : s'.elapsedTime = s.elapsedTime)
    (same : s'.players.find playerId = s.players.find playerId) : Follows playerId (shots ++ []) s' alone where
  speed := pace.trans follows.speed
  clock := clock.trans follows.clock
  conduct := by rw [same, follows.conduct]
  shots := by rw [List.append_nil, follows.shots]

/-- A tick leaves a player where it is. -/
theorem tick_conduct (s : GameSession R) (tick : Nat) (deltaSeconds : R) (playerId : String) :
    ((s.act (.tick tick deltaSeconds)).players.find playerId).map conduct =
      ((s.players.find playerId).map conduct).map fun conduct =>
        { conduct with isAlive := (s.act (.tick tick deltaSeconds)).lives playerId } := by
  have swept : ((s.act (.tick tick deltaSeconds)).players.find playerId).map still =
      (s.players.find playerId).map still := sweep_still tick _ (s.moveProjectiles deltaSeconds) playerId
  unfold lives
  cases before : s.players.find playerId with
  | none =>
      rw [before] at swept
      rw [Option.map_eq_none_iff.mp swept]
      rfl
  | some runtime =>
      rw [before] at swept
      obtain ⟨runtime', after, same⟩ := Option.map_eq_some_iff.mp swept
      rw [after]
      have kept := congrArg (fun conduct : Conduct R => { conduct with isAlive := runtime'.state.isAlive }) same
      exact congrArg some kept

/-- An operation keeps a player where its machine says. -/
theorem Follows.step {playerId : String} {shots : List (Projectile R)} {s : GameSession R} {alone : Alone R}
    (follows : Follows playerId shots s alone)
    (account : ∀ runtime ∈ s.players.find playerId, runtime.state.playerId = playerId ∧ runtime.health.max = 100)
    (filed : s.Filed) (op : SessionOp R) :
    Follows playerId
      (shots ++ (s.madeBy op).filter fun projectile => projectile.ownerId = playerId) (s.act op)
      ((own? playerId s op).toList.foldl (Alone.step playerId) alone) := by
  obtain ⟨pace, clock⟩ := s.act_clock op
  cases op with
  | upsertPlayer other =>
      by_cases mine : other = playerId ∧ other ≠ ""
      · obtain ⟨rfl, named⟩ := mine
        rw [own?, if_pos ⟨rfl, named⟩]
        refine ⟨pace.trans follows.speed, clock.trans follows.clock, ?_, ?_⟩
        · rw [act_upsertPlayer, if_neg named]
          unfold upsertPlayer
          dsimp only
          rw [UnorderedMap.find_upsert, if_pos rfl, Option.map_some, conduct_enter _ account named, follows.conduct]
          rfl
        · exact (congrArg (List.map _) (List.append_nil shots)).trans follows.shots
      · rw [own?, if_neg mine]
        refine follows.quiet pace clock ?_
        rw [act_upsertPlayer]
        split_ifs with unnamed
        · rfl
        · have differ : playerId ≠ other := fun same => mine ⟨same.symm, unnamed⟩
          exact (UnorderedMap.find_upsert _ _ _ _ _).trans (if_neg differ)
  | removePlayer other =>
      by_cases mine : other = playerId
      · subst mine
        rw [own?, if_pos rfl]
        refine ⟨pace.trans follows.speed, clock.trans follows.clock, ?_, ?_⟩
        · exact congrArg (Option.map _) ((UnorderedMap.find_erase _ _ _).trans (if_pos rfl))
        · exact (congrArg (List.map _) (List.append_nil shots)).trans follows.shots
      · rw [own?, if_neg mine]
        exact follows.quiet pace clock ((UnorderedMap.find_erase _ _ _).trans (if_neg fun same => mine same.symm))
  | applyInput other input deltaSeconds =>
      by_cases mine : other = playerId
      · subst mine
        have all : ((s.madeBy (.applyInput other input deltaSeconds)).filter
            fun projectile => projectile.ownerId = other) = s.madeBy (.applyInput other input deltaSeconds) :=
          List.filter_eq_self.mpr fun shot made => decide_eq_true (madeBy_owner filed made)
        rw [all, own?, if_pos rfl]
        cases present : s.players.find other with
        | none =>
            have gone : alone.conduct = none := by
              rw [← follows.conduct, present]
              rfl
            have ignored : (s.applyInput other input deltaSeconds).1 = s := by
              rw [applyInput, present]
            have unmade : s.madeBy (.applyInput other input deltaSeconds) = [] := by
              rw [madeBy, ignored, List.drop_length]
            have stepped : Alone.step other alone (.input input deltaSeconds) = alone := by
              unfold Alone.step
              dsimp only
              rw [gone]
            show Follows _ _ _ (Alone.step other alone (.input input deltaSeconds))
            rw [stepped, unmade]
            exact follows.quiet pace clock (congrArg (·.players.find other) ignored)
        | some runtime =>
            obtain ⟨kept, made⟩ := applyInput_receive follows.speed present (account runtime present).1 input
              deltaSeconds
            have here : alone.conduct = some (GameSession.conduct runtime) := by
              rw [← follows.conduct, present]
              rfl
            rw [follows.clock] at kept made
            have stepped : Alone.step other alone (.input input deltaSeconds) =
                { alone with
                  conduct := some ((GameSession.conduct runtime).receive other alone.elapsedTime input deltaSeconds).1
                  shots := alone.shots ++
                    ((GameSession.conduct runtime).receive other alone.elapsedTime input deltaSeconds).2 } := by
              unfold Alone.step
              dsimp only
              rw [here]
            show Follows _ _ _ (Alone.step other alone (.input input deltaSeconds))
            rw [stepped]
            refine ⟨pace.trans follows.speed, clock.trans follows.clock, kept, ?_⟩
            rw [List.map_append, follows.shots, made]
      · have none : ((s.madeBy (.applyInput other input deltaSeconds)).filter
            fun projectile => projectile.ownerId = playerId) = [] := by
          refine List.filter_eq_nil_iff.mpr ?_
          intro shot made same
          exact mine ((madeBy_owner filed made).symm.trans (of_decide_eq_true same))
        rw [none, own?, if_neg mine]
        refine follows.quiet pace clock ?_
        obtain ⟨effect, -, applied⟩ := s.exists_applyInput_effect other input deltaSeconds
        have reached : s.act (.applyInput other input deltaSeconds) = effect.apply other s := applied
        rw [reached, InputEffect.apply]
        exact (UnorderedMap.find_adjust _ _ _ _).trans (if_neg fun same => mine same.symm)
  | tick tick deltaSeconds =>
      refine ⟨pace.trans follows.speed, clock.trans (congrArg (· + deltaSeconds) follows.clock), ?_, ?_⟩
      · rw [tick_conduct, follows.conduct]
        rfl
      · exact (congrArg (List.map _) (List.append_nil shots)).trans follows.shots
  | consumeDeathEvents => exact follows.quiet pace clock rfl
  | reorder order => exact follows.quiet pace clock (UnorderedMap.find_reorder _ _ _)

/-- After any operations a player is where its machine says. -/
theorem follows_after (playerId : String) (ops : List (SessionOp R)) :
    Follows playerId (shotsOf new playerId ops) (new.after ops) (alone playerId new ops) := by
  induction ops using List.reverseRecOn with
  | nil => exact ⟨rfl, rfl, rfl, rfl⟩
  | append_singleton ops op ih =>
      obtain ⟨trace, run⟩ := runs_after (R := R) ops
      have account : ∀ runtime ∈ (new.after ops).players.find playerId,
          runtime.state.playerId = playerId ∧ runtime.health.max = 100 := by
        intro runtime present
        have account := (Runs.byMoves run).1.accounts playerId runtime present
        exact ⟨account.named, account.maximum⟩
      have step := ih.step account run.filed op
      rw [shotsOf_concat, after_append, alone, ownView_concat, List.foldl_append]
      exact step

/-- What concerns a player alone decides where it is, where it looks and what it has shot. -/
theorem conduct_of_ownView (playerId : String) {ops ops' : List (SessionOp R)}
    (same : ownView playerId new ops = ownView playerId new ops') :
    ((new.after ops).players.find playerId).map conduct = ((new.after ops').players.find playerId).map conduct ∧
      (shotsOf new playerId ops).map Projectile.anonymous = (shotsOf new playerId ops').map Projectile.anonymous := by
  have alike : alone playerId new ops = alone playerId new ops' := congrArg (List.foldl _ _) same
  have follows := follows_after playerId ops
  have follows' := follows_after playerId ops'
  rw [alike] at follows
  exact ⟨follows.conduct.trans follows'.conduct.symm, follows.shots.trans follows'.shots.symm⟩

end machine

/-- A walks and shoots; B may be there too, walk beside it and shoot. -/
def besideB (present : Bool) : List (SessionOp ℚ) :=
  let walk (sequence : Nat) : MovementInput ℚ := ⟨sequence, false, false, false, true, 1, 0, true⟩
  if present then
    [.upsertPlayer "B", .upsertPlayer "A", .applyInput "B" (walk 7) (1 / 60), .applyInput "A" (walk 1) (1 / 60),
      .tick 1 (1 / 8), .removePlayer "B", .applyInput "A" (walk 2) (1 / 60)]
  else
    [.upsertPlayer "A", .applyInput "A" (walk 1) (1 / 60), .tick 1 (1 / 8), .applyInput "A" (walk 2) (1 / 60)]

theorem conduct_of_ownView_besideB :
    ownView "A" new (besideB true) = ownView "A" new (besideB false) ∧
      ((new.after (besideB true)).players.find "A").map conduct =
        ((new.after (besideB false)).players.find "A").map conduct ∧
      (shotsOf new "A" (besideB true)).map Projectile.anonymous =
        (shotsOf new "A" (besideB false)).map Projectile.anonymous ∧
      (shotsOf new "A" (besideB true)).length = 2 :=
  have same : ownView "A" new (besideB true) = ownView "A" new (besideB false) := by decide +kernel
  ⟨same, (conduct_of_ownView "A" same).1, (conduct_of_ownView "A" same).2, by decide +kernel⟩

end GameSession

end Arena60
