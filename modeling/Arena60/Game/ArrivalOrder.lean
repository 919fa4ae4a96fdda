import Arena60.Game.Frames
import Arena60.Game.LifeAccounts
import Arena60.Misc.ExactArith
import Arena60.Misc.Shuffle

/-!
# The order in which the inputs of a duel arrive

With two players in the session a projectile can hit nobody but the rival of its owner, so
that the shots of the two commute. Sessions in which the same shots are stored, in an order
that differs only between shots of different owners, stay so through all operations.
-/

namespace Arena60

open Misc Misc.DoubleArith

universe u

namespace GameSession

variable {R : Type u}

/-- Projectiles that differ at most in their ids. -/
def SameShot (projectile projectile' : Projectile R) : Prop :=
  projectile.anonymous = projectile'.anonymous

/-- One projectile of each of two players. -/
def Rivals (A B : String) (projectile projectile' : Projectile R) : Prop :=
  (projectile.ownerId = A ∧ projectile'.ownerId = B) ∨
    (projectile.ownerId = B ∧ projectile'.ownerId = A)

/-- The same shots, in an order that differs only between those of different players. -/
abbrev SameShots (A B : String) : List (Projectile R) → List (Projectile R) → Prop :=
  Shuffle SameShot (Rivals A B)

theorem SameShot.refl (projectile : Projectile R) : SameShot projectile projectile := rfl

theorem SameShot.fields {projectile projectile' : Projectile R} (same : SameShot projectile projectile') :
    projectile.ownerId = projectile'.ownerId ∧ projectile.active = projectile'.active := by
  obtain ⟨_, owner, _, _, _, _, _, active⟩ := Projectile.mk.inj same
  exact ⟨owner, active⟩

theorem SameShots.symm {A B : String} {shots shots' : List (Projectile R)}
    (same : SameShots A B shots shots') : SameShots A B shots' shots := by
  apply Shuffle.symm ?_ ?_ same
  · intro projectile projectile' alike
    exact Eq.symm alike
  · intro projectile projectile' rivals
    cases rivals with
    | inl owners => exact Or.inr ⟨owners.2, owners.1⟩
    | inr owners => exact Or.inl ⟨owners.2, owners.1⟩

/-- Nobody is present but two players, each stored under its own id. -/
structure OnlyTwo (A B : String) (players : UnorderedMap String (PlayerRuntimeState R)) : Prop where
  either : ∀ key, players.contains key = true → key = A ∨ key = B
  named : ∀ key runtime, players.find key = some runtime → runtime.state.playerId = key

theorem OnlyTwo.symm {A B : String} {players : UnorderedMap String (PlayerRuntimeState R)}
    (two : OnlyTwo A B players) : OnlyTwo B A players :=
  ⟨fun key present => (two.either key present).symm, two.named⟩

theorem OnlyTwo.adjust {A B : String} {players : UnorderedMap String (PlayerRuntimeState R)}
    (two : OnlyTwo A B players) (key : String) {f : PlayerRuntimeState R → PlayerRuntimeState R}
    (kept : ∀ runtime, players.find key = some runtime →
      (f runtime).state.playerId = runtime.state.playerId) : OnlyTwo A B (players.adjust key f) := by
  constructor
  · intro other present
    rw [UnorderedMap.contains_adjust] at present
    exact two.either other present
  · intro other runtime found
    rw [UnorderedMap.find_adjust] at found
    split_ifs at found with asked
    · subst asked
      obtain ⟨stored, present, rfl⟩ := Option.map_eq_some_iff.mp found
      exact (kept stored present).trans (two.named other stored present)
    · exact two.named other runtime found

/-! ## A shot in a duel -/

/-- The target's part of a hit, with the announcement of a death. -/
def blow (runtime : PlayerRuntimeState R) : PlayerRuntimeState R :=
  if announces runtime then runtime.takeHit.announceDeath else runtime.takeHit

theorem blow_creditHit (runtime : PlayerRuntimeState R) :
    blow runtime.creditHit = (blow runtime).creditHit := by
  have same : announces runtime.creditHit = announces runtime := rfl
  unfold blow
  rw [same]
  split <;> rfl

/-- The players after a hit of one player by another. -/
theorem registerHit_core {s : GameSession R} {A B : String} (differ : A ≠ B) (tick : Nat)
    {projectile : Projectile R} (owner : projectile.ownerId = A) {runtime : PlayerRuntimeState R}
    (present : s.players.find B = some runtime) :
    (s.registerHit tick projectile B runtime).1.core =
      { s.core with
        projectilesHitsTotal := s.projectilesHitsTotal + 1
        playersDeadTotal := s.playersDeadTotal + (announces runtime).toNat
        players := (s.players.adjust B blow).adjust A .creditHit } := by
  have taken : s.players.adjust B blow = s.players.adjust B fun runtime' =>
      if announces runtime then runtime'.takeHit.announceDeath else runtime'.takeHit := by
    apply UnorderedMap.adjust_congr
    intro stored found
    rw [present] at found
    cases found
    rfl
  rw [taken]
  unfold registerHit announces
  dsimp only
  rw [owner]
  split
  · next died =>
      have regrouped : ((s.players.adjust B .takeHit).adjust A .creditHit).adjust B .announceDeath =
          (s.players.adjust B fun runtime' => runtime'.takeHit.announceDeath).adjust A .creditHit := by
        rw [UnorderedMap.adjust_comm _ differ, UnorderedMap.adjust_adjust]
        rfl
      rw [died]
      exact congrArg (fun players => { s.core with
        projectilesHitsTotal := s.projectilesHitsTotal + 1
        playersDeadTotal := s.playersDeadTotal + 1
        players }) regrouped
  · next survived =>
      rw [Bool.not_eq_true] at survived
      rw [survived]
      rfl

variable [DoubleArith R]

/-- Whether a projectile hits a player. -/
def strikes (projectile : Projectile R) (runtime : PlayerRuntimeState R) : Bool :=
  projectile.active && runtime.state.isAlive && touches projectile runtime.state

/-- What the loop over the players finds for a projectile whose owner has one rival. -/
def rivalContact (projectile : Projectile R) (rival : String) :
    Option (PlayerRuntimeState R) → Option String × Nat
  | none => (none, 0)
  | some runtime =>
      if !runtime.state.isAlive then (none, 0)
      else if touches projectile runtime.state then (some rival, 1)
      else (none, 1)

theorem firstContact_rival {A B : String} (differ : A ≠ B) {projectile : Projectile R}
    (owner : projectile.ownerId = A) (entries : List (String × PlayerRuntimeState R))
    (distinct : (entries.map Prod.fst).Nodup)
    (either : ∀ entry ∈ entries, entry.1 = A ∨ entry.1 = B)
    (named : ∀ entry ∈ entries, entry.2.state.playerId = entry.1) :
    firstContact projectile entries = rivalContact projectile B (lookupIn B entries) := by
  induction entries with
  | nil => rfl
  | cons entry entries ih =>
      obtain ⟨fresh, rest⟩ := List.nodup_cons.mp distinct
      have ih := ih rest (fun other member => either other (List.mem_cons_of_mem _ member))
        (fun other member => named other (List.mem_cons_of_mem _ member))
      have name := named entry List.mem_cons_self
      have who := either entry List.mem_cons_self
      obtain ⟨key, runtime⟩ := entry
      dsimp only at name who fresh
      rw [firstContact, lookupIn_cons]
      cases who with
      | inl own =>
          have skipped : (!runtime.state.isAlive || runtime.state.playerId == projectile.ownerId) = true := by
            rw [name, own, owner, beq_self_eq_true, Bool.or_true]
          have other : ¬B = key := fun same => differ (own.symm.trans same.symm)
          rw [if_pos skipped, if_neg other, ih]
      | inr rival =>
          subst rival
          have absent : lookupIn key entries = none := by
            rw [Option.eq_none_iff_forall_ne_some]
            intro value found
            rw [lookupIn_eq_some_iff key value entries rest] at found
            exact fresh (List.mem_map.mpr ⟨_, found, rfl⟩)
          have other : (runtime.state.playerId == projectile.ownerId) = false := by
            rw [name, owner]
            exact beq_false_of_ne (Ne.symm differ)
          rw [ih, absent, other, Bool.or_false, if_pos rfl]
          simp only [rivalContact]

theorem OnlyTwo.contact {A B : String} (differ : A ≠ B)
    {players : UnorderedMap String (PlayerRuntimeState R)} (two : OnlyTwo A B players)
    {projectile : Projectile R} (owner : projectile.ownerId = A) :
    firstContact projectile players.entries = rivalContact projectile B (players.find B) := by
  have stored : ∀ entry ∈ players.entries, players.find entry.1 = some entry.2 := fun entry member =>
    (players.find_eq_some_iff entry.1 entry.2).mpr member
  apply firstContact_rival differ owner players.entries players.distinct
  · intro entry member
    apply two.either
    rw [UnorderedMap.contains, stored entry member]
    rfl
  · intro entry member
    exact two.named entry.1 entry.2 (stored entry member)

/-- What a shot is to the rival's entry: whether it hits, kills, and is checked at all. -/
def isStruck (projectile : Projectile R) (rival : Option (PlayerRuntimeState R)) : Bool :=
  rival.any (strikes projectile)

def isKilled (projectile : Projectile R) (rival : Option (PlayerRuntimeState R)) : Bool :=
  rival.any fun runtime => strikes projectile runtime && announces runtime

def isChecked (projectile : Projectile R) (rival : Option (PlayerRuntimeState R)) : Bool :=
  rival.any fun runtime => projectile.active && runtime.state.isAlive

/-- The rival's part in a shot. -/
def suffer (projectile : Projectile R) (runtime : PlayerRuntimeState R) : PlayerRuntimeState R :=
  if strikes projectile runtime then blow runtime else runtime

/-- The owner's part in a shot. -/
def score (projectile : Projectile R) (rival : Option (PlayerRuntimeState R)) :
    PlayerRuntimeState R → PlayerRuntimeState R :=
  if isStruck projectile rival then .creditHit else id

/-- The session after a shot of `A` in a duel with `B`, without what it stores and logs. -/
def afterShot (A B : String) (projectile : Projectile R) (s : GameSession R) : GameSession R :=
  { s.core with
    projectilesHitsTotal := s.projectilesHitsTotal + (isStruck projectile (s.players.find B)).toNat
    playersDeadTotal := s.playersDeadTotal + (isKilled projectile (s.players.find B)).toNat
    players := (s.players.adjust B (suffer projectile)).adjust A
      (score projectile (s.players.find B)) }

theorem suffer_of_missed {projectile : Projectile R} {rival : Option (PlayerRuntimeState R)}
    (missed : isStruck projectile rival = false) {runtime : PlayerRuntimeState R}
    (found : rival = some runtime) : suffer projectile runtime = runtime := by
  subst found
  have missed : strikes projectile runtime = false := missed
  rw [suffer, missed]
  rfl

theorem afterShot_of_missed (A : String) {B : String} {projectile : Projectile R} {s : GameSession R}
    (missed : isStruck projectile (s.players.find B) = false) :
    afterShot A B projectile s = s.core := by
  have alive : isKilled projectile (s.players.find B) = false := by
    unfold isKilled isStruck at *
    cases rival : s.players.find B with
    | none => rfl
    | some runtime =>
        rw [rival] at missed
        have missed : strikes projectile runtime = false := missed
        simp [missed]
  unfold afterShot score
  rw [missed, alive, s.players.adjust_of_fixed fun runtime found => suffer_of_missed missed found]
  simp only [Bool.false_eq_true, if_false, UnorderedMap.adjust_id, Bool.toNat_false, Nat.add_zero]
  rfl

/-- What a shot of `A` does in a duel with `B`. -/
structure DuelShot (A B : String) (s : GameSession R) (tick : Nat) (projectile : Projectile R) : Prop where
  core : (s.collide tick projectile).1.core = afterShot A B projectile s
  result : (s.collide tick projectile).2.1 =
    if isStruck projectile (s.players.find B) then projectile.deactivate else projectile
  checks : (s.collide tick projectile).2.2.1 = (isChecked projectile (s.players.find B)).toNat

namespace DuelShot

variable {A B : String} {s : GameSession R} {projectile : Projectile R}

/-- A projectile that was spent before. -/
theorem spent (A B : String) (s : GameSession R) (tick : Nat) (inactive : projectile.active = false) :
    DuelShot A B s tick projectile := by
  have missed : isStruck projectile (s.players.find B) = false := by
    unfold isStruck
    cases s.players.find B with
    | none => rfl
    | some runtime => simp [strikes, inactive]
  have unchecked : isChecked projectile (s.players.find B) = false := by
    unfold isChecked
    cases s.players.find B with
    | none => rfl
    | some runtime => simp [inactive]
  constructor
  · rw [collide_inactive s tick inactive, afterShot_of_missed A missed]
  · rw [collide_inactive s tick inactive, missed]
    rfl
  · rw [collide_inactive s tick inactive, unchecked]
    rfl

/-- Whoever is not struck leaves the session as it is. -/
theorem missed (A : String) (tick : Nat) (active : projectile.active = true)
    (none : (firstContact projectile s.players.entries).1 = none)
    (missed : isStruck projectile (s.players.find B) = false)
    (checked : (firstContact projectile s.players.entries).2 =
      (isChecked projectile (s.players.find B)).toNat) : DuelShot A B s tick projectile := by
  constructor
  · rw [collide_missed tick active none, afterShot_of_missed A missed]
  · rw [collide_missed tick active none, missed]
    rfl
  · rw [collide_missed tick active none]
    exact checked

theorem struck (differ : A ≠ B) (tick : Nat) (owner : projectile.ownerId = A)
    (active : projectile.active = true) {runtime : PlayerRuntimeState R}
    (rival : s.players.find B = some runtime)
    (found : firstContact projectile s.players.entries = (some B, 1))
    (alive : runtime.state.isAlive = true) (touched : touches projectile runtime.state = true) :
    DuelShot A B s tick projectile := by
  have strike : strikes projectile runtime = true := by
    rw [strikes, active, alive, touched]
    rfl
  have hit : isStruck projectile (s.players.find B) = true := by
    rw [rival]
    exact strike
  have killed : isKilled projectile (s.players.find B) = announces runtime := by
    rw [rival, isKilled, Option.any_some, strike, Bool.true_and]
  have checked : isChecked projectile (s.players.find B) = true := by
    rw [rival, isChecked, Option.any_some, active, alive]
    rfl
  have suffered : s.players.adjust B (suffer projectile) = s.players.adjust B blow := by
    apply UnorderedMap.adjust_congr
    intro stored found
    rw [rival] at found
    cases found
    rw [suffer, if_pos strike]
  have collided := collide_hit tick active (by rw [found]) rival
  constructor
  · rw [collided, registerHit_core differ tick owner rival, afterShot, hit, killed, suffered, score,
      if_pos hit]
    rfl
  · rw [collided, hit]
    rfl
  · rw [collided, found, checked]
    rfl

end DuelShot

/-- A shot in a duel. -/
theorem collide_duel {A B : String} (differ : A ≠ B) {s : GameSession R}
    (two : OnlyTwo A B s.players) (tick : Nat) {projectile : Projectile R}
    (owner : projectile.ownerId = A) : DuelShot A B s tick projectile := by
  have contact := two.contact differ owner
  cases active : projectile.active with
  | false => exact .spent A B s tick active
  | true =>
      cases rival : s.players.find B with
      | none =>
          rw [rival] at contact
          refine .missed A tick active ?_ ?_ ?_
          · rw [contact]
            rfl
          · rw [rival]
            rfl
          · rw [contact, rival]
            rfl
      | some runtime =>
          rw [rival] at contact
          by_cases hit : runtime.state.isAlive = true ∧ touches projectile runtime.state = true
          · have found : firstContact projectile s.players.entries = (some B, 1) := by
              rw [contact]
              simp [rivalContact, hit.1, hit.2]
            exact .struck differ tick owner active rival found hit.1 hit.2
          · have found : firstContact projectile s.players.entries =
                (none, runtime.state.isAlive.toNat) := by
              rw [contact]
              cases alive : runtime.state.isAlive with
              | false => simp [rivalContact, alive]
              | true =>
                  have apart : touches projectile runtime.state = false :=
                    Bool.eq_false_of_not_eq_true fun touched => hit ⟨alive, touched⟩
                  simp [rivalContact, alive, apart]
            refine .missed A tick active ?_ ?_ ?_
            · rw [found]
            · rw [rival, isStruck, Option.any_some, strikes, active, Bool.true_and]
              rwa [← Bool.and_eq_true, Bool.not_eq_true] at hit
            · rw [found, rival, isChecked, Option.any_some, active, Bool.true_and]

/-! ## Shots of rivals commute -/

/-- An entry of the rival that the rival's own shot may have credited. -/
theorem isStruck_score (projectile other : Projectile R) (mine theirs : Option (PlayerRuntimeState R)) :
    isStruck projectile (mine.map (score other theirs)) = isStruck projectile mine ∧
    isKilled projectile (mine.map (score other theirs)) = isKilled projectile mine ∧
    isChecked projectile (mine.map (score other theirs)) = isChecked projectile mine := by
  unfold score
  split
  · cases mine <;> exact ⟨rfl, rfl, rfl⟩
  · rw [Option.map_id]
    exact ⟨rfl, rfl, rfl⟩

theorem suffer_score (projectile other : Projectile R) (theirs : Option (PlayerRuntimeState R)) :
    suffer projectile ∘ score other theirs = score other theirs ∘ suffer projectile := by
  unfold score
  split
  · funext runtime
    have same : strikes projectile runtime.creditHit = strikes projectile runtime := rfl
    rw [Function.comp_apply, Function.comp_apply, suffer, suffer, same]
    split
    · exact blow_creditHit runtime
    · rfl
  · rfl

theorem score_congr {projectile : Projectile R} {rival rival' : Option (PlayerRuntimeState R)}
    (same : isStruck projectile rival = isStruck projectile rival') :
    score projectile rival = score projectile rival' := by
  unfold score
  rw [same]

theorem find_afterShot {A B : String} (differ : A ≠ B) (projectile : Projectile R)
    (s : GameSession R) :
    (afterShot A B projectile s).players.find A =
      (s.players.find A).map (score projectile (s.players.find B)) := by
  unfold afterShot
  rw [UnorderedMap.find_adjust, if_pos rfl, UnorderedMap.find_adjust, if_neg differ]

theorem afterShot_comm {A B : String} (differ : A ≠ B) (projectile projectile' : Projectile R)
    (s : GameSession R) :
    afterShot B A projectile' (afterShot A B projectile s) =
      afterShot A B projectile (afterShot B A projectile' s) := by
  have mine := find_afterShot differ projectile s
  have theirs := find_afterShot (Ne.symm differ) projectile' s
  obtain ⟨struck, killed, _⟩ := isStruck_score projectile projectile' (s.players.find B) (s.players.find A)
  obtain ⟨struck', killed', _⟩ := isStruck_score projectile' projectile (s.players.find A) (s.players.find B)
  have players : (afterShot B A projectile' (afterShot A B projectile s)).players =
      (afterShot A B projectile (afterShot B A projectile' s)).players := by
    show (((s.players.adjust B (suffer projectile)).adjust A _).adjust A (suffer projectile')).adjust B
        (score projectile' ((afterShot A B projectile s).players.find A)) =
      (((s.players.adjust A (suffer projectile')).adjust B _).adjust B (suffer projectile)).adjust A
        (score projectile ((afterShot B A projectile' s).players.find B))
    rw [mine, theirs, score_congr struck', score_congr struck]
    exact s.players.adjust_exchange differ (suffer_score projectile' projectile _)
      (suffer_score projectile projectile' _).symm
  have hits : (afterShot B A projectile' (afterShot A B projectile s)).projectilesHitsTotal =
      (afterShot A B projectile (afterShot B A projectile' s)).projectilesHitsTotal := by
    show s.projectilesHitsTotal + _ + (isStruck projectile' ((afterShot A B projectile s).players.find A)).toNat =
      s.projectilesHitsTotal + _ + (isStruck projectile ((afterShot B A projectile' s).players.find B)).toNat
    rw [mine, theirs, struck, struck']
    exact Nat.add_right_comm _ _ _
  have deaths : (afterShot B A projectile' (afterShot A B projectile s)).playersDeadTotal =
      (afterShot A B projectile (afterShot B A projectile' s)).playersDeadTotal := by
    show s.playersDeadTotal + _ + (isKilled projectile' ((afterShot A B projectile s).players.find A)).toNat =
      s.playersDeadTotal + _ + (isKilled projectile ((afterShot B A projectile' s).players.find B)).toNat
    rw [mine, theirs, killed, killed']
    exact Nat.add_right_comm _ _ _
  calc afterShot B A projectile' (afterShot A B projectile s)
      = { s.core with
          projectilesHitsTotal := (afterShot B A projectile' (afterShot A B projectile s)).projectilesHitsTotal
          playersDeadTotal := (afterShot B A projectile' (afterShot A B projectile s)).playersDeadTotal
          players := (afterShot B A projectile' (afterShot A B projectile s)).players } := rfl
    _ = afterShot A B projectile (afterShot B A projectile' s) := by
        rw [players, hits, deaths]
        rfl

/-! ## The sweep -/

/-- One round of the sweep, as a step of a fold: the session, the projectiles done, and the
pairs checked. -/
def sweepStep (tick : Nat) (done : GameSession R × List (Projectile R) × Nat)
    (projectile : Projectile R) : GameSession R × List (Projectile R) × Nat :=
  ((done.1.collide tick projectile).1, done.2.1 ++ [(done.1.collide tick projectile).2.1],
    done.2.2 + (done.1.collide tick projectile).2.2.1)

theorem foldl_sweepStep (tick : Nat) (projectiles : List (Projectile R)) :
    ∀ (s : GameSession R) (done : List (Projectile R)) (checked : Nat),
      projectiles.foldl (sweepStep tick) (s, done, checked) =
        ((sweep tick projectiles s).1, done ++ (sweep tick projectiles s).2.1,
          checked + (sweep tick projectiles s).2.2.1) := by
  induction projectiles with
  | nil =>
      intro s done checked
      simp [sweep]
  | cons projectile projectiles ih =>
      intro s done checked
      rw [List.foldl_cons, sweepStep, ih, sweep]
      simp [Nat.add_assoc]

/-- What two sweeps have in common that differ in the order of shots of rivals. -/
structure SweptAlike (A B : String) (done done' : GameSession R × List (Projectile R) × Nat) :
    Prop where
  core : done.1.core = done'.1.core
  two : OnlyTwo A B done.1.players
  shots : SameShots A B done.2.1 done'.2.1
  checked : done.2.2 = done'.2.2

omit [DoubleArith R] in
theorem players_of_core {s s' : GameSession R} (same : s.core = s'.core) : s.players = s'.players := by
  have fields : s.core.players = s'.core.players := by rw [same]
  exact fields

omit [DoubleArith R] in
theorem SweptAlike.symm {A B : String} {done done' : GameSession R × List (Projectile R) × Nat}
    (alike : SweptAlike A B done done') : SweptAlike A B done' done where
  core := alike.core.symm
  two := players_of_core alike.core ▸ alike.two
  shots := SameShots.symm alike.shots
  checked := alike.checked.symm

omit [DoubleArith R] in
theorem SweptAlike.trans {A B : String}
    {done done' done'' : GameSession R × List (Projectile R) × Nat}
    (alike : SweptAlike A B done done') (alike' : SweptAlike A B done' done'') :
    SweptAlike A B done done'' where
  core := alike.core.trans alike'.core
  two := alike.two
  shots := Shuffle.trans alike.shots alike'.shots
  checked := alike.checked.trans alike'.checked

/-- A contact keeps the two players. -/
theorem OnlyTwo.collide {A B : String} {s : GameSession R} (two : OnlyTwo A B s.players)
    (tick : Nat) (projectile : Projectile R) : OnlyTwo A B (s.collide tick projectile).1.players := by
  cases active : projectile.active with
  | false =>
      rw [collide_inactive s tick active]
      exact two
  | true =>
      cases found : (firstContact projectile s.players.entries).1 with
      | none =>
          rw [collide_missed tick active found]
          exact two
      | some key =>
          obtain ⟨runtime, member, _, _⟩ := firstContact_spec found
          have present := (s.players.find_eq_some_iff key runtime).mpr member
          rw [collide_hit tick active found present]
          unfold registerHit
          dsimp only
          have hit := (two.adjust key (f := .takeHit) fun _ _ => rfl).adjust projectile.ownerId
            (f := .creditHit) fun _ _ => rfl
          split
          · exact hit.adjust key fun _ _ => rfl
          · exact hit

theorem SweptAlike.respects {A B : String} (tick : Nat)
    {done done' : GameSession R × List (Projectile R) × Nat} {projectile projectile' : Projectile R}
    (alike : SweptAlike A B done done') (same : SameShot projectile projectile') :
    SweptAlike A B (sweepStep tick done projectile) (sweepStep tick done' projectile') := by
  obtain ⟨core, shot, checked⟩ := collide_core done.1 tick projectile
  obtain ⟨core', shot', checked'⟩ := collide_core done'.1 tick projectile'
  have same : projectile.anonymous = projectile'.anonymous := same
  rw [← alike.core, ← same] at core' shot' checked'
  constructor
  · exact core.trans core'.symm
  · exact alike.two.collide tick projectile
  · apply Shuffle.append SameShot.refl alike.shots
    exact .cons (shot.trans shot'.symm) .nil
  · show done.2.2 + _ = done'.2.2 + _
    rw [alike.checked, checked, checked']

theorem afterShot_congr (A B : String) (projectile : Projectile R) {s s' : GameSession R}
    (same : s.core = s'.core) : afterShot A B projectile s = afterShot A B projectile s' := by
  rw [core_eq same]
  rfl

/-- Two contacts, one with a shot of each player. -/
theorem collide_collide {A B : String} (differ : A ≠ B) (tick : Nat) {s : GameSession R}
    (two : OnlyTwo A B s.players) {projectile projectile' : Projectile R}
    (owner : projectile.ownerId = A) (owner' : projectile'.ownerId = B) :
    let s' := (s.collide tick projectile).1
    (s'.collide tick projectile').1.core = afterShot B A projectile' (afterShot A B projectile s) ∧
    (s'.collide tick projectile').2.1 = (s.collide tick projectile').2.1 ∧
    (s'.collide tick projectile').2.2.1 = (s.collide tick projectile').2.2.1 := by
  intro s'
  have first : s'.core = (afterShot A B projectile s).core := (collide_duel differ two tick owner).1
  have two' : OnlyTwo A B s'.players := two.collide tick projectile
  obtain ⟨core, result, checked⟩ := collide_duel (Ne.symm differ) two'.symm tick owner'
  obtain ⟨_, result', checked'⟩ := collide_duel (Ne.symm differ) two.symm tick owner'
  rw [players_of_core first, find_afterShot differ] at result checked
  obtain ⟨struck, _, seen⟩ := isStruck_score projectile' projectile (s.players.find A) (s.players.find B)
  rw [struck] at result
  rw [seen] at checked
  exact ⟨core.trans (afterShot_congr B A projectile' first), result.trans result'.symm,
    checked.trans checked'.symm⟩

theorem collide_ownerId (s : GameSession R) (tick : Nat) (projectile : Projectile R) :
    (s.collide tick projectile).2.1.ownerId = projectile.ownerId := by
  unfold collide
  split
  · rfl
  · dsimp only
    split <;> rfl

theorem SweptAlike.commutes {A B : String} (differ : A ≠ B) (tick : Nat)
    {done : GameSession R × List (Projectile R) × Nat} {projectile projectile' : Projectile R}
    (two : OnlyTwo A B done.1.players) (owner : projectile.ownerId = A)
    (owner' : projectile'.ownerId = B) :
    SweptAlike A B (sweepStep tick (sweepStep tick done projectile) projectile')
      (sweepStep tick (sweepStep tick done projectile') projectile) := by
  obtain ⟨core, result, checked⟩ := collide_collide differ tick two owner owner'
  obtain ⟨core', result', checked'⟩ := collide_collide (Ne.symm differ) tick two.symm owner' owner
  constructor
  · exact core.trans ((afterShot_comm differ projectile projectile' done.1).trans core'.symm)
  · exact (two.collide tick projectile).collide tick projectile'
  · unfold sweepStep
    dsimp only
    rw [result, result', List.append_assoc, List.append_assoc]
    apply Shuffle.append_left SameShot.refl
    apply Shuffle.swap
    left
    rw [collide_ownerId, collide_ownerId]
    exact ⟨owner, owner'⟩
  · unfold sweepStep
    dsimp only
    rw [checked, checked']
    exact Nat.add_right_comm _ _ _

/-- The order of shots of rivals does not matter to a sweep. -/
theorem sweep_sameShots {A B : String} (differ : A ≠ B) (tick : Nat) {s s' : GameSession R}
    (core : s.core = s'.core) (two : OnlyTwo A B s.players) {shots shots' : List (Projectile R)}
    (same : SameShots A B shots shots') :
    (sweep tick shots s).1.core = (sweep tick shots' s').1.core ∧
    OnlyTwo A B (sweep tick shots s).1.players ∧
    SameShots A B (sweep tick shots s).2.1 (sweep tick shots' s').2.1 ∧
    (sweep tick shots s).2.2.1 = (sweep tick shots' s').2.2.1 := by
  have start : SweptAlike A B (s, [], 0) (s', [], 0) := ⟨core, two, .nil, rfl⟩
  have commutes : ∀ {done : GameSession R × List (Projectile R) × Nat} {projectile projectile' : Projectile R},
      SweptAlike A B done done → Rivals A B projectile projectile' →
      SweptAlike A B (sweepStep tick (sweepStep tick done projectile) projectile')
        (sweepStep tick (sweepStep tick done projectile') projectile) := by
    intro done projectile projectile' alike rivals
    cases rivals with
    | inl owners => exact SweptAlike.commutes differ tick alike.two owners.1 owners.2
    | inr owners => exact (SweptAlike.commutes differ tick alike.two owners.2 owners.1).symm
  have swept : SweptAlike A B (shots.foldl (sweepStep tick) (s, [], 0))
      (shots'.foldl (sweepStep tick) (s', [], 0)) :=
    Shuffle.foldl (SweptAlike A B) (sweepStep tick) SameShot.refl SweptAlike.symm SweptAlike.trans
      (SweptAlike.respects tick) commutes same start
  rw [foldl_sweepStep, foldl_sweepStep] at swept
  refine ⟨swept.core, swept.two, ?_, ?_⟩
  · simpa using swept.shots
  · simpa using swept.checked

/-! ## Operations -/

/-- Two sessions of a duel with the same shots, in orders that differ between those of
different players only. -/
structure Mirrors (A B : String) (s s' : GameSession R) : Prop where
  core : s.core = s'.core
  two : OnlyTwo A B s.players
  shots : SameShots A B s.projectiles s'.projectiles

/-- An operation that brings nobody else into a duel. -/
def InDuel (A B : String) : SessionOp R → Prop
  | .upsertPlayer playerId => playerId = A ∨ playerId = B
  | .removePlayer playerId => playerId = A ∨ playerId = B
  | _ => True

omit [DoubleArith R] in
theorem core_apply (effect : InputEffect R) (playerId : String) {s s' : GameSession R}
    (core : s.core = s'.core) : (effect.apply playerId s).core = (effect.apply playerId s').core := by
  rw [core_eq core]
  rfl

omit [DoubleArith R] in
theorem sameShots_numbered (A B : String) (counter counter' : Nat) (made : List (Projectile R)) :
    SameShots A B (made.map (Projectile.numbered counter)) (made.map (Projectile.numbered counter')) := by
  induction made with
  | nil => exact .nil
  | cons projectile made ih => exact .cons rfl ih

theorem Mirrors.applyInput {A B : String} {s s' : GameSession R} (mirrors : Mirrors A B s s')
    (playerId : String) (input : MovementInput R) (deltaSeconds : R) :
    Mirrors A B (s.applyInput playerId input deltaSeconds).1
      (s'.applyInput playerId input deltaSeconds).1 := by
  obtain ⟨effect, proper, applied⟩ := applyInput_effect s.elapsedTime s.speedPerSecond
    (s.players.find playerId) playerId input deltaSeconds
  have players : s'.players = s.players := (players_of_core mirrors.core).symm
  have clock : s'.elapsedTime = s.elapsedTime := by rw [core_eq mirrors.core]
  have pace : s'.speedPerSecond = s.speedPerSecond := by rw [core_eq mirrors.core]
  rw [applied s rfl rfl rfl, applied s' clock pace (by rw [players])]
  constructor
  · exact core_apply effect playerId mirrors.core
  · exact mirrors.two.adjust playerId proper.named
  · exact Shuffle.append SameShot.refl mirrors.shots (sameShots_numbered A B _ _ _)

theorem enter_playerId {playerId : String} {runtime : PlayerRuntimeState R}
    (named : runtime.state.playerId = "" ∨ runtime.state.playerId = playerId) :
    (runtime.enter playerId).state.playerId = playerId := by
  unfold PlayerRuntimeState.enter
  cases named with
  | inl fresh =>
      rw [fresh]
      rfl
  | inr known =>
      dsimp only
      split
      · rfl
      · exact known

theorem OnlyTwo.upsert {A B : String} {players : UnorderedMap String (PlayerRuntimeState R)}
    (two : OnlyTwo A B players) {playerId : String} (either : playerId = A ∨ playerId = B) :
    OnlyTwo A B (players.upsert playerId .default (.enter playerId)) := by
  constructor
  · intro key present
    rw [UnorderedMap.contains_upsert, Bool.or_eq_true, beq_iff_eq] at present
    cases present with
    | inl entered => exact entered ▸ either
    | inr known => exact two.either key known
  · intro key runtime found
    rw [UnorderedMap.find_upsert] at found
    split_ifs at found with asked
    · cases found
      subst asked
      apply enter_playerId
      cases stored : players.find key with
      | none => exact Or.inl rfl
      | some before => exact Or.inr (two.named key before stored)
    · exact two.named key runtime found

omit [DoubleArith R] in
theorem OnlyTwo.erase {A B : String} {players : UnorderedMap String (PlayerRuntimeState R)}
    (two : OnlyTwo A B players) (playerId : String) : OnlyTwo A B (players.erase playerId) := by
  constructor
  · intro key present
    rw [UnorderedMap.contains, UnorderedMap.find_erase] at present
    split_ifs at present
    · cases present
    · exact two.either key present
  · intro key runtime found
    rw [UnorderedMap.find_erase] at found
    split_ifs at found
    exact two.named key runtime found

theorem moveProjectile_anonymous (elapsedTime deltaSeconds : R) (projectile : Projectile R) :
    (moveProjectile elapsedTime deltaSeconds projectile).anonymous =
      moveProjectile elapsedTime deltaSeconds projectile.anonymous := by
  cases active : projectile.active with
  | false => simp [moveProjectile, Projectile.anonymous, Projectile.advance, Projectile.isExpired,
      Projectile.deactivate, active]
  | true =>
      cases old : lessEq kLifetime (elapsedTime - projectile.spawnTime) with
      | false => simp [moveProjectile, Projectile.anonymous, Projectile.advance, Projectile.isExpired,
          active, old]
      | true => simp [moveProjectile, Projectile.anonymous, Projectile.advance, Projectile.isExpired,
          Projectile.deactivate, active, old]

theorem moveProjectile_ownerId (elapsedTime deltaSeconds : R) (projectile : Projectile R) :
    (moveProjectile elapsedTime deltaSeconds projectile).ownerId = projectile.ownerId := by
  unfold moveProjectile
  dsimp only
  split
  · exact Projectile.advance_ownerId projectile deltaSeconds
  · exact Projectile.advance_ownerId projectile deltaSeconds

theorem Mirrors.moveProjectiles {A B : String} {s s' : GameSession R} (mirrors : Mirrors A B s s')
    (deltaSeconds : R) :
    Mirrors A B (s.moveProjectiles deltaSeconds) (s'.moveProjectiles deltaSeconds) := by
  have clock : s'.elapsedTime = s.elapsedTime := by rw [core_eq mirrors.core]
  constructor
  · rw [core_eq mirrors.core]
    rfl
  · exact mirrors.two
  · unfold GameSession.moveProjectiles
    rw [clock]
    apply mirrors.shots.map
    · intro projectile projectile' same
      unfold SameShot at same ⊢
      rw [moveProjectile_anonymous, moveProjectile_anonymous, same]
    · intro projectile projectile' rivals
      unfold Rivals
      rw [moveProjectile_ownerId, moveProjectile_ownerId]
      exact rivals

theorem Mirrors.tick {A B : String} (differ : A ≠ B) {s s' : GameSession R}
    (mirrors : Mirrors A B s s') (tick : Nat) (deltaSeconds : R) :
    Mirrors A B (s.tick tick deltaSeconds).1 (s'.tick tick deltaSeconds).1 := by
  have moved := mirrors.moveProjectiles deltaSeconds
  obtain ⟨core, two, shots, checked⟩ := sweep_sameShots differ tick moved.core moved.two moved.shots
  constructor
  · unfold GameSession.tick updateProjectilesLocked
    dsimp only
    rw [checked, core_eq core]
    rfl
  · exact two
  · apply shots.filter SameShot.refl
    intro projectile projectile' same
    exact same.fields.2

theorem Mirrors.perform {A B : String} (differ : A ≠ B) {op : SessionOp R} (inDuel : InDuel A B op)
    {s s' t : GameSession R} {items : List SessionItem} (mirrors : Mirrors A B s s')
    (performed : perform op s = some (items, t)) :
    ∃ items' t', GameSession.perform op s' = some (items', t') ∧ Mirrors A B t t' := by
  cases op with
  | upsertPlayer playerId =>
      by_cases unnamed : playerId = ""
      · simp [GameSession.perform, unnamed] at performed
      · simp only [GameSession.perform, if_neg unnamed] at performed ⊢
        cases performed
        refine ⟨_, _, rfl, ?_, mirrors.two.upsert inDuel, mirrors.shots⟩
        rw [core_eq mirrors.core]
        rfl
  | removePlayer playerId =>
      cases performed
      refine ⟨_, _, rfl, ?_, mirrors.two.erase playerId, ?_⟩
      · rw [core_eq mirrors.core]
        rfl
      · apply mirrors.shots.filter SameShot.refl
        intro projectile projectile' same
        rw [same.fields.1]
  | applyInput playerId input deltaSeconds =>
      cases performed
      exact ⟨_, _, rfl, mirrors.applyInput playerId input deltaSeconds⟩
  | tick tick deltaSeconds =>
      cases performed
      exact ⟨_, _, rfl, mirrors.tick differ tick deltaSeconds⟩
  | consumeDeathEvents =>
      cases performed
      exact ⟨_, _, rfl, mirrors.core, mirrors.two, mirrors.shots⟩
  | reorder order =>
      cases performed
      refine ⟨_, _, rfl, ?_, ?_, mirrors.shots⟩
      · rw [core_eq mirrors.core]
        rfl
      · constructor
        · intro key present
          rw [UnorderedMap.contains_reorder] at present
          exact mirrors.two.either key present
        · intro key runtime found
          rw [UnorderedMap.find_reorder] at found
          exact mirrors.two.named key runtime found

/-! ## Two inputs in either order -/

theorem mirrors_inputs {A B : String} (differ : A ≠ B) {s : GameSession R}
    (two : OnlyTwo A B s.players) (a b : MovementInput R) (deltaA deltaB : R) :
    Mirrors A B ((s.applyInput A a deltaA).1.applyInput B b deltaB).1
      ((s.applyInput B b deltaB).1.applyInput A a deltaA).1 := by
  obtain ⟨effect, proper, applied⟩ := applyInput_effect s.elapsedTime s.speedPerSecond
    (s.players.find A) A a deltaA
  obtain ⟨effect', proper', applied'⟩ := applyInput_effect s.elapsedTime s.speedPerSecond
    (s.players.find B) B b deltaB
  have found : (effect'.apply B s).players.find A = s.players.find A := by
    rw [InputEffect.apply, UnorderedMap.find_adjust, if_neg differ]
  have found' : (effect.apply A s).players.find B = s.players.find B := by
    rw [InputEffect.apply, UnorderedMap.find_adjust, if_neg (Ne.symm differ)]
  rw [applied s rfl rfl rfl, applied' s rfl rfl rfl, applied (effect'.apply B s) rfl rfl found,
    applied' (effect.apply A s) rfl rfl found']
  constructor
  · unfold InputEffect.apply core
    dsimp only
    rw [UnorderedMap.adjust_comm _ differ, Nat.add_right_comm s.projectileCounter,
      Nat.add_right_comm s.projectilesSpawnedTotal]
  · have first : OnlyTwo A B (effect.apply A s).players := two.adjust A proper.named
    apply first.adjust B
    rw [found']
    exact proper'.named
  · -- the shots of the two inputs change places, with other numbers
    have owner : ∀ projectile ∈ effect.made, projectile.ownerId = A := by
      intro projectile member
      obtain ⟨runtime, present, fired⟩ := proper.fired projectile member
      exact fired.owner.trans ((receive_keeps _ _ _ _).1.trans (two.named A runtime present))
    have owner' : ∀ projectile ∈ effect'.made, projectile.ownerId = B := by
      intro projectile member
      obtain ⟨runtime, present, fired⟩ := proper'.fired projectile member
      exact fired.owner.trans ((receive_keeps _ _ _ _).1.trans (two.named B runtime present))
    have exchanged : SameShots A B
        (effect.made.map (Projectile.numbered s.projectileCounter) ++
          effect'.made.map (Projectile.numbered (effect.apply A s).projectileCounter))
        (effect'.made.map (Projectile.numbered (effect.apply A s).projectileCounter) ++
          effect.made.map (Projectile.numbered s.projectileCounter)) := by
      apply Shuffle.exchange SameShot.refl
      intro projectile member projectile' member'
      obtain ⟨shot, listed, rfl⟩ := List.mem_map.mp member
      obtain ⟨shot', listed', rfl⟩ := List.mem_map.mp member'
      exact Or.inl ⟨owner shot listed, owner' shot' listed'⟩
    have renumbered := Shuffle.append SameShot.refl
      (sameShots_numbered A B (effect.apply A s).projectileCounter s.projectileCounter effect'.made)
      (sameShots_numbered A B s.projectileCounter (effect'.apply B s).projectileCounter effect.made)
    have all := Shuffle.append_left SameShot.refl s.projectiles (Shuffle.trans exchanged renumbered)
    rw [← List.append_assoc, ← List.append_assoc] at all
    exact all

/-- What the players of a duel and an observer of its totals can see. -/
structure SameOutcome (s s' : GameSession R) : Prop where
  players : ∀ playerId, s.getPlayer playerId = s'.getPlayer playerId
  spawned : s.projectilesSpawnedTotal = s'.projectilesSpawnedTotal
  hits : s.projectilesHitsTotal = s'.projectilesHitsTotal
  deaths : s.playersDeadTotal = s'.playersDeadTotal
  checked : s.collisionsCheckedTotal = s'.collisionsCheckedTotal
  projectiles : (s.projectiles.map Projectile.anonymous).Perm (s'.projectiles.map Projectile.anonymous)

omit [DoubleArith R] in
theorem Mirrors.sameOutcome {A B : String} {s s' : GameSession R} (mirrors : Mirrors A B s s') :
    SameOutcome s s' := by
  have perm := mirrors.shots.perm Projectile.anonymous fun _ _ same => same
  rw [core_eq mirrors.core]
  exact ⟨fun _ => rfl, rfl, rfl, rfl, rfl, perm⟩

theorem perform_inDuel {A B : String} (named : A ≠ "") (named' : B ≠ "") {op : SessionOp R}
    (inDuel : InDuel A B op) (s : GameSession R) : ∃ items t, perform op s = some (items, t) := by
  cases op with
  | upsertPlayer playerId =>
      have nonempty : playerId ≠ "" := by
        cases inDuel with
        | inl first => exact first ▸ named
        | inr second => exact second ▸ named'
      exact ⟨_, _, if_neg nonempty⟩
  | removePlayer playerId => exact ⟨_, _, rfl⟩
  | applyInput playerId input deltaSeconds => exact ⟨_, _, rfl⟩
  | tick tick deltaSeconds => exact ⟨_, _, rfl⟩
  | consumeDeathEvents => exact ⟨_, _, rfl⟩
  | reorder order => exact ⟨_, _, rfl⟩

theorem Mirrors.replay {A B : String} (differ : A ≠ B) (named : A ≠ "") (named' : B ≠ "")
    (ops : List (SessionOp R)) (inDuel : ∀ op ∈ ops, InDuel A B op) :
    ∀ {s s' : GameSession R} (trace trace' : List SessionItem), Mirrors A B s s' →
      ∃ later t later' t', Misc.replay GameSession.perform ops (trace, s) = some (later, t) ∧
        Misc.replay GameSession.perform ops (trace', s') = some (later', t') ∧ Mirrors A B t t' := by
  induction ops with
  | nil =>
      intro s s' trace trace' mirrors
      exact ⟨trace, s, trace', s', rfl, rfl, mirrors⟩
  | cons op ops ih =>
      intro s s' trace trace' mirrors
      have first := inDuel op List.mem_cons_self
      obtain ⟨items, t, performed⟩ := perform_inDuel named named' first s
      obtain ⟨items', t', performed', mirrors'⟩ := mirrors.perform differ first performed
      rw [Misc.replay, Misc.replay, performed, performed']
      exact ih (fun other member => inDuel other (List.mem_cons_of_mem op member)) _ _ mirrors'

/-- Nobody in a session has an empty id. -/
theorem MoveRuns.nameless {trace : List SessionItem} {s : GameSession R} (run : MoveRuns trace s) :
    s.players.contains "" = false := by
  refine Run.invariant (P := fun _ s => s.players.contains "" = false) ?_ ?_ run
  · intro s fresh
    rw [fresh]
    rfl
  · intro trace s items s' _ absent move
    cases move with
    | upsert named =>
        refine (UnorderedMap.contains_upsert _ _ _ _ _).trans ?_
        rw [absent, Bool.or_false]
        exact beq_false_of_ne (Ne.symm named)
    | remove playerId settled =>
        show UnorderedMap.contains (s.players.erase playerId) "" = false
        rw [UnorderedMap.contains, UnorderedMap.find_erase]
        split
        · rfl
        · exact absent
    | receive playerId => exact absent
    | steer present steered => exact (UnorderedMap.contains_adjust _ _ _ _).trans absent
    | number => exact absent
    | spawn present alive id owner active => exact (UnorderedMap.contains_adjust _ _ _ _).trans absent
    | moveProjectiles tick deltaSeconds settled => exact absent
    | @hit tick before after projectile key runtime stored active present alive other =>
        exact (UnorderedMap.contains_congr (registerHit_keys s tick projectile key runtime) "").trans absent
    | settle checked => exact absent
    | consume => exact absent
    | reorder order => exact (UnorderedMap.contains_reorder _ _ _).trans absent

/-- The order in which an input of each of two players arrives decides nothing. -/
theorem arrivalOrder_irrelevant {trace : List SessionItem} {s : GameSession R} (run : Runs trace s)
    {A B : String} (differ : A ≠ B)
    (two : ∀ playerId, s.players.contains playerId = true ↔ playerId = A ∨ playerId = B)
    (a b : MovementInput R) (deltaA deltaB : R) (ops : List (SessionOp R))
    (inDuel : ∀ op ∈ ops, InDuel A B op) :
    ∃ later t later' t',
      replay perform (.applyInput A a deltaA :: .applyInput B b deltaB :: ops) (trace, s) = some (later, t) ∧
      replay perform (.applyInput B b deltaB :: .applyInput A a deltaA :: ops) (trace, s) =
        some (later', t') ∧
      SameOutcome t t' := by
  have moves := run.byMoves.1
  have nameless := moves.nameless
  have present : ∀ playerId, playerId = A ∨ playerId = B → playerId ≠ "" := by
    intro playerId either empty
    rw [← two, empty, nameless] at either
    cases either
  have only : OnlyTwo A B s.players :=
    ⟨fun key there => (two key).mp there, fun key runtime found => (moves.accounts key runtime found).named⟩
  obtain ⟨later, t, later', t', reached, reached', mirrors⟩ :=
    Mirrors.replay differ (present A (Or.inl rfl)) (present B (Or.inr rfl)) ops inDuel _ _
      (mirrors_inputs differ only a b deltaA deltaB)
  exact ⟨later, t, later', t', reached, reached', mirrors.sameOutcome⟩

/-- Two players fire at each other, walk on, and one of them leaves. -/
theorem arrivalOrder_irrelevant_bothFire :
    ∃ trace later later' : List SessionItem, ∃ s t t' : GameSession ℚ,
      s.players.keys = ["A", "B"] ∧
      replay perform
        [.applyInput "A" ⟨1, false, false, true, false, 1, 0, true⟩ (1 / 60),
          .applyInput "B" ⟨1, false, false, false, true, -1, 0, true⟩ (1 / 60),
          .tick 1 (1 / 60), .removePlayer "B"] (trace, s) = some (later, t) ∧
      replay perform
        [.applyInput "B" ⟨1, false, false, false, true, -1, 0, true⟩ (1 / 60),
          .applyInput "A" ⟨1, false, false, true, false, 1, 0, true⟩ (1 / 60),
          .tick 1 (1 / 60), .removePlayer "B"] (trace, s) = some (later', t') ∧
      SameOutcome t t' := by
  have fresh : (GameSession.new : GameSession ℚ).Initial := rfl
  obtain ⟨trace, s, run, passed⟩ := exists_run_of_replay
    ([.upsertPlayer "A", .upsertPlayer "B"] : List (SessionOp ℚ))
    (fun _ (s : GameSession ℚ) => decide (s.players.keys = ["A", "B"])) fresh
    (show (replay GameSession.perform _ _).any _ = true by decide +kernel)
  have keys : s.players.keys = ["A", "B"] := of_decide_eq_true passed
  have two : ∀ playerId, s.players.contains playerId = true ↔ playerId = "A" ∨ playerId = "B" := by
    intro playerId
    rw [UnorderedMap.contains_iff, keys]
    simp
  have inDuel : ∀ op ∈ ([.tick 1 (1 / 60), .removePlayer "B"] : List (SessionOp ℚ)), InDuel "A" "B" op := by
    intro op member
    simp only [List.mem_cons, List.not_mem_nil, or_false] at member
    cases member with
    | inl ticked => exact ticked ▸ trivial
    | inr left => exact left ▸ Or.inr rfl
  obtain ⟨later, t, later', t', reached, reached', same⟩ :=
    arrivalOrder_irrelevant run (by decide) two ⟨1, false, false, true, false, 1, 0, true⟩
      ⟨1, false, false, false, true, -1, 0, true⟩ (1 / 60) (1 / 60) _ inDuel
  exact ⟨trace, later, later', s, t, t', keys, reached, reached', same⟩

end GameSession

end Arena60
