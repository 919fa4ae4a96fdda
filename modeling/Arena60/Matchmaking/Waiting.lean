import Arena60.Matchmaking.PassGuarantees
import Arena60.Misc.ExactArith
import Mathlib.Tactic.Linarith

/-!
# How long a player can wait

The tolerance of a waiting player grows without a bound, by one step every five seconds, so
nobody waits for ever while somebody else waits too: the players that a pass leaves are few, and
the longer they have waited the fewer they are.
-/

namespace Arena60

open Misc Misc.DoubleArith

/-- Numbers that ascend by at least `gap` reach as far as that takes them. -/
theorem exists_far_of_spaced {gap : Int} (rest : List Int) :
    ∀ first : Int, (first :: rest).Pairwise (fun lower higher => lower + gap ≤ higher) →
      ∃ last ∈ first :: rest, first + rest.length * gap ≤ last := by
  induction rest with
  | nil =>
      intro first _
      exact ⟨first, List.mem_cons_self, by simp⟩
  | cons second rest ih =>
      intro first spaced
      obtain ⟨next, spaced'⟩ := List.pairwise_cons.mp spaced
      obtain ⟨last, member, far⟩ := ih second spaced'
      have step := next second List.mem_cons_self
      refine ⟨last, List.mem_cons_of_mem first member, ?_⟩
      rw [List.length_cons, Nat.cast_succ, add_mul, one_mul]
      linarith

/-- There is no room for many of them. -/
theorem length_le_of_spaced_ints {gap span : Nat} {values : List Int} (positive : 0 < gap)
    (spaced : values.Pairwise fun lower higher => lower + (gap : Int) ≤ higher)
    (within : ∀ lower ∈ values, ∀ higher ∈ values, higher - lower ≤ span) :
    values.length ≤ span / gap + 1 := by
  cases values with
  | nil => exact Nat.zero_le _
  | cons first rest =>
      obtain ⟨last, member, far⟩ := exists_far_of_spaced rest first spaced
      have near := within first List.mem_cons_self last member
      have room : rest.length * gap ≤ span := by
        have fits : (rest.length : Int) * gap ≤ span := by linarith
        exact_mod_cast fits
      exact Nat.succ_le_succ ((Nat.le_div_iff_mul_le positive).mpr room)

/-! ## The tolerance in exact arithmetic -/

/-- The complete steps of five seconds for which a player has waited. -/
def MatchRequest.stepsWaited (request : MatchRequest) (now : Int) : Nat :=
  ((now - request.enqueuedAt) / 5000000000).toNat

theorem floor_div_steps (n : Int) : ⌊(n : ℚ) / 1000000000 / 5⌋ = n / 5000000000 := by
  have whole : (n : ℚ) / 1000000000 / 5 = (n : ℚ) / ((5000000000 : ℕ) : ℚ) := by
    rw [div_div]
    norm_num
  rw [whole, Rat.floor_intCast_div_natCast]
  rfl

/-- The tolerance grows by 25 with every step. -/
theorem MatchRequest.currentTolerance_eq (request : MatchRequest) (now : Int) :
    request.currentTolerance ℚ now = 100 + 25 * (request.stepsWaited now : Int) := by
  have waited : request.waitSeconds ℚ now = ((now - request.enqueuedAt : Int) : ℚ) / 1000000000 := rfl
  have unfolded : request.currentTolerance ℚ now =
      100 + DoubleConversions.toInt (DoubleArith.max (ofRat 0) (request.waitSeconds ℚ now) / ofRat 5) * 25 :=
    rfl
  rw [unfolded, waited, stepsWaited]
  generalize now - request.enqueuedAt = waiting
  simp only [DoubleArith.max, DoubleConversions.toInt, ofRat, less, decide_eq_true_eq]
  by_cases positive : (0 : ℚ) < (waiting : ℚ) / 1000000000
  · have ahead : ¬(waiting : ℚ) / 1000000000 / 5 < 0 := by
      rw [not_lt]
      positivity
    have later : 0 < waiting := by
      rw [lt_div_iff₀ (by norm_num), zero_mul] at positive
      exact_mod_cast positive
    rw [if_pos positive, if_neg ahead, floor_div_steps]
    omega
  · have early : waiting ≤ 0 := by
      rw [not_lt, div_le_iff₀ (by norm_num), zero_mul] at positive
      exact_mod_cast positive
    rw [if_neg positive, zero_div, if_neg (lt_irrefl 0), Int.floor_zero]
    omega

/-! ## Who is left by a pass -/

/-- The players of a list that have waited for some steps and could play in a region. -/
def patient (now : Int) (steps : Nat) (region : String) (waiting : List QueuedPlayer) : List QueuedPlayer :=
  waiting.filter fun player => decide (steps ≤ player.request.stepsWaited now ∧
    (player.request.preferredRegion = region ∨ player.request.preferredRegion = "any"))

/-- What is said of the players that a pass leaves waiting. -/
structure FewLeft (now : Int) (left : List QueuedPlayer) : Prop where
  apart : ∀ a ∈ left, ∀ b ∈ left, a ≠ b → regionsCompatible a.request b.request = true →
    100 + 25 * (min (a.request.stepsWaited now) (b.request.stepsWaited now) : Nat) < |a.elo - b.elo|
  few : ∀ (region : String) (steps span : Nat),
    (∀ a ∈ patient now steps region left, ∀ b ∈ patient now steps region left, b.elo - a.elo ≤ span) →
      (patient now steps region left).length ≤ span / (101 + 25 * steps) + 1

theorem regionsCompatible_of_patient {region : String} {a b : QueuedPlayer}
    (here : a.request.preferredRegion = region ∨ a.request.preferredRegion = "any")
    (here' : b.request.preferredRegion = region ∨ b.request.preferredRegion = "any") :
    regionsCompatible a.request b.request = true := by
  rw [regionsCompatible, regionsMatch_iff]
  rcases here with same | any
  · rcases here' with same' | any'
    · exact Or.inr (Or.inr (same.trans same'.symm))
    · exact Or.inr (Or.inl any')
  · exact Or.inl any

/-- Two players whose regions fit are not both left unless their ratings are further apart than the
tolerance of the one who came later. -/
theorem apart_of_left {m : Matchmaker ℚ} (coherent : m.queue.Coherent) (now : Int) {a b : QueuedPlayer}
    (left : a ∈ (m.runMatching now).1.queue.fetchOrdered) (left' : b ∈ (m.runMatching now).1.queue.fetchOrdered)
    (distinct : a ≠ b) (regions : regionsCompatible a.request b.request = true) :
    100 + 25 * (min (a.request.stepsWaited now) (b.request.stepsWaited now) : Nat) < |a.elo - b.elo| := by
  have coherent' : (m.runMatching now).1.queue.Coherent := by
    rw [Matchmaker.runMatching_queue]
    exact (Matchmaker.runMatchingLocked_effect coherent now).coherent
  rw [InMemoryMatchQueue.mem_fetchOrdered] at left left'
  by_contra near
  rw [not_lt] at near
  refine no_pair_left coherent now a b ⟨(coherent'.contents_eq_some_iff _ a).mpr ⟨left, rfl⟩,
    (coherent'.contents_eq_some_iff _ b).mpr ⟨left', rfl⟩,
    fun same => distinct (coherent'.player_unique left left' same), ?_⟩
  have first : |a.request.elo - b.request.elo| ≤ a.request.currentTolerance ℚ now := by
    rw [MatchRequest.currentTolerance_eq]
    change |a.request.elo - b.request.elo| ≤ _ at near
    omega
  have second : |a.request.elo - b.request.elo| ≤ b.request.currentTolerance ℚ now := by
    rw [MatchRequest.currentTolerance_eq]
    change |a.request.elo - b.request.elo| ≤ _ at near
    omega
  rw [compatible, regions, decide_eq_true first, decide_eq_true second]
  rfl

/-- After any pass those who still wait are few: in exact arithmetic the ratings of any two of them
that could play in one region differ by more than their tolerances, so of those who have waited for
`steps` steps and have ratings in a range of `span` points there are at most
`span / (101 + 25 * steps) + 1`. -/
theorem runMatching_fewLeft {m : Matchmaker ℚ} (reachable : m.Reachable) (now : Int) :
    FewLeft now (m.runMatching now).1.queue.fetchOrdered := by
  have coherent := reachable.wellFormed.coherent
  have coherent' : (m.runMatching now).1.queue.Coherent := by
    rw [Matchmaker.runMatching_queue]
    exact (Matchmaker.runMatchingLocked_effect coherent now).coherent
  refine ⟨fun a left b left' => apart_of_left coherent now left left', ?_⟩
  intro region steps span within
  have distinct : (m.runMatching now).1.queue.fetchOrdered.Pairwise fun a b => a ≠ b :=
    coherent'.fetchOrdered_ascending.imp fun before same => by
      subst same
      exact before.asymm before
  have ascending := (coherent'.fetchOrdered_ascending.and distinct).filter
    fun player => decide (steps ≤ player.request.stepsWaited now ∧
      (player.request.preferredRegion = region ∨ player.request.preferredRegion = "any"))
  have spaced : ((patient now steps region (m.runMatching now).1.queue.fetchOrdered).map
      QueuedPlayer.elo).Pairwise fun lower higher => lower + ((101 + 25 * steps : Nat) : Int) ≤ higher := by
    rw [List.pairwise_map]
    refine ascending.imp_of_mem ?_
    intro a b member member' ordered
    obtain ⟨before, differ⟩ := ordered
    obtain ⟨left, waited⟩ := List.mem_filter.mp member
    obtain ⟨left', waited'⟩ := List.mem_filter.mp member'
    have waited := of_decide_eq_true waited
    have waited' := of_decide_eq_true waited'
    have far := apart_of_left coherent now left left' differ
      (regionsCompatible_of_patient waited.2 waited'.2)
    have below : a.elo ≤ b.elo := by
      rcases before with below | ⟨same, -⟩
      · exact below.le
      · exact same.le
    rw [abs_sub_comm, abs_of_nonneg (sub_nonneg.mpr below)] at far
    omega
  have few := length_le_of_spaced_ints (by omega) spaced fun lower member higher member' => by
    obtain ⟨a, listed, rfl⟩ := List.mem_map.mp member
    obtain ⟨b, listed', rfl⟩ := List.mem_map.mp member'
    exact within a listed b listed'
  rwa [List.length_map] at few

/-- Three players of one region; the ratings of the first two are too far apart. -/
noncomputable def farRatings : Matchmaker ℚ :=
  ((Matchmaker.new.enqueue ⟨"alice", 1000, 0, "eu"⟩).enqueue ⟨"bob", 1240, 0, "any"⟩).enqueue
    ⟨"carol", 1500, 20000000000, "eu"⟩

theorem farRatings_reachable : farRatings.Reachable := .enqueue _ (.enqueue _ (.enqueue _ .new))

/-- After 25 seconds nobody can be paired; after 30 the first two are. -/
theorem runMatching_fewLeft_farRatings :
    FewLeft 25000000000 (farRatings.runMatching 25000000000).1.queue.fetchOrdered ∧
      (farRatings.runMatching 25000000000).1.queue.fetchOrdered.length = 3 ∧
      (farRatings.runMatching 30000000000).1.queue.fetchOrdered.map QueuedPlayer.playerId = ["carol"] :=
  ⟨runMatching_fewLeft farRatings_reachable _, by decide +kernel, by decide +kernel⟩

end Arena60
