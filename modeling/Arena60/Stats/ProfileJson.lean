import Arena60.Misc.Decimals
import Arena60.Misc.ExactArith
import Arena60.Misc.JsonBytes
import Arena60.Stats.PlayerProfileService

/-!
# Profiles as JSON

`PlayerProfileService::SerializeProfile` and `SerializeLeaderboard`. The ids are the bytes that clients
choose, one character of the model for each, and go into the output as they are: it reads back exactly
when each id is UTF-8 and all of its bytes may stand for themselves between quotes.
-/

namespace Arena60

open Misc Misc.Json

universe u

namespace PlayerProfileService

variable (R : Type u) [DoubleArith R] [DoubleValue R]

/-- `PlayerProfileService::SerializeProfile`. -/
def serializeProfile (profile : PlayerProfile) : String :=
  "\x7b" ++
  "\"player_id\":\"" ++ profile.playerId ++ "\"," ++
  "\"rating\":" ++ toString profile.rating ++ "," ++
  "\"matches\":" ++ toString profile.matchesPlayed ++ "," ++
  "\"wins\":" ++ toString profile.wins ++ "," ++
  "\"losses\":" ++ toString profile.losses ++ "," ++
  "\"kills\":" ++ toString profile.kills ++ "," ++
  "\"deaths\":" ++ toString profile.deaths ++ "," ++
  "\"shots_fired\":" ++ toString profile.shotsFired ++ "," ++
  "\"hits_landed\":" ++ toString profile.hitsLanded ++ "," ++
  "\"damage_dealt\":" ++ toString profile.damageDealt ++ "," ++
  "\"damage_taken\":" ++ toString profile.damageTaken ++ "," ++
  "\"accuracy\":" ++ fixedText 4 (DoubleValue.toRat (profile.accuracy R)) ++
  "\x7d"

/-- The loop of `SerializeLeaderboard`: what it appends from its `i`-th round on. -/
def serializeFrom (i : Nat) : List PlayerProfile → String
  | [] => ""
  | profile :: profiles =>
      (if i > 0 then "," else "") ++ serializeProfile R profile ++ serializeFrom (i + 1) profiles

/-- `PlayerProfileService::SerializeLeaderboard`. -/
def serializeLeaderboard (profiles : List PlayerProfile) : String :=
  "[" ++ serializeFrom R 0 profiles ++ "]"

end PlayerProfileService

/-! ## What a reader recovers -/

/-- The integer fields of a profile, under the names in its text. -/
def PlayerProfile.integerFields (profile : PlayerProfile) : List (String × Int) :=
  [("rating", profile.rating), ("matches", profile.matchesPlayed), ("wins", profile.wins),
    ("losses", profile.losses), ("kills", profile.kills), ("deaths", profile.deaths),
    ("shots_fired", profile.shotsFired), ("hits_landed", profile.hitsLanded),
    ("damage_dealt", profile.damageDealt), ("damage_taken", profile.damageTaken)]

/-- A reader of a value recovers a profile: a text whose UTF-8 form is the id, and the integer fields. -/
structure Recovers (json : Json) (profile : PlayerProfile) : Prop where
  playerId : ∃ text, json.member "player_id" = some (.string text) ∧ utf8 text = bytesOf profile.playerId
  integers : ∀ field ∈ profile.integerFields, json.member field.1 = some (.number field.2)

/-- A reader of a value recovers an array of profiles, element by element. -/
def RecoversAll (json : Json) (profiles : List PlayerProfile) : Prop :=
  ∃ elements, json = .array elements ∧ List.Forall₂ Recovers elements profiles

/-! ## The text of a profile -/

/-- A value carries a profile whose id is a text. -/
structure Carries (json : Json) (profile : PlayerProfile) : Prop where
  playerId : json.member "player_id" = some (.string profile.playerId)
  integers : ∀ field ∈ profile.integerFields, json.member field.1 = some (.number field.2)

section text

variable {R : Type u} [DoubleArith R] [DoubleValue R]

/-- The members of the text of a profile: name, text and value. -/
def profileMembers (R : Type u) [DoubleArith R] [DoubleValue R] (profile : PlayerProfile) (accuracy : ℚ) :
    List (List Char × List Char × Json) :=
  ("player_id".toList, quoted profile.playerId.toList, .string profile.playerId) ::
    (profile.integerFields.map fun field => (field.1.toList, (toString field.2).toList, Json.number field.2)) ++
    [("accuracy".toList, (fixedText 4 (DoubleValue.toRat (profile.accuracy R))).toList, .number accuracy)]

theorem serializeProfile_toList (profile : PlayerProfile) (accuracy : ℚ) :
    (PlayerProfileService.serializeProfile R profile).toList =
      objectText ((profileMembers R profile accuracy).map fun member => (member.1, member.2.1)) := by
  have opening : "\x7b".toList = ['\x7b'] := by decide
  have closing : "\x7d".toList = ['\x7d'] := by decide
  have comma : ",".toList = [','] := by decide
  have quote : "\",".toList = ['"', ','] := by decide
  have playerId : "\"player_id\":\"".toList = quoted "player_id".toList ++ [':', '"'] := by decide
  have rating : "\"rating\":".toList = quoted "rating".toList ++ [':'] := by decide
  have matchesPlayed : "\"matches\":".toList = quoted "matches".toList ++ [':'] := by decide
  have wins : "\"wins\":".toList = quoted "wins".toList ++ [':'] := by decide
  have losses : "\"losses\":".toList = quoted "losses".toList ++ [':'] := by decide
  have kills : "\"kills\":".toList = quoted "kills".toList ++ [':'] := by decide
  have deaths : "\"deaths\":".toList = quoted "deaths".toList ++ [':'] := by decide
  have shotsFired : "\"shots_fired\":".toList = quoted "shots_fired".toList ++ [':'] := by decide
  have hitsLanded : "\"hits_landed\":".toList = quoted "hits_landed".toList ++ [':'] := by decide
  have damageDealt : "\"damage_dealt\":".toList = quoted "damage_dealt".toList ++ [':'] := by decide
  have damageTaken : "\"damage_taken\":".toList = quoted "damage_taken".toList ++ [':'] := by decide
  have accuracyName : "\"accuracy\":".toList = quoted "accuracy".toList ++ [':'] := by decide
  have natural : ∀ n : Nat, toString (n : Int) = toString n := fun _ => rfl
  unfold PlayerProfileService.serializeProfile
  simp only [String.toList_append, opening, closing, comma, quote, playerId, rating, matchesPlayed, wins,
    losses, kills, deaths, shotsFired, hitsLanded, damageDealt, damageTaken, accuracyName]
  simp only [profileMembers, PlayerProfile.integerFields, List.map_cons, List.map_nil, List.cons_append,
    List.nil_append, objectText, commaText, memberText, natural]
  simp only [quoted, List.append_assoc, List.cons_append, List.nil_append]

theorem fixedText_toList (precision : Nat) (x : ℚ) :
    ∃ whole part, (fixedText precision x).toList =
      signText (decide (x < 0)) ++ (Nat.toDigits 10 whole ++ '.' :: fractionDigits precision part) := by
  let scaled := (roundEven (|x| * 10 ^ precision)).toNat
  refine ⟨scaled / 10 ^ precision, scaled % 10 ^ precision, ?_⟩
  unfold fixedText
  dsimp only
  rw [String.toList_append, String.toList_append, String.toList_append, List.append_assoc, List.append_assoc,
    Nat.toString_eq_repr, Nat.toList_repr]
  have sign : (if x < 0 then "-" else "").toList = signText (decide (x < 0)) := by
    unfold signText
    by_cases negative : x < 0
    · rw [if_pos negative, if_pos (decide_eq_true negative)]
      decide
    · rw [if_neg negative, if_neg (by simp [negative])]
      decide
  have point : ".".toList = ['.'] := by decide
  rw [sign, point, String.toList_ofList]
  rfl

/-- A number in fixed notation reads back. -/
theorem reads_fixedText (precision : Nat) (x : ℚ) :
    ∃ value, Reads 1 (fixedText precision x).toList (.number value) := by
  obtain ⟨whole, part, text⟩ := fixedText_toList precision x
  rw [text]
  exact ⟨_, reads_number _ whole
    (readsFraction_digits (isDigit_fractionDigits precision part) (fractionDigits_ne_nil precision part))⟩

/-- The value of the text of a profile whose id stands for itself. -/
def profileValue (profile : PlayerProfile) (accuracy : ℚ) : Json :=
  .object (("player_id", .string profile.playerId) ::
    (profile.integerFields.map fun field => (field.1, Json.number field.2)) ++ [("accuracy", .number accuracy)])

theorem plain_playerId : Plain "player_id".toList := by decide

theorem plain_accuracy : Plain "accuracy".toList := by decide

theorem plain_integerFields (profile : PlayerProfile) :
    ∀ field ∈ profile.integerFields, Plain field.1.toList := by
  have names : ∀ name ∈ ["rating", "matches", "wins", "losses", "kills", "deaths", "shots_fired", "hits_landed",
      "damage_dealt", "damage_taken"], Plain name.toList := by
    decide
  intro field member
  exact names field.1 (List.mem_map_of_mem (f := Prod.fst) member)

theorem reads_serializeProfile (profile : PlayerProfile) :
    ∃ accuracy, Plain profile.playerId.toList →
      Reads 14 (PlayerProfileService.serializeProfile R profile).toList (profileValue profile accuracy) := by
  obtain ⟨accuracy, number⟩ := reads_fixedText 4 (DoubleValue.toRat (profile.accuracy R))
  refine ⟨accuracy, ?_⟩
  intro plain
  have parts : ∀ member ∈ profileMembers R profile accuracy,
      Plain member.1 ∧ Reads 1 member.2.1 member.2.2 := by
    intro member listed
    rcases List.mem_append.mp listed with front | last
    · rcases List.mem_cons.mp front with rfl | integer
      · have string := reads_quoted plain
        rw [String.ofList_toList] at string
        exact ⟨plain_playerId, string⟩
      · obtain ⟨field, present, rfl⟩ := List.mem_map.mp integer
        exact ⟨plain_integerFields profile field present, reads_integer field.2⟩
    · rw [List.mem_singleton.mp last]
      exact ⟨plain_accuracy, number⟩
  have reads := reads_object (profileMembers R profile accuracy) parts
  rw [← serializeProfile_toList profile accuracy] at reads
  have value : (profileMembers R profile accuracy).map (fun member => (String.ofList member.1, member.2.2)) =
      ("player_id", .string profile.playerId) ::
        (profile.integerFields.map fun field => (field.1, Json.number field.2)) ++
          [("accuracy", .number accuracy)] := by
    simp [profileMembers, String.ofList_toList, Function.comp_def]
  rw [value] at reads
  exact reads

theorem carries_profileValue (profile : PlayerProfile) (accuracy : ℚ) :
    Carries (profileValue profile accuracy) profile := by
  constructor
  · rfl
  · intro field member
    simp only [PlayerProfile.integerFields, List.mem_cons, List.not_mem_nil, or_false] at member
    rcases member with rfl | rfl | rfl | rfl | rfl | rfl | rfl | rfl | rfl | rfl <;> rfl

theorem serializeProfile_front (profile : PlayerProfile) (rest : List Char) :
    ∃ more, (PlayerProfileService.serializeProfile R profile).toList ++ rest =
      '\x7b' :: (memberText "player_id".toList (quoted profile.playerId.toList) ++ ',' :: '"' :: more) := by
  rw [serializeProfile_toList profile 0]
  exact objectText_front _ _ _ _ rest

/-- A value read off the text of a profile carries it only if the id stands for itself. -/
theorem plain_of_carries {profile : PlayerProfile} {fuel : Nat} {rest rest' : List Char} {value : Json}
    (found : readValue fuel ((PlayerProfileService.serializeProfile R profile).toList ++ rest) = some (value, rest'))
    (carries : Carries value profile) : Plain profile.playerId.toList := by
  obtain ⟨more, front⟩ := serializeProfile_front (R := R) profile rest
  rw [front] at found
  obtain ⟨read, others, rfl, differs⟩ := readValue_firstMember plain_playerId found
  by_contra notPlain
  apply differs notPlain
  have recovered := carries.playerId
  rw [String.ofList_toList] at recovered
  have same := member_first recovered
  rw [Json.string.injEq] at same
  rw [same, String.toList_ofList]

theorem serializeFrom_toList (i : Nat) (profiles : List PlayerProfile) :
    (PlayerProfileService.serializeFrom R (i + 1) profiles).toList =
      (profiles.map fun profile => (PlayerProfileService.serializeProfile R profile).toList).flatMap
        fun text => ',' :: text := by
  induction profiles generalizing i with
  | nil =>
      have nothing : "".toList = [] := by decide
      exact nothing
  | cons profile profiles ih =>
      have comma : ",".toList = [','] := by decide
      rw [PlayerProfileService.serializeFrom, if_pos (Nat.succ_pos i), String.toList_append, String.toList_append, ih,
        comma, List.map_cons, List.flatMap_cons]
      rfl

theorem serializeLeaderboard_toList (profiles : List PlayerProfile) :
    (PlayerProfileService.serializeLeaderboard R profiles).toList =
      arrayText (profiles.map fun profile => (PlayerProfileService.serializeProfile R profile).toList) := by
  have opening : "[".toList = ['['] := by decide
  have closing : "]".toList = [']'] := by decide
  rw [PlayerProfileService.serializeLeaderboard, String.toList_append, String.toList_append, opening,
    closing, arrayText, List.singleton_append, List.cons_append]
  cases profiles with
  | nil =>
      have nothing : "".toList = [] := by decide
      rw [PlayerProfileService.serializeFrom, nothing]
      rfl
  | cons profile profiles =>
      have nothing : "".toList = [] := by decide
      rw [PlayerProfileService.serializeFrom, if_neg (Nat.lt_irrefl 0), String.toList_append, String.toList_append,
        serializeFrom_toList, nothing, List.map_cons, commaText_eq, List.nil_append]

theorem front_of_carries {profile : PlayerProfile} {fuel : Nat} {rest rest' : List Char} {value : Json}
    (found : readValue fuel ((PlayerProfileService.serializeProfile R profile).toList ++ rest) = some (value, rest'))
    (carries : Carries value profile) (delimited : Delimited rest) :
    Plain profile.playerId.toList ∧ rest' = rest := by
  have plain := plain_of_carries found carries
  obtain ⟨accuracy, reads⟩ := reads_serializeProfile (R := R) profile
  have same := readValue_unique found ((reads plain).reads rest delimited)
  cases same
  exact ⟨plain, rfl⟩

/-- The values read off the text of a leaderboard carry its profiles only if all ids stand for themselves. -/
theorem plain_of_carriesAll {rest' : List Char} (profiles : List PlayerProfile) :
    ∀ {profile : PlayerProfile} {fuel : Nat} {elements : List Json},
      readElements fuel (commaText ((profile :: profiles).map fun profile =>
        (PlayerProfileService.serializeProfile R profile).toList) ++ [']']) = some (elements, rest') →
      List.Forall₂ Carries elements (profile :: profiles) →
      ∀ listed ∈ profile :: profiles, Plain listed.playerId.toList := by
  induction profiles with
  | nil =>
      intro profile fuel elements found carried listed member
      obtain ⟨fuel', value, after, others, first, rfl, -⟩ := readElements_first found
      obtain ⟨carries, -⟩ := List.forall₂_cons.mp carried
      rw [List.mem_singleton.mp member]
      exact plain_of_carries first carries
  | cons next profiles ih =>
      intro profile fuel elements found carried
      obtain ⟨fuel', value, after, others, first, rfl, later⟩ := readElements_first found
      obtain ⟨carries, carried⟩ := List.forall₂_cons.mp carried
      rw [List.map_cons, List.map_cons, commaText, List.append_assoc, List.cons_append] at first
      obtain ⟨plain, rest⟩ := front_of_carries first carries (delimited_comma _)
      exact List.forall_mem_cons.mpr ⟨plain, ih (later _ rest) carried⟩

theorem plain_of_profile {profile : PlayerProfile} {json : Json}
    (denotes : Denotes (PlayerProfileService.serializeProfile R profile) json) (carries : Carries json profile) :
    Plain profile.playerId.toList := by
  obtain ⟨fuel, rest, found⟩ := denotes.read
  rw [← List.append_nil (String.toList _)] at found
  exact plain_of_carries found carries

theorem plain_of_leaderboard {profiles : List PlayerProfile} {json : Json}
    (denotes : Denotes (PlayerProfileService.serializeLeaderboard R profiles) json)
    {elements : List Json} (array : json = .array elements) (carried : List.Forall₂ Carries elements profiles) :
    ∀ profile ∈ profiles, Plain profile.playerId.toList := by
  cases profiles with
  | nil =>
      intro profile member
      cases member
  | cons profile profiles =>
      obtain ⟨fuel, rest, found⟩ := denotes.read
      obtain ⟨more, front⟩ := serializeProfile_front (R := R) profile []
      rw [List.append_nil] at front
      rw [serializeLeaderboard_toList, List.map_cons, front] at found
      obtain ⟨fuel', elements', same, inside⟩ := readValue_arrayText (by decide) (by decide) found
      rw [array] at same
      cases same
      rw [← front, ← List.map_cons (f := fun profile => (PlayerProfileService.serializeProfile R profile).toList)]
        at inside
      exact plain_of_carriesAll profiles inside carried

/-! ## The bytes of a profile -/

/-- A profile as it is read by who takes its id for UTF-8. -/
def DecodedAs (profile profile' : PlayerProfile) : Prop :=
  ∃ text, Decodes profile.playerId text ∧ profile' = { profile with playerId := text }

theorem DecodedAs.plain {profile profile' : PlayerProfile} (decodedAs : DecodedAs profile profile') :
    PlainBytes (bytesOf profile.playerId) ↔ Plain profile'.playerId.toList := by
  obtain ⟨text, decodes, rfl⟩ := decodedAs
  exact plainBytes_iff decodes

theorem DecodedAs.recovers {profile profile' : PlayerProfile} (decodedAs : DecodedAs profile profile') (json : Json) :
    Recovers json profile ↔ Carries json profile' := by
  obtain ⟨text, decodes, rfl⟩ := decodedAs
  constructor
  · rintro ⟨⟨text', found, decodes'⟩, integers⟩
    cases decodes.unique decodes'
    exact ⟨found, integers⟩
  · rintro ⟨found, integers⟩
    exact ⟨⟨text, found, decodes⟩, integers⟩

theorem plain_of_forall₂ {profiles profiles' : List PlayerProfile}
    (decodedAs : List.Forall₂ DecodedAs profiles profiles') :
    (∀ profile ∈ profiles, PlainBytes (bytesOf profile.playerId)) ↔
      ∀ profile ∈ profiles', Plain profile.playerId.toList := by
  induction decodedAs with
  | nil => exact iff_of_true (fun _ member => absurd member List.not_mem_nil) fun _ member =>
      absurd member List.not_mem_nil
  | cons first _ ih => rw [List.forall_mem_cons, List.forall_mem_cons, ih, first.plain]

theorem recovers_of_forall₂ {profiles profiles' : List PlayerProfile}
    (decodedAs : List.Forall₂ DecodedAs profiles profiles') (elements : List Json) :
    List.Forall₂ Recovers elements profiles ↔ List.Forall₂ Carries elements profiles' := by
  induction decodedAs generalizing elements with
  | nil => simp
  | cons first _ ih =>
      cases elements with
      | nil => simp
      | cons json elements => rw [List.forall₂_cons, List.forall₂_cons, ih, first.recovers]

theorem exists_decodedAs {profiles : List PlayerProfile}
    (valid : ∀ profile ∈ profiles, ValidUtf8 (bytesOf profile.playerId)) :
    ∃ profiles', List.Forall₂ DecodedAs profiles profiles' := by
  induction profiles with
  | nil => exact ⟨[], .nil⟩
  | cons profile profiles ih =>
      obtain ⟨⟨text, decodes⟩, others⟩ := List.forall_mem_cons.mp valid
      obtain ⟨profiles', decodedAs⟩ := ih others
      exact ⟨_, .cons ⟨text, decodes, rfl⟩ decodedAs⟩

theorem isAscii_of_isDigit {c : Char} (digit : c.isDigit = true) : isAscii c = true := by
  have upper := (Char.isDigit_iff_toNat.mp digit).2
  exact decide_eq_true (Nat.lt_of_le_of_lt upper (by decide))

theorem isAscii_toDigits (n : Nat) : ∀ c ∈ Nat.toDigits 10 n, isAscii c = true :=
  fun _ member => isAscii_of_isDigit (Nat.isDigit_of_mem_toDigits (by decide) (by decide) member)

theorem isAscii_integer (n : Int) : ∀ c ∈ (toString n).toList, isAscii c = true := by
  cases n with
  | ofNat n =>
      have text : (toString (Int.ofNat n)).toList = Nat.toDigits 10 n := Nat.toList_repr
      rw [text]
      exact isAscii_toDigits n
  | negSucc n =>
      have text : (toString (Int.negSucc n)).toList = '-' :: Nat.toDigits 10 (n + 1) := by
        show ("-" ++ (n + 1).repr).toList = _
        rw [String.toList_append, Nat.toList_repr]
        rfl
      rw [text, List.forall_mem_cons]
      exact ⟨by decide, isAscii_toDigits (n + 1)⟩

theorem isAscii_fixedText (precision : Nat) (x : ℚ) : ∀ c ∈ (fixedText precision x).toList, isAscii c = true := by
  obtain ⟨whole, part, text⟩ := fixedText_toList precision x
  have sign : ∀ c ∈ signText (decide (x < 0)), isAscii c = true := by
    refine List.all_eq_true.mp ?_
    cases decide (x < 0) <;> decide
  rw [text, List.forall_mem_append, List.forall_mem_append, List.forall_mem_cons]
  exact ⟨sign, isAscii_toDigits whole, by decide,
    fun c member => isAscii_of_isDigit (isDigit_fractionDigits precision part c member)⟩

theorem isAscii_memberText {name value : List Char} (ascii : ∀ c ∈ name, isAscii c = true)
    (ascii' : ∀ c ∈ value, isAscii c = true) : ∀ c ∈ memberText name value, isAscii c = true := by
  rw [memberText, quoted, List.cons_append, List.forall_mem_cons, List.forall_mem_append, List.forall_mem_append,
    List.forall_mem_singleton, List.forall_mem_cons]
  exact ⟨by decide, ⟨ascii, by decide⟩, by decide, ascii'⟩

/-- What is written before the id. -/
def profileFront : List Char := '\x7b' :: (quoted "player_id".toList ++ [':', '"'])

/-- Around the id everything is ASCII, and the same whatever the id. -/
theorem serializeProfile_around (profile : PlayerProfile) :
    ∃ back, (∀ c ∈ back, isAscii c = true) ∧ ∀ playerId,
      PlayerProfileService.serializeProfile R { profile with playerId } =
        String.ofList profileFront ++ (playerId ++ String.ofList ('"' :: back)) := by
  let others : List (List Char × List Char) :=
    (profile.integerFields.map fun field => (field.1.toList, (toString field.2).toList)) ++
      [("accuracy".toList, (fixedText 4 (DoubleValue.toRat (profile.accuracy R))).toList)]
  have names : ∀ name ∈ ["rating", "matches", "wins", "losses", "kills", "deaths", "shots_fired", "hits_landed",
      "damage_dealt", "damage_taken", "accuracy"], (name.toList.all isAscii) = true := by
    decide
  refine ⟨((others.map fun member => memberText member.1 member.2).flatMap fun next => ',' :: next) ++ ['\x7d'],
    ?_, ?_⟩
  · rw [List.forall_mem_append, List.forall_mem_singleton]
    refine ⟨?_, by decide⟩
    intro c member
    obtain ⟨text, listed, inside⟩ := List.mem_flatMap.mp member
    obtain ⟨pair, present, rfl⟩ := List.mem_map.mp listed
    rcases List.mem_cons.mp inside with rfl | inside
    · decide
    · rcases List.mem_append.mp present with integer | last
      · obtain ⟨field, found, rfl⟩ := List.mem_map.mp integer
        have name := List.mem_map_of_mem (f := Prod.fst) found
        exact isAscii_memberText (List.all_eq_true.mp (names field.1 (List.mem_append_left ["accuracy"] name)))
          (isAscii_integer field.2) c inside
      · cases List.mem_singleton.mp last
        exact isAscii_memberText (List.all_eq_true.mp (names "accuracy" (by decide))) (isAscii_fixedText 4 _) c
          inside
  · intro playerId
    rw [← String.toList_inj, serializeProfile_toList _ 0, String.toList_append, String.toList_append,
      String.toList_ofList, String.toList_ofList, profileMembers, List.cons_append, List.map_cons, objectText,
      List.map_cons, commaText_eq]
    simp only [memberText, quoted, profileFront, List.map_append, List.map_map, List.cons_append, List.append_assoc,
      List.nil_append, others]
    rfl

theorem ascii_ofList {chars : List Char} (ascii : ∀ c ∈ chars, isAscii c = true) : Ascii (String.ofList chars) := by
  rw [Ascii, String.toList_ofList]
  exact ascii

theorem DecodedAs.serializeProfile {profile profile' : PlayerProfile} (decodedAs : DecodedAs profile profile') :
    Decodes (PlayerProfileService.serializeProfile R profile)
      (PlayerProfileService.serializeProfile R profile') := by
  obtain ⟨text, decodes, rfl⟩ := decodedAs
  obtain ⟨back, ascii, around⟩ := serializeProfile_around (R := R) profile
  have front : Ascii (String.ofList profileFront) := ascii_ofList (List.all_eq_true.mp (by decide))
  have behind : Ascii (String.ofList ('"' :: back)) := ascii_ofList (List.forall_mem_cons.mpr ⟨by decide, ascii⟩)
  have whole := around profile.playerId
  rw [around text, whole]
  exact front.decodes.append (decodes.append behind.decodes)

/-- What is read off the front of bytes that begin with a profile. -/
theorem decodedAs_of_decodes {profile : PlayerProfile} {rest text : String}
    (decodes : Decodes (PlayerProfileService.serializeProfile R profile ++ rest) text) :
    ∃ profile' text', DecodedAs profile profile' ∧ Decodes rest text' ∧
      text = PlayerProfileService.serializeProfile R profile' ++ text' := by
  obtain ⟨back, ascii, around⟩ := serializeProfile_around (R := R) profile
  have whole := around profile.playerId
  have apart : String.ofList profileFront ++ (profile.playerId ++ String.ofList ('"' :: back)) ++ rest =
      String.ofList profileFront ++ (profile.playerId ++ (String.ofList ('"' :: back) ++ rest)) := by
    rw [String.append_assoc, String.append_assoc]
  rw [whole, apart] at decodes
  have quote : (String.ofList ('"' :: back) ++ rest).toList = '"' :: (back ++ rest.toList) := by
    rw [String.toList_append, String.toList_ofList]
    rfl
  obtain ⟨inner, rfl, inside⟩ := decodes.of_ascii_append (ascii_ofList (List.all_eq_true.mp (by decide)))
  obtain ⟨playerId, behind, rfl, decodesId, after⟩ := inside.of_append_ascii quote (by decide)
  obtain ⟨text', rfl, decodesRest⟩ :=
    after.of_ascii_append (ascii_ofList (List.forall_mem_cons.mpr ⟨by decide, ascii⟩))
  refine ⟨_, text', ⟨playerId, decodesId, rfl⟩, decodesRest, ?_⟩
  rw [around playerId, String.append_assoc, String.append_assoc]

theorem decodedAs_of_decodes_profile {profile : PlayerProfile} {text : String}
    (decodes : Decodes (PlayerProfileService.serializeProfile R profile) text) :
    ∃ profile', DecodedAs profile profile' ∧ text = PlayerProfileService.serializeProfile R profile' := by
  rw [← String.append_empty (s := PlayerProfileService.serializeProfile R profile)] at decodes
  obtain ⟨profile', text', decodedAs, decodes', rfl⟩ := decodedAs_of_decodes decodes
  have nothing : Ascii "" := by
    intro c member
    simp at member
  rw [decodes'.unique nothing.decodes, String.append_empty]
  exact ⟨profile', decodedAs, rfl⟩

theorem ascii_separator (i : Nat) : Ascii (if i > 0 then "," else "") := by
  have comma : (",".toList.all isAscii) = true := by decide
  have nothing : ("".toList.all isAscii) = true := by decide
  split
  · exact List.all_eq_true.mp comma
  · exact List.all_eq_true.mp nothing

theorem ascii_bracket : Ascii "[" ∧ Ascii "]" := by
  have opening : ("[".toList.all isAscii) = true := by decide
  have closing : ("]".toList.all isAscii) = true := by decide
  exact ⟨List.all_eq_true.mp opening, List.all_eq_true.mp closing⟩

theorem decodes_serializeFrom {profiles profiles' : List PlayerProfile}
    (decodedAs : List.Forall₂ DecodedAs profiles profiles') (i : Nat) :
    Decodes (PlayerProfileService.serializeFrom R i profiles) (PlayerProfileService.serializeFrom R i profiles') := by
  induction decodedAs generalizing i with
  | nil => rfl
  | cons first _ ih => exact ((ascii_separator i).decodes.append first.serializeProfile).append (ih (i + 1))

theorem decodedAs_of_decodes_from (profiles : List PlayerProfile) :
    ∀ {i : Nat} {text : String}, Decodes (PlayerProfileService.serializeFrom R i profiles ++ "]") text →
      ∃ profiles', List.Forall₂ DecodedAs profiles profiles' ∧
        text = PlayerProfileService.serializeFrom R i profiles' ++ "]" := by
  induction profiles with
  | nil =>
      intro i text decodes
      refine ⟨[], .nil, ?_⟩
      rw [PlayerProfileService.serializeFrom, String.empty_append] at decodes ⊢
      exact decodes.unique ascii_bracket.2.decodes
  | cons profile profiles ih =>
      intro i text decodes
      rw [PlayerProfileService.serializeFrom, String.append_assoc, String.append_assoc] at decodes
      obtain ⟨inner, rfl, inside⟩ := decodes.of_ascii_append (ascii_separator i)
      obtain ⟨profile', text', first, after, rfl⟩ := decodedAs_of_decodes inside
      obtain ⟨profiles', others, rfl⟩ := ih after
      refine ⟨profile' :: profiles', .cons first others, ?_⟩
      rw [PlayerProfileService.serializeFrom, String.append_assoc, String.append_assoc]

theorem decodedAs_of_decodes_leaderboard {profiles : List PlayerProfile} {text : String}
    (decodes : Decodes (PlayerProfileService.serializeLeaderboard R profiles) text) :
    ∃ profiles', List.Forall₂ DecodedAs profiles profiles' ∧
      text = PlayerProfileService.serializeLeaderboard R profiles' := by
  rw [PlayerProfileService.serializeLeaderboard, String.append_assoc] at decodes
  obtain ⟨inner, rfl, inside⟩ := decodes.of_ascii_append ascii_bracket.1
  obtain ⟨profiles', decodedAs, rfl⟩ := decodedAs_of_decodes_from profiles inside
  refine ⟨profiles', decodedAs, ?_⟩
  rw [PlayerProfileService.serializeLeaderboard, String.append_assoc]

/-! ## Reading back -/

theorem conveys_profile (profile : PlayerProfile) (plain : PlainBytes (bytesOf profile.playerId)) :
    ∃ json, Conveys (PlayerProfileService.serializeProfile R profile) json ∧ Recovers json profile := by
  obtain ⟨text, decodes⟩ := plain.valid
  have decodedAs : DecodedAs profile { profile with playerId := text } := ⟨text, decodes, rfl⟩
  obtain ⟨accuracy, reads⟩ := reads_serializeProfile (R := R) { profile with playerId := text }
  exact ⟨_, ⟨_, decodedAs.serializeProfile, (reads (decodedAs.plain.mp plain)).denotes⟩,
    (decodedAs.recovers _).mpr (carries_profileValue _ accuracy)⟩

theorem conveys_leaderboard (profiles : List PlayerProfile)
    (plain : ∀ profile ∈ profiles, PlainBytes (bytesOf profile.playerId)) :
    ∃ json, Conveys (PlayerProfileService.serializeLeaderboard R profiles) json ∧ RecoversAll json profiles := by
  obtain ⟨profiles', decodedAs⟩ := exists_decodedAs fun profile listed => (plain profile listed).valid
  have plain' := (plain_of_forall₂ decodedAs).mp plain
  choose accuracy reads using reads_serializeProfile (R := R)
  have whole := reads_arrayOf fun profile listed => reads profile (plain' profile listed)
  rw [← serializeLeaderboard_toList] at whole
  have decodes : Decodes (PlayerProfileService.serializeLeaderboard R profiles)
      (PlayerProfileService.serializeLeaderboard R profiles') :=
    (ascii_bracket.1.decodes.append (decodes_serializeFrom decodedAs 0)).append ascii_bracket.2.decodes
  refine ⟨_, ⟨_, decodes, whole.denotes⟩, _, rfl, (recovers_of_forall₂ decodedAs _).mpr ?_⟩
  rw [List.forall₂_map_left_iff, List.forall₂_same]
  exact fun profile _ => carries_profileValue profile (accuracy profile)

theorem plainBytes_of_profile {profile : PlayerProfile} {json : Json}
    (conveys : Conveys (PlayerProfileService.serializeProfile R profile) json) (recovers : Recovers json profile) :
    PlainBytes (bytesOf profile.playerId) := by
  obtain ⟨text, decodes, denotes⟩ := conveys
  obtain ⟨profile', decodedAs, rfl⟩ := decodedAs_of_decodes_profile decodes
  exact decodedAs.plain.mpr (plain_of_profile denotes ((decodedAs.recovers json).mp recovers))

theorem plainBytes_of_leaderboard {profiles : List PlayerProfile} {json : Json}
    (conveys : Conveys (PlayerProfileService.serializeLeaderboard R profiles) json)
    (recovers : RecoversAll json profiles) : ∀ profile ∈ profiles, PlainBytes (bytesOf profile.playerId) := by
  obtain ⟨text, decodes, denotes⟩ := conveys
  obtain ⟨profiles', decodedAs, rfl⟩ := decodedAs_of_decodes_leaderboard decodes
  obtain ⟨elements, array, recovered⟩ := recovers
  exact (plain_of_forall₂ decodedAs).mpr
    (plain_of_leaderboard denotes array ((recovers_of_forall₂ decodedAs elements).mp recovered))

variable (R) in
/-- The bytes of a profile read back exactly when its id is UTF-8 and may stand between quotes as it is, and
those of a leaderboard exactly when all ids are and may. -/
theorem profileJson_roundTrips_iff :
    (∀ profile, (∃ json, Conveys (PlayerProfileService.serializeProfile R profile) json ∧
      Recovers json profile) ↔ PlainBytes (bytesOf profile.playerId)) ∧
    ∀ profiles, (∃ json, Conveys (PlayerProfileService.serializeLeaderboard R profiles) json ∧
      RecoversAll json profiles) ↔ ∀ profile ∈ profiles, PlainBytes (bytesOf profile.playerId) := by
  refine ⟨?_, ?_⟩
  · intro profile
    exact ⟨fun ⟨json, conveys, recovers⟩ => plainBytes_of_profile conveys recovers, conveys_profile profile⟩
  · intro profiles
    exact ⟨fun ⟨json, conveys, recovers⟩ => plainBytes_of_leaderboard conveys recovers,
      conveys_leaderboard profiles⟩

/-- A profile of a player that has not fought. -/
def freshProfile (playerId : String) : PlayerProfile where
  playerId := playerId
  rating := 1200
  matchesPlayed := 0
  wins := 0
  losses := 0
  kills := 0
  deaths := 0
  shotsFired := 0
  hitsLanded := 0
  damageDealt := 0
  damageTaken := 0

/-- A profile whose id has a quote in it. -/
def quoteProfile : PlayerProfile := freshProfile "a\"b"

/-- A profile whose id is the byte 0xFF, which is not UTF-8. -/
def byteProfile : PlayerProfile := freshProfile "\xff"

/-- Neither the bytes of a profile nor those of the leaderboard of it alone read back. -/
def Lost (profile : PlayerProfile) : Prop :=
  (¬∃ json, Conveys (PlayerProfileService.serializeProfile ℚ profile) json ∧ Recovers json profile) ∧
    ¬∃ json, Conveys (PlayerProfileService.serializeLeaderboard ℚ [profile]) json ∧ RecoversAll json [profile]

theorem lost_of_not_plainBytes {profile : PlayerProfile} (broken : ¬PlainBytes (bytesOf profile.playerId)) :
    Lost profile := by
  refine ⟨?_, ?_⟩
  · rintro ⟨json, conveys, recovers⟩
    exact broken (plainBytes_of_profile conveys recovers)
  · rintro ⟨json, conveys, recovers⟩
    exact broken (plainBytes_of_leaderboard conveys recovers profile List.mem_cons_self)

/-- Any other bytes are the id of a profile that is lost. -/
theorem exists_lost {bytes : List UInt8} (broken : ¬PlainBytes bytes) :
    ∃ profile, bytesOf profile.playerId = bytes ∧ Lost profile := by
  obtain ⟨playerId, rfl⟩ := bytesOf_surjective bytes
  exact ⟨freshProfile playerId, rfl, lost_of_not_plainBytes broken⟩

theorem quoteProfile_lost : Lost quoteProfile ∧ Lost byteProfile :=
  ⟨lost_of_not_plainBytes (by decide +kernel), lost_of_not_plainBytes (by decide +kernel)⟩

end text

end Arena60
