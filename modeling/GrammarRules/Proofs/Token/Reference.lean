import GrammarRules.Proofs.Text.Spelling
import GrammarRules.Token.Reference

/-!
# Which matches are accepted

A match is accepted if its number is one that `Attributes.Names` describes, the token it quotes is
complete (`MatchPlace.Admits`), and the two attributes with a choice of names are missing or hold
one of the names (`Attributes.Chooses`).  Otherwise the fault is the first of five, `MatchFault`.
One of the two is always the case (`exists_reading_or_fault`), and `resolveMatch` answers
accordingly (`resolveMatch_of_reading`, `resolveMatch_of_fault`), so neither leaves out a case
(`resolveMatch_eq_iff`).
-/

namespace GrammarRules

/-! ## What an author may write -/

/-- The name of a case conversion, in small letters. -/
def CaseConversion.spelling : CaseConversion → String
  | .keep => "none"
  | .startLower => "startlower"
  | .startUpper => "startupper"
  | .allLower => "alllower"
  | .allUpper => "allupper"

/-- The name of a choice of skipped tokens, in small letters. -/
def SkippedTokens.spelling : SkippedTokens → String
  | .omitted => "none"
  | .following => "following"
  | .all => "all"

theorem CaseConversion.ofName?_eq_some_iff {name : String} {conversion : CaseConversion} :
    CaseConversion.ofName? name = some conversion ↔
      Text.SameUpToCase name conversion.spelling := by
  have hsmall : Text.lowerAscii conversion.spelling = conversion.spelling := by
    cases conversion <;> rfl
  rw [Text.sameUpToCase_iff, hsmall, ofName?]
  constructor
  · intro h
    split at h <;> cases h <;> assumption
  · intro h
    rw [h]
    cases conversion <;> rfl

theorem SkippedTokens.ofName?_eq_some_iff {name : String} {skipped : SkippedTokens} :
    SkippedTokens.ofName? name = some skipped ↔ Text.SameUpToCase name skipped.spelling := by
  have hsmall : Text.lowerAscii skipped.spelling = skipped.spelling := by
    cases skipped <;> rfl
  rw [Text.sameUpToCase_iff, hsmall, ofName?]
  constructor
  · intro h
    split at h <;> cases h <;> assumption
  · intro h
    rw [h]
    cases skipped <;> rfl

namespace Attributes

/-- Between blanks the attribute `no` holds an unsigned number, which is `n`, and `n` is at least
one and at most the greatest number of 32 bits. -/
def Names (attributes : Attributes) (n : Nat) : Prop :=
  ∃ value, attributes.find? "no" = some value ∧ Text.Unsigned (Text.trim value).toList n ∧
    1 ≤ n ∧ n ≤ 4294967295

/-- The attribute is missing and `result` is what that means, or it holds the name of `result`. -/
def Chooses {α : Type} (attributes : Attributes) (name : String) (spelling : α → String)
    (missing result : α) : Prop :=
  (attributes.find? name = none ∧ result = missing) ∨
    ∃ value, attributes.find? name = some value ∧ Text.SameUpToCase value (spelling result)

/-- The attribute holds `value`, which is none of the names. -/
def Misspells {α : Type} (attributes : Attributes) (name : String) (spelling : α → String)
    (value : String) : Prop :=
  attributes.find? name = some value ∧ ∀ result, ¬ Text.SameUpToCase value (spelling result)

end Attributes

/-- Whether token number `n` may be quoted: in a token it has to be complete. -/
def MatchPlace.Admits (place : MatchPlace) (n : Nat) : Prop :=
  match place with
  | .message _ => True
  | .token completed => n ≤ completed

/-- The quotation of token number `n`, with all else that the attributes say. -/
def matchOf (attributes : Attributes) (place : MatchPlace) (n : Nat)
    (conversion : CaseConversion) (skipped : SkippedTokens) : Match where
  tokenRef := some n
  posTag := attributes.find? "postag"
  posReplace := attributes.find? "postag_replace"
  posRegexp := attributes.isYes "postag_regexp"
  regexMatch := attributes.find? "regexp_match"
  regexReplace := attributes.find? "regexp_replace"
  caseConversion := conversion
  includeSkipped := skipped
  setPos := attributes.isYes "setpos"
  messageOnly := place != .message true

/-- The attributes hold the choice of a case conversion. -/
abbrev Attributes.Converts (attributes : Attributes) (conversion : CaseConversion) : Prop :=
  attributes.Chooses "case_conversion" CaseConversion.spelling .keep conversion

/-- The attributes hold the choice of skipped tokens. -/
abbrev Attributes.Skips (attributes : Attributes) (skipped : SkippedTokens) : Prop :=
  attributes.Chooses "include_skipped" SkippedTokens.spelling .omitted skipped

/-- What a match with the given attributes amounts to at the given place, if nothing is wrong. -/
inductive MatchReading (attributes : Attributes) (place : MatchPlace) : Match → Prop where
  | intro {n : Nat} {conversion : CaseConversion} {skipped : SkippedTokens}
      (names : attributes.Names n) (admits : place.Admits n)
      (converts : attributes.Converts conversion) (skips : attributes.Skips skipped) :
      MatchReading attributes place (matchOf attributes place n conversion skipped)

/-- The first thing that is wrong with a match with the given attributes at the given place. -/
inductive MatchFault (attributes : Attributes) (place : MatchPlace) : Cause → Prop where
  | empty (h : ∀ value, attributes.find? "no" = some value → Text.isAllBlank value = true) :
      MatchFault attributes place .emptyReference
  | invalid {value : String} (hvalue : attributes.find? "no" = some value)
      (hblank : Text.isAllBlank value = false) (h : ∀ n, ¬ attributes.Names n) :
      MatchFault attributes place (.invalidReference (Text.trim value))
  | forward {n completed : Nat} (names : attributes.Names n) (hplace : place = .token completed)
      (h : completed < n) : MatchFault attributes place (.forwardReference n completed)
  | conversion {n : Nat} {value : String} (names : attributes.Names n) (admits : place.Admits n)
      (h : attributes.Misspells "case_conversion" CaseConversion.spelling value) :
      MatchFault attributes place (.invalidAttribute "match" "case_conversion" value)
  | skipped {n : Nat} {conversion : CaseConversion} {value : String} (names : attributes.Names n)
      (admits : place.Admits n) (converts : attributes.Converts conversion)
      (h : attributes.Misspells "include_skipped" SkippedTokens.spelling value) :
      MatchFault attributes place (.invalidAttribute "match" "include_skipped" value)

/-! ## The checks one by one -/

section Checks

variable {attributes : Attributes} {place : MatchPlace} {position : Position} {n : Nat}

theorem referenceNumber_of_empty
    (h : ∀ value, attributes.find? "no" = some value → Text.isAllBlank value = true) :
    referenceNumber attributes position = .error ⟨.emptyReference, position⟩ := by
  unfold referenceNumber
  cases hfind : attributes.find? "no" with
  | none => rfl
  | some value =>
    have hempty : Text.trim value = "" := (Text.trim_eq_empty_iff value).2 (h value hfind)
    rw [Option.map_some, hempty]
    rfl

theorem referenceNumber_of_not_blank {value : String}
    (hvalue : attributes.find? "no" = some value) (hblank : Text.isAllBlank value = false) :
    referenceNumber attributes position =
      match Text.int64? (Text.trim value).toList with
      | some n =>
        if 1 ≤ n ∧ n ≤ Text.natMax32 then .ok n.toNat
        else .error ⟨.invalidReference (Text.trim value), position⟩
      | none => .error ⟨.invalidReference (Text.trim value), position⟩ := by
  have hne : (Text.trim value == "") = false := by
    rw [beq_eq_false_iff_ne, Ne, Text.trim_eq_empty_iff, hblank]
    decide
  unfold referenceNumber
  rw [hvalue, Option.map_some]
  dsimp only
  rw [hne]
  rfl

/-- The number is what the digits denote: nothing is cut off, and nothing wraps around. -/
theorem referenceNumber_of_names (h : attributes.Names n) :
    referenceNumber attributes position = .ok n := by
  obtain ⟨value, hvalue, hunsigned, hlow, hhigh⟩ := h
  have hblank : Text.isAllBlank value = false := by
    rw [← Bool.not_eq_true, ← Text.trim_eq_empty_iff, ← String.toList_eq_nil_iff]
    exact hunsigned.ne_nil
  have hread : Text.int64? (Text.trim value).toList = some (n : Int) :=
    (Text.int64?_eq_some_natCast_iff hlow (by omega)).2 hunsigned
  have hbounds : 1 ≤ (n : Int) ∧ (n : Int) ≤ (Text.natMax32 : Int) := by
    unfold Text.natMax32
    omega
  rw [referenceNumber_of_not_blank hvalue hblank, hread]
  dsimp only
  rw [if_pos hbounds, Int.toNat_natCast]

theorem referenceNumber_of_invalid {value : String} (hvalue : attributes.find? "no" = some value)
    (hblank : Text.isAllBlank value = false) (h : ∀ n, ¬ attributes.Names n) :
    referenceNumber attributes position =
      .error ⟨.invalidReference (Text.trim value), position⟩ := by
  rw [referenceNumber_of_not_blank hvalue hblank]
  cases hread : Text.int64? (Text.trim value).toList with
  | none => rfl
  | some k =>
    dsimp only
    apply if_neg
    -- a number within the bounds would be one that is named
    rintro ⟨hlow, hhigh⟩
    unfold Text.natMax32 at hhigh
    obtain ⟨m, rfl⟩ := Int.eq_ofNat_of_zero_le (show 0 ≤ k by omega)
    have hunsigned := (Text.int64?_eq_some_natCast_iff (by omega) (by omega)).1 hread
    exact h m ⟨value, hvalue, hunsigned, by omega, by omega⟩

theorem check_of_admits (h : place.Admits n) : place.check n position = .ok () := by
  cases place with
  | message inSuggestion => rfl
  | token completed => exact if_neg (Nat.not_lt.2 h)

theorem check_of_lt {completed : Nat} (h : completed < n) :
    (MatchPlace.token completed).check n position =
      .error ⟨.forwardReference n completed, position⟩ := if_pos h

variable {α : Type} {ofName? : String → Option α} {spelling : α → String}

theorem choice_of_chooses
    (hname : ∀ {name x}, ofName? name = some x ↔ Text.SameUpToCase name (spelling x))
    {name : String} {missing result : α} (h : attributes.Chooses name spelling missing result) :
    choice attributes name missing ofName? position = .ok result := by
  unfold choice
  rcases h with ⟨hnone, rfl⟩ | ⟨value, hvalue, hsame⟩
  · rw [hnone]
  · rw [hvalue]
    dsimp only
    rw [hname.2 hsame]

theorem choice_of_misspells
    (hname : ∀ {name x}, ofName? name = some x ↔ Text.SameUpToCase name (spelling x))
    {name value : String} (missing : α) (h : attributes.Misspells name spelling value) :
    choice attributes name missing ofName? position =
      .error ⟨.invalidAttribute "match" name value, position⟩ := by
  have hnone : ofName? value = none := by
    rw [Option.eq_none_iff_forall_ne_some]
    intro result hresult
    exact h.2 result (hname.1 hresult)
  unfold choice
  rw [h.1]
  dsimp only
  rw [hnone]
  rfl

/-- An attribute with a choice of names is in order or is not. -/
theorem chooses_or_misspells (attributes : Attributes) (name : String) (spelling : α → String)
    (missing : α) : (∃ result, attributes.Chooses name spelling missing result) ∨
      ∃ value, attributes.Misspells name spelling value := by
  cases hfind : attributes.find? name with
  | none => exact .inl ⟨missing, .inl ⟨hfind, rfl⟩⟩
  | some value =>
    by_cases hresult : ∃ result, Text.SameUpToCase value (spelling result)
    · obtain ⟨result, hsame⟩ := hresult
      exact .inl ⟨result, .inr ⟨value, hfind, hsame⟩⟩
    · exact .inr ⟨value, hfind, not_exists.1 hresult⟩

end Checks

/-! ## The whole match -/

section Whole

variable {attributes : Attributes} {place : MatchPlace} {position : Position}

theorem resolveMatch_of_reading {reference : Match}
    (h : MatchReading attributes place reference) :
    resolveMatch attributes place position = .ok reference := by
  cases h with
  | intro names admits converts skips =>
    unfold resolveMatch
    rw [referenceNumber_of_names names]
    dsimp only [bind, Except.bind]
    rw [check_of_admits admits, choice_of_chooses CaseConversion.ofName?_eq_some_iff converts,
      choice_of_chooses SkippedTokens.ofName?_eq_some_iff skips]
    rfl

theorem resolveMatch_of_fault {cause : Cause} (h : MatchFault attributes place cause) :
    resolveMatch attributes place position = .error ⟨cause, position⟩ := by
  unfold resolveMatch
  cases h with
  | empty h =>
    rw [referenceNumber_of_empty h]
    rfl
  | invalid hvalue hblank h =>
    rw [referenceNumber_of_invalid hvalue hblank h]
    rfl
  | forward names hplace h =>
    rw [referenceNumber_of_names names, hplace]
    dsimp only [bind, Except.bind]
    rw [check_of_lt h]
  | conversion names admits h =>
    rw [referenceNumber_of_names names]
    dsimp only [bind, Except.bind]
    rw [check_of_admits admits, choice_of_misspells CaseConversion.ofName?_eq_some_iff _ h]
  | skipped names admits converts h =>
    rw [referenceNumber_of_names names]
    dsimp only [bind, Except.bind]
    rw [check_of_admits admits, choice_of_chooses CaseConversion.ofName?_eq_some_iff converts]
    dsimp only
    rw [choice_of_misspells SkippedTokens.ofName?_eq_some_iff _ h]

/-- A match is in order or has a fault. -/
theorem exists_reading_or_fault (attributes : Attributes) (place : MatchPlace) :
    (∃ reference, MatchReading attributes place reference) ∨
      ∃ cause, MatchFault attributes place cause := by
  by_cases hempty : ∀ value, attributes.find? "no" = some value → Text.isAllBlank value = true
  · exact .inr ⟨_, .empty hempty⟩
  by_cases hnames : ∃ n, attributes.Names n
  case neg =>
    obtain ⟨value, hvalue, hblank⟩ : ∃ value, attributes.find? "no" = some value ∧
        Text.isAllBlank value = false := by
      by_contra hall
      refine hempty fun value hvalue => ?_
      by_contra hblank
      exact hall ⟨value, hvalue, (Bool.not_eq_true _).mp hblank⟩
    exact .inr ⟨_, .invalid hvalue hblank (not_exists.1 hnames)⟩
  obtain ⟨n, names⟩ := hnames
  by_cases admits : place.Admits n
  case neg =>
    cases place with
    | message inSuggestion => exact absurd trivial admits
    | token completed => exact .inr ⟨_, .forward names rfl (Nat.lt_of_not_le admits)⟩
  rcases chooses_or_misspells attributes "case_conversion" CaseConversion.spelling .keep with
    ⟨conversion, converts⟩ | ⟨value, hvalue⟩
  case inr => exact .inr ⟨_, .conversion names admits hvalue⟩
  rcases chooses_or_misspells attributes "include_skipped" SkippedTokens.spelling .omitted with
    ⟨skipped, skips⟩ | ⟨value, hvalue⟩
  · exact .inl ⟨_, .intro names admits converts skips⟩
  · exact .inr ⟨_, .skipped names admits converts hvalue⟩

/-- A match is accepted if its number is written as an unsigned number from one on that fits 32
bits, the token with this number may be quoted, and the case conversion and the choice of skipped
tokens are missing or names of one, and then it quotes the token with this number.  Otherwise the
error is about the first of these that is not so. -/
theorem resolveMatch_eq_iff (attributes : Attributes) (place : MatchPlace) (position : Position) :
    (∀ reference, resolveMatch attributes place position = .ok reference ↔
      ∃ n conversion skipped, attributes.Names n ∧ place.Admits n ∧
        attributes.Converts conversion ∧ attributes.Skips skipped ∧
        reference = matchOf attributes place n conversion skipped) ∧
    ∀ error, resolveMatch attributes place position = .error error ↔
      error.position = position ∧ MatchFault attributes place error.cause := by
  have hcases := exists_reading_or_fault attributes place
  constructor
  · intro reference
    constructor
    · intro h
      rcases hcases with ⟨other, hreading⟩ | ⟨cause, hfault⟩
      · rw [resolveMatch_of_reading hreading] at h
        cases h
        cases hreading with
        | intro names admits converts skips =>
          exact ⟨_, _, _, names, admits, converts, skips, rfl⟩
      · rw [resolveMatch_of_fault hfault] at h
        cases h
    · rintro ⟨n, conversion, skipped, names, admits, converts, skips, rfl⟩
      exact resolveMatch_of_reading (.intro names admits converts skips)
  · intro error
    constructor
    · intro h
      rcases hcases with ⟨reference, hreading⟩ | ⟨cause, hfault⟩
      · rw [resolveMatch_of_reading hreading] at h
        cases h
      · rw [resolveMatch_of_fault hfault] at h
        cases h
        exact ⟨rfl, hfault⟩
    · rintro ⟨rfl, hfault⟩
      exact resolveMatch_of_fault hfault

/-- One more than the greatest number of 32 bits is refused and does not become zero. -/
example : resolveMatch ⟨[("no", " +04294967296 ")]⟩ (.message true) .unknown =
    .error ⟨.invalidReference "+04294967296", .unknown⟩ := by decide

end Whole

end GrammarRules
