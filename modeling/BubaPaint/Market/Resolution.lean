import BubaPaint.Market.Discovery

/-!
# Market resolution

The outcome of a window is read from the event of its slug, by a parser of its own: it takes the
first entry of the markets array, valid or not, and reads the first two of its prices as those of
the up and the down token. Discovery takes the first valid market and looks the sides up by name.

Main results:

- Definition `parseGammaOutcome`: the parser of outcomes
- Theorem `parseGammaOutcome_eq_up_iff`, `parseGammaOutcome_eq_down_iff`: what it reads
- Theorem `reads_traded_side_of_first`: the layout in which it reads the side that was traded
- Theorem `reads_traded_side_iff`: when it reads the side that was traded
- Theorem `reversed_outcomes_misread`: an event on which it reads the other side
-/

namespace BubaPaint

open Json (Value)

-- The parser of the JSON library, at the type of an array of strings.
variable (fromStr : String → Option (List String))

def outcomePrices (market : Value) : Option (List String) :=
  match market.get? "outcomePrices" with
  | some (.array items) => some (items.filterMap Value.asStr)
  | some (.string text) => fromStr text
  | _ => none

/-- A price this close to zero or one counts as it. -/
def resolvedTolerance : ℚ := 1 / 100

/-- Whether the first of two prices is one and the second is zero. -/
def isWinOver (winner loser : ℚ) : Bool :=
  decide (|winner - 1| < resolvedTolerance) && decide (|loser| < resolvedTolerance)

/-- The outcome that the first two of a list of prices name. -/
def outcomeOfPrices (prices : List String) : Option String :=
  match prices with
  | upText :: downText :: _ => do
      let upPrice ← parseDecimal upText
      let downPrice ← parseDecimal downText
      if isWinOver upPrice downPrice then some "UP"
      else if isWinOver downPrice upPrice then some "DOWN"
      else none
  | _ => none

/-- The market whose prices are read: the first entry of the event, which may be wrapped in an
array. -/
def resolvedMarket (body : Value) : Option Value := do
  let event ←
    match body with
    | .array items => items.head?
    | _ => some body
  let markets ← (← event.get? "markets").asArray
  markets.head?

def parseGammaOutcome (body : Value) : Option String := do
  let market ← resolvedMarket body
  let prices ← outcomePrices fromStr market
  outcomeOfPrices prices

/-! ## What the prices of a market say -/

def priceAt (market : Value) (index : ℕ) : Option ℚ := do
  let prices ← outcomePrices fromStr market
  parseDecimal (← prices[index]?)

/-- The prices of a market say that the token at one index pays one and the token at another pays
nothing. -/
def PaysOver (market : Value) (winner loser : ℕ) : Prop :=
  ∃ won lost, priceAt fromStr market winner = some won ∧
    priceAt fromStr market loser = some lost ∧ isWinOver won lost = true

/-- The prices of a market decide between the outcomes at two indices. -/
def Decides (market : Value) (i j : ℕ) : Prop :=
  PaysOver fromStr market i j ∨ PaysOver fromStr market j i

variable {fromStr}

theorem isWinOver_eq_true_iff {winner loser : ℚ} :
    isWinOver winner loser = true ↔
      |winner - 1| < resolvedTolerance ∧ |loser| < resolvedTolerance := by
  simp [isWinOver]

theorem isWinOver_swap_eq_false {p q : ℚ} (h : isWinOver p q = true) : isWinOver q p = false := by
  by_contra hswap
  rw [Bool.not_eq_false] at hswap
  have hone : |p - 1| < 1 / 100 := (isWinOver_eq_true_iff.mp h).1
  have hzero : |p| < 1 / 100 := (isWinOver_eq_true_iff.mp hswap).2
  have hlow := (abs_lt.mp hone).1
  have hhigh := (abs_lt.mp hzero).2
  linarith

theorem PaysOver.not_swap {market : Value} {i j : ℕ} (h : PaysOver fromStr market i j) :
    ¬ PaysOver fromStr market j i := by
  intro hswap
  obtain ⟨won, lost, hwon, hlost, hwin⟩ := h
  obtain ⟨won', lost', hwon', hlost', hwin'⟩ := hswap
  have hfirst : lost = won' := by simpa [hlost] using hwon'
  have hsecond : won = lost' := by simpa [hwon] using hlost'
  subst hfirst hsecond
  rw [isWinOver_swap_eq_false hwin] at hwin'
  contradiction

variable (body market : Value)

theorem outcomePrices_bind_outcomeOfPrices :
    (outcomePrices fromStr market).bind outcomeOfPrices =
      (priceAt fromStr market 0).bind fun upPrice =>
        (priceAt fromStr market 1).bind fun downPrice =>
        if isWinOver upPrice downPrice then some "UP"
        else if isWinOver downPrice upPrice then some "DOWN" else none := by
  unfold priceAt
  rcases outcomePrices fromStr market with _ | ⟨_ | ⟨upText, _ | ⟨downText, rest⟩⟩⟩
  · rfl
  · rfl
  · cases hup : parseDecimal upText <;> simp [hup, outcomeOfPrices]
  · simp [outcomeOfPrices]

theorem parseGammaOutcome_eq :
    parseGammaOutcome fromStr body = (resolvedMarket body).bind fun first =>
      (priceAt fromStr first 0).bind fun upPrice =>
        (priceAt fromStr first 1).bind fun downPrice =>
        if isWinOver upPrice downPrice then some "UP"
        else if isWinOver downPrice upPrice then some "DOWN" else none := by
  have hread : parseGammaOutcome fromStr body =
      (resolvedMarket body).bind fun first =>
        (outcomePrices fromStr first).bind outcomeOfPrices := rfl
  rw [hread]
  simp only [outcomePrices_bind_outcomeOfPrices]

/-- What is read from a body, by the side that the first entry pays. -/
theorem parseGammaOutcome_cases :
    (∃ first, resolvedMarket body = some first ∧ PaysOver fromStr first 0 1 ∧
      parseGammaOutcome fromStr body = some "UP") ∨
    (∃ first, resolvedMarket body = some first ∧ PaysOver fromStr first 1 0 ∧
      parseGammaOutcome fromStr body = some "DOWN") ∨
    (∀ first, resolvedMarket body = some first → ¬ Decides fromStr first 0 1) ∧
      parseGammaOutcome fromStr body = none := by
  rw [parseGammaOutcome_eq]
  cases resolvedMarket body with
  | none => simp
  | some first =>
    simp only [Option.some.injEq, exists_eq_left', forall_eq', Option.bind_some, Decides, PaysOver]
    cases hup : priceAt fromStr first 0 with
    | none => simp
    | some upPrice =>
      cases hdown : priceAt fromStr first 1 with
      | none => simp
      | some downPrice =>
        by_cases hwin : isWinOver upPrice downPrice = true
        · simp [hwin]
        · by_cases hlose : isWinOver downPrice upPrice = true
          · simp [hwin, hlose]
          · simp [hwin, hlose]

/-- UP is read exactly when the first price of the first entry wins over the second. -/
theorem parseGammaOutcome_eq_up_iff :
    parseGammaOutcome fromStr body = some "UP" ↔ ∃ first, resolvedMarket body = some first ∧
      PaysOver fromStr first 0 1 := by
  rcases @parseGammaOutcome_cases fromStr body with ⟨first, hfirst, hpays, hread⟩ |
    ⟨first, hfirst, hpays, hread⟩ | ⟨hopen, hread⟩
  · simp [hread, hfirst, hpays]
  · simp [hread, hfirst, hpays.not_swap]
  · simpa [hread] using fun first hfirst hpays => hopen first hfirst (.inl hpays)

/-- DOWN is read exactly when the second price of the first entry wins over the first. -/
theorem parseGammaOutcome_eq_down_iff :
    parseGammaOutcome fromStr body = some "DOWN" ↔ ∃ first, resolvedMarket body = some first ∧
      PaysOver fromStr first 1 0 := by
  rcases @parseGammaOutcome_cases fromStr body with ⟨first, hfirst, hpays, hread⟩ |
    ⟨first, hfirst, hpays, hread⟩ | ⟨hopen, hread⟩
  · simp [hread, hfirst, hpays.not_swap]
  · simp [hread, hfirst, hpays]
  · simpa [hread] using fun first hfirst hpays => hopen first hfirst (.inr hpays)

theorem parseGammaOutcome_eq_none_iff :
    parseGammaOutcome fromStr body = none ↔
      ∀ first, resolvedMarket body = some first → ¬ Decides fromStr first 0 1 := by
  rcases @parseGammaOutcome_cases fromStr body with ⟨first, hfirst, hpays, hread⟩ |
    ⟨first, hfirst, hpays, hread⟩ | ⟨hopen, hread⟩
  · simp [hread, hfirst, Decides, hpays]
  · simp [hread, hfirst, Decides, hpays]
  · exact iff_of_true hread hopen

variable (fromStr) in
/-- The outcome read from a body is that of the tokens of a market at two indices. -/
structure ReadsTradedSide (body market : Value) (upIdx downIdx : ℕ) : Prop where
  up : PaysOver fromStr market upIdx downIdx → parseGammaOutcome fromStr body = some "UP"
  down : PaysOver fromStr market downIdx upIdx → parseGammaOutcome fromStr body = some "DOWN"
  neither : ¬ Decides fromStr market upIdx downIdx → parseGammaOutcome fromStr body = none

variable (fromStr) in
/-- The first two prices of the first entry say the same as the prices of a market at two indices:
both leave it open, or both pay the same side. -/
def PricesAgree (body market : Value) (upIdx downIdx : ℕ) : Prop :=
  (¬ Decides fromStr market upIdx downIdx ∧
    ∀ first, resolvedMarket body = some first → ¬ Decides fromStr first 0 1) ∨
  (PaysOver fromStr market upIdx downIdx ∧
    ∃ first, resolvedMarket body = some first ∧ PaysOver fromStr first 0 1) ∨
  (PaysOver fromStr market downIdx upIdx ∧
    ∃ first, resolvedMarket body = some first ∧ PaysOver fromStr first 1 0)

theorem readsTradedSide_iff_pricesAgree (upIdx downIdx : ℕ) :
    ReadsTradedSide fromStr body market upIdx downIdx ↔
      PricesAgree fromStr body market upIdx downIdx := by
  unfold PricesAgree
  rw [← parseGammaOutcome_eq_up_iff, ← parseGammaOutcome_eq_down_iff,
    ← parseGammaOutcome_eq_none_iff]
  constructor
  · intro hreads
    by_cases hup : PaysOver fromStr market upIdx downIdx
    · exact Or.inr (Or.inl ⟨hup, hreads.up hup⟩)
    · by_cases hdown : PaysOver fromStr market downIdx upIdx
      · exact Or.inr (Or.inr ⟨hdown, hreads.down hdown⟩)
      · have hopen : ¬ Decides fromStr market upIdx downIdx := by
          intro hdecides
          exact hdecides.elim hup hdown
        exact Or.inl ⟨hopen, hreads.neither hopen⟩
  · rintro (⟨hopen, hread⟩ | ⟨hup, hread⟩ | ⟨hdown, hread⟩)
    · exact ⟨fun hup => absurd (Or.inl hup) hopen, fun hdown => absurd (Or.inr hdown) hopen,
        fun _ => hread⟩
    · exact ⟨fun _ => hread, fun hdown => absurd hdown hup.not_swap,
        fun hopen => absurd (Or.inl hup) hopen⟩
    · exact ⟨fun hup => absurd hup hdown.not_swap, fun _ => hread,
        fun hopen => absurd (Or.inr hdown) hopen⟩

theorem pricesAgree_of_first {body market : Value} (h : resolvedMarket body = some market) :
    PricesAgree fromStr body market 0 1 := by
  unfold PricesAgree
  simp only [h, Option.some.injEq, exists_eq_left', forall_eq']
  by_cases hup : PaysOver fromStr market 0 1
  · exact Or.inr (Or.inl ⟨hup, hup⟩)
  · by_cases hdown : PaysOver fromStr market 1 0
    · exact Or.inr (Or.inr ⟨hdown, hdown⟩)
    · have hopen : ¬ Decides fromStr market 0 1 := fun hdecides => hdecides.elim hup hdown
      exact Or.inl ⟨hopen, hopen⟩

/-- A window that comes from the first entry of its event, with its up token first and its down
token second, is read as the side that was traded. -/
theorem reads_traded_side_of_first (h : resolvedMarket body = some market) :
    ReadsTradedSide fromStr body market 0 1 :=
  (readsTradedSide_iff_pricesAgree body market 0 1).mpr (pricesAgree_of_first h)

/-! ## The reading of a window -/

/-- The outcome read for a window is that of the tokens it trades exactly when the window comes from
the first entry with its up token first and its down token second, or the prices of that entry
happen to say the same as those of the market behind the window. -/
theorem reads_traded_side_iff {parseFromRfc3339 : String → Option ℤ} {body : Value}
    {window : DiscoveredWindow}
    (h : parseGammaEventResponse fromStr parseFromRfc3339 body = some window) :
    (∀ market upIdx downIdx, TakenFrom fromStr parseFromRfc3339 body window market upIdx downIdx →
      ReadsTradedSide fromStr body market upIdx downIdx) ↔
    ∃ market upIdx downIdx, TakenFrom fromStr parseFromRfc3339 body window market upIdx downIdx ∧
      ((resolvedMarket body = some market ∧ upIdx = 0 ∧ downIdx = 1) ∨
        PricesAgree fromStr body market upIdx downIdx) := by
  constructor
  · intro hreads
    obtain ⟨market, upIdx, downIdx, htaken⟩ := exists_takenFrom h
    have hagree := (readsTradedSide_iff_pricesAgree _ _ _ _).mp (hreads _ _ _ htaken)
    exact ⟨market, upIdx, downIdx, htaken, Or.inr hagree⟩
  · intro hcondition market upIdx downIdx htaken
    obtain ⟨market', upIdx', downIdx', htaken', hagree⟩ := hcondition
    obtain ⟨rfl, rfl, rfl⟩ := htaken.unique htaken'
    rcases hagree with ⟨hfirst, rfl, rfl⟩ | hagree
    · exact reads_traded_side_of_first body market hfirst
    · exact (readsTradedSide_iff_pricesAgree _ _ _ _).mpr hagree

/-- A JSON parser on the texts of the sample markets. -/
def sampleFromStr : String → Option (List String)
  | "[\"tok-up\",\"tok-down\"]" => some ["tok-up", "tok-down"]
  | "[\"tok-down\",\"tok-up\"]" => some ["tok-down", "tok-up"]
  | "[\"1\",\"0\"]" => some ["1", "0"]
  | "[\"0\",\"1\"]" => some ["0", "1"]
  | _ => none

def sampleGammaMarket (outcomes : List String) (tokens prices : String) : Value :=
  .object [ ("id", .string "mkt-1"), ("outcomes", .array (outcomes.map Value.string)),
    ("clobTokenIds", .string tokens),
    ("outcomePrices", .string prices)]

/-- A market in the usual layout, which pays the token of the rising side. -/
def usualMarket : Value :=
  sampleGammaMarket ["Up", "Down"] "[\"tok-up\",\"tok-down\"]" "[\"1\",\"0\"]"

/-- A market that lists its outcomes the other way round, and pays the token of the rising side. -/
def reversedMarket : Value :=
  sampleGammaMarket ["Down", "Up"] "[\"tok-down\",\"tok-up\"]" "[\"0\",\"1\"]"

def sampleGammaEvent (market : Value) : Value :=
  .object [("slug", .string "btc-updown-5m-1704067200"), ("markets", .array [market])]

theorem exists_takenFrom_sampleGammaEvent {market : Value} {upIdx downIdx : ℕ}
    (hparses : (parseGammaMarketCandidate sampleFromStr (fun _ => none) (sampleGammaEvent market)
      market).isSome = true)
    (hindices : gammaOutcomeIndices (parseStringOrArray sampleFromStr (market.get? "outcomes")) =
      (upIdx, downIdx)) :
    ∃ window, TakenFrom sampleFromStr (fun _ => none) (sampleGammaEvent market) window market upIdx
      downIdx := by
  obtain ⟨window, hparsed⟩ := Option.isSome_iff_exists.mp hparses
  have hcandidates : gammaMarketCandidates (sampleGammaEvent market) = [market] := rfl
  have hmarkets : (sampleGammaEvent market).get? "markets" = some (.array [market]) := rfl
  refine ⟨window, ?_, ?_, hparsed, hindices⟩
  · simp [parseGammaEventResponse, hmarkets, hcandidates, hparsed]
  · simp [hcandidates, hparses]

/-- With the outcomes listed the other way round, the token that pays is traded as UP and the window
is settled as DOWN. -/
theorem reversed_outcomes_misread :
    ∃ window,
      TakenFrom sampleFromStr (fun _ => none) (sampleGammaEvent reversedMarket) window
        reversedMarket 1 0 ∧
      window.upTokenId = "tok-up" ∧ PaysOver sampleFromStr reversedMarket 1 0 ∧
      parseGammaOutcome sampleFromStr (sampleGammaEvent reversedMarket) = some "DOWN" ∧
      ¬ ReadsTradedSide sampleFromStr (sampleGammaEvent reversedMarket) reversedMarket 1 0 := by
  have hread : parseGammaOutcome sampleFromStr (sampleGammaEvent reversedMarket) = some "DOWN" := by
    decide +kernel
  have hpays : PaysOver sampleFromStr reversedMarket 1 0 :=
    ⟨1, 0, by decide +kernel, by decide +kernel, by decide +kernel⟩
  have hparses : (parseGammaMarketCandidate sampleFromStr (fun _ => none)
      (sampleGammaEvent reversedMarket) reversedMarket).isSome = true := by decide +kernel
  have hindices : gammaOutcomeIndices (parseStringOrArray sampleFromStr
      (reversedMarket.get? "outcomes")) = (1, 0) := by decide +kernel
  obtain ⟨window, htaken⟩ := exists_takenFrom_sampleGammaEvent hparses hindices
  have htokens : parseStringOrArray sampleFromStr (reversedMarket.get? "clobTokenIds") =
      ["tok-down", "tok-up"] := by decide +kernel
  have htoken : window.upTokenId = "tok-up" := by
    have hup := htaken.tokens.1
    rw [htokens] at hup
    simpa using hup.symm
  refine ⟨window, htaken, htoken, hpays, hread, ?_⟩
  intro hreads
  have hup := hreads.up hpays
  rw [hread] at hup
  simp at hup

/-- On an event in the usual layout the outcome read is that of the tokens traded. -/
theorem reads_traded_side_iff_sample :
    ∃ window,
      TakenFrom sampleFromStr (fun _ => none) (sampleGammaEvent usualMarket) window usualMarket
        0 1 ∧ ReadsTradedSide sampleFromStr (sampleGammaEvent usualMarket) usualMarket 0 1 := by
  have hparses : (parseGammaMarketCandidate sampleFromStr (fun _ => none)
      (sampleGammaEvent usualMarket) usualMarket).isSome = true := by decide +kernel
  have hindices : gammaOutcomeIndices (parseStringOrArray sampleFromStr
      (usualMarket.get? "outcomes")) = (0, 1) := by decide +kernel
  obtain ⟨window, htaken⟩ := exists_takenFrom_sampleGammaEvent hparses hindices
  have hcondition := (reads_traded_side_iff htaken.returned).mpr
    ⟨_, 0, 1, htaken, Or.inl ⟨rfl, rfl, rfl⟩⟩
  exact ⟨window, htaken, hcondition _ 0 1 htaken⟩

end BubaPaint
