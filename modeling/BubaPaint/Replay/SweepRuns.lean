import BubaPaint.Replay.SweepSpec

/-!
# Sweep runs

A sweep replays the market data once for every combination of its values. The combination is
written into a copy of the base configuration by parameter name, and the fixed overrides after it.
The replay is a parameter here, a function of the configuration, and so is whether it fails.

Main results:

- Theorem `sweep_truthful_iff`: when the rows of a sweep are truthful.
-/

namespace BubaPaint

open Effects List

/-! ## Parameters -/

/-- How a parameter stores a number. -/
inductive ParamKind where
  | float
  | optional
  | u64
  | u32
  | usize
  | i32
  | flag
  deriving DecidableEq

/-- What the field of a parameter holds. -/
inductive ParamValue where
  | float (value : Double)
  | optional (value : Option Double)
  | integer (value : ℤ)
  | flag (value : Bool)

/-- Convert to an integer: cut off the fraction and stay between the bounds. -/
def castDouble (low high : ℤ) : Double → ℤ
  | .nan => 0
  | .negInf => low
  | .posInf => high
  | .finite value _ => max low (min high (value.num.tdiv value.den))

namespace ParamKind

/-- The parameters that are stored in one way. -/
def names : ParamKind → List String
  | .float =>
    ["LATENCY_ARB_MOMENTUM_THRESHOLD", "LATENCY_ARB_MAX_ASK", "LATENCY_ARB_MIN_ASK",
      "MAX_POSITION_FRACTION", "MAX_POSITION_USD", "SPREAD_CAPTURE_THRESHOLD",
      "SPREAD_CAPTURE_MIN_ASK", "SPREAD_CAPTURE_MAX_QUOTE_CHURN_PER_S", "CALM_PERSISTENCE_MAX_ASK",
      "CALM_PERSISTENCE_MIN_ABS_DISTANCE_BPS", "CALM_PERSISTENCE_DISTANCE_VOL_RATIO_THRESHOLD",
      "CALM_PERSISTENCE_MAX_REALIZED_VOL_15S_BPS", "CALM_PERSISTENCE_MAX_QUOTE_CHURN_PER_S",
      "CALM_PERSISTENCE_MIN_ALIGNMENT_FRACTION", "CALM_PERSISTENCE_MAX_FAIR_BIAS",
      "CALM_PERSISTENCE_MIN_EXPECTED_EDGE", "PEAK_DD_PAUSE_PCT", "DD_PAUSE_RECOVERY_PCT",
      "STARTING_BALANCE", "MAX_POSITION_USD_FRACTION", "MIN_BALANCE_THRESHOLD", "MAX_DRAWDOWN_PCT",
      "KELLY_FRACTION", "MIN_WIN_RATE_FOR_KELLY", "MIN_KELLY_FLOOR", "MIN_BET_USD",
      "TREND_FILTER_THRESHOLD", "PENDING_SETTLEMENT_FAMILY_RESERVE_FRACTION",
      "PENDING_SETTLEMENT_GLOBAL_RESERVE_FRACTION", "TAKER_FEE_RATE"]
  | .optional =>
    ["LATENCY_ARB_MAX_POSITION_FRACTION", "SPREAD_CAPTURE_MAX_POSITION_FRACTION",
      "CALM_PERSISTENCE_MAX_POSITION_FRACTION"]
  | .u64 =>
    ["LATENCY_ARB_COOLDOWN_MS", "LATENCY_ARB_ADAPTIVE_WINDOW_MS", "SPREAD_CAPTURE_MAX_LEG_SKEW_MS",
      "CALM_PERSISTENCE_MIN_WINDOW_TIME_MS", "CALM_PERSISTENCE_MAX_WINDOW_TIME_MS",
      "PEAK_DD_PAUSE_MS", "MOMENTUM_WINDOW_MS", "MIN_TRADES_FOR_KELLY", "KELLY_ROLLING_WINDOW",
      "MAX_OPEN_POSITIONS", "MIN_WINDOW_TIME_MS", "CIRCUIT_BREAKER_LOSSES",
      "CIRCUIT_BREAKER_PAUSE_MS", "RECONNECT_MIN_STABLE_MS", "RECONNECT_PAUSE_MS",
      "WEBSOCKET_CONNECT_TIMEOUT_MS", "BINANCE_NO_MESSAGE_RECONNECT_MS",
      "CLOB_NO_MESSAGE_RECONNECT_MS", "TREND_FILTER_WINDOW", "RESOLUTION_INITIAL_DELAY_MS",
      "RESOLUTION_POLL_DELAY_MS", "SIM_ORDER_LATENCY_MS", "MAX_BOOK_STALENESS_MS",
      "MAX_SIGNAL_FEED_AGE_MS", "MAX_QUOTE_AGE_MS", "CLOB_REPLAY_BLOCK_MAX_MS"]
  | .u32 =>
    ["CALM_PERSISTENCE_MAX_OPEN_CROSSES_30S", "RECONNECT_MAX_FAILURES", "RESOLUTION_POLL_RETRIES",
      "TAKER_FEE_EXPONENT"]
  | .usize => ["CLOB_REPLAY_BLOCK_MAX_ROWS"]
  | .i32 => ["CLOB_REPLAY_BLOCK_ZSTD_LEVEL"]
  | .flag =>
    ["LATENCY_ARB_ENABLED", "SPREAD_CAPTURE_ENABLED", "CALM_PERSISTENCE_ENABLED",
      "TREND_FILTER_PER_STRATEGY", "REGIME_DETECTION_ENABLED",
      "PENDING_SETTLEMENT_COUNTS_AS_OPEN_POSITION"]

/-- Store a number. A flag is set unless the number is zero. -/
def store (kind : ParamKind) (value : Double) : ParamValue :=
  match kind with
  | .float => .float value
  | .optional => .optional (some value)
  | .u64 | .usize => .integer (castDouble 0 (2 ^ 64 - 1) value)
  | .u32 => .integer (castDouble 0 (2 ^ 32 - 1) value)
  | .i32 => .integer (castDouble (-2 ^ 31) (2 ^ 31 - 1) value)
  | .flag =>
    .flag (match value with
      | .finite value _ => decide (value ≠ 0)
      | _ => true)

end ParamKind

def paramKind (name : String) : Option ParamKind :=
  [ParamKind.float, .optional, .u64, .u32, .usize, .i32, .flag].find? fun kind =>
    name ∈ kind.names

def boolParams : List String :=
  "TREND_FILTER_ENABLED" :: ParamKind.flag.names

def takerFeeParams : List String :=
  ["TAKER_FEE_RATE", "TAKER_FEE_EXPONENT"]

/-- A configuration: the fields that have a parameter, by its name, and the others. -/
structure SweepConfig (R : Type) where
  params : String → ParamValue
  takerFeeOverrideExplicit : Bool
  logLevel : String
  rest : R

namespace SweepConfig

variable {R : Type}

/-- Set a parameter by name; false if it is not recognised. -/
def setParam (config : SweepConfig R) (name : String) (value : Double) : Bool × SweepConfig R :=
  match paramKind name with
  | some kind =>
    (true, { config with
      params := Function.update config.params name (kind.store value)
      takerFeeOverrideExplicit := config.takerFeeOverrideExplicit || name ∈ takerFeeParams })
  | none => (false, config)

def setBoolParam (config : SweepConfig R) (name : String) (value : Bool) : Bool × SweepConfig R :=
  if name ∈ boolParams then
    (true, { config with params := Function.update config.params name (.flag value) })
  else (false, config)

/-- A value is in effect: setting it again changes nothing. -/
def InEffect (config : SweepConfig R) (setting : String × Double) : Prop :=
  config.setParam setting.1 setting.2 = (true, config)

end SweepConfig

/-- Read a text that stands for true or false. -/
def parseBoolish (raw : String) : Option Bool :=
  let trimmed := ((raw.toList.dropWhile isTrimmed).reverse.dropWhile isTrimmed).reverse
  let lower := String.ofList (trimmed.map Char.toLower)
  if lower ∈ ["1", "true", "yes", "on"] then some true
  else if lower ∈ ["0", "false", "no", "off"] then some false
  else none

/-! ## The sweep -/

/-- The measures of one replay. Those that are not given are zero. -/
structure BacktestResult where
  (startTime endTime : ℕ)
  (durationHours elapsedSeconds : Double := .zero)
  (totalTicks totalWindows signals trades wins losses : ℕ := 0)
  winRate : Double := .zero
  finalBalance : Double
  (totalPnl grossPnl maxDrawdownPct : Double := .zero)
  highWaterMark : Double
  (totalFees pnlNet fillRate partialFillRate : Double := .zero)
  (noFillCount spreadLeggingCount residualPositionCount : ℕ := 0)
  (avgFillLatencyMs avgSlippage : Double := .zero)
  (rawEventBatches legacySnapshotBatches : ℕ := 0)
  (dislocationRegimeCount structuralPairRegimeCount calmRegimeCount : ℕ := 0)
  (dislocationQueued structuralPairQueued calmQueued : ℕ := 0)
  (dislocationFilled structuralPairFilled calmFilled : ℕ := 0)
  (dislocationMissed structuralPairMissed calmMissed : ℕ := 0)
  (latencyArbCandidates spreadCaptureCandidates calmPersistenceCandidates : ℕ := 0)
  (routerBlockedCount capitalBlockedCount : ℕ := 0)
  (latencySpreadOverlapCount latencyCalmOverlapCount spreadCalmOverlapCount : ℕ := 0)

/-- The difference. -/
def subDouble (a b : Double) : Double :=
  a.add ((Double.ofRat (-1)).mul b)

/-- The profits of the source run and of its replay. -/
structure SweepCalibration where
  sourceBaselinePnl : Double
  baselineReplayPnl : Double

/-- A replay's profit without the bias of the baseline. -/
def SweepCalibration.calibratedPnl (calibration : SweepCalibration) (replayPnl : Double) : Double :=
  subDouble replayPnl (subDouble calibration.baselineReplayPnl calibration.sourceBaselinePnl)

/-- The values of one row. -/
abbrev Combo := List (String × Double)

def cartesian : List SweepDimension → List Combo
  | [] => [[]]
  | first :: dims =>
    let rest := cartesian dims
    first.values.flatMap fun value => rest.map fun combo => (first.param, value) :: combo

/-- What a sweep is given: its interval and balance, the overrides, the base configuration, and
how a configuration is validated and replayed. -/
structure Sweep (R ε : Type) where
  startTime : ℕ
  endTime : ℕ
  startingBalance : Double
  dimensions : List SweepDimension
  fixedOverrides : List (String × String)
  baseConfig : SweepConfig R
  validate : SweepConfig R → Except ε Unit
  runBacktest : SweepConfig R → Except ε BacktestResult
  sourcePnl : Option (Option Double)

/-- The rows of a sweep, and the best of them. -/
structure SweepReport where
  rows : List (Combo × BacktestResult)
  top : List (Combo × BacktestResult)

section Run

variable {R ε : Type}

def applyFixedOverride (config : SweepConfig R) (fixed : String × String) : SweepConfig R :=
  match parseDouble fixed.2 with
  | some num => (config.setParam fixed.1 num).2
  | none =>
    match parseBoolish fixed.2 with
    | some value => (config.setBoolParam fixed.1 value).2
    | none => config

def applyFixedOverrides (config : SweepConfig R) (fixed : List (String × String)) : SweepConfig R :=
  fixed.foldl applyFixedOverride config

/-- Set the values of a combination. -/
def applyCombo (config : SweepConfig R) (combo : Combo) : SweepConfig R :=
  combo.foldl (fun config setting => (config.setParam setting.1 setting.2).2) config

def Sweep.startConfig (sweep : Sweep R ε) : SweepConfig R :=
  { sweep.baseConfig with
    params :=
      Function.update sweep.baseConfig.params "STARTING_BALANCE" (.float sweep.startingBalance)
    logLevel := "error" }

def Sweep.comboConfig (sweep : Sweep R ε) (combo : Combo) : SweepConfig R :=
  applyFixedOverrides (applyCombo sweep.startConfig combo) sweep.fixedOverrides

def Sweep.failedResult (sweep : Sweep R ε) : BacktestResult where
  startTime := sweep.startTime
  endTime := sweep.endTime
  finalBalance := sweep.startingBalance
  highWaterMark := sweep.startingBalance

def Sweep.row (sweep : Sweep R ε) (combo : Combo) : Combo × BacktestResult :=
  match sweep.runBacktest (sweep.comboConfig combo) with
  | .ok result => (combo, result)
  | .error _ => (combo, sweep.failedResult)

/-- Build the calibration from the source run and a replay of the current parameters. -/
def Sweep.buildSweepCalibration (sweep : Sweep R ε) : Except ε (Option SweepCalibration) :=
  match sweep.sourcePnl with
  | none => .ok none
  | some netPnl => do
    let config := applyFixedOverrides sweep.startConfig sweep.fixedOverrides
    sweep.validate config
    let replay ← sweep.runBacktest config
    .ok (some
      { sourceBaselinePnl := netPnl.getD .zero, baselineReplayPnl := replay.totalPnl })

/-- The best rows by profit, calibrated if possible; rows that are not told apart keep their
order. -/
def topNByCalibratedPnl (results : List (Combo × BacktestResult))
    (calibration : Option SweepCalibration) (n : ℕ) : List (Combo × BacktestResult) :=
  let pnl (row : Combo × BacktestResult) : Double :=
    calibration.elim row.2.totalPnl fun calibration => calibration.calibratedPnl row.2.totalPnl
  let less (a b : Double) : Bool := a.le b && !b.le a
  (results.mergeSort fun a b => !less (pnl a) (pnl b)).take n

def runSweep (sweep : Sweep R ε) : Except ε SweepReport := do
  let calibration ← sweep.buildSweepCalibration
  let results := (cartesian sweep.dimensions).map sweep.row
  .ok { rows := results, top := topNByCalibratedPnl results calibration 5 }

end Run

/-- All ways to take one value of each list, in the order of the lists and of their values. -/
def choices {α : Type} : List (List α) → List (List α) :=
  List.foldr (fun values rest => values.flatMap fun value => rest.map (value :: ·)) [[]]

section Truthful

variable {R ε : Type} {sweep : Sweep R ε} {config : SweepConfig R} {combo : Combo}
variable {setting : String × Double} {kind : ParamKind} {name : String}

/-- The replay of a combination fails. -/
def Sweep.Fails (sweep : Sweep R ε) (combo : Combo) : Prop :=
  ∀ result, sweep.runBacktest (sweep.comboConfig combo) ≠ .ok result

/-- There is one row for each combination, in order; its measures are those of a replay in which
its values are in effect; a replay that failed is not reported as one without profit, and is not
ranked above one that succeeded. -/
structure SweepTruthful (sweep : Sweep R ε) (report : SweepReport) : Prop where
  product : report.rows.map Prod.fst =
    choices (sweep.dimensions.map fun dim => dim.values.map fun value => (dim.param, value))
  inEffect : ∀ row ∈ report.rows, ∀ setting ∈ row.1, (sweep.comboConfig row.1).InEffect setting
  metrics : ∀ row ∈ report.rows, ∀ result,
    sweep.runBacktest (sweep.comboConfig row.1) = .ok result → row.2 = result
  failed : ∀ row ∈ report.rows, sweep.Fails row.1 → row.2.totalPnl ≠ .zero
  ranking : report.top.Pairwise fun above below => sweep.Fails above.1 → sweep.Fails below.1

def storedBy (fixed : String × String) : Option ParamValue :=
  match parseDouble fixed.2 with
  | some num => (paramKind fixed.1).map fun kind => kind.store num
  | none =>
    (parseBoolish fixed.2).bind fun value =>
      if fixed.1 ∈ boolParams then some (.flag value) else none

def lastStored (fixed : List (String × String)) (name : String) : Option ParamValue :=
  fixed.foldl (fun last fixed => if fixed.1 = name then (storedBy fixed).or last else last) none

/-- The overrides leave a value as it is. -/
def Spares (fixed : List (String × String)) (setting : String × Double) : Prop :=
  ∀ stored ∈ lastStored fixed setting.1, ∀ kind ∈ paramKind setting.1,
    stored = kind.store setting.2

theorem inEffect_iff (hkind : paramKind setting.1 = some kind) :
    config.InEffect setting ↔ config.params setting.1 = kind.store setting.2 ∧
      (setting.1 ∈ takerFeeParams → config.takerFeeOverrideExplicit = true) := by
  obtain ⟨params, explicit, logLevel, rest⟩ := config
  simp only [SweepConfig.InEffect, SweepConfig.setParam, hkind, Prod.mk.injEq, true_and,
    SweepConfig.mk.injEq, and_true, Function.update_eq_self_iff]
  constructor
  · rintro ⟨hparams, hexplicit⟩
    refine ⟨hparams.symm, fun hfee => ?_⟩
    simpa [hfee] using hexplicit.symm
  · rintro ⟨hparams, hexplicit⟩
    refine ⟨hparams.symm, ?_⟩
    by_cases hfee : setting.1 ∈ takerFeeParams
    · simp [hexplicit hfee]
    · simp [hfee]

/-! ## Fields -/

theorem params_setParam_of_ne {value : Double} (h : name ≠ setting.1) :
    (config.setParam setting.1 value).2.params name = config.params name := by
  unfold SweepConfig.setParam
  split
  · exact Function.update_of_ne h _ _
  · rfl

theorem params_applyCombo_of_notMem (h : name ∉ combo.map Prod.fst) :
    (applyCombo config combo).params name = config.params name := by
  induction combo generalizing config with
  | nil => rfl
  | cons first rest ih =>
    rw [map_cons, mem_cons, not_or] at h
    rw [applyCombo, foldl_cons]
    exact (ih h.2).trans (params_setParam_of_ne h.1)

theorem params_applyCombo (hnames : (combo.map Prod.fst).Nodup) (hmem : setting ∈ combo)
    (hkind : paramKind setting.1 = some kind) :
    (applyCombo config combo).params setting.1 = kind.store setting.2 := by
  induction combo generalizing config with
  | nil => cases hmem
  | cons first rest ih =>
    rw [map_cons, nodup_cons] at hnames
    rw [applyCombo, foldl_cons]
    rcases mem_cons.mp hmem with rfl | hrest
    · refine (params_applyCombo_of_notMem hnames.1).trans ?_
      simp [SweepConfig.setParam, hkind]
    · exact ih hnames.2 hrest

theorem explicit_setParam {value : Double} (h : config.takerFeeOverrideExplicit = true) :
    (config.setParam name value).2.takerFeeOverrideExplicit = true := by
  unfold SweepConfig.setParam
  split <;> simp [h]

theorem explicit_applyCombo (h : config.takerFeeOverrideExplicit = true) :
    (applyCombo config combo).takerFeeOverrideExplicit = true := by
  induction combo generalizing config with
  | nil => exact h
  | cons first rest ih => exact ih (explicit_setParam h)

theorem explicit_applyCombo_of_mem (hmem : setting ∈ combo)
    (hkind : paramKind setting.1 = some kind) (hfee : setting.1 ∈ takerFeeParams) :
    (applyCombo config combo).takerFeeOverrideExplicit = true := by
  induction combo generalizing config with
  | nil => cases hmem
  | cons first rest ih =>
    rcases mem_cons.mp hmem with rfl | hrest
    · rw [applyCombo, foldl_cons]
      apply explicit_applyCombo
      simp [SweepConfig.setParam, hkind, hfee]
    · exact ih hrest

theorem params_applyFixedOverride (fixed : String × String) :
    (applyFixedOverride config fixed).params name =
      if fixed.1 = name then (storedBy fixed).getD (config.params name)
      else config.params name := by
  unfold applyFixedOverride storedBy
  cases parseDouble fixed.2 with
  | some num =>
    unfold SweepConfig.setParam
    cases paramKind fixed.1 with
    | none => simp
    | some kind =>
      simp only [Option.map_some, Option.getD_some, Function.update_apply, eq_comm]
  | none =>
    cases parseBoolish fixed.2 with
    | none => simp
    | some value =>
      unfold SweepConfig.setBoolParam
      by_cases hbool : fixed.1 ∈ boolParams
      · simp [hbool, Function.update_apply, eq_comm]
      · simp [hbool]

theorem params_applyFixedOverrides (fixed : List (String × String)) :
    (applyFixedOverrides config fixed).params name =
      (lastStored fixed name).getD (config.params name) := by
  induction fixed using List.reverseRecOn with
  | nil => rfl
  | append_singleton fixed last ih =>
    unfold applyFixedOverrides lastStored at ih ⊢
    rw [foldl_append, foldl_append, foldl_cons, foldl_nil, foldl_cons,
      foldl_nil, params_applyFixedOverride, ih]
    split
    · cases storedBy last <;> rfl
    · rfl

theorem explicit_applyFixedOverrides {fixed : List (String × String)}
    (h : config.takerFeeOverrideExplicit = true) :
    (applyFixedOverrides config fixed).takerFeeOverrideExplicit = true := by
  induction fixed generalizing config with
  | nil => exact h
  | cons first rest ih =>
    refine ih ?_
    unfold applyFixedOverride
    split
    · exact explicit_setParam h
    · split
      · unfold SweepConfig.setBoolParam
        split <;> exact h
      · exact h

/-- A value of a combination is in effect unless an override stores another one. -/
theorem inEffect_comboConfig_iff (hnames : (combo.map Prod.fst).Nodup) (hmem : setting ∈ combo)
    (hkind : paramKind setting.1 = some kind) :
    (sweep.comboConfig combo).InEffect setting ↔ Spares sweep.fixedOverrides setting := by
  rw [inEffect_iff hkind, Sweep.comboConfig, params_applyFixedOverrides,
    params_applyCombo hnames hmem hkind]
  have hexplicit : setting.1 ∈ takerFeeParams →
      (applyFixedOverrides (applyCombo sweep.startConfig combo)
        sweep.fixedOverrides).takerFeeOverrideExplicit = true :=
    fun hfee => explicit_applyFixedOverrides (explicit_applyCombo_of_mem hmem hkind hfee)
  rw [and_iff_left hexplicit]
  unfold Spares
  cases lastStored sweep.fixedOverrides setting.1 with
  | none => simp
  | some stored => simp [hkind]

theorem cartesian_eq_choices (dims : List SweepDimension) :
    cartesian dims =
      choices (dims.map fun dim => dim.values.map fun value => (dim.param, value)) := by
  induction dims with
  | nil => rfl
  | cons first dims ih => simp [cartesian, choices, ih, flatMap_map]

theorem names_of_mem_cartesian {dims : List SweepDimension} (h : combo ∈ cartesian dims) :
    combo.map Prod.fst = dims.map fun dim => dim.param := by
  induction dims generalizing combo with
  | nil =>
    rw [mem_singleton.mp h]
    rfl
  | cons first dims ih =>
    obtain ⟨value, -, hrest⟩ := mem_flatMap.mp h
    obtain ⟨rest, hmem, rfl⟩ := mem_map.mp hrest
    rw [map_cons, map_cons, ih hmem]

@[simp] theorem fst_row : (sweep.row combo).1 = combo := by
  unfold Sweep.row
  split <;> rfl

theorem rows_runSweep {report : SweepReport} (h : runSweep sweep = .ok report) :
    report.rows = (cartesian sweep.dimensions).map sweep.row ∧
      ∀ row ∈ report.top, row ∈ report.rows := by
  unfold runSweep at h
  cases hcalibration : sweep.buildSweepCalibration with
  | error error => simp [hcalibration, bind, Except.bind] at h
  | ok calibration =>
    rw [hcalibration] at h
    cases h
    refine ⟨rfl, fun row hrow => ?_⟩
    exact mem_mergeSort.mp (mem_of_mem_take hrow)

/-- The rows of a sweep are truthful exactly if no replay fails and no override changes a value
that is swept. -/
theorem sweep_truthful_iff {report : SweepReport}
    (hnames : (sweep.dimensions.map fun dim => dim.param).Nodup)
    (hknown : ∀ dim ∈ sweep.dimensions, (paramKind dim.param).isSome = true)
    (hreport : runSweep sweep = .ok report) :
    SweepTruthful sweep report ↔ ∀ combo ∈ cartesian sweep.dimensions,
      (∀ setting ∈ combo, Spares sweep.fixedOverrides setting) ∧ ¬sweep.Fails combo := by
  obtain ⟨hrows, htop⟩ := rows_runSweep hreport
  have heffect : ∀ combo ∈ cartesian sweep.dimensions, ∀ setting ∈ combo,
      ((sweep.comboConfig combo).InEffect setting ↔ Spares sweep.fixedOverrides setting) := by
    intro combo hcombo setting hmem
    have hparams := names_of_mem_cartesian hcombo
    have hname : setting.1 ∈ sweep.dimensions.map fun dim => dim.param :=
      hparams ▸ mem_map_of_mem hmem
    obtain ⟨dim, hdim, heq⟩ := mem_map.mp hname
    obtain ⟨kind, hkind⟩ := Option.isSome_iff_exists.mp (heq ▸ hknown dim hdim)
    exact inEffect_comboConfig_iff (hparams ▸ hnames) hmem hkind
  constructor
  · intro htruthful combo hcombo
    have hrow : sweep.row combo ∈ report.rows := hrows ▸ mem_map_of_mem hcombo
    refine ⟨fun setting hmem => ?_, fun hfails => ?_⟩
    · have hin := htruthful.inEffect _ hrow setting (by rw [fst_row]; exact hmem)
      exact (heffect combo hcombo setting hmem).mp (by simpa using hin)
    · refine htruthful.failed _ hrow (by simpa using hfails) ?_
      unfold Sweep.row
      split
      · rename_i result hok
        exact absurd hok (hfails result)
      · rfl
  · intro hcombos
    have hof : ∀ row ∈ report.rows, ∃ combo ∈ cartesian sweep.dimensions, sweep.row combo = row :=
      fun row hrow => mem_map.mp (hrows ▸ hrow)
    have hsucceeds : ∀ row ∈ report.rows, ¬sweep.Fails row.1 := by
      intro row hrow
      obtain ⟨combo, hcombo, rfl⟩ := hof row hrow
      simpa using (hcombos combo hcombo).2
    refine ⟨?_, ?_, ?_, fun row hrow hfails => absurd hfails (hsucceeds row hrow), ?_⟩
    · rw [hrows, map_map, ← cartesian_eq_choices]
      exact (map_congr_left fun combo _ => fst_row).trans (map_id _)
    · intro row hrow setting hmem
      obtain ⟨combo, hcombo, rfl⟩ := hof row hrow
      rw [fst_row] at hmem ⊢
      exact (heffect combo hcombo setting hmem).mpr ((hcombos combo hcombo).1 setting hmem)
    · intro row hrow result hok
      obtain ⟨combo, hcombo, rfl⟩ := hof row hrow
      rw [fst_row] at hok
      unfold Sweep.row
      rw [hok]
    · refine pairwise_of_forall_mem_list fun above habove below _ hfails => ?_
      exact absurd hfails (hsucceeds above (htop above habove))

def SweepConfig.enables (config : SweepConfig R) (name : String) : Bool :=
  match config.params name with
  | .flag value => value
  | _ => false

def sampleReplay (config : SweepConfig Unit) : Except Unit BacktestResult :=
  if config.enables "CALM_PERSISTENCE_ENABLED" || config.enables "LATENCY_ARB_ENABLED" ||
      config.enables "SPREAD_CAPTURE_ENABLED" then
    .ok { startTime := 0, endTime := 1000, finalBalance := .zero, highWaterMark := .zero }
  else .error ()

def sampleSweep (fixedOverrides : List (String × String)) : Sweep Unit Unit where
  startTime := 0
  endTime := 1000
  startingBalance := .zero
  dimensions :=
    [{ param := "LATENCY_ARB_ENABLED", values := [.finite 1 one_isDouble, .zero] },
      { param := "SPREAD_CAPTURE_ENABLED", values := [.zero, .finite 1 one_isDouble] }]
  fixedOverrides := fixedOverrides
  baseConfig :=
    { params := fun _ => .flag false, takerFeeOverrideExplicit := false, logLevel := "info"
      rest := () }
  validate := fun _ => .ok ()
  runBacktest := sampleReplay
  sourcePnl := none

theorem sampleReplay_of_enables {config : SweepConfig Unit}
    (h : config.enables "CALM_PERSISTENCE_ENABLED" = true) :
    ∃ result, sampleReplay config = .ok result :=
  ⟨_, if_pos (by simp [h])⟩

theorem paramKind_latencyArbEnabled : paramKind "LATENCY_ARB_ENABLED" = some .flag := by
  decide

/-- The override enables a strategy that is not swept. -/
theorem sweep_truthful_sample :
    ∃ report, runSweep (sampleSweep [("CALM_PERSISTENCE_ENABLED", "true")]) = .ok report ∧
      SweepTruthful (sampleSweep [("CALM_PERSISTENCE_ENABLED", "true")]) report := by
  refine ⟨_, rfl, (sweep_truthful_iff (by decide) (by decide) rfl).mpr fun combo hcombo => ⟨?_, ?_⟩⟩
  · intro setting hsetting stored hstored
    have hname := mem_map_of_mem (f := Prod.fst) hsetting
    rw [names_of_mem_cartesian hcombo] at hname
    rcases mem_pair.mp hname with hname | hname
    · rw [hname] at hstored
      cases hstored
    · rw [hname] at hstored
      cases hstored
  · intro hfails
    have hcalm : ((sampleSweep [("CALM_PERSISTENCE_ENABLED", "true")]).comboConfig combo).enables
        "CALM_PERSISTENCE_ENABLED" = true := by
      rw [SweepConfig.enables, Sweep.comboConfig, params_applyFixedOverrides]
      rfl
    obtain ⟨result, hresult⟩ := sampleReplay_of_enables hcalm
    exact hfails result hresult

/-- The row says that the strategy is enabled and that there was no profit. -/
theorem overridden_row_misleads :
    ∃ report, runSweep (sampleSweep [("LATENCY_ARB_ENABLED", "false")]) = .ok report ∧
      ¬SweepTruthful (sampleSweep [("LATENCY_ARB_ENABLED", "false")]) report := by
  refine ⟨_, rfl, fun h => ?_⟩
  have hmem : ("LATENCY_ARB_ENABLED", Double.finite 1 one_isDouble) ∈
      [("LATENCY_ARB_ENABLED", Double.finite 1 one_isDouble), ("SPREAD_CAPTURE_ENABLED", .zero)] :=
    mem_cons_self
  have hin := h.inEffect _ mem_cons_self _ (by rw [fst_row]; exact hmem)
  rw [fst_row, inEffect_comboConfig_iff (by decide) hmem paramKind_latencyArbEnabled] at hin
  have hstored : lastStored [("LATENCY_ARB_ENABLED", "false")] "LATENCY_ARB_ENABLED" =
      some (.flag false) := by
    rfl
  cases hin _ hstored _ paramKind_latencyArbEnabled

end Truthful

end BubaPaint
