-- SUMMARY: newSettingsFromEnv of cmd/pumpe on the duration settings, the durations of the gate.SetConfig that run builds, and the tickers byKindReady and forState start on them.
import Pumpe.Go.Time

/-!
# Settings from the environment

`newSettingsFromEnv` (`cmd/pumpe/pumpe.go`) reads each duration with
`time.ParseDuration`, drops the error and keeps the `0` Go returns with it,
then checks the value. Five durations have a ceiling: zero or a value above it
falls back to a default (`capped`). `httpClientTimeout` falls back only on zero,
and `torStartupTimeout` on zero or a value under two minutes. `run` copies the
durations into `gate.SetConfig`, and `Set.byKindReady` and `Set.forState` start
a ticker on its two loop delays.

No check refuses a negative duration. One passes `d == 0 || d > ceiling` and
reaches `time.NewTicker`, which panics on it
(`negative_loop_delay_reaches_newTicker`). What the checks give for every
environment is `newSettingsFromEnv_bounds`: each capped duration is non-zero and
at most its ceiling, and positive exactly when its variable does not parse to a
negative duration.
-/

namespace Pumpe.Cmd

open Pumpe.Go Pumpe.Go.Time

/-- The environment: the value of each variable, the empty string when unset. -/
abbrev Env := String → List UInt8

def millisecond : Int := 1000000

def second : Int := 1000 * millisecond

def minute : Int := 60 * second

/-- `time.ParseDuration(env[key])` with its error dropped: Go returns `0` with it. -/
def envDuration (env : Env) (key : String) : Int := (parseDuration (env key)).getD 0

/-- The check of a duration with a ceiling: `d == 0 || d > ceiling` falls back
    to the default. -/
def capped (ceiling dflt d : Int) : Int := if d = 0 ∨ d > ceiling then dflt else d

/-- The duration fields of `settings`. -/
structure Settings where
  shutdownTimeout : Int
  httpClientTimeout : Int
  setRandomLoopTimeout : Int
  setRandomLoopDelay : Int
  setStateLoopTimeout : Int
  setStateLoopDelay : Int
  torStartupTimeout : Int
  deriving DecidableEq, Repr

/-- `newSettingsFromEnv` on the duration fields. -/
def newSettingsFromEnv (env : Env) : Settings :=
  let httpClientTimeout := envDuration env "PUMPE_HTTP_CLIENT_TIMEOUT"
  let torStartupTimeout := envDuration env "PUMPE_TOR_STARTUP_TIMEOUT"
  { shutdownTimeout :=
      capped (60 * second) (30 * second) (envDuration env "PUMPE_SHUTDOWN_TIMEOUT")
    httpClientTimeout := if httpClientTimeout = 0 then 60 * second else httpClientTimeout
    setRandomLoopTimeout :=
      capped (60 * second) (30 * second) (envDuration env "PUMPE_SET_RANDOM_LOOP_TIMEOUT")
    setRandomLoopDelay :=
      capped (100 * millisecond) (10 * millisecond) (envDuration env "PUMPE_SET_RANDOM_LOOP_DELAY")
    setStateLoopTimeout :=
      capped (60 * second) (30 * second) (envDuration env "PUMPE_SET_STATE_LOOP_TIMEOUT")
    setStateLoopDelay :=
      capped (100 * millisecond) (10 * millisecond) (envDuration env "PUMPE_SET_STATE_LOOP_DELAY")
    torStartupTimeout :=
      if torStartupTimeout = 0 ∨ torStartupTimeout < 2 * minute then 3 * minute
      else torStartupTimeout }

/-- The durations of `gate.SetConfig`. -/
structure SetConfig where
  httpTimeout : Int
  randomLoopTout : Int
  randomLoopDelay : Int
  stateLoopTout : Int
  stateLoopDelay : Int
  torStartupTout : Int
  deriving DecidableEq, Repr

/-- The `gate.SetConfig` that `run` builds from the settings. -/
def runSetConfig (cfg : Settings) : SetConfig where
  httpTimeout := cfg.httpClientTimeout
  randomLoopTout := cfg.setRandomLoopTimeout
  randomLoopDelay := cfg.setRandomLoopDelay
  stateLoopTout := cfg.setStateLoopTimeout
  stateLoopDelay := cfg.setStateLoopDelay
  torStartupTout := cfg.torStartupTimeout

/-- The ticker of `Set.byKindReady`, on `RandomLoopDelay`. -/
def byKindReadyTicker (c : SetConfig) : Except String Unit := newTicker c.randomLoopDelay

/-- The ticker of `Set.forState`, on `StateLoopDelay`. -/
def forStateTicker (c : SetConfig) : Except String Unit := newTicker c.stateLoopDelay

-- ---------------------------------------------------------------------------
-- The checks
-- ---------------------------------------------------------------------------

/-- What the capped check gives of the value `x` it keeps from the parsed `d`. -/
def CappedAt (ceiling x d : Int) : Prop := x ≠ 0 ∧ x ≤ ceiling ∧ (0 < x ↔ 0 ≤ d)

/-- A positive default under the ceiling makes every value the check keeps
    non-zero and at most the ceiling, and positive unless the parsed value is
    negative. -/
theorem capped_cappedAt {ceiling dflt : Int} (h0 : 0 < dflt) (h : dflt ≤ ceiling) (d : Int) :
    CappedAt ceiling (capped ceiling dflt d) d := by
  unfold CappedAt capped
  split_ifs <;> omega

theorem newTicker_ok_iff (d : Int) : newTicker d = .ok () ↔ 0 < d := by
  unfold newTicker
  split_ifs with h
  · simp only [reduceCtorEq, false_iff]
    omega
  · simp only [true_iff]
    omega

/-- What the checks of `newSettingsFromEnv` give for every environment. Each
    duration with a ceiling is non-zero and at most its ceiling, and positive
    exactly when its variable does not parse to a negative duration, so the
    tickers of `byKindReady` and `forState` start exactly then. The HTTP client
    timeout is non-zero, and the tor start-up timeout at least two minutes. -/
theorem newSettingsFromEnv_bounds (env : Env) :
    let cfg := newSettingsFromEnv env
    CappedAt (60 * second) cfg.shutdownTimeout (envDuration env "PUMPE_SHUTDOWN_TIMEOUT") ∧
    CappedAt (60 * second) cfg.setRandomLoopTimeout
      (envDuration env "PUMPE_SET_RANDOM_LOOP_TIMEOUT") ∧
    CappedAt (100 * millisecond) cfg.setRandomLoopDelay
      (envDuration env "PUMPE_SET_RANDOM_LOOP_DELAY") ∧
    CappedAt (60 * second) cfg.setStateLoopTimeout
      (envDuration env "PUMPE_SET_STATE_LOOP_TIMEOUT") ∧
    CappedAt (100 * millisecond) cfg.setStateLoopDelay
      (envDuration env "PUMPE_SET_STATE_LOOP_DELAY") ∧
    cfg.httpClientTimeout ≠ 0 ∧ 2 * minute ≤ cfg.torStartupTimeout ∧
    (byKindReadyTicker (runSetConfig cfg) = .ok () ↔
      0 ≤ envDuration env "PUMPE_SET_RANDOM_LOOP_DELAY") ∧
    (forStateTicker (runSetConfig cfg) = .ok () ↔
      0 ≤ envDuration env "PUMPE_SET_STATE_LOOP_DELAY") := by
  have hs := @capped_cappedAt (60 * second) (30 * second) (by decide) (by decide)
  have hd := @capped_cappedAt (100 * millisecond) (10 * millisecond) (by decide) (by decide)
  refine ⟨hs _, hs _, hd _, hs _, hd _, ?_, ?_, ?_, ?_⟩
  · dsimp only [newSettingsFromEnv]
    split_ifs with h
    · decide
    · exact h
  · dsimp only [newSettingsFromEnv]
    split_ifs with h
    · decide
    · exact Int.not_lt.1 (not_or.1 h).2
  · exact (newTicker_ok_iff _).trans (hd _).2.2
  · exact (newTicker_ok_iff _).trans (hd _).2.2

/-- The environment that sets `PUMPE_SET_RANDOM_LOOP_DELAY` to `-1s` and nothing else. -/
def negativeDelayEnv : Env := fun key =>
  if key = "PUMPE_SET_RANDOM_LOOP_DELAY" then utf8 "-1s" else []

/-- A negative delay passes the check: `-1s` becomes `RandomLoopDelay`, and the
    ticker of `byKindReady` panics on it. -/
theorem negative_loop_delay_reaches_newTicker :
    (newSettingsFromEnv negativeDelayEnv).setRandomLoopDelay = -1000000000 ∧
    byKindReadyTicker (runSetConfig (newSettingsFromEnv negativeDelayEnv)) =
      .error "non-positive interval for NewTicker" := by
  have hb : utf8 "-1s" = 45 :: [49, 115] := by decide
  have hc : component [49, 115] = some (1000000000, []) := by decide
  have hp : envDuration negativeDelayEnv "PUMPE_SET_RANDOM_LOOP_DELAY" = -1000000000 := by
    simp [envDuration, negativeDelayEnv, parseDuration, hb, parseLoop_of_component hc, parseLoop_nil]
  have hv : (newSettingsFromEnv negativeDelayEnv).setRandomLoopDelay = -1000000000 := by
    simp only [newSettingsFromEnv, capped, hp, millisecond]; decide
  exact ⟨hv, by simp [byKindReadyTicker, runSetConfig, hv, newTicker]⟩

end Pumpe.Cmd
