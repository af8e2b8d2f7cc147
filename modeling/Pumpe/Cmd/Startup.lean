-- SUMMARY: The start-up of cmd/pumpe: rawEnvToMap, the fields of newSettingsFromEnv that run reads besides the durations, gate.ParseKind, handleWGParseErr, the checks of run and the gates RunFn starts for NewSet.
import Pumpe.Cmd.Settings
import Pumpe.Go.Strconv
import Pumpe.Gate.WGConfigs
import Pumpe.Gate.Step

/-!
# Start-up

`main` reads the environment with `rawEnvToMap(os.Environ())` and builds the
settings with `newSettingsFromEnv`. `run` then checks them before it starts
anything:

```go
if cfg.wgDir == "" { return model.Error("invalid wireguard config directory") }
dkind, err := gate.ParseKind(cfg.defKind)
wcfgs, err := gate.ParseWGConfigs(gate.WGParseMode(cfg.wgParseMode), cfg.wgDir)
if err != nil { if err2 := handleWGParseErr(...); err2 != nil { return err2 } }
if dkind == gate.KindWireGuard && nwgs == 0 { ... }
if cfg.randomiseKinds && (nwgs == 0 || cfg.torN == 0) { ... }
wgdns, err := netip.ParseAddr(cfg.wgDNS)
```

Its `RunFn` starts one WireGuard gate per configuration and `cfg.torN` Tor
gates, and hands them to `NewSet`. The file system, the `ini` library, the
address parser and the gates' constructors are parameters: the model reads
what they return.

* `rawEnvToMap_environ`: the map holds, at each key, the value of the last
  `key=value` entry for it.
* `wgStage_modes`: what the WireGuard stage of `run` gives in each parse mode.
  `WGParseModeIgnore` never stops the start, even when the directory cannot be
  read.
* `run_started`: what the checks give the set `RunFn` builds. A negative
  `cfg.torN` passes the randomise check and starts no Tor gate.
* `startup_tor_gates`: the Tor gates of a set whose default kind is Tor, from
  the environment.
-/

namespace Pumpe.Gate

open Pumpe.Go

variable {ε : Type}

/-- `ErrKindUnknown`. -/
def errKindUnknown : ConfigError ε := .model "gate: unknown kind"

/-- `ParseKind`: the three gate kinds by their names; `KindUnknown` and every
    other string are refused. -/
def parseKind (raw : List UInt8) : Except (ConfigError ε) Kind :=
  if raw = utf8 "direct" then .ok .direct
  else if raw = utf8 "tor" then .ok .tor
  else if raw = utf8 "wireguard" then .ok .wireGuard
  else .error errKindUnknown

theorem parseKind_ne_unknown {raw : List UInt8} {k : Kind} (h : parseKind (ε := ε) raw = .ok k) :
    k ≠ .unknown := by
  unfold parseKind at h
  split_ifs at h <;> cases h <;> decide

theorem parseKind_eq_tor {raw : List UInt8} :
    parseKind (ε := ε) raw = .ok .tor ↔ raw = utf8 "tor" := by
  have hdt : utf8 "direct" ≠ utf8 "tor" := by decide
  unfold parseKind
  split_ifs <;> simp_all

end Pumpe.Gate

namespace Pumpe.Cmd

open Pumpe.Go Pumpe.Go.Strconv Pumpe.Gate

-- ---------------------------------------------------------------------------
-- The environment
-- ---------------------------------------------------------------------------

/-- A Go `map[string]string`: the value at each key, `none` where there is none. -/
abbrev StrMap := List UInt8 → Option (List UInt8)

/-- `strings.Index(s, "=")`, with `-1` as `none`. -/
def indexEq : List UInt8 → Option Nat
  | [] => none
  | c :: s => if c = 61 then some 0 else (indexEq s).map (· + 1)

/-- One pass of the loop of `rawEnvToMap`: an entry that holds `=` sets the
    key before the first `=` to what follows it. -/
def envEntry (m : StrMap) (e : List UInt8) : StrMap :=
  match indexEq e with
  | some idx => fun k => if k = e.take idx then some (e.drop (idx + 1)) else m k
  | none => m

/-- `rawEnvToMap`. A `nil` slice gives a `nil` map, which reads as the empty map. -/
def rawEnvToMap (raw : List (List UInt8)) : StrMap := raw.foldl envEntry fun _ => none

/-- `env[key]` on the map: the empty string for a missing key. -/
def StrMap.get (m : StrMap) : Env := fun key => (m (utf8 key)).getD []

/-- The entries of `os.Environ()`: `key=value` for each variable. -/
def environ (vars : List (List UInt8 × List UInt8)) : List (List UInt8) :=
  vars.map fun kv => kv.1 ++ 61 :: kv.2

theorem indexEq_append {k v : List UInt8} (hk : 61 ∉ k) : indexEq (k ++ 61 :: v) = some k.length := by
  induction k with
  | nil => simp [indexEq]
  | cons c k ih =>
    simp only [List.mem_cons, not_or] at hk
    simp [indexEq, Ne.symm hk.1, ih hk.2]

theorem envEntry_append (m : StrMap) {k v : List UInt8} (hk : 61 ∉ k) (key : List UInt8) :
    envEntry m (k ++ 61 :: v) key = if key = k then some v else m key := by
  simp [envEntry, indexEq_append hk, List.drop_append_of_le_length]

theorem lookup_append_singleton (l : List (List UInt8 × List UInt8)) (k v key : List UInt8) :
    (l ++ [(k, v)]).lookup key = ((l.lookup key).or (if key = k then some v else none)) := by
  induction l with
  | nil => by_cases h : key = k <;> simp [List.lookup_cons, h, beq_false_of_ne]
  | cons kv l ih =>
    obtain ⟨k', v'⟩ := kv
    by_cases h : key = k' <;> simp [List.lookup_cons, h, ih, beq_false_of_ne]

theorem foldl_envEntry_environ (vars : List (List UInt8 × List UInt8)) (h : ∀ kv ∈ vars, 61 ∉ kv.1)
    (m : StrMap) (key : List UInt8) :
    (environ vars).foldl envEntry m key = (vars.reverse.lookup key).or (m key) := by
  induction vars generalizing m with
  | nil => simp [environ]
  | cons kv vars ih =>
    simp only [List.forall_mem_cons] at h
    simp only [environ, List.map_cons, List.foldl_cons, List.reverse_cons] at ih ⊢
    rw [ih h.2, envEntry_append m h.1, lookup_append_singleton]
    by_cases hk : key = kv.1 <;> simp [hk, Option.or_assoc]

/-- `rawEnvToMap` reads back what `os.Environ` writes: for every list of
    variables whose names hold no `=`, each name maps to the value of its last
    entry, and a value may hold `=`. -/
theorem rawEnvToMap_environ (vars : List (List UInt8 × List UInt8)) (h : ∀ kv ∈ vars, 61 ∉ kv.1)
    (key : List UInt8) : rawEnvToMap (environ vars) key = vars.reverse.lookup key := by
  simpa using foldl_envEntry_environ vars h (fun _ => none) key

/-- A variable set twice, the second time to a value that holds `=`. -/
theorem rawEnvToMap_environ_twice :
    (∀ kv ∈ [(utf8 "A", utf8 "1"), (utf8 "A", utf8 "x=y")], 61 ∉ kv.1) ∧
      rawEnvToMap (environ [(utf8 "A", utf8 "1"), (utf8 "A", utf8 "x=y")]) (utf8 "A") =
        some (utf8 "x=y") :=
  ⟨by decide, (rawEnvToMap_environ _ (by decide) _).trans (by decide)⟩

-- ---------------------------------------------------------------------------
-- The settings
-- ---------------------------------------------------------------------------

/-- `settings` with the fields `run` reads besides the durations. The port, the
    log level and format and `logAddSrc` go to `http.Server` and `newLogger`,
    which are not modelled. -/
structure RunSettings extends Settings where
  torN : Int
  torMax : Int
  wgParseMode : Int
  defKind : List UInt8
  wgDir : List UInt8
  wgDNS : List UInt8
  randomiseKinds : Bool
  deriving DecidableEq, Repr

/-- `newSettingsFromEnv` on every field `run` reads. An `Atoi` error is dropped
    with the value Go returns with it, and `ParseBool` returns `false` with its
    error. -/
def newRunSettingsFromEnv (env : Env) : RunSettings :=
  let defKind := if env "PUMPE_DEFAULT_KIND" = [] then utf8 "tor" else env "PUMPE_DEFAULT_KIND"
  let torN := (atoi (env "PUMPE_TOR_NUM")).1
  let torMax := (atoi (env "PUMPE_TOR_MAX")).1
  { newSettingsFromEnv env with
    defKind
    wgDir := env "PUMPE_WG_DIR"
    wgParseMode := (atoi (env "PUMPE_WG_PARSE_MODE")).1
    torN := if defKind = utf8 "tor" ∧ torN = 0 then 4 else torN
    torMax := if torMax = 0 then 128 else torMax
    wgDNS := if env "PUMPE_WG_DNS" = [] then utf8 "9.9.9.9" else env "PUMPE_WG_DNS"
    randomiseKinds := (parseBool (env "PUMPE_RANDOMISE_KINDS")).1 }

-- ---------------------------------------------------------------------------
-- run
-- ---------------------------------------------------------------------------

variable {ε α β : Type}

/-- `handleWGParseErr`: the error `run` returns, `none` for `nil`. The warnings
    `WGParseModeReport` logs are not modelled. -/
def handleWGParseErr (mode : Int) (err : ConfigError ε) : Option (ConfigError ε) :=
  if mode = wgParseModeReport then
    match unwrapErrs err with
    | none => some err
    | some _ => none
  else if mode = wgParseModeIgnore then none
  else some err

/-- The WireGuard stage of `run`: `ParseWGConfigs`, then `handleWGParseErr` on
    its error. The configurations are kept when the error is dropped. -/
def wgStage (fs : FileSystem ε) (loadBytes : List UInt8 → Except ε IniFile) (mode : Int)
    (dir : List UInt8) : Except (ConfigError ε) (List WGConfigFile) :=
  match parseWGConfigs fs loadBytes mode dir with
  | (wcfgs, none) => .ok wcfgs
  | (wcfgs, some err) =>
    match handleWGParseErr mode err with
    | some err2 => .error err2
    | none => .ok wcfgs

theorem handleWGParseErr_stop {mode : Int} (hi : mode ≠ wgParseModeIgnore)
    (hr : mode ≠ wgParseModeReport) (err : ConfigError ε) : handleWGParseErr mode err = some err := by
  simp [handleWGParseErr, hi, hr]

/-- The WireGuard stage of `run` in each parse mode, for every file system,
    `ini` library and directory. `WGParseModeIgnore` never stops the start: it
    goes on with the configurations that parse, and with none when the
    directory cannot be read. `WGParseModeReport` stops it only when the
    directory cannot be read; the errors of the files that fail are logged, and
    it goes on with the configurations that parse. Every other mode stops it at
    an unreadable directory or at the first regular file that fails. -/
theorem wgStage_modes (fs : FileSystem ε) (loadBytes : List UInt8 → Except ε IniFile)
    (dir : List UInt8) :
    wgStage fs loadBytes wgParseModeIgnore dir =
      (match fs.readDir dir with
       | .error _ => .ok []
       | .ok files => .ok (parsedConfigs (parseWGConfig fs loadBytes dir) files)) ∧
    wgStage fs loadBytes wgParseModeReport dir =
      (match fs.readDir dir with
       | .error e => .error (.base e)
       | .ok files => .ok (parsedConfigs (parseWGConfig fs loadBytes dir) files)) ∧
    (∀ mode, mode ≠ wgParseModeIgnore → mode ≠ wgParseModeReport →
      wgStage fs loadBytes mode dir =
        match fs.readDir dir with
        | .error e => .error (.base e)
        | .ok files =>
          match firstFailure (parseWGConfig fs loadBytes dir) files with
          | some err => .error err
          | none => .ok (parsedConfigs (parseWGConfig fs loadBytes dir) files)) := by
  refine ⟨?_, ?_, fun mode hi hr => ?_⟩ <;> cases hd : fs.readDir dir <;>
    simp only [wgStage, parseWGConfigs, parseWGConfigsDir, hd]
  · rfl
  · simp [loop_ignore, joinedOrNil]
  · rfl
  · rw [loop_report]
    simp only [joinedOrNil, List.nil_append]
    split_ifs <;> rfl
  · simp [handleWGParseErr_stop hi hr]
  · rename_i files
    rw [loop_stop _ hi hr]
    cases firstFailure (parseWGConfig fs loadBytes dir) files <;>
      simp [joinedOrNil, handleWGParseErr_stop hi hr]

/-- A directory that cannot be read, in `WGParseModeStop`. -/
theorem wgStage_modes_unreadable :
    wgParseModeStop ≠ wgParseModeIgnore ∧ wgParseModeStop ≠ wgParseModeReport ∧
      wgStage (ε := Unit) ⟨fun _ => .error (), fun _ _ => .error ()⟩ (fun _ => .ok ⟨[]⟩)
        wgParseModeStop [] = .error (.base ()) :=
  ⟨by decide, by decide, ((wgStage_modes _ _ _).2.2 _ (by decide) (by decide)).trans rfl⟩

/-- What `run` hands to its `RunFn`: the default kind, the WireGuard
    configurations and the DNS address. -/
structure Start (α : Type) where
  dkind : Kind
  wcfgs : List WGConfigFile
  wgdns : α

/-- `run` up to `daemon.Run`, over `netip.ParseAddr` (`parseAddr`). -/
def run (fs : FileSystem ε) (loadBytes : List UInt8 → Except ε IniFile)
    (parseAddr : List UInt8 → Except ε α) (cfg : RunSettings) : Except (ConfigError ε) (Start α) :=
  if cfg.wgDir = [] then .error (.model "invalid wireguard config directory") else
  match parseKind cfg.defKind with
  | .error err => .error err
  | .ok dkind =>
    match wgStage fs loadBytes cfg.wgParseMode cfg.wgDir with
    | .error err => .error err
    | .ok wcfgs =>
      if dkind = .wireGuard ∧ wcfgs.length = 0 then
        .error (.model "cannot start: unable to use wireguard as default without configs")
      else if cfg.randomiseKinds ∧ (wcfgs.length = 0 ∨ cfg.torN = 0) then
        .error (.model "cannot start: unable to randomise kinds without both configured")
      else
        match parseAddr cfg.wgDNS with
        | .error err => .error (.base err)
        | .ok wgdns => .ok ⟨dkind, wcfgs, wgdns⟩

/-- `NewWireGuards`: one gate per configuration, stopping at the first that fails
    to start. -/
def newWireGuards (newWG : WGConfigFile → Except ε β) (cfgs : List WGConfigFile) :
    Except ε (List β) :=
  cfgs.mapM newWG

/-- `NewTors`: `for i := 0; i < n; i++` starts a gate, stopping at the first
    that fails to start. -/
def newTors (newTor : Nat → Except ε β) (n : Int) : Except ε (List β) :=
  (List.range n.toNat).mapM newTor

/-- `RunFn` up to `NewSet`: the WireGuard gates, then the Tor gates; an error of
    either is returned (after the WireGuard gates are shut down). -/
def runGates (newWG : WGConfigFile → Except ε β) (newTor : Nat → Except ε β) (cfg : RunSettings)
    (st : Start α) : Except ε (List β × List β) :=
  match newWireGuards newWG st.wcfgs with
  | .error err => .error err
  | .ok wgs =>
    match newTors newTor cfg.torN with
    | .error err => .error err
    | .ok tgs => .ok (tgs, wgs)

/-- The fields of `gate.SetConfig` that `RunFn` fills and the set reads. -/
def runGateConfig (cfg : RunSettings) (st : Start α) : Gate.SetConfig :=
  ⟨st.dkind, cfg.randomiseKinds, cfg.torMax⟩

-- ---------------------------------------------------------------------------
-- What the checks give
-- ---------------------------------------------------------------------------

/-- Every check `run` makes before it hands `st` to `RunFn`. -/
structure Passed (fs : FileSystem ε) (loadBytes : List UInt8 → Except ε IniFile)
    (parseAddr : List UInt8 → Except ε α) (cfg : RunSettings) (st : Start α) : Prop where
  wgDir : cfg.wgDir ≠ []
  kind : parseKind (ε := ε) cfg.defKind = .ok st.dkind
  wg : wgStage fs loadBytes cfg.wgParseMode cfg.wgDir = .ok st.wcfgs
  wgDefault : ¬(st.dkind = .wireGuard ∧ st.wcfgs.length = 0)
  randomise : ¬(cfg.randomiseKinds = true ∧ (st.wcfgs.length = 0 ∨ cfg.torN = 0))
  dns : parseAddr cfg.wgDNS = .ok st.wgdns

theorem run_ok {fs : FileSystem ε} {loadBytes : List UInt8 → Except ε IniFile}
    {parseAddr : List UInt8 → Except ε α} {cfg : RunSettings} {st : Start α}
    (h : run fs loadBytes parseAddr cfg = .ok st) : Passed fs loadBytes parseAddr cfg st := by
  unfold run at h
  split_ifs at h with h1
  split at h
  · cases h
  next dkind hk =>
    split at h
    · cases h
    next wcfgs hw =>
      split_ifs at h with h2 h3
      split at h
      · cases h
      next wgdns ha =>
        cases h
        exact ⟨h1, hk, hw, h2, h3, ha⟩

theorem mapM_length {f : α → Except ε β} {l : List α} {r : List β} (h : l.mapM f = .ok r) :
    r.length = l.length := by
  induction l generalizing r with
  | nil => rw [List.mapM_nil] at h; cases h; rfl
  | cons a l ih =>
    rw [List.mapM_cons] at h
    cases ha : f a with
    | error e => rw [ha] at h; cases h
    | ok b =>
      cases hl : l.mapM f with
      | error e => rw [ha, hl] at h; cases h
      | ok bs => rw [ha, hl] at h; cases h; simp [ih hl]

theorem runGates_ok {newWG : WGConfigFile → Except ε β} {newTor : Nat → Except ε β}
    {cfg : RunSettings} {st : Start α} {tgs wgs : List β}
    (h : runGates newWG newTor cfg st = .ok (tgs, wgs)) :
    wgs.length = st.wcfgs.length ∧ tgs.length = cfg.torN.toNat := by
  unfold runGates at h
  split at h
  · cases h
  next wgs' hw =>
    split at h
    · cases h
    next tgs' ht =>
      cases h
      exact ⟨mapM_length hw, (mapM_length ht).trans (List.length_range _)⟩

/-- What the checks of `run` give the set `RunFn` builds, for every settings,
    file system, `ini` library and address parser, and every outcome of the
    gates' starts: a known default kind, one WireGuard gate per configuration
    and `cfg.torN` Tor gates (none when it is negative). A WireGuard default
    has a WireGuard gate. Randomised kinds have a WireGuard gate, and a Tor gate
    exactly when `cfg.torN` is not negative: the check `cfg.torN == 0` lets a
    negative count through. -/
theorem run_started {fs : FileSystem ε} {loadBytes : List UInt8 → Except ε IniFile}
    {parseAddr : List UInt8 → Except ε α} {cfg : RunSettings} {st : Start α}
    {newWG : WGConfigFile → Except ε β} {newTor : Nat → Except ε β} {tgs wgs : List β}
    (h : run fs loadBytes parseAddr cfg = .ok st) (hg : runGates newWG newTor cfg st = .ok (tgs, wgs)) :
    let c := runGateConfig cfg st
    c.default ≠ .unknown ∧ wgs.length = st.wcfgs.length ∧ tgs.length = cfg.torN.toNat ∧
    (c.default = .wireGuard → wgs ≠ []) ∧
    (c.randomiseKinds = true → wgs ≠ [] ∧ (tgs = [] ↔ cfg.torN < 0)) := by
  have hp := run_ok h
  obtain ⟨hw, ht⟩ := runGates_ok hg
  refine ⟨parseKind_ne_unknown hp.kind, hw, ht, fun hd => ?_, fun hr => ?_⟩
  · have hn : st.wcfgs.length ≠ 0 := fun h0 => hp.wgDefault ⟨hd, h0⟩
    rw [← List.length_pos, hw]
    omega
  · have hn : st.wcfgs.length ≠ 0 ∧ cfg.torN ≠ 0 := by
      simpa only [show cfg.randomiseKinds = true from hr, true_and, not_or] using hp.randomise
    rw [← List.length_pos, hw, ← List.length_eq_zero, ht]
    omega

/-- The environment that sets `PUMPE_WG_DIR` and nothing else. -/
def wgDirEnv : Env := fun key => if key = "PUMPE_WG_DIR" then utf8 "/etc/wireguard" else []

/-- The file system with one empty directory. -/
def emptyDirFs : FileSystem Unit := ⟨fun _ => .ok [], fun _ _ => .error ()⟩

/-- The defaults over an empty WireGuard directory: Tor by default, four Tor gates. -/
theorem run_started_defaults :
    run emptyDirFs (fun _ => .ok ⟨[]⟩) (fun _ => .ok ()) (newRunSettingsFromEnv wgDirEnv) =
        .ok ⟨.tor, [], ()⟩ ∧
      runGates (fun _ => .ok 0) (fun i => .ok i) (newRunSettingsFromEnv wgDirEnv) ⟨.tor, [], ()⟩ =
        (.ok ([0, 1, 2, 3], []) : Except Unit _) ∧
      let c := runGateConfig (newRunSettingsFromEnv wgDirEnv) ⟨.tor, [], ()⟩
      c.default ≠ .unknown ∧ ([] : List Nat).length = ([] : List WGConfigFile).length ∧
      [0, 1, 2, 3].length = (newRunSettingsFromEnv wgDirEnv).torN.toNat ∧
      (c.default = .wireGuard → ([] : List Nat) ≠ []) ∧
      (c.randomiseKinds = true → ([] : List Nat) ≠ [] ∧
        ([0, 1, 2, 3] = [] ↔ (newRunSettingsFromEnv wgDirEnv).torN < 0)) :=
  have h : run emptyDirFs (fun _ => .ok ⟨[]⟩) (fun _ => .ok ()) (newRunSettingsFromEnv wgDirEnv) =
      .ok ⟨.tor, [], ()⟩ := rfl
  have hg : runGates (fun _ => .ok 0) (fun i => .ok i) (newRunSettingsFromEnv wgDirEnv)
      ⟨.tor, [], ()⟩ = (.ok ([0, 1, 2, 3], []) : Except Unit _) := rfl
  ⟨h, hg, run_started h hg⟩

theorem newRunSettingsFromEnv_defKind_tor (env : Env) :
    (newRunSettingsFromEnv env).defKind = utf8 "tor" ↔
      env "PUMPE_DEFAULT_KIND" = [] ∨ env "PUMPE_DEFAULT_KIND" = utf8 "tor" := by
  by_cases h : env "PUMPE_DEFAULT_KIND" = [] <;> simp [newRunSettingsFromEnv, h]

/-- The Tor gates of the set `main` starts, for every environment, file system,
    `ini` library and address parser, and every outcome of the gates' starts.
    Tor is the default kind exactly when `PUMPE_DEFAULT_KIND` is unset or
    `tor`, and then the set has four Tor gates when `PUMPE_TOR_NUM` is unset,
    zero or not a number, and otherwise as many as it holds: none when that is
    negative. -/
theorem startup_tor_gates {env : Env} {fs : FileSystem ε}
    {loadBytes : List UInt8 → Except ε IniFile} {parseAddr : List UInt8 → Except ε α}
    {st : Start α} {newWG : WGConfigFile → Except ε β} {newTor : Nat → Except ε β}
    {tgs wgs : List β} (h : run fs loadBytes parseAddr (newRunSettingsFromEnv env) = .ok st)
    (hg : runGates newWG newTor (newRunSettingsFromEnv env) st = .ok (tgs, wgs)) :
    (st.dkind = .tor ↔ env "PUMPE_DEFAULT_KIND" = [] ∨ env "PUMPE_DEFAULT_KIND" = utf8 "tor") ∧
    (st.dkind = .tor →
      let n := (atoi (env "PUMPE_TOR_NUM")).1
      tgs.length = if n = 0 then 4 else n.toNat) := by
  have hk := (run_ok h).kind
  have htor : st.dkind = .tor ↔ (newRunSettingsFromEnv env).defKind = utf8 "tor" := by
    rw [← parseKind_eq_tor (ε := ε), hk]
    exact ⟨congrArg _, fun e => by injection e⟩
  refine ⟨htor.trans (newRunSettingsFromEnv_defKind_tor env), fun hd => ?_⟩
  have hdef := htor.1 hd
  rw [(runGates_ok hg).2]
  simp only [newRunSettingsFromEnv] at hdef ⊢
  simp only [hdef, true_and]
  split_ifs <;> rfl

/-- The defaults again: the four Tor gates of an unset `PUMPE_TOR_NUM`. -/
theorem startup_tor_gates_defaults :
    run emptyDirFs (fun _ => .ok ⟨[]⟩) (fun _ => .ok ()) (newRunSettingsFromEnv wgDirEnv) =
        .ok ⟨.tor, [], ()⟩ ∧
      runGates (fun _ => .ok 0) (fun i => .ok i) (newRunSettingsFromEnv wgDirEnv) ⟨.tor, [], ()⟩ =
        (.ok ([0, 1, 2, 3], []) : Except Unit _) ∧
      (Kind.tor = .tor ↔ wgDirEnv "PUMPE_DEFAULT_KIND" = [] ∨
        wgDirEnv "PUMPE_DEFAULT_KIND" = utf8 "tor") ∧
      (Kind.tor = .tor →
        let n := (atoi (wgDirEnv "PUMPE_TOR_NUM")).1
        [0, 1, 2, 3].length = if n = 0 then 4 else n.toNat) :=
  have h : run emptyDirFs (fun _ => .ok ⟨[]⟩) (fun _ => .ok ()) (newRunSettingsFromEnv wgDirEnv) =
      .ok ⟨.tor, [], ()⟩ := rfl
  have hg : runGates (fun _ => .ok 0) (fun i => .ok i) (newRunSettingsFromEnv wgDirEnv)
      ⟨.tor, [], ()⟩ = (.ok ([0, 1, 2, 3], []) : Except Unit _) := rfl
  ⟨h, hg, startup_tor_gates h hg⟩

end Pumpe.Cmd
