-- SUMMARY: The parsing of WireGuard configuration files: splitTrimString, parseWGConfigINI over the sections the ini library loads, ParseWGConfig, and parseWGConfigsDir/ParseWGConfigs with the three parse modes, over Go's wrapped and joined errors.
import Pumpe.Gate.WireGuard
import Pumpe.Go.Strings

/-!
# WireGuard configuration files

`ParseWGConfigs(mode, dir)` lists the directory and parses each regular file
with `ParseWGConfig`: the file's bytes go to the `ini` library, and
`parseWGConfigINI` reads the `Interface` and `Peer` sections, whose names and
keys the library matches up to case, refusing a missing section or an empty
field with the error that names it. `Address` and
`AllowedIPs` are lists, split at commas and trimmed by `splitTrimString`. The
file system and the `ini` library are parameters of the model: it reads what
they return.

`parseWGConfigsDir` handles a file that fails by the mode:
`WGParseModeIgnore` skips it, `WGParseModeReport` skips it and keeps its error
wrapped with the file's name, to return `errors.Join` of them with the configs
that parsed, and every other mode, `WGParseModeStop` among them, returns the
file's error at once.

* `splitTrimString_tokens`, `splitTrimString_intercalate`: the entries of a
  list are non-empty, comma-free and trimmed, and such entries joined by commas
  read back as themselves.
* `parseWGConfigINI_valid`, `parseWGConfigINI_toIni`: what the parser accepts
  is a well-formed configuration, and a well-formed configuration, loaded as
  the sections that hold its fields, reads back as itself.
* `parseWGConfigsDir_modes`: the configs and the error each mode returns, for
  every listing and every outcome of the files.
-/

namespace Pumpe.Gate

open Pumpe.Go Pumpe.Go.Strings

-- ---------------------------------------------------------------------------
-- Errors
-- ---------------------------------------------------------------------------

/-- The errors of the configuration path: an error of the file system or of the
    `ini` library (`ε`), a `model.Error`, the `*fmt.wrapError` of
    `fmt.Errorf("failed to parse file: %s: %w", name, err)`, which unwraps to one
    error, and the `*joinError` of `errors.Join`, which unwraps to a list. -/
inductive ConfigError (ε : Type)
  | base (e : ε)
  | model (msg : String)
  | wrap (name : List UInt8) (e : ConfigError ε)
  | join (errs : List (ConfigError ε))

variable {ε : Type}

/-- `model.UnwrapErrs`: the errors of a `joinError`, `nil` for any other error. -/
def unwrapErrs : ConfigError ε → Option (List (ConfigError ε))
  | .join errs => some errs
  | _ => none

/-- `ErrInvalidWGConfig`. -/
def errInvalidWGConfig : ConfigError ε := .model "gate: invalid wireguard config"

/-- `ErrInvalidWGIfacePvtKey`. -/
def errInvalidWGIfacePvtKey : ConfigError ε := .model "gate: invalid wireguard iface private key"

/-- `ErrInvalidWGIfaceAddr`. -/
def errInvalidWGIfaceAddr : ConfigError ε := .model "gate: invalid wireguard iface address"

/-- `ErrInvalidWGPeerPubKey`. -/
def errInvalidWGPeerPubKey : ConfigError ε := .model "gate: invalid wireguard peer public key"

/-- `ErrInvalidWGPeerEndpoint`. -/
def errInvalidWGPeerEndpoint : ConfigError ε := .model "gate: invalid wireguard peer endpoint"

/-- `ErrInvalidWGPeerAllowedIP`. -/
def errInvalidWGPeerAllowedIP : ConfigError ε := .model "gate: invalid wireguard peer allowed_ip"

-- ---------------------------------------------------------------------------
-- One file
-- ---------------------------------------------------------------------------

/-- `splitTrimString(raw, sep)` with a one-byte `sep` (both calls pass `","`):
    the parts of `strings.Split`, trimmed by `strings.TrimSpace`, the empty ones
    left out. -/
def splitTrimString (raw : List UInt8) (sep : UInt8) : List (List UInt8) :=
  ((raw.splitOn sep).map trimSpace).filter (· ≠ [])

/-- What `parseWGConfigINI` reads of a file the `ini` library loaded: each
    section by its name, with the value of each of its keys, as the library
    returns them. -/
structure IniFile where
  sections : List (String × List (String × List UInt8))

/-- Two names the `ini` library takes for one: equal once each letter is
    lower-cased. -/
def sameName (a b : String) : Bool := a.data.map Char.toLower == b.data.map Char.toLower

/-- `File.GetSection`: the first section whose name is `name` up to case, `nil`
    if there is none. -/
def IniFile.getSection (f : IniFile) (name : String) : Option (List (String × List UInt8)) :=
  (f.sections.find? fun sec => sameName sec.1 name).map Prod.snd

/-- `Section.Get`: the value of the first key that is `key` up to case, the
    empty string if there is none. -/
def sectionGet (sec : List (String × List UInt8)) (key : String) : List UInt8 :=
  ((sec.find? fun kv => sameName kv.1 key).map Prod.snd).getD []

/-- A `WGConfig` as `parseWGConfigINI` fills it: the fields `toProto` reads, and
    `Iface.Address`. -/
structure WGConfigFile extends WGConfig where
  address : List (List UInt8)

/-- `parseWGConfigINI`, over `ini.LoadBytes` (`loadBytes`). -/
def parseWGConfigINI (loadBytes : List UInt8 → Except ε IniFile) (data : List UInt8) :
    Except (ConfigError ε) WGConfigFile :=
  match loadBytes data with
  | .error e => .error (.base e)
  | .ok f =>
    match f.getSection "Interface", f.getSection "Peer" with
    | some siface, some speer =>
      let privateKey := sectionGet siface "PrivateKey"
      if privateKey = [] then .error errInvalidWGIfacePvtKey else
      let address := splitTrimString (sectionGet siface "Address") 44
      if address = [] then .error errInvalidWGIfaceAddr else
      let publicKey := sectionGet speer "PublicKey"
      if publicKey = [] then .error errInvalidWGPeerPubKey else
      let endpoint := sectionGet speer "Endpoint"
      if endpoint = [] then .error errInvalidWGPeerEndpoint else
      let allowedIPs := splitTrimString (sectionGet speer "AllowedIPs") 44
      if allowedIPs = [] then .error errInvalidWGPeerAllowedIP else
      .ok { privateKey, publicKey, endpoint, allowedIPs, address }
    | _, _ => .error errInvalidWGConfig

/-- An entry of a list as `splitTrimString` returns it: not empty, no
    separator, nothing `TrimSpace` would remove. -/
def Token (sep : UInt8) (t : List UInt8) : Prop := t ≠ [] ∧ sep ∉ t ∧ trimSpace t = t

/-- What `parseWGConfigINI` accepts: the keys and the endpoint are not empty,
    and the two lists are not empty and hold tokens. -/
structure WGConfigFile.Valid (c : WGConfigFile) : Prop where
  privateKey : c.privateKey ≠ []
  address : c.address ≠ [] ∧ ∀ a ∈ c.address, Token 44 a
  publicKey : c.publicKey ≠ []
  endpoint : c.endpoint ≠ []
  allowedIPs : c.allowedIPs ≠ [] ∧ ∀ ip ∈ c.allowedIPs, Token 44 ip

/-- The sections the `ini` library loads from a file that holds `c`, with its
    lists written with commas. -/
def WGConfigFile.toIni (c : WGConfigFile) : IniFile where
  sections :=
    [("Interface", [("PrivateKey", c.privateKey), ("Address", [44].intercalate c.address)]),
     ("Peer", [("PublicKey", c.publicKey), ("Endpoint", c.endpoint),
       ("AllowedIPs", [44].intercalate c.allowedIPs)])]

theorem splitTrimString_tokens (raw : List UInt8) (sep : UInt8) :
    ∀ t ∈ splitTrimString raw sep, Token sep t := by
  intro t ht
  simp only [splitTrimString, List.mem_filter, List.mem_map, decide_eq_true_eq] at ht
  obtain ⟨⟨p, hp, rfl⟩, hne⟩ := ht
  exact ⟨hne, fun h => not_mem_of_mem_splitOn sep hp ((trimSpace_isInfix p).subset h),
    trimSpace_trimSpace p⟩

theorem splitTrimString_intercalate {ts : List (List UInt8)} {sep : UInt8}
    (h : ∀ t ∈ ts, Token sep t) : splitTrimString ([sep].intercalate ts) sep = ts := by
  by_cases hne : ts = []
  · subst hne; simp [splitTrimString, List.intercalate, trimSpace_nil]
  · rw [splitTrimString, List.splitOn_intercalate ts sep (fun t ht => (h t ht).2.1) hne,
      List.map_congr_left (fun t ht => (h t ht).2.2), List.map_id']
    exact List.filter_eq_self.2 fun t ht => by simpa using (h t ht).1

theorem parseWGConfigINI_valid {loadBytes : List UInt8 → Except ε IniFile} {data : List UInt8}
    {c : WGConfigFile} (h : parseWGConfigINI loadBytes data = .ok c) : c.Valid := by
  unfold parseWGConfigINI at h
  split at h
  · cases h
  split at h
  · dsimp only at h
    split_ifs at h with h1 h2 h3 h4 h5
    cases h
    exact ⟨h1, ⟨h2, splitTrimString_tokens _ _⟩, h3, h4, ⟨h5, splitTrimString_tokens _ _⟩⟩
  · cases h

theorem parseWGConfigINI_toIni {loadBytes : List UInt8 → Except ε IniFile} {data : List UInt8}
    {c : WGConfigFile} (hc : c.Valid) (h : loadBytes data = .ok c.toIni) :
    parseWGConfigINI loadBytes data = .ok c := by
  simp +decide [parseWGConfigINI, h, WGConfigFile.toIni, IniFile.getSection, sectionGet,
    splitTrimString_intercalate hc.address.2, splitTrimString_intercalate hc.allowedIPs.2,
    hc.privateKey, hc.address.1, hc.publicKey, hc.endpoint, hc.allowedIPs.1]

/-- The format of one file: what `parseWGConfigINI` accepts is a well-formed
    configuration, and a well-formed configuration, loaded as the sections that
    hold its fields with its lists joined by commas, reads back as itself. -/
theorem parseWGConfigINI_round_trip (loadBytes : List UInt8 → Except ε IniFile) :
    (∀ data c, parseWGConfigINI loadBytes data = .ok c → c.Valid) ∧
    (∀ data c, c.Valid → loadBytes data = .ok c.toIni → parseWGConfigINI loadBytes data = .ok c) :=
  ⟨fun _ _ => parseWGConfigINI_valid, fun _ _ => parseWGConfigINI_toIni⟩

/-- A configuration with two addresses. -/
def twoAddressConfig : WGConfigFile :=
  { privateKey := utf8 "k", publicKey := utf8 "p", endpoint := utf8 "e:1",
    allowedIPs := [utf8 "0.0.0.0/0"], address := [utf8 "10.0.0.2/32", utf8 "fd00::2/128"] }

theorem twoAddressConfig_valid : twoAddressConfig.Valid := by
  have htok : ∀ t : List UInt8, t ≠ [] ∧ 44 ∉ t ∧ Bare spaceRunes t ∧
      Bare (spaceRunes.map List.reverse) t.reverse → Token 44 t :=
    fun t ⟨h₁, h₂, h₃, h₄⟩ => ⟨h₁, h₂, trimSpace_of_bare h₃ h₄⟩
  refine ⟨by decide, ⟨by decide, ?_⟩, by decide, by decide, ⟨by decide, ?_⟩⟩ <;>
    exact fun t ht => htok t (by revert t; decide)

/-- The configuration read back from its INI form. -/
theorem parseWGConfigINI_round_trip_twoAddress :
    twoAddressConfig.Valid ∧
      parseWGConfigINI (ε := Unit) (fun _ => .ok twoAddressConfig.toIni) [] = .ok twoAddressConfig :=
  ⟨twoAddressConfig_valid,
    (parseWGConfigINI_round_trip _).2 [] _ twoAddressConfig_valid rfl⟩

/-- `fs.DirEntry`: its name, and whether `Type().IsRegular()`. -/
structure DirEntry where
  name : List UInt8
  isRegular : Bool

/-- The file system as the parsing reads it: `os.ReadDir`, and `os.Open` with
    `io.ReadAll` on `filepath.Join(dir, name)`. -/
structure FileSystem (ε : Type) where
  readDir : List UInt8 → Except ε (List DirEntry)
  readFile : List UInt8 → List UInt8 → Except ε (List UInt8)

/-- `ParseWGConfig(filepath.Join(dpath, name))`. -/
def parseWGConfig (fs : FileSystem ε) (loadBytes : List UInt8 → Except ε IniFile)
    (dpath name : List UInt8) : Except (ConfigError ε) WGConfigFile :=
  match fs.readFile dpath name with
  | .error e => .error (.base e)
  | .ok data => parseWGConfigINI loadBytes data

-- ---------------------------------------------------------------------------
-- A directory
-- ---------------------------------------------------------------------------

/-- `WGParseModeReport`: the `int` value of the mode. -/
def wgParseModeReport : Int := 0

/-- `WGParseModeStop`. -/
def wgParseModeStop : Int := 1

/-- `WGParseModeIgnore`. -/
def wgParseModeIgnore : Int := 2

/-- The loop of `parseWGConfigsDir` over the directory's entries, with the
    configs parsed so far and the errors kept so far; `parse` is
    `ParseWGConfig` on an entry's name. -/
def parseWGConfigsDirLoop (parse : List UInt8 → Except (ConfigError ε) WGConfigFile) (mode : Int) :
    List DirEntry → List WGConfigFile → List (ConfigError ε) →
      List WGConfigFile × Option (ConfigError ε)
  | [], result, errs => if errs.length > 0 then (result, some (.join errs)) else (result, none)
  | f :: files, result, errs =>
    if !f.isRegular then parseWGConfigsDirLoop parse mode files result errs
    else match parse f.name with
      | .error err =>
        if mode = wgParseModeIgnore then parseWGConfigsDirLoop parse mode files result errs
        else if mode = wgParseModeReport then
          parseWGConfigsDirLoop parse mode files result (errs ++ [.wrap f.name err])
        else ([], some err)
      | .ok cfg => parseWGConfigsDirLoop parse mode files (result ++ [cfg]) errs

/-- `parseWGConfigsDir`. -/
def parseWGConfigsDir (fs : FileSystem ε) (loadBytes : List UInt8 → Except ε IniFile) (mode : Int)
    (dpath : List UInt8) (files : List DirEntry) : List WGConfigFile × Option (ConfigError ε) :=
  parseWGConfigsDirLoop (parseWGConfig fs loadBytes dpath) mode files [] []

/-- `ParseWGConfigs`, which is `parseWGConfigs`: `os.ReadDir`, then
    `parseWGConfigsDir`. -/
def parseWGConfigs (fs : FileSystem ε) (loadBytes : List UInt8 → Except ε IniFile) (mode : Int)
    (dir : List UInt8) : List WGConfigFile × Option (ConfigError ε) :=
  match fs.readDir dir with
  | .error e => ([], some (.base e))
  | .ok files => parseWGConfigsDir fs loadBytes mode dir files

section Listing

variable (parse : List UInt8 → Except (ConfigError ε) WGConfigFile)

/-- The configs of the regular files that parse, in the directory's order. -/
def parsedConfigs (files : List DirEntry) : List WGConfigFile :=
  (files.filter (·.isRegular)).filterMap fun f => (parse f.name).toOption

/-- The errors of the regular files that do not parse, each wrapped with the
    file's name, in the directory's order. -/
def failedFiles (files : List DirEntry) : List (ConfigError ε) :=
  (files.filter (·.isRegular)).filterMap fun f =>
    match parse f.name with
    | .error e => some (.wrap f.name e)
    | .ok _ => none

/-- The error of the first regular file that does not parse. -/
def firstFailure (files : List DirEntry) : Option (ConfigError ε) :=
  (files.filter (·.isRegular)).findSome? fun f =>
    match parse f.name with
    | .error e => some e
    | .ok _ => none

/-- The joined errors the loop returns at its end. -/
def joinedOrNil (errs : List (ConfigError ε)) : Option (ConfigError ε) :=
  if errs.length > 0 then some (.join errs) else none

theorem loop_nil (mode : Int) (result : List WGConfigFile) (errs : List (ConfigError ε)) :
    parseWGConfigsDirLoop parse mode [] result errs = (result, joinedOrNil errs) := by
  simp only [parseWGConfigsDirLoop, joinedOrNil]; split_ifs <;> rfl

theorem loop_ignore (files : List DirEntry) (result : List WGConfigFile) (errs : List (ConfigError ε)) :
    parseWGConfigsDirLoop parse wgParseModeIgnore files result errs =
      (result ++ parsedConfigs parse files, joinedOrNil errs) := by
  induction files generalizing result with
  | nil => simp [loop_nil, parsedConfigs]
  | cons f files ih =>
    cases hf : f.isRegular
    · simp [parseWGConfigsDirLoop, hf, ih, parsedConfigs]
    · cases hp : parse f.name <;> simp [parseWGConfigsDirLoop, hf, hp, ih, parsedConfigs, Except.toOption]

theorem loop_report (files : List DirEntry) (result : List WGConfigFile) (errs : List (ConfigError ε)) :
    parseWGConfigsDirLoop parse wgParseModeReport files result errs =
      (result ++ parsedConfigs parse files, joinedOrNil (errs ++ failedFiles parse files)) := by
  induction files generalizing result errs with
  | nil => simp [loop_nil, parsedConfigs, failedFiles]
  | cons f files ih =>
    have hri : wgParseModeReport ≠ wgParseModeIgnore := by decide
    cases hf : f.isRegular
    · simp [parseWGConfigsDirLoop, hf, ih, parsedConfigs, failedFiles]
    · cases hp : parse f.name <;>
        simp [parseWGConfigsDirLoop, hf, hp, ih, parsedConfigs, failedFiles, Except.toOption, hri]

theorem loop_stop {mode : Int} (hi : mode ≠ wgParseModeIgnore) (hr : mode ≠ wgParseModeReport)
    (files : List DirEntry) (result : List WGConfigFile) (errs : List (ConfigError ε)) :
    parseWGConfigsDirLoop parse mode files result errs =
      match firstFailure parse files with
      | some e => ([], some e)
      | none => (result ++ parsedConfigs parse files, joinedOrNil errs) := by
  induction files generalizing result with
  | nil => simp [loop_nil, parsedConfigs, firstFailure]
  | cons f files ih =>
    cases hf : f.isRegular
    · simp [parseWGConfigsDirLoop, hf, ih, parsedConfigs, firstFailure]
    · cases hp : parse f.name <;>
        simp [parseWGConfigsDirLoop, hf, hp, ih, parsedConfigs, firstFailure, Except.toOption, hi, hr]

/-- `Stop` meets a failing file exactly when `Report` has an error to report. -/
theorem firstFailure_eq_none_iff (files : List DirEntry) :
    firstFailure parse files = none ↔ failedFiles parse files = [] := by
  rw [firstFailure, failedFiles, List.findSome?_eq_none_iff, List.filterMap_eq_nil_iff]
  refine forall₂_congr fun f _ => ?_
  cases parse f.name <;> simp

end Listing

/-- What `parseWGConfigsDir` returns in each mode, for every listing and every
    outcome of its files. `WGParseModeIgnore`: the configs of the regular files
    that parse, in the listing's order, and no error. `WGParseModeReport`: the
    same configs, and `errors.Join` of the errors of the regular files that
    fail, each wrapped with the file's name, or no error if none fails. Every
    other mode, `WGParseModeStop` among them: the error of the first regular
    file that fails and no config, or the same configs if none fails; which
    happens exactly when `WGParseModeReport` reports no error. -/
theorem parseWGConfigsDir_modes (fs : FileSystem ε) (loadBytes : List UInt8 → Except ε IniFile)
    (dpath : List UInt8) (files : List DirEntry) :
    parseWGConfigsDir fs loadBytes wgParseModeIgnore dpath files =
      (parsedConfigs (parseWGConfig fs loadBytes dpath) files, none) ∧
    parseWGConfigsDir fs loadBytes wgParseModeReport dpath files =
      (parsedConfigs (parseWGConfig fs loadBytes dpath) files,
        joinedOrNil (failedFiles (parseWGConfig fs loadBytes dpath) files)) ∧
    (∀ mode, mode ≠ wgParseModeIgnore → mode ≠ wgParseModeReport →
      parseWGConfigsDir fs loadBytes mode dpath files =
        match firstFailure (parseWGConfig fs loadBytes dpath) files with
        | some e => ([], some e)
        | none => (parsedConfigs (parseWGConfig fs loadBytes dpath) files, none)) ∧
    (firstFailure (parseWGConfig fs loadBytes dpath) files = none ↔
      failedFiles (parseWGConfig fs loadBytes dpath) files = []) := by
  refine ⟨?_, ?_, fun mode hi hr => ?_, firstFailure_eq_none_iff _ files⟩
  · simp [parseWGConfigsDir, loop_ignore, joinedOrNil]
  · simp [parseWGConfigsDir, loop_report]
  · simp only [parseWGConfigsDir, loop_stop _ hi hr, List.nil_append]
    rfl

/-- A directory with a configuration, a subdirectory and a file with no `Peer`
    section. -/
def sampleDir : List DirEntry :=
  [⟨utf8 "a.conf", true⟩, ⟨utf8 "sub", false⟩, ⟨utf8 "b.conf", true⟩]

/-- The file system of `sampleDir`, each file's bytes its name. -/
def sampleFs : FileSystem Unit := ⟨fun _ => .ok sampleDir, fun _ name => .ok name⟩

/-- The `ini` library on the files of `sampleDir`. -/
def sampleLoad (data : List UInt8) : Except Unit IniFile :=
  if data = utf8 "a.conf" then .ok twoAddressConfig.toIni else .ok ⟨[("Interface", [])]⟩

/-- `sampleDir` in `WGParseModeStop`: the error of `b.conf`, and no config. -/
theorem parseWGConfigsDir_modes_sampleDir :
    wgParseModeStop ≠ wgParseModeIgnore ∧ wgParseModeStop ≠ wgParseModeReport ∧
      parseWGConfigsDir sampleFs sampleLoad wgParseModeStop [] sampleDir =
        ([], some errInvalidWGConfig) := by
  have ha : parseWGConfig sampleFs sampleLoad [] (utf8 "a.conf") = .ok twoAddressConfig :=
    show parseWGConfigINI sampleLoad (utf8 "a.conf") = _ from
      parseWGConfigINI_toIni twoAddressConfig_valid rfl
  have hb : parseWGConfig sampleFs sampleLoad [] (utf8 "b.conf") = .error errInvalidWGConfig := rfl
  refine ⟨by decide, by decide,
    ((parseWGConfigsDir_modes sampleFs sampleLoad [] sampleDir).2.2.1 _ (by decide) (by decide)).trans
      ?_⟩
  simp [firstFailure, sampleDir, ha, hb]

end Pumpe.Gate
