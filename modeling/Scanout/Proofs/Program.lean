/-
**What the program makes of failures.**

Much can go wrong before a display is listed: there is no configuration, or none that can be read or parsed; a
node cannot be opened, has no screens or does not become a device.  The program goes on in all these cases.
The configuration becomes the default one, the node leaves no trace in the registry, and the displays that
are found are numbered from 0 without a gap.  What is printed, as text or as JSON, shows one record for each
of them.  What remains are two reasons to fail: there is no list of nodes at all, or a path is to be written as
JSON and is not text.

Main definitions:

* `Scanout.foundConfig`, `Scanout.loadedConfig` — the configuration in the file that settings ask for, and
  the one that is used;
* `Scanout.Action.OnlyLogs` — an action does nothing but log lines;
* `Scanout.Registry.Consecutive` — a sound registry whose displays are numbered without a gap;
* `Scanout.Contained` — how the program ends that lists displays.

Main results:

* `Scanout.onlyLogs_loadConfig` — loading a configuration never fails and only logs;
* `Scanout.Registry.consecutive_probeAll` — **whatever nodes do, the registry stays consecutive**;
* `Scanout.Registry.probe_cases`, `Scanout.writeListing_cases` — how a probe and a listing end;
* `Scanout.listDisplays_cases` — there is nothing to probe, or a consecutive registry is listed;
* `Scanout.runProgram_contained` — **failures are contained**.
-/

import Mathlib.Tactic.ByContra
import Scanout.Program
import Scanout.Proofs.Registry.Listing
import Scanout.Proofs.Registry.Probing

set_option relaxedAutoImplicit false
set_option autoImplicit false

namespace Scanout

open Text (Bytes Json Reader)

variable {κ σ : Type} {H : Host κ σ} {gpus : GpuAnswers} {env : Environment} {settings : Settings}
variable {s : σ}

/-! ### Which configuration is used -/

/-- The configuration in the file at a path, if it can be read and parsed. -/
def FileTree.config? (t : FileTree) (path : Path) : Option Config :=
  match t.readText path with
  | .ok text => (Config.parse text).toOption
  | .error _ => none

/-- The configuration in the file that settings ask for, or the default one. -/
def foundConfig (env : Environment) (settings : Settings) : Config :=
  ((configPath? env settings).bind env.files.config?).getD .default

/-- The configuration that is used: nodes on the command line count instead of those in the file. -/
def loadedConfig (env : Environment) (settings : Settings) : Config :=
  if settings.devices.isEmpty then foundConfig env settings
  else { foundConfig env settings with devices := settings.devices }

theorem config?_of_not_contains {t : FileTree} {path : Path} (h : t.contains path = false) :
    t.config? path = none := by
  rw [FileTree.contains] at h
  cases hfind : t.find path with
  | ok entry =>
      rw [hfind] at h
      cases h
  | error e =>
      rw [FileTree.config?, FileTree.readText, hfind]
      rfl

theorem config?_eq_none_iff {t : FileTree} {path : Path} : t.config? path = none ↔
    ∀ text, t.readText path = .ok text → ∃ e, Config.parse text = .error e := by
  rw [FileTree.config?]
  cases t.readText path with
  | error e => simp
  | ok text =>
      cases hparse : Config.parse text with
      | error e => simp [hparse, Except.toOption]
      | ok c => simp [hparse, Except.toOption]

theorem repeated_nil {α : Type} (r : Reader α) : Reader.repeated r [] = ([], []) := by
  rw [Reader.repeated]
  cases r [] with
  | none => rfl
  | some x => rfl

theorem document?_empty : Kdl.document? "" = some [] := by
  have hnodes : Kdl.nodes ("".toList.length + 1) "".toList = some ([], []) := by
    change Kdl.nodes 1 [] = _
    simp only [Kdl.nodes, bind, StateT.bind, Reader.many, repeated_nil, Option.bind_some]
    rfl
  rw [Kdl.document?, hnodes]

/-- An empty text is the default configuration. -/
theorem parse_empty : Config.parse "" = .ok .default := by
  rw [Config.parse, document?_empty]
  rfl

/-- Where nothing can be read and parsed, or nothing is written, the configuration is the default one. -/
theorem loadedConfig_congr {env' : Environment} (hpath : configPath? env' settings = configPath? env settings)
    (hfile : ∀ path, configPath? env settings = some path → env.files.config? path = none ∧
      env'.files.readText path = .ok "") : loadedConfig env' settings = loadedConfig env settings := by
  have hfound : foundConfig env' settings = foundConfig env settings := by
    rw [foundConfig, foundConfig, hpath]
    cases hconfig : configPath? env settings with
    | none => rfl
    | some path =>
        obtain ⟨hnone, hempty⟩ := hfile path hconfig
        have hdefault : env'.files.config? path = some .default := by
          rw [FileTree.config?, hempty]
          exact congrArg Except.toOption parse_empty
        rw [Option.bind_some, Option.bind_some, hnone, hdefault]
        rfl
  rw [loadedConfig, loadedConfig, hfound]

/-- An action ends with this value, in the state in which it began, and only logs. -/
def Action.OnlyLogs {α : Type} (x : Action κ σ α) (a : α) : Prop :=
  ∀ s, ∃ lines : List (Level × String), x.run s = ⟨a, s, lines.map fun l => .logged l.1 l.2⟩

section OnlyLogs

variable {α : Type}

theorem onlyLogs_pure (a : α) : (pure a : Action κ σ α).OnlyLogs a := fun _ => ⟨[], rfl⟩

theorem onlyLogs_log (level : Level) (line : String) :
    (Action.log level line : Action κ σ Unit).OnlyLogs () := fun _ => ⟨[(level, line)], rfl⟩

theorem Action.OnlyLogs.bind {β : Type} {x : Action κ σ α} {f : α → Action κ σ β} {a : α} {b : β}
    (hx : x.OnlyLogs a) (hf : (f a).OnlyLogs b) : (x >>= f).OnlyLogs b := by
  intro s
  obtain ⟨before, hbefore⟩ := hx s
  obtain ⟨after, hafter⟩ := hf s
  refine ⟨before ++ after, ?_⟩
  rw [Action.run_bind, hbefore, hafter, List.map_append]

theorem onlyLogs_load (files : FileTree) (path : Path) : ∃ result,
    (Config.load files path : Attempt κ σ LoadError Config).run.OnlyLogs result ∧
      result.toOption = files.config? path := by
  rw [Config.load, FileTree.config?]
  cases files.readText path with
  | error e => exact ⟨_, onlyLogs_pure _, rfl⟩
  | ok text =>
      dsimp only
      cases Config.parse text with
      | error e => exact ⟨_, onlyLogs_pure _, rfl⟩
      | ok c =>
          refine ⟨.ok c, .bind (a := .ok ()) ?_ (onlyLogs_pure _), rfl⟩
          exact .bind (onlyLogs_log _ _) (onlyLogs_pure _)

theorem onlyLogs_loadOrDefault (files : FileTree) (path : Path) :
    (loadOrDefault files path : Action κ σ Config).OnlyLogs ((files.config? path).getD .default) := by
  obtain ⟨result, hload, hresult⟩ := onlyLogs_load (κ := κ) (σ := σ) files path
  rw [loadOrDefault, ← hresult]
  refine hload.bind ?_
  cases result with
  | error e => exact .bind (onlyLogs_log _ _) (onlyLogs_pure _)
  | ok c => exact onlyLogs_pure c

theorem onlyLogs_findConfig : (findConfig env settings : Action κ σ Config).OnlyLogs
    (foundConfig env settings) := by
  rw [findConfig, foundConfig]
  cases configPath? env settings with
  | none => exact .bind (onlyLogs_log _ _) (onlyLogs_pure _)
  | some path =>
      dsimp only [Option.bind_some]
      split
      · next habsent =>
          rw [Bool.and_eq_true, Bool.not_eq_true'] at habsent
          rw [config?_of_not_contains habsent.2]
          exact .bind (onlyLogs_log _ _) (onlyLogs_pure _)
      · exact onlyLogs_loadOrDefault env.files path

/-- Loading a configuration never fails and only logs. -/
theorem onlyLogs_loadConfig (env : Environment) (settings : Settings) :
    (loadConfig env settings : Action κ σ Config).OnlyLogs (loadedConfig env settings) :=
  .bind onlyLogs_findConfig (onlyLogs_pure _)

end OnlyLogs

/-! ### What a probe leads to -/

namespace Registry

variable {r : Registry κ} {c : Config} {path : Path}

/-- A sound registry whose displays are numbered from 0 without a gap. -/
structure Consecutive (r : Registry κ) : Prop extends r.Sound where
  displays_eq : r.displays = DisplayId.zero.block r.next.val.toNat

theorem consecutive_empty (scaleWithGpu : Bool) : (empty scaleWithGpu : Registry κ).Consecutive :=
  ⟨⟨wellNumbered_empty scaleWithGpu, fun _ he => nomatch he⟩, rfl⟩

theorem Consecutive.append (h : r.Consecutive) (hfree : ¬ r.Occupied path) {device : Device κ}
    (hdevice : H.Yields s path r.next device) : (r.append path device).Consecutive := by
  obtain ⟨card, t, t', -, -, hgives⟩ := hdevice
  have hnumbered := Device.numberedFrom_of_gives_init hgives
  have hnew : r.get? path = none := by
    rw [← Option.not_isSome_iff_eq_none, isSome_get?_iff]
    exact hfree
  refine ⟨⟨h.toWellNumbered.append hnew hnumbered, fun e he => ?_⟩, ?_⟩
  · rcases List.mem_append.1 he with hold | hown
    · exact h.complete e hold
    · rw [List.mem_singleton.1 hown]
      exact Device.complete_of_gives_init hgives
  · exact displays_append_eq_block h.displays_eq hnumbered

/-- A node is registered or leaves no trace. -/
theorem consecutive_probeNode (h : r.Consecutive) (c : Config) (path : Path) (s : σ) :
    ((r.probeNode H c path).run s).value.Consecutive := by
  by_cases hregistered : ∃ device, c.ignores path = false ∧ ¬ r.Occupied path ∧
      H.Yields s path r.next device
  · obtain ⟨device, hheeded, hfree, hdevice⟩ := hregistered
    rw [value_probeNode_of_yields hheeded hfree hdevice]
    exact h.append hfree hdevice
  · rw [value_probeNode_of_not fun device hheeded hfree hdevice =>
      hregistered ⟨device, hheeded, hfree, hdevice⟩]
    exact h

/-- **Whatever nodes do, the registry stays consecutive.** -/
theorem consecutive_probeAll (c : Config) (paths : List Path) : ∀ {r : Registry κ} (s : σ),
    r.Consecutive → ((r.probeAll H c paths).run s).value.Consecutive := by
  induction paths with
  | nil => exact fun _ h => h
  | cons path paths ih =>
      intro r s h
      rw [probeAll, Action.run_bind]
      exact ih _ (consecutive_probeNode h c path s)

/-- How a probe ends: it fails only when no nodes are configured and none can be listed. -/
theorem probe_cases (H : Host κ σ) (gpus : GpuAnswers) (c : Config) (s : σ) :
    (∃ cause, c.devices = [] ∧ gpus.nodes c.seatName = .error cause ∧
      (probe H gpus c).run.run s = ⟨.error (.enumeration cause), s, []⟩) ∨
    ∃ paths r t events, Chosen gpus c paths ∧ r.Consecutive ∧
      events.filterMap Event.path? = paths.filter (!c.ignores ·) ∧
      (probe H gpus c).run.run s = ⟨.ok r, t, events⟩ := by
  rcases candidates_cases (κ := κ) gpus c s with
    ⟨cause, hnone, hnodes, hrun⟩ | ⟨paths, lines, hchosen, hlines, hrun⟩
  · refine .inl ⟨cause, hnone, hnodes, ?_⟩
    rw [probe, ExceptT.run_bind, Action.run_bind, hrun]
    rfl
  · obtain ⟨outcome, houtcome⟩ :
        ∃ x, ((empty c.scaleWithGpu).probeAll H c paths).run s = x := ⟨_, rfl⟩
    have hconsecutive := consecutive_probeAll (H := H) c paths s (consecutive_empty c.scaleWithGpu)
    have hopened := opened_probeAll H c paths (empty c.scaleWithGpu) s
    rw [houtcome] at hconsecutive hopened
    refine .inr ⟨paths, outcome.value, outcome.state, lines ++ outcome.events, hchosen, hconsecutive,
      ?_, ?_⟩
    · rw [List.filterMap_append, List.filterMap_eq_nil_iff.2 hlines, hopened, List.nil_append]
    · rw [probe, ExceptT.run_bind, Action.run_bind, hrun]
      simp only [ExceptT.run_lift, map_eq_pure_bind, Action.run_bind, Action.run_pure, List.append_nil,
        houtcome]

/-! ### What is listed -/

namespace Consecutive

variable {K : Kernel κ σ} (h : r.Consecutive)

include h

/-- There is one record for each display, and the displays count from 0. -/
theorem map_toNat_records (s : σ) : ((r.records K).run s).value.map (·.display.val.toNat) =
    List.range r.displayCount := by
  have hlength := h.length_records (K := K) s
  have hdisplays := h.map_display_records (K := K) s
  rw [← List.length_map (·.display), hdisplays, h.displays_eq, DisplayId.length_block] at hlength
  have hnumbers := congrArg (List.map (·.val.toNat)) hdisplays
  rw [List.map_map, h.displays_eq, DisplayId.map_toNat_block r.next.hasRoom_zero_toNat] at hnumbers
  rw [← hlength, List.range_eq_range']
  exact hnumbers

/-- Some record has a path that is not text exactly when some device with a display has one. -/
theorem exists_not_text_iff (s : σ) :
    (∃ record ∈ ((r.records K).run s).value, record.device.text? = none) ↔
      ∃ e ∈ r.entries, 0 < e.2.displayCount ∧ e.1.text? = none := by
  have hpaths := congrArg (List.map (·.device)) (h.map_anonymous_records (K := K) s)
  rw [List.map_map, List.map_flatMap] at hpaths
  have hmem : ∀ path, path ∈ ((r.records K).run s).value.map (·.device) ↔
      ∃ e ∈ r.entries, 0 < e.2.displayCount ∧ e.1 = path := by
    intro path
    refine (Iff.of_eq (congrArg (path ∈ ·) hpaths)).trans ?_
    rw [List.mem_flatMap]
    refine exists_congr fun e => and_congr_right fun he => ?_
    have hcount : e.2.pipelines.length = e.2.displayCount := by
      rw [← List.length_map (·.display), Device.map_display_pipelines (h.complete e he)]
      exact List.length_map _
    rw [List.map_map, List.mem_map, ← hcount, List.length_pos_iff_exists_mem]
    change (∃ p, p ∈ e.2.pipelines ∧ e.1 = path) ↔ _
    exact exists_and_right
  constructor
  · rintro ⟨record, hrecord, htext⟩
    obtain ⟨e, he, hcount, hpath⟩ := (hmem record.device).1 (List.mem_map_of_mem hrecord)
    exact ⟨e, he, hcount, hpath ▸ htext⟩
  · rintro ⟨e, he, hcount, htext⟩
    obtain ⟨record, hrecord, hpath⟩ := List.mem_map.1 ((hmem e.1).2 ⟨e, he, hcount, rfl⟩)
    exact ⟨record, hrecord, hpath ▸ htext⟩

end Consecutive

/-! Records are taken of cards that are open already. -/

theorem about_recordPipelines {K : Kernel κ σ} (path : Path) (device : Device κ) (l : List Pipeline) :
    (recordPipelines K path device l).About K device.card := by
  induction l with
  | nil => exact .pure _
  | cons p l ih => exact .bind device.about_name fun _ => .bind ih fun _ => .pure _

theorem indoors_recordDevices {K : Kernel κ σ} (entries : List (Path × Device κ)) : ∀ s : σ,
    ∀ e ∈ ((recordDevices K entries).run s).events, e.path? = none := by
  induction entries with
  | nil => exact fun _ _ he => nomatch he
  | cons entry entries ih =>
      intro s e he
      rw [recordDevices, Action.run_bind, Action.run_bind] at he
      rcases List.mem_append.1 he with hfirst | hrest
      · exact (about_recordPipelines entry.1 entry.2 _).indoors s e hfirst
      · exact ih _ e (List.append_nil _ ▸ hrest)

theorem indoors_records {K : Kernel κ σ} (r : Registry κ) (s : σ) :
    ∀ e ∈ ((r.records K).run s).events, e.path? = none := by
  intro e he
  rw [records, Action.run_bind] at he
  exact indoors_recordDevices r.entries s e (List.append_nil _ ▸ he)

end Registry

/-! ### What is printed -/

section Printing

variable {records : List DisplayRecord}

/-- A listing is printed unless it is to be JSON and a path is not text. -/
theorem writeListing_cases (json : Bool) (records : List DisplayRecord) :
    ((json = true ∧ ∃ record ∈ records, record.device.text? = none) ∧
      ∃ reasons, writeListing json records = .failure reasons) ∨
    (¬ (json = true ∧ ∃ record ∈ records, record.device.text? = none) ∧
      ∃ output, writeListing json records = .success output ∧ Printed records json output) := by
  cases json with
  | false => exact .inr ⟨by simp, _, rfl, printed_listingText records⟩
  | true =>
      by_cases h : ∃ record ∈ records, record.device.text? = none
      · refine .inl ⟨⟨rfl, h⟩, ?_⟩
        rw [writeListing, if_pos rfl, listingJson_of_not_text h]
        exact ⟨_, rfl⟩
      · obtain ⟨text, htext, hprinted⟩ :=
          printed_listingJson fun record hrecord hdevice => h ⟨record, hrecord, hdevice⟩
        refine .inr ⟨fun hboth => h hboth.2, _, ?_, hprinted⟩
        rw [writeListing, if_pos rfl, htext]

theorem code_writeListing_ne_zero_iff {json : Bool} : (writeListing json records).code ≠ 0 ↔
    json = true ∧ ∃ record ∈ records, record.device.text? = none := by
  rcases writeListing_cases json records with ⟨hbad, reasons, hwritten⟩ | ⟨hgood, output, hwritten, -⟩
  · rw [hwritten]
    exact iff_of_true Nat.one_ne_zero hbad
  · rw [hwritten]
    exact iff_of_false (fun hcode => hcode rfl) hgood

theorem silent_of_writeListing {json : Bool} (h : (writeListing json records).code ≠ 0) :
    (writeListing json records).code = 1 ∧ (writeListing json records).output = "" := by
  rcases writeListing_cases json records with ⟨-, reasons, hwritten⟩ | ⟨-, output, hwritten, -⟩
  · rw [hwritten]
    exact ⟨rfl, rfl⟩
  · rw [hwritten] at h
    exact absurd rfl h

theorem printed_of_writeListing {json : Bool} (h : (writeListing json records).code = 0) :
    Printed records json (writeListing json records).output := by
  rcases writeListing_cases json records with ⟨-, reasons, hwritten⟩ | ⟨-, output, hwritten, hprinted⟩
  · rw [hwritten] at h
    cases h
  · rwa [hwritten]

end Printing

/-! ### How the program ends -/

/-- Neither the command line nor the configuration lists nodes, and the GPUs cannot be listed. -/
def NothingToProbe (gpus : GpuAnswers) (env : Environment) (settings : Settings) : Prop :=
  settings.devices = [] ∧ (foundConfig env settings).devices = [] ∧
    ∃ cause, gpus.nodes (foundConfig env settings).seatName = .error cause

/-- How the program ends with a command line that asks for a listing, when it begins in the state `s`. -/
structure Contained (H : Host κ σ) (gpus : GpuAnswers) (env : Environment) (arguments : List Bytes)
    (settings : Settings) (s : σ) : Prop where
  /-- It fails for two reasons only: there is nothing to probe, or the listing is to be JSON and a registered
  device with a display has a path that is not text. -/
  fails_iff : ((runProgram H gpus env arguments).run s).value.code ≠ 0 ↔
    NothingToProbe gpus env settings ∨ (settings.json = true ∧ ∃ r,
      ((Registry.probe H gpus (loadedConfig env settings)).run.run s).value = .ok r ∧
      ∃ e ∈ r.entries, 0 < e.2.displayCount ∧ e.1.text? = none)
  /-- Then it lists nothing. -/
  silent : ((runProgram H gpus env arguments).run s).value.code ≠ 0 →
    ((runProgram H gpus env arguments).run s).value.code = 1 ∧
      ((runProgram H gpus env arguments).run s).value.output = ""
  /-- Otherwise it prints a record for each pipeline of the registered devices, and the displays of the records
  count from 0.  The records are the same as text and as JSON. -/
  listed : ((runProgram H gpus env arguments).run s).value.code = 0 → ∃ r records,
    ((Registry.probe H gpus (loadedConfig env settings)).run.run s).value = .ok r ∧
    records.map (·.display.val.toNat) = List.range r.displayCount ∧
    List.Forall₂ (fun record x => record.Describes x.1 x.2) records r.placedPipelines ∧
    Printed records settings.json ((runProgram H gpus env arguments).run s).value.output ∧
    ∀ others json, Invocation.parse others = .ok (.list { settings with json := json }) →
      ((runProgram H gpus env others).run s).value.code = 0 →
      Printed records json ((runProgram H gpus env others).run s).value.output
  /-- A file that cannot be read or parsed is as good as an empty one. -/
  asEmpty : ∀ env', configPath? env' settings = configPath? env settings →
    (∀ path, configPath? env settings = some path →
      (∀ text, env.files.readText path = .ok text → ∃ e, Config.parse text = .error e) ∧
      env'.files.readText path = .ok "") →
    ((runProgram H gpus env' arguments).run s).value = ((runProgram H gpus env arguments).run s).value
  /-- Nodes on the command line are opened in order, but for those that the configuration ignores. -/
  opened : settings.devices ≠ [] →
    ((runProgram H gpus env arguments).run s).events.filterMap Event.path? =
      settings.devices.filter (!(foundConfig env settings).ignores ·)

theorem runProgram_of_list {arguments : List Bytes}
    (h : Invocation.parse arguments = .ok (.list settings)) :
    runProgram H gpus env arguments = listDisplays H gpus env settings := by
  rw [runProgram, h]

/-- After the configuration is loaded the program goes on as if it had been there. -/
theorem value_listDisplays (H : Host κ σ) (gpus : GpuAnswers) (env : Environment) (settings : Settings)
    (s : σ) : ((listDisplays H gpus env settings).run s).value =
      match (Registry.probe H gpus (loadedConfig env settings)).run.run s with
      | ⟨.error e, _, _⟩ => .failure e.chain
      | ⟨.ok r, t, _⟩ => writeListing settings.json ((r.records H.kernel).run t).value := by
  obtain ⟨lines, hload⟩ := onlyLogs_loadConfig (κ := κ) env settings s
  obtain ⟨⟨outcome, t, events⟩, hprobe⟩ :
      ∃ x, (Registry.probe H gpus (loadedConfig env settings)).run.run s = x := ⟨_, rfl⟩
  rw [listDisplays, Action.run_bind, hload, Action.run_bind, hprobe]
  cases outcome with
  | error e => rfl
  | ok r => rfl

/-- Only the probe opens nodes. -/
theorem opened_listDisplays : ((listDisplays H gpus env settings).run s).events.filterMap Event.path? =
    ((Registry.probe H gpus (loadedConfig env settings)).run.run s).events.filterMap Event.path? := by
  obtain ⟨lines, hload⟩ := onlyLogs_loadConfig (κ := κ) env settings s
  have hlines : (lines.map fun l => (.logged l.1 l.2 : Event κ)).filterMap Event.path? = [] := by
    rw [List.filterMap_map]
    exact List.filterMap_eq_nil_iff.2 fun _ _ => rfl
  rw [listDisplays, Action.run_bind, hload, List.filterMap_append, hlines, List.nil_append,
    Action.run_bind, List.filterMap_append]
  cases ((Registry.probe H gpus (loadedConfig env settings)).run.run s).value with
  | error e => exact List.append_nil _
  | ok r =>
      refine (congrArg _ ?_).trans (List.append_nil _)
      refine List.filterMap_eq_nil_iff.2 fun e he => ?_
      rcases List.mem_append.1 he with hrecord | hlog
      · exact Registry.indoors_records _ _ e hrecord
      · obtain rfl := List.mem_singleton.1 hlog
        rfl

theorem devices_loadedConfig_eq_nil_iff : (loadedConfig env settings).devices = [] ↔
    settings.devices = [] ∧ (foundConfig env settings).devices = [] := by
  rw [loadedConfig]
  cases hdevices : settings.devices with
  | nil => simp
  | cons path paths => simp

theorem seatName_loadedConfig :
    (loadedConfig env settings).seatName = (foundConfig env settings).seatName := by
  rw [loadedConfig]
  split
  · rfl
  · rfl

theorem ignores_loadedConfig :
    (loadedConfig env settings).ignores = (foundConfig env settings).ignores := by
  rw [loadedConfig]
  split
  · rfl
  · rfl

theorem Chosen.listed {c : Config} {paths : List Path} (h : Chosen gpus c paths) :
    ¬ (c.devices = [] ∧ ∃ cause, gpus.nodes c.seatName = .error cause) := by
  rintro ⟨hdevices, cause, hcause⟩
  cases h with
  | configured some => exact some hdevices
  | primaryFirst none listed => exact nomatch hcause.symm.trans listed
  | asListed none listed => exact nomatch hcause.symm.trans listed

theorem Chosen.eq_devices {c : Config} {paths : List Path} (h : Chosen gpus c paths)
    (hdevices : c.devices ≠ []) : paths = c.devices := by
  cases h with
  | configured some => rfl
  | primaryFirst none listed => exact absurd none hdevices
  | asListed none listed => exact absurd none hdevices

theorem nothingToProbe_iff : NothingToProbe gpus env settings ↔ (loadedConfig env settings).devices = [] ∧
    ∃ cause, gpus.nodes (loadedConfig env settings).seatName = .error cause := by
  rw [NothingToProbe, devices_loadedConfig_eq_nil_iff, seatName_loadedConfig, and_assoc]

/-- Either there is nothing to probe, or a consecutive registry is listed, as text or as JSON. -/
theorem listDisplays_cases (H : Host κ σ) (gpus : GpuAnswers) (env : Environment) (settings : Settings)
    (s : σ) :
    (NothingToProbe gpus env settings ∧ ∃ e,
      ((Registry.probe H gpus (loadedConfig env settings)).run.run s).value = .error e ∧
      ∀ json, ((listDisplays H gpus env { settings with json := json }).run s).value =
        .failure e.chain) ∨
    (¬ NothingToProbe gpus env settings ∧ ∃ r t, r.Consecutive ∧
      ((Registry.probe H gpus (loadedConfig env settings)).run.run s).value = .ok r ∧
      ∀ json, ((listDisplays H gpus env { settings with json := json }).run s).value =
        writeListing json ((r.records H.kernel).run t).value) := by
  -- the configuration is the same for both kinds of listing
  have hloaded : ∀ json, loadedConfig env { settings with json := json } = loadedConfig env settings :=
    fun _ => rfl
  rw [nothingToProbe_iff]
  rcases Registry.probe_cases H gpus (loadedConfig env settings) s with
    ⟨cause, hdevices, hnodes, hprobe⟩ | ⟨paths, r, t, events, hchosen, hr, -, hprobe⟩
  · refine .inl ⟨⟨hdevices, cause, hnodes⟩, _, congrArg Outcome.value hprobe, fun json => ?_⟩
    rw [value_listDisplays, hloaded, hprobe]
  · refine .inr ⟨hchosen.listed, r, t, hr, congrArg Outcome.value hprobe, fun json => ?_⟩
    rw [value_listDisplays, hloaded, hprobe]

/-- **Failures are contained.** -/
theorem runProgram_contained (H : Host κ σ) (gpus : GpuAnswers) (env : Environment)
    {arguments : List Bytes} (h : Invocation.parse arguments = .ok (.list settings)) (s : σ) :
    Contained H gpus env arguments settings s := by
  have hrun : runProgram H gpus env arguments = listDisplays H gpus env settings := runProgram_of_list h
  constructor
  case fails_iff =>
      rw [hrun]
      rcases listDisplays_cases H gpus env settings s with
        ⟨hnothing, e, -, hvalue⟩ | ⟨hsome, r, t, hr, hprobe, hvalue⟩
      · rw [hvalue settings.json]
        exact iff_of_true Nat.one_ne_zero (.inl hnothing)
      · rw [hvalue settings.json, code_writeListing_ne_zero_iff, hr.exists_not_text_iff, or_iff_right hsome,
          hprobe]
        simp only [Except.ok.injEq, exists_eq_left']
  case silent =>
      rw [hrun]
      rcases listDisplays_cases H gpus env settings s with ⟨-, e, -, hvalue⟩ | ⟨-, r, t, -, -, hvalue⟩
      · rw [hvalue settings.json]
        exact fun _ => ⟨rfl, rfl⟩
      · rw [hvalue settings.json]
        exact silent_of_writeListing
  case listed =>
      rw [hrun]
      intro hcode
      rcases listDisplays_cases H gpus env settings s with
        ⟨-, e, -, hvalue⟩ | ⟨-, r, t, hr, hprobe, hvalue⟩
      · rw [hvalue settings.json] at hcode
        cases hcode
      · refine ⟨r, _, hprobe, hr.map_toNat_records (K := H.kernel) t, hr.describes_records t, ?_, ?_⟩
        · rw [hvalue settings.json] at hcode ⊢
          exact printed_of_writeListing hcode
        · intro others json hothers hcode
          rw [runProgram_of_list hothers, hvalue json] at hcode ⊢
          exact printed_of_writeListing hcode
  case asEmpty =>
      intro env' hpath hfile
      have hloaded := loadedConfig_congr hpath fun path hconfig =>
        ⟨config?_eq_none_iff.2 (hfile path hconfig).1, (hfile path hconfig).2⟩
      rw [hrun, runProgram_of_list h, value_listDisplays, value_listDisplays, hloaded]
  case opened =>
      intro hdevices
      rw [hrun, opened_listDisplays]
      have hloaded : (loadedConfig env settings).devices = settings.devices := by
        rw [loadedConfig, if_neg (by simpa using hdevices)]
      rcases Registry.probe_cases H gpus (loadedConfig env settings) s with
        ⟨cause, hnone, -, -⟩ | ⟨paths, r, t, events, hchosen, -, hopened, hprobe⟩
      · exact absurd (devices_loadedConfig_eq_nil_iff.1 hnone).1 hdevices
      · rw [hprobe, hopened, hchosen.eq_devices (hloaded ▸ hdevices), hloaded, ignores_loadedConfig]

/-- What a command line with a configuration and two nodes asks for. -/
def twoNodes : Settings :=
  ⟨some (.ofString "/c"), ["/dev/dri/card7", "/dev/dri/card0"].map .ofString, false⟩

/-- The command line. -/
def twoNodesArguments : List Bytes :=
  ["-c", "/c", "-d", "/dev/dri/card7", "-d", "/dev/dri/card0"].map Text.encode

/-- A system without files. -/
def withoutFiles : Environment := ⟨[], ⟨[], []⟩⟩

/-- A system where the configuration is an empty file. -/
def withEmptyFile : Environment := ⟨[], ⟨[([Text.encode "c"], .file [])], []⟩⟩

/-- A machine that says nothing about its GPUs. -/
def silentGpus : GpuAnswers := ⟨fun _ => .error (.os 5), fun _ => .error (.os 5)⟩

/-- The default configuration with the nodes of the command line. -/
def twoNodesConfig : Config := { Config.default with devices := twoNodes.devices }

theorem loadedConfig_twoNodes : loadedConfig withoutFiles twoNodes = twoNodesConfig := by
  have hfound : foundConfig withoutFiles twoNodes = .default := by with_unfolding_all rfl
  rw [loadedConfig, hfound]
  rfl

/-- The first of the nodes cannot be opened, and the second one is registered. -/
theorem exists_probe_twoNodes : ∃ device, device.pipelines = [Registry.panel, Registry.monitor] ∧
    ((Registry.probe (MemoryCard.shelf Registry.stocked) silentGpus twoNodesConfig).run.run []).value =
      .ok ((Registry.empty false).append (.ofString "/dev/dri/card0") device) := by
  obtain ⟨device, hdevice, hpipelines⟩ := Registry.exists_yields_stocked
  refine ⟨device, hpipelines, ?_⟩
  have habsent : Registry.stocked (.ofString "/dev/dri/card7") = .error (.os 13) :=
    (if_neg (by decide +kernel)).trans (if_neg (by decide +kernel))
  have hfree : ¬ (Registry.empty false : Registry Nat).Occupied (.ofString "/dev/dri/card0") := by
    rintro ⟨e, he, -⟩
    cases he
  obtain ⟨line, hfirst⟩ := Registry.run_probeNode_of_error (r := .empty false) (c := twoNodesConfig) rfl
    (MemoryCard.openNode_shelf_of_error habsent [])
  have hsecond := Registry.value_probeNode_of_yields (c := twoNodesConfig) rfl hfree hdevice
  change Except.ok (((Registry.empty false).probeAll (MemoryCard.shelf Registry.stocked) twoNodesConfig
    [.ofString "/dev/dri/card7", .ofString "/dev/dri/card0"]).run []).value = _
  rw [Registry.probeAll, Action.run_bind, hfirst, Registry.probeAll, Action.run_bind, hsecond]
  rfl

/-- What is printed of the laptop as text. -/
theorem output_of_laptop {records : List DisplayRecord} {output : String}
    (h : List.Forall₂ (fun record x => record.Describes x.1 x.2) records
      [(.ofString "/dev/dri/card0", Registry.panel), (.ofString "/dev/dri/card0", Registry.monitor)])
    (hprinted : Printed records false output) : output =
      "display 0: eDP-1 (internal, connected) on /dev/dri/card0: encoder 30, CRTC 20 (index 0)\n" ++
      "display 1: HDMI-A-1 (external, connected) on /dev/dri/card0: encoder 31, CRTC 21 (index 1)\n" := by
  cases hprinted with
  | nothing none =>
      subst none
      cases h
  | lines some shown =>
      obtain _ | ⟨hpanel, _ | ⟨hmonitor, _ | _⟩⟩ := h
      obtain _ | ⟨hfirst, _ | ⟨hsecond, _ | _⟩⟩ := shown
      obtain ⟨_, hsize, rfl⟩ := hpanel.shownAsLine hfirst
      cases hsize
      obtain ⟨_, hsize, rfl⟩ := hmonitor.shownAsLine hsecond
      cases hsize
      decide +kernel

/-- What is printed of it as JSON. -/
theorem objects_of_laptop {records : List DisplayRecord} {output : String}
    (h : List.Forall₂ (fun record x => record.Describes x.1 x.2) records
      [(.ofString "/dev/dri/card0", Registry.panel), (.ofString "/dev/dri/card0", Registry.monitor)])
    (hprinted : Printed records true output) : ∃ first second,
      Json.read? output = some (.array [.object first, .object second]) ∧
      [first, second].map (·.lookup "display") = [some (.number 0), some (.number 1)] ∧
      [first, second].map (·.lookup "connector") = [some (.string "eDP-1"), some (.string "HDMI-A-1")] ∧
      [first, second].map (·.lookup "encoder_id") = [some (.number 30), some (.number 31)] ∧
      [first, second].map (·.lookup "crtc_id") = [some (.number 20), some (.number 21)] := by
  cases hprinted with
  | objects read shown =>
      obtain _ | ⟨hpanel, _ | ⟨hmonitor, _ | _⟩⟩ := h
      obtain _ | ⟨hfirst, _ | ⟨hsecond, _ | _⟩⟩ := shown
      refine ⟨_, _, read, ?_, ?_, ?_, ?_⟩
      · simp only [List.map_cons, List.map_nil, hfirst.display, hsecond.display, hpanel.display_eq,
          hmonitor.display_eq]
        rfl
      · simp only [List.map_cons, List.map_nil, hfirst.connector, hsecond.connector, hpanel.connector_eq,
          hmonitor.connector_eq]
        rfl
      · simp only [List.map_cons, List.map_nil, hfirst.encoderId, hsecond.encoderId, hpanel.encoderId_eq,
          hmonitor.encoderId_eq]
        rfl
      · simp only [List.map_cons, List.map_nil, hfirst.crtcId, hsecond.crtcId, hpanel.crtcId_eq,
          hmonitor.crtcId_eq]
        rfl

/-- The program on a machine that says nothing about its GPUs and has a shelf with a laptop. -/
def onShelf (env : Environment) (arguments : List Bytes) : Outcome Nat (List MemoryCard) Exit :=
  (runProgram (MemoryCard.shelf Registry.stocked) silentGpus env arguments).run []

/-- The configuration is not there, GPUs cannot be listed and the first of the nodes cannot be opened, but the
program shows the displays of the second one, as text and as JSON. -/
theorem twoNodes_contained :
    ((onShelf withoutFiles twoNodesArguments).value.code = 0 ∧
      (onShelf withoutFiles twoNodesArguments).value.output =
        "display 0: eDP-1 (internal, connected) on /dev/dri/card0: encoder 30, CRTC 20 (index 0)\n" ++
        "display 1: HDMI-A-1 (external, connected) on /dev/dri/card0: encoder 31, CRTC 21 (index 1)\n") ∧
    ((onShelf withoutFiles (Text.encode "--json" :: twoNodesArguments)).value.code = 0 ∧ ∃ first second,
      Json.read? (onShelf withoutFiles (Text.encode "--json" :: twoNodesArguments)).value.output =
        some (.array [.object first, .object second]) ∧
      [first, second].map (·.lookup "display") = [some (.number 0), some (.number 1)] ∧
      [first, second].map (·.lookup "connector") = [some (.string "eDP-1"), some (.string "HDMI-A-1")] ∧
      [first, second].map (·.lookup "encoder_id") = [some (.number 30), some (.number 31)] ∧
      [first, second].map (·.lookup "crtc_id") = [some (.number 20), some (.number 21)]) ∧
    (onShelf withoutFiles twoNodesArguments).events.filterMap Event.path? = twoNodes.devices ∧
    (onShelf withEmptyFile twoNodesArguments).value = (onShelf withoutFiles twoNodesArguments).value := by
  have htext : Invocation.parse twoNodesArguments = .ok (.list twoNodes) := by with_unfolding_all rfl
  have hjson : Invocation.parse (Text.encode "--json" :: twoNodesArguments) =
      .ok (.list { twoNodes with json := true }) := by with_unfolding_all rfl
  have hdevices : twoNodes.devices ≠ [] := List.cons_ne_nil _ _
  have hcontained := runProgram_contained (MemoryCard.shelf Registry.stocked) silentGpus withoutFiles htext []
  have hcontained' := runProgram_contained (MemoryCard.shelf Registry.stocked) silentGpus withoutFiles hjson []
  obtain ⟨device, hpipelines, hprobe⟩ := exists_probe_twoNodes
  rw [← loadedConfig_twoNodes] at hprobe
  have hcode : (onShelf withoutFiles twoNodesArguments).value.code = 0 := by
    by_contra hcode
    rcases hcontained.fails_iff.1 hcode with hnothing | ⟨hno, -⟩
    · exact hdevices hnothing.1
    · cases hno
  have hcode' : (onShelf withoutFiles (Text.encode "--json" :: twoNodesArguments)).value.code = 0 := by
    by_contra hcode
    rcases hcontained'.fails_iff.1 hcode with hnothing | ⟨-, r, hr, e, he, -, hpath⟩
    · exact hdevices hnothing.1
    · cases hr.symm.trans hprobe
      obtain rfl := List.mem_singleton.1 he
      have hisText : (Path.ofString "/dev/dri/card0").text? ≠ none := by decide +kernel
      exact hisText hpath
  obtain ⟨r, records, hr, -, hdescribed, hprinted, hothers⟩ := hcontained.listed hcode
  cases hr.symm.trans hprobe
  have hplaced : ((Registry.empty false).append (.ofString "/dev/dri/card0") device).placedPipelines =
      [(.ofString "/dev/dri/card0", Registry.panel), (.ofString "/dev/dri/card0", Registry.monitor)] := by
    simp [Registry.placedPipelines, Registry.append, Registry.empty, hpipelines]
  rw [hplaced] at hdescribed
  refine ⟨⟨hcode, output_of_laptop hdescribed hprinted⟩,
    ⟨hcode', objects_of_laptop hdescribed (hothers _ true hjson hcode')⟩, ?_, ?_⟩
  · have hfound : foundConfig withoutFiles twoNodes = .default := by with_unfolding_all rfl
    refine (hcontained.opened hdevices).trans ?_
    rw [hfound]
    rfl
  · refine hcontained.asEmpty withEmptyFile rfl fun path hpath => ?_
    obtain rfl := Option.some.inj hpath
    have habsent : withoutFiles.files.readText (.ofString "/c") = .error (.os 2) := by with_unfolding_all rfl
    have hempty : withEmptyFile.files.readText (.ofString "/c") = .ok "" := by with_unfolding_all rfl
    refine ⟨fun text htext => ?_, hempty⟩
    rw [habsent] at htext
    cases htext

end Scanout
