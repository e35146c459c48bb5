/-
**What a listing holds.**

A listing is read without the printer in mind.  As text it is a line for each record, made of fixed words
with the names and numbers of the record between them.  As JSON it is whatever a reader of JSON takes for an
array, with an object for each record that has each of its fields under a key of its own.  Records
themselves are compared with the pipelines of the registry, field by field.  That the printer writes such
texts follows for each record on its own; for JSON, everything but the fields is the round trip through the
reader.

Main definitions:

* `Scanout.DisplayRecord.Describes` — a record describes a pipeline of a device;
* `Scanout.DisplayRecord.ShownAsLine`, `Scanout.DisplayRecord.ShownAsObject` — a line of text and the members
  of an object show a record;
* `Scanout.Printed` — an output shows records, as text or as JSON.

Main results:

* `Scanout.Registry.Sound.describes_records` — **there is one record for each pipeline of the registry**;
* `Scanout.printed_listingText` — **what is written as text shows the records**;
* `Scanout.printed_listingJson`, `Scanout.listingJson_of_not_text` — **what is written as JSON shows them,
  too**, unless a path is not text.
-/

import Scanout.Proofs.Json
import Scanout.Proofs.Registry.Views
import Scanout.Proofs.Routing.Indifference

set_option relaxedAutoImplicit false
set_option autoImplicit false

namespace Scanout

open Text (Json)

variable {κ σ : Type} {K : Kernel κ σ}

/-! ### What records say -/

/-- A record describes a pipeline of the device at a path. -/
structure DisplayRecord.Describes (record : DisplayRecord) (path : Path) (p : Pipeline) : Prop where
  display_eq : record.display = p.display
  device_eq : record.device = path
  connector_eq : record.connector = p.connector.name
  connectorId_eq : record.connectorId = p.connector.id
  connected_eq : record.connected = p.connector.isConnected
  internal_eq : record.internal = p.connector.isInternal
  encoderId_eq : record.encoderId = p.encoder.id
  crtcId_eq : record.crtcId = p.crtc.id
  crtcIndex_eq : record.crtcIndex = p.crtc.index
  modeSize_eq : record.modeSize = p.crtc.modeSize

/-- Two records of one pipeline differ in the driver only. -/
theorem DisplayRecord.describes_iff {record : DisplayRecord} {path : Path} {p : Pipeline} :
    record.Describes path p ↔ record.anonymous = .ofPipeline path "" p := by
  obtain ⟨display, device, driver, connector, connectorId, connected, internal, encoderId, crtcId,
    crtcIndex, modeSize⟩ := record
  constructor
  · rintro ⟨rfl, rfl, rfl, rfl, rfl, rfl, rfl, rfl, rfl, rfl⟩
    rfl
  · intro h
    obtain ⟨rfl, rfl, -, rfl, rfl, rfl, rfl, rfl, rfl, rfl, rfl⟩ := DisplayRecord.mk.inj h
    constructor <;> rfl

namespace Registry

variable {r : Registry κ}

/-- The pipelines of all devices, with the paths of the devices. -/
def placedPipelines (r : Registry κ) : List (Path × Pipeline) :=
  r.entries.flatMap fun e => e.2.pipelines.map (e.1, ·)

/-- **There is one record for each pipeline of the registry**, in the order of the entries. -/
theorem Sound.describes_records (h : r.Sound) (s : σ) :
    List.Forall₂ (fun record x => record.Describes x.1 x.2) ((r.records K).run s).value
      r.placedPipelines := by
  have hrecords := h.map_anonymous_records (K := K) s
  have hplaced : (r.entries.flatMap fun e => e.2.pipelines.map (DisplayRecord.ofPipeline e.1 "")) =
      r.placedPipelines.map fun x => .ofPipeline x.1 "" x.2 := by
    simp only [placedPipelines, List.map_flatMap, List.map_map]
    rfl
  rw [hplaced] at hrecords
  exact (Routing.forall₂_of_map_eq hrecords).imp fun _ _ => DisplayRecord.describes_iff.2

end Registry

/-! ### What outputs hold -/

/-- What a line says about the size of a mode. -/
inductive ShowsSize : Option (UInt16 × UInt16) → String → Prop where
  | none : ShowsSize none ""
  | some (width height : UInt16) : ShowsSize (some (width, height))
      (", " ++ toString width.toNat ++ "x" ++ toString height.toNat)

/-- A line shows a record: the display and its connector, of which kind it is and whether something is
connected to it, the device, the encoder and the CRTC, and the size of the mode if there is one. -/
def DisplayRecord.ShownAsLine (record : DisplayRecord) (line : String) : Prop :=
  ∃ size, ShowsSize record.modeSize size ∧
    line = "display " ++ toString record.display.val.toNat ++ ": " ++ record.connector ++
      " (" ++ (if record.internal then "internal" else "external") ++
      ", " ++ (if record.connected then "connected" else "disconnected") ++
      ") on " ++ record.device.display ++ ": encoder " ++ toString record.encoderId.toNat ++
      ", CRTC " ++ toString record.crtcId.toNat ++ " (index " ++ toString record.crtcIndex ++ ")" ++
      size ++ "\n"

/-- Members of an object show a record: each of its fields is under its key, and no key is there twice. -/
structure DisplayRecord.ShownAsObject (record : DisplayRecord) (members : List (String × Json)) : Prop where
  distinct : (members.map (·.1)).Nodup
  display : members.lookup "display" = some (.number record.display.val.toNat)
  device : ∃ text, record.device.text? = some text ∧ members.lookup "device" = some (.string text)
  driver : members.lookup "driver" = some (.string record.driver)
  connector : members.lookup "connector" = some (.string record.connector)
  connectorId : members.lookup "connector_id" = some (.number record.connectorId.toNat)
  connected : members.lookup "connected" = some (.bool record.connected)
  internal : members.lookup "internal" = some (.bool record.internal)
  encoderId : members.lookup "encoder_id" = some (.number record.encoderId.toNat)
  crtcId : members.lookup "crtc_id" = some (.number record.crtcId.toNat)
  crtcIndex : members.lookup "crtc_index" = some (.number record.crtcIndex)
  modeSize : members.lookup "mode_size" = some (match record.modeSize with
    | some (width, height) => .array [.number width.toNat, .number height.toNat]
    | none => .null)

/-- An output shows records, as JSON or as text. -/
inductive Printed (records : List DisplayRecord) : Bool → String → Prop where
  /-- There is nothing to show. -/
  | nothing (none : records = []) : Printed records false "no displays\n"
  /-- There is a line for each record, in order. -/
  | lines {lines : List String} (some : records ≠ [])
      (shown : List.Forall₂ DisplayRecord.ShownAsLine records lines) :
      Printed records false (String.join lines)
  /-- There is an array with an object for each record, in order. -/
  | objects {output : String} {objects : List (List (String × Json))}
      (read : Json.read? output = .some (.array (objects.map .object)))
      (shown : List.Forall₂ DisplayRecord.ShownAsObject records objects) : Printed records true output

/-! ### Text -/

theorem toString_display (n : DisplayId) : toString n = toString n.val.toNat := by
  change n.text = _
  rw [DisplayId.text]

theorem DisplayRecord.shownAsLine_line (record : DisplayRecord) :
    record.ShownAsLine (record.line ++ "\n") := by
  have htext : ∀ text : String, toString text = text := fun _ => rfl
  have hencoder : ": encoder " = ": " ++ "encoder " := rfl
  unfold DisplayRecord.line
  cases hmode : record.modeSize with
  | none =>
      have hsize : ShowsSize record.modeSize "" := by
        rw [hmode]
        exact .none
      refine ⟨_, hsize, ?_⟩
      simp only [htext, toString_display, hencoder, String.append_assoc]
  | some size =>
      have hsize : ShowsSize record.modeSize (", " ++ sizeText size) := by
        rw [hmode, sizeText]
        simp only [htext, ← String.append_assoc]
        exact .some size.1 size.2
      refine ⟨_, hsize, ?_⟩
      simp only [htext, toString_display, hencoder, String.append_assoc]

/-- Lines do not show the driver, so all records of a pipeline have the same line. -/
theorem DisplayRecord.Describes.shownAsLine {record : DisplayRecord} {path : Path} {p : Pipeline}
    (h : record.Describes path p) {line : String} (hline : record.ShownAsLine line) :
    (DisplayRecord.ofPipeline path "" p).ShownAsLine line := by
  rw [← describes_iff.1 h]
  exact hline

/-- **What is written as text shows the records.** -/
theorem printed_listingText (records : List DisplayRecord) : Printed records false (listingText records) := by
  cases records with
  | nil => exact .nothing rfl
  | cons record records =>
      refine .lines (List.cons_ne_nil _ _) ?_
      rw [List.forall₂_map_right_iff, List.forall₂_same]
      exact fun record _ => record.shownAsLine_line

/-! ### JSON -/

section Objects

variable {records : List DisplayRecord}

theorem exists_toJson {record : DisplayRecord} (h : record.device.text? ≠ none) :
    ∃ members, record.toJson = .ok (.object members) ∧ record.ShownAsObject members := by
  obtain ⟨text, htext⟩ := Option.ne_none_iff_exists'.1 h
  rw [DisplayRecord.toJson, htext]
  refine ⟨_, rfl, ?_⟩
  constructor
  case distinct => simp
  case device => exact ⟨text, htext, rfl⟩
  case modeSize =>
      cases record.modeSize with
      | none => rfl
      | some size => rfl
  all_goals rfl

theorem mapM_toJson_of_text (h : ∀ record ∈ records, record.device.text? ≠ none) :
    ∃ objects : List (List (String × Json)), records.mapM DisplayRecord.toJson = .ok (objects.map .object) ∧
      List.Forall₂ DisplayRecord.ShownAsObject records objects := by
  induction records with
  | nil => exact ⟨[], rfl, .nil⟩
  | cons record records ih =>
      obtain ⟨hrecord, hrecords⟩ := List.forall_mem_cons.1 h
      obtain ⟨members, hmembers, hshown⟩ := exists_toJson hrecord
      obtain ⟨objects, hobjects, hothers⟩ := ih hrecords
      refine ⟨members :: objects, ?_, .cons hshown hothers⟩
      rw [List.mapM_cons, hmembers, hobjects]
      rfl

/-- **What is written as JSON shows the records** if all paths are text. -/
theorem printed_listingJson (h : ∀ record ∈ records, record.device.text? ≠ none) :
    ∃ text, listingJson records = .ok text ∧ Printed records true (text ++ "\n") := by
  obtain ⟨objects, hobjects, hshown⟩ := mapM_toJson_of_text h
  have hnewline : ∀ c ∈ "\n".toList, Json.isBlank c = true := List.forall_mem_singleton.2 rfl
  refine ⟨(Json.array (objects.map .object)).pretty, ?_, .objects (Json.read?_pretty _ hnewline) hshown⟩
  rw [listingJson, hobjects]
  rfl

/-- Nothing is written as JSON if some path is not text. -/
theorem listingJson_of_not_text (h : ∃ record ∈ records, record.device.text? = none) :
    listingJson records = .error .pathNotText := by
  have hmapM : records.mapM DisplayRecord.toJson = .error .pathNotText := by
    induction records with
    | nil =>
        obtain ⟨record, hrecord, -⟩ := h
        cases hrecord
    | cons record records ih =>
        rw [List.mapM_cons, DisplayRecord.toJson]
        cases hdevice : record.device.text? with
        | none => rfl
        | some device =>
            rw [ih]
            · rfl
            · simpa [hdevice] using h
  rw [listingJson, hmapM]
  rfl

end Objects

end Scanout
