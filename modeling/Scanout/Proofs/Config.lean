/-
**How the section of a configuration is decoded.**

The settings of the section come in any order, and those of different kinds may be mixed.  What a prefix of
them has come to is told by the settings of each kind alone, so a decoder that has read some settings stands
where the prefix says, and one more setting brings it to the longer prefix.  A node that is no setting leaves
a problem behind and nothing else.

Main definitions:

* `Scanout.settingNames` — the names of settings;
* `Scanout.Kdl.Node.IsSetting`, `Scanout.Kdl.Node.IsSection` — a setting that is written as it should be, and
  a section made of such settings;
* `Scanout.textsOf`, `Scanout.Config.ofSettings` — the arguments of the settings of one name, and the
  configuration that settings come to;
* `Scanout.DecodesByKind` — what a text with such a section is decoded to.

Main results:

* `Scanout.decodeSetting_of_isSetting`, `Scanout.decodeSetting_of_stranger` — what one node contributes;
* `Scanout.foldlM_decodeSetting` — **what any number of nodes come to**;
* `Scanout.no_strangers_of_ofDocument` — only documents without strangers have a configuration;
* `Scanout.decodesByKind_parse` — **sections are decoded by kind**.
-/

import Mathlib.Tactic.ByContra
import Scanout.Config.Decode
import Scanout.Proofs.Action

set_option relaxedAutoImplicit false
set_option autoImplicit false

namespace Scanout

open Kdl (Node Value)

/-! ### Sections -/

/-- The names of settings. -/
def settingNames : List String := ["device", "ignore-device", "seat", "scale-with-gpu"]

namespace Kdl.Node

/-- A setting has one string as its argument, except for the one that is a flag, and nothing else. -/
structure IsSetting (n : Node) : Prop where
  name : n.name ∈ settingNames
  flag : n.name = "scale-with-gpu" → n.arguments = []
  argument : n.name ≠ "scale-with-gpu" → ∃ text, n.arguments = [⟨none, .string text⟩]
  properties : n.properties = []
  children : n.children = []

/-- Among the nodes, the settings are written as they should be, and the seat and the flag are there at
most once. -/
structure Orderly (ns : List Node) : Prop where
  settings : ∀ n ∈ ns, n.name ∈ settingNames → n.IsSetting
  seat_once : ns.countP (·.name = "seat") ≤ 1
  flag_once : ns.countP (·.name = "scale-with-gpu") ≤ 1

/-- A section has nothing but children. -/
structure IsSection (n : Node) : Prop where
  name : n.name = sectionName
  untyped : n.typeName = none
  arguments : n.arguments = []
  properties : n.properties = []
  orderly : Orderly n.children

/-- The texts among the arguments of a node. -/
def texts (n : Node) : List String :=
  n.arguments.filterMap fun v =>
    match v.literal with
    | .string text => some text
    | _ => none

end Kdl.Node

/-- The arguments of the nodes of one name, in order. -/
def textsOf (name : String) (ns : List Node) : List String :=
  (ns.filter (·.name = name)).flatMap (·.texts)

/-- The configuration that settings come to. -/
def Config.ofSettings (ns : List Node) : Config where
  devices := (textsOf "device" ns).map .ofString
  ignored := (textsOf "ignore-device" ns).map .ofString
  seat := (textsOf "seat" ns).head?
  scaleWithGpu := ns.any (·.name = "scale-with-gpu")

/-- What is wrong with a node that should not be there. -/
def strangerProblem (n : Node) : DecodeProblem := .unexpectedNode n.name

/-- The nodes that are no settings. -/
def strangers (ns : List Node) : List Node := ns.filter (·.name ∉ settingNames)

section Prefixes

variable {done ns : List Node} {n : Node} {name : String}

theorem textsOf_concat : textsOf name (done ++ [n]) =
    textsOf name done ++ if n.name = name then n.texts else [] := by
  rw [textsOf, List.filter_append, List.flatMap_append, textsOf]
  by_cases h : n.name = name
  · simp [h]
  · simp [h]

theorem textsOf_eq_nil (h : ∀ m ∈ done, m.name ≠ name) : textsOf name done = [] := by
  have hnone : done.filter (·.name = name) = [] :=
    List.filter_eq_nil_iff.2 fun m hm => by simpa using h m hm
  rw [textsOf, hnone, List.flatMap_nil]

theorem Config.ofSettings_concat : Config.ofSettings (done ++ [n]) = {
    devices := (textsOf "device" done ++ if n.name = "device" then n.texts else []).map .ofString
    ignored :=
      (textsOf "ignore-device" done ++ if n.name = "ignore-device" then n.texts else []).map .ofString
    seat := (textsOf "seat" done ++ if n.name = "seat" then n.texts else []).head?
    scaleWithGpu := done.any (·.name = "scale-with-gpu") || n.name = "scale-with-gpu" } := by
  simp only [Config.ofSettings, textsOf_concat, List.any_append, List.any_cons, List.any_nil,
    Bool.or_false]

theorem Config.ofSettings_concat_of_stranger (h : n.name ∉ settingNames) :
    Config.ofSettings (done ++ [n]) = Config.ofSettings done := by
  simp only [settingNames, List.mem_cons, List.not_mem_nil, or_false, not_or] at h
  obtain ⟨hdevice, hignore, hseat, hflag⟩ := h
  rw [Config.ofSettings_concat]
  simp [Config.ofSettings, hdevice, hignore, hseat, hflag]

/-- What is there at most once was not there before. -/
theorem ne_of_countP_le_one (h : (done ++ n :: ns).countP (·.name = name) ≤ 1) (hn : n.name = name) :
    ∀ m ∈ done, m.name ≠ name := by
  rw [List.countP_append, List.countP_cons_of_pos (by simpa using hn)] at h
  have hnone : done.countP (·.name = name) = 0 := by omega
  simpa using List.countP_eq_zero.1 hnone

end Prefixes

/-! ### What one node contributes -/

section Setting

variable {done : List Node} {n : Node} {problems : List DecodeProblem}

/-- A setting that is no flag has one text, and this is what is decoded. -/
theorem exists_text_of_isSetting (h : n.IsSetting) (hname : n.name ≠ "scale-with-gpu") :
    ∃ text, n.texts = [text] ∧ ∀ (d : Decoding) (setting expected : String) (set : String → Config),
      decodeArgument d n setting expected set = .ok { d with config := set text } := by
  obtain ⟨text, htext⟩ := h.argument hname
  refine ⟨text, by rw [Kdl.Node.texts, htext]; rfl, fun d setting expected set => ?_⟩
  simp [decodeArgument, htext, textArgument, Kdl.Node.propertyNames, h.properties, strayChildren,
    h.children, Decoding.note]

theorem flagProblems_of_isSetting (h : n.IsSetting) (hname : n.name = "scale-with-gpu") :
    flagProblems n = [] := by
  simp [flagProblems, h.flag hname, Kdl.Node.propertyNames, h.properties, strayChildren, h.children]

/-- A setting brings the decoder from the settings before it to those with this one. -/
theorem decodeSetting_of_isSetting (h : n.IsSetting)
    (hseat : n.name = "seat" → ∀ m ∈ done, m.name ≠ "seat")
    (hflag : n.name = "scale-with-gpu" → ∀ m ∈ done, m.name ≠ "scale-with-gpu") :
    decodeSetting ⟨.ofSettings done, problems⟩ n = .ok ⟨.ofSettings (done ++ [n]), problems⟩ := by
  have hname := h.name
  simp only [settingNames, List.mem_cons, List.not_mem_nil, or_false] at hname
  rw [Config.ofSettings_concat]
  rcases hname with hname | hname | hname | hname
  · obtain ⟨text, htexts, hdecode⟩ := exists_text_of_isSetting h (by simp [hname])
    simp only [decodeSetting, hname, hdecode]
    simp [Config.ofSettings, htexts]
  · obtain ⟨text, htexts, hdecode⟩ := exists_text_of_isSetting h (by simp [hname])
    simp only [decodeSetting, hname, hdecode]
    simp [Config.ofSettings, htexts]
  · obtain ⟨text, htexts, hdecode⟩ := exists_text_of_isSetting h (by simp [hname])
    have hfirst := textsOf_eq_nil (hseat hname)
    simp only [decodeSetting, hname, hdecode, Config.ofSettings, hfirst]
    simp [htexts]
  · have hfirst : done.any (·.name = "scale-with-gpu") = false := by simpa using hflag hname
    have hclean := flagProblems_of_isSetting h hname
    simp only [decodeSetting, hname, Config.ofSettings, hfirst, hclean]
    simp [Decoding.note]

theorem decodeSetting_of_stranger {d : Decoding} (h : n.name ∉ settingNames) :
    decodeSetting d n = .ok (d.note [strangerProblem n]) := by
  rw [decodeSetting]
  split
  · next hname => simp [hname, settingNames] at h
  · next hname => simp [hname, settingNames] at h
  · next hname => simp [hname, settingNames] at h
  · next hname => simp [hname, settingNames] at h
  · rfl

end Setting

/-! ### What a whole document comes to -/

/-- **What any number of nodes come to.** -/
theorem foldlM_decodeSetting {ns done : List Node} {problems : List DecodeProblem}
    (h : Kdl.Node.Orderly (done ++ ns)) :
    ns.foldlM decodeSetting ⟨.ofSettings done, problems⟩ =
      .ok ⟨.ofSettings (done ++ ns), problems ++ (strangers ns).map strangerProblem⟩ := by
  -- what was read so far grows by the node that is read
  induction ns generalizing done problems with
  | nil =>
      rw [List.append_nil, strangers, List.filter_nil, List.map_nil, List.append_nil]
      rfl
  | cons n ns ih =>
      have hstep : decodeSetting ⟨.ofSettings done, problems⟩ n =
          .ok ⟨.ofSettings (done ++ [n]), problems ++ (strangers [n]).map strangerProblem⟩ := by
        by_cases hname : n.name ∈ settingNames
        · have hn := h.settings n (List.mem_append_right _ List.mem_cons_self) hname
          rw [decodeSetting_of_isSetting hn (ne_of_countP_le_one h.seat_once)
            (ne_of_countP_le_one h.flag_once)]
          simp [strangers, hname]
        · rw [decodeSetting_of_stranger hname, Config.ofSettings_concat_of_stranger hname]
          simp [strangers, hname, Decoding.note]
      have hsplit : done ++ n :: ns = done ++ [n] ++ ns := by
        rw [List.append_assoc, List.singleton_append]
      rw [List.foldlM_cons, hstep, hsplit]
      have hstrangers : strangers (n :: ns) = strangers [n] ++ strangers ns :=
        List.filter_append [n] ns
      refine (ih (hsplit ▸ h)).trans ?_
      rw [List.append_assoc problems, ← List.map_append, hstrangers]

/-- What a section comes to, whatever strangers there are in it. -/
theorem decodeSection_eq {n : Node} (h : n.IsSection) (problems : List DecodeProblem) :
    decodeSection ⟨.default, problems⟩ n =
      .ok ⟨.ofSettings n.children, problems ++ (strangers n.children).map strangerProblem⟩ := by
  have hfold : n.children.foldlM decodeSetting ⟨.default, problems⟩ = _ :=
    @foldlM_decodeSetting n.children [] problems h.orderly
  rw [decodeSection]
  simpa [h.untyped, h.arguments, Kdl.Node.propertyNames, h.properties, Decoding.note] using hfold

/-- Strangers beside the section leave nothing but problems. -/
theorem decodeNodes_append {ns : List Node} (hns : ∀ n ∈ ns, n.name ≠ sectionName) (seen : Bool)
    (d : Decoding) (rest : List Node) : decodeNodes seen d (ns ++ rest) =
      decodeNodes seen (d.note (ns.map strangerProblem)) rest := by
  induction ns generalizing d with
  | nil => simp [Decoding.note]
  | cons n ns ih =>
      obtain ⟨hn, hns⟩ := List.forall_mem_cons.1 hns
      rw [List.cons_append, decodeNodes, if_neg hn, ih hns]
      simp [Decoding.note, strangerProblem]

/-- **What a document with one section comes to**, whatever strangers there are in it. -/
theorem ofDocument_eq {before after : List Node} {n : Node}
    (hbefore : ∀ m ∈ before, m.name ≠ sectionName) (h : n.IsSection)
    (hafter : ∀ m ∈ after, m.name ≠ sectionName) :
    Config.ofDocument (before ++ n :: after) = Decoding.result
      ⟨.ofSettings n.children, (before ++ strangers n.children ++ after).map strangerProblem⟩ := by
  have hafter := decodeNodes_append hafter true
    ⟨.ofSettings n.children, (before ++ strangers n.children).map strangerProblem⟩ []
  rw [List.append_nil] at hafter
  rw [Config.ofDocument, decodeNodes_append hbefore, decodeNodes, if_pos h.name]
  change (decodeSection ⟨.default, before.map strangerProblem⟩ n >>= _) >>= _ = _
  rw [decodeSection_eq h, ← List.map_append]
  change decodeNodes true _ after >>= Decoding.result = _
  rw [hafter, Decoding.note, ← List.map_append]
  rfl

/-! ### Documents with strangers -/

theorem clean_of_decodeArgument {d d' : Decoding} {n : Node} {setting expected : String}
    {set : String → Config} (h : decodeArgument d n setting expected set = .ok d')
    (hclean : d'.problems = []) : d.problems = [] := by
  rw [decodeArgument] at h
  split at h
  · cases h
  · next v others harguments =>
      dsimp only at h
      split at h
      · cases h
      · split at h
        · cases h
        · cases h
          exact (List.append_eq_nil_iff.1 (List.append_eq_nil_iff.1 hclean).1).1

/-- A node contributes without a problem only if it is a setting. -/
theorem clean_of_decodeSetting {d d' : Decoding} {n : Node} (h : decodeSetting d n = .ok d')
    (hclean : d'.problems = []) : d.problems = [] ∧ n.name ∈ settingNames := by
  by_cases hname : n.name ∈ settingNames
  · refine ⟨?_, hname⟩
    rw [decodeSetting] at h
    split at h
    · exact clean_of_decodeArgument h hclean
    · exact clean_of_decodeArgument h hclean
    · split at h
      · cases h
      · exact clean_of_decodeArgument h hclean
    · cases h
      exact (List.append_eq_nil_iff.1 hclean).1
    · cases h
      exact (List.append_eq_nil_iff.1 hclean).1
  · rw [decodeSetting_of_stranger hname] at h
    cases h
    exact absurd (List.append_eq_nil_iff.1 hclean).2 (List.cons_ne_nil _ _)

theorem clean_of_foldlM {ns : List Node} {d d' : Decoding} (h : ns.foldlM decodeSetting d = .ok d')
    (hclean : d'.problems = []) : d.problems = [] ∧ ∀ n ∈ ns, n.name ∈ settingNames := by
  induction ns generalizing d with
  | nil =>
      cases h
      exact ⟨hclean, fun n hn => absurd hn List.not_mem_nil⟩
  | cons n ns ih =>
      obtain ⟨d₁, hn, hns⟩ := bind_eq_ok_iff.1 h
      obtain ⟨hclean₁, hnames⟩ := ih hns
      obtain ⟨hclean₀, hname⟩ := clean_of_decodeSetting hn hclean₁
      exact ⟨hclean₀, List.forall_mem_cons.2 ⟨hname, hnames⟩⟩

theorem clean_of_decodeSection {d d' : Decoding} {n : Node} (h : decodeSection d n = .ok d')
    (hclean : d'.problems = []) :
    d.problems = [] ∧ ∀ child ∈ n.children, child.name ∈ settingNames := by
  rw [decodeSection] at h
  split at h
  · cases h
  · split at h
    · cases h
    · obtain ⟨hnoted, hnames⟩ := clean_of_foldlM h hclean
      exact ⟨(List.append_eq_nil_iff.1 hnoted).1, hnames⟩

theorem clean_of_decodeNodes {nodes : List Node} {seen : Bool} {d d' : Decoding}
    (h : decodeNodes seen d nodes = .ok d') (hclean : d'.problems = []) :
    d.problems = [] ∧ ∀ n ∈ nodes,
      n.name = sectionName ∧ ∀ child ∈ n.children, child.name ∈ settingNames := by
  induction nodes generalizing seen d with
  | nil =>
      cases h
      exact ⟨hclean, fun n hn => absurd hn List.not_mem_nil⟩
  | cons n nodes ih =>
      rw [decodeNodes] at h
      by_cases hname : n.name = sectionName
      · rw [if_pos hname] at h
        split at h
        · cases h
        · obtain ⟨d₁, hn, hnodes⟩ := bind_eq_ok_iff.1 h
          obtain ⟨hclean₁, hrest⟩ := ih hnodes
          obtain ⟨hclean₀, hchildren⟩ := clean_of_decodeSection hn hclean₁
          exact ⟨hclean₀, List.forall_mem_cons.2 ⟨⟨hname, hchildren⟩, hrest⟩⟩
      · rw [if_neg hname] at h
        exact absurd (List.append_eq_nil_iff.1 (ih h).1).2 (List.cons_ne_nil _ _)

/-- Only documents without strangers have a configuration. -/
theorem no_strangers_of_ofDocument {nodes : List Node} {c : Config}
    (h : Config.ofDocument nodes = .ok c) : ∀ n ∈ nodes,
      n.name = sectionName ∧ ∀ child ∈ n.children, child.name ∈ settingNames := by
  obtain ⟨d, hnodes, hresult⟩ := bind_eq_ok_iff.1 h
  exact (clean_of_decodeNodes hnodes (Decoding.result_eq_ok_iff.1 hresult).1).2

/-! ### Sections are decoded by kind -/

/-- The nodes of each name come in the same order. -/
def SameByName (ns ns' : List Node) : Prop :=
  ∀ name, ns'.filter (·.name = name) = ns.filter (·.name = name)

section Reordering

variable {ns ns' : List Node}

theorem SameByName.mem_iff (h : SameByName ns ns') {n : Node} : n ∈ ns' ↔ n ∈ ns := by
  have hmem : ∀ ms : List Node, n ∈ ms ↔ n ∈ ms.filter (·.name = n.name) := fun ms => by
    rw [List.mem_filter, decide_eq_true_iff, and_iff_left rfl]
  rw [hmem ns', h n.name, ← hmem ns]

theorem SameByName.countP_eq (h : SameByName ns ns') (name : String) :
    ns'.countP (·.name = name) = ns.countP (·.name = name) := by
  rw [List.countP_eq_length_filter, List.countP_eq_length_filter, h name]

theorem SameByName.orderly (h : SameByName ns ns') (hns : Kdl.Node.Orderly ns) :
    Kdl.Node.Orderly ns' := by
  refine ⟨fun n hn => hns.settings n (h.mem_iff.1 hn), ?_, ?_⟩
  · rw [h.countP_eq]
    exact hns.seat_once
  · rw [h.countP_eq]
    exact hns.flag_once

/-- The configuration does not tell how settings of different names are mixed. -/
theorem SameByName.ofSettings_eq (h : SameByName ns ns') :
    Config.ofSettings ns' = Config.ofSettings ns := by
  have htexts : ∀ name, textsOf name ns' = textsOf name ns := fun name => by
    rw [textsOf, h name, textsOf]
  have hflag : ns'.any (·.name = "scale-with-gpu") = ns.any (·.name = "scale-with-gpu") := by
    rw [Bool.eq_iff_iff, List.any_eq_true, List.any_eq_true]
    simp only [h.mem_iff]
  rw [Config.ofSettings, htexts, htexts, htexts, hflag, Config.ofSettings]

theorem orderly_insert {before after : List Node} {n : Node} (hn : n.name ∉ settingNames)
    (h : Kdl.Node.Orderly (before ++ after)) : Kdl.Node.Orderly (before ++ n :: after) := by
  have hcount : ∀ name ∈ settingNames, (before ++ n :: after).countP (·.name = name) =
      (before ++ after).countP (·.name = name) := by
    intro name hname
    have hne : ¬ n.name = name := fun heq => hn (heq ▸ hname)
    rw [List.countP_append, List.countP_cons_of_neg (by simpa using hne), ← List.countP_append]
  refine ⟨fun m hm hname => h.settings m ?_ hname, ?_, ?_⟩
  · have hne : m ≠ n := fun heq => hn (heq ▸ hname)
    simpa [hne] using hm
  · rw [hcount "seat" (by decide)]
    exact h.seat_once
  · rw [hcount "scale-with-gpu" (by decide)]
    exact h.flag_once

theorem strangers_insert {before after : List Node} {n : Node} (hn : n.name ∉ settingNames) :
    strangers (before ++ n :: after) = strangers before ++ n :: strangers after := by
  rw [strangers, List.filter_append, List.filter_cons_of_pos (by simpa using hn), strangers, strangers]

theorem strangers_eq_nil (h : ∀ n ∈ ns, n.name ∈ settingNames) : strangers ns = [] :=
  List.filter_eq_nil_iff.2 fun n hn => by simpa using h n hn

end Reordering

/-- What a text is decoded to that has this one section. -/
structure DecodesByKind (text : String) (drm : Node) : Prop where
  /-- The arguments of each kind are kept in the order of the document. -/
  parsed : Config.parse text = .ok {
    devices := (textsOf "device" drm.children).map .ofString
    ignored := (textsOf "ignore-device" drm.children).map .ofString
    seat := (textsOf "seat" drm.children).head?
    scaleWithGpu := drm.children.any (·.name = "scale-with-gpu") }
  /-- How nodes of different kinds are mixed does not matter. -/
  interleaved : ∀ text' children, SameByName drm.children children →
    Kdl.document? text' = some [{ drm with children := children }] →
      Config.parse text' = Config.parse text
  /-- A stranger in the section, at any place, is the one problem. -/
  strangerInside : ∀ text' before stranger after, stranger.name ∉ settingNames →
    drm.children = before ++ after →
    Kdl.document? text' = some [{ drm with children := before ++ stranger :: after }] →
      Config.parse text' = .error (.undecodable [.unexpectedNode stranger.name])
  /-- So is one beside the section. -/
  strangerBeside : ∀ text' before stranger after, stranger.name ≠ sectionName →
    [drm] = before ++ after → Kdl.document? text' = some (before ++ stranger :: after) →
      Config.parse text' = .error (.undecodable [.unexpectedNode stranger.name])
  /-- Whatever else is in a document, it has no configuration when there is a stranger in it. -/
  rejected : ∀ text' nodes, Kdl.document? text' = some nodes → ∀ n ∈ nodes,
    (n.name ≠ sectionName ∨ ∃ child ∈ n.children, child.name ∉ settingNames) →
      ∃ problems, Config.parse text' = .error (.undecodable problems)

theorem parse_eq {text : String} {nodes : List Node} (h : Kdl.document? text = some nodes) :
    Config.parse text = (Config.ofDocument nodes).mapError .undecodable := by
  rw [Config.parse, h]

/-- What the text of a document with one section comes to. -/
theorem parse_of_isSection {text : String} {before after : List Node} {n : Node}
    (htext : Kdl.document? text = some (before ++ n :: after))
    (hbefore : ∀ m ∈ before, m.name ≠ sectionName) (h : n.IsSection)
    (hafter : ∀ m ∈ after, m.name ≠ sectionName) :
    Config.parse text = (Decoding.result ⟨.ofSettings n.children,
      (before ++ strangers n.children ++ after).map strangerProblem⟩).mapError .undecodable := by
  rw [parse_eq htext, ofDocument_eq hbefore h hafter]

theorem parse_of_settings {text : String} {n : Node} (htext : Kdl.document? text = some [n])
    (h : n.IsSection) (hsettings : ∀ child ∈ n.children, child.name ∈ settingNames) :
    Config.parse text = .ok (.ofSettings n.children) := by
  rw [@parse_of_isSection text [] [] n htext (by simp) h (by simp), strangers_eq_nil hsettings]
  rfl

/-- **Sections are decoded by kind.** -/
theorem decodesByKind_parse {text : String} {drm : Node} (htext : Kdl.document? text = some [drm])
    (hdrm : drm.IsSection) (hsettings : ∀ child ∈ drm.children, child.name ∈ settingNames) :
    DecodesByKind text drm := by
  have hsection : ∀ {children : List Node}, Kdl.Node.Orderly children →
      Kdl.Node.IsSection { drm with children := children } := fun horderly =>
    ⟨hdrm.name, hdrm.untyped, hdrm.arguments, hdrm.properties, horderly⟩
  constructor
  case parsed => exact parse_of_settings htext hdrm hsettings
  case interleaved =>
      intro text' children hsame htext'
      have hnames : ∀ child ∈ children, child.name ∈ settingNames := fun child hchild =>
        hsettings child (hsame.mem_iff.1 hchild)
      rw [parse_of_settings htext' (hsection (hsame.orderly hdrm.orderly)) hnames,
        parse_of_settings htext hdrm hsettings, hsame.ofSettings_eq]
  case strangerInside =>
      intro text' before stranger after hstranger hchildren htext'
      have horderly := orderly_insert hstranger (hchildren ▸ hdrm.orderly)
      obtain ⟨hbefore, hafter⟩ := List.forall_mem_append.1 (hchildren ▸ hsettings)
      rw [@parse_of_isSection text' [] [] _ htext' (by simp) (hsection horderly) (by simp)]
      rw [strangers_insert hstranger, strangers_eq_nil hbefore, strangers_eq_nil hafter]
      rfl
  case strangerBeside =>
      intro text' before stranger after hstranger hnodes htext'
      have hone : ∀ m ∈ [stranger], m.name ≠ sectionName := by simpa using hstranger
      cases before with
      | nil =>
          obtain rfl : [drm] = after := hnodes
          rw [@parse_of_isSection text' [stranger] [] drm htext' hone hdrm (by simp),
            strangers_eq_nil hsettings]
          rfl
      | cons n before =>
          obtain ⟨rfl, hrest⟩ := List.cons.inj hnodes
          obtain ⟨rfl, rfl⟩ := List.append_eq_nil_iff.1 hrest.symm
          rw [@parse_of_isSection text' [] [stranger] drm htext' (by simp) hdrm hone,
            strangers_eq_nil hsettings]
          rfl
  case rejected =>
      intro text' nodes htext' n hn hstranger
      rw [parse_eq htext']
      cases hdocument : Config.ofDocument nodes with
      | error problems => exact ⟨problems, rfl⟩
      | ok c =>
          obtain ⟨hname, hchildren⟩ := no_strangers_of_ofDocument hdocument n hn
          rcases hstranger with hother | ⟨child, hchild, hother⟩
          · exact absurd hname hother
          · exact absurd (hchildren child hchild) hother

/-- A setting with an argument. -/
def Kdl.Node.setting (name text : String) : Node := ⟨none, name, [⟨none, .string text⟩], [], []⟩

/-- A section in which settings of two kinds are mixed. -/
def mixedSection : Node :=
  ⟨none, "drm", [], [], [.setting "device" "/b", .setting "seat" "s", .setting "device" "/a"]⟩

/-- The section as a text. -/
def mixedText : String := "drm \x7b device \"/b\"; seat \"s\"; device \"/a\"; \x7d"

/-- The same settings come to the same in another order, and to nothing with a stranger before them. -/
theorem mixed_decodesByKind :
    Config.parse mixedText = .ok ⟨[.ofString "/b", .ofString "/a"], [], some "s", false⟩ ∧
    Config.parse "drm \x7b seat \"s\"; device \"/b\"; device \"/a\"; \x7d" = Config.parse mixedText ∧
    Config.parse "outputs; drm \x7b device \"/b\"; seat \"s\"; device \"/a\"; \x7d" =
      .error (.undecodable [.unexpectedNode "outputs"]) := by
  have hdocument : Kdl.document? mixedText = some [mixedSection] := by decide +kernel
  have hkinds : DecodesByKind mixedText mixedSection := by
    have horderly : Kdl.Node.Orderly mixedSection.children := by
      refine ⟨fun n hn _ => ?_, by decide, by decide⟩
      simp only [mixedSection, List.mem_cons, List.not_mem_nil, or_false] at hn
      rcases hn with rfl | rfl | rfl
      · exact ⟨by decide, by simp [Kdl.Node.setting], fun _ => ⟨_, rfl⟩, rfl, rfl⟩
      · exact ⟨by decide, by simp [Kdl.Node.setting], fun _ => ⟨_, rfl⟩, rfl, rfl⟩
      · exact ⟨by decide, by simp [Kdl.Node.setting], fun _ => ⟨_, rfl⟩, rfl, rfl⟩
    exact decodesByKind_parse hdocument ⟨rfl, rfl, rfl, rfl, horderly⟩ (by decide)
  refine ⟨hkinds.parsed, ?_, ?_⟩
  · have hsame : SameByName mixedSection.children
        [.setting "seat" "s", .setting "device" "/b", .setting "device" "/a"] := by
      intro name
      by_cases hseat : "seat" = name
      · subst hseat
        rfl
      · simp [mixedSection, Kdl.Node.setting, List.filter_cons, hseat]
    exact hkinds.interleaved _ _ hsame (by decide +kernel)
  · exact hkinds.strangerBeside _ [] ⟨none, "outputs", [], [], []⟩ [mixedSection] (by decide) rfl
      (by decide +kernel)

end Scanout
