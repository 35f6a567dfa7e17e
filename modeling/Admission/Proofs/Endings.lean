import Admission.Proofs.Cells
import Admission.Proofs.Layers
import Admission.Proofs.Layout
import Admission.Proofs.Requests
import Admission.Proofs.Substance

/-!
How written policies end. Main statement: whatever the texts of a rule are, the last line of its
policy is ended by a line feed. A block could end with another break, but what stands last in a policy
is either fixed or has no blank at its end.
-/

namespace Admission

namespace Yaml

/-- Only a text with another break at its end can be written with one. -/
theorem textEndsFed_of_last {s : String}
    (h : (s.toList.getLast?.all fun c => !isBreak c || c = '\n') = true) :
    textEndsFed s = true := by
  rw [textEndsFed, h, Bool.or_true]

theorem itemsEndFed_of_forall {items : List Tree} (h : ∀ item ∈ items, endsFed item = true) :
    itemsEndFed true items = true := by
  induction items with
  | nil => rfl
  | cons item items ih =>
    rw [List.forall_mem_cons] at h
    rw [itemsEndFed, h.1]
    exact ih h.2

theorem entriesEndFed_append (isFed : Bool) (front back : List (Tree × Tree)) :
    entriesEndFed isFed (front ++ back) = entriesEndFed (entriesEndFed isFed front) back := by
  induction front generalizing isFed with
  | nil => rfl
  | cons entry front ih => exact ih (endsFed entry.2)

/-- Of the entries of an object only the last one counts. -/
theorem endsFed_object_append (front : List (String × Tree)) (name : String) (value : Tree) :
    endsFed (Tree.object (front ++ [(name, value)])) = endsFed value := by
  rw [Tree.object, endsFed, List.map_append, entriesEndFed_append]
  rfl

theorem endsFed_list {items : List Tree} (h : ∀ item ∈ items, endsFed item = true) :
    endsFed (.list items) = true := itemsEndFed_of_forall h

theorem endsFed_object {entries : List (String × Tree)} (h : ∀ e ∈ entries, endsFed e.2 = true) :
    endsFed (Tree.object entries) = true := by
  cases hlast : entries.reverse with
  | nil =>
    rw [List.reverse_eq_nil_iff.1 hlast]
    rfl
  | cons last front =>
    have hentries : entries = front.reverse ++ [last] := by
      rw [← List.reverse_reverse entries, hlast, List.reverse_cons]
    rw [hentries, endsFed_object_append]
    exact h last (hentries ▸ List.mem_append_right _ (List.mem_singleton_self last))

theorem endsFed_texts {items : List String} (h : ∀ s ∈ items, textEndsFed s = true) :
    endsFed (Tree.texts items) = true :=
  endsFed_list (List.forall_mem_map.2 h)

end Yaml

open Yaml

/-- Whatever ends a line is blank. -/
theorem Yaml.isBlank_of_isBreak {c : Char} (h : isBreak c = true) : Text.isBlank c = true := by
  simp only [isBreak, Bool.or_eq_true, decide_eq_true_eq] at h
  rcases h with (((rfl | rfl) | rfl) | rfl) | rfl <;> rfl

theorem Text.textEndsFed_of_not_blank {s : String}
    (h : ∀ c ∈ s.toList.getLast?, isBlank c = false) : textEndsFed s = true := by
  refine textEndsFed_of_last ?_
  rw [Option.all_eq_true]
  intro c hc
  have hbreak : isBreak c = false := by
    refine Bool.eq_false_iff.2 fun hbreak => ?_
    have hblank := h c hc
    rw [isBlank_of_isBreak hbreak] at hblank
    cases hblank
  rw [hbreak]
  rfl

theorem Text.textEndsFed_trim (s : String) : textEndsFed (trim s) = true :=
  textEndsFed_of_not_blank fun c hc => by
    rw [toList_trim] at hc
    exact getLast?_trimEnd hc

theorem Text.IsTight.textEndsFed {s : String} (h : IsTight s) : textEndsFed s = true := by
  obtain ⟨last, hlast, hblank⟩ := h.last
  refine textEndsFed_of_not_blank fun c hc => ?_
  cases hlast.symm.trans hc
  exact hblank

namespace Settings

theorem endsFed_items {c : Criterion} {found : List String} (h : items c = .ok found) :
    endsFed (Tree.texts found) = true := by
  obtain ⟨rfl, -⟩ := items_eq_ok_iff.1 h
  exact endsFed_texts fun item hitem => (Text.isTight_of_mem_items hitem).textEndsFed

theorem TrustedRepos.endsFed_toTree {criteria : List Criterion} {settings : TrustedRepos}
    (h : ofCriteria criteria = .ok settings) : endsFed settings.toTree = true := by
  have hlist {found : List String} (hfound : settings.Has found) :
      endsFed (Tree.texts found) = true := by
    obtain ⟨c, hc⟩ := exists_items h found hfound
    exact endsFed_items hc
  have hpart {part : RepoSection} (hpart : ∀ found, part.Has found → settings.Has found) :
      endsFed part.toTree = true := by
    refine endsFed_object (List.forall_mem_append.2 ⟨?_, ?_⟩)
    · intro e he
      obtain ⟨found, hallow, rfl⟩ := Option.map_eq_some_iff.1 (Option.mem_toList.1 he)
      exact hlist (hpart found (.inl hallow))
    · intro e he
      obtain ⟨found, hreject, rfl⟩ := Option.map_eq_some_iff.1 (Option.mem_toList.1 he)
      exact hlist (hpart found (.inr hreject))
  refine endsFed_object (List.forall_mem_append.2 ⟨?_, ?_⟩)
  · split
    · exact nofun
    · exact List.forall_mem_singleton.2 (hpart fun _ => .inl)
  · split
    · exact nofun
    · exact List.forall_mem_singleton.2 (hpart fun _ => .inr)

theorem BlockRule.endsFed_toTree {category : String} {found : List BlockRule}
    (h : ofCategory? category = some found) : ∀ rule ∈ found, endsFed rule.toTree = true := by
  have hrule {groups resources verbs : List String} (hverbs : ∀ s ∈ verbs, textEndsFed s = true) :
      endsFed (BlockRule.mk groups resources verbs).toTree = true := endsFed_texts hverbs
  have hverb {s : String} (hs : s ∈ ["list", "get", "*", "create"]) : textEndsFed s = true := by
    simp only [List.mem_cons, List.not_mem_nil, or_false] at hs
    rcases hs with rfl | rfl | rfl | rfl <;> exact textEndsFed_of_last rfl
  unfold ofCategory? at h
  split_ifs at h <;> cases h <;> simp [hrule, hverb]

theorem BlockedRoles.endsFed_toTree {criteria : List Criterion} {settings : BlockedRoles}
    (h : ofCriteria criteria = .ok settings) : endsFed settings.toTree = true := by
  refine endsFed_list (List.forall_mem_map.2 fun rule hrule => ?_)
  obtain ⟨category, found, hfound, hrule⟩ := exists_category h hrule
  exact BlockRule.endsFed_toTree hfound rule hrule

/-- To set a bound brings one entry, with the quantity. -/
theorem Bounds.mem_entries_set {bounds : Bounds} {side : BoundSide} {quantity : String}
    {e : String × Tree} (h : e ∈ (bounds.setLimit side quantity).entries ∨
      e ∈ (bounds.setRequest side quantity).entries) :
    e ∈ bounds.entries ∨ e.2 = .text quantity := by
  have hset {name : String} : e ∈ cell name (some quantity) → e.2 = .text quantity := by
    intro he
    rw [List.mem_singleton.1 he]
  simp only [entries, List.mem_append] at h ⊢
  cases side <;> simp only [setLimit, setRequest] at h <;> grind

namespace ResourceBounds

def entries (settings : ResourceBounds) : List (String × Tree) :=
  settings.cpu.entries ++ settings.memory.entries

/-- A part brings one entry, with the text of its value without the blanks around. -/
theorem mem_entries_add {settings out : ResourceBounds} {part : Criterion}
    (h : settings.add part = .ok out) {e : String × Tree} (he : e ∈ out.entries) :
    e ∈ settings.entries ∨ e.2 = .text (Text.trim part.value) := by
  unfold add at h
  split at h
  · cases h
  · obtain ⟨q, hq, h⟩ := bind_eq_ok.1 h
    obtain rfl := quantity_eq_ok hq
    rw [entries, List.mem_append] at he ⊢
    split_ifs at h <;> cases h
    · exact he.elim (fun hcpu => (Bounds.mem_entries_set (.inl hcpu)).imp_left .inl)
        fun hmemory => .inl (.inr hmemory)
    · exact he.elim (fun hcpu => (Bounds.mem_entries_set (.inr hcpu)).imp_left .inl)
        fun hmemory => .inl (.inr hmemory)
    · exact he.elim (fun hcpu => .inl (.inl hcpu))
        fun hmemory => (Bounds.mem_entries_set (.inl hmemory)).imp_left .inr
    · exact he.elim (fun hcpu => .inl (.inl hcpu))
        fun hmemory => (Bounds.mem_entries_set (.inr hmemory)).imp_left .inr

theorem endsFed_toTree {criteria : List Criterion} {settings : ResourceBounds}
    (h : ofCriteria criteria = .ok settings) : endsFed settings.toTree = true := by
  have hentries : ∀ e ∈ settings.entries, endsFed e.2 = true := by
    obtain ⟨c, -, h⟩ := bind_eq_ok.1 h
    have hparts : c.parts.foldlM add {} = .ok settings := by
      dsimp only at h
      split at h
      · cases h
      · exact h
    refine foldlM_keeps (P := fun s => ∀ e ∈ s.entries, endsFed e.2 = true) ?_ nofun hparts
    intro before part _ out hbefore hadd e he
    rcases mem_entries_add hadd he with hkept | hset
    · exact hbefore e hkept
    · rw [hset]
      exact Text.textEndsFed_trim part.value
  have hsection {name : String} {bounds : Bounds} (hb : bounds.entries ⊆ settings.entries) :
      ∀ e ∈ section? name bounds, endsFed e.2 = true := by
    unfold section?
    split
    · exact nofun
    · exact List.forall_mem_singleton.2 (endsFed_object fun e he => hentries e (hb he))
  exact endsFed_object (List.forall_mem_append.2
    ⟨hsection (List.subset_append_left _ _), hsection (List.subset_append_right _ _)⟩)

end ResourceBounds

namespace Validation

variable {c : Criterion} {v : Validation}

def IsSentence (v : Validation) : Prop := v.message.toList.getLast? = some '.'

theorem getLast?_stop (s : String) : (s ++ ".").toList.getLast? = some '.' := by
  rw [String.toList_append]
  exact List.getLast?_concat

theorem isSentence_of_ofCriterion [Pattern.Engine] (h : ofCriterion c = .ok v) : v.IsSentence := by
  unfold ofCriterion at h
  split at h
  · obtain ⟨found, -, h⟩ := bind_eq_ok.1 h
    dsimp only at h
    split at h <;> cases h
    · exact getLast?_stop _
    · exact getLast?_stop _
  · unfold ofUser at h
    split at h
    case h_1 | h_2 =>
      cases ok_of_patterns h
      exact getLast?_stop _
    case h_3 | h_4 =>
      cases ok_of_pattern h
      exact getLast?_stop _
    case h_5 => cases h
  · unfold ofGroups at h
    split at h
    case h_1 | h_2 | h_3 | h_4 =>
      cases ok_of_patterns h
      exact getLast?_stop _
    case h_5 | h_6 =>
      cases ok_of_pattern h
      exact getLast?_stop _
    case h_7 => cases h
  · cases h

/-- In a block the message has a line feed behind it. -/
theorem IsSentence.endsFed_toTree (h : v.IsSentence) : endsFed v.toTree = true := by
  refine textEndsFed_of_last ?_
  unfold asBlock
  split
  · rw [String.toList_append, show "\n".toList = ['\n'] from rfl, List.getLast?_concat]
    rfl
  · rw [show v.message.toList.getLast? = some '.' from h]
    rfl

end Validation

theorem Conditions.endsFed_toTree [Pattern.Engine] {criteria : List Criterion}
    {settings : Conditions}
    (h : ofCriteria criteria = .ok settings) : endsFed settings.toTree = true := by
  obtain ⟨-, hmade⟩ := conditions_eq_ok.1 h
  refine endsFed_list (List.forall_mem_map.2 fun v hv => ?_)
  obtain ⟨c, -, hc⟩ := (mem_of_mapM_eq_ok hmade).1 hv
  exact (Validation.isSentence_of_ofCriterion hc).endsFed_toTree

end Settings

open Settings in
/-- The settings of a module end with a line feed, unless a list of what it reads follows them. -/
theorem Module.endsFed_settings [Pattern.Engine] {source : ScanSource} {m : Module}
    {criteria : List Criterion} {settings : Tree} (h : m.settings source criteria = .ok settings)
    (hm : m.contextResources = []) : endsFed settings = true := by
  have hlist (hvalues : (ValueList.ofCriteria criteria).map ValueList.toTree = .ok settings) :
      endsFed settings = true := by
    obtain ⟨made, hmade, rfl⟩ := map_eq_ok.1 hvalues
    obtain ⟨c, hfound⟩ := ValueList.exists_items hmade
    exact endsFed_items hfound
  have hswitch {switch : Switch}
      (hvalues : (switch.ofCriteria criteria).map Switch.toTree = .ok settings) :
      endsFed settings = true := by
    obtain ⟨made, -, rfl⟩ := map_eq_ok.1 hvalues
    cases made <;> rfl
  cases m
  case privilegeEscalation => exact hswitch h
  case podPrivileged => exact hswitch h
  case runningAsUser => exact hswitch h
  case secretsScanner => exact hswitch h
  case environmentVariables => exact hlist h
  case labels => exact hlist h
  case annotations => exact hlist h
  case imageCve => cases hm
  all_goals obtain ⟨made, hmade, rfl⟩ := map_eq_ok.1 h
  case hostNamespaces => rfl
  case trustedRepos => exact TrustedRepos.endsFed_toTree hmade
  case cel => exact Conditions.endsFed_toTree hmade
  case serviceAccount => exact BlockedRoles.endsFed_toTree hmade
  case containerResources => exact ResourceBounds.endsFed_toTree hmade
  case storageClass =>
    obtain ⟨c, found, hfound, rfl | rfl⟩ := StorageClasses.exists_items hmade
    · exact endsFed_items hfound
    · exact endsFed_items hfound

theorem Selector.NamesSome.endsFed_toTree {selector : Selector} (h : selector.NamesSome) :
    endsFed selector.toTree = true := by
  obtain ⟨requirement, hone, hne, htight⟩ := h
  refine endsFed_list (List.forall_mem_map.2 fun other hother => ?_)
  rw [hone] at hother
  rw [List.mem_singleton.1 hother, Requirement.toTree, if_neg (by simpa using hne),
    endsFed_object_append]
  exact endsFed_texts fun value hvalue => (htight value hvalue).textEndsFed

/-- What a policy says about a module, behind the settings and whatever is in front of them. -/
theorem endsFed_part {m : Module} {settings : Tree} (front : List (String × Tree))
    (h : m.contextResources = [] → endsFed settings = true) :
    endsFed (Tree.object (front ++ [("settings", settings)] ++ contextEntry m.contextResources)) =
      true := by
  have hresource : ∀ resource ∈ m.contextResources, endsFed resource.toTree = true := by
    intro resource hresource
    cases m
    case imageCve =>
      rw [List.mem_singleton.1 hresource]
      change textEndsFed "VulnerabilityReport" = true
      exact textEndsFed_of_last rfl
    all_goals cases hresource
  unfold contextEntry
  split
  · next hnone =>
    rw [List.append_nil, endsFed_object_append]
    exact h (List.isEmpty_iff.1 hnone)
  · rw [endsFed_object_append]
    exact endsFed_list (List.forall_mem_map.2 hresource)

/-- Entries end with a line feed, whether a selector follows them or not. -/
theorem endsFed_selectorEntry {entries : List (String × Tree)} {selector : Option Selector}
    (h : endsFed (Tree.object entries) = true)
    (hselector : ∀ given, selector = some given → given.NamesSome) :
    endsFed (Tree.object (entries ++ selectorEntry selector)) = true := by
  cases selector with
  | none => rwa [selectorEntry, Option.map_none, Option.toList_none, List.append_nil]
  | some given =>
    rw [selectorEntry, Option.map_some, Option.toList_some, endsFed_object_append]
    exact (hselector given rfl).endsFed_toTree

/-- A policy ends with a line feed, if each module that it runs has its own settings. -/
theorem Policy.endsFed_toTree {policy : Policy}
    (hparts : ∀ part ∈ policy.parts, ∃ m : Module, part.contextResources = m.contextResources ∧
      (m.contextResources = [] → endsFed part.settings = true))
    (hselector : ∀ given, policy.selector = some given → given.NamesSome) :
    endsFed policy.toTree = true := by
  cases policy with
  | single p =>
    obtain ⟨m, hresources, hsettings⟩ := hparts p.member (List.mem_singleton_self _)
    change p.contextResources = _ at hresources
    refine endsFed_selectorEntry ?_ hselector
    rw [hresources]
    exact endsFed_part [_, _, _, _, _] hsettings
  | group p =>
    refine endsFed_selectorEntry ?_ hselector
    refine (endsFed_object_append [_, _, _, _, _, _] "policies" _).trans ?_
    refine endsFed_object (List.forall_mem_map.2 fun member hmember => ?_)
    obtain ⟨m, hresources, hsettings⟩ := hparts member.2 (List.mem_map_of_mem hmember)
    rw [Member.toTree, hresources]
    exact endsFed_part [_] hsettings

/-- The policy of a rule ends with a line feed. -/
theorem Converter.endsFed_of_convert [Pattern.Engine] {converter : Converter} {rule : Rule}
    {policy : Policy}
    (h : converter.convert rule = .ok (.converted policy)) : endsFed policy.toTree = true := by
  obtain ⟨-, -, -, -, hknown, hpolicy⟩ := Converter.convert_eq_converted_iff.1 h
  have hmod := hknown.module?_of_mem_checks
  refine Policy.endsFed_toTree (fun part hpart => ?_) fun selector hselector => ?_
  · obtain ⟨m, -, hsettings, hmade⟩ := (Policy.mem_parts_iff hmod hpolicy).1 hpart
    exact ⟨m, congrArg Member.contextResources hmade,
      Module.endsFed_settings (mapError_eq_ok.1 hsettings)⟩
  · have hgate := Policy.gate_of_ofRule hmod hpolicy
    rw [hselector] at hgate
    exact Rule.namesSome_of_gate hgate

end Admission
