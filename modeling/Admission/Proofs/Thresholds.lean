import Admission.Pattern
import Admission.Proofs.Conversion
import Admission.Proofs.Slots

/-!
The limits on the vulnerabilities of an image. Main statement: criteria about scans have settings
exactly when each value is well formed, and then every limit is one less than the last threshold for
it, whatever stands before that threshold and between it and the others.
-/

namespace Admission

open Settings (ScanSource)

namespace Criterion

variable {c : Criterion}

def IsScan (c : Criterion) : Prop := c.name ∈ ["imageScanned", "cveHighCount", "cveMediumCount"]

theorem IsScan.exists_topic (h : c.IsScan) :
    ∃ topic ∈ Module.imageCve.topics, c.topic? = some topic := by
  simp only [IsScan, List.mem_cons, List.not_mem_nil, or_false] at h
  rcases h with h | h | h
  · exact ⟨.imageScanned, by decide, topic?_eq_some_iff.2 h⟩
  · exact ⟨.cveHighCount, by decide, topic?_eq_some_iff.2 h⟩
  · exact ⟨.cveMediumCount, by decide, topic?_eq_some_iff.2 h⟩

/-- The limit is one less than the count that the value denotes. -/
def Limits (c : Criterion) (limit : Tree) : Prop :=
  ∃ n, Number.DenotesInteger (Text.trimChars c.value.toList) n ∧ 0 ≤ n ∧ n ≤ Number.maxInteger ∧
    limit = .int (n - 1)

/-- The flag is what the value stands for. -/
def Flags (c : Criterion) (flag : Tree) : Prop :=
  ∃ b, c.value ∈ (bif b then Settings.trueLiterals else Settings.falseLiterals) ∧ flag = .bool b

theorem slot_of_topic :
    (c.topic? = some .imageScanned → c.slot = ["ignoreMissingVulnerabilityReport"]) ∧
      (c.topic? = some .cveHighCount → c.slot = ["maxSeverity", "high", "total"]) ∧
      (c.topic? = some .cveMediumCount → c.slot = ["maxSeverity", "medium", "total"]) := by
  refine ⟨fun h => ?_, fun h => ?_, fun h => ?_⟩ <;> simp [slot, h]

/-- The place tells the name. -/
theorem IsScan.slot_eq_iff (h : c.IsScan) :
    (c.slot = ["ignoreMissingVulnerabilityReport"] ↔ c.name = "imageScanned") ∧
      (c.slot = ["maxSeverity", "high", "total"] ↔ c.name = "cveHighCount") ∧
      (c.slot = ["maxSeverity", "medium", "total"] ↔ c.name = "cveMediumCount") := by
  obtain ⟨topic, ht, htopic⟩ := h.exists_topic
  have hname := topic?_eq_some_iff.1 htopic
  simp only [Module.topics, List.mem_cons, List.not_mem_nil, or_false] at ht
  rcases ht with rfl | rfl | rfl
  · simp [hname, slot_of_topic.1 htopic, Topic.name]
  · simp [hname, slot_of_topic.2.1 htopic, Topic.name]
  · simp [hname, slot_of_topic.2.2 htopic, Topic.name]

variable [Pattern.Engine]

theorem exists_flag (hname : c.name = "imageScanned") (h : c.IsWellFormed) :
    ∃ flag, c.wanted? = some flag ∧ c.Flags flag := by
  have htopic : c.topic? = some .imageScanned := topic?_eq_some_iff.2 hname
  obtain ⟨b, hb⟩ := Settings.succeeds_boolean.2 ((isWellFormed_iff htopic).1 h)
  refine ⟨.bool b, ?_, b, Settings.boolean_eq_ok.1 hb, rfl⟩
  simp only [wanted?, htopic, hb]
  rfl

theorem exists_limit {topic : Topic} (ht : topic ∈ [Topic.cveHighCount, .cveMediumCount])
    (hname : c.name = topic.name) (h : c.IsWellFormed) :
    ∃ limit, c.wanted? = some limit ∧ c.Limits limit := by
  have htopic : c.topic? = some topic := topic?_eq_some_iff.2 hname
  simp only [List.mem_cons, List.not_mem_nil, or_false] at ht
  have hvalue : ∃ n, Number.DenotesInteger (Text.trimChars c.value.toList) n ∧
      0 ≤ n ∧ n ≤ Number.maxInteger := by
    rw [isWellFormed_iff htopic] at h
    rcases ht with rfl | rfl <;> exact h
  obtain ⟨n, hn⟩ := hvalue
  have hcount : (Settings.count c).toOption = some n := by rw [Settings.count_eq_ok.2 hn]; rfl
  refine ⟨.int (n - 1), ?_, n, hn.1, hn.2.1, hn.2.2, rfl⟩
  rcases ht with rfl | rfl <;> simp [wanted?, htopic, hcount]

end Criterion

/-- The tree has something at the path if and only if one of the criteria has the name, and then it
is what the last of these means. -/
structure Tree.FollowsLast (tree : Tree) (path : List String) (name : String)
    (criteria : List Criterion) (means : Criterion → Tree → Prop) : Prop where
  absent : tree.part? path = none ↔ ∀ c ∈ criteria, c.name ≠ name
  last : ∀ front c back, criteria = front ++ c :: back → c.name = name →
    (∀ d ∈ back, d.name ≠ name) → ∃ shown, tree.part? path = some shown ∧ means c shown

namespace Settings.ImageScan

variable {source : ScanSource} {criteria : List Criterion} {settings : Tree}

theorem succeeds_scans_iff [Pattern.Engine] (hscan : ∀ c ∈ criteria, c.IsScan) :
    Succeeds (Module.imageCve.settings source criteria) ↔ ∀ c ∈ criteria, c.IsWellFormed := by
  simp only [Module.settings, succeeds_map]
  apply succeeds_foldlM
  intro s c hc
  obtain ⟨topic, ht, htopic⟩ := (hscan c hc).exists_topic
  rw [succeeds_addImageScan s htopic ht, Criterion.isWellFormed_iff htopic]

/-- The first criterion that is not well formed is the one that is reported. -/
theorem scans_eq_error [Pattern.Engine] {front back : List Criterion} {c : Criterion}
    (hscan : ∀ d ∈ front ++ c :: back, d.IsScan) (hfront : ∀ d ∈ front, d.IsWellFormed)
    (hc : ¬ c.IsWellFormed) :
    ∃ fault, Module.imageCve.settings source [c] = .error fault ∧
      Module.imageCve.settings source (front ++ c :: back) = .error fault := by
  have halone : ¬ Succeeds (Module.imageCve.settings source [c]) := by
    rw [succeeds_scans_iff (by simpa using hscan c (by simp))]
    simpa using hc
  obtain ⟨fault, hfault⟩ := not_succeeds_iff.1 halone
  refine ⟨fault, hfault, ?_⟩
  have hreads : ∀ d ∈ front,
      (Module.imageCve.settings source [d]).map (fun _ => ()) = .ok () := by
    intro d hd
    rw [← succeeds_unit, succeeds_map, succeeds_scans_iff (by simpa using hscan d (by simp [hd]))]
    simpa using hfront d hd
  have hrefusal := @Module.refusal_settings source .imageCve _ rfl (front ++ c :: back)
  rw [forM_append_cons_eq_error hreads (by rw [hfault]; rfl)] at hrefusal
  exact map_eq_error.1 hrefusal

theorem part?_scans [Pattern.Engine] (h : Module.imageCve.settings source criteria = .ok settings)
    {path : List String} (hpath : path ∈ Module.imageCve.slots) :
    settings.part? path = (Criterion.lastAt path criteria).bind Criterion.wanted? := by
  obtain ⟨bare, hbare, hpart⟩ := Module.part?_settings rfl h hpath
  have hnone : bare.part? path = none := by
    cases hbare
    simp only [Module.slots, List.mem_cons, List.not_mem_nil, or_false] at hpath
    rcases hpath with rfl | rfl | rfl <;> rfl
  rw [hpart, hnone]
  cases Criterion.lastAt path criteria <;> rfl

theorem followsLast_scans [Pattern.Engine]
    (h : Module.imageCve.settings source criteria = .ok settings)
    {means : Criterion → Tree → Prop} {path : List String} (hpath : path ∈ Module.imageCve.slots)
    {name : String} (hname : ∀ c ∈ criteria, (c.slot = path ↔ c.name = name))
    (hmeans : ∀ c ∈ criteria, c.name = name → ∃ shown, c.wanted? = some shown ∧ means c shown) :
    settings.FollowsLast path name criteria means := by
  have hpart := part?_scans h hpath
  constructor
  case absent =>
    rw [hpart, Option.bind_eq_none_iff]
    constructor
    · intro hnone c hc hcname
      obtain ⟨d, hd⟩ := Criterion.exists_lastAt hc
      rw [(hname c hc).2 hcname] at hd
      obtain ⟨hmem, hslot⟩ := Criterion.mem_of_lastAt hd
      obtain ⟨shown, hshown, -⟩ := hmeans d hmem ((hname d hmem).1 hslot)
      rw [hnone d hd] at hshown
      cases hshown
    · intro hnone d hd
      obtain ⟨hmem, hslot⟩ := Criterion.mem_of_lastAt hd
      exact absurd ((hname d hmem).1 hslot) (hnone d hmem)
  case last =>
    rintro front c back rfl hcname hback
    have hslot := (hname c (by simp)).2 hcname
    have hlast : Criterion.lastAt path (front ++ c :: back) = some c :=
      Criterion.lastAt_append_cons hslot fun d hd hdslot =>
        hback d hd ((hname d (by simp [hd])).1 hdslot)
    obtain ⟨shown, hshown, hmeant⟩ := hmeans c (by simp) hcname
    exact ⟨shown, by rw [hpart, hlast, Option.bind_some, hshown], hmeant⟩

/-- There is a section for the limits if there is a limit. -/
theorem get?_maxSeverity (settings : ImageScan) : settings.toTree.get? "maxSeverity" = none ↔
    settings.toTree.part? ["maxSeverity", "high", "total"] = none ∧
      settings.toTree.part? ["maxSeverity", "medium", "total"] = none := by
  obtain ⟨source, ignored, high, medium⟩ := settings
  cases ignored <;> cases high <;> cases medium <;>
    simp [toTree, limit, Tree.part?, Tree.get?, Tree.object]

end Settings.ImageScan

open Settings.ImageScan in
/-- Criteria about scans, as many as there are and in any order, have settings if and only if each
value is well formed: the counts are integers from zero to the greatest one between their blanks,
and the rest are literals of truth values. The first value that is not has all of them refused, for
the same reason as if it stood alone. In the settings the limit for each severity is one less than
the last threshold for it and is left out without one, and so is the flag for missing reports. -/
theorem Module.thresholds_of_settings [Pattern.Engine] (source : ScanSource)
    {criteria : List Criterion}
    (hscan : ∀ c ∈ criteria, c.name ∈ ["imageScanned", "cveHighCount", "cveMediumCount"]) :
    (Succeeds (imageCve.settings source criteria) ↔
      ∀ c ∈ criteria,
        if c.name = "imageScanned" then c.value ∈ Settings.trueLiterals ++ Settings.falseLiterals
        else ∃ n, Number.DenotesInteger (Text.trimChars c.value.toList) n ∧
          0 ≤ n ∧ n ≤ Number.maxInteger) ∧
    (∀ front c back, criteria = front ++ c :: back → (∀ d ∈ front, d.IsWellFormed) →
      ¬ c.IsWellFormed → ∃ fault, imageCve.settings source [c] = .error fault ∧
        imageCve.settings source criteria = .error fault) ∧
    ∀ settings, imageCve.settings source criteria = .ok settings →
      settings.FollowsLast ["maxSeverity", "high", "total"] "cveHighCount" criteria
        Criterion.Limits ∧
      settings.FollowsLast ["maxSeverity", "medium", "total"] "cveMediumCount" criteria
        Criterion.Limits ∧
      settings.FollowsLast ["ignoreMissingVulnerabilityReport"] "imageScanned" criteria
        Criterion.Flags ∧
      (settings.get? "maxSeverity" = none ↔
        ∀ c ∈ criteria, c.name ≠ "cveHighCount" ∧ c.name ≠ "cveMediumCount") := by
  have hwf : ∀ c ∈ criteria, (c.IsWellFormed ↔
      if c.name = "imageScanned" then c.value ∈ Settings.trueLiterals ++ Settings.falseLiterals
      else ∃ n, Number.DenotesInteger (Text.trimChars c.value.toList) n ∧
        0 ≤ n ∧ n ≤ Number.maxInteger) := by
    intro c hc
    obtain ⟨topic, ht, htopic⟩ := Criterion.IsScan.exists_topic (hscan c hc)
    rw [Criterion.isWellFormed_iff htopic, Criterion.topic?_eq_some_iff.1 htopic]
    simp only [topics, List.mem_cons, List.not_mem_nil, or_false] at ht
    rcases ht with rfl | rfl | rfl <;> rfl
  refine ⟨?_, ?_, ?_⟩
  · rw [succeeds_scans_iff hscan]
    exact forall₂_congr hwf
  · rintro front c back rfl hfront hc
    exact scans_eq_error hscan hfront hc
  · intro settings h
    have hall : ∀ c ∈ criteria, c.IsWellFormed := (succeeds_scans_iff hscan).1 ⟨settings, h⟩
    have hhigh : settings.FollowsLast ["maxSeverity", "high", "total"] "cveHighCount" criteria
        Criterion.Limits := followsLast_scans h (by decide)
      (fun c hc => (Criterion.IsScan.slot_eq_iff (hscan c hc)).2.1)
      fun c hc hname =>
        Criterion.exists_limit (by decide : Topic.cveHighCount ∈ _) hname (hall c hc)
    have hmedium : settings.FollowsLast ["maxSeverity", "medium", "total"] "cveMediumCount"
        criteria Criterion.Limits := followsLast_scans h (by decide)
      (fun c hc => (Criterion.IsScan.slot_eq_iff (hscan c hc)).2.2)
      fun c hc hname =>
        Criterion.exists_limit (by decide : Topic.cveMediumCount ∈ _) hname (hall c hc)
    have hflag : settings.FollowsLast ["ignoreMissingVulnerabilityReport"] "imageScanned" criteria
        Criterion.Flags := followsLast_scans h (by decide)
      (fun c hc => (Criterion.IsScan.slot_eq_iff (hscan c hc)).1)
      fun c hc hname => Criterion.exists_flag hname (hall c hc)
    refine ⟨hhigh, hmedium, hflag, ?_⟩
    obtain ⟨scan, -, rfl⟩ := map_eq_ok.1 h
    rw [scan.get?_maxSeverity, hhigh.absent, hmedium.absent, ← forall₂_and]

/-- Thresholds at both ends of the range, and two of them for one severity. -/
def Criterion.thresholds : List Criterion :=
  [{ name := "cveHighCount", operator := ">=", value := "9223372036854775807" },
    { name := "imageScanned", operator := "=", value := "true" },
    { name := "cveMediumCount", operator := ">=", value := "0" },
    { name := "cveHighCount", operator := "=", value := " +5 " },
    { name := "imageScanned", operator := "=", value := "f" }]

theorem Module.thresholds_of_twoHigh :
    ∃ settings, imageCve.settings ⟨"sbomscanner", "amd64"⟩ Criterion.thresholds = .ok settings ∧
      settings.FollowsLast ["maxSeverity", "high", "total"] "cveHighCount" Criterion.thresholds
        Criterion.Limits ∧
      settings.part? ["maxSeverity", "high", "total"] = some (.int 4) ∧
      settings.part? ["maxSeverity", "medium", "total"] = some (.int (-1)) ∧
      settings.part? ["ignoreMissingVulnerabilityReport"] = some (.bool false) := by
  have hscan : ∀ c ∈ Criterion.thresholds,
      c.name ∈ ["imageScanned", "cveHighCount", "cveMediumCount"] := by decide
  have hlimits := thresholds_of_settings ⟨"sbomscanner", "amd64"⟩ hscan
  have hsettings : Succeeds (imageCve.settings ⟨"sbomscanner", "amd64"⟩ Criterion.thresholds) := by
    decide +kernel
  obtain ⟨settings, hsettings⟩ := hsettings
  refine ⟨settings, hsettings, (hlimits.2.2 settings hsettings).1, ?_⟩
  cases hsettings
  exact ⟨rfl, rfl, rfl⟩

end Admission
