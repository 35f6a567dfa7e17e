import Admission.Proofs.Layers
import Admission.Proofs.Slots

/-!
What becomes of criteria whose settings are merged. Main statement: in the settings of a module a
criterion is kept, as it is when it stands alone, exactly as far as the last criterion for its place
covers it; where nothing is merged, it always is.
-/

namespace Admission

/-- What is wanted at a place is there: all items of a list, or the very value. -/
def Tree.Covers : Tree → Tree → Prop
  | .list found, .list wanted => wanted ⊆ found
  | found, wanted => found = wanted

theorem Tree.covers_refl (tree : Tree) : tree.Covers tree := by
  cases tree with
  | list items => exact List.Subset.refl items
  | _ => rfl

/-- Lists of texts are covered as the texts are. -/
theorem Tree.covers_texts {found wanted : List String} :
    (Tree.texts found).Covers (Tree.texts wanted) ↔ wanted ⊆ found :=
  List.map_subset_iff _ Tree.text_injective

/-- The settings show what the criterion sets at its place when it is given alone. -/
def Module.Keeps [Pattern.Engine] (source : Settings.ScanSource) (m : Module) (settings : Tree)
    (c : Criterion) :
    Prop :=
  ∃ alone wanted found, m.settings source [c] = .ok alone ∧ alone.part? c.slot = some wanted ∧
    settings.part? c.slot = some found ∧ found.Covers wanted

def Criterion.validation [Pattern.Engine] (c : Criterion) : Tree :=
  match Settings.Validation.ofCriterion c with
  | .ok v => v.toTree
  | .error _ => .null

/-- The one criterion sets at least what the other does. -/
def Criterion.Within (c d : Criterion) : Prop :=
  ∃ wanted found, c.wanted? = some wanted ∧ d.wanted? = some found ∧ found.Covers wanted

namespace Module

variable {source : Settings.ScanSource} {m : Module} {criteria : List Criterion} {settings : Tree}
  {c : Criterion}

theorem exists_wanted [Pattern.Engine] (hm : m.merges = true)
    (h : m.settings source criteria = .ok settings) (hc : c ∈ criteria) :
    ∃ alone wanted, m.settings source [c] = .ok alone ∧ alone.part? c.slot = some wanted ∧
      c.wanted? = some wanted ∧ c.slot ∈ m.slots := by
  obtain ⟨alone, halone⟩ := (succeeds_settings_iff_alone hm).1 ⟨settings, h⟩ c hc
  obtain ⟨bare, -, hwrites⟩ := writes_alone hm halone
  obtain ⟨wanted, hwanted⟩ := Option.isSome_iff_exists.1 hwrites.wanted
  exact ⟨alone, wanted, halone, hwrites.here.trans hwanted, hwanted, hwrites.slot⟩

/-- The last criterion for a place decides how much is kept of those before it. -/
theorem keeps_iff [Pattern.Engine] (hm : m.merges = true)
    (h : m.settings source criteria = .ok settings) (hc : c ∈ criteria) :
    m.Keeps source settings c ↔
      ∀ d, Criterion.lastAt c.slot criteria = some d → c.Within d := by
  obtain ⟨alone, wanted, halone, hpart, hwanted, hslot⟩ := exists_wanted hm h hc
  obtain ⟨d, hd⟩ := Criterion.exists_lastAt hc
  obtain ⟨-, found, -, -, hfound, -⟩ := exists_wanted hm h (Criterion.mem_of_lastAt hd).1
  have hshown : settings.part? c.slot = some found := by
    obtain ⟨bare, -, hmerged⟩ := part?_settings hm h hslot
    rw [hmerged, hd, Option.map_some, Option.getD_some, hfound]
  have hkept : m.Keeps source settings c ↔ found.Covers wanted := by
    constructor
    · intro hgiven
      obtain ⟨alone', wanted', found', halone', hpart', hshown', hcovers⟩ := hgiven
      cases halone.symm.trans halone'
      cases hpart.symm.trans hpart'
      cases hshown.symm.trans hshown'
      exact hcovers
    · exact fun hcovers => ⟨alone, wanted, found, halone, hpart, hshown, hcovers⟩
  rw [hkept]
  constructor
  · intro hcovers e he
    cases hd.symm.trans he
    exact ⟨wanted, found, hwanted, hfound, hcovers⟩
  · intro hwithin
    obtain ⟨wanted', found', hwanted', hfound', hcovers⟩ := hwithin d hd
    cases hwanted.symm.trans hwanted'
    cases hfound.symm.trans hfound'
    exact hcovers

theorem slot_eq_nil (hgo : c.module? = some m) (hm : m.merges = false) (hcel : m ≠ .cel) :
    c.slot = [] := by
  obtain ⟨topic, hname, hmodule⟩ := Criterion.module?_eq_some_iff.1 hgo
  have htopic := Criterion.topic?_eq_some_iff.2 hname
  cases topic <;> cases hmodule <;> cases hm <;>
    first | exact absurd rfl hcel | simp [Criterion.slot, htopic]

theorem slot_eq_validations (hgo : c.module? = some .cel) : c.slot = ["validations"] := by
  obtain ⟨topic, hname, hmodule⟩ := Criterion.module?_eq_some_iff.1 hgo
  have htopic := Criterion.topic?_eq_some_iff.2 hname
  cases topic <;> cases hmodule <;> simp [Criterion.slot, htopic]

/-- A criterion that has the very settings alone is kept in them. -/
theorem keeps_of_alone [Pattern.Engine] (hslot : c.slot = [])
    (h : m.settings source [c] = .ok settings) :
    m.Keeps source settings c := by
  refine ⟨settings, settings, settings, h, ?_, ?_, settings.covers_refl⟩ <;> rw [hslot] <;> rfl

/-- The settings of a switch are the same for all lists that it accepts. -/
theorem switch_settings {switch : Settings.Switch} {other : List Criterion}
    (h : (switch.ofCriteria criteria).map Settings.Switch.toTree = .ok settings)
    (hsub : other ⊆ criteria) :
    (switch.ofCriteria other).map Settings.Switch.toTree = .ok settings := by
  have hconst {cs : List Criterion} {tree : Tree}
      (hmade : (switch.ofCriteria cs).map Settings.Switch.toTree = .ok tree) :
      tree = switch.toTree := by
    obtain ⟨same, hsame, rfl⟩ := map_eq_ok.1 hmade
    obtain ⟨_, -, hswitch⟩ := bind_eq_ok.1 hsame
    rw [pure_eq_ok.1 hswitch]
  have hall : Succeeds (switch.ofCriteria criteria) := by
    rw [← succeeds_map]
    exact ⟨settings, h⟩
  have hothers : Succeeds (switch.ofCriteria other) := by
    rw [Settings.succeeds_switch] at hall ⊢
    exact fun c hc => hall c (hsub hc)
  rw [← succeeds_map] at hothers
  obtain ⟨same, hsame⟩ := hothers
  rw [hsame, hconst hsame, hconst h]

variable [Pattern.Engine]

theorem settings_cel_eq_ok : Module.cel.settings source criteria = .ok settings ↔
    criteria ≠ [] ∧ (∀ c ∈ criteria, Succeeds (Settings.Validation.ofCriterion c)) ∧
      settings = Tree.object [("validations", .list (criteria.map Criterion.validation))] := by
  have hentries {validations : List Settings.Validation}
      (hmade : criteria.mapM Settings.Validation.ofCriterion = .ok validations) :
      validations.map Settings.Validation.toTree = criteria.map Criterion.validation := by
    refine map_of_mapM_eq_ok (fun c v hv => ?_) hmade
    rw [Criterion.validation, hv]
  change (Settings.Conditions.ofCriteria criteria).map Settings.Conditions.toTree = _ ↔ _
  rw [map_eq_ok, ← succeeds_mapM]
  simp only [Settings.conditions_eq_ok]
  constructor
  · rintro ⟨conditions, ⟨hne, hmade⟩, rfl⟩
    exact ⟨hne, ⟨_, hmade⟩, by rw [Settings.Conditions.toTree, hentries hmade]⟩
  · rintro ⟨hne, ⟨validations, hmade⟩, rfl⟩
    exact ⟨⟨validations⟩, ⟨hne, hmade⟩, by rw [Settings.Conditions.toTree, hentries hmade]⟩

theorem keeps_of_cel (h : Module.cel.settings source criteria = .ok settings)
    (hgo : c.module? = some .cel) (hc : c ∈ criteria) : Module.cel.Keeps source settings c := by
  obtain ⟨-, hall, rfl⟩ := settings_cel_eq_ok.1 h
  have halone : Module.cel.settings source [c] =
      .ok (Tree.object [("validations", .list [c.validation])]) :=
    settings_cel_eq_ok.2 ⟨by simp, by simpa using hall c hc, rfl⟩
  refine ⟨_, .list [c.validation], .list (criteria.map Criterion.validation), halone, ?_, ?_, ?_⟩
  · rw [slot_eq_validations hgo]
    rfl
  · rw [slot_eq_validations hgo]
    rfl
  · intro tree htree
    rw [List.mem_singleton.1 htree]
    exact List.mem_map_of_mem hc

/-- Where nothing is merged, every criterion is kept: there is no other, or all of them set the same,
or there is room for each. -/
theorem keeps_of_not_merges (hm : m.merges = false) (h : m.settings source criteria = .ok settings)
    (hgo : c.module? = some m) (hc : c ∈ criteria) : m.Keeps source settings c := by
  by_cases hcel : m = .cel
  · subst hcel
    exact keeps_of_cel h hgo hc
  refine keeps_of_alone (slot_eq_nil hgo hm hcel) ?_
  cases hone : m.takesOne with
  | true =>
    match criteria, hc with
    | [d], hc =>
      rw [List.mem_singleton.1 hc]
      exact h
    | d :: e :: rest, _ =>
      rw [settings_cons_cons source hone] at h
      cases h
  | false =>
    have hsub : [c] ⊆ criteria := by simpa using hc
    cases m <;> cases hm <;> cases hone <;>
      first | exact absurd rfl hcel | exact switch_settings h hsub

end Module

/-- The three modules that merge criteria keep of each exactly what the last criterion for the same
place covers: its value if this is the same, its list if all items are in this one too. So it is
with the checks of a rule that is converted, where the other modules keep whatever they are handed,
and at most one criterion scopes the rule. -/
theorem Converter.merging_keeps_iff [Pattern.Engine] (source : Settings.ScanSource)
    (converter : Converter) :
    (∀ (m : Module) (criteria : List Criterion) (settings : Tree),
      m.merges = true → m.settings source criteria = .ok settings → ∀ c ∈ criteria,
        (m.Keeps source settings c ↔
          ∀ d, Criterion.lastAt c.slot criteria = some d → c.Within d)) ∧
    ∀ (rule : Rule) (policy : Policy), converter.convert rule = .ok (.converted policy) →
      rule.writtenOut.gates.length ≤ 1 ∧
      ∀ c ∈ rule.writtenOut.checks, ∃ m, c.module? = some m ∧
        ∃ part ∈ policy.parts, part.module = m.reference ∧
          (m.Keeps converter.config.scanSource part.settings c ↔
            (m.merges = true →
              ∀ d, Criterion.lastAt c.slot (rule.writtenOut.checksOf m) = some d →
                c.Within d)) := by
  refine ⟨fun m criteria settings hm h c hc => Module.keeps_iff hm h hc, ?_⟩
  intro rule policy h
  obtain ⟨-, -, -, -, hknown, hpolicy⟩ := convert_eq_converted_iff.1 h
  have hmod := hknown.module?_of_mem_checks
  constructor
  · obtain ⟨selector, hgate⟩ := ((Policy.succeeds_ofRule hmod).1 ⟨policy, hpolicy⟩).1
    exact (Rule.gate_eq_ok.1 hgate).1
  · intro c hc
    obtain ⟨m, hm⟩ := hmod c hc
    obtain ⟨part, hpart, hmodule, hsettings⟩ := Policy.exists_part hmod hpolicy ⟨c, hc, hm⟩
    refine ⟨m, hm, part, hpart, hmodule, ?_⟩
    have hmem : c ∈ rule.writtenOut.checksOf m := List.mem_filter.2 ⟨hc, decide_eq_true hm⟩
    cases hmerges : m.merges with
    | true => simpa using Module.keeps_iff hmerges hsettings hmem
    | false => simpa using Module.keeps_of_not_merges hmerges hsettings hm hmem

def Rule.widenedImages : Rule where
  id := 1001
  criteria := [{ name := "image", operator := "containsAny", value := "a" },
    { name := "image", operator := "containsAny", value := "b, a" }]

theorem Converter.merging_keeps_widenedImages :
    ∃ policy, plain.convert .widenedImages = .ok (.converted policy) ∧
      ∀ c ∈ Rule.widenedImages.criteria, ∃ part ∈ policy.parts,
        Module.trustedRepos.Keeps plain.config.scanSource part.settings c := by
  have hkind : (Outcome.policy? (plain.convert .widenedImages)).isSome = true := by
    decide +kernel
  obtain ⟨policy, hpolicy⟩ := Option.isSome_iff_exists.1 hkind
  have hconvert := Outcome.policy?_eq_some.1 hpolicy
  refine ⟨policy, hconvert, fun c hc => ?_⟩
  obtain ⟨m, hm, part, hpart, -, hkept⟩ :=
    ((merging_keeps_iff plain.config.scanSource plain).2 .widenedImages policy hconvert).2 c hc
  refine ⟨part, hpart, ?_⟩
  have hmodule : ∀ d ∈ Rule.widenedImages.criteria, d.module? = some .trustedRepos := by decide
  cases hm.symm.trans (hmodule c hc)
  have hplaces : ∀ d ∈ Rule.widenedImages.criteria, d.wanted? = some (Tree.texts d.items) ∧
      Criterion.lastAt d.slot (Rule.widenedImages.writtenOut.checksOf .trustedRepos) =
        some { name := "image", operator := "containsAny", value := "b, a" } := by
    simp only [Rule.widenedImages, List.forall_mem_cons]
    exact ⟨⟨rfl, rfl⟩, ⟨rfl, rfl⟩, by simp⟩
  have hitems : ∀ d ∈ Rule.widenedImages.criteria, d.items ⊆ ["b", "a"] := by decide +kernel
  obtain ⟨hwanted, hlast⟩ := hplaces c hc
  refine hkept.2 fun _ d hd => ?_
  cases hd.symm.trans hlast
  exact ⟨_, Tree.texts ["b", "a"], hwanted, rfl, Tree.covers_texts.2 (hitems c hc)⟩

def Rule.disjointImages : Rule where
  id := 1001
  criteria := [{ name := "image", operator := "containsAny", value := "a" },
    { name := "image", operator := "containsAny", value := "b" }]

theorem Converter.first_images_lost :
    ∃ policy, plain.convert .disjointImages = .ok (.converted policy) ∧
      ∃ c ∈ Rule.disjointImages.criteria, ∀ part ∈ policy.parts,
        ¬ Module.trustedRepos.Keeps plain.config.scanSource part.settings c := by
  have hshown : (Outcome.policy? (plain.convert .disjointImages)).map
      (fun policy => policy.parts.map fun part => part.settings.part? ["images", "reject"]) =
        some [some (Tree.texts ["b"])] := by
    decide +kernel
  obtain ⟨policy, hpolicy, hparts⟩ := Option.map_eq_some_iff.1 hshown
  refine ⟨policy, Outcome.policy?_eq_some.1 hpolicy, _, List.mem_cons_self, ?_⟩
  rintro part hpart ⟨alone, wanted, found, halone, hwanted, hfound, hcovers⟩
  have hsets : (Module.trustedRepos.settings plain.config.scanSource
      [{ name := "image", operator := "containsAny", value := "a" }]).toOption.bind
        (Tree.part? ["images", "reject"]) = some (Tree.texts ["a"]) := by
    decide +kernel
  rw [halone] at hsets
  have hlast : part.settings.part? ["images", "reject"] = some (Tree.texts ["b"]) := by
    rw [← List.mem_singleton, ← hparts]
    exact List.mem_map.2 ⟨part, hpart, rfl⟩
  cases hwanted.symm.trans hsets
  cases hfound.symm.trans hlast
  revert hcovers
  rw [Tree.covers_texts]
  decide

end Admission
