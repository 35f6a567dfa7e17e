import Admission.Proofs.BuiltIn

/-!
The bridge for custom criteria. Main statement: a rule without a custom criterion never reaches the
bridge, so every bridge leaves it the same outcome; a rule with one never becomes a policy, and once
its bundles are written out its outcome is the answer of the bridge.
-/

namespace Admission

theorem Criterion.isCustom_iff {c : Criterion} :
    c.isCustom = true ↔ c.name = "customPath" ∨ c.name = "" := by
  unfold isCustom
  rw [Bool.or_eq_true, beq_iff_eq, beq_iff_eq]
  rfl

theorem Rule.hasCustom_iff {rule : Rule} :
    rule.hasCustom = true ↔ ∃ c ∈ rule.criteria, c.name = "customPath" ∨ c.name = "" := by
  unfold hasCustom
  rw [List.any_eq_true]
  simp only [Criterion.isCustom_iff]

/-- The bundles of a rule can be written out, and all else in the rule stays as it is. -/
theorem Rule.expand_eq_writtenOut {rule : Rule} (h : BundlesReadable rule.criteria) :
    rule.expand = .ok { rule with criteria := rule.written } :=
  Rule.expand_eq_ok.2 ⟨h, rfl⟩

namespace Converter

def withBridge (converter : Converter) (bridge : Bridge) : Converter := { converter with bridge }

variable {rule : Rule}

theorem hasCustom_of_expand {out : Rule} (h : rule.expand = .ok out) :
    out.hasCustom = rule.hasCustom := by
  obtain ⟨-, rfl⟩ := Rule.expand_eq_ok.1 h
  exact Rule.hasCustom_writtenOut

variable [Pattern.Engine]

/-- Without a custom criterion the way of a rule does not lead to the bridge. -/
theorem convert_of_plain (converter : Converter) (h : rule.hasCustom = false) :
    converter.convert rule = (do
      let out ← rule.expand
      out.validate
      (Policy.ofRule converter.config.scanSource converter.config out).map .converted) := by
  unfold convert
  apply bind_congr_of_ok
  intro out hout
  have hplain : out.hasCustom = false := (hasCustom_of_expand hout).trans h
  rw [hplain]
  rfl

/-- With a custom criterion it leads nowhere else, and nothing is checked on it. -/
theorem convert_of_custom (converter : Converter) (h : rule.hasCustom = true) :
    converter.convert rule = (do
      let out ← rule.expand
      (converter.bridge.convert out).map .diverted) := by
  unfold convert
  apply bind_congr_of_ok
  intro out hout
  have hcustom : out.hasCustom = true := (hasCustom_of_expand hout).trans h
  rw [hcustom]
  rfl

theorem convert_ne_diverted (converter : Converter) (h : rule.hasCustom = false)
    (artifact : Artifact) : converter.convert rule ≠ .ok (.diverted artifact) := by
  intro hdiverted
  rw [converter.convert_of_plain h] at hdiverted
  obtain ⟨out, -, hchecked⟩ := bind_eq_ok.1 hdiverted
  obtain ⟨-, -, hmade⟩ := bind_eq_ok.1 hchecked
  obtain ⟨policy, -, habsurd⟩ := map_eq_ok.1 hmade
  cases habsurd

theorem convert_ne_converted (converter : Converter) (h : rule.hasCustom = true)
    (policy : Policy) : converter.convert rule ≠ .ok (.converted policy) := by
  intro hconverted
  rw [converter.convert_of_custom h] at hconverted
  obtain ⟨out, -, hanswer⟩ := bind_eq_ok.1 hconverted
  obtain ⟨artifact, -, habsurd⟩ := map_eq_ok.1 hanswer
  cases habsurd

/-- All bridges are alike to a rule without a custom criterion. -/
theorem convert_withBridge_of_plain (converter : Converter) (h : rule.hasCustom = false)
    (bridge other : Bridge) :
    (converter.withBridge bridge).convert rule = (converter.withBridge other).convert rule := by
  rw [convert_of_plain _ h, convert_of_plain _ h]
  rfl

/-- The bridge gets to see the rule as it is written out and nothing else, so bridges that answer
alike there cannot be told apart. -/
theorem convert_withBridge_congr (converter : Converter) {bridge other : Bridge}
    (h : bridge.convert rule.writtenOut = other.convert rule.writtenOut) :
    (converter.withBridge bridge).convert rule = (converter.withBridge other).convert rule := by
  cases hcustom : rule.hasCustom with
  | false => exact converter.convert_withBridge_of_plain hcustom bridge other
  | true =>
    rw [convert_of_custom _ hcustom, convert_of_custom _ hcustom]
    apply bind_congr_of_ok
    intro out hout
    obtain ⟨-, rfl⟩ := Rule.expand_eq_ok.1 hout
    change (bridge.convert _).map _ = (other.convert _).map _
    rw [h]

/-- A rule without a custom criterion has one outcome under all bridges and is never diverted. A
rule with one never becomes a policy; its outcome is what the bridge answers to the rule with its
bundles written out and everything else as given, whatever the configuration and the rest of the
rule. In either case nothing but that answer tells two bridges apart. -/
theorem convert_bridging (converter : Converter) (rule : Rule) :
    ((∀ c ∈ rule.criteria, c.name ≠ "customPath" ∧ c.name ≠ "") →
      (∀ bridge other : Bridge,
        (converter.withBridge bridge).convert rule = (converter.withBridge other).convert rule) ∧
      ∀ artifact, converter.convert rule ≠ .ok (.diverted artifact)) ∧
    ((∃ c ∈ rule.criteria, c.name = "customPath" ∨ c.name = "") →
      (∀ policy, converter.convert rule ≠ .ok (.converted policy)) ∧
      (BundlesReadable rule.criteria →
        rule.expand = .ok { rule with criteria := rule.written } ∧
        converter.convert rule =
          (converter.bridge.convert { rule with criteria := rule.written }).map .diverted)) ∧
    ∀ bridge other : Bridge, bridge.convert rule.writtenOut = other.convert rule.writtenOut →
      (converter.withBridge bridge).convert rule = (converter.withBridge other).convert rule := by
  refine ⟨fun hnone => ?_, fun hsome => ?_, fun bridge other => converter.convert_withBridge_congr⟩
  · have hplain : rule.hasCustom = false := by
      rw [← Bool.not_eq_true, Rule.hasCustom_iff]
      rintro ⟨c, hc, hname⟩
      exact hname.elim (hnone c hc).1 (hnone c hc).2
    exact ⟨converter.convert_withBridge_of_plain hplain, converter.convert_ne_diverted hplain⟩
  · have hcustom : rule.hasCustom = true := Rule.hasCustom_iff.2 hsome
    refine ⟨converter.convert_ne_converted hcustom, fun hread => ?_⟩
    have hexpand := Rule.expand_eq_writtenOut hread
    refine ⟨hexpand, ?_⟩
    rw [converter.convert_of_custom hcustom, hexpand, ok_bind]

end Converter

/-- A disabled built-in rule with a bundle, a criterion of no topic and a custom criterion. -/
def Rule.builtInCustom : Rule where
  id := 7
  criteria := [{ name := "pspCompliance", operator := "=", value := "true" },
    { name := "bogus", operator := "??" }, { name := "customPath", operator := "exists" }]
  kind := .exception
  disabled := true

/-- A bridge that keeps count of the criteria it was given. -/
def Bridge.counting : Bridge where
  name := "counting"
  convert rule := .ok ⟨rule.id, "count", "rule.txt", toString rule.criteria.length⟩

theorem Converter.convert_bridging_builtInCustom :
    (Converter.plain.withBridge .counting).convert .builtInCustom =
        .ok (.diverted ⟨7, "count", "rule.txt", "8"⟩) ∧
      (∀ artifact, Converter.plain.convert .privilegedRoot ≠ .ok (.diverted artifact)) ∧
      (Converter.plain.withBridge .counting).convert .privilegedRoot =
        (Converter.plain.withBridge .none).convert .privilegedRoot := by
  have hread : BundlesReadable Rule.builtInCustom.criteria := by
    unfold BundlesReadable
    decide
  obtain ⟨-, hcustom, -⟩ :=
    Converter.convert_bridging (Converter.plain.withBridge .counting) .builtInCustom
  obtain ⟨hplain, -, -⟩ := Converter.convert_bridging Converter.plain .privilegedRoot
  obtain ⟨-, hanswer⟩ := hcustom (Rule.hasCustom_iff.1 (by decide))
  obtain ⟨hsame, hnever⟩ := hplain (by decide)
  refine ⟨?_, hnever, hsame _ _⟩
  rw [(hanswer hread).2]
  rfl

end Admission
