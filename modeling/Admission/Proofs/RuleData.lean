import Admission.Proofs.Record
import Admission.Rule

/-!
Rules as data. Main statement: a rule read from its own data is the same rule, with its criteria
down to every level, unless its kind is one of the two known ones under the guise of a free text;
and no such kind comes out of reading, so that a rule that was read once stays what it is.
-/

namespace Admission

namespace RuleKind

def IsNamed (kind : RuleKind) : Prop := ∃ s, ofName s = kind

theorem isNamed_iff_ofName_name {kind : RuleKind} : kind.IsNamed ↔ ofName kind.name = kind := by
  constructor
  · rintro ⟨s, rfl⟩
    rw [name_ofName]
  · exact fun h => ⟨kind.name, h⟩

/-- Only a free text that is the name of a known kind stands for nothing. -/
theorem isNamed_iff {kind : RuleKind} :
    kind.IsNamed ↔ kind ≠ .other "deny" ∧ kind ≠ .other "exception" := by
  rw [isNamed_iff_ofName_name]
  cases kind with
  | deny => decide
  | exception => decide
  | other s =>
    unfold ofName name
    by_cases hdeny : s = "deny"
    · simp [hdeny]
    · by_cases hexception : s = "exception" <;> simp [hdeny, hexception]

end RuleKind

open Admission.Tree

namespace Criterion

variable {form : RecordForm}

theorem toTrees_eq_map (criteria : List Criterion) : toTrees criteria = criteria.map toTree := by
  induction criteria with
  | nil => rfl
  | cons c cs ih => rw [toTrees, ih, List.map_cons]

theorem toTree_eq_ofFields (c : Criterion) : c.toTree = ofFields
    [("name", some (.text c.name)), ("op", some (.text c.operator)),
      ("value", some (.text c.value)),
      ("sub_criteria", unlessEmpty c.parts (.list (c.parts.map toTree)))] := by
  obtain ⟨name, operator, value, parts⟩ := c
  rw [toTree, toTrees_eq_map]
  cases parts <;> rfl

theorem fields_toTree (c : Criterion) : c.toTree.fields form fieldNames =
    some [some (.text c.name), some (.text c.operator), some (.text c.value),
      unlessEmpty c.parts (.list (c.parts.map toTree))] := by
  rw [toTree_eq_ofFields]
  exact fields_ofFields _ (by simp) form

theorem depth_lt_of_mem_parts {c part : Criterion} (h : part ∈ c.parts) :
    part.toTree.depth + 1 < c.toTree.depth := by
  have hlist : part.toTree.depth < (Tree.list (c.parts.map toTree)).depth :=
    depth_lt_list (List.mem_map_of_mem h)
  have hempty : c.parts.isEmpty = false := by
    rw [List.isEmpty_eq_false_iff]
    exact List.ne_nil_of_mem h
  have hfield : (Tree.list (c.parts.map toTree)).depth < c.toTree.depth := by
    have hmem : ("sub_criteria", some (Tree.list (c.parts.map toTree))) ∈
        [("name", some (.text c.name)), ("op", some (.text c.operator)),
          ("value", some (.text c.value)),
          ("sub_criteria", unlessEmpty c.parts (.list (c.parts.map toTree)))] := by
      simp [unlessEmpty, hempty]
    rw [toTree_eq_ofFields]
    exact depth_lt_ofFields hmem
  omega

/-- As many levels as the data has are enough to read the criterion back. -/
theorem ofTreeWithin_toTree (fuel : Nat) (c : Criterion) (h : c.toTree.depth < fuel) :
    ofTreeWithin form fuel c.toTree = some c := by
  induction fuel generalizing c with
  | zero => exact absurd h (Nat.not_lt_zero _)
  | succ fuel ih =>
    have hpart : ∀ part ∈ c.parts, ofTreeWithin form fuel part.toTree = some part := by
      intro part hmem
      have hdepth := depth_lt_of_mem_parts hmem
      exact ih part (by omega)
    have hparts : withDefault [] (listOf? form (ofTreeWithin form fuel))
        (unlessEmpty c.parts (.list (c.parts.map toTree))) = some c.parts :=
      withDefault_unlessEmpty (listOf?_list_map form hpart)
    rw [ofTreeWithin, fields_toTree]
    dsimp only
    rw [hparts]
    cases c
    rfl

theorem ofTree?_toTree (c : Criterion) : ofTree? form c.toTree = some c :=
  ofTreeWithin_toTree _ c (Nat.lt_succ_self _)

end Criterion

theorem Tree.word?_toNat (n : UInt32) : word? (.int n.toNat) = some n := by
  have hrange : (0 : Int) ≤ n.toNat ∧ (n.toNat : Int) < UInt32.size := by
    have hsize : UInt32.size = 2 ^ 32 := rfl
    have hlt := n.toNat_lt
    omega
  unfold word? untag
  dsimp only
  rw [if_pos hrange, Int.toNat_natCast, UInt32.ofNat_toNat]

theorem Tree.optional_text (value : Option String) :
    optional text? (value.map .text) = some value := by
  cases value <;> rfl

namespace Rule

variable {form : RecordForm}

theorem toTree_eq_ofFields (rule : Rule) : rule.toTree = ofFields
    [("id", some (.int rule.id.toNat)),
      ("criteria", some (.list (rule.criteria.map Criterion.toTree))),
      ("rule_type", some (.text rule.kind.name)), ("disabled", some (.bool rule.disabled)),
      ("mode", rule.mode.map .text), ("comment", some (.text rule.comment))] := by
  rw [toTree, Criterion.toTrees_eq_map]
  cases rule.mode <;> rfl

/-- Whatever its kind, the data of a rule are read as the rule with the kind that its name stands
for. -/
theorem ofTree?_toTree_eq (rule : Rule) :
    ofTree? form rule.toTree = some { rule with kind := .ofName rule.kind.name } := by
  have hfields : rule.toTree.fields form fieldNames =
      some [some (.int rule.id.toNat), some (.list (rule.criteria.map Criterion.toTree)),
        some (.text rule.kind.name), some (.bool rule.disabled), rule.mode.map .text,
        some (.text rule.comment)] := by
    rw [toTree_eq_ofFields]
    exact fields_ofFields _ (by simp) form
  have hcriteria : withDefault [] (listOf? form (Criterion.ofTree? form))
      (some (.list (rule.criteria.map Criterion.toTree))) = some rule.criteria :=
    listOf?_list_map form fun c _ => Criterion.ofTree?_toTree c
  have hid : required word? (some (.int rule.id.toNat)) = some rule.id := by
    rw [required, Option.bind_some, word?_toNat]
  rw [ofTree?, hfields]
  dsimp only
  rw [hid, hcriteria, optional_text]
  rfl

theorem isNamed_kind_of_ofTree? {tree : Tree} {rule : Rule} (h : ofTree? form tree = some rule) :
    rule.kind.IsNamed := by
  unfold ofTree? at h
  split at h
  case h_2 => cases h
  case h_1 id criteria kind disabled mode comment _ =>
    simp only [bind, pure, Option.bind_eq_some_iff, Option.some.injEq] at h
    obtain ⟨_, -, _, -, found, hkind, _, -, _, -, _, -, rfl⟩ := h
    cases kind with
    | none =>
      cases hkind
      exact ⟨"deny", rfl⟩
    | some kind =>
      obtain ⟨s, -, rfl⟩ := Option.map_eq_some_iff.1 hkind
      exact ⟨s, rfl⟩

theorem ofTree?_toTree_iff (rule : Rule) :
    ofTree? form rule.toTree = some rule ↔ rule.kind.IsNamed := by
  rw [ofTree?_toTree_eq, RuleKind.isNamed_iff_ofName_name, Option.some.injEq]
  obtain ⟨id, criteria, kind, disabled, mode, comment⟩ := rule
  simp

/-- Reading the data of a rule gives back the rule exactly when a name stands for its kind, which
holds of the two known kinds and of every other text; reading and writing a name changes nothing;
and what was read once, with defaults for what was absent, is read again as it is. -/
theorem reads_back (form : RecordForm) :
    (∀ rule : Rule, ofTree? form rule.toTree = some rule ↔
      rule.kind ≠ .other "deny" ∧ rule.kind ≠ .other "exception") ∧
    (∀ rule : Rule, (∃ s, RuleKind.ofName s = rule.kind) →
      ofTree? form rule.toTree = some rule) ∧
    (∀ s, (RuleKind.ofName s).name = s) ∧
    ∀ (tree : Tree) (rule : Rule), ofTree? form tree = some rule →
      ofTree? form rule.toTree = some rule := by
  refine ⟨fun rule => ?_, fun rule hkind => ?_, RuleKind.name_ofName, fun tree rule hread => ?_⟩
  · rw [ofTree?_toTree_iff, RuleKind.isNamed_iff]
  · exact (ofTree?_toTree_iff rule).2 hkind
  · exact (ofTree?_toTree_iff rule).2 (isNamed_kind_of_ofTree? hread)

/-- A rule of a kind of its own, with an empty mode and parts two levels down. -/
def nested : Rule where
  id := 4294967295
  criteria := [{
    name := "resourceLimit"
    parts := [{ name := "cpuLimit", operator := "<=", parts := [{ name := "", value := "3" }] }] }]
  kind := .other "mutate"
  mode := some ""

/-- The form of records that may also be lists of their leading fields. -/
def listable : RecordForm := { fromList := true, fromNull := false, byPosition := false }

def leadingFields : Tree := .list [.int 1003, .list [.object [("name", .text "runAsRoot")]]]

theorem reads_back_nested :
    ofTree? listable nested.toTree = some nested ∧
      ofTree? listable leadingFields = some { id := 1003, criteria := [{ name := "runAsRoot" }] } ∧
      ofTree? listable (toTree { id := 1003, criteria := [{ name := "runAsRoot" }] }) =
        some { id := 1003, criteria := [{ name := "runAsRoot" }] } ∧
      ofTree? listable (toTree { id := 1003, kind := .other "deny" }) ≠
        some { id := 1003, kind := .other "deny" } := by
  obtain ⟨hiff, hnamed, -, hagain⟩ := reads_back listable
  have hread : ofTree? listable leadingFields =
      some { id := 1003, criteria := [{ name := "runAsRoot" }] } := rfl
  refine ⟨hnamed nested ⟨"mutate", rfl⟩, hread, hagain _ _ hread, fun heq => ?_⟩
  exact ((hiff _).1 heq).1 rfl

end Rule
end Admission
