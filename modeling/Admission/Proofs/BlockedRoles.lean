import Admission.Proofs.Slots
import Admission.Proofs.Substance

/-!
Settings for the roles that service accounts may not be bound to. Main statement: a value that lists
known categories of risk, and nothing else, blocks the permissions of these categories, each of them
once and in the order in which they come up first.
-/

namespace Admission

namespace Settings

/-- The permissions of some categories, those of one category after those of the other. -/
def BlockRule.ofCategories (categories : List String) : List BlockRule :=
  categories.flatMap fun category => (ofCategory? category).getD []

theorem BlockRule.mem_ofCategories {categories : List String} {rule : BlockRule} :
    rule ∈ ofCategories categories ↔ ∃ category ∈ categories, ∃ found,
      ofCategory? category = some found ∧ rule ∈ found := by
  unfold ofCategories
  rw [List.mem_flatMap]
  refine exists_congr fun category => and_congr_right fun _ => ?_
  cases ofCategory? category <;> simp

theorem BlockRule.toTree_injective : Function.Injective toTree := by
  intro rule other h
  obtain ⟨groups, resources, verbs⟩ := rule
  obtain ⟨groups', resources', verbs'⟩ := other
  simp only [toTree, Tree.object, List.map_cons, List.map_nil, Tree.map.injEq, List.cons.injEq,
    Prod.mk.injEq, true_and, and_true] at h
  obtain ⟨hgroups, hresources, hverbs⟩ := h
  rw [Tree.texts_injective hgroups, Tree.texts_injective hresources, Tree.texts_injective hverbs]

namespace BlockedRoles

variable {all rules found out : List BlockRule} {rule : BlockRule} {categories : List String}
  {source : ScanSource} {c d : Criterion}

/-- The rules are those of a list, each where it comes up first in the list. -/
structure Joins (all rules : List BlockRule) : Prop where
  mem_iff : ∀ rule, rule ∈ rules ↔ rule ∈ all
  ordered : rules.Pairwise fun rule next => all.idxOf rule < all.idxOf next

theorem Joins.nodup (h : Joins all rules) : rules.Nodup :=
  h.ordered.imp fun {rule next} hlt heq => by
    subst heq
    exact Nat.lt_irrefl _ hlt

/-- A further rule goes behind all others, unless it is there. -/
theorem Joins.insert (h : Joins all rules) (rule : BlockRule) :
    Joins (all ++ [rule]) (insert rules rule) := by
  have hplace {r : BlockRule} (hr : r ∈ rules) : (all ++ [rule]).idxOf r = all.idxOf r :=
    List.idxOf_append_of_mem ((h.mem_iff r).1 hr)
  have hordered : rules.Pairwise fun r s =>
      (all ++ [rule]).idxOf r < (all ++ [rule]).idxOf s := by
    refine h.ordered.imp_of_mem fun {r s} hr hs hlt => ?_
    rwa [hplace hr, hplace hs]
  constructor
  · intro r
    rw [mem_insert, h.mem_iff, List.mem_append, List.mem_singleton]
  · unfold BlockedRoles.insert
    split
    · exact hordered
    · next hnew =>
      rw [List.pairwise_append]
      refine ⟨hordered, List.pairwise_singleton _ _, fun r hr s hs => ?_⟩
      -- Every rule has its place within the list, the new one behind the list.
      have hr' : r ∈ all := (h.mem_iff r).1 hr
      have hs' : s ∉ all := by
        rw [List.mem_singleton.1 hs, ← h.mem_iff]
        exact hnew
      rw [hplace hr, List.idxOf_append_of_notMem hs']
      exact Nat.lt_add_right _ (List.idxOf_lt_length_of_mem hr')

theorem joins_foldl_insert (all : List BlockRule) : Joins all (all.foldl insert []) := by
  -- The last rule is inserted last, so the induction takes it off the end.
  induction all using List.reverseRecOn with
  | nil => exact ⟨fun _ => Iff.rfl, .nil⟩
  | append_singleton all rule ih =>
    rw [List.foldl_append, List.foldl_cons, List.foldl_nil]
    exact ih.insert rule

theorem foldl_insert_of_subset (h : found ⊆ rules) : found.foldl insert rules = rules := by
  induction found with
  | nil => rfl
  | cons rule found ih =>
    rw [List.cons_subset] at h
    rw [List.foldl_cons, insert, if_pos h.1, ih h.2]

/-- The permissions of categories that came up before add nothing. -/
theorem foldl_insert_again {front extra back : List String} (h : extra ⊆ front) :
    (BlockRule.ofCategories (front ++ extra ++ back)).foldl insert [] =
      (BlockRule.ofCategories (front ++ back)).foldl insert [] := by
  have hknown : BlockRule.ofCategories extra ⊆ (BlockRule.ofCategories front).foldl insert [] := by
    intro rule hrule
    rw [(joins_foldl_insert _).mem_iff, BlockRule.mem_ofCategories]
    obtain ⟨category, hcategory, hfound⟩ := BlockRule.mem_ofCategories.1 hrule
    exact ⟨category, h hcategory, hfound⟩
  simp only [BlockRule.ofCategories, List.flatMap_append, List.foldl_append] at hknown ⊢
  rw [foldl_insert_of_subset hknown]

theorem foldlM_add_eq_ok : categories.foldlM add rules = .ok out ↔
    (∀ category ∈ categories, category ∈ riskCategories) ∧
      out = (BlockRule.ofCategories categories).foldl insert rules := by
  induction categories generalizing rules with
  | nil => simp [BlockRule.ofCategories, pure, Except.pure, eq_comm]
  | cons category categories ih =>
    rw [List.foldlM_cons, bind_eq_ok, List.forall_mem_cons, ← ofCategory?_isSome]
    simp only [add_eq_ok, ih, BlockRule.ofCategories, List.flatMap_cons, List.foldl_append]
    cases BlockRule.ofCategory? category with
    | none => simp
    | some found => simp

/-- The settings for a value whose items are all categories. -/
theorem settings_eq_ok [Pattern.Engine] {settings : Tree} :
    Module.serviceAccount.settings source [c] = .ok settings ↔
      c.items ≠ [] ∧ (∀ category ∈ c.items, category ∈ riskCategories) ∧
        settings = toTree ⟨(BlockRule.ofCategories c.items).foldl insert []⟩ := by
  unfold Module.settings ofCriteria
  simp only [map_eq_ok, single, ok_bind, bind_eq_ok, pure_eq_ok, items_eq_ok_iff, foldlM_add_eq_ok]
  constructor
  · rintro ⟨roles, ⟨found, ⟨rfl, hne⟩, rules, ⟨hknown, rfl⟩, rfl⟩, rfl⟩
    exact ⟨hne, hknown, rfl⟩
  · rintro ⟨hne, hknown, rfl⟩
    exact ⟨_, ⟨_, ⟨rfl, hne⟩, _, ⟨hknown, rfl⟩, rfl⟩, rfl⟩

/-- Categories that are the same but for their order and their number block the same. -/
theorem perm_of_same (h : ∀ category, category ∈ d.items ↔ category ∈ c.items) :
    ((BlockRule.ofCategories d.items).foldl insert []).Perm
      ((BlockRule.ofCategories c.items).foldl insert []) := by
  have hc := joins_foldl_insert (BlockRule.ofCategories c.items)
  have hd := joins_foldl_insert (BlockRule.ofCategories d.items)
  rw [List.perm_ext_iff_of_nodup hd.nodup hc.nodup]
  intro rule
  rw [hd.mem_iff, hc.mem_iff, BlockRule.mem_ofCategories, BlockRule.mem_ofCategories]
  exact exists_congr fun category => and_congr_left fun _ => h category

end BlockedRoles
end Settings

open Settings in
/-- A value has settings if and only if it has an item and all its items are categories. What is
blocked then are the permissions of these categories and no others, no two of them the same, in the
order in which they come up first along the categories. To repeat categories behind their first places
changes nothing, and any value with the same categories blocks the same permissions, in another order
at most. -/
theorem Module.roles_of_settings [Pattern.Engine] (source : ScanSource) (c : Criterion) :
    (Succeeds (serviceAccount.settings source [c]) ↔ c.items ≠ [] ∧ ∀ category ∈ c.items,
      category ∈ ["risky_role_view_secret", "risky_role_any_action_workload",
        "risky_role_any_action_rbac", "risky_role_create_pod", "risky_role_exec_into_container"]) ∧
    ∀ settings, serviceAccount.settings source [c] = .ok settings → ∃ rules : List BlockRule,
      settings = Tree.object [("blockRules", .list (rules.map BlockRule.toTree))] ∧
      (rules.map BlockRule.toTree).Nodup ∧
      (∀ rule, rule ∈ rules ↔ ∃ category ∈ c.items, ∃ found,
        BlockRule.ofCategory? category = some found ∧ rule ∈ found) ∧
      (rules.Pairwise fun rule next => (BlockRule.ofCategories c.items).idxOf rule <
        (BlockRule.ofCategories c.items).idxOf next) ∧
      (∀ (d : Criterion) (front extra back : List String), c.items = front ++ back →
        extra ⊆ front → d.items = front ++ extra ++ back →
        serviceAccount.settings source [d] = .ok settings) ∧
      ∀ d : Criterion, (∀ category, category ∈ d.items ↔ category ∈ c.items) →
        ∃ rules' : List BlockRule, rules'.Perm rules ∧ serviceAccount.settings source [d] =
          .ok (Tree.object [("blockRules", .list (rules'.map BlockRule.toTree))]) := by
  constructor
  · rw [Module.settings, succeeds_map]
    exact succeeds_blockedRoles
  intro settings h
  obtain ⟨hne, hknown, rfl⟩ := BlockedRoles.settings_eq_ok.1 h
  have hjoins := BlockedRoles.joins_foldl_insert (BlockRule.ofCategories c.items)
  have hsame {d : Criterion} (hd : ∀ category, category ∈ d.items ↔ category ∈ c.items) :
      serviceAccount.settings source [d] = .ok (BlockedRoles.toTree
        ⟨(BlockRule.ofCategories d.items).foldl BlockedRoles.insert []⟩) := by
    refine BlockedRoles.settings_eq_ok.2 ⟨fun hnil => ?_, fun category hcategory => ?_, rfl⟩
    · obtain ⟨category, hcategory⟩ := List.exists_mem_of_ne_nil _ hne
      rw [← hd, hnil] at hcategory
      cases hcategory
    · exact hknown category ((hd category).1 hcategory)
  refine ⟨_, rfl, hjoins.nodup.map BlockRule.toTree_injective, fun rule => ?_, hjoins.ordered, ?_,
    fun d hd => ⟨_, BlockedRoles.perm_of_same hd, hsame hd⟩⟩
  · rw [hjoins.mem_iff, BlockRule.mem_ofCategories]
  · intro d front extra back hc hextra hd
    have hitems : ∀ category, category ∈ d.items ↔ category ∈ c.items := by
      intro category
      rw [hc, hd]
      simp only [List.mem_append]
      exact ⟨fun hmem => hmem.imp_left fun hor => hor.elim id fun hx => hextra hx,
        fun hmem => hmem.imp_left .inl⟩
    rw [hsame hitems, hd, BlockedRoles.foldl_insert_again hextra, ← hc]

/-- Two categories in a list with a blank item. -/
def Criterion.riskyRoles : Criterion where
  name := "saBindRiskyRole"
  operator := "containsAny"
  value := "risky_role_create_pod, risky_role_any_action_workload,,"

def Criterion.riskyRolesAgain : Criterion :=
  { riskyRoles with value := riskyRoles.value ++ "risky_role_create_pod" }

def Criterion.riskyRolesSwapped : Criterion :=
  { riskyRoles with value := "risky_role_any_action_workload,risky_role_create_pod" }

theorem Module.roles_of_riskyRoles : ∃ settings, ∃ rules rules' : List Settings.BlockRule,
    serviceAccount.settings ⟨"sbomscanner", "amd64"⟩ [.riskyRoles] = .ok settings ∧
      settings = Tree.object [("blockRules", .list (rules.map Settings.BlockRule.toTree))] ∧
      rules'.Perm rules ∧
      serviceAccount.settings ⟨"sbomscanner", "amd64"⟩ [.riskyRolesAgain] = .ok settings ∧
      serviceAccount.settings ⟨"sbomscanner", "amd64"⟩ [.riskyRolesSwapped] =
        .ok (Tree.object [("blockRules", .list (rules'.map Settings.BlockRule.toTree))]) := by
  have hitems : Criterion.riskyRoles.items =
      ["risky_role_create_pod", "risky_role_any_action_workload"] ++ [] := by decide +kernel
  have hagain : Criterion.riskyRolesAgain.items =
      ["risky_role_create_pod", "risky_role_any_action_workload"] ++ ["risky_role_create_pod"] ++
        [] := by decide +kernel
  have hswapped : Criterion.riskyRolesSwapped.items =
      ["risky_role_any_action_workload", "risky_role_create_pod"] := by decide +kernel
  obtain ⟨settings, hsettings⟩ : Succeeds
      (serviceAccount.settings ⟨"sbomscanner", "amd64"⟩ [.riskyRoles]) := by decide +kernel
  obtain ⟨-, hroles⟩ := Module.roles_of_settings ⟨"sbomscanner", "amd64"⟩ .riskyRoles
  obtain ⟨rules, hrules, -, -, -, hrepeat, hperm⟩ := hroles settings hsettings
  obtain ⟨rules', hrules', hmade⟩ := hperm .riskyRolesSwapped fun category => by
    rw [hswapped, hitems]
    simp [or_comm]
  have hfirst : ["risky_role_create_pod"] ⊆
      ["risky_role_create_pod", "risky_role_any_action_workload"] := by decide
  exact ⟨settings, rules, rules', hsettings, hrules, hrules',
    hrepeat .riskyRolesAgain _ _ _ hitems hfirst hagain, hmade⟩

end Admission
