import Admission.Proofs.Layers
import Admission.Proofs.WellFormed

/-!
Policies with something in them. An empty list or section of settings would be accepted and enforce
nothing. Main statement: below the root of the settings that a converted rule gets there is no empty
list and no empty map, and its selector, if it has one, names a namespace at least.
-/

namespace Admission

namespace Tree

def children : Tree → List Tree
  | list items => items
  | map entries => entries.map Prod.snd
  | tagged _ value => [value]
  | _ => []

def isCollection : Tree → Bool
  | list _ | map _ => true
  | _ => false

/-- The part lies inside the tree, at any depth. -/
inductive Inside (part : Tree) : Tree → Prop
  | child {tree : Tree} (h : part ∈ tree.children) : Inside part tree
  | deeper {tree child : Tree} (h : child ∈ tree.children) (hin : Inside part child) :
    Inside part tree

/-- No list and no map inside the tree is empty. -/
def Filled (tree : Tree) : Prop :=
  ∀ part : Tree, part.Inside tree → part.isCollection = true → part.children ≠ []

/-- The tree is filled, and not empty itself. -/
def Solid (tree : Tree) : Prop := (tree.isCollection = true → tree.children ≠ []) ∧ tree.Filled

variable {items : List Tree} {entries : List (String × Tree)}

theorem filled_iff {tree : Tree} : tree.Filled ↔ ∀ child ∈ tree.children, child.Solid := by
  constructor
  · intro h child hchild
    exact ⟨h child (.child hchild), fun part hpart => h part (.deeper hchild hpart)⟩
  · intro h part hpart
    cases hpart with
    | child hchild => exact (h part hchild).1
    | deeper hchild hin => exact (h _ hchild).2 part hin

@[simp] theorem solid_bool (b : Bool) : (bool b).Solid :=
  ⟨nofun, filled_iff.2 nofun⟩

@[simp] theorem solid_int (n : Int) : (int n).Solid :=
  ⟨nofun, filled_iff.2 nofun⟩

@[simp] theorem solid_text (s : String) : (text s).Solid :=
  ⟨nofun, filled_iff.2 nofun⟩

@[simp] theorem filled_list : (list items).Filled ↔ ∀ item ∈ items, item.Solid := filled_iff

@[simp] theorem filled_object : (object entries).Filled ↔ ∀ e ∈ entries, e.2.Solid := by
  rw [filled_iff, object, children, List.map_map, List.forall_mem_map]
  rfl

@[simp] theorem solid_list :
    (list items).Solid ↔ items ≠ [] ∧ ∀ item ∈ items, item.Solid := by
  rw [Solid, filled_list]
  exact and_congr_left fun _ => ⟨fun h => h rfl, fun h _ => h⟩

@[simp] theorem solid_object :
    (object entries).Solid ↔ entries ≠ [] ∧ ∀ e ∈ entries, e.2.Solid := by
  have hempty : (object entries).children ≠ [] ↔ entries ≠ [] := by
    simp only [object, children, ne_eq, List.map_eq_nil_iff]
  rw [Solid, filled_object, hempty]
  exact and_congr_left fun _ => ⟨fun h => h rfl, fun h _ => h⟩

@[simp] theorem solid_texts {items : List String} : (texts items).Solid ↔ items ≠ [] := by
  simp [texts]

end Tree

namespace Settings

structure RepoSection.HasItems (part : RepoSection) : Prop where
  allow : ∀ found ∈ part.allow, found ≠ []
  reject : ∀ found ∈ part.reject, found ≠ []

def RepoSection.Has (part : RepoSection) (found : List String) : Prop :=
  part.allow = some found ∨ part.reject = some found

theorem RepoSection.has_put {part : RepoSection} {operator : String} {found list : List String}
    (h : (part.put operator found).Has list) : part.Has list ∨ list = found := by
  unfold RepoSection.put at h
  split at h
  · rcases h with hallow | hreject
    · exact .inl (.inl hallow)
    · cases hreject
      exact .inr rfl
  · rcases h with hallow | hreject
    · cases hallow
      exact .inr rfl
    · exact .inl (.inr hreject)

theorem RepoSection.HasItems.filled_toTree {part : RepoSection} (h : part.HasItems) :
    part.toTree.Filled := by
  simpa [RepoSection.toTree, or_imp, forall_and] using And.intro h.allow h.reject

theorem RepoSection.HasItems.solid_toTree {part : RepoSection} (h : part.HasItems)
    (hne : part.isEmpty = false) : part.toTree.Solid := by
  refine ⟨fun _ => ?_, h.filled_toTree⟩
  obtain ⟨allow, reject⟩ := part
  cases allow <;> cases reject
  · cases hne
  all_goals exact List.cons_ne_nil _ _

namespace TrustedRepos

structure HasItems (settings : TrustedRepos) : Prop where
  images : settings.images.HasItems
  registries : settings.registries.HasItems

/-- One of the sections has this list. -/
def Has (settings : TrustedRepos) (found : List String) : Prop :=
  settings.images.Has found ∨ settings.registries.Has found

theorem has_add {settings out : TrustedRepos} {c : Criterion} {found : List String}
    (hadd : settings.add c = .ok out) (h : out.Has found) :
    settings.Has found ∨ items c = .ok found := by
  unfold TrustedRepos.add at hadd
  split at hadd
  · obtain ⟨taken, htaken, hout⟩ := bind_eq_ok.1 hadd
    cases hout
    rcases h with himages | hregistries
    · exact .inl (.inl himages)
    · rcases RepoSection.has_put hregistries with hkept | rfl
      · exact .inl (.inr hkept)
      · exact .inr htaken
  · obtain ⟨taken, htaken, hout⟩ := bind_eq_ok.1 hadd
    cases hout
    rcases h with himages | hregistries
    · rcases RepoSection.has_put himages with hkept | rfl
      · exact .inl (.inl hkept)
      · exact .inr htaken
    · exact .inl (.inr hregistries)
  · cases hadd

/-- Every list in either section holds the items of some criterion. -/
theorem exists_items {criteria : List Criterion} {settings : TrustedRepos}
    (h : ofCriteria criteria = .ok settings) :
    ∀ found, settings.Has found → ∃ c, items c = .ok found := by
  refine foldlM_keeps (P := fun s => ∀ found, s.Has found → ∃ c, items c = .ok found) ?_ ?_ h
  · intro before c _ out hbefore hadd found hfound
    rcases has_add hadd hfound with hkept | htaken
    · exact hbefore found hkept
    · exact ⟨c, htaken⟩
  · rintro found ((hnone | hnone) | (hnone | hnone)) <;> cases hnone

theorem HasItems.ofCriteria {criteria : List Criterion} {settings : TrustedRepos}
    (h : ofCriteria criteria = .ok settings) : settings.HasItems := by
  have hne {found : List String} (hfound : settings.Has found) : found ≠ [] := by
    obtain ⟨c, hc⟩ := exists_items h found hfound
    exact (items_eq_ok_iff.1 hc).2
  exact ⟨⟨fun _ hlist => hne (.inl (.inl hlist)), fun _ hlist => hne (.inl (.inr hlist))⟩,
    ⟨fun _ hlist => hne (.inr (.inl hlist)), fun _ hlist => hne (.inr (.inr hlist))⟩⟩

/-- A section without lists is left out. -/
theorem HasItems.filled_toTree {settings : TrustedRepos} (h : settings.HasItems) :
    settings.toTree.Filled := by
  have hpart {name : String} {part : RepoSection} (hp : part.HasItems) :
      ∀ e ∈ if part.isEmpty then [] else [(name, part.toTree)], e.2.Solid := by
    cases hne : part.isEmpty
    · simpa using hp.solid_toTree hne
    · simp
  unfold toTree
  rw [Tree.filled_object, List.forall_mem_append]
  exact ⟨hpart h.images, hpart h.registries⟩

end TrustedRepos

structure BlockRule.HasItems (rule : BlockRule) : Prop where
  apiGroups : rule.apiGroups ≠ []
  resources : rule.resources ≠ []
  verbs : rule.verbs ≠ []

theorem BlockRule.HasItems.solid_toTree {rule : BlockRule} (h : rule.HasItems) :
    rule.toTree.Solid := by
  simpa [BlockRule.toTree] using ⟨h.apiGroups, h.resources, h.verbs⟩

theorem BlockRule.hasItems_of_ofCategory? {category : String} {found : List BlockRule}
    (h : ofCategory? category = some found) : found ≠ [] ∧ ∀ rule ∈ found, rule.HasItems := by
  have hrule (groups resources verbs : List String) (hg : groups ≠ []) (hr : resources ≠ [])
      (hv : verbs ≠ []) : (BlockRule.mk groups resources verbs).HasItems := ⟨hg, hr, hv⟩
  unfold ofCategory? at h
  split_ifs at h <;> cases h <;> simp [hrule]

namespace BlockedRoles

theorem mem_insert {rules : List BlockRule} {rule r : BlockRule} :
    r ∈ insert rules rule ↔ r ∈ rules ∨ r = rule := by
  unfold insert
  split
  · next h => exact ⟨.inl, fun hr => hr.elim id fun heq => heq ▸ h⟩
  · simp

theorem mem_foldl_insert {found rules : List BlockRule} {r : BlockRule} :
    r ∈ found.foldl insert rules ↔ r ∈ rules ∨ r ∈ found := by
  induction found generalizing rules with
  | nil => simp
  | cons rule found ih => rw [List.foldl_cons, ih, mem_insert, List.mem_cons, or_assoc]

theorem add_eq_ok {rules out : List BlockRule} {category : String} :
    add rules category = .ok out ↔
      ∃ found, BlockRule.ofCategory? category = some found ∧ out = found.foldl insert rules := by
  unfold add
  split
  · next h => simp [h]
  · next found h => simp [h, eq_comm]

/-- What is blocked in the end are the permissions of the categories, and no others. -/
theorem mem_of_foldlM_add {categories : List String} {rules out : List BlockRule}
    (h : categories.foldlM add rules = .ok out) {r : BlockRule} :
    r ∈ out ↔ r ∈ rules ∨
      ∃ category ∈ categories, ∃ found, BlockRule.ofCategory? category = some found ∧
        r ∈ found := by
  induction categories generalizing rules with
  | nil =>
    cases h
    simp
  | cons category categories ih =>
    rw [List.foldlM_cons] at h
    obtain ⟨next, hnext, hrest⟩ := bind_eq_ok.1 h
    obtain ⟨found, hfound, rfl⟩ := add_eq_ok.1 hnext
    rw [ih hrest, mem_foldl_insert, List.exists_mem_cons_iff, or_assoc]
    simp only [hfound, Option.some.injEq, exists_eq_left']

/-- Whatever is blocked is a permission of some category. -/
theorem exists_category {criteria : List Criterion} {settings : BlockedRoles}
    (h : ofCriteria criteria = .ok settings) {rule : BlockRule} (hrule : rule ∈ settings.rules) :
    ∃ category found, BlockRule.ofCategory? category = some found ∧ rule ∈ found := by
  obtain ⟨c, -, h⟩ := bind_eq_ok.1 h
  obtain ⟨found, -, h⟩ := bind_eq_ok.1 h
  obtain ⟨rules, hrules, hmade⟩ := bind_eq_ok.1 h
  cases hmade
  obtain hnone | ⟨category, -, given, hgiven, hrule⟩ := (mem_of_foldlM_add hrules).1 hrule
  · cases hnone
  · exact ⟨category, given, hgiven, hrule⟩

theorem filled_toTree {criteria : List Criterion} {settings : BlockedRoles}
    (h : ofCriteria criteria = .ok settings) : settings.toTree.Filled := by
  have hitems (r : BlockRule) (hr : r ∈ settings.rules) : r.HasItems := by
    obtain ⟨category, given, hgiven, hr⟩ := exists_category h hr
    exact (BlockRule.hasItems_of_ofCategory? hgiven).2 r hr
  obtain ⟨c, -, h⟩ := bind_eq_ok.1 h
  obtain ⟨found, hfound, h⟩ := bind_eq_ok.1 h
  obtain ⟨rules, hrules, hmade⟩ := bind_eq_ok.1 h
  cases hmade
  have hmem {r : BlockRule} := mem_of_foldlM_add hrules (r := r)
  have hknown : ∀ category ∈ found, category ∈ riskCategories :=
    (succeeds_foldlM (P := (· ∈ riskCategories)) fun _ _ _ => succeeds_addCategory).1
      ⟨rules, hrules⟩
  -- The list has an item, and its category brings a rule.
  have hne : rules ≠ [] := by
    obtain ⟨category, hcategory⟩ := List.exists_mem_of_ne_nil _ (items_eq_ok_iff.1 hfound).2
    obtain ⟨given, hgiven⟩ :=
      Option.isSome_iff_exists.1 (ofCategory?_isSome.2 (hknown category hcategory))
    obtain ⟨r, hr⟩ := List.exists_mem_of_ne_nil _ (BlockRule.hasItems_of_ofCategory? hgiven).1
    exact List.ne_nil_of_mem (hmem.2 (.inr ⟨category, hcategory, given, hgiven, hr⟩))
  simp only [toTree, Tree.filled_object, List.forall_mem_singleton, Tree.solid_list,
    List.forall_mem_map]
  exact ⟨by simpa using hne, fun r hr => (hitems r hr).solid_toTree⟩

end BlockedRoles

theorem ImageScan.filled_toTree (settings : ImageScan) : settings.toTree.Filled := by
  obtain ⟨source, ignored, high, medium⟩ := settings
  cases ignored <;> cases high <;> cases medium <;>
    simp [toTree, limit]

/-- A resource without bounds is left out. -/
theorem ResourceBounds.filled_toTree (settings : ResourceBounds) : settings.toTree.Filled := by
  have hcell {name : String} {quantity : Option String} :
      ∀ e ∈ Bounds.cell name quantity, e.2.Solid := by
    cases quantity <;> simp [Bounds.cell]
  have hentries (bounds : Bounds) : ∀ e ∈ bounds.entries, e.2.Solid := by
    simp only [Bounds.entries, List.forall_mem_append]
    exact ⟨⟨⟨hcell, hcell⟩, hcell⟩, hcell⟩
  have hsection (name : String) (bounds : Bounds) : ∀ e ∈ section? name bounds, e.2.Solid := by
    unfold section?
    split
    · simp
    · next hne =>
      rw [List.forall_mem_singleton, Tree.solid_object]
      exact ⟨by simpa using hne, hentries bounds⟩
  unfold toTree
  rw [Tree.filled_object, List.forall_mem_append]
  exact ⟨hsection "cpu" settings.cpu, hsection "memory" settings.memory⟩

theorem Conditions.filled_toTree [Pattern.Engine] {criteria : List Criterion}
    {settings : Conditions} (h : ofCriteria criteria = .ok settings) : settings.toTree.Filled := by
  obtain ⟨hcriteria, hmade⟩ := conditions_eq_ok.1 h
  have hne : settings.validations ≠ [] := by
    rwa [← List.length_pos_iff, ← (mapM_eq_ok.1 hmade).length_eq, List.length_pos_iff]
  simpa [toTree, Validation.toTree] using hne

theorem Switch.filled_toTree (switch : Switch) : switch.toTree.Filled := by
  cases switch <;> simp [toTree]

theorem ValueList.exists_items {criteria : List Criterion} {settings : ValueList}
    (h : ofCriteria criteria = .ok settings) : ∃ c, items c = .ok settings.values := by
  obtain ⟨c, -, h⟩ := bind_eq_ok.1 h
  split at h
  · cases h
  · obtain ⟨found, hfound, h⟩ := bind_eq_ok.1 h
    cases h
    exact ⟨c, hfound⟩

theorem StorageClasses.exists_items {criteria : List Criterion} {settings : StorageClasses}
    (h : ofCriteria criteria = .ok settings) :
    ∃ c found, items c = .ok found ∧ (settings = denied found ∨ settings = allowed found) := by
  obtain ⟨c, -, h⟩ := bind_eq_ok.1 h
  obtain ⟨found, hfound, h⟩ := bind_eq_ok.1 h
  refine ⟨c, found, hfound, ?_⟩
  cases pure_eq_ok.1 h
  split
  · exact .inl rfl
  · exact .inr rfl

end Settings

open Settings in
/-- Whatever the criteria are, a module gets no empty part in its settings. -/
theorem Module.filled_settings [Pattern.Engine] {source : ScanSource} {m : Module}
    {criteria : List Criterion}
    {settings : Tree} (h : m.settings source criteria = .ok settings) : settings.Filled := by
  have hlist (hvalues : (ValueList.ofCriteria criteria).map ValueList.toTree = .ok settings) :
      settings.Filled := by
    obtain ⟨made, hmade, rfl⟩ := map_eq_ok.1 hvalues
    obtain ⟨c, hfound⟩ := ValueList.exists_items hmade
    simpa [ValueList.toTree] using (items_eq_ok_iff.1 hfound).2
  have hswitch {switch : Switch}
      (hvalues : (switch.ofCriteria criteria).map Switch.toTree = .ok settings) :
      settings.Filled := by
    obtain ⟨made, -, rfl⟩ := map_eq_ok.1 hvalues
    exact made.filled_toTree
  cases m
  case privilegeEscalation => exact hswitch h
  case podPrivileged => exact hswitch h
  case runningAsUser => exact hswitch h
  case secretsScanner => exact hswitch h
  case environmentVariables => exact hlist h
  case labels => exact hlist h
  case annotations => exact hlist h
  all_goals obtain ⟨made, hmade, rfl⟩ := map_eq_ok.1 h
  case hostNamespaces => simp [HostNamespaces.toTree]
  case trustedRepos => exact (TrustedRepos.HasItems.ofCriteria hmade).filled_toTree
  case cel => exact Conditions.filled_toTree hmade
  case imageCve => exact made.filled_toTree
  case serviceAccount => exact BlockedRoles.filled_toTree hmade
  case containerResources => exact made.filled_toTree
  case storageClass =>
    obtain ⟨c, found, hfound, rfl | rfl⟩ := StorageClasses.exists_items hmade
    · simpa [StorageClasses.toTree] using (items_eq_ok_iff.1 hfound).2
    · simpa [StorageClasses.toTree] using (items_eq_ok_iff.1 hfound).2

/-- There is something in the text, and no blank at either end of it. -/
structure Text.IsTight (s : String) : Prop where
  head : ∃ c, s.toList.head? = some c ∧ isBlank c = false
  last : ∃ c, s.toList.getLast? = some c ∧ isBlank c = false

theorem Text.isTight_trim {s : String} (h : trim s ≠ "") : IsTight (trim s) := by
  have hne : trimChars s.toList ≠ [] := by
    intro hnil
    exact h (by rw [trim, hnil])
  obtain ⟨c, cs, hcs⟩ := List.exists_cons_of_ne_nil hne
  have hd : (trimChars s.toList).getLast? = some ((trimChars s.toList).getLast hne) :=
    List.getLast?_eq_some_getLast hne
  obtain ⟨back, -, hback⟩ := exists_trimEnd_append (trimStart s.toList)
  -- What is cut off at the end leaves the first character as it is.
  have hhead : (trimStart s.toList).head? = some c := by
    change _ = trimChars s.toList ++ back at hback
    rw [hback, hcs]
    rfl
  constructor
  · exact ⟨c, by rw [toList_trim, hcs]; rfl, head?_trimStart hhead⟩
  · exact ⟨_, by rw [toList_trim, hd], getLast?_trimEnd hd⟩

theorem Text.isTight_of_mem_items {s item : String} (h : item ∈ items s) : IsTight item := by
  obtain ⟨hpiece, hne⟩ := mem_items.1 h
  obtain ⟨part, -, rfl⟩ := List.mem_map.1 hpiece
  have htrim : String.ofList (trimChars part) = trim (String.ofList part) := by
    rw [trim, String.toList_ofList]
  rw [htrim] at hne ⊢
  exact isTight_trim hne

/-- The selector compares one label with names, of which there is one at least. -/
def Selector.NamesSome (selector : Selector) : Prop :=
  ∃ requirement, selector.requirements = [requirement] ∧ requirement.values ≠ [] ∧
    ∀ value ∈ requirement.values, Text.IsTight value

theorem Selector.namesSome_of_ofGate {c : Criterion} {selector : Selector}
    (h : ofGate c = .ok selector) : selector.NamesSome := by
  unfold ofGate at h
  split at h
  · cases h
  · split at h
    · cases h
    · next hne =>
      cases h
      exact ⟨_, rfl, hne, fun value hvalue => Text.isTight_of_mem_items hvalue⟩

variable {source : Settings.ScanSource} {config : Config} {rule : Rule} {policy : Policy}

theorem Policy.gate_of_ofRule [Pattern.Engine] (hmod : ∀ c ∈ rule.checks, ∃ m, c.module? = some m)
    (h : Policy.ofRule source config rule = .ok policy) : rule.gate = .ok policy.selector := by
  obtain ⟨-, group, hgroup, rfl⟩ | ⟨-, single, hsingle, rfl⟩ := Policy.ofRule_eq_ok.1 h
  · obtain ⟨selector, members, hgate, -, rfl⟩ := (PolicyGroup.ofRule_eq_ok hmod).1 hgroup
    exact hgate
  · obtain ⟨selector, m, settings, hgate, -, -, rfl⟩ := SinglePolicy.ofRule_eq_ok.1 hsingle
    exact hgate

theorem Rule.namesSome_of_gate {selector : Selector} (h : rule.gate = .ok (some selector)) :
    selector.NamesSome := by
  obtain ⟨-, -, hselector⟩ := Rule.gate_eq_ok.1 h
  unfold Rule.selector at hselector
  split at hselector
  · cases hselector
  · obtain ⟨made, hmade, heq⟩ := map_eq_ok.1 hselector
    cases heq
    exact Selector.namesSome_of_ofGate hmade

/-- Nothing in the settings of a converted rule is empty but perhaps their root, and a selector
names the namespaces that it is about. -/
theorem Converter.substance_of_convert [Pattern.Engine] {converter : Converter}
    (h : converter.convert rule = .ok (.converted policy)) :
    (∀ part ∈ policy.parts, part.settings.Filled) ∧
      ∀ selector, policy.selector = some selector → selector.NamesSome := by
  obtain ⟨-, -, -, -, hknown, hpolicy⟩ := Converter.convert_eq_converted_iff.1 h
  have hmod := hknown.module?_of_mem_checks
  constructor
  · intro part hpart
    obtain ⟨m, criteria, -, hsettings⟩ := Policy.settingsFor_of_mem_parts hmod hpolicy hpart
    exact Module.filled_settings (mapError_eq_ok.1 hsettings)
  · intro selector hselector
    have hgate := Policy.gate_of_ofRule hmod hpolicy
    rw [hselector] at hgate
    exact Rule.namesSome_of_gate hgate

/-- A rule whose values are lists with blank items, and a part that sets one bound out of eight. -/
def Rule.sparse : Rule where
  id := 1003
  criteria := [{ name := "image", operator := "containsAny", value := " ,, nginx ," },
    { name := "namespace", operator := "notContainsAny", value := ", dev ,,test" },
    { name := "saBindRiskyRole", operator := "containsAny",
      value := "risky_role_view_secret, ,risky_role_view_secret" },
    { name := "resourceLimit", operator := "",
      parts := [{ name := "cpuLimit", operator := ">", value := " 2 " }] }]

theorem Converter.substance_of_sparse : ∃ policy,
    Converter.plain.convert .sparse = .ok (.converted policy) ∧ policy.parts.length = 3 ∧
      (∀ part ∈ policy.parts, part.settings.Filled) ∧
      ∃ selector, policy.selector = some selector ∧ selector.NamesSome := by
  have hshape : (Outcome.policy? (Converter.plain.convert .sparse)).map
      (fun policy => (policy.parts.length, policy.selector.isSome)) = some (3, true) := by
    decide +kernel
  obtain ⟨policy, hpolicy, hfacts⟩ := Option.map_eq_some_iff.1 hshape
  obtain ⟨hparts, hscoped⟩ := Prod.mk.injEq _ _ _ _ ▸ hfacts
  have hconvert : Converter.plain.convert .sparse = .ok (.converted policy) :=
    Outcome.policy?_eq_some.1 hpolicy
  obtain ⟨hfilled, hnames⟩ := Converter.substance_of_convert hconvert
  obtain ⟨selector, hselector⟩ := Option.isSome_iff_exists.1 hscoped
  exact ⟨policy, hconvert, hparts, hfilled, selector, hselector, hnames selector hselector⟩

end Admission
