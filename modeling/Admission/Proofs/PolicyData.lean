import Admission.Policy.Reader
import Admission.Proofs.Record
import Mathlib.Data.String.Basic

/-!
Policies as data. Main statement: a policy read from its own data is the same policy exactly when
its settings are values that settings can hold and its members stand in the order of their names,
which is so for everything that was read once; in no case does a policy change its kind.
-/

namespace Admission

namespace Policy

section

variable {α : Type} {key : String} {value : α} {entries : List (String × α)}

/-- Each entry comes after those with smaller keys, and no key comes twice. -/
def Ordered (entries : List (String × α)) : Prop := entries.Pairwise fun e later => e.1 < later.1

theorem insertEntry_eq_append (h : ∀ e ∈ entries, e.1 < key) :
    insertEntry key value entries = entries ++ [(key, value)] := by
  induction entries with
  | nil => rfl
  | cons e entries ih =>
    rw [List.forall_mem_cons] at h
    rw [insertEntry, if_neg (lt_asymm h.1), if_neg h.1.ne', ih h.2]
    rfl

/-- Entries that come in order stay as they are. -/
theorem orderedEntries_of_ordered (h : Ordered entries) : orderedEntries entries = entries := by
  have hfold (found rest : List (String × α)) (h : Ordered (found ++ rest)) :
      rest.foldl (fun found e => insertEntry e.1 e.2 found) found = found ++ rest := by
    induction rest generalizing found with
    | nil => rw [List.append_nil]; rfl
    | cons e rest ih =>
      obtain ⟨-, -, hfound⟩ := List.pairwise_append.1 h
      have hlast : insertEntry e.1 e.2 found = found ++ [e] :=
        insertEntry_eq_append fun other hother => hfound other hother e List.mem_cons_self
      have hshift : found ++ e :: rest = (found ++ [e]) ++ rest := by simp
      rw [List.foldl_cons, hlast, hshift]
      rw [hshift] at h
      exact ih _ h
  exact hfold [] entries h

theorem mem_insertEntry {e : String × α} (h : e ∈ insertEntry key value entries) :
    e = (key, value) ∨ e ∈ entries := by
  induction entries with
  | nil => exact .inl (List.mem_singleton.1 h)
  | cons other entries ih =>
    unfold insertEntry at h
    split at h
    · exact List.mem_cons.1 h
    · split at h
      · exact (List.mem_cons.1 h).imp_right (List.mem_cons_of_mem _)
      · obtain rfl | hmem := List.mem_cons.1 h
        · exact .inr List.mem_cons_self
        · exact (ih hmem).imp_right (List.mem_cons_of_mem _)

theorem ordered_insertEntry (h : Ordered entries) : Ordered (insertEntry key value entries) := by
  induction entries with
  | nil => exact List.pairwise_singleton _ _
  | cons other entries ih =>
    obtain ⟨hother, hentries⟩ := List.pairwise_cons.1 h
    unfold insertEntry
    split
    · next hlt =>
      refine List.pairwise_cons.2 ⟨?_, h⟩
      exact List.forall_mem_cons.2 ⟨hlt, fun e he => lt_trans hlt (hother e he)⟩
    · next hnot =>
      split
      · next heq => exact List.pairwise_cons.2 ⟨fun e he => heq ▸ hother e he, hentries⟩
      · next hne =>
        refine List.pairwise_cons.2 ⟨fun e he => ?_, ih hentries⟩
        obtain rfl | hmem := mem_insertEntry he
        · exact lt_of_le_of_ne (not_lt.1 hnot) (Ne.symm hne)
        · exact hother e hmem

/-- Putting entries in order keeps every property that each of them has. -/
theorem ordered_orderedEntries {P : String × α → Prop} (h : ∀ e ∈ entries, P e) :
    Ordered (orderedEntries entries) ∧ ∀ e ∈ orderedEntries entries, P e := by
  have hfold (found rest : List (String × α)) (hfound : Ordered found ∧ ∀ e ∈ found, P e)
      (hrest : ∀ e ∈ rest, P e) :
      Ordered (rest.foldl (fun found e => insertEntry e.1 e.2 found) found) ∧
        ∀ e ∈ rest.foldl (fun found e => insertEntry e.1 e.2 found) found, P e := by
    induction rest generalizing found with
    | nil => exact hfound
    | cons e rest ih =>
      rw [List.forall_mem_cons] at hrest
      refine ih _ ⟨ordered_insertEntry hfound.1, fun other hother => ?_⟩ hrest.2
      obtain rfl | hmem := mem_insertEntry hother
      · exact hrest.1
      · exact hfound.2 other hmem
  exact hfold [] entries ⟨.nil, List.forall_mem_nil _⟩ h

end

/-- What settings can hold: no number that is not finite, nothing under a tag or without a value,
and maps by names, in the order of the names. -/
inductive IsSettings : Tree → Prop
  | null : IsSettings .null
  | bool (b : Bool) : IsSettings (.bool b)
  | int (n : Int) : IsSettings (.int n)
  | float {bits : UInt64} : Number.Binary64.isFinite bits = true → IsSettings (.float bits)
  | text (s : String) : IsSettings (.text s)
  | list {items : List Tree} : (∀ item ∈ items, IsSettings item) → IsSettings (.list items)
  | object {entries : List (String × Tree)} :
    Ordered entries → (∀ e ∈ entries, IsSettings e.2) → IsSettings (.object entries)

theorem settingsList?_eq_self {items : List Tree}
    (h : ∀ item ∈ items, settings? item = some item) : settingsList? items = some items := by
  induction items with
  | nil => rfl
  | cons item items ih =>
    rw [List.forall_mem_cons] at h
    rw [settingsList?, h.1, ih h.2]
    rfl

theorem settingsEntries?_eq_self {entries : List (String × Tree)}
    (h : ∀ e ∈ entries, settings? e.2 = some e.2) :
    settingsEntries? (entries.map fun e => (.text e.1, e.2)) = some entries := by
  induction entries with
  | nil => rfl
  | cons e entries ih =>
    rw [List.forall_mem_cons] at h
    rw [List.map_cons, settingsEntries?, h.1, ih h.2]
    rfl

theorem settings?_float (bits : UInt64) : settings? (.float bits) =
    some (if Number.Binary64.isFinite bits then .float bits else .null) := rfl

theorem settings?_list (items : List Tree) :
    settings? (.list items) = (settingsList? items).map .list := rfl

theorem settings?_map (entries : List (Tree × Tree)) : settings? (.map entries) =
    (settingsEntries? entries).map fun found => Tree.object (orderedEntries found) := rfl

theorem settings?_eq_self {tree : Tree} (h : IsSettings tree) : settings? tree = some tree := by
  induction h with
  | null | bool | int | text => rfl
  | float hfinite => rw [settings?_float, if_pos hfinite]
  | list _ ih => rw [settings?_list, settingsList?_eq_self ih, Option.map_some]
  | object hordered _ ih =>
    rw [Tree.object, settings?_map, settingsEntries?_eq_self ih, Option.map_some,
      orderedEntries_of_ordered hordered]
    rfl

mutual

/-- Whatever tree they are read from, settings are a value that settings can hold. -/
theorem isSettings_of_settings? {found : Tree} :
    (tree : Tree) → settings? tree = some found → IsSettings found
  | .null, h => by cases h; exact .null
  | .bool b, h => by cases h; exact .bool b
  | .int n, h => by cases h; exact .int n
  | .text s, h => by cases h; exact .text s
  | .float bits, h => by
    rw [settings?_float] at h
    cases h
    split
    · next hfinite => exact .float hfinite
    · exact .null
  | .list items, h => by
    rw [settings?_list] at h
    obtain ⟨items', hitems, rfl⟩ := Option.map_eq_some_iff.1 h
    exact .list (isSettings_of_settingsList? items hitems)
  | .map entries, h => by
    rw [settings?_map] at h
    obtain ⟨entries', hentries, rfl⟩ := Option.map_eq_some_iff.1 h
    obtain ⟨hordered, hvalues⟩ :=
      ordered_orderedEntries (isSettings_of_settingsEntries? entries hentries)
    exact .object hordered hvalues
  | .tagged _ _, h => by cases h
  | .unreadable, h => by cases h

theorem isSettings_of_settingsList? {found : List Tree} :
    (items : List Tree) → settingsList? items = some found → ∀ item ∈ found, IsSettings item
  | [], h => by cases h; exact List.forall_mem_nil _
  | item :: items, h => by
    unfold settingsList? at h
    obtain ⟨first, hfirst, h⟩ := Option.bind_eq_some_iff.1 h
    obtain ⟨rest, hrest, h⟩ := Option.bind_eq_some_iff.1 h
    cases h
    exact List.forall_mem_cons.2
      ⟨isSettings_of_settings? item hfirst, isSettings_of_settingsList? items hrest⟩

theorem isSettings_of_settingsEntries? {found : List (String × Tree)} :
    (entries : List (Tree × Tree)) → settingsEntries? entries = some found →
      ∀ e ∈ found, IsSettings e.2
  | [], h => by cases h; exact List.forall_mem_nil _
  | (key, value) :: entries, h => by
    unfold settingsEntries? at h
    obtain ⟨_, -, h⟩ := Option.bind_eq_some_iff.1 h
    obtain ⟨first, hfirst, h⟩ := Option.bind_eq_some_iff.1 h
    obtain ⟨rest, hrest, h⟩ := Option.bind_eq_some_iff.1 h
    cases h
    exact List.forall_mem_cons.2
      ⟨isSettings_of_settings? value hfirst, isSettings_of_settingsEntries? entries hrest⟩

end

@[simp] theorem isReadable_text (s : String) : isReadable (.text s) = true := rfl

@[simp] theorem isReadable_bool (b : Bool) : isReadable (.bool b) = true := rfl

@[simp] theorem isReadable_list (items : List Tree) :
    isReadable (.list items) = items.all isReadable := by
  rw [isReadable]
  induction items with
  | nil => rfl
  | cons item items ih => rw [areReadable, ih, List.all_cons]

@[simp] theorem isReadable_texts (items : List String) : isReadable (Tree.texts items) = true := by
  rw [Tree.texts, isReadable_list, List.all_map, List.all_eq_true]
  exact fun _ _ => rfl

@[simp] theorem isReadable_object (entries : List (String × Tree)) :
    isReadable (.object entries) = entries.all fun e => isReadable e.2 := by
  rw [Tree.object, isReadable]
  induction entries with
  | nil => rfl
  | cons e entries ih =>
    rw [List.map_cons, entriesReadable, ih, List.all_cons, isReadable_text, Bool.true_and]

theorem isReadable_of_isSettings {tree : Tree} (h : IsSettings tree) : isReadable tree = true := by
  induction h with
  | null | bool | int | float | text => rfl
  | list _ ih => rw [isReadable_list, List.all_eq_true]; exact ih
  | object _ _ ih => rw [isReadable_object, List.all_eq_true]; exact ih

end Policy

open Admission.Tree

namespace Policy

theorem contextResource?_toTree (resource : ContextResource) :
    contextResource? resource.toTree = some resource := by
  let given : List (String × Option Tree) := [("apiVersion", some (.text resource.apiVersion)),
    ("kind", some (.text resource.kind))]
  have hfields : resource.toTree.fields recordForm [["apiVersion"], ["kind"]] =
      some (given.map Prod.snd) := fields_ofFields given (by simp [given]) recordForm
  rw [contextResource?, hfields]
  rfl

theorem matchRule?_toTree (rule : MatchRule) : matchRule? rule.toTree = some rule := by
  let given : List (String × Option Tree) := [("apiGroups", some (texts rule.apiGroups)),
    ("apiVersions", some (texts rule.apiVersions)), ("resources", some (texts rule.resources)),
    ("operations", some (texts (rule.operations.map Operation.name)))]
  have hfields : rule.toTree.fields recordForm
      [["apiGroups"], ["apiVersions"], ["resources"], ["operations"]] =
        some (given.map Prod.snd) := fields_ofFields given (by simp [given]) recordForm
  have hoperations : listOf? recordForm (choice? Operation.all Operation.ofName?)
      (texts (rule.operations.map Operation.name)) = some rule.operations := by
    rw [texts, List.map_map]
    exact listOf?_list_map recordForm fun operation _ => Operation.ofName?_name operation
  rw [matchRule?, hfields]
  simp only [given, List.map_cons, List.map_nil, required, Option.bind_some, textList?,
    listOf?_texts, hoperations]
  rfl

theorem requirement?_toTree (requirement : Requirement) :
    requirement? requirement.toTree = some requirement := by
  let given : List (String × Option Tree) := [("key", some (.text requirement.key)),
    ("operator", some (.text requirement.operator.name)),
    ("values", unlessEmpty requirement.values (texts requirement.values))]
  have hgiven : requirement.toTree = ofFields given := by
    unfold Requirement.toTree given unlessEmpty
    split <;> rfl
  have hfields : requirement.toTree.fields recordForm [["key"], ["operator"], ["values"]] =
      some (given.map Prod.snd) := by
    rw [hgiven]
    exact fields_ofFields given (by simp [given]) recordForm
  have hvalues : withDefault [] textList?
      (unlessEmpty requirement.values (texts requirement.values)) = some requirement.values :=
    withDefault_unlessEmpty (listOf?_texts recordForm requirement.values)
  have hoperator : choice? SelectorOperator.all SelectorOperator.ofName?
      (.text requirement.operator.name) = some requirement.operator :=
    SelectorOperator.ofName?_name requirement.operator
  rw [requirement?, hfields]
  simp only [given, List.map_cons, List.map_nil, required, Option.bind_some, hvalues, hoperator]
  rfl

theorem selector?_toTree (selector : Selector) : selector? selector.toTree = some selector := by
  let given : List (String × Option Tree) := [("matchExpressions",
    some (Tree.list (selector.requirements.map Requirement.toTree)))]
  have hfields : selector.toTree.fields recordForm [["matchExpressions"]] =
      some (given.map Prod.snd) := fields_ofFields given (by simp [given]) recordForm
  have hread : ∀ r ∈ selector.requirements, requirement? r.toTree = some r :=
    fun r _ => requirement?_toTree r
  have hrequirements := listOf?_list_map recordForm hread
  rw [selector?, hfields]
  simp only [given, List.map_cons, List.map_nil, required, Option.bind_some, hrequirements]
  rfl

def contextField (resources : List ContextResource) : Option Tree :=
  unlessEmpty resources (.list (resources.map ContextResource.toTree))

theorem contextResources?_contextField (resources : List ContextResource) :
    contextResources? (contextField resources) = some resources :=
  withDefault_unlessEmpty
    (listOf?_list_map recordForm fun resource _ => contextResource?_toTree resource)

theorem optional_selector (selector : Option Selector) :
    optional selector? (selector.map Selector.toTree) = some selector := by
  cases selector with
  | none => rfl
  | some selector =>
    have hread := selector?_toTree selector
    change (selector? selector.toTree).map some = _
    rw [hread, Option.map_some]

/-- An object of the cluster is read as what its specification is read as. -/
theorem object?_objectTree {α : Type} (read : Tree → Option α) (apiVersion kind name : String)
    (specification : List (String × Tree)) :
    object? read (objectTree apiVersion kind name specification) =
      (read (.object specification)).map fun found => (apiVersion, kind, name, found) := by
  let given : List (String × Option Tree) := [("apiVersion", some (.text apiVersion)),
    ("kind", some (.text kind)), ("metadata", some (.object [("name", .text name)])),
    ("spec", some (.object specification))]
  have hfields : (objectTree apiVersion kind name specification).fields recordForm
      [["apiVersion"], ["kind"], ["metadata"], ["spec"]] = some (given.map Prod.snd) :=
    fields_ofFields given (by simp [given]) recordForm
  have hname : objectName? (.object [("name", .text name)]) = some name := by
    have hfield : (Tree.object [("name", .text name)]).fields recordForm [["name"]] =
        some [some (.text name)] :=
      fields_ofFields [("name", some (.text name))] (by simp) recordForm
    rw [objectName?, hfield]
    rfl
  rw [object?, hfields]
  simp only [given, List.map_cons, List.map_nil, required, Option.bind_some, hname]
  cases read (.object specification) <;> rfl

theorem rules_toTree (rules : List MatchRule) :
    listOf? recordForm matchRule? (.list (rules.map MatchRule.toTree)) = some rules :=
  listOf?_list_map recordForm fun rule _ => matchRule?_toTree rule

def singleFields (policy : SinglePolicy) : List (String × Option Tree) :=
  [("policyServer", some (.text policy.server)), ("module", some (.text policy.module)),
    ("mode", some (.text policy.mode)), ("backgroundAudit", some (.bool policy.backgroundAudit)),
    ("rules", some (.list (policy.rules.map MatchRule.toTree))),
    ("settings", some policy.settings),
    ("contextAwareResources", contextField policy.contextResources),
    ("namespaceSelector", policy.selector.map Selector.toTree)]

theorem object?_singleTree {α : Type} (read : Tree → Option α) (policy : SinglePolicy) :
    object? read policy.toTree = (read (ofFields (singleFields policy))).map
      fun found => (policy.apiVersion, policy.kind, policy.name, found) := by
  have hgiven : policy.toTree = objectTree policy.apiVersion policy.kind policy.name
      ((singleFields policy).filterMap fun field =>
        field.2.map fun value => (field.1, value)) := by
    unfold SinglePolicy.toTree singleFields contextEntry selectorEntry contextField unlessEmpty
    cases policy.contextResources <;> cases policy.selector <;> rfl
  rw [hgiven, object?_objectTree]
  rfl

theorem single?_toTree {policy : SinglePolicy} (h : IsSettings policy.settings) :
    single? policy.toTree = some policy := by
  have hfields : (ofFields (singleFields policy)).fields recordForm [["policyServer"], ["module"],
      ["mode"], ["backgroundAudit"], ["rules"], ["settings"], ["contextAwareResources"],
      ["namespaceSelector"]] = some ((singleFields policy).map Prod.snd) :=
    fields_ofFields _ (by simp [singleFields]) recordForm
  rw [single?, object?_singleTree, single?.specification?, hfields]
  simp only [singleFields, List.map_cons, List.map_nil, required, Option.bind_some, rules_toTree,
    settings?_eq_self h, contextResources?_contextField, optional_selector]
  rfl

/-- No single policy has the form of a group, since it has no members. -/
theorem group?_singleTree (policy : SinglePolicy) : group? policy.toTree = none := by
  -- The fields that only a group has, as fields without a value.
  let given := singleFields policy ++ [("message", none), ("expression", none), ("policies", none)]
  let asked : List (String × Option Tree) := [("policyServer", some (.text policy.server)),
    ("mode", some (.text policy.mode)), ("backgroundAudit", some (.bool policy.backgroundAudit)),
    ("rules", some (.list (policy.rules.map MatchRule.toTree))), ("message", none),
    ("expression", none), ("policies", none),
    ("namespaceSelector", policy.selector.map Selector.toTree)]
  have hgiven : ofFields (singleFields policy) = ofFields given := by
    unfold ofFields given
    rw [List.filterMap_append]
    exact congrArg Tree.object (List.append_nil _).symm
  have hasked : ∀ field ∈ asked, field ∈ given := by simp [asked, given, singleFields]
  have hfields : (ofFields given).fields recordForm [["policyServer"], ["mode"],
      ["backgroundAudit"], ["rules"], ["message"], ["expression"], ["policies"],
      ["namespaceSelector"]] = some (asked.map Prod.snd) :=
    fields_ofFields_of_mem (by simp [given, singleFields]) hasked recordForm
  rw [group?, object?_singleTree, hgiven, group?.specification?, hfields]
  simp only [asked, List.map_cons, List.map_nil, required, Option.bind_some, rules_toTree]
  rfl

theorem member?_toTree {member : Member} (h : IsSettings member.settings) :
    member? member.toTree = some member := by
  let given : List (String × Option Tree) := [("module", some (.text member.module)),
    ("settings", some member.settings),
    ("contextAwareResources", contextField member.contextResources)]
  have hgiven : member.toTree = ofFields given := by
    unfold Member.toTree given contextEntry contextField unlessEmpty
    cases member.contextResources <;> rfl
  have hfields : member.toTree.fields recordForm
      [["module"], ["settings"], ["contextAwareResources"]] = some (given.map Prod.snd) := by
    rw [hgiven]
    exact fields_ofFields given (by simp [given]) recordForm
  rw [member?, hfields]
  simp only [given, List.map_cons, List.map_nil, required, Option.bind_some,
    settings?_eq_self h, contextResources?_contextField]
  rfl

theorem members?_object {members : List (String × Member)} (hordered : Ordered members)
    (h : ∀ m ∈ members, IsSettings m.2.settings) :
    members? (.object (members.map fun m => (m.1, m.2.toTree))) = some members := by
  have hentries : (members.map fun m => (text m.1, m.2.toTree)).mapM members?.readEntry =
      some members := by
    induction members with
    | nil => rfl
    | cons m members ih =>
      rw [List.forall_mem_cons] at h
      have hmember : members?.readEntry (text m.1, m.2.toTree) = some m := by
        rw [members?.readEntry, member?_toTree h.1]
        rfl
      rw [List.map_cons, List.mapM_cons, hmember, ih (List.pairwise_cons.1 hordered).2 h.2]
      rfl
  rw [Tree.object, members?, List.map_map]
  change ((members.map fun m => (text m.1, m.2.toTree)).mapM members?.readEntry).map _ = _
  rw [hentries, Option.map_some, orderedEntries_of_ordered hordered]

def groupFields (policy : PolicyGroup) : List (String × Option Tree) :=
  [("policyServer", some (.text policy.server)), ("mode", some (.text policy.mode)),
    ("backgroundAudit", some (.bool policy.backgroundAudit)),
    ("rules", some (.list (policy.rules.map MatchRule.toTree))),
    ("message", some (.text policy.message)), ("expression", some (.text policy.expression)),
    ("policies", some (.object (policy.members.map fun m => (m.1, m.2.toTree)))),
    ("namespaceSelector", policy.selector.map Selector.toTree)]

theorem object?_groupTree {α : Type} (read : Tree → Option α) (policy : PolicyGroup) :
    object? read policy.toTree = (read (ofFields (groupFields policy))).map
      fun found => (policy.apiVersion, policy.kind, policy.name, found) := by
  have hgiven : policy.toTree = objectTree policy.apiVersion policy.kind policy.name
      ((groupFields policy).filterMap fun field => field.2.map fun value => (field.1, value)) := by
    unfold PolicyGroup.toTree groupFields selectorEntry
    cases policy.selector <;> rfl
  rw [hgiven, object?_objectTree]
  rfl

theorem group?_toTree {policy : PolicyGroup} (hordered : Ordered policy.members)
    (h : ∀ m ∈ policy.members, IsSettings m.2.settings) :
    group? policy.toTree = some policy := by
  have hfields : (ofFields (groupFields policy)).fields recordForm [["policyServer"], ["mode"],
      ["backgroundAudit"], ["rules"], ["message"], ["expression"], ["policies"],
      ["namespaceSelector"]] = some ((groupFields policy).map Prod.snd) :=
    fields_ofFields _ (by simp [groupFields]) recordForm
  rw [group?, object?_groupTree, group?.specification?, hfields]
  simp only [groupFields, List.map_cons, List.map_nil, required, Option.bind_some, rules_toTree,
    members?_object hordered h, optional_selector]
  rfl

/-- No group has the form of a single policy, since it names no module of its own. -/
theorem single?_groupTree (policy : PolicyGroup) : single? policy.toTree = none := by
  -- The fields that only a single policy has, as fields without a value.
  let given := groupFields policy ++
    [("module", none), ("settings", none), ("contextAwareResources", none)]
  let asked : List (String × Option Tree) := [("policyServer", some (.text policy.server)),
    ("module", none), ("mode", some (.text policy.mode)),
    ("backgroundAudit", some (.bool policy.backgroundAudit)),
    ("rules", some (.list (policy.rules.map MatchRule.toTree))), ("settings", none),
    ("contextAwareResources", none), ("namespaceSelector", policy.selector.map Selector.toTree)]
  have hgiven : ofFields (groupFields policy) = ofFields given := by
    unfold ofFields given
    rw [List.filterMap_append]
    exact congrArg Tree.object (List.append_nil _).symm
  have hasked : ∀ field ∈ asked, field ∈ given := by
    simp [asked, given, groupFields]
  have hfields : (ofFields given).fields recordForm [["policyServer"], ["module"], ["mode"],
      ["backgroundAudit"], ["rules"], ["settings"], ["contextAwareResources"],
      ["namespaceSelector"]] = some (asked.map Prod.snd) :=
    fields_ofFields_of_mem (by simp [given, groupFields]) hasked recordForm
  rw [single?, object?_groupTree, hgiven, single?.specification?, hfields]
  rfl

/-- What the policy holds as a tree or under names is such as settings and members can be. -/
def IsSound : Policy → Prop
  | single policy => IsSettings policy.settings
  | group policy => Ordered policy.members ∧ ∀ m ∈ policy.members, IsSettings m.2.settings

theorem all_contextEntry (resources : List ContextResource) :
    ((contextEntry resources).all fun e => isReadable e.2) = true := by
  unfold contextEntry
  split
  · rfl
  · simp [ContextResource.toTree]

theorem all_selectorEntry (selector : Option Selector) :
    ((selectorEntry selector).all fun e => isReadable e.2) = true := by
  have hrequirement (r : Requirement) : isReadable r.toTree = true := by
    unfold Requirement.toTree
    split <;> simp
  cases selector with
  | none => rfl
  | some selector => simp [selectorEntry, Selector.toTree, hrequirement]

theorem isReadable_toTree {policy : Policy} (h : policy.IsSound) :
    isReadable policy.toTree = true := by
  cases policy with
  | single policy =>
    have hsettings := isReadable_of_isSettings h
    have hrest : ((contextEntry policy.contextResources ++ selectorEntry policy.selector).all
        fun e => isReadable e.2) = true := by
      rw [List.all_append, all_contextEntry, all_selectorEntry, Bool.and_self]
    simp [toTree, SinglePolicy.toTree, objectTree, MatchRule.toTree, hsettings, hrest]
  | group policy =>
    have hmember (name : String) (member : Member) (hm : (name, member) ∈ policy.members) :
        isReadable member.toTree = true := by
      have hsettings := isReadable_of_isSettings (h.2 _ hm)
      simp [Member.toTree, hsettings, all_contextEntry]
    simpa [toTree, PolicyGroup.toTree, objectTree, MatchRule.toTree, all_selectorEntry]
      using hmember

theorem ofTree?_toTree {policy : Policy} (h : policy.IsSound) :
    ofTree? policy.toTree = some policy := by
  rw [ofTree?, if_pos (isReadable_toTree h)]
  cases policy with
  | single policy =>
    rw [toTree, single?_toTree h]
    rfl
  | group policy =>
    rw [toTree, single?_groupTree, group?_toTree h.1 h.2]
    rfl

theorem exists_of_object? {α : Type} {read : Tree → Option α} {tree : Tree}
    {found : String × String × String × α} (h : object? read tree = some found) :
    ∃ specification, read specification = some found.2.2.2 := by
  unfold object? at h
  split at h
  case h_2 => cases h
  case h_1 =>
    simp only [bind, pure, Option.bind_eq_some_iff, Option.some.injEq] at h
    obtain ⟨_, -, _, -, _, -, _, hread, rfl⟩ := h
    obtain ⟨specification, -, hread⟩ := Option.bind_eq_some_iff.1 hread
    exact ⟨specification, hread⟩

theorem isSettings_of_required {value : Option Tree} {settings : Tree}
    (h : required settings? value = some settings) : IsSettings settings := by
  obtain ⟨tree, -, hread⟩ := Option.bind_eq_some_iff.1 h
  exact isSettings_of_settings? tree hread

theorem isSettings_of_single? {tree : Tree} {policy : SinglePolicy}
    (h : single? tree = some policy) : IsSettings policy.settings := by
  obtain ⟨found, hobject, h⟩ := Option.bind_eq_some_iff.1 h
  cases h
  obtain ⟨specification, hread⟩ := exists_of_object? hobject
  unfold single?.specification? at hread
  split at hread
  case h_2 => cases hread
  case h_1 =>
    simp only [bind, pure, Option.bind_eq_some_iff, Option.some.injEq] at hread
    obtain ⟨_, -, _, -, _, -, _, -, _, -, _, hsettings, _, -, _, -, heq⟩ := hread
    rw [← heq]
    exact isSettings_of_required hsettings

theorem isSettings_of_member? {tree : Tree} {member : Member} (h : member? tree = some member) :
    IsSettings member.settings := by
  unfold member? at h
  split at h
  case h_2 => cases h
  case h_1 =>
    simp only [bind, pure, Option.bind_eq_some_iff, Option.some.injEq] at h
    obtain ⟨_, -, _, hsettings, _, -, rfl⟩ := h
    exact isSettings_of_required hsettings

theorem ordered_of_members? {tree : Tree} {members : List (String × Member)}
    (h : members? tree = some members) :
    Ordered members ∧ ∀ m ∈ members, IsSettings m.2.settings := by
  unfold members? at h
  split at h
  case h_2 => cases h
  case h_1 entries =>
    obtain ⟨found, hfound, rfl⟩ := Option.map_eq_some_iff.1 h
    apply ordered_orderedEntries
    intro m hm
    obtain ⟨entry, -, hentry⟩ := exists_of_mem_mapM hfound hm
    obtain ⟨_, -, hentry⟩ := Option.bind_eq_some_iff.1 hentry
    obtain ⟨member, hmember, hentry⟩ := Option.bind_eq_some_iff.1 hentry
    cases hentry
    exact isSettings_of_member? hmember

theorem ordered_of_group? {tree : Tree} {policy : PolicyGroup} (h : group? tree = some policy) :
    Ordered policy.members ∧ ∀ m ∈ policy.members, IsSettings m.2.settings := by
  obtain ⟨found, hobject, h⟩ := Option.bind_eq_some_iff.1 h
  cases h
  obtain ⟨specification, hread⟩ := exists_of_object? hobject
  unfold group?.specification? at hread
  split at hread
  case h_2 => cases hread
  case h_1 =>
    simp only [bind, pure, Option.bind_eq_some_iff, Option.some.injEq] at hread
    obtain ⟨_, -, _, -, _, -, _, -, _, -, _, -, _, hmembers, _, -, heq⟩ := hread
    obtain ⟨_, -, hmembers⟩ := Option.bind_eq_some_iff.1 hmembers
    rw [← heq]
    exact ordered_of_members? hmembers

theorem isSound_of_ofTree? {tree : Tree} {policy : Policy} (h : ofTree? tree = some policy) :
    policy.IsSound := by
  unfold ofTree? at h
  split at h
  case isFalse => cases h
  case isTrue =>
    obtain hsingle | ⟨-, hgroup⟩ := Option.or_eq_some_iff.1 h
    · obtain ⟨found, hfound, rfl⟩ := Option.map_eq_some_iff.1 hsingle
      exact isSettings_of_single? hfound
    · obtain ⟨found, hfound, rfl⟩ := Option.map_eq_some_iff.1 hgroup
      exact ordered_of_group? hfound

/-- A policy read from its own data has its kind, also if it is not the same. -/
theorem isGroup_of_ofTree?_toTree {policy other : Policy}
    (h : ofTree? policy.toTree = some other) : other.isGroup = policy.isGroup := by
  unfold ofTree? at h
  split at h
  case isFalse => cases h
  case isTrue =>
    cases policy with
    | single policy =>
      rw [toTree, group?_singleTree, Option.map_none, Option.or_none] at h
      obtain ⟨_, -, rfl⟩ := Option.map_eq_some_iff.1 h
      rfl
    | group policy =>
      rw [toTree, single?_groupTree, Option.map_none, Option.none_or] at h
      obtain ⟨_, -, rfl⟩ := Option.map_eq_some_iff.1 h
      rfl

/-- A policy is read from its own data exactly when its settings are values that settings can hold
and its members stand in the order of their names, each once: the same policy then, with everything
that was left out for being empty. Whatever is read from the data of a policy is a policy of its
kind; and everything that was read is read again from its own data. -/
theorem read_back_iff (policy : Policy) :
    (ofTree? policy.toTree = some policy ↔ policy.IsSound) ∧
    (∀ other, ofTree? policy.toTree = some other → other.isGroup = policy.isGroup) ∧
    ∀ tree, ofTree? tree = some policy → ofTree? policy.toTree = some policy :=
  ⟨⟨isSound_of_ofTree?, ofTree?_toTree⟩, fun _ => isGroup_of_ofTree?_toTree,
    fun _ h => ofTree?_toTree (isSound_of_ofTree? h)⟩

/-- For instance, a group of two members whose settings are nested, where one reads the cluster and
one of the conditions of the selector has no values. -/
theorem read_back_group_of_two :
    let settings : Tree := .object [
      ("deny", .list [.null, .int (-1), .list [], .object []]),
      ("platform", .object [("", .bool false), ("arch", .text "linux/amd64")])]
    let requirements : List Requirement :=
      [⟨"kubernetes.io/metadata.name", .notInValues, ["kube-system", ""]⟩, ⟨"team", .present, []⟩]
    let group : PolicyGroup := {
      apiVersion := "policies.kubewarden.io/v1", kind := "ClusterAdmissionPolicyGroup"
      name := "neuvector-rule-1001-conversion", server := "default", mode := "protect"
      backgroundAudit := true
      rules := [⟨[""], ["v1"], ["pods"], [.create, .update]⟩]
      message := "denied", expression := "a() && !b()"
      members := [("a", { module := "first", settings := settings }),
        ("b", { module := "second", settings := .null, contextResources := [⟨"v1", "Namespace"⟩] })]
      selector := some ⟨requirements⟩ }
    ofTree? (toTree (.group group)) = some (.group group) := by
  intro settings requirements group
  have hsettings : IsSettings settings := isSettings_of_settings? settings (by decide +kernel)
  have hordered : Ordered group.members := List.pairwise_pair.2 (by decide)
  have hmembers : ∀ m ∈ group.members, IsSettings m.2.settings :=
    List.forall_mem_cons.2 ⟨hsettings, List.forall_mem_singleton.2 .null⟩
  exact (read_back_iff (.group group)).1.2 ⟨hordered, hmembers⟩

end Policy
end Admission
