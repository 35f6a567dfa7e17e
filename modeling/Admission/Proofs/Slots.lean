import Admission.Proofs.WellFormed

/-!
The places that criteria write to. A module that merges criteria of several topics keeps a place for
each of them in one object. Main statements: in the end each place holds what the last criterion for
it sets, and settings are refused as the first criterion is that would be refused alone.
-/

namespace Admission

namespace Tree

def part? : List String → Tree → Option Tree
  | [], tree => some tree
  | name :: path, tree => (tree.get? name).bind (part? path)

theorem text_injective : Function.Injective text := fun _ _ h => text.inj h

theorem texts_injective : Function.Injective texts :=
  fun _ _ h => text_injective.list_map (list.inj h)

end Tree

/-- Whether the module merges what criteria of several topics set, each at its own place. -/
def Module.merges : Module → Bool
  | hostNamespaces | trustedRepos | imageCve => true
  | _ => false

def Module.slots : Module → List (List String)
  | hostNamespaces => [["allow_host_ipc"], ["allow_host_network"], ["allow_host_pid"]]
  | trustedRepos =>
    [["images", "allow"], ["images", "reject"], ["registries", "allow"], ["registries", "reject"]]
  | imageCve =>
    [["ignoreMissingVulnerabilityReport"], ["maxSeverity", "high", "total"],
      ["maxSeverity", "medium", "total"]]
  | _ => []

/-- The last element of a kind is the one that no other of the kind comes after. -/
theorem getLast?_filter_append_cons {α : Type} {p : α → Prop} [DecidablePred p]
    {front back : List α} {x : α} (hx : p x) (hback : ∀ y ∈ back, ¬ p y) :
    ((front ++ x :: back).filter p).getLast? = some x := by
  have hrest : back.filter p = [] := by simpa using hback
  simp [hx, hrest]

namespace Criterion

def action (c : Criterion) : String := if c.operator = "containsAny" then "reject" else "allow"

def slot (c : Criterion) : List String :=
  match c.topic? with
  | some .shareIpcWithHost => ["allow_host_ipc"]
  | some .shareNetWithHost => ["allow_host_network"]
  | some .sharePidWithHost => ["allow_host_pid"]
  | some .image => ["images", c.action]
  | some .imageRegistry => ["registries", c.action]
  | some .imageScanned => ["ignoreMissingVulnerabilityReport"]
  | some .cveHighCount => ["maxSeverity", "high", "total"]
  | some .cveMediumCount => ["maxSeverity", "medium", "total"]
  | some .namespaceName | some .user | some .userGroups => ["validations"]
  | _ => []

/-- What the criterion sets at its place in merged settings, if its value can be read. -/
def wanted? (c : Criterion) : Option Tree :=
  match c.topic? with
  | some .shareIpcWithHost | some .shareNetWithHost | some .sharePidWithHost =>
    (Settings.boolean c.value).toOption.map fun denied => .bool !denied
  | some .image | some .imageRegistry => some (Tree.texts c.items)
  | some .imageScanned => (Settings.boolean c.value).toOption.map .bool
  | some .cveHighCount | some .cveMediumCount =>
    (Settings.count c).toOption.map fun n => .int (n - 1)
  | _ => none

def lastAt (path : List String) (criteria : List Criterion) : Option Criterion :=
  (criteria.filter fun c => c.slot = path).getLast?

theorem mem_of_lastAt {path : List String} {criteria : List Criterion} {d : Criterion}
    (h : lastAt path criteria = some d) : d ∈ criteria ∧ d.slot = path := by
  simpa using List.mem_filter.1 (List.mem_of_getLast? h)

theorem lastAt_append_cons {path : List String} {front back : List Criterion} {c : Criterion}
    (hc : c.slot = path) (hback : ∀ d ∈ back, d.slot ≠ path) :
    lastAt path (front ++ c :: back) = some c :=
  getLast?_filter_append_cons hc hback

theorem exists_lastAt {criteria : List Criterion} {c : Criterion} (hc : c ∈ criteria) :
    ∃ d, lastAt c.slot criteria = some d := by
  have hmem : c ∈ criteria.filter fun d => d.slot = c.slot := by simp [hc]
  exact ⟨_, List.getLast?_eq_some_getLast (List.ne_nil_of_mem hmem)⟩

end Criterion

/-- The criterion sets its own place, and leaves every other one as it was. -/
structure Module.Writes (m : Module) (c : Criterion) (before after : Tree) : Prop where
  slot : c.slot ∈ m.slots
  wanted : c.wanted?.isSome = true
  here : after.part? c.slot = c.wanted?
  elsewhere : ∀ path ∈ m.slots, path ≠ c.slot → after.part? path = before.part? path

namespace Settings

variable {c : Criterion}

namespace HostNamespaces

theorem part?_toTree (settings : HostNamespaces) :
    settings.toTree.part? ["allow_host_ipc"] = some (.bool settings.allowIpc) ∧
      settings.toTree.part? ["allow_host_network"] = some (.bool settings.allowNetwork) ∧
      settings.toTree.part? ["allow_host_pid"] = some (.bool settings.allowPid) :=
  ⟨rfl, rfl, rfl⟩

theorem writes_add {settings out : HostNamespaces} (h : settings.add c = .ok out) :
    Module.hostNamespaces.Writes c settings.toTree out.toTree := by
  obtain ⟨denied, hdenied, h⟩ := bind_eq_ok.1 h
  have hwanted : (boolean c.value).toOption = some denied := by rw [hdenied]; rfl
  split at h
  case h_4 => cases h
  all_goals
    rename_i htopic
    cases h
    constructor
    case slot => simp [Criterion.slot, htopic, Module.slots]
    case wanted => simp [Criterion.wanted?, htopic, hwanted]
    case here => simp [Criterion.slot, Criterion.wanted?, htopic, hwanted, part?_toTree]
    case elsewhere => simp [Criterion.slot, htopic, Module.slots, part?_toTree]

end HostNamespaces

namespace TrustedRepos

theorem part?_toTree (settings : TrustedRepos) :
    settings.toTree.part? ["images", "allow"] = settings.images.allow.map Tree.texts ∧
      settings.toTree.part? ["images", "reject"] = settings.images.reject.map Tree.texts ∧
      settings.toTree.part? ["registries", "allow"] = settings.registries.allow.map Tree.texts ∧
      settings.toTree.part? ["registries", "reject"] =
        settings.registries.reject.map Tree.texts := by
  obtain ⟨⟨a, b⟩, c, d⟩ := settings
  cases a <;> cases b <;> cases c <;> cases d <;> exact ⟨rfl, rfl, rfl, rfl⟩

theorem writes_add {settings out : TrustedRepos} (h : settings.add c = .ok out) :
    Module.trustedRepos.Writes c settings.toTree out.toTree := by
  unfold add at h
  split at h
  case h_3 => cases h
  all_goals
    rename_i htopic
    obtain ⟨found, hfound, h⟩ := bind_eq_ok.1 h
    obtain ⟨rfl, -⟩ := items_eq_ok_iff.1 hfound
    cases h
    by_cases haction : c.operator = "containsAny"
    all_goals
      constructor
      case slot => simp [Criterion.slot, Criterion.action, htopic, haction, Module.slots]
      case wanted => simp [Criterion.wanted?, htopic]
      case here =>
        simp [Criterion.slot, Criterion.action, Criterion.wanted?, htopic, haction, part?_toTree,
          RepoSection.put, Operator.text]
      case elsewhere =>
        simp [Criterion.slot, Criterion.action, htopic, haction, Module.slots, part?_toTree,
          RepoSection.put, Operator.text]

end TrustedRepos

namespace ImageScan

theorem part?_toTree (settings : ImageScan) :
    settings.toTree.part? ["ignoreMissingVulnerabilityReport"] =
        settings.ignoreMissingReport.map Tree.bool ∧
      settings.toTree.part? ["maxSeverity", "high", "total"] = settings.high.map Tree.int ∧
      settings.toTree.part? ["maxSeverity", "medium", "total"] = settings.medium.map Tree.int := by
  obtain ⟨source, ignored, high, medium⟩ := settings
  cases ignored <;> cases high <;> cases medium <;> exact ⟨rfl, rfl, rfl⟩

theorem maxAccepted_eq_ok {threshold accepted : Int} (h : maxAccepted threshold = .ok accepted) :
    accepted = threshold - 1 := by
  unfold maxAccepted at h
  split at h <;> cases h
  rfl

theorem writes_add {settings out : ImageScan} (h : settings.add c = .ok out) :
    Module.imageCve.Writes c settings.toTree out.toTree := by
  unfold add at h
  split at h
  case h_1 htopic =>
    obtain ⟨ignored, hignored, h⟩ := bind_eq_ok.1 h
    have hwanted : (boolean c.value).toOption = some ignored := by rw [hignored]; rfl
    cases h
    constructor
    case slot => simp [Criterion.slot, htopic, Module.slots]
    case wanted => simp [Criterion.wanted?, htopic, hwanted]
    case here => simp [Criterion.slot, Criterion.wanted?, htopic, hwanted, part?_toTree]
    case elsewhere => simp [Criterion.slot, htopic, Module.slots, part?_toTree]
  case h_4 => cases h
  all_goals
    rename_i htopic
    obtain ⟨n, hn, h⟩ := bind_eq_ok.1 h
    obtain ⟨accepted, haccepted, h⟩ := bind_eq_ok.1 h
    have hwanted : (count c).toOption = some n := by rw [hn]; rfl
    obtain rfl := maxAccepted_eq_ok haccepted
    cases h
    constructor
    case slot => simp [Criterion.slot, htopic, Module.slots]
    case wanted => simp [Criterion.wanted?, htopic, hwanted]
    case here => simp [Criterion.slot, Criterion.wanted?, htopic, hwanted, part?_toTree]
    case elsewhere => simp [Criterion.slot, htopic, Module.slots, part?_toTree]

end ImageScan

/-- Whether and why a criterion is refused does not depend on those before it. -/
theorem HostNamespaces.refusal_add (settings : HostNamespaces) (c : Criterion) :
    (settings.add c).map (fun _ => ()) = (HostNamespaces.add {} c).map fun _ => () := by
  unfold add
  cases boolean c.value with
  | error fault => rfl
  | ok denied =>
    rw [ok_bind, ok_bind]
    split <;> rfl

theorem TrustedRepos.refusal_add (settings : TrustedRepos) (c : Criterion) :
    (settings.add c).map (fun _ => ()) = (TrustedRepos.add {} c).map fun _ => () := by
  unfold add
  split
  · cases items c <;> rfl
  · cases items c <;> rfl
  · rfl

theorem ImageScan.refusal_add (settings : ImageScan) (source : ScanSource) (c : Criterion) :
    (settings.add c).map (fun _ => ()) = (ImageScan.add { source } c).map fun _ => () := by
  have hcount (write write' : Int → ImageScan) :
      ((count c >>= maxAccepted) >>= fun n => pure (write n)).map (fun _ => ()) =
        ((count c >>= maxAccepted) >>= fun n => pure (write' n)).map fun _ => () := by
    cases count c >>= maxAccepted <;> rfl
  unfold add
  split
  · cases boolean c.value <;> rfl
  · simp only [← bind_assoc]
    exact hcount _ _
  · simp only [← bind_assoc]
    exact hcount _ _
  · rfl

end Settings

section

variable {source : Settings.ScanSource} {m : Module} {criteria : List Criterion} {settings : Tree}

/-- Merged settings are refused as the first criterion is that would be refused alone. -/
theorem Module.refusal_settings [Pattern.Engine] (hm : m.merges = true)
    (criteria : List Criterion) :
    (m.settings source criteria).map (fun _ => ()) =
      criteria.forM fun c => (m.settings source [c]).map fun _ => () := by
  have hview {σ : Type} (x : Except SettingsFault σ) (view : σ → Tree) :
      (x.map view).map (fun _ => ()) = x.map fun _ => () := by
    cases x <;> rfl
  cases m <;> cases hm <;> simp only [Module.settings, hview]
  case hostNamespaces =>
    unfold Settings.HostNamespaces.ofCriteria
    simp only [foldlM_singleton]
    exact map_foldlM Settings.HostNamespaces.refusal_add
  case trustedRepos =>
    unfold Settings.TrustedRepos.ofCriteria
    simp only [foldlM_singleton]
    exact map_foldlM Settings.TrustedRepos.refusal_add
  case imageCve =>
    unfold Settings.ImageScan.ofCriteria
    simp only [foldlM_singleton]
    exact map_foldlM fun s c => s.refusal_add source c

theorem Module.succeeds_settings_iff_alone [Pattern.Engine] (hm : m.merges = true) :
    Succeeds (m.settings source criteria) ↔
      ∀ c ∈ criteria, Succeeds (m.settings source [c]) := by
  have halone (c : Criterion) : (m.settings source [c]).map (fun _ => ()) = .ok () ↔
      Succeeds (m.settings source [c]) := by
    rw [← succeeds_unit, succeeds_map]
  rw [← succeeds_map (f := fun _ => ()), Module.refusal_settings hm, succeeds_unit, forM_eq_ok]
  simp only [halone]

/-- What holds of each criterion's own write holds of the whole: a place shows what the last
criterion for it sets, and what it showed before where there is none. -/
theorem Module.part?_of_foldlM {σ : Type} {step : σ → Criterion → Except SettingsFault σ}
    {view : σ → Tree} (hstep : ∀ s c t, step s c = .ok t → m.Writes c (view s) (view t)) {s t : σ}
    (h : criteria.foldlM step s = .ok t) {path : List String} (hpath : path ∈ m.slots) :
    (view t).part? path =
      ((Criterion.lastAt path criteria).map Criterion.wanted?).getD ((view s).part? path) := by
  refine foldlM_last (g := fun s => (view s).part? path) (fun s c t hc hadd => ?_)
    (fun s c t hc hadd => ?_) h
  · rw [← hc]
    exact (hstep s c t hadd).here
  · exact (hstep s c t hadd).elsewhere path hpath fun heq => hc heq.symm

variable [Pattern.Engine]

theorem Module.writes_alone (hm : m.merges = true) {c : Criterion} {alone : Tree}
    (h : m.settings source [c] = .ok alone) :
    ∃ bare, m.settings source [] = .ok bare ∧ m.Writes c bare alone := by
  cases m <;> cases hm <;> obtain ⟨made, hmade, rfl⟩ := map_eq_ok.1 h
  case hostNamespaces =>
    rw [Settings.HostNamespaces.ofCriteria, foldlM_singleton] at hmade
    exact ⟨_, rfl, Settings.HostNamespaces.writes_add hmade⟩
  case trustedRepos =>
    rw [Settings.TrustedRepos.ofCriteria, foldlM_singleton] at hmade
    exact ⟨_, rfl, Settings.TrustedRepos.writes_add hmade⟩
  case imageCve =>
    rw [Settings.ImageScan.ofCriteria, foldlM_singleton] at hmade
    exact ⟨_, rfl, Settings.ImageScan.writes_add hmade⟩

/-- In merged settings a place shows what the last criterion for it sets; where there is none, it
shows what it would without any criteria. -/
theorem Module.part?_settings (hm : m.merges = true)
    (h : m.settings source criteria = .ok settings) {path : List String} (hpath : path ∈ m.slots) :
    ∃ bare, m.settings source [] = .ok bare ∧ settings.part? path =
      ((Criterion.lastAt path criteria).map Criterion.wanted?).getD (bare.part? path) := by
  cases m <;> cases hm <;> obtain ⟨made, hmade, rfl⟩ := map_eq_ok.1 h
  case hostNamespaces =>
    exact ⟨_, rfl, Module.part?_of_foldlM
      (fun _ _ _ => Settings.HostNamespaces.writes_add) hmade hpath⟩
  case trustedRepos =>
    exact ⟨_, rfl, Module.part?_of_foldlM
      (fun _ _ _ => Settings.TrustedRepos.writes_add) hmade hpath⟩
  case imageCve =>
    exact ⟨_, rfl, Module.part?_of_foldlM
      (fun _ _ _ => Settings.ImageScan.writes_add) hmade hpath⟩

end
end Admission
