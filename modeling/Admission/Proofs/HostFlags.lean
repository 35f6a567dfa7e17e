import Admission.Pattern
import Admission.Proofs.Conversion
import Admission.Proofs.Slots

/-!
The flags of the settings for host namespaces. Main statement: a list of criteria has settings if
each of them names one of the three axes and has the literal of a truth value; and then the last
criterion on an axis decides the flag of the axis, whatever the criteria on the two other axes are.
-/

namespace Admission

/-- A namespace that a pod may share with its host. -/
inductive HostAxis
  | ipc
  | network
  | pid
  deriving DecidableEq

namespace HostAxis

def name : HostAxis → String
  | ipc => "shareIpcWithHost"
  | network => "shareNetWithHost"
  | pid => "sharePidWithHost"

def flag : HostAxis → String
  | ipc => "allow_host_ipc"
  | network => "allow_host_network"
  | pid => "allow_host_pid"

def topic : HostAxis → Topic
  | ipc => .shareIpcWithHost
  | network => .shareNetWithHost
  | pid => .sharePidWithHost

theorem name_topic (axis : HostAxis) : axis.topic.name = axis.name := by
  cases axis <;> rfl

theorem name_injective : Function.Injective name := by
  intro axis other h
  cases axis <;> cases other <;> first | rfl | exact absurd h (by decide)

theorem exists_name_iff {name : String} : (∃ axis : HostAxis, name = axis.name) ↔
    name ∈ ["shareIpcWithHost", "shareNetWithHost", "sharePidWithHost"] := by
  simp only [List.mem_cons, List.not_mem_nil, or_false]
  constructor
  · rintro ⟨axis, rfl⟩
    cases axis
    case ipc => exact .inl rfl
    case network => exact .inr (.inl rfl)
    case pid => exact .inr (.inr rfl)
  · rintro (rfl | rfl | rfl)
    · exact ⟨.ipc, rfl⟩
    · exact ⟨.network, rfl⟩
    · exact ⟨.pid, rfl⟩

def among (axis : HostAxis) (criteria : List Criterion) : List Criterion :=
  criteria.filter fun c => c.name = axis.name

end HostAxis

namespace Criterion

variable {c : Criterion}

/-- The value is a literal of the truth value. -/
def Says (c : Criterion) (b : Bool) : Prop :=
  c.value ∈ bif b then ["1", "t", "T", "TRUE", "true", "True"]
    else ["0", "f", "F", "FALSE", "false", "False"]

instance (c : Criterion) (b : Bool) : Decidable (c.Says b) :=
  inferInstanceAs (Decidable (c.value ∈ (_ : List String)))

theorem boolean_iff {b : Bool} : Settings.boolean c.value = .ok b ↔ c.Says b :=
  Settings.boolean_eq_ok

theorem exists_literal_iff : (∃ b, c.Says b) ↔ c.value ∈
    ["1", "t", "T", "TRUE", "true", "True", "0", "f", "F", "FALSE", "false", "False"] := by
  simp only [← boolean_iff]
  exact Settings.succeeds_boolean

/-- No literal stands for both truth values. -/
theorem Says.unique {a b : Bool} (ha : c.Says a) (hb : c.Says b) : a = b :=
  Except.ok.inj ((boolean_iff.2 ha).symm.trans (boolean_iff.2 hb))

theorem Says.decide_false {denied : Bool} (h : c.Says denied) :
    decide (c.Says false) = !denied := by
  cases denied with
  | false => exact decide_eq_true h
  | true => exact decide_eq_false fun h' => Bool.noConfusion (h.unique h')

end Criterion

/-- The axis is allowed if there is no criterion on it, and otherwise if the literal of the last one
is the opposite. -/
structure HostAxis.Allows (axis : HostAxis) (criteria : List Criterion) (allowed : Bool) :
    Prop where
  bare : (∀ c ∈ criteria, c.name ≠ axis.name) → allowed = true
  last : ∀ front c back, criteria = front ++ c :: back → c.name = axis.name →
    (∀ d ∈ back, d.name ≠ axis.name) → c.Says !allowed

namespace Settings.HostNamespaces

variable {settings out : HostNamespaces} {c : Criterion} {criteria : List Criterion}

def allows (settings : HostNamespaces) : HostAxis → Bool
  | .ipc => settings.allowIpc
  | .network => settings.allowNetwork
  | .pid => settings.allowPid

def put (settings : HostNamespaces) (axis : HostAxis) (allowed : Bool) : HostNamespaces :=
  match axis with
  | .ipc => { settings with allowIpc := allowed }
  | .network => { settings with allowNetwork := allowed }
  | .pid => { settings with allowPid := allowed }

theorem allows_put (settings : HostNamespaces) (axis other : HostAxis) (allowed : Bool) :
    (settings.put axis allowed).allows other =
      if other = axis then allowed else settings.allows other := by
  cases axis <;> cases other <;> rfl

theorem get?_toTree (settings : HostNamespaces) (axis : HostAxis) :
    settings.toTree.get? axis.flag = some (.bool (settings.allows axis)) := by
  cases axis <;> rfl

/-- A criterion writes the opposite of its literal to the flag of its axis. -/
theorem add_eq_ok_iff : settings.add c = .ok out ↔ ∃ (axis : HostAxis) (denied : Bool),
    c.name = axis.name ∧ c.Says denied ∧ settings.put axis (!denied) = out := by
  constructor
  · intro h
    obtain ⟨denied, hdenied, h⟩ := bind_eq_ok.1 h
    have hvalue := Criterion.boolean_iff.1 hdenied
    split at h
    case h_1 ht =>
      exact ⟨.ipc, denied, Criterion.topic?_eq_some_iff.1 ht, hvalue, pure_eq_ok.1 h⟩
    case h_2 ht =>
      exact ⟨.network, denied, Criterion.topic?_eq_some_iff.1 ht, hvalue, pure_eq_ok.1 h⟩
    case h_3 ht =>
      exact ⟨.pid, denied, Criterion.topic?_eq_some_iff.1 ht, hvalue, pure_eq_ok.1 h⟩
    case h_4 => cases h
  · rintro ⟨axis, denied, hname, hvalue, rfl⟩
    have htopic : c.topic? = some axis.topic :=
      Criterion.topic?_eq_some_iff.2 (hname.trans axis.name_topic.symm)
    unfold add
    rw [Criterion.boolean_iff.2 hvalue, ok_bind, htopic]
    cases axis <;> rfl

theorem succeeds_add (settings : HostNamespaces) (c : Criterion) : Succeeds (settings.add c) ↔
    (∃ axis : HostAxis, c.name = axis.name) ∧ ∃ denied, c.Says denied := by
  constructor
  · rintro ⟨out, h⟩
    obtain ⟨axis, denied, hname, hvalue, -⟩ := add_eq_ok_iff.1 h
    exact ⟨⟨axis, hname⟩, denied, hvalue⟩
  · rintro ⟨⟨axis, hname⟩, denied, hvalue⟩
    exact ⟨_, add_eq_ok_iff.2 ⟨axis, denied, hname, hvalue, rfl⟩⟩

/-- A flag shows what the criterion says about its axis, and what it showed before otherwise. -/
theorem allows_add (h : settings.add c = .ok out) (axis : HostAxis) :
    out.allows axis =
      if c.name = axis.name then decide (c.Says false) else settings.allows axis := by
  obtain ⟨own, denied, hname, hvalue, rfl⟩ := add_eq_ok_iff.1 h
  rw [allows_put, hvalue.decide_false, hname]
  simp only [HostAxis.name_injective.eq_iff, eq_comm]

/-- The last criterion on an axis decides its flag. -/
theorem allows_of_foldlM (h : criteria.foldlM add settings = .ok out) (axis : HostAxis) :
    out.allows axis =
      ((axis.among criteria).getLast?.map fun c => decide (c.Says false)).getD
        (settings.allows axis) :=
  foldlM_last (p := fun c => c.name = axis.name) (g := fun s => s.allows axis)
    (fun s c t hname hadd => by rw [allows_add hadd, if_pos hname])
    (fun s c t hname hadd => by rw [allows_add hadd, if_neg hname]) h

theorem succeeds_flags_iff [Pattern.Engine] {source : ScanSource} :
    Succeeds (Module.hostNamespaces.settings source criteria) ↔
      ∀ c ∈ criteria, (∃ axis : HostAxis, c.name = axis.name) ∧ ∃ denied, c.Says denied := by
  simp only [Module.settings, succeeds_map]
  exact succeeds_foldlM fun s c _ => s.succeeds_add c

theorem allows_of_ofCriteria (h : ofCriteria criteria = .ok out) (axis : HostAxis) :
    axis.Allows criteria (out.allows axis) := by
  have hflag := allows_of_foldlM h axis
  constructor
  case bare =>
    intro hbare
    have hnone : axis.among criteria = [] := by simpa [HostAxis.among] using hbare
    rw [hflag, hnone]
    cases axis <;> rfl
  case last =>
    intro front c back hsplit hname hback
    have hlast : (axis.among criteria).getLast? = some c := by
      rw [hsplit]
      exact getLast?_filter_append_cons hname hback
    have hmade : Succeeds (criteria.foldlM add {}) := ⟨out, h⟩
    rw [succeeds_foldlM fun s c _ => s.succeeds_add c] at hmade
    obtain ⟨-, denied, hvalue⟩ := hmade c (by simp [hsplit])
    rw [hflag, hlast, Option.map_some, Option.getD_some, hvalue.decide_false, Bool.not_not]
    exact hvalue

end Settings.HostNamespaces

open Settings.HostNamespaces in
/-- A list of criteria has settings if and only if each name is that of an axis and each value is a
literal of a truth value. They are three flags, one for each axis: without a criterion on the axis
it is true, and otherwise the opposite of what the last one says. Any list that is made of some of
these criteria, in any order, has settings too, and the flag of an axis stays if the criteria on it
do. -/
theorem Module.flags_of_settings [Pattern.Engine] (source : Settings.ScanSource)
    (criteria : List Criterion) :
    (Succeeds (hostNamespaces.settings source criteria) ↔ ∀ c ∈ criteria,
      c.name ∈ ["shareIpcWithHost", "shareNetWithHost", "sharePidWithHost"] ∧
      c.value ∈
        ["1", "t", "T", "TRUE", "true", "True", "0", "f", "F", "FALSE", "false", "False"]) ∧
    ∀ settings, hostNamespaces.settings source criteria = .ok settings →
      (∃ allowed : HostAxis → Bool, (∀ axis : HostAxis, axis.Allows criteria (allowed axis)) ∧
        settings = Tree.object [("allow_host_ipc", .bool (allowed .ipc)),
          ("allow_host_network", .bool (allowed .network)),
          ("allow_host_pid", .bool (allowed .pid))]) ∧
      ∀ other ⊆ criteria, ∃ settings', hostNamespaces.settings source other = .ok settings' ∧
        ∀ axis : HostAxis, axis.among other = axis.among criteria →
          settings'.get? axis.flag = settings.get? axis.flag := by
  constructor
  · simp only [succeeds_flags_iff, HostAxis.exists_name_iff, Criterion.exists_literal_iff]
  intro settings h
  obtain ⟨flags, hflags, rfl⟩ := map_eq_ok.1 h
  refine ⟨⟨flags.allows, allows_of_ofCriteria hflags, rfl⟩, fun other hsub => ?_⟩
  have hall := succeeds_flags_iff.1 ⟨_, h⟩
  have hothers : Succeeds (hostNamespaces.settings source other) :=
    succeeds_flags_iff.2 fun c hc => hall c (hsub hc)
  obtain ⟨settings', h'⟩ := hothers
  refine ⟨settings', h', fun axis hsame => ?_⟩
  obtain ⟨flags', hflags', rfl⟩ := map_eq_ok.1 h'
  rw [get?_toTree, get?_toTree, allows_of_foldlM hflags' axis, allows_of_foldlM hflags axis, hsame]

/-- Two criteria on one axis, with a criterion on each of the others between them. -/
def Criterion.sharing : List Criterion :=
  [{ name := "shareIpcWithHost", operator := "=", value := "T" },
    { name := "shareNetWithHost", operator := "=", value := "1" },
    { name := "sharePidWithHost", operator := "=", value := "False" },
    { name := "shareIpcWithHost", operator := "=", value := "0" }]

theorem Module.flags_of_sharing :
    ∃ settings rest,
      hostNamespaces.settings ⟨"sbomscanner", "amd64"⟩ Criterion.sharing = .ok settings ∧
      hostNamespaces.settings ⟨"sbomscanner", "amd64"⟩ Criterion.sharing.tail.reverse = .ok rest ∧
      settings = Tree.object [("allow_host_ipc", .bool true), ("allow_host_network", .bool false),
        ("allow_host_pid", .bool true)] ∧
      rest.get? "allow_host_network" = settings.get? "allow_host_network" := by
  have hsharing :
      Succeeds (hostNamespaces.settings ⟨"sbomscanner", "amd64"⟩ Criterion.sharing) := by
    decide +kernel
  obtain ⟨settings, hsettings⟩ := hsharing
  obtain ⟨-, hflags⟩ := flags_of_settings ⟨"sbomscanner", "amd64"⟩ Criterion.sharing
  obtain ⟨-, hothers⟩ := hflags settings hsettings
  have hsub : Criterion.sharing.tail.reverse ⊆ Criterion.sharing := fun c hc =>
    List.mem_of_mem_tail (List.mem_reverse.1 hc)
  obtain ⟨rest, hrest, hsame⟩ := hothers _ hsub
  refine ⟨settings, rest, hsettings, hrest, ?_, hsame .network rfl⟩
  cases hsettings
  rfl

end Admission
