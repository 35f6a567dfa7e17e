import Admission.Conversion.Synthesis
import Admission.Proofs.MemberName
import Admission.Proofs.Success

namespace Admission

namespace Rule

def checksOf (rule : Rule) (m : Module) : List Criterion :=
  rule.checks.filter fun c => c.module? = some m

/-- A check of the rule reaches the module. -/
def Reaches (rule : Rule) (m : Module) : Prop := ∃ c ∈ rule.checks, c.module? = some m

end Rule

namespace Share

def entry (checks : List Criterion) (m : Module) : String × Share :=
  (m.memberName, ⟨m, checks.filter fun c => c.module? = some m⟩)

/-- The modules that some of the checks reach, in the order of their names. -/
def reached (checks : List Criterion) (modules : List Module) : List Module :=
  modules.filter fun m => checks.any fun c => c.module? = some m

variable {checks : List Criterion} {m k : Module} {c : Criterion}

theorem reached_append (checks : List Criterion) (ms ks : List Module) :
    reached checks (ms ++ ks) = reached checks ms ++ reached checks ks := List.filter_append ..

theorem entry_concat_self (h : c.module? = some m) :
    entry (checks ++ [c]) m = (m.memberName, ⟨m, (entry checks m).2.criteria ++ [c]⟩) := by
  simp [entry, List.filter_append, h]

theorem entry_concat_of_ne (h : c.module? = some m) (hne : k ≠ m) :
    entry (checks ++ [c]) k = entry checks k := by
  have : ¬ m = k := fun heq => hne heq.symm
  simp [entry, List.filter_append, h, this]

/-- A further check changes nothing for modules other than its own. -/
theorem map_entry_concat_of_not_mem (h : c.module? = some m) {ms : List Module} (hm : m ∉ ms) :
    (reached (checks ++ [c]) ms).map (entry (checks ++ [c])) =
      (reached checks ms).map (entry checks) := by
  have hreached : reached (checks ++ [c]) ms = reached checks ms := by
    apply List.filter_congr
    intro k hk
    have : ¬ m = k := fun heq => hm (heq ▸ hk)
    simp [h, this]
  rw [hreached]
  refine List.map_congr_left fun k hk => entry_concat_of_ne h ?_
  rintro rfl
  exact hm (List.mem_of_mem_filter hk)

theorem insert_append {name : String} {front : List (String × Share)}
    (h : ∀ s ∈ front, s.1 < name) (m : Module) (c : Criterion) (back : List (String × Share)) :
    insert name m c (front ++ back) = (insert name m c back).map (front ++ ·) := by
  induction front with
  | nil =>
    rw [List.nil_append]
    cases insert name m c back <;> rfl
  | cons s front ih =>
    rw [List.forall_mem_cons] at h
    rw [List.cons_append, insert, if_neg (String.lt_asymm h.1), if_neg (String.ne_of_lt h.1).symm,
      ih h.2]
    cases insert name m c back <;> rfl

theorem insert_of_lt {name : String} {shares : List (String × Share)}
    (h : ∀ s ∈ shares, name < s.1) (m : Module) (c : Criterion) :
    insert name m c shares = .ok ((name, ⟨m, [c]⟩) :: shares) := by
  cases shares with
  | nil => rfl
  | cons s shares => rw [insert, if_pos (h s List.mem_cons_self)]

theorem insert_entry (h : c.module? = some m) (shares : List (String × Share)) :
    insert m.memberName m c (entry checks m :: shares) =
      .ok (entry (checks ++ [c]) m :: shares) := by
  rw [entry_concat_self h]
  unfold entry
  rw [insert, if_neg (String.lt_irrefl _), if_pos rfl, if_pos rfl]

/-- A check goes to the entry of its module, which it opens if it is the first. -/
theorem add_eq_ok (h : c.module? = some m) :
    add ((reached checks Module.byName).map (entry checks)) c =
      .ok ((reached (checks ++ [c]) Module.byName).map (entry (checks ++ [c]))) := by
  -- The modules around `m` keep their entries; only that of `m` changes.
  obtain ⟨front, back, hsplit⟩ := List.append_of_mem (Module.mem_byName m)
  have hsorted := Module.pairwise_byName
  rw [hsplit, List.pairwise_append, List.pairwise_cons] at hsorted
  obtain ⟨-, ⟨hback, -⟩, hfront⟩ := hsorted
  have hmfront : m ∉ front := fun hm =>
    String.lt_irrefl _ (hfront m hm m List.mem_cons_self)
  have hmback : m ∉ back := fun hm => String.lt_irrefl _ (hback m hm)
  have hbefore : ∀ s ∈ (reached checks front).map (entry checks), s.1 < m.memberName := by
    simp only [List.forall_mem_map]
    exact fun k hk => hfront k (List.mem_of_mem_filter hk) m List.mem_cons_self
  have hafter : ∀ s ∈ (reached checks back).map (entry checks), m.memberName < s.1 := by
    simp only [List.forall_mem_map]
    exact fun k hk => hback k (List.mem_of_mem_filter hk)
  have hopen : reached (checks ++ [c]) [m] = [m] := by simp [reached, h]
  rw [add, h, hsplit, ← List.singleton_append, reached_append, reached_append, reached_append,
    reached_append, hopen, List.map_append, List.map_append, List.map_append, List.map_append,
    map_entry_concat_of_not_mem h hmfront, map_entry_concat_of_not_mem h hmback]
  dsimp only
  rw [insert_append hbefore]
  by_cases hm : ∃ d ∈ checks, d.module? = some m
  · have hold : reached checks [m] = [m] := by simpa [reached] using hm
    rw [hold, List.map_singleton, List.map_singleton, List.singleton_append, insert_entry h]
    rfl
  · have hnew : reached checks [m] = [] := by simpa [reached] using hm
    have hnone : (entry checks m).2.criteria = [] := by simpa [entry] using hm
    rw [hnew, List.map_nil, List.nil_append, insert_of_lt hafter, List.map_singleton,
      entry_concat_self h, hnone]
    rfl

/-- Every module that a check reaches makes one member and is handed its own checks. -/
theorem ofChecks_eq_ok (h : ∀ c ∈ checks, ∃ m, c.module? = some m) :
    ofChecks checks = .ok ((reached checks Module.byName).map (entry checks)) := by
  -- The fold hands out the last check last, so the induction takes it off the end.
  induction checks using List.reverseRecOn with
  | nil => rfl
  | append_singleton cs c ih =>
    rw [List.forall_mem_append, List.forall_mem_singleton] at h
    obtain ⟨m, hm⟩ := h.2
    have hcs := ih h.1
    unfold ofChecks at hcs ⊢
    rw [List.foldlM_append, hcs, ok_bind, List.foldlM_cons, add_eq_ok hm]
    rfl

end Share
end Admission
