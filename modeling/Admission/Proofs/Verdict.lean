import Admission.Pattern
import Admission.Proofs.Conversion
import Admission.Proofs.Synthesis
import Admission.Text.Blank

/-!
What a policy group makes of the verdicts of its members. The expression of a group is read as a
disjunction of conjunctions of calls; a call is true where the member accepts, and the group rejects
where the whole is false. Main statement: a group rejects as soon as one member does.
-/

namespace Admission

namespace Verdict

def cutAtPair (sep : Char) : List Char → List (List Char)
  | [] => [[]]
  | [c] => [[c]]
  | c :: d :: cs =>
    if c = sep ∧ d = sep then [] :: cutAtPair sep cs
    else
      match cutAtPair sep (d :: cs) with
      | [] => [[c]]
      | part :: parts => (c :: part) :: parts

def isNameChar (c : Char) : Bool :=
  let n := c.toNat
  (0x30 ≤ n && n ≤ 0x39) || (0x41 ≤ n && n ≤ 0x5A) || n == 0x5F || (0x61 ≤ n && n ≤ 0x7A)

/-- The name in a call without arguments, between blanks. -/
def called? (cs : List Char) : Option (List Char) :=
  match (Text.trimChars cs).reverse with
  | last :: first :: name =>
    if last = ')' ∧ first = '(' ∧ name ≠ [] ∧ name.all isNameChar then some name.reverse else none
  | _ => none

/-- Whether all members accept that are called in a conjunction. -/
def conjunction? (accepts : String → Bool) (cs : List Char) : Option Bool := do
  let names ← (cutAtPair '&' cs).mapM called?
  return names.all fun name => accepts (String.ofList name)

def value? (accepts : String → Bool) (expression : String) : Option Bool := do
  let parts ← (cutAtPair '|' expression.toList).mapM (conjunction? accepts)
  return parts.any id

end Verdict

/-- The group rejects a request of which the members think so. -/
def PolicyGroup.Rejects (group : PolicyGroup) (accepts : String → Bool) : Prop :=
  Verdict.value? accepts group.expression = some false

namespace Verdict

theorem cutAtPair_cons {sep c : Char} (h : c ≠ sep) {cs part : List Char}
    {parts : List (List Char)} (hcs : cutAtPair sep cs = part :: parts) :
    cutAtPair sep (c :: cs) = (c :: part) :: parts := by
  cases cs with
  | nil =>
    cases hcs
    rfl
  | cons d cs =>
    rw [cutAtPair, if_neg fun hpair => h hpair.1, hcs]

theorem cutAtPair_of_not_mem {sep : Char} {cs : List Char} (h : sep ∉ cs) :
    cutAtPair sep cs = [cs] := by
  induction cs with
  | nil => rfl
  | cons c cs ih =>
    rw [List.mem_cons, not_or] at h
    exact cutAtPair_cons (Ne.symm h.1) (ih h.2)

theorem cutAtPair_append {sep : Char} {front : List Char} (h : sep ∉ front) (rest : List Char) :
    cutAtPair sep (front ++ sep :: sep :: rest) = front :: cutAtPair sep rest := by
  induction front with
  | nil => rw [List.nil_append, cutAtPair, if_pos ⟨rfl, rfl⟩]
  | cons c cs ih =>
    rw [List.mem_cons, not_or] at h
    exact cutAtPair_cons (Ne.symm h.1) (ih h.2)

def IsName (name : List Char) : Prop := name ≠ [] ∧ ∀ c ∈ name, isNameChar c = true

theorem isBlank_eq_false {c : Char} (h : isNameChar c = true) : Text.isBlank c = false := by
  simp only [isNameChar, Bool.or_eq_true, Bool.and_eq_true, decide_eq_true_iff, beq_iff_eq] at h
  simp only [Text.isBlank, Bool.or_eq_false_iff, Bool.and_eq_false_iff, decide_eq_false_iff_not,
    beq_eq_false_iff_ne]
  omega

theorem called?_eq_some {name front back : List Char} (hname : IsName name)
    (hfront : ∀ b ∈ front, Text.isBlank b = true) (hback : ∀ b ∈ back, Text.isBlank b = true) :
    called? (front ++ (name ++ ['(', ')']) ++ back) = some name := by
  obtain ⟨hne, hchars⟩ := hname
  obtain ⟨c, cs, rfl⟩ := List.exists_cons_of_ne_nil hne
  have htrim : Text.trimChars (front ++ (c :: cs ++ ['(', ')']) ++ back) =
      c :: cs ++ ['(', ')'] := by
    have hc : Text.isBlank c = false := isBlank_eq_false (hchars c List.mem_cons_self)
    have hlast : (c :: cs ++ ['(', ')']).getLast? = some ')' := by
      rw [List.getLast?_append]
      rfl
    refine Text.trimChars_append hfront hback (by simpa using hc) ?_
    rw [hlast]
    simp [Text.isBlank]
  have hall : (c :: cs).reverse.all isNameChar = true := by
    rw [List.all_reverse, List.all_eq_true]
    exact hchars
  have hreverse : (c :: cs ++ ['(', ')']).reverse = ')' :: '(' :: (c :: cs).reverse := by simp
  unfold called?
  rw [htrim, hreverse]
  dsimp only
  rw [if_pos ⟨rfl, rfl, by simp, hall⟩, List.reverse_reverse]

theorem not_mem_call {sep : Char} (hsep : isNameChar sep = false) (hparen : sep ∉ ['(', ')'])
    {name : List Char} (hname : IsName name) : sep ∉ name ++ ['(', ')'] := by
  rw [List.mem_append, not_or]
  refine ⟨fun hmem => ?_, hparen⟩
  rw [hname.2 sep hmem] at hsep
  cases hsep

/-- A conjunction of calls, which may follow a blank, names what it calls. -/
theorem mapM_called? {names : List (List Char)} (hne : names ≠ [])
    (hnames : ∀ name ∈ names, IsName name) {front : List Char} (hfront : front ⊆ [' ']) :
    (cutAtPair '&' (front ++ [' ', '&', '&', ' '].intercalate
      (names.map (· ++ ['(', ')'])))).mapM called? = some names := by
  -- Behind the first call the conjunction goes on with a blank, which `front` leaves room for.
  induction names generalizing front with
  | nil => exact absurd rfl hne
  | cons name rest ih =>
    rw [List.forall_mem_cons] at hnames
    obtain ⟨hname, hrest⟩ := hnames
    have hspace : ∀ b ∈ [' '], Text.isBlank b = true := by
      intro b hb
      rw [List.mem_singleton.1 hb]
      decide
    have hblank : ∀ b ∈ front, Text.isBlank b = true := fun b hb => hspace b (hfront hb)
    have hcall : '&' ∉ front ++ (name ++ ['(', ')']) := by
      rw [List.mem_append, not_or]
      refine ⟨fun hmem => ?_, not_mem_call (by decide) (by decide) hname⟩
      exact absurd (List.mem_singleton.1 (hfront hmem)) (by decide)
    cases rest with
    | nil =>
      have hread : called? (front ++ (name ++ ['(', ')']) ++ []) = some name :=
        called?_eq_some hname hblank (by simp)
      rw [List.append_nil] at hread
      rw [List.map_singleton, List.intercalate_singleton, cutAtPair_of_not_mem hcall,
        List.mapM_cons, hread]
      rfl
    | cons next rest =>
      have hread : called? (front ++ (name ++ ['(', ')']) ++ [' ']) = some name :=
        called?_eq_some hname hblank hspace
      have hcut : '&' ∉ front ++ (name ++ ['(', ')']) ++ [' '] := by
        rw [List.mem_append, not_or]
        exact ⟨hcall, by decide⟩
      have hshape : front ++ [' ', '&', '&', ' '].intercalate
            ((name :: next :: rest).map (· ++ ['(', ')'])) =
          front ++ (name ++ ['(', ')']) ++ [' '] ++ '&' :: '&' :: ([' '] ++
            [' ', '&', '&', ' '].intercalate ((next :: rest).map (· ++ ['(', ')']))) := by
        simp [List.intercalate_cons_cons]
      rw [hshape, cutAtPair_append hcut, List.mapM_cons, hread,
        ih (List.cons_ne_nil next rest) hrest (List.Subset.refl _)]
      rfl

theorem not_mem_intercalate {c : Char} {sep : List Char} (hsep : c ∉ sep) {parts : List (List Char)}
    (hparts : ∀ part ∈ parts, c ∉ part) : c ∉ sep.intercalate parts := by
  induction parts with
  | nil => simp
  | cons part rest ih =>
    rw [List.forall_mem_cons] at hparts
    cases rest with
    | nil =>
      rw [List.intercalate_singleton]
      exact hparts.1
    | cons next rest =>
      rw [List.intercalate_cons_cons]
      simp only [List.mem_append, not_or]
      exact ⟨⟨hparts.1, hsep⟩, ih hparts.2⟩

theorem toList_memberExpression (names : List String) : (memberExpression names).toList =
    [' ', '&', '&', ' '].intercalate ((names.map String.toList).map (· ++ ['(', ')'])) := by
  have hsep : " && ".toList = [' ', '&', '&', ' '] := by decide
  have hcall : "()".toList = ['(', ')'] := by decide
  unfold memberExpression
  rw [String.toList_intercalate, hsep, List.map_map, List.map_map]
  refine congrArg _ (List.map_congr_left fun name _ => ?_)
  rw [Function.comp, Function.comp, String.toList_append, hcall]

/-- The expression of a group, read as a conjunction, calls its members. -/
theorem mapM_called?_memberExpression {names : List String} (hne : names ≠ [])
    (hnames : ∀ name ∈ names, IsName name.toList) :
    (cutAtPair '&' (memberExpression names).toList).mapM called? =
      some (names.map String.toList) := by
  have hlists : ∀ name ∈ names.map String.toList, IsName name := by
    rw [List.forall_mem_map]
    exact hnames
  have hcalls := mapM_called? (by simpa using hne) hlists (List.nil_subset _)
  rw [List.nil_append, ← toList_memberExpression] at hcalls
  exact hcalls

/-- The expression of a group is true exactly when all its members accept. -/
theorem value?_memberExpression {names : List String} (hne : names ≠ [])
    (hnames : ∀ name ∈ names, IsName name.toList) (accepts : String → Bool) :
    value? accepts (memberExpression names) = some (names.all accepts) := by
  have hbar : '|' ∉ (memberExpression names).toList := by
    rw [toList_memberExpression]
    refine not_mem_intercalate (by decide) ?_
    rw [List.forall_mem_map, List.forall_mem_map]
    exact fun name hname => not_mem_call (by decide) (by decide) (hnames name hname)
  have hall : ((names.map String.toList).all fun name => accepts (String.ofList name)) =
      names.all accepts := by
    rw [List.all_map]
    refine congrArg names.all (funext fun name => ?_)
    rw [Function.comp, String.ofList_toList]
  -- Without a bar the disjunction has one part, which calls every member.
  unfold value?
  rw [cutAtPair_of_not_mem hbar, List.mapM_cons, conjunction?,
    mapM_called?_memberExpression hne hnames]
  change some ([_].any id) = _
  rw [List.any_cons, List.any_nil, Bool.or_false, id, hall]

theorem isName_memberName (m : Module) : IsName m.memberName.toList := by
  rw [Module.toList_memberName]
  constructor
  · rw [ne_eq, List.map_eq_nil_iff]
    cases m <;> decide +kernel
  · rw [← List.all_eq_true]
    cases m <;> decide +kernel

end Verdict

variable {converter : Converter} {rule : Rule} {group : PolicyGroup}

/-- A rule that becomes a group reaches two modules at least, and the group calls all it reaches. -/
theorem Converter.exists_modules_of_group [Pattern.Engine]
    (h : converter.convert rule = .ok (.converted (.group group))) :
    ∃ modules : List Module, group.members.map Prod.fst = modules.map Module.memberName ∧
      group.expression = memberExpression (group.members.map Prod.fst) ∧
      ∃ m ∈ modules, ∃ k ∈ modules, m ≠ k := by
  obtain ⟨-, -, -, -, hknown, hpolicy⟩ := Converter.convert_eq_converted_iff.1 h
  have hmod := hknown.module?_of_mem_checks
  unfold Policy.ofRule at hpolicy
  split at hpolicy
  · next hneeds =>
    obtain ⟨_, hgroup, heq⟩ := map_eq_ok.1 hpolicy
    cases heq
    obtain ⟨hkeys, hexpression⟩ := PolicyGroup.keys_of_ofRule hmod hgroup
    obtain ⟨m, k, hm, hk, hne⟩ := Rule.exists_ne_of_needsGroup hmod hneeds
    exact ⟨_, hkeys, hexpression, m, Share.mem_reached.2 hm, k, Share.mem_reached.2 hk, hne⟩
  · obtain ⟨_, -, habsurd⟩ := map_eq_ok.1 hpolicy
    cases habsurd

theorem Converter.value?_of_group [Pattern.Engine]
    (h : converter.convert rule = .ok (.converted (.group group))) (accepts : String → Bool) :
    Verdict.value? accepts group.expression =
      some (group.members.all fun member => accepts member.1) := by
  obtain ⟨modules, hkeys, hexpression, m, hm, -⟩ := Converter.exists_modules_of_group h
  have hne : group.members.map Prod.fst ≠ [] := by
    rw [hkeys]
    exact List.ne_nil_of_mem (List.mem_map_of_mem hm)
  have hnames : ∀ name ∈ group.members.map Prod.fst, Verdict.IsName name.toList := by
    rw [hkeys, List.forall_mem_map]
    exact fun k _ => Verdict.isName_memberName k
  rw [hexpression, Verdict.value?_memberExpression hne hnames, List.all_map]
  rfl

/-- One member that rejects is enough for the group to reject. -/
theorem Converter.rejects_iff_of_group [Pattern.Engine]
    (h : converter.convert rule = .ok (.converted (.group group))) (accepts : String → Bool) :
    group.Rejects accepts ↔ ∃ member ∈ group.members, accepts member.1 = false := by
  unfold PolicyGroup.Rejects
  rw [Converter.value?_of_group h, Option.some.injEq, List.all_eq_false]
  simp only [Bool.not_eq_true]

/-- A request is rejected only if all members reject it. -/
def PolicyGroup.RejectsTogether (group : PolicyGroup) (accepts : String → Bool) : Prop :=
  group.Rejects accepts → ∀ member ∈ group.members, accepts member.1 = false

/-- A group lets no request through that some member rejects: it waits for all members only where
they agree anyway, and every group meets requests on which they do not. -/
theorem Converter.group_rejects_with_any_member [Pattern.Engine]
    (h : converter.convert rule = .ok (.converted (.group group))) :
    (∀ accepts, group.Rejects accepts ↔ ∃ member ∈ group.members, accepts member.1 = false) ∧
    (∀ accepts, group.RejectsTogether accepts ↔
      ∀ one ∈ group.members, ∀ other ∈ group.members, accepts one.1 = accepts other.1) ∧
    ∃ accepts, ¬ group.RejectsTogether accepts := by
  have htogether (accepts : String → Bool) : group.RejectsTogether accepts ↔
      ∀ one ∈ group.members, ∀ other ∈ group.members, accepts one.1 = accepts other.1 := by
    unfold PolicyGroup.RejectsTogether
    rw [Converter.rejects_iff_of_group h]
    constructor
    · intro hall one hone other hother
      cases h₁ : accepts one.1 <;> cases h₂ : accepts other.1
      · rfl
      · rw [hall ⟨one, hone, h₁⟩ other hother] at h₂
        cases h₂
      · rw [hall ⟨other, hother, h₂⟩ one hone] at h₁
        cases h₁
      · rfl
    · rintro hagree ⟨one, hone, hrejects⟩ other hother
      rw [← hagree one hone other hother, hrejects]
  refine ⟨Converter.rejects_iff_of_group h, htogether, ?_⟩
  obtain ⟨modules, hkeys, -, m, hm, k, hk, hne⟩ := Converter.exists_modules_of_group h
  have hmem (j : Module) (hj : j ∈ modules) :
      ∃ member ∈ group.members, member.1 = j.memberName := by
    have : j.memberName ∈ group.members.map Prod.fst := hkeys ▸ List.mem_map_of_mem hj
    exact List.mem_map.1 this
  obtain ⟨one, hone, hm⟩ := hmem m hm
  obtain ⟨other, hother, hk⟩ := hmem k hk
  -- Only the member of `m` accepts, so the group rejects although not all members do.
  refine ⟨fun name => name == m.memberName, fun hall => ?_⟩
  have hagree := (htogether _).1 hall one hone other hother
  rw [hm, hk, beq_self_eq_true] at hagree
  exact hne (Module.memberName_injective (beq_iff_eq.1 hagree.symm).symm)

theorem Converter.group_rejects_privilegedRoot : ∃ group,
    Converter.plain.convert .privilegedRoot = .ok (.converted (.group group)) ∧
      ∃ accepts, ¬ group.RejectsTogether accepts := by
  obtain ⟨group, hgroup⟩ : ∃ group,
      Converter.plain.convert .privilegedRoot = .ok (.converted (.group group)) := ⟨_, rfl⟩
  exact ⟨group, hgroup, (Converter.group_rejects_with_any_member hgroup).2.2⟩

/-- A container that may run as root in a pod that is not privileged. -/
theorem Converter.rejects_privilegedRoot_unprivileged : ∃ group,
    Converter.plain.convert .privilegedRoot = .ok (.converted (.group group)) ∧
      group.Rejects (· == "pod_privileged") ∧
      ∃ member ∈ group.members, (member.1 == "pod_privileged") = true := by
  obtain ⟨group, hgroup, hkeys⟩ : ∃ group,
      Converter.plain.convert .privilegedRoot = .ok (.converted (.group group)) ∧
        group.members.map Prod.fst = ["container_running_as_user", "pod_privileged"] :=
    ⟨_, rfl, rfl⟩
  have hmem (name : String) (hname : name ∈ ["container_running_as_user", "pod_privileged"]) :
      ∃ member ∈ group.members, member.1 = name := by
    rw [← hkeys] at hname
    exact List.mem_map.1 hname
  obtain ⟨root, hroot, hrootName⟩ := hmem "container_running_as_user" (by simp)
  obtain ⟨privileged, hprivileged, hprivilegedName⟩ := hmem "pod_privileged" (by simp)
  refine ⟨group, hgroup, ?_, privileged, hprivileged, by rw [hprivilegedName]; decide⟩
  rw [Converter.rejects_iff_of_group hgroup]
  exact ⟨root, hroot, by rw [hrootName]; decide⟩

end Admission
