import Admission.Proofs.Acceptance
import Admission.Proofs.Substance

/-!
Lists of comma-separated values. A value lists items if between two commas there is either one item
with blanks around it or nothing but blanks. Main statement: what is read of a value is what it lists,
for settings and for the namespace gate alike.
-/

namespace Admission

namespace Text

/-- What can be listed: there is something, without commas, and with no blank at either end. -/
structure IsItem (item : String) : Prop where
  tight : IsTight item
  plain : ',' ∉ item.toList

/-- What stands between two commas, and the items there. -/
inductive Holds : List Char → List String → Prop
  | blank {part : List Char} (hpart : ∀ c ∈ part, isBlank c = true) : Holds part []
  | item {front back : List Char} {item : String} (hitem : IsItem item)
    (hfront : ∀ c ∈ front, isBlank c = true) (hback : ∀ c ∈ back, isBlank c = true) :
    Holds (front ++ item.toList ++ back) [item]

/-- A value, and the items in it. -/
inductive Lists : List Char → List String → Prop
  | part {part : List Char} {found : List String} (h : Holds part found) : Lists part found
  | comma {part rest : List Char} {found more : List String} (h : Holds part found)
    (hrest : Lists rest more) : Lists (part ++ ',' :: rest) (found ++ more)

def kept (part : List Char) : List String :=
  [String.ofList (trimChars part)].filter (· ≠ "")

theorem not_mem_of_blank {part : List Char} (h : ∀ c ∈ part, isBlank c = true) : ',' ∉ part := by
  intro hcomma
  exact absurd (h ',' hcomma) (by decide)

theorem Holds.not_mem {part : List Char} {found : List String} (h : Holds part found) :
    ',' ∉ part := by
  cases h with
  | blank hpart => exact not_mem_of_blank hpart
  | item hitem hfront hback =>
    simp only [List.mem_append, not_or]
    exact ⟨⟨not_mem_of_blank hfront, hitem.plain⟩, not_mem_of_blank hback⟩

theorem IsTight.ne_empty {s : String} (h : IsTight s) : s ≠ "" := by
  rintro rfl
  obtain ⟨c, hc, -⟩ := h.head
  cases hc

theorem trimChars_of_tight {s : String} (h : IsTight s) {front back : List Char}
    (hfront : ∀ c ∈ front, isBlank c = true) (hback : ∀ c ∈ back, isBlank c = true) :
    trimChars (front ++ s.toList ++ back) = s.toList := by
  obtain ⟨c, hc, hcblank⟩ := h.head
  obtain ⟨d, hd, hdblank⟩ := h.last
  exact trimChars_append hfront hback (by simpa [hc] using hcblank) (by simpa [hd] using hdblank)

theorem Holds.kept_eq {part : List Char} {found : List String} (h : Holds part found) :
    kept part = found := by
  cases h with
  | blank hpart =>
    have hnil : trimChars ([] ++ [] ++ part) = [] :=
      trimChars_append (List.forall_mem_nil _) hpart nofun nofun
    rw [List.append_nil, List.nil_append] at hnil
    rw [kept, hnil]
    rfl
  | item hitem hfront hback =>
    rw [kept, trimChars_of_tight hitem.tight hfront hback, String.ofList_toList]
    simp [hitem.tight.ne_empty]

/-- Every part without a comma holds what is kept of it. -/
theorem holds_kept {part : List Char} (hcomma : ',' ∉ part) : Holds part (kept part) := by
  obtain ⟨front, back, hfront, hback, hpart⟩ := exists_trimChars part
  by_cases hnil : trimChars part = []
  · have hnone : kept part = [] := by
      rw [kept, hnil]
      rfl
    rw [hnone, hpart, hnil, List.append_nil]
    exact .blank (List.forall_mem_append.2 ⟨hfront, hback⟩)
  · have htrim : trim (String.ofList part) = String.ofList (trimChars part) := by
      rw [trim, String.toList_ofList]
    have hne : String.ofList (trimChars part) ≠ "" := by simpa using hnil
    have hitem : IsItem (String.ofList (trimChars part)) := by
      constructor
      · rw [← htrim] at hne ⊢
        exact isTight_trim hne
      · rw [String.toList_ofList]
        intro hmem
        refine hcomma ?_
        rw [hpart]
        simp [hmem]
    have hkept : kept part = [String.ofList (trimChars part)] := by simp [kept, hnil]
    have hholds := Holds.item hitem hfront hback
    rw [String.toList_ofList, ← hpart] at hholds
    rw [hkept]
    exact hholds

theorem items_eq_flatMap (s : String) : items s = (cutAt ',' s.toList).flatMap kept := by
  unfold items pieces
  induction cutAt ',' s.toList with
  | nil => rfl
  | cons part parts ih =>
    rw [List.flatMap_cons, ← ih, List.map_cons, ← List.singleton_append, List.filter_append]
    rfl

theorem cutAt_of_not_mem {sep : Char} {cs : List Char} (h : sep ∉ cs) : cutAt sep cs = [cs] := by
  induction cs with
  | nil => rfl
  | cons c cs ih =>
    rw [List.mem_cons, not_or] at h
    rw [cutAt, if_neg (Ne.symm h.1), ih h.2]

theorem Lists.flatMap_kept {cs : List Char} {found : List String} (h : Lists cs found) :
    (cutAt ',' cs).flatMap kept = found := by
  induction h with
  | part h => rw [cutAt_of_not_mem h.not_mem, List.flatMap_singleton, h.kept_eq]
  | comma h _ ih =>
    rw [cutAt_append_sep, cutAt_of_not_mem h.not_mem, List.flatMap_append, List.flatMap_singleton,
      h.kept_eq, ih]

/-- The part that was begun goes on up to the next comma. -/
theorem lists_flatMap_kept (cs : List Char) {front : List Char} (hfront : ',' ∉ front) :
    Lists (front ++ cs) ((cutAt ',' (front ++ cs)).flatMap kept) := by
  induction cs generalizing front with
  | nil =>
    rw [List.append_nil, cutAt_of_not_mem hfront, List.flatMap_singleton]
    exact .part (holds_kept hfront)
  | cons c cs ih =>
    by_cases hc : c = ','
    · subst hc
      have hrest : Lists cs ((cutAt ',' cs).flatMap kept) := ih List.not_mem_nil
      rw [cutAt_append_sep, cutAt_of_not_mem hfront, List.flatMap_append, List.flatMap_singleton]
      exact .comma (holds_kept hfront) hrest
    · have hlonger : ',' ∉ front ++ [c] := by
        simp only [List.mem_append, List.mem_singleton, not_or]
        exact ⟨hfront, Ne.symm hc⟩
      have hmore := ih hlonger
      rwa [List.append_assoc, List.singleton_append] at hmore

/-- A value lists the items that are read of it, and no others. -/
theorem lists_iff {s : String} {found : List String} :
    Lists s.toList found ↔ items s = found := by
  rw [items_eq_flatMap]
  constructor
  · exact Lists.flatMap_kept
  · rintro rfl
    exact lists_flatMap_kept s.toList List.not_mem_nil

theorem Holds.isItem {part : List Char} {found : List String} (h : Holds part found) :
    ∀ item ∈ found, IsItem item := by
  cases h with
  | blank => exact List.forall_mem_nil _
  | item hitem => exact List.forall_mem_singleton.2 hitem

theorem Lists.isItem {cs : List Char} {found : List String} (h : Lists cs found) :
    ∀ item ∈ found, IsItem item := by
  induction h with
  | part h => exact h.isItem
  | comma h _ ih => exact List.forall_mem_append.2 ⟨h.isItem, ih⟩

theorem items_append_comma (front back : String) :
    items (front ++ "," ++ back) = items front ++ items back := by
  have hcomma : (front ++ "," ++ back).toList = front.toList ++ ',' :: back.toList := by
    simp [String.toList_append]
  rw [items_eq_flatMap, items_eq_flatMap, items_eq_flatMap, hcomma, cutAt_append_sep,
    List.flatMap_append]

end Text

namespace Settings

/-- What is read of a value that may be blank. -/
theorem getD_items (c : Criterion) : (items c).toOption.getD [] = c.items := by
  cases h : c.items <;> simp [items, h, Except.toOption]

end Settings

theorem SelectorOperator.mem_of_ofGate? {operator : String} {comparison : SelectorOperator}
    (h : ofGate? operator = some comparison) : operator ∈ ["containsAny", "notContainsAny"] := by
  unfold ofGate? at h
  split at h
  case h_1 hread =>
    rw [← Operator.text_of_ofText? hread]
    exact List.mem_cons_self
  case h_2 hread =>
    rw [← Operator.text_of_ofText? hread]
    exact List.mem_cons_of_mem _ List.mem_cons_self
  case h_3 => cases h

/-- The namespace gate compares with what the settings of a module would hold. -/
theorem Selector.exists_ofGate_iff {gate : Criterion} {found : List String} :
    (∃ selector, ofGate gate = .ok selector ∧
      selector.requirements.map Requirement.values = [found]) ↔
      gate.operator ∈ ["containsAny", "notContainsAny"] ∧ Settings.items gate = .ok found := by
  rw [Settings.items_eq_ok_iff]
  constructor
  · rintro ⟨selector, hmade, hvalues⟩
    unfold ofGate at hmade
    split at hmade
    · cases hmade
    · next comparison hread =>
      split at hmade
      · cases hmade
      · next hne =>
        cases hmade
        have hfound : gate.items = found := by simpa using hvalues
        exact ⟨SelectorOperator.mem_of_ofGate? hread, hfound.symm, hfound ▸ hne⟩
  · rintro ⟨hoperator, rfl, hne⟩
    obtain ⟨comparison, hread⟩ := SelectorOperator.exists_ofGate? hoperator
    refine ⟨⟨[{ key := namespaceLabel, operator := comparison, values := gate.items }]⟩, ?_, rfl⟩
    unfold ofGate
    rw [hread]
    exact if_neg hne

/-- The items that are read of a criterion are those that its value lists, in their order and as often
as they stand there, and only a value that lists none has no reading. Each of them is something between
commas and blanks. Joining two values by a comma joins what is read of them, and the namespace gate
compares namespaces with the very items that are read of the same value. -/
theorem Criterion.listing_of_items (c : Criterion) :
    (∀ found, Settings.items c = .ok found ↔ found ≠ [] ∧ Text.Lists c.value.toList found) ∧
    (¬ Succeeds (Settings.items c) ↔ Text.Lists c.value.toList []) ∧
    (∀ found, Settings.items c = .ok found → ∀ item ∈ found, Text.IsItem item) ∧
    (∀ front back : String, c.value = front ++ "," ++ back →
      (Settings.items c).toOption.getD [] =
        (Settings.items { c with value := front }).toOption.getD [] ++
          (Settings.items { c with value := back }).toOption.getD []) ∧
    ∀ gate : Criterion, gate.value = c.value → ∀ found,
      (∃ selector, Selector.ofGate gate = .ok selector ∧
        selector.requirements.map Requirement.values = [found]) ↔
        gate.operator ∈ ["containsAny", "notContainsAny"] ∧ Settings.items c = .ok found := by
  have hread (found : List String) :
      Settings.items c = .ok found ↔ found ≠ [] ∧ Text.Lists c.value.toList found := by
    rw [Settings.items_eq_ok_iff, Text.lists_iff, and_comm, eq_comm]
    rfl
  refine ⟨hread, ?_, ?_, ?_, ?_⟩
  · rw [Settings.succeeds_items, not_not, Text.lists_iff]
    rfl
  · intro found hfound
    exact ((hread found).1 hfound).2.isItem
  · intro front back hvalue
    simp only [Settings.getD_items, Criterion.items, hvalue, Text.items_append_comma]
  · intro gate hvalue found
    rw [Selector.exists_ofGate_iff, Settings.items_eq_ok_iff, Settings.items_eq_ok_iff,
      Criterion.items, Criterion.items, hvalue]

/-- A value with blank items, with blanks around its items and within one, and with one of them
twice. -/
def Criterion.scattered : Criterion where
  name := "image"
  operator := "containsAny"
  value := ",\u3000a ,, b c\t,a\u0085"

theorem Criterion.listing_of_scattered :
    Settings.items .scattered = .ok ["a", "b c", "a"] ∧
      Text.Lists Criterion.scattered.value.toList ["a", "b c", "a"] ∧
      (∀ item ∈ ["a", "b c", "a"], Text.IsItem item) ∧
      Criterion.scattered.value = ",\u3000a " ++ "," ++ ", b c\t,a\u0085" ∧
      ((Settings.items { Criterion.scattered with value := ", b c\t,a\u0085" }).toOption.getD [] =
        ["b c", "a"]) ∧
      ∃ selector, Selector.ofGate { Criterion.scattered with name := "namespace" } = .ok selector ∧
        selector.requirements.map Requirement.values = [["a", "b c", "a"]] := by
  have hitems : Settings.items .scattered = .ok ["a", "b c", "a"] := by decide +kernel
  have hfront : (Settings.items { Criterion.scattered with value := ",\u3000a " }).toOption.getD [] =
      ["a"] := by decide +kernel
  have hvalue : Criterion.scattered.value = ",\u3000a " ++ "," ++ ", b c\t,a\u0085" := by
    decide +kernel
  obtain ⟨hread, -, hitem, hjoin, hgate⟩ := Criterion.listing_of_items .scattered
  have hback := hjoin _ _ hvalue
  rw [hitems, hfront] at hback
  exact ⟨hitems, ((hread _).1 hitems).2, hitem _ hitems, hvalue, (List.cons.inj hback).2.symm,
    (hgate _ rfl _).2 ⟨List.mem_cons_self, hitems⟩⟩

end Admission
