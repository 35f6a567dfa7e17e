import Admission.Proofs.Merging
import Admission.Proofs.Requests

/-!
Where the values of criteria stand in conditions. Main statement: the text of a condition is fixed but
for quoted literals, and whoever reads these as JSON has them finds each one end where it was closed,
with exactly what the criterion put into it.
-/

namespace Admission

namespace Json

theorem textParts_cons {c : Char} {cs rest : List Char} {parts : List TextPart}
    (hquote : c ≠ '"') (hback : c ≠ '\\') (hcontrol : ¬ c.toNat < 0x20)
    (h : textParts cs = some (parts, rest)) :
    textParts (c :: cs) = some (.char c :: parts, rest) := by
  rw [textParts.eq_def]
  split
  · contradiction
  all_goals simp_all

/-- A character is read as it was written, whether escaped or not. -/
theorem textParts_escape (c : Char) {cs rest : List Char} {parts : List TextPart}
    (h : textParts cs = some (parts, rest)) :
    ∃ part, textParts (escape c ++ cs) = some (part :: parts, rest) ∧
      joinParts (part :: parts) = (joinParts parts).map (c :: ·) := by
  unfold escape
  split
  case h_8 hquote hback _ _ _ _ _ =>
    split
    · next hcontrol =>
      have hhigh := Cel.hexDigit?_digitChar (n := c.toNat / 16) (by omega)
      have hlow := Cel.hexDigit?_digitChar (n := c.toNat % 16) (by omega)
      have hn : c.toNat / 16 * 16 + c.toNat % 16 = c.toNat := by omega
      have hzero : hexDigit? '0' = some 0 := rfl
      refine ⟨.unit c.toNat, by simp [textParts, hzero, hhigh, hlow, h, hn], ?_⟩
      have hhalf : ¬ (0xD800 ≤ c.toNat ∧ c.toNat < 0xDC00) := by omega
      have hhalf' : ¬ (0xDC00 ≤ c.toNat ∧ c.toNat < 0xE000) := by omega
      rw [joinParts.eq_def]
      dsimp only
      rw [if_neg hhalf, if_neg hhalf', Char.ofNat_toNat]
    · next hcontrol => exact ⟨.char c, textParts_cons hquote hback hcontrol h, rfl⟩
  all_goals exact ⟨.char _, by simp [textParts, shortEscape?, h], rfl⟩

/-- A quoted text is read up to its own closing quote. -/
theorem text_quoted (s : String) (rest : List Char) :
    text (s.toList.flatMap escape ++ '"' :: rest) = some (.text s, rest) := by
  have hparts (cs : List Char) : ∃ parts,
      textParts (cs.flatMap escape ++ '"' :: rest) = some (parts, rest) ∧
        joinParts parts = some cs := by
    induction cs with
    | nil => exact ⟨[], rfl, rfl⟩
    | cons c cs ih =>
      obtain ⟨parts, hread, hjoin⟩ := ih
      obtain ⟨part, hread', hjoin'⟩ := textParts_escape c hread
      refine ⟨part :: parts, ?_, ?_⟩
      · rw [List.flatMap_cons, List.append_assoc]
        exact hread'
      · rw [hjoin', hjoin, Option.map_some]
  obtain ⟨parts, hread, hjoin⟩ := hparts s.toList
  simp [text, hread, hjoin]

/-- Cuts characters at the quoted texts in them: into what stands before the first one, and each of
them with what stands behind it. -/
def cutWithin : Nat → List Char → Option (List Char × List (String × List Char))
  | _, [] => some ([], [])
  | 0, _ :: _ => none
  | fuel + 1, c :: cs =>
    if c = '"' then
      match text cs with
      | some (.text s, rest) => do
        let (behind, found) ← cutWithin fuel rest
        return ([], (s, behind) :: found)
      | _ => none
    else do
      let (front, found) ← cutWithin fuel cs
      return (c :: front, found)

def Cuts (cs front : List Char) (found : List (String × List Char)) : Prop :=
  ∀ fuel, cs.length ≤ fuel → cutWithin fuel cs = some (front, found)

namespace Cuts

variable {cs front behind : List Char} {found : List (String × List Char)}

theorem nil : Cuts [] [] [] := by
  intro fuel _
  cases fuel <;> rfl

theorem cons {c : Char} (hc : c ≠ '"') (h : Cuts cs front found) :
    Cuts (c :: cs) (c :: front) found := by
  intro fuel hfuel
  cases fuel with
  | zero => simp at hfuel
  | succ fuel =>
    rw [cutWithin, if_neg hc, h fuel (by simpa using hfuel)]
    rfl

theorem plain (hfront : '"' ∉ front) (h : Cuts cs behind found) :
    Cuts (front ++ cs) (front ++ behind) found := by
  induction front with
  | nil => exact h
  | cons c front ih =>
    rw [List.mem_cons, not_or] at hfront
    exact (ih hfront.2).cons fun hc => hfront.1 hc.symm

theorem quoted (s : String) (h : Cuts cs behind found) :
    Cuts ((quote s).toList ++ cs) [] ((s, behind) :: found) := by
  have hchars : (quote s).toList ++ cs = '"' :: (s.toList.flatMap escape ++ '"' :: cs) := by
    simp [quote, quoteChars]
  intro fuel hfuel
  rw [hchars] at hfuel ⊢
  cases fuel with
  | zero => simp at hfuel
  | succ fuel =>
    have hrest : cs.length ≤ fuel := by
      simp only [List.length_cons, List.length_append] at hfuel
      omega
    rw [cutWithin, if_pos rfl, text_quoted]
    dsimp only
    rw [h fuel hrest]
    rfl

end Cuts

def cut (s : String) : Option (String × List (String × String)) :=
  (cutWithin s.toList.length s.toList).map fun (front, found) =>
    (String.ofList front, found.map fun (literal, behind) => (literal, String.ofList behind))

end Json

namespace Cel

theorem quotedList_singleton (separator s : String) :
    quotedList separator [s] = Json.quote s := by
  simp [quotedList]

/-- A text that is fixed but for literals in the middle of it. -/
structure Frame where
  opening : String
  separator : String := ""
  closing : String
  plain : '"' ∉ opening.toList ∧ '"' ∉ separator.toList ∧ '"' ∉ closing.toList := by
    decide +kernel

namespace Frame

def fill (frame : Frame) (literals : List String) : String :=
  frame.opening ++ quotedList frame.separator literals ++ frame.closing

/-- The literals with the fixed text behind each. -/
def cut (frame : Frame) : List String → List (String × String)
  | [] => []
  | [s] => [(s, frame.closing)]
  | s :: t :: literals => (s, frame.separator) :: cut frame (t :: literals)

theorem map_fst_cut (frame : Frame) (literals : List String) :
    (frame.cut literals).map Prod.fst = literals := by
  fun_induction cut frame literals with
  | case1 => rfl
  | case2 s => rfl
  | case3 s t literals ih => rw [List.map_cons, ih]

theorem cuts_quotedList (frame : Frame) (s : String) (literals : List String) :
    Json.Cuts ((quotedList frame.separator (s :: literals)).toList ++ frame.closing.toList) []
      ((frame.cut (s :: literals)).map fun (literal, behind) => (literal, behind.toList)) := by
  -- Behind the last literal there is the closing, behind every other one a separator.
  induction literals generalizing s with
  | nil =>
    have hclosing : Json.Cuts (frame.closing.toList ++ []) (frame.closing.toList ++ []) [] :=
      Json.Cuts.nil.plain frame.plain.2.2
    rw [List.append_nil] at hclosing
    simpa [quotedList, cut] using hclosing.quoted s
  | cons t literals ih =>
    have hrest := ((ih t).plain frame.plain.2.1).quoted s
    rw [List.append_nil] at hrest
    simpa [quotedList, cut] using hrest

/-- The literals that a text is filled with are found where they were put. -/
theorem cut_fill (frame : Frame) {literals : List String} (hne : literals ≠ []) :
    Json.cut (frame.fill literals) = some (frame.opening, frame.cut literals) := by
  obtain ⟨s, literals, rfl⟩ := List.exists_cons_of_ne_nil hne
  have hcuts := (frame.cuts_quotedList s literals).plain frame.plain.1
  have hchars : (frame.fill (s :: literals)).toList = frame.opening.toList ++
      ((quotedList frame.separator (s :: literals)).toList ++ frame.closing.toList) := by
    simp [fill]
  rw [← hchars, List.append_nil] at hcuts
  rw [Json.cut, hcuts _ (Nat.le_refl _)]
  simp [Function.comp_def]

theorem fill_injective (frame : Frame) {literals literals' : List String} (hne : literals ≠ [])
    (hne' : literals' ≠ []) (h : frame.fill literals = frame.fill literals') :
    literals = literals' := by
  have hcut : frame.cut literals = frame.cut literals' := by
    have hboth := frame.cut_fill hne
    rw [h, frame.cut_fill hne'] at hboth
    exact (Prod.mk.inj (Option.some.inj hboth)).2.symm
  rw [← frame.map_fst_cut literals, hcut, frame.map_fst_cut]

end Frame

def Frame.table : List ((Topic × Operator) × Frame) :=
  [((.namespaceName, .containsAny), {
      opening := "has(object.metadata.namespace) && !(object.metadata.namespace in ["
      separator := ", "
      closing := "])\n" }),
    ((.namespaceName, .notContainsAny), {
      opening := "has(object.metadata.namespace) && (object.metadata.namespace in ["
      separator := ", "
      closing := "])\n" }),
    ((.user, .containsAny), {
      opening := "!(["
      separator := ","
      closing := "].exists(p, request.userInfo.username.matches(p)))" }),
    ((.user, .notContainsAny), {
      opening := "["
      separator := ","
      closing := "].exists(p, request.userInfo.username.matches(p))" }),
    ((.user, .matching), {
      opening := "!request.userInfo.username.matches("
      closing := ")" }),
    ((.user, .notMatching), {
      opening := "request.userInfo.username.matches("
      closing := ")" }),
    ((.userGroups, .containsAny), {
      opening := "!request.userInfo.groups.exists(g, ["
      separator := ","
      closing := "].exists(p, g.matches(p)))" }),
    ((.userGroups, .containsAll), {
      opening := "!["
      separator := ","
      closing := "].all(p, request.userInfo.groups.exists(g, g.matches(p)))" }),
    ((.userGroups, .notContainsAny), {
      opening := "request.userInfo.groups.exists(g, ["
      separator := ","
      closing := "].exists(p, g.matches(p)))" }),
    ((.userGroups, .containsOtherThan), {
      opening := "request.userInfo.groups.all(g, ["
      separator := ","
      closing := "].exists(p, g.matches(p)))" }),
    ((.userGroups, .matching), {
      opening := "!request.userInfo.groups.exists(g, g.matches("
      closing := "))" }),
    ((.userGroups, .notMatching), {
      opening := "request.userInfo.groups.exists(g, g.matches("
      closing := "))" })]

def Frame.of? (topic : Topic) (operator : Operator) : Option Frame :=
  table.lookup (topic, operator)

end Cel

namespace Criterion

/-- What is fixed in the text of the condition for the criterion, which its name and its operator
decide. -/
def frame? (c : Criterion) : Option Cel.Frame := do
  Cel.Frame.of? (← Topic.ofName? c.name) (← Operator.ofText? c.operator)

def literals (c : Criterion) : List String :=
  if c.name = "namespace" then c.items
  else if c.operator ∈ ["regex", "!regex"] then [Text.trim c.value]
  else c.items.map Pattern.ofWildcard

theorem frame?_eq {c : Criterion} {topic : Topic} {operator : Operator}
    (htopic : c.topic? = some topic) (hoperator : Operator.ofText? c.operator = some operator) :
    c.frame? = Cel.Frame.of? topic operator := by
  change c.topic?.bind (fun topic => (Operator.ofText? c.operator).bind _) = _
  rw [htopic, hoperator]
  rfl

/-- The literals of a criterion whose operator is about a list. -/
theorem literals_eq_patterns {c : Criterion} {operator : Operator} (hname : c.name ≠ "namespace")
    (hoperator : Operator.ofText? c.operator = some operator)
    (hlist : operator.text ∉ ["regex", "!regex"]) : c.literals = c.patterns := by
  rw [Operator.text_of_ofText? hoperator] at hlist
  rw [literals, if_neg hname, if_neg hlist]
  rfl

/-- The literal of a criterion whose operator is about one pattern. -/
theorem literals_eq_value {c : Criterion} {operator : Operator} (hname : c.name ≠ "namespace")
    (hoperator : Operator.ofText? c.operator = some operator)
    (hvalue : operator.text ∈ ["regex", "!regex"]) : c.literals = [Text.trim c.value] := by
  rw [Operator.text_of_ofText? hoperator] at hvalue
  rw [literals, if_neg hname, if_pos hvalue]

end Criterion

namespace Settings.Validation

open Cel Cel.Expression

variable {c : Criterion} {v : Validation}

/-- The text of the condition is the one that is fixed for the criterion, with its literals in it. -/
def Fills (c : Criterion) (v : Validation) : Prop :=
  ∃ frame, c.frame? = some frame ∧ c.literals ≠ [] ∧
    v.asBlock v.condition.render = frame.fill c.literals

theorem patterns_ne_nil [Pattern.Engine]
    {make : List String × List String → Except SettingsFault Validation}
    (h : patterns c >>= make = .ok v) : c.patterns ≠ [] := by
  obtain ⟨found, hfound, -⟩ := bind_eq_ok.1 h
  have hne := (succeeds_patterns.1 ⟨found, hfound⟩).1
  exact fun hnil => hne (List.map_eq_nil_iff.1 hnil)

theorem fills_of_ofNamespace (htopic : c.topic? = some .namespaceName)
    (h : ofNamespace c = .ok v) : Fills c v := by
  obtain ⟨found, hfound, h⟩ := bind_eq_ok.1 h
  obtain ⟨rfl, hne⟩ := items_eq_ok_iff.1 hfound
  have hliterals : c.literals = c.items := if_pos (Criterion.topic?_eq_some_iff.1 htopic)
  unfold Fills
  rw [hliterals]
  dsimp only at h
  split at h
  case h_3 => cases h
  all_goals
    rename_i hoperator
    cases h
    refine ⟨_, Criterion.frame?_eq htopic hoperator, hne, String.toList_injective ?_⟩
    simp [Frame.fill, asBlock, render_conjunction, render_negation, render_parenthesized,
      render_hasNamespace, render_namespaceIn]

variable [Pattern.Engine]

theorem fills_of_ofUser (htopic : c.topic? = some .user) (h : ofUser c = .ok v) : Fills c v := by
  have hname : c.name ≠ "namespace" := by
    rw [Criterion.topic?_eq_some_iff.1 htopic]
    decide
  unfold ofUser at h
  unfold Fills
  split at h
  case h_5 => cases h
  case h_1 hoperator | h_2 hoperator =>
    rw [Criterion.literals_eq_patterns hname hoperator (by decide)]
    have hne := patterns_ne_nil h
    cases ok_of_patterns h
    refine ⟨_, Criterion.frame?_eq htopic hoperator, hne, String.toList_injective ?_⟩
    simp [Frame.fill, asBlock, someMatch, render_negation, render_parenthesized, render_exist,
      render_matching, Collection.render, Term.render, Var.name]
  case h_3 hoperator | h_4 hoperator =>
    rw [Criterion.literals_eq_value hname hoperator (by decide)]
    cases ok_of_pattern h
    refine ⟨_, Criterion.frame?_eq htopic hoperator, List.cons_ne_nil _ _,
      String.toList_injective ?_⟩
    simp [Frame.fill, quotedList_singleton, asBlock, render_negation, render_matching, Term.render]

theorem fills_of_ofGroups (htopic : c.topic? = some .userGroups) (h : ofGroups c = .ok v) :
    Fills c v := by
  have hname : c.name ≠ "namespace" := by
    rw [Criterion.topic?_eq_some_iff.1 htopic]
    decide
  unfold ofGroups at h
  unfold Fills
  split at h
  case h_7 => cases h
  case h_1 hoperator | h_2 hoperator | h_3 hoperator | h_4 hoperator =>
    rw [Criterion.literals_eq_patterns hname hoperator (by decide)]
    have hne := patterns_ne_nil h
    cases ok_of_patterns h
    refine ⟨_, Criterion.frame?_eq htopic hoperator, hne, String.toList_injective ?_⟩
    simp [Frame.fill, asBlock, someMatch, someGroup, render_negation, render_exist, render_all,
      render_matching, Collection.render, Term.render, Var.name]
  case h_5 hoperator | h_6 hoperator =>
    rw [Criterion.literals_eq_value hname hoperator (by decide)]
    cases ok_of_pattern h
    refine ⟨_, Criterion.frame?_eq htopic hoperator, List.cons_ne_nil _ _,
      String.toList_injective ?_⟩
    simp [Frame.fill, quotedList_singleton, asBlock, someGroup, render_negation, render_exist,
      render_matching, Collection.render, Term.render, Var.name]

theorem fills_of_ofCriterion (h : ofCriterion c = .ok v) : Fills c v := by
  unfold ofCriterion at h
  split at h
  · next htopic => exact fills_of_ofNamespace htopic h
  · next htopic => exact fills_of_ofUser htopic h
  · next htopic => exact fills_of_ofGroups htopic h
  · cases h

end Settings.Validation

open Settings in
/-- The entry for a criterion that is accepted has a text that fills the frame of the criterion. -/
theorem Criterion.exists_expression [Pattern.Engine] {c : Criterion}
    (h : Succeeds (Validation.ofCriterion c)) :
    ∃ frame, c.frame? = some frame ∧ c.literals ≠ [] ∧
      c.validation.get? "expression" = some (.text (frame.fill c.literals)) := by
  obtain ⟨v, hv⟩ := h
  obtain ⟨frame, hframe, hne, htext⟩ := Validation.fills_of_ofCriterion hv
  refine ⟨frame, hframe, hne, ?_⟩
  rw [Criterion.validation, hv, ← htext]
  rfl

open Settings in
/-- Every criterion that conditions are made for has a text of its own among them. That text is the
frame for the name and the operator, and the literals of the criterion quoted in it. Read as JSON
texts, the literals end where they were closed, with the frame around them, and are what was quoted.
So a criterion of the same name and operator with the same text has the same literals. -/
theorem Module.literals_of_conditions [Pattern.Engine] {source : ScanSource}
    {criteria : List Criterion}
    {settings : Tree} (h : Module.cel.settings source criteria = .ok settings) :
    settings.get? "validations" = some (.list (criteria.map Criterion.validation)) ∧
    ∀ c ∈ criteria,
      (∃ frame text, c.frame? = some frame ∧
        c.validation.get? "expression" = some (.text text) ∧ text = frame.fill c.literals ∧
        Json.cut text = some (frame.opening, frame.cut c.literals) ∧
        (frame.cut c.literals).map Prod.fst = c.literals) ∧
      ∀ d, Succeeds (Module.cel.settings source [d]) → d.name = c.name → d.operator = c.operator →
        d.validation.get? "expression" = c.validation.get? "expression" →
        d.literals = c.literals := by
  obtain ⟨-, hall, rfl⟩ := Module.settings_cel_eq_ok.1 h
  refine ⟨rfl, fun c hc => ?_⟩
  obtain ⟨frame, hframe, hne, htext⟩ := Criterion.exists_expression (hall c hc)
  refine ⟨⟨frame, _, hframe, htext, rfl, frame.cut_fill hne, frame.map_fst_cut _⟩, ?_⟩
  rintro d ⟨settings, hd⟩ hname hoperator hsame
  have haccepted := (Module.settings_cel_eq_ok.1 hd).2.1 d (by simp)
  obtain ⟨frame', hframe', hne', htext'⟩ := Criterion.exists_expression haccepted
  -- The frame is a matter of the name and the operator alone.
  have hframes : d.frame? = c.frame? := by
    unfold Criterion.frame?
    rw [hname, hoperator]
  rw [hframe, hframe', Option.some.injEq] at hframes
  subst hframes
  rw [htext, htext', Option.some.injEq, Tree.text.injEq] at hsame
  exact frame'.fill_injective hne' hne hsame

/-- Values that would end their literals if they could. -/
def Criterion.hostile : List Criterion :=
  [{ name := "namespace", operator := "containsAny", value := "a\"]) || true || (\"b, \\, é\x07" },
    { name := "user", operator := "notContainsAny", value := "\"] || [\"x\"], al\x01*" },
    { name := "userGroups", operator := "!regex", value := " (\")|(g.matches(\"\\\\\"))\n" }]

theorem Module.literals_of_hostile :
    Criterion.hostile.map Criterion.literals =
      [["a\"]) || true || (\"b", "\\", "é\x07"], ["^\"] || [\"x\"]$", "^al\x01.*$"],
        ["(\")|(g.matches(\"\\\\\"))"]] ∧
    ∃ settings, Module.cel.settings ⟨"sbomscanner", "amd64"⟩ Criterion.hostile = .ok settings ∧
      ∀ c ∈ Criterion.hostile, ∃ text, c.validation.get? "expression" = some (.text text) ∧
        (Json.cut text).map (fun found => found.2.map Prod.fst) = some c.literals := by
  refine ⟨by decide +kernel, ?_⟩
  have hsettings :
      Succeeds (Module.cel.settings ⟨"sbomscanner", "amd64"⟩ Criterion.hostile) := by
    decide +kernel
  obtain ⟨settings, hsettings⟩ := hsettings
  refine ⟨settings, hsettings, fun c hc => ?_⟩
  obtain ⟨frame, text, -, htext, -, hcut, hliterals⟩ :=
    ((Module.literals_of_conditions hsettings).2 c hc).1
  exact ⟨text, htext, by rw [hcut, Option.map_some, hliterals]⟩

end Admission
